/-
The store that tells of each operation, and its inner store.

* **`Traced.Erases`** — one trace is what is left of another once what the tracing has added
  is taken away;
* **`Traced.erase`** — takes it away, where the rest of a trace has nothing of the kind;
* **`Traced.run_eq`**, **`Traced.erases_run`** — any dialogue has the same value and leaves
  the same state with the traced store and with its inner store, and its trace erases to the
  other;
* **`Traced.plain_engineStore`** — no engine tells anything that the tracing might have added;
* **`traced_store_transparent`** — the same of whole sessions, with the calls that the inner
  store has seen.

Design notes: a trace knows a span by its name only.  An inner store may open spans of the
same names itself, so that `Erases` says which notices are to go, and `erase`, which takes all
of them away, gives the other trace only if that one has none.
-/
import AccountRegistry.Proofs.Store.Agreement

namespace AccountRegistry

namespace Traced

/-- The names of the spans of operations. -/
def spanNames : List String := ["add_user", "generate_account_id", "get_user"]

/-- The messages of the events that tell of a failure. -/
def failureMessages : List String := ["duplicate key", "user store operation failed"]

/-- Whether a notice is of the kind that the tracing adds: the span of an operation, a field
recorded on it, or the event of a failure. -/
def isAdded : Notice → Bool
  | .span name _ => spanNames.contains name
  | .record name _ => spanNames.contains name
  | .event e => e.target == target && failureMessages.contains e.message
  | .wait _ => false

/-- The notice as seen outside of the spans of operations. -/
def outside : Notice → Notice
  | .event e => .event { e with scope := e.scope.filter fun name => !spanNames.contains name }
  | n => n

/-- A trace without what the tracing adds. -/
def erase (ns : List Notice) : List Notice :=
  (ns.filter fun n => !isAdded n).map outside

/-- `Erases ts ns`: the trace `ns` is what is left of `ts` when some notices of the kind that
the tracing adds are taken away and others leave the span of an operation. -/
inductive Erases : List Notice → List Notice → Prop
  | nil : Erases [] []
  | added {n : Notice} {ts ns : List Notice} (hn : isAdded n = true) (h : Erases ts ns) :
      Erases (n :: ts) ns
  | same (n : Notice) {ts ns : List Notice} (h : Erases ts ns) : Erases (n :: ts) (n :: ns)
  | leaves (q : StoreCall) (n : Notice) {ts ns : List Notice} (h : Erases ts ns) :
      Erases (n.within (spanName q) :: ts) (n :: ns)

/-- Whether a notice has nothing of what the tracing adds. -/
structure Plain (n : Notice) : Prop where
  notAdded : isAdded n = false
  outside_eq : outside n = n

/-! ### Erasing -/

theorem Erases.append {ts ts' ns ns' : List Notice} (h : Erases ts ns) (h' : Erases ts' ns') :
    Erases (ts ++ ts') (ns ++ ns') := by
  induction h with
  | nil => exact h'
  | added hn _ ih => exact .added hn ih
  | same n _ ih => exact .same n ih
  | leaves q n _ ih => exact .leaves q n ih

/-- Notices that the tracing has added leave nothing behind. -/
theorem erases_nil {ts : List Notice} (h : ∀ n ∈ ts, isAdded n = true) : Erases ts [] := by
  induction ts with
  | nil => exact .nil
  | cons n ts ih =>
    obtain ⟨hn, hts⟩ := List.forall_mem_cons.mp h
    exact .added hn (ih hts)

/-- Notices inside of a span leave it. -/
theorem erases_within (q : StoreCall) (ns : List Notice) :
    Erases (ns.map (·.within (spanName q))) ns := by
  induction ns with
  | nil => exact .nil
  | cons n ns ih => exact .leaves q n ih

theorem spanName_mem (q : StoreCall) : spanNames.contains (spanName q) = true := by
  cases q <;> rfl

theorem isAdded_within (name : String) (n : Notice) : isAdded (n.within name) = isAdded n := by
  cases n <;> rfl

/-- To leave the span of an operation is to be as one was outside. -/
theorem outside_within (q : StoreCall) (n : Notice) :
    outside (n.within (spanName q)) = outside n := by
  cases n with
  | event e =>
    obtain ⟨level, target, message, fields, scope⟩ := e
    cases scope with
    | none => simp only [Notice.within, outside, Option.none_or, Option.filter_some, spanName_mem,
        Bool.not_true, Bool.false_eq_true, if_false, Option.filter_none]
    | some name => rfl
  | span name fields => rfl
  | record name fields => rfl
  | wait d => rfl

theorem erase_append (ns ns' : List Notice) : erase (ns ++ ns') = erase ns ++ erase ns' := by
  rw [erase, List.filter_append, List.map_append]
  rfl

theorem erase_cons_of_added {n : Notice} (h : isAdded n = true) (ns : List Notice) :
    erase (n :: ns) = erase ns := by
  rw [erase, List.filter_cons_of_neg (by rw [h]; exact Bool.false_ne_true)]
  rfl

/-- What one trace erases to cannot be told from it once all is erased. -/
theorem Erases.erase_eq {ts ns : List Notice} (h : Erases ts ns) : erase ts = erase ns := by
  induction h with
  | nil => rfl
  | added hn _ ih => rw [erase_cons_of_added hn, ih]
  | same n _ ih =>
    rw [← List.singleton_append, erase_append, ih, ← erase_append, List.singleton_append]
  | leaves q n _ ih =>
    have hhead : erase [n.within (spanName q)] = erase [n] := by
      cases hn : isAdded n with
      | true => rw [erase_cons_of_added hn, erase_cons_of_added (isAdded_within _ n ▸ hn)]
      | false => simp [erase, isAdded_within, hn, outside_within]
    rw [← List.singleton_append, erase_append, ih, hhead, ← erase_append, List.singleton_append]

/-- A trace without anything that the tracing adds is left as it is. -/
theorem erase_eq_self {ns : List Notice} (h : ∀ n ∈ ns, Plain n) : erase ns = ns := by
  induction ns with
  | nil => rfl
  | cons n ns ih =>
    obtain ⟨hn, hns⟩ := List.forall_mem_cons.mp h
    have hhead : erase [n] = [n] := by simp [erase, hn.notAdded, hn.outside_eq]
    rw [← List.singleton_append, erase_append, hhead, ih hns]

/-! ### Runs -/

section Runs

variable {σ α : Type} (inner : Store σ) (system : String)

theorem isAdded_outcome (q : StoreCall) (a : StoreCall.interface.Answer q) :
    ∀ n ∈ outcome q a, isAdded n = true := by
  have hrecord (q : StoreCall) (fields : Fields) :
      ∀ n ∈ [Notice.record (spanName q) fields], isAdded n = true := by
    intro n hn
    rw [List.mem_singleton.mp hn]
    exact spanName_mem q
  cases q with
  | add u =>
    cases a with
    | ok _ => exact hrecord (.add u) _
    | error e => exact hrecord (.add u) _
  | generate =>
    cases a with
    | ok id => exact hrecord .generate _
    | error e => exact List.forall_mem_nil _
  | get username =>
    cases a with
    | ok found => exact hrecord (.get username) _
    | error e => exact List.forall_mem_nil _

theorem isAdded_failure (q : StoreCall) (e : Option StoreError) :
    ∀ n ∈ failure (spanName q) e, isAdded n = true := by
  cases e with
  | none => simp [failure]
  | some e =>
    have hevent : isAdded (.event (failureEvent (spanName q) e)) = true := by
      cases e <;> rfl
    intro n hn
    simp only [failure, List.mem_cons, List.not_mem_nil, or_false] at hn
    obtain rfl | rfl := hn
    · exact spanName_mem q
    · exact hevent

/-- **A call of the traced store** tells what the inner store tells, inside of a span that
the tracing adds together with what follows. -/
theorem erases_call (q : StoreCall) (s : σ) :
    Erases (inner.traced system q s).notices (inner q s).notices := by
  have hspan : isAdded (.span (spanName q) (spanFields system q)) = true := spanName_mem q
  have htail : ∀ n ∈ outcome q (inner q s).value ++
      failure (spanName q) (errorOf q (inner q s).value), isAdded n = true := by
    rw [List.forall_mem_append]
    exact ⟨isAdded_outcome q _, isAdded_failure q _⟩
  have hrest := (erases_within q (inner q s).notices).append (erases_nil htail)
  rw [List.append_nil] at hrest
  exact .added hspan hrest

/-- A dialogue has the same value with the traced store, and leaves the same state. -/
theorem run_eq (d : Dialogue StoreCall.interface α) (s : σ) :
    (d.run (inner.traced system) s).value = (d.run inner s).value ∧
      (d.run (inner.traced system) s).state = (d.run inner s).state :=
  Dialogue.run_simulates (R := Eq) (C := fun _ => True)
    (fun _ _ _ h _ => h ▸ ⟨rfl, rfl⟩) d rfl fun _ _ => trivial

/-- **The trace of a dialogue with the traced store** erases to its trace with the inner
store. -/
theorem erases_run (d : Dialogue StoreCall.interface α) (s : σ) :
    Erases (d.run (inner.traced system) s).notices (d.run inner s).notices := by
  induction d generalizing s with
  | done a => exact .nil
  | note n d ih => exact .same n (ih s)
  | ask q k ih => exact (erases_call inner system q s).append (ih _ _)

end Runs

end Traced

/-! ### What the engines tell -/

namespace Traced

/-- An event from elsewhere, outside of all spans, has nothing of what the tracing adds. -/
theorem plain_event {level : Level} {t : String} (message : String) (fields : Fields)
    (ht : (t == target) = false) :
    Plain (.event { level, target := t, message, fields }) := by
  refine ⟨?_, rfl⟩
  rw [isAdded, ht, Bool.false_and]

theorem tells_attempts (policy : RetryPolicy) (left attempt : Nat) :
    (policy.attempts left attempt).Tells Plain := by
  have hpause : ∀ {α : Type} (d : Duration) (next : Dialogue Trial.interface α),
      next.Tells Plain → (RetryPolicy.pause d next).Tells Plain := by
    intro α d next hnext
    unfold RetryPolicy.pause
    split
    · exact hnext
    · exact ⟨⟨rfl, rfl⟩, hnext⟩
  induction left generalizing attempt with
  | zero => exact ⟨plain_event _ _ (by decide), trivial⟩
  | succ left ih =>
    intro candidate answer
    cases answer with
    | error e => trivial
    | ok taken =>
      cases taken with
      | false => exact ⟨plain_event _ _ (by decide), trivial⟩
      | true =>
        refine ⟨plain_event _ _ (by decide), ?_⟩
        split
        · exact ih (attempt + 1)
        · exact hpause _ _ (ih (attempt + 1))

theorem tells_rounds (p : Profile) (total left attempt : Nat) :
    (Service.rounds p total left attempt).Tells Plain := by
  induction left generalizing attempt with
  | zero => trivial
  | succ left ih =>
    intro generated
    cases generated with
    | error e => trivial
    | ok id =>
      intro added
      match added with
      | .ok () => exact ⟨plain_event _ _ (by decide), trivial⟩
      | .error (.duplicate .accountId) => exact ⟨plain_event _ _ (by decide), ih (attempt + 1)⟩
      | .error (.duplicate .username) => trivial
      | .error (.duplicate .unknown) => trivial
      | .error (.connection _) => trivial
      | .error (.query _) => trivial
      | .error (.exhausted _) => trivial
      | .error (.invalidId _) => trivial

theorem tells_request (attempts : Nat) (q : Request) : (q.dialogue attempts).Tells Plain := by
  cases q with
  | register p => exact (tells_rounds p _ _ 1).bind fun _ => trivial
  | add u => exact fun _ => trivial
  | get username => exact fun _ => trivial
  | generate => exact fun _ => trivial
  | lookup username => exact fun _ => trivial

theorem tells_memoryCall (policy : RetryPolicy) (q : StoreCall) :
    (MemoryStore.call policy q).Tells Plain := by
  cases q with
  | add u =>
    intro inserted
    cases inserted with
    | ok _ => exact ⟨plain_event _ _ (by decide), trivial⟩
    | error key => trivial
  | generate =>
    refine (tells_attempts policy policy.bound 1).via fun q => ?_
    cases q with
    | draw => exact fun _ => trivial
    | check id => exact fun _ => trivial
  | get username => exact fun found => ⟨plain_event _ _ (by decide), trivial⟩

theorem tells_sqlCall {dialect : SqlDialect} (hd : (dialect.target == target) = false)
    (policy : RetryPolicy) (q : StoreCall) : (SqlStore.call dialect policy q).Tells Plain := by
  have hperform : ∀ st, (SqlStore.perform st).Tells Plain := by
    intro st acquired
    cases acquired with
    | error e => trivial
    | ok _ => exact fun _ => trivial
  cases q with
  | add u =>
    have hinsert : ((SqlStore.perform (.insert u)).bind (SqlStore.finishAdd dialect u)).Tells
        Plain := by
      refine (hperform _).bind fun r => ?_
      cases r with
      | error e => trivial
      | ok _ => exact ⟨plain_event _ _ hd, trivial⟩
    rw [SqlStore.call]
    split
    · exact ⟨plain_event _ _ hd, hinsert⟩
    · exact hinsert
  | generate =>
    intro acquired
    cases acquired with
    | error e => trivial
    | ok _ =>
      refine (tells_attempts policy policy.bound 1).via fun q => ?_
      cases q with
      | draw => exact fun _ => trivial
      | check id => exact fun _ => trivial
  | get username =>
    refine (hperform _).bind fun r => ?_
    unfold SqlStore.finishGet
    split
    · exact ⟨plain_event _ _ hd, trivial⟩
    · trivial

theorem notices_memoryStep (q : MemoryStep) (s : MemoryState) :
    (MemoryStore.step q s).notices = [] := by
  cases q with
  | draw => rfl
  | taken id => rfl
  | insert u =>
    rw [MemoryStore.step]
    split <;> rfl
  | find username => rfl

theorem notices_sqliteStep (q : SqlStep) (s : SqliteState) :
    (SqlitePool.respond q s).notices = [] := by
  cases q with
  | draw => rfl
  | acquire => rfl
  | perform st =>
    rw [SqlitePool.respond, SqlitePool.perform]
    split
    · rfl
    · split <;> rfl

theorem notices_volatileStep (q : SqlStep) (s : VolatileState) :
    (VolatilePool.respond q s).notices = [] := by
  cases q with
  | draw => rfl
  | acquire =>
    rw [VolatilePool.respond]
    split <;> rfl
  | perform st =>
    rw [VolatilePool.respond, VolatilePool.perform]
    dsimp only
    split <;> rfl

theorem notices_logIn (s : MySqlState) : (MySqlPool.logIn s).notices = [] := by
  rw [MySqlPool.logIn]
  split
  · rfl
  · split <;> rfl

theorem notices_mySqlStep (q : SqlStep) (s : MySqlState) :
    (MySqlPool.respond q s).notices = [] := by
  cases q with
  | draw => rfl
  | acquire =>
    rw [MySqlPool.respond, MySqlPool.connect]
    repeat' split
    all_goals first | rfl | exact notices_logIn _
  | perform st =>
    rw [MySqlPool.respond, MySqlPool.perform]
    simp only
    repeat' split
    all_goals rfl

/-- What a run tells is plain if its dialogue tells nothing else and the answers nothing. -/
theorem plain_run {I : Interface} {σ α : Type} {r : Responder I σ}
    (hr : ∀ q s, (r q s).notices = []) {d : Dialogue I α} (hd : d.Tells Plain) (s : σ) :
    ∀ n ∈ (d.run r s).notices, Plain n := by
  refine Dialogue.notices_run (fun q s n hn => ?_) hd s
  rw [hr q s] at hn
  cases hn

/-- **No engine tells anything that the tracing might have added.** -/
theorem plain_engineStore (policy : RetryPolicy) (q : StoreCall) (s : Session) :
    ∀ n ∈ (engineStore policy q s).notices, Plain n := by
  have hsqlite : (SqlitePool.dialect.target == target) = false := by decide
  have hmysql : (MySqlPool.dialect.target == target) = false := by decide
  obtain ⟨w, engine⟩ := s
  cases engine with
  | memory t => exact plain_run notices_memoryStep (tells_memoryCall policy q) ⟨t, w.source⟩
  | sqlite pool =>
    exact plain_run notices_sqliteStep (tells_sqlCall hsqlite policy q) ⟨w.files, pool, w.source⟩
  | volatile pool =>
    exact plain_run notices_volatileStep (tells_sqlCall hsqlite policy q) ⟨pool, w.source⟩
  | mysql pool server seen =>
    exact plain_run notices_mySqlStep (tells_sqlCall hmysql policy q)
      ⟨pool, server, w.source, seen⟩

end Traced

/-! ### Sessions -/

/-- The store that keeps the calls that it gets, the latest first. -/
def Store.logged {σ : Type} (inner : Store σ) : Store (σ × List StoreCall) :=
  fun q s =>
    let o := inner q s.1
    ⟨o.value, (o.state, q :: s.2), o.notices⟩

/-- Several requests one after the other, with the answer to each. -/
def Request.session (attempts : Nat) : List Request → Dialogue StoreCall.interface (List Answer)
  | [] => .done []
  | q :: qs =>
    (q.dialogue attempts).bind fun a =>
      (session attempts qs).bind fun answers => .done (a :: answers)

theorem Request.tells_session (attempts : Nat) (qs : List Request) :
    (session attempts qs).Tells Traced.Plain := by
  induction qs with
  | nil => trivial
  | cons q qs ih => exact (Traced.tells_request attempts q).bind fun _ => ih.bind fun _ => trivial

/-- **Tracing is transparent.**  With the traced store a session gets the same answers, leaves
the same state, and makes the same calls on the inner store.  Its trace erases to the trace of
the session with the inner store: notices of the kind that the tracing adds are taken away,
and the others leave the spans of the operations.  If the inner store has told nothing of that
kind itself, as none of the engines does, all of it can be taken away. -/
theorem traced_store_transparent {σ : Type} (inner : Store σ) (system : String) (s : σ)
    (attempts : Nat) (qs : List Request) :
    let session := Request.session attempts qs
    let traced := session.run (inner.traced system) s
    let plain := session.run inner s
    traced.value = plain.value ∧ traced.state = plain.state ∧
    (session.run (inner.logged.traced system) (s, [])).state.2 =
      (session.run inner.logged (s, [])).state.2 ∧
    Traced.Erases traced.notices plain.notices ∧
    ((∀ n ∈ plain.notices, Traced.Plain n) → Traced.erase traced.notices = plain.notices) ∧
    ∀ (o : StoreOptions) (w : Session),
      Traced.erase (session.run (storeOf { o with traced := true } system) w).notices =
        (session.run (storeOf { o with traced := false } system) w).notices := by
  intro session traced plain
  obtain ⟨hvalue, hstate⟩ := Traced.run_eq inner system session s
  have hlogged := (Traced.run_eq inner.logged system session (s, [])).2
  have herases := Traced.erases_run inner system session s
  refine ⟨hvalue, hstate, congrArg Prod.snd hlogged, herases, fun hplain => ?_, fun o w => ?_⟩
  · rw [herases.erase_eq, Traced.erase_eq_self hplain]
  · have hengine : ∀ n ∈ (session.run (engineStore o.retry) w).notices, Traced.Plain n :=
      Dialogue.notices_run (Traced.plain_engineStore o.retry) (Request.tells_session attempts qs) w
    exact (Traced.erases_run (engineStore o.retry) system session w).erase_eq.trans
      (Traced.erase_eq_self hengine)

end AccountRegistry
