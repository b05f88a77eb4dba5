/-
The log of generations and registrations, read back.

* **`LogEntry`**, **`logEntries`** — what the events of generators and of the service say, and
  the reader that takes it out of a trace by message and fields;
* **`LogEntry.ofTries`**, **`LogEntry.ofGeneration`**, **`LogEntry.ofCalls`** — what the log of
  some checks, of a generation and of the calls of a registration is to say;
* **`RetryPolicy.logEntries_attempts`** — the attempts of a generation are told of one by one;
* **`Store.Accounted`** — a store whose generations are told of and that tells nothing else of
  the kind; stores whose operations are dialogues of steps are (**`MemoryStore.accounted`**,
  **`SqlStore.accounted`**), and with rivals they still are (**`Store.Accounted.racing`**);
* **`Store.Accounted.logEntries_rounds`** — the log of a registration, round by round;
* **`log_accounts_for_candidates`** — all of this for both stores, with rivals and in any state.

Design notes: which checks a generation has made is seen in the steps that it has asked for, and
not in what it tells.  The steps may be answered in any way whatever, so that clients that share
the table are accounted for as well.
-/
import AccountRegistry.Proofs.Service
import AccountRegistry.Proofs.Store.TracedStore

namespace AccountRegistry

/-! ### Reading a log -/

/-- What an event of a generator or of the service says. -/
inductive LogEntry where
  /-- A candidate has been checked in the attempt of this number. -/
  | checked (id : String) (attempt : Nat) (taken : Bool)
  /-- A generation has given up. -/
  | exhausted (attempts : Nat)
  /-- An id has been lost in the round of this number. -/
  | lost (id : String) (round : Nat)
  | registered (username id : String)
  deriving DecidableEq

/-- Reads an event, by its message and its fields. -/
def LogEntry.ofEvent (e : Event) : Option LogEntry :=
  match e.message, e.fields with
  | "account id already exists, retrying", [("account_id", .shown id), ("attempt", .count n)] =>
    some (.checked id n true)
  | "account id generated", [("account_id", .shown id), ("attempt", .count n)] =>
    some (.checked id n false)
  | "account id generation exhausted", [("attempts", .count n)] => some (.exhausted n)
  | "account id taken at insert, regenerating",
      [("account_id", .shown id), ("attempt", .count n)] => some (.lost id n)
  | "account registered", [("username", .shown username), ("account_id", .shown id)] =>
    some (.registered username id)
  | _, _ => none

/-- The entries of a log, in its order. -/
def logEntries (ns : List Notice) : List LogEntry :=
  ns.filterMap fun
    | .event e => LogEntry.ofEvent e
    | _ => none

theorem logEntries_append (ns ns' : List Notice) :
    logEntries (ns ++ ns') = logEntries ns ++ logEntries ns' :=
  List.filterMap_append

namespace LogEntry

/-! ### What a log is to say -/

/-- The candidate of an entry, with its attempt and whether it was taken. -/
def candidate? : LogEntry → Option (String × Nat × Bool)
  | .checked id attempt taken => some (id, attempt, taken)
  | _ => none

/-- The username and the id of an account that an entry tells of. -/
def registration? : LogEntry → Option (String × String)
  | .registered username id => some (username, id)
  | _ => none

/-- The entries of some checks, the first of which has the number `attempt`. A check that has
not been answered has none. -/
def ofTries (attempt : Nat) (tries : List (AccountId × Option Bool)) : List LogEntry :=
  (tries.zipIdx attempt).filterMap fun t => t.1.2.map (.checked t.1.1.text t.2)

/-- The entry of a generation that has given up after so many checks. -/
def ofResult (made : Nat) : Except StoreError AccountId → List LogEntry
  | .error (.exhausted _) => [.exhausted made]
  | _ => []

/-- The entries of a generation that has made some checks. -/
def ofGeneration (tries : List (AccountId × Option Bool)) (r : Except StoreError AccountId) :
    List LogEntry :=
  ofTries 1 tries ++ ofResult tries.length r

/-- The entry of an insert in the round `n`. -/
def ofInsert (n : Nat) (u : User) : Except StoreError Unit → List LogEntry
  | .ok () => [.registered u.username u.accountId.text]
  | .error (.duplicate .accountId) => [.lost u.accountId.text n]
  | .error _ => []

/-- The entries of the calls of a registration, when `n` rounds have begun before. A round begins
with a generation. -/
def ofCalls {σ : Type} (S : Store σ) (tries : σ → List (AccountId × Option Bool)) :
    Nat → List (StoreCall × σ) → List LogEntry
  | _, [] => []
  | n, (.generate, s) :: calls =>
    ofGeneration (tries s) (S .generate s).value ++ ofCalls S tries (n + 1) calls
  | n, (.add u, s) :: calls => ofInsert n u (S (.add u) s).value ++ ofCalls S tries n calls
  | n, (.get _, _) :: calls => ofCalls S tries n calls

theorem ofResult_of_ne {made : Nat} {e : StoreError} (h : ∀ n, e ≠ .exhausted n) :
    ofResult made (.error e) = [] := by
  cases e with
  | exhausted n => exact absurd rfl (h n)
  | _ => rfl

end LogEntry

/-! ### Generations -/

namespace RetryPolicy

open LogEntry

/-- The candidate that has been checked, with the answer if there is one. -/
def tried : Exchange Trial.interface → Option (AccountId × Option Bool)
  | ⟨.check c, a⟩ => some (c, a.toOption)
  | _ => none

section Attempts

variable {σ : Type} {r : Responder Trial.interface σ}

/-- With a pause or without, a dialogue goes on alike. -/
theorem run_ite_pause {α : Type} (c : Prop) [Decidable c] (d : Duration)
    (next : Dialogue Trial.interface α) (s : σ) :
    ((if c then next else pause d next).run r s).value = (next.run r s).value ∧
      (if c then next else pause d next).transcript r s = next.transcript r s ∧
      logEntries ((if c then next else pause d next).run r s).notices =
        logEntries (next.run r s).notices := by
  unfold pause
  repeat' split
  all_goals exact ⟨rfl, rfl, rfl⟩

/-- **The attempts of a generation are told of one by one**, if the answers tell nothing of the
kind and no check fails like a generation that gives up. -/
theorem logEntries_attempts (hr : ∀ q s, logEntries (r q s).notices = [])
    (hcheck : ∀ c s n, (r (.check c) s).value ≠ .error (.exhausted n)) (p : RetryPolicy)
    {left attempt : Nat} (hleft : left + attempt = p.bound) (s : σ) :
    logEntries ((p.attempts left (attempt + 1)).run r s).notices =
      ofTries (attempt + 1) (((p.attempts left (attempt + 1)).transcript r s).filterMap tried) ++
        ofResult (attempt + (((p.attempts left (attempt + 1)).transcript r s).filterMap
          tried).length) ((p.attempts left (attempt + 1)).run r s).value := by
  induction left generalizing attempt s with
  | zero =>
    obtain rfl : attempt = p.bound := (Nat.zero_add _).symm.trans hleft
    rfl
  | succ left ih =>
    simp only [attempts, Dialogue.run, Dialogue.transcript, logEntries_append, hr,
      List.nil_append]
    have hanswer := hcheck (r .draw s).value (r .draw s).state
    cases hc : (r (.check (r .draw s).value) (r .draw s).state).value with
    | error e =>
      cases e with
      | exhausted n => exact absurd hc (hanswer n)
      | duplicate key => rfl
      | connection text => rfl
      | query text => rfl
      | invalidId e => rfl
    | ok taken =>
      cases taken with
      | false => rfl
      | true =>
        have hnext : left + (attempt + 1) = p.bound := by omega
        have hrest := ih hnext (r (.check (r .draw s).value) (r .draw s).state).state
        obtain ⟨hvalue, htranscript, hentries⟩ := run_ite_pause (r := r) (left = 0)
          (p.delayAfter (attempt + 1)) (p.attempts left (attempt + 1 + 1))
          (r (.check (r .draw s).value) (r .draw s).state).state
        simp only [Dialogue.run, Dialogue.transcript, hvalue, htranscript]
        show _ :: logEntries _ = _
        rw [hentries, hrest]
        rw [Nat.add_right_comm attempt 1 (List.length _)]
        rfl

end Attempts

end RetryPolicy

/-- The log of a generation whose questions are answered by dialogues with `r`, if those ask and
tell as the attempts do: a check is seen as such, and nothing else is. -/
theorem logEntries_generate_via {J : Interface} {σ : Type} {r : Responder J σ}
    {trial : (q : Trial) → Dialogue J (Trial.interface.Answer q)}
    {tried : Exchange J → Option (AccountId × Option Bool)}
    (htried : ∀ q s, ((trial q).transcript r s).filterMap tried =
      (RetryPolicy.tried ⟨q, ((trial q).run r s).value⟩).toList)
    (htells : ∀ q s, logEntries ((trial q).run r s).notices = [])
    (hcheck : ∀ c s n, ((trial (.check c)).run r s).value ≠ .error (.exhausted n))
    (p : RetryPolicy) (s : σ) :
    logEntries ((p.generate.via trial).run r s).notices =
      LogEntry.ofGeneration (((p.generate.via trial).transcript r s).filterMap tried)
        ((p.generate.via trial).run r s).value := by
  have htranscript : ((p.generate.via trial).transcript r s).filterMap tried =
      (p.generate.transcript (Responder.via r trial) s).filterMap RetryPolicy.tried := by
    rw [Dialogue.transcript_via, Dialogue.transcript_eq_asked, List.filterMap_flatMap,
      List.filterMap_map, List.filterMap_eq_flatMap_toList]
    exact List.flatMap_congr fun c _ => htried c.1 c.2
  have hbound : p.bound + 0 = p.bound := Nat.add_zero p.bound
  have hattempts :=
    RetryPolicy.logEntries_attempts (r := Responder.via r trial) htells hcheck p hbound s
  rw [Nat.zero_add, Nat.zero_add] at hattempts
  rw [htranscript, Dialogue.run_via]
  exact hattempts

/-! ### Stores -/

/-- A store that tells of its generations as it should, and of nothing else of the kind. Only a
generation gives up. -/
structure Store.Accounted {σ : Type} (S : Store σ)
    (tries : σ → List (AccountId × Option Bool)) : Prop where
  generate : ∀ s, logEntries (S .generate s).notices =
    LogEntry.ofGeneration (tries s) (S .generate s).value
  add : ∀ u s, logEntries (S (.add u) s).notices = []
  add_ne : ∀ u s n, (S (.add u) s).value ≠ .error (.exhausted n)

/-- The responder that gives some answers and tells nothing. -/
def Responder.quiet {I : Interface} {σ : Type} (answer : (q : I.Question) → σ → I.Answer q × σ) :
    Responder I σ :=
  fun q s => ⟨(answer q s).1, (answer q s).2, []⟩

theorem Responder.eq_quiet {I : Interface} {σ : Type} {r : Responder I σ}
    (hr : ∀ q s, (r q s).notices = []) : r = .quiet fun q s => ((r q s).value, (r q s).state) := by
  funext q s
  rw [quiet, ← hr q s]

namespace MemoryStore

/-- The candidate that has been checked, with the answer. -/
def tried : Exchange MemoryStep.interface → Option (AccountId × Option Bool)
  | ⟨.taken c, taken⟩ => some (c, some taken)
  | _ => none

/-- The checks that a generation makes, with their answers. -/
def tries {σ : Type} (r : Responder MemoryStep.interface σ) (policy : RetryPolicy) (s : σ) :
    List (AccountId × Option Bool) :=
  ((call policy .generate).transcript r s).filterMap tried

/-- **The store in memory is accounted for**, whatever answers its steps get. -/
theorem accounted {σ : Type} (answer : (q : MemoryStep) → σ → MemoryStep.interface.Answer q × σ)
    (policy : RetryPolicy) :
    Store.Accounted (Responder.via (.quiet answer) (call policy))
      (tries (.quiet answer) policy) where
  generate s := by
    refine logEntries_generate_via (fun q s => ?_) (fun q s => ?_) (fun c s n => ?_) policy s
    · cases q <;> rfl
    · cases q <;> rfl
    · intro h
      cases h
  add u s := by
    show logEntries (Dialogue.run (.quiet answer) (call policy (.add u)) s).notices = []
    simp only [call, Dialogue.run, Responder.quiet]
    cases (answer (.insert u) s).1 <;> rfl
  add_ne u s n := by
    show (Dialogue.run (.quiet answer) (call policy (.add u)) s).value ≠ _
    simp only [call, Dialogue.run, Responder.quiet]
    intro h
    cases hanswer : (answer (.insert u) s).1 <;> (rw [hanswer] at h; cases h)

end MemoryStore

namespace SqlStore

/-- The candidate that has been checked, with the answer if there is one. -/
def tried : Exchange SqlStep.interface → Option (AccountId × Option Bool)
  | ⟨.perform (.countId c), r⟩ => some (c, (r.bind isTaken).toOption)
  | _ => none

/-- The checks that a generation makes, with their answers. -/
def tries {σ : Type} (r : Responder SqlStep.interface σ) (dialect : SqlDialect)
    (policy : RetryPolicy) (s : σ) : List (AccountId × Option Bool) :=
  ((call dialect policy .generate).transcript r s).filterMap tried

/-- What keeps a statement from a result does not look like a generation that gives up. -/
theorem storeError_ne_exhausted (e : ClientFault) (n : Nat) : e.storeError ≠ .exhausted n := by
  cases e with
  | database d =>
    rw [ClientFault.storeError]
    split <;> exact nofun
  | _ => exact nofun

/-- An insert tells nothing of candidates, and does not give up. -/
theorem run_insert {σ : Type} (answer : (q : SqlStep) → σ → SqlStep.interface.Answer q × σ)
    (dialect : SqlDialect) (u : User) (s : σ) :
    let o := ((perform (.insert u)).bind (finishAdd dialect u)).run (.quiet answer) s
    logEntries o.notices = [] ∧ ∀ n, o.value ≠ .error (.exhausted n) := by
  have hend (r : Except ClientFault Reply) (s : σ) :
      logEntries ((finishAdd dialect u r).run (.quiet answer) s).notices = [] ∧
        ∀ n, ((finishAdd dialect u r).run (.quiet answer) s).value ≠ .error (.exhausted n) := by
    cases r with
    | ok _ => exact ⟨rfl, fun n => nofun⟩
    | error e => exact ⟨rfl, fun n h => storeError_ne_exhausted e n (Except.error.inj h)⟩
  simp only [perform, Dialogue.bind, Dialogue.run]
  cases (Responder.quiet (I := SqlStep.interface) answer .acquire s).value with
  | error e => exact hend (.error e) _
  | ok _ => exact hend _ _

/-- **A store on a database is accounted for**, whatever answers its steps get. -/
theorem accounted {σ : Type} (answer : (q : SqlStep) → σ → SqlStep.interface.Answer q × σ)
    (dialect : SqlDialect) (policy : RetryPolicy) :
    Store.Accounted (Responder.via (.quiet answer) (call dialect policy))
      (tries (.quiet answer) dialect policy) where
  generate s := by
    show logEntries (Dialogue.run (.quiet answer) (call dialect policy .generate) s).notices =
      LogEntry.ofGeneration (List.filterMap tried (Dialogue.transcript (.quiet answer)
        (call dialect policy .generate) s))
        (Dialogue.run (.quiet answer) (call dialect policy .generate) s).value
    simp only [call, Dialogue.run, Dialogue.transcript]
    cases (Responder.quiet (I := SqlStep.interface) answer .acquire s).value with
    | error e =>
      show [] = [] ++ LogEntry.ofResult 0 (.error e.storeError)
      rw [LogEntry.ofResult_of_ne (storeError_ne_exhausted e)]
      rfl
    | ok _ =>
      refine logEntries_generate_via (fun q s => ?_) (fun q s => ?_) (fun c s n => ?_) policy _
      · cases q with
        | draw => rfl
        | check c =>
          show (some (c, ((answer (.perform (.countId c)) s).1.bind isTaken).toOption)).toList = _
          rw [← toOption_mapError ClientFault.storeError]
          rfl
      · cases q <;> rfl
      · show ((answer (.perform (.countId c)) s).1.bind isTaken).mapError _ ≠ _
        cases (answer (.perform (.countId c)) s).1.bind isTaken with
        | error e => exact fun h => storeError_ne_exhausted e n (Except.error.inj h)
        | ok taken =>
          intro h
          cases h
  add u s := by
    show logEntries (Dialogue.run (.quiet answer) (call dialect policy (.add u)) s).notices = []
    rw [call]
    split
    · exact (run_insert answer dialect u s).1
    · exact (run_insert answer dialect u s).1
  add_ne u s n := by
    show (Dialogue.run (.quiet answer) (call dialect policy (.add u)) s).value ≠ _
    rw [call]
    split
    · exact (run_insert answer dialect u s).2 n
    · exact (run_insert answer dialect u s).2 n

end SqlStore

/-! ### Rivals -/

namespace Store.Accounted

variable {σ : Type} {S : Store σ} {tries : σ → List (AccountId × Option Bool)}

/-- **With rivals a store is still accounted for**: a rival tells nothing of the kind. -/
theorem racing (h : S.Accounted tries) :
    (Store.racing S).Accounted fun s => tries s.inner where
  generate s := by
    have hgenerate := h.generate s.inner
    cases hvalue : (S .generate s.inner).value with
    | error e =>
      rw [racing_generate_of_error S s hvalue]
      exact hvalue ▸ hgenerate
    | ok id =>
      cases hrivals : s.rivals with
      | zero =>
        rw [racing_generate_of_no_rival S s hvalue hrivals]
        exact hvalue ▸ hgenerate
      | succ k =>
        have hrival := h.add_ne (rival id) (S .generate s.inner).state
        rw [racing_generate_of_rival S s hvalue hrivals]
        simp only [logEntries_append, h.add, List.append_nil, hgenerate, hvalue]
        -- neither the generation has given up nor the rival
        cases hadded : (S (.add (rival id)) (S .generate s.inner).state).value with
        | ok _ => rfl
        | error e =>
          refine congrArg (_ ++ ·) (LogEntry.ofResult_of_ne fun n he => ?_).symm
          exact hrival n (he ▸ hadded)
  add u s := h.add u s.inner
  add_ne u s n := h.add_ne u s.inner n

/-! ### Registrations -/

section Rounds

variable (h : S.Accounted tries)

include h

/-- **The log of a registration, round by round.** -/
theorem logEntries_rounds (p : Profile) (total left n : Nat) (s : σ) :
    logEntries ((Service.rounds p total left (n + 1)).run S s).notices =
      LogEntry.ofCalls S tries n ((Service.rounds p total left (n + 1)).asked S s) := by
  induction left generalizing n s with
  | zero => rfl
  | succ left ih =>
    simp only [Service.rounds, Dialogue.run, Dialogue.asked, LogEntry.ofCalls, logEntries_append,
      h.generate]
    cases (S .generate s).value with
    | error e => rfl
    | ok id =>
      simp only [Dialogue.run, Dialogue.asked, LogEntry.ofCalls, logEntries_append, h.add]
      cases (S (.add (p.withId id)) (S .generate s).state).value with
      | ok _ => rfl
      | error e =>
        cases e with
        | duplicate key =>
          cases key with
          | accountId => exact congrArg (_ ++ _ :: ·) (ih (n + 1) _)
          | _ => rfl
        | _ => rfl

end Rounds

end Store.Accounted

namespace LogEntry

theorem candidates_ofTries (attempt : Nat) (tries : List (AccountId × Option Bool)) :
    (ofTries attempt tries).filterMap candidate? =
      (tries.zipIdx attempt).filterMap fun t =>
        t.1.2.map fun taken => (t.1.1.text, t.2, taken) := by
  rw [ofTries, List.filterMap_filterMap]
  refine List.filterMap_congr fun t _ => ?_
  cases t.1.2 <;> rfl

theorem candidates_ofGeneration (tries : List (AccountId × Option Bool))
    (r : Except StoreError AccountId) :
    (ofGeneration tries r).filterMap candidate? = (ofTries 1 tries).filterMap candidate? := by
  have hresult : (ofResult tries.length r).filterMap candidate? = [] := by
    unfold ofResult
    split <;> rfl
  rw [ofGeneration, List.filterMap_append, hresult, List.append_nil]

theorem candidates_ofInsert (n : Nat) (u : User) (r : Except StoreError Unit) :
    (ofInsert n u r).filterMap candidate? = [] := by
  unfold ofInsert
  split <;> rfl

theorem registrations_ofGeneration (tries : List (AccountId × Option Bool))
    (r : Except StoreError AccountId) : (ofGeneration tries r).filterMap registration? = [] := by
  have hresult : (ofResult tries.length r).filterMap registration? = [] := by
    unfold ofResult
    split <;> rfl
  rw [ofGeneration, List.filterMap_append, hresult, List.append_nil, ofTries,
    List.filterMap_filterMap, List.filterMap_eq_nil_iff]
  intro t _
  cases t.1.2 <;> rfl

/-- The candidates of a call that have been checked, each with the number of its check and
whether it was taken. -/
def candidates {σ : Type} (tries : σ → List (AccountId × Option Bool)) :
    StoreCall × σ → List (String × Nat × Bool)
  | (.generate, s) => ((tries s).zipIdx 1).filterMap fun t =>
      t.1.2.map fun taken => (t.1.1.text, t.2, taken)
  | _ => []

variable {σ : Type} (S : Store σ) (tries : σ → List (AccountId × Option Bool))

/-- **The candidates in the log of some calls** are those that have been checked. -/
theorem candidates_ofCalls (n : Nat) (calls : List (StoreCall × σ)) :
    (ofCalls S tries n calls).filterMap candidate? = calls.flatMap (candidates tries) := by
  induction calls generalizing n with
  | nil => rfl
  | cons c calls ih =>
    obtain ⟨q, s⟩ := c
    cases q with
    | generate =>
      rw [ofCalls, List.filterMap_append, candidates_ofGeneration, candidates_ofTries, ih]
      rfl
    | add u =>
      rw [ofCalls, List.filterMap_append, candidates_ofInsert, ih]
      rfl
    | get username => exact ih n

/-- **The account in the log of a registration** is the one that it ends with. -/
theorem registrations_ofCalls (p : Profile) (total left n : Nat) (s : σ) :
    (ofCalls S tries n ((Service.rounds p total left (n + 1)).asked S s)).filterMap registration? =
      match ((Service.rounds p total left (n + 1)).run S s).value with
      | .ok u => [(u.username, u.accountId.text)]
      | .error _ => [] := by
  induction left generalizing n s with
  | zero => rfl
  | succ left ih =>
    simp only [Service.rounds, Dialogue.run, Dialogue.asked, ofCalls, List.filterMap_append,
      registrations_ofGeneration, List.nil_append]
    cases (S .generate s).value with
    | error e => rfl
    | ok id =>
      simp only [Dialogue.run, Dialogue.asked, ofCalls, List.filterMap_append]
      cases (S (.add (p.withId id)) (S .generate s).state).value with
      | ok _ => rfl
      | error e =>
        cases e with
        | duplicate key =>
          cases key with
          | accountId => exact ih (n + 1) _
          | _ => rfl
        | _ => rfl

end LogEntry

/-- A registration that succeeds tells of it last of all. -/
theorem registered_suffix_rounds {σ : Type} (S : Store σ) (p : Profile) {u : User}
    (total left attempt : Nat) (s : σ)
    (hu : ((Service.rounds p total left attempt).run S s).value = .ok u) :
    [Service.registered u] <:+ ((Service.rounds p total left attempt).run S s).notices := by
  induction left generalizing attempt s with
  | zero => cases hu
  | succ left ih =>
    simp only [Service.rounds, Dialogue.run] at hu ⊢
    cases hid : (S .generate s).value with
    | error e =>
      rw [hid] at hu
      cases hu
    | ok id =>
      rw [hid] at hu
      simp only [Dialogue.run] at hu ⊢
      rw [← List.append_assoc]
      refine List.IsSuffix.trans ?_ (List.suffix_append _ _)
      cases hadd : (S (.add (p.withId id)) (S .generate s).state).value with
      | ok _ =>
        rw [hadd] at hu
        exact Except.ok.inj hu ▸ List.suffix_rfl
      | error e =>
        rw [hadd] at hu
        cases e with
        | duplicate key =>
          cases key with
          | accountId => exact (ih (attempt + 1) _ hu).trans (List.suffix_cons _ _)
          | _ => cases hu
        | _ => cases hu

/-- What the log of a generation and that of a registration account for, with a store in the
state `s` whose generations make the checks `tries`. -/
structure LogAccounts {σ : Type} (S : Store σ) (tries : σ → List (AccountId × Option Bool))
    (configured : Nat) (p : Profile) (s : σ) : Prop where
  /-- A generation is told of check by check, and of its giving up. -/
  generation : logEntries (S .generate s).notices =
    LogEntry.ofGeneration (tries s) (S .generate s).value
  /-- A registration is told of call by call: of its generations, and of each insert that loses
  its id or succeeds. -/
  registration : logEntries ((Service.register configured p).run S s).notices =
    LogEntry.ofCalls S tries 0 ((Service.register configured p).asked S s)
  /-- Each insert has the id that has been generated just before, and only one that loses it is
  followed by another round. -/
  course : Service.Course p (Service.bound configured) (Service.bound configured)
    ((Service.register configured p).transcript S s) ((Service.register configured p).run S s).value
  /-- The candidates that are told of are those whose check has been answered. -/
  candidates : (logEntries ((Service.register configured p).run S s).notices).filterMap
    LogEntry.candidate? =
      ((Service.register configured p).asked S s).flatMap (LogEntry.candidates tries)
  /-- An account is told of exactly if the registration succeeds. -/
  registered : (logEntries ((Service.register configured p).run S s).notices).filterMap
    LogEntry.registration? =
      match ((Service.register configured p).run S s).value with
      | .ok u => [(u.username, u.accountId.text)]
      | .error _ => []
  /-- It is told of last of all. -/
  last : ∀ u, ((Service.register configured p).run S s).value = .ok u →
    [Service.registered u] <:+ ((Service.register configured p).run S s).notices

/-- **A store that is accounted for** accounts for generations and registrations. -/
theorem Store.Accounted.logAccounts {σ : Type} {S : Store σ}
    {tries : σ → List (AccountId × Option Bool)} (h : S.Accounted tries) (configured : Nat)
    (p : Profile) (s : σ) : LogAccounts S tries configured p s where
  generation := h.generate s
  registration := h.logEntries_rounds p _ _ 0 s
  course := Service.course_of_reaches (Dialogue.reaches_transcript S _ s)
  candidates := by
    rw [Service.register, h.logEntries_rounds p _ _ 0 s, LogEntry.candidates_ofCalls]
  registered := by
    rw [Service.register, h.logEntries_rounds p _ _ 0 s, LogEntry.registrations_ofCalls]
  last _ hu := registered_suffix_rounds S p _ _ 1 s hu

/-- **The log accounts for every candidate**, with a store in memory and with one on an SQLite
database, in any state and with rivals still to come.  It does so too when the steps of the store
are answered in any way whatever, as they may be when others use the table at the same time. -/
theorem log_accounts_for_candidates (policy : RetryPolicy) (configured : Nat) (p : Profile) :
    (∀ s : Racing MemoryState, LogAccounts (Store.racing (MemoryStore.store policy))
      (fun s => MemoryStore.tries MemoryStore.step policy s.inner) configured p s) ∧
    (∀ s : Racing SqliteState, LogAccounts (Store.racing (SqliteStore.store policy))
      (fun s => SqlStore.tries SqlitePool.respond SqlitePool.dialect policy s.inner)
      configured p s) ∧
    (∀ (σ : Type) (answer : (q : MemoryStep) → σ → MemoryStep.interface.Answer q × σ)
      (s : Racing σ),
      LogAccounts (Store.racing (Responder.via (.quiet answer) (MemoryStore.call policy)))
        (fun s => MemoryStore.tries (.quiet answer) policy s.inner) configured p s) ∧
    ∀ (σ : Type) (answer : (q : SqlStep) → σ → SqlStep.interface.Answer q × σ) (s : Racing σ),
      LogAccounts
        (Store.racing (Responder.via (.quiet answer) (SqlStore.call SqlitePool.dialect policy)))
        (fun s => SqlStore.tries (.quiet answer) SqlitePool.dialect policy s.inner)
        configured p s := by
  refine ⟨fun s => ?_, fun s => ?_, fun σ answer s => ?_, fun σ answer s => ?_⟩
  · rw [MemoryStore.store, Responder.eq_quiet (r := MemoryStore.step) Traced.notices_memoryStep]
    exact (MemoryStore.accounted _ policy).racing.logAccounts configured p s
  · rw [SqliteStore.store, Responder.eq_quiet (r := SqlitePool.respond) Traced.notices_sqliteStep]
    exact (SqlStore.accounted _ _ policy).racing.logAccounts configured p s
  · exact (MemoryStore.accounted answer policy).racing.logAccounts configured p s
  · exact (SqlStore.accounted answer _ policy).racing.logAccounts configured p s

end AccountRegistry
