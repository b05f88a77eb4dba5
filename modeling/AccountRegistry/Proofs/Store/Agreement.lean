/-
Sessions on a store in memory and on an SQLite database.

* **`Request`** — what a client does with a store in a session;
* **`Racing.Mirrors`** — two stores with the same rows, the same source and the same rivals
  still to come;
* **`Racing.Mirrors.call`** — every call keeps them so and gets answers that compare;
* **`sessions_agree_iff`** — the two sessions go the same way, request by request, exactly
  when no insert meets a table in which both of its keys are in use.

Design notes: an insert both of whose keys are in use is refused by both stores, but the
store in memory names the id and the database names the username.  A registration whose id
has been lost to a rival therefore goes on in memory, where the database already tells that
the username is taken.
-/
import AccountRegistry.Proofs.Store.Mirror
import AccountRegistry.Store.Sequence

namespace AccountRegistry

/-! ### One call on a session -/

theorem storeOf_value (o : StoreOptions) (system : String) (q : StoreCall) (s : Session) :
    (storeOf o system q s).value = (engineStore o.retry q s).value := by
  unfold storeOf
  split <;> rfl

theorem storeOf_state (o : StoreOptions) (system : String) (q : StoreCall) (s : Session) :
    (storeOf o system q s).state = (engineStore o.retry q s).state := by
  unfold storeOf
  split <;> rfl

namespace Session

/-- The table of a store in memory. -/
def table (s : Session) : MemoryTable :=
  match s.engine with
  | .memory t => t
  | _ => .empty

/-- A session in memory and one on a database with the same rows and the same source. -/
inductive Mirrors : Session → Session → Prop
  | intro {w w' : World} {t : MemoryTable} {pool : SqlitePool}
      (h : AccountRegistry.Mirrors ⟨t, w.source⟩ ⟨w'.files, pool, w'.source⟩) :
      Mirrors ⟨w, .memory t⟩ ⟨w', .sqlite pool⟩

namespace Mirrors

variable {m s : Session} (o : StoreOptions) (system system' : String)

theorem source_eq (h : Mirrors m s) : m.world.source = s.world.source := by
  obtain ⟨⟨-, files, hs⟩⟩ := h
  exact (congrArg SqliteState.source hs).symm

theorem call (h : Mirrors m s) (q : StoreCall) :
    Mirrors (storeOf o system q m).state (storeOf o system' q s).state ∧
      AnswersCompare m.table q (storeOf o system q m).value (storeOf o system' q s).value := by
  rw [storeOf_state, storeOf_state, storeOf_value, storeOf_value]
  obtain ⟨h⟩ := h
  obtain ⟨hstate, hvalue⟩ := h.call o.retry q
  exact ⟨.intro hstate, hvalue⟩

/-- A generation leaves the table alone, and its id is not in use. -/
theorem hasId_of_generate (h : Mirrors m s) {id : AccountId}
    (hid : (storeOf o system .generate m).value = .ok id) :
    (storeOf o system .generate m).state.table.hasId id = false := by
  rw [storeOf_value] at hid
  rw [storeOf_state]
  obtain ⟨h⟩ := h
  show (MemoryStore.store o.retry .generate _).state.table.hasId id = false
  rw [MemoryStore.table_store_generate]
  exact MemoryStore.hasId_of_generate o.retry hid

theorem spent_le (h : Mirrors m s) (q : StoreCall) :
    m.world.source.spent ≤ (storeOf o system q m).state.world.source.spent := by
  rw [storeOf_state]
  obtain ⟨h⟩ := h
  exact MemoryStore.spent_run (MemoryStore.call o.retry q) _

theorem spent_lt (h : Mirrors m s) :
    m.world.source.spent < (storeOf o system .generate m).state.world.source.spent := by
  rw [storeOf_state]
  obtain ⟨h⟩ := h
  exact MemoryStore.spent_generate o.retry _

end Mirrors

end Session

/-! ### One call with rivals about -/

section Rivals

variable {σ : Type} (inner : Store σ) (s : Racing σ)

theorem racing_generate_of_error {e : StoreError}
    (h : (inner .generate s.inner).value = .error e) :
    Store.racing inner .generate s =
      ⟨.error e, ⟨s.rivals, (inner .generate s.inner).state⟩,
        (inner .generate s.inner).notices⟩ := by
  simp only [Store.racing, h]

theorem racing_generate_of_no_rival {id : AccountId}
    (h : (inner .generate s.inner).value = .ok id) (hr : s.rivals = 0) :
    Store.racing inner .generate s =
      ⟨.ok id, ⟨0, (inner .generate s.inner).state⟩, (inner .generate s.inner).notices⟩ := by
  simp only [Store.racing, h, hr]

/-- A rival takes the id that has just been generated. -/
theorem racing_generate_of_rival {id : AccountId} {k : Nat}
    (h : (inner .generate s.inner).value = .ok id) (hr : s.rivals = k + 1) :
    Store.racing inner .generate s =
      let o := inner (.add (rival id)) (inner .generate s.inner).state
      ⟨o.value.map fun _ => id, ⟨k, o.state⟩,
        (inner .generate s.inner).notices ++ o.notices⟩ := by
  simp only [Store.racing, h, hr]
  cases (inner (.add (rival id)) (inner .generate s.inner).state).value <;> rfl

end Rivals

namespace Racing

/-- Two stores with the same rows, the same source and the same rivals still to come. -/
structure Mirrors (m s : Racing Session) : Prop where
  rivals : m.rivals = s.rivals
  inner : Session.Mirrors m.inner s.inner

/-- A call that finds both keys of an insert in use. -/
def clashing (c : StoreCall × Racing Session) : Bool :=
  match c.1 with
  | .add u => c.2.inner.table.clashes u
  | _ => false

/-- The number that grows with every candidate used up. -/
def spent (s : Racing Session) : Int := s.inner.world.source.spent

namespace Mirrors

variable {m s : Racing Session} (o : StoreOptions) (system system' : String)

/-- **Both stores after a call.** A rival has an id that has just been found free, so that
its own insert clashes with nothing. -/
theorem call (h : Mirrors m s) (q : StoreCall) :
    Mirrors (Store.racing (storeOf o system) q m).state
        (Store.racing (storeOf o system') q s).state ∧
      AnswersCompare m.inner.table q (Store.racing (storeOf o system) q m).value
        (Store.racing (storeOf o system') q s).value := by
  obtain ⟨hrivals, hinner⟩ := h
  obtain ⟨hstate, hvalue⟩ := hinner.call o system system' q
  cases q with
  | add u => exact ⟨⟨hrivals, hstate⟩, hvalue⟩
  | get n => exact ⟨⟨hrivals, hstate⟩, hvalue⟩
  | generate =>
    have hsame : (storeOf o system .generate m.inner).value =
        (storeOf o system' .generate s.inner).value := hvalue
    cases hm : (storeOf o system .generate m.inner).value with
    | error e =>
      rw [racing_generate_of_error _ _ hm, racing_generate_of_error _ _ (hsame ▸ hm)]
      exact ⟨⟨hrivals, hstate⟩, rfl⟩
    | ok id =>
      have hs : (storeOf o system' .generate s.inner).value = .ok id := hsame ▸ hm
      cases hr : m.rivals with
      | zero =>
        rw [racing_generate_of_no_rival _ _ hm hr,
          racing_generate_of_no_rival _ _ hs (hrivals ▸ hr)]
        exact ⟨⟨rfl, hstate⟩, rfl⟩
      | succ k =>
        obtain ⟨hstate', hvalue'⟩ := hstate.call o system system' (.add (rival id))
        have hfree := hinner.hasId_of_generate o system hm
        have hclash : (storeOf o system .generate m.inner).state.table.clashes (rival id) =
            false := by
          rw [MemoryTable.clashes, show (rival id).accountId = id from rfl, hfree]
          rfl
        have hadd := hvalue'
        rw [AnswersCompare, if_neg (by rw [hclash]; exact Bool.false_ne_true)] at hadd
        rw [racing_generate_of_rival _ _ hm hr, racing_generate_of_rival _ _ hs (hrivals ▸ hr)]
        exact ⟨⟨rfl, hstate'⟩, congrArg (Except.map fun _ => id) hadd⟩

/-- Unless both keys of an insert are in use, the answers are the same. -/
theorem value_eq (h : Mirrors m s) {q : StoreCall} (hq : clashing (q, m) = false) :
    (Store.racing (storeOf o system) q m).value =
      (Store.racing (storeOf o system') q s).value := by
  have hvalue := (h.call o system system' q).2
  cases q with
  | add u =>
    have hclash : m.inner.table.clashes u = false := hq
    rw [AnswersCompare, if_neg (by rw [hclash]; exact Bool.false_ne_true)] at hvalue
    exact hvalue
  | generate => exact hvalue
  | get n => exact hvalue

/-- **If both keys of an insert are in use, the stores name different ones.** -/
theorem value_of_clash (h : Mirrors m s) {u : User} (hu : clashing (.add u, m) = true) :
    (Store.racing (storeOf o system) (.add u) m).value = .error (.duplicate .accountId) ∧
      (Store.racing (storeOf o system') (.add u) s).value = .error (.duplicate .username) := by
  have hvalue := (h.call o system system' (.add u)).2
  have hclash : m.inner.table.clashes u = true := hu
  rwa [AnswersCompare, if_pos hclash] at hvalue

theorem spent_rival (h : Mirrors m s) :
    (storeOf o system .generate m.inner).state.world.source.spent ≤
      spent (Store.racing (storeOf o system) .generate m).state := by
  cases hm : (storeOf o system .generate m.inner).value with
  | error e =>
    rw [racing_generate_of_error _ _ hm]
    exact Int.le_refl _
  | ok id =>
    cases hr : m.rivals with
    | zero =>
      rw [racing_generate_of_no_rival _ _ hm hr]
      exact Int.le_refl _
    | succ k =>
      rw [racing_generate_of_rival _ _ hm hr]
      exact (h.inner.call o system system .generate).1.spent_le o system (.add (rival id))

/-- No call gives a candidate back. -/
theorem spent_le (h : Mirrors m s) (q : StoreCall) :
    spent m ≤ spent (Store.racing (storeOf o system) q m).state := by
  have hinner := h.inner.spent_le o system q
  cases q with
  | add u => exact hinner
  | get n => exact hinner
  | generate => exact Int.le_trans hinner (h.spent_rival o system)

/-- A generation uses up at least one candidate. -/
theorem spent_lt (h : Mirrors m s) :
    spent m < spent (Store.racing (storeOf o system) .generate m).state :=
  Int.lt_of_lt_of_le (h.inner.spent_lt o system) (h.spent_rival o system)

theorem spent_eq (h : Mirrors m s) : spent m = spent s := by
  rw [spent, spent, h.inner.source_eq]

theorem spent_run {α : Type} (h : Mirrors m s) (d : Dialogue StoreCall.interface α) :
    spent m ≤ spent (d.run (Store.racing (storeOf o system)) m).state := by
  refine (Dialogue.run_preserves (fun x => (∃ y, Mirrors x y) ∧ spent m ≤ spent x) ?_ d
    ⟨⟨s, h⟩, Int.le_refl _⟩).2
  rintro q x ⟨⟨y, hxy⟩, hle⟩
  exact ⟨⟨_, (hxy.call o system system q).1⟩, Int.le_trans hle (hxy.spent_le o system q)⟩

/-- Another round of a registration uses up at least one candidate. -/
theorem spent_rounds (h : Mirrors m s) (p : Profile) (total left attempt : Nat) :
    spent m < spent ((Service.rounds p total (left + 1) attempt).run
      (Store.racing (storeOf o system)) m).state :=
  Int.lt_of_lt_of_le (h.spent_lt o system)
    ((h.call o system system .generate).1.spent_run o system _)

end Mirrors

/-! ### One dialogue with both stores -/

/-- Whether a dialogue ends with the same value on both stores and leaves the same candidates. -/
def EndsAlike {α : Type} (S S' : Store (Racing Session)) (d : Dialogue StoreCall.interface α)
    (m s : Racing Session) : Prop :=
  (d.run S m).value = (d.run S' s).value ∧
    (d.run S m).state.inner.world.source = (d.run S' s).state.inner.world.source

/-- An answer that is the same leaves it to the rest how the dialogue ends. -/
theorem endsAlike_ask {α : Type} {S S' : Store (Racing Session)} {m s : Racing Session}
    {q : StoreCall} {k : StoreCall.interface.Answer q → Dialogue StoreCall.interface α}
    (h : (S q m).value = (S' q s).value) :
    EndsAlike S S' (.ask q k) m s ↔
      EndsAlike S S' (k (S q m).value) (S q m).state (S' q s).state := by
  simp only [EndsAlike, Dialogue.run]
  rw [h]

namespace Mirrors

variable {m s : Racing Session} (o : StoreOptions) (system system' : String)

/-- Without a clash a dialogue ends alike, and the stores still have the same rows. -/
theorem run {α : Type} (h : Mirrors m s) (d : Dialogue StoreCall.interface α)
    (hd : ∀ c ∈ d.asked (Store.racing (storeOf o system)) m, clashing c = false) :
    (d.run (Store.racing (storeOf o system)) m).value =
        (d.run (Store.racing (storeOf o system')) s).value ∧
      Mirrors (d.run (Store.racing (storeOf o system)) m).state
        (d.run (Store.racing (storeOf o system')) s).state :=
  Dialogue.run_simulates
    (fun q _ _ h hq => ⟨h.value_eq o system system' hq, (h.call o system system' q).1⟩) d h hd

/-- **A clash in a registration shows.** In memory the registration goes on with another
candidate or gives up, where the database tells that the username is taken. -/
theorem rounds_differ (h : Mirrors m s) (p : Profile) (total left attempt : Nat)
    (hclash : ∃ c ∈ (Service.rounds p total left attempt).asked
      (Store.racing (storeOf o system)) m, clashing c = true) :
    ¬ EndsAlike (Store.racing (storeOf o system)) (Store.racing (storeOf o system'))
      (Service.rounds p total left attempt) m s := by
  induction left generalizing attempt m s with
  | zero =>
    obtain ⟨c, hc, -⟩ := hclash
    cases hc
  | succ left ih =>
    obtain ⟨c, hc, hclashes⟩ := hclash
    have hgenerated := (h.call o system system' .generate).1
    rw [Service.rounds] at hc ⊢
    rw [endsAlike_ask (h.value_eq o system system' rfl)]
    obtain rfl | hc := List.mem_cons.mp hc
    · cases hclashes
    cases hid : (Store.racing (storeOf o system) .generate m).value with
    | error e =>
      rw [hid] at hc
      cases hc
    | ok id =>
      rw [hid] at hc
      have hadded := (hgenerated.call o system system' (.add (p.withId id))).1
      cases hboth : clashing
          (.add (p.withId id), (Store.racing (storeOf o system) .generate m).state) with
      | true =>
        obtain ⟨hm, hs⟩ := hgenerated.value_of_clash o system system' hboth
        rintro ⟨hvalue, hsource⟩
        simp only [Dialogue.run, hm, hs] at hvalue hsource
        -- the database has stopped; the store in memory goes on, or gives up
        cases left with
        | zero => cases hvalue
        | succ left =>
          have hmore := hadded.spent_rounds o system p total left (attempt + 1)
          rw [hadded.spent_eq, spent, spent, hsource] at hmore
          exact Int.lt_irrefl _ hmore
      | false =>
        rw [endsAlike_ask (hgenerated.value_eq o system system' hboth)]
        obtain rfl | hc := List.mem_cons.mp hc
        · rw [hboth] at hclashes
          cases hclashes
        -- only a lost id lets the registration go on
        cases hanswer : (Store.racing (storeOf o system) (.add (p.withId id))
            (Store.racing (storeOf o system) .generate m).state).value with
        | ok _ =>
          rw [hanswer] at hc
          cases hc
        | error e =>
          rw [hanswer] at hc
          cases e with
          | duplicate key =>
            cases key with
            | accountId => exact ih hadded (attempt + 1) ⟨c, hc, hclashes⟩
            | username => cases hc
            | unknown => cases hc
          | connection text => cases hc
          | query text => cases hc
          | exhausted n => cases hc
          | invalidId e => cases hc

end Mirrors

end Racing

/-! ### One request -/

/-- What a client does with a store in a session. -/
inductive Request where
  | add (u : User)
  | get (username : String)
  | generate
  | register (p : Profile)
  | lookup (username : String)

namespace Request

/-- The step of a sequence that a request is. -/
def step : Request → Step
  | add u => .add u
  | get username => .get username
  | generate => .generate
  | register p => .register p
  | lookup username => .lookup username

/-- The dialogue with the store that a request leads to; `attempts` is the bound of the
account service. -/
def dialogue (attempts : Nat) : Request → Dialogue StoreCall.interface Answer
  | add u => .ask (.add u) fun r => .done (.ofResult (fun () => .done) r)
  | get username => .ask (.get username) fun r => .done (.ofResult .found r)
  | generate => .ask .generate fun r => .done (.ofResult .id r)
  | register p => (Service.register attempts p).bind fun r => .done (.ofResult .user r)
  | lookup username => (Service.lookup username).bind fun r => .done (.ofResult .found r)

variable {m s : Racing Session} (o : StoreOptions) (system system' : String) (attempts : Nat)

/-- The users that registrations end with are told apart by the answers. -/
theorem ofResult_user_injective {r r' : Except StoreError User}
    (h : Answer.ofResult .user r = Answer.ofResult .user r') : r = r' := by
  cases r <;> cases r' <;> cases h <;> rfl

/-- **A request ends alike on both stores exactly when it does not clash.** -/
theorem endsAlike_iff (h : Racing.Mirrors m s) (q : Request) :
    Racing.EndsAlike (Store.racing (storeOf o system)) (Store.racing (storeOf o system'))
        (q.dialogue attempts) m s ↔
      ∀ c ∈ (q.dialogue attempts).asked (Store.racing (storeOf o system)) m,
        Racing.clashing c = false := by
  constructor
  · intro hends c hc
    by_contra hclashes
    rw [Bool.not_eq_false] at hclashes
    cases q with
    | add u =>
      obtain rfl := List.mem_singleton.mp hc
      obtain ⟨hm, hs⟩ := h.value_of_clash o system system' hclashes
      have hvalue := hends.1
      simp only [dialogue, Dialogue.run, hm, hs] at hvalue
      cases hvalue
    | get username =>
      obtain rfl := List.mem_singleton.mp hc
      cases hclashes
    | generate =>
      obtain rfl := List.mem_singleton.mp hc
      cases hclashes
    | lookup username =>
      obtain rfl := List.mem_singleton.mp hc
      cases hclashes
    | register p =>
      rw [dialogue, Dialogue.asked_bind, Dialogue.asked, List.append_nil] at hc
      refine h.rounds_differ o system system' p _ _ _ ⟨c, hc, hclashes⟩ ?_
      rw [dialogue, Racing.EndsAlike, Dialogue.run_bind, Dialogue.run_bind] at hends
      exact ⟨ofResult_user_injective hends.1, hends.2⟩
  · intro hd
    obtain ⟨hvalue, hstate⟩ := h.run o system system' (q.dialogue attempts) hd
    exact ⟨hvalue, hstate.inner.source_eq⟩

end Request

/-! ### Sessions -/

namespace Running

/-- The store with its rivals, as the store calls see it. -/
def racing (r : Running) : Racing Session := ⟨r.rivals, r.session⟩

/-- The answers to some requests. -/
def answers (s : Setup) (r : Running) (qs : List Request) : List Answer :=
  (r.run s (qs.map Request.step)).2.map Prod.fst

/-- The candidates that some requests leave. -/
def sourceAfter (s : Setup) (r : Running) (qs : List Request) : CandidateSource :=
  (r.run s (qs.map Request.step)).1.session.world.source

/-- The calls of the store that some requests lead to, each with the state before it. -/
def calls (s : Setup) (r : Running) : List Request → List (StoreCall × Racing Session)
  | [] => []
  | q :: qs =>
    (q.dialogue s.serviceAttempts).asked (s.store r.system) r.racing ++
      calls s (r.step s q.step).state qs

variable (s : Setup) (r : Running)

theorem step_value (q : Request) :
    (r.step s q.step).value =
      ((q.dialogue s.serviceAttempts).run (s.store r.system) r.racing).value := by
  cases q with
  | register p =>
    rw [Request.dialogue, Dialogue.run_bind]
    rfl
  | add u => rfl
  | get username => rfl
  | generate => rfl
  | lookup username => rfl

theorem step_racing (q : Request) :
    (r.step s q.step).state.racing =
      ((q.dialogue s.serviceAttempts).run (s.store r.system) r.racing).state := by
  cases q with
  | register p =>
    rw [Request.dialogue, Dialogue.run_bind]
    rfl
  | add u => rfl
  | get username => rfl
  | generate => rfl
  | lookup username => rfl

theorem answers_cons (q : Request) (qs : List Request) :
    r.answers s (q :: qs) =
      (r.step s q.step).value :: (r.step s q.step).state.answers s qs := rfl

theorem sourceAfter_cons (q : Request) (qs : List Request) :
    r.sourceAfter s (q :: qs) = (r.step s q.step).state.sourceAfter s qs := rfl

/-- Whether some requests get the same answers in two sessions and leave the same candidates. -/
def Agree (s s' : Setup) (r r' : Running) (qs : List Request) : Prop :=
  r.answers s qs = r'.answers s' qs ∧ r.sourceAfter s qs = r'.sourceAfter s' qs

section TwoSessions

variable {s s' : Setup} {r r' : Running}

/-- One request agrees if it ends alike on both stores. -/
theorem agree_singleton_iff (hoptions : s.options = s'.options)
    (hattempts : s.serviceAttempts = s'.serviceAttempts) (q : Request) :
    Agree s s' r r' [q] ↔
      Racing.EndsAlike (Store.racing (storeOf s.options r.system))
        (Store.racing (storeOf s.options r'.system)) (q.dialogue s.serviceAttempts) r.racing
        r'.racing := by
  have hm := r.step_racing s q
  have hs := r'.step_racing s' q
  rw [Agree, answers_cons, answers_cons, sourceAfter_cons, sourceAfter_cons, step_value,
    step_value]
  show [_] = [_] ∧ (r.step s q.step).state.racing.inner.world.source =
    (r'.step s' q.step).state.racing.inner.world.source ↔ _
  rw [hm, hs, Setup.store, Setup.store, ← hoptions, ← hattempts, List.singleton_inj]
  rfl

/-- **Sessions on mirrored stores** agree after each of some requests exactly when none of
their calls clashes. -/
theorem agree_iff (hoptions : s.options = s'.options)
    (hattempts : s.serviceAttempts = s'.serviceAttempts)
    (h : Racing.Mirrors r.racing r'.racing) (qs : List Request) :
    (∀ n, Agree s s' r r' (qs.take n)) ↔ ∀ c ∈ r.calls s qs, Racing.clashing c = false := by
  induction qs generalizing r r' with
  | nil =>
    constructor
    · intro _ c hc
      cases hc
    · intro _ n
      rw [List.take_nil]
      exact ⟨rfl, h.inner.source_eq⟩
  | cons q qs ih =>
    have hfirst := (agree_singleton_iff hoptions hattempts q).trans
      (Request.endsAlike_iff s.options r.system r'.system s.serviceAttempts h q)
    rw [calls, List.forall_mem_append]
    by_cases hclash : ∀ c ∈ (q.dialogue s.serviceAttempts).asked (s.store r.system) r.racing,
        Racing.clashing c = false
    · obtain ⟨hvalue, hsource⟩ := hfirst.mpr hclash
      have hstate : Racing.Mirrors (r.step s q.step).state.racing
          (r'.step s' q.step).state.racing := by
        rw [step_racing, step_racing, Setup.store, Setup.store, ← hoptions, ← hattempts]
        exact (h.run s.options r.system r'.system _ hclash).2
      have hhead : (r.step s q.step).value = (r'.step s' q.step).value :=
        (List.cons.inj hvalue).1
      rw [← ih hstate]
      constructor
      · intro hagree
        refine ⟨hclash, fun n => ?_⟩
        obtain ⟨hanswers, hleft⟩ := hagree (n + 1)
        exact ⟨(List.cons.inj hanswers).2, hleft⟩
      · rintro ⟨-, hrest⟩ n
        cases n with
        | zero => exact ⟨rfl, h.inner.source_eq⟩
        | succ n =>
          obtain ⟨hanswers, hleft⟩ := hrest n
          exact ⟨List.cons_eq_cons.mpr ⟨hhead, hanswers⟩, hleft⟩
    · constructor
      · intro hagree
        exact absurd (hfirst.mp (hagree 1)) hclash
      · exact fun hnone => absurd hnone.1 hclash

end TwoSessions

end Running

theorem Racing.clashing_eq_false_iff {calls : List (StoreCall × Racing Session)} :
    (∀ c ∈ calls, Racing.clashing c = false) ↔
      ∀ u st, (.add u, st) ∈ calls →
        ¬ (st.inner.table.hasId u.accountId = true ∧ st.inner.table.hasName u.username = true) := by
  constructor
  · rintro hcalls u st hmem ⟨hid, hname⟩
    have hclash : (st.inner.table.hasId u.accountId && st.inner.table.hasName u.username) = false :=
      hcalls _ hmem
    rw [hid, hname] at hclash
    cases hclash
  · rintro hnone ⟨q, st⟩ hmem
    cases q with
    | add u =>
      rw [Bool.eq_false_iff]
      intro hclash
      exact hnone u st hmem (Bool.and_eq_true_iff.mp hclash)
    | generate => rfl
    | get username => rfl

/-- A store that is opened by a URI. -/
def Setup.ofUri (uri : String) (o : StoreOptions) (rivals attempts : Nat) : Setup where
  origin := .uri uri
  options := o
  rivals
  serviceAttempts := attempts

/-- A new store of the given kind, with its table. -/
def Setup.fresh (origin : Origin) (o : StoreOptions) (rivals attempts : Nat) : Setup where
  origin
  options := { o with createSchema := true }
  rivals
  serviceAttempts := attempts

/-- **Sessions on a new store in memory and on a new SQLite database.**  After each request
they have got the same answers and have the same candidates left, exactly when no insert of
the session meets a table in which both of its keys are in use. -/
theorem sessions_agree_iff (o : StoreOptions) (rivals attempts : Nat) (w : World)
    (qs : List Request) :
    let memory := Setup.fresh .memory o rivals attempts
    let sqlite := Setup.fresh .sqlite o rivals attempts
    ∃ m s, (memory.start w).value = .ok m ∧ (sqlite.start w).value = .ok s ∧
      ((∀ n, Running.Agree memory sqlite m s (qs.take n)) ↔
        ∀ u st, (.add u, st) ∈ m.calls memory qs →
          ¬ (st.inner.table.hasId u.accountId ∧ st.inner.table.hasName u.username)) := by
  intro memory sqlite
  let m : Running := ⟨⟨w, .memory .empty⟩, rivals, "direct"⟩
  let s : Running := ⟨⟨w, .sqlite ⟨.own (.holding []), false, false⟩⟩, rivals, "direct"⟩
  have hempty : Mirrors ⟨.empty, w.source⟩ (.holding w.files [] w.source) :=
    ⟨MemoryTable.consistent_empty, w.files, rfl⟩
  have h : Racing.Mirrors m.racing s.racing := ⟨rfl, .intro hempty⟩
  refine ⟨m, s, rfl, rfl, ?_⟩
  have hoptions : memory.options = sqlite.options := rfl
  have hattempts : memory.serviceAttempts = sqlite.serviceAttempts := rfl
  rw [Running.agree_iff hoptions hattempts h, Racing.clashing_eq_false_iff]

end AccountRegistry
