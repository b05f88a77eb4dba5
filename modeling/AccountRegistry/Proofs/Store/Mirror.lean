/-
The store in memory and the store on SQLite, call by call.

* **`Mirrors`** — the database holds the rows of the table in memory, in the order in which
  they came, and both stores draw from the same source;
* **`Mirrors.call`** — every call keeps them so, and gets the same answer from both, but for
  an insert both of whose keys are in use: the store in memory names the id, the database
  names the username;
* **`MemoryStore.hasId_of_generate`** — a generated id is not in use;
* **`MemoryStore.spent_run`**, **`MemoryStore.spent_generate`** — no run gives a candidate
  back, and a generation uses up at least one.
-/
import AccountRegistry.Proofs.Generator
import AccountRegistry.Proofs.Store.MemoryStore
import AccountRegistry.Proofs.Store.SqliteStore

namespace AccountRegistry

/-! ### Candidates used up -/

namespace CandidateSource

/-- A number that grows by one with every draw. -/
def spent (s : CandidateSource) : Int :=
  s.drawn - s.queue.length

theorem spent_draw (s : CandidateSource) : s.draw.2.spent = s.spent + 1 := by
  obtain ⟨queue, drawn, random⟩ := s
  cases queue with
  | nil => simp [draw, spent]
  | cons id ids =>
    simp only [draw, spent, List.length_cons, Int.natCast_add, Int.natCast_one]
    omega

end CandidateSource

namespace RetryPolicy

/-- A generation begins with a draw. -/
theorem exists_bound_eq (p : RetryPolicy) : ∃ n, p.bound = n + 1 :=
  ⟨p.bound - 1, by have : 1 ≤ p.bound := Nat.le_max_right _ _; omega⟩

end RetryPolicy

namespace MemoryStore

variable (policy : RetryPolicy)

/-- Answers the questions of a generation. -/
def answerTrial : Responder Trial.interface MemoryState :=
  Responder.via step trial

theorem store_generate (s : MemoryState) :
    store policy .generate s = policy.generate.run answerTrial s := by
  show (policy.generate.via trial).run step s = _
  exact Dialogue.run_via step trial policy.generate s

theorem source_step_insert (u : User) (s : MemoryState) :
    (step (.insert u) s).state.source = s.source := by
  rcases step_insert_cases u s with ⟨-, -, h⟩ | ⟨-, h⟩ | ⟨-, -, h⟩
  · rw [h]
  · rw [h]
  · rw [h]

theorem spent_step (q : MemoryStep) (s : MemoryState) :
    s.source.spent ≤ (step q s).state.source.spent := by
  cases q with
  | draw =>
    show s.source.spent ≤ s.source.draw.2.spent
    rw [CandidateSource.spent_draw]
    omega
  | taken id => exact Int.le_refl _
  | find n => exact Int.le_refl _
  | insert u => exact Int.le_of_eq (congrArg CandidateSource.spent (source_step_insert u s).symm)

theorem spent_run {α : Type} (d : Dialogue MemoryStep.interface α) (s : MemoryState) :
    s.source.spent ≤ (d.run step s).state.source.spent :=
  Dialogue.run_preserves (fun s' : MemoryState => s.source.spent ≤ s'.source.spent)
    (fun q s' h => Int.le_trans h (spent_step q s')) d (Int.le_refl _)

/-- A generation uses up at least one candidate. -/
theorem spent_generate (s : MemoryState) :
    s.source.spent < (store policy .generate s).state.source.spent := by
  obtain ⟨n, hn⟩ := policy.exists_bound_eq
  have hdraw : s.source.spent < s.source.draw.2.spent := by
    rw [CandidateSource.spent_draw]
    omega
  show _ < ((policy.generate.via trial).run step s).state.source.spent
  rw [RetryPolicy.generate, hn]
  exact Int.lt_of_lt_of_le hdraw (spent_run _ { s with source := s.source.draw.2 })

/-- An attempt asks the table about the candidate that it has drawn. -/
theorem value_attempts_succ (left attempt : Nat) (s : MemoryState) :
    ((policy.attempts (left + 1) attempt).run answerTrial s).value =
      if s.table.hasId s.source.draw.1 then
        ((policy.attempts left (attempt + 1)).run answerTrial
          { s with source := s.source.draw.2 }).value
      else .ok s.source.draw.1 := by
  rw [RetryPolicy.value_attempts_succ]
  have hchecked : (answerTrial (.check (answerTrial .draw s).value) (answerTrial .draw s).state) =
      ⟨.ok (s.table.hasId s.source.draw.1), { s with source := s.source.draw.2 }, []⟩ := rfl
  simp only [hchecked]
  cases s.table.hasId s.source.draw.1 <;> rfl

/-- **A generated id is not in use.** -/
theorem hasId_of_generate {s : MemoryState} {id : AccountId}
    (h : (store policy .generate s).value = .ok id) : s.table.hasId id = false := by
  rw [store_generate, RetryPolicy.generate] at h
  generalize policy.bound = left, 1 = attempt at h
  induction left generalizing attempt s with
  | zero => cases h
  | succ left ih =>
    rw [value_attempts_succ] at h
    by_cases htaken : s.table.hasId s.source.draw.1
    · rw [if_pos htaken] at h
      exact ih (s := { s with source := s.source.draw.2 }) (attempt + 1) h
    · rw [if_neg htaken] at h
      obtain rfl := Except.ok.inj h
      exact Bool.eq_false_iff.mpr htaken

end MemoryStore

/-! ### Two stores with the same rows -/

/-- The database holds the rows of the table in memory, in the order in which they came, and
both stores draw from the same source. -/
structure Mirrors (m : MemoryState) (s : SqliteState) : Prop where
  consistent : m.table.Consistent
  holding : ∃ files, s = .holding files m.table.rows.reverse m.source

/-- Whether both keys of a user are in use. -/
def MemoryTable.clashes (t : MemoryTable) (u : User) : Bool :=
  t.hasId u.accountId && t.hasName u.username

/-- How the answers to a call compare, `a` of the store in memory and `b` of the database:
they are the same, but for an insert both of whose keys are in use. -/
def AnswersCompare (t : MemoryTable) :
    (q : StoreCall) → (a b : StoreCall.interface.Answer q) → Prop
  | .add u, a, b =>
    if t.clashes u then a = .error (.duplicate .accountId) ∧ b = .error (.duplicate .username)
    else a = b
  | .generate, a, b => a = b
  | .get _, a, b => a = b

namespace Mirrors

variable {m : MemoryState} {s : SqliteState} (policy : RetryPolicy)

theorem any_id {t : MemoryTable} (ht : t.Consistent) (a : AccountId) :
    t.rows.reverse.any (·.accountId == a) = t.hasId a := by
  rw [Bool.eq_iff_iff, ht.hasId_iff, List.any_eq_true]
  simp

theorem any_name {t : MemoryTable} (ht : t.Consistent) (n : String) :
    t.rows.reverse.any (·.username == n) = t.hasName n := by
  rw [Bool.eq_iff_iff, ht.hasName_iff, List.any_eq_true]
  simp

/-- The first row of a username is its only one. -/
theorem find_name {t : MemoryTable} (ht : t.Consistent) (n : String) :
    t.rows.reverse.find? (·.username == n) = t.find? n := by
  cases h : t.rows.reverse.find? (·.username == n) with
  | some u =>
    have hu : u ∈ t.rows := List.mem_reverse.mp (List.mem_of_find?_eq_some h)
    have hn : u.username = n := by simpa using List.find?_some h
    exact (ht.find?_eq_some_iff.mpr ⟨hu, hn⟩).symm
  | none =>
    cases hfind : t.find? n with
    | none => rfl
    | some u =>
      -- the row that the map leads to would have been met in the list
      obtain ⟨hu, hn⟩ := ht.find?_eq_some_iff.mp hfind
      have hno := List.find?_eq_none.mp h u (List.mem_reverse.mpr hu)
      exact absurd hn (by simpa using hno)

/-- After an insert the stores still have the same rows; of two keys in use they name
different ones. -/
theorem call_add (h : Mirrors m s) (u : User) :
    Mirrors (MemoryStore.store policy (.add u) m).state
        (SqliteStore.store policy (.add u) s).state ∧
      AnswersCompare m.table (.add u) (MemoryStore.store policy (.add u) m).value
        (SqliteStore.store policy (.add u) s).value := by
  have hsame := h
  obtain ⟨hm, files, rfl⟩ := h
  rw [SqliteStore.store_add, any_id hm, any_name hm]
  obtain ⟨hid, hname, -⟩ | ⟨hid, hinsert⟩ | ⟨hid, hname, hinsert⟩ := m.table.insert_cases u
  · rw [MemoryStore.store_add_of_free policy hid hname, hid, hname]
    refine ⟨⟨hm.add hid hname, files, ?_⟩, ?_⟩
    · show SqliteState.holding _ _ _ = .holding _ (u :: m.table.rows).reverse _
      rw [List.reverse_cons]
    · simp [AnswersCompare, MemoryTable.clashes, hid]
  · -- the id is in use: the database tells of it only if the username is free
    rw [MemoryStore.store_add_of_refused policy hinsert, hid]
    cases hname : m.table.hasName u.username with
    | true => exact ⟨hsame, by simp [AnswersCompare, MemoryTable.clashes, hid, hname]⟩
    | false => exact ⟨hsame, by simp [AnswersCompare, MemoryTable.clashes, hname]⟩
  · rw [MemoryStore.store_add_of_refused policy hinsert, hid, hname]
    exact ⟨hsame, by simp [AnswersCompare, MemoryTable.clashes, hid]⟩

/-- A generation asks both stores the same and gets the same answers. -/
theorem call_generate (h : Mirrors m s) :
    (MemoryStore.store policy .generate m).value =
        (SqliteStore.store policy .generate s).value ∧
      Mirrors (MemoryStore.store policy .generate m).state
        (SqliteStore.store policy .generate s).state := by
  have htrial : ∀ q m s, Mirrors m s →
      (MemoryStore.answerTrial q m).value = (SqliteStore.trial q s).value ∧
        Mirrors (MemoryStore.answerTrial q m).state (SqliteStore.trial q s).state := by
    rintro q m s ⟨hm, files, rfl⟩
    cases q with
    | draw => exact ⟨rfl, hm, files, rfl⟩
    | check a =>
      rw [SqliteStore.trial_check, any_id hm]
      exact ⟨rfl, hm, files, rfl⟩
  obtain ⟨-, files, hs⟩ := id h
  rw [MemoryStore.store_generate, hs, SqliteStore.store_generate, ← hs]
  exact Dialogue.run_simulates (fun q m s h (_ : True) => htrial q m s h) policy.generate h
    fun _ _ => trivial

/-- **Both stores after a call.** They still have the same rows, and their answers are the
same, but for an insert both of whose keys are in use. -/
theorem call (h : Mirrors m s) (q : StoreCall) :
    Mirrors (MemoryStore.store policy q m).state (SqliteStore.store policy q s).state ∧
      AnswersCompare m.table q (MemoryStore.store policy q m).value
        (SqliteStore.store policy q s).value := by
  cases q with
  | add u => exact h.call_add policy u
  | generate => exact (h.call_generate policy).symm
  | get n =>
    obtain ⟨hm, files, rfl⟩ := h
    rw [SqliteStore.store_get, find_name hm]
    exact ⟨⟨hm, files, rfl⟩, rfl⟩

/-- An insert that takes its id from one row and its username from another. -/
example (p : Profile) (files : Files) (source : CandidateSource) :
    let alice := { p with username := "alice" }.withId ⟨"1000000001"⟩
    let bob := { p with username := "bob" }.withId ⟨"1000000002"⟩
    let t := (MemoryTable.empty.add alice).add bob
    let u := { alice with username := "bob" }
    (MemoryStore.store policy (.add u) ⟨t, source⟩).value = .error (.duplicate .accountId) ∧
      (SqliteStore.store policy (.add u) (.holding files [alice, bob] source)).value =
        .error (.duplicate .username) := ⟨rfl, rfl⟩

end Mirrors

end AccountRegistry
