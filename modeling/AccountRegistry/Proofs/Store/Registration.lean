/-
One registration with a store in memory, step by step.

* **`MemoryStore.registering`** — a registration as a dialogue of atomic steps;
* **`Stage`** — where a registration stands, as its last step tells;
* **`kept_registering`** — in every stage it asks only what the stage allows: an id is
  inserted only right after its check has said that it is free, and nothing is asked once a
  row is stored;
* **`stored_of_reaches`**, **`result_iff_stored`** — it stores at most one row, as its last
  step, and ends with a user exactly when it has stored that user;
* **`within_registering`** — it comes to an end after a bounded number of steps.

None of this depends on what the other clients of the store do.
-/
import AccountRegistry.Service
import AccountRegistry.Store.Memory
import AccountRegistry.Proofs.Generator
import Mathlib.Data.List.Basic

namespace AccountRegistry

namespace MemoryStore

/-- A registration as a dialogue of atomic steps. -/
def registering (policy : RetryPolicy) (configured : Nat) (p : Profile) :
    Dialogue MemoryStep.interface (Except StoreError User) :=
  (Service.register configured p).via (call policy)

/-- Where a registration stands. -/
inductive Stage where
  | searching
  /-- The last check has said that the id is free. -/
  | holding (id : AccountId)
  | stored (u : User)
  /-- An insert has been refused, and not for its id. -/
  | refused (key : DuplicateKey)

namespace Stage

/-- The stage that a step leads to. -/
def after : Exchange MemoryStep.interface → Stage
  | ⟨.draw, _⟩ => searching
  | ⟨.taken _, true⟩ => searching
  | ⟨.taken id, false⟩ => holding id
  | ⟨.insert u, .ok ()⟩ => stored u
  | ⟨.insert _, .error .accountId⟩ => searching
  | ⟨.insert _, .error key⟩ => refused key
  | ⟨.find _, _⟩ => searching

/-- What a registration of `p` may ask in a stage. -/
def Allows (p : Profile) : Stage → MemoryStep → Prop
  | searching, .draw => True
  | searching, .taken _ => True
  | holding id, .insert u => u = p.withId id
  | _, _ => False

theorem holding_of_allows {p : Profile} {φ : Stage} {u : User}
    (h : Allows p φ (.insert u)) : ∃ id, φ = holding id ∧ u = p.withId id := by
  cases φ with
  | searching => exact h.elim
  | holding id => exact ⟨id, rfl, h⟩
  | stored v => exact h.elim
  | refused key => exact h.elim

/-- What a registration may end with in a stage. -/
def Ends : Stage → Except StoreError User → Prop
  | searching, r => ∃ e, r = .error e
  | holding _, _ => False
  | stored u, r => r = .ok u
  | refused key, r => r = .error (.duplicate key)

/-- What a generation may end with in a stage. -/
def EndsGeneration (φ : Stage) : Except StoreError AccountId → Prop
  | .ok id => φ = holding id
  | .error _ => φ = searching

end Stage

/-- The rules that a registration of `p` keeps to. -/
@[reducible] def conduct (p : Profile) : Conduct MemoryStep.interface :=
  ⟨Stage, Stage.Allows p, fun _ e => Stage.after e⟩

variable (policy : RetryPolicy)

theorem kept_attempts (p : Profile) (left attempt : Nat) :
    (conduct p).Kept Stage.EndsGeneration Stage.searching
      ((policy.attempts left attempt).via trial) := by
  induction left generalizing attempt with
  | zero => exact rfl
  | succ left ih =>
    refine ⟨trivial, fun candidate => ⟨trivial, fun taken => ?_⟩⟩
    cases taken with
    | false => exact rfl
    | true =>
      -- a notice and perhaps a pause, and the search goes on
      show (conduct p).Kept _ Stage.searching
        (Dialogue.via trial (if left = 0 then _ else RetryPolicy.pause _ _))
      split
      · exact ih (attempt + 1)
      · rw [RetryPolicy.via_pause]
        split
        · exact ih (attempt + 1)
        · exact ih (attempt + 1)

theorem kept_rounds (p : Profile) (total left attempt : Nat) :
    (conduct p).Kept Stage.Ends Stage.searching
      ((Service.rounds p total left attempt).via (call policy)) := by
  induction left generalizing attempt with
  | zero => exact ⟨_, rfl⟩
  | succ left ih =>
    refine Conduct.Kept.bind ((kept_attempts policy p policy.bound 1).mono fun φ a ha => ?_)
    cases a with
    | error e =>
      obtain rfl : φ = Stage.searching := ha
      exact ⟨e, rfl⟩
    | ok id =>
      obtain rfl : φ = Stage.holding id := ha
      refine ⟨rfl, fun added => ?_⟩
      match added with
      | .ok () => exact rfl
      | .error .accountId => exact ih (attempt + 1)
      | .error .username => exact rfl
      | .error .unknown => exact rfl

/-- **A registration keeps to its rules.** -/
theorem kept_registering (configured : Nat) (p : Profile) :
    (conduct p).Kept Stage.Ends Stage.searching (registering policy configured p) :=
  kept_rounds policy p (Service.bound configured) (Service.bound configured) 1

/-! ### The row of a registration -/

/-- The row that a step has inserted. -/
def insertedRow : Exchange MemoryStep.interface → Option User
  | ⟨.insert u, .ok ()⟩ => some u
  | _ => none

theorem after_eq_stored_iff {e : Exchange MemoryStep.interface} {u : User} :
    Stage.after e = .stored u ↔ insertedRow e = some u := by
  match e with
  | ⟨.draw, _⟩ => simp [Stage.after, insertedRow]
  | ⟨.taken _, true⟩ => simp [Stage.after, insertedRow]
  | ⟨.taken _, false⟩ => simp [Stage.after, insertedRow]
  | ⟨.insert v, .ok ()⟩ => simp [Stage.after, insertedRow]
  | ⟨.insert _, .error .accountId⟩ => simp [Stage.after, insertedRow]
  | ⟨.insert _, .error .username⟩ => simp [Stage.after, insertedRow]
  | ⟨.insert _, .error .unknown⟩ => simp [Stage.after, insertedRow]
  | ⟨.find _, _⟩ => simp [Stage.after, insertedRow]

theorem question_of_insertedRow {e : Exchange MemoryStep.interface} {u : User}
    (he : insertedRow e = some u) : e.question = .insert u := by
  obtain ⟨q, a⟩ := e
  cases q with
  | draw => cases he
  | taken id => cases he
  | find n => cases he
  | insert v =>
    cases a with
    | error key => cases he
    | ok => rw [Option.some.inj he]

theorem foldl_conduct_concat (p : Profile) (φ : Stage)
    (es : List (Exchange MemoryStep.interface)) (e : Exchange MemoryStep.interface) :
    (es ++ [e]).foldl (conduct p).after φ = Stage.after e := by
  rw [List.foldl_append]
  rfl

section Reached

variable {policy} {configured : Nat} {p : Profile}
  {es : List (Exchange MemoryStep.interface)}
  {d : Dialogue MemoryStep.interface (Except StoreError User)}

/-- Nothing follows the step that has stored a row. -/
theorem eq_nil_of_stored {es₁ es₂ : List (Exchange MemoryStep.interface)}
    {e : Exchange MemoryStep.interface} {u : User}
    (hd : (registering policy configured p).Reaches (es₁ ++ e :: es₂) d)
    (he : insertedRow e = some u) : es₂ = [] := by
  obtain _ | ⟨e', es₂⟩ := es₂
  · rfl
  · rw [List.append_cons] at hd
    have hallowed := (kept_registering policy configured p).allowed_of_reaches hd
    rw [foldl_conduct_concat, after_eq_stored_iff.mpr he] at hallowed
    exact hallowed.elim

/-- A registration has stored no row, or one with its last step. -/
theorem stored_of_reaches (hd : (registering policy configured p).Reaches es d) :
    es.filterMap insertedRow = [] ∨
    ∃ es' e u, es = es' ++ [e] ∧ insertedRow e = some u ∧ es'.filterMap insertedRow = [] := by
  by_cases hnone : es.filterMap insertedRow = []
  · exact .inl hnone
  · obtain ⟨u, hu⟩ := List.exists_mem_of_ne_nil _ hnone
    obtain ⟨e, he, heu⟩ := List.mem_filterMap.mp hu
    obtain ⟨es₁, es₂, rfl⟩ := List.append_of_mem he
    obtain rfl := eq_nil_of_stored hd heu
    refine .inr ⟨es₁, e, u, rfl, heu, List.filterMap_eq_nil_iff.mpr fun e' he' => ?_⟩
    -- a row stored earlier would have been the last step
    by_contra hrow
    obtain ⟨v, hv⟩ := Option.ne_none_iff_exists'.mp hrow
    obtain ⟨es₃, es₄, rfl⟩ := List.append_of_mem he'
    rw [List.append_assoc, List.cons_append] at hd
    simpa using eq_nil_of_stored hd hv

theorem eq_withId_of_stored {e : Exchange MemoryStep.interface} {u : User}
    (hd : (registering policy configured p).Reaches es d) (he : e ∈ es)
    (hu : insertedRow e = some u) : ∃ id, u = p.withId id := by
  obtain ⟨es₁, es₂, rfl⟩ := List.append_of_mem he
  have hallowed := (kept_registering policy configured p).allowed_of_reaches hd
  rw [question_of_insertedRow hu] at hallowed
  obtain ⟨id, -, hid⟩ := Stage.holding_of_allows hallowed
  exact ⟨id, hid⟩

/-- **A registration ends with a user exactly when it has stored that user.** -/
theorem result_iff_stored {r : Except StoreError User} {u : User}
    (hd : (registering policy configured p).Reaches es (.done r)) :
    u ∈ es.filterMap insertedRow ↔ r = .ok u := by
  have hend := (kept_registering policy configured p).of_reaches hd
  obtain hnone | ⟨es', e, v, rfl, hv, hnone⟩ := stored_of_reaches hd
  · -- no row is stored, so that the last step has not led to a stage that ends well
    rw [hnone]
    refine ⟨fun hu => by simp at hu, fun hr => ?_⟩
    subst hr
    obtain rfl | ⟨es', e, rfl⟩ := List.eq_nil_or_concat es
    · obtain ⟨_, he⟩ := hend
      cases he
    · rw [List.concat_eq_append, foldl_conduct_concat] at hend
      generalize hφ : Stage.after e = φ at hend
      match φ, hend with
      | .searching, ⟨_, he⟩ => cases he
      | .stored v, hv =>
        have hrow := after_eq_stored_iff.mp hφ
        simp [List.filterMap_append, hrow] at hnone
  · rw [foldl_conduct_concat, after_eq_stored_iff.mpr hv] at hend
    obtain rfl : r = .ok v := hend
    simp [List.filterMap_append, hnone, hv, eq_comm]

end Reached

/-! ### How long a registration takes -/

theorem within_attempts (left attempt : Nat) :
    ((policy.attempts left attempt).via trial).Within (4 * left + 1) := by
  induction left generalizing attempt with
  | zero => trivial
  | succ left ih =>
    refine fun candidate taken => ?_
    cases taken with
    | false => trivial
    | true =>
      -- a draw, a check, a notice and a pause for each attempt
      show Dialogue.Within (4 * left + 2)
        (Dialogue.via trial (if left = 0 then _ else RetryPolicy.pause _ _))
      split
      · exact (ih (attempt + 1)).mono (by omega)
      · rw [RetryPolicy.via_pause]
        split
        · exact (ih (attempt + 1)).mono (by omega)
        · exact ih (attempt + 1)

theorem within_rounds (p : Profile) (total left attempt : Nat) :
    ((Service.rounds p total left attempt).via (call policy)).Within
      ((4 * policy.bound + 4) * left) := by
  induction left generalizing attempt with
  | zero => trivial
  | succ left ih =>
    -- one round: a generation, an insert, and at most two notices after it
    refine (Dialogue.Within.bind (within_attempts policy policy.bound 1)
      fun a => ?_).mono (show (4 * policy.bound + 1) + ((4 * policy.bound + 4) * left + 3) ≤ _
        by rw [Nat.mul_succ]; omega)
    cases a with
    | error e => trivial
    | ok id =>
      intro added
      match added with
      | .ok () => exact Dialogue.within_done _ _
      | .error .accountId =>
        show Dialogue.Within ((4 * policy.bound + 4) * left + 1) _
        exact (ih (attempt + 1)).mono (by omega)
      | .error .username => trivial
      | .error .unknown => trivial

theorem within_registering (configured : Nat) (p : Profile) :
    (registering policy configured p).Within
      ((4 * policy.bound + 4) * Service.bound configured) :=
  within_rounds policy p (Service.bound configured) (Service.bound configured) 1

end MemoryStore

end AccountRegistry
