/-
The course of a registration.

A registration asks its store for an id and for an insert in turn, and only an insert that
has lost its id leads to another round.

* **`Service.Course`** — the calls of a registration with their answers, round by round, and
  the result that they lead to;
* **`Service.course_of_reaches`** — whatever the store answers, a registration takes such a
  course;
* **`Course.questions`**, **`Course.goes_on`**, **`Course.ok_iff`**, **`Course.error_iff`**
  — what a course tells: the order of its calls, where it goes on, and which result it has;
* **`rounds_registered`**, **`rounds_lost`** — a round of a run, told from what the store
  answers in it;
* **`registration_proceeds`** — all of this for the registration with any store.

Design notes: the store is any responder whatever, so that nothing is known of its answers.
A course is therefore described by the answers themselves, and the transcript of a run is
the one course whose answers the store gives.
-/
import AccountRegistry.Service
import AccountRegistry.Proofs.Dialogue
import Mathlib.Data.List.Basic

namespace AccountRegistry

namespace Service

/-! ### Calls -/

/-- Whether a call asks for an id. -/
def isGenerate : Exchange StoreCall.interface → Bool
  | ⟨.generate, _⟩ => true
  | _ => false

/-- Whether a call is an insert. -/
def isAdd : Exchange StoreCall.interface → Bool
  | ⟨.add _, _⟩ => true
  | _ => false

/-- The id that a call has generated. -/
def generatedId : Exchange StoreCall.interface → Option AccountId
  | ⟨.generate, .ok id⟩ => some id
  | _ => none

/-- The user that a call has inserted. -/
def addedUser : Exchange StoreCall.interface → Option User
  | ⟨.add u, .ok ()⟩ => some u
  | _ => none

/-- The id of an insert that has been refused because of it. -/
def lostId : Exchange StoreCall.interface → Option AccountId
  | ⟨.add u, .error (.duplicate .accountId)⟩ => some u.accountId
  | _ => none

/-- The error of a call that has failed, a lost id aside. -/
def failure : Exchange StoreCall.interface → Option StoreError
  | ⟨.generate, .error e⟩ => some e
  | ⟨.add _, .error e⟩ => if e = .duplicate .accountId then none else some e
  | _ => none

theorem failure_add {u : User} {e : StoreError} (he : e ≠ .duplicate .accountId) :
    failure ⟨.add u, .error e⟩ = some e := if_neg he

theorem lostId_add {u : User} {e : StoreError} (he : e ≠ .duplicate .accountId) :
    lostId ⟨.add u, .error e⟩ = none := by
  unfold lostId
  split
  · next heq =>
    cases heq
    exact absurd rfl he
  · rfl

/-! ### Courses -/

/-- The calls of a registration of `p` with their answers, when `left` rounds of `total` are
left, and the result that they lead to. -/
inductive Course (p : Profile) (total : Nat) :
    Nat → List (Exchange StoreCall.interface) → Except StoreError User → Prop
  | gaveUp : Course p total 0 [] (.error (.exhausted total))
  | notGenerated (left : Nat) (e : StoreError) :
      Course p total (left + 1) [⟨.generate, .error e⟩] (.error e)
  /-- The insert has been refused, and not for its id. -/
  | refused (left : Nat) (id : AccountId) {e : StoreError} (he : e ≠ .duplicate .accountId) :
      Course p total (left + 1) [⟨.generate, .ok id⟩, ⟨.add (p.withId id), .error e⟩] (.error e)
  | registered (left : Nat) (id : AccountId) :
      Course p total (left + 1) [⟨.generate, .ok id⟩, ⟨.add (p.withId id), .ok ()⟩]
        (.ok (p.withId id))
  /-- The id has been lost, and there is another round. -/
  | lost {left : Nat} {es : List (Exchange StoreCall.interface)} {r : Except StoreError User}
      (id : AccountId) (h : Course p total left es r) :
      Course p total (left + 1) (⟨.generate, .ok id⟩ ::
        ⟨.add (p.withId id), .error (.duplicate .accountId)⟩ :: es) r

/-- **A registration takes a course**, whatever it is answered. -/
theorem course_of_reaches {p : Profile} {total left attempt : Nat}
    {es : List (Exchange StoreCall.interface)} {r : Except StoreError User}
    (h : (rounds p total left attempt).Reaches es (.done r)) : Course p total left es r := by
  induction left generalizing attempt es with
  | zero =>
    cases h with
    | refl => exact .gaveUp
  | succ left ih =>
    cases h with
    | ask generated h =>
      cases generated with
      | error e =>
        cases h with
        | refl => exact .notGenerated left e
      | ok id =>
        cases h with
        | ask added h =>
          match added, h with
          | .ok (), .note h =>
            cases h with
            | refl => exact .registered left id
          | .error (.duplicate .accountId), .note h => exact .lost id (ih h)
          | .error (.duplicate .username), .refl _ => exact .refused left id (by simp)
          | .error (.duplicate .unknown), .refl _ => exact .refused left id (by simp)
          | .error (.connection _), .refl _ => exact .refused left id (by simp)
          | .error (.query _), .refl _ => exact .refused left id (by simp)
          | .error (.exhausted _), .refl _ => exact .refused left id (by simp)
          | .error (.invalidId _), .refl _ => exact .refused left id (by simp)

namespace Course

variable {p : Profile} {total left : Nat} {es : List (Exchange StoreCall.interface)}
  {r : Except StoreError User}

/-- Only a registration without rounds asks nothing. -/
theorem eq_nil_iff (h : Course p total left es r) : es = [] ↔ left = 0 := by
  cases h with
  | gaveUp => simp
  | notGenerated left e => simp
  | refused left id he => simp
  | registered left id => simp
  | lost id h => simp

/-- **The order of the calls.** Each id that has been generated is followed by its insert,
and only a last generation may have come to nothing. -/
theorem questions (h : Course p total left es r) :
    ∃ last, (last = [] ∨ last = [.generate]) ∧
      es.map Exchange.question =
        (es.filterMap generatedId).flatMap (fun id => [.generate, .add (p.withId id)]) ++
          last := by
  induction h with
  | gaveUp => exact ⟨[], .inl rfl, rfl⟩
  | notGenerated left e => exact ⟨[.generate], .inr rfl, rfl⟩
  | refused left id he => exact ⟨[], .inl rfl, rfl⟩
  | registered left id => exact ⟨[], .inl rfl, rfl⟩
  | lost id h ih =>
    obtain ⟨last, hlast, hes⟩ := ih
    refine ⟨last, hlast, ?_⟩
    rw [List.map_cons, List.map_cons, hes]
    rfl

/-- **Where a course goes on.** After an insert it does so exactly if the id has been lost
and there is a round left. -/
theorem goes_on (h : Course p total left es r) {before after : List (Exchange StoreCall.interface)}
    {u : User} {a : Except StoreError Unit} (hes : es = before ++ ⟨.add u, a⟩ :: after) :
    after ≠ [] ↔ a = .error (.duplicate .accountId) ∧ (before.filter isAdd).length + 1 < left := by
  induction h generalizing before with
  | gaveUp => simp at hes
  | notGenerated left e =>
    obtain _ | ⟨x, before⟩ := before
    · cases hes
    · simp at hes
  | refused left id he =>
    match before, hes with
    | [_], hes =>
      cases hes
      simp [he]
    | _ :: _ :: _, hes => simp at hes
  | registered left id =>
    match before, hes with
    | [_], hes =>
      cases hes
      simp
    | _ :: _ :: _, hes => simp at hes
  | @lost left es r id h ih =>
    match before, hes with
    | [_], hes =>
      cases hes
      rw [ne_eq, h.eq_nil_iff]
      simp [isAdd, Nat.pos_iff_ne_zero]
    | _ :: _ :: before, hes =>
      -- the insert lies in the rounds that follow, with one insert more before it
      cases hes
      rw [ih rfl]
      exact and_congr_right fun _ => Nat.succ_lt_succ_iff.symm

/-- **A registration ends with a user exactly if its last call has inserted that user.** -/
theorem ok_iff (h : Course p total left es r) (u : User) :
    r = .ok u ↔ es.getLast? = some ⟨.add u, .ok ()⟩ := by
  induction h with
  | gaveUp => simp
  | notGenerated left e => simp
  | refused left id he => simp
  | registered left id => simp
  | lost id h ih =>
    rw [getLast?_pair_append, ih]
    simp

/-- A call that has failed is the last one. -/
theorem last_of_failure (h : Course p total left es r) {x : Exchange StoreCall.interface}
    {e : StoreError} (hx : x ∈ es) (he : failure x = some e) : es.getLast? = some x := by
  induction h with
  | gaveUp => cases hx
  | notGenerated left e =>
    rw [List.mem_singleton.mp hx]
    rfl
  | refused left id he' =>
    obtain rfl | hx := List.mem_cons.mp hx
    · cases he
    · rw [List.mem_singleton.mp hx]
      rfl
  | registered left id =>
    obtain rfl | hx := List.mem_cons.mp hx
    · cases he
    · rw [List.mem_singleton.mp hx] at he
      cases he
  | lost id h ih =>
    obtain rfl | hx := List.mem_cons.mp hx
    · cases he
    obtain rfl | hx := List.mem_cons.mp hx
    · cases he
    exact getLast?_pair_append.mpr (.inl (ih hx))

/-- The error of the last call is the result. -/
theorem result_of_last (h : Course p total left es r) {x : Exchange StoreCall.interface}
    {e : StoreError} (hlast : es.getLast? = some x) (hx : failure x = some e) :
    r = .error e := by
  induction h with
  | gaveUp => cases hlast
  | notGenerated left e =>
    cases hlast
    exact congrArg Except.error (Option.some.inj hx)
  | refused left id he =>
    cases hlast
    exact congrArg Except.error (Option.some.inj ((failure_add he).symm.trans hx))
  | registered left id =>
    cases hlast
    cases hx
  | lost id h ih =>
    obtain hlast | ⟨-, rfl⟩ := getLast?_pair_append.mp hlast
    · exact ih hlast
    · cases hx

/-- Only rounds that have all lost their ids lose as many ids as there are rounds. -/
theorem result_of_allLost (h : Course p total left es r)
    (hlost : (es.filterMap lostId).length = left) : r = .error (.exhausted total) := by
  induction h with
  | gaveUp => rfl
  | notGenerated left e => cases hlost
  | refused left id he =>
    rw [List.filterMap_cons_none rfl, List.filterMap_cons_none (lostId_add he)] at hlost
    cases hlost
  | registered left id => cases hlost
  | lost id h ih => exact ih (Nat.succ.inj hlost)

/-- **A registration ends with an error exactly if its last call has failed with it, or if
every round has lost its id** and the error says that the rounds are used up. -/
theorem error_iff (h : Course p total left es r) (e : StoreError) :
    r = .error e ↔ (∃ x, es.getLast? = some x ∧ failure x = some e) ∨
      (es.filterMap lostId).length = left ∧ e = .exhausted total := by
  constructor
  · intro hr
    induction h with
    | gaveUp => exact .inr ⟨rfl, (Except.error.inj hr).symm⟩
    | notGenerated left e' => exact .inl ⟨_, rfl, congrArg some (Except.error.inj hr)⟩
    | refused left id he =>
      exact .inl ⟨_, rfl, (failure_add he).trans (congrArg some (Except.error.inj hr))⟩
    | registered left id => cases hr
    | lost id h ih =>
      obtain ⟨x, hlast, hx⟩ | ⟨hlost, he⟩ := ih hr
      · exact .inl ⟨x, getLast?_pair_append.mpr (.inl hlast), hx⟩
      · exact .inr ⟨congrArg Nat.succ hlost, he⟩
  · rintro (⟨x, hlast, hx⟩ | ⟨hlost, rfl⟩)
    · exact h.result_of_last hlast hx
    · exact h.result_of_allLost hlost

theorem length_isGenerate_le (h : Course p total left es r) :
    (es.filter isGenerate).length ≤ left := by
  induction h with
  | gaveUp => exact Nat.le_refl 0
  | notGenerated left e => exact Nat.succ_le_succ (Nat.zero_le left)
  | refused left id he => exact Nat.succ_le_succ (Nat.zero_le left)
  | registered left id => exact Nat.succ_le_succ (Nat.zero_le left)
  | lost id h ih => exact Nat.succ_le_succ ih

theorem length_isAdd_le (h : Course p total left es r) : (es.filter isAdd).length ≤ left := by
  induction h with
  | gaveUp => exact Nat.le_refl 0
  | notGenerated left e => exact Nat.zero_le _
  | refused left id he => exact Nat.succ_le_succ (Nat.zero_le left)
  | registered left id => exact Nat.succ_le_succ (Nat.zero_le left)
  | lost id h ih => exact Nat.succ_le_succ ih

/-- The user that a registration ends with is the only one that it has inserted. -/
theorem addedUsers (h : Course p total left es r) :
    es.filterMap addedUser = r.toOption.toList := by
  induction h with
  | gaveUp => rfl
  | notGenerated left e => rfl
  | refused left id he => rfl
  | registered left id => rfl
  | lost id h ih => exact ih

end Course

/-- A registration begins with a round. -/
theorem exists_bound_eq (configured : Nat) : ∃ n, bound configured = n + 1 :=
  ⟨bound configured - 1, by have : 1 ≤ bound configured := Nat.le_max_right _ _; omega⟩

/-! ### A round with a store -/

section Rounds

variable {σ : Type} {S : Store σ} {s s₁ : σ} {p : Profile} {total left attempt : Nat}
  {id : AccountId}

theorem rounds_notGenerated {e : StoreError} (hid : (S .generate s).value = .error e) :
    (rounds p total (left + 1) attempt).RunsTo S s [⟨.generate, .error e⟩] (.error e)
      (S .generate s).state :=
  .ask hid rfl (.done _ _)

variable (hid : (S .generate s).value = .ok id) (hs : (S .generate s).state = s₁)
include hid hs

theorem rounds_nameTaken
    (hadd : (S (.add (p.withId id)) s₁).value = .error (.duplicate .username)) :
    (rounds p total (left + 1) attempt).RunsTo S s
      [⟨.generate, .ok id⟩, ⟨.add (p.withId id), .error (.duplicate .username)⟩]
      (.error (.duplicate .username)) (S (.add (p.withId id)) s₁).state :=
  .ask hid hs (.ask hadd rfl (.done _ _))

theorem rounds_registered (hadd : (S (.add (p.withId id)) s₁).value = .ok ()) :
    (rounds p total (left + 1) attempt).RunsTo S s
      [⟨.generate, .ok id⟩, ⟨.add (p.withId id), .ok ()⟩] (.ok (p.withId id))
      (S (.add (p.withId id)) s₁).state :=
  .ask hid hs (.ask hadd rfl (.note _ (.done _ _)))

/-- After a lost id the next round follows. -/
theorem rounds_lost {es : List (Exchange StoreCall.interface)} {r : Except StoreError User} {t : σ}
    (hadd : (S (.add (p.withId id)) s₁).value = .error (.duplicate .accountId))
    (hrest : (rounds p total left (attempt + 1)).RunsTo S (S (.add (p.withId id)) s₁).state es r
      t) :
    (rounds p total (left + 1) attempt).RunsTo S s (⟨.generate, .ok id⟩ ::
      ⟨.add (p.withId id), .error (.duplicate .accountId)⟩ :: es) r t :=
  .ask hid hs (.ask hadd rfl (.note _ hrest))

end Rounds

/-! ### A registration with any store -/

/-- A registration of `p` in at most `m` rounds makes the calls `es`, gets the answers in them,
and ends with `r`. -/
structure Proceeds (p : Profile) (m : Nat) (es : List (Exchange StoreCall.interface))
    (r : Except StoreError User) : Prop where
  course : Course p m m es r
  /-- It begins with a generation, and every id generated is inserted next, with the profile
  as it is; only the last generation may have failed. -/
  alternates : es ≠ [] ∧ ∃ last, (last = [] ∨ last = [.generate]) ∧
    es.map Exchange.question = (es.filterMap generatedId).flatMap
      (fun id => [.generate, .add { toProfile := p, accountId := id }]) ++ last
  /-- After an insert there is another call exactly if the id has been lost, and not in the
  last round. -/
  goes_on : ∀ before u a after, es = before ++ ⟨.add u, a⟩ :: after →
    (after ≠ [] ↔ a = .error (.duplicate .accountId) ∧ (before.filter isAdd).length + 1 < m)
  ok_iff : ∀ u, r = .ok u ↔ es.getLast? = some ⟨.add u, .ok ()⟩
  /-- No call follows one that has failed otherwise than by a lost id. -/
  failure_last : ∀ x ∈ es, ∀ e, failure x = some e → es.getLast? = some x
  /-- The result is the error of the last call, or that of `m` rounds that all have lost
  their ids. -/
  error_iff : ∀ e, r = .error e ↔ (∃ x, es.getLast? = some x ∧ failure x = some e) ∨
    (es.filterMap lostId).length = m ∧ e = .exhausted m
  generates_le : (es.filter isGenerate).length ≤ m
  adds_le : (es.filter isAdd).length ≤ m
  added_le : (es.filterMap addedUser).length ≤ 1

/-- **A registration with any store.**  It asks for an id and for an insert in turn, goes on
only after a lost id, and stops with the first user that is inserted, with the first other
failure, or when all of its rounds, at least one, are used up; the store is asked nothing
else. -/
theorem registration_proceeds {σ : Type} (S : Store σ) (s : σ) (configured : Nat) (p : Profile) :
    let d := register configured p
    S.Gives s (d.transcript S s) (d.run S s).state ∧
      Proceeds p (max 1 configured) (d.transcript S s) (d.run S s).value := by
  intro d
  have hbound : max 1 configured = bound configured := Nat.max_comm 1 configured
  have h : Course p (bound configured) (bound configured) (d.transcript S s) (d.run S s).value :=
    course_of_reaches (Dialogue.reaches_transcript S d s)
  rw [← hbound] at h
  refine ⟨d.gives_transcript S s, h, ⟨?_, h.questions⟩, fun _ _ _ _ hes => h.goes_on hes,
    h.ok_iff, fun _ hx _ he => h.last_of_failure hx he, h.error_iff, h.length_isGenerate_le,
    h.length_isAdd_le, ?_⟩
  · rw [ne_eq, h.eq_nil_iff]
    omega
  · rw [h.addedUsers]
    cases (d.run S s).value with
    | error e => exact Nat.zero_le 1
    | ok u => exact Nat.le_refl 1

end Service

end AccountRegistry
