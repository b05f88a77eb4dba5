/-
What a source of candidates has in store.

* **`CandidateSource.ahead`**, **`CandidateSource.skip`** — the next candidates of a source,
  and the source once they have been drawn;
* **`CandidateSource.ahead_eq`** — they are what is left of the queue, and then random ids.
-/
import AccountRegistry.Candidates

namespace AccountRegistry

namespace CandidateSource

/-- The next `n` candidates. -/
def ahead (s : CandidateSource) : Nat → List AccountId
  | 0 => []
  | n + 1 => s.draw.1 :: s.draw.2.ahead n

/-- The source once `n` candidates have been drawn. -/
def skip (s : CandidateSource) : Nat → CandidateSource
  | 0 => s
  | n + 1 => s.draw.2.skip n

/-- The candidate that comes after `n` others. -/
def nth (s : CandidateSource) (n : Nat) : AccountId :=
  (s.skip n).draw.1

@[simp] theorem length_ahead (s : CandidateSource) (n : Nat) : (s.ahead n).length = n := by
  induction n generalizing s with
  | zero => rfl
  | succ n ih => rw [ahead, List.length_cons, ih]

theorem ahead_add (s : CandidateSource) (m n : Nat) :
    s.ahead (m + n) = s.ahead m ++ (s.skip m).ahead n := by
  induction m generalizing s with
  | zero => rw [Nat.zero_add]; rfl
  | succ m ih => rw [Nat.succ_add, ahead, ih, ahead, List.cons_append, skip]

theorem skip_add (s : CandidateSource) (m n : Nat) : s.skip (m + n) = (s.skip m).skip n := by
  induction m generalizing s with
  | zero => rw [Nat.zero_add]; rfl
  | succ m ih => rw [Nat.succ_add, skip, ih, skip]

/-- **What a source has in store**: what is left of its queue, and then random ids. -/
theorem ahead_eq (s : CandidateSource) (n : Nat) :
    s.ahead n = s.queue.take n ++ (List.range (n - s.queue.length)).map
      fun i => .clamped (s.random (s.drawn + i)) := by
  induction n generalizing s with
  | zero => simp [ahead]
  | succ n ih =>
    obtain ⟨queue, drawn, random⟩ := s
    rw [ahead, ih]
    cases queue with
    | nil =>
      simp [draw, List.range_succ_eq_map, Function.comp_def, Nat.add_comm, Nat.add_left_comm]
    | cons id ids => simp [draw]

theorem remaining_skip (s : CandidateSource) (n : Nat) :
    (s.skip n).remaining = s.remaining - n := by
  induction n generalizing s with
  | zero => rfl
  | succ n ih =>
    obtain ⟨queue, drawn, random⟩ := s
    rw [skip, ih]
    cases queue with
    | nil => simp [draw, remaining]
    | cons id ids => simp [draw, remaining]

end CandidateSource

end AccountRegistry
