/-
Sources of candidates for new account ids.

* **CandidateSource** — a queue of ids, and random ids once it is empty;
* **CandidateSource.draw** — takes the next candidate.
-/
import AccountRegistry.AccountId

namespace AccountRegistry

/-- Hands out a fixed sequence of candidates and then random ones. -/
structure CandidateSource where
  queue : List AccountId
  /-- How many random ids have been drawn. -/
  drawn : Nat
  /-- The random numbers in the order in which they are drawn. -/
  random : Nat → Nat

namespace CandidateSource

instance : Inhabited CandidateSource := ⟨⟨[], 0, id⟩⟩

/-- The source that begins with the given ids. -/
def scripted (ids : List AccountId) (random : Nat → Nat) : CandidateSource :=
  ⟨ids, 0, random⟩

/-- How many ids are left in the queue. -/
def remaining (s : CandidateSource) : Nat :=
  s.queue.length

/-- The next candidate: the head of the queue, or else a random number as an id. -/
def draw (s : CandidateSource) : AccountId × CandidateSource :=
  match s.queue with
  | id :: ids => (id, { s with queue := ids })
  | [] => (.clamped (s.random s.drawn), { s with drawn := s.drawn + 1 })

end CandidateSource

end AccountRegistry
