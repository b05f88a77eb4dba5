/-
A store that answers from lists, for trying the service out.

* **Script** — the answers that are left for each operation, and the calls seen so far;
* **Store.scripted** — the store; an operation without an answer left fails;
* **Probe**, **Probe.respond** — the same for the generator: a source, the ids that are
  taken, and a check that fails.
-/
import AccountRegistry.Store.Calls
import AccountRegistry.Candidates
import AccountRegistry.Generator

namespace AccountRegistry

/-- The answers that are left, and the calls seen so far with the latest first. -/
structure Script where
  generate : List (Except StoreError AccountId)
  add : List (Except StoreError Unit)
  get : List (Except StoreError (Option User))
  calls : List StoreCall := []

namespace Script

/-- The failure of an operation without an answer left. -/
def exhausted : StoreError := .query "script exhausted"

/-- The next answer of a list and the answers after it. -/
def pop {α : Type} : List (Except StoreError α) → Except StoreError α × List (Except StoreError α)
  | [] => (.error exhausted, [])
  | a :: rest => (a, rest)

end Script

/-- The store that answers from a script. -/
def Store.scripted : Store Script
  | .add u, s =>
    let (a, rest) := Script.pop s.add
    ⟨a, { s with add := rest, calls := .add u :: s.calls }, []⟩
  | .generate, s =>
    let (a, rest) := Script.pop s.generate
    ⟨a, { s with generate := rest, calls := .generate :: s.calls }, []⟩
  | .get name, s =>
    let (a, rest) := Script.pop s.get
    ⟨a, { s with get := rest, calls := .get name :: s.calls }, []⟩

/-- What the generator is tried out against. -/
structure Probe where
  source : CandidateSource
  taken : List AccountId
  /-- The number of the check that fails, if one does, and its error. -/
  failure : Option (Nat × StoreError)
  /-- The ids checked so far, the latest first. -/
  checked : List AccountId := []

/-- Answers the generator from a probe. -/
def Probe.respond : Responder Trial.interface Probe
  | .draw, p => ⟨p.source.draw.1, { p with source := p.source.draw.2 }, []⟩
  | .check id, p =>
    let q := { p with checked := id :: p.checked }
    match p.failure with
    | some (k, e) =>
      if q.checked.length = k then ⟨.error e, q, []⟩ else ⟨.ok (p.taken.contains id), q, []⟩
    | none => ⟨.ok (p.taken.contains id), q, []⟩

end AccountRegistry
