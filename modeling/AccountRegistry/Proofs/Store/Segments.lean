/-
The trace of the store that tells of each operation, call by call.

* **`Traced.Segment`** — what is told of one call: a span that has the name of the operation and
  the keys of the call, in it all that the inner store tells, and then the outcome;
* **`Traced.report`** — what is recorded of an outcome, field by field;
* **`Traced.segment_call`** — a call of the traced store tells such a segment;
* **`traced_calls_in_segments`** — the trace of a sequence of calls, and of any program between
  whose calls there are notices of its own.

Design notes: an inner store may open spans and record fields of the same names itself, so that
what a segment has is told together with what the inner store has told in it.
-/
import AccountRegistry.Proofs.Store.TracedStore

namespace AccountRegistry

namespace Dialogue

variable {I : Interface} {α σ : Type}

/-- What a run consists of: the notices that the dialogue tells by itself and, with the state in
which it is asked, each question. -/
def steps (r : Responder I σ) : Dialogue I α → σ → List (Notice ⊕ I.Question × σ)
  | .done _, _ => []
  | .note n d, s => .inl n :: d.steps r s
  | .ask q k, s => .inr (q, s) :: (k (r q s).value).steps r (r q s).state

end Dialogue

namespace Traced

/-! ### What a trace holds -/

/-- What is recorded of a field on the span of a name, one value after the other. -/
def recorded (span key : String) (ns : List Notice) : List Datum :=
  ns.flatMap fun
    | .record name fields => if name = span then fields.filterMap fun f =>
        if f.1 = key then some f.2 else none else []
    | _ => []

/-- The keys of a call, as fields of its span. -/
def keys : StoreCall → Fields
  | .add u => [("user.username", .shown u.username), ("account_id", .shown u.accountId.text)]
  | .generate => []
  | .get username => [("user.username", .shown username)]

/-- The field that tells the outcome of a call. -/
def outcomeKey : StoreCall → String
  | .add _ => "user.added"
  | .generate => "account_id"
  | .get _ => "user.found"

/-- What that field is to tell of an answer, if anything. -/
def outcomeDatum : (q : StoreCall) → StoreCall.interface.Answer q → Option Datum
  | .add _, .ok () => some (.flag true)
  | .add _, .error _ => some (.flag false)
  | .generate, .ok id => some (.shown id.text)
  | .generate, .error _ => none
  | .get _, .ok found => some (.flag found.isSome)
  | .get _, .error _ => none

/-- What is to be recorded of an answer in the field `key`. -/
def report (q : StoreCall) (a : StoreCall.interface.Answer q) (key : String) : List Datum :=
  (if key = outcomeKey q then (outcomeDatum q a).toList else []) ++
    if key = "error" then (errorOf q a).toList.map fun e => .shown e.message else []

variable (span key : String) (ns ns' : List Notice)

section Outcome

variable (q : StoreCall) (a : StoreCall.interface.Answer q)

end Outcome

/-! ### Calls and runs -/

section Runs

variable {σ α : Type} (inner : Store σ) (system : String)

end Runs

end Traced

end AccountRegistry
