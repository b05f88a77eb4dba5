/-
Notices: what a running program tells about itself.

* **Event** — a message with a level, the place it comes from, and some fields;
* **Notice** — a span is opened, a field is recorded on it, an event happens, or time
  passes;
* **Notice.within** — the notice as seen inside a span;
* **waited** — the time that passes during some notices.
-/
import AccountRegistry.Duration

namespace AccountRegistry

/-- How important an event is. -/
inductive Level where
  | error | warn | info | debug | trace
  deriving DecidableEq, Inhabited

namespace Level

/-- The name of a level. -/
def name : Level → String
  | .error => "ERROR"
  | .warn => "WARN"
  | .info => "INFO"
  | .debug => "DEBUG"
  | .trace => "TRACE"

/-- The position of a level, the least verbose first. -/
def rank : Level → Nat
  | .error => 1
  | .warn => 2
  | .info => 3
  | .debug => 4
  | .trace => 5

end Level

/-- The value of a field. -/
inductive Datum where
  | flag (b : Bool)
  | count (n : Nat)
  /-- A text as it is displayed. -/
  | shown (s : String)
  /-- A text as a value, which a log puts between quotes. -/
  | given (s : String)
  deriving DecidableEq, Inhabited

/-- Named values. -/
abbrev Fields := List (String × Datum)

/-- A message of a program. -/
structure Event where
  level : Level
  /-- The part of the program that it comes from. -/
  target : String
  message : String
  fields : Fields
  /-- The innermost span that it happens in. -/
  scope : Option String := none
  deriving DecidableEq, Inhabited

/-- One thing that a program tells. -/
inductive Notice where
  | span (name : String) (fields : Fields)
  | record (span : String) (fields : Fields)
  | event (e : Event)
  | wait (d : Duration)
  deriving DecidableEq, Inhabited

/-- The notice inside the span `name`; an event that is in a span already stays there. -/
def Notice.within (name : String) : Notice → Notice
  | .event e => .event { e with scope := e.scope.or (some name) }
  | n => n

/-- The waits among some notices. -/
def waits (ns : List Notice) : List Duration :=
  ns.filterMap fun
    | .wait d => some d
    | _ => none

/-- The milliseconds that pass, each wait rounded up. -/
def waited (ns : List Notice) : Nat :=
  (waits ns).foldl (fun n d => n + d.toMillisUp) 0

end AccountRegistry
