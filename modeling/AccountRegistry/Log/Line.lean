/-
Log lines: what a log shows of the notices of a program.

**LogFilter.lines** — the lines for some notices: the level, the span with its fields, the
place that the event comes from, the message and the fields.

The time of an event is left out, and so is what the libraries tell of themselves.
-/
import AccountRegistry.Log.Filter
import AccountRegistry.Store.Traced
import AccountRegistry.Text.Quoted

namespace AccountRegistry

/-- A value in a log line. -/
def Datum.logText : Datum → String
  | .flag b => if b then "true" else "false"
  | .count n => .ofList (Nat.toDigits 10 n)
  | .shown s => s
  | .given s => Text.quoted s

/-- Fields in a log line. -/
def logFields (fs : Fields) : List String :=
  fs.map fun (name, d) => name ++ "=" ++ d.logText

/-- A span that is open: its name, the fields so far, and how it is treated. -/
structure OpenSpan where
  name : String
  fields : Fields
  /-- Whether lines show it. -/
  shown : Bool
  /-- The most verbose level for what happens in it. -/
  limit : Option Level

/-- The line of an event. -/
def Event.line (e : Event) (span : Option OpenSpan) : String :=
  let scope := match span with
    | some s => s.name ++ "\x7b" ++ " ".intercalate (logFields s.fields) ++ "\x7d: "
    | none => ""
  let message := if e.message.isEmpty then [] else [e.message]
  e.level.name ++ " " ++ scope ++ e.target ++ ": " ++
    " ".intercalate (message ++ logFields e.fields)

namespace LogFilter

/-- A span as it opens. -/
def openSpan (f : LogFilter) (name : String) (fields : Fields) : OpenSpan :=
  let limit := f.spanLimit Traced.target name (fields.map (·.1))
  { name, fields, limit
    shown := limit.isSome || admits (f.limit Traced.target none) .info }

/-- The lines for some notices; `current` is the span opened last. -/
def linesFrom (f : LogFilter) (current : Option OpenSpan) : List Notice → List String
  | [] => []
  | .span name fields :: ns => linesFrom f (some (f.openSpan name fields)) ns
  | .record _ fields :: ns =>
    linesFrom f (current.map fun s => { s with fields := s.fields ++ fields }) ns
  | .wait _ :: ns => linesFrom f current ns
  | .event e :: ns =>
    let span := if e.scope.isSome then current else none
    let inside := (span.bind (·.limit)).any fun l => admits (some l) e.level
    let rest := linesFrom f current ns
    if inside || f.shows e then
      e.line (span.filter (·.shown)) :: rest
    else rest

/-- The lines for some notices. -/
def lines (f : LogFilter) (ns : List Notice) : List String :=
  f.linesFrom none ns

end LogFilter

end AccountRegistry
