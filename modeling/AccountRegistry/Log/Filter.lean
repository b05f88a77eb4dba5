/-
Log filters: which events a log shows.

* **Directive** — a rule of a filter: a target, a span or fields, and the most verbose level
  that it lets through;
* **LogFilter.parse** — reads a filter, its directives separated by commas;
* **LogFilter.level** — the most verbose level for events of a target;
* **LogFilter.shows** — whether an event is shown.

The directive with the longest target that the target of an event begins with decides.  Of
two directives with the same target the later one counts.
-/
import AccountRegistry.Notice
import AccountRegistry.Text.Alphanumeric
import AccountRegistry.Text.Blank
import AccountRegistry.Text.Casing
import AccountRegistry.Text.Search
import AccountRegistry.Date

namespace AccountRegistry

/-- Why a text is no filter. -/
inductive FilterFault where
  | directive
  | level
  deriving DecidableEq

/-- The wording of a fault. -/
def FilterFault.message : FilterFault → String
  | .directive => "invalid filter directive"
  | .level =>
    "error parsing level filter: expected one of \"off\", \"error\", \"warn\", \"info\", " ++
    "\"debug\", \"trace\", or a number 0-5"

/-- A rule of a filter. No level lets nothing through. -/
structure Directive where
  level : Option Level
  target : Option String := none
  span : Option String := none
  /-- The fields that must be there. -/
  fields : List String := []
  /-- Whether some field must have a given value. -/
  valued : Bool := false
  deriving DecidableEq, Inhabited

/-- The rules of a filter in the order in which they are written. -/
structure LogFilter where
  directives : List Directive
  deriving DecidableEq, Inhabited

namespace Directive

/-- The levels by number; zero lets nothing through. -/
def numbered : List (Option Level) :=
  [none, some .error, some .warn, some .info, some .debug, some .trace]

/-- The number that a text denotes. -/
def levelNumber (cs : List Char) : Option Nat :=
  let ds := match cs with
    | '+' :: ds => ds
    | ds => ds
  if !ds.isEmpty && ds.all Char.isDigit then some (Date.digitsValue ds) else none

/-- The level of a name in letters of either case. -/
def levelNamed (s : String) : Option (Option Level) :=
  match Text.asciiLowercase s with
  | "off" => some none
  | "error" => some (some .error)
  | "warn" => some (some .warn)
  | "info" => some (some .info)
  | "debug" => some (some .debug)
  | "trace" => some (some .trace)
  | _ => none

/-- The level that a text denotes, by its name or its number. -/
def readLevel (cs : List Char) : Option (Option Level) :=
  match (levelNumber cs).bind (numbered[·]?) with
  | some level => some level
  | none => levelNamed (.ofList cs)

/-- The level after an equals sign; without one, everything is let through. -/
def levelAfter (cs : List Char) : Except FilterFault (Option Level) :=
  if cs.isEmpty then .ok (some .trace)
  else match readLevel cs with
    | some level => .ok level
    | none => .error .level

/-- Where the reader of a directive is. The numbers are positions in it. -/
inductive Place where
  | start
  | word (start : Nat)
  | span (start : Nat)
  | field (start : Nat)
  | fieldsEnd
  | targetEnd
  | level (start : Nat)

/-- What the reader of a directive has found so far. -/
structure Reading where
  place : Place
  found : Directive

/-- Adds the condition on a field. -/
def addField (text : List Char) (d : Directive) : Except FilterFault Directive :=
  if text.isEmpty then .error .directive
  else
    let (name, value) := (Text.splitOnce '=' text).map (fun (a, b) => (a, some b))
      |>.getD (text, none)
    .ok { d with fields := d.fields ++ [.ofList name], valued := d.valued || value.isSome }

/-- Reads the character `c` at position `i` of a directive; `slice` gives parts of it. -/
def step (slice : Nat → Nat → List Char) (r : Reading) (i : Nat) (c : Char) :
    Except FilterFault Reading :=
  let d := r.found
  match r.place with
  | .start =>
    if c = '[' then .ok { r with place := .span (i + 1) }
    else if c = '-' ∨ c = ':' ∨ c = '_' ∨ Text.isAlphanumeric c then
      .ok { r with place := .word i }
    else .error .directive
  | .word start =>
    if c = '=' then .ok ⟨.level (i + 1), { d with target := some (.ofList (slice start i)) }⟩
    else if c = '[' then .ok ⟨.span (i + 1), { d with target := some (.ofList (slice start i)) }⟩
    else .ok r
  | .span start =>
    let name := slice start i
    if c = ']' then .ok ⟨.targetEnd, { d with span := some (.ofList name) }⟩
    else if c = '\x7b' then
      .ok ⟨.field (i + 1), { d with span := if name.isEmpty then none else some (.ofList name) }⟩
    else .ok r
  | .field start =>
    if c = '\x7d' then (addField (slice start i) d).map fun d => ⟨.fieldsEnd, d⟩ else .ok r
  | .fieldsEnd => if c = ']' then .ok { r with place := .targetEnd } else .error .directive
  | .targetEnd => if c = '=' then .ok { r with place := .level (i + 1) } else .error .directive
  | .level _ => .ok r

/-- Ends the reading of a directive; `rest` gives what follows a position. -/
def finish (rest : Nat → List Char) (r : Reading) : Except FilterFault Directive :=
  match r.place with
  | .word start =>
    match readLevel (rest start) with
    | some level => .ok { r.found with level }
    | none => .ok { r.found with target := some (.ofList (rest start)) }
  | .level start => (levelAfter (rest start)).map fun level => { r.found with level }
  | .targetEnd => .ok r.found
  | .start | .span _ | .field _ | .fieldsEnd => .error .directive

/-- The directive that a text denotes. White space around it does not end a word but is not
taken off either: positions are those of the trimmed text, and parts are taken from the
whole one. -/
def parse (cs : List Char) : Except FilterFault Directive := do
  let slice := fun a b => (cs.drop a).take (b - a)
  let indexed := (Text.trimmed cs).zipIdx
  let r ← indexed.foldlM (fun r (c, i) => step slice r i c) ⟨.start, { level := some .trace }⟩
  finish (cs.drop ·) r

/-- Whether the directive decides about events by themselves. -/
def isPlain (d : Directive) : Bool :=
  d.span.isNone && !d.valued

/-- Whether the directive decides about spans and what happens in them. -/
def isScoped (d : Directive) : Bool :=
  d.span.isSome || !d.fields.isEmpty

/-- Whether a target begins with that of the directive. -/
def covers (d : Directive) (target : String) : Bool :=
  match d.target with
  | some t => t.toList.isPrefixOf target.toList
  | none => true

/-- Whether all fields of the directive are among `names`. -/
def hasFields (d : Directive) (names : List String) : Bool :=
  d.fields.all names.contains

/-- How specific the directive is: by its target, then by its fields. -/
def rank (d : Directive) : Nat × Nat :=
  (match d.target with
    | some t => t.utf8ByteSize + 1
    | none => 0, d.fields.length)

/-- Whether `a` gives way to `b`, which is written later. -/
def yieldsTo (a b : Directive) : Bool :=
  let (m, k) := a.rank
  let (n, l) := b.rank
  m < n || (m == n && k ≤ l)

/-- The most specific of some directives, of equals the last. -/
def mostSpecific (ds : List Directive) : Option Directive :=
  ds.foldl (fun best d =>
    match best with
    | none => some d
    | some b => some (if yieldsTo b d then d else b)) none

end Directive

/-- Whether a level lets an event through. -/
def admits (limit : Option Level) (level : Level) : Bool :=
  match limit with
  | none => false
  | some l => level.rank ≤ l.rank

namespace LogFilter

/-- The filter that a text denotes. Empty directives are passed over. -/
def parse (s : String) : Except FilterFault LogFilter := do
  let pieces := (Text.splitOn ',' s.toList).filter (!·.isEmpty)
  .ok ⟨← pieces.mapM Directive.parse⟩

/-- The most verbose level for what has the given target and fields; spans are not asked for
fields. -/
def limit (f : LogFilter) (target : String) (names : Option (List String)) : Option Level :=
  let fits := fun (d : Directive) =>
    d.isPlain && d.covers target && (match names with
      | some names => d.hasFields names
      | none => true)
  (Directive.mostSpecific (f.directives.filter fits)).bind (·.level)

/-- The most verbose level for plain events of a target. -/
def level (f : LogFilter) (target : String) : Option Level :=
  f.limit target (some ["message"])

/-- The level that a scoped directive sets inside a span. -/
def spanLimit (f : LogFilter) (target name : String) (fields : List String) : Option Level :=
  let fits := fun (d : Directive) =>
    d.isScoped && !d.valued && d.covers target && (d.span.isNone || d.span == some name) &&
      d.hasFields fields
  (Directive.mostSpecific (f.directives.filter fits)).bind (·.level)

/-- Whether an event is shown by itself. -/
def shows (f : LogFilter) (e : Event) : Bool :=
  let names := (if e.message.isEmpty then [] else ["message"]) ++ e.fields.map (·.1)
  admits (f.limit e.target (some names)) e.level

end LogFilter

end AccountRegistry
