/-
Reading JSON text.

* **Json.parse** — the value that a whole text denotes;
* **Json.readValue** — one value at the head of a text;
* **Json.skipValue** — passes over one value; it looks neither at the size of numbers, nor
  at surrogates, nor at how deep lists and objects are nested;
* **Json.nextItem**, **Json.nextMember** — the commas between items and members.

Design notes: the first argument of the recursive functions bounds the steps they may
take.  A bracket takes two steps, any other character at most one, so `steps` is enough.
-/
import AccountRegistry.Json.Scan

namespace AccountRegistry.Json

/-- Lists and objects may be nested this deep. -/
def greatestDepth : Nat := 127

/-- Goes to the next item of a list: whether there is one, and the characters from it or
from the closing bracket on. -/
def nextItem (first : Bool) (cs : List Char) : Except Fault (Bool × List Char) :=
  match skipSpace cs with
  | [] => .error (.ended .list)
  | ']' :: rest => .ok (false, ']' :: rest)
  | ',' :: rest =>
    if first then .ok (true, ',' :: rest)
    else match skipSpace rest with
      | [] => .error (.ended .value)
      | ']' :: _ => .error (.mistake .trailingComma)
      | next => .ok (true, next)
  | next => if first then .ok (true, next) else .error (.mistake .listEndExpected)

/-- Goes to the next member of an object: whether there is one, and the characters after
the quote that opens its name or from the closing brace on. -/
def nextMember (first : Bool) (cs : List Char) : Except Fault (Bool × List Char) :=
  match skipSpace cs with
  | [] => .error (.ended .object)
  | '}' :: rest => .ok (false, '}' :: rest)
  | ',' :: rest =>
    if first then .error (.mistake .keyNotText)
    else match skipSpace rest with
      | [] => .error (.ended .value)
      | '"' :: name => .ok (true, name)
      | '}' :: _ => .error (.mistake .trailingComma)
      | _ => .error (.mistake .keyNotText)
  | c :: rest =>
    if !first then .error (.mistake .objectEndExpected)
    else if c = '"' then .ok (true, rest)
    else .error (.mistake .keyNotText)

/-- Reads the colon between a name and its value. -/
def readColon (cs : List Char) : Except Fault (List Char) :=
  match skipSpace cs with
  | [] => .error (.ended .object)
  | ':' :: rest => .ok rest
  | _ => .error (.mistake .colonExpected)

/-- Reads the end of a list none of whose items is wanted any more. -/
def endList (cs : List Char) : Except Fault (List Char) :=
  match skipSpace cs with
  | [] => .error (.ended .list)
  | ']' :: rest => .ok rest
  | ',' :: rest =>
    match skipSpace rest with
    | ']' :: _ => .error (.mistake .trailingComma)
    | _ => .error (.mistake .trailingCharacters)
  | _ => .error (.mistake .trailingCharacters)

/-- Reads the end of an object. -/
def endObject (cs : List Char) : Except Fault (List Char) :=
  match skipSpace cs with
  | [] => .error (.ended .object)
  | '}' :: rest => .ok rest
  | ',' :: _ => .error (.mistake .trailingComma)
  | _ => .error (.mistake .trailingCharacters)

mutual

/-- Reads one value; `depth` more levels may be opened in it. -/
def readValue : Nat → Nat → List Char → Except Fault (Value × List Char)
  | 0, _, _ => .error (.ended .value)
  | n + 1, depth, cs =>
    match skipSpace cs with
    | [] => .error (.ended .value)
    | 'n' :: rest => do
      let rest ← expectWord ['u', 'l', 'l'] rest
      .ok (.null, rest)
    | 't' :: rest => do
      let rest ← expectWord ['r', 'u', 'e'] rest
      .ok (.bool true, rest)
    | 'f' :: rest => do
      let rest ← expectWord ['a', 'l', 's', 'e'] rest
      .ok (.bool false, rest)
    | '"' :: rest => do
      let (s, rest) ← readText rest
      .ok (.text (.ofList s), rest)
    | '-' :: rest => do
      let (x, rest) ← readNumber true rest
      .ok (.number x, rest)
    | '[' :: rest =>
      match depth with
      | 0 => .error (.mistake .tooDeep)
      | depth + 1 => do
        let (vs, rest) ← readItems n depth true rest
        .ok (.list vs, rest)
    | '{' :: rest =>
      match depth with
      | 0 => .error (.mistake .tooDeep)
      | depth + 1 => do
        let (ms, rest) ← readMembers n depth true rest
        .ok (.object ms, rest)
    | c :: rest =>
      if c.isDigit then do
        let (x, rest) ← readNumber false (c :: rest)
        .ok (.number x, rest)
      else .error (.mistake .valueExpected)

/-- Reads the items of a list that are left, and its end. -/
def readItems : Nat → Nat → Bool → List Char → Except Fault (List Value × List Char)
  | 0, _, _, _ => .error (.ended .list)
  | n + 1, depth, first, cs => do
    let (more, rest) ← nextItem first cs
    if more then
      let (v, rest) ← readValue n depth rest
      let (vs, rest) ← readItems n depth false rest
      .ok (v :: vs, rest)
    else .ok ([], rest.drop 1)

/-- Reads the members of an object that are left, and its end. Of two members of one name
the later one counts. -/
def readMembers : Nat → Nat → Bool → List Char → Except Fault (Members × List Char)
  | 0, _, _, _ => .error (.ended .object)
  | n + 1, depth, first, cs => do
    let (more, rest) ← nextMember first cs
    if more then
      let (name, rest) ← readText rest
      let rest ← readColon rest
      let (v, rest) ← readValue n depth rest
      let (ms, rest) ← readMembers n depth false rest
      .ok (Members.insertNew (.ofList name) v ms, rest)
    else .ok ([], rest.drop 1)

end

/-- Goes to the next item of a list that nobody reads. What stands after a comma is left
to the reader of the item. -/
def skipToItem (first : Bool) (cs : List Char) : Except Fault (Bool × List Char) :=
  match skipSpace cs with
  | [] => .error (.ended .list)
  | ']' :: rest => .ok (false, ']' :: rest)
  | c :: rest =>
    if first then .ok (true, c :: rest)
    else if c = ',' then .ok (true, rest)
    else .error (.mistake .listEndExpected)

/-- The opening quote of a name. -/
def openName (cs : List Char) : Except Fault (Bool × List Char) :=
  match cs with
  | [] => .error (.ended .object)
  | '"' :: rest => .ok (true, rest)
  | _ => .error (.mistake .keyNotText)

/-- Goes to the next member of an object that nobody reads. -/
def skipToMember (first : Bool) (cs : List Char) : Except Fault (Bool × List Char) :=
  match skipSpace cs with
  | [] => .error (.ended .object)
  | '}' :: rest => .ok (false, '}' :: rest)
  | c :: rest =>
    if first then openName (c :: rest)
    else if c = ',' then openName (skipSpace rest)
    else .error (.mistake .objectEndExpected)

mutual

/-- Passes over one value. -/
def skipValue : Nat → List Char → Except Fault (List Char)
  | 0, _ => .error (.ended .value)
  | n + 1, cs =>
    match skipSpace cs with
    | [] => .error (.ended .value)
    | 'n' :: rest => expectWord ['u', 'l', 'l'] rest
    | 't' :: rest => expectWord ['r', 'u', 'e'] rest
    | 'f' :: rest => expectWord ['a', 'l', 's', 'e'] rest
    | '"' :: rest => skipText rest
    | '-' :: rest => skipNumber rest
    | '[' :: rest => skipItems n true rest
    | '{' :: rest => skipMembers n true rest
    | c :: rest => if c.isDigit then skipNumber (c :: rest) else .error (.mistake .valueExpected)

/-- Passes over the items of a list that are left, and its end. -/
def skipItems : Nat → Bool → List Char → Except Fault (List Char)
  | 0, _, _ => .error (.ended .list)
  | n + 1, first, cs => do
    let (more, rest) ← skipToItem first cs
    if more then
      let rest ← skipValue n rest
      skipItems n false rest
    else .ok (rest.drop 1)

/-- Passes over the members of an object that are left, and its end. -/
def skipMembers : Nat → Bool → List Char → Except Fault (List Char)
  | 0, _, _ => .error (.ended .object)
  | n + 1, first, cs => do
    let (more, rest) ← skipToMember first cs
    if more then
      let rest ← skipText rest
      let rest ← readColon rest
      let rest ← skipValue n rest
      skipMembers n false rest
    else .ok (rest.drop 1)

end

/-- The end of a whole text: nothing but spaces may follow. -/
def endText (cs : List Char) : Except Fault Unit :=
  if (skipSpace cs).isEmpty then .ok () else .error (.mistake .trailingCharacters)

/-- A number of steps that suffices for a text. -/
def steps (cs : List Char) : Nat :=
  2 * cs.length + 2

/-- The value that a whole text denotes. -/
def parse (s : String) : Except Fault Value := do
  let cs := s.toList
  let (v, rest) ← readValue (steps cs + 1) greatestDepth cs
  endText rest
  .ok v

end AccountRegistry.Json
