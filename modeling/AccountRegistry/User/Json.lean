/-
Users and profiles as JSON.

* **Record** — a kind of record: its name, its columns in order, and what they make up;
* **Record.parse** — reads a record from JSON text; the first fault from left to right is
  the one that is told;
* **Record.ofJson** — the record that a JSON value denotes;
* **User.json**, **Profile.json** — the members in the order of the columns.

A record is an object with a member for each column, or a list of the values in order.
Members of other names are passed over.  All values are texts.
-/
import AccountRegistry.User
import AccountRegistry.Json.Reader
import AccountRegistry.Json.Printer

namespace AccountRegistry

/-- A kind of record. -/
structure Record (α : Type) where
  /-- The name that messages use. -/
  name : String
  /-- The columns in order. -/
  fields : List Field
  /-- What a draft makes up, or the first column that it lacks. -/
  build : Draft → Except Field α

/-- Users as records. -/
def User.record : Record User where
  name := "User"
  fields := Field.all
  build := Draft.user

/-- Profiles as records. -/
def Profile.record : Record Profile where
  name := "NewUser"
  fields := Field.ofProfile
  build := Draft.profile

/-- A value by its kind, as messages describe it. -/
inductive Found where
  | null
  | bool (b : Bool)
  | number (n : Json.Number)
  | text (s : String)
  | list
  | object
  deriving DecidableEq

/-- The description of what was found. -/
def Found.describe : Found → String
  | .null => "null"
  | .bool b => s!"boolean \x60{b}\x60"
  | .number (.real x) => "floating point \x60" ++ x.compactText ++ "\x60"
  | .number n => "integer \x60" ++ .ofList n.chars ++ "\x60"
  | .text s => "string " ++ Text.quoted s
  | .list => "sequence"
  | .object => "map"

/-- The kind of a value. -/
def Found.ofValue : Json.Value → Found
  | .null => .null
  | .bool b => .bool b
  | .number n => .number n
  | .text s => .text s
  | .list _ => .list
  | .object _ => .object

/-- What a place calls for. -/
inductive Wanted where
  | text
  | date
  | record (name : String)
  deriving DecidableEq

/-- The description of what is wanted. -/
def Wanted.describe : Wanted → String
  | .text => "a string"
  | .date => "a formatted date string"
  | .record name => "struct " ++ name

/-- What the place of a column calls for. -/
def Field.wanted : Field → Wanted
  | .birthday => .date
  | _ => .text

/-- Why JSON does not denote a record. -/
inductive RecordFault where
  | missing (f : Field)
  | duplicate (f : Field)
  | wrongType (found : Found) (wanted : Wanted)
  /-- A list ends before the last column. -/
  | tooShort (length : Nat) (name : String) (columns : Nat)
  /-- A list goes on after the last column. -/
  | tooLong (length : Nat)
  | field (e : Field.Fault)
  deriving DecidableEq

/-- The wording of a fault. -/
def RecordFault.message : RecordFault → String
  | .missing f => "missing field \x60" ++ f.name ++ "\x60"
  | .duplicate f => "duplicate field \x60" ++ f.name ++ "\x60"
  | .wrongType found wanted =>
    "invalid type: " ++ found.describe ++ ", expected " ++ wanted.describe
  | .tooShort n name k => s!"invalid length {n}, expected struct {name} with {k} elements"
  | .tooLong n => s!"invalid length {n}, expected fewer elements in array"
  | .field e => e.message

/-- Why a text denotes no record. -/
inductive ReadFault where
  | text (e : Json.Fault)
  | data (e : RecordFault)
  deriving DecidableEq

/-- The wording of a fault. -/
def ReadFault.message : ReadFault → String
  | .text e => e.message
  | .data e => e.message

/-- A fault of the text as a fault of reading. -/
def onText {α : Type} (x : Except Json.Fault α) : Except ReadFault α :=
  x.mapError .text

/-- A fault of the data as a fault of reading. -/
def onData {α : Type} (x : Except RecordFault α) : Except ReadFault α :=
  x.mapError .data

/-- The column of the given name among some columns. -/
def Field.named? (fields : List Field) (name : String) : Option Field :=
  fields.find? (·.name == name)

/-! ### From text -/

/-- What stands at the head of a text, which has no leading spaces, where something else is
called for. The text itself may be at fault before that. -/
def readFound (cs : List Char) : Except Json.Fault Found :=
  match cs with
  | 'n' :: rest => (Json.expectWord ['u', 'l', 'l'] rest).map fun _ => .null
  | 't' :: rest => (Json.expectWord ['r', 'u', 'e'] rest).map fun _ => .bool true
  | 'f' :: rest => (Json.expectWord ['a', 'l', 's', 'e'] rest).map fun _ => .bool false
  | '-' :: rest => (Json.readNumber true rest).map fun (n, _) => .number n
  | '"' :: rest => (Json.readText rest).map fun (s, _) => .text (.ofList s)
  | '[' :: _ => .ok .list
  | '{' :: _ => .ok .object
  | c :: rest =>
    if c.isDigit then (Json.readNumber false (c :: rest)).map fun (n, _) => .number n
    else .error (.mistake .valueExpected)
  | [] => .error (.ended .value)

/-- Reads something that the place does not call for, and says so. -/
def refuse {α : Type} (wanted : Wanted) (cs : List Char) : Except ReadFault α := do
  let found ← onText (readFound cs)
  .error (.data (.wrongType found wanted))

/-- Reads the value of a column. -/
def readField (f : Field) (cs : List Char) : Except ReadFault (f.Value × List Char) :=
  match Json.skipSpace cs with
  | '"' :: rest => do
    let (s, rest) ← onText (Json.readText rest)
    let v ← onData ((f.decode (.ofList s)).mapError .field)
    .ok (v, rest)
  | rest => refuse f.wanted rest

/-- Reads the members of an object that are left, and its end. -/
def readRecordMembers (fields : List Field) :
    Nat → Bool → Draft → List Char → Except ReadFault (Draft × List Char)
  | 0, _, _, _ => .error (.text (.ended .object))
  | n + 1, first, draft, cs => do
    let (more, rest) ← onText (Json.nextMember first cs)
    if more then
      let (name, rest) ← onText (Json.readText rest)
      match Field.named? fields (.ofList name) with
      | some f =>
        if (draft f).isSome then .error (.data (.duplicate f))
        else
          let rest ← onText (Json.readColon rest)
          let (v, rest) ← readField f rest
          readRecordMembers fields n false (draft.set f v) rest
      | none =>
        let rest ← onText (Json.readColon rest)
        let rest ← onText (Json.skipValue n rest)
        readRecordMembers fields n false draft rest
    else .ok (draft, rest)

/-- Reads the values of the columns from a list; `length` items have been read. -/
def readRecordItems (name : String) (columns : Nat) :
    List Field → Nat → Draft → List Char → Except ReadFault (Draft × List Char)
  | [], _, draft, cs => .ok (draft, cs)
  | f :: fs, length, draft, cs => do
    let (more, rest) ← onText (Json.nextItem (length == 0) cs)
    if more then
      let (v, rest) ← readField f rest
      readRecordItems name columns fs (length + 1) (draft.set f v) rest
    else .error (.data (.tooShort length name columns))

namespace Record

variable {α : Type}

/-- What the draft makes up. -/
def finish (r : Record α) (draft : Draft) : Except RecordFault α :=
  (r.build draft).mapError .missing

/-- Reads a record at the head of a text. -/
def read (r : Record α) (cs : List Char) : Except ReadFault (α × List Char) :=
  match Json.skipSpace cs with
  | '[' :: rest => do
    let (draft, rest) ← readRecordItems r.name r.fields.length r.fields 0 .empty rest
    let u ← onData (r.finish draft)
    let rest ← onText (Json.endList rest)
    .ok (u, rest)
  | '{' :: rest => do
    let (draft, rest) ← readRecordMembers r.fields (Json.steps cs) true .empty rest
    let u ← onData (r.finish draft)
    let rest ← onText (Json.endObject rest)
    .ok (u, rest)
  | rest => refuse (.record r.name) rest

/-- The record that a whole text denotes. -/
def parse (r : Record α) (s : String) : Except ReadFault α := do
  let (u, rest) ← r.read s.toList
  onText (Json.endText rest)
  .ok u

/-! ### From a value -/

/-- The value of a column. -/
def fieldOfJson (f : Field) : Json.Value → Except RecordFault f.Value
  | .text s => (f.decode s).mapError .field
  | v => .error (.wrongType (.ofValue v) f.wanted)

/-- The draft that some members make up. -/
def draftOfMembers (fields : List Field) (draft : Draft) :
    Json.Members → Except RecordFault Draft
  | [] => .ok draft
  | (name, v) :: ms =>
    match Field.named? fields name with
    | some f =>
      if (draft f).isSome then .error (.duplicate f)
      else do
        let x ← fieldOfJson f v
        draftOfMembers fields (draft.set f x) ms
    | none => draftOfMembers fields draft ms

/-- The draft that some items make up, and the items that are left over. -/
def draftOfItems (name : String) (columns : Nat) :
    List Field → Nat → Draft → List Json.Value → Except RecordFault (Draft × List Json.Value)
  | [], _, draft, vs => .ok (draft, vs)
  | _ :: _, length, _, [] => .error (.tooShort length name columns)
  | f :: fs, length, draft, v :: vs => do
    let x ← fieldOfJson f v
    draftOfItems name columns fs (length + 1) (draft.set f x) vs

/-- The record that a value denotes. -/
def ofJson (r : Record α) : Json.Value → Except RecordFault α
  | .list vs => do
    let (draft, left) ← draftOfItems r.name r.fields.length r.fields 0 .empty vs
    let u ← r.finish draft
    if left.isEmpty then .ok u else .error (.tooLong vs.length)
  | .object ms => do
    let draft ← draftOfMembers r.fields .empty ms
    r.finish draft
  | v => .error (.wrongType (.ofValue v) (.record r.name))

end Record

/-! ### To JSON -/

/-- The members of the object that stands for a user. -/
def User.members (u : User) : Json.Members :=
  Field.all.map fun f => (f.name, .text (f.encode (u.get f)))

/-- The members of the object that stands for a profile: those of a user but for the id. -/
def Profile.members (p : Profile) : Json.Members :=
  Field.ofProfile.map fun f => (f.name, .text (f.encode ((p.withId default).get f)))

/-- A user as an object. -/
def User.json (u : User) : Json.Value :=
  .object u.members

/-- A profile as an object. -/
def Profile.json (p : Profile) : Json.Value :=
  .object p.members

/-! ### Account ids alone -/

/-- The account id that a whole text denotes. -/
def AccountId.parseJson (s : String) : Except ReadFault AccountId := do
  let (id, rest) ← readField .accountId s.toList
  onText (Json.endText rest)
  .ok id

/-- An id as a JSON value. -/
def AccountId.json (id : AccountId) : Json.Value :=
  .text id.text

end AccountRegistry
