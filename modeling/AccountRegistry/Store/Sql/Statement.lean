/-
The statements that a store of users sends to a database.

* **Statement** — create the table, count the rows of an id, insert a row, find a row;
* **Statement.params** — the values bound to its placeholders;
* **Cell**, **Row** — a stored value and a stored row;
* **Reply** — what a statement that succeeds gives back.
-/
import AccountRegistry.User

namespace AccountRegistry

/-- A statement about the table of users. -/
inductive Statement where
  | createUsers
  | countId (id : AccountId)
  | insert (u : User)
  | find (username : String)
  deriving DecidableEq

/-- A value in a column of a row. -/
inductive Cell where
  | null
  | text (s : String)
  | blob (bytes : List UInt8)
  | integer
  | real
  /-- A calendar date as a server sends it; the calendar need not have it. -/
  | date (year month day : Nat)
  deriving DecidableEq, Inhabited

/-- A stored row. -/
abbrev Row := Field → Cell

/-- What a statement gives back. -/
inductive Reply where
  | done
  | count (n : Int)
  | rows (rs : List Row)
  deriving Inhabited

/-- A value bound to a placeholder. -/
inductive Param where
  | text (s : String)
  | bytes (bs : List UInt8)
  | date (d : Date)
  deriving DecidableEq

namespace Field

/-- A value as it is bound to a placeholder. -/
def param (f : Field) (v : f.Value) : Param :=
  match f with
  | .accountId => .text (AccountId.text v)
  | .passhash => .bytes v
  | .birthday => .date v
  | .username | .firstname | .lastname | .timezone | .address | .state | .zip | .ssn => .text v

/-- The text of a refusal to take a value of another type. -/
def mismatch (wanted sql found : String) : String :=
  "mismatched types; Rust type \x60" ++ wanted ++ "\x60 (as SQL type \x60" ++ sql ++
    "\x60) is not compatible with SQL type \x60" ++ found ++ "\x60"

/-- The SQL type of a cell. -/
def typeName : Cell → String
  | .null => "NULL"
  | .text _ => "TEXT"
  | .blob _ => "BLOB"
  | .integer => "INTEGER"
  | .real => "REAL"
  | .date .. => "DATE"

/-- The text that a cell holds. -/
def readText : Cell → Except String String
  | .text s => .ok s
  | .null => .error "unexpected null; try decoding as an \x60Option\x60"
  | c => .error (mismatch "alloc::string::String" "TEXT" (typeName c))

/-- The bytes that a cell holds. -/
def readBytes : Cell → Except String (List UInt8)
  | .blob bs => .ok bs
  | .text s => .ok (Text.Utf8.encode s.toList)
  | .null => .error "unexpected null; try decoding as an \x60Option\x60"
  | c => .error (mismatch "alloc::vec::Vec<u8>" "BLOB" (typeName c))

/-- The date that a cell holds. -/
def readDate : Cell → Except String Date
  | .text s => (Date.parseStored s).mapError Date.Fault.message
  | .date y m d =>
    (Date.ofParts y m d).mapError fun _ => s!"server returned invalid date: {y}/{m}/{d}"
  | .null => .error "unexpected null; try decoding as an \x60Option\x60"
  | c => .error (mismatch "chrono::naive::date::NaiveDate" "DATE" (typeName c))

/-- The value that a cell holds in a column, or why it holds none. Account ids are taken as
they are stored. -/
def read (f : Field) (c : Cell) : Except String f.Value :=
  match f with
  | .accountId => (readText c).map fun s => (⟨s⟩ : AccountId)
  | .passhash => readBytes c
  | .birthday => readDate c
  | .username | .firstname | .lastname | .timezone | .address | .state | .zip | .ssn =>
    readText c

end Field

/-- The values bound to the placeholders of a statement. -/
def Statement.params : Statement → List Param
  | .createUsers => []
  | .countId id => [.text id.text]
  | .insert u => Field.all.map fun f => f.param (u.get f)
  | .find username => [.text username]

/-- The draft of the columns of a row, or the first column that cannot be read and why. -/
def Row.draft (r : Row) : List Field → Except (Field × String) Draft
  | [] => .ok .empty
  | f :: fs => do
    let v ← (f.read (r f)).mapError (f, ·)
    let d ← Row.draft r fs
    .ok (d.set f v)

/-- The user that a row holds, or the first column that cannot be read and why. -/
def Row.user (r : Row) : Except (Field × String) User := do
  let d ← Row.draft r Field.all
  (d.user).mapError (·, "")

end AccountRegistry
