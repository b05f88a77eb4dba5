/-
The table of users in an SQLite database.

* **SqliteDatabase** — the rows of the table, if there is one;
* **SqliteDatabase.perform** — the effect and the result of a statement;
* **numericCell** — what a column with numeric affinity makes of a text.

Both keys are unique; the index of the usernames is looked at first.  The column of the
birthday has numeric affinity, so that a text in the form of a number becomes one.
-/
import AccountRegistry.Store.Sql.Client
import AccountRegistry.Number.Binary64

namespace AccountRegistry

/-- A database that may have a table of users. -/
structure SqliteDatabase where
  users : Option (List Row)
  deriving Inhabited

/-- Digits around a point and after it, and what follows them. -/
structure NumericForm where
  digits : List Char
  places : List Char
  exponent : Int
  negative : Bool
  /-- There is neither a point nor an exponent. -/
  isInteger : Bool

/-- The white space that may surround a number. -/
def isNumericSpace (c : Char) : Bool :=
  c = ' ' || (9 ≤ c.toNat && c.toNat ≤ 13)

/-- The sign at the head of a number. -/
def takeSign : List Char → Bool × List Char
  | '-' :: cs => (true, cs)
  | '+' :: cs => (false, cs)
  | cs => (false, cs)

/-- The digits after a point. -/
def takePlaces : List Char → Option (List Char) × List Char
  | '.' :: cs => (some (cs.takeWhile Char.isDigit), cs.dropWhile Char.isDigit)
  | cs => (none, cs)

/-- The exponent of a number, zero if there is none, and the rest; nothing if the letter is
not followed by digits. -/
def takeExponent : List Char → Option (Option Int × List Char)
  | 'e' :: cs | 'E' :: cs =>
    let (negative, cs) := takeSign cs
    let ds := cs.takeWhile Char.isDigit
    if ds.isEmpty then none
    else
      let n : Int := Date.digitsValue ds
      some (some (if negative then -n else n), cs.dropWhile Char.isDigit)
  | cs => some (none, cs)

/-- The number that a text is, white space around it aside. -/
def numericForm (cs : List Char) : Option NumericForm :=
  let (negative, cs) := takeSign (cs.dropWhile isNumericSpace)
  let digits := cs.takeWhile Char.isDigit
  let (places, cs) := takePlaces (cs.dropWhile Char.isDigit)
  if digits.isEmpty && (places.getD []).isEmpty then none
  else match takeExponent cs with
    | none => none
    | some (exponent, cs) =>
      if (cs.dropWhile isNumericSpace).isEmpty then
        some
          { digits, places := places.getD [], exponent := exponent.getD 0, negative
            isInteger := places.isNone && exponent.isNone }
      else none

/-- Whether a number is stored as an integer: it fits 64 bits, and if it is not written as an
integer its double has no fraction and lies strictly between the extreme integers. -/
def NumericForm.fitsInteger (f : NumericForm) : Bool :=
  let n : Int := Date.digitsValue f.digits
  let n := if f.negative then -n else n
  if f.isInteger && fits64 n then true
  else
    let scale : Int := f.exponent - f.places.length
    match Binary64.ofDecimal f.negative (Date.digitsValue (f.digits ++ f.places)) scale with
    | .finite _ m e =>
      let num := m * twoTo e.toNat
      let den := twoTo (-e).toNat
      num % den = 0 && num / den < 0x8000000000000000
    | _ => false

/-- What a column with numeric affinity makes of a text. -/
def numericCell (s : String) : Cell :=
  match numericForm s.toList with
  | none => .text s
  | some f => if f.fitsInteger then .integer else .real

/-- The cell that a bound value becomes in a column. -/
def storedCell (f : Field) : Param → Cell
  | .text s => if f = .birthday then numericCell s else .text s
  | .bytes bs => .blob bs
  | .date d => numericCell d.text

/-- The row of a user. -/
def User.storedRow (u : User) : Row :=
  fun f => storedCell f (f.param (u.get f))

namespace SqliteDatabase

/-- The database without a table. -/
def empty : SqliteDatabase := ⟨none⟩

/-- The error about a missing table. -/
def noTable : DatabaseFault := .sqlite 1 "no such table: users"

/-- The error about a write to a database that is open for reading. -/
def readOnlyFault : DatabaseFault := .sqlite 8 "attempt to write a readonly database"

/-- The error about a second row with the same value in a unique column. -/
def uniqueFault (code : Nat) (f : Field) : DatabaseFault :=
  .sqlite code ("UNIQUE constraint failed: users." ++ f.name)

/-- The rows with the given cell in a column. -/
def rowsWith (rs : List Row) (f : Field) (c : Cell) : List Row :=
  rs.filter fun r => r f == c

/-- Appends a row unless one of its keys is in use. -/
def insertRow (rs : List Row) (r : Row) : Except DatabaseFault (List Row) :=
  if !(rowsWith rs .username (r .username)).isEmpty then .error (uniqueFault 2067 .username)
  else if !(rowsWith rs .accountId (r .accountId)).isEmpty then
    .error (uniqueFault 1555 .accountId)
  else .ok (rs ++ [r])

/-- The effect and the result of a statement. -/
def perform (db : SqliteDatabase) (readOnly : Bool) :
    Statement → Except DatabaseFault (SqliteDatabase × Reply)
  | .createUsers =>
    match db.users with
    | some _ => .ok (db, .done)
    | none => if readOnly then .error readOnlyFault else .ok (⟨some []⟩, .done)
  | .countId id =>
    match db.users with
    | none => .error noTable
    | some rs => .ok (db, .count (rowsWith rs .accountId (.text id.text)).length)
  | .insert u =>
    match db.users with
    | none => .error noTable
    | some rs =>
      if readOnly then .error readOnlyFault
      else (insertRow rs u.storedRow).map fun rs => (⟨some rs⟩, .done)
  | .find username =>
    match db.users with
    | none => .error noTable
    | some rs => .ok (db, .rows ((rowsWith rs .username (.text username)).take 1))

end SqliteDatabase

end AccountRegistry
