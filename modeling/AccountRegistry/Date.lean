/-
Calendar dates of the Gregorian calendar, from the year -262143 to the year 262142.

* **Date** — a date; that it exists is part of the type;
* **Date.text** — the written form `YYYY-MM-DD`, with a sign before other years than
  those of four digits;
* **Date.parse** — reads a date that people write, with white space around its parts;
* **Date.parseStored** — reads a date from a database column.
-/
import AccountRegistry.Text.Blank

namespace AccountRegistry

/-- The first year of the calendar. -/
def firstYear : Int := -262143

/-- The last year of the calendar. -/
def lastYear : Int := 262142

/-- Whether a year has a 29th of February. -/
def isLeap (year : Int) : Bool :=
  year % 4 == 0 && (year % 100 != 0 || year % 400 == 0)

/-- The number of days of a month. -/
def daysIn (year : Int) (month : Nat) : Nat :=
  if month = 2 then (if isLeap year then 29 else 28)
  else if month = 4 ∨ month = 6 ∨ month = 9 ∨ month = 11 then 30
  else 31

/-- Whether the calendar has this day. -/
def IsDate (year : Int) (month day : Nat) : Prop :=
  firstYear ≤ year ∧ year ≤ lastYear ∧ 1 ≤ month ∧ month ≤ 12 ∧ 1 ≤ day ∧
    day ≤ daysIn year month

instance (year : Int) (month day : Nat) : Decidable (IsDate year month day) :=
  inferInstanceAs (Decidable (_ ∧ _))

/-- A date. -/
structure Date where
  year : Int
  month : Nat
  day : Nat
  isDate : IsDate year month day := by decide
  deriving DecidableEq

instance : Inhabited Date := ⟨{ year := 1970, month := 1, day := 1 }⟩

namespace Date

/-- Why a text is no date. -/
inductive Fault where
  | invalid
  | outOfRange
  | tooShort
  | tooLong
  deriving DecidableEq

/-- The wording of a fault. -/
def Fault.message : Fault → String
  | .invalid => "input contains invalid characters"
  | .outOfRange => "input is out of range"
  | .tooShort => "premature end of input"
  | .tooLong => "trailing input"

/-- A numeral filled up with zeros to the given width. -/
def padded (width n : Nat) : List Char :=
  let ds := Nat.toDigits 10 n
  List.replicate (width - ds.length) '0' ++ ds

/-- The written form of a year: four digits, or a sign and at least four digits. -/
def yearText (year : Int) : List Char :=
  if 0 ≤ year ∧ year ≤ 9999 then padded 4 year.natAbs
  else (if year < 0 then '-' else '+') :: padded 4 year.natAbs

/-- The characters of the written form. -/
def chars (d : Date) : List Char :=
  yearText d.year ++ '-' :: padded 2 d.month ++ '-' :: padded 2 d.day

/-- The written form. -/
def text (d : Date) : String :=
  .ofList d.chars

/-- The value of digits. -/
def digitsValue (ds : List Char) : Nat :=
  ds.foldl (fun n c => n * 10 + (c.toNat - 48)) 0

/-- Reads a number of at least one digit and, if a width is given, at most so many. -/
def scanNumber (width : Option Nat) (cs : List Char) : Except Fault (Nat × List Char) :=
  let digits := cs.takeWhile Char.isDigit
  let digits := match width with
    | some w => digits.take w
    | none => digits
  if digits.isEmpty then .error (if cs.isEmpty then .tooShort else .invalid)
  else .ok (digitsValue digits, cs.drop digits.length)

/-- Years that a number of 32 bits can hold. -/
def scannedYear (n : Int) (rest : List Char) : Except Fault (Int × List Char) :=
  if -0x80000000 ≤ n ∧ n < 0x80000000 then .ok (n, rest) else .error .outOfRange

/-- Reads a year: up to four digits, or any number of them after a sign. -/
def scanYear (cs : List Char) : Except Fault (Int × List Char) :=
  match Text.skipBlanks cs with
  | '-' :: rest => do
    let (n, rest) ← scanNumber none rest
    scannedYear (-n) rest
  | '+' :: rest => do
    let (n, rest) ← scanNumber none rest
    scannedYear n rest
  | rest => do
    let (n, rest) ← scanNumber (some 4) rest
    scannedYear n rest

/-- Reads a month or a day, which must be between 1 and `last`. -/
def scanPart (last : Nat) (cs : List Char) : Except Fault (Nat × List Char) := do
  let (n, rest) ← scanNumber (some 2) (Text.skipBlanks cs)
  if 1 ≤ n ∧ n ≤ last then .ok (n, rest) else .error .outOfRange

/-- Reads the dash between two parts. -/
def scanDash : List Char → Except Fault (List Char)
  | [] => .error .tooShort
  | c :: rest => if c = '-' then .ok rest else .error .invalid

/-- The date of the given parts. -/
def ofParts (year : Int) (month day : Nat) : Except Fault Date :=
  if h : IsDate year month day then .ok ⟨year, month, day, h⟩ else .error .outOfRange

/-- Reads year, month and day; `gap` removes what may stand after each of them. -/
def scan (gap : List Char → List Char) (cs : List Char) : Except Fault Date := do
  let (year, rest) ← scanYear cs
  let rest ← scanDash (gap rest)
  let (month, rest) ← scanPart 12 rest
  let rest ← scanDash (gap rest)
  let (day, rest) ← scanPart 31 rest
  if (gap rest).isEmpty then ofParts year month day else .error .tooLong

/-- Reads a date whose parts may have white space on both sides. -/
def parse (s : String) : Except Fault Date :=
  scan Text.skipBlanks s.toList

/-- Reads a date whose parts may have white space before them only. -/
def parseStored (s : String) : Except Fault Date :=
  scan id s.toList

end Date

end AccountRegistry
