/-
Account ids: the numerals of ten digits that do not begin with zero.

* **AccountId** — an id, as its text;
* **AccountId.parse** — the id that a text denotes;
* **AccountId.ofNumber** — the id of a number;
* **AccountId.clamped** — the id nearest to a number;
* **AccountId.sort** — ids in ascending order.

Design notes: an id is a text and not a number, because a stored row keeps whatever text
it was given; `WellFormed` says which texts are ids, and every function of this module
gives such a text.
-/
import AccountRegistry.Text.Quoted

namespace AccountRegistry

/-- An account id. -/
structure AccountId where
  text : String
  deriving DecidableEq, Inhabited

/-- A text that is no account id. -/
structure MalformedId where
  text : String
  deriving DecidableEq, Inhabited

/-- The wording of the refusal. -/
def MalformedId.message (e : MalformedId) : String :=
  "account id must be 10 ASCII digits in [1000000000, 9999999999], got " ++ Text.quoted e.text

namespace AccountId

/-- The smallest id as a number. -/
def least : Nat := 1000000000

/-- The greatest id as a number. -/
def greatest : Nat := 9999999999

/-- The number of digits. -/
def width : Nat := 10

/-- Whether a text is an id: ten ASCII digits, the first of them not zero. -/
def wellFormed (s : String) : Bool :=
  let cs := s.toList
  cs.length = width && cs.all Char.isDigit && cs.head? != some '0'

/-- The id that a text denotes. -/
def parse (s : String) : Except MalformedId AccountId :=
  if wellFormed s then .ok ⟨s⟩ else .error ⟨s⟩

/-- The decimal numeral of a number. -/
def numeral (n : Nat) : String :=
  .ofList (Nat.toDigits 10 n)

/-- The id of a number in range. -/
def ofNumber (n : Nat) : Except MalformedId AccountId :=
  if least ≤ n ∧ n ≤ greatest then .ok ⟨numeral n⟩ else .error ⟨numeral n⟩

/-- The id of the number in range that is nearest to `n`. -/
def clamped (n : Nat) : AccountId :=
  ⟨numeral (max least (min n greatest))⟩

/-- The order of ids is the order of their texts. -/
def precedes (a b : AccountId) : Bool :=
  !decide (b.text < a.text)

/-- The ids in ascending order. -/
def sort (ids : List AccountId) : List AccountId :=
  ids.mergeSort precedes

/-- The ids that some texts denote, or the first text that is none. -/
def parseAll (texts : List String) : Except MalformedId (List AccountId) :=
  texts.mapM parse

end AccountId

end AccountRegistry
