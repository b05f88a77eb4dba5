/-
Settings as plain data: what a settings file holds, whatever its format.

* **Scalar** — a truth value, a number, a text, or nothing;
* **Plain** — a scalar, a list, or a table.
-/
import AccountRegistry.Json.Value

namespace AccountRegistry

/-- A single value. Integers have 64 bits. -/
inductive Scalar where
  | null
  | bool (b : Bool)
  | integer (n : Int)
  | real (x : Binary64)
  | text (s : String)
  deriving DecidableEq, Inhabited

/-- Settings without a note of where they come from. -/
inductive Plain where
  | scalar (s : Scalar)
  | list (items : List Plain)
  | table (entries : List (String × Plain))
  deriving Inhabited

/-- The scalar of a JSON number. What does not fit an integer is a double. -/
def Scalar.ofNumber : Json.Number → Scalar
  | .natural n => if n < 0x8000000000000000 then .integer n else .real (.ofNat n)
  | .negative n => .integer (-n)
  | .real x => .real x

mutual

/-- The settings that a JSON value denotes. -/
def Plain.ofJson : Json.Value → Plain
  | .null => .scalar .null
  | .bool b => .scalar (.bool b)
  | .number n => .scalar (.ofNumber n)
  | .text s => .scalar (.text s)
  | .list vs => .list (Plain.ofItems vs)
  | .object ms => .table (Plain.ofMembers ms)

/-- The settings that the items of a list denote. -/
def Plain.ofItems : List Json.Value → List Plain
  | [] => []
  | v :: vs => Plain.ofJson v :: Plain.ofItems vs

/-- The settings that the members of an object denote. -/
def Plain.ofMembers : List (String × Json.Value) → List (String × Plain)
  | [] => []
  | (k, v) :: ms => (k, Plain.ofJson v) :: Plain.ofMembers ms

end

end AccountRegistry
