/-
JSON values.

* **Json.Number** — a natural number, a negative integer, or a double;
* **Json.Value** — a value; the members of an object are a list in the order in which
  they are written;
* **Json.Value.ofMembers** — the object of some members, in the order of their names;
* **Json.Value.get?** — the value of a member.
-/
import AccountRegistry.Number.Shortest

namespace AccountRegistry.Json

/-- A number as JSON text tells it: an integer that fits 64 bits, or a double. -/
inductive Number where
  | natural (n : Nat)
  /-- The integer `-n`, with `n` positive. -/
  | negative (n : Nat)
  | real (x : Binary64)
  deriving DecidableEq, Inhabited

/-- A JSON value. -/
inductive Value where
  | null
  | bool (b : Bool)
  | number (n : Number)
  | text (s : String)
  | list (items : List Value)
  | object (members : List (String × Value))
  deriving Inhabited

/-- The members of an object by name. -/
abbrev Members := List (String × Value)

namespace Members

/-- The value of the first member called `name`. -/
def get? (ms : Members) (name : String) : Option Value :=
  ms.lookup name

/-- Adds a member in front of the first one with a greater name, unless one of its name is
there. -/
def insertNew (name : String) (v : Value) : Members → Members
  | [] => [(name, v)]
  | (k, w) :: ms =>
    if k = name then (k, w) :: ms
    else if name < k then (name, v) :: (k, w) :: ms
    else (k, w) :: insertNew name v ms

end Members

namespace Value

/-- The object of the given members in the order of their names; of two members of one
name the later one counts. -/
def ofMembers (ms : Members) : Value :=
  .object (ms.foldr (fun (k, v) rest => Members.insertNew k v rest) [])

/-- The member `name` of an object. -/
def get? (v : Value) (name : String) : Option Value :=
  match v with
  | .object ms => Members.get? ms name
  | _ => none

/-- A natural number. -/
def ofNat (n : Nat) : Value :=
  .number (.natural n)

/-- An integer. -/
def ofInt (n : Int) : Value :=
  if n < 0 then .number (.negative n.natAbs) else .number (.natural n.toNat)

end Value

end AccountRegistry.Json
