/-
Converting settings to the types that are wanted.

* **SettingFault** — why settings do not give what is wanted, with its wording;
* **Tree.toNatural**, **Tree.toBool**, **Tree.toText** — a setting as a number, a truth
  value or a text;
* **Tree.section** — a setting as a group of settings, given by their keys or in order.
-/
import AccountRegistry.Settings.Tree
import AccountRegistry.Settings.Environment
import AccountRegistry.Text.Quoted

namespace AccountRegistry

/-- A setting as messages describe it. -/
inductive Shape where
  | nothing
  | bool (b : Bool)
  | integer (n : Int)
  /-- An integer, described with its 64 bits. -/
  | signed (n : Int)
  | unsigned (n : Nat)
  | real (x : Binary64)
  | text (s : String)
  | list
  | table
  deriving DecidableEq

/-- The description of a setting. -/
def Shape.describe : Shape → String
  | .nothing => "unit value"
  | .bool b => s!"boolean \x60{b}\x60"
  | .integer n => s!"integer \x60{n}\x60"
  | .signed n => s!"64-bit integer \x60{n}\x60"
  | .unsigned n => s!"64-bit unsigned integer \x60{n}\x60"
  | .real x => "floating point \x60" ++ x.pointText ++ "\x60"
  | .text s => "string " ++ Text.quoted s
  | .list => "sequence"
  | .table => "map"

/-- Why settings do not give what is wanted. -/
inductive SettingFault where
  /-- A setting is missing. -/
  | notFound (key : String)
  /-- A setting has the wrong type. -/
  | type (found : Shape) (wanted : String) (key : String) (origin : Option String)
  /-- A group of settings is something else, or too short. -/
  | group (text : String) (key : String)
  /-- A file cannot be found, or its format is not known. -/
  | file (text : String)
  /-- A file is malformed. -/
  | malformed (path : String)
  deriving DecidableEq

/-- The wording of a fault. -/
def SettingFault.message : SettingFault → String
  | .notFound key => "missing configuration field " ++ Text.quoted key
  | .type found wanted key origin =>
    "invalid type: " ++ found.describe ++ ", expected " ++ wanted ++
      (if key.isEmpty then "" else " for key \x60" ++ key ++ "\x60") ++
      (match origin with
        | some o => " in " ++ o
        | none => "")
  | .group text key => text ++ " for key \x60" ++ key ++ "\x60"
  | .file text => text
  | .malformed path => path

/-- The largest number of 64 bits. -/
def greatestUnsigned : Nat := 0xFFFFFFFFFFFFFFFF

/-- The number nearest to a double, a half going up, within the range of 64 bits. What is
not a number counts as zero. -/
def saturated (x : Binary64) : Nat :=
  match x with
  | .nan => 0
  | .infinity negative => if negative then 0 else greatestUnsigned
  | .finite .. => min (x.roundAway.getD 0).toNat greatestUnsigned

/-- A natural number of 64 bits. -/
def naturalText (s : String) : Option Nat :=
  let ds := match s.toList with
    | '+' :: ds => ds
    | ds => ds
  if !ds.isEmpty && ds.all Char.isDigit && Date.digitsValue ds ≤ greatestUnsigned then
    some (Date.digitsValue ds)
  else none

/-- The truth value that a text stands for, as a number. -/
def switchText (s : String) : Option Nat :=
  match s with
  | "true" | "on" | "yes" => some 1
  | "false" | "off" | "no" => some 0
  | _ => none

namespace Scalar

/-- The shape of a scalar. -/
def shape : Scalar → Shape
  | .null => .nothing
  | .bool b => .bool b
  | .integer n => .integer n
  | .real x => .real x
  | .text s => .text s

/-- A scalar as a natural number, or the shape that is refused and what is wanted. -/
def toNatural : Scalar → Except (Shape × String) Nat
  | .integer n =>
    if n < 0 then .error (.signed n, "an unsigned 64 bit or less integer") else .ok n.toNat
  | .bool b => .ok (if b then 1 else 0)
  | .real x => .ok (saturated x)
  | .text s =>
    match (switchText (Text.lowercase s)).or (naturalText s) with
    | some n => .ok n
    | none => .error (.text s, "an integer")
  | .null => .error (.nothing, "an integer")

/-- A scalar as a truth value. -/
def toBool : Scalar → Except (Shape × String) Bool
  | .bool b => .ok b
  | .integer n => .ok (n != 0)
  | .real x => .ok (!x.isZero)
  | .text s =>
    let low := Text.lowercase s
    if low = "1" then .ok true
    else if low = "0" then .ok false
    else match switchText low with
      | some n => .ok (n == 1)
      | none => .error (.text low, "a boolean")
  | .null => .error (.nothing, "a boolean")

/-- A scalar as a text. -/
def toText : Scalar → Except (Shape × String) String
  | .text s => .ok s
  | .bool b => .ok (if b then "true" else "false")
  | .integer n => .ok (toString n)
  | .real x => .ok x.plainText
  | .null => .error (.nothing, "a string")

end Scalar

namespace Tree

/-- The shape of a setting. -/
def shape : Tree → Shape
  | .scalar _ s => s.shape
  | .list .. => .list
  | .table .. => .table

/-- Where a setting comes from. -/
def origin : Tree → Option String
  | .scalar o _ => o
  | .list o _ => o
  | .table o _ => o

/-- Converts a setting that must be a scalar. -/
def convert {α : Type} (f : Scalar → Except (Shape × String) α) (wanted key : String)
    (t : Tree) : Except SettingFault α :=
  match t with
  | .scalar o s => (f s).mapError fun (found, wanted) => .type found wanted key o
  | t => .error (.type t.shape wanted key t.origin)

/-- A setting as a number of 64 bits. -/
def toNatural (key : String) (t : Tree) : Except SettingFault Nat :=
  t.convert Scalar.toNatural "an integer" key

/-- A setting as a number of 32 bits. -/
def toSmall (key : String) (t : Tree) : Except SettingFault Nat := do
  let n ← t.toNatural key
  if n < 0x100000000 then .ok n
  else .error (.type (.unsigned n) "an unsigned 32 bit integer" key none)

/-- A setting as a truth value. -/
def toBool (key : String) (t : Tree) : Except SettingFault Bool :=
  t.convert Scalar.toBool "a boolean" key

/-- A setting as a text. -/
def toText (key : String) (t : Tree) : Except SettingFault String :=
  t.convert Scalar.toText "a string" key

end Tree

/-- A group of settings: its name, the name of the record it becomes, and the names of its
settings in order. -/
structure Group where
  name : String
  record : String
  keys : List String

namespace Group

/-- How many settings a group has, in words. -/
def size (g : Group) : String :=
  if g.keys.length = 1 then "1 element" else s!"{g.keys.length} elements"

/-- The full key of a setting given by its name. -/
def keyOf (g : Group) (key : String) : String :=
  g.name ++ "." ++ key

/-- The full key of a setting given by its position. -/
def keyAt (g : Group) (i : Nat) : String :=
  s!"{g.name}[{i}]"

/-- The fault of a group that is something else. -/
def wrongType (g : Group) (found : Shape) : SettingFault :=
  .group ("invalid type: " ++ found.describe ++ ", expected struct " ++ g.record) g.name

/-- The fault of a list that is too short. -/
def tooShort (g : Group) (length : Nat) : SettingFault :=
  .group s!"invalid length {length}, expected struct {g.record} with {g.size}" g.name

/-- The settings of a group in order, each with its full key, and none for one that is
missing; what a list has beyond them is passed over. -/
def parts (g : Group) : Tree → Except SettingFault (List (String × Option Tree))
  | .table _ es => .ok (g.keys.map fun k => (g.keyOf k, es.lookup k))
  | .list _ ts => .ok (g.keys.zipIdx.map fun (_, i) => (g.keyAt i, ts[i]?))
  | .scalar _ s => .error (g.wrongType s.shape)

/-- The fault of a missing setting: in a list it is the list that is too short. -/
def missing (g : Group) (t : Tree) (key : String) : SettingFault :=
  match t with
  | .list _ ts => g.tooShort ts.length
  | _ => .notFound key

end Group

end AccountRegistry
