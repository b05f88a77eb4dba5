/-
The shortest decimal of a double: the fewest digits that read back as the same
number, and of those the ones nearest to it.

* **Decimal** — a decimal `digits · 10 ^ scale`;
* **Binary64.shortest** — the shortest decimal of a finite number;
* **Decimal.positional**, **Decimal.scientific** — its two written forms.
-/
import AccountRegistry.Number.Binary64

namespace AccountRegistry

/-- The number `digits · 10 ^ scale`. -/
structure Decimal where
  digits : Nat
  scale : Int
  deriving DecidableEq, Inhabited

namespace Binary64

/-- Whether `digits · 10 ^ scale` rounds to the double `m · 2 ^ e`. -/
def readsBack (m : Nat) (e : Int) (digits : Nat) (scale : Int) : Bool :=
  ofRatio false (digits * tenTo scale.toNat) (tenTo (-scale).toNat) = .finite false m e

/-- The distance of `digits · 10 ^ scale` from `m · 2 ^ e`, times a factor that depends on
`e` and `scale` only. -/
def distance (m : Nat) (e : Int) (digits : Nat) (scale : Int) : Nat :=
  let a := m * twoTo e.toNat * tenTo (-scale).toNat
  let b := digits * tenTo scale.toNat * twoTo (-e).toNat
  (a - b) + (b - a)

/-- The better of the two decimals on the grid `10 ^ scale` that enclose `m · 2 ^ e`, if
one reads back; the even digit wins a tie. -/
def onGrid (m : Nat) (e : Int) (scale : Int) : Option Decimal :=
  let low := m * twoTo e.toNat * tenTo (-scale).toNat / (tenTo scale.toNat * twoTo (-e).toNat)
  match readsBack m e low scale, readsBack m e (low + 1) scale with
  | true, false => some ⟨low, scale⟩
  | false, true => some ⟨low + 1, scale⟩
  | true, true =>
    let a := distance m e low scale
    let b := distance m e (low + 1) scale
    if a < b ∨ (a = b ∧ low % 2 = 0) then some ⟨low, scale⟩ else some ⟨low + 1, scale⟩
  | false, false => none

/-- The number of decimal digits before the point of `m · 2 ^ e`, negative when zeros
follow the point. -/
def magnitude (m : Nat) (e : Int) : Int :=
  let num := m * twoTo e.toNat
  let den := twoTo (-e).toNat
  let guess : Int := (Nat.toDigits 10 num).length - (Nat.toDigits 10 den).length
  -- `10 ^ (guess - 1) < num / den < 10 ^ (guess + 1)`
  if num * tenTo (-guess).toNat < den * tenTo guess.toNat then guess else guess + 1

/-- The first of the grids with 1, 2, … digits on which a decimal reads back. -/
def shortestFrom (m : Nat) (e : Int) (size : Int) : Nat → Nat → Decimal
  | 0, _ => ⟨m, 0⟩
  | tries + 1, count =>
    match onGrid m e (size - count) with
    | some d => d
    | none => shortestFrom m e size tries (count + 1)

/-- The decimal without the zeros it ends in. -/
def stripZeros : Nat → Decimal → Decimal
  | 0, d => d
  | n + 1, d => if d.digits % 10 = 0 then stripZeros n ⟨d.digits / 10, d.scale + 1⟩ else d

/-- The shortest decimal of the finite number `m · 2 ^ e`. Seventeen digits always
suffice. -/
def shortest (m : Nat) (e : Int) : Decimal :=
  if m = 0 then ⟨0, 0⟩ else stripZeros 17 (shortestFrom m e (magnitude m e) 17 1)

end Binary64

namespace Decimal

/-- The digits as characters. -/
def digitChars (d : Decimal) : List Char :=
  Nat.toDigits 10 d.digits

/-- The exponent of the leading digit. -/
def leading (d : Decimal) : Int :=
  d.digitChars.length + d.scale - 1

/-- The decimal without an exponent; `point` adds `.0` to an integer. -/
def positional (d : Decimal) (point : Bool) : List Char :=
  let ds := d.digitChars
  if 0 ≤ d.scale then
    ds ++ List.replicate (if d.digits = 0 then 0 else d.scale.toNat) '0' ++
      (if point then ['.', '0'] else [])
  else
    let places := (-d.scale).toNat
    let ds := List.replicate (places + 1 - ds.length) '0' ++ ds
    ds.take (ds.length - places) ++ ['.'] ++ ds.drop (ds.length - places)

/-- One digit before the point, then the exponent with its sign. -/
def scientific (d : Decimal) : List Char :=
  let mantissa := match d.digitChars with
    | [] => []
    | [c] => [c]
    | c :: cs => c :: '.' :: cs
  mantissa ++ ['e', if 0 ≤ d.leading then '+' else '-'] ++ Nat.toDigits 10 d.leading.natAbs

end Decimal

namespace Binary64

/-- The sign and the text of an absolute value. -/
def signed (negative : Bool) (cs : List Char) : String :=
  .ofList (if negative then '-' :: cs else cs)

/-- The number without an exponent, an integer without a point. -/
def plainText : Binary64 → String
  | .nan => "NaN"
  | .infinity s => signed s "inf".toList
  | .finite s m e => signed s ((shortest m e).positional false)

/-- The number without an exponent, a finite one always with a point. -/
def pointText : Binary64 → String
  | .finite s m e => signed s ((shortest m e).positional true)
  | x => x.plainText

/-- The number with a point, in scientific form from `10 ^ 16` and below `10 ^ -5`. -/
def compactText : Binary64 → String
  | .finite s m e =>
    let d := shortest m e
    signed s (if m = 0 ∨ (-5 ≤ d.leading ∧ d.leading < 16) then d.positional true
      else d.scientific)
  | x => x.plainText

end Binary64

end AccountRegistry
