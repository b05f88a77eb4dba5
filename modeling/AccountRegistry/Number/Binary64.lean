/-
Double-precision numbers in exact integer arithmetic.

* **Binary64** — a double: not a number, an infinity, or a sign with
  `significand · 2 ^ exponent`;
* **Binary64.ofRatio** — the double nearest to a quotient, a tie going to the even
  significand;
* **Binary64.mul**, **Binary64.div** — the operations, each rounded once;
* **Binary64.ofDecimal** — the double nearest to `digits · 10 ^ scale`.

Design notes: a finite double keeps its significand below `2 ^ 53` and its exponent at
or above `-1074`, and the significand is at least `2 ^ 52` unless the exponent is the
least one.  Every operation goes through `ofRatio`, which builds that form.
-/
import AccountRegistry.Number.Power

namespace AccountRegistry

/-- A double-precision number. -/
inductive Binary64 where
  | nan
  | infinity (negative : Bool)
  | finite (negative : Bool) (significand : Nat) (exponent : Int)
  deriving DecidableEq, Inhabited

namespace Binary64

/-- The exponent of the smallest positive double. -/
def leastExponent : Int := -1074

/-- The exponent of the largest double. -/
def greatestExponent : Int := 971

/-- A zero with its sign. -/
def zero (negative : Bool) : Binary64 :=
  .finite negative 0 leastExponent

/-- `num · 2 ^ -e / den`, rounded to the nearest integer, a tie to the even one. -/
def roundScaled (num den : Nat) (e : Int) : Nat :=
  let n := num * twoTo (-e).toNat
  let d := den * twoTo e.toNat
  let q := n / d
  let twice := 2 * (n % d)
  if twice < d then q
  else if d < twice then q + 1
  else q + q % 2

/-- The exponent at which the quotient `num / den` has a significand of 53 bits. -/
def ratioExponent (num den : Nat) : Int :=
  let e : Int := num.log2 - den.log2 - 52
  if num * twoTo (-e).toNat < den * twoTo e.toNat * 0x10000000000000 then e - 1 else e

/-- The double nearest to `± num / den`. -/
def ofRatio (negative : Bool) (num den : Nat) : Binary64 :=
  if num = 0 ∨ den = 0 then zero negative
  else
    let e := max (ratioExponent num den) leastExponent
    let m := roundScaled num den e
    let (m, e) := if m = 0x20000000000000 then (0x10000000000000, e + 1) else (m, e)
    if greatestExponent < e then .infinity negative else .finite negative m e

/-- The double nearest to a natural number. -/
def ofNat (n : Nat) : Binary64 :=
  ofRatio false n 1

/-- The double nearest to an integer. -/
def ofInt (n : Int) : Binary64 :=
  ofRatio (n < 0) n.natAbs 1

/-- The other sign. -/
def neg : Binary64 → Binary64
  | .nan => .nan
  | .infinity s => .infinity (!s)
  | .finite s m e => .finite (!s) m e

/-- Whether the sign is minus. -/
def isNegative : Binary64 → Bool
  | .nan => false
  | .infinity s => s
  | .finite s _ _ => s

/-- Whether the number is a zero of either sign. -/
def isZero : Binary64 → Bool
  | .finite _ m _ => m == 0
  | _ => false

/-- Whether the number is an infinity. -/
def isInfinite : Binary64 → Bool
  | .infinity _ => true
  | _ => false

/-- The product. -/
def mul : Binary64 → Binary64 → Binary64
  | .finite s m e, .finite t n f =>
    let g := e + f
    ofRatio (s != t) (m * n * twoTo g.toNat) (twoTo (-g).toNat)
  | .nan, _ | _, .nan => .nan
  | x, y => if x.isZero || y.isZero then .nan else .infinity (x.isNegative != y.isNegative)

/-- The quotient of two finite numbers, the second of them not zero. -/
def div : Binary64 → Binary64 → Binary64
  | .finite s m e, .finite t n f =>
    if n = 0 then (if m = 0 then .nan else .infinity (s != t))
    else
      let g := e - f
      ofRatio (s != t) (m * twoTo g.toNat) (n * twoTo (-g).toNat)
  | .nan, _ | _, .nan => .nan
  | .infinity s, .finite t _ _ => .infinity (s != t)
  | .finite s _ _, .infinity t => zero (s != t)
  | .infinity _, .infinity _ => .nan

/-- The double nearest to `± digits · 10 ^ scale`.  A number of `n` digits lies between
`10 ^ (n - 1 + scale)` and `10 ^ (n + scale)`, so that far out it is zero or infinite. -/
def ofDecimal (negative : Bool) (digits : Nat) (scale : Int) : Binary64 :=
  if digits = 0 then zero negative
  else
    let size : Int := (Nat.toDigits 10 digits).length + scale
    if 310 < size then .infinity negative
    else if size < -330 then zero negative
    else ofRatio negative (digits * tenTo scale.toNat) (tenTo (-scale).toNat)

/-- The integer nearest to the number, a tie going away from zero. -/
def roundAway : Binary64 → Option Int
  | .finite s m e =>
    let n := (2 * (m * twoTo e.toNat) + twoTo (-e).toNat) / (2 * twoTo (-e).toNat)
    some (if s then -n else n)
  | _ => none

end Binary64

end AccountRegistry
