/-
Bytes as pairs of hexadecimal digits.

* **Hex.encode** — lower-case digits, two for each byte;
* **Hex.decode** — reads digits of either case; the length is checked first.
-/
import AccountRegistry.Text.Quoted
import AccountRegistry.Text.Utf8

namespace AccountRegistry.Text.Hex

/-- The digit of a value below sixteen. -/
def digit (n : Nat) : Char :=
  if n < 10 then Char.ofNat (n + 48) else Char.ofNat (n + 87)

/-- The value of a digit of either case. -/
def value (b : UInt8) : Option Nat :=
  let n := b.toNat
  if 48 ≤ n ∧ n ≤ 57 then some (n - 48)
  else if 97 ≤ n ∧ n ≤ 102 then some (n - 87)
  else if 65 ≤ n ∧ n ≤ 70 then some (n - 55)
  else none

/-- The two digits of each byte. -/
def encode (bs : List UInt8) : List Char :=
  bs.flatMap fun b => [digit (b.toNat / 16), digit (b.toNat % 16)]

/-- Why a text is not the hexadecimal form of bytes. -/
inductive Fault where
  | oddLength
  | badDigit (byte : UInt8) (index : Nat)
  deriving DecidableEq

/-- The wording of a fault. -/
def Fault.message : Fault → String
  | .oddLength => "Odd number of digits"
  | .badDigit b i => s!"Invalid character {quotedByte b} at position {i}"

/-- Reads the digit pairs from position `index` on. -/
def decodePairs (index : Nat) : List UInt8 → Except Fault (List UInt8)
  | [] => .ok []
  | [_] => .error .oddLength
  | a :: b :: rest =>
    match value a, value b with
    | none, _ => .error (.badDigit a index)
    | some _, none => .error (.badDigit b (index + 1))
    | some x, some y => (decodePairs (index + 2) rest).map (UInt8.ofNat (16 * x + y) :: ·)

/-- The bytes that a text denotes. -/
def decode (s : String) : Except Fault (List UInt8) :=
  let bs := Utf8.encode s.toList
  if bs.length % 2 = 0 then decodePairs 0 bs else .error .oddLength

end AccountRegistry.Text.Hex
