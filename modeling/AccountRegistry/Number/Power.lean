/-
Powers of two and ten, and the integers of 64 bits.

* **twoTo**, **tenTo** — the powers, by repeated multiplication;
* **fits64** — whether an integer has 64 bits, its sign included.
-/

namespace AccountRegistry

/-- The power of two with an exponent. -/
def twoTo (n : Nat) : Nat := Nat.pow 2 n

/-- The power of ten with an exponent. -/
def tenTo (n : Nat) : Nat := Nat.pow 10 n

/-- Whether an integer can be held in 64 bits with a sign. -/
def fits64 (n : Int) : Bool :=
  -0x8000000000000000 ≤ n && n < 0x8000000000000000

end AccountRegistry
