/-
Sets of characters given by their code point ranges.

* **CharSet** — a list of closed ranges, as the tables of the Unicode character
  database are written;
* **CharSet.has** — membership of one character.
-/

namespace AccountRegistry.Text

/-- A set of characters, as a list of closed code point ranges. -/
structure CharSet where
  /-- The ranges, each by its first and last code point. -/
  ranges : List (Nat × Nat)

namespace CharSet

/-- Whether `c` lies in one of the ranges. -/
def has (s : CharSet) (c : Char) : Bool :=
  s.ranges.any fun (lo, hi) => lo ≤ c.toNat && c.toNat ≤ hi

end CharSet

end AccountRegistry.Text
