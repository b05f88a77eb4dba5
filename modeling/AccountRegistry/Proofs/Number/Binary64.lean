/-
Whole numbers that are taken for doubles.

* **`saturated_ofRatio_one`** — a whole number of at least 53 bits that is made a double, and the
  double a number of 64 bits again: it is rounded to 53 bits, and cut off at the greatest number;
* **`saturated_ofDecimal`** — what becomes of a numeral that is too long for 63 bits;
* **`saturated_ofDecimal_negative`** — less than nothing becomes nothing.
-/
import AccountRegistry.Settings.Convert
import Mathlib.Algebra.Group.Nat.Defs

namespace AccountRegistry

namespace Binary64

/-! ### Rounding -/

theorem roundScaled_natCast (n k : Nat) :
    roundScaled n 1 k =
      if 2 * (n % 2 ^ k) < 2 ^ k then n / 2 ^ k
      else if 2 ^ k < 2 * (n % 2 ^ k) then n / 2 ^ k + 1
      else n / 2 ^ k + n / 2 ^ k % 2 := by
  have hneg : (-(k : Int)).toNat = 0 := by omega
  have hnum : n * twoTo 0 = n := Nat.mul_one n
  have hden : 1 * twoTo k = 2 ^ k := Nat.one_mul _
  rw [roundScaled, hneg, Int.toNat_natCast, hnum, hden]

/-- What is rounded lies between the multiples of the unit next to it. -/
theorem roundScaled_bounds (n k : Nat) :
    n / 2 ^ k ≤ roundScaled n 1 k ∧ roundScaled n 1 k ≤ n / 2 ^ k + 1 := by
  rw [roundScaled_natCast]
  split
  · omega
  · split <;> omega

theorem ratioExponent_one {n : Nat} (hn : 2 ^ 52 ≤ n) :
    ratioExponent n 1 = (n.log2 - 52 : Nat) := by
  have hlog : 52 ≤ n.log2 := (Nat.le_log2 (by omega)).mpr hn
  have hself : 2 ^ n.log2 ≤ n := Nat.log2_self_le (by omega)
  have hpow : 2 ^ (n.log2 - 52) * 2 ^ 52 = 2 ^ n.log2 := by
    rw [← Nat.pow_add, Nat.sub_add_cancel hlog]
  have hexponent : (n.log2 : Int) - (Nat.log2 1 : Nat) - 52 = (n.log2 - 52 : Nat) := by
    rw [show Nat.log2 1 = 0 by decide]
    omega
  have hneg : (-((n.log2 - 52 : Nat) : Int)).toNat = 0 := by omega
  have hnum : n * twoTo 0 = n := Nat.mul_one n
  have hden : 1 * twoTo (n.log2 - 52) * 0x10000000000000 = 2 ^ (n.log2 - 52) * 2 ^ 52 := by
    rw [Nat.one_mul]
    rfl
  rw [ratioExponent, hexponent, hneg, Int.toNat_natCast, hnum, hden, hpow, if_neg (by omega)]

theorem roundAway_finite (m k : Nat) : (finite false m k).roundAway = some (m * 2 ^ k : Nat) := by
  have hneg : (-(k : Int)).toNat = 0 := by omega
  have hhalf : (2 * (m * 2 ^ k) + 1) / (2 * 1) = m * 2 ^ k := by omega
  rw [roundAway, hneg, Int.toNat_natCast]
  exact congrArg (fun n : Nat => some (n : Int)) hhalf

end Binary64

open Binary64

/-! ### Numbers of 64 bits -/

theorem saturated_finite (m k : Nat) :
    saturated (.finite false m k) = min (m * 2 ^ k) greatestUnsigned := by
  rw [saturated, roundAway_finite]
  rfl

theorem saturated_of_isNegative {x : Binary64} (h : x.isNegative = true) : saturated x = 0 := by
  cases x with
  | nan => rfl
  | infinity negative =>
    obtain rfl : negative = true := h
    rfl
  | finite negative m e =>
    obtain rfl : negative = true := h
    rw [saturated, roundAway]
    show min (Int.toNat (-_)) _ = 0
    rw [Int.toNat_neg_natCast, Nat.zero_min]

/-- **A whole number is rounded to 53 bits and cut off.** -/
theorem saturated_ofRatio_one {n : Nat} (hn : 2 ^ 52 ≤ n) :
    saturated (ofRatio false n 1) =
      min (roundScaled n 1 (n.log2 - 52 : Nat) * 2 ^ (n.log2 - 52)) greatestUnsigned := by
  have hround := roundScaled_bounds n (n.log2 - 52)
  have hself : 2 ^ n.log2 ≤ n := Nat.log2_self_le (by omega)
  have hlog : 52 ≤ n.log2 := (Nat.le_log2 (by omega)).mpr hn
  have hquotient : 2 ^ 52 ≤ n / 2 ^ (n.log2 - 52) := by
    rw [Nat.le_div_iff_mul_le (Nat.two_pow_pos _), ← Nat.pow_add, Nat.add_sub_cancel' hlog]
    exact hself
  have hmax : max (ratioExponent n 1) leastExponent = (n.log2 - 52 : Nat) := by
    have : leastExponent = -1074 := rfl
    rw [ratioExponent_one hn]
    omega
  rw [ofRatio, if_neg (by omega), hmax]
  dsimp only
  generalize n.log2 - 52 = k at *
  generalize roundScaled n 1 k = m at *
  have hgreatest : greatestExponent = 971 := rfl
  -- far out the double is infinite, and what is rounded is cut off as well
  have hlarge {m k : Nat} (hm : 2 ^ 52 ≤ m) (hk : 971 ≤ k) :
      greatestUnsigned ≤ m * 2 ^ k :=
    calc greatestUnsigned ≤ 2 ^ 52 * 2 ^ 12 := by decide
      _ ≤ 2 ^ 52 * 2 ^ k := Nat.mul_le_mul_left _ (Nat.pow_le_pow_right (by decide) (by omega))
      _ ≤ m * 2 ^ k := Nat.mul_le_mul_right _ hm
  have hinfinite : saturated (.infinity false) = greatestUnsigned := rfl
  by_cases hcarry : m = 0x20000000000000
  · have hshift : m * 2 ^ k = 0x10000000000000 * 2 ^ (k + 1) := by
      rw [hcarry, Nat.pow_succ]
      omega
    rw [if_pos hcarry]
    split
    · rw [hinfinite, Nat.min_eq_right (hlarge (by omega) (by omega))]
    · have hcast : ((k : Int) + 1) = (k + 1 : Nat) := rfl
      rw [hcast, saturated_finite, hshift]
  · rw [if_neg hcarry]
    split
    · rw [hinfinite, Nat.min_eq_right (hlarge (by omega) (by omega))]
    · rw [saturated_finite]

/-- What is left of a whole number in a double, if it needs all of 64 bits or more. -/
theorem saturated_ofRatio {n : Nat} (hn : 2 ^ 63 ≤ n) :
    saturated (ofRatio false n 1) = min (roundScaled n 1 11 * 2 ^ 11) greatestUnsigned := by
  rw [saturated_ofRatio_one (by omega)]
  by_cases hlog : n.log2 = 63
  · rw [hlog]
    rfl
  · -- both sides are beyond 64 bits
    have hlog : 64 ≤ n.log2 := by
      have := (Nat.le_log2 (n := n) (by omega)).mpr hn
      omega
    have hlarge : 2 ^ 64 ≤ n := (Nat.le_log2 (by omega)).mp hlog
    have hself : 2 ^ n.log2 ≤ n := Nat.log2_self_le (by omega)
    have hbeyond {k : Nat} (hk : k ≤ n.log2) (hlow : 64 ≤ n.log2) :
        greatestUnsigned ≤ roundScaled n 1 k * 2 ^ k := by
      have hround := (roundScaled_bounds n k).1
      have hpow : 2 ^ (n.log2 - k) ≤ n / 2 ^ k := by
        rw [Nat.le_div_iff_mul_le (Nat.two_pow_pos _), ← Nat.pow_add, Nat.sub_add_cancel hk]
        exact hself
      calc greatestUnsigned ≤ 2 ^ 64 := by decide
        _ ≤ 2 ^ n.log2 := Nat.pow_le_pow_right (by decide) hlow
        _ = 2 ^ (n.log2 - k) * 2 ^ k := by rw [← Nat.pow_add, Nat.sub_add_cancel hk]
        _ ≤ roundScaled n 1 k * 2 ^ k := Nat.mul_le_mul_right _ (Nat.le_trans hpow hround)
    have hleft := hbeyond (k := n.log2 - 52) (by omega) hlog
    have hright := hbeyond (k := 11) (by omega) hlog
    rw [Nat.min_eq_right hleft]
    exact (Nat.min_eq_right hright).symm

/-! ### Numerals -/

/-- **A numeral that is too long for 63 bits is rounded and cut off.** -/
theorem saturated_ofDecimal {n : Nat} (hn : 2 ^ 63 ≤ n) :
    saturated (ofDecimal false n 0) = min (roundScaled n 1 11 * 2 ^ 11) greatestUnsigned := by
  rw [ofDecimal, if_neg (by omega)]
  dsimp only
  split
  · next hsize =>
    -- so long a numeral denotes more than 64 bits
    have hlong : ¬ (Nat.toDigits 10 n).length ≤ 20 := by omega
    rw [Nat.length_toDigits_le_iff (by decide) (by decide)] at hlong
    have hround := (roundScaled_bounds n 11).1
    have hright : greatestUnsigned ≤ roundScaled n 1 11 * 2 ^ 11 := by
      have : greatestUnsigned = 0xFFFFFFFFFFFFFFFF := rfl
      have hround : n / 2 ^ 11 ≤ roundScaled n 1 11 := hround
      omega
    rw [Nat.min_eq_right hright]
    rfl
  · split
    · omega
    · have hscale : n * tenTo (0 : Int).toNat = n := Nat.mul_one n
      rw [hscale]
      exact saturated_ofRatio hn

theorem isNegative_ofRatio {num den : Nat} : (ofRatio true num den).isNegative = true := by
  rw [ofRatio]
  split
  · rfl
  · -- the sign stays, whatever the significand and the exponent are
    generalize max (ratioExponent num den) leastExponent = e
    extract_lets e m
    clear_value m
    split
    split <;> rfl

/-- Less than nothing is cut off at nothing. -/
theorem saturated_ofDecimal_negative (n : Nat) : saturated (ofDecimal true n 0) = 0 := by
  apply saturated_of_isNegative
  rw [ofDecimal]
  split
  · rfl
  · dsimp only
    split
    · rfl
    · split
      · rfl
      · exact isNegative_ofRatio

end AccountRegistry
