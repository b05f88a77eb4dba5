/-
Integers in environment variables.

* **`DecimalText`** — a text denotes an integer: a sign, if it has one, and digits;
* **`parsedValue_of_decimalText`** — an integer of more than 64 bits is taken for a double;
* **`received`** — the number that becomes of it as a setting;
* **`received_eq_iff`** — which integers that leaves as they are.
-/
import AccountRegistry.Proofs.Date
import AccountRegistry.Proofs.Number.Binary64
import AccountRegistry.Proofs.Text.Numeral
import Mathlib.Algebra.Group.Int.Defs
import Mathlib.Data.List.TakeWhile

namespace AccountRegistry

open Text

/-- A text denotes an integer: a sign, if it has one, and digits. -/
inductive DecimalText : List Char → Int → Prop
  | plain {ds : List Char} (hne : ds ≠ []) (hds : AllDigits ds) :
      DecimalText ds (Nat.ofDigitChars 10 ds 0)
  | plus {ds : List Char} (hne : ds ≠ []) (hds : AllDigits ds) :
      DecimalText ('+' :: ds) (Nat.ofDigitChars 10 ds 0)
  | minus {ds : List Char} (hne : ds ≠ []) (hds : AllDigits ds) :
      DecimalText ('-' :: ds) (-(Nat.ofDigitChars 10 ds 0 : Int))

/-! ### Lower case -/

/-- A text without capital letters is in lower case as it is. -/
theorem Text.lowercase_of_forall {s : String}
    (h : ∀ c ∈ s.toList, c.toNat < 0x80 ∧ c.toLower = c) : lowercase s = s := by
  have hafter {cs : List Char} (h : ∀ c ∈ cs, c.toNat < 0x80 ∧ c.toLower = c) :
      ∀ before, lowerAfter before cs = cs := by
    induction cs with
    | nil => exact fun _ => rfl
    | cons c cs ih =>
      intro before
      obtain ⟨⟨hlow, hlower⟩, hcs⟩ := List.forall_mem_cons.mp h
      rw [lowerAfter, if_neg (by omega), lowerChar, if_pos hlow, hlower, ih hcs]
      rfl
  rw [lowercase, hafter h, String.ofList_toList]

/-! ### Texts -/

variable {cs ds : List Char} {s : String} {n : Int}

theorem signAndRest_of_allDigits (h : AllDigits ds) : signAndRest ds = (false, ds) := by
  rw [signAndRest.eq_def]
  split
  · exact absurd h.head (by decide)
  · exact absurd h.head (by decide)
  · rfl

/-- What is true of the ten digits is true of all digits. -/
theorem Text.AllDigits.forall {p : Char → Prop} (h : AllDigits ds)
    (hp : ∀ d < 10, p (Nat.digitChar d)) : ∀ c ∈ ds, p c := by
  intro c hc
  have hvalue : 48 ≤ c.toNat ∧ c.toNat ≤ 57 := Char.isDigit_iff_toNat.mp (h c hc)
  rw [← digitChar_of_isDigit (h c hc)]
  exact hp _ (by omega)

namespace DecimalText

/-- A numeral has a sign and digits, whose value is that of the numeral. -/
theorem digits (h : DecimalText cs n) :
    ∃ negative ds, signAndRest cs = (negative, ds) ∧ ds ≠ [] ∧ AllDigits ds ∧
      n = (if negative then -(Date.digitsValue ds : Int) else Date.digitsValue ds) := by
  cases h with
  | plain hne hds =>
    exact ⟨false, _, signAndRest_of_allDigits hds, hne, hds, by rw [Date.digitsValue_eq]; rfl⟩
  | plus hne hds => exact ⟨false, _, rfl, hne, hds, by rw [Date.digitsValue_eq]; rfl⟩
  | minus hne hds => exact ⟨true, _, rfl, hne, hds, by rw [Date.digitsValue_eq]; rfl⟩

theorem lowercase (h : DecimalText s.toList n) : lowercase s = s := by
  apply lowercase_of_forall
  generalize s.toList = cs at h
  have hdigits {ds : List Char} (hds : AllDigits ds) :
      ∀ c ∈ ds, c.toNat < 0x80 ∧ c.toLower = c :=
    hds.forall (by decide)
  cases h with
  | plain _ hds => exact hdigits hds
  | plus _ hds => exact List.forall_mem_cons.mpr ⟨by decide, hdigits hds⟩
  | minus _ hds => exact List.forall_mem_cons.mpr ⟨by decide, hdigits hds⟩

theorem integerText (h : DecimalText s.toList n) :
    integerText s = if fits64 n then some n else none := by
  obtain ⟨negative, ds, hsign, hne, hds, rfl⟩ := h.digits
  have hdigits : (!ds.isEmpty && ds.all Char.isDigit) = true := by
    rw [List.all_eq_true.mpr hds, List.isEmpty_eq_false_iff.mpr hne]
    rfl
  rw [AccountRegistry.integerText, hsign]
  dsimp only
  rw [hdigits, Bool.true_and]

theorem realText (h : DecimalText s.toList n) (hn : n ≠ 0) :
    realText s = some (.ofDecimal (n < 0) n.natAbs 0) := by
  obtain ⟨negative, ds, hsign, hne, hds, rfl⟩ := h.digits
  obtain ⟨c, rest, hcons⟩ := List.exists_cons_of_ne_nil hne
  -- the digits are no word
  have hlower : ds.map Char.toLower = ds :=
    (List.map_congr_left (hds.forall (by decide))).trans (List.map_id ds)
  have hword {word : String} (hword : word.toList.head?.any Char.isDigit = false) :
      String.ofList (ds.map Char.toLower) ≠ word := by
    rintro rfl
    rw [hlower, String.toList_ofList, hcons] at hword
    rw [hcons] at hds
    exact absurd (hword.symm.trans hds.head) Bool.false_ne_true
  have htake : ds.takeWhile Char.isDigit = ds := List.takeWhile_eq_self_iff.mpr hds
  have hdrop : ds.dropWhile Char.isDigit = [] := List.dropWhile_eq_nil_iff.mpr hds
  have hnegative : negative =
      decide ((if negative then -(Date.digitsValue ds : Int) else Date.digitsValue ds) < 0) := by
    cases negative with
    | false => simp
    | true =>
      have hvalue : (-(Date.digitsValue ds : Int)) ≠ 0 := hn
      exact (decide_eq_true (by show (-(Date.digitsValue ds : Int)) < 0; omega)).symm
  have hvalue : (if negative then -(Date.digitsValue ds : Int) else Date.digitsValue ds).natAbs =
      Date.digitsValue ds := by
    split <;> omega
  rw [AccountRegistry.realText, hsign]
  dsimp only
  rw [if_neg (not_or.mpr ⟨hword rfl, hword rfl⟩), if_neg (hword rfl), htake, hdrop]
  dsimp only
  rw [List.append_nil, List.isEmpty_eq_false_iff.mpr hne, ← hnegative, hvalue]
  rfl

theorem ne_word (h : DecimalText s.toList n) {word : String}
    (hword : (signAndRest word.toList).2.all Char.isDigit = false) : s ≠ word := by
  rintro rfl
  obtain ⟨negative, ds, hsign, -, hds, -⟩ := h.digits
  rw [hsign, List.all_eq_true.mpr hds] at hword
  cases hword

end DecimalText

/-- **An integer of more than 64 bits is taken for a double.** -/
theorem parsedValue_of_decimalText (h : DecimalText s.toList n) :
    parsedValue s = if fits64 n then .integer n else .real (.ofDecimal (n < 0) n.natAbs 0) := by
  rw [parsedValue, h.lowercase, h.integerText]
  split
  · exact absurd rfl (h.ne_word rfl)
  · exact absurd rfl (h.ne_word rfl)
  · by_cases hn : fits64 n = true
    · rw [if_pos hn, if_pos hn]
    · have hne : n ≠ 0 := by
        rintro rfl
        exact hn rfl
      rw [if_neg hn, if_neg hn, h.realText hne]

/-! ### Settings -/

/-- The number that a setting becomes if its variable holds the numeral of `n`: the nearest one
that is a double if `n` has more than 64 bits, and nothing at all if it is negative. -/
def received (n : Int) : Nat :=
  if n < 0x8000000000000000 then n.toNat
  else min (Binary64.roundScaled n.toNat 1 11 * 2 ^ 11) greatestUnsigned

theorem fits64_iff : fits64 n = true ↔ -0x8000000000000000 ≤ n ∧ n < 0x8000000000000000 := by
  rw [fits64, Bool.and_eq_true, decide_eq_true_iff, decide_eq_true_iff]

/-- **A negative number is refused, unless it is taken for a double.** -/
theorem toNatural_parsedValue (h : DecimalText s.toList n) {v : Nat} :
    (parsedValue s).toNatural = .ok v ↔
      (n < -0x8000000000000000 ∨ 0 ≤ n) ∧ v = received n := by
  rw [parsedValue_of_decimalText h]
  by_cases hfits : fits64 n = true
  · have hbounds := fits64_iff.mp hfits
    rw [if_pos hfits, Scalar.toNatural, received, if_pos hbounds.2]
    by_cases hn : n < 0
    · rw [if_pos hn]
      exact iff_of_false nofun fun h => by omega
    · rw [if_neg hn, Except.ok.injEq]
      exact ⟨fun hv => ⟨.inr (by omega), hv.symm⟩, fun hv => hv.2.symm⟩
  · have hbounds := mt fits64_iff.mpr hfits
    have hvalue : saturated (.ofDecimal (n < 0) n.natAbs 0) = received n := by
      by_cases hn : n < 0
      · rw [decide_eq_true hn, saturated_ofDecimal_negative, received, if_pos (by omega)]
        omega
      · have hnat : n.natAbs = n.toNat := by omega
        rw [decide_eq_false hn, hnat, saturated_ofDecimal (by omega), received, if_neg (by omega)]
    rw [if_neg hfits, Scalar.toNatural, hvalue, Except.ok.injEq]
    exact ⟨fun hv => ⟨by omega, hv.symm⟩, fun hv => hv.2.symm⟩

theorem received_le (n : Int) : received n ≤ greatestUnsigned := by
  rw [received]
  split
  · have : greatestUnsigned = 0xFFFFFFFFFFFFFFFF := rfl
    omega
  · exact Nat.min_le_right _ _

/-- **Integers of 64 bits are left as they are, and of the greater ones the multiples of 2048 and
the greatest.** -/
theorem received_eq_iff (n : Int) :
    (received n : Int) = n ↔
      0 ≤ n ∧ (n < 2 ^ 63 ∨ (2048 ∣ n ∧ n < 2 ^ 64) ∨ n = 2 ^ 64 - 1) := by
  rw [received]
  split
  · omega
  · next hlarge =>
    obtain ⟨m, rfl⟩ := Int.eq_ofNat_of_zero_le (a := n) (by omega)
    have hgreatest : greatestUnsigned = 2 ^ 64 - 1 := rfl
    have hround : Binary64.roundScaled m 1 11 = if 2 * (m % 2 ^ 11) < 2 ^ 11 then m / 2 ^ 11
        else if 2 ^ 11 < 2 * (m % 2 ^ 11) then m / 2 ^ 11 + 1
        else m / 2 ^ 11 + m / 2 ^ 11 % 2 :=
      Binary64.roundScaled_natCast m 11
    rw [Int.toNat_natCast, hround, hgreatest]
    split
    · omega
    · split <;> omega

end AccountRegistry
