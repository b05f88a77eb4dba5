/-
Numerals in base ten: digits and the numbers that they stand for.

* **`toDigits_ofDigitChars`** — digits that do not begin with a zero are the numeral of their
  value;
* **`pow_le_ofDigitChars`**, **`ofDigitChars_lt_pow`** — the number of digits bounds the value;
* **`lt_iff_ofDigitChars_lt`** — numerals of one length are in the order of their values.
-/
import Mathlib.Algebra.Group.Nat.Defs

namespace AccountRegistry.Text

open Nat

/-- All characters are digits. -/
def AllDigits (ds : List Char) : Prop :=
  ∀ c ∈ ds, c.isDigit = true

variable {c : Char} {ds es : List Char}

theorem AllDigits.head (h : AllDigits (c :: ds)) : c.isDigit = true :=
  h c List.mem_cons_self

theorem AllDigits.tail (h : AllDigits (c :: ds)) : AllDigits ds :=
  fun d hd => h d (List.mem_cons_of_mem c hd)

theorem allDigits_toDigits (n : Nat) : AllDigits (toDigits 10 n) :=
  fun _ hc => isDigit_of_mem_toDigits (by decide) (by decide) hc

theorem digitChar_of_isDigit (h : c.isDigit = true) : digitChar (c.toNat - 48) = c := by
  have hc : 48 ≤ c.toNat ∧ c.toNat ≤ 57 := Char.isDigit_iff_toNat.mp h
  apply Char.toNat_inj.mp
  rw [toNat_digitChar_of_lt_ten (by omega)]
  omega

/-- The first digit counts as often as the number of the others says. -/
theorem ofDigitChars_cons_zero (c : Char) (ds : List Char) :
    ofDigitChars 10 (c :: ds) 0 = 10 ^ ds.length * (c.toNat - 48) + ofDigitChars 10 ds 0 := by
  rw [ofDigitChars_cons, Nat.mul_zero, Nat.zero_add, ofDigitChars_eq_ofDigitChars_zero]
  rfl

theorem ofDigitChars_lt_pow (h : AllDigits ds) : ofDigitChars 10 ds 0 < 10 ^ ds.length := by
  induction ds with
  | nil => exact Nat.one_pos
  | cons c ds ih =>
    have hc : 48 ≤ c.toNat ∧ c.toNat ≤ 57 := Char.isDigit_iff_toNat.mp h.head
    have hrest := ih h.tail
    have hfirst : 10 ^ ds.length * (c.toNat - 48) ≤ 10 ^ ds.length * 9 :=
      Nat.mul_le_mul_left _ (by omega)
    rw [ofDigitChars_cons_zero, List.length_cons, Nat.pow_succ]
    omega

theorem pow_le_ofDigitChars (h : AllDigits (c :: ds)) (hzero : c ≠ '0') :
    10 ^ ds.length ≤ ofDigitChars 10 (c :: ds) 0 := by
  have hc : 48 ≤ c.toNat ∧ c.toNat ≤ 57 := Char.isDigit_iff_toNat.mp h.head
  have hne : c.toNat ≠ 48 := fun heq => hzero (Char.toNat_inj.mp heq)
  have hfirst : 10 ^ ds.length * 1 ≤ 10 ^ ds.length * (c.toNat - 48) :=
    Nat.mul_le_mul_left _ (by omega)
  rw [ofDigitChars_cons_zero]
  omega

/-- Digits that are put behind a numeral make up the numeral of the value that they lead to. -/
theorem toDigits_append_digits {n : Nat} (hn : 0 < n) (h : AllDigits ds) :
    toDigits 10 n ++ ds = toDigits 10 (ofDigitChars 10 ds n) := by
  induction ds generalizing n with
  | nil => rw [List.append_nil, ofDigitChars_nil]
  | cons c ds ih =>
    have hc : 48 ≤ c.toNat ∧ c.toNat ≤ 57 := Char.isDigit_iff_toNat.mp h.head
    have hdigit : c.toNat - 48 < 10 := by omega
    have hone : toDigits 10 n ++ [c] = toDigits 10 (10 * n + (c.toNat - 48)) := by
      rw [← toDigits_append_toDigits (by decide) hn hdigit, toDigits_of_lt_base hdigit,
        digitChar_of_isDigit h.head]
    calc toDigits 10 n ++ c :: ds = (toDigits 10 n ++ [c]) ++ ds := by
          rw [List.append_assoc, List.singleton_append]
      _ = toDigits 10 (10 * n + (c.toNat - 48)) ++ ds := by rw [hone]
      _ = toDigits 10 (ofDigitChars 10 (c :: ds) n) := by
          rw [ih (by omega) h.tail, ofDigitChars_cons]
          rfl

/-- **Digits that do not begin with a zero are the numeral of their value.** -/
theorem toDigits_ofDigitChars (h : AllDigits (c :: ds)) (hzero : c ≠ '0') :
    toDigits 10 (ofDigitChars 10 (c :: ds) 0) = c :: ds := by
  have hc : 48 ≤ c.toNat ∧ c.toNat ≤ 57 := Char.isDigit_iff_toNat.mp h.head
  have hne : c.toNat ≠ 48 := fun heq => hzero (Char.toNat_inj.mp heq)
  have hfirst : toDigits 10 (c.toNat - 48) = [c] := by
    rw [toDigits_of_lt_base (by omega), digitChar_of_isDigit h.head]
  have hvalue : ofDigitChars 10 (c :: ds) 0 = ofDigitChars 10 ds (c.toNat - 48) := by
    rw [ofDigitChars_cons, Nat.mul_zero, Nat.zero_add]
    rfl
  rw [hvalue, ← toDigits_append_digits (by omega) h.tail, hfirst, List.singleton_append]

/-- A numeral begins with a zero only if it is the numeral of zero. -/
theorem head_toDigits {n : Nat} (hn : n ≠ 0) : (toDigits 10 n).head? ≠ some '0' := by
  intro hhead
  obtain ⟨ds, hds⟩ := List.head?_eq_some_iff.mp hhead
  have hdigits := allDigits_toDigits n
  have hvalue : ofDigitChars 10 ds 0 = n := by
    have hn := ofDigitChars_ten_toDigits (n := n)
    rwa [hds, ofDigitChars_cons] at hn
  cases ds with
  | nil => exact hn (by rw [← hvalue, ofDigitChars_nil])
  | cons c ds =>
    -- the value without the zero has fewer digits than its numeral
    rw [hds] at hdigits
    have hlt := ofDigitChars_lt_pow hdigits.tail
    have hlength := (length_toDigits_le_iff (b := 10) (n := n) (k := ds.length + 1) (by decide)
      (by omega)).mpr (by rwa [hvalue] at hlt)
    rw [hds, List.length_cons, List.length_cons] at hlength
    omega

/-- **Numerals of one length are in the order of their values.** -/
theorem lt_iff_ofDigitChars_lt (hds : AllDigits ds) (hes : AllDigits es)
    (hlength : ds.length = es.length) :
    ds < es ↔ ofDigitChars 10 ds 0 < ofDigitChars 10 es 0 := by
  induction ds generalizing es with
  | nil =>
    rw [List.eq_nil_of_length_eq_zero hlength.symm]
    simp
  | cons c ds ih =>
    obtain ⟨d, es, rfl⟩ := List.exists_cons_of_length_eq_add_one hlength.symm
    have hrest : ds.length = es.length := by simpa using hlength
    have hlt : c < d ↔ c.toNat < d.toNat := Iff.rfl
    have hc : 48 ≤ c.toNat ∧ c.toNat ≤ 57 := Char.isDigit_iff_toNat.mp hds.head
    have hd : 48 ≤ d.toNat ∧ d.toNat ≤ 57 := Char.isDigit_iff_toNat.mp hes.head
    have hleft := ofDigitChars_lt_pow hds.tail
    have hright := ofDigitChars_lt_pow hes.tail
    rw [hrest] at hleft
    rw [List.cons_lt_cons_iff, ih hds.tail hes.tail hrest, ofDigitChars_cons_zero,
      ofDigitChars_cons_zero, hrest]
    -- the first digits decide, unless they are the same
    rcases Nat.lt_trichotomy c.toNat d.toNat with h | h | h
    · have hstep : 10 ^ es.length * (c.toNat - 48 + 1) ≤ 10 ^ es.length * (d.toNat - 48) :=
        Nat.mul_le_mul_left _ (by omega)
      rw [Nat.mul_add, Nat.mul_one] at hstep
      exact iff_of_true (.inl h) (by omega)
    · obtain rfl := Char.toNat_inj.mp h
      have hirrefl : ¬ c < c := fun hself => Nat.lt_irrefl _ (hlt.mp hself)
      simp only [hirrefl, false_or, true_and, Nat.add_lt_add_iff_left]
    · have hstep : 10 ^ es.length * (d.toNat - 48 + 1) ≤ 10 ^ es.length * (c.toNat - 48) :=
        Nat.mul_le_mul_left _ (by omega)
      rw [Nat.mul_add, Nat.mul_one] at hstep
      refine iff_of_false ?_ (by omega)
      rintro (hlt' | ⟨rfl, -⟩)
      · exact absurd (hlt.mp hlt') (by omega)
      · exact absurd h (Nat.lt_irrefl _)

end AccountRegistry.Text
