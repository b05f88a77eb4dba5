/-
Account ids as numbers.

* **`AccountId.number`** — the number that an id stands for;
* **`AccountId.wellFormed_iff`** — the well-formed texts are the numerals of the numbers from
  `least` to `greatest`;
* **`AccountId.text_lt_iff`** — the texts of ids are in the order of their numbers;
* **`AccountId.ids_are_numerals`** — ids that are parsed, made of a number or clamped are all
  the same numerals, and sorting them sorts their numbers.
-/
import AccountRegistry.AccountId
import AccountRegistry.Proofs.Text.Numeral
import Mathlib.Data.List.Sort

namespace AccountRegistry

namespace AccountId

open Text

/-- The number that an id stands for. -/
def number (id : AccountId) : Nat :=
  Nat.ofDigitChars 10 id.text.toList 0

variable {s : String} {n : Nat} {a b id : AccountId}

/-! ### Numerals of ten digits -/

theorem wellFormed_eq_true_iff :
    wellFormed s = true ↔
      s.toList.length = 10 ∧ AllDigits s.toList ∧ s.toList.head? ≠ some '0' := by
  simp only [wellFormed, Bool.and_eq_true, List.all_eq_true, decide_eq_true_eq, bne_iff_ne,
    and_assoc]
  rfl

theorem toList_numeral (n : Nat) : (numeral n).toList = Nat.toDigits 10 n :=
  String.toList_ofList

/-- The numerals of the numbers in range are well formed. -/
theorem wellFormed_numeral (hleast : least ≤ n) (hgreatest : n ≤ greatest) :
    wellFormed (numeral n) = true := by
  have : least = 1000000000 := rfl
  have : greatest = 9999999999 := rfl
  -- ten digits are enough, and nine are not
  have hten := (Nat.length_toDigits_le_iff (b := 10) (n := n) (k := 10) (by decide)
    (by decide)).mpr (by omega)
  have hnine := mt (Nat.length_toDigits_le_iff (b := 10) (n := n) (k := 9) (by decide)
    (by decide)).mp (by omega)
  rw [wellFormed_eq_true_iff, toList_numeral]
  exact ⟨by omega, allDigits_toDigits n, head_toDigits (by omega)⟩

/-- A well-formed id is the numeral of its number, which is in range. -/
theorem numeral_number (h : wellFormed id.text = true) :
    least ≤ id.number ∧ id.number ≤ greatest ∧ numeral id.number = id.text := by
  obtain ⟨hlength, hdigits, hhead⟩ := wellFormed_eq_true_iff.mp h
  obtain ⟨c, ds, htext⟩ := List.exists_cons_of_length_eq_add_one hlength
  rw [htext] at hlength hdigits hhead
  have hzero : c ≠ '0' := fun heq => hhead (congrArg some heq)
  have hds : ds.length = 9 := by simpa using hlength
  have hlow := pow_le_ofDigitChars hdigits hzero
  have hhigh := ofDigitChars_lt_pow hdigits
  rw [hds] at hlow
  rw [hlength] at hhigh
  rw [numeral, number, htext, toDigits_ofDigitChars hdigits hzero, ← htext, String.ofList_toList,
    htext]
  exact ⟨hlow, Nat.le_of_lt_succ hhigh, rfl⟩

/-- **The well-formed texts are the numerals of the numbers in range.** -/
theorem wellFormed_iff :
    wellFormed s = true ↔ ∃ n, least ≤ n ∧ n ≤ greatest ∧ numeral n = s := by
  constructor
  · exact fun h => ⟨number ⟨s⟩, @numeral_number ⟨s⟩ h⟩
  · rintro ⟨n, hleast, hgreatest, rfl⟩
    exact wellFormed_numeral hleast hgreatest

/-! ### Ways to an id -/

theorem parse_eq_ok_iff : parse s = .ok id ↔ wellFormed s = true ∧ id.text = s := by
  rw [parse]
  split
  · next h =>
    constructor
    · intro hid
      cases hid
      exact ⟨h, rfl⟩
    · rintro ⟨-, rfl⟩
      rfl
  · next h => exact iff_of_false nofun fun hid => h hid.1

theorem ofNumber_eq_ok_iff :
    ofNumber n = .ok id ↔ (least ≤ n ∧ n ≤ greatest) ∧ id.text = numeral n := by
  rw [ofNumber]
  split
  · next h =>
    constructor
    · intro hid
      cases hid
      exact ⟨h, rfl⟩
    · rintro ⟨-, hid⟩
      rw [← hid]
  · next h => exact iff_of_false nofun fun hid => h hid.1

theorem number_of_ofNumber (h : ofNumber n = .ok id) : id.number = n := by
  obtain ⟨-, htext⟩ := ofNumber_eq_ok_iff.mp h
  rw [number, htext, toList_numeral, Nat.ofDigitChars_ten_toDigits]

/-- The id of a number is parsed from its numeral. -/
theorem ofNumber_eq_ok_iff_parse :
    ofNumber n = .ok id ↔ (least ≤ n ∧ n ≤ greatest) ∧ parse (numeral n) = .ok id := by
  rw [ofNumber_eq_ok_iff, parse_eq_ok_iff]
  refine and_congr_right fun h => (and_iff_right ?_).symm
  exact wellFormed_numeral h.1 h.2

/-- A clamped number is the id of the number in range that is nearest to it. -/
theorem ofNumber_clamp (n : Nat) : ofNumber (max least (min n greatest)) = .ok (clamped n) := by
  have : least ≤ greatest := by decide
  exact ofNumber_eq_ok_iff.mpr ⟨by omega, rfl⟩

/-! ### The order of ids -/

/-- **The texts of ids are in the order of their numbers.** -/
theorem text_lt_iff (ha : wellFormed a.text = true) (hb : wellFormed b.text = true) :
    a.text < b.text ↔ a.number < b.number := by
  obtain ⟨hlengtha, hdigitsa, -⟩ := wellFormed_eq_true_iff.mp ha
  obtain ⟨hlengthb, hdigitsb, -⟩ := wellFormed_eq_true_iff.mp hb
  rw [String.lt_iff]
  exact lt_iff_ofDigitChars_lt hdigitsa hdigitsb (hlengtha.trans hlengthb.symm)

theorem precedes_iff : precedes a b = true ↔ a.text ≤ b.text := by
  rw [precedes, Bool.not_eq_true', decide_eq_false_iff_not, String.not_lt]

theorem precedes_iff_number (ha : wellFormed a.text = true) (hb : wellFormed b.text = true) :
    precedes a b = true ↔ a.number ≤ b.number := by
  rw [precedes_iff, ← String.not_lt, text_lt_iff hb ha, Nat.not_lt]

/-- Ids of one number are the same. -/
theorem eq_of_number_eq (ha : wellFormed a.text = true) (hb : wellFormed b.text = true)
    (h : a.number = b.number) : a = b := by
  have htext : a.text = b.text := by
    rw [← (numeral_number ha).2.2, h, (numeral_number hb).2.2]
  exact congrArg AccountId.mk htext

theorem pairwise_sort (ids : List AccountId) :
    (sort ids).Pairwise fun a b => precedes a b = true := by
  refine List.pairwise_mergeSort (fun a b c hab hbc => ?_) (fun a b => ?_) ids
  · rw [precedes_iff] at *
    exact String.le_trans hab hbc
  · rw [Bool.or_eq_true, precedes_iff, precedes_iff]
    exact String.le_total _ _

/-- **Sorting ids sorts their numbers**, and there is no other way to do it. -/
theorem eq_sort_iff {ids sorted : List AccountId}
    (h : ∀ id ∈ ids, wellFormed id.text = true) :
    sorted = sort ids ↔ sorted.Perm ids ∧ sorted.Pairwise fun a b => a.number ≤ b.number := by
  have hperm : (sort ids).Perm ids := List.mergeSort_perm ids precedes
  have hnumbers : (sort ids).Pairwise fun a b => a.number ≤ b.number :=
    (pairwise_sort ids).imp_of_mem fun ha hb hab => (precedes_iff_number
      (h _ (hperm.mem_iff.mp ha)) (h _ (hperm.mem_iff.mp hb))).mp hab
  constructor
  · rintro rfl
    exact ⟨hperm, hnumbers⟩
  · rintro ⟨hsorted, hascending⟩
    refine (hsorted.trans hperm.symm).eq_of_pairwise (fun a b ha hb hab hba => ?_) hascending
      hnumbers
    exact eq_of_number_eq (h a (hsorted.mem_iff.mp ha)) (h b (hperm.mem_iff.mp hb))
      (Nat.le_antisymm hab hba)

/-- **Account ids are the numerals of a range of numbers, in their order.**  A text is an id
exactly if it is the numeral of a number in range, and a number gives the id that is parsed from
its numeral, if it is in range.  A clamped number is the id of the nearest number in range. -/
theorem ids_are_numerals :
    (∀ s id, parse s = .ok id ↔
      id.text = s ∧ ∃ n, least ≤ n ∧ n ≤ greatest ∧ numeral n = s) ∧
    (∀ n id, ofNumber n = .ok id ↔
      (least ≤ n ∧ n ≤ greatest) ∧ parse (numeral n) = .ok id ∧ id.number = n) ∧
    (∀ m n id, ofNumber m = .ok id → ofNumber n = .ok id → m = n) ∧
    (∀ n, parse (clamped n).text = .ok (clamped n) ∧
      (clamped n).number = max least (min n greatest)) ∧
    (∀ m n, m ≤ n → precedes (clamped m) (clamped n) = true) ∧
    (∀ a b : AccountId, wellFormed a.text = true → wellFormed b.text = true →
      (a.text < b.text ↔ a.number < b.number)) ∧
    ∀ ids : List AccountId, (∀ id ∈ ids, wellFormed id.text = true) → ∀ sorted,
      (sorted = sort ids ↔
        sorted.Perm ids ∧ sorted.Pairwise fun a b => a.number ≤ b.number) := by
  have hclamped (n : Nat) : wellFormed (clamped n).text = true :=
    have ⟨hrange, htext⟩ := ofNumber_eq_ok_iff.mp (ofNumber_clamp n)
    htext ▸ wellFormed_numeral hrange.1 hrange.2
  have hnumber (n : Nat) := number_of_ofNumber (ofNumber_clamp n)
  refine ⟨fun s id => ?_, fun n id => ?_, fun m n id hm hn => ?_, fun n => ?_, fun m n h => ?_,
    fun a b ha hb => text_lt_iff ha hb, fun ids h sorted => eq_sort_iff h⟩
  · rw [parse_eq_ok_iff, wellFormed_iff, and_comm]
  · constructor
    · intro h
      obtain ⟨hrange, hparse⟩ := ofNumber_eq_ok_iff_parse.mp h
      exact ⟨hrange, hparse, number_of_ofNumber h⟩
    · rintro ⟨hrange, hparse, -⟩
      exact ofNumber_eq_ok_iff_parse.mpr ⟨hrange, hparse⟩
  · rw [← number_of_ofNumber hm, number_of_ofNumber hn]
  · exact ⟨parse_eq_ok_iff.mpr ⟨hclamped n, rfl⟩, hnumber n⟩
  · rw [precedes_iff_number (hclamped m) (hclamped n), hnumber, hnumber]
    omega

theorem ids_are_numerals_bounds :
    precedes (clamped 0) (clamped 0xFFFFFFFFFFFFFFFF) = true ∧
    (("1000000000" : String) < "9999999999" ↔
      number ⟨"1000000000"⟩ < number ⟨"9999999999"⟩) ∧
    [⟨"1000000000"⟩, ⟨"1999999999"⟩, ⟨"2000000000"⟩, ⟨"9999999999"⟩] =
      sort [⟨"2000000000"⟩, ⟨"9999999999"⟩, ⟨"1000000000"⟩, ⟨"1999999999"⟩] := by
  obtain ⟨-, -, -, -, hmonotone, horder, hsort⟩ := ids_are_numerals
  exact ⟨hmonotone _ _ (by decide), horder ⟨"1000000000"⟩ ⟨"9999999999"⟩ (by decide) (by decide),
    (hsort _ (by decide) _).mpr ⟨by decide, by decide⟩⟩

end AccountId

end AccountRegistry
