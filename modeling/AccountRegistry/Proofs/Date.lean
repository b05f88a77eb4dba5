/-
The written form of a date.

* **`Date.parse_text`** — a date is read back from its written form;
* **`Date.parseStored_text`** — a database column gives it back as well;
* **`Date.exists_chars_eq`** — the written form begins with digits, perhaps after a sign, and
  a dash follows them.
-/
import AccountRegistry.Date

namespace AccountRegistry

namespace Text

theorem isBlank_eq_false_of_isDigit {c : Char} (h : c.isDigit = true) : isBlank c = false := by
  have hc : 48 ≤ c.toNat ∧ c.toNat ≤ 57 := Char.isDigit_iff_toNat.mp h
  simp only [isBlank, Bool.or_eq_false_iff, Bool.and_eq_false_iff, decide_eq_false_iff_not,
    beq_eq_false_iff_ne]
  omega

/-- Nothing is skipped in front of a character that is not white space. -/
theorem skipBlanks_cons {c : Char} (h : isBlank c = false) (cs : List Char) :
    skipBlanks (c :: cs) = c :: cs := by
  rw [skipBlanks, List.dropWhile_cons_of_neg (by rw [h]; exact Bool.false_ne_true)]

end Text

namespace Date

/-! ### Numerals -/

theorem digitsValue_eq (ds : List Char) : digitsValue ds = Nat.ofDigitChars 10 ds 0 := by
  rw [Nat.ofDigitChars_eq_foldl, digitsValue]
  congr
  funext n c
  rw [Nat.mul_comm]
  rfl

/-- Zeros in front do not change the value of a numeral. -/
theorem digitsValue_padded (width n : Nat) : digitsValue (padded width n) = n := by
  rw [digitsValue_eq, padded, Nat.ofDigitChars_append, Nat.ofDigitChars_replicate_zero,
    Nat.mul_zero, Nat.ofDigitChars_ten_toDigits]

theorem isDigit_of_mem_padded {width n : Nat} {c : Char} (h : c ∈ padded width n) :
    c.isDigit = true := by
  rcases List.mem_append.mp h with h | h
  · rw [List.eq_of_mem_replicate h]
    rfl
  · exact Nat.isDigit_of_mem_toDigits (by decide) (by decide) h

theorem padded_ne_nil (width n : Nat) : padded width n ≠ [] := by
  intro h
  exact Nat.toDigits_ne_nil (List.append_eq_nil_iff.mp h).2

theorem length_padded {width n : Nat} (h : (Nat.toDigits 10 n).length ≤ width) :
    (padded width n).length = width := by
  rw [padded, List.length_append, List.length_replicate]
  omega

theorem scanNumber_append {width : Option Nat} {ds rest : List Char}
    (hds : ∀ c ∈ ds, c.isDigit = true) (hne : ds ≠ [])
    (hwidth : ∀ w ∈ width, ds.length ≤ w)
    (hrest : ∀ c ∈ rest.head?, c.isDigit = false) :
    scanNumber width (ds ++ rest) = .ok (digitsValue ds, rest) := by
  have hstop : rest.takeWhile Char.isDigit = [] := by
    cases rest with
    | nil => rfl
    | cons c rest =>
      refine List.takeWhile_cons_of_neg ?_
      rw [hrest c rfl]
      exact Bool.false_ne_true
  have hdigits : (ds ++ rest).takeWhile Char.isDigit = ds := by
    rw [List.takeWhile_append_of_pos hds, hstop, List.append_nil]
  have hempty : ds.isEmpty = false := by
    rw [List.isEmpty_eq_false_iff]
    exact hne
  cases width with
  | none => simp only [scanNumber, hdigits, hempty, Bool.false_eq_true, if_false, List.drop_left]
  | some w =>
    have hcut : ds.take w = ds := List.take_of_length_le (hwidth w rfl)
    simp only [scanNumber, hdigits, hcut, hempty, Bool.false_eq_true, if_false, List.drop_left]

theorem scanNumber_padded {width : Option Nat} {w n : Nat} {rest : List Char}
    (hwidth : ∀ w' ∈ width, (padded w n).length ≤ w')
    (hrest : ∀ c ∈ rest.head?, c.isDigit = false) :
    scanNumber width (padded w n ++ rest) = .ok (n, rest) := by
  rw [scanNumber_append (fun _ => isDigit_of_mem_padded) (padded_ne_nil w n) hwidth hrest,
    digitsValue_padded]

theorem exists_padded_eq_cons (w n : Nat) :
    ∃ c cs, padded w n = c :: cs ∧ c.isDigit = true := by
  obtain ⟨c, cs, h⟩ := List.exists_cons_of_ne_nil (padded_ne_nil w n)
  exact ⟨c, cs, h, isDigit_of_mem_padded (h ▸ List.mem_cons_self)⟩

/-! ### The parts of a date -/

theorem scannedYear_of_isDate {year : Int} {month day : Nat} (h : IsDate year month day)
    (rest : List Char) : scannedYear year rest = .ok (year, rest) := by
  obtain ⟨hfirst, hlast, -⟩ := h
  have : firstYear = -262143 := rfl
  have : lastYear = 262142 := rfl
  rw [scannedYear, if_pos (by omega)]

/-- Without a sign a year has at most four digits. -/
theorem scanYear_of_digit {c : Char} (h : c.isDigit = true) (cs : List Char) :
    scanYear (c :: cs) =
      (scanNumber (some 4) (c :: cs)).bind fun x => scannedYear x.1 x.2 := by
  rw [scanYear, Text.skipBlanks_cons (Text.isBlank_eq_false_of_isDigit h)]
  split
  · next heq => cases heq; cases h
  · next heq => cases heq; cases h
  · rfl

theorem scanYear_yearText {year : Int} {month day : Nat} (h : IsDate year month day)
    {rest : List Char} (hrest : ∀ c ∈ rest.head?, c.isDigit = false) :
    scanYear (yearText year ++ rest) = .ok (year, rest) := by
  by_cases hfour : 0 ≤ year ∧ year ≤ 9999
  · -- without a sign exactly four digits are written and read
    have hlength : (padded 4 year.natAbs).length = 4 :=
      length_padded ((Nat.length_toDigits_le_iff (by decide) (by decide)).mpr (by omega))
    have hscan : scanNumber (some 4) (padded 4 year.natAbs ++ rest) = .ok (year.natAbs, rest) :=
      scanNumber_padded (by rintro w ⟨⟩; exact Nat.le_of_eq hlength) hrest
    obtain ⟨c, cs, hcs, hc⟩ := exists_padded_eq_cons 4 year.natAbs
    rw [yearText, if_pos hfour]
    rw [hcs, List.cons_append] at hscan ⊢
    rw [scanYear_of_digit hc, hscan, Except.bind, Int.natAbs_of_nonneg hfour.1]
    exact scannedYear_of_isDate h rest
  · -- after a sign all digits are read, however many there are
    have hscan : scanNumber none (padded 4 year.natAbs ++ rest) = .ok (year.natAbs, rest) :=
      scanNumber_padded (by simp) hrest
    rw [yearText, if_neg hfour, List.cons_append]
    by_cases hsign : year < 0
    · rw [if_pos hsign, scanYear, Text.skipBlanks_cons rfl]
      simp only [hscan, bind, Except.bind]
      rw [Int.ofNat_natAbs_of_nonpos (by omega), Int.neg_neg]
      exact scannedYear_of_isDate h rest
    · rw [if_neg hsign, scanYear, Text.skipBlanks_cons rfl]
      simp only [hscan, bind, Except.bind]
      rw [Int.natAbs_of_nonneg (by omega)]
      exact scannedYear_of_isDate h rest

theorem scanPart_padded {last n : Nat} {rest : List Char} (hn : 1 ≤ n) (hlast : n ≤ last)
    (hn' : n < 100) (hrest : ∀ c ∈ rest.head?, c.isDigit = false) :
    scanPart last (padded 2 n ++ rest) = .ok (n, rest) := by
  have hlength : (padded 2 n).length = 2 :=
    length_padded ((Nat.length_toDigits_le_iff (by decide) (by decide)).mpr hn')
  have hscan : scanNumber (some 2) (padded 2 n ++ rest) = .ok (n, rest) :=
    scanNumber_padded (by rintro w ⟨⟩; exact Nat.le_of_eq hlength) hrest
  obtain ⟨c, cs, hcs, hc⟩ := exists_padded_eq_cons 2 n
  rw [hcs, List.cons_append] at hscan ⊢
  rw [scanPart, Text.skipBlanks_cons (Text.isBlank_eq_false_of_isDigit hc), hscan]
  show (if 1 ≤ n ∧ n ≤ last then _ else _) = _
  rw [if_pos ⟨hn, hlast⟩]

theorem ofParts_self (d : Date) : ofParts d.year d.month d.day = .ok d := by
  rw [ofParts, dif_pos d.isDate]

theorem daysIn_le (year : Int) (month : Nat) : daysIn year month ≤ 31 := by
  rw [daysIn]
  split
  · split <;> decide
  · split <;> decide

/-! ### Whole dates -/

/-- The written form begins with digits, perhaps after a sign, and a dash follows them. -/
theorem exists_chars_eq (d : Date) :
    ∃ sign ds rest, d.chars = sign ++ ds ++ '-' :: rest ∧ sign ∈ [[], ['-'], ['+']] ∧
      ds ≠ [] ∧ ∀ c ∈ ds, c.isDigit = true := by
  have hdigits : ∀ c ∈ padded 4 d.year.natAbs, c.isDigit = true :=
    fun _ => isDigit_of_mem_padded
  have hne : padded 4 d.year.natAbs ≠ [] := padded_ne_nil 4 d.year.natAbs
  let rest := padded 2 d.month ++ '-' :: padded 2 d.day
  by_cases hfour : 0 ≤ d.year ∧ d.year ≤ 9999
  · refine ⟨[], _, rest, ?_, by decide, hne, hdigits⟩
    rw [chars, yearText, if_pos hfour, List.append_assoc]
    rfl
  · by_cases hsign : d.year < 0
    · refine ⟨['-'], _, rest, ?_, by decide, hne, hdigits⟩
      rw [chars, yearText, if_neg hfour, if_pos hsign, List.append_assoc]
      rfl
    · refine ⟨['+'], _, rest, ?_, by decide, hne, hdigits⟩
      rw [chars, yearText, if_neg hfour, if_neg hsign, List.append_assoc]
      rfl

/-- The written form is read back whatever may stand between its parts. -/
theorem scan_chars {gap : List Char → List Char}
    (hgap : ∀ c cs, Text.isBlank c = false → gap (c :: cs) = c :: cs) (hnil : gap [] = [])
    (d : Date) : scan gap d.chars = .ok d := by
  obtain ⟨-, -, hmonth, hmonth', hday, hday'⟩ := d.isDate
  have hlast : d.day ≤ 31 := Nat.le_trans hday' (daysIn_le d.year d.month)
  have hdash : ∀ cs : List Char, ∀ c ∈ ('-' :: cs).head?, c.isDigit = false := by
    rintro cs c ⟨⟩
    rfl
  have hyearText := scanYear_yearText d.isDate (hdash (padded 2 d.month ++ '-' :: padded 2 d.day))
  have hmonthText := scanPart_padded hmonth hmonth' (by omega) (hdash (padded 2 d.day))
  have hdayText : scanPart 31 (padded 2 d.day) = .ok (d.day, []) := by
    rw [← List.append_nil (padded 2 d.day)]
    exact scanPart_padded hday hlast (by omega) (by simp)
  have hgapDash : ∀ cs, gap ('-' :: cs) = '-' :: cs := fun cs => hgap '-' cs rfl
  simp only [scan, chars, List.append_assoc, List.cons_append, bind, Except.bind, hyearText,
    hgapDash, scanDash, if_true, hmonthText, hdayText, hnil, List.isEmpty_nil]
  exact d.ofParts_self

/-- **A date is read back from its written form.** -/
theorem parse_text (d : Date) : parse d.text = .ok d := by
  rw [parse, text, String.toList_ofList]
  exact scan_chars (fun _ cs h => Text.skipBlanks_cons h cs) rfl d

/-- **A date is read back from the column that it was written to.** -/
theorem parseStored_text (d : Date) : parseStored d.text = .ok d := by
  rw [parseStored, text, String.toList_ofList]
  exact scan_chars (fun _ _ _ => rfl) rfl d

end Date

end AccountRegistry
