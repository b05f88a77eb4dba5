/-
Dates as people write them.

* **`Date.Denotes`** — a text of a year, a month and a day with dashes between them, white space
  around each of them, denotes a date;
* **`Date.parse_eq_ok_iff`** — a text is read as a date exactly if it denotes that date.
-/
import AccountRegistry.Proofs.Date
import AccountRegistry.Proofs.Except
import Mathlib.Data.List.TakeWhile

namespace AccountRegistry

namespace Date

open Text

/-- A year as it is written: at most four digits, or a sign and digits. -/
inductive IsYear : List Char → Int → Prop
  | plain {ds : List Char} (hne : ds ≠ []) (hds : ∀ c ∈ ds, c.isDigit = true)
      (hlength : ds.length ≤ 4) : IsYear ds (digitsValue ds)
  | plus {ds : List Char} (hne : ds ≠ []) (hds : ∀ c ∈ ds, c.isDigit = true) :
      IsYear ('+' :: ds) (digitsValue ds)
  | minus {ds : List Char} (hne : ds ≠ []) (hds : ∀ c ∈ ds, c.isDigit = true) :
      IsYear ('-' :: ds) (-(digitsValue ds : Int))

/-- A month or a day as it is written: one digit or two. -/
inductive IsPart : List Char → Nat → Prop
  | digits {ds : List Char} (hne : ds ≠ []) (hds : ∀ c ∈ ds, c.isDigit = true)
      (hlength : ds.length ≤ 2) : IsPart ds (digitsValue ds)

/-- `cs` is `part` with white space around it. -/
def Spaced (cs part : List Char) : Prop :=
  ∃ before after, cs = before ++ (part ++ after) ∧ (∀ c ∈ before, isBlank c = true) ∧
    ∀ c ∈ after, isBlank c = true

/-- A text denotes a date: year, month and day with dashes between them. -/
def Denotes (cs : List Char) (d : Date) : Prop :=
  ∃ y m n year month day, cs = y ++ '-' :: (m ++ '-' :: n) ∧
    Spaced y year ∧ IsYear year d.year ∧ Spaced m month ∧ IsPart month d.month ∧
    Spaced n day ∧ IsPart day d.day

variable {cs rest : List Char}

/-! ### White space -/

theorem skipBlanks_append {gap : List Char} (hgap : ∀ c ∈ gap, isBlank c = true)
    (cs : List Char) : skipBlanks (gap ++ cs) = skipBlanks cs :=
  List.dropWhile_append_of_pos hgap

theorem exists_blanks (cs : List Char) :
    ∃ gap, cs = gap ++ skipBlanks cs ∧ ∀ c ∈ gap, isBlank c = true :=
  ⟨cs.takeWhile isBlank, List.takeWhile_append_dropWhile.symm, fun _ => List.mem_takeWhile_imp⟩

/-- White space may stand before a dash. -/
theorem skipBlanks_dash {gap : List Char} (hgap : ∀ c ∈ gap, isBlank c = true)
    (cs : List Char) : skipBlanks (gap ++ '-' :: cs) = '-' :: cs := by
  rw [skipBlanks_append hgap, skipBlanks_cons rfl]

/-- Behind a number there is no digit, if white space or something else follows. -/
theorem head_blanks {gap : List Char} (hgap : ∀ c ∈ gap, isBlank c = true)
    (hrest : ∀ c ∈ rest.head?, c.isDigit = false) :
    ∀ c ∈ (gap ++ rest).head?, c.isDigit = false := by
  cases gap with
  | nil => exact hrest
  | cons c gap =>
    rintro c' ⟨⟩
    have hblank := hgap c List.mem_cons_self
    by_contra hdigit
    rw [Bool.not_eq_false] at hdigit
    rw [isBlank_eq_false_of_isDigit hdigit] at hblank
    cases hblank

theorem head_dash (cs : List Char) : ∀ c ∈ ('-' :: cs).head?, c.isDigit = false := by
  rintro c ⟨⟩
  rfl

/-! ### Numbers -/

theorem exists_of_scanNumber {width : Option Nat} {n : Nat}
    (h : scanNumber width cs = .ok (n, rest)) :
    ∃ ds, cs = ds ++ rest ∧ ds ≠ [] ∧ (∀ c ∈ ds, c.isDigit = true) ∧
      (∀ w ∈ width, ds.length ≤ w) ∧ n = digitsValue ds := by
  -- the digits that are read are the first ones of `cs`, so many as the width lets through
  obtain ⟨ds, hprefix, hdigits, hwidth, hscan⟩ : ∃ ds, ds <+: cs ∧
      (∀ c ∈ ds, c.isDigit = true) ∧ (∀ w ∈ width, ds.length ≤ w) ∧
      scanNumber width cs = if ds.isEmpty then
        .error (if cs.isEmpty then .tooShort else .invalid)
        else .ok (digitsValue ds, cs.drop ds.length) := by
    have hall : cs.takeWhile Char.isDigit <+: cs := List.takeWhile_prefix _
    cases width with
    | none => exact ⟨_, hall, fun _ => List.mem_takeWhile_imp, nofun, rfl⟩
    | some w =>
      refine ⟨_, (List.take_prefix w _).trans hall,
        fun c hc => List.mem_takeWhile_imp (List.mem_of_mem_take hc), ?_, rfl⟩
      rintro w' ⟨⟩
      exact List.length_take_le w _
  rw [hscan] at h
  obtain ⟨rest', rfl⟩ := hprefix
  split at h
  · cases h
  · next hempty =>
    rw [List.drop_left] at h
    cases h
    exact ⟨ds, rfl, by simpa using hempty, hdigits, hwidth, rfl⟩

theorem scanDash_eq_ok_iff : scanDash cs = .ok rest ↔ cs = '-' :: rest := by
  constructor
  · intro h
    cases cs with
    | nil => cases h
    | cons c cs =>
      rw [scanDash] at h
      split at h
      · next hc =>
        cases h
        rw [hc]
      · cases h
  · rintro rfl
    rfl

theorem ofParts_eq_ok_iff {year : Int} {month day : Nat} {d : Date} :
    ofParts year month day = .ok d ↔ year = d.year ∧ month = d.month ∧ day = d.day := by
  constructor
  · intro h
    rw [ofParts] at h
    split at h
    · cases h
      exact ⟨rfl, rfl, rfl⟩
    · cases h
  · rintro ⟨rfl, rfl, rfl⟩
    exact ofParts_self d

/-! ### The parts of a date -/

theorem scannedYear_eq_ok {n year : Int} {rest' : List Char}
    (h : scannedYear n rest = .ok (year, rest')) : n = year ∧ rest = rest' := by
  rw [scannedYear] at h
  split at h
  · cases h
    exact ⟨rfl, rfl⟩
  · cases h

/-- A year that is read is written at the head, perhaps after white space. -/
theorem exists_of_scanYear {year : Int} (h : scanYear cs = .ok (year, rest)) :
    ∃ before part, cs = before ++ (part ++ rest) ∧ (∀ c ∈ before, isBlank c = true) ∧
      IsYear part year := by
  obtain ⟨before, hcs, hbefore⟩ := exists_blanks cs
  refine ⟨before, ?_⟩
  -- a sign is part of the year, and lifts the bound on its digits
  rw [scanYear] at h
  split at h
  · next rest' heq =>
    obtain ⟨⟨n, rest''⟩, hscan, h⟩ := bind_eq_ok.mp h
    obtain ⟨rfl, rfl⟩ := scannedYear_eq_ok h
    obtain ⟨ds, rfl, hne, hdigits, -, rfl⟩ := exists_of_scanNumber hscan
    exact ⟨'-' :: ds, hcs.trans (congrArg (before ++ ·) heq), hbefore, .minus hne hdigits⟩
  · next rest' heq =>
    obtain ⟨⟨n, rest''⟩, hscan, h⟩ := bind_eq_ok.mp h
    obtain ⟨rfl, rfl⟩ := scannedYear_eq_ok h
    obtain ⟨ds, rfl, hne, hdigits, -, rfl⟩ := exists_of_scanNumber hscan
    exact ⟨'+' :: ds, hcs.trans (congrArg (before ++ ·) heq), hbefore, .plus hne hdigits⟩
  · obtain ⟨⟨n, rest''⟩, hscan, h⟩ := bind_eq_ok.mp h
    obtain ⟨rfl, rfl⟩ := scannedYear_eq_ok h
    obtain ⟨ds, heq, hne, hdigits, hwidth, rfl⟩ := exists_of_scanNumber hscan
    exact ⟨ds, hcs.trans (congrArg (before ++ ·) heq), hbefore,
      .plain hne hdigits (hwidth 4 rfl)⟩

/-- A year of the calendar is read, whatever white space is before it. -/
theorem scanYear_append {before part : List Char} {d : Date}
    (hbefore : ∀ c ∈ before, isBlank c = true) (h : IsYear part d.year)
    (hrest : ∀ c ∈ rest.head?, c.isDigit = false) :
    scanYear (before ++ (part ++ rest)) = .ok (d.year, rest) := by
  have hyear := scannedYear_of_isDate d.isDate rest
  have hskip : scanYear (before ++ (part ++ rest)) = scanYear (part ++ rest) := by
    unfold scanYear
    rw [skipBlanks_append hbefore]
  rw [hskip]
  generalize d.year = year at h hyear
  cases h with
  | plain hne hds hlength =>
    have hwidth : ∀ w ∈ some 4, part.length ≤ w := by
      rintro w ⟨⟩
      exact hlength
    have hscan := scanNumber_append hds hne hwidth hrest
    obtain ⟨c, ds', rfl⟩ := List.exists_cons_of_ne_nil hne
    rw [List.cons_append] at hscan ⊢
    rw [scanYear_of_digit (hds c List.mem_cons_self), hscan, Except.bind]
    exact hyear
  | @plus ds hne hds =>
    have hscan := @scanNumber_append none ds rest hds hne nofun hrest
    rw [List.cons_append, scanYear, skipBlanks_cons rfl]
    simp only [hscan, bind, Except.bind]
    exact hyear
  | @minus ds hne hds =>
    have hscan := @scanNumber_append none ds rest hds hne nofun hrest
    rw [List.cons_append, scanYear, skipBlanks_cons rfl]
    simp only [hscan, bind, Except.bind]
    exact hyear

/-- A month or a day that is read is written at the head, perhaps after white space. -/
theorem exists_of_scanPart {last n : Nat} (h : scanPart last cs = .ok (n, rest)) :
    ∃ before part, cs = before ++ (part ++ rest) ∧ (∀ c ∈ before, isBlank c = true) ∧
      IsPart part n := by
  obtain ⟨before, hcs, hbefore⟩ := exists_blanks cs
  obtain ⟨⟨n', rest'⟩, hscan, h⟩ := bind_eq_ok.mp h
  simp only at h
  split at h
  · cases h
    obtain ⟨ds, heq, hne, hdigits, hwidth, rfl⟩ := exists_of_scanNumber hscan
    exact ⟨before, ds, hcs.trans (congrArg (before ++ ·) heq), hbefore,
      .digits hne hdigits (hwidth 2 rfl)⟩
  · cases h

theorem scanPart_append {before part : List Char} {last n : Nat}
    (hbefore : ∀ c ∈ before, isBlank c = true) (h : IsPart part n) (hn : 1 ≤ n ∧ n ≤ last)
    (hrest : ∀ c ∈ rest.head?, c.isDigit = false) :
    scanPart last (before ++ (part ++ rest)) = .ok (n, rest) := by
  obtain ⟨hne, hds, hlength⟩ := h
  have hwidth : ∀ w ∈ some 2, part.length ≤ w := by
    rintro w ⟨⟩
    exact hlength
  have hscan := scanNumber_append hds hne hwidth hrest
  obtain ⟨c, ds', rfl⟩ := List.exists_cons_of_ne_nil hne
  have hc := isBlank_eq_false_of_isDigit (hds c List.mem_cons_self)
  rw [List.cons_append] at hscan ⊢
  rw [scanPart, skipBlanks_append hbefore, skipBlanks_cons hc, hscan]
  exact if_pos hn

/-! ### Whole dates -/

/-- What is read denotes the date that it is read as. -/
theorem denotes_of_scan {d : Date} (h : scan skipBlanks cs = .ok d) : Denotes cs d := by
  obtain ⟨⟨year, afterYear⟩, hyear, h⟩ := bind_eq_ok.mp h
  obtain ⟨fromMonth, hdash, h⟩ := bind_eq_ok.mp h
  obtain ⟨⟨month, afterMonth⟩, hmonth, h⟩ := bind_eq_ok.mp h
  obtain ⟨fromDay, hdash', h⟩ := bind_eq_ok.mp h
  obtain ⟨⟨day, afterDay⟩, hday, h⟩ := bind_eq_ok.mp h
  simp only at hdash hmonth hdash' hday h
  split at h
  · next hend =>
    obtain ⟨rfl, rfl, rfl⟩ := ofParts_eq_ok_iff.mp h
    obtain ⟨beforeYear, yearPart, rfl, hbeforeYear, hyear⟩ := exists_of_scanYear hyear
    obtain ⟨beforeMonth, monthPart, rfl, hbeforeMonth, hmonth⟩ := exists_of_scanPart hmonth
    obtain ⟨beforeDay, dayPart, rfl, hbeforeDay, hday⟩ := exists_of_scanPart hday
    -- what is skipped in front of a dash belongs to the part before it
    obtain ⟨gapYear, hgapYear, hblankYear⟩ := exists_blanks afterYear
    obtain ⟨gapMonth, hgapMonth, hblankMonth⟩ := exists_blanks afterMonth
    obtain ⟨gapDay, hgapDay, hblankDay⟩ := exists_blanks afterDay
    rw [scanDash_eq_ok_iff.mp hdash] at hgapYear
    rw [scanDash_eq_ok_iff.mp hdash'] at hgapMonth
    rw [List.isEmpty_iff.mp hend, List.append_nil] at hgapDay
    refine ⟨beforeYear ++ (yearPart ++ gapYear), beforeMonth ++ (monthPart ++ gapMonth),
      beforeDay ++ (dayPart ++ gapDay), yearPart, monthPart, dayPart, ?_,
      ⟨beforeYear, gapYear, rfl, hbeforeYear, hblankYear⟩, hyear,
      ⟨beforeMonth, gapMonth, rfl, hbeforeMonth, hblankMonth⟩, hmonth,
      ⟨beforeDay, gapDay, rfl, hbeforeDay, hblankDay⟩, hday⟩
    rw [hgapYear, hgapMonth, hgapDay]
    simp only [List.append_assoc]
  · cases h

/-- What denotes a date is read as that date. -/
theorem scan_of_denotes {d : Date} (h : Denotes cs d) : scan skipBlanks cs = .ok d := by
  obtain ⟨y, m, n, yearPart, monthPart, dayPart, rfl,
    ⟨beforeYear, gapYear, rfl, hbeforeYear, hgapYear⟩, hyear,
    ⟨beforeMonth, gapMonth, rfl, hbeforeMonth, hgapMonth⟩, hmonth,
    ⟨beforeDay, gapDay, rfl, hbeforeDay, hgapDay⟩, hday⟩ := h
  obtain ⟨-, -, hmonth₁, hmonth₂, hday₁, hday₂⟩ := d.isDate
  have hlast : d.day ≤ 31 := Nat.le_trans hday₂ (daysIn_le d.year d.month)
  have hend : ∀ c ∈ gapDay.head?, c.isDigit = false := by
    rw [← List.append_nil gapDay]
    exact head_blanks hgapDay nofun
  -- each part ends where it is followed by white space or a dash, so that no digit is left over
  have hday := scanPart_append hbeforeDay hday ⟨hday₁, hlast⟩ hend
  have hmonth (cs : List Char) := scanPart_append hbeforeMonth hmonth ⟨hmonth₁, hmonth₂⟩
    (head_blanks hgapMonth (head_dash cs))
  have hyear (cs : List Char) :=
    scanYear_append hbeforeYear hyear (head_blanks hgapYear (head_dash cs))
  have hnil : skipBlanks gapDay = [] := by
    rw [← List.append_nil gapDay, skipBlanks_append hgapDay]
    rfl
  simp only [scan, List.append_assoc, bind, Except.bind, hyear, skipBlanks_dash hgapYear,
    scanDash, if_true, hmonth, skipBlanks_dash hgapMonth, hday, hnil, List.isEmpty_nil]
  exact d.ofParts_self

/-- **A text is read as a date exactly if it denotes that date.** -/
theorem parse_eq_ok_iff {s : String} {d : Date} : parse s = .ok d ↔ Denotes s.toList d :=
  ⟨denotes_of_scan, scan_of_denotes⟩

end Date

end AccountRegistry
