/-
The grammar of JSON text, and the values that are passed over.

* **`Json.IsNumeral`** — a number in its written form;
* **`Json.Derives`** — a value, or what is left of a list or an object, up to where it ends;
* **`Json.skipValue_of_derives`** — every value is passed over, whatever it holds.

Design notes: a derivation says what is left behind the value, since the reader has no other
way of telling where a value ends.  Numbers alone have no end of their own: a numeral goes on as
long as it can.
-/
import AccountRegistry.Proofs.Json.Strings

namespace AccountRegistry.Json

/-! ### Numerals -/

/-- One digit or more. -/
def IsDigits (ds : List Char) : Prop :=
  ds ≠ [] ∧ ∀ c ∈ ds, c.isDigit = true

/-- An integer part: a zero, or digits that begin with another one. -/
def IsWhole (ds : List Char) : Prop :=
  ds = ['0'] ∨ ds.head? ≠ some '0' ∧ IsDigits ds

/-- A point and places, or nothing. -/
def IsFraction (cs : List Char) : Prop :=
  cs = [] ∨ ∃ ds, cs = '.' :: ds ∧ IsDigits ds

/-- An exponent with or without a sign, or nothing. -/
def IsExponent (cs : List Char) : Prop :=
  cs = [] ∨ ∃ e sign ds, cs = e :: (sign ++ ds) ∧ e ∈ ['e', 'E'] ∧ sign ∈ [[], ['+'], ['-']] ∧
    IsDigits ds

/-- The written form of a number. -/
def IsNumeral (cs : List Char) : Prop :=
  ∃ sign whole fraction exponent, cs = sign ++ (whole ++ (fraction ++ exponent)) ∧
    sign ∈ [[], ['-']] ∧ IsWhole whole ∧ IsFraction fraction ∧ IsExponent exponent

/-- Whether a numeral cannot go on with what is left. -/
def EndsNumeral (rest : List Char) : Prop :=
  ∀ c ∈ rest.head?, c.isDigit = false ∧ c ≠ '.' ∧ c ≠ 'e' ∧ c ≠ 'E'

variable {cs rest : List Char}

theorem skipDigits_append {ds : List Char} (hds : ∀ c ∈ ds, c.isDigit = true)
    (hrest : ∀ c ∈ rest.head?, c.isDigit = false) : skipDigits (ds ++ rest) = rest := by
  rw [skipDigits, List.dropWhile_append_of_pos hds]
  cases rest with
  | nil => rfl
  | cons c rest =>
    rw [List.dropWhile_cons_of_neg]
    rw [hrest c rfl]
    exact Bool.false_ne_true

theorem atDigit_append {ds : List Char} (hds : IsDigits ds) (rest : List Char) :
    atDigit (ds ++ rest) = true := by
  obtain ⟨hne, hds⟩ := hds
  obtain ⟨c, ds, rfl⟩ := List.exists_cons_of_ne_nil hne
  exact hds c List.mem_cons_self

theorem skipExponentDigits_append {ds : List Char} (hds : IsDigits ds)
    (hrest : ∀ c ∈ rest.head?, c.isDigit = false) :
    skipExponentDigits (ds ++ rest) = .ok rest := by
  rw [skipExponentDigits, if_pos (atDigit_append hds rest), skipDigits_append hds.2 hrest]

theorem skipExponent_append {sign ds : List Char} (hsign : sign ∈ [[], ['+'], ['-']])
    (hds : IsDigits ds) (hrest : ∀ c ∈ rest.head?, c.isDigit = false) :
    skipExponent (sign ++ (ds ++ rest)) = .ok rest := by
  have hdigits := skipExponentDigits_append hds hrest
  simp only [List.mem_cons, List.not_mem_nil, or_false] at hsign
  obtain rfl | rfl | rfl := hsign
  · -- without a sign a digit stands at the head
    obtain ⟨c, ds, rfl⟩ := List.exists_cons_of_ne_nil hds.1
    have hc := hds.2 c List.mem_cons_self
    show skipExponent (c :: (ds ++ rest)) = _
    unfold skipExponent
    split
    · next heq => cases heq; cases hc
    · next heq => cases heq; cases hc
    · exact hdigits
  · exact hdigits
  · exact hdigits

theorem skipScale_append {exponent : List Char} (h : IsExponent exponent)
    (hrest : EndsNumeral rest) : skipScale (exponent ++ rest) = .ok rest := by
  obtain rfl | ⟨e, sign, ds, rfl, he, hsign, hds⟩ := h
  · rw [List.nil_append]
    unfold skipScale
    split
    · exact absurd rfl (hrest 'e' rfl).2.2.1
    · exact absurd rfl (hrest 'E' rfl).2.2.2
    · rfl
  · have hdigits := skipExponent_append hsign hds fun c hc => (hrest c hc).1
    simp only [List.mem_cons, List.not_mem_nil, or_false] at he
    rw [List.cons_append, List.append_assoc]
    obtain rfl | rfl := he
    · exact hdigits
    · exact hdigits

/-- Neither a digit nor a point stands behind the places. -/
theorem head_exponent {exponent : List Char} (h : IsExponent exponent) (hrest : EndsNumeral rest) :
    ∀ c ∈ (exponent ++ rest).head?, c.isDigit = false ∧ c ≠ '.' := by
  obtain rfl | ⟨e, sign, ds, rfl, he, -, -⟩ := h
  · exact fun c hc => ⟨(hrest c hc).1, (hrest c hc).2.1⟩
  · rintro c ⟨⟩
    simp only [List.mem_cons, List.not_mem_nil, or_false] at he
    obtain rfl | rfl := he <;> decide

theorem skipFraction_append {fraction exponent : List Char} (hf : IsFraction fraction)
    (he : IsExponent exponent) (hrest : EndsNumeral rest) :
    skipFraction (fraction ++ (exponent ++ rest)) = .ok rest := by
  have hscale := skipScale_append he hrest
  have hhead := head_exponent he hrest
  obtain rfl | ⟨ds, rfl, hds⟩ := hf
  · rw [List.nil_append]
    unfold skipFraction
    split
    · next heq =>
      rw [heq] at hhead
      exact absurd rfl (hhead '.' rfl).2
    · exact hscale
  · show (if atDigit (ds ++ (exponent ++ rest)) = true then
      skipScale (skipDigits (ds ++ (exponent ++ rest))) else _) = _
    rw [if_pos (atDigit_append hds _), skipDigits_append hds.2 fun c hc => (hhead c hc).1, hscale]

/-- No digit stands behind the integer part. -/
theorem head_fraction {fraction exponent : List Char} (hf : IsFraction fraction)
    (he : IsExponent exponent) (hrest : EndsNumeral rest) :
    ∀ c ∈ (fraction ++ (exponent ++ rest)).head?, c.isDigit = false := by
  obtain rfl | ⟨ds, rfl, -⟩ := hf
  · exact fun c hc => (head_exponent he hrest c hc).1
  · rintro c ⟨⟩
    rfl

/-- **A number that nobody reads is passed over** behind its sign. -/
theorem skipNumber_append {whole fraction exponent : List Char} (hw : IsWhole whole)
    (hf : IsFraction fraction) (he : IsExponent exponent) (hrest : EndsNumeral rest) :
    skipNumber (whole ++ (fraction ++ (exponent ++ rest))) = .ok rest := by
  have hfraction := skipFraction_append hf he hrest
  have hhead := head_fraction hf he hrest
  generalize fraction ++ (exponent ++ rest) = cs at hfraction hhead
  obtain rfl | ⟨hzero, hne, hds⟩ := hw
  · have hdigit : atDigit cs = false := by
      cases cs with
      | nil => rfl
      | cons c cs => exact hhead c rfl
    show skipNumber ('0' :: cs) = _
    rw [skipNumber, if_pos rfl, hdigit]
    exact hfraction
  · obtain ⟨c, ds, rfl⟩ := List.exists_cons_of_ne_nil hne
    have hc : c ≠ '0' := fun h => hzero (congrArg some h)
    have hrest := skipDigits_append (fun d hd => hds d (List.mem_cons_of_mem c hd)) hhead
    rw [List.cons_append, skipNumber, if_neg hc, if_pos (hds c List.mem_cons_self), hrest,
      hfraction]

/-! ### Values -/

/-- What a derivation is about. What is left of a list or an object begins with its `first`
element or behind another one. -/
inductive Part where
  | value
  | items (first : Bool)
  | members (first : Bool)

/-- What stands before an element: nothing before the `first` one, and a comma before others. -/
inductive Starts : Bool → List Char → List Char → Prop
  | first (cs : List Char) : Starts true cs cs
  | comma {cs rest : List Char} (h : skipSpace cs = ',' :: rest) : Starts false cs rest

/-- A part of a JSON text at the head of some characters, and what is left behind it. -/
inductive Derives : Part → List Char → List Char → Prop
  | null {cs rest : List Char} (h : skipSpace cs = 'n' :: 'u' :: 'l' :: 'l' :: rest) :
      Derives .value cs rest
  | true {cs rest : List Char} (h : skipSpace cs = 't' :: 'r' :: 'u' :: 'e' :: rest) :
      Derives .value cs rest
  | false {cs rest : List Char} (h : skipSpace cs = 'f' :: 'a' :: 'l' :: 's' :: 'e' :: rest) :
      Derives .value cs rest
  | number {cs n rest : List Char} (hn : IsNumeral n) (h : skipSpace cs = n ++ rest)
      (hrest : EndsNumeral rest) : Derives .value cs rest
  | text {cs body rest : List Char} (h : skipSpace cs = '"' :: body) (hbody : Closes body rest) :
      Derives .value cs rest
  | list {cs cs₁ rest : List Char} (h : skipSpace cs = '[' :: cs₁)
      (hitems : Derives (.items Bool.true) cs₁ rest) : Derives .value cs rest
  | object {cs cs₁ rest : List Char} (h : skipSpace cs = '{' :: cs₁)
      (hmembers : Derives (.members Bool.true) cs₁ rest) : Derives .value cs rest
  | noItem {first : Bool} {cs rest : List Char} (h : skipSpace cs = ']' :: rest) :
      Derives (.items first) cs rest
  | item {first : Bool} {cs cs₁ cs₂ rest : List Char} (h : Starts first cs cs₁)
      (hvalue : Derives .value cs₁ cs₂) (hitems : Derives (.items Bool.false) cs₂ rest) :
      Derives (.items first) cs rest
  | noMember {first : Bool} {cs rest : List Char} (h : skipSpace cs = '}' :: rest) :
      Derives (.members first) cs rest
  | member {first : Bool} {cs cs₁ name cs₂ cs₃ cs₄ rest : List Char} (h : Starts first cs cs₁)
      (hname : skipSpace cs₁ = '"' :: name) (hclose : Closes name cs₂)
      (hcolon : skipSpace cs₂ = ':' :: cs₃) (hvalue : Derives .value cs₃ cs₄)
      (hmembers : Derives (.members Bool.false) cs₄ rest) : Derives (.members first) cs rest

/-! ### Spaces -/

theorem isSpace_of_skipSpace {c : Char} (h : skipSpace cs = c :: rest) : isSpace c = false := by
  have hhead := List.head?_dropWhile_not isSpace cs
  rw [← skipSpace, h] at hhead
  exact hhead

theorem skipSpace_skipSpace (cs : List Char) : skipSpace (skipSpace cs) = skipSpace cs := by
  cases h : skipSpace cs with
  | nil => rfl
  | cons c rest => exact skipSpace_cons (isSpace_of_skipSpace h) rest

theorem length_skipSpace_le (cs : List Char) : (skipSpace cs).length ≤ cs.length :=
  (List.dropWhile_suffix isSpace).length_le

/-- Spaces in front of a value do not count. -/
theorem skipValue_skipSpace (n : Nat) (cs : List Char) :
    skipValue n (skipSpace cs) = skipValue n cs := by
  cases n with
  | zero => rw [skipValue, skipValue]
  | succ n => rw [skipValue, skipValue, skipSpace_skipSpace]

/-! ### Lengths -/

theorem length_lt_of_skipSpace {c : Char} (h : skipSpace cs = c :: rest) :
    rest.length < cs.length := by
  have hle := length_skipSpace_le cs
  rw [h, List.length_cons] at hle
  omega

theorem Starts.length_le {first : Bool} (h : Starts first cs rest) :
    rest.length ≤ cs.length := by
  cases h with
  | first => exact Nat.le_refl _
  | comma h => exact Nat.le_of_lt (length_lt_of_skipSpace h)

theorem IsNumeral.ne_nil {n : List Char} (h : IsNumeral n) : n ≠ [] := by
  obtain ⟨sign, whole, fraction, exponent, rfl, -, hw, -, -⟩ := h
  intro hnil
  obtain ⟨-, hnil⟩ := List.append_eq_nil_iff.mp hnil
  obtain ⟨rfl, -⟩ := List.append_eq_nil_iff.mp hnil
  obtain hzero | ⟨-, hne, -⟩ := hw
  · cases hzero
  · exact hne rfl

/-- A derivation takes at least one character. -/
theorem Derives.length_lt {part : Part} (h : Derives part cs rest) : rest.length < cs.length := by
  induction h with
  | null h | true h | false h =>
    have hlt := length_lt_of_skipSpace h
    simp only [List.length_cons] at hlt
    omega
  | @number cs n rest hn h _ =>
    have hle := length_skipSpace_le cs
    have hpos := List.length_pos_iff.mpr hn.ne_nil
    rw [h, List.length_append] at hle
    omega
  | text h hbody => exact Nat.lt_trans hbody.length_lt (length_lt_of_skipSpace h)
  | list h _ ih | object h _ ih => exact Nat.lt_trans ih (length_lt_of_skipSpace h)
  | noItem h | noMember h => exact length_lt_of_skipSpace h
  | item h _ _ ihv ihi => exact Nat.lt_of_lt_of_le (Nat.lt_trans ihi ihv) h.length_le
  | member h hname hclose hcolon _ _ ihv ihm =>
    have := h.length_le
    have := length_lt_of_skipSpace hname
    have := hclose.length_lt
    have := length_lt_of_skipSpace hcolon
    omega

/-! ### Values that are passed over -/

theorem skipValue_digit {c : Char} (h : skipSpace cs = c :: rest) (hc : c.isDigit = true)
    (n : Nat) :
    skipValue (n + 1) cs = skipNumber (c :: rest) := by
  rw [skipValue, h]
  split
  · next heq => cases heq
  · next heq => cases heq; cases hc
  · next heq => cases heq; cases hc
  · next heq => cases heq; cases hc
  · next heq => cases heq; cases hc
  · next heq => cases heq; cases hc
  · next heq => cases heq; cases hc
  · next heq => cases heq; cases hc
  · next heq =>
    cases heq
    rw [if_pos hc]

/-- An integer part begins with a digit. -/
theorem IsWhole.exists_cons {whole : List Char} (h : IsWhole whole) :
    ∃ c ds, whole = c :: ds ∧ c.isDigit = true := by
  obtain rfl | ⟨-, hne, hds⟩ := h
  · exact ⟨'0', [], rfl, rfl⟩
  · obtain ⟨c, ds, rfl⟩ := List.exists_cons_of_ne_nil hne
    exact ⟨c, ds, rfl, hds c List.mem_cons_self⟩

theorem skipValue_numeral {n : List Char} (hn : IsNumeral n) (h : skipSpace cs = n ++ rest)
    (hrest : EndsNumeral rest) (k : Nat) : skipValue (k + 1) cs = .ok rest := by
  obtain ⟨sign, whole, fraction, exponent, rfl, hsign, hw, hf, he⟩ := hn
  have hnumber := skipNumber_append hw hf he hrest
  simp only [List.append_assoc] at h
  simp only [List.mem_cons, List.not_mem_nil, or_false] at hsign
  obtain rfl | rfl := hsign
  · obtain ⟨c, ds, rfl, hc⟩ := hw.exists_cons
    rw [skipValue_digit h hc k]
    exact hnumber
  · rw [skipValue, h]
    exact hnumber

/-- No value begins with the bracket that ends a list. -/
theorem Derives.value_head {part : Part} (h : Derives part cs rest) (hpart : part = .value) :
    ∃ c cs', skipSpace cs = c :: cs' ∧ c ≠ ']' := by
  cases h with
  | null h | true h | false h | text h _ | list h _ | object h _ => exact ⟨_, _, h, by decide⟩
  | noItem | item | noMember | member => cases hpart
  | number hn h hrest =>
    obtain ⟨sign, whole, fraction, exponent, rfl, hsign, hw, -, -⟩ := hn
    simp only [List.mem_cons, List.not_mem_nil, or_false] at hsign
    obtain rfl | rfl := hsign
    · obtain ⟨c, ds, rfl, hc⟩ := hw.exists_cons
      refine ⟨c, _, h, ?_⟩
      rintro rfl
      cases hc
    · exact ⟨'-', _, h, by decide⟩

theorem skipToItem_of_starts {first : Bool} {cs₁ : List Char} (h : Starts first cs cs₁)
    (hvalue : Derives .value cs₁ rest) :
    ∃ cs', skipToItem first cs = .ok (true, cs') ∧ skipSpace cs' = skipSpace cs₁ := by
  cases h with
  | first =>
    obtain ⟨c, cs', hcs, hc⟩ := hvalue.value_head rfl
    refine ⟨c :: cs', ?_, ?_⟩
    · unfold skipToItem
      rw [hcs]
      split
      · next heq => cases heq
      · next heq => cases heq; exact absurd rfl hc
      · next heq => cases heq; rfl
    · rw [hcs, skipSpace_cons (isSpace_of_skipSpace hcs)]
  | comma h =>
    refine ⟨cs₁, ?_, rfl⟩
    rw [skipToItem, h]
    rfl

theorem skipToMember_of_starts {first : Bool} {cs₁ name : List Char} (h : Starts first cs cs₁)
    (hname : skipSpace cs₁ = '"' :: name) : skipToMember first cs = .ok (true, name) := by
  cases h with
  | first =>
    rw [skipToMember, hname]
    rfl
  | comma h =>
    rw [skipToMember, h]
    show openName (skipSpace cs₁) = _
    rw [hname]
    rfl

/-- Passes over a part of a text. -/
def Part.skip : Part → Nat → List Char → Except Fault (List Char)
  | value => skipValue
  | items first => fun n => skipItems n first
  | members first => fun n => skipMembers n first

/-- Whether a number of steps suffices for a part of a text. -/
def Part.Suffices (part : Part) (n : Nat) (cs rest : List Char) : Prop :=
  match part with
  | value => 2 * cs.length ≤ n + 1 + 2 * rest.length
  | _ => 2 * cs.length ≤ n + 2 * rest.length

theorem Derives.exists_succ {part : Part} {n : Nat} (h : Derives part cs rest)
    (hn : part.Suffices n cs rest) : ∃ k, n = k + 1 := by
  have hlt := h.length_lt
  refine Nat.exists_eq_add_one_of_ne_zero ?_
  rintro rfl
  cases part <;> simp only [Part.Suffices] at hn <;> omega

/-- **Every part of a text is passed over**, whatever it holds. -/
theorem skip_of_derives {part : Part} (h : Derives part cs rest) :
    ∀ n, part.Suffices n cs rest → part.skip n cs = .ok rest := by
  induction h with
  | null h =>
    intro n hn
    obtain ⟨k, rfl⟩ := (Derives.null h).exists_succ hn
    rw [Part.skip, skipValue, h]
    rfl
  | true h =>
    intro n hn
    obtain ⟨k, rfl⟩ := (Derives.true h).exists_succ hn
    rw [Part.skip, skipValue, h]
    rfl
  | false h =>
    intro n hn
    obtain ⟨k, rfl⟩ := (Derives.false h).exists_succ hn
    rw [Part.skip, skipValue, h]
    rfl
  | number hnumeral h hrest =>
    intro n hn
    obtain ⟨k, rfl⟩ := (Derives.number hnumeral h hrest).exists_succ hn
    exact skipValue_numeral hnumeral h hrest k
  | text h hbody =>
    intro n hn
    obtain ⟨k, rfl⟩ := (Derives.text h hbody).exists_succ hn
    rw [Part.skip, skipValue, h]
    exact skipText_of_closes hbody
  | list h hitems ih =>
    intro n hn
    obtain ⟨k, rfl⟩ := (Derives.list h hitems).exists_succ hn
    rw [Part.skip, skipValue, h]
    have hlt := length_lt_of_skipSpace h
    refine ih k ?_
    simp only [Part.Suffices] at hn ⊢
    omega
  | object h hmembers ih =>
    intro n hn
    obtain ⟨k, rfl⟩ := (Derives.object h hmembers).exists_succ hn
    rw [Part.skip, skipValue, h]
    have hlt := length_lt_of_skipSpace h
    refine ih k ?_
    simp only [Part.Suffices] at hn ⊢
    omega
  | noItem h =>
    intro n hn
    obtain ⟨k, rfl⟩ := (Derives.noItem h).exists_succ hn
    show skipItems (k + 1) _ _ = _
    rw [skipItems, skipToItem, h]
    rfl
  | @item first cs cs₁ cs₂ rest h hvalue hitems ihv ihi =>
    intro n hn
    obtain ⟨k, rfl⟩ := (Derives.item h hvalue hitems).exists_succ hn
    have := h.length_le
    have := hvalue.length_lt
    have := hitems.length_lt
    simp only [Part.Suffices] at hn ihv ihi
    have hv : skipValue k cs₁ = .ok cs₂ := ihv k (by omega)
    have hi : skipItems k Bool.false cs₂ = .ok rest := ihi k (by omega)
    obtain ⟨cs', hskip, hspace⟩ := skipToItem_of_starts h hvalue
    rw [← skipValue_skipSpace, ← hspace, skipValue_skipSpace] at hv
    show skipItems (k + 1) first cs = _
    rw [skipItems, hskip]
    simp only [bind, Except.bind, if_true, hv, hi]
  | noMember h =>
    intro n hn
    obtain ⟨k, rfl⟩ := (Derives.noMember h).exists_succ hn
    show skipMembers (k + 1) _ _ = _
    rw [skipMembers, skipToMember, h]
    rfl
  | @member first cs cs₁ name cs₂ cs₃ cs₄ rest h hname hclose hcolon hvalue hmembers ihv ihm =>
    intro n hn
    obtain ⟨k, rfl⟩ := (Derives.member h hname hclose hcolon hvalue hmembers).exists_succ hn
    have := h.length_le
    have := length_lt_of_skipSpace hname
    have := hclose.length_lt
    have := length_lt_of_skipSpace hcolon
    have := hvalue.length_lt
    have := hmembers.length_lt
    simp only [Part.Suffices] at hn ihv ihm
    have hv : skipValue k cs₃ = .ok cs₄ := ihv k (by omega)
    have hm : skipMembers k Bool.false cs₄ = .ok rest := ihm k (by omega)
    show skipMembers (k + 1) first cs = _
    rw [skipMembers, skipToMember_of_starts h hname]
    simp only [bind, Except.bind, if_true, skipText_of_closes hclose, readColon, hcolon, hv, hm]

/-- **A value that nobody reads is passed over**, whatever it holds. -/
theorem skipValue_of_derives (h : Derives .value cs rest) {n : Nat}
    (hn : 2 * cs.length ≤ n + 1 + 2 * rest.length) : skipValue n cs = .ok rest :=
  skip_of_derives h n hn

end AccountRegistry.Json
