/-
Integers in TOML.

* **`Toml.IntegerWord`** — a word denotes an integer: a sign and digits in base ten, or digits in
  base 16, 8 or 2, with single underscores between the digits;
* **`Toml.wordValue_of_integerWord`** — a word is taken for the integer that it denotes.
-/
import AccountRegistry.Toml.Reader
import Mathlib.Data.List.TakeWhile

namespace AccountRegistry

namespace Toml

/-! ### Integers as words -/

/-- `c` is the digit `d` in a base; letters may be capital. -/
def IsDigit (base : Nat) (c : Char) (d : Nat) : Prop :=
  d < base ∧ (c = Nat.digitChar d ∨ c = (Nat.digitChar d).toUpper)

/-- Digits with single underscores between them, read after digits of the value `n`, come up to
the value `m`. -/
inductive Digits (base : Nat) : Nat → List Char → Nat → Prop
  | last {n d : Nat} {c : Char} (hc : IsDigit base c d) : Digits base n [c] (n * base + d)
  | next {n m d : Nat} {c : Char} {cs : List Char} (hc : IsDigit base c d)
      (hcs : Digits base (n * base + d) cs m) : Digits base n (c :: cs) m
  | underscore {n m d : Nat} {c : Char} {cs : List Char} (hc : IsDigit base c d)
      (hcs : Digits base (n * base + d) cs m) : Digits base n (c :: '_' :: cs) m

/-- A word denotes an integer.  A sign stands in base ten only, where no zero leads. -/
inductive IntegerWord : List Char → Int → Prop
  | plain {cs : List Char} {n : Nat} (h : Digits 10 0 cs n)
      (hzero : cs.head? = some '0' → cs = ['0']) : IntegerWord cs n
  | plus {cs : List Char} {n : Nat} (h : Digits 10 0 cs n)
      (hzero : cs.head? = some '0' → cs = ['0']) : IntegerWord ('+' :: cs) n
  | minus {cs : List Char} {n : Nat} (h : Digits 10 0 cs n)
      (hzero : cs.head? = some '0' → cs = ['0']) : IntegerWord ('-' :: cs) (-n)
  | hexadecimal {cs : List Char} {n : Nat} (h : Digits 16 0 cs n) :
      IntegerWord ('0' :: 'x' :: cs) n
  | octal {cs : List Char} {n : Nat} (h : Digits 8 0 cs n) : IntegerWord ('0' :: 'o' :: cs) n
  | binary {cs : List Char} {n : Nat} (h : Digits 2 0 cs n) : IntegerWord ('0' :: 'b' :: cs) n

section Words

variable {base n m d : Nat} {c : Char} {cs : List Char}

theorem IsDigit.mono {base' : Nat} (h : IsDigit base c d) (hbase : base ≤ base') :
    IsDigit base' c d :=
  ⟨Nat.lt_of_lt_of_le h.1 hbase, h.2⟩

/-- What is true of the sixteen digits is true of every digit. -/
theorem IsDigit.of_forall {p : Char → Nat → Prop} (h : IsDigit base c d)
    (hp : ∀ d < base, p (Nat.digitChar d) d ∧ p (Nat.digitChar d).toUpper d) : p c d := by
  obtain ⟨hd, rfl | rfl⟩ := h
  · exact (hp d hd).1
  · exact (hp d hd).2

/-- The value of a digit in the bases up to 16. -/
theorem IsDigit.value (h : IsDigit 16 c d) :
    (if c.isDigit then c.toNat - 48 else c.toLower.toNat - 87) = d :=
  h.of_forall (p := fun c d => (if c.isDigit then c.toNat - 48 else c.toLower.toNat - 87) = d)
    (by decide)

theorem IsDigit.isDigit (h : IsDigit 10 c d) : c.isDigit = true ∧ c.toNat - 48 = d :=
  h.of_forall (p := fun c d => c.isDigit = true ∧ c.toNat - 48 = d) (by decide)

theorem IsDigit.ne_underscore (h : IsDigit 16 c d) : c ≠ '_' :=
  h.of_forall (p := fun c _ => c ≠ '_') (by decide)

/-- Digits begin with a digit. -/
theorem Digits.head (h : Digits base n cs m) : ∃ c rest d, cs = c :: rest ∧ IsDigit base c d := by
  cases h with
  | last hc => exact ⟨_, _, _, rfl, hc⟩
  | next hc _ => exact ⟨_, _, _, rfl, hc⟩
  | underscore hc _ => exact ⟨_, _, _, rfl, hc⟩

/-- What is true of the digits and of the underscore is true of every character. -/
theorem Digits.forall_mem {p : Char → Prop} (h : Digits base n cs m) (hunderscore : p '_')
    (hp : ∀ d < base, p (Nat.digitChar d) ∧ p (Nat.digitChar d).toUpper) : ∀ c ∈ cs, p c := by
  induction h with
  | last hc =>
    rw [List.forall_mem_singleton]
    exact hc.of_forall (p := fun c _ => p c) hp
  | next hc _ ih =>
    rw [List.forall_mem_cons]
    exact ⟨hc.of_forall (p := fun c _ => p c) hp, ih⟩
  | underscore hc _ ih =>
    rw [List.forall_mem_cons, List.forall_mem_cons]
    exact ⟨hc.of_forall (p := fun c _ => p c) hp, hunderscore, ih⟩

theorem plainDigits_cons {p : Char → Bool} {e : Char} (he : e ≠ '_') :
    plainDigits p (c :: e :: cs) =
      if p c then (plainDigits p (e :: cs)).map (c :: ·) else none := by
  rw [plainDigits]
  · exact List.cons_ne_nil e cs
  · rintro _ ⟨⟩
    exact he rfl

/-- **Without the underscores the digits have the same value.** -/
theorem Digits.plainDigits {p : Char → Bool} {value : Char → Nat} (h : Digits base n cs m)
    (hbase : base ≤ 16) (hp : ∀ c d, IsDigit base c d → p c = true ∧ value c = d) :
    ∃ ds, plainDigits p cs = some ds ∧ ds.head? = cs.head? ∧
      ds.foldl (fun n c => n * base + value c) n = m := by
  induction h with
  | last hc =>
    obtain ⟨hdigit, hvalue⟩ := hp _ _ hc
    refine ⟨_, by rw [Toml.plainDigits, if_pos hdigit], rfl, ?_⟩
    rw [List.foldl_cons, List.foldl_nil, hvalue]
  | next hc hcs ih =>
    obtain ⟨hdigit, hvalue⟩ := hp _ _ hc
    obtain ⟨ds, hds, -, hfold⟩ := ih
    obtain ⟨e, rest, _, rfl, he⟩ := hcs.head
    refine ⟨_ :: ds, ?_, rfl, ?_⟩
    · rw [plainDigits_cons (he.mono hbase).ne_underscore, if_pos hdigit, hds, Option.map_some]
    · rw [List.foldl_cons, hvalue, hfold]
  | underscore hc hcs ih =>
    obtain ⟨hdigit, hvalue⟩ := hp _ _ hc
    obtain ⟨ds, hds, -, hfold⟩ := ih
    refine ⟨_ :: ds, ?_, rfl, ?_⟩
    · rw [Toml.plainDigits, if_pos hdigit, hds, Option.map_some]
    · rw [List.foldl_cons, hvalue, hfold]

variable {fit : Int → Option Scalar}

/-- The digits of bases 16, 8 and 2 are read as such, whatever is done with an integer. -/
theorem baseInteger_of_digits (hbase : base = 16 ∨ base = 8 ∨ base = 2)
    (h : Digits base 0 cs n) : baseInteger fit base cs = fit n := by
  have hdigit (c : Char) (d : Nat) (hc : IsDigit base c d) :
      (if base = 16 then c.isDigit || ('a' ≤ c.toLower && c.toLower ≤ 'f')
        else '0' ≤ c && c.toNat < 48 + base) = true := by
    refine hc.of_forall (p := fun c _ =>
      (if base = 16 then c.isDigit || ('a' ≤ c.toLower && c.toLower ≤ 'f')
        else '0' ≤ c && c.toNat < 48 + base) = true) ?_
    rcases hbase with rfl | rfl | rfl <;> decide
  have hlarge : base ≤ 16 := by omega
  obtain ⟨ds, hds, -, hvalue⟩ := h.plainDigits hlarge
    fun c d hc => ⟨hdigit c d hc, (hc.mono hlarge).value⟩
  rw [baseInteger, hds, Option.bind_some, baseValue, hvalue]

/-- A character of an integer in base ten. -/
def isSignedDigit (c : Char) : Bool :=
  c.isDigit || c = '_' || c = '+' || c = '-'

/-- A word of digits, underscores and signs is a number or a date. -/
theorem wordValue_of_all (h : cs.all isSignedDigit = true) :
    wordValue fit cs = (decimal fit cs).or (dateTime cs) := by
  unfold wordValue
  split <;> first | rfl | cases h

/-! ### Base ten -/

theorem readTime_eq_none (h : ∀ c ∈ cs, c ≠ ':') : readTime cs = none := by
  have hhead (low high : Nat) {n : Nat} {rest : List Char}
      (hrest : twoDigits low high cs = some (n, rest)) : rest.head? ≠ some ':' := by
    intro hcolon
    obtain ⟨after, rfl⟩ := List.head?_eq_some_iff.mp hcolon
    rw [twoDigits.eq_def] at hrest
    split at hrest
    · next a b rest' =>
      obtain ⟨-, ⟨-, rfl⟩⟩ := by simpa using hrest
      exact h ':' (by simp) rfl
    · cases hrest
  rw [readTime]
  cases hhour : twoDigits 0 23 cs with
  | none => rfl
  | some found =>
    obtain ⟨n, rest⟩ := found
    have := hhead 0 23 hhour
    simp [this]

theorem readDay_eq_none (h : ∀ c ∈ cs.tail, c ≠ '-') : readDay cs = none := by
  rw [readDay]
  dsimp only
  split
  · split
    · next rest hdrop =>
      have hmem : '-' ∈ cs.drop 4 := by
        rw [hdrop]
        exact List.mem_cons_self
      have htail : cs.drop 4 = cs.tail.drop 3 := by rw [List.drop_tail]
      exact absurd rfl (h '-' (List.mem_of_mem_drop (htail ▸ hmem)))
    · rfl
  · rfl

theorem takeSign_eq (cs : List Char) :
    cs = (takeSign cs).2 ∨ cs = '-' :: (takeSign cs).2 ∨ cs = '+' :: (takeSign cs).2 := by
  rw [takeSign.eq_def]
  split
  · exact .inr (.inl rfl)
  · exact .inr (.inr rfl)
  · exact .inl rfl

/-- A word is no date if there are no colons and no dashes behind its sign. -/
theorem dateTime_eq_none (h : ∀ c ∈ (takeSign cs).2, c ≠ ':' ∧ c ≠ '-') : dateTime cs = none := by
  have hchars : (∀ c ∈ cs, c ≠ ':') ∧ ∀ c ∈ cs.tail, c ≠ '-' := by
    rcases takeSign_eq cs with heq | heq | heq
    · rw [← heq] at h
      exact ⟨fun c hc => (h c hc).1, fun c hc => (h c (List.mem_of_mem_tail hc)).2⟩
    all_goals
      rw [heq]
      exact ⟨List.forall_mem_cons.mpr ⟨by decide, fun c hc => (h c hc).1⟩, fun c hc => (h c hc).2⟩
  rw [dateTime, readDay_eq_none hchars.2, readTime_eq_none hchars.1]

theorem cutAt_of_forall {p : Char → Bool} (h : ∀ c ∈ cs, p c = false) :
    cutAt p cs = (cs, none) := by
  have hdrop : cs.dropWhile (!p ·) = [] := by
    rw [List.dropWhile_eq_nil_iff]
    intro c hc
    rw [h c hc]
    rfl
  rw [cutAt, hdrop]

theorem integerDigits_of_digits (h : Digits 10 0 cs n) (hzero : cs.head? = some '0' → cs = ['0']) :
    ∃ ds, integerDigits cs = some ds ∧ Date.digitsValue ds = n := by
  obtain ⟨ds, hds, hhead, hvalue⟩ := h.plainDigits (by decide) fun c d hc => hc.isDigit
  refine ⟨ds, ?_, hvalue⟩
  rw [integerDigits, hds, Option.bind_some, if_neg]
  rintro ⟨hlength, hlead⟩
  -- a zero that leads is the only digit
  obtain rfl := hzero (hhead ▸ hlead)
  obtain rfl : ['0'] = ds := Option.some.inj hds
  exact absurd hlength (by decide)

theorem takeSign_of_digits (h : Digits 10 n cs m) : takeSign cs = (false, cs) := by
  obtain ⟨c, rest, d, rfl, hc⟩ := h.head
  have hsign : c ≠ '-' ∧ c ≠ '+' :=
    hc.of_forall (p := fun c _ => c ≠ '-' ∧ c ≠ '+') (by decide)
  rw [takeSign.eq_def]
  split
  · next heq => exact absurd (List.cons.inj heq).1 hsign.1
  · next heq => exact absurd (List.cons.inj heq).1 hsign.2
  · rfl

theorem decimal_of_digits {word : List Char} {negative : Bool}
    (hsign : takeSign word = (negative, cs)) (h : Digits 10 0 cs n)
    (hzero : cs.head? = some '0' → cs = ['0']) :
    decimal fit word = fit (if negative then -n else n) := by
  have hexponent : cutAt (fun c => c = 'e' || c = 'E') cs = (cs, none) :=
    cutAt_of_forall (h.forall_mem rfl (by decide))
  have hplaces : cutAt (· = '.') cs = (cs, none) :=
    cutAt_of_forall (h.forall_mem rfl (by decide))
  obtain ⟨ds, hds, hvalue⟩ := integerDigits_of_digits h hzero
  simp only [decimal, hsign, hexponent, hplaces, hds, hvalue]

/-- A word of a sign, if it has one, and digits is taken for the integer that it denotes. -/
theorem wordValue_of_digits {word : List Char} {negative : Bool}
    (hsign : takeSign word = (negative, cs)) (h : Digits 10 0 cs n)
    (hzero : cs.head? = some '0' → cs = ['0']) :
    wordValue fit word = fit (if negative then -n else n) := by
  have hdigits : ∀ c ∈ cs, isSignedDigit c = true := h.forall_mem rfl (by decide)
  have hchars : ∀ c ∈ word, isSignedDigit c = true := by
    rcases takeSign_eq word with heq | heq | heq
    · rw [heq, hsign]
      exact hdigits
    all_goals
      rw [heq, hsign]
      exact List.forall_mem_cons.mpr ⟨rfl, hdigits⟩
  have hdate : dateTime word = none := by
    refine dateTime_eq_none ?_
    rw [hsign]
    exact h.forall_mem (by decide) (by decide)
  rw [wordValue_of_all (List.all_eq_true.mpr hchars), decimal_of_digits hsign h hzero, hdate,
    Option.or_none]

/-- **A word is taken for the integer that it denotes**, whatever is done with an integer. -/
theorem wordValue_of_integerWord {k : Int} (h : IntegerWord cs k) : wordValue fit cs = fit k := by
  cases h with
  | plain h hzero => exact wordValue_of_digits (takeSign_of_digits h) h hzero
  | plus h hzero => exact wordValue_of_digits rfl h hzero
  | minus h hzero => exact wordValue_of_digits rfl h hzero
  | hexadecimal h => exact baseInteger_of_digits (.inl rfl) h
  | octal h => exact baseInteger_of_digits (.inr (.inl rfl)) h
  | binary h => exact baseInteger_of_digits (.inr (.inr rfl)) h

end Words

end Toml

end AccountRegistry
