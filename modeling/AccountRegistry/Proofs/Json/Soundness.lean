/-
What the reader of JSON text has read.

* **`Json.numeral_of_readNumber`** — a number that is read stands there in its written form;
* **`Json.ReadsValue`**, **`Json.readsValue_of_readValue`** — what stands at the head of a text
  from which a value is read;
* **`Json.sound`** — it is a value by the grammar, up to where the reader stops, and the members
  of an object are those that the reader has met, of which it keeps one for each name;
* **`Json.IsObject.unique`** — which members those are is for the text alone to say.

Design notes: a numeral must not go on with what is left behind it.  The reader stops behind a
value before it knows what follows, so that this is known of a value only from what is read next.
-/
import AccountRegistry.Proofs.User.Objects
import Mathlib.Data.List.TakeWhile

namespace AccountRegistry.Json

variable {cs rest : List Char}

/-! ### Numbers -/

theorem exists_skipDigits (cs : List Char) :
    ∃ ds, cs = ds ++ skipDigits cs ∧ (∀ c ∈ ds, c.isDigit = true) ∧
      (atDigit cs = true → ds ≠ []) := by
  refine ⟨cs.takeWhile Char.isDigit, List.takeWhile_append_dropWhile.symm,
    fun c hc => List.mem_takeWhile_imp hc, fun h => ?_⟩
  cases cs with
  | nil => cases h
  | cons c cs =>
    rw [List.takeWhile_cons_of_pos (by exact h)]
    exact List.cons_ne_nil _ _

theorem exists_takeDigits (n : Nat) (cs : List Char) :
    ∃ ds, cs = ds ++ (takeDigits n cs).2.2 ∧ ds.length = (takeDigits n cs).2.1 ∧
      ∀ c ∈ ds, c.isDigit = true := by
  induction cs generalizing n with
  | nil => exact ⟨[], rfl, rfl, List.forall_mem_nil _⟩
  | cons c cs ih =>
    rw [takeDigits]
    split
    · next h =>
      obtain ⟨ds, hcs, hlength, hds⟩ := ih (n * 10 + digitValue c)
      exact ⟨c :: ds, congrArg (c :: ·) hcs, congrArg (· + 1) hlength,
        List.forall_mem_cons.mpr ⟨(Bool.and_eq_true_iff.mp h).1, hds⟩⟩
    · exact ⟨[], rfl, rfl, List.forall_mem_nil _⟩

section Numbers

variable {negative : Bool} {significand : Nat} {exponent : Int} {x : Number}

theorem digits_of_readExponentDigits {down : Bool}
    (h : readExponentDigits negative significand exponent down cs = .ok (x, rest)) :
    ∃ ds, cs = ds ++ rest ∧ IsDigits ds := by
  obtain ⟨ds, hcs, hds, hne⟩ := exists_skipDigits cs
  have hrest : rest = skipDigits cs ∧ atDigit cs = true := by
    unfold readExponentDigits at h
    split at h
    · cases h
    · split at h
      · cases h
      · next c cs hc =>
        refine ⟨?_, by simpa [atDigit] using hc⟩
        simp only at h
        split at h
        · split at h
          · cases h
          · cases h
            rfl
        · obtain ⟨y, -, h⟩ := bind_eq_ok.mp h
          cases h
          rfl
  obtain ⟨rfl, hdigit⟩ := hrest
  exact ⟨ds, hcs, hne hdigit, hds⟩

theorem exponent_of_readExponent {e : Char} (he : e ∈ ['e', 'E'])
    (h : readExponent negative significand exponent cs = .ok (x, rest)) :
    ∃ power, e :: cs = power ++ rest ∧ IsExponent power := by
  unfold readExponent at h
  split at h
  · obtain ⟨ds, rfl, hds⟩ := digits_of_readExponentDigits h
    exact ⟨e :: (['+'] ++ ds), rfl, .inr ⟨e, ['+'], ds, rfl, he, by decide, hds⟩⟩
  · obtain ⟨ds, rfl, hds⟩ := digits_of_readExponentDigits h
    exact ⟨e :: (['-'] ++ ds), rfl, .inr ⟨e, ['-'], ds, rfl, he, by decide, hds⟩⟩
  · obtain ⟨ds, rfl, hds⟩ := digits_of_readExponentDigits h
    exact ⟨e :: ([] ++ ds), rfl, .inr ⟨e, [], ds, rfl, he, by decide, hds⟩⟩

theorem exponent_of_readScaled
    (h : readScaled negative significand exponent cs = .ok (x, rest)) :
    ∃ power, cs = power ++ rest ∧ IsExponent power := by
  unfold readScaled at h
  split at h
  · exact exponent_of_readExponent (by decide) h
  · exact exponent_of_readExponent (by decide) h
  · obtain ⟨y, -, h⟩ := bind_eq_ok.mp h
    cases h
    exact ⟨[], rfl, .inl rfl⟩

theorem places_of_readPlaces
    (h : readPlaces negative significand exponent cs = .ok (x, rest)) :
    ∃ ds power, cs = ds ++ (power ++ rest) ∧ IsDigits ds ∧ IsExponent power := by
  obtain ⟨ds, hcs, hlength, hds⟩ := exists_takeDigits significand cs
  simp only [readPlaces] at h
  generalize takeDigits significand cs = t at h hcs hlength
  obtain ⟨n, count, left⟩ := t
  subst hcs
  split at h
  · next hdigit =>
    -- further digits, which no longer fit
    obtain ⟨more, hmore, hdigits, hne⟩ := exists_skipDigits left
    obtain ⟨power, hpower, hexponent⟩ := exponent_of_readScaled h
    refine ⟨ds ++ more, power, ?_, ⟨?_, List.forall_mem_append.mpr ⟨hds, hdigits⟩⟩, hexponent⟩
    · rw [List.append_assoc, ← hpower, ← hmore]
    · exact List.append_ne_nil_of_right_ne_nil _ (hne hdigit)
  · split at h
    · cases h
    · next hcount =>
      obtain ⟨power, rfl, hexponent⟩ := exponent_of_readScaled h
      refine ⟨ds, power, rfl, ⟨?_, hds⟩, hexponent⟩
      rintro rfl
      exact hcount hlength.symm

theorem fraction_of_readLong (h : readLong negative significand cs = .ok (x, rest)) :
    ∃ ds fraction power, cs = ds ++ (fraction ++ (power ++ rest)) ∧
      (∀ c ∈ ds, c.isDigit = true) ∧ IsFraction fraction ∧ IsExponent power := by
  obtain ⟨ds, hcs, hds, -⟩ := exists_skipDigits cs
  simp only [readLong] at h
  split at h
  · next places hplaces =>
    obtain ⟨digits, power, rfl, hdigits, hpower⟩ := places_of_readPlaces h
    refine ⟨ds, '.' :: digits, power, ?_, hds, .inr ⟨digits, rfl, hdigits⟩, hpower⟩
    rw [hplaces] at hcs
    exact hcs
  · obtain ⟨power, hpower, hexponent⟩ := exponent_of_readScaled h
    exact ⟨ds, [], power, by rw [List.nil_append, ← hpower]; exact hcs, hds, .inl rfl, hexponent⟩

theorem fraction_of_readFraction (h : readFraction negative significand cs = .ok (x, rest)) :
    ∃ fraction power, cs = fraction ++ (power ++ rest) ∧ IsFraction fraction ∧
      IsExponent power := by
  unfold readFraction at h
  split at h
  · obtain ⟨digits, power, rfl, hdigits, hpower⟩ := places_of_readPlaces h
    exact ⟨'.' :: digits, power, rfl, .inr ⟨digits, rfl, hdigits⟩, hpower⟩
  · obtain ⟨power, hpower, hexponent⟩ := exponent_of_readExponent (e := 'e') (by decide) h
    exact ⟨[], power, hpower, .inl rfl, hexponent⟩
  · obtain ⟨power, hpower, hexponent⟩ := exponent_of_readExponent (e := 'E') (by decide) h
    exact ⟨[], power, hpower, .inl rfl, hexponent⟩
  · cases h
    exact ⟨[], [], rfl, .inl rfl, .inl rfl⟩

/-- **A number that is read stands there in its written form**, behind its sign. -/
theorem numeral_of_readNumber (h : readNumber negative cs = .ok (x, rest)) :
    ∃ whole fraction power, cs = whole ++ (fraction ++ (power ++ rest)) ∧ IsWhole whole ∧
      IsFraction fraction ∧ IsExponent power := by
  cases cs with
  | nil => cases h
  | cons c cs =>
    rw [readNumber] at h
    split at h
    · next hzero =>
      subst hzero
      split at h
      · cases h
      · obtain ⟨fraction, power, rfl, hfraction, hpower⟩ := fraction_of_readFraction h
        exact ⟨['0'], fraction, power, rfl, .inl rfl, hfraction, hpower⟩
    · next hzero =>
      split at h
      · next hc =>
        -- the digits that fit, and those that do not
        obtain ⟨ds, hcs, -, hds⟩ := exists_takeDigits (digitValue c) cs
        simp only at h
        generalize takeDigits (digitValue c) cs = t at h hcs
        obtain ⟨n, count, left⟩ := t
        subst hcs
        have hwhole (more : List Char) (hmore : ∀ d ∈ more, d.isDigit = true) :
            IsWhole (c :: (ds ++ more)) :=
          .inr ⟨fun hhead => hzero (Option.some.inj hhead), List.cons_ne_nil _ _,
            List.forall_mem_cons.mpr ⟨hc, List.forall_mem_append.mpr ⟨hds, hmore⟩⟩⟩
        split at h
        · obtain ⟨more, fraction, power, rfl, hmore, hfraction, hpower⟩ := fraction_of_readLong h
          refine ⟨c :: (ds ++ more), fraction, power, ?_, hwhole more hmore, hfraction, hpower⟩
          rw [List.cons_append, List.append_assoc]
        · obtain ⟨fraction, power, rfl, hfraction, hpower⟩ := fraction_of_readFraction h
          refine ⟨c :: (ds ++ []), fraction, power, ?_, hwhole [] (List.forall_mem_nil _), hfraction,
            hpower⟩
          rw [List.append_nil, List.cons_append]
      · cases h

end Numbers

/-! ### One value -/

theorem eq_append_of_expectWord {word : List Char} (h : expectWord word cs = .ok rest) :
    cs = word ++ rest := by
  induction word generalizing cs with
  | nil =>
    cases h
    rfl
  | cons w word ih =>
    cases cs with
    | nil => cases h
    | cons c cs =>
      rw [expectWord] at h
      split at h
      · next hc => rw [hc, ih h]; rfl
      · cases h

/-- What stands at the head of `cs` when a value has been read from it in `n + 1` steps, with
`rest` left behind. -/
inductive ReadsValue (n : Nat) (cs rest : List Char) : Nat → Value → Prop
  | null {depth : Nat} (h : skipSpace cs = 'n' :: 'u' :: 'l' :: 'l' :: rest) :
      ReadsValue n cs rest depth .null
  | true {depth : Nat} (h : skipSpace cs = 't' :: 'r' :: 'u' :: 'e' :: rest) :
      ReadsValue n cs rest depth (.bool true)
  | false {depth : Nat} (h : skipSpace cs = 'f' :: 'a' :: 'l' :: 's' :: 'e' :: rest) :
      ReadsValue n cs rest depth (.bool false)
  | text {depth : Nat} {body : List Char} {t : String} (h : skipSpace cs = '"' :: body)
      (hspells : Spells body t.toList rest) : ReadsValue n cs rest depth (.text t)
  | number {depth : Nat} {numeral : List Char} {x : Number} (hn : IsNumeral numeral)
      (h : skipSpace cs = numeral ++ rest) : ReadsValue n cs rest depth (.number x)
  | list {depth : Nat} {cs₁ : List Char} {vs : List Value} (h : skipSpace cs = '[' :: cs₁)
      (hitems : readItems n depth Bool.true cs₁ = .ok (vs, rest)) :
      ReadsValue n cs rest (depth + 1) (.list vs)
  | object {depth : Nat} {cs₁ : List Char} {ms : Members} (h : skipSpace cs = '{' :: cs₁)
      (hmembers : readMembers n depth Bool.true cs₁ = .ok (ms, rest)) :
      ReadsValue n cs rest (depth + 1) (.object ms)

/-- **A value is read from what stands there.** -/
theorem readsValue_of_readValue {n depth : Nat} {v : Value}
    (h : readValue (n + 1) depth cs = .ok (v, rest)) : ReadsValue n cs rest depth v := by
  rw [readValue] at h
  split at h
  · cases h
  · next heq =>
    obtain ⟨cs', hword, h⟩ := bind_eq_ok.mp h
    cases h
    exact .null (heq.trans (congrArg _ (eq_append_of_expectWord hword)))
  · next heq =>
    obtain ⟨cs', hword, h⟩ := bind_eq_ok.mp h
    cases h
    exact .true (heq.trans (congrArg _ (eq_append_of_expectWord hword)))
  · next heq =>
    obtain ⟨cs', hword, h⟩ := bind_eq_ok.mp h
    cases h
    exact .false (heq.trans (congrArg _ (eq_append_of_expectWord hword)))
  · next heq =>
    obtain ⟨⟨ds, cs'⟩, htext, h⟩ := bind_eq_ok.mp h
    cases h
    exact .text heq (by rw [String.toList_ofList]; exact readText_eq_ok_iff.mp htext)
  · next heq =>
    obtain ⟨⟨x, cs'⟩, hnumber, h⟩ := bind_eq_ok.mp h
    cases h
    obtain ⟨whole, fraction, power, rfl, hwhole, hfraction, hpower⟩ :=
      numeral_of_readNumber hnumber
    refine .number ⟨['-'], whole, fraction, power, rfl, by decide, hwhole, hfraction, hpower⟩ ?_
    simpa only [List.cons_append, List.append_assoc, List.nil_append] using heq
  · next heq =>
    cases depth with
    | zero => cases h
    | succ depth =>
      obtain ⟨⟨vs, cs'⟩, hitems, h⟩ := bind_eq_ok.mp h
      cases h
      exact .list heq hitems
  · next heq =>
    cases depth with
    | zero => cases h
    | succ depth =>
      obtain ⟨⟨ms, cs'⟩, hmembers, h⟩ := bind_eq_ok.mp h
      cases h
      exact .object heq hmembers
  · next heq =>
    split at h
    · obtain ⟨⟨x, cs'⟩, hnumber, h⟩ := bind_eq_ok.mp h
      cases h
      obtain ⟨whole, fraction, power, hcs, hwhole, hfraction, hpower⟩ :=
        numeral_of_readNumber hnumber
      refine .number ⟨[], whole, fraction, power, rfl, by decide, hwhole, hfraction, hpower⟩ ?_
      rw [heq, hcs]
      simp only [List.append_assoc, List.nil_append]
    · cases h

/-! ### Items and members -/

theorem readValue_skipSpace (n depth : Nat) (cs : List Char) :
    readValue n depth (skipSpace cs) = readValue n depth cs := by
  cases n with
  | zero => rw [readValue, readValue]
  | succ n => rw [readValue, readValue, skipSpace_skipSpace]

theorem starts_of_nextItem {first more : Bool} (h : nextItem first cs = .ok (more, rest)) :
    (more = false ∧ ∃ cs', rest = ']' :: cs' ∧ skipSpace cs = rest) ∨
      (more = true ∧ ∃ cs₁, Starts first cs cs₁ ∧ rest = skipSpace cs₁) := by
  unfold nextItem at h
  split at h
  · cases h
  · next heq =>
    cases h
    exact .inl ⟨rfl, _, rfl, heq⟩
  · next heq =>
    split at h
    · next hf =>
      cases h
      subst hf
      exact .inr ⟨rfl, cs, .first cs, heq.symm⟩
    · next hf =>
      rw [Bool.not_eq_true] at hf
      subst hf
      split at h
      · cases h
      · cases h
      · cases h
        exact .inr ⟨rfl, _, .comma heq, rfl⟩
  · split at h
    · next hf =>
      cases h
      subst hf
      exact .inr ⟨rfl, cs, .first cs, rfl⟩
    · cases h

theorem starts_of_nextMember {first more : Bool} (h : nextMember first cs = .ok (more, rest)) :
    (more = false ∧ ∃ cs', rest = '}' :: cs' ∧ skipSpace cs = rest) ∨
      (more = true ∧ ∃ cs₁, Starts first cs cs₁ ∧ skipSpace cs₁ = '"' :: rest) := by
  unfold nextMember at h
  split at h
  · cases h
  · next heq =>
    cases h
    exact .inl ⟨rfl, _, rfl, heq⟩
  · next heq =>
    split at h
    · cases h
    · next hf =>
      rw [Bool.not_eq_true] at hf
      subst hf
      split at h
      · cases h
      · next hname =>
        cases h
        exact .inr ⟨rfl, _, .comma heq, hname⟩
      · cases h
      · cases h
  · next heq =>
    split at h
    · cases h
    · next hf =>
      rw [Bool.not_eq_true, Bool.not_eq_false'] at hf
      subst hf
      split at h
      · next hc =>
        cases h
        subst hc
        exact .inr ⟨rfl, cs, .first cs, heq⟩
      · cases h

/-- What stands at the head of `cs` when items have been read from it in `n + 1` steps. -/
inductive ReadsItems (n depth : Nat) (first : Bool) (cs rest : List Char) : List Value → Prop
  | nil (h : skipSpace cs = ']' :: rest) : ReadsItems n depth first cs rest []
  | cons {cs₁ cs₂ : List Char} {v : Value} {vs : List Value} (h : Starts first cs cs₁)
      (hvalue : readValue n depth cs₁ = .ok (v, cs₂))
      (hitems : readItems n depth false cs₂ = .ok (vs, rest)) :
      ReadsItems n depth first cs rest (v :: vs)

theorem readsItems_of_readItems {n depth : Nat} {first : Bool} {vs : List Value}
    (h : readItems (n + 1) depth first cs = .ok (vs, rest)) :
    ReadsItems n depth first cs rest vs := by
  rw [readItems] at h
  obtain ⟨⟨more, cs'⟩, hnext, h⟩ := bind_eq_ok.mp h
  obtain ⟨rfl, cs₁, rfl, hclose⟩ | ⟨rfl, cs₁, hstarts, rfl⟩ := starts_of_nextItem hnext
  · cases h
    exact .nil hclose
  · obtain ⟨⟨v, cs₂⟩, hvalue, h⟩ := bind_eq_ok.mp h
    obtain ⟨⟨vs, cs₃⟩, hitems, h⟩ := bind_eq_ok.mp h
    cases h
    exact .cons hstarts (readValue_skipSpace n depth cs₁ ▸ hvalue) hitems

/-- What stands at the head of `cs` when members have been read from it in `n + 1` steps. -/
inductive ReadsMembers (n depth : Nat) (first : Bool) (cs rest : List Char) : Members → Prop
  | nil (h : skipSpace cs = '}' :: rest) : ReadsMembers n depth first cs rest []
  | cons {cs₁ body cs₂ cs₃ cs₄ : List Char} {name : String} {v : Value} {ms : Members}
      (h : Starts first cs cs₁) (hname : skipSpace cs₁ = '"' :: body)
      (hspells : Spells body name.toList cs₂) (hcolon : skipSpace cs₂ = ':' :: cs₃)
      (hvalue : readValue n depth cs₃ = .ok (v, cs₄))
      (hmembers : readMembers n depth false cs₄ = .ok (ms, rest)) :
      ReadsMembers n depth first cs rest (ms.insertNew name v)

theorem readsMembers_of_readMembers {n depth : Nat} {first : Bool} {ms : Members}
    (h : readMembers (n + 1) depth first cs = .ok (ms, rest)) :
    ReadsMembers n depth first cs rest ms := by
  rw [readMembers] at h
  obtain ⟨⟨more, cs'⟩, hnext, h⟩ := bind_eq_ok.mp h
  obtain ⟨rfl, cs₁, rfl, hclose⟩ | ⟨rfl, cs₁, hstarts, hname⟩ := starts_of_nextMember hnext
  · cases h
    exact .nil hclose
  · obtain ⟨⟨name, cs₂⟩, htext, h⟩ := bind_eq_ok.mp h
    obtain ⟨cs₃, hcolon, h⟩ := bind_eq_ok.mp h
    obtain ⟨⟨v, cs₄⟩, hvalue, h⟩ := bind_eq_ok.mp h
    obtain ⟨⟨ms, cs₅⟩, hmembers, h⟩ := bind_eq_ok.mp h
    cases h
    have hspells : Spells cs' (String.ofList name).toList cs₂ := by
      rw [String.toList_ofList]
      exact readText_eq_ok_iff.mp htext
    have hcolon : skipSpace cs₂ = ':' :: cs₃ := by
      unfold readColon at hcolon
      split at hcolon
      · cases hcolon
      · next heq =>
        cases hcolon
        exact heq
      · cases hcolon
    exact .cons hstarts hname hspells hcolon hvalue hmembers

/-! ### Where a numeral ends -/

/-- Behind spaces a numeral does not go on. -/
theorem endsNumeral_of_skipSpace (h : EndsNumeral (skipSpace cs)) : EndsNumeral cs := by
  cases cs with
  | nil => exact h
  | cons c cs =>
    cases hc : isSpace c with
    | false => rwa [skipSpace_cons hc] at h
    | true =>
      rintro d ⟨⟩
      have hspace : c = ' ' ∨ c = '\n' ∨ c = '\t' ∨ c = '\r' := by
        simpa [isSpace, or_assoc] using hc
      obtain rfl | rfl | rfl | rfl := hspace <;> decide

theorem endsNumeral_of_close {c : Char} (h : skipSpace cs = c :: rest) (hc : c ∈ [',', ']', '}']) :
    EndsNumeral cs := by
  refine endsNumeral_of_skipSpace ?_
  rw [h]
  rintro d ⟨⟩
  simp only [List.mem_cons, List.not_mem_nil, or_false] at hc
  obtain rfl | rfl | rfl := hc <;> decide

/-- Behind another element there is a comma. -/
theorem Starts.endsNumeral (h : Starts false cs rest) : EndsNumeral cs := by
  cases h with
  | comma h => exact endsNumeral_of_close h (by decide)

theorem endsNumeral_of_readItems {n depth : Nat} {vs : List Value}
    (hitems : readItems n depth false cs = .ok (vs, rest)) : EndsNumeral cs := by
  cases n with
  | zero => rw [readItems] at hitems; cases hitems
  | succ n =>
    cases readsItems_of_readItems hitems with
    | nil h => exact endsNumeral_of_close h (by decide)
    | cons h _ _ => exact h.endsNumeral

theorem endsNumeral_of_readMembers {n depth : Nat} {ms : Members}
    (hmembers : readMembers n depth false cs = .ok (ms, rest)) : EndsNumeral cs := by
  cases n with
  | zero => rw [readMembers] at hmembers; cases hmembers
  | succ n =>
    cases readsMembers_of_readMembers hmembers with
    | nil h => exact endsNumeral_of_close h (by decide)
    | cons h _ _ _ _ _ => exact h.endsNumeral

/-! ### What has been read -/

/-- The text that a value is, if it is one. -/
def Value.text? : Value → Option String
  | .text t => some t
  | _ => none

/-- The names of some members, each with the text that it holds, if it does. -/
def Members.contents (ms : Members) : Contents :=
  ms.map fun m => (m.1, m.2.text?)

theorem Listing.derives {first : Bool} {ms : Contents} (h : Listing first cs ms rest) :
    Derives (.members first) cs rest := by
  induction h with
  | finish h => exact .noMember h
  | member h hname hspells hcolon hvalue _ ih =>
    exact .member h hname hspells.closes hcolon hvalue.derives ih

/-- What is no text does not begin with a quote. -/
theorem holds_of_derives {c : Char} {cs₁ : List Char} (h : skipSpace cs = c :: cs₁) (hc : c ≠ '"')
    (hderives : Derives .value cs rest) : Holds cs rest none := by
  refine ⟨hderives, fun body ds rest' hbody => ?_⟩
  exact absurd (List.cons.inj (h.symm.trans hbody)).1 hc

/-- A numeral begins neither with a quote nor with a bracket. -/
theorem IsNumeral.exists_cons {numeral : List Char} (h : IsNumeral numeral) :
    ∃ c ds, numeral = c :: ds ∧ c ≠ '"' ∧ c ≠ '[' ∧ c ≠ '{' := by
  obtain ⟨sign, whole, fraction, power, rfl, hsign, hwhole, -, -⟩ := h
  obtain ⟨c, ds, rfl, hc⟩ := hwhole.exists_cons
  simp only [List.mem_cons, List.not_mem_nil, or_false] at hsign
  obtain rfl | rfl := hsign
  · refine ⟨c, _, rfl, ?_, ?_, ?_⟩
    all_goals
      rintro rfl
      cases hc
  · exact ⟨'-', _, rfl, by decide, by decide, by decide⟩

/-- What the reader has read in at most `n` steps, value by value: its texts, what it is by the
grammar, and the members that it has met. -/
structure Sound (n : Nat) : Prop where
  value : ∀ {depth : Nat} {cs rest : List Char} {v : Value},
    readValue n depth cs = .ok (v, rest) → EndsNumeral rest → Holds cs rest v.text?
  items : ∀ {depth : Nat} {first : Bool} {cs rest : List Char} {vs : List Value},
    readItems n depth first cs = .ok (vs, rest) → Derives (.items first) cs rest
  members : ∀ {depth : Nat} {first : Bool} {cs rest : List Char} {ms : Members},
    readMembers n depth first cs = .ok (ms, rest) →
      ∃ written : Members, Listing first cs written.contents rest ∧
        Value.object ms = .ofMembers written

/-- **The reader reads by the grammar.** -/
theorem sound (n : Nat) : Sound n := by
  induction n with
  | zero =>
    constructor
    · intro depth cs rest v h
      rw [readValue] at h
      cases h
    · intro depth first cs rest vs h
      rw [readItems] at h
      cases h
    · intro depth first cs rest ms h
      rw [readMembers] at h
      cases h
  | succ n ih =>
    constructor
    · intro depth cs rest v hread hrest
      cases readsValue_of_readValue hread with
      | null h => exact holds_of_derives h (by decide) (.null h)
      | true h => exact holds_of_derives h (by decide) (.true h)
      | false h => exact holds_of_derives h (by decide) (.false h)
      | text h hspells => exact ⟨_, h, hspells⟩
      | number hn h =>
        obtain ⟨c, ds, rfl, hc, -, -⟩ := hn.exists_cons
        exact holds_of_derives h hc (.number hn h hrest)
      | list h hitems => exact holds_of_derives h (by decide) (.list h (ih.items hitems))
      | object h hmembers =>
        obtain ⟨written, hlisting, -⟩ := ih.members hmembers
        exact holds_of_derives h (by decide) (.object h hlisting.derives)
    · intro depth first cs rest vs hread
      cases readsItems_of_readItems hread with
      | nil h => exact .noItem h
      | cons h hvalue hitems =>
        exact .item h (ih.value hvalue (endsNumeral_of_readItems hitems)).derives (ih.items hitems)
    · intro depth first cs rest ms hread
      cases readsMembers_of_readMembers hread with
      | nil h => exact ⟨[], .finish h, rfl⟩
      | @cons cs₁ body cs₂ cs₃ cs₄ name v ms h hname hspells hcolon hvalue hmembers =>
        obtain ⟨written, hlisting, hms⟩ := ih.members hmembers
        refine ⟨(name, v) :: written, ?_, ?_⟩
        · exact .member h hname hspells hcolon
            (ih.value hvalue (endsNumeral_of_readMembers hmembers)) hlisting
        · rw [Value.object.inj hms]
          rfl

/-! ### Objects in one way -/

theorem Starts.unique {first : Bool} {rest' : List Char} (h : Starts first cs rest)
    (h' : Starts first cs rest') : rest = rest' := by
  cases h with
  | first =>
    cases h'
    rfl
  | comma h =>
    cases h' with
    | comma h' => exact (List.cons.inj (h.symm.trans h')).2

/-- A value ends in one place. -/
theorem Derives.unique {rest' : List Char} (h : Derives .value cs rest)
    (h' : Derives .value cs rest') : rest = rest' := by
  have hskip := skipValue_of_derives h (n := 2 * cs.length) (by omega)
  have hskip' := skipValue_of_derives h' (n := 2 * cs.length) (by omega)
  exact Except.ok.inj (hskip.symm.trans hskip')

theorem Holds.unique {content content' : Option String} {rest' : List Char}
    (h : Holds cs rest content) (h' : Holds cs rest' content') :
    content = content' ∧ rest = rest' := by
  have hrest := h.derives.unique h'.derives
  cases content with
  | none =>
    cases content' with
    | none => exact ⟨rfl, hrest⟩
    | some t =>
      obtain ⟨body, hbody, hspells⟩ := h'
      exact absurd hspells (h.2 _ _ _ hbody)
  | some t =>
    obtain ⟨body, hbody, hspells⟩ := h
    cases content' with
    | none => exact absurd hspells (h'.2 _ _ _ hbody)
    | some t' =>
      obtain ⟨body', hbody', hspells'⟩ := h'
      obtain rfl : body = body' := (List.cons.inj (hbody.symm.trans hbody')).2
      exact ⟨congrArg some (String.toList_inj.mp (hspells.unique hspells').1), hrest⟩

/-- Where a member begins no object ends. -/
theorem Starts.not_brace {first : Bool} {cs₁ body : List Char} (h : Starts first cs cs₁)
    (hname : skipSpace cs₁ = '"' :: body) : skipSpace cs ≠ '}' :: rest := by
  intro hclose
  cases h with
  | first => cases hname.symm.trans hclose
  | comma h => cases h.symm.trans hclose

/-- The members of an object are listed in one way. -/
theorem Listing.unique {first : Bool} {ms ms' : Contents} {rest' : List Char}
    (h : Listing first cs ms rest) (h' : Listing first cs ms' rest') : ms = ms' ∧ rest = rest' := by
  induction h generalizing ms' with
  | finish hclose =>
    cases h' with
    | finish hclose' => exact ⟨rfl, (List.cons.inj (hclose.symm.trans hclose')).2⟩
    | member hstarts hname _ _ _ _ => exact absurd hclose (hstarts.not_brace hname)
  | member hstarts hname hspells hcolon hvalue _ ih =>
    cases h' with
    | finish hclose => exact absurd hclose (hstarts.not_brace hname)
    | member hstarts' hname' hspells' hcolon' hvalue' hmembers' =>
      obtain rfl := hstarts.unique hstarts'
      obtain ⟨-, rfl⟩ := List.cons.inj (hname.symm.trans hname')
      obtain ⟨hnames, rfl⟩ := hspells.unique hspells'
      obtain ⟨-, rfl⟩ := List.cons.inj (hcolon.symm.trans hcolon')
      obtain ⟨rfl, rfl⟩ := hvalue.unique hvalue'
      obtain ⟨rfl, hrest⟩ := ih hmembers'
      exact ⟨by rw [String.toList_inj.mp hnames], hrest⟩

/-- **A text is an object in one way.** -/
theorem IsObject.unique {s : String} {ms ms' : Contents} (h : IsObject s ms)
    (h' : IsObject s ms') : ms = ms' := by
  obtain ⟨cs, rest, hopen, hlisting, -⟩ := h
  obtain ⟨cs', rest', hopen', hlisting', -⟩ := h'
  obtain rfl : cs = cs' := (List.cons.inj (hopen.symm.trans hopen')).2
  exact (hlisting.unique hlisting').1

end AccountRegistry.Json
