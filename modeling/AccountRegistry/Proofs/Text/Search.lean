/-
Patterns in texts.

* **`Text.occurs_iff`** — a search finds a pattern exactly if the text contains it;
* **`Text.afterLast_append`** — what follows the last occurrence of a pattern is found behind
  any text, if the pattern does not stand in it again and does not lap over itself;
* **`Text.infix_of_mem_splitOn`** — the pieces of a text are parts of it;
* **`Text.Apart`** — no beginning of a pattern ends another text, so that the pattern cannot
  stand across the place where that text ends (`Text.Apart.infix_append`).
-/
import AccountRegistry.Text.Casing
import AccountRegistry.Text.Search
import Mathlib.Data.List.Infix

namespace AccountRegistry.Text

/-! ### Patterns that occur -/

/-- **A search finds what the text contains.** -/
theorem occurs_iff {pat cs : List Char} : occurs pat cs = true ↔ pat <:+: cs := by
  induction cs with
  | nil => rw [occurs, List.isEmpty_iff, List.infix_nil]
  | cons c cs ih =>
    rw [occurs, Bool.or_eq_true, List.isPrefixOf_iff_prefix, ih, List.infix_cons_iff]

theorem afterLast_eq_none {pat cs : List Char} (h : ¬ pat <:+: cs) :
    afterLast pat cs = none := by
  induction cs with
  | nil =>
    have hne : ¬ pat.isEmpty = true := fun hnil => h (List.isEmpty_iff.mp hnil ▸ List.nil_infix)
    rw [afterLast, if_neg hne]
  | cons c cs ih =>
    rw [List.infix_cons_iff, not_or, ← List.isPrefixOf_iff_prefix] at h
    rw [afterLast, ih h.2]
    exact if_neg h.1

/-- An occurrence stays the last one whatever stands in front. -/
theorem afterLast_append_of_some {pat cs rest : List Char} (h : afterLast pat cs = some rest)
    (front : List Char) : afterLast pat (front ++ cs) = some rest := by
  induction front with
  | nil => exact h
  | cons c front ih => rw [List.cons_append, afterLast, ih]

/-! ### Patterns across a place -/

/-- No beginning of `pat` ends the text `sep`. -/
def Apart (pat sep : List Char) : Prop :=
  ∀ l ∈ pat.inits, l ≠ [] → ¬ l <:+ sep

instance (pat sep : List Char) : Decidable (Apart pat sep) :=
  inferInstanceAs (Decidable (∀ l ∈ pat.inits, _))

namespace Apart

variable {pat sep cs : List Char}

/-- A pattern that is apart from a text stands in front of its end or behind it. -/
theorem infix_append (h : Apart pat sep) : pat <:+: sep ++ cs ↔ pat <:+: sep ∨ pat <:+: cs := by
  rw [List.infix_append_iff_ne_nil]
  constructor
  · rintro (hsep | hcs | ⟨l, l', hl, -, rfl, hsuffix, -⟩)
    · exact .inl hsep
    · exact .inr hcs
    · exact absurd hsuffix (h l ((List.mem_inits _ _).mpr (List.prefix_append l l')) hl)
  · rintro (hsep | hcs)
    · exact .inl hsep
    · exact .inr (.inl hcs)

/-- A pattern that is apart from a text at least as long is apart from it behind another. -/
theorem append (h : Apart pat sep) (hlength : pat.length ≤ sep.length) (front : List Char) :
    Apart pat (front ++ sep) := by
  intro l hl hne hsuffix
  have hle : l.length ≤ sep.length :=
    Nat.le_trans (((List.mem_inits _ _).mp hl)).length_le hlength
  exact h l hl hne (List.suffix_of_suffix_length_le hsuffix (List.suffix_append front sep) hle)

end Apart

/-- **What follows the last occurrence.**  Behind any text and a pattern that does not lap over
itself comes what follows the pattern for the last time, unless the pattern stands in that
again. -/
theorem afterLast_append {pat cs : List Char} (hne : pat ≠ []) (hpat : Apart pat pat.tail)
    (hcs : ¬ pat <:+: cs) (front : List Char) : afterLast pat (front ++ (pat ++ cs)) = some cs := by
  refine afterLast_append_of_some ?_ front
  obtain ⟨c, pat, rfl⟩ := List.exists_cons_of_ne_nil hne
  have hrest : afterLast (c :: pat) (pat ++ cs) = none := by
    refine afterLast_eq_none fun h => ?_
    obtain h | h := hpat.infix_append.mp h
    · -- a text is no part of its own tail
      have hlength : (c :: pat).length ≤ pat.length := h.length_le
      exact absurd hlength (Nat.not_succ_le_self pat.length)
    · exact hcs h
  have hstart : (c :: pat).isPrefixOf (c :: (pat ++ cs)) = true :=
    List.isPrefixOf_iff_prefix.mpr (List.prefix_append (c :: pat) cs)
  rw [List.cons_append, afterLast, hrest]
  simp only [hstart, if_true, List.length_cons, List.drop_succ_cons, List.drop_left]

/-! ### Pieces -/

theorem eq_of_splitOnce {sep : Char} {cs a b : List Char} (h : splitOnce sep cs = some (a, b)) :
    cs = a ++ sep :: b := by
  induction cs generalizing a with
  | nil => cases h
  | cons c cs ih =>
    rw [splitOnce] at h
    split at h
    · next hc =>
      cases h
      rw [hc, List.nil_append]
    · obtain ⟨⟨a', b'⟩, hrest, heq⟩ := Option.map_eq_some_iff.mp h
      cases heq
      rw [ih hrest, List.cons_append]

/-- A piece between separators is a part of the text, and so is the first piece of its head. -/
theorem splitOn_parts (sep : Char) (cs : List Char) :
    ∃ p ps, splitOn sep cs = p :: ps ∧ p <+: cs ∧ ∀ q ∈ ps, q <:+: cs := by
  induction cs with
  | nil => exact ⟨[], [], rfl, List.prefix_rfl, by simp⟩
  | cons c cs ih =>
    obtain ⟨p, ps, heq, hp, hps⟩ := ih
    rw [splitOn, heq]
    dsimp only
    by_cases hc : c = sep
    · rw [if_pos hc]
      refine ⟨[], p :: ps, rfl, List.nil_prefix, ?_⟩
      intro q hq
      obtain rfl | hq := List.mem_cons.mp hq
      · exact List.infix_cons hp.isInfix
      · exact List.infix_cons (hps q hq)
    · rw [if_neg hc]
      exact ⟨c :: p, ps, rfl, (List.prefix_cons_inj c).mpr hp,
        fun q hq => List.infix_cons (hps q hq)⟩

theorem infix_of_mem_splitOn {sep : Char} {cs q : List Char} (h : q ∈ splitOn sep cs) :
    q <:+: cs := by
  obtain ⟨p, ps, heq, hp, hps⟩ := splitOn_parts sep cs
  rw [heq] at h
  obtain rfl | h := List.mem_cons.mp h
  · exact hp.isInfix
  · exact hps q h

/-! ### Texts in texts -/

/-- Whether `pat` stands somewhere in `s`. -/
def Contains (s pat : String) : Prop :=
  ∃ before after, s = before ++ pat ++ after

/-- Whether `word` stands somewhere in `s`, ASCII letters of either case alike. -/
def Mentions (s word : String) : Prop :=
  ∃ w, Contains s w ∧ asciiLowercase w = word

theorem contains_iff {s pat : String} : Contains s pat ↔ pat.toList <:+: s.toList := by
  constructor
  · rintro ⟨before, after, rfl⟩
    exact ⟨before.toList, after.toList, by simp only [String.toList_append]⟩
  · rintro ⟨before, after, h⟩
    refine ⟨.ofList before, .ofList after, String.toList_injective ?_⟩
    simp only [String.toList_append, String.toList_ofList, h]

/-- A word is mentioned exactly if it is found once the letters have been made small. -/
theorem mentions_iff {s word : String} :
    Mentions s word ↔ occurs word.toList (s.toList.map Char.toLower) = true := by
  rw [occurs_iff, List.infix_map_iff]
  constructor
  · rintro ⟨w, hw, rfl⟩
    exact ⟨w.toList, contains_iff.mp hw, String.toList_ofList⟩
  · rintro ⟨l, hl, h⟩
    refine ⟨.ofList l, contains_iff.mpr (String.toList_ofList ▸ hl), String.toList_injective ?_⟩
    rw [asciiLowercase, String.toList_ofList, String.toList_ofList, h]

instance (s pat : String) : Decidable (Contains s pat) :=
  decidable_of_iff (occurs pat.toList s.toList = true) (occurs_iff.trans contains_iff.symm)

instance (s word : String) : Decidable (Mentions s word) :=
  decidable_of_iff _ mentions_iff.symm

end AccountRegistry.Text
