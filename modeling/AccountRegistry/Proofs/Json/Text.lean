/-
Texts in JSON, written and read back.

* **`Json.readText_quoted`** — what stands between quotes is read back, whatever follows it;
* **`Json.quote_append_inj`** — a text between quotes tells where it ends.
-/
import AccountRegistry.Json.Printer
import AccountRegistry.Json.Reader

namespace AccountRegistry.Json

/-! ### Escapes -/

theorem hexValues_control :
    ∀ n < 0x20, ['0', '0', Text.Hex.digit (n / 16), Text.Hex.digit (n % 16)].mapM hexValue =
      some [0, 0, n / 16, n % 16] := by
  decide

theorem utf8Size_control :
    ∀ n < 0x20, ['0', '0', Text.Hex.digit (n / 16), Text.Hex.digit (n % 16)].foldl
      (fun n c => n + c.utf8Size) 0 = 4 := by
  decide

theorem hexEscape_control {n : Nat} (hn : n < 0x20) :
    hexEscape ['0', '0', Text.Hex.digit (n / 16), Text.Hex.digit (n % 16)] = .ok n := by
  have hsum : ((0 * 16 + 0) * 16 + n / 16) * 16 + n % 16 = n := by omega
  rw [hexEscape, List.take_of_length_le (Nat.le_refl 4), utf8Size_control n hn,
    hexValues_control n hn]
  simp only [hsum, Nat.lt_irrefl, if_false]

/-- An escape looks at the four characters that come next. -/
theorem hexEscape_cons (a b c d : Char) (cs : List Char) :
    hexEscape (a :: b :: c :: d :: cs) = hexEscape [a, b, c, d] := rfl

theorem readEscape_control {n : Nat} (hn : n < 0x20) (cs : List Char) :
    readEscape ('u' :: '0' :: '0' :: Text.Hex.digit (n / 16) :: Text.Hex.digit (n % 16) :: cs) =
      .ok (Char.ofNat n, 5) := by
  rw [readEscape, hexEscape_cons, hexEscape_control hn]
  -- a control character is no half of a surrogate pair
  simp only [bind, Except.bind]
  rw [if_neg (by omega), if_neg (by omega)]

/-- A text goes on after an escape with the character that it stands for. -/
theorem readText_escape {d : Char} {e cs : List Char}
    (h : readEscape (e ++ cs) = .ok (d, e.length)) :
    readText ('\\' :: (e ++ cs)) = (readText cs).map fun p => (d :: p.1, p.2) := by
  rw [readText, if_neg (by decide), if_pos rfl, h]
  simp only [bind, Except.bind, List.drop_left]
  cases readText cs <;> rfl

theorem readText_plain {c : Char} (hquote : c ≠ '"') (hslash : c ≠ '\\') (hcontrol : 0x20 ≤ c.toNat)
    (cs : List Char) : readText (c :: cs) = (readText cs).map fun p => (c :: p.1, p.2) := by
  rw [readText, if_neg hquote, if_neg hslash, if_neg (by omega)]
  cases readText cs <;> rfl

/-- The characters of a text are read one by one, each as it was written. -/
theorem readText_escapeChar (c : Char) (cs : List Char) :
    readText (escapeChar c ++ cs) = (readText cs).map fun p => (c :: p.1, p.2) := by
  have hshort : ∀ e : Char, readEscape (e :: cs) = .ok (c, 1) →
      readText (['\\', e] ++ cs) = (readText cs).map fun p => (c :: p.1, p.2) :=
    fun e h => readText_escape (e := [e]) h
  have hc : Char.ofNat c.toNat = c := Char.ofNat_toNat c
  -- seven characters have a short escape, the other control characters a long one
  unfold escapeChar
  split
  · next h => subst h; exact hshort '"' rfl
  split
  · next h => subst h; exact hshort '\\' rfl
  split
  · next h => rw [h] at hc; subst hc; exact hshort 'b' rfl
  split
  · next h => rw [h] at hc; subst hc; exact hshort 'f' rfl
  split
  · next h => subst h; exact hshort 'n' rfl
  split
  · next h => subst h; exact hshort 'r' rfl
  split
  · next h => subst h; exact hshort 't' rfl
  split
  · next h =>
    have hread := readEscape_control h cs
    rw [hc] at hread
    exact readText_escape (e := ['u', '0', '0', _, _]) hread
  · next hquote hslash _ _ _ _ _ hcontrol =>
    exact readText_plain hquote hslash (Nat.le_of_not_lt hcontrol) cs

/-! ### Quoted texts -/

/-- **A quoted text is read back** up to its closing quote. -/
theorem readText_quoted (cs rest : List Char) :
    readText (cs.flatMap escapeChar ++ '"' :: rest) = .ok (cs, rest) := by
  induction cs with
  | nil => rw [List.flatMap_nil, List.nil_append, readText, if_pos rfl]
  | cons c cs ih =>
    rw [List.flatMap_cons, List.append_assoc, readText_escapeChar, ih]
    rfl

theorem quote_append (s : String) (rest : List Char) :
    quote s ++ rest = '"' :: (s.toList.flatMap escapeChar ++ '"' :: rest) := by
  simp only [quote, List.cons_append, List.append_assoc, List.nil_append]

/-- **A quoted text tells where it ends.** -/
theorem quote_append_inj {s t : String} {rest rest' : List Char}
    (h : quote s ++ rest = quote t ++ rest') : s = t ∧ rest = rest' := by
  rw [quote_append, quote_append] at h
  have hread := congrArg readText (List.cons.inj h).2
  rw [readText_quoted, readText_quoted] at hread
  obtain ⟨hchars, hrest⟩ := Prod.mk.inj (Except.ok.inj hread)
  exact ⟨String.toList_inj.mp hchars, hrest⟩

/-! ### Spaces -/

theorem skipSpace_cons {c : Char} (h : isSpace c = false) (cs : List Char) :
    skipSpace (c :: cs) = c :: cs := by
  rw [skipSpace, List.dropWhile_cons_of_neg (by rw [h]; exact Bool.false_ne_true)]

/-- Spaces are passed over up to a character that is none. -/
theorem skipSpace_append {gap : List Char} (hgap : gap.all isSpace = true) {c : Char}
    (h : isSpace c = false) (cs : List Char) : skipSpace (gap ++ c :: cs) = c :: cs := by
  rw [skipSpace, List.dropWhile_append_of_pos (List.all_eq_true.mp hgap)]
  exact skipSpace_cons h cs

end AccountRegistry.Json
