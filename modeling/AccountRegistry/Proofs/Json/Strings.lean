/-
Texts in JSON: where they end and what they stand for.

* **`Json.Closes`** — up to which quote a text goes, whether or not it stands for anything;
* **`Json.Spells`** — the characters that a text stands for, with its escapes undone;
* **`Json.readText_eq_ok_iff`** — a text is read exactly if it stands for something, and then
  as that;
* **`Json.skipText_of_closes`** — a text that nobody reads is passed over.

Design notes: an escape may name one half of a surrogate pair.  Without the other half it
stands for no character, so that such a text ends somewhere but spells nothing.
-/
import AccountRegistry.Proofs.Except
import AccountRegistry.Proofs.Json.Text

namespace AccountRegistry.Json

/-- Four hexadecimal digits and their value. -/
inductive IsHex : List Char → Nat → Prop
  | digits {w x y z : Char} {a b c d : Nat} (hw : hexValue w = some a) (hx : hexValue x = some b)
      (hy : hexValue y = some c) (hz : hexValue z = some d) :
      IsHex [w, x, y, z] (((a * 16 + b) * 16 + c) * 16 + d)

/-- The text whose opening quote stands before `cs` ends with the quote before `rest`. -/
inductive Closes : List Char → List Char → Prop
  | quote (rest : List Char) : Closes ('"' :: rest) rest
  | plain {c : Char} {cs rest : List Char} (hquote : c ≠ '"') (hslash : c ≠ '\\')
      (hcontrol : 0x20 ≤ c.toNat) (h : Closes cs rest) : Closes (c :: cs) rest
  | escape {c d : Char} {cs rest : List Char} (hc : shortEscape c = some d)
      (h : Closes cs rest) : Closes ('\\' :: c :: cs) rest
  | hex {e cs rest : List Char} {n : Nat} (he : IsHex e n) (h : Closes cs rest) :
      Closes ('\\' :: 'u' :: (e ++ cs)) rest

/-- The text whose opening quote stands before `cs` stands for `ds` and ends with the quote
before `rest`. -/
inductive Spells : List Char → List Char → List Char → Prop
  | quote (rest : List Char) : Spells ('"' :: rest) [] rest
  | plain {c : Char} {cs ds rest : List Char} (hquote : c ≠ '"') (hslash : c ≠ '\\')
      (hcontrol : 0x20 ≤ c.toNat) (h : Spells cs ds rest) : Spells (c :: cs) (c :: ds) rest
  | escape {c d : Char} {cs ds rest : List Char} (hc : shortEscape c = some d)
      (h : Spells cs ds rest) : Spells ('\\' :: c :: cs) (d :: ds) rest
  | hex {e cs ds rest : List Char} {n : Nat} (he : IsHex e n) (hn : n < 0xD800 ∨ 0xDFFF < n)
      (h : Spells cs ds rest) : Spells ('\\' :: 'u' :: (e ++ cs)) (Char.ofNat n :: ds) rest
  /-- Two escapes for one character. -/
  | pair {e e' cs ds rest : List Char} {high low : Nat} (he : IsHex e high)
      (hhigh : 0xD800 ≤ high ∧ high ≤ 0xDBFF) (he' : IsHex e' low)
      (hlow : 0xDC00 ≤ low ∧ low ≤ 0xDFFF) (h : Spells cs ds rest) :
      Spells ('\\' :: 'u' :: (e ++ '\\' :: 'u' :: (e' ++ cs)))
        (Char.ofNat ((high - 0xD800) * 0x400 + (low - 0xDC00) + 0x10000) :: ds) rest

variable {cs ds rest : List Char}

theorem Closes.length_lt (h : Closes cs rest) : rest.length < cs.length := by
  induction h with
  | quote rest => exact Nat.lt_succ_self _
  | plain _ _ _ _ ih => exact Nat.lt_succ_of_lt ih
  | escape _ _ ih => simp only [List.length_cons]; omega
  | hex _ _ ih => simp only [List.length_cons, List.length_append]; omega

theorem Spells.closes (h : Spells cs ds rest) : Closes cs rest := by
  induction h with
  | quote rest => exact .quote rest
  | plain hquote hslash hcontrol _ ih => exact .plain hquote hslash hcontrol ih
  | escape hc _ ih => exact .escape hc ih
  | hex he _ _ ih => exact .hex he ih
  | pair he _ he' _ _ ih => exact .hex he (.hex he' ih)

/-! ### Escapes -/

theorem IsHex.length {e : List Char} {n : Nat} (h : IsHex e n) : e.length = 4 := by
  cases h
  rfl

theorem hexEscape_four {w x y z : Char} {n : Nat} :
    hexEscape (w :: x :: y :: z :: cs) = .ok n ↔ IsHex [w, x, y, z] n := by
  have hsize : ¬ 0 + w.utf8Size + x.utf8Size + y.utf8Size + z.utf8Size < 4 := by
    have := w.utf8Size_pos
    have := x.utf8Size_pos
    have := y.utf8Size_pos
    have := z.utf8Size_pos
    omega
  rw [hexEscape_cons, hexEscape]
  simp only [List.take_succ_cons, List.take_zero, List.foldl_cons, List.foldl_nil, hsize,
    if_false, List.mapM_cons, List.mapM_nil]
  constructor
  · intro h
    split at h
    · next a b c d heq =>
      simp only [Option.bind_eq_bind, Option.bind_eq_some_iff, Option.pure_def,
        Option.some.injEq, List.cons.injEq] at heq
      obtain ⟨_, hw, _, ⟨_, hx, _, ⟨_, hy, _, ⟨_, hz, _, rfl, rfl⟩, rfl⟩, rfl⟩, rfl, rfl, rfl, rfl,
        -⟩ := heq
      cases h
      exact .digits hw hx hy hz
    · cases h
  · rintro ⟨hw, hx, hy, hz⟩
    rw [hw, hx, hy, hz]
    rfl

/-- An escape with four digits is read as their value. -/
theorem hexEscape_of_isHex {e : List Char} {n : Nat} (h : IsHex e n) (cs : List Char) :
    hexEscape (e ++ cs) = .ok n := by
  obtain ⟨hw, hx, hy, hz⟩ := h
  exact hexEscape_four.mpr (.digits hw hx hy hz)

/-- Fewer than four characters are no four digits. -/
theorem hexEscape_short {n : Nat} (hlength : cs.length < 4) : hexEscape cs ≠ .ok n := by
  intro h
  rw [hexEscape] at h
  split at h
  · cases h
  split at h
  · next a b c d heq =>
    rcases cs with _ | ⟨w, _ | ⟨x, _ | ⟨y, _ | ⟨z, cs⟩⟩⟩⟩
    · simp at heq
    · simp [Option.bind_eq_some_iff] at heq
    · simp [Option.bind_eq_some_iff] at heq
    · simp [Option.bind_eq_some_iff] at heq
    · simp only [List.length_cons] at hlength
      omega
  · cases h

theorem exists_isHex {n : Nat} (h : hexEscape cs = .ok n) :
    ∃ e cs', cs = e ++ cs' ∧ IsHex e n := by
  match cs, h with
  | w :: x :: y :: z :: cs, h => exact ⟨[w, x, y, z], cs, rfl, hexEscape_four.mp h⟩
  | [], h => exact absurd h (hexEscape_short (by decide))
  | [_], h => exact absurd h (hexEscape_short (Nat.le_add_left 2 2))
  | [_, _], h => exact absurd h (hexEscape_short (Nat.le_add_left 3 1))
  | [_, _, _], h => exact absurd h (hexEscape_short (Nat.le_refl 4))

theorem lowSurrogate_of_isHex {e : List Char} {high low : Nat} (he : IsHex e low)
    (hlow : 0xDC00 ≤ low ∧ low ≤ 0xDFFF) (cs : List Char) :
    lowSurrogate high ('\\' :: 'u' :: (e ++ cs)) =
      .ok (Char.ofNat ((high - 0xD800) * 0x400 + (low - 0xDC00) + 0x10000)) := by
  rw [lowSurrogate, hexEscape_of_isHex he]
  exact if_pos hlow

theorem exists_of_lowSurrogate {high : Nat} {d : Char} (h : lowSurrogate high cs = .ok d) :
    ∃ e cs' low, cs = '\\' :: 'u' :: (e ++ cs') ∧ IsHex e low ∧
      (0xDC00 ≤ low ∧ low ≤ 0xDFFF) ∧
      d = Char.ofNat ((high - 0xD800) * 0x400 + (low - 0xDC00) + 0x10000) := by
  unfold lowSurrogate at h
  split at h
  · cases h
  · cases h
  · obtain ⟨low, hlow, hrange⟩ := bind_eq_ok.mp h
    obtain ⟨e, cs', rfl, he⟩ := exists_isHex hlow
    split at hrange
    · next hlow =>
      exact ⟨e, cs', low, rfl, he, hlow, (Except.ok.inj hrange).symm⟩
    · cases hrange
  · cases h

/-- What an escape stands for goes in front of what follows it. -/
theorem exists_of_readEscape {d : Char} {n : Nat} (h : readEscape cs = .ok (d, n)) :
    ∃ e cs', cs = e ++ cs' ∧ n = e.length ∧
      ∀ {ds rest}, Spells cs' ds rest → Spells ('\\' :: cs) (d :: ds) rest := by
  unfold readEscape at h
  split at h
  · cases h
  · next cs =>
    obtain ⟨high, hhex, hrest⟩ := bind_eq_ok.mp h
    obtain ⟨e, cs, rfl, he⟩ := exists_isHex hhex
    split at hrest
    · cases hrest
    split at hrest
    · next hlone hhigh =>
      -- the first half of a pair, and so there is a second one
      obtain ⟨c, hlow, hc⟩ := bind_eq_ok.mp hrest
      cases hc
      rw [← he.length, List.drop_left] at hlow
      obtain ⟨e', cs, low, rfl, he', hrange, hd⟩ := exists_of_lowSurrogate hlow
      refine ⟨'u' :: (e ++ '\\' :: 'u' :: e'), cs, ?_, ?_, fun hcs => ?_⟩
      · simp only [List.cons_append, List.append_assoc]
      · simp only [List.length_cons, List.length_append, he.length, he'.length]
      · rw [hd]
        exact .pair he hhigh he' hrange hcs
    · next hlone hhigh =>
      cases hrest
      refine ⟨'u' :: e, cs, rfl, ?_, fun hcs => .hex he (by omega) hcs⟩
      rw [List.length_cons, he.length]
  · next c cs hu =>
    split at h
    · next hc =>
      cases h
      exact ⟨[c], cs, rfl, rfl, fun h => .escape hc h⟩
    · cases h

/-! ### Texts that are read -/

theorem shortEscape_u : shortEscape 'u' = none := by decide

theorem readEscape_short {c d : Char} (hc : shortEscape c = some d) (cs : List Char) :
    readEscape (c :: cs) = .ok (d, 1) := by
  unfold readEscape
  split
  · next heq => cases heq
  · next heq =>
    cases heq
    rw [shortEscape_u] at hc
    cases hc
  · next heq =>
    cases heq
    rw [hc]

theorem readText_of_spells (h : Spells cs ds rest) : readText cs = .ok (ds, rest) := by
  induction h with
  | quote rest => rw [readText, if_pos rfl]
  | plain hquote hslash hcontrol _ ih =>
    rw [readText_plain hquote hslash hcontrol, ih]
    rfl
  | @escape c d cs ds rest hc _ ih =>
    have hread : readText ('\\' :: ([c] ++ cs)) = _ := readText_escape (readEscape_short hc cs)
    rw [List.singleton_append, ih] at hread
    exact hread
  | @hex e cs ds rest n he hn _ ih =>
    have hread : readEscape (('u' :: e) ++ cs) = .ok (Char.ofNat n, ('u' :: e).length) := by
      rw [List.cons_append, readEscape, hexEscape_of_isHex he, List.length_cons, he.length]
      simp only [bind, Except.bind]
      rw [if_neg (by omega), if_neg (by omega)]
    rw [← List.cons_append, readText_escape hread, ih]
    rfl
  | @pair e e' cs ds rest high low he hhigh he' hlow _ ih =>
    let c := Char.ofNat ((high - 0xD800) * 0x400 + (low - 0xDC00) + 0x10000)
    let escape := 'u' :: (e ++ '\\' :: 'u' :: e')
    have hlength : escape.length = 11 := by
      simp only [escape, List.length_cons, List.length_append, he.length, he'.length]
    have hsecond : lowSurrogate high ((e ++ '\\' :: 'u' :: (e' ++ cs)).drop 4) = .ok c := by
      rw [← he.length, List.drop_left, lowSurrogate_of_isHex he' hlow]
    have hread : readEscape (escape ++ cs) = .ok (c, escape.length) := by
      simp only [escape, List.cons_append, List.append_assoc] at hlength ⊢
      rw [readEscape, hexEscape_of_isHex he]
      simp only [bind, Except.bind, hsecond, hlength]
      rw [if_neg (by omega), if_pos hhigh]
    have hall := readText_escape hread
    simp only [escape, List.cons_append, List.append_assoc, ih] at hall
    exact hall

theorem spells_of_readText (h : readText cs = .ok (ds, rest)) : Spells cs ds rest := by
  fun_induction readText cs generalizing ds rest with
  | case1 => cases h
  | case2 cs =>
    cases h
    exact .quote cs
  | case3 cs hquote ih =>
    obtain ⟨⟨d, n⟩, hescape, h⟩ := bind_eq_ok.mp h
    obtain ⟨⟨ds', rest'⟩, htext, h⟩ := bind_eq_ok.mp h
    cases h
    obtain ⟨e, cs', rfl, rfl, hspells⟩ := exists_of_readEscape hescape
    have hrest := ih _ htext
    rw [List.drop_left] at hrest
    exact hspells hrest
  | case4 => cases h
  | case5 c cs hquote hslash hcontrol ih =>
    obtain ⟨⟨ds', rest'⟩, htext, h⟩ := bind_eq_ok.mp h
    cases h
    exact .plain hquote hslash (Nat.le_of_not_lt hcontrol) (ih htext)

/-- **A text is read exactly if it stands for something.** -/
theorem readText_eq_ok_iff : readText cs = .ok (ds, rest) ↔ Spells cs ds rest :=
  ⟨spells_of_readText, readText_of_spells⟩

/-- A text stands for one thing only. -/
theorem Spells.unique {ds' rest' : List Char} (h : Spells cs ds rest) (h' : Spells cs ds' rest') :
    ds = ds' ∧ rest = rest' := by
  have hread := (readText_of_spells h).symm.trans (readText_of_spells h')
  exact Prod.mk.inj (Except.ok.inj hread)

theorem skipEscape_short {c d : Char} (hc : shortEscape c = some d) (cs : List Char) :
    skipEscape (c :: cs) = .ok 1 := by
  unfold skipEscape
  split
  · next heq => cases heq
  · next heq =>
    cases heq
    rw [shortEscape_u] at hc
    cases hc
  · next heq =>
    cases heq
    rw [hc]
    rfl

/-- **A text that nobody reads is passed over**, whether or not it stands for something. -/
theorem skipText_of_closes (h : Closes cs rest) : skipText cs = .ok rest := by
  induction h with
  | quote rest => rw [skipText, if_pos rfl]
  | plain hquote hslash hcontrol _ ih =>
    rw [skipText, if_neg hquote, if_neg hslash, if_neg (Nat.not_lt_of_le hcontrol), ih]
  | @escape c d cs rest hc _ ih =>
    rw [skipText, if_neg (by decide), if_pos rfl, skipEscape_short hc]
    exact ih
  | @hex e cs rest n he _ ih =>
    have hskip : skipEscape ('u' :: (e ++ cs)) = .ok 5 := by
      rw [skipEscape, hexEscape_of_isHex he]
      rfl
    have hdrop : ('u' :: (e ++ cs)).drop 5 = cs := by
      rw [List.drop_succ_cons, ← he.length, List.drop_left]
    rw [skipText, if_neg (by decide), if_pos rfl, hskip]
    simp only [bind, Except.bind, hdrop, ih]

end AccountRegistry.Json
