/-
Texts without percent signs are their own percent-encoded form.

* **`Text.Percent.decode_of_plain`** — such a text denotes itself;
* **`Text.Percent.eq_of_formPair`** — a part of a query without percent signs spells out the
  name and the value that it is read as.
-/
import AccountRegistry.Proofs.Text.Search
import AccountRegistry.Proofs.Text.Utf8
import AccountRegistry.Text.Percent

namespace AccountRegistry.Text.Percent

theorem decodeBytes_of_plain {bs : List UInt8} (h : 37 ∉ bs) : decodeBytes bs = bs := by
  induction bs with
  | nil => rw [decodeBytes]
  | cons b bs ih =>
    obtain ⟨hb, hbs⟩ := not_or.mp (mt List.mem_cons.mpr h)
    rw [decodeBytes, ih hbs]
    rintro _ _ _ rfl
    exact absurd rfl hb

theorem decodeBytes_encode {cs : List Char} (h : '%' ∉ cs) :
    decodeBytes (Utf8.encode cs) = Utf8.encode cs :=
  decodeBytes_of_plain fun hmem => h ((Utf8.mem_encode_iff (c := '%') (by decide)).mp hmem)

/-- **A text without percent signs denotes itself.** -/
theorem decode_of_plain {cs : List Char} (h : '%' ∉ cs) : decode cs = .ok (.ofList cs) := by
  rw [decode, decodeBytes_encode h, Utf8.decode_encode]
  rfl

theorem formText_of_plain {cs : List Char} (h : '%' ∉ cs) :
    formText cs = .ofList (cs.map fun c => if c = '+' then ' ' else c) := by
  have hspaced : '%' ∉ cs.map fun c => if c = '+' then ' ' else c := by
    intro hmem
    obtain ⟨c, hc, heq⟩ := List.mem_map.mp hmem
    split at heq
    · cases heq
    · exact h (heq ▸ hc)
  simp only [formText, decodeBytes_encode hspaced, Utf8.decodeLossy_encode]

/-- A text without percent signs is read as a word without spaces only if it is that word. -/
theorem eq_of_formText {cs : List Char} {word : String} (h : '%' ∉ cs) (hword : ' ' ∉ word.toList)
    (heq : formText cs = word) : cs = word.toList := by
  rw [formText_of_plain h] at heq
  subst heq
  rw [String.toList_ofList] at hword ⊢
  -- no plus sign has been replaced, because no space has come of it
  refine (((List.map_congr_left fun c hc => ?_).trans (List.map_id cs)).symm)
  by_cases hplus : c = '+'
  · have hspace : ' ' ∈ cs.map fun c => if c = '+' then ' ' else c :=
      List.mem_map.mpr ⟨c, hc, if_pos hplus⟩
    exact absurd hspace hword
  · rw [if_neg hplus, id]

/-- **A part of a query without percent signs** is read as a name and a value that are not
empty and have no spaces only if it spells them out. -/
theorem eq_of_formPair {cs : List Char} {name value : String} (h : '%' ∉ cs)
    (hname : ' ' ∉ name.toList) (hvalue : ' ' ∉ value.toList) (hne : value ≠ "")
    (heq : formPair cs = (name, value)) : cs = name.toList ++ '=' :: value.toList := by
  rw [formPair] at heq
  split at heq
  · next a b hsplit =>
    obtain ⟨ha, hb⟩ := Prod.mk.inj heq
    have hcs := eq_of_splitOnce hsplit
    have hplain : '%' ∉ a ∧ '%' ∉ b := by
      rw [hcs] at h
      simp only [List.mem_append, List.mem_cons, not_or] at h
      exact ⟨h.1, h.2.2⟩
    rw [hcs, eq_of_formText hplain.1 hname ha, eq_of_formText hplain.2 hvalue hb]
  · exact absurd (Prod.mk.inj heq).2.symm hne

end AccountRegistry.Text.Percent
