/-
Directories in which one file is written.

* **`Files.entryAt_put_of_ne`** — a file that is written in a directory leaves every other
  place as it is;
* **`Files.RewrittenAt`** — two directories that differ at most in the file at one place;
* **`Files.RewrittenAt.find`** — a path that leads to a file after the writing led to that
  file before, unless it leads to what has been written;
* **`Files.SameEntries.find`** — a path leads to the same entry in two directories in which the
  same stands at every place.
-/
import AccountRegistry.Files
import AccountRegistry.Proofs.Except

namespace AccountRegistry.Files

/-! ### One file -/

theorem entryAt_put (fs : Files) (p : Path) (c : Content) : (fs.put p c).entryAt p = .file c := by
  rw [entryAt, put, List.lookup_cons_self]

theorem lookup_filter_ne {p q : Path} (hq : q ≠ p) (entries : List (Path × Content)) :
    (entries.filter fun e => e.1 != p).lookup q = entries.lookup q := by
  induction entries with
  | nil => rfl
  | cons e entries ih =>
    obtain ⟨k, c⟩ := e
    by_cases hk : k = p
    · have hqk : (q == k) = false := by
        rw [hk, beq_eq_false_iff_ne]
        exact hq
      rw [List.filter_cons_of_neg (by simp [hk]), List.lookup_cons, hqk]
      exact ih
    · rw [List.filter_cons_of_pos (by simp [hk]), List.lookup_cons, List.lookup_cons, ih]

/-- A directory in which `p` may be written has all the directories on the way to it. -/
def HasWayTo (fs : Files) (p : Path) : Prop :=
  ∀ q, q ≠ p → q.isPrefixOf p = true →
    q.isEmpty = true ∨ ∃ x ∈ fs.places, q.isPrefixOf x = true

theorem mem_places_of_entry {fs : Files} {e : Path × Content} (h : e ∈ fs.entries) :
    e.1 ∈ fs.places :=
  List.mem_append_right fs.directories (List.mem_map_of_mem h)

/-- The places that are known once a file has been written. -/
theorem mem_places_put {fs : Files} {p x : Path} {c : Content} :
    x ∈ (fs.put p c).places ↔ x = p ∨ x ∈ fs.places := by
  simp only [places, put, List.map_cons, List.mem_append, List.mem_cons, List.mem_map,
    List.mem_filter, bne_iff_ne]
  constructor
  · rintro (h | h | ⟨e, ⟨he, -⟩, rfl⟩)
    · exact .inr (.inl h)
    · exact .inl h
    · exact .inr (.inr ⟨e, he, rfl⟩)
  · rintro (h | h | ⟨e, he, rfl⟩)
    · exact .inr (.inl h)
    · exact .inl h
    · by_cases hp : e.1 = p
      · exact .inr (.inl hp)
      · exact .inr (.inr ⟨e, ⟨he, hp⟩, rfl⟩)

/-- There is a way to every file. -/
theorem hasWayTo_of_file {fs : Files} {p : Path} {c : Content} (h : fs.entryAt p = .file c) :
    fs.HasWayTo p := by
  intro q _ hprefix
  rw [entryAt] at h
  split at h
  · next c' hlookup =>
    obtain ⟨before, after, hentries, -⟩ := List.lookup_eq_some_iff.mp hlookup
    refine .inr ⟨p, mem_places_of_entry (e := (p, c')) ?_, hprefix⟩
    rw [hentries]
    exact List.mem_append_right before List.mem_cons_self
  · split at h <;> cases h

/-- There is a way to every place in a directory. -/
theorem hasWayTo_of_directory {fs : Files} {p : Path} (h : fs.entryAt p.dropLast = .directory) :
    fs.HasWayTo p := by
  intro q hq hprefix
  -- what leads to `p` and is not `p` leads to its directory
  have hparent : q <+: p.dropLast := by
    obtain ⟨t, rfl⟩ := List.isPrefixOf_iff_prefix.mp hprefix
    have ht : t ≠ [] := by
      rintro rfl
      exact hq (List.append_nil q).symm
    rw [List.dropLast_append_of_ne_nil ht]
    exact List.prefix_append q t.dropLast
  rw [entryAt] at h
  split at h
  · cases h
  · split at h
    · next hsome =>
      obtain hempty | hany := Bool.or_eq_true_iff.mp hsome
      · rw [List.isEmpty_iff.mp hempty] at hparent
        exact .inl (List.isEmpty_iff.mpr (List.prefix_nil.mp hparent))
      · obtain ⟨x, hx, hle⟩ := List.any_eq_true.mp hany
        exact .inr ⟨x, hx, List.isPrefixOf_iff_prefix.mpr
          (hparent.trans (List.isPrefixOf_iff_prefix.mp hle))⟩
    · cases h

/-- **A file that is written leaves every other place as it is.** -/
theorem entryAt_put_of_ne {fs : Files} {p q : Path} (hway : fs.HasWayTo p) (hq : q ≠ p)
    (c : Content) : (fs.put p c).entryAt q = fs.entryAt q := by
  have hlookup : (fs.put p c).entries.lookup q = fs.entries.lookup q := by
    have hqp : (q == p) = false := beq_eq_false_iff_ne.mpr hq
    rw [put, List.lookup_cons, hqp]
    exact lookup_filter_ne hq fs.entries
  have hdirectory : (q.isEmpty || (fs.put p c).places.any fun x => q.isPrefixOf x) =
      (q.isEmpty || fs.places.any fun x => q.isPrefixOf x) := by
    -- what comes to lie on a new path is what leads to `p`, and that was there before
    rw [Bool.eq_iff_iff]
    simp only [Bool.or_eq_true_iff, List.any_eq_true, mem_places_put]
    constructor
    · rintro (h | ⟨x, rfl | hx, hle⟩)
      · exact .inl h
      · exact hway q hq hle
      · exact .inr ⟨x, hx, hle⟩
    · rintro (h | ⟨x, hx, hle⟩)
      · exact .inl h
      · exact .inr ⟨x, .inr hx, hle⟩
  rw [entryAt, entryAt, hlookup, hdirectory]

/-- Whether a path may be the path of a file: it does not end as the path of a directory. -/
def IsFilePath (s : String) : Prop :=
  s.isEmpty = false ∧ (Path.parts s).getLast? ≠ some "" ∧ (Path.parts s).getLast? ≠ some "."

/-- What it takes for a path to lead to a file. -/
theorem find_eq_ok_file_iff {fs : Files} {s : String} {c : Content} :
    fs.find s = .ok (.file c) ↔
      IsFilePath s ∧ ∃ q, fs.follow [] (Path.steps s) = .ok q ∧ fs.entryAt q = .file c := by
  constructor
  · intro h
    rw [find] at h
    split at h
    · cases h
    · next hnonempty =>
      obtain ⟨q, hfollow, h⟩ := bind_eq_ok.mp h
      split at h
      · cases h
      · cases h
      · cases h
      · next hslash hdot =>
        have hfile : fs.entryAt q = .file c := Except.ok.inj h
        exact ⟨⟨Bool.eq_false_iff.mpr hnonempty, fun h => hslash c hfile h,
          fun h => hdot c hfile h⟩, q, hfollow, hfile⟩
  · rintro ⟨⟨hnonempty, hslash, hdot⟩, q, hfollow, hfile⟩
    rw [find, hnonempty, if_neg Bool.false_ne_true, hfollow]
    simp only [bind, Except.bind, hfile]
    split
    · next heq => cases heq
    · next hlast => exact absurd hlast hslash
    · next hlast => exact absurd hlast hdot
    · rfl

/-! ### Directories that differ in one file -/

/-- The files `fs'` are the files `fs`, but at `p` a content may have been written for which
`P` holds. -/
structure RewrittenAt (P : Content → Prop) (p : Path) (fs fs' : Files) : Prop where
  elsewhere : ∀ q, q ≠ p → fs'.entryAt q = fs.entryAt q
  there : fs'.entryAt p = fs.entryAt p ∨ ∃ c, P c ∧ fs'.entryAt p = .file c

namespace RewrittenAt

variable {P : Content → Prop} {p : Path} {fs fs' : Files}

theorem refl (fs : Files) : RewrittenAt P p fs fs :=
  ⟨fun _ _ => rfl, .inl rfl⟩

/-- One more writing. -/
theorem put (h : RewrittenAt P p fs fs') (hway : fs'.HasWayTo p) {c : Content} (hc : P c) :
    RewrittenAt P p fs (fs'.put p c) := by
  refine ⟨fun q hq => ?_, .inr ⟨c, hc, entryAt_put fs' p c⟩⟩
  rw [entryAt_put_of_ne hway hq, h.elsewhere q hq]

/-- Directories are where they were. -/
theorem entryAt_of_directory (h : RewrittenAt P p fs fs') {q : Path}
    (hq : fs'.entryAt q = .directory) : fs.entryAt q = .directory := by
  by_cases hp : q = p
  · subst hp
    obtain hsame | ⟨c, -, hfile⟩ := h.there
    · rw [← hsame, hq]
    · rw [hfile] at hq
      cases hq
  · rw [← h.elsewhere q hp, hq]

/-- Steps lead where they led. -/
theorem follow (h : RewrittenAt P p fs fs') {dir q : Path} {steps : List String}
    (hq : fs'.follow dir steps = .ok q) : fs.follow dir steps = .ok q := by
  -- only directories are passed on the way, and what has been written is none
  induction steps generalizing dir with
  | nil => exact hq
  | cons x steps ih =>
    unfold Files.follow at hq ⊢
    cases hdir : fs'.entryAt dir with
    | missing =>
      rw [hdir] at hq
      cases hq
    | file c =>
      rw [hdir] at hq
      cases hq
    | directory =>
      rw [hdir] at hq
      rw [h.entryAt_of_directory hdir]
      exact ih hq

/-- **A path that leads to a file led to it before**, unless the file has been written. -/
theorem find (h : RewrittenAt P p fs fs') {s : String} {c : Content}
    (hs : fs'.find s = .ok (.file c)) : fs.find s = .ok (.file c) ∨ P c := by
  obtain ⟨hs, q, hfollow, hfile⟩ := find_eq_ok_file_iff.mp hs
  -- the place is the same as before; what stands there is, unless it is `p`
  have hsame (hq : fs'.entryAt q = fs.entryAt q) : fs.find s = .ok (.file c) :=
    find_eq_ok_file_iff.mpr ⟨hs, q, h.follow hfollow, hq ▸ hfile⟩
  by_cases hp : q = p
  · subst hp
    obtain hq | ⟨c', hc', hwritten⟩ := h.there
    · exact .inl (hsame hq)
    · obtain rfl := Entry.file.inj (hwritten.symm.trans hfile)
      exact .inr hc'
  · exact .inl (hsame (h.elsewhere q hp))

end RewrittenAt

/-! ### Directories with the same entries -/

/-- The same stands at every place of both directories. -/
def SameEntries (fs fs' : Files) : Prop :=
  ∀ p, fs'.entryAt p = fs.entryAt p

namespace SameEntries

variable {fs fs' : Files} (h : SameEntries fs fs')
include h

/-- Steps lead to the same place, or fail alike. -/
theorem follow (dir : Path) (steps : List String) :
    fs'.follow dir steps = fs.follow dir steps := by
  induction steps generalizing dir with
  | nil => rfl
  | cons x steps ih =>
    unfold Files.follow
    rw [h dir]
    simp only [ih]

/-- A path leads to the same entry. -/
theorem find (s : String) : fs'.find s = fs.find s := by
  rw [Files.find, Files.find, h.follow]
  simp only [h _]

end SameEntries

end AccountRegistry.Files
