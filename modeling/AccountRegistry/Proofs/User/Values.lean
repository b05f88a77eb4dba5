/-
Records read from texts and from the values that the texts denote.

* **`Json.members_perm_written`** — the members of an object are those that are written, if no
  name is written twice;
* **`Record.draftOfMembers_eq_ok_iff`**, **`Record.readRecordItems_iff`** — what a record takes
  from the members and from the items of a value is what it takes from the text;
* **`Record.parse_eq_ok_iff_ofJson`** — a text is read as the record that its value denotes;
* **`texts_and_values_agree`** — so it is for users and for profiles.

Design notes: the two ways tell different faults, and of two members of one name a value keeps
only one, so that they can be compared only where they succeed and for texts without such members.
-/
import AccountRegistry.Proofs.Json.Soundness
import AccountRegistry.Proofs.User.Profile
import Mathlib.Data.List.Nodup

namespace AccountRegistry

open Json

/-! ### The members of a value -/

namespace Json

variable {ms written : Members} {name : String} {v : Value}

theorem perm_insertNew (h : name ∉ ms.map Prod.fst) :
    (ms.insertNew name v).Perm ((name, v) :: ms) := by
  induction ms with
  | nil => exact .refl _
  | cons m ms ih =>
    obtain ⟨k, w⟩ := m
    rw [List.map_cons, List.mem_cons, not_or] at h
    rw [Members.insertNew, if_neg (Ne.symm h.1)]
    split
    · exact .refl _
    · exact ((ih h.2).cons _).trans (.swap _ _ _)

/-- **The members of an object are those that are written**, if no name is written twice. -/
theorem members_perm_written (h : Value.object ms = .ofMembers written)
    (hnodup : (written.map Prod.fst).Nodup) : ms.Perm written := by
  induction written generalizing ms with
  | nil => exact .of_eq (Value.object.inj h)
  | cons m written ih =>
    obtain ⟨hnew, hnodup⟩ := List.nodup_cons.mp hnodup
    obtain rfl := Value.object.inj h
    have hrest := @ih _ rfl hnodup
    refine (perm_insertNew ?_).trans (hrest.cons m)
    rwa [(hrest.map Prod.fst).mem_iff]

/-- What is held in a member of a name is there only once, and in any order. -/
theorem Contents.at_eq_of_perm {ms ms' : Contents} (h : ms.Perm ms')
    (hnodup : (ms.map Prod.fst).Nodup) (name : String) : ms.at name = ms'.at name := by
  have hperm : (ms.at name).Perm (ms'.at name) := (h.filter _).map _
  have hlength : (ms.at name).length ≤ 1 := by
    rw [Contents.at, List.length_map, ← List.countP_eq_length_filter]
    have hcount := List.nodup_iff_count_le_one.mp hnodup name
    rwa [List.count, List.countP_map] at hcount
  cases hat : ms.at name with
  | nil => exact (List.nil_perm.mp (hat ▸ hperm)).symm
  | cons content rest =>
    rw [hat, List.length_cons] at hlength
    obtain rfl : rest = [] := List.eq_nil_of_length_eq_zero (by omega)
    exact List.singleton_perm.mp (hat ▸ hperm)

end Json

/-! ### Members -/

namespace Record

variable {fields : List Field} {draft d : Draft} {ms : Members} {f : Field} {v : Value}

theorem fieldOfJson_eq_ok_iff {x : f.Value} :
    fieldOfJson f v = .ok x ↔ ∃ t, v.text? = some t ∧ f.decode t = .ok x := by
  cases v with
  | text t =>
    refine mapError_eq_ok.trans ⟨fun h => ⟨t, rfl, h⟩, ?_⟩
    rintro ⟨t', ht, h⟩
    cases ht
    exact h
  | _ => exact ⟨nofun, fun ⟨_, ht, _⟩ => nomatch ht⟩

/-- **What a record takes from the members of a value.** -/
theorem draftOfMembers_eq_ok_iff :
    draftOfMembers fields draft ms = .ok d ↔ Gathers fields draft ms.contents d := by
  induction ms generalizing draft with
  | nil =>
    rw [draftOfMembers, Members.contents, List.map_nil, gathers_nil, Except.ok.injEq, eq_comm]
  | cons m ms ih =>
    obtain ⟨name, v⟩ := m
    rw [draftOfMembers, Members.contents, List.map_cons, ← Members.contents]
    split
    · next f hf =>
      rw [gathers_column hf]
      split
      · next hset =>
        rw [Option.isSome_iff_ne_none] at hset
        refine iff_of_false (fun h => ?_) fun h => hset h.1
        cases h
      · next hset =>
        have hnew : draft f = none := by simpa using hset
        constructor
        · intro h
          obtain ⟨x, hx, h⟩ := bind_eq_ok.mp h
          obtain ⟨t, ht, hdecode⟩ := fieldOfJson_eq_ok_iff.mp hx
          exact ⟨hnew, t, x, ht, hdecode, ih.mp h⟩
        · rintro ⟨-, t, x, ht, hdecode, h⟩
          exact bind_eq_ok.mpr ⟨x, fieldOfJson_eq_ok_iff.mpr ⟨t, ht, hdecode⟩, ih.mpr h⟩
    · next hf => rw [gathers_other hf, ih]

/-! ### Items -/

theorem readField_skipSpace (f : Field) (cs : List Char) :
    readField f (skipSpace cs) = readField f cs := by
  rw [readField, readField, skipSpace_skipSpace]

/-- A column takes from a text what it takes from the value that has been read there. -/
theorem readField_iff_of_readValue {n depth : Nat} {cs rest rest' : List Char} {x : f.Value}
    (h : readValue n depth cs = .ok (v, rest)) (hrest : EndsNumeral rest) :
    readField f cs = .ok (x, rest') ↔ rest' = rest ∧ fieldOfJson f v = .ok x := by
  rw [readField_of_holds ((sound n).value h hrest), fieldOfJson_eq_ok_iff]

theorem nextItem_of_starts {first : Bool} {cs cs₁ rest : List Char} (h : Starts first cs cs₁)
    (hvalue : Derives .value cs₁ rest) : nextItem first cs = .ok (true, skipSpace cs₁) := by
  obtain ⟨c, cs', hcs, hc⟩ := hvalue.value_head rfl
  cases h with
  | first =>
    unfold nextItem
    rw [hcs]
    split
    · next heq => cases heq
    · next heq => cases heq; exact absurd rfl hc
    · next heq => cases heq; rfl
    · rfl
  | comma h =>
    unfold nextItem
    rw [h]
    simp only [Bool.false_eq_true, if_false, hcs]
    split
    · next heq => cases heq
    · next heq => cases heq; exact absurd rfl hc
    · rfl

theorem not_close_of_starts {first : Bool} {cs cs₁ rest rest' : List Char}
    (h : Starts first cs cs₁) (hvalue : Derives .value cs₁ rest) : skipSpace cs ≠ ']' :: rest' := by
  intro hclose
  cases h with
  | first =>
    obtain ⟨c, cs', hcs, hc⟩ := hvalue.value_head rfl
    exact hc (List.cons.inj (hcs.symm.trans hclose)).1
  | comma h => cases h.symm.trans hclose

theorem endList_eq_ok_iff {cs rest : List Char} :
    endList cs = .ok rest ↔ skipSpace cs = ']' :: rest := by
  unfold endList
  split
  · next heq => rw [heq]; exact iff_of_false nofun nofun
  · next heq => rw [heq]; simp
  · next heq =>
    rw [heq]
    split <;> exact iff_of_false nofun nofun
  · next hclose _ => exact iff_of_false nofun (hclose _)

theorem exists_succ_of_readItems {n depth : Nat} {first : Bool} {cs rest : List Char}
    {vs : List Value} (h : readItems n depth first cs = .ok (vs, rest)) : ∃ k, n = k + 1 := by
  cases n with
  | zero => rw [readItems] at h; cases h
  | succ n => exact ⟨n, rfl⟩

/-- A list of items ends at once exactly if there are none. -/
theorem endList_iff_of_readItems {n depth : Nat} {first : Bool} {cs rest rest' : List Char}
    {vs : List Value} (h : readItems n depth first cs = .ok (vs, rest)) :
    endList cs = .ok rest' ↔ vs = [] ∧ rest' = rest := by
  obtain ⟨n, rfl⟩ := exists_succ_of_readItems h
  rw [endList_eq_ok_iff]
  cases readsItems_of_readItems h with
  | nil hclose => rw [hclose]; simp [eq_comm]
  | cons hstarts hvalue hitems =>
    refine iff_of_false (fun hclose => ?_) fun hnil => List.cons_ne_nil _ _ hnil.1
    have hholds := (sound n).value hvalue (endsNumeral_of_readItems hitems)
    exact not_close_of_starts hstarts hholds.derives hclose

/-- **What a record takes from the items of a list**, up to the end of the list. -/
theorem readRecordItems_iff {name : String} {columns length n depth : Nat} {fs : List Field}
    {cs rest rest' : List Char} {vs : List Value}
    (h : readItems n depth (length == 0) cs = .ok (vs, rest)) :
    (∃ cs', readRecordItems name columns fs length draft cs = .ok (d, cs') ∧
      endList cs' = .ok rest') ↔
      draftOfItems name columns fs length draft vs = .ok (d, []) ∧ rest' = rest := by
  -- column by column; once there is none left, the list must end as well
  induction fs generalizing n length draft cs vs with
  | nil =>
    rw [readRecordItems, draftOfItems]
    constructor
    · rintro ⟨cs', hcs, hclose⟩
      cases hcs
      obtain ⟨rfl, rfl⟩ := (endList_iff_of_readItems h).mp hclose
      exact ⟨rfl, rfl⟩
    · rintro ⟨hvs, hrest⟩
      cases hvs
      exact ⟨cs, rfl, (endList_iff_of_readItems h).mpr ⟨rfl, hrest⟩⟩
  | cons f fs ih =>
    obtain ⟨n, rfl⟩ := exists_succ_of_readItems h
    cases readsItems_of_readItems h with
    | nil hclose =>
      have hnext : nextItem (length == 0) cs = .ok (false, ']' :: rest) := by
        rw [nextItem, hclose]
        rfl
      rw [readRecordItems, hnext]
      constructor
      · rintro ⟨cs', hcs, -⟩
        cases hcs
      · rintro ⟨hd, -⟩
        cases hd
    | @cons cs₁ cs₂ v vs hstarts hvalue hitems =>
      have hrest := endsNumeral_of_readItems hitems
      have hcolumn {x : f.Value} {cs' : List Char} :
          readField f cs₁ = .ok (x, cs') ↔ cs' = cs₂ ∧ fieldOfJson f v = .ok x :=
        readField_iff_of_readValue hvalue hrest
      have hstep : readRecordItems name columns (f :: fs) length draft cs = readField f cs₁ >>=
          fun p => readRecordItems name columns fs (length + 1) (draft.set f p.1) p.2 := by
        rw [readRecordItems, nextItem_of_starts hstarts ((sound n).value hvalue hrest).derives,
          ← readField_skipSpace f cs₁]
        rfl
      rw [hstep]
      constructor
      · rintro ⟨cs', hcs, hclose⟩
        obtain ⟨⟨x, cs₃⟩, hx, hcs⟩ := bind_eq_ok.mp hcs
        obtain ⟨rfl, hx⟩ := hcolumn.mp hx
        obtain ⟨hd, rfl⟩ := (ih hitems).mp ⟨cs', hcs, hclose⟩
        exact ⟨bind_eq_ok.mpr ⟨x, hx, hd⟩, rfl⟩
      · rintro ⟨hd, rfl⟩
        obtain ⟨x, hx, hd⟩ := bind_eq_ok.mp hd
        obtain ⟨cs', hcs, hclose⟩ := (ih hitems).mpr ⟨hd, rfl⟩
        exact ⟨cs', bind_eq_ok.mpr ⟨(x, cs₂), hcolumn.mpr ⟨rfl, hx⟩, hcs⟩, hclose⟩

/-! ### Records -/

section Records

variable {α : Type} {r : Record α} {s : String} {x : α} {cs rest : List Char}

/-- What a record is read as from a list. -/
theorem parse_list_iff {n depth : Nat} {vs : List Value} (hopen : skipSpace s.toList = '[' :: cs)
    (hitems : readItems n depth Bool.true cs = .ok (vs, rest)) (hend : endText rest = .ok ()) :
    r.parse s = .ok x ↔ r.ofJson (.list vs) = .ok x := by
  have hiff (d : Draft) (rest' : List Char) :
      (∃ cs', readRecordItems r.name r.fields.length r.fields 0 .empty cs = .ok (d, cs') ∧
        endList cs' = .ok rest') ↔
        draftOfItems r.name r.fields.length r.fields 0 .empty vs = .ok (d, []) ∧ rest' = rest :=
    readRecordItems_iff hitems
  constructor
  · intro h
    obtain ⟨⟨y, rest'⟩, hread, h⟩ := bind_eq_ok.mp h
    obtain ⟨_, -, h⟩ := bind_eq_ok.mp h
    cases h
    rw [read, hopen] at hread
    obtain ⟨⟨d, cs'⟩, hdraft, h⟩ := bind_eq_ok.mp hread
    obtain ⟨y, hfinish, h⟩ := bind_eq_ok.mp h
    obtain ⟨rest', hclose, h⟩ := bind_eq_ok.mp h
    cases h
    obtain ⟨hd, -⟩ := (hiff d rest').mp ⟨cs', hdraft, mapError_eq_ok.mp hclose⟩
    rw [ofJson]
    simp only [hd, bind, Except.bind, onData_eq_ok.mp hfinish]
    rfl
  · intro h
    rw [ofJson] at h
    obtain ⟨⟨d, left⟩, hd, h⟩ := bind_eq_ok.mp h
    have hrest : (r.finish d >>= fun u =>
        if left.isEmpty then .ok u else .error (.tooLong vs.length)) = .ok x := h
    obtain ⟨y, hfinish, hleft⟩ := bind_eq_ok.mp hrest
    split at hleft
    · next hempty =>
      obtain rfl := List.isEmpty_iff.mp hempty
      cases hleft
      obtain ⟨cs', hdraft, hclose⟩ := (hiff d rest).mpr ⟨hd, rfl⟩
      rw [parse, read, hopen]
      simp only [hdraft, bind, Except.bind, onData_eq_ok.mpr hfinish, hclose, onText_ok, hend]
    · cases hleft

/-- What a record is read as from an object in which no name is written twice. -/
theorem parse_object_iff_ofJson {written ms : Members} (h : IsObject s written.contents)
    (hms : Value.object ms = .ofMembers written) (hnodup : (written.map Prod.fst).Nodup) :
    r.parse s = .ok x ↔ r.ofJson (.object ms) = .ok x := by
  have hnames : (ms.contents.map Prod.fst).Nodup := by
    rw [Members.contents, List.map_map]
    exact ((members_perm_written hms hnodup).map Prod.fst).nodup_iff.mpr hnodup
  have hperm : ms.contents.Perm written.contents := (members_perm_written hms hnodup).map _
  have hgathers (d : Draft) : Gathers r.fields .empty written.contents d ↔
      draftOfMembers r.fields .empty ms = .ok d := by
    rw [draftOfMembers_eq_ok_iff, gathers_iff, gathers_iff]
    simp only [Contents.at_eq_of_perm hperm hnames]
  rw [parse_object_iff h, ofJson]
  constructor
  · rintro ⟨d, hd, hbuild⟩
    exact bind_eq_ok.mpr ⟨d, (hgathers d).mp hd, mapError_eq_ok.mpr hbuild⟩
  · intro h
    obtain ⟨d, hd, hfinish⟩ := bind_eq_ok.mp h
    exact ⟨d, (hgathers d).mpr hd, mapError_eq_ok.mp hfinish⟩

/-- Nothing else is read as a record. -/
theorem parse_ne_ok (hlist : ∀ cs, skipSpace s.toList ≠ '[' :: cs)
    (hobject : ∀ cs, skipSpace s.toList ≠ '{' :: cs) : r.parse s ≠ .ok x := by
  intro h
  obtain ⟨⟨y, rest⟩, hread, -⟩ := bind_eq_ok.mp h
  rw [read] at hread
  split at hread
  · next heq => exact hlist _ heq
  · next heq => exact hobject _ heq
  · exact refuse_ne_ok hread

/-- **A text is read as the record that its value denotes**, if no name is written twice in it. -/
theorem parse_eq_ok_iff_ofJson (hv : Json.parse s = .ok v)
    (hnames : ∀ ms, IsObject s ms → (ms.map Prod.fst).Nodup) :
    r.parse s = .ok x ↔ r.ofJson v = .ok x := by
  obtain ⟨⟨v, rest⟩, hread, hv⟩ := bind_eq_ok.mp hv
  obtain ⟨_, hend, hv⟩ := bind_eq_ok.mp hv
  cases hv
  have hother {c : Char} {cs : List Char} (h : skipSpace s.toList = c :: cs)
      (hlist : c ≠ '[') (hobject : c ≠ '{') (hv : r.ofJson v ≠ .ok x) :
      r.parse s = .ok x ↔ r.ofJson v = .ok x := by
    refine iff_of_false (parse_ne_ok (fun cs' h' => ?_) fun cs' h' => ?_) hv
    · exact hlist (List.cons.inj (h.symm.trans h')).1
    · exact hobject (List.cons.inj (h.symm.trans h')).1
  cases readsValue_of_readValue hread with
  | null h | true h | false h | text h _ => exact hother h (by decide) (by decide) nofun
  | number hn h =>
    obtain ⟨c, ds, rfl, -, hlist, hobject⟩ := hn.exists_cons
    exact hother h hlist hobject nofun
  | list h hitems => exact parse_list_iff h hitems hend
  | object h hmembers =>
    obtain ⟨written, hlisting, hms⟩ := (sound _).members hmembers
    have hisObject : IsObject s written.contents := by
      refine ⟨_, rest, h, hlisting, ?_⟩
      unfold endText at hend
      split at hend
      · next hspace => exact List.isEmpty_iff.mp hspace
      · cases hend
    refine parse_object_iff_ofJson hisObject hms ?_
    have hnodup := hnames _ hisObject
    rwa [Members.contents, List.map_map] at hnodup

end Records

end Record

/-- **Texts and values are read alike**, as users and as profiles: a text that denotes a value is
read as the very record that the value is, whatever the order of its members, whatever there is
besides the columns, and also if it is a list.  Only a name that is written twice in an object makes
a difference, since the value keeps one of the two members. -/
theorem texts_and_values_agree {s : String} {v : Value} (hv : Json.parse s = .ok v)
    (hnames : ∀ ms, IsObject s ms → (ms.map Prod.fst).Nodup) :
    (∀ u, User.record.parse s = .ok u ↔ User.record.ofJson v = .ok u) ∧
    ∀ p, Profile.record.parse s = .ok p ↔ Profile.record.ofJson v = .ok p :=
  ⟨fun _ => Record.parse_eq_ok_iff_ofJson hv hnames,
    fun _ => Record.parse_eq_ok_iff_ofJson hv hnames⟩

/-- The object `User.shuffled` is read as a profile from its text, and so from its value. -/
theorem shuffled_read_alike :
    let s := (Value.object (User.shuffled.map fun m => (m.1, .text m.2))).compact
    ∃ v, Json.parse s = .ok v ∧ (∀ ms, IsObject s ms → (ms.map Prod.fst).Nodup) ∧
      Profile.record.ofJson v = .ok Profile.shuffled := by
  intro s
  have hparse : (Json.parse s).toOption.isSome = true := by decide +kernel
  have hnames : ∀ ms, IsObject s ms → (ms.map Prod.fst).Nodup := by
    intro ms hms
    rw [hms.unique (isObject_compact User.shuffled)]
    decide
  cases hv : Json.parse s with
  | error e =>
    rw [hv] at hparse
    cases hparse
  | ok v =>
    obtain ⟨-, hprofile⟩ := texts_and_values_agree hv hnames
    exact ⟨v, rfl, hnames, (hprofile _).mp Profile.parse_shuffled⟩

end AccountRegistry
