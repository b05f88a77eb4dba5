/-
Objects of texts in JSON: the members of a record as they are written and read.

* **`Layout`** — where an object has spaces; the text on one line and the text over several
  lines are the same text in two layouts (`Layout.compact_columns`, `Layout.pretty_columns`);
* **`readRecordMembers_columns`**, **`draftOfMembers_columns`** — the members of a record are
  read one after the other, in whatever layout and order they were written;
* **`Layout.columns_injective`** — they tell the values of the columns;
* **`exists_ofMembers`** — members in the order of their names are the same members.
-/
import AccountRegistry.Proofs.Json.Text
import AccountRegistry.Proofs.User.Draft
import AccountRegistry.User.Json

namespace AccountRegistry

open Json

/-! ### Layouts -/

/-- Where an object of texts has spaces. -/
structure Layout where
  /-- In front of each member. -/
  line : List Char
  /-- Behind each colon. -/
  gap : List Char
  /-- In front of the closing brace. -/
  last : List Char
  isSpace_line : line.all isSpace = true := by decide
  isSpace_gap : gap.all isSpace = true := by decide
  isSpace_last : last.all isSpace = true := by decide

/-- The members of the object that has the values of some columns. -/
def columnMembers (get : (f : Field) → f.Value) (fs : List Field) : Members :=
  fs.map fun f => (f.name, .text (f.encode (get f)))

namespace Layout

/-- No spaces at all. -/
def compact : Layout where
  line := []
  gap := []
  last := []

/-- One member a line. -/
def pretty : Layout where
  line := newline 1
  gap := [' ']
  last := newline 0

variable (l : Layout) (get : (f : Field) → f.Value)

/-- The members of some columns and the end of the object. A comma stands in front of each
member but the `first`. -/
def columns (first : Bool) : List Field → List Char
  | [] => l.last ++ ['}']
  | f :: fs =>
    (if first then [] else [',']) ++ (l.line ++ (quote f.name ++
      ':' :: (l.gap ++ (quote (f.encode (get f)) ++ columns false fs))))

theorem compactMembers_columns (fs : List Field) :
    compactMembers (columnMembers get fs) = compact.columns get false fs := by
  induction fs with
  | nil => rfl
  | cons f fs ih =>
    show compactMembers ((f.name, .text (f.encode (get f))) :: columnMembers get fs) = _
    rw [compactMembers, compactValue, ih]
    simp [columns, compact]

theorem prettyMembers_columns (fs : List Field) :
    prettyMembers 0 (columnMembers get fs) = pretty.columns get false fs := by
  induction fs with
  | nil => rfl
  | cons f fs ih =>
    show prettyMembers 0 ((f.name, .text (f.encode (get f))) :: columnMembers get fs) = _
    rw [prettyMembers, prettyValue, ih]
    simp [columns, pretty]

theorem compact_columns (f : Field) (fs : List Field) :
    (Value.object (columnMembers get (f :: fs))).compact =
      .ofList ('{' :: compact.columns get true (f :: fs)) := by
  show String.ofList (compactValue (.object ((f.name, _) :: columnMembers get fs))) = _
  rw [compactValue, compactValue, compactMembers_columns]
  simp [columns, compact]

theorem pretty_columns (f : Field) (fs : List Field) :
    (Value.object (columnMembers get (f :: fs))).pretty =
      .ofList ('{' :: pretty.columns get true (f :: fs)) := by
  show String.ofList (prettyValue 0 (.object ((f.name, _) :: columnMembers get fs))) = _
  rw [prettyValue, prettyValue, prettyMembers_columns]
  simp [columns, pretty]

theorem length_le_columns (first : Bool) (fs : List Field) :
    fs.length ≤ (l.columns get first fs).length := by
  induction fs generalizing first with
  | nil => exact Nat.zero_le _
  | cons f fs ih =>
    have hrest := ih false
    simp only [columns, List.length_append, List.length_cons]
    omega

end Layout

/-! ### Members that are read -/

section Reading

variable {l : Layout} {get : (f : Field) → f.Value}

theorem onText_ok {α : Type} (a : α) : onText (.ok a) = .ok a := rfl

theorem onData_mapError_ok {ε α : Type} (f : ε → RecordFault) (a : α) :
    onData ((Except.ok a).mapError f) = .ok a := rfl

/-- What the reader finds in front of a member is passed over up to its name. -/
theorem nextMember_columns (first : Bool) (f : Field) (fs : List Field) :
    nextMember first (l.columns get first (f :: fs)) =
      .ok (true, f.name.toList.flatMap escapeChar ++ '"' ::
        ':' :: (l.gap ++ (quote (f.encode (get f)) ++ l.columns get false fs))) := by
  rw [Layout.columns, quote_append]
  cases first with
  | true =>
    rw [if_pos rfl, List.nil_append, nextMember, skipSpace_append l.isSpace_line (by decide)]
    rfl
  | false =>
    rw [if_neg Bool.false_ne_true, List.singleton_append, nextMember, skipSpace_cons (by decide)]
    simp only [Bool.false_eq_true, if_false, skipSpace_append l.isSpace_line (c := '"') (by decide)]

theorem nextMember_end (first : Bool) :
    nextMember first (l.columns get first []) = .ok (false, ['}']) := by
  rw [Layout.columns, nextMember, skipSpace_append l.isSpace_last (by decide)]
  rfl

/-- The text of a value is read as the value, behind spaces. -/
theorem readField_quote {gap : List Char} (hgap : gap.all isSpace = true) {f : Field}
    {v : f.Value} (h : f.Accepts v) (rest : List Char) :
    readField f (gap ++ (quote (f.encode v) ++ rest)) = .ok (v, rest) := by
  rw [quote_append, readField, skipSpace_append hgap (by decide)]
  simp only [readText_quoted, onText_ok, bind, Except.bind, String.ofList_toList,
    Field.decode_encode h, onData_mapError_ok]

theorem Record.fieldOfJson_encode {f : Field} {v : f.Value} (h : f.Accepts v) :
    Record.fieldOfJson f (.text (f.encode v)) = .ok v := by
  rw [fieldOfJson, Field.decode_encode h]
  rfl

theorem readColon_colon (rest : List Char) : readColon (':' :: rest) = .ok rest := rfl

theorem named_name {fields : List Field} {f : Field} (h : f ∈ fields) :
    Field.named? fields f.name = some f := by
  induction fields with
  | nil => cases h
  | cons g fields ih =>
    by_cases hg : g.name = f.name
    · have hfirst : Field.named? (g :: fields) f.name = some g :=
        List.find?_cons_of_pos (beq_iff_eq.mpr hg)
      rw [hfirst, Field.name_injective hg]
    · have hmem : f ∈ fields := (List.mem_cons.mp h).resolve_left fun heq => hg (heq ▸ rfl)
      have hrest : Field.named? (g :: fields) f.name = Field.named? fields f.name :=
        List.find?_cons_of_neg (by rwa [beq_iff_eq])
      rw [hrest, ih hmem]

/-- The draft of a record with the columns `fields` has yet to get the values of `fs`. -/
structure Draft.Awaits (fields : List Field) (get : (f : Field) → f.Value) (draft : Draft)
    (fs : List Field) : Prop where
  mem : ∀ f ∈ fs, f ∈ fields
  accepts : ∀ f ∈ fs, f.Accepts (get f)
  nodup : fs.Nodup
  unset : ∀ f ∈ fs, draft f = none

theorem Draft.Awaits.step {fields fs : List Field} {draft : Draft} {f : Field}
    (h : draft.Awaits fields get (f :: fs)) : (draft.set f (get f)).Awaits fields get fs := by
  obtain ⟨hf, hnodup⟩ := List.nodup_cons.mp h.nodup
  refine ⟨fun g hg => h.mem g (List.mem_cons_of_mem f hg),
    fun g hg => h.accepts g (List.mem_cons_of_mem f hg), hnodup, fun g hg => ?_⟩
  have hne : f ≠ g := fun heq => hf (heq ▸ hg)
  rw [Draft.set, dif_neg hne]
  exact h.unset g (List.mem_cons_of_mem f hg)

/-- **The members of a record are read one after the other.** -/
theorem readRecordMembers_columns {fields fs : List Field} {draft : Draft}
    (h : draft.Awaits fields get fs) {n : Nat} (hn : fs.length < n) (first : Bool) :
    readRecordMembers fields n first draft (l.columns get first fs) =
      .ok (draft.holding get fs, ['}']) := by
  induction fs generalizing draft n first with
  | nil =>
    obtain ⟨n, rfl⟩ := Nat.exists_eq_add_one_of_ne_zero (Nat.ne_of_gt hn)
    rw [readRecordMembers, nextMember_end, Draft.holding_nil]
    rfl
  | cons f fs ih =>
    obtain ⟨n, rfl⟩ := Nat.exists_eq_add_one_of_ne_zero (Nat.ne_of_gt (Nat.zero_lt_of_lt hn))
    have hrest := ih h.step (Nat.lt_of_succ_lt_succ hn) false
    have hvalue := readField_quote l.isSpace_gap (h.accepts f List.mem_cons_self)
      (l.columns get false fs)
    -- the name is that of an open column, so that its value goes into the draft
    rw [readRecordMembers, nextMember_columns]
    simp only [onText_ok, bind, Except.bind, if_true, readText_quoted, String.ofList_toList,
      named_name (h.mem f List.mem_cons_self), h.unset f List.mem_cons_self, Option.isSome_none,
      Bool.false_eq_true, if_false, readColon_colon, hvalue, hrest, Draft.holding_set]

/-- The members of an object are taken one after the other. -/
theorem draftOfMembers_columns {fields fs : List Field} {draft : Draft}
    (h : draft.Awaits fields get fs) :
    Record.draftOfMembers fields draft (columnMembers get fs) = .ok (draft.holding get fs) := by
  induction fs generalizing draft with
  | nil =>
    rw [Draft.holding_nil]
    rfl
  | cons f fs ih =>
    have hrest := ih h.step
    have hvalue := Record.fieldOfJson_encode (h.accepts f List.mem_cons_self)
    rw [columnMembers, List.map_cons, Record.draftOfMembers]
    simp only [named_name (h.mem f List.mem_cons_self), h.unset f List.mem_cons_self,
      Option.isSome_none, Bool.false_eq_true, if_false, hvalue, bind, Except.bind]
    rw [← columnMembers, hrest, Draft.holding_set]

end Reading

/-! ### Members in the order of their names -/

/-- A new member is put in between the others. -/
theorem exists_insertNew {f : Field} {fs : List Field} (hf : f ∉ fs) :
    ∃ gs : List Field, gs.Perm (f :: fs) ∧ ∀ get : (f : Field) → f.Value,
      Members.insertNew f.name (.text (f.encode (get f))) (columnMembers get fs) =
        columnMembers get gs := by
  induction fs with
  | nil => exact ⟨[f], .refl _, fun get => rfl⟩
  | cons g fs ih =>
    have hne : ¬g.name = f.name := fun h => hf (Field.name_injective h ▸ List.mem_cons_self)
    -- the new member goes in front of a greater name, or else further on
    by_cases hlt : f.name < g.name
    · refine ⟨f :: g :: fs, .refl _, fun get => ?_⟩
      rw [columnMembers, List.map_cons, Members.insertNew, if_neg hne, if_pos hlt]
      rfl
    · obtain ⟨gs, hperm, hinsert⟩ := ih fun h => hf (List.mem_cons_of_mem g h)
      refine ⟨g :: gs, (hperm.cons g).trans (.swap f g fs), fun get => ?_⟩
      rw [columnMembers, List.map_cons, Members.insertNew, if_neg hne, if_neg hlt,
        ← columnMembers, hinsert]
      rfl

/-- The members in the order of their names are the same members. -/
theorem exists_ofMembers {fs : List Field} (hfs : fs.Nodup) :
    ∃ gs : List Field, gs.Perm fs ∧ ∀ get : (f : Field) → f.Value,
      Value.ofMembers (columnMembers get fs) = .object (columnMembers get gs) := by
  induction fs with
  | nil => exact ⟨[], .refl _, fun get => rfl⟩
  | cons f fs ih =>
    obtain ⟨hf, hfs⟩ := List.nodup_cons.mp hfs
    obtain ⟨gs, hperm, hsorted⟩ := ih hfs
    obtain ⟨gs', hperm', hinsert⟩ := exists_insertNew fun h => hf (hperm.mem_iff.mp h)
    refine ⟨gs', hperm'.trans (hperm.cons f), fun get => ?_⟩
    have hfold := Value.object.inj (hsorted get)
    rw [← hinsert get, ← hfold]
    rfl

/-! ### Different members -/

namespace Layout

/-- **The members of a record tell the values of its columns.** -/
theorem columns_injective {l : Layout} {get get' : (f : Field) → f.Value} {fs : List Field}
    {first : Bool} (h : l.columns get first fs = l.columns get' first fs) :
    ∀ f ∈ fs, get f = get' f := by
  induction fs generalizing first with
  | nil => exact fun f hf => absurd hf List.not_mem_nil
  | cons f fs ih =>
    -- the comma, the spaces and the name are the same, so that the texts that follow are too
    have hafter := List.append_cancel_left (List.append_cancel_left (List.append_cancel_left h))
    have hvalue := List.append_cancel_left (List.cons.inj hafter).2
    obtain ⟨hf, hfs⟩ := quote_append_inj hvalue
    intro g hg
    obtain rfl | hg := List.mem_cons.mp hg
    · exact Field.encode_injective hf
    · exact ih hfs g hg

end Layout

end AccountRegistry
