/-
Users, profiles and account ids in JSON, written and read back.

* **`Record.Tells.restores`** — a record is read back from every form in which it is written;
* **`Record.exists_draft_of_parse`** — what has been read from a text holds accepted values;
* **`json_round_trip`** — what is written is read back, also when it has been read from a
  foreign text before, and different users are written differently.
-/
import AccountRegistry.Proofs.User.Layout

namespace AccountRegistry

open Json

/-! ### Records that are read -/

/-- The record `x` has the given values in its columns. -/
structure Record.Tells {α : Type} (r : Record α) (get : (f : Field) → f.Value) (x : α) : Prop where
  nodup : r.fields.Nodup
  accepts : ∀ f ∈ r.fields, f.Accepts (get f)
  build : r.build (Draft.empty.holding get r.fields) = .ok x

/-- A user whose id is well formed has its values in the columns. -/
theorem User.tells {u : User} (h : AccountId.wellFormed u.accountId.text = true) :
    User.record.Tells u.get u where
  nodup := by decide
  accepts f _ := User.accepts_get h f
  build := Draft.user_holding u

/-- A profile has its values in the columns, which leave out the id. -/
theorem Profile.tells (p : Profile) : Profile.record.Tells (p.withId default).get p where
  nodup := by decide
  accepts f hf := by
    cases f with
    | accountId => exact absurd hf (by decide)
    | _ => trivial
  build := Draft.profile_holding p default

/-- The members of a record in all forms denote that record: on one line, over several lines,
as a value, and as a value whose members are in the order of their names. -/
structure Record.Restores {α : Type} (r : Record α) (ms : Members) (x : α) : Prop where
  compact : r.parse (Value.object ms).compact = .ok x
  pretty : r.parse (Value.object ms).pretty = .ok x
  value : r.ofJson (.object ms) = .ok x
  sorted : r.ofJson (.ofMembers ms) = .ok x

namespace Record

variable {α : Type} {r : Record α} {get : (f : Field) → f.Value} {x : α}

theorem Tells.awaits (h : r.Tells get x) {fs : List Field} (hfs : fs.Perm r.fields) :
    Draft.empty.Awaits r.fields get fs :=
  ⟨fun _ hf => hfs.mem_iff.mp hf, fun f hf => h.accepts f (hfs.mem_iff.mp hf),
    hfs.nodup_iff.mpr h.nodup, fun _ _ => rfl⟩

/-- A record is read from its members in any layout and any order. -/
theorem Tells.parse_columns (h : r.Tells get x) (l : Layout) {fs : List Field}
    (hfs : fs.Perm r.fields) : r.parse (.ofList ('{' :: l.columns get true fs)) = .ok x := by
  have hsteps : fs.length < steps ('{' :: l.columns get true fs) := by
    have hlength := l.length_le_columns get true fs
    rw [steps, List.length_cons]
    omega
  -- whatever the order, the draft is that of the columns in their own order
  have hread := readRecordMembers_columns (l := l) (h.awaits hfs) hsteps true
  rw [parse, read, String.toList_ofList, skipSpace_cons (by decide)]
  simp only [hread, bind, Except.bind, Draft.holding_perm hfs, finish, h.build]
  rfl

/-- A record is the one that a value with its members denotes, in any order. -/
theorem Tells.ofJson_columns (h : r.Tells get x) {fs : List Field} (hfs : fs.Perm r.fields) :
    r.ofJson (.object (columnMembers get fs)) = .ok x := by
  simp only [ofJson, draftOfMembers_columns (h.awaits hfs), bind, Except.bind,
    Draft.holding_perm hfs, finish, h.build]
  rfl

end Record

/-- **A record is restored from its members.** -/
theorem Record.Tells.restores {α : Type} {r : Record α} {get : (f : Field) → f.Value} {x : α}
    (h : r.Tells get x) (hne : r.fields ≠ []) : r.Restores (columnMembers get r.fields) x := by
  obtain ⟨f, fs, hfields⟩ := List.exists_cons_of_ne_nil hne
  refine ⟨?_, ?_, h.ofJson_columns (.refl _), ?_⟩
  · rw [hfields, Layout.compact_columns, ← hfields]
    exact h.parse_columns .compact (.refl _)
  · rw [hfields, Layout.pretty_columns, ← hfields]
    exact h.parse_columns .pretty (.refl _)
  · obtain ⟨gs, hperm, hsorted⟩ := exists_ofMembers h.nodup
    rw [hsorted get]
    exact h.ofJson_columns hperm

/-! ### What has been read -/

theorem onData_eq_ok {α : Type} {x : Except RecordFault α} {a : α} :
    onData x = .ok a ↔ x = .ok a :=
  mapError_eq_ok

theorem refuse_ne_ok {α : Type} {wanted : Wanted} {cs : List Char} {x : α} :
    refuse wanted cs ≠ .ok x := by
  intro h
  obtain ⟨found, -, h⟩ := bind_eq_ok.mp h
  cases h

theorem accepts_of_readField {f : Field} {cs rest : List Char} {v : f.Value}
    (h : readField f cs = .ok (v, rest)) : f.Accepts v := by
  rw [readField] at h
  split at h
  · obtain ⟨⟨s, _⟩, -, h⟩ := bind_eq_ok.mp h
    obtain ⟨w, hdecode, h⟩ := bind_eq_ok.mp h
    cases h
    exact Field.accepts_of_decode (mapError_eq_ok.mp (onData_eq_ok.mp hdecode))
  · exact absurd h refuse_ne_ok

theorem accepts_of_fieldOfJson {f : Field} {j : Value} {v : f.Value}
    (h : Record.fieldOfJson f j = .ok v) : f.Accepts v := by
  cases j with
  | text s => exact Field.accepts_of_decode (mapError_eq_ok.mp h)
  | _ => cases h

/-- Reading members keeps the values of a draft accepted. -/
theorem accepted_of_readRecordMembers {fields : List Field} {n : Nat} {first : Bool}
    {draft d : Draft} {cs rest : List Char}
    (h : readRecordMembers fields n first draft cs = .ok (d, rest)) (hdraft : draft.Accepted) :
    d.Accepted := by
  induction n generalizing first draft cs with
  | zero => cases h
  | succ n ih =>
    rw [readRecordMembers] at h
    obtain ⟨⟨more, cs⟩, -, h⟩ := bind_eq_ok.mp h
    cases more with
    | false =>
      cases h
      exact hdraft
    | true =>
      obtain ⟨⟨name, cs⟩, -, h⟩ := bind_eq_ok.mp h
      simp only at h
      split at h
      · -- a column, which must not have come before
        split at h
        · cases h
        · obtain ⟨cs, -, h⟩ := bind_eq_ok.mp h
          obtain ⟨⟨v, cs⟩, hvalue, h⟩ := bind_eq_ok.mp h
          exact ih h (hdraft.set (accepts_of_readField hvalue))
      · -- a member of another name is passed over
        obtain ⟨cs, -, h⟩ := bind_eq_ok.mp h
        obtain ⟨cs, -, h⟩ := bind_eq_ok.mp h
        exact ih h hdraft

/-- Reading a list keeps the values of a draft accepted. -/
theorem accepted_of_readRecordItems {name : String} {columns length : Nat} {fs : List Field}
    {draft d : Draft} {cs rest : List Char}
    (h : readRecordItems name columns fs length draft cs = .ok (d, rest))
    (hdraft : draft.Accepted) : d.Accepted := by
  induction fs generalizing length draft cs with
  | nil =>
    cases h
    exact hdraft
  | cons f fs ih =>
    rw [readRecordItems] at h
    obtain ⟨⟨more, cs⟩, -, h⟩ := bind_eq_ok.mp h
    cases more with
    | false => cases h
    | true =>
      obtain ⟨⟨v, cs⟩, hvalue, h⟩ := bind_eq_ok.mp h
      exact ih h (hdraft.set (accepts_of_readField hvalue))

theorem accepted_of_draftOfMembers {fields : List Field} {ms : Members} {draft d : Draft}
    (h : Record.draftOfMembers fields draft ms = .ok d) (hdraft : draft.Accepted) :
    d.Accepted := by
  induction ms generalizing draft with
  | nil =>
    cases h
    exact hdraft
  | cons m ms ih =>
    rw [Record.draftOfMembers] at h
    split at h
    · split at h
      · cases h
      · obtain ⟨v, hvalue, h⟩ := bind_eq_ok.mp h
        exact ih h (hdraft.set (accepts_of_fieldOfJson hvalue))
    · exact ih h hdraft

theorem accepted_of_draftOfItems {name : String} {columns length : Nat} {fs : List Field}
    {draft d : Draft} {vs left : List Value}
    (h : Record.draftOfItems name columns fs length draft vs = .ok (d, left))
    (hdraft : draft.Accepted) : d.Accepted := by
  induction fs generalizing length draft vs with
  | nil =>
    cases h
    exact hdraft
  | cons f fs ih =>
    cases vs with
    | nil => cases h
    | cons j vs =>
      obtain ⟨v, hvalue, h⟩ := bind_eq_ok.mp h
      exact ih h (hdraft.set (accepts_of_fieldOfJson hvalue))

namespace Record

variable {α : Type} {r : Record α} {x : α}

/-- **What has been read from a text holds accepted values.** -/
theorem exists_draft_of_parse {s : String} (h : r.parse s = .ok x) :
    ∃ d : Draft, d.Accepted ∧ r.build d = .ok x := by
  obtain ⟨⟨y, rest⟩, hread, h⟩ := bind_eq_ok.mp h
  obtain ⟨_, -, h⟩ := bind_eq_ok.mp h
  cases h
  rw [read] at hread
  split at hread
  · obtain ⟨⟨d, rest⟩, hitems, h⟩ := bind_eq_ok.mp hread
    obtain ⟨y, hfinish, h⟩ := bind_eq_ok.mp h
    obtain ⟨_, -, h⟩ := bind_eq_ok.mp h
    cases h
    exact ⟨d, accepted_of_readRecordItems hitems Draft.accepted_empty,
      mapError_eq_ok.mp (onData_eq_ok.mp hfinish)⟩
  · obtain ⟨⟨d, rest⟩, hmembers, h⟩ := bind_eq_ok.mp hread
    obtain ⟨y, hfinish, h⟩ := bind_eq_ok.mp h
    obtain ⟨_, -, h⟩ := bind_eq_ok.mp h
    cases h
    exact ⟨d, accepted_of_readRecordMembers hmembers Draft.accepted_empty,
      mapError_eq_ok.mp (onData_eq_ok.mp hfinish)⟩
  · exact absurd hread refuse_ne_ok

/-- What a value denotes holds accepted values. -/
theorem exists_draft_of_ofJson {j : Value} (h : r.ofJson j = .ok x) :
    ∃ d : Draft, d.Accepted ∧ r.build d = .ok x := by
  cases j with
  | list vs =>
    obtain ⟨⟨d, left⟩, hitems, h⟩ := bind_eq_ok.mp h
    obtain ⟨y, hfinish, h⟩ := bind_eq_ok.mp h
    split at h
    · cases h
      exact ⟨d, accepted_of_draftOfItems hitems Draft.accepted_empty,
        mapError_eq_ok.mp hfinish⟩
    · cases h
  | object ms =>
    obtain ⟨d, hmembers, hfinish⟩ := bind_eq_ok.mp h
    exact ⟨d, accepted_of_draftOfMembers hmembers Draft.accepted_empty,
      mapError_eq_ok.mp hfinish⟩
  | _ => cases h

end Record

/-- The id of a user that a draft of accepted values makes up is well formed. -/
theorem User.wellFormed_of_draft {u : User}
    (h : ∃ d : Draft, d.Accepted ∧ User.record.build d = .ok u) :
    AccountId.wellFormed u.accountId.text = true := by
  obtain ⟨d, haccepted, hbuild⟩ := h
  exact haccepted .accountId u.accountId (Draft.user_eq_ok_iff.mp hbuild .accountId)

/-! ### Texts of different records -/

namespace User

variable {u v : User}

theorem compact_json (u : User) :
    u.json.compact = .ofList ('{' :: Layout.compact.columns u.get true Field.all) :=
  Layout.compact_columns u.get .accountId _

theorem pretty_json (u : User) :
    u.json.pretty = .ofList ('{' :: Layout.pretty.columns u.get true Field.all) :=
  Layout.pretty_columns u.get .accountId _

/-- A user is told by its members in a layout. -/
theorem eq_of_columns {l : Layout}
    (h : String.ofList ('{' :: l.columns u.get true Field.all) =
      .ofList ('{' :: l.columns v.get true Field.all)) : u = v := by
  have hcolumns := Layout.columns_injective (List.cons.inj (String.ofList_injective h)).2
  exact eq_of_get fun f => hcolumns f (Field.mem_all f)

/-- No text is on one line and on several. -/
theorem compact_ne_pretty (u v : User) : u.json.compact ≠ v.json.pretty := by
  intro h
  rw [compact_json, pretty_json] at h
  -- behind the brace there is a quote, or a new line
  have hcolumns := (List.cons.inj (String.ofList_injective h)).2
  cases hcolumns

/-- **A text is the text of one user only.** -/
theorem eq_of_text {s : String} (hu : s ∈ [u.json.compact, u.json.pretty])
    (hv : s ∈ [v.json.compact, v.json.pretty]) : u = v := by
  simp only [List.mem_cons, List.not_mem_nil, or_false] at hu hv
  obtain rfl | rfl := hu <;> obtain hv | hv := hv
  · rw [compact_json, compact_json] at hv
    exact eq_of_columns hv
  · exact absurd hv (compact_ne_pretty u v)
  · exact absurd hv.symm (compact_ne_pretty v u)
  · rw [pretty_json, pretty_json] at hv
    exact eq_of_columns hv

theorem restores {u : User} (h : AccountId.wellFormed u.accountId.text = true) :
    User.record.Restores u.members u :=
  (tells h).restores (by decide)

end User

/-- An account id is read back from its text. -/
theorem AccountId.parseJson_quote {id : AccountId}
    (h : AccountId.wellFormed id.text = true) :
    AccountId.parseJson (.ofList (quote id.text)) = .ok id := by
  have hgap : ([] : List Char).all isSpace = true := rfl
  have hread := readField_quote hgap (f := .accountId) (v := id) h []
  rw [List.nil_append, List.append_nil] at hread
  have hread : readField .accountId (quote id.text) = .ok (id, []) := hread
  rw [parseJson, String.toList_ofList, hread]
  rfl

/-- **Decoding undoes encoding.**  Users with a well-formed id, profiles and well-formed ids
are read back from every form in which they are written.  So is a user that has been read from
any text or value whatever, and no two users share a text. -/
theorem json_round_trip :
    (∀ u : User, AccountId.wellFormed u.accountId.text = true →
      User.record.Restores u.members u) ∧
    (∀ p : Profile, Profile.record.Restores p.members p) ∧
    (∀ id : AccountId, AccountId.wellFormed id.text = true →
      AccountId.parseJson id.json.compact = .ok id ∧
      AccountId.parseJson id.json.pretty = .ok id ∧
      Record.fieldOfJson .accountId id.json = .ok id) ∧
    (∀ s u, User.record.parse s = .ok u → User.record.Restores u.members u) ∧
    (∀ j u, User.record.ofJson j = .ok u → User.record.Restores u.members u) ∧
    ∀ u v : User, ∀ s ∈ [u.json.compact, u.json.pretty],
      s ∈ [v.json.compact, v.json.pretty] → u = v := by
  refine ⟨fun u h => User.restores h, fun p => p.tells.restores (by decide), fun id h => ?_,
    fun s u h => ?_, fun j u h => ?_, fun u v s hu hv => User.eq_of_text hu hv⟩
  · have hcompact : AccountId.parseJson id.json.compact = .ok id := by
      rw [AccountId.json, Value.compact, compactValue, AccountId.parseJson_quote h]
    have hpretty : AccountId.parseJson id.json.pretty = .ok id := by
      rw [AccountId.json, Value.pretty, prettyValue, AccountId.parseJson_quote h]
    exact ⟨hcompact, hpretty, Record.fieldOfJson_encode (f := .accountId) h⟩
  · exact User.restores (User.wellFormed_of_draft (Record.exists_draft_of_parse h))
  · exact User.restores (User.wellFormed_of_draft (Record.exists_draft_of_ofJson h))

/-- A user whose texts need escapes of all kinds, who has no password hash, and who was born
before the first year of four digits. -/
def User.awkward : User where
  username := "\"\\\x00\x1f\n\x7f"
  passhash := []
  firstname := "Zoë 😀"
  lastname := ""
  birthday := { year := -262143, month := 1, day := 1 }
  timezone := "Europe/Zürich"
  address := "1\tRoad"
  state := "\u2028"
  zip := "00000"
  ssn := "000-00-0000"
  accountId := ⟨"9999999999"⟩

theorem awkward_round_trip : User.record.Restores User.awkward.members User.awkward :=
  json_round_trip.1 User.awkward (by decide)

end AccountRegistry
