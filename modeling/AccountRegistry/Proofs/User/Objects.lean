/-
Records read from any objects.

* **`Json.Listing`**, **`Json.IsObject`** — the members of an object: their names, and the texts
  that they hold if they hold any; every object of texts that is written is one
  (`Json.isObject_compact`);
* **`Gathers`** — the draft that some members make up, member by member;
* **`gathers_iff`** — a draft is made up exactly if each of its columns occurs at most once, and
  then with a text that the column takes;
* **`Record.parse_object_iff`** — what a record is read as from any object.

Design notes: what a member of another name holds does not matter, so that the members of an
object are listed with no more than their texts.
-/
import AccountRegistry.Proofs.Json.Grammar
import AccountRegistry.Proofs.User.Json

namespace AccountRegistry

namespace Json

/-! ### The members of an object -/

/-- The names of some members in their order, each with the text that it holds, if it does. -/
abbrev Contents := List (String × Option String)

/-- What is held in a member of a name, one after the other. -/
def Contents.at (ms : Contents) (name : String) : List (Option String) :=
  (ms.filter (·.1 == name)).map (·.2)

/-- Whether the value at the head of `cs`, with `rest` behind it, is the given text, or else no
text that stands for anything. -/
def Holds (cs rest : List Char) : Option String → Prop
  | some s => ∃ body, skipSpace cs = '"' :: body ∧ Spells body s.toList rest
  | none => Derives .value cs rest ∧
      ∀ body ds rest', skipSpace cs = '"' :: body → ¬ Spells body ds rest'

/-- The members of an object from `cs` on, up to its end before `rest`. -/
inductive Listing : Bool → List Char → Contents → List Char → Prop
  | finish {first : Bool} {cs rest : List Char} (h : skipSpace cs = '}' :: rest) :
      Listing first cs [] rest
  | member {first : Bool} {cs cs₁ body cs₂ cs₃ cs₄ rest : List Char} {name : String}
      {content : Option String} {ms : Contents} (h : Starts first cs cs₁)
      (hname : skipSpace cs₁ = '"' :: body) (hspells : Spells body name.toList cs₂)
      (hcolon : skipSpace cs₂ = ':' :: cs₃) (hvalue : Holds cs₃ cs₄ content)
      (hmembers : Listing false cs₄ ms rest) : Listing first cs ((name, content) :: ms) rest

/-- Whether a text is an object with the given members. -/
def IsObject (s : String) (ms : Contents) : Prop :=
  ∃ cs rest, skipSpace s.toList = '{' :: cs ∧ Listing true cs ms rest ∧ skipSpace rest = []

variable {cs rest : List Char} {ms : Contents}

theorem Holds.derives {content : Option String} (h : Holds cs rest content) :
    Derives .value cs rest := by
  cases content with
  | some s =>
    obtain ⟨body, hbody, hspells⟩ := h
    exact .text hbody hspells.closes
  | none => exact h.1

theorem Listing.length_lt {first : Bool} (h : Listing first cs ms rest) :
    rest.length < cs.length := by
  induction h with
  | finish h => exact length_lt_of_skipSpace h
  | member h hname hspells hcolon hvalue _ ih =>
    have := h.length_le
    have := length_lt_of_skipSpace hname
    have := hspells.closes.length_lt
    have := length_lt_of_skipSpace hcolon
    have := hvalue.derives.length_lt
    omega

/-- An object of texts that is written on one line has these texts as its members. -/
theorem isObject_compact (ms : List (String × String)) :
    IsObject (Value.object (ms.map fun m => (m.1, .text m.2))).compact
      (ms.map fun m => (m.1, some m.2)) := by
  -- a text that is written between quotes stands for itself
  have hspells (t : String) (cs : List Char) :
      Spells (t.toList.flatMap escapeChar ++ '"' :: cs) t.toList cs :=
    readText_eq_ok_iff.mp (readText_quoted t.toList cs)
  have hquote (t : String) (cs : List Char) : skipSpace (quote t ++ cs) =
      '"' :: (t.toList.flatMap escapeChar ++ '"' :: cs) := by
    rw [quote_append, skipSpace_cons (by decide)]
  -- what is left behind the first member
  have hmembers : Listing false (compactMembers (ms.tail.map fun m => (m.1, .text m.2)))
      (ms.tail.map fun m => (m.1, some m.2)) [] := by
    generalize ms.tail = ms
    induction ms with
    | nil => exact .finish rfl
    | cons m ms ih =>
      rw [List.map_cons, compactMembers, compactValue]
      simp only [List.cons_append, List.append_assoc]
      exact .member (.comma rfl) (hquote _ _) (hspells _ _) rfl ⟨_, hquote _ _, hspells _ _⟩ ih
  rw [IsObject, Value.compact, String.toList_ofList]
  cases ms with
  | nil => exact ⟨_, _, rfl, .finish rfl, rfl⟩
  | cons m ms =>
    rw [List.map_cons, compactValue, compactValue]
    simp only [List.cons_append, List.append_assoc]
    exact ⟨_, _, rfl, .member (.first _) (hquote _ _) (hspells _ _) rfl
      ⟨_, hquote _ _, hspells _ _⟩ hmembers, rfl⟩

theorem nextMember_of_starts {first : Bool} {cs₁ body : List Char} (h : Starts first cs cs₁)
    (hname : skipSpace cs₁ = '"' :: body) : nextMember first cs = .ok (true, body) := by
  cases h with
  | first =>
    rw [nextMember, hname]
    rfl
  | comma h =>
    unfold nextMember
    rw [h]
    simp only [Bool.false_eq_true, if_false, hname]

end Json

open Json

variable {fields : List Field} {draft d : Draft} {ms : Contents}

/-! ### Drafts made up by members -/

/-- The members `ms` complete the draft `draft` to `d`. -/
inductive Gathers (fields : List Field) : Draft → Contents → Draft → Prop
  | nil (draft : Draft) : Gathers fields draft [] draft
  | other {draft d : Draft} {name : String} {content : Option String} {ms : Contents}
      (hname : Field.named? fields name = none) (h : Gathers fields draft ms d) :
      Gathers fields draft ((name, content) :: ms) d
  | column {draft d : Draft} {name t : String} {f : Field} {v : f.Value} {ms : Contents}
      (hname : Field.named? fields name = some f) (hnew : draft f = none)
      (hvalue : f.decode t = .ok v) (h : Gathers fields (draft.set f v) ms d) :
      Gathers fields draft ((name, some t) :: ms) d

theorem gathers_nil : Gathers fields draft [] d ↔ d = draft := by
  constructor
  · intro h
    cases h
    rfl
  · rintro rfl
    exact .nil d

theorem gathers_other {name : String} {content : Option String}
    (hname : Field.named? fields name = none) :
    Gathers fields draft ((name, content) :: ms) d ↔ Gathers fields draft ms d := by
  constructor
  · intro h
    cases h with
    | other _ h => exact h
    | column hname' => cases hname.symm.trans hname'
  · exact .other hname

theorem gathers_column {name : String} {content : Option String} {f : Field}
    (hname : Field.named? fields name = some f) :
    Gathers fields draft ((name, content) :: ms) d ↔
      draft f = none ∧ ∃ t v, content = some t ∧ f.decode t = .ok v ∧
        Gathers fields (draft.set f v) ms d := by
  constructor
  · intro h
    cases h with
    | other hname' => cases hname.symm.trans hname'
    | column hname' hnew hvalue h =>
      cases hname.symm.trans hname'
      exact ⟨hnew, _, _, rfl, hvalue, h⟩
  · rintro ⟨hnew, t, v, rfl, hvalue, h⟩
    exact .column hname hnew hvalue h

/-- **A column is read exactly from the texts that it takes.** -/
theorem readField_eq_ok_iff {f : Field} {v : f.Value} {cs rest : List Char} :
    readField f cs = .ok (v, rest) ↔
      ∃ body t, skipSpace cs = '"' :: body ∧ Json.Spells body t.toList rest ∧
        f.decode t = .ok v := by
  constructor
  · intro h
    rw [readField] at h
    split at h
    · next body hbody =>
      obtain ⟨⟨ds, rest'⟩, htext, h⟩ := bind_eq_ok.mp h
      obtain ⟨w, hdecode, h⟩ := bind_eq_ok.mp h
      cases h
      have hspells := readText_eq_ok_iff.mp (mapError_eq_ok.mp htext)
      refine ⟨body, .ofList ds, hbody, ?_, mapError_eq_ok.mp (onData_eq_ok.mp hdecode)⟩
      rwa [String.toList_ofList]
    · exact absurd h refuse_ne_ok
  · rintro ⟨body, t, hbody, hspells, hdecode⟩
    rw [readField, hbody]
    simp only [readText_of_spells hspells, onText_ok, bind, Except.bind, String.ofList_toList,
      hdecode, onData_mapError_ok]

theorem readField_of_holds {f : Field} {v : f.Value} {cs rest rest' : List Char}
    {content : Option String} (h : Holds cs rest content) :
    readField f cs = .ok (v, rest') ↔
      rest' = rest ∧ ∃ t, content = some t ∧ f.decode t = .ok v := by
  rw [readField_eq_ok_iff]
  cases content with
  | some s =>
    obtain ⟨body, hbody, hspells⟩ := h
    constructor
    · rintro ⟨body', t, hbody', hspells', hdecode⟩
      obtain rfl : body = body' := (List.cons.inj (hbody.symm.trans hbody')).2
      obtain ⟨hs, rfl⟩ := hspells.unique hspells'
      exact ⟨rfl, t, congrArg some (String.toList_inj.mp hs), hdecode⟩
    · rintro ⟨rfl, t, ht, hdecode⟩
      cases ht
      exact ⟨body, s, hbody, hspells, hdecode⟩
  | none =>
    constructor
    · rintro ⟨body, t, hbody, hspells, -⟩
      exact absurd hspells (h.2 body _ _ hbody)
    · rintro ⟨-, t, ht, -⟩
      cases ht

/-- **The members of a record are read into the draft that they make up.** -/
theorem readRecordMembers_of_listing {first : Bool} {cs rest rest' : List Char}
    (h : Listing first cs ms rest) {n : Nat} (hn : 2 * cs.length ≤ n + 2 * rest.length) :
    readRecordMembers fields n first draft cs = .ok (d, rest') ↔
      Gathers fields draft ms d ∧ rest' = '}' :: rest := by
  -- along the listing; every member takes more characters than it costs steps
  induction h generalizing n draft with
  | @finish first cs rest h =>
    have := length_lt_of_skipSpace h
    obtain ⟨n, rfl⟩ : ∃ k, n = k + 1 := ⟨n - 1, by omega⟩
    have hend : readRecordMembers fields (n + 1) first draft cs = .ok (draft, '}' :: rest) := by
      rw [readRecordMembers, nextMember, h]
      rfl
    rw [hend]
    constructor
    · intro heq
      cases heq
      exact ⟨.nil _, rfl⟩
    · rintro ⟨hgathers, rfl⟩
      cases hgathers
      rfl
  | @member first cs cs₁ body cs₂ cs₃ cs₄ rest name content ms h hname hspells hcolon hvalue
      hmembers ih =>
    have := h.length_le
    have := length_lt_of_skipSpace hname
    have := hspells.closes.length_lt
    have := length_lt_of_skipSpace hcolon
    have := hvalue.derives.length_lt
    have := hmembers.length_lt
    obtain ⟨n, rfl⟩ : ∃ k, n = k + 1 := ⟨n - 1, by omega⟩
    have hread : readColon cs₂ = .ok cs₃ := by
      rw [readColon, hcolon]
      rfl
    have hskip : skipValue n cs₃ = .ok cs₄ := skipValue_of_derives hvalue.derives (by omega)
    have hrest (draft : Draft) := @ih draft n (by omega)
    rw [readRecordMembers, nextMember_of_starts h hname]
    simp only [onText_ok, bind, Except.bind, if_true, readText_of_spells hspells,
      String.ofList_toList, hread]
    split
    · next f hf =>
      rw [gathers_column hf]
      split
      · next hset =>
        rw [Option.isSome_iff_ne_none] at hset
        refine iff_of_false (fun heq => ?_) fun hgathers => hset hgathers.1.1
        cases heq
      · next hset =>
        have hnew : draft f = none := by simpa using hset
        cases hfield : readField f cs₃ with
        | error e =>
          refine iff_of_false (fun heq => ?_) ?_
          · cases heq
          rintro ⟨⟨-, t, v, rfl, hdecode, -⟩, -⟩
          rw [(readField_of_holds hvalue).mpr ⟨rfl, t, rfl, hdecode⟩] at hfield
          cases hfield
        | ok x =>
          obtain ⟨v, cs'⟩ := x
          obtain ⟨rfl, t, rfl, hdecode⟩ := (readField_of_holds hvalue).mp hfield
          show readRecordMembers fields n false (draft.set f v) cs' = _ ↔ _
          rw [hrest]
          refine and_congr_left fun _ => ⟨fun hgathers => ⟨hnew, t, v, rfl, hdecode, hgathers⟩, ?_⟩
          rintro ⟨-, t', v', ht, hdecode', hgathers⟩
          cases ht
          cases hdecode.symm.trans hdecode'
          exact hgathers
    · next hf =>
      rw [gathers_other hf]
      simp only [hskip, onText_ok, hrest]

/-! ### Which drafts are made up -/

/-- What the members of a column make of its value: without any it stays as it is, and one with
a text that the column takes gives it a first one. -/
inductive Fills (f : Field) : Option f.Value → List (Option String) → Option f.Value → Prop
  | kept (v : Option f.Value) : Fills f v [] v
  | filled {t : String} {v : f.Value} (h : f.decode t = .ok v) : Fills f none [some t] (some v)

variable {f : Field} {v w : Option f.Value} {contents : List (Option String)}

theorem fills_nil : Fills f v [] w ↔ w = v := by
  constructor
  · intro h
    cases h
    rfl
  · rintro rfl
    exact .kept w

theorem fills_cons {content : Option String} :
    Fills f v (content :: contents) w ↔
      v = none ∧ ∃ t x, content = some t ∧ f.decode t = .ok x ∧ contents = [] ∧ w = some x := by
  constructor
  · intro h
    cases h with
    | filled h => exact ⟨rfl, _, _, rfl, h, rfl, rfl⟩
  · rintro ⟨rfl, t, x, rfl, h, rfl, rfl⟩
    exact .filled h

theorem fills_some {x : f.Value} : Fills f (some x) contents w ↔ contents = [] ∧ w = some x := by
  cases contents with
  | nil => rw [fills_nil, eq_self, true_and]
  | cons content contents =>
    rw [fills_cons]
    exact iff_of_false (fun h => nomatch h.1) fun h => nomatch h.1

theorem fills_none_some {x : f.Value} :
    Fills f none contents (some x) ↔ ∃ t, contents = [some t] ∧ f.decode t = .ok x := by
  constructor
  · intro h
    cases h with
    | filled h => exact ⟨_, rfl, h⟩
  · rintro ⟨t, rfl, h⟩
    exact .filled h

theorem Contents.at_cons_self (name : String) (content : Option String) (ms : Contents) :
    Contents.at ((name, content) :: ms) name = content :: Contents.at ms name := by
  simp [Contents.at]

theorem Contents.at_cons_of_ne {name name' : String} (h : name ≠ name') (content : Option String)
    (ms : Contents) : Contents.at ((name, content) :: ms) name' = Contents.at ms name' := by
  simp [Contents.at, h]

theorem Draft.set_self (draft : Draft) (f : Field) (x : f.Value) : draft.set f x f = some x := by
  simp [Draft.set]

theorem Draft.set_of_ne {f g : Field} (h : f ≠ g) (draft : Draft) (x : f.Value) :
    draft.set f x g = draft g := by
  simp [Draft.set, h]

theorem named_eq_some_iff {name : String} {f : Field} :
    Field.named? fields name = some f ↔ f ∈ fields ∧ f.name = name := by
  constructor
  · intro h
    exact ⟨List.mem_of_find?_eq_some h, by simpa using List.find?_some h⟩
  · rintro ⟨hmem, rfl⟩
    exact named_name hmem

theorem ne_of_named_eq_none {name : String} (h : Field.named? fields name = none) {f : Field}
    (hf : f ∈ fields) : name ≠ f.name := by
  rintro rfl
  rw [named_name hf] at h
  cases h

/-- **Which draft some members make up.** -/
theorem gathers_iff :
    Gathers fields draft ms d ↔
      ∀ f, if f ∈ fields then Fills f (draft f) (ms.at f.name) (d f) else d f = draft f := by
  -- member by member; once a column is set, no other member of it is allowed
  induction ms generalizing draft with
  | nil =>
    simp only [gathers_nil, Contents.at, List.filter_nil, List.map_nil, fills_nil, ite_self]
    exact funext_iff
  | cons m ms ih =>
    obtain ⟨name, content⟩ := m
    cases hname : Field.named? fields name with
    | none =>
      rw [gathers_other hname, ih]
      refine forall_congr' fun f => ?_
      split
      · next hf => rw [Contents.at_cons_of_ne (ne_of_named_eq_none hname hf)]
      · rfl
    | some f =>
      obtain ⟨hmem, rfl⟩ := named_eq_some_iff.mp hname
      have hother {g : Field} (hg : f ≠ g) :
          Contents.at ((f.name, content) :: ms) g.name = Contents.at ms g.name :=
        Contents.at_cons_of_ne (fun heq => hg (Field.name_injective heq)) content ms
      rw [gathers_column hname]
      constructor
      · rintro ⟨hnew, t, x, rfl, hdecode, hgathers⟩ g
        have hg := ih.mp hgathers g
        by_cases heq : f = g
        · subst heq
          rw [if_pos hmem, Draft.set_self, fills_some] at hg
          rw [if_pos hmem, Contents.at_cons_self, fills_cons]
          exact ⟨hnew, t, x, rfl, hdecode, hg⟩
        · rwa [Draft.set_of_ne heq, ← hother heq] at hg
      · intro h
        have hf := h f
        rw [if_pos hmem, Contents.at_cons_self, fills_cons] at hf
        obtain ⟨hnew, t, x, rfl, hdecode, hnil, hd⟩ := hf
        refine ⟨hnew, t, x, rfl, hdecode, ih.mpr fun g => ?_⟩
        by_cases heq : f = g
        · subst heq
          rw [if_pos hmem, Draft.set_self, fills_some]
          exact ⟨hnil, hd⟩
        · have hg := h g
          rwa [hother heq, ← Draft.set_of_ne heq draft x] at hg

/-! ### Records -/

/-- **What a record is read as from an object.** -/
theorem Record.parse_object_iff {α : Type} {r : Record α} {s : String} (h : IsObject s ms)
    {x : α} :
    r.parse s = .ok x ↔ ∃ d, Gathers r.fields .empty ms d ∧ r.build d = .ok x := by
  obtain ⟨cs, rest, hopen, hlisting, hclose⟩ := h
  have hsteps : 2 * cs.length ≤ steps s.toList + 2 * rest.length := by
    have hlt := length_lt_of_skipSpace hopen
    rw [steps]
    omega
  have hmembers (d : Draft) (rest' : List Char) :=
    @readRecordMembers_of_listing r.fields .empty d ms true cs rest rest' hlisting _ hsteps
  constructor
  · intro h
    obtain ⟨⟨y, rest'⟩, hread, h⟩ := bind_eq_ok.mp h
    obtain ⟨_, -, h⟩ := bind_eq_ok.mp h
    cases h
    rw [read, hopen] at hread
    obtain ⟨⟨d, cs'⟩, hdraft, h⟩ := bind_eq_ok.mp hread
    obtain ⟨y, hfinish, h⟩ := bind_eq_ok.mp h
    obtain ⟨_, -, h⟩ := bind_eq_ok.mp h
    cases h
    exact ⟨d, ((hmembers d cs').mp hdraft).1, mapError_eq_ok.mp (onData_eq_ok.mp hfinish)⟩
  · rintro ⟨d, hgathers, hbuild⟩
    have hend : endObject ('}' :: rest) = .ok rest := rfl
    have htext : endText rest = .ok () := by rw [endText, hclose]; rfl
    rw [parse, read, hopen]
    simp only [(hmembers d _).mpr ⟨hgathers, rfl⟩, bind, Except.bind, finish, hbuild,
      onData_mapError_ok, hend, onText_ok, htext]

end AccountRegistry
