/-
Users read from any objects.

* **`Field.Format`**, **`Field.Denotes`** — the form that the texts of a column have, and what
  value such a text denotes;
* **`Field.decode_eq_ok_iff`** — a column takes a text exactly as the value that it denotes;
* **`Field.Rewrites`** — the text that comes back when that value is written;
* **`Record.parse_eq_ok_iff`** — what record an object is read as, column by column;
* **`User.decoding_of_objects`** — which objects are read as a user, as which one, and how that
  user is written again.
-/
import AccountRegistry.Proofs.User.Objects
import AccountRegistry.Proofs.WrittenDate

namespace AccountRegistry

open Json

namespace Field

/-! ### The texts of a column -/

/-- Whether a text has the form that a column calls for. -/
def Format (f : Field) (t : String) : Prop :=
  match f with
  | .accountId => t.toList.length = 10 ∧ (∀ c ∈ t.toList, c.isDigit = true) ∧
      t.toList.head? ≠ some '0'
  | .passhash => 2 ∣ (Text.Utf8.encode t.toList).length ∧ ∀ c ∈ t.toList, c ∈ Text.Hex.digits
  | .birthday => ∃ d, Date.Denotes t.toList d
  | _ => True

/-- Whether a text denotes a value of a column. -/
def Denotes (f : Field) (t : String) (v : f.Value) : Prop :=
  match f with
  | .accountId => Format .accountId t ∧ AccountId.text v = t
  | .passhash => Text.Hex.Denotes t.toList v
  | .birthday => Date.Denotes t.toList v
  | .username | .firstname | .lastname | .timezone | .address | .state | .zip | .ssn => v = t

/-- Whether what a text `t` of a column denotes is written as `t'`: a hash in lower case, a date
in its one written form, anything else as it was. -/
def Rewrites (f : Field) (t t' : String) : Prop :=
  match f with
  | .passhash => t' = .ofList (t.toList.map Char.toLower)
  | .birthday => ∃ d, Date.Denotes t.toList d ∧ t' = d.text
  | _ => t' = t

variable {f : Field} {t : String} {v : f.Value}

theorem format_accountId : Format .accountId t ↔ AccountId.wellFormed t = true := by
  show (t.toList.length = AccountId.width ∧ _) ↔ _
  simp only [AccountId.wellFormed, Bool.and_eq_true, List.all_eq_true, decide_eq_true_eq,
    bne_iff_ne, and_assoc]

/-- **A column takes a text exactly as the value that it denotes.** -/
theorem decode_eq_ok_iff : f.decode t = .ok v ↔ f.Denotes t v := by
  cases f with
  | accountId =>
    have hid : AccountId.parse t = .ok v ↔ Denotes .accountId t v := by
      rw [Denotes, format_accountId, AccountId.parse]
      split
      · next h =>
        constructor
        · intro hv
          cases hv
          exact ⟨h, rfl⟩
        · rintro ⟨-, rfl⟩
          rfl
      · next h =>
        refine iff_of_false (fun hv => ?_) fun hv => h hv.1
        cases hv
    exact mapError_eq_ok.trans hid
  | passhash => exact mapError_eq_ok.trans Text.Hex.decode_eq_ok_iff
  | birthday => exact mapError_eq_ok.trans Date.parse_eq_ok_iff
  | _ => exact ⟨fun h => (Except.ok.inj h).symm, fun h => congrArg Except.ok (Eq.symm h)⟩

/-- The texts of the right form are those that denote something. -/
theorem exists_denotes_iff : (∃ v, f.Denotes t v) ↔ f.Format t := by
  cases f with
  | accountId => exact ⟨fun ⟨_, h, _⟩ => h, fun h => ⟨⟨t⟩, h, rfl⟩⟩
  | passhash => exact Text.Hex.exists_denotes_iff
  | birthday => exact Iff.rfl
  | _ => exact ⟨fun _ => trivial, fun _ => ⟨t, rfl⟩⟩

theorem rewrites_encode (h : f.Denotes t v) : f.Rewrites t (f.encode v) := by
  cases f with
  | accountId => exact h.2
  | passhash => exact congrArg String.ofList (Text.Hex.Denotes.encode_eq h)
  | birthday => exact ⟨v, h, rfl⟩
  | _ => exact h

end Field

variable {s : String} {ms : Contents}

/-- **An object is read as the record whose values its members denote**, one for each column of
the record. -/
theorem Record.parse_eq_ok_iff {α : Type} {r : Record α} {x : α} {get : (f : Field) → f.Value}
    (hbuild : ∀ d, r.build d = .ok x ↔ ∀ f ∈ r.fields, d f = some (get f)) (h : IsObject s ms) :
    r.parse s = .ok x ↔ ∀ f ∈ r.fields, ∃ t, ms.at f.name = [some t] ∧ f.Denotes t (get f) := by
  have hcolumn (f : Field) : Fills f none (ms.at f.name) (some (get f)) ↔
      ∃ t, ms.at f.name = [some t] ∧ f.Denotes t (get f) := by
    rw [fills_none_some]
    simp only [Field.decode_eq_ok_iff]
  simp only [← hcolumn]
  rw [Record.parse_object_iff h]
  -- the record takes a value from every column, so that none may keep the nothing it starts with
  constructor
  · rintro ⟨d, hgathers, hd⟩ f hf
    have hfills := gathers_iff.mp hgathers f
    rw [if_pos hf] at hfills
    rwa [← (hbuild d).mp hd f hf]
  · intro hfills
    refine ⟨Draft.empty.holding get r.fields, gathers_iff.mpr fun f => ?_,
      (hbuild _).mpr fun f hf => if_pos hf⟩
    split
    · next hf =>
      rw [Draft.holding, if_pos hf]
      exact hfills f hf
    · next hf => exact if_neg hf

namespace User

/-- An object is read as the user whose values its members denote, one for each column. -/
theorem parse_object_iff (h : IsObject s ms) {u : User} :
    record.parse s = .ok u ↔ ∀ f : Field, ∃ t, ms.at f.name = [some t] ∧ f.Denotes t (u.get f) := by
  have hmem (f : Field) : f ∈ record.fields := Field.mem_all f
  have hbuild (d : Draft) :
      record.build d = .ok u ↔ ∀ f ∈ record.fields, d f = some (u.get f) := by
    simp only [hmem, forall_const]
    exact Draft.user_eq_ok_iff
  rw [Record.parse_eq_ok_iff hbuild h]
  simp only [hmem, forall_const]

/-- **Objects are read as users exactly if they have the right form.**  Each column must have one
member, with a text of the form of that column; what else there is does not matter, nor does the
order.  The user has the values that these texts denote, and is written with the same texts but
for the case of the hash and the form of the date. -/
theorem decoding_of_objects (h : IsObject s ms) :
    ((∃ u, record.parse s = .ok u) ↔ ∀ f : Field, ∃ t, ms.at f.name = [some t] ∧ f.Format t) ∧
    ∀ u, record.parse s = .ok u → ∃ read written : Field → String,
      (∀ f, ms.at f.name = [some (read f)] ∧ f.Denotes (read f) (u.get f) ∧
        f.Rewrites (read f) (written f)) ∧
      u.json = .object (Field.all.map fun f => (f.name, .text (written f))) := by
  constructor
  · simp only [parse_object_iff h, ← Field.exists_denotes_iff]
    constructor
    · rintro ⟨u, hu⟩ f
      obtain ⟨t, ht, hdenotes⟩ := hu f
      exact ⟨t, ht, _, hdenotes⟩
    · intro hformat
      choose t ht get hget using hformat
      obtain ⟨u, hu⟩ := exists_get_eq get
      exact ⟨u, fun f => ⟨t f, ht f, hu f ▸ hget f⟩⟩
  · intro u hu
    choose t ht hdenotes using (parse_object_iff h).mp hu
    exact ⟨t, fun f => f.encode (u.get f),
      fun f => ⟨ht f, hdenotes f, Field.rewrites_encode (hdenotes f)⟩, rfl⟩

/-- An object with the columns in another order, a member of another name, a hash with digits of
both cases and a date with white space in it. -/
def shuffled : List (String × String) :=
  [("ssn", "000-00-0000"), ("note", "accountid"), ("passhash", "0aBf"), ("zip", "\n"),
    ("birthday", " 2024 -2- 29\t"), ("state", "\"CA\""), ("address", "1 Rd"), ("timezone", ""),
    ("lastname", "Doe"), ("firstname", "Zoë"), ("username", "zoe"), ("accountid", "1234567890")]

theorem decoding_of_shuffled :
    IsObject (Value.object (shuffled.map fun m => (m.1, .text m.2))).compact
      (shuffled.map fun m => (m.1, some m.2)) ∧
    ∃ u, record.parse (Value.object (shuffled.map fun m => (m.1, .text m.2))).compact = .ok u := by
  refine ⟨isObject_compact shuffled,
    (decoding_of_objects (isObject_compact shuffled)).1.mpr fun f => ?_⟩
  have hdate : Date.Denotes " 2024 -2- 29\t".toList { year := 2024, month := 2, day := 29 } :=
    Date.parse_eq_ok_iff.mp (by decide)
  have hhash : Text.Hex.Denotes "0aBf".toList [0x0a, 0xbf] :=
    Text.Hex.decode_eq_ok_iff.mp (by decide)
  cases f with
  | accountId => exact ⟨"1234567890", by decide, Field.format_accountId.mpr (by decide)⟩
  | passhash => exact ⟨"0aBf", by decide, Text.Hex.exists_denotes_iff.mp ⟨_, hhash⟩⟩
  | birthday => exact ⟨" 2024 -2- 29\t", by decide, _, hdate⟩
  | username => exact ⟨"zoe", by decide, trivial⟩
  | firstname => exact ⟨"Zoë", by decide, trivial⟩
  | lastname => exact ⟨"Doe", by decide, trivial⟩
  | timezone => exact ⟨"", by decide, trivial⟩
  | address => exact ⟨"1 Rd", by decide, trivial⟩
  | state => exact ⟨"\"CA\"", by decide, trivial⟩
  | zip => exact ⟨"\n", by decide, trivial⟩
  | ssn => exact ⟨"000-00-0000", by decide, trivial⟩

end User

end AccountRegistry
