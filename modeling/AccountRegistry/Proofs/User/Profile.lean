/-
Users as profiles with an id.

* **`Profile.parse_object_iff`** — what profile an object is read as, whatever it says about an id;
* **`Profile.members_withId`** — the members of a user are those of the profile, behind the id;
* **`Profile.withId_in_json`** — a user is read from an object, and written, as a profile and
  an id.
-/
import AccountRegistry.Proofs.AccountId
import AccountRegistry.Proofs.User.Decoding

namespace AccountRegistry

open Json

variable {s t : String} {ms : Contents}

namespace AccountId

/-- An id in JSON is its digits between quotes. -/
theorem compact_json {id : AccountId} (h : wellFormed id.text = true) :
    id.json.compact = "\"" ++ id.text ++ "\"" := by
  obtain ⟨-, hdigits, -⟩ := wellFormed_eq_true_iff.mp h
  have hplain : id.text.toList.flatMap escapeChar = id.text.toList := by
    have hescape : ∀ c ∈ id.text.toList, escapeChar c = [c] := fun c hc => by
      have hc : 48 ≤ c.toNat ∧ c.toNat ≤ 57 := Char.isDigit_iff_toNat.mp (hdigits c hc)
      have hne (d : Char) (hd : d.toNat < 48 ∨ 57 < d.toNat) : c ≠ d := by
        rintro rfl
        omega
      unfold escapeChar
      rw [if_neg (hne '"' (by decide)), if_neg (hne '\\' (by decide)), if_neg (by omega),
        if_neg (by omega), if_neg (hne '\n' (by decide)), if_neg (hne '\r' (by decide)),
        if_neg (hne '\t' (by decide)), if_neg (by omega)]
    rw [List.flatMap_congr hescape, List.flatMap_singleton']
  apply String.toList_inj.mp
  rw [json, Value.compact, compactValue, String.toList_ofList, quote, hplain, String.toList_append,
    String.toList_append]
  rfl

/-- A text is parsed as the id that it denotes in its column. -/
theorem parse_eq_ok_iff_denotes {id : AccountId} :
    parse t = .ok id ↔ Field.Denotes .accountId t id :=
  mapError_eq_ok.symm.trans (Field.decode_eq_ok_iff (f := .accountId))

end AccountId

namespace Profile

/-- An object is read as the profile whose values its members denote.  What it says about an id
does not matter. -/
theorem parse_object_iff (h : IsObject s ms) {p : Profile} (id : AccountId) :
    record.parse s = .ok p ↔
      ∀ f ∈ Field.ofProfile, ∃ t, ms.at f.name = [some t] ∧ f.Denotes t ((p.withId id).get f) :=
  Record.parse_eq_ok_iff (fun _ => Draft.profile_eq_ok_iff id) h

/-- The members of a user are those of the profile, behind the id. -/
theorem members_withId (p : Profile) (id : AccountId) :
    (p.withId id).members = (Field.accountId.name, .text id.text) :: p.members :=
  rfl

/-- **A user is a profile with an id**, in both directions.  An object is read as a user exactly
if it is read as a profile and has one member for the id, which is one; and a user is written as
the profile is, with the id put in behind the opening brace. -/
theorem withId_in_json :
    (∀ s ms, IsObject s ms → ∀ u : User, User.record.parse s = .ok u ↔
      ∃ p t id, record.parse s = .ok p ∧ ms.at "accountid" = [some t] ∧
        AccountId.parse t = .ok id ∧ u = p.withId id) ∧
    ∀ (p : Profile) (id : AccountId), ∃ rest, p.json.compact = "\x7b" ++ rest ∧
      (p.withId id).json.compact = "\x7b\"accountid\":" ++ id.json.compact ++ "," ++ rest ∧
      (AccountId.wellFormed id.text = true → id.json.compact = "\"" ++ id.text ++ "\"") := by
  refine ⟨fun s ms h u => ?_, fun p id => ?_⟩
  · rw [User.parse_object_iff h]
    constructor
    · intro hcolumns
      obtain ⟨t, hat, hdenotes⟩ := hcolumns .accountId
      refine ⟨u.toProfile, t, u.accountId, ?_, hat, AccountId.parse_eq_ok_iff_denotes.mpr hdenotes,
        rfl⟩
      exact (parse_object_iff h u.accountId).mpr fun f _ => hcolumns f
    · rintro ⟨p, t, id, hp, hat, hid, rfl⟩ f
      by_cases hf : f ∈ Field.ofProfile
      · exact (parse_object_iff h id).mp hp f hf
      · cases f with
        | accountId => exact ⟨t, hat, AccountId.parse_eq_ok_iff_denotes.mp hid⟩
        | _ => exact absurd (by decide) hf
  · -- what stands behind the opening brace of the profile
    obtain ⟨rest, hobject, hmembers⟩ : ∃ rest, compactValue p.json = '{' :: rest ∧
        compactMembers p.members = ',' :: rest := by
      obtain ⟨m, ms, hms⟩ : ∃ m ms, p.members = m :: ms := ⟨_, _, rfl⟩
      rw [json, hms, compactValue, compactMembers]
      exact ⟨_, rfl, rfl⟩
    refine ⟨.ofList rest, ?_, ?_, AccountId.compact_json⟩
    · apply String.toList_inj.mp
      rw [Value.compact, hobject]
      simp only [String.toList_append, String.toList_ofList]
      rfl
    · have hname : "\x7b\"accountid\":".toList = '{' :: quote Field.accountId.name ++ [':'] := rfl
      apply String.toList_inj.mp
      rw [User.json, members_withId, Value.compact, compactValue, hmembers, AccountId.json]
      simp only [Value.compact, String.toList_append, String.toList_ofList, hname,
        List.append_assoc, List.cons_append]
      rfl

/-- The profile in the object `User.shuffled`. -/
def shuffled : Profile where
  username := "zoe"
  passhash := [0x0a, 0xbf]
  firstname := "Zoë"
  lastname := "Doe"
  birthday := { year := 2024, month := 2, day := 29 }
  timezone := ""
  address := "1 Rd"
  state := "\"CA\""
  zip := "\n"
  ssn := "000-00-0000"

theorem parse_shuffled :
    record.parse (Value.object (User.shuffled.map fun m => (m.1, .text m.2))).compact =
      .ok shuffled := by
  refine (parse_object_iff (isObject_compact User.shuffled) default).mpr fun f hf => ?_
  cases f with
  | accountId => exact absurd hf (by decide)
  | passhash => exact ⟨"0aBf", by decide, Text.Hex.decode_eq_ok_iff.mp (by decide)⟩
  | birthday => exact ⟨" 2024 -2- 29\t", by decide, Date.parse_eq_ok_iff.mp (by decide)⟩
  | _ => exact ⟨_, by decide, rfl⟩

theorem withId_in_json_shuffled :
    User.record.parse (Value.object (User.shuffled.map fun m => (m.1, .text m.2))).compact =
      .ok (shuffled.withId ⟨"1234567890"⟩) ∧
    (AccountId.json ⟨"1234567890"⟩).compact = "\"1234567890\"" := by
  obtain ⟨hread, hwritten⟩ := withId_in_json
  obtain ⟨-, -, -, hid⟩ := hwritten shuffled ⟨"1234567890"⟩
  exact ⟨(hread _ _ (isObject_compact User.shuffled) _).mpr
    ⟨shuffled, "1234567890", ⟨"1234567890"⟩, parse_shuffled, by decide, by decide, rfl⟩,
    hid (by decide)⟩

end Profile

end AccountRegistry
