/-
The columns of a user as texts, and rows that are being put together.

* **`Field.decode_encode`** — a value that its column accepts is read back from its text, and
  a text is only ever read as such a value (`Field.accepts_of_decode`);
* **`Field.encode_injective`** — values of one text are the same, accepted or not;
* **`Draft.Accepted`** — the values of a draft are accepted, so that an id in it is well
  formed;
* **`Draft.holding`** — the draft in which some columns have been filled in, in any order;
* **`Draft.user_eq_ok_iff`** — a draft makes up the user whose values it holds, and no other.
-/
import AccountRegistry.Proofs.Date
import AccountRegistry.Proofs.Except
import AccountRegistry.Proofs.Text.Hex
import AccountRegistry.User

namespace AccountRegistry

namespace Field

/-! ### Columns -/

/-- What a column accepts: an id must be well formed, anything else may be as it is. -/
def Accepts (f : Field) (v : f.Value) : Prop :=
  match f with
  | .accountId => AccountId.wellFormed (AccountId.text v) = true
  | _ => True

/-- **A value is read back from its text.** -/
theorem decode_encode {f : Field} {v : f.Value} (h : f.Accepts v) :
    f.decode (f.encode v) = .ok v := by
  cases f with
  | accountId =>
    have hid : AccountId.parse (AccountId.text v) = .ok v := if_pos h
    exact mapError_eq_ok.mpr hid
  | passhash =>
    have hbytes : Text.Hex.decode (.ofList (Text.Hex.encode v)) = .ok v :=
      Text.Hex.decode_encode v
    exact mapError_eq_ok.mpr hbytes
  | birthday =>
    have hdate : Date.parse (Date.text v) = .ok v := Date.parse_text v
    exact mapError_eq_ok.mpr hdate
  | _ => rfl

theorem accepts_of_decode {f : Field} {s : String} {v : f.Value} (h : f.decode s = .ok v) :
    f.Accepts v := by
  cases f with
  | accountId =>
    have hid : AccountId.parse s = .ok v := mapError_eq_ok.mp h
    rw [AccountId.parse] at hid
    split at hid
    · next hs =>
      cases hid
      exact hs
    · cases hid
  | _ => trivial

/-- **The text of a value tells the value.** -/
theorem encode_injective {f : Field} {v w : f.Value} (h : f.encode v = f.encode w) : v = w := by
  -- but for ids every value is read back, and an id is its text
  have hread (hv : f.Accepts v) (hw : f.Accepts w) : v = w := by
    have hboth := congrArg f.decode h
    rw [decode_encode hv, decode_encode hw] at hboth
    exact Except.ok.inj hboth
  cases f with
  | accountId => exact congrArg AccountId.mk h
  | _ => exact hread trivial trivial

theorem mem_all (f : Field) : f ∈ all := by
  cases f <;> decide

/-- The names of the columns differ. -/
theorem name_injective {f g : Field} (h : f.name = g.name) : f = g := by
  revert h
  cases f <;> cases g <;> decide

end Field

/-- The columns of a user whose id is well formed are accepted. -/
theorem User.accepts_get {u : User} (h : AccountId.wellFormed u.accountId.text = true)
    (f : Field) : f.Accepts (u.get f) := by
  cases f with
  | accountId => exact h
  | _ => trivial

namespace Draft

/-! ### Drafts -/

/-- All values of a draft are accepted by their columns. -/
def Accepted (d : Draft) : Prop := ∀ f v, d f = some v → f.Accepts v

theorem accepted_empty : Accepted empty := by
  intro f v h
  cases h

theorem Accepted.set {d : Draft} (hd : d.Accepted) {f : Field} {v : f.Value} (hv : f.Accepts v) :
    (d.set f v).Accepted := by
  intro g w h
  rw [Draft.set] at h
  split at h
  · next heq =>
    subst heq
    cases h
    exact hv
  · exact hd g w h

/-- The draft with the values of the columns `fs` filled in. -/
def holding (d : Draft) (get : (f : Field) → f.Value) (fs : List Field) : Draft :=
  fun f => if f ∈ fs then some (get f) else d f

theorem holding_nil (d : Draft) (get : (f : Field) → f.Value) : d.holding get [] = d := by
  funext f
  exact if_neg List.not_mem_nil

/-- A column that is filled in counts among those that are filled in later. -/
theorem holding_set (d : Draft) (get : (f : Field) → f.Value) (f : Field) (fs : List Field) :
    (d.set f (get f)).holding get fs = d.holding get (f :: fs) := by
  funext g
  by_cases hg : f = g
  · subst hg
    simp [holding, Draft.set]
  · have hg' : g ≠ f := fun h => hg h.symm
    simp [holding, Draft.set, hg, hg']

/-- The order in which columns are filled in does not count. -/
theorem holding_perm {d : Draft} {get : (f : Field) → f.Value} {fs gs : List Field}
    (h : fs.Perm gs) : d.holding get fs = d.holding get gs := by
  funext f
  simp only [holding, h.mem_iff]

theorem user_holding (u : User) : (empty.holding u.get Field.all).user = .ok u := rfl

theorem profile_holding (p : Profile) (id : AccountId) :
    (empty.holding (p.withId id).get Field.ofProfile).profile = .ok p := rfl

theorem need_eq_ok_iff {d : Draft} {f : Field} {v : f.Value} : d.need f = .ok v ↔ d f = some v := by
  rw [need]
  cases d f with
  | none => exact ⟨nofun, nofun⟩
  | some w => simp only [Except.ok.injEq, Option.some.injEq]

/-- A draft makes up the profile whose values it holds, whatever id it holds. -/
theorem profile_eq_ok_iff {d : Draft} {p : Profile} (id : AccountId) :
    d.profile = .ok p ↔ ∀ f ∈ Field.ofProfile, d f = some ((p.withId id).get f) := by
  constructor
  · intro h
    obtain ⟨username, husername, h⟩ := bind_eq_ok.mp h
    obtain ⟨passhash, hpasshash, h⟩ := bind_eq_ok.mp h
    obtain ⟨firstname, hfirstname, h⟩ := bind_eq_ok.mp h
    obtain ⟨lastname, hlastname, h⟩ := bind_eq_ok.mp h
    obtain ⟨birthday, hbirthday, h⟩ := bind_eq_ok.mp h
    obtain ⟨timezone, htimezone, h⟩ := bind_eq_ok.mp h
    obtain ⟨address, haddress, h⟩ := bind_eq_ok.mp h
    obtain ⟨state, hstate, h⟩ := bind_eq_ok.mp h
    obtain ⟨zip, hzip, h⟩ := bind_eq_ok.mp h
    obtain ⟨ssn, hssn, h⟩ := bind_eq_ok.mp h
    cases h
    intro f hf
    cases f with
    | accountId => exact absurd hf (by decide)
    | _ => exact need_eq_ok_iff.mp ‹_›
  · intro h
    have hneed (f : Field) (hf : f ∈ Field.ofProfile) : d.need f = .ok ((p.withId id).get f) :=
      need_eq_ok_iff.mpr (h f hf)
    simp only [profile, hneed .username (by decide), hneed .passhash (by decide),
      hneed .firstname (by decide), hneed .lastname (by decide), hneed .birthday (by decide),
      hneed .timezone (by decide), hneed .address (by decide), hneed .state (by decide),
      hneed .zip (by decide), hneed .ssn (by decide)]
    rfl

/-- A draft makes up the user whose values it holds. -/
theorem user_eq_ok_iff {d : Draft} {u : User} : d.user = .ok u ↔ ∀ f, d f = some (u.get f) := by
  constructor
  · intro h
    obtain ⟨id, hid, h⟩ := bind_eq_ok.mp h
    obtain ⟨p, hp, h⟩ := bind_eq_ok.mp h
    cases h
    intro f
    by_cases hf : f ∈ Field.ofProfile
    · exact (profile_eq_ok_iff id).mp hp f hf
    · cases f with
      | accountId => exact need_eq_ok_iff.mp hid
      | _ => exact absurd (by decide) hf
  · intro h
    have hholding : d = empty.holding u.get Field.all := by
      funext f
      rw [h, holding, if_pos (Field.mem_all f)]
    rw [hholding, user_holding]

end Draft

/-- Any values of the columns are those of a user. -/
theorem User.exists_get_eq (get : (f : Field) → f.Value) : ∃ u : User, ∀ f, u.get f = get f := by
  let p : Profile := ⟨get .username, get .passhash, get .firstname, get .lastname,
    get .birthday, get .timezone, get .address, get .state, get .zip, get .ssn⟩
  refine ⟨p.withId (get .accountId), fun f => ?_⟩
  cases f <;> rfl

/-- A user is told by the values of its columns. -/
theorem User.eq_of_get {u v : User} (h : ∀ f, u.get f = v.get f) : u = v := by
  have hget : u.get = v.get := funext h
  have hdraft := Draft.user_holding u
  rw [hget, Draft.user_holding v] at hdraft
  exact (Except.ok.inj hdraft).symm

end AccountRegistry
