/-
The users in an SQLite database.

* **`Row.user_storedRow`** — a stored row holds the user that was stored;
* **`SqliteDatabase.holding`** — the database whose table holds some users;
* **`SqliteDatabase.perform_countId`**, **`perform_find`**, **`perform_insert`** — what the
  statements do to such a table and give back.

Design notes: the birthday is the only column whose text might turn into a number.  It does
not, because a dash follows the digits of the year.
-/
import AccountRegistry.Proofs.Date
import AccountRegistry.Store.Sqlite.Database

namespace AccountRegistry

/-! ### Cells -/

/-- Digits that a dash follows are no number. -/
theorem numericForm_of_dash {sign ds : List Char} (hsign : sign ∈ [[], ['-'], ['+']])
    (hne : ds ≠ []) (hds : ∀ c ∈ ds, c.isDigit = true) (rest : List Char) :
    numericForm (sign ++ ds ++ '-' :: rest) = none := by
  obtain ⟨d, ds, rfl⟩ := List.exists_cons_of_ne_nil hne
  have hd : d.isDigit = true := hds d List.mem_cons_self
  have hdigit : 48 ≤ d.toNat ∧ d.toNat ≤ 57 := Char.isDigit_iff_toNat.mp hd
  have hspace : isNumericSpace d = false := by
    have hblank : d ≠ ' ' := by
      rintro rfl
      cases hd
    simp only [isNumericSpace, Bool.or_eq_false_iff, decide_eq_false_iff_not,
      Bool.and_eq_false_iff]
    exact ⟨hblank, by omega⟩
  -- in front of the digits there is at most a sign
  have hsigned : ∃ negative,
      takeSign ((sign ++ (d :: ds) ++ '-' :: rest).dropWhile isNumericSpace) =
        (negative, (d :: ds) ++ '-' :: rest) := by
    simp only [List.mem_cons, List.not_mem_nil, or_false] at hsign
    rcases hsign with rfl | rfl | rfl
    · refine ⟨false, ?_⟩
      rw [List.nil_append, List.cons_append, List.dropWhile_cons_of_neg (by simp [hspace]), takeSign]
      · rintro cs ⟨⟩; cases hd
      · rintro cs ⟨⟩; cases hd
    · exact ⟨true, rfl⟩
    · exact ⟨false, rfl⟩
  obtain ⟨negative, hsigned⟩ := hsigned
  have htake : ((d :: ds) ++ '-' :: rest).takeWhile Char.isDigit = d :: ds := by
    rw [List.takeWhile_append_of_pos hds, List.takeWhile_cons_of_neg (by decide), List.append_nil]
  have hdrop : ((d :: ds) ++ '-' :: rest).dropWhile Char.isDigit = '-' :: rest := by
    rw [List.dropWhile_append_of_pos hds, List.dropWhile_cons_of_neg (by decide)]
  have hstop : ('-' :: rest).dropWhile isNumericSpace = '-' :: rest :=
    List.dropWhile_cons_of_neg (by decide)
  -- after them there is neither a point nor an exponent, but something is left
  have hplaces : takePlaces ('-' :: rest) = (none, '-' :: rest) := rfl
  have hexponent : takeExponent ('-' :: rest) = some (none, '-' :: rest) := rfl
  simp only [numericForm, hsigned, htake, hdrop, hplaces, hexponent, hstop, List.isEmpty_cons,
    Bool.false_and, Bool.false_eq_true, if_false]

/-- The text of a date stays a text in its column. -/
theorem numericCell_text (d : Date) : numericCell d.text = .text d.text := by
  obtain ⟨sign, ds, rest, hchars, hsign, hne, hds⟩ := d.exists_chars_eq
  rw [numericCell, Date.text, String.toList_ofList, hchars, numericForm_of_dash hsign hne hds]

/-- What a user has in a column is read back from it. -/
theorem Field.read_storedRow (u : User) (f : Field) : f.read (u.storedRow f) = .ok (u.get f) := by
  cases f with
  | birthday =>
    show readDate (numericCell u.birthday.text) = .ok u.birthday
    rw [numericCell_text, readDate, Date.parseStored_text]
    rfl
  | _ => rfl

/-! ### Rows -/

/-- If the columns `fs` of a row hold what `u` has in them, so does the draft of them. -/
theorem Row.draft_eq {r : Row} {u : User} {fs : List Field}
    (h : ∀ f ∈ fs, f.read (r f) = .ok (u.get f)) :
    Row.draft r fs = .ok fun f => if f ∈ fs then some (u.get f) else none := by
  induction fs with
  | nil => rfl
  | cons f fs ih =>
    have hrest := ih fun g hg => h g (List.mem_cons_of_mem f hg)
    rw [Row.draft, h f List.mem_cons_self, hrest]
    show Except.ok _ = Except.ok _
    congr 1
    funext g
    by_cases hg : f = g
    · subst hg
      simp [Draft.set]
    · have hg' : g ≠ f := fun h => hg h.symm
      simp [Draft.set, hg, hg']

/-- **A stored row holds the user that was stored.** -/
theorem Row.user_storedRow (u : User) : Row.user u.storedRow = .ok u := by
  rw [Row.user, Row.draft_eq fun f _ => Field.read_storedRow u f]
  rfl

namespace SqliteDatabase

/-! ### Tables -/

/-- The database whose table holds the given users, in the order in which they came. -/
def holding (us : List User) : SqliteDatabase := ⟨some (us.map User.storedRow)⟩

theorem rowsWith_username (us : List User) (n : String) :
    rowsWith (us.map User.storedRow) .username (.text n) =
      (us.filter (·.username == n)).map User.storedRow := by
  rw [rowsWith, List.filter_map]
  congr 2
  funext u
  show decide (Cell.text u.username = .text n) = decide (u.username = n)
  rw [decide_eq_decide, Cell.text.injEq]

theorem rowsWith_accountId (us : List User) (a : AccountId) :
    rowsWith (us.map User.storedRow) .accountId (.text a.text) =
      (us.filter (·.accountId == a)).map User.storedRow := by
  rw [rowsWith, List.filter_map]
  congr 2
  funext u
  show decide (Cell.text u.accountId.text = .text a.text) = decide (u.accountId = a)
  rw [decide_eq_decide, Cell.text.injEq]
  exact ⟨congrArg AccountId.mk, congrArg AccountId.text⟩

/-! ### Statements -/

theorem perform_countId (us : List User) (readOnly : Bool) (a : AccountId) :
    (holding us).perform readOnly (.countId a) =
      .ok (holding us, .count (us.filter (·.accountId == a)).length) := by
  show Except.ok (holding us, Reply.count (rowsWith _ .accountId (.text a.text)).length) = _
  rw [rowsWith_accountId, List.length_map]

theorem perform_find (us : List User) (readOnly : Bool) (n : String) :
    (holding us).perform readOnly (.find n) =
      .ok (holding us, .rows (((us.filter (·.username == n)).take 1).map User.storedRow)) := by
  show Except.ok (holding us, Reply.rows ((rowsWith _ .username (.text n)).take 1)) = _
  rw [rowsWith_username, List.map_take]

theorem isEmpty_filter (p : User → Bool) (us : List User) :
    (us.filter p).isEmpty = !us.any p := by
  induction us with
  | nil => rfl
  | cons u us ih =>
    rw [List.filter_cons, List.any_cons]
    cases p u with
    | true => rfl
    | false => exact ih

theorem isEmpty_rowsWith_username {us : List User} {u : User} :
    (rowsWith (us.map User.storedRow) .username (u.storedRow .username)).isEmpty =
      !us.any (·.username == u.username) := by
  show (rowsWith _ .username (.text u.username)).isEmpty = _
  rw [rowsWith_username, List.isEmpty_map, isEmpty_filter]

theorem isEmpty_rowsWith_accountId {us : List User} {u : User} :
    (rowsWith (us.map User.storedRow) .accountId (u.storedRow .accountId)).isEmpty =
      !us.any (·.accountId == u.accountId) := by
  show (rowsWith _ .accountId (.text u.accountId.text)).isEmpty = _
  rw [rowsWith_accountId, List.isEmpty_map, isEmpty_filter]

/-- **An insert into the table.** The username is looked at first. -/
theorem perform_insert (us : List User) (u : User) :
    (holding us).perform false (.insert u) =
      if us.any (·.username == u.username) then .error (uniqueFault 2067 .username)
      else if us.any (·.accountId == u.accountId) then .error (uniqueFault 1555 .accountId)
      else .ok (holding (us ++ [u]), .done) := by
  show (insertRow (us.map User.storedRow) u.storedRow).map _ = _
  unfold insertRow
  rw [isEmpty_rowsWith_username, isEmpty_rowsWith_accountId, Bool.not_not, Bool.not_not]
  split
  · rfl
  · split
    · rfl
    · rw [holding, List.map_append]
      rfl

end SqliteDatabase

namespace SqlStore

theorem isTaken_count (n : Nat) : isTaken (.count n) = .ok (decide (0 < n)) := by
  rw [isTaken]
  congr 1
  exact decide_eq_decide.mpr Int.natCast_pos

/-- The first of the rows that were stored is the user found. -/
theorem foundUser_rows (us : List User) :
    foundUser (.rows (us.map User.storedRow)) = .ok us.head? := by
  cases us with
  | nil => rfl
  | cons u us =>
    rw [List.map_cons, foundUser, Row.user_storedRow]
    rfl

end SqlStore

end AccountRegistry
