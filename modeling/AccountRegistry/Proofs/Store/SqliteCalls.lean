/-
The store on an SQLite database over any sequence of calls.

* **`SqliteStore.exists_after_holding`** — the table holds the users inserted so far, in the
  order in which they came;
* **`SqliteStore.find_after`** — the user of a name is found for ever, and a name of which no
  further insert speaks is answered for ever alike;
* **`reachable_sqlite_store`** — the state after any calls on a new table: an insert with new
  keys works and gives its user back, whatever comes after it, and any other insert is refused
  and changes nothing.

Design notes: what the table holds is said of the stored cells.  That a cell holds what was
bound to it, the date in its written form too, is `Row.user_storedRow`.
-/
import AccountRegistry.Proofs.Store.MemoryStore
import AccountRegistry.Proofs.Store.SqliteRows

namespace AccountRegistry

/-- The users that some calls have inserted, in the order in which they came. -/
def Store.inserted {σ : Type} (S : Store σ) : σ → List StoreCall → List User
  | _, [] => []
  | s, q :: calls => insertedBy q (S q s).value ++ inserted S (S q s).state calls

/-- What some calls have inserted was asked of them. -/
theorem Store.add_mem_of_mem_inserted {σ : Type} {S : Store σ} {s : σ} {calls : List StoreCall}
    {u : User} (h : u ∈ inserted S s calls) : .add u ∈ calls := by
  induction calls generalizing s with
  | nil => cases h
  | cons q calls ih =>
    obtain h | h := List.mem_append.mp h
    · cases q with
      | add v =>
        cases hvalue : (S (.add v) s).value with
        | error e =>
          rw [hvalue] at h
          cases h
        | ok _ =>
          rw [hvalue] at h
          rw [List.mem_singleton.mp h]
          exact List.mem_cons_self
      | generate => cases h
      | get n => cases h
    · exact List.mem_cons_of_mem q (ih h)

namespace SqliteStore

variable (policy : RetryPolicy) (files : Files) (us : List User) (source : CandidateSource)

/-- A new database in memory in which the table has just been created. -/
def created : SqliteState :=
  (SqlStore.createSchema.run SqlitePool.respond ⟨files, .fresh, source⟩).state

theorem created_eq : created files source = .holding files [] source := rfl

theorem rows_holding : (SqliteState.holding files us source).rows = us.map User.storedRow := rfl

/-! ### Sequences of calls on a table -/

/-- After a call the table holds the users that it held, and the one inserted. -/
theorem exists_store_holding (q : StoreCall) :
    ∃ source', (store policy q (.holding files us source)).state =
      .holding files (us ++ Store.insertedBy q (store policy q (.holding files us source)).value)
        source' := by
  cases q with
  | generate =>
    obtain ⟨source', h⟩ := exists_state_generate policy (.holding files us source)
    refine ⟨source', ?_⟩
    rw [h, Store.insertedBy, List.append_nil]
    · rfl
    · rintro u _ ⟨⟩
  | get n =>
    refine ⟨source, ?_⟩
    rw [state_get, store_get, Store.insertedBy, List.append_nil]
    rintro u _ ⟨⟩
  | add u =>
    refine ⟨source, ?_⟩
    rw [store_add]
    split
    · exact congrArg (SqliteState.holding files · source) (List.append_nil us).symm
    · split
      · exact congrArg (SqliteState.holding files · source) (List.append_nil us).symm
      · rfl

/-- **After any calls** the table holds the users inserted so far. -/
theorem exists_after_holding (calls : List StoreCall) :
    ∃ source', Store.after (store policy) (.holding files us source) calls =
      .holding files (us ++ Store.inserted (store policy) (.holding files us source) calls)
        source' := by
  induction calls generalizing us source with
  | nil => exact ⟨source, congrArg (SqliteState.holding files · source) (List.append_nil us).symm⟩
  | cons q calls ih =>
    obtain ⟨source₁, hfirst⟩ := exists_store_holding policy files us source q
    obtain ⟨source₂, hrest⟩ :=
      ih (us ++ Store.insertedBy q (store policy q (.holding files us source)).value) source₁
    refine ⟨source₂, ?_⟩
    show Store.after (store policy) (store policy q (.holding files us source)).state calls = _
    rw [Store.inserted, hfirst, hrest, List.append_assoc]

/-- A search among the users that come first is not changed by those that come later. -/
theorem find_append_of_some {us vs : List User} {n : String} {u : User}
    (h : us.find? (·.username == n) = some u) : (us ++ vs).find? (·.username == n) = some u := by
  rw [List.find?_append, h]
  rfl

/-- Users of other names do not change a search. -/
theorem find_append_of_ne {us vs : List User} {n : String} (h : ∀ v ∈ vs, v.username ≠ n) :
    (us ++ vs).find? (·.username == n) = us.find? (·.username == n) := by
  have hnone : vs.find? (·.username == n) = none := by
    rw [List.find?_eq_none]
    intro v hv hn
    exact h v hv (beq_iff_eq.mp hn)
  rw [List.find?_append, hnone, Option.or_none]

/-- The first user of a name is found. -/
theorem find_append_self {us : List User} {u : User}
    (h : us.any (·.username == u.username) = false) :
    (us ++ [u]).find? (·.username == u.username) = some u := by
  have hnone : us.find? (·.username == u.username) = none := by
    rw [List.find?_eq_none]
    exact List.any_eq_false.mp h
  rw [List.find?_append, hnone, Option.none_or]
  exact List.find?_cons_of_pos (beq_self_eq_true u.username)

/-- A search after further calls: a user once found is found again, and calls that insert
nobody of the name do not change the answer. -/
theorem get_after (n : String) (more : List StoreCall) :
    let s := SqliteState.holding files us source
    (∀ u, us.find? (·.username == n) = some u →
      (store policy (.get n) (Store.after (store policy) s more)).value = .ok (some u)) ∧
    ((∀ v, .add v ∈ more → v.username ≠ n) →
      (store policy (.get n) (Store.after (store policy) s more)).value =
        .ok (us.find? (·.username == n))) := by
  intro s
  obtain ⟨source', hafter⟩ := exists_after_holding policy files us source more
  rw [hafter, store_get]
  constructor
  · intro u hu
    rw [find_append_of_some hu]
  · intro hmore
    rw [find_append_of_ne]
    exact fun v hv => hmore v (Store.add_mem_of_mem_inserted hv)

/-! ### Keys in use -/

theorem any_username_eq_false_iff {us : List User} {n : String} :
    us.any (·.username == n) = false ↔
      ∀ r ∈ us.map User.storedRow, r .username ≠ .text n := by
  rw [List.any_eq_false]
  simp only [List.forall_mem_map, beq_iff_eq]
  refine forall₂_congr fun u _ => not_congr ⟨congrArg Cell.text, fun h => ?_⟩
  exact Cell.text.inj h

theorem any_accountId_eq_false_iff {us : List User} {a : AccountId} :
    us.any (·.accountId == a) = false ↔
      ∀ r ∈ us.map User.storedRow, r .accountId ≠ .text a.text := by
  rw [List.any_eq_false]
  simp only [List.forall_mem_map, beq_iff_eq]
  refine forall₂_congr fun u _ => not_congr ⟨fun h => h ▸ rfl, fun h => ?_⟩
  exact congrArg AccountId.mk (Cell.text.inj h)

variable {us} {u : User}

theorem store_add_of_free
    (hid : ∀ r ∈ us.map User.storedRow, r .accountId ≠ .text u.accountId.text)
    (hname : ∀ r ∈ us.map User.storedRow, r .username ≠ .text u.username) :
    store policy (.add u) (.holding files us source) =
      ⟨.ok (), .holding files (us ++ [u]) source,
        [SqlStore.added SqlitePool.dialect u.username]⟩ := by
  rw [← any_accountId_eq_false_iff] at hid
  rw [← any_username_eq_false_iff] at hname
  rw [store_add, hname, hid, if_neg Bool.false_ne_true, if_neg Bool.false_ne_true]

theorem store_add_of_taken
    (hkey : (∃ r ∈ us.map User.storedRow, r .accountId = .text u.accountId.text) ∨
      ∃ r ∈ us.map User.storedRow, r .username = .text u.username) :
    ∃ key, store policy (.add u) (.holding files us source) =
      ⟨.error (.duplicate key), .holding files us source, []⟩ := by
  rw [store_add]
  by_cases hname : us.any (·.username == u.username) = true
  · rw [if_pos hname]
    exact ⟨_, rfl⟩
  · -- the username is new, so that it is the id that is in use
    have hid : us.any (·.accountId == u.accountId) = true := by
      by_contra hid
      rw [Bool.not_eq_true, any_accountId_eq_false_iff] at hid
      rw [Bool.not_eq_true, any_username_eq_false_iff] at hname
      obtain ⟨r, hr, hcell⟩ | ⟨r, hr, hcell⟩ := hkey
      · exact hid r hr hcell
      · exact hname r hr hcell
    rw [if_neg hname, if_pos hid]
    exact ⟨_, rfl⟩

/-- **The store on SQLite after any calls on a new table.**  An insert both of whose keys are
new works and adds its row; its user is found from then on, exactly as it was inserted, and
every other username is answered as before as long as nobody of that name is inserted.  An
insert one of whose keys is in use is refused with that key, and changes nothing. -/
theorem reachable_sqlite_store (calls : List StoreCall) :
    let S := store policy
    let s := Store.after S (created files source) calls
    (∀ u : User, (∀ r ∈ s.rows, r .accountId ≠ .text u.accountId.text) →
      (∀ r ∈ s.rows, r .username ≠ .text u.username) →
      let t := (S (.add u) s).state
      (S (.add u) s).value = .ok () ∧ t.rows = s.rows ++ [u.storedRow] ∧
      (∀ more, (S (.get u.username) (Store.after S t more)).value = .ok (some u)) ∧
      ∀ n, n ≠ u.username → ∀ more, (∀ v, .add v ∈ more → v.username ≠ n) →
        (S (.get n) (Store.after S t more)).value = (S (.get n) s).value) ∧
    (∀ u : User, ((∃ r ∈ s.rows, r .accountId = .text u.accountId.text) ∨
        ∃ r ∈ s.rows, r .username = .text u.username) →
      (∃ key, (S (.add u) s).value = .error (.duplicate key)) ∧ (S (.add u) s).state = s ∧
      ∀ n, (S (.get n) (S (.add u) s).state).value = (S (.get n) s).value) ∧
    ∀ n u, (S (.get n) s).value = .ok (some u) →
      ∀ more, (S (.get n) (Store.after S s more)).value = .ok (some u) := by
  intro S s
  obtain ⟨source', hs⟩ := exists_after_holding policy files [] source calls
  rw [← created_eq, List.nil_append] at hs
  generalize Store.inserted (store policy) (created files source) calls = us at hs
  have hs : s = .holding files us source' := hs
  rw [hs, rows_holding]
  refine ⟨fun u hid hname => ?_, fun u hkey => ?_, fun n u hfound more => ?_⟩
  · have hadd : S (.add u) (.holding files us source') = _ :=
      store_add_of_free policy files source' hid hname
    rw [hadd]
    refine ⟨rfl, ?_, fun more => ?_, fun n hn more hmore => ?_⟩
    · rw [rows_holding, List.map_append]
      rfl
    · have hfind := find_append_self (any_username_eq_false_iff.mpr hname)
      exact (get_after policy files (us ++ [u]) source' u.username more).1 u hfind
    · have hsame : (us ++ [u]).find? (·.username == n) = us.find? (·.username == n) := by
        refine find_append_of_ne fun v hv => ?_
        rw [List.mem_singleton.mp hv]
        exact hn.symm
      have hbefore : S (.get n) (.holding files us source') = _ :=
        store_get policy files us source' n
      rw [(get_after policy files (us ++ [u]) source' n more).2 hmore, hbefore, hsame]
  · obtain ⟨key, hrefused⟩ := store_add_of_taken policy files source' hkey
    have hrefused : S (.add u) (.holding files us source') = _ := hrefused
    rw [hrefused]
    exact ⟨⟨key, rfl⟩, rfl, fun n => rfl⟩
  · have hget : S (.get n) (.holding files us source') = _ := store_get policy files us source' n
    rw [hget] at hfound
    exact (get_after policy files us source' n more).1 u (Except.ok.inj hfound)

end SqliteStore

end AccountRegistry
