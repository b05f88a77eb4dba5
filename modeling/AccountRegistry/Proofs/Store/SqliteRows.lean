/-
The rows of the table of users, call by call.

* **`SqliteState.rows`** — the rows that a pool sees, in the connection itself or in a file;
* **`SqliteStore.add_cases`** — an insert fails and changes nothing, or it appends the row of
  its user;
* **`SqliteStore.exists_state_generate`**, **`SqliteStore.state_get`** — a generation only
  draws candidates, a search changes nothing;
* **`SqliteStore.rows_store`** — a call adds the row of the user that it has inserted, and
  no other.

Nothing is assumed here of the rows that a table already holds, nor of the pool: it may be
closed, open for reading only, or lead to a file that is no database.
-/
import AccountRegistry.Proofs.Store.SqliteStore

namespace AccountRegistry

/-- The user that a call has inserted, if it has inserted one. -/
def Store.insertedBy : (q : StoreCall) → StoreCall.interface.Answer q → List User
  | .add u, .ok _ => [u]
  | _, _ => []

/-- The rows of the table; none if there is no table. -/
def SqliteDatabase.rows (db : SqliteDatabase) : List Row :=
  db.users.getD []

/-- The rows of the table in the file at a place; none if there is no such table. -/
def Files.usersAt (fs : Files) (p : Path) : List Row :=
  match fs.entryAt p with
  | .file c => (c.asDatabase.getD .empty).rows
  | _ => []

/-- The rows that the pool sees; none if there is no table to be seen. -/
def SqliteState.rows (s : SqliteState) : List Row :=
  match s.pool.home with
  | .own db => db.rows
  | .file p => s.files.usersAt p

namespace Files

/-- A file that has been written holds what has been written. -/
theorem usersAt_put (fs : Files) (p : Path) (db : SqliteDatabase) :
    (fs.put p (.database db)).usersAt p = db.rows := by
  rw [usersAt, entryAt_put]
  rfl

end Files

/-- The rows that a statement adds when it succeeds. -/
def Statement.newRows : Statement → List Row
  | .insert u => [u.storedRow]
  | _ => []

namespace SqliteDatabase

theorem insertRow_cases (rs : List Row) (r : Row) :
    (∃ e, insertRow rs r = .error e) ∨ insertRow rs r = .ok (rs ++ [r]) := by
  unfold insertRow
  split
  · exact .inl ⟨_, rfl⟩
  · split
    · exact .inl ⟨_, rfl⟩
    · exact .inr rfl

/-- A statement fails, or leaves the rows that there are and its new ones. -/
theorem perform_cases (db : SqliteDatabase) (readOnly : Bool) (st : Statement) :
    (∃ e, db.perform readOnly st = .error e) ∨
      ∃ db' r, db.perform readOnly st = .ok (db', r) ∧ db'.rows = db.rows ++ st.newRows := by
  have hsame : db.rows = db.rows ++ [] := (List.append_nil _).symm
  obtain ⟨_ | rs⟩ := db
  · -- without a table only its creation can succeed
    cases st with
    | createUsers =>
      cases readOnly with
      | true => exact .inl ⟨_, rfl⟩
      | false => exact .inr ⟨_, _, rfl, rfl⟩
    | countId a => exact .inl ⟨_, rfl⟩
    | insert u => exact .inl ⟨_, rfl⟩
    | find n => exact .inl ⟨_, rfl⟩
  · cases st with
    | createUsers => exact .inr ⟨_, _, rfl, hsame⟩
    | countId a => exact .inr ⟨_, _, rfl, hsame⟩
    | find n => exact .inr ⟨_, _, rfl, hsame⟩
    | insert u =>
      cases readOnly with
      | true => exact .inl ⟨_, rfl⟩
      | false =>
        have hperform : (⟨some rs⟩ : SqliteDatabase).perform false (.insert u) =
            (insertRow rs u.storedRow).map fun rs => (⟨some rs⟩, .done) := rfl
        rw [hperform]
        obtain ⟨e, h⟩ | h := insertRow_cases rs u.storedRow
        · rw [h]
          exact .inl ⟨e, rfl⟩
        · rw [h]
          exact .inr ⟨_, _, rfl, rfl⟩

end SqliteDatabase

namespace SqlitePool

/-- The rows of the database of a pool are the rows that the pool sees. -/
theorem rows_of_database {s : SqliteState} {db : SqliteDatabase}
    (h : s.pool.database s.files = .ok db) : s.rows = db.rows := by
  obtain ⟨files, ⟨home, readOnly, closed⟩, source⟩ := s
  cases home with
  | own db' =>
    obtain rfl := Except.ok.inj h
    rfl
  | file p =>
    simp only [database] at h
    simp only [SqliteState.rows, Files.usersAt]
    cases hentry : files.entryAt p with
    | missing =>
      rw [hentry] at h
      obtain rfl := Except.ok.inj h
      rfl
    | directory =>
      rw [hentry] at h
      obtain rfl := Except.ok.inj h
      rfl
    | file c =>
      simp only [hentry] at h
      cases hc : c.asDatabase with
      | none =>
        simp only [hc] at h
        cases h
      | some db' =>
        simp only [hc] at h
        obtain rfl := Except.ok.inj h
        simp only [hc]
        rfl

theorem rows_store (s : SqliteState) (db : SqliteDatabase) : (store s db).rows = db.rows := by
  obtain ⟨files, ⟨home, readOnly, closed⟩, source⟩ := s
  cases home with
  | own db' => rfl
  | file p => exact files.usersAt_put p db

/-- **A statement on the connection** fails and changes nothing, or leaves the rows that
there are and its new ones. -/
theorem perform_cases (st : Statement) (s : SqliteState) :
    (∃ e, perform st s = ⟨.error e, s, []⟩) ∨
      ∃ r t, perform st s = ⟨.ok r, t, []⟩ ∧ t.rows = s.rows ++ st.newRows := by
  cases hdb : s.pool.database s.files with
  | error e =>
    refine .inl ⟨.database e, ?_⟩
    simp only [perform, hdb, Except.bind]
  | ok db =>
    rw [rows_of_database hdb]
    obtain ⟨e, h⟩ | ⟨db', r, h, hrows⟩ := db.perform_cases s.pool.readOnly st
    · refine .inl ⟨.database e, ?_⟩
      simp only [perform, hdb, Except.bind, h]
    · refine .inr ?_
      have hsame : s.rows = db.rows ++ [] := (rows_of_database hdb).trans (List.append_nil _).symm
      simp only [perform, hdb, Except.bind, h]
      cases st with
      | createUsers => exact ⟨r, _, rfl, (rows_store s db').trans hrows⟩
      | insert u => exact ⟨r, _, rfl, (rows_store s db').trans hrows⟩
      | countId a => exact ⟨r, s, rfl, hsame⟩
      | find n => exact ⟨r, s, rfl, hsame⟩

/-- A statement that only reads changes nothing. -/
theorem state_perform_countId (s : SqliteState) (a : AccountId) :
    (perform (.countId a) s).state = s := by
  unfold perform
  split <;> rfl

theorem state_perform_find (s : SqliteState) (n : String) :
    (perform (.find n) s).state = s := by
  unfold perform
  split <;> rfl

/-- The reply to a count is the number of rows of the id. -/
theorem reply_of_countId {s : SqliteState} {a : AccountId} {reply : Reply}
    (h : (perform (.countId a) s).value = .ok reply) :
    reply = .count (SqliteDatabase.rowsWith s.rows .accountId (.text a.text)).length := by
  cases hdb : s.pool.database s.files with
  | error e =>
    simp only [perform, hdb, Except.bind] at h
    cases h
  | ok db =>
    rw [rows_of_database hdb]
    obtain ⟨_ | rs⟩ := db
    · simp only [perform, hdb, Except.bind, SqliteDatabase.perform] at h
      cases h
    · simp only [perform, hdb, Except.bind, SqliteDatabase.perform] at h
      exact (Except.ok.inj h).symm

/-- The reply to a search holds the first row of the name. -/
theorem reply_of_find {s : SqliteState} {n : String} {reply : Reply}
    (h : (perform (.find n) s).value = .ok reply) :
    reply = .rows ((SqliteDatabase.rowsWith s.rows .username (.text n)).take 1) := by
  cases hdb : s.pool.database s.files with
  | error e =>
    simp only [perform, hdb, Except.bind] at h
    cases h
  | ok db =>
    rw [rows_of_database hdb]
    obtain ⟨_ | rs⟩ := db
    · simp only [perform, hdb, Except.bind, SqliteDatabase.perform] at h
      cases h
    · simp only [perform, hdb, Except.bind, SqliteDatabase.perform] at h
      exact (Except.ok.inj h).symm

end SqlitePool

namespace SqliteStore

variable (policy : RetryPolicy) (s : SqliteState)

/-- **An insert** fails and changes nothing, or appends the row of its user. -/
theorem add_cases (u : User) :
    (∃ e, store policy (.add u) s = ⟨.error e, s, []⟩) ∨
      ∃ t, store policy (.add u) s =
          ⟨.ok (), t, [SqlStore.added SqlitePool.dialect u.username]⟩ ∧
        t.rows = s.rows ++ [u.storedRow] := by
  rw [store_add_eq_run, run_perform_bind]
  cases hclosed : s.pool.closed with
  | true => exact .inl ⟨_, rfl⟩
  | false =>
    obtain ⟨e, h⟩ | ⟨r, t, h, hrows⟩ := SqlitePool.perform_cases (.insert u) s
    · rw [h]
      exact .inl ⟨_, rfl⟩
    · rw [h]
      exact .inr ⟨t, rfl, hrows⟩

/-- **A search** changes nothing. -/
theorem state_get (n : String) : (store policy (.get n) s).state = s := by
  have hfinish : ∀ r, ((SqlStore.finishGet SqlitePool.dialect n r).run SqlitePool.respond s).state
      = s := by
    intro r
    unfold SqlStore.finishGet
    split <;> rfl
  rw [store_get_eq_run, run_perform_bind]
  split
  · exact hfinish _
  · simp only [SqlitePool.state_perform_find]
    exact hfinish _

/-- **A generation** draws candidates and changes nothing else. -/
theorem exists_state_generate :
    ∃ source, (store policy .generate s).state = { s with source } := by
  have hstore : store policy .generate s =
      (SqlStore.call SqlitePool.dialect policy .generate).run SqlitePool.respond s := rfl
  rw [hstore, SqlStore.call, Dialogue.run]
  cases hclosed : s.pool.closed with
  | true =>
    simp only [SqlitePool.respond, hclosed, if_true]
    exact ⟨s.source, rfl⟩
  | false =>
    simp only [SqlitePool.respond, hclosed, Bool.false_eq_true, if_false]
    rw [Dialogue.run_via]
    -- each question of the generator leaves all but the source as it is
    refine Dialogue.run_preserves (fun t : SqliteState => ∃ source, t = { s with source })
      ?_ policy.generate ⟨s.source, rfl⟩
    rintro q t ⟨source, rfl⟩
    cases q with
    | draw => exact ⟨source.draw.2, rfl⟩
    | check a =>
      refine ⟨source, ?_⟩
      show (SqlitePool.perform (.countId a) _).state = _
      rw [SqlitePool.state_perform_countId]

/-- **The rows after a call**: those before it, and that of the user whom it has inserted. -/
theorem rows_store (q : StoreCall) :
    (store policy q s).state.rows =
      s.rows ++ (Store.insertedBy q (store policy q s).value).map User.storedRow := by
  cases q with
  | add u =>
    obtain ⟨e, h⟩ | ⟨t, h, hrows⟩ := add_cases policy s u
    · rw [h]
      exact (List.append_nil _).symm
    · rw [h]
      exact hrows
  | generate =>
    obtain ⟨source, h⟩ := exists_state_generate policy s
    rw [h]
    exact (List.append_nil _).symm
  | get n =>
    rw [state_get]
    exact (List.append_nil _).symm

/-- **What a search finds is in the table.** -/
theorem exists_row_of_get {n : String} {u : User}
    (h : (store policy (.get n) s).value = .ok (some u)) :
    ∃ r ∈ s.rows, r .username = .text n ∧ r.user = .ok u := by
  have hfinish (r : Except ClientFault Reply) (t : SqliteState)
      (hr : ((SqlStore.finishGet SqlitePool.dialect n r).run SqlitePool.respond t).value =
        .ok (some u)) : ∃ reply, r = .ok reply ∧ SqlStore.foundUser reply = .ok (some u) := by
    unfold SqlStore.finishGet at hr
    split at hr
    · next found hfound =>
      obtain rfl := Except.ok.inj hr
      exact bind_eq_ok.mp hfound
    · cases hr
  rw [store_get_eq_run, run_perform_bind] at h
  split at h
  · obtain ⟨reply, hreply, -⟩ := hfinish _ _ h
    cases hreply
  · obtain ⟨reply, hreply, hfound⟩ := hfinish _ _ h
    obtain rfl := SqlitePool.reply_of_find hreply
    -- of the rows that are found the first one counts
    cases hfirst : (SqliteDatabase.rowsWith s.rows .username (.text n)).take 1 with
    | nil =>
      rw [hfirst] at hfound
      cases hfound
    | cons r rest =>
      rw [hfirst] at hfound
      have hmem : r ∈ SqliteDatabase.rowsWith s.rows .username (.text n) :=
        List.mem_of_mem_take (hfirst ▸ List.mem_cons_self)
      obtain ⟨hr, hname⟩ := List.mem_filter.mp hmem
      refine ⟨r, hr, beq_iff_eq.mp hname, ?_⟩
      simp only [SqlStore.foundUser] at hfound
      split at hfound
      · next v hv =>
        cases hfound
        exact hv
      · cases hfound

end SqliteStore

end AccountRegistry
