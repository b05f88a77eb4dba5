/-
The store on an SQLite database.

* **`SqliteState.Holds`** — the table of the database holds some users, and the pool can be
  written to; so it is with a pool that has created its table (**`holds_of_created`**);
* **`Holds.store_add`**, **`Holds.store_get`**, **`Holds.trial_check`**,
  **`Holds.store_generate`** — what each operation does then: an insert looks at the username
  first, a search gives the first user of the name, and a generation checks its candidates
  against the table;
* **`SqliteState.holding`** — the database in memory that holds some users.

Design notes: the database may be in the connection or in a file.  Of the difference the
operations only know `SqlitePool.database` and `SqlitePool.store`.
-/
import AccountRegistry.Proofs.Dialogue
import AccountRegistry.Proofs.Files
import AccountRegistry.Proofs.Store.SqliteTable
import AccountRegistry.Store.Sqlite.Connection

namespace AccountRegistry

namespace SqlitePool

/-- What has been stored is the content of the database. -/
theorem database_store (s : SqliteState) (db : SqliteDatabase) :
    (store s db).pool.database (store s db).files = .ok db := by
  obtain ⟨files, ⟨home, readOnly, closed⟩, source⟩ := s
  cases home with
  | own db' => rfl
  | file p =>
    simp only [store, database, Files.entryAt_put]
    rfl

theorem closed_store (s : SqliteState) (db : SqliteDatabase) :
    (store s db).pool.closed = s.pool.closed := by
  unfold store
  split <;> rfl

theorem readOnly_store (s : SqliteState) (db : SqliteDatabase) :
    (store s db).pool.readOnly = s.pool.readOnly := by
  unfold store
  split <;> rfl

theorem source_store (s : SqliteState) (db : SqliteDatabase) :
    (store s db).source = s.source := by
  unfold store
  split <;> rfl

end SqlitePool

namespace SqliteStore

/-- The store for a single client. -/
def store (policy : RetryPolicy) : Store SqliteState :=
  Responder.via SqlitePool.respond (SqlStore.call SqlitePool.dialect policy)

/-- Answers the questions of a generation. -/
def trial : Responder Trial.interface SqliteState :=
  Responder.via SqlitePool.respond SqlStore.trial

variable (policy : RetryPolicy) (s : SqliteState)

/-- A statement together with what a store makes of its result. -/
theorem run_perform_bind {α : Type} (st : Statement)
    (f : Except ClientFault Reply → Dialogue SqlStep.interface α) :
    ((SqlStore.perform st).bind f).run SqlitePool.respond s =
      if s.pool.closed then (f (.error .closed)).run SqlitePool.respond s
      else
        let o := SqlitePool.perform st s
        let p := (f o.value).run SqlitePool.respond o.state
        { p with notices := o.notices ++ p.notices } := by
  rw [SqlStore.perform, Dialogue.bind, Dialogue.run]
  cases hclosed : s.pool.closed with
  | true =>
    simp only [SqlitePool.respond, hclosed, if_true, Dialogue.bind, List.nil_append]
  | false =>
    simp only [SqlitePool.respond, hclosed, Bool.false_eq_true, if_false, Dialogue.bind,
      Dialogue.run, List.nil_append]

theorem store_add_eq_run (u : User) :
    store policy (.add u) s =
      ((SqlStore.perform (.insert u)).bind (SqlStore.finishAdd SqlitePool.dialect u)).run
        SqlitePool.respond s := rfl

theorem store_get_eq_run (n : String) :
    store policy (.get n) s =
      ((SqlStore.perform (.find n)).bind (SqlStore.finishGet SqlitePool.dialect n)).run
        SqlitePool.respond s := rfl

end SqliteStore

/-! ### Databases that hold users -/

/-- The table of the database holds the given users, the pool can be written to, and its
candidates come from the given source. -/
structure SqliteState.Holds (s : SqliteState) (us : List User) (source : CandidateSource) :
    Prop where
  isOpen : s.pool.closed = false
  writable : s.pool.readOnly = false
  users : s.pool.database s.files = .ok (.holding us)
  source_eq : s.source = source

theorem SqliteState.holds_store {s : SqliteState} (hopen : s.pool.closed = false)
    (hwritable : s.pool.readOnly = false) (us : List User) :
    (SqlitePool.store s (.holding us)).Holds us s.source where
  isOpen := (SqlitePool.closed_store s _).trans hopen
  writable := (SqlitePool.readOnly_store s _).trans hwritable
  users := SqlitePool.database_store s _
  source_eq := SqlitePool.source_store s _

/-- A pool that has created its table in a new database can be written to. -/
theorem SqliteState.holds_of_created {s : SqliteState}
    (hnew : s.pool.database s.files = .ok .empty)
    (hcreated : (SqlStore.createSchema.run SqlitePool.respond s).value = .ok ()) :
    (SqlStore.createSchema.run SqlitePool.respond s).state.Holds [] s.source := by
  rw [SqlStore.createSchema, SqliteStore.run_perform_bind] at hcreated ⊢
  cases hclosed : s.pool.closed with
  | true =>
    rw [hclosed, if_pos rfl] at hcreated
    cases hcreated
  | false =>
    rw [hclosed, if_neg Bool.false_ne_true] at hcreated
    rw [if_neg Bool.false_ne_true]
    have hperform : SqlitePool.perform .createUsers s =
        if s.pool.readOnly then ⟨.error (.database SqliteDatabase.readOnlyFault), s, []⟩
        else ⟨.ok .done, SqlitePool.store s (.holding []), []⟩ := by
      simp only [SqlitePool.perform, hnew, Except.bind, SqliteDatabase.perform,
        SqliteDatabase.empty]
      cases s.pool.readOnly <;> rfl
    cases hreadOnly : s.pool.readOnly with
    | true =>
      rw [hperform, hreadOnly, if_pos rfl] at hcreated
      cases hcreated
    | false =>
      rw [hperform, hreadOnly, if_neg Bool.false_ne_true]
      exact holds_store hclosed hreadOnly []

namespace SqliteState.Holds

variable {s : SqliteState} {us : List User} {source : CandidateSource} (policy : RetryPolicy)

theorem store (h : s.Holds us source) (vs : List User) :
    (SqlitePool.store s (.holding vs)).Holds vs source :=
  h.source_eq ▸ holds_store h.isOpen h.writable vs

theorem perform_insert (h : s.Holds us source) (u : User) :
    SqlitePool.perform (.insert u) s =
      if us.any (·.username == u.username) then
        ⟨.error (.database (SqliteDatabase.uniqueFault 2067 .username)), s, []⟩
      else if us.any (·.accountId == u.accountId) then
        ⟨.error (.database (SqliteDatabase.uniqueFault 1555 .accountId)), s, []⟩
      else ⟨.ok .done, SqlitePool.store s (.holding (us ++ [u])), []⟩ := by
  simp only [SqlitePool.perform, h.users, h.writable, Except.bind, SqliteDatabase.perform_insert]
  by_cases hname : us.any (·.username == u.username)
  · simp only [if_pos hname]
  · simp only [if_neg hname]
    by_cases hid : us.any (·.accountId == u.accountId)
    · simp only [if_pos hid]
    · simp only [if_neg hid]

theorem perform_find (h : s.Holds us source) (n : String) :
    SqlitePool.perform (.find n) s =
      ⟨.ok (.rows (((us.filter (·.username == n)).take 1).map User.storedRow)), s, []⟩ := by
  simp only [SqlitePool.perform, h.users, Except.bind, SqliteDatabase.perform_find]

theorem perform_countId (h : s.Holds us source) (a : AccountId) :
    SqlitePool.perform (.countId a) s =
      ⟨.ok (.count (us.filter (·.accountId == a)).length), s, []⟩ := by
  simp only [SqlitePool.perform, h.users, Except.bind, SqliteDatabase.perform_countId]

/-- **An insert.** It looks at the username first. -/
theorem store_add (h : s.Holds us source) (u : User) :
    SqliteStore.store policy (.add u) s =
      if us.any (·.username == u.username) then ⟨.error (.duplicate .username), s, []⟩
      else if us.any (·.accountId == u.accountId) then
        ⟨.error (.duplicate .accountId), s, []⟩
      else
        ⟨.ok (), SqlitePool.store s (.holding (us ++ [u])),
          [SqlStore.added SqlitePool.dialect u.username]⟩ := by
  rw [SqliteStore.store_add_eq_run, SqliteStore.run_perform_bind, h.isOpen,
    if_neg Bool.false_ne_true, h.perform_insert]
  by_cases hname : us.any (·.username == u.username)
  · rw [if_pos hname, if_pos hname]
    rfl
  · rw [if_neg hname, if_neg hname]
    by_cases hid : us.any (·.accountId == u.accountId)
    · rw [if_pos hid, if_pos hid]
      rfl
    · rw [if_neg hid, if_neg hid]
      rfl

/-- **A search.** It gives the first user of the name. -/
theorem store_get (h : s.Holds us source) (n : String) :
    SqliteStore.store policy (.get n) s =
      ⟨.ok (us.find? (·.username == n)), s,
        [SqlStore.fetched SqlitePool.dialect n (us.find? (·.username == n)).isSome]⟩ := by
  have hfound : (Except.ok (Reply.rows (((us.filter (·.username == n)).take 1).map
      User.storedRow))).bind SqlStore.foundUser = .ok (us.find? (·.username == n)) := by
    rw [Except.bind, SqlStore.foundUser_rows, List.head?_take, if_neg Nat.one_ne_zero,
      List.head?_filter]
  rw [SqliteStore.store_get_eq_run, SqliteStore.run_perform_bind, h.isOpen,
    if_neg Bool.false_ne_true, h.perform_find]
  simp only [SqlStore.finishGet, hfound]
  rfl

theorem trial_check (h : s.Holds us source) (a : AccountId) :
    SqliteStore.trial (.check a) s = ⟨.ok (us.any (·.accountId == a)), s, []⟩ := by
  have htaken : decide (0 < (us.filter (·.accountId == a)).length) =
      us.any (·.accountId == a) := by
    rw [Bool.eq_iff_iff, decide_eq_true_iff, List.length_pos_iff, List.any_eq_true]
    simp [List.filter_eq_nil_iff]
  show (let o := SqlitePool.perform (.countId a) s
    (⟨(o.value.bind SqlStore.isTaken).mapError ClientFault.storeError, o.state, o.notices ++ []⟩ :
      Outcome SqliteState (Except StoreError Bool))) = _
  rw [h.perform_countId]
  show (⟨(SqlStore.isTaken (.count _)).mapError ClientFault.storeError, s, []⟩ : Outcome _ _) = _
  rw [SqlStore.isTaken_count, htaken]
  rfl

/-- **A generation** keeps its connection and asks the table about each candidate. -/
theorem store_generate (h : s.Holds us source) :
    SqliteStore.store policy .generate s = policy.generate.run SqliteStore.trial s := by
  show (SqlStore.call SqlitePool.dialect policy .generate).run SqlitePool.respond s = _
  rw [SqlStore.call, Dialogue.run]
  simp only [SqlitePool.respond, h.isOpen, Bool.false_eq_true, if_false]
  exact Dialogue.run_via _ _ _ _

end SqliteState.Holds

/-! ### A database in memory -/

/-- A database in memory whose table holds the given users. -/
def SqliteState.holding (files : Files) (us : List User) (source : CandidateSource) :
    SqliteState :=
  ⟨files, ⟨.own (.holding us), false, false⟩, source⟩

theorem SqliteState.holds_holding (files : Files) (us : List User) (source : CandidateSource) :
    (SqliteState.holding files us source).Holds us source := ⟨rfl, rfl, rfl, rfl⟩

namespace SqliteStore

variable (policy : RetryPolicy) (files : Files) (us : List User) (source : CandidateSource)

theorem store_add (u : User) :
    store policy (.add u) (.holding files us source) =
      if us.any (·.username == u.username) then
        ⟨.error (.duplicate .username), .holding files us source, []⟩
      else if us.any (·.accountId == u.accountId) then
        ⟨.error (.duplicate .accountId), .holding files us source, []⟩
      else
        ⟨.ok (), .holding files (us ++ [u]) source,
          [SqlStore.added SqlitePool.dialect u.username]⟩ :=
  (SqliteState.holds_holding files us source).store_add policy u

theorem store_get (n : String) :
    store policy (.get n) (.holding files us source) =
      ⟨.ok (us.find? (·.username == n)), .holding files us source,
        [SqlStore.fetched SqlitePool.dialect n (us.find? (·.username == n)).isSome]⟩ :=
  (SqliteState.holds_holding files us source).store_get policy n

theorem trial_check (a : AccountId) :
    trial (.check a) (.holding files us source) =
      ⟨.ok (us.any (·.accountId == a)), .holding files us source, []⟩ :=
  (SqliteState.holds_holding files us source).trial_check a

theorem store_generate :
    store policy .generate (.holding files us source) =
      policy.generate.run trial (.holding files us source) :=
  (SqliteState.holds_holding files us source).store_generate policy

end SqliteStore

end AccountRegistry
