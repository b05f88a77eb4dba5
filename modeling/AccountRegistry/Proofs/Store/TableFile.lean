/-
Stores on a file that holds the table of users.

* **`Files.KeepsTable`** — two directories that differ at most in the rows of one table;
* **`Session.OnTable.call`** — a call keeps the table where it is, and the pool as it is;
* **`openSqlite_of_file`** — which pool a URI leads to does not depend on what is in its file, if
  only the file is there;
* **`openStore_of_table`** — to open a store on a table changes nothing in the directory.

Design notes: to create the table where there is one writes the file again, with the same rows.
What an opened directory is can therefore only be told up to the way in which its entries are
kept, that is, by what stands at each place.
-/
import AccountRegistry.Proofs.Store.FileStore

namespace AccountRegistry

/-! ### Tables in files -/

namespace Files

/-- The file at `p` holds a table of users. -/
def HasTable (fs : Files) (p : Path) : Prop :=
  ∃ rows, fs.entryAt p = .file (.database ⟨some rows⟩)

theorem usersAt_of_table {fs : Files} {p : Path} {rows : List Row}
    (h : fs.entryAt p = .file (.database ⟨some rows⟩)) : fs.usersAt p = rows := by
  rw [usersAt, h]
  rfl

/-- Where there are rows there is a table. -/
theorem hasTable_of_usersAt {fs : Files} {p : Path} {r : Row} (h : r ∈ fs.usersAt p) :
    fs.HasTable p := by
  rw [usersAt] at h
  split at h
  · next c hc =>
    cases c with
    | text t =>
      rw [Content.asDatabase] at h
      split at h <;> cases h
    | database db =>
      obtain ⟨_ | rows⟩ := db
      · cases h
      · exact ⟨rows, hc⟩
  · cases h

/-- The files `fs'` are the files `fs`, but for the rows of the table at `p`. -/
structure KeepsTable (p : Path) (fs fs' : Files) : Prop where
  elsewhere : ∀ q, q ≠ p → fs'.entryAt q = fs.entryAt q
  before : fs.HasTable p
  after : fs'.HasTable p

namespace KeepsTable

variable {p : Path} {fs fs' : Files}

theorem refl (h : fs.HasTable p) : KeepsTable p fs fs := ⟨fun _ _ => rfl, h, h⟩

/-- The table is written. -/
theorem put (h : KeepsTable p fs fs') (rows : List Row) :
    KeepsTable p fs (fs'.put p (.database ⟨some rows⟩)) := by
  obtain ⟨_, hfile⟩ := h.after
  refine ⟨fun q hq => ?_, h.before, rows, entryAt_put ..⟩
  rw [entryAt_put_of_ne (hasWayTo_of_file hfile) hq, h.elsewhere q hq]

end KeepsTable

end Files

/-! ### Calls -/

namespace SqliteDatabase

/-- A statement on a table fails or leaves a table. -/
theorem perform_table (rows : List Row) (readOnly : Bool) (st : Statement) :
    (∃ e, (⟨some rows⟩ : SqliteDatabase).perform readOnly st = .error e) ∨
      ∃ rows' reply,
        (⟨some rows⟩ : SqliteDatabase).perform readOnly st = .ok (⟨some rows'⟩, reply) := by
  cases st with
  | createUsers => exact .inr ⟨_, _, rfl⟩
  | countId a => exact .inr ⟨_, _, rfl⟩
  | find n => exact .inr ⟨_, _, rfl⟩
  | insert u =>
    cases readOnly with
    | true => exact .inl ⟨_, rfl⟩
    | false =>
      have hperform : (⟨some rows⟩ : SqliteDatabase).perform false (.insert u) =
          (insertRow rows u.storedRow).map fun rs => (⟨some rs⟩, .done) := rfl
      rw [hperform]
      cases insertRow rows u.storedRow with
      | error e => exact .inl ⟨e, rfl⟩
      | ok rows' => exact .inr ⟨rows', .done, rfl⟩

end SqliteDatabase

namespace SqlitePool

variable {pool : SqlitePool} {p : Path} {fs : Files}

theorem database_of_table {rows : List Row} (hhome : pool.home = .file p)
    (h : fs.entryAt p = .file (.database ⟨some rows⟩)) : pool.database fs = .ok ⟨some rows⟩ := by
  simp only [database, hhome, h, Content.asDatabase]

/-- What is answered keeps the table, and the pool as it is. -/
theorem respond_keepsTable (hhome : pool.home = .file p) (q : SqlStep) {s : SqliteState}
    (h : s.pool = pool ∧ Files.KeepsTable p fs s.files) :
    (respond q s).state.pool = pool ∧ Files.KeepsTable p fs (respond q s).state.files := by
  obtain ⟨hpool, hkeeps⟩ := h
  cases q with
  | draw => exact ⟨hpool, hkeeps⟩
  | acquire => exact ⟨hpool, hkeeps⟩
  | perform st =>
    show (perform st s).state.pool = pool ∧ Files.KeepsTable p fs (perform st s).state.files
    have hhome' : s.pool.home = .file p := hpool ▸ hhome
    obtain ⟨rows, hrows⟩ := hkeeps.after
    have hdb := database_of_table hhome' hrows
    obtain ⟨e, hst⟩ | ⟨rows', reply, hst⟩ :=
      SqliteDatabase.perform_table rows s.pool.readOnly st
    · simp only [perform, hdb, Except.bind, hst]
      exact ⟨hpool, hkeeps⟩
    · simp only [perform, hdb, Except.bind, hst]
      -- a statement that changes something writes the table
      cases st with
      | createUsers =>
        rw [home_store hhome']
        exact ⟨hpool, hkeeps.put rows'⟩
      | insert u =>
        rw [home_store hhome']
        exact ⟨hpool, hkeeps.put rows'⟩
      | countId a => exact ⟨hpool, hkeeps⟩
      | find n => exact ⟨hpool, hkeeps⟩

end SqlitePool

/-- The store of a session is a pool on the table in the file at `p`. -/
structure Session.OnTable (s : Session) (pool : SqlitePool) (p : Path) : Prop where
  engine : s.engine = .sqlite pool
  home : pool.home = .file p
  table : s.world.files.HasTable p

namespace Session.OnTable

variable {s : Session} {pool : SqlitePool} {p : Path}

theorem onFile (h : s.OnTable pool p) : s.OnFile p := ⟨pool, h.engine, h.home⟩

/-- **A call on a table** keeps it where it is, and the pool as it is. -/
theorem call (h : s.OnTable pool p) (o : StoreOptions) (system : String) (q : StoreCall) :
    (storeOf o system q s).state.OnTable pool p ∧
      Files.KeepsTable p s.world.files (storeOf o system q s).state.world.files := by
  rw [storeOf_state]
  obtain ⟨w, engine⟩ := s
  obtain ⟨rfl, hhome, htable⟩ := h
  let t : SqliteState := ⟨w.files, pool, w.source⟩
  obtain ⟨hpool, hkeeps⟩ := Dialogue.run_preserves
    (fun t : SqliteState => t.pool = pool ∧ Files.KeepsTable p w.files t.files)
    (fun q _ ht => SqlitePool.respond_keepsTable hhome q ht)
    (SqlStore.call SqlitePool.dialect o.retry q) (s := t) ⟨rfl, .refl htable⟩
  exact ⟨⟨congrArg Engine.sqlite hpool, hhome, hkeeps.after⟩, hkeeps⟩

end Session.OnTable

/-! ### Opening -/

section Opening

variable {uri : String} {o : StoreOptions} {fs fs' : Files} {engine : Engine}

/-- **What a URI leads to** is a pool of volatile databases, in every directory alike, or a pool
on the file of its location. -/
theorem openSqlite_cases (h : openSqlite uri o fs = .ok (engine, fs')) :
    ∃ l, SqliteLocation.ofUri uri = .ok l ∧
      ((l.isVolatile = true ∧
          engine = .volatile (.opened (PoolLimits.ofUri uri o) l.isShared l.refusesWrites) ∧
          ∀ fs, openSqlite uri o fs = .ok (engine, fs)) ∨
        (l.isVolatile = false ∧
          engine = .sqlite ⟨.file (Path.plain l.name), l.refusesWrites, false⟩ ∧
          ∀ fs pool fs', l.openFile fs = .ok (pool, fs') →
            openSqlite uri o fs = .ok (.sqlite pool, fs'))) := by
  obtain ⟨l, hl, hstart, hopen⟩ := openSqlite_eq_ok_iff.mp h
  refine ⟨l, hl, ?_⟩
  obtain ⟨_, hcheck, hrest⟩ := bind_eq_ok.mp hopen
  cases hvolatile : l.isVolatile with
  | true =>
    rw [hvolatile, if_pos rfl] at hrest
    cases hrest
    refine .inl ⟨rfl, rfl, fun fs => ?_⟩
    refine openSqlite_eq_ok_iff.mpr ⟨l, hl, hstart, bind_eq_ok.mpr ⟨_, hcheck, ?_⟩⟩
    rw [hvolatile, if_pos rfl]
  | false =>
    obtain ⟨pool, rfl, hfile⟩ := SqliteLocation.openWith_inv hvolatile hopen
    obtain ⟨rfl, -⟩ := SqliteLocation.openFile_inv hfile
    refine .inr ⟨rfl, rfl, fun fs pool fs' hpool => ?_⟩
    refine openSqlite_eq_ok_iff.mpr ⟨l, hl, hstart, bind_eq_ok.mpr ⟨_, hcheck, ?_⟩⟩
    rw [hvolatile, if_neg Bool.false_ne_true, hpool]
    rfl

variable {pool : SqlitePool} {p : Path}

/-- **Which pool a URI leads to** does not depend on what is in its file, if only the file is
there. -/
theorem openSqlite_of_file (h : openSqlite uri o fs = .ok (.sqlite pool, fs'))
    (hhome : pool.home = .file p) {fs₂ : Files} {c : Content} (hc : fs₂.entryAt p = .file c) :
    openSqlite uri o fs₂ = .ok (.sqlite pool, fs₂) := by
  obtain ⟨l, -, ⟨-, hengine, -⟩ | ⟨-, hengine, hopen⟩⟩ := openSqlite_cases h
  · cases hengine
  · obtain rfl := Engine.sqlite.inj hengine
    obtain rfl : Path.plain l.name = p := SqliteHome.file.inj hhome
    refine hopen fs₂ _ fs₂ ?_
    simp only [SqliteLocation.openFile, hc]

theorem not_closed_of_openSqlite (h : openSqlite uri o fs = .ok (.sqlite pool, fs')) :
    pool.closed = false := by
  obtain ⟨l, -, ⟨-, hengine, -⟩ | ⟨-, hengine, -⟩⟩ := openSqlite_cases h
  · cases hengine
  · rw [Engine.sqlite.inj hengine]

end Opening

/-- What it takes to create the table through an open pool. -/
theorem runSql_createSchema {w : World} {pool : SqlitePool} (hclosed : pool.closed = false) :
    let o := SqlitePool.perform .createUsers ⟨w.files, pool, w.source⟩
    let r := Session.runSql SqlStore.createSchema ⟨w, .sqlite pool⟩
    r.value = (o.value.map fun _ => ()).mapError ClientFault.storeError ∧
      r.state = Session.ofSqlite ⟨w, .sqlite pool⟩ o.state := by
  intro o r
  let t : SqliteState := ⟨w.files, pool, w.source⟩
  have hclosed' : t.pool.closed = false := hclosed
  have hr : r = Session.lift (Session.ofSqlite ⟨w, .sqlite pool⟩)
      (SqlStore.createSchema.run SqlitePool.respond t) := rfl
  rw [hr, SqlStore.createSchema, SqliteStore.run_perform_bind, hclosed', if_neg Bool.false_ne_true]
  exact ⟨rfl, rfl⟩

/-- A table is created where there is none, and a table that is there is written as it is. -/
theorem SqlitePool.perform_createUsers_inv {t : SqliteState} {reply : Reply}
    (h : (perform .createUsers t).value = .ok reply) :
    (perform .createUsers t).state = store t ⟨some t.rows⟩ := by
  cases hdb : t.pool.database t.files with
  | error e =>
    simp only [perform, hdb, Except.bind] at h
    cases h
  | ok db =>
    rw [rows_of_database hdb]
    obtain ⟨_ | rows⟩ := db
    · cases hreadOnly : t.pool.readOnly with
      | true =>
        simp only [perform, hdb, Except.bind, SqliteDatabase.perform, hreadOnly, if_true] at h
        cases h
      | false =>
        simp only [perform, hdb, Except.bind, SqliteDatabase.perform, hreadOnly,
          Bool.false_eq_true, if_false]
        rfl
    · simp only [perform, hdb, Except.bind, SqliteDatabase.perform]
      rfl

/-- **What has been opened with its table prepared** has a table. -/
theorem state_prepareSchema {o : StoreOptions} (ho : o.createSchema = true) {w : World}
    {pool : SqlitePool} (hclosed : pool.closed = false)
    (h : (prepareSchema o ⟨w, .sqlite pool⟩).value = .ok ()) :
    let t : SqliteState := ⟨w.files, pool, w.source⟩
    (prepareSchema o ⟨w, .sqlite pool⟩).state =
      Session.ofSqlite ⟨w, .sqlite pool⟩ (SqlitePool.store t ⟨some t.rows⟩) := by
  intro t
  rw [prepareSchema, if_pos ho] at h ⊢
  obtain ⟨hvalue, hstate⟩ := runSql_createSchema (w := w) hclosed
  rw [hvalue] at h
  have hdone := mapError_eq_ok.mp h
  cases hreply : (SqlitePool.perform .createUsers t).value with
  | error e =>
    rw [hreply] at hdone
    cases hdone
  | ok reply => rw [hstate, SqlitePool.perform_createUsers_inv hreply]

/-- **To prepare a table that is there** changes nothing in the directory. -/
theorem prepareSchema_of_table (o : StoreOptions) {w : World} {pool : SqlitePool} {p : Path}
    (h : Session.OnTable ⟨w, .sqlite pool⟩ pool p) (hclosed : pool.closed = false) :
    ∃ files, w.files.SameEntries files ∧
      (prepareSchema o ⟨w, .sqlite pool⟩).value = .ok () ∧
      (prepareSchema o ⟨w, .sqlite pool⟩).state = ⟨{ w with files }, .sqlite pool⟩ := by
  obtain ⟨-, hhome, rows, hrows⟩ := h
  rw [prepareSchema]
  split
  · let t : SqliteState := ⟨w.files, pool, w.source⟩
    let files := w.files.put p (.database ⟨some rows⟩)
    have hdb : pool.database w.files = .ok ⟨some rows⟩ :=
      SqlitePool.database_of_table hhome hrows
    have hstore : SqlitePool.store t ⟨some rows⟩ = { t with files } :=
      SqlitePool.home_store (s := t) hhome _
    have hperform : SqlitePool.perform .createUsers t = ⟨.ok .done, { t with files }, []⟩ := by
      simp only [SqlitePool.perform, t, hdb, Except.bind, SqliteDatabase.perform]
      rw [hstore]
    obtain ⟨hvalue, hstate⟩ := runSql_createSchema (w := w) hclosed
    refine ⟨files, fun q => ?_, ?_, ?_⟩
    · -- the table is written as it was
      by_cases hq : q = p
      · rw [hq, Files.entryAt_put, hrows]
      · exact Files.entryAt_put_of_ne (Files.hasWayTo_of_file hrows) hq _
    · rw [hvalue, hperform]
      rfl
    · rw [hstate, hperform]
      rfl
  · exact ⟨w.files, fun _ => rfl, rfl, rfl⟩

/-- **To open a store on a table** succeeds whenever it has succeeded in some directory, makes
the same pool, and changes nothing in the directory. -/
theorem openStore_of_table {uri : String} {o : StoreOptions} {fs fs' : Files}
    {pool : SqlitePool} {p : Path} (hb : Backend.ofUri uri = .ok .sqlite)
    (hpool : openSqlite uri o fs = .ok (.sqlite pool, fs')) (hhome : pool.home = .file p)
    {w : World} (hw : w.files.HasTable p) :
    ∃ files, w.files.SameEntries files ∧
      (openStore uri o w).value = .ok (.sqlite, ⟨{ w with files }, .sqlite pool⟩) ∧
      (openStore uri o w).state = { w with files } := by
  obtain ⟨rows, hrows⟩ := hw
  have hpool' := openSqlite_of_file hpool hhome hrows
  obtain ⟨files, hfiles, hvalue, hstate⟩ := prepareSchema_of_table o (w := w)
    ⟨rfl, hhome, rows, hrows⟩ (not_closed_of_openSqlite hpool)
  refine ⟨files, hfiles, ?_, ?_⟩
  · rw [openStore_of_prepared hb hpool' hvalue, hstate]
  · rw [(openStore_of_engine hb hpool').2, hstate]

end AccountRegistry
