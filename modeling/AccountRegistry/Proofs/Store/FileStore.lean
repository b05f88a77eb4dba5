/-
Stores on a database file.

* **`Session.OnFile.call`**, **`Session.OnFile.run`** — the rows in the file after one call,
  and after everything that a program does with the store;
* **`SqliteStore.accountId_ne_of_generate`** — a generated id is in no row;
* **`Store.insertedIn_register`** — on any store whatever, a registration inserts the user that
  it ends with, and nobody else;
* **`openStore_file`** — opening a store on a file changes neither the rows in it nor any
  other file.

Design notes: to open a store may create its file and the table in it.  Whatever it has
written is never a text that says anything, so that a command which reads its input afterwards
reads what was there before.
-/
import AccountRegistry.Proofs.Store.Agreement
import AccountRegistry.Proofs.Store.SqliteRows
import AccountRegistry.Service

namespace AccountRegistry

/-! ### Calls -/

namespace SqlitePool

variable {p : Path}

theorem home_store {s : SqliteState} (h : s.pool.home = .file p) (db : SqliteDatabase) :
    store s db = { s with files := s.files.put p (.database db) } := by
  rw [store, h]

/-- A statement leaves everything as it is, or writes the database. -/
theorem state_perform_cases (st : Statement) (s : SqliteState) :
    (perform st s).state = s ∨ ∃ db, (perform st s).state = store s db := by
  unfold perform
  split
  · exact .inl rfl
  · cases st with
    | createUsers => exact .inr ⟨_, rfl⟩
    | insert u => exact .inr ⟨_, rfl⟩
    | countId a => exact .inl rfl
    | find n => exact .inl rfl

/-- A pool on a file stays on it. -/
theorem home_respond (q : SqlStep) {s : SqliteState} (h : s.pool.home = .file p) :
    (respond q s).state.pool.home = .file p := by
  cases q with
  | draw => exact h
  | acquire => exact h
  | perform st =>
    show (perform st s).state.pool.home = .file p
    obtain hstate | ⟨db, hstate⟩ := state_perform_cases st s
    · rw [hstate, h]
    · rw [hstate, home_store h, h]

theorem rows_of_home {s : SqliteState} (h : s.pool.home = .file p) :
    s.rows = s.files.usersAt p := by
  rw [SqliteState.rows, h]

end SqlitePool

namespace SqliteStore

/-- An id that a check finds free is in no row. -/
theorem accountId_ne_of_trial {s : SqliteState} {id : AccountId}
    (h : (trial (.check id) s).value = .ok false) :
    ∀ r ∈ s.rows, r .accountId ≠ .text id.text := by
  obtain ⟨reply, hreply, htaken⟩ := bind_eq_ok.mp (mapError_eq_ok.mp h)
  rw [SqlitePool.reply_of_countId hreply] at htaken
  intro r hr hcell
  have hmem : r ∈ SqliteDatabase.rowsWith s.rows .accountId (.text id.text) :=
    List.mem_filter.mpr ⟨hr, beq_iff_eq.mpr hcell⟩
  have hlength := List.length_pos_of_mem hmem
  have hcount := of_decide_eq_false (Except.ok.inj htaken)
  omega

/-- **A generated id is in no row**, whatever the table holds. -/
theorem accountId_ne_of_generate (policy : RetryPolicy) {s : SqliteState} {id : AccountId}
    (h : (store policy .generate s).value = .ok id) :
    ∀ r ∈ s.rows, r .accountId ≠ .text id.text := by
  have hstore : store policy .generate s =
      (SqlStore.call SqlitePool.dialect policy .generate).run SqlitePool.respond s := rfl
  rw [hstore, SqlStore.call, Dialogue.run] at h
  cases hclosed : s.pool.closed with
  | true =>
    simp only [SqlitePool.respond, hclosed, if_true] at h
    cases h
  | false =>
    simp only [SqlitePool.respond, hclosed, Bool.false_eq_true, if_false] at h
    rw [Dialogue.run_via, RetryPolicy.generate, ← trial] at h
    generalize policy.bound = left, 1 = attempt at h
    -- each attempt sees the same rows, for a candidate is all that it uses up
    clear hclosed hstore
    induction left generalizing attempt s with
    | zero => cases h
    | succ left ih =>
      rw [RetryPolicy.value_attempts_succ] at h
      obtain ⟨taken, hchecked, h⟩ := bind_eq_ok.mp h
      let drawn : SqliteState := { s with source := s.source.draw.2 }
      cases taken with
      | false =>
        obtain rfl := Except.ok.inj h
        exact accountId_ne_of_trial (s := drawn) hchecked
      | true =>
        have hstate : (trial (.check s.source.draw.1) drawn).state = drawn :=
          SqlitePool.state_perform_countId drawn s.source.draw.1
        have hrest : ((policy.attempts left (attempt + 1)).run trial drawn).value = .ok id := by
          rw [← hstate]
          exact h
        exact ih (s := drawn) (attempt + 1) hrest

end SqliteStore

namespace Session

/-- The database of a session is the file at `p`. -/
def OnFile (s : Session) (p : Path) : Prop :=
  ∃ pool : SqlitePool, s.engine = .sqlite pool ∧ pool.home = .file p

namespace OnFile

variable {s : Session} {p : Path} (o : StoreOptions) (system : String)

/-- **The rows in the file after a call**: those before it, and that of the user whom it has
inserted. -/
theorem call (h : s.OnFile p) (q : StoreCall) :
    (storeOf o system q s).state.OnFile p ∧
      (storeOf o system q s).state.world.files.usersAt p = s.world.files.usersAt p ++
        (Store.insertedBy q (storeOf o system q s).value).map User.storedRow := by
  rw [storeOf_state, storeOf_value]
  obtain ⟨w, engine⟩ := s
  obtain ⟨pool, rfl, hhome⟩ := h
  let t : SqliteState := ⟨w.files, pool, w.source⟩
  have hstay : (SqliteStore.store o.retry q t).state.pool.home = .file p :=
    Dialogue.run_preserves (fun t : SqliteState => t.pool.home = .file p)
      (fun q _ h => SqlitePool.home_respond q h) _ hhome
  have hrows := SqliteStore.rows_store o.retry t q
  rw [SqlitePool.rows_of_home hstay, SqlitePool.rows_of_home (s := t) hhome] at hrows
  exact ⟨⟨_, rfl, hstay⟩, hrows⟩

/-- A generated id is in no row of the file. -/
theorem accountId_ne_of_generate (h : s.OnFile p) {id : AccountId}
    (hid : (storeOf o system .generate s).value = .ok id) :
    ∀ r ∈ s.world.files.usersAt p, r .accountId ≠ .text id.text := by
  rw [storeOf_value] at hid
  obtain ⟨w, engine⟩ := s
  obtain ⟨pool, rfl, hhome⟩ := h
  have hfree := SqliteStore.accountId_ne_of_generate o.retry (s := ⟨w.files, pool, w.source⟩) hid
  rw [SqlitePool.rows_of_home hhome] at hfree
  exact hfree

/-- What a search finds is in the file. -/
theorem exists_row_of_get (h : s.OnFile p) {n : String} {u : User}
    (hu : (storeOf o system (.get n) s).value = .ok (some u)) :
    ∃ r ∈ s.world.files.usersAt p, r .username = .text n ∧ r.user = .ok u := by
  rw [storeOf_value] at hu
  obtain ⟨w, engine⟩ := s
  obtain ⟨pool, rfl, hhome⟩ := h
  have hrow := SqliteStore.exists_row_of_get o.retry ⟨w.files, pool, w.source⟩ hu
  rw [SqlitePool.rows_of_home hhome] at hrow
  exact hrow

end OnFile

end Session

/-! ### Programs on a store -/

/-- The users that the calls of a run insert. -/
def Store.insertedIn {σ α : Type} (S : Store σ) :
    Dialogue StoreCall.interface α → σ → List User
  | .done _, _ => []
  | .note _ d, s => insertedIn S d s
  | .ask q k, s =>
    Store.insertedBy q (S q s).value ++ insertedIn S (k (S q s).value) (S q s).state

/-- **The rows in the file after a run**: those before it, and those of the users whom it has
inserted. -/
theorem Session.OnFile.run {α : Type} {s : Session} {p : Path} (o : StoreOptions)
    (system : String) (h : s.OnFile p) (d : Dialogue StoreCall.interface α) :
    (d.run (storeOf o system) s).state.OnFile p ∧
      (d.run (storeOf o system) s).state.world.files.usersAt p = s.world.files.usersAt p ++
        (Store.insertedIn (storeOf o system) d s).map User.storedRow := by
  induction d generalizing s with
  | done a => exact ⟨h, (List.append_nil _).symm⟩
  | note n d ih => exact ih h
  | ask q k ih =>
    obtain ⟨hstay, hrows⟩ := h.call o system q
    obtain ⟨hend, hrest⟩ := ih (storeOf o system q s).value hstay
    refine ⟨hend, ?_⟩
    rw [Store.insertedIn, List.map_append, ← List.append_assoc, ← hrows]
    exact hrest

namespace Store

variable {σ : Type} (S : Store σ) (p : Profile)

theorem insertedIn_rounds (total left attempt : Nat) (s : σ) :
    insertedIn S (Service.rounds p total left attempt) s =
        ((Service.rounds p total left attempt).run S s).value.toOption.toList ∧
      ∀ u, ((Service.rounds p total left attempt).run S s).value = .ok u →
        ∃ id, u = p.withId id := by
  have hfailed (e : StoreError) (u : User) (h : (Except.error e : Except StoreError User) = .ok u) :
      ∃ id, u = p.withId id := by
    cases h
  induction left generalizing attempt s with
  | zero => exact ⟨rfl, hfailed _⟩
  | succ left ih =>
    rw [Service.rounds]
    simp only [insertedIn, insertedBy, List.nil_append, Dialogue.run]
    cases hid : (S .generate s).value with
    | error e => exact ⟨rfl, hfailed _⟩
    | ok id =>
      simp only [insertedIn, Dialogue.run]
      cases hadd : (S (.add (p.withId id)) (S .generate s).state).value with
      | ok _ =>
        refine ⟨rfl, fun u hu => ⟨id, ?_⟩⟩
        exact (Except.ok.inj hu).symm
      | error e =>
        -- only a lost id leads to another round
        cases e with
        | duplicate key =>
          cases key with
          | accountId => exact ih (attempt + 1) _
          | username => exact ⟨rfl, hfailed _⟩
          | unknown => exact ⟨rfl, hfailed _⟩
        | connection t => exact ⟨rfl, hfailed _⟩
        | query t => exact ⟨rfl, hfailed _⟩
        | exhausted n => exact ⟨rfl, hfailed _⟩
        | invalidId e => exact ⟨rfl, hfailed _⟩

/-- **A registration inserts the user that it ends with**, whatever the store does, and
nobody else. -/
theorem insertedIn_register (configured : Nat) (s : σ) :
    insertedIn S (Service.register configured p) s =
        ((Service.register configured p).run S s).value.toOption.toList ∧
      ∀ u, ((Service.register configured p).run S s).value = .ok u → ∃ id, u = p.withId id :=
  insertedIn_rounds S p _ _ 1 s

end Store

/-! ### Opening -/

/-- If a URI names a database at all, it is the SQLite file at `p`. -/
def NamesFile (uri : String) (p : Path) : Prop :=
  ∀ b, Backend.ofUri uri = .ok b → b = .sqlite ∧
    ∀ l, SqliteLocation.ofUri uri = .ok l → l.isVolatile = false ∧ Path.plain l.name = p

/-- A content that is a database, if only an empty one. -/
def Content.IsBlank (c : Content) : Prop :=
  c.asText = "" ∨ c.asText = "SQLite format 3\x00"

theorem Content.isBlank_database (db : SqliteDatabase) : (database db).IsBlank := by
  obtain ⟨_ | rs⟩ := db
  · exact .inl rfl
  · exact .inr rfl

/-- What is left of the files once a database at `p` has been opened. -/
structure Files.OpenedAt (p : Path) (fs fs' : Files) : Prop where
  rewritten : RewrittenAt Content.IsBlank p fs fs'
  rows : fs'.usersAt p = fs.usersAt p
  exists_file : ∃ c, fs'.entryAt p = .file c

namespace SqliteLocation

variable {l : SqliteLocation} {fs fs' : Files}

/-- A file that is opened is the one that the location names. -/
theorem openFile_inv {pool : SqlitePool} (h : l.openFile fs = .ok (pool, fs')) :
    pool = ⟨.file (Path.plain l.name), l.refusesWrites, false⟩ ∧
      Files.OpenedAt (Path.plain l.name) fs fs' := by
  simp only [openFile] at h
  split at h
  · -- the file is there
    next c hfile =>
    cases h
    exact ⟨rfl, .refl fs, rfl, c, hfile⟩
  · next hmissing hparent =>
    split at h
    · -- it is created
      cases h
      have hway := Files.hasWayTo_of_directory hparent
      refine ⟨rfl, (Files.RewrittenAt.refl fs).put hway (.inl rfl), ?_, _, Files.entryAt_put ..⟩
      rw [Files.usersAt, Files.entryAt_put, Files.usersAt, hmissing]
      rfl
    · cases h
  · cases h

/-- A location with a file is opened by its file. -/
theorem openWith_inv {limits : PoolLimits} {engine : Engine} (hfile : l.isVolatile = false)
    (h : l.openWith limits fs = .ok (engine, fs')) :
    ∃ pool, engine = .sqlite pool ∧ l.openFile fs = .ok (pool, fs') := by
  obtain ⟨_, -, h⟩ := bind_eq_ok.mp h
  rw [hfile, if_neg Bool.false_ne_true] at h
  cases hopen : l.openFile fs with
  | error e =>
    rw [hopen] at h
    cases h
  | ok opened =>
    rw [hopen] at h
    cases h
    exact ⟨opened.1, rfl, rfl⟩

end SqliteLocation

/-- **What it takes to open the database of a URI**: a location, a pool with a first connection,
and a database at the location. -/
theorem openSqlite_eq_ok_iff {uri : String} {o : StoreOptions} {fs : Files} {x : Engine × Files} :
    openSqlite uri o fs = .ok x ↔
      ∃ l, SqliteLocation.ofUri uri = .ok l ∧
        (PoolLimits.ofUri uri o).start o.acquireTimeout = .ok () ∧
        l.openWith (PoolLimits.ofUri uri o) fs = .ok x := by
  constructor
  · intro h
    obtain ⟨l, hl, h⟩ := bind_eq_ok.mp h
    obtain ⟨_, hstart, h⟩ := bind_eq_ok.mp h
    exact ⟨l, mapError_eq_ok.mp hl, hstart, mapError_eq_ok.mp h⟩
  · rintro ⟨l, hl, hstart, h⟩
    exact bind_eq_ok.mpr ⟨l, mapError_eq_ok.mpr hl,
      bind_eq_ok.mpr ⟨(), hstart, mapError_eq_ok.mpr h⟩⟩

/-- What is opened on a file is a pool on that file. -/
theorem openSqlite_file {uri : String} {o : StoreOptions} {fs fs' : Files} {engine : Engine}
    {p : Path}
    (hlocation : ∀ l, SqliteLocation.ofUri uri = .ok l →
      l.isVolatile = false ∧ Path.plain l.name = p)
    (h : openSqlite uri o fs = .ok (engine, fs')) :
    ∃ pool, engine = .sqlite pool ∧ pool.home = .file p ∧ Files.OpenedAt p fs fs' := by
  obtain ⟨l, hl, -, h⟩ := openSqlite_eq_ok_iff.mp h
  obtain ⟨hfile, rfl⟩ := hlocation l hl
  obtain ⟨pool, rfl, hopen⟩ := SqliteLocation.openWith_inv hfile h
  obtain ⟨rfl, hopened⟩ := SqliteLocation.openFile_inv hopen
  exact ⟨_, rfl, rfl, hopened⟩

/-- To create the table leaves everything as it is, or writes a database with the same rows. -/
theorem SqliteStore.createSchema_cases (s : SqliteState) :
    let t := (SqlStore.createSchema.run SqlitePool.respond s).state
    t.rows = s.rows ∧ (t = s ∨ ∃ db, t = SqlitePool.store s db) := by
  intro t
  have ht : t = if s.pool.closed then s else (SqlitePool.perform .createUsers s).state := by
    show (SqlStore.createSchema.run SqlitePool.respond s).state = _
    rw [SqlStore.createSchema, run_perform_bind]
    split <;> rfl
  rw [ht]
  split
  · exact ⟨rfl, .inl rfl⟩
  · refine ⟨?_, SqlitePool.state_perform_cases .createUsers s⟩
    obtain ⟨e, h⟩ | ⟨r, t, h, hrows⟩ := SqlitePool.perform_cases .createUsers s
    · rw [h]
    · rw [h]
      exact hrows.trans (List.append_nil _)

/-- To prepare the table in a file leaves its rows as they are. -/
theorem prepareSchema_onFile (o : StoreOptions) {s : Session} {p : Path} {fs : Files}
    (h : s.OnFile p) (hopened : Files.OpenedAt p fs s.world.files) :
    (prepareSchema o s).state.OnFile p ∧
      Files.OpenedAt p fs (prepareSchema o s).state.world.files := by
  rw [prepareSchema]
  split
  · obtain ⟨w, engine⟩ := s
    obtain ⟨pool, rfl, hhome⟩ := h
    let t : SqliteState := ⟨w.files, pool, w.source⟩
    have hrun : (Session.runSql SqlStore.createSchema ⟨w, .sqlite pool⟩).state =
        Session.ofSqlite ⟨w, .sqlite pool⟩
          (SqlStore.createSchema.run SqlitePool.respond t).state := rfl
    obtain ⟨hrows, hstate⟩ := SqliteStore.createSchema_cases t
    rw [hrun]
    obtain hstate | ⟨db, hstate⟩ := hstate
    · rw [hstate]
      exact ⟨⟨pool, rfl, hhome⟩, hopened⟩
    · -- the table is created in a file that is there, so that no other place changes
      have hstore := SqlitePool.home_store (s := t) hhome db
      have hhome' : (SqlitePool.store t db).pool.home = .file p := by rw [hstore, hhome]
      rw [hstate, SqlitePool.rows_of_home hhome', SqlitePool.rows_of_home (s := t) hhome, hstore]
        at hrows
      rw [hstate, hstore]
      obtain ⟨c, hfile⟩ := hopened.exists_file
      refine ⟨⟨pool, rfl, hhome⟩, ?_, hrows.trans hopened.rows, _, Files.entryAt_put ..⟩
      exact hopened.rewritten.put (Files.hasWayTo_of_file hfile) (Content.isBlank_database db)
  · exact ⟨h, hopened⟩

theorem openStore_of_error {uri : String} {o : StoreOptions} {w : World}
    {e : OpeningFault ClientFault} (hb : Backend.ofUri uri = .ok .sqlite)
    (he : openSqlite uri o w.files = .error e) :
    openStore uri o w = ⟨.error e.connecting, w, []⟩ := by
  have hengine : openEngine .sqlite uri o w = .error e := by
    rw [openEngine, he]
    rfl
  rw [openStore, hb]
  simp only [hengine]

/-- **A database that can be opened** makes a store if its table can be prepared. -/
theorem openStore_of_engine {uri : String} {o : StoreOptions} {w : World} {engine : Engine}
    {files : Files} (hb : Backend.ofUri uri = .ok .sqlite)
    (h : openSqlite uri o w.files = .ok (engine, files)) :
    let r := prepareSchema o ⟨{ w with files }, engine⟩
    (openStore uri o w).value = (r.value.map fun _ => (.sqlite, r.state)).mapError .failed ∧
      (openStore uri o w).state = r.state.world := by
  intro r
  have hengine : openEngine .sqlite uri o w = .ok (engine, { w with files }) := by
    rw [openEngine, h]
    rfl
  have hmemory : Backend.sqlite ≠ .memory := nofun
  rw [openStore, hb]
  simp only [hengine, if_neg hmemory]
  split
  · next e he =>
    have hr : r.value = .error e := he
    rw [hr]
    exact ⟨rfl, rfl⟩
  · next hdone =>
    have hr : r.value = .ok () := hdone
    rw [hr]
    exact ⟨rfl, rfl⟩

/-- A database whose table can be prepared makes a store. -/
theorem openStore_of_prepared {uri : String} {o : StoreOptions} {w : World} {engine : Engine}
    {files : Files} (hb : Backend.ofUri uri = .ok .sqlite)
    (hopen : openSqlite uri o w.files = .ok (engine, files))
    (h : (prepareSchema o ⟨{ w with files }, engine⟩).value = .ok ()) :
    (openStore uri o w).value =
      .ok (.sqlite, (prepareSchema o ⟨{ w with files }, engine⟩).state) := by
  rw [(openStore_of_engine hb hopen).1, h]
  rfl

/-- A store that is opened is a database whose table has been prepared. -/
theorem openStore_inv {uri : String} {o : StoreOptions} {w : World} {b : Backend} {s : Session}
    (hb : Backend.ofUri uri = .ok .sqlite) (h : (openStore uri o w).value = .ok (b, s)) :
    ∃ engine files, openSqlite uri o w.files = .ok (engine, files) ∧
      (prepareSchema o ⟨{ w with files }, engine⟩).value = .ok () ∧ b = .sqlite ∧
      s = (prepareSchema o ⟨{ w with files }, engine⟩).state := by
  cases hopen : openSqlite uri o w.files with
  | error e =>
    rw [openStore_of_error hb hopen] at h
    cases h
  | ok opened =>
    obtain ⟨engine, files⟩ := opened
    rw [(openStore_of_engine hb hopen).1] at h
    cases hvalue : (prepareSchema o ⟨{ w with files }, engine⟩).value with
    | error e =>
      rw [hvalue] at h
      cases h
    | ok _ =>
      rw [hvalue] at h
      cases h
      exact ⟨engine, files, rfl, hvalue, rfl, rfl⟩

/-- **Opening a store on a file.**  The rows in the file stay as they are, nothing is written
that has a text to be read, and what is opened is the store on the file. -/
theorem openStore_file {uri : String} {p : Path} (h : NamesFile uri p) (o : StoreOptions)
    (w : World) :
    let r := openStore uri o w
    r.state.files.usersAt p = w.files.usersAt p ∧
      Files.RewrittenAt Content.IsBlank p w.files r.state.files ∧
      ∀ b s, r.value = .ok (b, s) → s.OnFile p ∧ s.world = r.state := by
  intro r
  cases hb : Backend.ofUri uri with
  | error e =>
    have hr : r = ⟨.error (.failed e), w, []⟩ := by
      show openStore uri o w = _
      rw [openStore, hb]
    rw [hr]
    refine ⟨rfl, .refl _, fun b s h => ?_⟩
    cases h
  | ok b =>
    -- the only kind of database that the URI may name is SQLite
    obtain ⟨rfl, hlocation⟩ := h b hb
    cases hopen : openSqlite uri o w.files with
    | error e =>
      have hr : r = ⟨.error e.connecting, w, []⟩ := openStore_of_error hb hopen
      rw [hr]
      refine ⟨rfl, .refl _, fun b s h => ?_⟩
      cases h
    | ok opened =>
      obtain ⟨engine, files⟩ := opened
      obtain ⟨pool, rfl, hhome, hopened⟩ := openSqlite_file hlocation hopen
      let s : Session := ⟨{ w with files }, .sqlite pool⟩
      have hfile : s.OnFile p := ⟨pool, rfl, hhome⟩
      obtain ⟨hend, hprepared⟩ := prepareSchema_onFile o hfile hopened
      have hstate : r.state = (prepareSchema o s).state.world := (openStore_of_engine hb hopen).2
      rw [hstate]
      refine ⟨hprepared.rows, hprepared.rewritten, fun b t h => ?_⟩
      obtain ⟨engine', files', hopen', -, -, rfl⟩ := openStore_inv hb h
      cases hopen.symm.trans hopen'
      exact ⟨hend, rfl⟩

end AccountRegistry
