/-
Users who are added in one run and looked up in another.

* **`Settings.Opens`** — settings that open a store on a file;
* **`Program.execute_addUser`**, **`Program.execute_register`** — a user who has been added is
  listed in the file;
* **`Program.execute_getUser`** — a user who is listed is printed;
* **`Program.Later`** — the worlds in which the file may be found after further runs;
* **`Program.added_users_are_found`** — whoever has been added or registered is printed by
  every later search, with the text that it has been added with.

Design notes: runs have nothing in common but the file of the database.  Between two of them
the settings, the variables, the other files and the candidates may change in any way.
-/
import AccountRegistry.Proofs.CommandLine.Program
import AccountRegistry.Proofs.Store.NamedRows
import AccountRegistry.Proofs.User.Json

namespace AccountRegistry

/-! ### Settings that open a file -/

/-- The settings open, in some world, a store on the file at `p` through the given pool. -/
structure Settings.Opens (s : Settings) (pool : SqlitePool) (p : Path) : Prop where
  backend : Backend.ofUri s.database.url = .ok .sqlite
  home : pool.home = .file p
  opened : ∃ w b t, (openStore s.database.url s.storeOptions w).value = .ok (b, t) ∧
    t.engine = .sqlite pool

/-- To prepare the table leaves a pool on a file as it is. -/
theorem engine_prepareSchema (o : StoreOptions) (w : World) {pool : SqlitePool} {p : Path}
    (h : pool.home = .file p) :
    (prepareSchema o ⟨w, .sqlite pool⟩).state.engine = .sqlite pool := by
  rw [prepareSchema]
  split
  · let t : SqliteState := ⟨w.files, pool, w.source⟩
    have hrun : (Session.runSql SqlStore.createSchema ⟨w, .sqlite pool⟩).state =
        Session.ofSqlite ⟨w, .sqlite pool⟩
          (SqlStore.createSchema.run SqlitePool.respond t).state := rfl
    rw [hrun]
    obtain ⟨-, hstate | ⟨db, hstate⟩⟩ := SqliteStore.createSchema_cases t
    · rw [hstate]
      rfl
    · rw [hstate, SqlitePool.home_store (s := t) h]
      rfl
  · rfl

namespace Settings.Opens

variable {s : Settings} {pool : SqlitePool} {p : Path}

/-- The pool is what the URL leads to. -/
theorem openSqlite (h : s.Opens pool p) :
    ∃ fs fs', openSqlite s.database.url s.storeOptions fs = .ok (.sqlite pool, fs') := by
  obtain ⟨hb, -, w, b, t, hvalue, hengine⟩ := h
  obtain ⟨engine, files, hopen, -, -, rfl⟩ := openStore_inv hb hvalue
  refine ⟨w.files, files, ?_⟩
  obtain ⟨l, -, ⟨-, rfl, -⟩ | ⟨-, rfl, -⟩⟩ := openSqlite_cases hopen
  · -- what is in no file stays so
    rw [prepareSchema] at hengine
    split at hengine <;> cases hengine
  · rw [engine_prepareSchema s.storeOptions _ rfl] at hengine
    rw [hopen, hengine]

theorem not_closed (h : s.Opens pool p) : pool.closed = false := by
  obtain ⟨fs, fs', hpool⟩ := h.openSqlite
  exact not_closed_of_openSqlite hpool

/-- **Where there is a table it is opened**, and the directory stays as it is. -/
theorem exists_session (h : s.Opens pool p) {w : World} (hw : w.files.HasTable p) :
    ∃ t, (openStore s.database.url s.storeOptions w).value = .ok (.sqlite, t) ∧
      t.OnTable pool p ∧ w.files.SameEntries t.world.files := by
  obtain ⟨fs, fs', hpool⟩ := h.openSqlite
  obtain ⟨files, hfiles, hvalue, -⟩ := openStore_of_table h.backend hpool h.home hw
  obtain ⟨rows, hrows⟩ := hw
  exact ⟨_, hvalue, ⟨rfl, h.home, rows, (hfiles p).trans hrows⟩, hfiles⟩

end Settings.Opens

theorem Files.SameEntries.usersAt {fs fs' : Files} (h : fs.SameEntries fs') (p : Path) :
    fs'.usersAt p = fs.usersAt p := by
  rw [Files.usersAt, Files.usersAt, h p]

namespace Program

/-- What is read in a directory is told from its entries. -/
theorem readRecord_of_sameEntries {α : Type} (r : Record α) {fs fs' : Files}
    (h : fs.SameEntries fs') (input : String) (file : Option String) :
    readRecord r fs' input file = readRecord r fs input file := by
  cases file with
  | none => rfl
  | some path => rw [readRecord, readRecord, inputOf, inputOf, h.find]

/-! ### Commands on a table -/

section Commands

variable {settings : Settings} {pool : SqlitePool} {p : Path} {w : World}

/-- **A user who is listed is printed.** -/
theorem execute_getUser (h : settings.Opens pool p) (hw : w.files.HasTable p) {u : User}
    (hlists : SqliteDatabase.Lists (w.files.usersAt p) u) (input : String) :
    (execute settings (.getUser u.username) input w).value = .succeeded u.json.pretty := by
  obtain ⟨t, hvalue, htable, hfiles⟩ := h.exists_session hw
  rw [← hfiles.usersAt p] at hlists
  have hget := htable.value_get settings.storeOptions (Backend.name .sqlite) h.not_closed hlists
  rw [execute, hvalue]
  exact (operate_of_ok (d := .ask (.get u.username) .done) hget _).1

/-- **A user whose keys are not in use is added** to a table that is open for writing. -/
theorem execute_addUser (h : settings.Opens pool p) (hwrite : pool.readOnly = false)
    (hw : w.files.HasTable p) {input : String} {file : Option String} {u : User}
    (hread : readRecord User.record w.files input file = .ok u)
    (hfresh : SqliteDatabase.Fresh (w.files.usersAt p) u.storedRow) :
    let o := execute settings (.addUser file) input w
    o.value = .succeeded u.accountId.text ∧
      SqliteDatabase.Lists (o.state.files.usersAt p) u := by
  intro o
  obtain ⟨t, hvalue, htable, hfiles⟩ := h.exists_session hw
  rw [← hfiles.usersAt p] at hfresh
  rw [← readRecord_of_sameEntries _ hfiles] at hread
  let store := storeOf settings.storeOptions (Backend.name .sqlite)
  let d : Dialogue StoreCall.interface (Except StoreError Unit) := .ask (.add u) .done
  have hadd : (d.run store t).value = .ok () :=
    htable.value_add settings.storeOptions _ h.not_closed hwrite hfresh
  have hinserted : Store.insertedIn store d t = [u] := by
    have hvalue : (store (.add u) t).value = .ok () := hadd
    rw [Store.insertedIn, hvalue]
    rfl
  let finish : Unit → Conclusion × List Notice :=
    fun () => (.succeeded u.accountId.text, [userAdded u])
  obtain ⟨hend, hstate⟩ := operate_of_ok hadd finish
  have ho : o.value = (operate store t d finish).value ∧
      o.state = (operate store t d finish).state.world := by
    simp only [o, execute, hvalue, perform, hread]
    exact ⟨rfl, rfl⟩
  rw [ho.1, ho.2, hend, hstate]
  exact ⟨rfl, htable.onFile.lists_of_insertedIn _ _ _ hinserted⟩

/-- **Nobody is added** to a table that is open for reading only. -/
theorem execute_addUser_of_readOnly (h : settings.Opens pool p) (hreadOnly : pool.readOnly = true)
    (hw : w.files.HasTable p) (input : String) (file : Option String) :
    (execute settings (.addUser file) input w).value.exitCode ≠ 0 := by
  obtain ⟨t, hvalue, htable, -⟩ := h.exists_session hw
  let store := storeOf settings.storeOptions (Backend.name .sqlite)
  cases hread : readRecord User.record t.world.files input file with
  | error e =>
    simp only [execute, hvalue, perform, hread]
    exact Nat.one_ne_zero
  | ok u =>
    let d : Dialogue StoreCall.interface (Except StoreError Unit) := .ask (.add u) .done
    cases hadd : (d.run store t).value with
    | ok _ => exact absurd hadd (htable.value_add_of_readOnly _ _ hreadOnly u)
    | error e =>
      have hend := (operate_of_error hadd
        fun () => (.succeeded u.accountId.text, [userAdded u])).1
      have hexecute : (execute settings (.addUser file) input w).value =
          .failed ⟨e.message, none⟩ := by
        simp only [execute, hvalue, perform, hread]
        exact hend
      rw [hexecute]
      exact Nat.one_ne_zero

/-- **A user who has been registered is listed**, and has been printed. -/
theorem execute_register (h : NamesFile settings.database.url p) {input : String}
    {file : Option String}
    (hexit : (execute settings (.register file) input w).value.exitCode = 0) :
    let o := execute settings (.register file) input w
    ∃ profile id, readRecord Profile.record w.files input file = .ok profile ∧
      o.value = .succeeded (profile.withId id).json.pretty ∧
      SqliteDatabase.Lists (o.state.files.usersAt p) (profile.withId id) := by
  intro o
  obtain ⟨-, hfiles, hopened⟩ := openStore_file h settings.storeOptions w
  cases hvalue : (openStore settings.database.url settings.storeOptions w).value with
  | error e =>
    simp only [execute, hvalue] at hexit
    exact absurd hexit (exitCode_ofOpening e)
  | ok opened =>
    obtain ⟨b, t⟩ := opened
    obtain ⟨hfile, hworld⟩ := hopened b t hvalue
    let store := storeOf settings.storeOptions b.name
    cases hread : readRecord Profile.record t.world.files input file with
    | error e =>
      simp only [execute, hvalue, perform, hread] at hexit
      cases hexit
    | ok profile =>
      let d := Service.register settings.registrationAttempts profile
      let finish : User → Conclusion × List Notice := fun u => (.succeeded u.json.pretty, [])
      have ho : o.value = (operate store t d finish).value ∧
          o.state = (operate store t d finish).state.world := by
        simp only [o, execute, hvalue, perform, hread]
        exact ⟨rfl, rfl⟩
      have hexit : o.value.exitCode = 0 := hexit
      rw [ho.1] at hexit
      cases hu : (d.run store t).value with
      | error e =>
        rw [(operate_of_error hu finish).1] at hexit
        cases hexit
      | ok u =>
        -- whoever is printed has been inserted, and nobody else
        obtain ⟨hinserted, hprofile⟩ :=
          Store.insertedIn_register store profile settings.registrationAttempts t
        obtain ⟨id, rfl⟩ := hprofile u hu
        have hinserted : Store.insertedIn store d t = [profile.withId id] := by
          rw [hinserted, hu]
          rfl
        obtain ⟨hend, hstate⟩ := operate_of_ok hu finish
        rw [ho.1, ho.2, hend, hstate]
        exact ⟨profile, id, readRecord_of_rewritten (hworld ▸ hfiles) hread, rfl,
          hfile.lists_of_insertedIn _ _ d hinserted⟩

end Commands

/-! ### Further runs -/

/-- Whatever database a run leads to, it is the file at `p`. -/
def StaysOn (p : Path) (i : Invocation) (w : World) : Prop :=
  ∀ a settings filter, Arguments.parse i.args = .ok a →
    prepare a i.environment w.files = .ok (settings, filter) → NamesFile settings.database.url p

/-- The worlds in which the file at `p` may be found when it has been left in `w`: it may be
worked on by further runs of any commands, and between two runs everything but the file may
change. -/
inductive Later (p : Path) (w : World) : World → Prop
  | now {w' : World} (h : w'.files.entryAt p = w.files.entryAt p) : Later p w w'
  | run {w' w'' : World} (h : Later p w w') (i : Invocation) (hi : StaysOn p i w')
      (h' : w''.files.entryAt p = (run i w').2.files.entryAt p) : Later p w w''

/-- A run keeps all rows, in their order, and may add one. -/
theorem usersAt_prefix_run {p : Path} {i : Invocation} {w : World} (h : StaysOn p i w) :
    w.files.usersAt p <+: (run i w).2.files.usersAt p := by
  cases ha : Arguments.parse i.args with
  | error f =>
    have hrun : (run i w).2 = w := by
      simp only [run, ha]
    exact hrun.symm ▸ List.prefix_rfl
  | ok a =>
    obtain ⟨-, hdelivers⟩ | ⟨-, -, hrows⟩ := run_settles ha fun _ _ => h a _ _ ha
    · have hrows := hdelivers.rows
      split at hrows
      · obtain ⟨r, hrows⟩ := hrows
        rw [hrows]
        exact List.prefix_append _ _
      · exact hrows.symm ▸ List.prefix_rfl
    · exact hrows.symm ▸ List.prefix_rfl

/-- **Further runs keep all rows** in their order. -/
theorem Later.usersAt_prefix {p : Path} {w w' : World} (h : Later p w w') :
    w.files.usersAt p <+: w'.files.usersAt p := by
  induction h with
  | @now w' h =>
    have hsame : w'.files.usersAt p = w.files.usersAt p := by
      rw [Files.usersAt, Files.usersAt, h]
    exact hsame.symm ▸ List.prefix_rfl
  | @run w' w'' _ i hi h' ih =>
    have hsame : w''.files.usersAt p = (Program.run i w').2.files.usersAt p := by
      rw [Files.usersAt, Files.usersAt, h']
    exact hsame.symm ▸ ih.trans (usersAt_prefix_run hi)

/-- Once the file at `p` has been left in `w`, every search for the name prints the text and
ends well, after any number of further runs, with any settings that open the file. -/
def Prints (p : Path) (w : World) (name text : String) : Prop :=
  ∀ w', Later p w w' → ∀ (i : Invocation) a settings filter pool,
    Arguments.parse i.args = .ok a → a.command = .getUser name →
    prepare a i.environment w'.files = .ok (settings, filter) → settings.Opens pool p →
    (run i w').1.conclusion.exitCode = 0 ∧ (run i w').1.conclusion.output = text ++ "\n"

/-- **A user who is listed** is printed by every later search. -/
theorem prints_of_lists {p : Path} {w : World} {u : User}
    (h : SqliteDatabase.Lists (w.files.usersAt p) u) : Prints p w u.username u.json.pretty := by
  intro w' hlater i a settings filter pool ha hcommand hprepare hopens
  have hlists := h.of_prefix hlater.usersAt_prefix
  rw [(run_of_prepare ha hprepare).1, hcommand,
    execute_getUser hopens (Files.hasTable_of_lists hlists) hlists]
  exact ⟨rfl, rfl⟩

/-- **Users who have been added or registered are found.**  Let a run have arguments that are
accepted.  If it is to add a user to a table in the file at `p`, with settings that open it for
writing, and neither key of the user is in use, then it ends well, prints the id of the user,
and from then on every search for the name prints a text in JSON that is read back as this
user.  If it registers a profile in the file at `p` and ends well, then from then on every
search for the name prints what the registration has printed. -/
theorem added_users_are_found (p : Path) {i : Invocation} {w : World} {a : Arguments}
    (ha : Arguments.parse i.args = .ok a) :
    (∀ settings filter pool file u,
      prepare a i.environment w.files = .ok (settings, filter) → settings.Opens pool p →
      pool.readOnly = false → w.files.HasTable p → a.command = .addUser file →
      readRecord User.record w.files i.input file = .ok u →
      SqliteDatabase.Fresh (w.files.usersAt p) u.storedRow →
      (run i w).1.conclusion.exitCode = 0 ∧
      (run i w).1.conclusion.output = u.accountId.text ++ "\n" ∧
      ∃ text, User.record.parse text = .ok u ∧ Prints p (run i w).2 u.username text) ∧
    (∀ file, a.command = .register file → StaysOn p i w →
      (run i w).1.conclusion.exitCode = 0 →
      ∃ profile text, readRecord Profile.record w.files i.input file = .ok profile ∧
        (run i w).1.conclusion.output = text ++ "\n" ∧
        Prints p (run i w).2 profile.username text) := by
  constructor
  · intro settings filter pool file u hprepare hopens hwrite htable hcommand hread hfresh
    obtain ⟨hend, hstate⟩ := run_of_prepare ha hprepare
    rw [hcommand] at hend hstate
    obtain ⟨hvalue, hlists⟩ := execute_addUser hopens hwrite htable hread hfresh
    rw [hend, hstate, hvalue]
    refine ⟨rfl, rfl, u.json.pretty, ?_, prints_of_lists hlists⟩
    -- a user that has been read has an id that can be read
    obtain ⟨⟨text, name⟩, -, hparse⟩ := bind_eq_ok.mp hread
    have hdraft := Record.exists_draft_of_parse (mapError_eq_ok.mp hparse)
    exact (User.restores (User.wellFormed_of_draft hdraft)).pretty
  · intro file hcommand hstays hexit
    cases hprepare : prepare a i.environment w.files with
    | error e =>
      simp only [run, ha, hprepare] at hexit
      cases hexit
    | ok prepared =>
      obtain ⟨settings, filter⟩ := prepared
      obtain ⟨hend, hstate⟩ := run_of_prepare ha hprepare
      rw [hcommand] at hend hstate
      rw [hend] at hexit
      obtain ⟨profile, id, hread, hvalue, hlists⟩ :=
        execute_register (hstays a settings filter ha hprepare) hexit
      rw [hend, hstate, hvalue]
      exact ⟨profile, _, hread, rfl, prints_of_lists hlists⟩

end Program

/-! ### A table in a directory with settings -/

/-- Settings that are found at their path are told from the text there. -/
theorem Settings.load_of_text {fs fs' : Files} {text : String}
    (h : fs.textAt? standardPath = some text) (h' : fs'.textAt? standardPath = some text)
    (env : Environment) : load fs' env none = load fs env none := by
  have hlocate : SettingsFile.locate fs' standardPath = SettingsFile.locate fs standardPath := by
    rw [SettingsFile.locate, SettingsFile.locate, h, h']
  rw [load, load, Option.getD_none, hlocate]

namespace Program

/-- The directory of `developing`, with a table in it. -/
def tabled (rows : List Row) : World :=
  { developing with files := developing.files.put ["users.db"] (.database ⟨some rows⟩) }

theorem hasTable_tabled (rows : List Row) : (tabled rows).files.HasTable ["users.db"] :=
  ⟨rows, Files.entryAt_put ..⟩

/-- In a table without rows no key is in use. -/
theorem fresh_tabled (u : User) :
    SqliteDatabase.Fresh ((tabled []).files.usersAt ["users.db"]) u.storedRow := by
  have hrows : (tabled []).files.usersAt ["users.db"] = [] :=
    Files.usersAt_of_table (Files.entryAt_put ..)
  rw [hrows]
  exact List.forall_mem_nil _

/-- The URL of the table. -/
def usersUrl (readOnly : Bool) : String :=
  if readOnly then "sqlite:users.db?mode=ro" else "sqlite:users.db?mode=rwc"

/-- The settings for the table. -/
def usersSettings (readOnly : Bool) : Settings :=
  withUrl developed (some (usersUrl readOnly))

theorem prepare_tabled (rows : List Row) (readOnly : Bool) (command : Command) :
    ∃ filter, prepare ⟨none, some (usersUrl readOnly), command⟩ [] (tabled rows).files =
      .ok (usersSettings readOnly, filter) := by
  have hsame : Settings.load (tabled rows).files [] none = Settings.load developing.files [] none :=
    Settings.load_of_text rfl rfl []
  exact prepare_of_load (hsame.trans load_developing) _ command

theorem opens_users (readOnly : Bool) :
    (usersSettings readOnly).Opens ⟨.file ["users.db"], readOnly, false⟩ ["users.db"] := by
  let o := (usersSettings readOnly).storeOptions
  have hb : Backend.ofUri (usersUrl readOnly) = .ok .sqlite := by
    cases readOnly <;> rfl
  have hl : SqliteLocation.ofUri (usersUrl readOnly) =
      .ok { name := "users.db", readOnly, createIfMissing := !readOnly } := by
    cases readOnly <;> decide +kernel
  have hpool : openSqlite (usersUrl readOnly) o (tabled []).files =
      .ok (.sqlite ⟨.file ["users.db"], readOnly, false⟩, (tabled []).files) := by
    refine openSqlite_eq_ok_iff.mpr ⟨_, hl, ?_, ?_⟩
    · cases readOnly <;> decide +kernel
    · cases readOnly <;> rfl
  obtain ⟨files, -, hvalue, -⟩ := openStore_of_table hb hpool rfl (hasTable_tabled [])
  exact ⟨hb, rfl, tabled [], .sqlite, _, hvalue, rfl⟩

/-- A user to be added. -/
def newcomer : User :=
  { (default : User) with accountId := ⟨"1000000001"⟩, username := "--help" }

/-- A call that is to add the newcomer. -/
def adding (readOnly : Bool) : Invocation where
  args := ["--database-url", usersUrl readOnly, "add-user"]
  input := newcomer.json.compact
  environment := []

/-- A call that is to register the newcomer. -/
def registering : Invocation where
  args := ["--database-url", usersUrl false, "register"]
  input := newcomer.toProfile.json.compact
  environment := []

/-- A call that is to look up the newcomer. -/
def searching : Invocation where
  args := ["--database-url", usersUrl true, "get-user", "--", "--help"]
  input := ""
  environment := []

theorem parse_adding (readOnly : Bool) :
    Arguments.parse (adding readOnly).args =
      .ok ⟨none, some (usersUrl readOnly), .addUser none⟩ := by
  cases readOnly <;> rfl

theorem readRecord_adding (readOnly : Bool) (fs : Files) :
    readRecord User.record fs (adding readOnly).input none = .ok newcomer := by
  have hparse : User.record.parse newcomer.json.compact = .ok newcomer :=
    (User.restores (u := newcomer) (by decide)).compact
  exact bind_eq_ok.mpr ⟨(newcomer.json.compact, "stdin"), rfl, mapError_eq_ok.mpr hparse⟩

/-- With settings that open the file for reading only, nobody is added. -/
theorem adding_to_readOnly_table :
    ∃ settings filter pool, Arguments.parse (adding true).args =
        .ok ⟨none, some (usersUrl true), .addUser none⟩ ∧
      prepare ⟨none, some (usersUrl true), .addUser none⟩ (adding true).environment
        (tabled []).files = .ok (settings, filter) ∧
      settings.Opens pool ["users.db"] ∧ (tabled []).files.HasTable ["users.db"] ∧
      readRecord User.record (tabled []).files (adding true).input none = .ok newcomer ∧
      SqliteDatabase.Fresh ((tabled []).files.usersAt ["users.db"]) newcomer.storedRow ∧
      (run (adding true) (tabled [])).1.conclusion.exitCode ≠ 0 := by
  obtain ⟨filter, hprepare⟩ := prepare_tabled [] true (.addUser none)
  refine ⟨_, filter, _, parse_adding true, hprepare, opens_users true, hasTable_tabled [],
    readRecord_adding true _, fresh_tabled newcomer, ?_⟩
  rw [(run_of_prepare (parse_adding true) hprepare).1]
  exact execute_addUser_of_readOnly (opens_users true) rfl (hasTable_tabled []) _ _

theorem readRecord_registering (fs : Files) :
    readRecord Profile.record fs registering.input none = .ok newcomer.toProfile := by
  have hparse : Profile.record.parse newcomer.toProfile.json.compact = .ok newcomer.toProfile :=
    (newcomer.toProfile.tells.restores (by decide)).compact
  exact bind_eq_ok.mpr ⟨(newcomer.toProfile.json.compact, "stdin"), rfl, mapError_eq_ok.mpr hparse⟩

/-- What is printed of the newcomer is what a search prints in a directory with the same table. -/
theorem exists_search_of_prints {w : World} {u : User} {text : String}
    (hlists : SqliteDatabase.Lists (w.files.usersAt ["users.db"]) u)
    (h : Prints ["users.db"] w newcomer.username text) :
    ∃ rows, (tabled rows).files.entryAt ["users.db"] = w.files.entryAt ["users.db"] ∧
      (run searching (tabled rows)).1.conclusion.output = text ++ "\n" := by
  obtain ⟨rows, hrows⟩ := Files.hasTable_of_lists hlists
  have hsame : (tabled rows).files.entryAt ["users.db"] = w.files.entryAt ["users.db"] :=
    (Files.entryAt_put ..).trans hrows.symm
  obtain ⟨filter, hprepare⟩ := prepare_tabled rows true (.getUser "--help")
  exact ⟨rows, hsame,
    (h _ (.now hsame) searching _ _ filter _ rfl rfl hprepare (opens_users true)).2⟩

/-- The newcomer is added, or registered, and found again. -/
theorem added_newcomer_is_found :
    ((run (adding false) (tabled [])).1.conclusion.exitCode = 0 ∧
      ∃ text rows, User.record.parse text = .ok newcomer ∧
        (tabled rows).files.entryAt ["users.db"] =
          (run (adding false) (tabled [])).2.files.entryAt ["users.db"] ∧
        (run searching (tabled rows)).1.conclusion.output = text ++ "\n") ∧
    (run registering (tabled [])).1.conclusion.exitCode = 0 ∧
      ∃ text rows, (run registering (tabled [])).1.conclusion.output = text ++ "\n" ∧
        (tabled rows).files.entryAt ["users.db"] =
          (run registering (tabled [])).2.files.entryAt ["users.db"] ∧
        (run searching (tabled rows)).1.conclusion.output = text ++ "\n" := by
  constructor
  · obtain ⟨filter, hprepare⟩ := prepare_tabled [] false (.addUser none)
    have hfresh := fresh_tabled newcomer
    obtain ⟨hexit, -, text, htext, hprints⟩ :=
      (added_users_are_found ["users.db"] (parse_adding false)).1 _ filter _ none newcomer
        hprepare (opens_users false) rfl (hasTable_tabled []) rfl (readRecord_adding false _) hfresh
    have hlists := (execute_addUser (opens_users false) rfl (hasTable_tabled [])
      (readRecord_adding false _) hfresh).2
    rw [← (run_of_prepare (parse_adding false) hprepare).2] at hlists
    obtain ⟨rows, hsame, hsearch⟩ := exists_search_of_prints hlists hprints
    exact ⟨hexit, text, rows, htext, hsame, hsearch⟩
  · have hparse : Arguments.parse registering.args =
        .ok ⟨none, some (usersUrl false), .register none⟩ := rfl
    obtain ⟨filter, hprepare⟩ := prepare_tabled [] false (.register none)
    obtain ⟨hend, hstate⟩ := run_of_prepare hparse hprepare
    have hexecute : (execute (usersSettings false) (.register none) registering.input
        (tabled [])).value.exitCode = 0 := by
      decide +kernel
    have hexit : (run registering (tabled [])).1.conclusion.exitCode = 0 := by
      rw [hend]
      exact hexecute
    have hstays : StaysOn ["users.db"] registering (tabled []) := by
      intro a settings filter ha hprepare
      obtain rfl := Except.ok.inj (hparse.symm.trans ha)
      exact url_of_prepare rfl hprepare ▸ namesFile_users
    obtain ⟨profile, text, hread, houtput, hprints⟩ :=
      (added_users_are_found ["users.db"] hparse).2 none rfl hstays hexit
    obtain rfl := Except.ok.inj ((readRecord_registering _).symm.trans hread)
    obtain ⟨_, id, -, -, hlists⟩ := execute_register (hstays _ _ _ hparse hprepare) hexecute
    rw [← hstate] at hlists
    obtain ⟨rows, hsame, hsearch⟩ := exists_search_of_prints hlists hprints
    exact ⟨hexit, text, rows, houtput, hsame, hsearch⟩

end Program

end AccountRegistry
