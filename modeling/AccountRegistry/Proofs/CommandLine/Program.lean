/-
What a run of the program leaves in its database and on its output.

* **`Program.Delivers`** — what a run that ends well has printed and added to the rows;
* **`Program.perform_settles`**, **`Program.execute_settles`** — a command on an opened store,
  and together with the opening, delivers, or prints nothing and leaves the rows alone;
* **`Program.run_rows`** — the same of whole runs, whatever the settings and the input.

Design notes: the input is read after the store has been opened.  That it reads as it did
before is `readRecord_of_rewritten`: the opening writes at most the database, whose text is
no record.
-/
import AccountRegistry.CommandLine.Program
import AccountRegistry.Proofs.Store.FileStore

namespace AccountRegistry

/-- Whether a command inserts a user. -/
def Command.inserts : Command → Bool
  | .addUser _ => true
  | .register _ => true
  | .generateAccountId => false
  | .getUser _ => false

/-- A database is not the text of a record. -/
theorem Record.parse_blank {α : Type} (r : Record α) {c : Content} (h : c.IsBlank) (x : α) :
    r.parse c.asText ≠ .ok x := by
  intro hx
  obtain hc | hc := h
  · rw [hc] at hx
    cases hx
  · rw [hc] at hx
    cases hx

namespace Program

/-! ### Input -/

/-- **A record that is read after a database has been written was there before.** -/
theorem readRecord_of_rewritten {α : Type} {r : Record α} {p : Path} {fs fs' : Files}
    (h : Files.RewrittenAt Content.IsBlank p fs fs') {input : String} {file : Option String}
    {x : α} (hx : readRecord r fs' input file = .ok x) : readRecord r fs input file = .ok x := by
  cases file with
  | none => exact hx
  | some path =>
    -- the text comes from a file that was there before, or from a database that is no record
    obtain ⟨⟨text, name⟩, hinput, hparse⟩ := bind_eq_ok.mp hx
    rw [inputOf] at hinput
    split at hinput
    · cases hinput
    · next c hfind =>
      cases hinput
      obtain hbefore | hblank := h.find hfind
      · refine bind_eq_ok.mpr ⟨(c.asText, path), ?_, hparse⟩
        rw [inputOf, hbefore]
      · exact absurd (mapError_eq_ok.mp hparse) (r.parse_blank hblank x)
    · cases hinput

/-! ### Commands -/

/-- What a run that ends well has printed and how the rows before it and after it differ;
`fs` and `input` are what it has read from. -/
def Delivers (fs : Files) (input : String) (before after : List Row) (output : String) :
    Command → Prop
  | .generateAccountId =>
    after = before ∧ ∃ id : AccountId, (∀ r ∈ before, r .accountId ≠ .text id.text) ∧
      output = id.text ++ "\n"
  | .getUser username =>
    after = before ∧ ∃ r ∈ before, r .username = .text username ∧
      ∃ u, r.user = .ok u ∧ output = u.json.pretty ++ "\n"
  | .addUser file =>
    ∃ u, readRecord User.record fs input file = .ok u ∧ after = before ++ [u.storedRow] ∧
      output = u.accountId.text ++ "\n"
  | .register file =>
    ∃ p id, readRecord Profile.record fs input file = .ok p ∧
      after = before ++ [(p.withId id).storedRow] ∧ output = (p.withId id).json.pretty ++ "\n"

/-- A run ends well and delivers, or it ends with another exit code, without output and with
the rows as they were. -/
def Settles (fs : Files) (input : String) (before after : List Row) (command : Command)
    (c : Conclusion) : Prop :=
  (c.exitCode = 0 ∧ Delivers fs input before after c.output command) ∨
    (c.exitCode ≠ 0 ∧ c.output = "" ∧ after = before)

theorem settles_failed (fs : Files) (input : String) (rows : List Row) (command : Command)
    (e : RunError) : Settles fs input rows rows command (.failed e) :=
  .inr ⟨Nat.one_ne_zero, rfl, rfl⟩

/-- A run whose store is not opened does not end well. -/
theorem exitCode_ofOpening (e : OpeningFault StoreError) : (ofOpening e).exitCode ≠ 0 := by
  cases e with
  | failed e => exact Nat.one_ne_zero
  | aborted message => exact (by decide : 101 ≠ 0)

theorem settles_ofOpening (fs : Files) (input : String) (rows : List Row) (command : Command)
    (e : OpeningFault StoreError) : Settles fs input rows rows command (ofOpening e) := by
  refine .inr ⟨exitCode_ofOpening e, ?_, rfl⟩
  cases e <;> rfl

theorem operate_of_ok {α : Type} {store : Store Session} {s : Session}
    {d : Dialogue StoreCall.interface (Except StoreError α)} {a : α}
    (h : (d.run store s).value = .ok a) (finish : α → Conclusion × List Notice) :
    (operate store s d finish).value = (finish a).1 ∧
      (operate store s d finish).state = (d.run store s).state := by
  simp only [operate, h, and_self]

theorem operate_of_error {α : Type} {store : Store Session} {s : Session}
    {d : Dialogue StoreCall.interface (Except StoreError α)} {e : StoreError}
    (h : (d.run store s).value = .error e) (finish : α → Conclusion × List Notice) :
    (operate store s d finish).value = .failed ⟨e.message, none⟩ ∧
      (operate store s d finish).state = (d.run store s).state := by
  simp only [operate, h, and_self]

section Commands

variable {s : Session} {p : Path} {fs : Files} {input : String} {command : Command}

/-- A command that has to read something first. -/
def reading {α : Type} (s : Session) (x : Except RunError α)
    (next : α → Outcome Session Conclusion) : Outcome Session Conclusion :=
  match x with
  | .error e => ⟨.failed e, s, []⟩
  | .ok a => next a

theorem reading_settles {α : Type} {x : Except RunError α} {next : α → Outcome Session Conclusion}
    (hnext : ∀ a, x = .ok a → Settles fs input (s.world.files.usersAt p)
      ((next a).state.world.files.usersAt p) command (next a).value) :
    Settles fs input (s.world.files.usersAt p) ((reading s x next).state.world.files.usersAt p)
      command (reading s x next).value := by
  cases x with
  | error e => exact settles_failed fs input _ command e
  | ok a => exact hnext a rfl

/-- **An operation on a store that is a file settles** if it inserts only what it ends with
and its result is delivered. -/
theorem operate_settles (o : StoreOptions) (system : String) (h : s.OnFile p) {α : Type}
    (d : Dialogue StoreCall.interface (Except StoreError α))
    (finish : α → Conclusion × List Notice)
    (hok : ∀ a, (d.run (storeOf o system) s).value = .ok a →
      Settles fs input (s.world.files.usersAt p) (s.world.files.usersAt p ++
        (Store.insertedIn (storeOf o system) d s).map User.storedRow) command (finish a).1)
    (herror : ∀ e, (d.run (storeOf o system) s).value = .error e →
      Store.insertedIn (storeOf o system) d s = []) :
    Settles fs input (s.world.files.usersAt p)
      ((operate (storeOf o system) s d finish).state.world.files.usersAt p) command
      (operate (storeOf o system) s d finish).value := by
  obtain ⟨-, hrows⟩ := h.run o system d
  cases hvalue : (d.run (storeOf o system) s).value with
  | ok a =>
    obtain ⟨hend, hstate⟩ := operate_of_ok hvalue finish
    rw [hend, hstate, hrows]
    exact hok a hvalue
  | error e =>
    obtain ⟨hend, hstate⟩ := operate_of_error hvalue finish
    rw [hend, hstate, hrows, herror e hvalue, List.map_nil, List.append_nil]
    exact settles_failed fs input _ command _

end Commands

/-- **A command on a store that is a file settles.** -/
theorem perform_settles (settings : Settings) (system : String) {s : Session} {p : Path}
    (h : s.OnFile p) {fs : Files}
    (hfs : Files.RewrittenAt Content.IsBlank p fs s.world.files) (input : String)
    (command : Command) :
    let o := perform settings (storeOf settings.storeOptions system) input s command
    Settles fs input (s.world.files.usersAt p) (o.state.world.files.usersAt p) command
      o.value := by
  intro o
  let store := storeOf settings.storeOptions system
  cases command with
  | generateAccountId =>
    refine operate_settles _ _ h _ _ (fun id hid => ?_) (fun e _ => rfl)
    exact .inl ⟨rfl, List.append_nil _, id, h.accountId_ne_of_generate _ _ hid, rfl⟩
  | getUser username =>
    refine operate_settles _ _ h _ _ (fun found hfound => ?_) (fun e _ => rfl)
    cases found with
    | none => exact .inr ⟨Nat.one_ne_zero, rfl, List.append_nil _⟩
    | some u =>
      obtain ⟨r, hr, hname, hu⟩ := h.exists_row_of_get _ _ hfound
      exact .inl ⟨rfl, List.append_nil _, r, hr, hname, u, hu, rfl⟩
  | addUser file =>
    have ho : o = reading s (readRecord User.record s.world.files input file) fun u =>
        operate store s (.ask (.add u) .done) fun () =>
          (.succeeded u.accountId.text, [userAdded u]) := by
      show perform _ _ _ _ _ = _
      rw [perform]
      cases readRecord User.record s.world.files input file <;> rfl
    rw [ho]
    refine reading_settles fun u hread => ?_
    have hinserted : Store.insertedIn store (.ask (.add u) .done) s =
        Store.insertedBy (.add u) (store (.add u) s).value := List.append_nil _
    refine operate_settles _ _ h _ _ (fun _ hadd => ?_) (fun e hadd => ?_)
    · have hadd : (store (.add u) s).value = .ok () := hadd
      rw [hinserted, hadd]
      exact .inl ⟨rfl, u, readRecord_of_rewritten hfs hread, rfl, rfl⟩
    · have hadd : (store (.add u) s).value = .error e := hadd
      rw [hinserted, hadd]
      rfl
  | register file =>
    have ho : o = reading s (readRecord Profile.record s.world.files input file) fun profile =>
        operate store s (Service.register settings.registrationAttempts profile) fun u =>
          (.succeeded u.json.pretty, []) := by
      show perform _ _ _ _ _ = _
      rw [perform]
      cases readRecord Profile.record s.world.files input file <;> rfl
    rw [ho]
    refine reading_settles fun profile hread => ?_
    obtain ⟨hinserted, hprofile⟩ :=
      Store.insertedIn_register store profile settings.registrationAttempts s
    refine operate_settles _ _ h _ _ (fun u hu => ?_) (fun e he => ?_)
    · -- what has been inserted is the user that is printed, who has the profile that was read
      obtain ⟨id, rfl⟩ := hprofile u hu
      rw [hinserted, hu]
      exact .inl ⟨rfl, profile, id, readRecord_of_rewritten hfs hread, rfl, rfl⟩
    · rw [hinserted, he]
      rfl

/-! ### Runs -/

/-- **Opening the store and doing what a command asks for settles.** -/
theorem execute_settles {settings : Settings} {p : Path} (h : NamesFile settings.database.url p)
    (command : Command) (input : String) (w : World) :
    let o := execute settings command input w
    Settles w.files input (w.files.usersAt p) (o.state.files.usersAt p) command o.value := by
  intro o
  have ho : o = execute settings command input w := rfl
  obtain ⟨hrows, hfiles, hopened⟩ := openStore_file h settings.storeOptions w
  rw [execute] at ho
  cases hvalue : (openStore settings.database.url settings.storeOptions w).value with
  | error e =>
    simp only [hvalue] at ho
    rw [ho, hrows]
    exact settles_ofOpening w.files input _ command _
  | ok opened =>
    obtain ⟨b, s⟩ := opened
    -- the command starts in the world that the opening has left
    obtain ⟨hfile, hworld⟩ := hopened b s hvalue
    simp only [hvalue] at ho
    rw [← hworld] at hrows hfiles
    rw [ho, ← hrows]
    exact perform_settles settings b.name hfile hfiles input command

/-- **A run of the program settles**, whatever its settings are. -/
theorem run_settles {i : Invocation} {a : Arguments} (ha : Arguments.parse i.args = .ok a)
    {w : World} {p : Path}
    (hp : ∀ settings filter, prepare a i.environment w.files = .ok (settings, filter) →
      NamesFile settings.database.url p) :
    Settles w.files i.input (w.files.usersAt p) ((run i w).2.files.usersAt p) a.command
      (run i w).1.conclusion := by
  cases hprepare : prepare a i.environment w.files with
  | error e =>
    have hrun : run i w = (⟨.failed e, []⟩, w) := by
      simp only [run, ha, hprepare]
    rw [hrun]
    exact settles_failed w.files i.input _ a.command e
  | ok prepared =>
    obtain ⟨settings, filter⟩ := prepared
    have hsettles := execute_settles (hp settings filter hprepare) a.command i.input w
    have hrun : (run i w).1.conclusion = (execute settings a.command i.input w).value ∧
        (run i w).2 = (execute settings a.command i.input w).state := by
      simp only [run, ha, hprepare, and_self]
    rw [hrun.1, hrun.2]
    exact hsettles

/-- A command that delivers has added a row exactly if it inserts. -/
theorem Delivers.rows {fs : Files} {input output : String} {before after : List Row}
    {command : Command} (h : Delivers fs input before after output command) :
    if command.inserts then ∃ r, after = before ++ [r] else after = before := by
  cases command with
  | generateAccountId => exact h.1
  | getUser n => exact h.1
  | addUser file =>
    obtain ⟨u, -, hrows, -⟩ := h
    exact ⟨_, hrows⟩
  | register file =>
    obtain ⟨p, id, -, hrows, -⟩ := h
    exact ⟨_, hrows⟩

/-- **What a run leaves.**  Let a run have arguments that are accepted, any settings, input
and environment, and a database, if its settings lead to one at all, in the file at `p`,
which may be absent and may hold anything.  Its table of users is left as it was or with one
more row; with one more exactly if a user was to be inserted and the exit code is 0; and an
exit code of 0 goes with one result on the output, any other with none and with the table as
it was. -/
theorem run_rows (i : Invocation) (w : World) (p : Path) {a : Arguments}
    (ha : Arguments.parse i.args = .ok a)
    (hp : ∀ settings filter, prepare a i.environment w.files = .ok (settings, filter) →
      NamesFile settings.database.url p) :
    let c := (run i w).1.conclusion
    let before := w.files.usersAt p
    let after := (run i w).2.files.usersAt p
    (after = before ∨ ∃ r, after = before ++ [r]) ∧
    ((∃ r, after = before ++ [r]) ↔ a.command.inserts = true ∧ c.exitCode = 0) ∧
    (c.exitCode = 0 → Delivers w.files i.input before after c.output a.command) ∧
    (c.exitCode ≠ 0 → c.output = "" ∧ after = before) := by
  intro c before after
  -- a table cannot be both as it was and longer
  have hlonger : ∀ r, before ≠ before ++ [r] := by
    intro r h
    have hlength := congrArg List.length h
    rw [List.length_append, List.length_singleton] at hlength
    omega
  obtain ⟨hexit, hdelivers⟩ | ⟨hexit, houtput, hrows⟩ := run_settles ha hp
  · have hrows := hdelivers.rows
    refine ⟨?_, ?_, fun _ => hdelivers, fun h => absurd hexit h⟩
    · split at hrows
      · exact .inr hrows
      · exact .inl hrows
    · constructor
      · rintro ⟨r, hr⟩
        split at hrows
        · next hinserts => exact ⟨hinserts, hexit⟩
        · exact absurd (hrows.symm.trans hr) (hlonger r)
      · rintro ⟨hinserts, -⟩
        rw [if_pos hinserts] at hrows
        exact hrows
  · refine ⟨.inl hrows, ?_, fun h => absurd h hexit, fun _ => ⟨houtput, hrows⟩⟩
    constructor
    · rintro ⟨r, hr⟩
      exact absurd (hrows.symm.trans hr) (hlonger r)
    · rintro ⟨-, h⟩
      exact absurd h hexit

/-- The URL of the command line counts, whatever the settings say. -/
theorem url_of_prepare {a : Arguments} {env : Environment} {fs : Files} {settings : Settings}
    {filter : LogFilter} {url : String} (ha : a.databaseUrl = some url)
    (h : prepare a env fs = .ok (settings, filter)) : settings.database.url = url := by
  obtain ⟨loaded, -, h⟩ := bind_eq_ok.mp h
  obtain ⟨f, -, h⟩ := bind_eq_ok.mp h
  cases h
  rw [ha]
  rfl

/-- A run is told from its settings and its command. -/
theorem run_of_prepare {i : Invocation} {w : World} {a : Arguments} {settings : Settings}
    {filter : LogFilter} (ha : Arguments.parse i.args = .ok a)
    (hprepare : prepare a i.environment w.files = .ok (settings, filter)) :
    (run i w).1.conclusion = (execute settings a.command i.input w).value ∧
      (run i w).2 = (execute settings a.command i.input w).state := by
  simp only [run, ha, hprepare, and_self]

/-- A call that is to add a user to a database that is created if need be. -/
def addition : Invocation where
  args := ["--database-url", "sqlite:users.db?mode=rwc", "add-user"]
  input := ({ (default : User) with accountId := ⟨"1000000001"⟩ } : User).json.compact
  environment := []

/-- A directory with settings and without a database. -/
def developing : World where
  files := .ofTexts
    [("settings/dev.toml",
      "\n".intercalate
        ["[database]", "url = \"memory:\"", "max_connections = 5", "acquire_timeout_secs = 5",
          "create_schema = true", "trace_operations = true", "[generation]",
          "max_attempts = 32", "backoff_base_ms = 1", "backoff_max_ms = 100", "[registration]",
          "max_attempts = 3", "[log]", "filter = \"info\""])]
  network := .down
  source := .scripted [] id

/-- The settings that `developing` holds. -/
def developed : Settings where
  database :=
    { url := "memory:", maxConnections := 5, acquireTimeoutSecs := 5, createSchema := true
      traceOperations := true }
  generation := { maxAttempts := 32, backoffBaseMs := 1, backoffMaxMs := 100 }
  registrationAttempts := 3
  logFilter := "info"

theorem load_developing : Settings.load developing.files [] none = .ok developed := by
  have hload : (Settings.load developing.files [] none).toOption = some developed := by
    decide +kernel
  cases h : Settings.load developing.files [] none with
  | error e =>
    rw [h] at hload
    cases hload
  | ok s =>
    rw [h] at hload
    exact congrArg _ (Option.some.inj hload)

/-- The settings of `developing` are those of a run, with the URL of the command line. -/
theorem prepare_of_load {fs : Files} (h : Settings.load fs [] none = .ok developed)
    (url : Option String) (command : Command) :
    ∃ filter, prepare ⟨none, url, command⟩ [] fs = .ok (withUrl developed url, filter) := by
  have hfilter : (LogFilter.parse developed.logFilter).toOption.isSome = true := by
    decide +kernel
  cases hparse : LogFilter.parse developed.logFilter with
  | error e =>
    rw [hparse] at hfilter
    cases hfilter
  | ok filter =>
    have hparse : LogFilter.parse (withUrl developed url).logFilter = .ok filter := by
      cases url <;> exact hparse
    exact ⟨filter, bind_eq_ok.mpr ⟨developed, mapError_eq_ok.mpr h,
      bind_eq_ok.mpr ⟨filter, mapError_eq_ok.mpr hparse, rfl⟩⟩⟩

theorem namesFile_users : NamesFile "sqlite:users.db?mode=rwc" ["users.db"] := by
  have hbackend : Backend.ofUri "sqlite:users.db?mode=rwc" = .ok .sqlite := rfl
  have hlocation : SqliteLocation.ofUri "sqlite:users.db?mode=rwc" =
      .ok { name := "users.db", createIfMissing := true } := by
    decide +kernel
  intro b hb
  refine ⟨(Except.ok.inj (hbackend.symm.trans hb)).symm, fun l hl => ?_⟩
  obtain rfl := Except.ok.inj (hlocation.symm.trans hl)
  exact ⟨by decide, rfl⟩

/-- The user is added to a new database. -/
theorem run_rows_addition :
    developing.files.usersAt ["users.db"] = [] ∧
      (run addition developing).1.conclusion.exitCode = 0 ∧
      ∃ r, (run addition developing).2.files.usersAt ["users.db"] = [r] := by
  have hparse : Arguments.parse addition.args =
      .ok ⟨none, some "sqlite:users.db?mode=rwc", .addUser none⟩ := rfl
  obtain ⟨filter, hprepare⟩ :=
    prepare_of_load load_developing (some "sqlite:users.db?mode=rwc") (.addUser none)
  have hexecute : (execute (withUrl developed (some "sqlite:users.db?mode=rwc")) (.addUser none)
      addition.input developing).value.exitCode = 0 := by
    decide +kernel
  have hexit : (run addition developing).1.conclusion.exitCode = 0 := by
    rw [(run_of_prepare hparse hprepare).1]
    exact hexecute
  obtain ⟨r, hr⟩ := (run_rows addition developing ["users.db"] hparse
    fun _ _ h => url_of_prepare rfl h ▸ namesFile_users).2.1.mpr ⟨rfl, hexit⟩
  exact ⟨rfl, hexit, r, hr⟩

end Program

end AccountRegistry
