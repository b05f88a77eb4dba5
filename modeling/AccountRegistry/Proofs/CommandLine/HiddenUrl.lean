/-
What a run tells of the URL of its database.

* **`Settings.debugText_of_scheme`** — of the URL the settings show no more than its scheme;
* **`Session.ShareMemory.call`** — stores in memory answer and tell the same, wherever they are;
* **`url_hidden`** — two runs on URLs with the same scheme, of which both lead to a store in
  memory or nowhere, end with the same report.

Design notes: the URL may come from the settings file, the environment or the command line, so
that two runs with different URLs have different files, variables or arguments.  What they have
in common is said of what counts: the settings in effect and the text that the command reads.
-/
import AccountRegistry.CommandLine.Surroundings
import AccountRegistry.Proofs.CommandLine.Program

namespace AccountRegistry

/-! ### The URL in texts -/

/-- **Of the URL the settings show no more than its scheme.** -/
theorem Settings.debugText_of_scheme (s : Settings) {url : String}
    (h : Backend.scheme s.database.url = Backend.scheme url) :
    (Program.withUrl s (some url)).debugText = s.debugText := by
  have hredacted : redacted url = redacted s.database.url := by rw [redacted, redacted, h]
  unfold debugText
  rw [Program.withUrl]
  dsimp only
  rw [hredacted]

/-- Whether a URL is supported, and why not, is told from its scheme. -/
theorem Backend.ofUri_of_scheme {url url' : String} (h : scheme url = scheme url') :
    ofUri url = ofUri url' := by
  rw [ofUri, ofUri, h]

/-! ### Stores in memory -/

/-- Two sessions on the same table in memory with the same source. -/
def Session.ShareMemory (s s' : Session) : Prop :=
  ∃ t, s.engine = .memory t ∧ s'.engine = .memory t ∧ s.world.source = s'.world.source

/-- **Stores in memory answer and tell the same**, wherever they are. -/
theorem Session.ShareMemory.call {s s' : Session} (h : s.ShareMemory s') (o : StoreOptions)
    (system : String) (q : StoreCall) :
    (storeOf o system q s).value = (storeOf o system q s').value ∧
      (storeOf o system q s).notices = (storeOf o system q s').notices ∧
      (storeOf o system q s).state.ShareMemory (storeOf o system q s').state := by
  obtain ⟨⟨files, network, source⟩, engine⟩ := s
  obtain ⟨⟨files', network', source'⟩, engine'⟩ := s'
  obtain ⟨t, rfl, rfl, rfl⟩ := h
  rw [storeOf]
  split
  · exact ⟨rfl, rfl, _, rfl, rfl, rfl⟩
  · exact ⟨rfl, rfl, _, rfl, rfl, rfl⟩

namespace Program

/-- A record is told from the text that is read. -/
theorem readRecord_of_input {α : Type} (r : Record α) {fs fs' : Files} {input input' : String}
    {file : Option String} (h : inputOf fs input file = inputOf fs' input' file) :
    readRecord r fs input file = readRecord r fs' input' file := by
  rw [readRecord, readRecord, h]

section Memory

variable {s s' : Session} (h : s.ShareMemory s') (o : StoreOptions) (system : String)
include h

theorem operate_shareMemory {α : Type} (d : Dialogue StoreCall.interface (Except StoreError α))
    (finish : α → Conclusion × List Notice) :
    (operate (storeOf o system) s d finish).value =
        (operate (storeOf o system) s' d finish).value ∧
      (operate (storeOf o system) s d finish).notices =
        (operate (storeOf o system) s' d finish).notices := by
  obtain ⟨hvalue, hnotices, -⟩ := Dialogue.run_indistinguishable (R := Session.ShareMemory)
    (fun q _ _ h => h.call o system q) d h
  simp only [operate, hvalue, hnotices]
  cases (d.run (storeOf o system) s').value <;> exact ⟨rfl, rfl⟩

/-- A command whose input is the same ends the same on both. -/
theorem perform_shareMemory (settings : Settings) {input input' : String} {command : Command}
    (hinput : inputOf s.world.files input command.file? =
      inputOf s'.world.files input' command.file?) :
    (perform settings (storeOf o system) input s command).value =
        (perform settings (storeOf o system) input' s' command).value ∧
      (perform settings (storeOf o system) input s command).notices =
        (perform settings (storeOf o system) input' s' command).notices := by
  cases command with
  | generateAccountId => exact operate_shareMemory h o system _ _
  | getUser username => exact operate_shareMemory h o system _ _
  | addUser file =>
    have hread : readRecord User.record s.world.files input file =
        readRecord User.record s'.world.files input' file :=
      readRecord_of_input _ hinput
    rw [perform, perform, hread]
    cases readRecord User.record s'.world.files input' file with
    | error e => exact ⟨rfl, rfl⟩
    | ok u => exact operate_shareMemory h o system _ _
  | register file =>
    have hread : readRecord Profile.record s.world.files input file =
        readRecord Profile.record s'.world.files input' file :=
      readRecord_of_input _ hinput
    rw [perform, perform, hread]
    cases readRecord Profile.record s'.world.files input' file with
    | error e => exact ⟨rfl, rfl⟩
    | ok u => exact operate_shareMemory h o system _ _

end Memory

/-! ### Runs -/

/-- The command of a run and the settings that are in effect, if it gets so far. -/
def inEffect (i : Invocation) (w : World) : Option (Command × Settings) :=
  match Arguments.parse i.args with
  | .error _ => none
  | .ok a =>
    match Settings.load w.files i.environment a.settings with
    | .error _ => none
    | .ok loaded => some (a.command, withUrl loaded a.databaseUrl)

theorem inEffect_of_load {i : Invocation} {w : World} {a : Arguments} {loaded : Settings}
    (ha : Arguments.parse i.args = .ok a)
    (hloaded : Settings.load w.files i.environment a.settings = .ok loaded) :
    inEffect i w = some (a.command, withUrl loaded a.databaseUrl) := by
  simp only [inEffect, ha, hloaded]

/-- A run is told from its command and the settings that are in effect. -/
theorem run_of_inEffect {i : Invocation} {w : World} {command : Command} {settings : Settings}
    (h : inEffect i w = some (command, settings)) :
    (run i w).1 =
      match (LogFilter.parse settings.logFilter).mapError ofFilter with
      | .error e => ⟨.failed e, []⟩
      | .ok filter =>
        let o := execute settings command i.input w
        ⟨o.value, filter.lines (settingsLoaded settings :: o.notices)⟩ := by
  rw [inEffect] at h
  split at h
  · cases h
  · next a ha =>
    split at h
    · cases h
    · next loaded hloaded =>
      cases h
      simp only [run, ha, prepare, hloaded, Except.mapError, bind, Except.bind]
      cases LogFilter.parse (withUrl loaded a.databaseUrl).logFilter <;> rfl

/-- A command does not look at the URL. -/
theorem perform_withUrl (settings : Settings) (url : String) (store : Store Session)
    (input : String) (s : Session) (command : Command) :
    perform (withUrl settings (some url)) store input s command =
      perform settings store input s command := by
  cases command <;> rfl

/-- **Opening a store and doing what a command asks for** ends the same for URLs of the same
scheme that lead to a store in memory or nowhere. -/
theorem execute_of_scheme (settings : Settings) {url : String} {command : Command}
    {input input' : String} {w w' : World}
    (hscheme : Backend.scheme settings.database.url = Backend.scheme url)
    (hmemory : ∀ b, Backend.ofUri settings.database.url = .ok b → b = .memory)
    (hinput : inputOf w.files input command.file? = inputOf w'.files input' command.file?)
    (hsource : w.source = w'.source) :
    (execute settings command input w).value =
        (execute (withUrl settings (some url)) command input' w').value ∧
      (execute settings command input w).notices =
        (execute (withUrl settings (some url)) command input' w').notices := by
  let settings' := withUrl settings (some url)
  have hoptions : settings'.storeOptions = settings.storeOptions := rfl
  have hsame : Backend.ofUri settings'.database.url = Backend.ofUri settings.database.url :=
    (Backend.ofUri_of_scheme hscheme).symm
  cases hb : Backend.ofUri settings.database.url with
  | error e =>
    -- the error is made of the scheme, and nothing has been told
    have hopen (url : String) (w : World) (h : Backend.ofUri url = .error e) :
        openStore url settings.storeOptions w = ⟨.error (.failed e), w, []⟩ := by
      rw [openStore, h]
    rw [execute, execute, hoptions, hopen _ w hb, hopen _ w' (hsame.trans hb)]
    exact ⟨rfl, rfl⟩
  | ok b =>
    obtain rfl := hmemory b hb
    have hopen (url : String) (w : World) (h : Backend.ofUri url = .ok .memory) :
        openStore url settings.storeOptions w =
          ⟨.ok (.memory, ⟨w, .memory .empty⟩), w, [initialized .memory settings.storeOptions]⟩ := by
      rw [openStore, h]
      rfl
    have hshare : Session.ShareMemory ⟨w, .memory .empty⟩ ⟨w', .memory .empty⟩ :=
      ⟨.empty, rfl, rfl, hsource⟩
    obtain ⟨hvalue, hnotices⟩ := perform_shareMemory hshare settings.storeOptions
      (Backend.name .memory) settings hinput
    rw [execute, execute, hoptions, hopen _ w hb, hopen _ w' (hsame.trans hb)]
    simp only [perform_withUrl]
    exact ⟨hvalue, congrArg ([initialized .memory settings.storeOptions] ++ ·) hnotices⟩

/-- **What a URL holds behind its scheme stays hidden.**  Let two runs have the same command,
the same settings in effect but for the URL of the database, the same text to read and the same
candidates, whatever their arguments, variables and files are; let the URLs have the same
scheme, and let it be that of a store in memory or none that is supported.  Then both runs
leave the same report: the same output, error and exit code, and the same lines in the log,
whatever the filter. -/
theorem url_hidden {i i' : Invocation} {w w' : World} {command : Command} {settings : Settings}
    {url : String} (h : inEffect i w = some (command, settings))
    (h' : inEffect i' w' = some (command, withUrl settings (some url)))
    (hscheme : Backend.scheme settings.database.url = Backend.scheme url)
    (hmemory : ∀ b, Backend.ofUri settings.database.url = .ok b → b = .memory)
    (hinput : inputOf w.files i.input command.file? = inputOf w'.files i'.input command.file?)
    (hsource : w.source = w'.source) :
    (run i w).1 = (run i' w').1 := by
  have htold : settingsLoaded (withUrl settings (some url)) = settingsLoaded settings := by
    rw [settingsLoaded, settingsLoaded, settings.debugText_of_scheme hscheme]
  have hfilter : (withUrl settings (some url)).logFilter = settings.logFilter := rfl
  obtain ⟨hvalue, hnotices⟩ := execute_of_scheme settings hscheme hmemory hinput hsource
  rw [run_of_inEffect h, run_of_inEffect h', htold, hfilter]
  simp only [hvalue, hnotices]

/-- A call for a new id, with a password in the URL of the database. -/
def secretive (password : String) : Invocation where
  args := ["--database-url", "memory://admin:" ++ password, "generate-account-id"]
  input := ""
  environment := []

/-- The arguments are accepted and give the command. -/
theorem inEffect_secretive (password : String)
    (h : Arguments.parse (secretive password).args =
      .ok ⟨none, some ("memory://admin:" ++ password), .generateAccountId⟩) :
    inEffect (secretive password) developing =
      some (.generateAccountId, withUrl developed (some ("memory://admin:" ++ password))) :=
  inEffect_of_load h load_developing

theorem url_hidden_password :
    (run (secretive "swordfish") developing).1 = (run (secretive "mellon") developing).1 := by
  have hbackend : Backend.ofUri ("memory://admin:" ++ "swordfish") = .ok .memory := rfl
  exact url_hidden (inEffect_secretive "swordfish" rfl) (inEffect_secretive "mellon" rfl)
    (by decide)
    (fun _ hb => (Except.ok.inj (hbackend.symm.trans hb)).symm) rfl rfl

end Program

end AccountRegistry
