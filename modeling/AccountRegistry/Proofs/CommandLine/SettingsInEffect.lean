/-
Where the settings of a run come from.

* **`Program.runOn`** — a run on a given URL, with every other setting as it is loaded;
* **`Program.run_of_load`** — a run is one on the URL of the command line, or else on the loaded
  one;
* **`settings_layered`** — each setting is loaded from its own variable or else from the file,
  whatever the others are; the URL of the command line goes before both and changes no other.
-/
import AccountRegistry.Proofs.CommandLine.HiddenUrl
import AccountRegistry.Proofs.Settings.Layers

namespace AccountRegistry

namespace Program

/-- The run of a command on the store that `url` leads to, with every other setting as in `s`. -/
def runOn (url : String) (s : Settings) (command : Command) (input : String) (w : World) :
    Report × World :=
  match LogFilter.parse s.logFilter with
  | .error f => (⟨.failed (ofFilter f), []⟩, w)
  | .ok filter =>
    let shown := settingsLoaded (withUrl s (some url))
    let opened := openStore url s.storeOptions w
    match opened.value with
    | .error e => (⟨ofOpening e, filter.lines (shown :: opened.notices)⟩, opened.state)
    | .ok (b, session) =>
      let done := perform s (storeOf s.storeOptions b.name) input session command
      (⟨done.value, filter.lines (shown :: (opened.notices ++ done.notices))⟩, done.state.world)

theorem withUrl_getD (s : Settings) (url : Option String) :
    withUrl s url = withUrl s (some (url.getD s.database.url)) := by
  cases url <;> rfl

variable {i : Invocation} {w : World} {a : Arguments}

/-- A run whose settings cannot be loaded ends there. -/
theorem run_of_load_error (ha : Arguments.parse i.args = .ok a) {e : SettingFault}
    (h : Settings.load w.files i.environment a.settings = .error e) :
    run i w = (⟨.failed ⟨e.message, none⟩, []⟩, w) := by
  simp only [run, ha, prepare, h, Except.mapError, bind, Except.bind]

/-- **A run is one on the URL of the command line**, or else on the loaded one. -/
theorem run_of_load (ha : Arguments.parse i.args = .ok a) {loaded : Settings}
    (h : Settings.load w.files i.environment a.settings = .ok loaded) :
    run i w = runOn (a.databaseUrl.getD loaded.database.url) loaded a.command i.input w := by
  generalize hurl : a.databaseUrl.getD loaded.database.url = url
  have hwith : withUrl loaded a.databaseUrl = withUrl loaded (some url) :=
    hurl ▸ withUrl_getD loaded a.databaseUrl
  have hfilter : (withUrl loaded (some url)).logFilter = loaded.logFilter := rfl
  have hoptions : (withUrl loaded (some url)).storeOptions = loaded.storeOptions := rfl
  have hopened : (withUrl loaded (some url)).database.url = url := rfl
  simp only [run, ha, prepare, h, hwith, hfilter, Except.mapError, bind, Except.bind, runOn]
  cases LogFilter.parse loaded.logFilter with
  | error f => rfl
  | ok filter =>
    simp only [execute, hoptions, hopened, perform_withUrl]
    cases (openStore url loaded.storeOptions w).value <;> rfl

end Program

open Program Settings

/-- **Settings are layered one by one.**  Let the settings file be readable, and let the variables
that begin with the prefix be those of settings by their full names.  What decides on a setting is
its own variable, or else the file, in which a list counts only as long as no setting of its group
has a variable.  Loading gives these, converted, and it fails exactly if one of them is missing or
cannot be converted; other variables have no effect.  A run opens the URL of the command line, or
else the loaded one, and takes every other setting as it is loaded. -/
theorem settings_layered {fs : Files} {env : Environment} {path : Option String}
    {file : SettingsFile} {entries : List (String × Tree)}
    (hfile : SettingsFile.locate fs (path.getD standardPath) = .ok file)
    (hread : file.read = .ok entries) (henv : env.FullNames) :
    (∀ s, load fs env path = .ok s ↔
      ∀ k : Setting, (k.winner env (ofFile entries)).bind k.read = some (k.value s)) ∧
    ((∃ e, load fs env path = .error e) ↔
      ∃ k : Setting, (k.winner env (ofFile entries)).bind k.read = none) ∧
    (∀ env' : Environment, env'.filter (isNoticed ·.1) = env.filter (isNoticed ·.1) →
      load fs env' path = load fs env path) ∧
    ∀ i w a, i.environment = env → w.files = fs → Arguments.parse i.args = .ok a →
      a.settings = path →
      (∀ e, load fs env path = .error e → run i w = (⟨.failed ⟨e.message, none⟩, []⟩, w)) ∧
      ∀ loaded, load fs env path = .ok loaded →
        run i w = runOn (a.databaseUrl.getD loaded.database.url) loaded a.command i.input w := by
  refine ⟨fun s => load_iff hfile hread henv, load_fails_iff hfile hread henv,
    fun env' hfilter => load_of_filter fs path hfilter, ?_⟩
  rintro i w a rfl rfl ha rfl
  exact ⟨fun e he => run_of_load_error ha he, fun loaded hloaded => run_of_load ha hloaded⟩

/-- A settings file with a number that is none, without a filter, and with two groups as lists. -/
def patchyFile : Files :=
  .ofTexts
    [("settings/dev.toml",
      "\n".intercalate
        ["database = [\"sqlite:users.db\", 5, 7, true, true]", "generation = [32, 1, 100]",
          "[registration]", "max_attempts = \"many\""])]

/-- Variables that make up for it. -/
def patches : Environment :=
  [("HOME", "/root"), ("USERDB__REGISTRATION__MAX_ATTEMPTS", "3"), ("USERDB__LOG__FILTER", "off")]

/-- The settings that they give together. -/
def patched : Settings where
  database :=
    { url := "sqlite:users.db", maxConnections := 5, acquireTimeoutSecs := 7, createSchema := true
      traceOperations := true }
  generation := { maxAttempts := 32, backoffBaseMs := 1, backoffMaxMs := 100 }
  registrationAttempts := 3
  logFilter := "off"

theorem fullNames_patches : patches.FullNames := by
  have hhome : isNoticed "HOME" = false := by decide +kernel
  intro e he hnoticed
  rcases List.mem_cons.mp he with rfl | he
  · rw [hhome] at hnoticed
    cases hnoticed
  rcases List.mem_cons.mp he with rfl | he
  · exact ⟨.number .registrationAttempts, by decide⟩
  rcases List.mem_cons.mp he with rfl | he
  · exact ⟨.logFilter, by decide⟩
  · cases he

/-- A directory with the file. -/
def patchyWorld : World where
  files := patchyFile
  network := .down
  source := .scripted [] id

/-- A call for a user, with a URL of its own. -/
def patchedCall : Invocation where
  args := ["--database-url", "memory:", "get-user", "alice"]
  input := ""
  environment := patches

theorem settings_layered_patched :
    load patchyFile patches none = .ok patched ∧
      run patchedCall patchyWorld =
        runOn "memory:" patched (.getUser "alice") "" patchyWorld := by
  have hwinners : (match SettingsFile.locate patchyFile standardPath with
      | .ok file =>
        match file.read with
        | .ok entries => Setting.all.all fun k =>
            (k.winner patches (ofFile entries)).bind k.read == some (k.value patched)
        | .error _ => false
      | .error _ => false) = true := by
    decide +kernel
  split at hwinners
  · next file hfile =>
    split at hwinners
    · next entries hread =>
      obtain ⟨hload, -, -, hrun⟩ :=
        @settings_layered patchyFile patches none file entries hfile hread fullNames_patches
      have hpatched : load patchyFile patches none = .ok patched :=
        (hload patched).mpr fun k => beq_iff_eq.mp (List.all_eq_true.mp hwinners k k.mem_all)
      obtain ⟨-, hruns⟩ := hrun patchedCall patchyWorld ⟨none, some "memory:", .getUser "alice"⟩
        rfl rfl rfl rfl
      exact ⟨hpatched, hruns patched hpatched⟩
    · cases hwinners
  · cases hwinners

/-- A settings file with all settings, one group as a list. -/
def listedFile : Files :=
  .ofTexts
    [("s.toml",
      "\n".intercalate
        ["generation = [32, 1, 100]", "[database]", "url = \"sqlite::memory:\"",
          "max_connections = 5", "acquire_timeout_secs = 7", "create_schema = true",
          "trace_operations = false", "[registration]", "max_attempts = 3", "[log]",
          "filter = \"off\""])]

/-- The settings of the file. -/
def listed : Settings where
  database :=
    { url := "sqlite::memory:", maxConnections := 5, acquireTimeoutSecs := 7, createSchema := true
      traceOperations := false }
  generation := { maxAttempts := 32, backoffBaseMs := 1, backoffMaxMs := 100 }
  registrationAttempts := 3
  logFilter := "off"

/-- **A list is lost as a whole.**  The file gives all ten settings, and a variable gives a good
number for one of them; with both, two others are missing. -/
theorem list_displaced_by_variable :
    load listedFile [] (some "s.toml") = .ok listed ∧
      (Setting.number .generationAttempts).variableName = "USERDB__GENERATION__MAX_ATTEMPTS" ∧
      (Setting.number .generationAttempts).read (Setting.ofText "5") = some 5 ∧
      load listedFile [("USERDB__GENERATION__MAX_ATTEMPTS", "5")] (some "s.toml") =
        .error (.notFound "generation.backoff_base_ms") := by
  decide +kernel

end AccountRegistry
