/-
The settings of the program.

* **Settings** — the ten settings in their four groups;
* **Settings.load** — reads the settings file and then the environment, whose variables win;
* **Settings.ofTree** — the settings that merged sources give;
* **Settings.debugText** — the settings on one line, the URL hidden but for its scheme;
* **Settings.storeOptions** — how the store is to be opened.
-/
import AccountRegistry.Settings.File
import AccountRegistry.Store.Options

namespace AccountRegistry

/-- The group about the database. -/
structure DatabaseSettings where
  url : String
  maxConnections : Nat
  acquireTimeoutSecs : Nat
  createSchema : Bool
  traceOperations : Bool
  deriving DecidableEq, Inhabited

/-- The group about generating account ids. -/
structure GenerationSettings where
  maxAttempts : Nat
  backoffBaseMs : Nat
  backoffMaxMs : Nat
  deriving DecidableEq, Inhabited

/-- The settings of the program. -/
structure Settings where
  database : DatabaseSettings
  generation : GenerationSettings
  /-- The attempts of the account service. -/
  registrationAttempts : Nat
  /-- Which events the log shows. -/
  logFilter : String
  deriving DecidableEq, Inhabited

namespace Settings

/-- The file that is read unless another one is named. It is that of a program built for
development; the one built for release reads another file, and is left out. -/
def standardPath : String := "settings/dev.toml"

/-- The group about the database. -/
def databaseGroup : Group where
  name := "database"
  record := "Database"
  keys := ["url", "max_connections", "acquire_timeout_secs", "create_schema",
    "trace_operations"]

/-- The group about generating account ids. -/
def generationGroup : Group where
  name := "generation"
  record := "Generation"
  keys := ["max_attempts", "backoff_base_ms", "backoff_max_ms"]

/-- The group about registering accounts. -/
def registrationGroup : Group where
  name := "registration"
  record := "Registration"
  keys := ["max_attempts"]

/-- The group about the log. -/
def logGroup : Group where
  name := "log"
  record := "Log"
  keys := ["filter"]

/-- Converts the part of a group at a position, if it is there. -/
def convertPart {α : Type} (f : String → Tree → Except SettingFault α)
    (parts : List (String × Option Tree)) (i : Nat) : Except SettingFault (Option α) :=
  match parts[i]? with
  | some (key, some t) => (f key t).map some
  | _ => .ok none

/-- A part that must be there. -/
def needPart {α : Type} (g : Group) (t : Tree) (parts : List (String × Option Tree)) (i : Nat)
    (found : Option α) : Except SettingFault α :=
  match found with
  | some a => .ok a
  | none => .error (g.missing t ((parts[i]?.map Prod.fst).getD g.name))

/-- The group about the database. A part of the wrong type is told before one that is
missing. -/
def readDatabase (t : Tree) : Except SettingFault DatabaseSettings := do
  let g := databaseGroup
  let parts ← g.parts t
  let url ← convertPart Tree.toText parts 0
  let connections ← convertPart Tree.toSmall parts 1
  let timeout ← convertPart Tree.toNatural parts 2
  let schema ← convertPart Tree.toBool parts 3
  let trace ← convertPart Tree.toBool parts 4
  .ok
    { url := ← needPart g t parts 0 url
      maxConnections := ← needPart g t parts 1 connections
      acquireTimeoutSecs := ← needPart g t parts 2 timeout
      createSchema := ← needPart g t parts 3 schema
      traceOperations := ← needPart g t parts 4 trace }

/-- The group about generating account ids. -/
def readGeneration (t : Tree) : Except SettingFault GenerationSettings := do
  let g := generationGroup
  let parts ← g.parts t
  let attempts ← convertPart Tree.toSmall parts 0
  let base ← convertPart Tree.toNatural parts 1
  let cap ← convertPart Tree.toNatural parts 2
  .ok
    { maxAttempts := ← needPart g t parts 0 attempts
      backoffBaseMs := ← needPart g t parts 1 base
      backoffMaxMs := ← needPart g t parts 2 cap }

/-- The group about registering accounts. -/
def readRegistration (t : Tree) : Except SettingFault Nat := do
  let parts ← registrationGroup.parts t
  let attempts ← convertPart Tree.toSmall parts 0
  needPart registrationGroup t parts 0 attempts

/-- The group about the log. -/
def readLog (t : Tree) : Except SettingFault String := do
  let parts ← logGroup.parts t
  let filter ← convertPart Tree.toText parts 0
  needPart logGroup t parts 0 filter

/-- Reads a group, if it is there. -/
def readGroup {α : Type} (g : Group) (f : Tree → Except SettingFault α) (root : Tree) :
    Except SettingFault (Option α) :=
  match root.get? g.name with
  | some t => (f t).map some
  | none => .ok none

/-- A group that must be there. -/
def needGroup {α : Type} (g : Group) : Option α → Except SettingFault α
  | some a => .ok a
  | none => .error (.notFound g.name)

/-- The settings that merged sources give. Groups that are there are read before one is
missed. -/
def ofTree (root : Tree) : Except SettingFault Settings := do
  let database ← readGroup databaseGroup readDatabase root
  let generation ← readGroup generationGroup readGeneration root
  let registration ← readGroup registrationGroup readRegistration root
  let log ← readGroup logGroup readLog root
  .ok
    { database := ← needGroup databaseGroup database
      generation := ← needGroup generationGroup generation
      registrationAttempts := ← needGroup registrationGroup registration
      logFilter := ← needGroup logGroup log }

/-- Puts settings into a tree one after the other, each at the path that its key denotes. -/
def mergeAll (source : List (String × Tree)) (root : Tree) : Tree :=
  source.foldl (fun t (key, new) => (KeyPath.ofKey key).set new t) root

/-- The settings of a file and the environment together; the environment wins. -/
def sources (file env : List (String × Tree)) : Tree :=
  mergeAll env (mergeAll file (.table none []))

/-- Loads the settings from the file that a path means, or else from the usual one, and from
the environment. -/
def load (fs : Files) (env : Environment) (path : Option String) :
    Except SettingFault Settings := do
  let file ← SettingsFile.locate fs (path.getD standardPath)
  let entries ← file.read
  ofTree (sources entries (environmentSettings env))

/-- A URL with nothing left of it but its scheme. -/
def redacted (url : String) : String :=
  Backend.scheme url ++ ":<redacted>"

/-- The settings on one line. -/
def debugText (s : Settings) : String :=
  let d := s.database
  let g := s.generation
  s!"Settings \x7b database: Database \x7b url: {redacted d.url}, " ++
  s!"max_connections: {d.maxConnections}, acquire_timeout_secs: {d.acquireTimeoutSecs}, " ++
  s!"create_schema: {d.createSchema}, trace_operations: {d.traceOperations} \x7d, " ++
  s!"generation: Generation \x7b max_attempts: {g.maxAttempts}, " ++
  s!"backoff_base_ms: {g.backoffBaseMs}, backoff_max_ms: {g.backoffMaxMs} \x7d, " ++
  s!"registration: Registration \x7b max_attempts: {s.registrationAttempts} \x7d, " ++
  s!"log: Log \x7b filter: {Text.quoted s.logFilter} \x7d \x7d"

/-- How the store is to be opened. -/
def storeOptions (s : Settings) : StoreOptions where
  maxConnections := s.database.maxConnections
  acquireTimeout := .ofSecs s.database.acquireTimeoutSecs
  createSchema := s.database.createSchema
  traced := s.database.traceOperations
  retry :=
    { maxAttempts := s.generation.maxAttempts
      base := .ofMillis s.generation.backoffBaseMs
      cap := .ofMillis s.generation.backoffMaxMs }

end Settings

end AccountRegistry
