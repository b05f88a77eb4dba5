/-
What a run of the program looks at around it.

* **Arguments.paths** — the files that the arguments speak of;
* **Settings.databasePath** — the file of the database;
* **Settings.variableNames** — the environment variables that set a key;
* **Content.ofStored**, **Content.stored** — a file as it is kept.

A caller that cannot hand over a whole directory reads these files and no others; a run with
them ends as one with the whole directory.
-/
import AccountRegistry.CommandLine.Program
import AccountRegistry.Store.Sqlite.Snapshot

namespace AccountRegistry

/-- The files that a path to the settings may mean. -/
def SettingsFile.candidates (path : String) : List String :=
  path :: FileFormat.all.filterMap fun f => withExtension path f.extension

/-- The file that a command reads. -/
def Command.file? : Command → Option String
  | .generateAccountId => none
  | .getUser _ => none
  | .addUser file => file
  | .register file => file

/-- Whether a command reads the input. -/
def Command.readsInput : Command → Bool
  | .addUser none => true
  | .register none => true
  | _ => false

/-- The files that the arguments speak of. -/
def Arguments.paths (a : Arguments) : List String :=
  SettingsFile.candidates (a.settings.getD Settings.standardPath) ++ a.command.file?.toList

namespace Settings

/-- The file of the database, if there is one. -/
def databasePath (s : Settings) : Option String :=
  match Backend.ofUri s.database.url with
  | .ok .sqlite =>
    match SqliteLocation.ofUri s.database.url with
    | .ok l => if l.isVolatile then none else some l.name
    | .error _ => none
  | _ => none

/-- The groups of the settings. -/
def groups : List Group := [databaseGroup, generationGroup, registrationGroup, logGroup]

/-- The name of a variable in upper case. -/
def variableName (parts : List String) : String :=
  .ofList ((variablePrefix ++ "__".intercalate parts).toList.map Char.toUpper)

/-- The environment variables that set a group or one of its keys. -/
def variableNames : List String :=
  groups.flatMap fun g =>
    variableName [g.name] :: g.keys.map fun key => variableName [g.name, key]

end Settings

/-- What a kept file holds. -/
def Content.ofStored (s : String) : Content :=
  match SqliteDatabase.ofSnapshot s with
  | some db => .database db
  | none => .text s

/-- The text in which a file is kept. -/
def Content.stored : Content → String
  | .text s => s
  | .database db => db.snapshot

/-- The files with one more that is kept in the given text. -/
def Files.withStored (fs : Files) (path text : String) : Files :=
  fs.put (Path.plain path) (.ofStored text)

/-- The kept form of the file at a path, if there is one. -/
def Files.storedAt? (fs : Files) (path : String) : Option String :=
  match fs.entryAt (Path.plain path) with
  | .file c => some c.stored
  | _ => none

end AccountRegistry
