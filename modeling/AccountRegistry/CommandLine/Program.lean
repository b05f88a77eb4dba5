/-
The program behind the command line.

* **Invocation** — how the program is called: arguments, input and environment;
* **Report** — what is left of a run: exit code, output, error and log;
* **Program.run** — a run of the program in a world.

A run loads the settings, sets up the log, opens the store and then does what the command
asks for.  Only a run that succeeds writes to its output.
-/
import AccountRegistry.CommandLine.Arguments
import AccountRegistry.Log.Line
import AccountRegistry.Service
import AccountRegistry.Settings
import AccountRegistry.Store.Opening
import AccountRegistry.User.Json

namespace AccountRegistry

/-- How the program is called. -/
structure Invocation where
  args : List String
  input : String
  environment : Environment

/-- Why a run fails: what failed, and its cause if that is told apart. -/
structure RunError where
  text : String
  cause : Option String := none
  deriving DecidableEq, Inhabited

/-- The text indented by four spaces, line by line. -/
def indented (s : String) : String :=
  .ofList ("    ".toList ++ s.toList.flatMap fun c =>
    if c = '\n' then "\n    ".toList else [c])

/-- The text of an error as the program prints it. -/
def RunError.message (e : RunError) : String :=
  "Error: " ++ e.text ++
    match e.cause with
    | some c => "\n\nCaused by:\n" ++ indented c
    | none => ""

/-- How a run ends. -/
inductive Conclusion where
  /-- The arguments are not accepted, or help is asked for. -/
  | refused (f : ArgumentFault)
  | failed (e : RunError)
  /-- The run ends on the spot, with a message. -/
  | aborted (message : String)
  /-- The user that is asked for does not exist. -/
  | notFound
  | succeeded (output : String)
  deriving DecidableEq, Inhabited

namespace Conclusion

/-- The exit code. -/
def exitCode : Conclusion → Nat
  | .refused f => f.exitCode
  | .failed _ => 1
  | .aborted _ => 101
  | .notFound => 1
  | .succeeded _ => 0

/-- What the run writes to its output. -/
def output : Conclusion → String
  | .succeeded s => s ++ "\n"
  | _ => ""

/-- The error that the run prints. -/
def errorText : Conclusion → String
  | .failed e => e.message
  | _ => ""

end Conclusion

/-- What is left of a run. -/
structure Report where
  conclusion : Conclusion
  log : List String
  deriving DecidableEq, Inhabited

namespace Program

/-- The part of the program that its own events come from. -/
def target : String := "userdb"

/-- The settings are told. -/
def settingsLoaded (s : Settings) : Notice :=
  .event
    { level := .debug, target, message := "", fields := [("settings", .shown s.debugText)] }

/-- There is no user of this name. -/
def userNotFound (username : String) : Notice :=
  .event
    { level := .warn, target, message := "user not found"
      fields := [("username", .shown username)] }

/-- A user has been inserted. -/
def userAdded (u : User) : Notice :=
  .event
    { level := .info, target, message := "user added"
      fields := [("username", .shown u.username), ("account_id", .shown u.accountId.text)] }

/-- The end of a run whose store is not opened. -/
def ofOpening : OpeningFault StoreError → Conclusion
  | .failed e => .failed ⟨"open user store", some e.message⟩
  | .aborted message => .aborted message

/-- The error of a filter. A bad level is told once more as the cause. -/
def ofFilter (f : FilterFault) : RunError :=
  ⟨f.message, if f = .level then some f.message else none⟩

/-- The text that a command reads, and what messages call it. -/
def inputOf (fs : Files) (input : String) : Option String → Except RunError (String × String)
  | none => .ok (input, "stdin")
  | some path =>
    match fs.find path with
    | .error e => .error ⟨"open " ++ path, some e.message⟩
    | .ok (.file c) => .ok (c.asText, path)
    | .ok _ => .error ⟨"parse " ++ path, some "Is a directory (os error 21)"⟩

/-- The record that a command reads. -/
def readRecord {α : Type} (r : Record α) (fs : Files) (input : String) (file : Option String) :
    Except RunError α := do
  let (text, name) ← inputOf fs input file
  (r.parse text).mapError fun e => ⟨"parse " ++ name, some e.message⟩

/-- Runs an operation of the store and ends with its result. -/
def operate {α : Type} (store : Store Session) (s : Session)
    (d : Dialogue StoreCall.interface (Except StoreError α))
    (finish : α → Conclusion × List Notice) : Outcome Session Conclusion :=
  let o := d.run store s
  match o.value with
  | .ok a => ⟨(finish a).1, o.state, o.notices ++ (finish a).2⟩
  | .error e => ⟨.failed ⟨e.message, none⟩, o.state, o.notices⟩

/-- Does what a command asks for. -/
def perform (settings : Settings) (store : Store Session) (input : String) (s : Session) :
    Command → Outcome Session Conclusion
  | .generateAccountId =>
    operate store s (.ask .generate .done) fun (id : AccountId) => (.succeeded id.text, [])
  | .getUser username =>
    operate store s (.ask (.get username) .done) fun
      | some u => (.succeeded u.json.pretty, [])
      | none => (.notFound, [userNotFound username])
  | .addUser file =>
    match readRecord User.record s.world.files input file with
    | .error e => ⟨.failed e, s, []⟩
    | .ok u =>
      operate store s (.ask (.add u) .done) fun () => (.succeeded u.accountId.text, [userAdded u])
  | .register file =>
    match readRecord Profile.record s.world.files input file with
    | .error e => ⟨.failed e, s, []⟩
    | .ok p =>
      operate store s (Service.register settings.registrationAttempts p) fun u =>
        (.succeeded u.json.pretty, [])

/-- The settings with the URL of the command line, if there is one. -/
def withUrl (s : Settings) : Option String → Settings
  | some url => { s with database := { s.database with url } }
  | none => s

/-- The settings and the log filter of a run. -/
def prepare (a : Arguments) (env : Environment) (fs : Files) :
    Except RunError (Settings × LogFilter) := do
  let loaded ← (Settings.load fs env a.settings).mapError fun e => ⟨e.message, none⟩
  let settings := withUrl loaded a.databaseUrl
  let filter ← (LogFilter.parse settings.logFilter).mapError ofFilter
  .ok (settings, filter)

/-- Opens the store and does what the command asks for. -/
def execute (settings : Settings) (command : Command) (input : String) (w : World) :
    Outcome World Conclusion :=
  let o := openStore settings.database.url settings.storeOptions w
  match o.value with
  | .error e => ⟨ofOpening e, o.state, o.notices⟩
  | .ok (b, session) =>
    let store := storeOf settings.storeOptions b.name
    let p := perform settings store input session command
    ⟨p.value, p.state.world, o.notices ++ p.notices⟩

/-- A run of the program, with the world after it. -/
def run (i : Invocation) (w : World) : Report × World :=
  match Arguments.parse i.args with
  | .error f => (⟨.refused f, []⟩, w)
  | .ok a =>
    match prepare a i.environment w.files with
    | .error e => (⟨.failed e, []⟩, w)
    | .ok (settings, filter) =>
      let o := execute settings a.command i.input w
      (⟨o.value, filter.lines (settingsLoaded settings :: o.notices)⟩, o.state)

end Program

end AccountRegistry
