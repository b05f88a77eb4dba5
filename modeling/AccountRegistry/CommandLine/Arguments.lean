/-
The arguments of the command line.

* **Arguments** — a command, with the settings file and the database that it is to use;
* **ArgumentFault** — why arguments are not accepted, help among the reasons;
* **Arguments.parse** — reads the arguments.

Design notes: the value of an option is only looked at when the next option arrives or at
the end, so that a fault further right may come first; the values of the options before a
command are looked at after the command itself.
-/

namespace AccountRegistry

/-- What the program is asked to do. -/
inductive Command where
  | generateAccountId
  | getUser (username : String)
  | addUser (file : Option String)
  | register (file : Option String)
  deriving DecidableEq, Inhabited

/-- The arguments of the program. -/
structure Arguments where
  settings : Option String
  databaseUrl : Option String
  command : Command
  deriving DecidableEq, Inhabited

/-- Why arguments are not accepted. -/
inductive ArgumentFault where
  | help
  /-- Nothing is given, which is answered with help. -/
  | nothingGiven
  | unknownArgument
  | unknownCommand
  | missingArgument
  | missingCommand
  /-- A value is missing or empty. -/
  | badValue
  | repeated
  | tooManyValues
  deriving DecidableEq, Inhabited

/-- The exit code for a fault. -/
def ArgumentFault.exitCode : ArgumentFault → Nat
  | .help => 0
  | _ => 2

namespace Arguments

/-- What may stand at one level of the command line: before the command, or after it. -/
structure Grammar where
  /-- The options, each with a value. -/
  options : List String
  commands : List String := []
  /-- Whether a single word may stand alone. -/
  takesWord : Bool := false

/-- How far a level has been read. -/
structure Progress where
  /-- The values that have been looked at. -/
  values : List (String × String) := []
  /-- The option whose value has not been looked at, and the value if it has come. -/
  pending : Option (String × Option String) := none
  /-- Whether every further argument is a word. -/
  verbatim : Bool := false
  word : Option String := none

/-- The option of the settings file. -/
def settingsOption : String := "settings"

/-- The option of the database. -/
def databaseOption : String := "database-url"

/-- The option of the input file. It is a path and must not be empty. -/
def fileOption : String := "file"

/-- The names of the commands. -/
def commandNames : List String :=
  ["generate-account-id", "get-user", "add-user", "register", "help"]

/-- What may stand before the command. -/
def topLevel : Grammar where
  options := [settingsOption, databaseOption]
  commands := commandNames

/-- What may stand after a command. -/
def levelOf (command : String) : Grammar :=
  if command = "get-user" then { options := [], takesWord := true }
  else if command = "add-user" ∨ command = "register" then { options := [fileOption] }
  else { options := [] }

/-- Looks at the value of an option. -/
def accept (p : Progress) (name value : String) : Except ArgumentFault Progress :=
  if (p.values.lookup name).isSome then .error .repeated
  else if name = fileOption ∧ value.isEmpty then .error .badValue
  else .ok { p with values := (name, value) :: p.values, pending := none }

/-- Looks at the value of the pending option. -/
def resolve (p : Progress) : Except ArgumentFault Progress :=
  match p.pending with
  | none => .ok p
  | some (_, none) => .error .badValue
  | some (name, some value) => accept p name value

/-- The fault of asking for help about some commands. -/
def helpFault : List String → ArgumentFault
  | [] => .help
  | [c] => if commandNames.contains c then .help else .unknownCommand
  | _ :: _ :: _ => .unknownCommand

/-- The name and the value of an argument that begins with two dashes. -/
def longOption (a : String) : Option (String × Option String) :=
  match a.toList with
  | '-' :: '-' :: cs =>
    let name := cs.takeWhile (· ≠ '=')
    match cs.dropWhile (· ≠ '=') with
    | [] => some (.ofList name, none)
    | _ :: value => some (.ofList name, some (.ofList value))
  | _ => none

/-- The first letter of an argument that begins with one dash. -/
def shortOption (a : String) : Option Char :=
  match a.toList with
  | '-' :: c :: _ => if c = '-' then none else some c
  | _ => none

/-- A word that nobody is waiting for. -/
def takeWord (g : Grammar) (p : Progress) (a : String) : Except ArgumentFault Progress :=
  if g.takesWord ∧ p.word.isNone then do
    let p ← resolve p
    .ok { p with word := some a }
  else if g.commands.isEmpty ∨ (p.verbatim ∧ a ∈ g.commands) then .error .unknownArgument
  else .error .unknownCommand

/-- An option with or without a value in the same argument. -/
def takeOption (g : Grammar) (p : Progress) (name : String) (value : Option String) :
    Except ArgumentFault Progress :=
  if name = "help" then
    match value with
    | some _ => .error .tooManyValues
    | none => do
      let _ ← resolve p
      .error .help
  else if g.options.contains name then do
    let p ← resolve p
    match value with
    | some v => accept p name v
    | none => .ok { p with pending := some (name, none) }
  else .error .unknownArgument

/-- Whether the pending option is still waiting for its value. -/
def isWaiting (p : Progress) : Bool :=
  match p.pending with
  | some (_, none) => true
  | _ => false

/-- Gives a word to the pending option, or else takes it by itself. -/
def takeValue (g : Grammar) (p : Progress) (a : String) : Except ArgumentFault Progress :=
  match p.pending with
  | some (name, none) => .ok { p with pending := some (name, some a) }
  | _ => takeWord g p a

/-- Reads one argument that is neither a command nor the mark before words. -/
def takeArgument (g : Grammar) (p : Progress) (a : String) : Except ArgumentFault Progress :=
  match longOption a, shortOption a with
  | some (name, value), _ => takeOption g p name value
  | none, some c =>
    if c = 'h' then do
      let _ ← resolve p
      .error .help
    else .error .unknownArgument
  | none, none => takeValue g p a

/-- Reads a level up to a command, with the arguments that follow it, or to the end. -/
def readLevel (g : Grammar) : Progress → List String →
    Except ArgumentFault (Progress × Option (String × List String))
  | p, [] => .ok (p, none)
  | p, a :: rest =>
    if p.verbatim then do readLevel g (← takeWord g p a) rest
    else if !isWaiting p && g.commands.contains a then
      if a = "help" then .error (helpFault rest) else .ok (p, some (a, rest))
    else if a = "--" then readLevel g { p with verbatim := true } rest
    else do readLevel g (← takeArgument g p a) rest

/-- The command with the given name, from what stands after it. -/
def commandOf (name : String) (rest : List String) : Except ArgumentFault Command := do
  let (p, _) ← readLevel (levelOf name) {} rest
  let p ← resolve p
  if name = "generate-account-id" then .ok .generateAccountId
  else if name = "get-user" then
    match p.word with
    | some username => .ok (.getUser username)
    | none => .error .missingArgument
  else if name = "add-user" then .ok (.addUser (p.values.lookup fileOption))
  else .ok (.register (p.values.lookup fileOption))

/-- Reads the arguments. -/
def parse (args : List String) : Except ArgumentFault Arguments := do
  let (p, found) ← readLevel topLevel {} args
  match found with
  | some (name, rest) =>
    let command ← commandOf name rest
    let p ← resolve p
    .ok
      { settings := p.values.lookup settingsOption
        databaseUrl := p.values.lookup databaseOption
        command }
  | none =>
    let p ← resolve p
    .error (if p.values.isEmpty then .nothingGiven else .missingCommand)

end Arguments

end AccountRegistry
