/-
The command line program: reads what a run needs, runs it, and writes what it leaves.

* **gather** — the arguments, input and environment of a run, and the files it speaks of;
* **main** — runs the program.

There is no network here, so that a server cannot be reached.
-/
import AccountRegistry.CommandLine.Surroundings
import AccountRegistry.CommandLine.Usage

namespace AccountRegistry.CommandLine

/-- The rest of a stream. -/
partial def readRest (stream : IO.FS.Stream) (soFar : String) : IO String := do
  let line ← stream.getLine
  if line.isEmpty then return soFar
  readRest stream (soFar ++ line)

/-- The files with the one at a path, if it can be read. -/
def withFile (fs : Files) (path : String) : IO Files := do
  try return fs.withStored path (← IO.FS.readFile path)
  catch _ => return fs

/-- The variables that set a key of the settings. -/
def environment : IO Environment :=
  Settings.variableNames.filterMapM fun name => do
    return (← IO.getEnv name).map fun value => (name, value)

/-- The number in eight bytes. -/
def numberAt (bytes : ByteArray) (i : Nat) : Nat :=
  (List.range 8).foldl (fun n k => 256 * n + (bytes.data.getD (8 * i + k) 0).toNat) 0

/-- Random numbers that are the values of account ids; they repeat after the first 512. -/
def randomNumbers : IO (Nat → Nat) := do
  let bytes ← IO.getRandomBytes 4096
  let span := AccountId.greatest + 1 - AccountId.least
  return fun n => AccountId.least + numberAt bytes (n % 512) % span

/-- How the program is called and the world that it finds, but for the database. -/
def gather (args : List String) : IO (Invocation × World) := do
  let env ← environment
  let source : CandidateSource := .scripted [] (← randomNumbers)
  match Arguments.parse args with
  | .error _ => return (⟨args, "", env⟩, ⟨.ofTexts [], .down, source⟩)
  | .ok a =>
    let input ← if a.command.readsInput then readRest (← IO.getStdin) "" else pure ""
    let files ← a.paths.foldlM withFile (.ofTexts [])
    return (⟨args, input, env⟩, ⟨files, .down, source⟩)

/-- The file of the database that a run opens. -/
def databasePath (i : Invocation) (fs : Files) : Option String :=
  match Arguments.parse i.args with
  | .error _ => none
  | .ok a =>
    match Program.prepare a i.environment fs with
    | .ok (settings, _) => settings.databasePath
    | .error _ => none

/-- Writes a file as a run leaves it, unless it is as it was. -/
def writeBack (path : String) (before after : Files) : IO Unit :=
  match after.storedAt? path with
  | some text =>
    if before.storedAt? path = some text then pure () else IO.FS.writeFile path text
  | none => pure ()

/-- Prints what is left of a run. -/
def print (r : Report) : IO Unit := do
  match r.conclusion with
  | .refused .help => IO.println usage
  | .refused f => IO.eprintln f.text
  | c =>
    r.log.forM IO.eprintln
    IO.print c.output
    if c.errorText != "" then IO.eprintln c.errorText
    if let .aborted message := c then IO.eprintln message

end AccountRegistry.CommandLine

open AccountRegistry AccountRegistry.CommandLine

/-- Runs the program. -/
def main (args : List String) : IO UInt32 := do
  let (invocation, world) ← gather args
  let path := databasePath invocation world.files
  let files ← path.toList.foldlM withFile world.files
  let (report, after) := Program.run invocation { world with files }
  path.toList.forM fun p => writeBack p files after.files
  print report
  return report.conclusion.exitCode.toUInt32
