/-
The files that a program finds.

* **Content** — a file holds text or a database;
* **Files** — the files by their paths, and directories that need not have any files;
* **Files.find** — what a path leads to, or why it leads nowhere;
* **Files.put** — writes a file.

The program works in the directory at the top, so that a path is the same with a slash in front
of it and without, and there is nothing above.  There are no links, and whoever may read a file
may also write it.
-/
import AccountRegistry.Store.Sqlite.Database

namespace AccountRegistry

/-- What a file holds. -/
inductive Content where
  | text (s : String)
  | database (db : SqliteDatabase)
  deriving Inhabited

/-- The content as text. A database begins with its mark. -/
def Content.asText : Content → String
  | .text s => s
  | .database ⟨none⟩ => ""
  | .database ⟨some _⟩ => "SQLite format 3\x00"

/-- The content as a database. An empty text is an empty database. -/
def Content.asDatabase : Content → Option SqliteDatabase
  | .database db => some db
  | .text s => if s.isEmpty then some .empty else none

/-- A path as the names on the way. -/
abbrev Path := List String

namespace Path

/-- The parts of a path as it is written. -/
def parts (s : String) : List String :=
  (Text.splitOn '/' s.toList).map String.ofList

/-- The parts without those that lead nowhere else. -/
def steps (s : String) : List String :=
  (parts s).filter fun p => p != "" && p != "."

/-- One step from a directory, up or down. -/
def step (dir : Path) (p : String) : Path :=
  if p = ".." then dir.dropLast else dir ++ [p]

/-- The place that a path names when no directory is looked at. -/
def plain (s : String) : Path :=
  (steps s).foldl step []

/-- The written form of a place. -/
def text (p : Path) : String :=
  "/".intercalate p

end Path

/-- The files that there are. -/
structure Files where
  entries : List (Path × Content)
  /-- Directories that are there also if there are no files in them. -/
  directories : List Path := []
  deriving Inhabited

/-- Why a path leads nowhere. -/
inductive PathFault where
  | noEntry
  | notDirectory
  deriving DecidableEq

/-- The wording of the system. -/
def PathFault.message : PathFault → String
  | .noEntry => "No such file or directory (os error 2)"
  | .notDirectory => "Not a directory (os error 20)"

/-- What stands at a place. -/
inductive Entry where
  | missing
  | directory
  | file (c : Content)

namespace Files

/-- The files of the given texts. -/
def ofTexts (files : List (String × String)) : Files :=
  { entries := files.map fun (name, text) => (Path.plain name, .text text) }

/-- The places that are known. What leads to one of them is a directory. -/
def places (fs : Files) : List Path :=
  fs.directories ++ fs.entries.map Prod.fst

/-- What stands at a place. -/
def entryAt (fs : Files) (p : Path) : Entry :=
  match fs.entries.lookup p with
  | some c => .file c
  | none => if p.isEmpty || fs.places.any fun q => p.isPrefixOf q then .directory else .missing

/-- Writes a file. -/
def put (fs : Files) (p : Path) (c : Content) : Files :=
  { fs with entries := (p, c) :: fs.entries.filter fun e => e.1 != p }

/-- Follows some steps from a directory; every step but the last must end in one. -/
def follow (fs : Files) (dir : Path) : List String → Except PathFault Path
  | [] => .ok dir
  | p :: ps =>
    match fs.entryAt dir with
    | .missing => .error .noEntry
    | .file _ => .error .notDirectory
    | .directory => follow fs (Path.step dir p) ps

/-- What a path leads to. A path that ends in a slash or a dot must lead to a directory. -/
def find (fs : Files) (s : String) : Except PathFault Entry :=
  if s.isEmpty then .error .noEntry
  else do
    let p ← fs.follow [] (Path.steps s)
    match fs.entryAt p, (Path.parts s).getLast? with
    | .missing, _ => .error .noEntry
    | .file _, some "" | .file _, some "." => .error .notDirectory
    | e, _ => .ok e

/-- The text of a file that a path leads to. -/
def textAt? (fs : Files) (s : String) : Option String :=
  match fs.find s with
  | .ok (.file c) => some c.asText
  | _ => none

end Files

end AccountRegistry
