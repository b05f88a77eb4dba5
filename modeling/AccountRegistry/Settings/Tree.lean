/-
Settings from several sources.

* **Tree** — settings of which each part may tell where it comes from;
* **KeyPath** — a path to a setting, such as `database.url` or `servers[0].name`;
* **KeyPath.set** — puts a setting at the end of a path; a table is merged entry by entry
  with the table that is there, anything else replaces what is there.
-/
import AccountRegistry.Settings.Plain

namespace AccountRegistry

/-- Settings with a note of where they come from. -/
inductive Tree where
  | scalar (origin : Option String) (s : Scalar)
  | list (origin : Option String) (items : List Tree)
  | table (origin : Option String) (entries : List (String × Tree))
  deriving Inhabited

/-- One step of a path after its first name. -/
inductive PathStep where
  | key (name : String)
  /-- A position in a list; a negative one counts from its end. -/
  | index (n : Int)
  deriving DecidableEq

/-- A path to a setting. -/
structure KeyPath where
  root : String
  steps : List PathStep
  deriving DecidableEq

namespace Tree

mutual

/-- Settings that all come from `origin`. -/
def ofPlain (origin : String) : Plain → Tree
  | .scalar s => .scalar (some origin) s
  | .list ps => .list (some origin) (ofItems origin ps)
  | .table es => .table (some origin) (ofEntries origin es)

/-- The items of a list that comes from `origin`. -/
def ofItems (origin : String) : List Plain → List Tree
  | [] => []
  | p :: ps => ofPlain origin p :: ofItems origin ps

/-- The entries of a table that comes from `origin`. -/
def ofEntries (origin : String) : List (String × Plain) → List (String × Tree)
  | [] => []
  | (k, p) :: es => (k, ofPlain origin p) :: ofEntries origin es

end

/-- No setting. -/
def nothing : Tree := .scalar none .null

/-- The entries of a table; what is no table has none. -/
def entries : Tree → List (String × Tree)
  | .table _ es => es
  | _ => []

/-- The items of a list; what is no list has none. -/
def items : Tree → List Tree
  | .list _ ts => ts
  | _ => []

/-- The setting of a key. -/
def get? (t : Tree) (key : String) : Option Tree :=
  t.entries.lookup key

/-- The note of where a table or list comes from; what is put in its place has none. -/
def tableOrigin : Tree → Option String
  | .table o _ => o
  | _ => none

/-- The note of where a list comes from. -/
def listOrigin : Tree → Option String
  | .list o _ => o
  | _ => none

/-- The table with one entry changed, or added at the end. -/
def changeEntry (key : String) (f : Tree → Tree) : List (String × Tree) → List (String × Tree)
  | [] => [(key, f nothing)]
  | (k, t) :: es => if k = key then (k, f t) :: es else (k, t) :: changeEntry key f es

/-- The list with one item changed; it grows as needed, at its front for a position before
its beginning. -/
def changeItem (n : Int) (f : Tree → Tree) (ts : List Tree) : List Tree :=
  let at? : Option Nat :=
    if 0 ≤ n then some n.toNat
    else if n.natAbs ≤ ts.length then some (ts.length - n.natAbs)
    else none
  match at? with
  | some i =>
    let ts := ts ++ List.replicate (i + 1 - ts.length) nothing
    ts.modify i f
  | none => (List.replicate (n.natAbs - ts.length) nothing ++ ts).modify 0 f

/-- Changes the setting under a key. What is no table becomes one. -/
def changeKey (key : String) (f : Tree → Tree) (t : Tree) : Tree :=
  .table t.tableOrigin (changeEntry key f t.entries)

/-- Changes the setting at the end of some steps. -/
def changeAt (f : Tree → Tree) : List PathStep → Tree → Tree
  | [], t => f t
  | .key k :: steps, t => t.changeKey k (changeAt f steps)
  | .index n :: steps, t => .list t.listOrigin (changeItem n (changeAt f steps) t.items)

mutual

/-- Puts `new` in the place of `old`, merging tables. -/
def merge (new : Tree) (old : Tree) : Tree :=
  match new with
  | .table _ es => mergeEntries es (.table old.tableOrigin old.entries)
  | .scalar o s => .scalar o s
  | .list o ts => .list o ts

/-- Puts entries into a table one after the other. -/
def mergeEntries : List (String × Tree) → Tree → Tree
  | [], t => t
  | (k, new) :: es, t => mergeEntries es (t.changeKey k (merge new))

end

end Tree

namespace KeyPath

/-- A character of a name in a path. -/
def isName (c : Char) : Bool :=
  c.isAlphanum || c = '_' || c = '-'

/-- The digits of a position and what follows its bracket. -/
def readIndex (cs : List Char) : Option (Int × List Char) :=
  let blank := fun (c : Char) => c = ' ' || c = '\t'
  let cs := cs.dropWhile blank
  let (negative, cs) := match cs with
    | '-' :: rest => (true, rest)
    | _ => (false, cs)
  let digits := cs.takeWhile Char.isDigit
  let n : Int := digits.foldl (fun n c => n * 10 + (c.toNat - 48)) 0
  let n := if negative then -n else n
  match (cs.dropWhile Char.isDigit).dropWhile blank with
  | ']' :: rest =>
    if digits.isEmpty || !fits64 n then none else some (n, rest)
  | _ => none

/-- The steps of a path after its first name. -/
def readSteps : Nat → List Char → Option (List PathStep)
  | _, [] => some []
  | 0, _ => none
  | n + 1, '.' :: cs =>
    let name := cs.takeWhile isName
    if name.isEmpty then none
    else (readSteps n (cs.dropWhile isName)).map fun steps => .key (.ofList name) :: steps
  | n + 1, '[' :: cs =>
    match readIndex cs with
    | some (i, rest) => (readSteps n rest).map fun steps => .index i :: steps
    | none => none
  | _, _ => none

/-- The path that a text denotes. -/
def parse (s : String) : Option KeyPath :=
  let cs := s.toList
  let name := cs.takeWhile isName
  if name.isEmpty then none
  else (readSteps cs.length (cs.dropWhile isName)).map fun steps => ⟨.ofList name, steps⟩

/-- The path that a text denotes; a text that is no path is a single key. -/
def ofKey (s : String) : KeyPath :=
  (parse s).getD ⟨s, []⟩

/-- Puts a setting at the end of the path. -/
def set (p : KeyPath) (new : Tree) (t : Tree) : Tree :=
  t.changeKey p.root (Tree.changeAt new.merge p.steps)

end KeyPath

end AccountRegistry
