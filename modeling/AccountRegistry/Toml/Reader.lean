/-
Reading TOML documents.

* **Toml.parse** — the table that a document denotes, or nothing if it is not TOML;
* **Toml.Node** — a table under construction, with a note of how each table came about;
* **Toml.insertAt** — adds something at the end of a path.

Design notes: a table may be opened by a header once, and only if nothing but the headers of
its subtables has made it; dotted keys may go on with tables that dotted keys have made.
What a node remembers is just what these rules ask for.
-/
import AccountRegistry.Toml.Scan

namespace AccountRegistry.Toml

/-- A part of a document under construction. -/
inductive Node where
  | value (p : Plain)
  /-- `implied` tables have no header of their own yet; `dotted` ones were made by keys. -/
  | table (implied dotted : Bool) (entries : List (String × Node))
  /-- The tables of a list, each with a header of its own. -/
  | tables (ts : List (List (String × Node)))
  deriving Inhabited

/-- The entries of a table under construction. -/
abbrev Entries := List (String × Node)

/-- The entry of a key replaced, or added at the end. -/
def setEntry (key : String) (n : Node) : Entries → Entries
  | [] => [(key, n)]
  | (k, m) :: es => if k = key then (k, n) :: es else (k, m) :: setEntry key n es

/-- Goes along a path and changes the table at its end. Tables on the way are made as
needed. `dotted` says that the path is that of a key; `here` that the table in hand was
made by one. -/
def changeAt (dotted : Bool) (f : Bool → Entries → Option Entries) :
    (here : Bool) → List String → Entries → Option Entries
  | here, [], es => f here es
  | _, k :: ks, es =>
    match es.lookup k with
    | none =>
      (changeAt dotted f dotted ks []).map fun sub => setEntry k (.table true dotted sub) es
    | some (.value _) => none
    | some (.tables ts) =>
      (changeAt dotted f false ks (ts.getLastD [])).map fun sub =>
        setEntry k (.tables (ts.dropLast ++ [sub])) es
    | some (.table implied made sub) =>
      if dotted && !implied then none
      else (changeAt dotted f made ks sub).map fun sub =>
        setEntry k (.table implied made sub) es

/-- Adds a value under a key. -/
def insertValue (path : List String) (p : Plain) (es : Entries) : Option Entries :=
  let front := path.dropLast
  let key := path.getLastD ""
  let add := fun (here : Bool) (es : Entries) =>
    if here = front.isEmpty then none
    else match es.lookup key with
      | none => some (es ++ [(key, .value p)])
      | some _ => none
  changeAt true add false front es

/-- Opens the table of a header. -/
def openTable (path : List String) (root : Entries) : Option Entries :=
  let key := path.getLastD ""
  let add := fun (_ : Bool) (es : Entries) =>
    match es.lookup key with
    | none => some (es ++ [(key, .table false false [])])
    | some (.table true false sub) => some (setEntry key (.table false false sub) es)
    | some _ => none
  changeAt false add false path.dropLast root

/-- Opens the next table of a list. -/
def openListed (path : List String) (root : Entries) : Option Entries :=
  let key := path.getLastD ""
  let add := fun (_ : Bool) (es : Entries) =>
    match es.lookup key with
    | none => some (es ++ [(key, .tables [[]])])
    | some (.tables ts) => some (setEntry key (.tables (ts ++ [[]])) es)
    | some _ => none
  changeAt false add false path.dropLast root

mutual

/-- The data of a node. -/
def Node.plain : Node → Plain
  | .value p => p
  | .table _ _ es => .table (entriesPlain es)
  | .tables ts => .list (tablesPlain ts)

/-- The data of the entries of a table. -/
def entriesPlain : List (String × Node) → List (String × Plain)
  | [] => []
  | (k, n) :: es => (k, n.plain) :: entriesPlain es

/-- The data of the tables of a list. -/
def tablesPlain : List (List (String × Node)) → List Plain
  | [] => []
  | t :: ts => .table (entriesPlain t) :: tablesPlain ts

end

/-- Values may be nested this deep. -/
def greatestDepth : Nat := 80

section

variable (fit : Int → Option Scalar)

mutual

/-- One value; `depth` more levels may be opened in it. -/
def readValue : Nat → Nat → List Char → Option (Plain × List Char)
  | 0, _, _ => none
  | n + 1, depth, cs =>
    match cs with
    | '"' :: _ | '\'' :: _ => (readText cs).map fun (s, rest) => (.scalar (.text s), rest)
    | '[' :: rest =>
      match depth with
      | 0 => none
      | depth + 1 => (readItems n depth rest).map fun (ps, rest) => (.list ps, rest)
    | '{' :: rest =>
      match depth with
      | 0 => none
      | depth + 1 =>
        match skipSpace rest with
        | '}' :: rest => some (.table [], rest)
        | rest =>
          (readPairs n depth [] rest).map fun (es, rest) => (.table (entriesPlain es), rest)
    | _ => (readWord fit cs).map fun (s, rest) => (.scalar s, rest)

/-- The items of a list that are left, and its end. -/
def readItems : Nat → Nat → List Char → Option (List Plain × List Char)
  | 0, _, _ => none
  | n + 1, depth, cs =>
    match skipLines cs.length cs with
    | ']' :: rest => some ([], rest)
    | cs =>
      match readValue n depth cs with
      | none => none
      | some (p, rest) =>
        match skipLines rest.length rest with
        | ',' :: rest => (readItems n depth rest).map fun (ps, rest) => (p :: ps, rest)
        | ']' :: rest => some ([p], rest)
        | _ => none

/-- The pairs of an inline table that are left, and its end. -/
def readPairs : Nat → Nat → Entries → List Char → Option (Entries × List Char)
  | 0, _, _, _ => none
  | n + 1, depth, es, cs =>
    match readKey greatestDepth cs with
    | none => none
    | some (path, rest) =>
      match rest with
      | '=' :: rest =>
        match readValue n depth (skipSpace rest) with
        | none => none
        | some (p, rest) =>
          match insertValue path p es with
          | none => none
          | some es =>
            match skipSpace rest with
            | ',' :: rest => readPairs n depth es rest
            | '}' :: rest => some (es, rest)
            | _ => none
      | _ => none

end

/-- A document as it has been read so far: the tables, and the path of the latest header. -/
structure Document where
  root : Entries
  header : List String

/-- Reads the key and the value of a line. -/
def readPair (d : Document) (cs : List Char) : Option (Document × List Char) := do
  let (path, rest) ← readKey greatestDepth cs
  let rest ← if rest.head? = some '=' then some (rest.drop 1) else none
  let rest := skipSpace rest
  let (p, rest) ← readValue fit (2 * rest.length + 2) greatestDepth rest
  let root ← changeAt false (fun _ es => insertValue path p es) false d.header d.root
  some ({ d with root }, rest)

/-- Reads the header of a table. -/
def readHeader (cs : List Char) (d : Document) : Option (Document × List Char) :=
  match cs with
  | '[' :: '[' :: rest => do
    let (path, rest) ← readKey greatestDepth rest
    let rest ← if [']', ']'].isPrefixOf rest then some (rest.drop 2) else none
    let root ← openListed path d.root
    some (⟨root, path⟩, rest)
  | '[' :: rest => do
    let (path, rest) ← readKey greatestDepth rest
    let rest ← if rest.head? = some ']' then some (rest.drop 1) else none
    let root ← openTable path d.root
    some (⟨root, path⟩, rest)
  | _ => none

/-- Reads the lines of a document. -/
def readLines : Nat → Document → List Char → Option Document
  | 0, _, _ => none
  | n + 1, d, cs =>
    match skipSpace cs with
    | [] => some d
    | c :: rest =>
      let line :=
        if c = '#' || c = '\n' || c = '\r' then some (d, c :: rest)
        else if c = '[' then readHeader (c :: rest) d
        else readPair fit d (c :: rest)
      match line with
      | none => none
      | some (d, rest) =>
        match endLine rest with
        | none => none
        | some rest => readLines n d rest

/-- The table that a document denotes, its integers being taken as `fit` says. A byte order
mark at its head is passed over. -/
def parseWith (s : String) : Option (List (String × Plain)) :=
  let cs := match s.toList with
    | c :: cs => if c.toNat = 0xFEFF then cs else c :: cs
    | [] => []
  (readLines fit (cs.length + 1) ⟨[], []⟩ cs).map fun d => entriesPlain d.root

end

/-- The table that a document denotes. -/
def parse (s : String) : Option (List (String × Plain)) :=
  parseWith fitting s

end AccountRegistry.Toml
