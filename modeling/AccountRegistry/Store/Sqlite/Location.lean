/-
Where an SQLite URI says that the database is.

* **SqliteLocation** — the file name and the ways to open it;
* **SqliteLocation.ofUri** — reads a URI: a path up to the first question mark, and then
  parameters;
* **SqliteLocation.isVolatile** — whether the database is in no file and ends with the
  connections to it;
* **SqliteLocation.isShared** — whether the connections to such a database see the same one.

A name that begins with `file:` is taken for a file, although SQLite would read it as a URI.
-/
import AccountRegistry.Text.Percent
import AccountRegistry.Text.Quoted
import AccountRegistry.Store.Sql.Client

namespace AccountRegistry

/-- A database file and the ways to open it. -/
structure SqliteLocation where
  name : String
  readOnly : Bool := false
  createIfMissing : Bool := false
  inMemory : Bool := false
  sharedCache : Bool := false
  immutable : Bool := false
  /-- The file system layer to use instead of the usual one. -/
  layer : Option String := none
  deriving DecidableEq, Inhabited

namespace SqliteLocation

/-- The name that stands for a database in memory. -/
def memoryName : String := ":memory:"

/-- Removes `pat` from the head of a text as often as it stands there. -/
def stripHead (pat : List Char) (cs : List Char) : List Char :=
  if pat ≠ [] ∧ pat.isPrefixOf cs then stripHead pat (cs.drop pat.length) else cs
termination_by cs.length
decreasing_by
  rename_i h
  have hp : 0 < pat.length := List.length_pos_iff.mpr h.1
  have hc : pat.length ≤ cs.length := (List.isPrefixOf_iff_prefix.mp h.2).length_le
  simp only [List.length_drop]
  omega

/-- A value that a parameter cannot have. -/
def unknownValue (parameter value : String) : ClientFault :=
  .configuration ("unknown value " ++ Text.quoted value ++ " for \x60" ++ parameter ++ "\x60")

/-- The location with one parameter taken into account. -/
def withParameter (l : SqliteLocation) : String × String → Except ClientFault SqliteLocation
  | ("mode", "ro") => .ok { l with readOnly := true }
  | ("mode", "rw") => .ok l
  | ("mode", "rwc") => .ok { l with createIfMissing := true }
  | ("mode", "memory") => .ok { l with inMemory := true, sharedCache := true }
  | ("mode", v) => .error (unknownValue "mode" v)
  | ("cache", "private") => .ok { l with sharedCache := false }
  | ("cache", "shared") => .ok { l with sharedCache := true }
  | ("cache", v) => .error (unknownValue "cache" v)
  | ("immutable", "true") | ("immutable", "1") => .ok { l with immutable := true }
  | ("immutable", "false") | ("immutable", "0") => .ok { l with immutable := false }
  | ("immutable", v) => .error (unknownValue "immutable" v)
  | ("vfs", v) => .ok { l with layer := some v }
  | (name, _) =>
    .error (.configuration
      ("unknown query parameter \x60" ++ name ++ "\x60 while parsing connection URL"))

/-- The location of a path without parameters. -/
def ofPath (path : List Char) : Except ClientFault SqliteLocation :=
  if path = memoryName.toList then .ok { name := "", inMemory := true, sharedCache := true }
  else match Text.Percent.decode path with
    | .ok name => .ok { name }
    | .error e => .error (.configuration e.message)

/-- The location that a URI names. -/
def ofUri (uri : String) : Except ClientFault SqliteLocation :=
  let rest := stripHead "sqlite:".toList (stripHead "sqlite://".toList uri.toList)
  match Text.splitOnce '?' rest with
  | none => ofPath rest
  | some (path, query) => do
    let l ← ofPath path
    (Text.Percent.formPairs query).foldlM withParameter l

/-- Whether the name or a parameter asks for a database without a file. -/
def isPrivate (l : SqliteLocation) : Bool :=
  l.inMemory || l.name == "" || l.name == memoryName

/-- The layer that keeps its files in memory. -/
def memoryLayer : String := "memdb"

/-- Whether the database is in no file and ends with the connections to it. -/
def isVolatile (l : SqliteLocation) : Bool :=
  l.isPrivate || l.layer == some memoryLayer

/-- Whether writes are refused. -/
def refusesWrites (l : SqliteLocation) : Bool :=
  l.readOnly || (l.immutable && !l.isPrivate)

/-- Whether the layer that is in memory shows a name to all connections. -/
def isCommonName (name : String) : Bool :=
  match name.toList with
  | '/' :: _ :: _ | '\\' :: _ :: _ => true
  | _ => false

/-- Whether the connections to a database that is in no file see the same one. They do if they
share their cache and the name is handed over as a URI, which takes a parameter; and the layer
that is in memory has names that all of them see. -/
def isShared (l : SqliteLocation) : Bool :=
  l.name != "" && l.sharedCache && (l.immutable || l.layer.isSome) ||
    !l.isPrivate && l.layer == some memoryLayer && isCommonName l.name

end SqliteLocation

end AccountRegistry
