/-
Connections that all see one SQLite database.

* **SqlitePool** — the connections of a store and where their database is;
* **SqliteLocation.openFile** — opens the file of a location, creating it if that is asked for;
* **PoolLimits.ofUri** — the limits of the pool for a URI;
* **SqlitePool.respond** — answers what a store asks of its database client;
* **SqlitePool.dropTable**, **SqlitePool.insertRaw** — what a test does behind the back of
  the store.
-/
import AccountRegistry.Files
import AccountRegistry.Candidates
import AccountRegistry.Store.Sqlite.Location
import AccountRegistry.Store.Sql.Pool
import AccountRegistry.Store.Options

namespace AccountRegistry

/-- Where the database of a pool is. -/
inductive SqliteHome where
  /-- In the one connection that there is. -/
  | own (db : SqliteDatabase)
  | file (p : Path)
  deriving Inhabited

/-- The connections of a store to one database. They are used one after the other, so that one
of them stands for all. -/
structure SqlitePool where
  home : SqliteHome
  readOnly : Bool
  closed : Bool := false
  deriving Inhabited

namespace SqliteLocation

/-- The error of a file that cannot be opened. -/
def cannotOpen : ClientFault := .database (.sqlite 14 "unable to open database file")

/-- The error of an unknown file system layer. -/
def noLayer (layer : String) : ClientFault := .database (.sqlite 1 ("no such vfs: " ++ layer))

/-- The file system layers. -/
def layers : List String := ["unix", "unix-dotfile", "unix-excl", "unix-none", "memdb"]

/-- What keeps a location from being opened, wherever its database is. -/
def check (l : SqliteLocation) : Except ClientFault Unit :=
  if l.name.toList.contains '\x00' then
    .error (.communication "filename passed to SQLite must not contain nul bytes")
  else match l.layer with
    | some layer => if layers.contains layer then .ok () else .error (noLayer layer)
    | none => .ok ()

/-- Opens the file of a location. -/
def openFile (l : SqliteLocation) (fs : Files) : Except ClientFault (SqlitePool × Files) :=
  let p := Path.plain l.name
  match fs.entryAt p, fs.entryAt p.dropLast with
  | .file _, _ => .ok (⟨.file p, l.refusesWrites, false⟩, fs)
  | .missing, .directory =>
    if l.createIfMissing && !l.readOnly then
      .ok (⟨.file p, l.refusesWrites, false⟩, fs.put p (.text ""))
    else .error cannotOpen
  | _, _ => .error cannotOpen

end SqliteLocation

/-- Whether the text of a URI speaks of a database in memory. -/
def mentionsMemory (uri : String) : Bool :=
  Text.occurs ":memory:".toList uri.toList || Text.occurs "mode=memory".toList uri.toList

/-- The limits of the pool for a URI. A database in memory goes with its connection, so
that there is one connection and it never expires. -/
def PoolLimits.ofUri (uri : String) (o : StoreOptions) : PoolLimits :=
  if mentionsMemory uri then .single else ⟨o.maxConnections, true⟩

/-- What the steps of a store work on. -/
structure SqliteState where
  files : Files
  pool : SqlitePool
  source : CandidateSource

namespace SqlitePool

/-- A pool of one connection on a new database in memory. -/
def fresh : SqlitePool := ⟨.own .empty, false, false⟩

/-- The error of a file that holds something else. -/
def notDatabase : DatabaseFault := .sqlite 26 "file is not a database"

/-- The database of the pool. -/
def database (p : SqlitePool) (fs : Files) : Except DatabaseFault SqliteDatabase :=
  match p.home with
  | .own db => .ok db
  | .file path =>
    match fs.entryAt path with
    | .file c =>
      match c.asDatabase with
      | some db => .ok db
      | none => .error notDatabase
    | _ => .ok .empty

/-- The state with another content of the database. -/
def store (s : SqliteState) (db : SqliteDatabase) : SqliteState :=
  match s.pool.home with
  | .own _ => { s with pool := { s.pool with home := .own db } }
  | .file path => { s with files := s.files.put path (.database db) }

/-- Performs a statement. One that changes nothing leaves the file alone. -/
def perform (st : Statement) (s : SqliteState) :
    Outcome SqliteState (Except ClientFault Reply) :=
  match (s.pool.database s.files).bind fun db => db.perform s.pool.readOnly st with
  | .error e => ⟨.error (.database e), s, []⟩
  | .ok (db, r) =>
    match st with
    | .createUsers | .insert _ => ⟨.ok r, store s db, []⟩
    | .countId _ | .find _ => ⟨.ok r, s, []⟩

/-- Answers what a store asks of its database client. -/
def respond : Responder SqlStep.interface SqliteState
  | .draw, s => ⟨s.source.draw.1, { s with source := s.source.draw.2 }, []⟩
  | .acquire, s => ⟨if s.pool.closed then .error .closed else .ok (), s, []⟩
  | .perform st, s => perform st s

/-- Drops the table; whether there was one to drop. -/
def dropTable (s : SqliteState) : Bool × SqliteState :=
  match s.pool.closed, s.pool.database s.files with
  | false, .ok ⟨some _⟩ => if s.pool.readOnly then (false, s) else (true, store s .empty)
  | _, _ => (false, s)

/-- Inserts a row as it is given; whether that was possible. -/
def insertRaw (r : Row) (s : SqliteState) : Bool × SqliteState :=
  match s.pool.closed, s.pool.database s.files with
  | false, .ok ⟨some rs⟩ =>
    if s.pool.readOnly then (false, s)
    else match SqliteDatabase.insertRow rs r with
      | .ok rs => (true, store s ⟨some rs⟩)
      | .error _ => (false, s)
  | _, _ => (false, s)

end SqlitePool

/-- The notices of this kind of store. -/
def SqlitePool.dialect : SqlDialect where
  target := "userdb::infra_sqlite::user_store_sqlite"
  announces := false

end AccountRegistry
