/-
Opening a store from a URI.

* **World** — what a program finds: files, a network, and a source of candidates;
* **Engine** — the database behind an opened store;
* **openSqlite** — opens the SQLite database that a URI names;
* **openStore** — opens the store that a URI names, and tells of it;
* **engineStore** — the store on top of an engine;
* **storeOf** — the same, traced if the options ask for it.
-/
import AccountRegistry.Store.Memory
import AccountRegistry.Store.Traced
import AccountRegistry.Store.Sqlite.Connection
import AccountRegistry.Store.Sqlite.Volatile
import AccountRegistry.Store.MySql.Server

namespace AccountRegistry

/-- What a program finds. -/
structure World where
  files : Files
  network : Network
  source : CandidateSource

/-- The database behind an opened store. -/
inductive Engine where
  | memory (table : MemoryTable)
  | sqlite (pool : SqlitePool)
  | volatile (pool : VolatilePool)
  | mysql (pool : MySqlPool) (server : Except String MySqlServer) (seen : List Seen)

/-- A world together with an opened database. -/
structure Session where
  world : World
  engine : Engine

namespace Session

/-- Takes over what the steps of a memory store leave. -/
def ofMemory (s : Session) (m : MemoryState) : Session :=
  ⟨{ s.world with source := m.source }, .memory m.table⟩

/-- Takes over what the steps of an SQLite store leave. -/
def ofSqlite (s : Session) (m : SqliteState) : Session :=
  ⟨{ s.world with files := m.files, source := m.source }, .sqlite m.pool⟩

/-- Takes over what the steps of a store on volatile databases leave. -/
def ofVolatile (s : Session) (m : VolatileState) : Session :=
  ⟨{ s.world with source := m.source }, .volatile m.pool⟩

/-- Takes over what the steps of a MySQL store leave. -/
def ofMySql (s : Session) (m : MySqlState) : Session :=
  ⟨{ s.world with source := m.source }, .mysql m.pool m.server m.seen⟩

/-- The outcome with its state inside another one. -/
def lift {σ α : Type} (f : σ → Session) (o : Outcome σ α) : Outcome Session α :=
  ⟨o.value, f o.state, o.notices⟩

/-- Runs a dialogue with the database client of a session; there is none in memory. -/
def runSql {α : Type} (d : Dialogue SqlStep.interface (Except StoreError α)) (s : Session) :
    Outcome Session (Except StoreError α) :=
  match s.engine with
  | .memory _ => ⟨.error (.connection "no database client"), s, []⟩
  | .sqlite pool => lift s.ofSqlite (d.run SqlitePool.respond ⟨s.world.files, pool, s.world.source⟩)
  | .volatile pool => lift s.ofVolatile (d.run VolatilePool.respond ⟨pool, s.world.source⟩)
  | .mysql pool server seen =>
    lift s.ofMySql (d.run MySqlPool.respond ⟨pool, server, s.world.source, seen⟩)

/-- Closes the connections; later operations find the pool closed. -/
def close (s : Session) : Session :=
  match s.engine with
  | .memory t => { s with engine := .memory t }
  | .sqlite pool => { s with engine := .sqlite { pool with closed := true } }
  | .volatile pool => { s with engine := .volatile { pool with closed := true } }
  | .mysql pool server seen => { s with engine := .mysql { pool with closed := true } server seen }

end Session

/-- The store on top of the engine of a session. -/
def engineStore (policy : RetryPolicy) : Store Session :=
  fun q s =>
    match s.engine with
    | .memory t => Session.lift s.ofMemory (MemoryStore.store policy q ⟨t, s.world.source⟩)
    | .sqlite pool =>
      Session.lift s.ofSqlite
        ((SqlStore.call SqlitePool.dialect policy q).run SqlitePool.respond
          ⟨s.world.files, pool, s.world.source⟩)
    | .volatile pool =>
      Session.lift s.ofVolatile
        ((SqlStore.call SqlitePool.dialect policy q).run VolatilePool.respond
          ⟨pool, s.world.source⟩)
    | .mysql pool server seen =>
      Session.lift s.ofMySql
        ((SqlStore.call MySqlPool.dialect policy q).run MySqlPool.respond
          ⟨pool, server, s.world.source, seen⟩)

/-- The store of an opened session, traced if the options ask for it. -/
def storeOf (o : StoreOptions) (system : String) : Store Session :=
  if o.traced then (engineStore o.retry).traced system else engineStore o.retry

/-- The part of the program that the opening is told from. -/
def openingTarget : String := "userdb::store"

/-- A store has been opened. -/
def initialized (b : Backend) (o : StoreOptions) : Notice :=
  .event
    { level := .info, target := openingTarget, message := "user store initialized"
      fields :=
        [("backend", .given b.name), ("max_attempts", .count o.retry.maxAttempts),
          ("traced", .flag o.traced)] }

/-- A fault while the first connection is made is a failure to connect, whatever it is. -/
def OpeningFault.connecting : OpeningFault ClientFault → OpeningFault StoreError
  | .failed e => .failed (.connection e.message)
  | .aborted message => .aborted message

/-- Creates the table if the options ask for it. -/
def prepareSchema (o : StoreOptions) (s : Session) : Outcome Session (Except StoreError Unit) :=
  if o.createSchema then s.runSql SqlStore.createSchema else ⟨.ok (), s, []⟩

/-- Opens the database of a location by a pool with the given limits. -/
def SqliteLocation.openWith (l : SqliteLocation) (limits : PoolLimits) (fs : Files) :
    Except ClientFault (Engine × Files) := do
  l.check
  if l.isVolatile then .ok (.volatile (.opened limits l.isShared l.refusesWrites), fs)
  else (l.openFile fs).map fun (pool, fs) => (.sqlite pool, fs)

/-- Opens the SQLite database that a URI names. -/
def openSqlite (uri : String) (o : StoreOptions) (fs : Files) :
    Except (OpeningFault ClientFault) (Engine × Files) := do
  let l ← (SqliteLocation.ofUri uri).mapError .failed
  let limits := PoolLimits.ofUri uri o
  limits.start o.acquireTimeout
  (l.openWith limits fs).mapError .failed

/-- Connects to the server that a URI names. -/
def connectMySql (uri : String) (o : StoreOptions) (w : World) :
    Except (OpeningFault ClientFault) Engine := do
  let endpoint ← (MySqlEndpoint.ofUri uri).mapError .failed
  PoolLimits.start ⟨o.maxConnections, true⟩ o.acquireTimeout
  let pool : MySqlPool := { patience := o.acquireTimeout }
  let p := MySqlPool.connect { pool, server := w.network endpoint, source := w.source }
  p.value.mapError .failed
  return .mysql p.state.pool p.state.server p.state.seen

/-- Opens the database that a URI names, perhaps creating its file. -/
def openEngine (b : Backend) (uri : String) (o : StoreOptions) (w : World) :
    Except (OpeningFault ClientFault) (Engine × World) :=
  match b with
  | .memory => .ok (.memory .empty, w)
  | .sqlite => (openSqlite uri o w.files).map fun (engine, files) => (engine, { w with files })
  | .mysql => (connectMySql uri o w).map (·, w)

/-- Opens the store that a URI names: the kind of database and the session. When it fails,
files that have been created stay. -/
def openStore (uri : String) (o : StoreOptions) (w : World) :
    Outcome World (Except (OpeningFault StoreError) (Backend × Session)) :=
  match Backend.ofUri uri with
  | .error e => ⟨.error (.failed e), w, []⟩
  | .ok b =>
    match openEngine b uri o w with
    | .error e => ⟨.error e.connecting, w, []⟩
    | .ok (engine, w) =>
      let session : Session := ⟨w, engine⟩
      let r : Outcome Session (Except StoreError Unit) :=
        if b = .memory then ⟨.ok (), session, []⟩ else prepareSchema o session
      match r.value with
      | .error e => ⟨.error (.failed e), r.state.world, r.notices⟩
      | .ok () => ⟨.ok (b, r.state), r.state.world, r.notices ++ [initialized b o]⟩

end AccountRegistry
