/-
SQLite databases that end with the connections to them.

* **Pause** — what comes to pass on a pool before an operation of the store;
* **VolatilePool** — the connections of a store to databases that are in no file;
* **VolatilePool.acquire** — lends the connection that has been idle longest, or opens another;
* **VolatilePool.respond** — answers what a store asks of its database client.

A connection that has been used comes back to the pool in the background, so that an operation
that follows at once does not find it there.  It takes another one, which may be a new one, and
a new connection has a new database unless the connections share theirs.  The operations come
one after the other; each holds one connection.
-/
import AccountRegistry.Candidates
import AccountRegistry.Store.Sql.Pool
import AccountRegistry.Store.Sqlite.Database
import AccountRegistry.Store.Sqlite.Location

namespace AccountRegistry

/-- What comes to pass on a pool before an operation. -/
inductive Pause where
  /-- The connection used last is not back yet. -/
  | brief
  /-- All connections are back. -/
  | calm
  /-- All connections are back and have been there for so long that those that expire have done
  so. -/
  | long
  deriving DecidableEq

/-- The connections of a store to databases that are in no file. -/
structure VolatilePool where
  limits : PoolLimits
  /-- Whether all connections see the same database, so that one of them stands for all. -/
  shared : Bool
  readOnly : Bool
  closed : Bool := false
  /-- The databases of the idle connections, the one that came back first at the head. -/
  idle : List SqliteDatabase
  /-- The database of the connection used last, until it is back. -/
  lent : Option SqliteDatabase := none
  /-- The pauses before the operations to come; after these there are brief ones only. -/
  pauses : List Pause := []

/-- What the steps of a store work on. -/
structure VolatileState where
  pool : VolatilePool
  source : CandidateSource

namespace VolatilePool

/-- A pool whose first connection has just been opened. -/
def opened (limits : PoolLimits) (shared readOnly : Bool) : VolatilePool where
  limits := limits
  shared := shared
  readOnly := readOnly
  idle := [.empty]

/-- Whether a further connection may be opened, with a database of its own. -/
def mayScatter (p : VolatilePool) : Bool :=
  !p.shared && 1 < p.limits.connections

/-- The pool after all connections have come back. -/
def returned (p : VolatilePool) : VolatilePool :=
  { p with idle := p.idle ++ p.lent.toList, lent := none }

/-- The pool after a pause. -/
def rest (p : VolatilePool) : Pause → VolatilePool
  | .brief => p
  | .calm => p.returned
  | .long => if p.limits.expires then { p with idle := [], lent := none } else p.returned

/-- Lends the connection that has been idle longest. If there is none, another one is opened
unless there may be no more; then the one that is not back yet is waited for. -/
def lend (p : VolatilePool) : VolatilePool :=
  match p.idle, p.lent with
  | db :: dbs, busy => { p with idle := dbs ++ busy.toList, lent := some db }
  | [], none => { p with lent := some .empty }
  | [], some busy =>
    if p.mayScatter then { p with idle := [busy], lent := some .empty } else p

/-- Lends a connection after the next pause. -/
def acquire (p : VolatilePool) : VolatilePool :=
  match p.pauses with
  | [] => p.lend
  | pause :: pauses => ({ p with pauses }.rest pause).lend

/-- Performs a statement on the connection that is lent. Where none is, one is lent first. -/
def perform (st : Statement) (s : VolatileState) :
    Outcome VolatileState (Except ClientFault Reply) :=
  let pool := if s.pool.lent.isSome then s.pool else s.pool.lend
  match (pool.lent.getD .empty).perform pool.readOnly st with
  | .error e => ⟨.error (.database e), { s with pool }, []⟩
  | .ok (db, r) => ⟨.ok r, { s with pool := { pool with lent := some db } }, []⟩

/-- Answers what a store asks of its database client. -/
def respond : Responder SqlStep.interface VolatileState
  | .draw, s => ⟨s.source.draw.1, { s with source := s.source.draw.2 }, []⟩
  | .acquire, s =>
    if s.pool.closed then ⟨.error .closed, s, []⟩
    else ⟨.ok (), { s with pool := s.pool.acquire }, []⟩
  | .perform st, s => perform st s

end VolatilePool

end AccountRegistry
