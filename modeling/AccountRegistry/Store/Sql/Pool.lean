/-
Pools of database connections.

* **PoolLimits** — how many connections a pool may have, and whether they are replaced;
* **OpeningFault** — why nothing is opened: an error, or the end of the whole program;
* **PoolLimits.make**, **PoolLimits.start** — what keeps a pool from being made, and from having
  a first connection in time.

Of time no more is known than whether there is any.  A wait that may take some is long enough
for whatever is waited for, and the clock, which counts from the start of the machine, shows one
second when the first wait is planned.
-/
import AccountRegistry.Store.Sql.Client

namespace AccountRegistry

/-- Why nothing is opened. -/
inductive OpeningFault (ε : Type) where
  | failed (e : ε)
  /-- The whole program ends on the spot, with a message. -/
  | aborted (message : String)
  deriving DecidableEq

/-- The limits of a pool. -/
structure PoolLimits where
  connections : Nat
  /-- Whether connections are replaced when they grow old or stay idle. -/
  expires : Bool
  deriving DecidableEq

namespace PoolLimits

/-- One connection for ever. -/
def single : PoolLimits := ⟨1, false⟩

/-- What the clock shows, in seconds. -/
def clock : Nat := 1

/-- Makes a pool. The queue of its idle connections has one place for each connection. -/
def make (l : PoolLimits) : Except (OpeningFault ClientFault) Unit :=
  if l.connections = 0 then .error (.aborted "capacity must be non-zero") else .ok ()

/-- Makes a pool that is to have its first connection within the given time. The end of that
time is worked out before anything else. -/
def start (l : PoolLimits) (patience : Duration) : Except (OpeningFault ClientFault) Unit :=
  if 0x8000000000000000 ≤ clock + patience.secs then
    .error (.aborted "overflow when adding duration to instant")
  else do
    l.make
    if patience.isZero then .error (.failed .timedOut) else .ok ()

end PoolLimits

end AccountRegistry
