/-
Sequences of steps on one store.

* **Setup** — how the store is opened: by a URI or directly, with how many rivals;
* **Step**, **Answer** — what is done with the store and what comes of it;
* **Running** — an opened store together with its rivals;
* **Setup.start**, **Running.step**, **Running.run** — opening, one step, several steps.
-/
import AccountRegistry.Store.Opening
import AccountRegistry.Store.Racing
import AccountRegistry.Service

namespace AccountRegistry

/-- Where the store of a sequence comes from. -/
inductive Origin where
  | uri (uri : String)
  /-- A new store in memory. -/
  | memory
  /-- A new SQLite database in memory. -/
  | sqlite
  /-- A pool on a MySQL server to which nobody has connected yet. -/
  | mysql (endpoint : MySqlEndpoint)
  deriving DecidableEq

/-- How the store of a sequence is opened. -/
structure Setup where
  origin : Origin
  options : StoreOptions
  /-- How many generated ids are lost to rivals. -/
  rivals : Nat := 0
  /-- The attempts of the account service. -/
  serviceAttempts : Nat := 3

/-- What is done with a store. -/
inductive Step where
  | add (u : User)
  | get (username : String)
  | generate
  | register (p : Profile)
  | lookup (username : String)
  /-- Counts the candidates that are left. -/
  | remaining
  | reopen
  /-- Counts the rows of a store in memory. -/
  | size
  | createSchema
  | close
  | dropTable
  | insertRaw (r : Row)

/-- What comes of a step. -/
inductive Answer where
  | done
  | id (id : AccountId)
  | user (u : User)
  | found (u : Option User)
  | count (n : Nat)
  | size (n : Nat)
  | dropped (worked : Bool)
  /-- A row could not be inserted behind the back of the store. -/
  | refused
  | failed (e : StoreError)
  /-- The whole program has ended, with a message. -/
  | aborted (message : String)
  deriving DecidableEq

/-- The answer of an operation that may fail. -/
def Answer.ofResult {α : Type} (f : α → Answer) : Except StoreError α → Answer
  | .ok a => f a
  | .error e => .failed e

/-- The answer of an opening that fails. -/
def Answer.ofOpening : OpeningFault StoreError → Answer
  | .failed e => .failed e
  | .aborted message => .aborted message

/-- An opened store together with its rivals. -/
structure Running where
  session : Session
  rivals : Nat
  /-- The name of the database in traces. -/
  system : String

namespace Setup

/-- Opens the store: the session and the name of its database. -/
def openOrigin (s : Setup) (w : World) :
    Outcome World (Except (OpeningFault StoreError) (String × Session)) :=
  match s.origin with
  | .uri uri =>
    let o := openStore uri s.options w
    { o with value := o.value.map fun (b, session) => (b.name, session) }
  | .memory => ⟨.ok ("direct", ⟨w, .memory .empty⟩), w, []⟩
  | .sqlite =>
    let o := prepareSchema s.options ⟨w, .sqlite .fresh⟩
    ⟨(o.value.map fun _ => ("direct", o.state)).mapError .failed, o.state.world, o.notices⟩
  | .mysql endpoint =>
    let pool : MySqlPool := { patience := s.options.acquireTimeout }
    ⟨((PoolLimits.make ⟨s.options.maxConnections, true⟩).map fun _ =>
      ("direct", ⟨w, .mysql pool (w.network endpoint) []⟩)).mapError (·.connecting), w, []⟩

/-- Opens the store with all its rivals still to come. -/
def start (s : Setup) (w : World) : Outcome World (Except (OpeningFault StoreError) Running) :=
  let o := s.openOrigin w
  { o with value := o.value.map fun (system, session) => ⟨session, s.rivals, system⟩ }

/-- The store on which the steps work. -/
def store (s : Setup) (system : String) : Store (Racing Session) :=
  Store.racing (storeOf s.options system)

end Setup

namespace Running

/-- Runs a dialogue with the store. -/
def converse {α : Type} (r : Running) (s : Setup) (f : α → Answer)
    (d : Dialogue StoreCall.interface (Except StoreError α)) : Outcome Running Answer :=
  let o := d.run (s.store r.system) ⟨r.rivals, r.session⟩
  ⟨.ofResult f o.value, { r with session := o.state.inner, rivals := o.state.rivals }, o.notices⟩

/-- Does something to an SQLite database behind the back of the store. -/
def meddle (r : Running) (f : SqliteState → Bool × SqliteState) : Bool × Running :=
  match r.session.engine with
  | .sqlite pool =>
    let (b, t) := f ⟨r.session.world.files, pool, r.session.world.source⟩
    (b, { r with session := r.session.ofSqlite t })
  | _ => (false, r)

/-- The number of rows of a store in memory. -/
def size (r : Running) : Nat :=
  match r.session.engine with
  | .memory t => t.size
  | _ => 0

/-- One step. -/
def step (s : Setup) (r : Running) : Step → Outcome Running Answer
  | .add u => r.converse s (fun () => .done) (.ask (.add u) .done)
  | .get username => r.converse s .found (.ask (.get username) .done)
  | .generate => r.converse s .id (.ask .generate .done)
  | .register p => r.converse s .user (Service.register s.serviceAttempts p)
  | .lookup username => r.converse s .found (Service.lookup username)
  | .remaining => ⟨.count r.session.world.source.remaining, r, []⟩
  | .reopen =>
    let o := s.start r.session.world
    match o.value with
    | .ok r => ⟨.done, r, o.notices⟩
    | .error e => ⟨.ofOpening e, { r with session := { r.session with world := o.state } }, o.notices⟩
  | .size => ⟨.size r.size, r, []⟩
  | .createSchema =>
    let o := r.session.runSql SqlStore.createSchema
    ⟨.ofResult (fun () => .done) o.value, { r with session := o.state }, o.notices⟩
  | .close => ⟨.done, { r with session := r.session.close }, []⟩
  | .dropTable =>
    let (b, r) := r.meddle SqlitePool.dropTable
    ⟨.dropped b, r, []⟩
  | .insertRaw row =>
    let (b, r) := r.meddle (SqlitePool.insertRaw row)
    ⟨if b then .done else .refused, r, []⟩

/-- Several steps, with the answers and notices of each. -/
def run (s : Setup) (r : Running) : List Step → Running × List (Answer × List Notice)
  | [] => (r, [])
  | st :: sts =>
    let o := r.step s st
    let (r, rest) := run s o.state sts
    (r, (o.value, o.notices) :: rest)

end Running

end AccountRegistry
