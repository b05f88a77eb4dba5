/-
The store in memory.

* **MemoryTable** — the rows by account id, and the account ids by username;
* **MemoryStep** — the steps that no other client can interrupt: draw a candidate, ask
  whether an id is taken, insert a row, find a row;
* **MemoryStore.call** — each operation of the store as a dialogue of such steps;
* **MemoryStore.store** — the store for a single client.
-/
import AccountRegistry.Store.Calls
import AccountRegistry.Candidates
import AccountRegistry.Generator

namespace AccountRegistry

/-- The rows and the index of their usernames. -/
structure MemoryTable where
  byId : List (AccountId × User)
  byName : List (String × AccountId)
  deriving DecidableEq, Inhabited

namespace MemoryTable

/-- The table without rows. -/
def empty : MemoryTable := ⟨[], []⟩

/-- The number of rows. -/
def size (t : MemoryTable) : Nat :=
  t.byId.length

/-- Whether a row has this id. -/
def hasId (t : MemoryTable) (id : AccountId) : Bool :=
  (t.byId.lookup id).isSome

/-- Whether a row has this username. -/
def hasName (t : MemoryTable) (username : String) : Bool :=
  (t.byName.lookup username).isSome

/-- The row of a username, found through its id. -/
def find? (t : MemoryTable) (username : String) : Option User :=
  (t.byName.lookup username).bind fun id => t.byId.lookup id

/-- The table with one more row, or the key that is in use already. The id is looked at
first. -/
def insert (t : MemoryTable) (u : User) : Except DuplicateKey MemoryTable :=
  if t.hasId u.accountId then .error .accountId
  else if t.hasName u.username then .error .username
  else .ok ⟨(u.accountId, u) :: t.byId, (u.username, u.accountId) :: t.byName⟩

end MemoryTable

/-- A step that no other client can interrupt. -/
inductive MemoryStep where
  | draw
  | taken (id : AccountId)
  | insert (u : User)
  | find (username : String)

/-- The steps with their results. -/
@[reducible] def MemoryStep.interface : Interface where
  Question := MemoryStep
  Answer
    | .draw => AccountId
    | .taken _ => Bool
    | .insert _ => Except DuplicateKey Unit
    | .find _ => Option User

/-- What the clients share: the table and the source of candidates. -/
structure MemoryState where
  table : MemoryTable
  source : CandidateSource
  deriving Inhabited

namespace MemoryStore

/-- The part of the program that the events of this store come from. -/
def target : String := "userdb::infra_memory::user_store_memory"

/-- A row has been inserted. -/
def added (username : String) : Notice :=
  .event
    { level := .debug, target, message := "user added"
      fields := [("username", .shown username)] }

/-- A username has been looked up. -/
def fetched (username : String) (found : Bool) : Notice :=
  .event
    { level := .debug, target, message := "fetched user"
      fields := [("username", .given username), ("found", .flag found)] }

/-- One step on the shared state. -/
def step : Responder MemoryStep.interface MemoryState
  | .draw, s => ⟨s.source.draw.1, { s with source := s.source.draw.2 }, []⟩
  | .taken id, s => ⟨s.table.hasId id, s, []⟩
  | .insert u, s =>
    match s.table.insert u with
    | .ok table => ⟨.ok (), { s with table }, []⟩
    | .error key => ⟨.error key, s, []⟩
  | .find username, s => ⟨s.table.find? username, s, []⟩

/-- The questions of the generator as steps. -/
def trial : (q : Trial) → Dialogue MemoryStep.interface (Trial.interface.Answer q)
  | .draw => .ask .draw .done
  | .check id => .ask (.taken id) fun taken => .done (.ok taken)

/-- An operation as a dialogue of steps. -/
def call (policy : RetryPolicy) :
    (q : StoreCall) → Dialogue MemoryStep.interface (StoreCall.interface.Answer q)
  | .add u =>
    .ask (.insert u) fun
      | .ok () => .note (added u.username) (.done (.ok ()))
      | .error key => .done (.error (.duplicate key))
  | .generate => policy.generate.via trial
  | .get username =>
    .ask (.find username) fun found =>
      .note (fetched username found.isSome) (.done (.ok found))

/-- The store for a single client. -/
def store (policy : RetryPolicy) : Store MemoryState :=
  Responder.via step (call policy)

end MemoryStore

end AccountRegistry
