/-
Stores on top of a database.

* **ClientFault** — why a statement has no result, with its wording;
* **ClientFault.storeError** — the failure of the store that it amounts to;
* **SqlStep** — what a store asks of its database client: a candidate, a connection, the
  result of a statement;
* **SqlStore.call** — each operation of the store as a dialogue of such steps.
-/
import AccountRegistry.Store.Sql.Statement
import AccountRegistry.Store.Calls
import AccountRegistry.Generator

namespace AccountRegistry

/-- An error that a database reports. -/
inductive DatabaseFault where
  | sqlite (code : Nat) (message : String)
  | mysql (number : Nat) (state message : String)
  deriving DecidableEq, Inhabited

namespace DatabaseFault

/-- The message of the database itself. -/
def message : DatabaseFault → String
  | .sqlite _ m => m
  | .mysql _ _ m => m

/-- The message together with its number. -/
def text : DatabaseFault → String
  | .sqlite code m => s!"(code: {code}) {m}"
  | .mysql number state m => s!"{number} ({state}): {m}"

/-- Whether a unique column is violated, told by the number alone. -/
def isDuplicate : DatabaseFault → Bool
  | .sqlite code _ => code == 1555 || code == 2067
  | .mysql number _ _ => number == 1062

end DatabaseFault

/-- Why a statement has no result. -/
inductive ClientFault where
  | configuration (text : String)
  | communication (text : String)
  | database (e : DatabaseFault)
  | timedOut
  | closed
  | noRow
  | column (index text : String)
  deriving DecidableEq, Inhabited

namespace ClientFault

/-- The wording of a fault. -/
def message : ClientFault → String
  | .configuration t => "error with configuration: " ++ t
  | .communication t => "error communicating with database: " ++ t
  | .database e => "error returned from database: " ++ e.text
  | .timedOut => "pool timed out while waiting for an open connection"
  | .closed => "attempted to acquire a connection on a closed pool"
  | .noRow => "no rows returned by a query that expected to return at least one row"
  | .column index t => s!"error occurred while decoding column {index}: {t}"

/-- Whether the fault is about the connection and not about the statement. -/
def isConnection : ClientFault → Bool
  | .configuration _ | .communication _ | .timedOut | .closed => true
  | _ => false

/-- The failure of the store that a fault amounts to. -/
def storeError (e : ClientFault) : StoreError :=
  match e with
  | .database d =>
    if d.isDuplicate then .duplicate (.ofMessage d.message) else .query e.message
  | _ => if e.isConnection then .connection e.message else .query e.message

end ClientFault

/-- What a store asks of its database client. -/
inductive SqlStep where
  | draw
  /-- A connection from the pool. -/
  | acquire
  /-- The result of a statement on the connection acquired last. -/
  | perform (s : Statement)

/-- The steps with their results. -/
@[reducible] def SqlStep.interface : Interface where
  Question := SqlStep
  Answer
    | .draw => AccountId
    | .acquire => Except ClientFault Unit
    | .perform _ => Except ClientFault Reply

/-- What tells one database from another in the notices of a store. -/
structure SqlDialect where
  /-- The part of the program that the events of the store come from. -/
  target : String
  /-- Whether an insert is announced. -/
  announces : Bool

namespace SqlStore

/-- An insert is announced. -/
def inserting (dialect : SqlDialect) (username : String) : Notice :=
  .event
    { level := .debug, target := dialect.target, message := "inserting user"
      fields := [("username", .shown username)] }

/-- A row has been inserted. -/
def added (dialect : SqlDialect) (username : String) : Notice :=
  .event
    { level := .debug, target := dialect.target, message := "user added"
      fields := [("username", .shown username)] }

/-- A username has been looked up. -/
def fetched (dialect : SqlDialect) (username : String) (found : Bool) : Notice :=
  .event
    { level := .debug, target := dialect.target, message := "fetched user"
      fields := [("username", .given username), ("found", .flag found)] }

/-- Whether the reply to a count says that the id is taken. -/
def isTaken : Reply → Except ClientFault Bool
  | .count n => .ok (0 < n)
  | .done => .error .noRow
  | .rows [] => .error .noRow
  | .rows (r :: _) =>
    .error (.column "0" (Field.mismatch "i64" "BIGINT" (Field.typeName (r .accountId))))

/-- The user that the reply to a search holds. Of several rows the first counts. -/
def foundUser : Reply → Except ClientFault (Option User)
  | .rows (r :: _) =>
    match r.user with
    | .ok u => .ok (some u)
    | .error (f, why) => .error (.column (Text.quoted f.name) why)
  | .count _ => .error (.column (Text.quoted Field.accountId.name) "no column found")
  | .rows [] | .done => .ok none

/-- Acquires a connection and performs a statement on it. -/
def perform (s : Statement) : Dialogue SqlStep.interface (Except ClientFault Reply) :=
  .ask .acquire fun
    | .error e => .done (.error e)
    | .ok () => .ask (.perform s) .done

/-- The questions of the generator as steps. -/
def trial : (q : Trial) → Dialogue SqlStep.interface (Trial.interface.Answer q)
  | .draw => .ask .draw .done
  | .check id =>
    .ask (.perform (.countId id)) fun r =>
      .done ((r.bind isTaken).mapError ClientFault.storeError)

/-- Ends an insert. -/
def finishAdd (dialect : SqlDialect) (u : User) :
    Except ClientFault Reply → Dialogue SqlStep.interface (Except StoreError Unit)
  | .ok _ => .note (added dialect u.username) (.done (.ok ()))
  | .error e => .done (.error e.storeError)

/-- Ends a search. -/
def finishGet (dialect : SqlDialect) (username : String) (r : Except ClientFault Reply) :
    Dialogue SqlStep.interface (Except StoreError (Option User)) :=
  match r.bind foundUser with
  | .ok found => .note (fetched dialect username found.isSome) (.done (.ok found))
  | .error e => .done (.error e.storeError)

/-- An operation as a dialogue of steps. A generation keeps one connection for all its
checks. -/
def call (dialect : SqlDialect) (policy : RetryPolicy) :
    (q : StoreCall) → Dialogue SqlStep.interface (StoreCall.interface.Answer q)
  | .add u =>
    let insert := (perform (.insert u)).bind (finishAdd dialect u)
    if dialect.announces then .note (inserting dialect u.username) insert else insert
  | .generate =>
    .ask .acquire fun
      | .error e => .done (.error e.storeError)
      | .ok () => policy.generate.via trial
  | .get username => (perform (.find username)).bind (finishGet dialect username)

/-- Creates the table unless it exists. -/
def createSchema : Dialogue SqlStep.interface (Except StoreError Unit) :=
  (perform .createUsers).bind fun r =>
    .done ((r.map fun _ => ()).mapError ClientFault.storeError)

end SqlStore

end AccountRegistry
