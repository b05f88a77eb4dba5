/-
MySQL servers and the connections to them.

* **MySqlReply** — how a server answers a statement;
* **MySqlServer** — a server that gives its replies from a list;
* **Network** — which servers can be reached;
* **MySqlPool** — the connections of a store, used one after the other;
* **MySqlPool.respond** — answers what a store asks of its database client;
* **Statement.mysql** — the text of a statement.

A statement is prepared once for each connection.  A server that drops the connection is
connected to anew for the next operation.
-/
import AccountRegistry.Store.MySql.Location
import AccountRegistry.Candidates

namespace AccountRegistry

/-- How a server answers a statement. -/
inductive MySqlReply where
  | done
  | fault (number : Nat) (state message : String)
  /-- The fault is told when the statement is prepared. -/
  | prepareFault (number : Nat) (state message : String)
  | count (n : Int)
  | rows (rs : List Row)
  /-- The connection is dropped. -/
  | close

/-- A server. -/
structure MySqlServer where
  /-- The error with which it refuses each login, if it does. -/
  refusal : Option DatabaseFault := none
  /-- The replies that are left; without one, a statement succeeds without a result. -/
  replies : List MySqlReply := []
  /-- What keeps a client from a connection each time that it wants one, also where it had one;
  without an entry nothing does. -/
  hindrances : List (Option ClientFault) := []

/-- Which servers can be reached, and why others cannot. -/
abbrev Network := MySqlEndpoint → Except String MySqlServer

namespace Network

/-- Whether a host is given by its address or is this machine. -/
def isAddress (host : String) : Bool :=
  host == "localhost" || host.toList.head? == some '[' || Text.UriParts.isIpv4 host.toList

/-- No server can be reached: no name is resolved, no address has a route, and there are no
sockets. -/
def down : Network
  | .host name _ =>
    .error (if isAddress name then "Network is unreachable (os error 101)"
      else "failed to lookup address information: Temporary failure in name resolution")
  | .socket _ => .error "No such file or directory (os error 2)"

end Network

/-- The kinds of statements, each prepared once for a connection. -/
inductive StatementKind where
  | createUsers | countId | insert | find
  deriving DecidableEq

/-- The kind of a statement. -/
def Statement.kind : Statement → StatementKind
  | .createUsers => .createUsers
  | .countId _ => .countId
  | .insert _ => .insert
  | .find _ => .find

/-- The text of a statement, with white space collapsed. -/
def Statement.mysql : Statement → String
  | .createUsers =>
    "CREATE TABLE IF NOT EXISTS users ( accountid CHAR(10) NOT NULL, username VARCHAR(64) NOT " ++
    "NULL, passhash BLOB NOT NULL, firstname VARCHAR(64) NOT NULL, lastname VARCHAR(64) NOT " ++
    "NULL, birthday DATE NOT NULL, timezone VARCHAR(64) NOT NULL, address VARCHAR(255) NOT " ++
    "NULL, state VARCHAR(64) NOT NULL, zip VARCHAR(16) NOT NULL, ssn VARCHAR(64) NOT NULL, " ++
    "PRIMARY KEY (accountid), UNIQUE KEY username (username) )"
  | .countId _ => "SELECT COUNT(1) FROM users WHERE accountid = ?"
  | .insert _ =>
    "INSERT INTO users (accountid, username, passhash, firstname, lastname, birthday, " ++
    "timezone, address, state, zip, ssn) VALUES (?, ?, ?, ?, ?, ?, ?, ?, ?, ?, ?)"
  | .find _ =>
    "SELECT accountid, username, passhash, firstname, lastname, birthday, timezone, address, " ++
    "state, zip, ssn FROM users WHERE username = ? LIMIT 1"

/-- What a server has seen of a statement. -/
inductive Seen where
  | executed (s : Statement)
  | refused (s : Statement)
  deriving DecidableEq

/-- The connections of a store to one endpoint. -/
structure MySqlPool where
  /-- How long a connection is waited for. -/
  patience : Duration
  closed : Bool := false
  connected : Bool := false
  /-- The kinds of statements prepared on the connection. -/
  prepared : List StatementKind := []

/-- What the steps of a store work on. -/
structure MySqlState where
  pool : MySqlPool
  /-- The server at the endpoint, or why it cannot be reached. -/
  server : Except String MySqlServer
  source : CandidateSource
  /-- What the server has seen, the latest first. -/
  seen : List Seen := []

namespace MySqlPool

/-- The fault of a connection that the server has dropped. -/
def dropped : ClientFault :=
  .communication "expected to read 4 bytes, got 0 bytes at EOF"

/-- The state with the next hindrance taken. -/
def takeHindrance (s : MySqlState) : Option ClientFault × MySqlState :=
  match s.server with
  | .error _ => (none, s)
  | .ok server =>
    (server.hindrances.head?.join, { s with server := .ok { server with
      hindrances := server.hindrances.tail } })

/-- The state without a connection. -/
def disconnected (s : MySqlState) : MySqlState :=
  { s with pool := { s.pool with connected := false, prepared := [] } }

/-- Logs in at the server. -/
def logIn (s : MySqlState) : Outcome MySqlState (Except ClientFault Unit) :=
  match s.server with
  | .error why => ⟨.error (.communication why), s, []⟩
  | .ok server =>
    match server.refusal with
    | some e => ⟨.error (.database e), s, []⟩
    | none => ⟨.ok (), { s with pool := { s.pool with connected := true, prepared := [] } }, []⟩

/-- Connects unless there is a connection that works. -/
def connect (s : MySqlState) : Outcome MySqlState (Except ClientFault Unit) :=
  if s.pool.closed then ⟨.error .closed, s, []⟩
  else if s.pool.patience.isZero then ⟨.error .timedOut, s, []⟩
  else
    let (hindrance, s) := takeHindrance s
    match hindrance with
    | some e => ⟨.error e, disconnected s, []⟩
    | none => if s.pool.connected then ⟨.ok (), s, []⟩ else logIn s

/-- The next reply of the server, and the server after it. -/
def nextReply : Except String MySqlServer → MySqlReply × Except String MySqlServer
  | .ok server =>
    match server.replies with
    | [] => (.done, .ok server)
    | r :: rs => (r, .ok { server with replies := rs })
  | .error why => (.close, .error why)

/-- The state after a statement that has been executed. -/
def executed (s : MySqlState) (st : Statement) : MySqlState :=
  { s with
    pool := { s.pool with prepared := st.kind :: s.pool.prepared }
    seen := .executed st :: s.seen }

/-- Sends a statement and takes the reply. -/
def perform (st : Statement) (s : MySqlState) : Outcome MySqlState (Except ClientFault Reply) :=
  let (reply, server) := nextReply s.server
  let s := { s with server }
  match reply with
  | .done => ⟨.ok .done, executed s st, []⟩
  | .count n => ⟨.ok (.count n), executed s st, []⟩
  | .rows rs => ⟨.ok (.rows rs), executed s st, []⟩
  | .fault number state message =>
    ⟨.error (.database (.mysql number state message)), executed s st, []⟩
  | .prepareFault number state message =>
    let fault := ClientFault.database (.mysql number state message)
    if st.kind ∈ s.pool.prepared then ⟨.error fault, executed s st, []⟩
    else ⟨.error fault, { s with seen := .refused st :: s.seen }, []⟩
  | .close =>
    ⟨.error dropped, disconnected (executed s st), []⟩

/-- Answers what a store asks of its database client. -/
def respond : Responder SqlStep.interface MySqlState
  | .draw, s => ⟨s.source.draw.1, { s with source := s.source.draw.2 }, []⟩
  | .acquire, s => connect s
  | .perform st, s => perform st s

/-- The notices of this kind of store. -/
def dialect : SqlDialect where
  target := "userdb::infra_mysql::user_store_mysql"
  announces := true

end MySqlPool

end AccountRegistry
