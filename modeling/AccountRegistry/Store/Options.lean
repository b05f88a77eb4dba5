/-
Choosing a store.

* **StoreOptions** — how a store is to be opened;
* **Backend** — the kind of database that a URI names, told by its scheme.
-/
import AccountRegistry.Duration
import AccountRegistry.Store.Error

namespace AccountRegistry

/-- How a store is to be opened. -/
structure StoreOptions where
  maxConnections : Nat
  acquireTimeout : Duration
  createSchema : Bool
  traced : Bool
  retry : RetryPolicy
  deriving DecidableEq, Inhabited

/-- The usual options. -/
def StoreOptions.standard : StoreOptions where
  maxConnections := 10
  acquireTimeout := .ofSecs 5
  createSchema := false
  traced := false
  retry := .standard

/-- A kind of database. -/
inductive Backend where
  | mysql
  | sqlite
  | memory
  deriving DecidableEq, Inhabited

namespace Backend

/-- The name that notices use. -/
def name : Backend → String
  | .mysql => "mysql"
  | .sqlite => "sqlite"
  | .memory => "memory"

/-- The scheme of a URI: what comes before the first colon, or nothing. -/
def scheme (uri : String) : String :=
  match Text.splitOnce ':' uri.toList with
  | some (scheme, _) => .ofList scheme
  | none => ""

/-- The kind of database that a URI names. The rest of the URI may hold credentials and is
not repeated. -/
def ofUri (uri : String) : Except StoreError Backend :=
  match Text.asciiLowercase (scheme uri) with
  | "mysql" | "mariadb" => .ok .mysql
  | "sqlite" => .ok .sqlite
  | "memory" => .ok .memory
  | other => .error (.connection ("unsupported database uri scheme: " ++ Text.quoted other))

end Backend

end AccountRegistry
