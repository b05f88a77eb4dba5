/-
A store that tells of each operation.

**Store.traced** runs every operation inside a span of its own, records the outcome on it
and tells of a failure.  Results, states and calls are those of the inner store.
-/
import AccountRegistry.Store.Calls

namespace AccountRegistry

namespace Traced

/-- The part of the program that the spans and the failures come from. -/
def target : String := "userdb::application_impl::user_store_traced"

/-- The name of the span of an operation. -/
def spanName : StoreCall → String
  | .add _ => "add_user"
  | .generate => "generate_account_id"
  | .get _ => "get_user"

/-- The fields that a span has from the beginning. -/
def spanFields (system : String) : StoreCall → Fields
  | .add u =>
    [("db.system", .given system), ("db.statement", .given "INSERT INTO users"),
      ("user.username", .shown u.username), ("account_id", .shown u.accountId.text)]
  | .generate => [("db.system", .given system), ("db.statement", .given "SELECT FROM users")]
  | .get username =>
    [("db.system", .given system), ("db.statement", .given "SELECT FROM users"),
      ("user.username", .shown username)]

/-- What is recorded of an outcome. -/
def outcome : (q : StoreCall) → StoreCall.interface.Answer q → List Notice
  | .add u, .ok () => [.record (spanName (.add u)) [("user.added", .flag true)]]
  | .add u, .error _ => [.record (spanName (.add u)) [("user.added", .flag false)]]
  | .generate, .ok id => [.record (spanName .generate) [("account_id", .shown id.text)]]
  | .generate, .error _ => []
  | .get n, .ok found => [.record (spanName (.get n)) [("user.found", .flag found.isSome)]]
  | .get _, .error _ => []

/-- The error of an outcome, if it is one. -/
def errorOf : (q : StoreCall) → StoreCall.interface.Answer q → Option StoreError
  | .add _, .error e => some e
  | .add _, .ok _ => none
  | .generate, .error e => some e
  | .generate, .ok _ => none
  | .get _, .error e => some e
  | .get _, .ok _ => none

/-- The event that tells of an error. -/
def failureEvent (span : String) : StoreError → Event
  | .duplicate key =>
    { level := .warn, target, message := "duplicate key", fields := [("key", .shown key.text)]
      scope := some span }
  | e =>
    { level := .error, target, message := "user store operation failed"
      fields := [("error", .shown e.message)], scope := some span }

/-- What is told of an error: it is recorded on the span and an event follows. -/
def failure (span : String) : Option StoreError → List Notice
  | none => []
  | some e => [.record span [("error", .shown e.message)], .event (failureEvent span e)]

end Traced

/-- The store that tells of each operation; `system` is the name of the database. -/
def Store.traced {σ : Type} (system : String) (inner : Store σ) : Store σ :=
  fun q s =>
    let o := inner q s
    let name := Traced.spanName q
    { o with
      notices := .span name (Traced.spanFields system q) :: o.notices.map (·.within name) ++
        (Traced.outcome q o.value ++ Traced.failure name (Traced.errorOf q o.value)) }

end AccountRegistry
