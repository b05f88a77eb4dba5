/-
The account service: registering and looking up accounts on top of a store.

* **Service.register** — generates an id and inserts the user; an id that was taken in the
  meantime is answered by generating another one;
* **Service.lookup** — the user of a username.
-/
import AccountRegistry.Store.Calls

namespace AccountRegistry.Service

/-- The part of the program that the events of the service come from. -/
def target : String := "userdb::application_impl::account_service_impl"

/-- A user has been inserted. -/
def registered (u : User) : Notice :=
  .event
    { level := .info, target, message := "account registered"
      fields := [("username", .shown u.username), ("account_id", .shown u.accountId.text)] }

/-- The id was taken between the check and the insert. -/
def idLost (id : AccountId) (attempt : Nat) : Notice :=
  .event
    { level := .warn, target, message := "account id taken at insert, regenerating"
      fields := [("account_id", .shown id.text), ("attempt", .count attempt)] }

/-- The number of attempts under a configured bound, at least one. -/
def bound (configured : Nat) : Nat :=
  max configured 1

/-- The rounds from number `attempt` on, when `left` of `total` are left. -/
def rounds (p : Profile) (total : Nat) :
    (left attempt : Nat) → Dialogue StoreCall.interface (Except StoreError User)
  | 0, _ => .done (.error (.exhausted total))
  | left + 1, attempt =>
    .ask .generate fun
      | .error e => .done (.error e)
      | .ok id =>
        .ask (.add (p.withId id)) fun
          | .ok () => .note (registered (p.withId id)) (.done (.ok (p.withId id)))
          | .error (.duplicate .accountId) =>
            .note (idLost id attempt) (rounds p total left (attempt + 1))
          | .error e => .done (.error e)

/-- Creates an account for `p` with a new id. -/
def register (configured : Nat) (p : Profile) :
    Dialogue StoreCall.interface (Except StoreError User) :=
  rounds p (bound configured) (bound configured) 1

/-- The user of a username. -/
def lookup (username : String) :
    Dialogue StoreCall.interface (Except StoreError (Option User)) :=
  .ask (.get username) .done

end AccountRegistry.Service
