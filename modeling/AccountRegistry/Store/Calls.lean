/-
The three operations of a store of users.

* **StoreCall** — insert a row, generate an unused id, look a username up;
* **StoreCall.interface** — the operations with their results;
* **Store** — a responder to them.
-/
import AccountRegistry.Dialogue
import AccountRegistry.Store.Error
import AccountRegistry.User

namespace AccountRegistry

/-- An operation of a store. -/
inductive StoreCall where
  | add (u : User)
  | generate
  | get (username : String)
  deriving DecidableEq

/-- The operations with their results. Each of them may fail. -/
@[reducible] def StoreCall.interface : Interface where
  Question := StoreCall
  Answer
    | .add _ => Except StoreError Unit
    | .generate => Except StoreError AccountId
    | .get _ => Except StoreError (Option User)

/-- A store whose state is of type `σ`. -/
abbrev Store (σ : Type) := Responder StoreCall.interface σ

end AccountRegistry
