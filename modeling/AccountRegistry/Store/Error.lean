/-
What can go wrong with a store of users.

* **DuplicateKey** — the unique column that an insert violates;
* **DuplicateKey.ofMessage** — reads the column out of the message of a database;
* **StoreError** — the failure of a store, with its wording.
-/
import AccountRegistry.AccountId
import AccountRegistry.Text.Casing
import AccountRegistry.Text.Search

namespace AccountRegistry

/-- The unique column that an insert violates. -/
inductive DuplicateKey where
  | accountId
  | username
  | unknown
  deriving DecidableEq, Inhabited

namespace DuplicateKey

/-- The name of the key. -/
def text : DuplicateKey → String
  | .accountId => "accountid"
  | .username => "username"
  | .unknown => "unknown key"

/-- The part of a message that names the key: what follows the last `for key `, or else the
last `constraint failed: `, or else the whole message. -/
def keyPart (message : List Char) : List Char :=
  match Text.afterLast "for key ".toList message with
  | some key => key
  | none => (Text.afterLast "constraint failed: ".toList message).getD message

/-- The key that a message tells, letters of either case alike. -/
def ofMessage (message : String) : DuplicateKey :=
  let key := (keyPart message.toList).map Char.toLower
  if Text.occurs "username".toList key then .username
  else if Text.occurs "accountid".toList key || Text.occurs "primary".toList key then .accountId
  else .unknown

end DuplicateKey

/-- The failure of a store. -/
inductive StoreError where
  | connection (text : String)
  | query (text : String)
  | duplicate (key : DuplicateKey)
  | exhausted (attempts : Nat)
  | invalidId (e : MalformedId)
  deriving DecidableEq, Inhabited

/-- The wording of a failure. -/
def StoreError.message : StoreError → String
  | .connection text => "connection error: " ++ text
  | .query text => "query error: " ++ text
  | .duplicate key => "duplicate " ++ key.text
  | .exhausted n => s!"no unused account id found after {n} attempt(s)"
  | .invalidId e => e.message

end AccountRegistry
