/-
Users: what the registry stores about an account.

* **Profile** — what a person supplies;
* **User** — a profile together with its account id, one row of the table;
* **Field** — the columns of a row, each with the type of its values.
-/
import AccountRegistry.AccountId
import AccountRegistry.Date
import AccountRegistry.Text.Hex

namespace AccountRegistry

/-- What is known of a person before there is an account. -/
structure Profile where
  username : String
  passhash : List UInt8
  firstname : String
  lastname : String
  birthday : Date
  timezone : String
  address : String
  state : String
  zip : String
  ssn : String
  deriving DecidableEq, Inhabited

/-- A registered user. -/
structure User extends Profile where
  accountId : AccountId
  deriving DecidableEq, Inhabited

/-- The user who has this profile and the given id. -/
def Profile.withId (p : Profile) (id : AccountId) : User :=
  { p with accountId := id }

/-- A column of the table of users. -/
inductive Field where
  | accountId | username | passhash | firstname | lastname | birthday | timezone | address
  | state | zip | ssn
  deriving DecidableEq

namespace Field

/-- All columns in their order. -/
def all : List Field :=
  [.accountId, .username, .passhash, .firstname, .lastname, .birthday, .timezone, .address,
    .state, .zip, .ssn]

/-- The columns of a profile in their order. -/
def ofProfile : List Field :=
  [.username, .passhash, .firstname, .lastname, .birthday, .timezone, .address, .state, .zip,
    .ssn]

/-- The name of a column. -/
def name : Field → String
  | .accountId => "accountid"
  | .username => "username"
  | .passhash => "passhash"
  | .firstname => "firstname"
  | .lastname => "lastname"
  | .birthday => "birthday"
  | .timezone => "timezone"
  | .address => "address"
  | .state => "state"
  | .zip => "zip"
  | .ssn => "ssn"

/-- The type of the values of a column. -/
def Value : Field → Type
  | .accountId => AccountId
  | .passhash => List UInt8
  | .birthday => Date
  | _ => String

/-- Why a text is no value of a column. -/
inductive Fault where
  | id (e : MalformedId)
  | hash (e : Text.Hex.Fault)
  | date (e : Date.Fault)
  deriving DecidableEq

/-- The wording of a fault. -/
def Fault.message : Fault → String
  | .id e => e.message
  | .hash e => e.message
  | .date e => e.message

/-- The value that a text denotes in a column. -/
def decode (f : Field) (s : String) : Except Fault f.Value :=
  match f with
  | .accountId => (AccountId.parse s).mapError .id
  | .passhash => (Text.Hex.decode s).mapError .hash
  | .birthday => (Date.parse s).mapError .date
  | .username | .firstname | .lastname | .timezone | .address | .state | .zip | .ssn => .ok s

/-- The text of a value. -/
def encode (f : Field) (v : f.Value) : String :=
  match f with
  | .accountId => AccountId.text v
  | .passhash => .ofList (Text.Hex.encode v)
  | .birthday => Date.text v
  | .username | .firstname | .lastname | .timezone | .address | .state | .zip | .ssn => v

end Field

/-- The value of a column. -/
def User.get (u : User) : (f : Field) → f.Value
  | .accountId => u.accountId
  | .username => u.username
  | .passhash => u.passhash
  | .firstname => u.firstname
  | .lastname => u.lastname
  | .birthday => u.birthday
  | .timezone => u.timezone
  | .address => u.address
  | .state => u.state
  | .zip => u.zip
  | .ssn => u.ssn

/-- A row that is being put together: the values known so far. -/
abbrev Draft := (f : Field) → Option f.Value

namespace Draft

/-- Nothing is known yet. -/
def empty : Draft := fun _ => none

/-- The draft with one more value. -/
def set (d : Draft) (f : Field) (v : f.Value) : Draft :=
  fun g => if h : f = g then some (h ▸ v) else d g

/-- A value, or the column that has none. -/
def need (d : Draft) (f : Field) : Except Field f.Value :=
  match d f with
  | some v => .ok v
  | none => .error f

/-- The profile that the draft holds, or the first column without a value. -/
def profile (d : Draft) : Except Field Profile := do
  let username ← d.need .username
  let passhash ← d.need .passhash
  let firstname ← d.need .firstname
  let lastname ← d.need .lastname
  let birthday ← d.need .birthday
  let timezone ← d.need .timezone
  let address ← d.need .address
  let state ← d.need .state
  let zip ← d.need .zip
  let ssn ← d.need .ssn
  .ok { username, passhash, firstname, lastname, birthday, timezone, address, state, zip, ssn }

/-- The user that the draft holds, or the first column without a value. -/
def user (d : Draft) : Except Field User := do
  let id ← d.need .accountId
  let p ← d.profile
  .ok (p.withId id)

end Draft

end AccountRegistry
