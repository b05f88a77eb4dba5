/-
A store with rivals.

**Store.racing** lets a rival insert a row with each freshly generated id before the id is
handed out, a given number of times.  It is how a lost race between the check and the
insert is brought about in a sequential run.
-/
import AccountRegistry.Store.Calls

namespace AccountRegistry

/-- The rival that takes the given id. -/
def rival (id : AccountId) : User where
  username := "rival-" ++ id.text
  passhash := []
  firstname := ""
  lastname := ""
  birthday := { year := 2000, month := 1, day := 1 }
  timezone := ""
  address := ""
  state := ""
  zip := ""
  ssn := ""
  accountId := id

/-- The state of a store with rivals: how many are still to come, and the inner state. -/
structure Racing (σ : Type) where
  rivals : Nat
  inner : σ

/-- The store with rivals. A generation that fails brings no rival; a rival that cannot be
inserted makes the generation fail with its error. -/
def Store.racing {σ : Type} (inner : Store σ) : Store (Racing σ) :=
  fun q s =>
    let o := inner q s.inner
    match q, o.value, s.rivals with
    | .generate, .ok id, rivals + 1 =>
      let p := inner (.add (rival id)) o.state
      ⟨match p.value with
        | .ok () => .ok id
        | .error e => .error e, ⟨rivals, p.state⟩, o.notices ++ p.notices⟩
    | _, value, rivals => ⟨value, ⟨rivals, o.state⟩, o.notices⟩

end AccountRegistry
