/-
Generating account ids: candidates are drawn and checked one by one until one is free.

* **Trial** — the two questions of the generator: draw a candidate, check an id;
* **RetryPolicy.generate** — the generator under a policy, as a dialogue.

Only a taken id leads to another attempt; a check that fails ends the dialogue with its
error.
-/
import AccountRegistry.Dialogue
import AccountRegistry.Store.Error

namespace AccountRegistry

/-- The questions of the generator. -/
inductive Trial where
  | draw
  | check (id : AccountId)

/-- A candidate is an id; the answer to a check is whether the id is taken. -/
@[reducible] def Trial.interface : Interface where
  Question := Trial
  Answer
    | .draw => AccountId
    | .check _ => Except StoreError Bool

namespace Generator

/-- The part of the program that the events of the generator come from. -/
def target : String := "userdb::application_impl::account_id_generator"

/-- A free id has been found. -/
def generated (id : AccountId) (attempt : Nat) : Notice :=
  .event
    { level := .debug, target, message := "account id generated"
      fields := [("account_id", .shown id.text), ("attempt", .count attempt)] }

/-- An id is taken. -/
def alreadyExists (id : AccountId) (attempt : Nat) : Notice :=
  .event
    { level := .debug, target, message := "account id already exists, retrying"
      fields := [("account_id", .shown id.text), ("attempt", .count attempt)] }

/-- All attempts have been used up. -/
def gaveUp (attempts : Nat) : Notice :=
  .event
    { level := .warn, target, message := "account id generation exhausted"
      fields := [("attempts", .count attempts)] }

end Generator

namespace RetryPolicy

/-- Waits for the time `d` and goes on. -/
def pause {α : Type} (d : Duration) (next : Dialogue Trial.interface α) :
    Dialogue Trial.interface α :=
  if d.isZero then next else .note (.wait d) next

/-- The attempts from number `attempt` on, when `left` of them are left. -/
def attempts (p : RetryPolicy) :
    (left attempt : Nat) → Dialogue Trial.interface (Except StoreError AccountId)
  | 0, _ => .note (Generator.gaveUp p.bound) (.done (.error (.exhausted p.bound)))
  | left + 1, attempt =>
    .ask .draw fun candidate =>
      .ask (.check candidate) fun
        | .error e => .done (.error e)
        | .ok false => .note (Generator.generated candidate attempt) (.done (.ok candidate))
        | .ok true =>
          .note (Generator.alreadyExists candidate attempt)
            (if left = 0 then p.attempts left (attempt + 1)
              else pause (p.delayAfter attempt) (p.attempts left (attempt + 1)))

/-- Draws candidates until one is free or the attempts are used up. -/
def generate (p : RetryPolicy) : Dialogue Trial.interface (Except StoreError AccountId) :=
  p.attempts p.bound 1

end RetryPolicy

end AccountRegistry
