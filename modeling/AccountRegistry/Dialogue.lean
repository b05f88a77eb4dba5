/-
Dialogues: programs that ask questions.

* **Interface** — the questions that may be asked, each with the type of its answers;
* **Dialogue** — a program that ends with a value, or tells a notice and goes on, or asks a
  question and goes on with the answer;
* **Responder** — answers the questions of an interface out of a state;
* **Dialogue.run** — a dialogue together with a responder;
* **Dialogue.via** — a dialogue whose questions are themselves answered by dialogues.

Design notes: a program that uses a store does not know which store it is; it is a dialogue
over the store's interface.  What two runs have in common is then a fact about dialogues,
and what a store does is a fact about its responder.
-/
import AccountRegistry.Notice

namespace AccountRegistry

/-- The questions that may be asked. -/
structure Interface where
  Question : Type
  Answer : Question → Type

/-- A program that asks questions of the interface `I` and ends with a value. -/
inductive Dialogue (I : Interface) (α : Type) where
  | done (a : α)
  | note (n : Notice) (next : Dialogue I α)
  | ask (q : I.Question) (next : I.Answer q → Dialogue I α)

/-- What a run leaves: its value, the state after it and the notices on the way. -/
structure Outcome (σ α : Type) where
  value : α
  state : σ
  notices : List Notice

/-- Answers the questions of an interface out of a state. -/
def Responder (I : Interface) (σ : Type) :=
  (q : I.Question) → σ → Outcome σ (I.Answer q)

namespace Dialogue

variable {I J : Interface} {α β σ : Type}

/-- Goes on with another dialogue. -/
def bind : Dialogue I α → (α → Dialogue I β) → Dialogue I β
  | .done a, f => f a
  | .note n d, f => .note n (d.bind f)
  | .ask q k, f => .ask q fun a => (k a).bind f

instance : Monad (Dialogue I) where
  pure := .done
  bind := bind

/-- Asks one question. -/
def question (q : I.Question) : Dialogue I (I.Answer q) :=
  .ask q .done

/-- The run of a dialogue against a responder. -/
def run (r : Responder I σ) : Dialogue I α → σ → Outcome σ α
  | .done a, s => ⟨a, s, []⟩
  | .note n d, s =>
    let o := d.run r s
    { o with notices := n :: o.notices }
  | .ask q k, s =>
    let o := r q s
    let p := (k o.value).run r o.state
    { p with notices := o.notices ++ p.notices }

/-- The dialogue whose questions are answered by dialogues of another interface. -/
def via (h : (q : I.Question) → Dialogue J (I.Answer q)) : Dialogue I α → Dialogue J α
  | .done a => .done a
  | .note n d => .note n (d.via h)
  | .ask q k => (h q).bind fun a => (k a).via h

end Dialogue

/-- The responder that answers each question by a dialogue with another responder. -/
def Responder.via {I J : Interface} {σ : Type} (r : Responder J σ)
    (h : (q : I.Question) → Dialogue J (I.Answer q)) : Responder I σ :=
  fun q s => (h q).run r s

end AccountRegistry
