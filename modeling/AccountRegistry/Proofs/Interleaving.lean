/-
Clients that take turns.

Each client has a dialogue of its own, and all of them ask the same responder, so that they
share its state.  A move lets one client go one step further: it tells a notice or has one
question answered.  A schedule says whose move is next, and every list of clients is one.

* **`Configuration`** — the shared state, what is left of each dialogue, and the history;
* **`Configuration.play`** — the moves of a schedule;
* **`Sound`**, **`sound_play`** — in every configuration the shared state is that of the
  history, every answer in it is the responder's, and each client has got as far in its
  dialogue as its own deeds say;
* **`result_of_count`** — a client that is given enough moves comes to its end.

Design notes: what a single client does is a fact about its dialogue and is proved with
`Dialogue.Reaches`; what the shared state does is a fact about a truthful history.
-/
import AccountRegistry.Proofs.Dialogue
import Mathlib.Logic.Function.Basic
import Mathlib.Data.List.Induction

namespace AccountRegistry

/-- What a client has done: asked a question and got an answer. -/
structure Deed (ι : Type) (I : Interface) where
  client : ι
  exchange : Exchange I

/-- The shared state, what is left of each client's dialogue, and what has been done so far. -/
structure Configuration (ι : Type) (I : Interface) (σ α : Type) where
  state : σ
  rest : ι → Dialogue I α
  history : List (Deed ι I)

variable {ι : Type} {I : Interface} {σ α : Type}

/-- The state after some deeds. -/
def replay (r : Responder I σ) (s : σ) (h : List (Deed ι I)) : σ :=
  h.foldl (fun s d => (r d.exchange.question s).state) s

/-- Whether every answer is the one that the responder gives at that time. -/
def Truthful (r : Responder I σ) : σ → List (Deed ι I) → Prop
  | _, [] => True
  | s, d :: h =>
    d.exchange.answer = (r d.exchange.question s).value ∧
      Truthful r (r d.exchange.question s).state h

theorem replay_append (r : Responder I σ) (s : σ) (h h' : List (Deed ι I)) :
    replay r s (h ++ h') = replay r (replay r s h) h' :=
  List.foldl_append

theorem truthful_append {r : Responder I σ} {s : σ} {h h' : List (Deed ι I)} :
    Truthful r s (h ++ h') ↔ Truthful r s h ∧ Truthful r (replay r s h) h' := by
  induction h generalizing s with
  | nil => simp [Truthful, replay]
  | cons d h ih => rw [List.cons_append, Truthful, Truthful, ih, and_assoc]; rfl

/-- Each answer is the one that the deeds before it call for. -/
theorem Truthful.answer_eq {r : Responder I σ} {s : σ} {h h' : List (Deed ι I)}
    {d : Deed ι I} (hh : Truthful r s (h ++ d :: h')) :
    d.exchange.answer = (r d.exchange.question (replay r s h)).value :=
  (truthful_append.mp hh).2.1

variable [DecidableEq ι]

/-- The questions of one client with their answers. -/
def own (i : ι) (h : List (Deed ι I)) : List (Exchange I) :=
  (h.filter (·.client = i)).map Deed.exchange

theorem own_append (i : ι) (h h' : List (Deed ι I)) : own i (h ++ h') = own i h ++ own i h' := by
  rw [own, List.filter_append, List.map_append]
  rfl

theorem own_cons_self (i : ι) (e : Exchange I) (h : List (Deed ι I)) :
    own i (⟨i, e⟩ :: h) = e :: own i h := by
  simp [own]

theorem own_cons_of_ne {i j : ι} (hij : j ≠ i) (e : Exchange I) (h : List (Deed ι I)) :
    own i (⟨j, e⟩ :: h) = own i h := by
  simp [own, hij]

theorem own_eq_nil {i : ι} {h : List (Deed ι I)} : own i h = [] ↔ ∀ d ∈ h, d.client ≠ i := by
  simp [own, List.filter_eq_nil_iff]

/-- The last deed of a client, and what the others have done since. -/
theorem exists_last_own {i : ι} {h : List (Deed ι I)} {es : List (Exchange I)}
    {e : Exchange I} (hown : own i h = es ++ [e]) :
    ∃ before since, h = before ++ ⟨i, e⟩ :: since ∧ own i before = es ∧
      ∀ d ∈ since, d.client ≠ i := by
  induction h using List.reverseRecOn with
  | nil => simp [own] at hown
  | append_singleton h d ih =>
    obtain ⟨j, e'⟩ := d
    by_cases hij : j = i
    · -- the last deed of all is the client's own
      subst hij
      rw [own_append, own_cons_self] at hown
      obtain ⟨hes, he⟩ := List.append_inj' hown rfl
      obtain ⟨rfl, -⟩ := List.cons.inj he
      exact ⟨h, [], rfl, hes, by simp⟩
    · rw [own_append, own_cons_of_ne hij] at hown
      obtain ⟨before, since, rfl, hbefore, hsince⟩ := ih (by simpa [own] using hown)
      refine ⟨before, since ++ [⟨j, e'⟩], by simp, hbefore, fun d hd => ?_⟩
      obtain hd | hd := List.mem_append.mp hd
      · exact hsince d hd
      · rw [List.mem_singleton.mp hd]
        exact hij

namespace Configuration

/-- Nobody has moved yet. -/
def start (s : σ) (program : ι → Dialogue I α) : Configuration ι I σ α :=
  ⟨s, program, []⟩

/-- One client goes one step further; one whose dialogue is over stays where it is. -/
def move (r : Responder I σ) (c : Configuration ι I σ α) (i : ι) : Configuration ι I σ α :=
  match c.rest i with
  | .done _ => c
  | .note _ d => { c with rest := Function.update c.rest i d }
  | .ask q k =>
    let o := r q c.state
    { state := o.state
      rest := Function.update c.rest i (k o.value)
      history := c.history ++ [⟨i, ⟨q, o.value⟩⟩] }

/-- The moves of a schedule. -/
def play (r : Responder I σ) (c : Configuration ι I σ α) (schedule : List ι) :
    Configuration ι I σ α :=
  schedule.foldl (move r) c

/-- The value that a client's dialogue has ended with. -/
def result (c : Configuration ι I σ α) (i : ι) : Option α :=
  match c.rest i with
  | .done a => some a
  | _ => none

omit [DecidableEq ι] in
theorem result_eq_some {c : Configuration ι I σ α} {i : ι} {a : α} :
    c.result i = some a ↔ c.rest i = .done a := by
  unfold result
  split <;> simp_all

theorem move_of_done {r : Responder I σ} {c : Configuration ι I σ α} {i : ι} {a : α}
    (h : c.rest i = .done a) : c.move r i = c := by
  rw [move, h]

theorem move_of_note {r : Responder I σ} {c : Configuration ι I σ α} {i : ι} {n : Notice}
    {d : Dialogue I α} (h : c.rest i = .note n d) :
    c.move r i = ⟨c.state, Function.update c.rest i d, c.history⟩ := by
  rw [move, h]

theorem move_of_ask {r : Responder I σ} {c : Configuration ι I σ α} {i : ι} {q : I.Question}
    {k : I.Answer q → Dialogue I α} (h : c.rest i = .ask q k) :
    c.move r i =
      ⟨(r q c.state).state, Function.update c.rest i (k (r q c.state).value),
        c.history ++ [⟨i, ⟨q, (r q c.state).value⟩⟩]⟩ := by
  rw [move, h]

theorem move_rest_of_ne {r : Responder I σ} {c : Configuration ι I σ α} {i j : ι}
    (hij : i ≠ j) : (c.move r j).rest i = c.rest i := by
  cases hrest : c.rest j with
  | done a => rw [move_of_done hrest]
  | note n d => rw [move_of_note hrest]; exact Function.update_of_ne hij _ _
  | ask q k => rw [move_of_ask hrest]; exact Function.update_of_ne hij _ _

end Configuration

open AccountRegistry.Configuration

/-! ### What holds in every configuration -/

/-- The configuration is what the history makes of the beginning. -/
structure Sound (r : Responder I σ) (s : σ) (program : ι → Dialogue I α)
    (c : Configuration ι I σ α) : Prop where
  state : c.state = replay r s c.history
  truthful : Truthful r s c.history
  reaches : ∀ i, (program i).Reaches (own i c.history) (c.rest i)

theorem sound_start (r : Responder I σ) (s : σ) (program : ι → Dialogue I α) :
    Sound r s program (start s program) :=
  ⟨rfl, trivial, fun i => .refl (program i)⟩

theorem Sound.move {r : Responder I σ} {s : σ} {program : ι → Dialogue I α}
    {c : Configuration ι I σ α} (hc : Sound r s program c) (i : ι) :
    Sound r s program (c.move r i) := by
  have hi := hc.reaches i
  cases hrest : c.rest i with
  | done a => rwa [move_of_done hrest]
  | note n d =>
    -- nobody is asked: the history stays as it is
    rw [hrest] at hi
    rw [move_of_note hrest]
    refine ⟨hc.state, hc.truthful, fun j => ?_⟩
    show (program j).Reaches (own j c.history) (Function.update c.rest i d j)
    by_cases hij : j = i
    · subst hij
      rw [Function.update_self]
      simpa using hi.trans (.note (.refl d))
    · rw [Function.update_of_ne hij]
      exact hc.reaches j
  | ask q k =>
    rw [hrest] at hi
    rw [move_of_ask hrest]
    refine ⟨?_, ?_, fun j => ?_⟩
    · rw [replay_append, ← hc.state]
      rfl
    · -- the answer is that of the state which the history has led to
      rw [truthful_append, ← hc.state]
      exact ⟨hc.truthful, rfl, trivial⟩
    · show (program j).Reaches (own j (c.history ++ _)) (Function.update c.rest i (k _) j)
      rw [own_append]
      by_cases hij : j = i
      · subst hij
        rw [Function.update_self, own_cons_self]
        exact hi.trans (.ask _ (.refl _))
      · rw [Function.update_of_ne hij, own_cons_of_ne (Ne.symm hij)]
        simpa [own] using hc.reaches j

/-- **Every configuration that a schedule leads to is sound.** -/
theorem sound_play (r : Responder I σ) (s : σ) (program : ι → Dialogue I α)
    (schedule : List ι) : Sound r s program ((start s program).play r schedule) := by
  induction schedule using List.reverseRecOn with
  | nil => exact sound_start r s program
  | append_singleton schedule i ih =>
    rw [play, List.foldl_append]
    exact ih.move i

/-! ### Clients come to an end -/

theorem within_move_self {r : Responder I σ} {c : Configuration ι I σ α} {i : ι} {n : Nat}
    (h : (c.rest i).Within n) : ((c.move r i).rest i).Within (n - 1) := by
  cases hrest : c.rest i with
  | done a =>
    rw [move_of_done hrest, hrest]
    exact Dialogue.within_done (n - 1) a
  | note x d =>
    rw [hrest] at h
    obtain _ | n := n
    · exact h.elim
    · rw [move_of_note hrest]
      show (Function.update c.rest i d i).Within n
      rw [Function.update_self]
      exact h
  | ask q k =>
    rw [hrest] at h
    obtain _ | n := n
    · exact h.elim
    · rw [move_of_ask hrest]
      show (Function.update c.rest i (k _) i).Within n
      rw [Function.update_self]
      exact h _

/-- A client whose dialogue ends after at most `n` steps has its result once it has been
given `n` moves. -/
theorem result_of_count {r : Responder I σ} {c : Configuration ι I σ α} {i : ι} {n : Nat}
    (h : (c.rest i).Within n) {schedule : List ι} (hn : n ≤ schedule.count i) :
    ∃ a, (c.play r schedule).result i = some a := by
  induction schedule generalizing c n with
  | nil =>
    obtain rfl : n = 0 := by simpa using hn
    cases hrest : c.rest i with
    | done a => exact ⟨a, result_eq_some.mpr hrest⟩
    | note x d => rw [hrest] at h; exact h.elim
    | ask q k => rw [hrest] at h; exact h.elim
  | cons j schedule ih =>
    rw [List.count_cons] at hn
    by_cases hij : j = i
    · subst hij
      rw [if_pos (beq_self_eq_true j)] at hn
      exact ih (within_move_self h) (by omega)
    · rw [if_neg (by simpa using hij)] at hn
      exact ih (by rwa [move_rest_of_ne (Ne.symm hij)]) hn

end AccountRegistry
