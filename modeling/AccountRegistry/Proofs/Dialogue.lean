/-
Laws of dialogues.

* **`Dialogue.run_bind`**, **`Dialogue.run_via`** — a run is put together from the runs of
  its parts, and asking through dialogues is asking a composed responder;
* **`Dialogue.run_preserves`** — what every answer preserves, a whole run preserves;
* **`Dialogue.run_simulates`** — two responders that answer the questions of a run alike in
  related states run the whole dialogue alike;
* **`Dialogue.run_indistinguishable`** — if they also tell the same, so do the runs;
* **`Dialogue.Reaches`** — what is left of a dialogue after some questions have been
  answered, with the way it passes through `bind` and `via`;
* **`Dialogue.transcript`**, **`Dialogue.told`** — the questions of a run with their answers,
  and the notices that the dialogue itself tells in it;
* **`Dialogue.reaches_transcript`**, **`Dialogue.gives_transcript`** — a transcript is a way
  through the dialogue, and its answers are the responder's, one after the other;
* **`Dialogue.RunsTo`** — transcript, value and final state of a run, question by question;
* **`Dialogue.notices_run`** — what a run tells is what its dialogue and the answers tell.
-/
import AccountRegistry.Dialogue

namespace AccountRegistry

/-- One question together with the answer that it got. -/
structure Exchange (I : Interface) where
  question : I.Question
  answer : I.Answer question

/-- The last of two elements and some more is that of the others, if there are any. -/
theorem getLast?_pair_append {α : Type} {a b x : α} {l : List α} :
    (a :: b :: l).getLast? = some x ↔ l.getLast? = some x ∨ l = [] ∧ b = x := by
  rw [List.getLast?_cons_cons, List.getLast?_cons]
  cases hlast : l.getLast? with
  | none => simp [List.getLast?_eq_none_iff.mp hlast]
  | some y =>
    have hne : l ≠ [] := by
      rintro rfl
      cases hlast
    simp [hne]

namespace Dialogue

variable {I J : Interface} {α β σ τ : Type}

/-! ### Runs -/

/-- A dialogue that goes on with another one runs the one after the other. -/
theorem run_bind (r : Responder I σ) (d : Dialogue I α) (f : α → Dialogue I β) (s : σ) :
    (d.bind f).run r s =
      { (f (d.run r s).value).run r (d.run r s).state with
        notices := (d.run r s).notices ++ ((f (d.run r s).value).run r (d.run r s).state).notices } := by
  induction d generalizing s with
  | done a => rfl
  | note n d ih =>
    rw [bind, run, ih s]
    rfl
  | ask q k ih =>
    rw [bind, run, ih]
    simp only [run, List.append_assoc]

/-- Questions that are answered by dialogues are answered by the composed responder. -/
theorem run_via (r : Responder J σ) (h : (q : I.Question) → Dialogue J (I.Answer q))
    (d : Dialogue I α) (s : σ) : (d.via h).run r s = d.run (Responder.via r h) s := by
  induction d generalizing s with
  | done a => rfl
  | note n d ih =>
    rw [via, run, ih s]
    rfl
  | ask q k ih =>
    rw [via, run_bind, ih]
    rfl

/-- What every answer preserves, a whole run preserves. -/
theorem run_preserves (P : σ → Prop) {r : Responder I σ}
    (hstep : ∀ q s, P s → P (r q s).state) (d : Dialogue I α) {s : σ} (hs : P s) :
    P (d.run r s).state := by
  induction d generalizing s with
  | done a => exact hs
  | note n d ih => exact ih hs
  | ask q k ih => exact ih _ (hstep q s hs)

/-- The questions of a run, each with the state in which it was asked. -/
def asked (r : Responder I σ) : Dialogue I α → σ → List (I.Question × σ)
  | .done _, _ => []
  | .note _ d, s => d.asked r s
  | .ask q k, s => (q, s) :: (k (r q s).value).asked r (r q s).state

theorem asked_bind (r : Responder I σ) (d : Dialogue I α) (f : α → Dialogue I β) (s : σ) :
    (d.bind f).asked r s = d.asked r s ++ (f (d.run r s).value).asked r (d.run r s).state := by
  induction d generalizing s with
  | done a => rfl
  | note n d ih => exact ih s
  | ask q k ih => exact congrArg (_ :: ·) (ih _ _)

/-- Two responders that answer the questions of a run alike in related states, and keep the
states related, run the dialogue to the same value and to related states. -/
theorem run_simulates {R : σ → τ → Prop} {C : I.Question × σ → Prop} {r : Responder I σ}
    {r' : Responder I τ}
    (hstep : ∀ q s t, R s t → C (q, s) →
      (r q s).value = (r' q t).value ∧ R (r q s).state (r' q t).state)
    (d : Dialogue I α) {s : σ} {t : τ} (h : R s t) (hC : ∀ c ∈ d.asked r s, C c) :
    (d.run r s).value = (d.run r' t).value ∧ R (d.run r s).state (d.run r' t).state := by
  induction d generalizing s t with
  | done a => exact ⟨rfl, h⟩
  | note n d ih => exact ih h hC
  | ask q k ih =>
    obtain ⟨hfirst, hrest⟩ := List.forall_mem_cons.mp hC
    obtain ⟨hvalue, hstate⟩ := hstep q s t h hfirst
    simp only [run]
    rw [← hvalue]
    exact ih _ hstate hrest

/-- Two responders that answer and tell the same in related states, and keep the states
related, run a dialogue to the same value with the same notices. -/
theorem run_indistinguishable {R : σ → τ → Prop} {r : Responder I σ} {r' : Responder I τ}
    (hstep : ∀ q s t, R s t → (r q s).value = (r' q t).value ∧
      (r q s).notices = (r' q t).notices ∧ R (r q s).state (r' q t).state)
    (d : Dialogue I α) {s : σ} {t : τ} (h : R s t) :
    (d.run r s).value = (d.run r' t).value ∧ (d.run r s).notices = (d.run r' t).notices ∧
      R (d.run r s).state (d.run r' t).state := by
  induction d generalizing s t with
  | done a => exact ⟨rfl, rfl, h⟩
  | note n d ih =>
    obtain ⟨hvalue, hnotices, hstate⟩ := ih h
    exact ⟨hvalue, congrArg _ hnotices, hstate⟩
  | ask q k ih =>
    obtain ⟨hvalue, hnotices, hstate⟩ := hstep q s t h
    simp only [run]
    rw [← hvalue, ← hnotices]
    obtain ⟨hvalue', hnotices', hstate'⟩ := ih (r q s).value hstate
    exact ⟨hvalue', congrArg _ hnotices', hstate'⟩

/-! ### What is left of a dialogue -/

/-- `d.Reaches es d'`: once the exchanges `es` have taken place, `d'` is left of `d`. -/
inductive Reaches : Dialogue I α → List (Exchange I) → Dialogue I α → Prop
  | refl (d : Dialogue I α) : Reaches d [] d
  | note {n : Notice} {d d' : Dialogue I α} {es : List (Exchange I)} (h : Reaches d es d') :
      Reaches (.note n d) es d'
  | ask {q : I.Question} {k : I.Answer q → Dialogue I α} {d' : Dialogue I α}
      {es : List (Exchange I)} (a : I.Answer q) (h : Reaches (k a) es d') :
      Reaches (.ask q k) (⟨q, a⟩ :: es) d'

theorem Reaches.trans {d d' d'' : Dialogue I α} {es es' : List (Exchange I)}
    (h : d.Reaches es d') (h' : d'.Reaches es' d'') : d.Reaches (es ++ es') d'' := by
  induction h with
  | refl d => exact h'
  | note _ ih => exact .note (ih h')
  | ask a _ ih => exact .ask a (ih h')

theorem Reaches.of_append {d d' : Dialogue I α} {es es' : List (Exchange I)}
    (h : d.Reaches (es ++ es') d') : ∃ d'', d.Reaches es d'' := by
  generalize hes : es ++ es' = fs at h
  induction h generalizing es with
  | refl d =>
    obtain ⟨rfl, -⟩ := List.append_eq_nil_iff.mp hes
    exact ⟨d, .refl d⟩
  | note _ ih =>
    obtain ⟨d'', h⟩ := ih hes
    exact ⟨d'', .note h⟩
  | ask a _ ih =>
    obtain _ | ⟨e, es⟩ := es
    · exact ⟨_, .refl _⟩
    · obtain ⟨rfl, hrest⟩ := List.cons.inj hes
      obtain ⟨d'', h⟩ := ih hrest
      exact ⟨d'', .ask a h⟩

/-- A dialogue `d` that goes on with `f` has come to an end exactly when `d` has and what
`f` makes of its value has. -/
theorem reaches_bind_done {d : Dialogue I α} {f : α → Dialogue I β} {es : List (Exchange I)}
    {b : β} (h : (d.bind f).Reaches es (.done b)) :
    ∃ es₁ es₂ a, es = es₁ ++ es₂ ∧ d.Reaches es₁ (.done a) ∧ (f a).Reaches es₂ (.done b) := by
  induction d generalizing es with
  | done a => exact ⟨[], es, a, rfl, .refl _, h⟩
  | note n d ih =>
    cases h with
    | note h =>
      obtain ⟨es₁, es₂, a, hes, h₁, h₂⟩ := ih h
      exact ⟨es₁, es₂, a, hes, .note h₁, h₂⟩
  | ask q k ih =>
    cases h with
    | ask x h =>
      obtain ⟨es₁, es₂, a, hes, h₁, h₂⟩ := ih x h
      exact ⟨⟨q, x⟩ :: es₁, es₂, a, by rw [hes]; rfl, .ask x h₁, h₂⟩

/-! ### Transcripts -/

/-- The questions of a run with their answers. -/
def transcript (r : Responder I σ) : Dialogue I α → σ → List (Exchange I)
  | .done _, _ => []
  | .note _ d, s => d.transcript r s
  | .ask q k, s => ⟨q, (r q s).value⟩ :: (k (r q s).value).transcript r (r q s).state

/-- The transcript of a run is made of its questions and of what the responder answers them. -/
theorem transcript_eq_asked (r : Responder I σ) (d : Dialogue I α) (s : σ) :
    d.transcript r s = (d.asked r s).map fun c => ⟨c.1, (r c.1 c.2).value⟩ := by
  induction d generalizing s with
  | done a => rfl
  | note n d ih => exact ih s
  | ask q k ih => exact congrArg (_ :: ·) (ih _ _)

theorem transcript_bind (r : Responder I σ) (d : Dialogue I α) (f : α → Dialogue I β) (s : σ) :
    (d.bind f).transcript r s =
      d.transcript r s ++ (f (d.run r s).value).transcript r (d.run r s).state := by
  induction d generalizing s with
  | done a => rfl
  | note n d ih => exact ih s
  | ask q k ih => exact congrArg (_ :: ·) (ih _ _)

/-- Questions that are answered by dialogues leave the transcripts of those. -/
theorem transcript_via (r : Responder J σ) (h : (q : I.Question) → Dialogue J (I.Answer q))
    (d : Dialogue I α) (s : σ) :
    (d.via h).transcript r s =
      (d.asked (Responder.via r h) s).flatMap fun c => (h c.1).transcript r c.2 := by
  induction d generalizing s with
  | done a => rfl
  | note n d ih => exact ih s
  | ask q k ih =>
    rw [via, transcript_bind, ih]
    rfl

/-- The notices that a dialogue tells by itself in a run, those of the answers aside. -/
def told (r : Responder I σ) : Dialogue I α → σ → List Notice
  | .done _, _ => []
  | .note n d, s => n :: d.told r s
  | .ask q k, s => (k (r q s).value).told r (r q s).state

/-- A run goes through the dialogue along its transcript. -/
theorem reaches_transcript (r : Responder I σ) (d : Dialogue I α) (s : σ) :
    d.Reaches (d.transcript r s) (.done (d.run r s).value) := by
  induction d generalizing s with
  | done a => exact .refl _
  | note n d ih => exact .note (ih s)
  | ask q k ih => exact .ask _ (ih _ _)

/-- The run from `s` has the transcript `es`, gives `a` and leaves `t`. -/
structure RunsTo (r : Responder I σ) (d : Dialogue I α) (s : σ) (es : List (Exchange I)) (a : α)
    (t : σ) : Prop where
  transcript : d.transcript r s = es
  value : (d.run r s).value = a
  state : (d.run r s).state = t

namespace RunsTo

variable {r : Responder I σ} {d : Dialogue I α} {s t : σ} {es : List (Exchange I)} {a : α}

theorem done (a : α) (s : σ) : (Dialogue.done a : Dialogue I α).RunsTo r s [] a s :=
  ⟨rfl, rfl, rfl⟩

theorem note (n : Notice) (h : d.RunsTo r s es a t) : (Dialogue.note n d).RunsTo r s es a t :=
  ⟨h.transcript, h.value, h.state⟩

theorem ask {q : I.Question} {k : I.Answer q → Dialogue I α} {x : I.Answer q} {s' : σ}
    (hvalue : (r q s).value = x) (hstate : (r q s).state = s') (h : (k x).RunsTo r s' es a t) :
    (Dialogue.ask q k).RunsTo r s (⟨q, x⟩ :: es) a t := by
  subst hvalue hstate
  exact ⟨congrArg (List.cons _) h.transcript, h.value, h.state⟩

end RunsTo

/-! ### What a dialogue asks -/

/-- Whether all questions that a dialogue may ask are of a kind. -/
def Asks (P : I.Question → Prop) : Dialogue I α → Prop
  | .done _ => True
  | .note _ d => d.Asks P
  | .ask q k => P q ∧ ∀ a, (k a).Asks P

theorem Asks.bind {P : I.Question → Prop} {d : Dialogue I α} {f : α → Dialogue I β}
    (h : d.Asks P) (hf : ∀ a, (f a).Asks P) : (d.bind f).Asks P := by
  induction d with
  | done a => exact hf a
  | note n d ih => exact ih h
  | ask q k ih => exact ⟨h.1, fun a => ih a (h.2 a)⟩

theorem asks_via {P : J.Question → Prop} {h : (q : I.Question) → Dialogue J (I.Answer q)}
    (hh : ∀ q, (h q).Asks P) (d : Dialogue I α) : (d.via h).Asks P := by
  induction d with
  | done a => trivial
  | note n d ih => exact ih
  | ask q k ih => exact (hh q).bind ih

theorem Asks.of_reaches {P : I.Question → Prop} {d d' : Dialogue I α}
    {es : List (Exchange I)} (h : d.Asks P) (hd : d.Reaches es d') :
    ∀ e ∈ es, P e.question := by
  induction hd with
  | refl d => simp
  | note _ ih => exact ih h
  | ask a _ ih =>
    intro e he
    obtain rfl | he := List.mem_cons.mp he
    · exact h.1
    · exact ih (h.2 a) e he

/-! ### What a dialogue tells -/

/-- Whether all notices that a dialogue may tell by itself are of a kind. -/
def Tells (P : Notice → Prop) : Dialogue I α → Prop
  | .done _ => True
  | .note n d => P n ∧ d.Tells P
  | .ask _ k => ∀ a, (k a).Tells P

theorem Tells.bind {P : Notice → Prop} {d : Dialogue I α} {f : α → Dialogue I β}
    (h : d.Tells P) (hf : ∀ a, (f a).Tells P) : (d.bind f).Tells P := by
  induction d with
  | done a => exact hf a
  | note n d ih => exact ⟨h.1, ih h.2⟩
  | ask q k ih => exact fun a => ih a (h a)

theorem Tells.via {P : Notice → Prop} {h : (q : I.Question) → Dialogue J (I.Answer q)}
    {d : Dialogue I α} (hd : d.Tells P) (hh : ∀ q, (h q).Tells P) : (d.via h).Tells P := by
  induction d with
  | done a => trivial
  | note n d ih => exact ⟨hd.1, ih hd.2⟩
  | ask q k ih => exact (hh q).bind fun a => ih a (hd a)

/-- Of a kind are all notices of a run whose dialogue and whose answers tell no others. -/
theorem notices_run {P : Notice → Prop} {r : Responder I σ}
    (hr : ∀ q s, ∀ n ∈ (r q s).notices, P n) {d : Dialogue I α} (hd : d.Tells P) (s : σ) :
    ∀ n ∈ (d.run r s).notices, P n := by
  induction d generalizing s with
  | done a => exact List.forall_mem_nil P
  | note n d ih => exact List.forall_mem_cons.mpr ⟨hd.1, ih hd.2 s⟩
  | ask q k ih => exact List.forall_mem_append.mpr ⟨hr q s, ih _ (hd _) _⟩

/-! ### How long a dialogue goes on -/

/-- Whether a dialogue ends after at most `n` questions and notices, whatever the answers. -/
def Within : Nat → Dialogue I α → Prop
  | _, .done _ => True
  | 0, _ => False
  | n + 1, .note _ d => d.Within n
  | n + 1, .ask _ k => ∀ a, (k a).Within n

theorem within_done (n : Nat) (a : α) : (done a : Dialogue I α).Within n := by
  cases n <;> trivial

theorem Within.mono {n m : Nat} {d : Dialogue I α} (h : d.Within n) (hnm : n ≤ m) :
    d.Within m := by
  induction d generalizing n m with
  | done a => exact within_done m a
  | note x d ih =>
    obtain _ | n := n
    · exact h.elim
    · obtain ⟨m, rfl⟩ : ∃ m', m = m' + 1 := ⟨m - 1, by omega⟩
      exact ih h (by omega)
  | ask q k ih =>
    obtain _ | n := n
    · exact h.elim
    · obtain ⟨m, rfl⟩ : ∃ m', m = m' + 1 := ⟨m - 1, by omega⟩
      exact fun a => ih a (h a) (by omega)

theorem Within.bind {n m : Nat} {d : Dialogue I α} {f : α → Dialogue I β} (h : d.Within n)
    (hf : ∀ a, (f a).Within m) : (d.bind f).Within (n + m) := by
  induction d generalizing n with
  | done a => exact (hf a).mono (by omega)
  | note x d ih =>
    obtain _ | n := n
    · exact h.elim
    · rw [Nat.succ_add]
      exact ih h
  | ask q k ih =>
    obtain _ | n := n
    · exact h.elim
    · rw [Nat.succ_add]
      exact fun a => ih a (h a)

end Dialogue

/-- From `s` the responder gives the answers of some exchanges, one after the other, and is
left in `s'`. -/
inductive Responder.Gives {I : Interface} {σ : Type} (r : Responder I σ) :
    σ → List (Exchange I) → σ → Prop
  | nil (s : σ) : Gives r s [] s
  | cons {es : List (Exchange I)} {s s' : σ} (q : I.Question) (h : Gives r (r q s).state es s') :
      Gives r s (⟨q, (r q s).value⟩ :: es) s'

/-- The answers of a transcript are those of the responder, which has been asked nothing else. -/
theorem Dialogue.gives_transcript {I : Interface} {σ α : Type} (r : Responder I σ)
    (d : Dialogue I α) (s : σ) : r.Gives s (d.transcript r s) (d.run r s).state := by
  induction d generalizing s with
  | done a => exact .nil s
  | note n d ih => exact ih s
  | ask q k ih => exact .cons q (ih _ _)

/-! ### Rules of conduct -/

/-- Rules for the questions of a dialogue: what may be asked in each phase, and the phase
that an answer leads to. -/
structure Conduct (I : Interface) where
  Phase : Type
  allowed : Phase → I.Question → Prop
  after : Phase → Exchange I → Phase

namespace Conduct

variable {I : Interface} {α β : Type} {C : Conduct I}

/-- Whether a dialogue that starts in a phase keeps to the rules, whatever the answers, and
ends in a phase and with a value that `final` admits. -/
def Kept (C : Conduct I) (final : C.Phase → α → Prop) : C.Phase → Dialogue I α → Prop
  | φ, .done a => final φ a
  | φ, .note _ d => C.Kept final φ d
  | φ, .ask q k => C.allowed φ q ∧ ∀ a, C.Kept final (C.after φ ⟨q, a⟩) (k a)

theorem Kept.bind {final : C.Phase → β → Prop} {f : α → Dialogue I β} {d : Dialogue I α}
    {φ : C.Phase} (h : C.Kept (fun ψ a => C.Kept final ψ (f a)) φ d) :
    C.Kept final φ (d.bind f) := by
  induction d generalizing φ with
  | done a => exact h
  | note n d ih => exact ih h
  | ask q k ih => exact ⟨h.1, fun a => ih a (h.2 a)⟩

theorem Kept.mono {final final' : C.Phase → α → Prop} {d : Dialogue I α} {φ : C.Phase}
    (hfinal : ∀ ψ a, final ψ a → final' ψ a) (h : C.Kept final φ d) : C.Kept final' φ d := by
  induction d generalizing φ with
  | done a => exact hfinal φ a h
  | note n d ih => exact ih h
  | ask q k ih => exact ⟨h.1, fun a => ih a (h.2 a)⟩

/-- What is left of a dialogue keeps to the rules from the phase that it is in. -/
theorem Kept.of_reaches {final : C.Phase → α → Prop} {d d' : Dialogue I α} {φ : C.Phase}
    {es : List (Exchange I)} (h : C.Kept final φ d) (hd : d.Reaches es d') :
    C.Kept final (es.foldl C.after φ) d' := by
  induction hd generalizing φ with
  | refl d => exact h
  | note _ ih => exact ih h
  | ask a _ ih => exact ih (h.2 a)

theorem Kept.allowed_of_reaches {final : C.Phase → α → Prop} {d d' : Dialogue I α}
    {φ : C.Phase} {es₁ es₂ : List (Exchange I)} {e : Exchange I} (h : C.Kept final φ d)
    (hd : d.Reaches (es₁ ++ e :: es₂) d') : C.allowed (es₁.foldl C.after φ) e.question := by
  generalize hes : es₁ ++ e :: es₂ = es at hd
  induction hd generalizing φ es₁ with
  | refl d => simp at hes
  | note _ ih => exact ih h hes
  | ask a _ ih =>
    obtain _ | ⟨e', es₁⟩ := es₁
    · obtain ⟨rfl, -⟩ := List.cons.inj hes
      exact h.1
    · obtain ⟨rfl, hrest⟩ := List.cons.inj hes
      rw [List.foldl_cons]
      exact ih (h.2 a) hrest

end Conduct

end AccountRegistry
