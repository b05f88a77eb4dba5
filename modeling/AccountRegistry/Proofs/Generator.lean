/-
The search of a generation.

A generation draws a candidate and checks it, and only a taken one leads to another attempt.

* **`RetryPolicy.Search`** — the draws and checks of a generation with their answers, attempt
  by attempt, and the result that they lead to;
* **`RetryPolicy.search_of_reaches`** — whatever it is answered, a generation is such a search;
* **`Search.questions`**, **`Search.goes_on`**, **`Search.ok_iff`**, **`Search.error_iff`** —
  the order of its questions, where it goes on, and which result it has;
* **`RetryPolicy.result_attempts_succ`** — what an attempt gives and leaves, by the answer to
  its check;
* **`RetryPolicy.waits_attempts`** — the waits between the checks;
* **`Generation.exists_checkedIds`** — generations that share a source check what it has in
  store;
* **`generation_searches`** — all of this for a generation with any source and any probe, and
  for several generations that share a source.
-/
import AccountRegistry.Generator
import AccountRegistry.Proofs.Candidates
import AccountRegistry.Proofs.Dialogue
import AccountRegistry.Proofs.Duration
import Mathlib.Algebra.Order.BigOperators.Group.List
import Mathlib.Algebra.Order.Ring.Nat

namespace AccountRegistry

namespace RetryPolicy

/-! ### Questions -/

/-- The candidate that has been drawn. -/
def drawnId : Exchange Trial.interface → Option AccountId
  | ⟨.draw, c⟩ => some c
  | _ => none

/-- The id that has been checked. -/
def checkedId : Exchange Trial.interface → Option AccountId
  | ⟨.check c, _⟩ => some c
  | _ => none

/-- The id that has been found taken. -/
def takenId : Exchange Trial.interface → Option AccountId
  | ⟨.check c, .ok true⟩ => some c
  | _ => none

/-- The error of a check that has failed. -/
def failure : Exchange Trial.interface → Option StoreError
  | ⟨.check _, .error e⟩ => some e
  | _ => none

/-! ### Searches -/

/-- The draws and checks of a generation with their answers, when `left` attempts of `total`
are left, and the result that they lead to. -/
inductive Search (total : Nat) :
    Nat → List (Exchange Trial.interface) → Except StoreError AccountId → Prop
  | gaveUp : Search total 0 [] (.error (.exhausted total))
  | found (left : Nat) (c : AccountId) :
      Search total (left + 1) [⟨.draw, c⟩, ⟨.check c, .ok false⟩] (.ok c)
  | failed (left : Nat) (c : AccountId) (e : StoreError) :
      Search total (left + 1) [⟨.draw, c⟩, ⟨.check c, .error e⟩] (.error e)
  /-- The candidate is taken, and there is another attempt. -/
  | taken {left : Nat} {es : List (Exchange Trial.interface)} {r : Except StoreError AccountId}
      (c : AccountId) (h : Search total left es r) :
      Search total (left + 1) (⟨.draw, c⟩ :: ⟨.check c, .ok true⟩ :: es) r

/-- A pause asks nothing, through dialogues neither. -/
theorem via_pause {J : Interface} {α : Type}
    (h : (q : Trial) → Dialogue J (Trial.interface.Answer q)) (d : Duration)
    (next : Dialogue Trial.interface α) :
    (pause d next).via h = if d.isZero then next.via h else .note (.wait d) (next.via h) := by
  unfold pause
  split <;> rfl

/-- What is left of a dialogue after a pause is what is left of what follows it. -/
theorem reaches_pause {α : Type} {d : Duration} {next : Dialogue Trial.interface α}
    {es : List (Exchange Trial.interface)} {a : α}
    (h : (pause d next).Reaches es (.done a)) : next.Reaches es (.done a) := by
  rw [pause] at h
  split at h
  · exact h
  · cases h with
    | note h => exact h

/-- **A generation is a search**, whatever it is answered. -/
theorem search_of_reaches {p : RetryPolicy} {left attempt : Nat}
    {es : List (Exchange Trial.interface)} {r : Except StoreError AccountId}
    (h : (p.attempts left attempt).Reaches es (.done r)) : Search p.bound left es r := by
  induction left generalizing attempt es with
  | zero =>
    cases h with
    | note h =>
      cases h with
      | refl => exact .gaveUp
  | succ left ih =>
    cases h with
    | ask c h =>
      cases h with
      | ask checked h =>
        match checked, h with
        | .error e, .refl _ => exact .failed left c e
        | .ok false, .note h =>
          cases h with
          | refl => exact .found left c
        | .ok true, .note h =>
          refine .taken c ?_
          split at h
          · exact ih h
          · exact ih (reaches_pause h)

namespace Search

variable {total left : Nat} {es : List (Exchange Trial.interface)}
  {r : Except StoreError AccountId}

/-- Only a generation without attempts asks nothing. -/
theorem eq_nil_iff (h : Search total left es r) : es = [] ↔ left = 0 := by
  cases h with
  | gaveUp => simp
  | found left c => simp
  | failed left c e => simp
  | taken c h => simp

/-- **The order of the questions.** Each candidate is checked as soon as it has been drawn, and
nothing else is. -/
theorem questions (h : Search total left es r) :
    es.map Exchange.question =
      (es.filterMap drawnId).flatMap fun c => [.draw, .check c] := by
  induction h with
  | gaveUp => rfl
  | found left c => rfl
  | failed left c e => rfl
  | taken c h ih =>
    rw [List.map_cons, List.map_cons, ih]
    rfl

theorem checked_eq_drawn (h : Search total left es r) :
    es.filterMap checkedId = es.filterMap drawnId := by
  induction h with
  | gaveUp => rfl
  | found left c => rfl
  | failed left c e => rfl
  | taken c h ih => exact congrArg (c :: ·) ih

theorem length_checked_le (h : Search total left es r) :
    (es.filterMap checkedId).length ≤ left := by
  induction h with
  | gaveUp => exact Nat.le_refl 0
  | found left c => exact Nat.succ_le_succ (Nat.zero_le left)
  | failed left c e => exact Nat.succ_le_succ (Nat.zero_le left)
  | taken c h ih => exact Nat.succ_le_succ ih

/-- **Where a search goes on.** After a check it does so exactly if the id is taken and there is
an attempt left. -/
theorem goes_on (h : Search total left es r) {before after : List (Exchange Trial.interface)}
    {c : AccountId} {a : Except StoreError Bool} (hes : es = before ++ ⟨.check c, a⟩ :: after) :
    after ≠ [] ↔ a = .ok true ∧ (before.filterMap checkedId).length + 1 < left := by
  induction h generalizing before with
  | gaveUp => simp at hes
  | found left c =>
    match before, hes with
    | [_], hes =>
      cases hes
      simp
    | _ :: _ :: _, hes => simp at hes
  | failed left c e =>
    match before, hes with
    | [_], hes =>
      cases hes
      simp
    | _ :: _ :: _, hes => simp at hes
  | @taken left es r c h ih =>
    match before, hes with
    | [_], hes =>
      cases hes
      rw [ne_eq, h.eq_nil_iff, and_iff_right rfl]
      exact Nat.pos_iff_ne_zero.symm.trans Nat.succ_lt_succ_iff.symm
    | _ :: _ :: before, hes =>
      -- the check lies in the attempts that follow, with one check more before it
      cases hes
      rw [ih rfl]
      exact and_congr_right fun _ => Nat.succ_lt_succ_iff.symm

/-- **A generation ends with an id exactly if its last check has found it free.** -/
theorem ok_iff (h : Search total left es r) (c : AccountId) :
    r = .ok c ↔ es.getLast? = some ⟨.check c, .ok false⟩ := by
  induction h with
  | gaveUp => simp
  | found left c => simp
  | failed left c e => simp
  | taken c h ih =>
    rw [getLast?_pair_append, ih]
    simp

/-- The error of the last check is the result. -/
theorem result_of_last (h : Search total left es r) {x : Exchange Trial.interface}
    {e : StoreError} (hlast : es.getLast? = some x) (hx : failure x = some e) :
    r = .error e := by
  induction h with
  | gaveUp => cases hlast
  | found left c =>
    cases hlast
    cases hx
  | failed left c e =>
    cases hlast
    exact congrArg Except.error (Option.some.inj hx)
  | taken c h ih =>
    obtain hlast | ⟨-, rfl⟩ := getLast?_pair_append.mp hlast
    · exact ih hlast
    · cases hx

/-- Only attempts that have all met a taken id meet as many of them as there are attempts. -/
theorem result_of_allTaken (h : Search total left es r)
    (htaken : (es.filterMap takenId).length = left) : r = .error (.exhausted total) := by
  induction h with
  | gaveUp => rfl
  | found left c => cases htaken
  | failed left c e => cases htaken
  | taken c h ih => exact ih (Nat.succ.inj htaken)

/-- **A generation ends with an error exactly if its last check has failed with it, or if every
attempt has met a taken id** and the error says that the attempts are used up. -/
theorem error_iff (h : Search total left es r) (e : StoreError) :
    r = .error e ↔ (∃ x, es.getLast? = some x ∧ failure x = some e) ∨
      (es.filterMap takenId).length = left ∧ e = .exhausted total := by
  constructor
  · intro hr
    induction h with
    | gaveUp => exact .inr ⟨rfl, (Except.error.inj hr).symm⟩
    | found left c => cases hr
    | failed left c e' => exact .inl ⟨_, rfl, congrArg some (Except.error.inj hr)⟩
    | taken c h ih =>
      obtain ⟨x, hlast, hx⟩ | ⟨htaken, he⟩ := ih hr
      · exact .inl ⟨x, getLast?_pair_append.mpr (.inl hlast), hx⟩
      · exact .inr ⟨congrArg Nat.succ htaken, he⟩
  · rintro (⟨x, hlast, hx⟩ | ⟨htaken, rfl⟩)
    · exact h.result_of_last hlast hx
    · exact h.result_of_allTaken htaken

end Search

/-! ### Runs -/

section Runs

variable {σ : Type} (r : Responder Trial.interface σ)

theorem run_pause {α : Type} (d : Duration) (next : Dialogue Trial.interface α) (s : σ) :
    ((pause d next).run r s).value = (next.run r s).value ∧
      ((pause d next).run r s).state = (next.run r s).state := by
  rw [pause]
  split
  · exact ⟨rfl, rfl⟩
  · exact ⟨rfl, rfl⟩

/-- What an attempt gives and leaves, by the answer to its check. -/
theorem result_attempts_succ (p : RetryPolicy) (left attempt : Nat) (s : σ) :
    let drawn := r .draw s
    let checked := r (.check drawn.value) drawn.state
    let rest := (p.attempts left (attempt + 1)).run r checked.state
    let o := (p.attempts (left + 1) attempt).run r s
    (o.value, o.state) = match checked.value with
      | .error e => (.error e, checked.state)
      | .ok false => (.ok drawn.value, checked.state)
      | .ok true => (rest.value, rest.state) := by
  simp only [attempts, Dialogue.run]
  cases (r (.check (r .draw s).value) (r .draw s).state).value with
  | error e => rfl
  | ok taken =>
    cases taken with
    | false => rfl
    | true =>
      by_cases hleft : left = 0
      · simp only [hleft, if_true]
        rfl
      · simp only [hleft, if_false]
        exact Prod.ext (run_pause r _ _ _).1 (run_pause r _ _ _).2

theorem value_attempts_succ (p : RetryPolicy) (left attempt : Nat) (s : σ) :
    ((p.attempts (left + 1) attempt).run r s).value =
      let drawn := r .draw s
      let checked := r (.check drawn.value) drawn.state
      checked.value.bind fun taken =>
        if taken then ((p.attempts left (attempt + 1)).run r checked.state).value
        else .ok drawn.value := by
  have hvalue := congrArg Prod.fst (p.result_attempts_succ r left attempt s)
  revert hvalue
  simp only
  cases (r (.check (r .draw s).value) (r .draw s).state).value with
  | error e => exact id
  | ok taken =>
    cases taken with
    | false => exact id
    | true => exact id

end Runs

/-! ### Waits -/

section Waits

variable {σ : Type} (r : Responder Trial.interface σ)

theorem waits_pause {α : Type} (d : Duration) (next : Dialogue Trial.interface α) (s : σ) :
    waits ((pause d next).told r s) = [d].filter (!·.isZero) ++ waits (next.told r s) := by
  rw [pause]
  cases hd : d.isZero with
  | true => simp [hd]
  | false =>
    simp only [Bool.false_eq_true, if_false, Dialogue.told, List.filter_cons, hd, Bool.not_false,
      if_true, List.filter_nil]
    rfl

theorem transcript_pause {α : Type} (d : Duration) (next : Dialogue Trial.interface α) (s : σ) :
    (pause d next).transcript r s = next.transcript r s := by
  rw [pause]
  split <;> rfl

/-- An attempt checks a candidate. -/
theorem exists_length_checked (p : RetryPolicy) (left attempt : Nat) (s : σ) :
    ∃ k, (((p.attempts (left + 1) attempt).transcript r s).filterMap checkedId).length = k + 1 :=
  ⟨_, rfl⟩

/-- **The waits between the checks** are those after all of them but the last, as far as time
passes in them. -/
theorem waits_attempts (p : RetryPolicy) (left attempt : Nat) (s : σ) :
    waits ((p.attempts left attempt).told r s) =
      ((List.range' attempt
        ((((p.attempts left attempt).transcript r s).filterMap checkedId).length - 1)).map
          p.delayAfter).filter (!·.isZero) := by
  induction left generalizing attempt s with
  | zero => rfl
  | succ left ih =>
    simp only [attempts, Dialogue.told, Dialogue.transcript]
    cases (r (.check (r .draw s).value) (r .draw s).state).value with
    | error e => rfl
    | ok taken =>
      cases taken with
      | false => rfl
      | true =>
        cases left with
        | zero => rfl
        | succ left =>
          -- a notice and a pause, and at least one check follows
          obtain ⟨k, hk⟩ := p.exists_length_checked r left (attempt + 1)
            (r (.check (r .draw s).value) (r .draw s).state).state
          have hrest := ih (attempt + 1) (r (.check (r .draw s).value) (r .draw s).state).state
          simp only [Nat.succ_ne_zero, if_false, Dialogue.told, Dialogue.transcript,
            transcript_pause]
          rw [hk, Nat.add_sub_cancel] at hrest
          show waits ((pause (p.delayAfter attempt) _).told r _) =
            ((List.range' attempt (List.length _ + 1 - 1)).map _).filter _
          rw [waits_pause, hrest, hk, Nat.add_sub_cancel, List.range'_succ, List.map_cons,
            ← List.filter_append, List.singleton_append]

end Waits

/-- Some of the waits after some attempts take no longer than as many times the cap. -/
theorem sum_delays_le (p : RetryPolicy) (attempts : List Nat) (q : Duration → Bool) :
    (((attempts.map p.delayAfter).filter q).map Duration.toNanos).sum ≤
      attempts.length * p.cap.toNanos := by
  have hcap : ∀ n ∈ ((attempts.map p.delayAfter).filter q).map Duration.toNanos,
      n ≤ p.cap.toNanos := by
    intro n hn
    obtain ⟨d, hd, rfl⟩ := List.mem_map.mp hn
    obtain ⟨attempt, -, rfl⟩ := List.mem_map.mp (List.mem_filter.mp hd).1
    exact p.toNanos_delayAfter_le attempt
  calc (((attempts.map p.delayAfter).filter q).map Duration.toNanos).sum
    _ ≤ (((attempts.map p.delayAfter).filter q).map Duration.toNanos).length * p.cap.toNanos :=
        List.sum_le_card_nsmul _ _ hcap
    _ ≤ attempts.length * p.cap.toNanos := by
        refine Nat.mul_le_mul_right _ ?_
        rw [List.length_map]
        exact (List.length_filter_le q _).trans_eq (List.length_map ..)

end RetryPolicy

/-! ### Generations that share a source -/

/-- Answers checks out of a state. -/
abbrev Checker (τ : Type) := AccountId → τ → Outcome τ (Except StoreError Bool)

/-- Answers the questions of a generation: candidates come from a source, and checks are left
to a checker. -/
def Checker.withSource {τ : Type} (check : Checker τ) :
    Responder Trial.interface (CandidateSource × τ)
  | .draw, s => ⟨s.1.draw.1, (s.1.draw.2, s.2), []⟩
  | .check id, s => ⟨(check id s.2).value, (s.1, (check id s.2).state), (check id s.2).notices⟩

/-- A generation together with who answers its checks. -/
structure Generation (τ : Type) where
  policy : RetryPolicy
  check : Checker τ

namespace Generation

variable {τ : Type}

/-- The ids that some generations check, one after the other. -/
def checkedIds : List (Generation τ) → CandidateSource × τ → List AccountId
  | [], _ => []
  | g :: gs, s =>
    (g.policy.generate.transcript g.check.withSource s).filterMap RetryPolicy.checkedId ++
      checkedIds gs (g.policy.generate.run g.check.withSource s).state

/-- The state that some generations leave. -/
def after : List (Generation τ) → CandidateSource × τ → CandidateSource × τ
  | [], s => s
  | g :: gs, s => after gs (g.policy.generate.run g.check.withSource s).state

/-- The candidates drawn in a dialogue are those that the source has in store. -/
theorem exists_ahead {α : Type} (check : Checker τ) (d : Dialogue Trial.interface α)
    (s : CandidateSource × τ) :
    ∃ n, (d.transcript check.withSource s).filterMap RetryPolicy.drawnId = s.1.ahead n ∧
      (d.run check.withSource s).state.1 = s.1.skip n := by
  induction d generalizing s with
  | done a => exact ⟨0, rfl, rfl⟩
  | note n d ih => exact ih s
  | ask q k ih =>
    cases q with
    | draw =>
      obtain ⟨n, hdrawn, hskip⟩ := ih s.1.draw.1 (s.1.draw.2, s.2)
      exact ⟨n + 1, congrArg (s.1.draw.1 :: ·) hdrawn, hskip⟩
    | check c => exact ih (check c s.2).value (s.1, (check c s.2).state)

/-- **Generations that share a source check what it has in store**, in that order. -/
theorem exists_checkedIds (gs : List (Generation τ)) (s : CandidateSource × τ) :
    ∃ n, checkedIds gs s = s.1.ahead n ∧ (after gs s).1 = s.1.skip n := by
  induction gs generalizing s with
  | nil => exact ⟨0, rfl, rfl⟩
  | cons g gs ih =>
    have hsearch := RetryPolicy.search_of_reaches
      (Dialogue.reaches_transcript g.check.withSource g.policy.generate s)
    obtain ⟨m, hdrawn, hskip⟩ := exists_ahead g.check g.policy.generate s
    obtain ⟨n, hchecked, hafter⟩ := ih (g.policy.generate.run g.check.withSource s).state
    refine ⟨m + n, ?_, ?_⟩
    · rw [checkedIds, hsearch.checked_eq_drawn, hdrawn, hchecked, hskip,
        CandidateSource.ahead_add]
    · rw [after, hafter, hskip, CandidateSource.skip_add]

end Generation

namespace RetryPolicy

/-- A generation under the policy `p` draws and checks as in `es`, tells `told` by itself, and
ends with `r`. -/
structure Searches (p : RetryPolicy) (es : List (Exchange Trial.interface)) (told : List Notice)
    (r : Except StoreError AccountId) : Prop where
  search : Search (max 1 p.maxAttempts) (max 1 p.maxAttempts) es r
  /-- Each candidate is checked as soon as it has been drawn, and nothing else is. -/
  alternates : es ≠ [] ∧
    es.map Exchange.question = (es.filterMap drawnId).flatMap fun c => [.draw, .check c]
  /-- After a check there is another question exactly if the id is taken, and not in the last
  attempt. -/
  goes_on : ∀ before c a after, es = before ++ ⟨.check c, a⟩ :: after →
    (after ≠ [] ↔ a = .ok true ∧
      (before.filterMap checkedId).length + 1 < max 1 p.maxAttempts)
  ok_iff : ∀ c, r = .ok c ↔ es.getLast? = some ⟨.check c, .ok false⟩
  /-- The result is the error of the last check, or that of attempts that all have met a taken
  id. -/
  error_iff : ∀ e, r = .error e ↔ (∃ x, es.getLast? = some x ∧ failure x = some e) ∨
    (es.filterMap takenId).length = max 1 p.maxAttempts ∧ e = .exhausted (max 1 p.maxAttempts)
  checks_le : (es.filterMap checkedId).length ≤ max 1 p.maxAttempts
  /-- The waits are those after all checks but the last. -/
  waits_eq : waits told =
    ((List.range' 1 ((es.filterMap checkedId).length - 1)).map p.delayAfter).filter (!·.isZero)
  waits_le : ((waits told).map Duration.toNanos).sum ≤
    (max 1 p.maxAttempts - 1) * p.cap.toNanos

/-- **A generation with any source and any probe** draws and checks in turn, goes on only after
a taken id, waits in between, and stops with the first candidate that is free, with the first
check that fails, or when its attempts, at least one, are used up; it asks nothing else.
**Generations that share a scripted source**, each with a policy and a probe of its own, check
the candidates of the script in their order and random ids after them, and use up as many
candidates as they check. -/
theorem generation_searches {σ τ : Type} (p : RetryPolicy) (r : Responder Trial.interface σ)
    (s : σ) (gs : List (Generation τ)) (t : τ) (script : List AccountId) (random : Nat → Nat) :
    let source := CandidateSource.scripted script random
    let checked := Generation.checkedIds gs (source, t)
    (r.Gives s (p.generate.transcript r s) (p.generate.run r s).state ∧
      p.Searches (p.generate.transcript r s) (p.generate.told r s) (p.generate.run r s).value) ∧
    checked = script.take checked.length ++
      (List.range (checked.length - script.length)).map (fun i => .clamped (random i)) ∧
    (Generation.after gs (source, t)).1.remaining = script.length - checked.length := by
  intro source checked
  have hbound : max 1 p.maxAttempts = p.bound := Nat.max_comm 1 p.maxAttempts
  have h : Search p.bound p.bound (p.generate.transcript r s) (p.generate.run r s).value :=
    search_of_reaches (Dialogue.reaches_transcript r p.generate s)
  have hwaits : waits (p.generate.told r s) = _ := waits_attempts r p p.bound 1 s
  refine ⟨⟨p.generate.gives_transcript r s, ?_⟩, ?_⟩
  · rw [← hbound] at h
    refine ⟨h, ⟨?_, h.questions⟩, fun _ _ _ _ hes => h.goes_on hes, h.ok_iff, h.error_iff,
      h.length_checked_le, hwaits, ?_⟩
    · rw [ne_eq, h.eq_nil_iff]
      omega
    · rw [hwaits]
      refine (p.sum_delays_le _ _).trans (Nat.mul_le_mul_right _ ?_)
      rw [List.length_range']
      exact Nat.sub_le_sub_right h.length_checked_le 1
  · obtain ⟨n, hchecked, hafter⟩ := Generation.exists_checkedIds gs (source, t)
    have hlength : checked.length = n := by
      rw [show checked = source.ahead n from hchecked, CandidateSource.length_ahead]
    rw [hafter, hlength, show checked = source.ahead n from hchecked,
      CandidateSource.ahead_eq, CandidateSource.remaining_skip]
    refine ⟨?_, rfl⟩
    simp [source, CandidateSource.scripted]

end RetryPolicy

end AccountRegistry
