/-
A registration with a store on a database, reply by reply.

* **`SqlStore.Stage`** — where a registration stands: how many ids it has generated, how many of
  the candidates for the next one it has checked, and what it does next;
* **`Stage.after`** — the stage that a step with its answer leads to;
* **`kept_registering`** — in every stage a registration asks only what comes next, until it
  ends;
* **`Stage.Leads`** — the steps that follow a stage, up to the end; **`Leads.after_count`**,
  **`Leads.after_insertFault`**, **`Leads.after_fault`** and their like say what follows an
  answer.

Design notes: the database is any responder whatever.  What it answers is found in the steps
themselves, so that a fact about an answer is a fact about the steps before and after it.
-/
import AccountRegistry.Store.MySql.Server
import AccountRegistry.Service
import AccountRegistry.Proofs.Generator

namespace AccountRegistry

namespace SqlStore

/-! ### Stages -/

/-- Whether a step has found its id unused. -/
def isFree : Exchange SqlStep.interface → Bool
  | ⟨.perform (.countId _), .ok (.count n)⟩ => decide (n ≤ 0)
  | _ => false

theorem isFree_iff (id : AccountId) (reply : Except ClientFault Reply) :
    isFree ⟨.perform (.countId id), reply⟩ = true ↔ reply.bind isTaken = .ok false := by
  match reply with
  | .error e => simp [isFree, Except.bind]
  | .ok .done => simp [isFree, Except.bind, isTaken]
  | .ok (.rows []) => simp [isFree, Except.bind, isTaken]
  | .ok (.rows (r :: rs)) => simp [isFree, Except.bind, isTaken]
  | .ok (.count n) => simp [isFree, Except.bind, isTaken]

/-- The checks made on the connection acquired last, after a further step. -/
def checksAfter (checks : Nat) : Exchange SqlStep.interface → Nat
  | ⟨.acquire, _⟩ => 0
  | ⟨.perform (.countId _), _⟩ => checks + 1
  | _ => checks

/-- What a registration does next. -/
inductive Move where
  /-- Acquires a connection for a generation. -/
  | generate
  | draw
  | check (id : AccountId)
  /-- Acquires a connection for the insert. -/
  | connect (id : AccountId)
  | insert (id : AccountId)
  | finish (r : Except StoreError User)

namespace Move

/-- The step that a move asks for. -/
def step (p : Profile) : Move → Option SqlStep
  | generate => some .acquire
  | draw => some .draw
  | check id => some (.perform (.countId id))
  | connect _ => some .acquire
  | insert id => some (.perform (.insert (p.withId id)))
  | finish _ => none

/-- Another candidate is drawn, unless `g` have been checked. -/
def search (g checks : Nat) : Move :=
  if checks < g then draw else finish (.error (.exhausted g))

/-- Another id is generated, unless there have been `m`. -/
def start (m ids : Nat) : Move :=
  if ids < m then generate else finish (.error (.exhausted m))

/-- The move after an id has been checked. -/
def afterCheck (g checks : Nat) (id : AccountId) : Except ClientFault Bool → Move
  | .error e => finish (.error e.storeError)
  | .ok false => connect id
  | .ok true => search g checks

/-- The move after an insert that has failed. -/
def afterFault (m ids : Nat) (e : StoreError) : Move :=
  if e = .duplicate .accountId then start m ids else finish (.error e)

/-- The move that a step with its answer leads to. -/
def after (p : Profile) (g m ids checks : Nat) : Move → Exchange SqlStep.interface → Move
  | generate, ⟨.acquire, .ok ()⟩ => search g checks
  | generate, ⟨.acquire, .error e⟩ => finish (.error e.storeError)
  | draw, ⟨.draw, id⟩ => check id
  | check id, ⟨.perform _, a⟩ => afterCheck g checks id (a.bind isTaken)
  | connect id, ⟨.acquire, .ok ()⟩ => insert id
  | connect _, ⟨.acquire, .error e⟩ => afterFault m ids e.storeError
  | insert id, ⟨.perform _, .ok _⟩ => finish (.ok (p.withId id))
  | insert _, ⟨.perform _, .error e⟩ => afterFault m ids e.storeError
  | move, _ => move

end Move

/-- Where a registration stands. -/
structure Stage where
  /-- How many ids have been generated. -/
  ids : Nat
  /-- How many checks have been made on the connection acquired last. -/
  checks : Nat
  move : Move

namespace Stage

/-- The stage that a step with its answer leads to. -/
def after (p : Profile) (g m : Nat) (φ : Stage) (x : Exchange SqlStep.interface) : Stage :=
  let ids := φ.ids + (if isFree x then 1 else 0)
  let checks := checksAfter φ.checks x
  ⟨ids, checks, φ.move.after p g m ids checks x⟩

/-- Nothing has been asked yet. -/
def first : Stage := ⟨0, 0, .generate⟩

/-- What a generation may end with in a stage, if there have been `ids` ids before. -/
def EndsGeneration (ids : Nat) (φ : Stage) : Except StoreError AccountId → Prop
  | .ok id => φ.ids = ids + 1 ∧ φ.move = .connect id
  | .error e => φ.move = .finish (.error e)

/-- What an insert of `u` may end with in a stage, if there have been `ids` ids of `m`. -/
def EndsInsert (m ids : Nat) (u : User) (φ : Stage) : Except StoreError Unit → Prop
  | .ok () => φ.move = .finish (.ok u)
  | .error e => φ.ids = ids ∧ φ.move = .afterFault m ids e

end Stage

/-- The rules that a registration of `p` keeps to, with at most `m` ids and `g` candidates for
each. -/
@[reducible] def conduct (p : Profile) (g m : Nat) : Conduct SqlStep.interface :=
  ⟨Stage, fun φ q => φ.move.step p = some q, Stage.after p g m⟩

/-- A registration as a dialogue of steps. -/
def registering (dialect : SqlDialect) (policy : RetryPolicy) (configured : Nat) (p : Profile) :
    Dialogue SqlStep.interface (Except StoreError User) :=
  (Service.register configured p).via (call dialect policy)

section Kept

variable (dialect : SqlDialect) (policy : RetryPolicy) (p : Profile) (m : Nat)

theorem kept_attempts (ids checks : Nat) {left : Nat} (attempt : Nat)
    (hleft : checks + left = policy.bound) :
    (conduct p policy.bound m).Kept (Stage.EndsGeneration ids)
      ⟨ids, checks, .search policy.bound checks⟩ ((policy.attempts left attempt).via trial) := by
  induction left generalizing checks attempt with
  | zero =>
    have hsearch : Move.search policy.bound checks = .finish (.error (.exhausted policy.bound)) :=
      if_neg (by omega)
    exact hsearch
  | succ left ih =>
    have hsearch : Move.search policy.bound checks = .draw := if_pos (by omega)
    have hrest := ih (checks + 1) (attempt + 1) (by omega)
    rw [hsearch]
    refine ⟨rfl, fun id => ⟨rfl, fun reply => ?_⟩⟩
    show (conduct p policy.bound m).Kept _
      ⟨ids + (if isFree ⟨.perform (.countId id), reply⟩ then 1 else 0), checks + 1,
        .afterCheck policy.bound (checks + 1) id (reply.bind isTaken)⟩ _
    dsimp only [Dialogue.bind]
    have hfree := isFree_iff id reply
    generalize reply.bind isTaken = answer at hfree ⊢
    match answer with
    | .error e => exact rfl
    | .ok false =>
      rw [if_pos (hfree.mpr rfl)]
      exact ⟨rfl, rfl⟩
    | .ok true =>
      rw [if_neg (mt hfree.mp (by simp))]
      -- a notice and perhaps a pause, and the search goes on
      show (conduct p policy.bound m).Kept _
        ⟨ids, checks + 1, .search policy.bound (checks + 1)⟩
        (Dialogue.via trial (if left = 0 then _ else RetryPolicy.pause _ _))
      split
      · exact hrest
      · rw [RetryPolicy.via_pause]
        split
        · exact hrest
        · exact hrest

theorem kept_add (ids checks : Nat) (id : AccountId) :
    (conduct p policy.bound m).Kept (Stage.EndsInsert m ids (p.withId id))
      ⟨ids, checks, .connect id⟩ (call dialect policy (.add (p.withId id))) := by
  have hinsert : (conduct p policy.bound m).Kept (Stage.EndsInsert m ids (p.withId id))
      ⟨ids, checks, .connect id⟩
      ((perform (.insert (p.withId id))).bind (finishAdd dialect (p.withId id))) := by
    refine ⟨rfl, fun acquired => ?_⟩
    match acquired with
    | .error e => exact ⟨rfl, rfl⟩
    | .ok () =>
      refine ⟨rfl, fun reply => ?_⟩
      cases reply with
      | ok reply => exact rfl
      | error e => exact ⟨rfl, rfl⟩
  rw [call]
  split
  · exact hinsert
  · exact hinsert

theorem kept_rounds {ids left : Nat} (checks attempt : Nat) (hleft : ids + left = m) :
    (conduct p policy.bound m).Kept (fun φ r => φ.move = .finish r)
      ⟨ids, checks, .start m ids⟩
      ((Service.rounds p m left attempt).via (call dialect policy)) := by
  induction left generalizing ids checks attempt with
  | zero =>
    have hstart : Move.start m ids = .finish (.error (.exhausted m)) := if_neg (by omega)
    exact hstart
  | succ left ih =>
    have hstart : Move.start m ids = .generate := if_pos (by omega)
    rw [hstart]
    refine ⟨rfl, fun acquired => ?_⟩
    match acquired with
    | .error e => exact rfl
    | .ok () =>
      refine Conduct.Kept.bind
        ((kept_attempts policy p m ids 0 1 (Nat.zero_add _)).mono fun φ a ha => ?_)
      cases a with
      | error e => exact ha
      | ok id =>
        obtain ⟨k, checks', move⟩ := φ
        obtain ⟨rfl, rfl⟩ : k = ids + 1 ∧ move = .connect id := ha
        refine Conduct.Kept.bind
          ((kept_add dialect policy p m (ids + 1) checks' id).mono fun φ a ha => ?_)
        match a with
        | .ok () => exact ha
        | .error e =>
          obtain ⟨k, checks'', move⟩ := φ
          obtain ⟨rfl, rfl⟩ : k = ids + 1 ∧ move = .afterFault m (ids + 1) e := ha
          match e with
          | .duplicate .accountId => exact ih checks'' (attempt + 1) (by omega)
          | .duplicate .username => exact rfl
          | .duplicate .unknown => exact rfl
          | .connection _ => exact rfl
          | .query _ => exact rfl
          | .exhausted _ => exact rfl
          | .invalidId _ => exact rfl

theorem kept_registering (configured : Nat) :
    (conduct p policy.bound (Service.bound configured)).Kept (fun φ r => φ.move = .finish r)
      Stage.first (registering dialect policy configured p) := by
  have hstart : Move.start (Service.bound configured) 0 = .generate :=
    if_pos (Nat.le_max_right configured 1)
  have hrounds := kept_rounds dialect policy p (Service.bound configured) 0 1 (Nat.zero_add _)
  rwa [hstart] at hrounds

end Kept

/-! ### Ways through the stages -/

variable {p : Profile} {g m : Nat} {φ : Stage} {es before rest : List (Exchange SqlStep.interface)}
  {r : Except StoreError User}

namespace Stage

/-- From the stage `φ` the exchanges `es` follow one after the other, and then the end with
`r`. -/
def Leads (p : Profile) (g m : Nat) (φ : Stage) :
    List (Exchange SqlStep.interface) → Except StoreError User → Prop
  | [], r => φ.move = .finish r
  | x :: es, r => φ.move.step p = some x.question ∧ (φ.after p g m x).Leads p g m es r

theorem leads_of_kept {d : Dialogue SqlStep.interface (Except StoreError User)}
    (hkept : (conduct p g m).Kept (fun φ r => φ.move = .finish r) φ d)
    (hd : d.Reaches es (.done r)) : φ.Leads p g m es r := by
  generalize hend : Dialogue.done r = d' at hd
  induction hd generalizing φ with
  | refl d =>
    subst hend
    exact hkept
  | note _ ih => exact ih hkept hend
  | ask a _ ih => exact ⟨hkept.1, ih (hkept.2 a) hend⟩

/-- The stage that some exchanges lead to. -/
def afterAll (p : Profile) (g m : Nat) (φ : Stage) (es : List (Exchange SqlStep.interface)) :
    Stage :=
  es.foldl (after p g m) φ

theorem Leads.of_append (h : φ.Leads p g m (before ++ rest) r) :
    (φ.afterAll p g m before).Leads p g m rest r := by
  induction before generalizing φ with
  | nil => exact h
  | cons x before ih => exact ih h.2

theorem ids_afterAll : (φ.afterAll p g m es).ids = φ.ids + es.countP isFree := by
  induction es generalizing φ with
  | nil => rfl
  | cons x es ih =>
    show ((φ.after p g m x).afterAll p g m es).ids = _
    rw [ih, List.countP_cons]
    show φ.ids + (if isFree x then 1 else 0) + _ = _
    omega

theorem checks_afterAll : (φ.afterAll p g m es).checks = es.foldl checksAfter φ.checks := by
  induction es generalizing φ with
  | nil => rfl
  | cons x es ih => exact ih

/-- What is asked next is answered next. -/
theorem Leads.exists_cons (h : φ.Leads p g m es r) {q : SqlStep} (hq : φ.move.step p = some q) :
    ∃ a rest, es = ⟨q, a⟩ :: rest ∧ (φ.after p g m ⟨q, a⟩).Leads p g m rest r := by
  obtain _ | ⟨⟨q', a⟩, rest⟩ := es
  · have hmove : φ.move = .finish r := h
    rw [hmove] at hq
    cases hq
  · obtain rfl : q = q' := Option.some.inj (hq.symm.trans h.1)
    exact ⟨a, rest, rfl, h.2⟩

theorem Leads.finish {r' : Except StoreError User} (h : φ.Leads p g m es r)
    (hmove : φ.move = .finish r') : es = [] ∧ r = r' := by
  obtain _ | ⟨x, es⟩ := es
  · have hend : φ.move = .finish r := h
    rw [hmove] at hend
    exact ⟨rfl, (Move.finish.inj hend).symm⟩
  · have hnext := h.1
    rw [hmove] at hnext
    cases hnext

end Stage

/-! ### What follows what -/

/-- Whether an id is asked for: a connection, and on it a candidate. -/
def BeginsGeneration (es : List (Exchange SqlStep.interface)) : Prop :=
  ∃ a rest, es = ⟨.acquire, a⟩ :: rest ∧ (a = .ok () → ∃ id rest', rest = ⟨.draw, id⟩ :: rest')

/-- Whether `u` is inserted: a connection, and on it the statement. -/
def BeginsInsert (u : User) (es : List (Exchange SqlStep.interface)) : Prop :=
  ∃ a rest, es = ⟨.acquire, a⟩ :: rest ∧
    (a = .ok () → ∃ b rest', rest = ⟨.perform (.insert u), b⟩ :: rest')

namespace Stage

theorem Leads.search (h : φ.Leads p g m es r) (checks : Nat) (hmove : φ.move = .search g checks) :
    if checks < g then ∃ id rest, es = ⟨.draw, id⟩ :: rest
    else es = [] ∧ r = .error (.exhausted g) := by
  rw [Move.search] at hmove
  split at hmove
  · next hleft =>
    rw [if_pos hleft]
    obtain ⟨id, rest, hes, -⟩ := h.exists_cons (q := .draw) (by rw [hmove]; rfl)
    exact ⟨id, rest, hes⟩
  · next hleft =>
    rw [if_neg hleft]
    exact h.finish hmove

theorem Leads.generate (hg : 0 < g) (h : φ.Leads p g m es r) (hmove : φ.move = .generate) :
    BeginsGeneration es := by
  obtain ⟨a, rest, hes, hrest⟩ := h.exists_cons (q := .acquire) (by rw [hmove]; rfl)
  refine ⟨a, rest, hes, ?_⟩
  rintro rfl
  have hsearch := hrest.search 0 (by rw [after, hmove]; rfl)
  rwa [if_pos hg] at hsearch

theorem Leads.connect {id : AccountId} (h : φ.Leads p g m es r) (hmove : φ.move = .connect id) :
    BeginsInsert (p.withId id) es := by
  obtain ⟨a, rest, hes, hrest⟩ := h.exists_cons (q := .acquire) (by rw [hmove]; rfl)
  refine ⟨a, rest, hes, ?_⟩
  rintro rfl
  obtain ⟨b, rest', hrest', -⟩ :=
    hrest.exists_cons (q := .perform (.insert (p.withId id))) (by rw [after, hmove]; rfl)
  exact ⟨b, rest', hrest'⟩

theorem Leads.fault (hg : 0 < g) (h : φ.Leads p g m es r) (ids : Nat) {e : StoreError}
    (hmove : φ.move = .afterFault m ids e) :
    if e = .duplicate .accountId then
      if ids < m then BeginsGeneration es else es = [] ∧ r = .error (.exhausted m)
    else es = [] ∧ r = .error e := by
  rw [Move.afterFault] at hmove
  split at hmove
  · next hlost =>
    rw [if_pos hlost]
    rw [Move.start] at hmove
    split at hmove
    · next hleft =>
      rw [if_pos hleft]
      exact h.generate hg hmove
    · next hleft =>
      rw [if_neg hleft]
      exact h.finish hmove
  · next hlost =>
    rw [if_neg hlost]
    exact h.finish hmove

end Stage

/-! ### Questions and their moves -/

/-- The fault that a step has ended with. -/
def faultOf : Exchange SqlStep.interface → Option ClientFault
  | ⟨.acquire, .error e⟩ => some e
  | ⟨.perform _, .error e⟩ => some e
  | _ => none

/-- The user that a step has inserted. -/
def insertedUser : Exchange SqlStep.interface → Option User
  | ⟨.perform (.insert u), .ok _⟩ => some u
  | _ => none

namespace Move

variable {move : Move}

theorem eq_of_step_draw (h : move.step p = some .draw) : move = .draw := by
  cases move <;> first | rfl | cases h

theorem eq_of_step_acquire (h : move.step p = some .acquire) :
    move = .generate ∨ ∃ id, move = .connect id := by
  cases move with
  | generate => exact .inl rfl
  | connect id => exact .inr ⟨id, rfl⟩
  | draw | check | insert | finish => cases h

/-- Only checks and inserts are performed. -/
theorem eq_of_step_perform {st : Statement} (h : move.step p = some (.perform st)) :
    (∃ id, move = .check id ∧ st = .countId id) ∨
      ∃ id, move = .insert id ∧ st = .insert (p.withId id) := by
  cases move with
  | check id => cases h; exact .inl ⟨id, rfl, rfl⟩
  | insert id => cases h; exact .inr ⟨id, rfl, rfl⟩
  | generate | draw | connect | finish => cases h

theorem eq_of_step_check {id : AccountId} (h : move.step p = some (.perform (.countId id))) :
    move = .check id := by
  obtain ⟨id', hmove, hst⟩ | ⟨id', -, hst⟩ := eq_of_step_perform h
  · cases hst
    exact hmove
  · cases hst

theorem eq_of_step_insert {u : User} (h : move.step p = some (.perform (.insert u))) :
    ∃ id, move = .insert id ∧ u = p.withId id := by
  obtain ⟨id', -, hst⟩ | ⟨id', hmove, hst⟩ := eq_of_step_perform h
  · cases hst
  · cases hst
    exact ⟨id', hmove, rfl⟩

theorem search_ne {g checks : Nat} :
    search g checks ≠ .generate ∧ ∀ u, search g checks ≠ .finish (.ok u) := by
  unfold search
  split <;> simp

theorem afterCheck_ne {g checks : Nat} {id : AccountId} {a : Except ClientFault Bool} :
    afterCheck g checks id a ≠ .generate ∧ ∀ u, afterCheck g checks id a ≠ .finish (.ok u) := by
  match a with
  | .error e => simp [afterCheck]
  | .ok false => simp [afterCheck]
  | .ok true => exact search_ne

theorem afterFault_ne {m ids : Nat} {e : StoreError} {u : User} :
    afterFault m ids e ≠ .finish (.ok u) := by
  unfold afterFault start
  split
  · split <;> simp
  · simp

theorem lost_of_afterFault {m ids : Nat} {e : StoreError} (h : afterFault m ids e = .generate) :
    e = .duplicate .accountId := by
  rw [afterFault] at h
  split at h
  · assumption
  · cases h

variable {ids checks : Nat} {x : Exchange SqlStep.interface}

/-- An id is asked for only after a lost one. -/
theorem lost_of_after (h : move.step p = some x.question)
    (hnext : move.after p g m ids checks x = .generate) :
    ∃ e, faultOf x = some e ∧ e.storeError = .duplicate .accountId := by
  obtain ⟨q, a⟩ := x
  cases move with
  | generate =>
    cases h
    cases a with
    | error e => cases hnext
    | ok => exact absurd hnext search_ne.1
  | draw => cases h; cases hnext
  | check id => cases h; exact absurd hnext afterCheck_ne.1
  | connect id =>
    cases h
    cases a with
    | error e => exact ⟨e, rfl, lost_of_afterFault hnext⟩
    | ok => cases hnext
  | insert id =>
    cases h
    cases a with
    | error e => exact ⟨e, rfl, lost_of_afterFault hnext⟩
    | ok => cases hnext
  | finish r => cases h

/-- A registration ends with a user only after an insert of that user. -/
theorem inserted_of_after {u : User} (h : move.step p = some x.question)
    (hnext : move.after p g m ids checks x = .finish (.ok u)) :
    ∃ a, x = ⟨.perform (.insert u), .ok a⟩ := by
  obtain ⟨q, a⟩ := x
  cases move with
  | generate =>
    cases h
    cases a with
    | error e => cases hnext
    | ok => exact absurd hnext (search_ne.2 u)
  | draw => cases h; cases hnext
  | check id => cases h; exact absurd hnext (afterCheck_ne.2 u)
  | connect id =>
    cases h
    cases a with
    | error e => exact absurd hnext afterFault_ne
    | ok => cases hnext
  | insert id =>
    cases h
    cases a with
    | error e => exact absurd hnext afterFault_ne
    | ok a => cases hnext; exact ⟨a, rfl⟩
  | finish r => cases h

end Move

/-! ### Answers and what follows them -/

namespace Stage.Leads

variable {id : AccountId} {u : User} {e : ClientFault} {x : Exchange SqlStep.interface}

theorem after_draw (h : φ.Leads p g m (⟨.draw, id⟩ :: rest) r) :
    ∃ a rest', rest = ⟨.perform (.countId id), a⟩ :: rest' := by
  have hmove := Move.eq_of_step_draw h.1
  obtain ⟨a, rest', hrest, -⟩ :=
    h.2.exists_cons (q := .perform (.countId id)) (by rw [after, hmove]; rfl)
  exact ⟨a, rest', hrest⟩

theorem after_checkFault (h : φ.Leads p g m (⟨.perform (.countId id), .error e⟩ :: rest) r) :
    rest = [] ∧ r = .error e.storeError := by
  have hmove := Move.eq_of_step_check h.1
  exact h.2.finish (by rw [after, hmove]; rfl)

theorem after_count {n : Int}
    (h : φ.Leads p g m (⟨.perform (.countId id), .ok (.count n)⟩ :: rest) r) :
    if 0 < n then
      if φ.checks + 1 < g then ∃ id' rest', rest = ⟨.draw, id'⟩ :: rest'
      else rest = [] ∧ r = .error (.exhausted g)
    else BeginsInsert (p.withId id) rest := by
  have hmove := Move.eq_of_step_check h.1
  have hafter : (φ.after p g m ⟨.perform (.countId id), .ok (.count n)⟩).move =
      .afterCheck g (φ.checks + 1) id (.ok (decide (0 < n))) := by
    rw [after, hmove]
    rfl
  split
  · next hn =>
    rw [decide_eq_true hn] at hafter
    exact h.2.search (φ.checks + 1) hafter
  · next hn =>
    rw [decide_eq_false hn] at hafter
    exact h.2.connect hafter

theorem after_insertFault (hg : 0 < g)
    (h : φ.Leads p g m (⟨.perform (.insert u), .error e⟩ :: rest) r) :
    if e.storeError = .duplicate .accountId then
      if φ.ids < m then BeginsGeneration rest else rest = [] ∧ r = .error (.exhausted m)
    else rest = [] ∧ r = .error e.storeError := by
  obtain ⟨id, hmove, -⟩ := Move.eq_of_step_insert h.1
  exact h.2.fault hg φ.ids (by rw [after, hmove]; rfl)

theorem after_inserted {a : Reply} (h : φ.Leads p g m (⟨.perform (.insert u), .ok a⟩ :: rest) r) :
    rest = [] ∧ r = .ok u := by
  obtain ⟨id, hmove, rfl⟩ := Move.eq_of_step_insert h.1
  exact h.2.finish (by rw [after, hmove]; rfl)

theorem after_acquireFault (hg : 0 < g) (h : φ.Leads p g m (⟨.acquire, .error e⟩ :: rest) r)
    (he : e.storeError ≠ .duplicate .accountId) : rest = [] ∧ r = .error e.storeError := by
  obtain hmove | ⟨id, hmove⟩ := Move.eq_of_step_acquire h.1
  · exact h.2.finish (by rw [after, hmove]; rfl)
  · have hfault := h.2.fault hg φ.ids (e := e.storeError) (by rw [after, hmove]; rfl)
    rwa [if_neg he] at hfault

/-- **A fault ends the registration**, a lost id aside. -/
theorem after_fault (hg : 0 < g) (h : φ.Leads p g m (x :: rest) r) (hx : faultOf x = some e)
    (he : e.storeError ≠ .duplicate .accountId) : rest = [] ∧ r = .error e.storeError := by
  match x, hx with
  | ⟨.acquire, .error _⟩, rfl => exact after_acquireFault hg h he
  | ⟨.perform st, .error _⟩, rfl =>
    obtain ⟨id, -, rfl⟩ | ⟨id, -, rfl⟩ := Move.eq_of_step_perform h.1
    · exact after_checkFault h
    · have hfault := after_insertFault hg h
      rwa [if_neg he] at hfault

/-- A registration ends with a user only after an insert of that user. -/
theorem last_of_ok (h : φ.Leads p g m es (.ok u)) (hmove : φ.move ≠ .finish (.ok u)) :
    ∃ before a, es = before ++ [⟨.perform (.insert u), .ok a⟩] := by
  obtain rfl | ⟨before, x, rfl⟩ := List.eq_nil_or_concat es
  · exact absurd h hmove
  · rw [List.concat_eq_append] at h
    obtain ⟨hstep, hend⟩ := h.of_append
    obtain ⟨a, rfl⟩ := Move.inserted_of_after hstep hend
    exact ⟨before, a, List.concat_eq_append⟩

/-- An id is asked for at the beginning, and else only after a lost one. -/
theorem before_generation
    (h : φ.Leads p g m (before ++ ⟨.acquire, .ok ()⟩ :: ⟨.draw, id⟩ :: rest) r) :
    before = [] ∨ ∃ before' x e, before = before' ++ [x] ∧ faultOf x = some e ∧
      e.storeError = .duplicate .accountId := by
  obtain rfl | ⟨before, x, rfl⟩ := List.eq_nil_or_concat before
  · exact .inl rfl
  · rw [List.concat_eq_append, List.append_assoc] at h
    obtain ⟨hstep, hrest⟩ := h.of_append
    have hnext : ((φ.afterAll p g m before).after p g m x).move = .generate := by
      obtain hmove | ⟨id', hmove⟩ := Move.eq_of_step_acquire hrest.1
      · exact hmove
      · -- the connection of an insert is not used for a generation
        obtain ⟨a, rest', heq, hinsert⟩ := hrest.connect hmove
        cases heq
        obtain ⟨b, rest', heq⟩ := hinsert rfl
        cases heq
    obtain ⟨e, he, hlost⟩ := Move.lost_of_after hstep hnext
    exact .inr ⟨before, x, e, List.concat_eq_append, he, hlost⟩

end Stage.Leads

end SqlStore

end AccountRegistry
