/-
A registration with a store on a MySQL server, reply by reply.

* **`MySqlReply.answer`**, **`MySqlPool.replies`** — what the client makes of a reply, and the
  replies of a server one after the other;
* **`MySqlPool.errorOf`** — the failure that an error reply amounts to, told by its number and,
  for a duplicate, by the key in its message;
* **`MySqlStore.Heeds`** — what a registration does after each answer and how it ends;
* **`registration_heeds_replies`** — every registration with such a store does so, whatever it is
  answered; and the answers to its statements are the replies of the server.

Design notes: what a registration does is told over all answers to its steps, so that each
connection may be refused, lost or waited for in vain at any place.  Which answers a server
gives is another matter, and is told of `MySqlPool.respond`.
-/
import AccountRegistry.Proofs.Store.SqlRegistration

namespace AccountRegistry

/-- What the client makes of a reply. -/
def MySqlReply.answer : MySqlReply → Except ClientFault Reply
  | .done => .ok .done
  | .count n => .ok (.count n)
  | .rows rs => .ok (.rows rs)
  | .fault number state message => .error (.database (.mysql number state message))
  | .prepareFault number state message => .error (.database (.mysql number state message))
  | .close => .error MySqlPool.dropped

namespace MySqlPool

/-! ### Replies -/

/-- The next `n` replies of a server. -/
def replies : Except String MySqlServer → Nat → List MySqlReply
  | _, 0 => []
  | server, n + 1 => (nextReply server).1 :: replies (nextReply server).2 n

/-- The answer to a statement. -/
def statementAnswer : Exchange SqlStep.interface → Option (Except ClientFault Reply)
  | ⟨.perform _, a⟩ => some a
  | _ => none

/-- The replies do not depend on what keeps a client from its connections. -/
theorem replies_of_hindrances (server : MySqlServer) (hs : List (Option ClientFault)) (n : Nat) :
    replies (.ok { server with hindrances := hs }) n = replies (.ok server) n := by
  induction n generalizing server with
  | zero => rfl
  | succ n ih =>
    obtain ⟨refusal, rs, hs'⟩ := server
    cases rs with
    | nil => exact congrArg (MySqlReply.done :: ·) (ih ⟨refusal, [], hs'⟩)
    | cons r rs => exact congrArg (r :: ·) (ih ⟨refusal, rs, hs'⟩)

theorem replies_takeHindrance (s : MySqlState) (n : Nat) :
    replies (takeHindrance s).2.server n = replies s.server n := by
  obtain ⟨pool, server, source, seen⟩ := s
  cases server with
  | error why => rfl
  | ok server => exact replies_of_hindrances server server.hindrances.tail n

theorem server_logIn (s : MySqlState) : (logIn s).state.server = s.server := by
  unfold logIn
  split
  · rfl
  · split <;> rfl

/-- **To ask for a connection uses up no reply**, whether there is one or not. -/
theorem replies_connect (s : MySqlState) (n : Nat) :
    replies (connect s).state.server n = replies s.server n := by
  unfold connect
  split
  · rfl
  split
  · rfl
  rw [← replies_takeHindrance s n]
  obtain ⟨hindrance, t⟩ := takeHindrance s
  cases hindrance with
  | some e => rfl
  | none =>
    dsimp only
    split
    · rfl
    · rw [server_logIn]

theorem perform_eq (st : Statement) (s : MySqlState) :
    (perform st s).value = (nextReply s.server).1.answer ∧
      (perform st s).state.server = (nextReply s.server).2 := by
  rw [perform]
  obtain ⟨reply, server⟩ := nextReply s.server
  cases reply with
  | done => exact ⟨rfl, rfl⟩
  | count n => exact ⟨rfl, rfl⟩
  | rows rs => exact ⟨rfl, rfl⟩
  | fault number state message => exact ⟨rfl, rfl⟩
  | close => exact ⟨rfl, rfl⟩
  | prepareFault number state message =>
    dsimp only
    split <;> exact ⟨rfl, rfl⟩

/-- **The statements get the replies of the server**, one after the other. -/
theorem answers_of_gives {s s' : MySqlState} {es : List (Exchange SqlStep.interface)}
    (h : respond.Gives s es s') :
    ∃ n, es.filterMap statementAnswer = (replies s.server n).map MySqlReply.answer := by
  induction h with
  | nil s => exact ⟨0, rfl⟩
  | @cons es s s' q h ih =>
    obtain ⟨n, ih⟩ := ih
    cases q with
    | draw => exact ⟨n, ih⟩
    | acquire => exact ⟨n, ih.trans (congrArg (List.map MySqlReply.answer) (replies_connect s n))⟩
    | perform st =>
      obtain ⟨hvalue, hserver⟩ := perform_eq st s
      have hserver : (respond (.perform st) s).state.server = (nextReply s.server).2 := hserver
      rw [hserver] at ih
      exact ⟨n + 1, congr (congrArg List.cons hvalue) ih⟩

/-! ### Error replies -/

/-- The failure of the store that an error reply amounts to. -/
def errorOf (number : Nat) (state message : String) : StoreError :=
  if number = 1062 then .duplicate (.ofMessage message)
  else .query ("error returned from database: " ++ s!"{number} ({state}): {message}")

theorem storeError_mysql (number : Nat) (state message : String) :
    (ClientFault.database (.mysql number state message)).storeError =
      errorOf number state message := by
  simp only [ClientFault.storeError, DatabaseFault.isDuplicate, beq_iff_eq]
  rfl

theorem errorOf_eq_duplicate_iff {number : Nat} {state message : String} {key : DuplicateKey} :
    errorOf number state message = .duplicate key ↔
      number = 1062 ∧ DuplicateKey.ofMessage message = key := by
  unfold errorOf
  split
  · next h => simp [h]
  · next h => simp [h]

theorem storeError_of_isConnection {e : ClientFault} (h : e.isConnection = true) :
    e.storeError = .connection e.message := by
  cases e <;> first | rfl | cases h

end MySqlPool

namespace MySqlStore

open SqlStore MySqlPool

/-- The store for a single client. -/
def store (policy : RetryPolicy) : Store MySqlState :=
  Responder.via respond (call dialect policy)

/-- A registration of `p` that may generate `m` ids, and check `g` candidates for each, takes the
steps `es`, gets the answers in them, and ends with `r`. -/
structure Heeds (p : Profile) (g m : Nat) (es : List (Exchange SqlStep.interface))
    (r : Except StoreError User) : Prop where
  /-- After an error reply to the insert another id is asked for exactly if the reply says that
  the id is taken, and not for the last id.  Else this is the end. -/
  insert_refused : ∀ before u number state message after,
    es = before ++ ⟨.perform (.insert u), .error (.database (.mysql number state message))⟩ ::
      after →
    if number = 1062 ∧ DuplicateKey.ofMessage message = .accountId then
      if before.countP isFree < m then BeginsGeneration after
      else after = [] ∧ r = .error (.exhausted m)
    else after = [] ∧ r = .error (errorOf number state message)
  /-- An id is asked for at the beginning, and else only after a lost one. -/
  asks_again : ∀ before id after,
    es = before ++ ⟨.acquire, .ok ()⟩ :: ⟨.draw, id⟩ :: after → before = [] ∨
      ∃ before' x e, before = before' ++ [x] ∧ faultOf x = some e ∧
        e.storeError = .duplicate .accountId
  /-- An error reply to a check is the end. -/
  check_refused : ∀ before id number state message after,
    es = before ++ ⟨.perform (.countId id), .error (.database (.mysql number state message))⟩ ::
      after →
    after = [] ∧ r = .error (errorOf number state message)
  /-- After a count above zero another candidate is drawn, unless it was the last one, and
  after any other the id is inserted. -/
  counted : ∀ before id n after,
    es = before ++ ⟨.perform (.countId id), .ok (.count n)⟩ :: after →
    if 0 < n then
      if before.foldl checksAfter 0 + 1 < g then ∃ id' rest, after = ⟨.draw, id'⟩ :: rest
      else after = [] ∧ r = .error (.exhausted g)
    else BeginsInsert (p.withId id) after
  drawn_checked : ∀ before id after, es = before ++ ⟨.draw, id⟩ :: after →
    ∃ a rest, after = ⟨.perform (.countId id), a⟩ :: rest
  /-- Without a connection this is the end. -/
  disconnected : ∀ before x e after, es = before ++ x :: after → faultOf x = some e →
    e.isConnection = true → after = [] ∧ r = .error (.connection e.message)
  acknowledged_last : ∀ before u a after,
    es = before ++ ⟨.perform (.insert u), .ok a⟩ :: after → after = [] ∧ r = .ok u
  acknowledged_le : (es.filterMap insertedUser).length ≤ 1
  ok_iff : ∀ u, r = .ok u ↔ ∃ before a, es = before ++ [⟨.perform (.insert u), .ok a⟩]

section Leads

variable {p : Profile} {g m : Nat} {es : List (Exchange SqlStep.interface)}
  {r : Except StoreError User}

/-- What follows some exchanges, with the numbers of ids and checks that they make. -/
theorem exists_stage {before after : List (Exchange SqlStep.interface)}
    (h : Stage.first.Leads p g m (before ++ after) r) :
    ∃ φ : Stage, φ.ids = before.countP isFree ∧ φ.checks = before.foldl checksAfter 0 ∧
      φ.Leads p g m after r :=
  ⟨Stage.first.afterAll p g m before, Stage.ids_afterAll.trans (Nat.zero_add _),
    Stage.checks_afterAll, h.of_append⟩

theorem length_insertedUser_le {φ : Stage} (h : φ.Leads p g m es r) :
    (es.filterMap insertedUser).length ≤ 1 := by
  induction es generalizing φ with
  | nil => exact Nat.zero_le 1
  | cons x es ih =>
    match x, h with
    | ⟨.perform (.insert u), .ok a⟩, h =>
      obtain ⟨rfl, -⟩ := h.after_inserted
      exact Nat.le_refl 1
    | ⟨.perform (.insert _), .error _⟩, h => exact ih h.2
    | ⟨.perform (.countId _), _⟩, h => exact ih h.2
    | ⟨.perform (.find _), _⟩, h => exact ih h.2
    | ⟨.perform .createUsers, _⟩, h => exact ih h.2
    | ⟨.acquire, _⟩, h => exact ih h.2
    | ⟨.draw, _⟩, h => exact ih h.2

theorem heeds_of_leads (hg : 0 < g) (h : Stage.first.Leads p g m es r) : Heeds p g m es r where
  -- each field cuts the steps in two; the second part starts from the stage the first leads to
  insert_refused before u number state message after hes := by
    subst hes
    obtain ⟨φ, hids, -, hφ⟩ := exists_stage h
    have hfault := hφ.after_insertFault hg
    rw [storeError_mysql, hids] at hfault
    simpa only [errorOf_eq_duplicate_iff] using hfault
  asks_again before id after hes := by
    subst hes
    exact h.before_generation
  check_refused before id number state message after hes := by
    subst hes
    have hfault := h.of_append.after_checkFault
    rwa [storeError_mysql] at hfault
  counted before id n after hes := by
    subst hes
    obtain ⟨φ, -, hchecks, hφ⟩ := exists_stage h
    rw [← hchecks]
    exact hφ.after_count
  drawn_checked before id after hes := by
    subst hes
    exact h.of_append.after_draw
  disconnected before x e after hes hx he := by
    subst hes
    have herror := storeError_of_isConnection he
    have hend := h.of_append.after_fault hg hx (by rw [herror]; exact nofun)
    rwa [herror] at hend
  acknowledged_last before u a after hes := by
    subst hes
    exact h.of_append.after_inserted
  acknowledged_le := length_insertedUser_le h
  ok_iff u := by
    constructor
    · rintro rfl
      exact h.last_of_ok nofun
    · rintro ⟨before, a, rfl⟩
      exact h.of_append.after_inserted.2

end Leads

/-- **A registration heeds what it is answered**, whoever answers and whatever it is.  The number
of an error reply decides whether it reports a duplicate, and then its message tells the key;
only a taken id leads to another one, while there are ids left, and every other error, also one
that answers a check, is the result.  A count above zero is a taken id.  A connection that is
refused or lost or does not come in time is the end, wherever it happens.  At most one insert is
acknowledged, and the user of that insert is the result.  On a server the statements are answered
by its replies, one after the other. -/
theorem registration_heeds_replies (policy : RetryPolicy) (configured : Nat) (p : Profile) :
    (∀ (σ : Type) (r : Responder SqlStep.interface σ) (s : σ),
      Heeds p (max 1 policy.maxAttempts) (max 1 configured)
        ((registering dialect policy configured p).transcript r s)
        ((Service.register configured p).run (Responder.via r (call dialect policy)) s).value) ∧
    ∀ s : MySqlState,
      let es := (registering dialect policy configured p).transcript respond s
      respond.Gives s es ((Service.register configured p).run (store policy) s).state ∧
        ∃ n, es.filterMap statementAnswer = (replies s.server n).map MySqlReply.answer := by
  have hrun {σ : Type} (r : Responder SqlStep.interface σ) (s : σ) :
      (registering dialect policy configured p).run r s =
        (Service.register configured p).run (Responder.via r (call dialect policy)) s := by
    rw [registering, Dialogue.run_via]
  constructor
  · intro σ r s
    have hreaches := (registering dialect policy configured p).reaches_transcript r s
    have hleads := Stage.leads_of_kept (kept_registering dialect policy p configured) hreaches
    rw [hrun] at hleads
    rw [Nat.max_comm 1 configured, Nat.max_comm 1 policy.maxAttempts]
    exact heeds_of_leads (Nat.le_max_right _ _) hleads
  · intro s es
    have hgives := (registering dialect policy configured p).gives_transcript respond s
    exact ⟨hrun respond s ▸ hgives, answers_of_gives hgives⟩

/-- A store whose server gives some replies and keeps it from some connections, with a queue of
candidates. -/
def facing (rs : List MySqlReply) (hs : List (Option ClientFault)) (ids : List AccountId) :
    MySqlState where
  pool := { patience := .ofSecs 5 }
  server := .ok { replies := rs, hindrances := hs }
  source := .scripted ids id

/-- The message about an id that is taken. -/
def lostMessage : String := "Duplicate entry '1000000001' for key 'users.PRIMARY'"

/-- The insert of an id, refused with that message. -/
def refusedInsert (p : Profile) (id : AccountId) : Exchange SqlStep.interface :=
  ⟨.perform (.insert (p.withId id)), .error (.database (.mysql 1062 "23000" lostMessage))⟩

/-- The steps up to a candidate that is free. -/
def upToFree (id : AccountId) : List (Exchange SqlStep.interface) :=
  [⟨.acquire, .ok ()⟩, ⟨.draw, id⟩, ⟨.perform (.countId id), .ok (.count 0)⟩]

/-- The steps up to the insert of an id that is free. -/
def upToInsert (id : AccountId) : List (Exchange SqlStep.interface) :=
  upToFree id ++ [⟨.acquire, .ok ()⟩]

/-- After the lost id another one is asked for. The connection for its insert does not come in
time, and this is the end. -/
theorem registration_heeds_replies_lost :
    let s := facing [.count 0, .fault 1062 "23000" lostMessage, .count 0]
      [none, none, none, some .timedOut] [⟨"1000000001"⟩, ⟨"1000000002"⟩]
    let after := upToFree ⟨"1000000002"⟩ ++ [⟨.acquire, .error .timedOut⟩]
    (registering dialect .standard 3 default).transcript respond s =
        upToInsert ⟨"1000000001"⟩ ++ refusedInsert default ⟨"1000000001"⟩ :: after ∧
      BeginsGeneration after ∧
      ((Service.register 3 default).run (store .standard) s).value =
        .error (.connection "pool timed out while waiting for an open connection") := by
  intro s after
  have htranscript : (registering dialect .standard 3 default).transcript respond s =
      upToInsert ⟨"1000000001"⟩ ++ refusedInsert default ⟨"1000000001"⟩ :: after := rfl
  have hheeds := (registration_heeds_replies .standard 3 default).1 MySqlState respond s
  have hnext := hheeds.insert_refused _ _ _ _ _ _ htranscript
  have hlost : 1062 = 1062 ∧ DuplicateKey.ofMessage lostMessage = .accountId := by decide
  have hleft : (upToInsert ⟨"1000000001"⟩).countP isFree < max 1 3 := by decide
  rw [if_pos hlost, if_pos hleft] at hnext
  have hend := hheeds.disconnected
    (upToInsert ⟨"1000000001"⟩ ++ refusedInsert default ⟨"1000000001"⟩ :: upToFree ⟨"1000000002"⟩)
    ⟨.acquire, .error .timedOut⟩ .timedOut [] (htranscript.trans rfl) rfl rfl
  exact ⟨htranscript, hnext, hend.2⟩

/-- **The last id that is lost is not reported.**  The reply says that it is taken, and the
registration ends with the number of its attempts. -/
theorem last_lost_id_not_reported :
    ¬ ∀ (policy : RetryPolicy) (configured : Nat) (p : Profile) (s : MySqlState)
      (before after : List (Exchange SqlStep.interface)) (u : User) (number : Nat)
      (state message : String),
      (registering dialect policy configured p).transcript respond s =
        before ++ ⟨.perform (.insert u), .error (.database (.mysql number state message))⟩ ::
          after →
      ¬ (number = 1062 ∧ DuplicateKey.ofMessage message = .accountId ∧
        before.countP isFree < max 1 configured) →
      after = [] ∧ ((Service.register configured p).run (store policy) s).value =
        .error (errorOf number state message) := by
  intro hreported
  have htranscript : (registering dialect .standard 1 default).transcript respond
      (facing [.count 0, .fault 1062 "23000" lostMessage] [] [⟨"1000000001"⟩]) =
      upToInsert ⟨"1000000001"⟩ ++ [refusedInsert default ⟨"1000000001"⟩] := rfl
  have hvalue : ((Service.register 1 default).run (store .standard)
      (facing [.count 0, .fault 1062 "23000" lostMessage] [] [⟨"1000000001"⟩])).value =
      .error (.exhausted 1) := rfl
  have hlast : ¬ (1062 = 1062 ∧ DuplicateKey.ofMessage lostMessage = .accountId ∧
      (upToInsert ⟨"1000000001"⟩).countP isFree < max 1 1) := by decide
  obtain ⟨-, hend⟩ := hreported _ _ _ _ _ _ _ _ _ _ htranscript hlast
  rw [hvalue, errorOf, if_pos rfl] at hend
  cases hend

end MySqlStore

end AccountRegistry
