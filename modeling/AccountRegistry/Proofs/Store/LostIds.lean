/-
Ids that are lost between the check and the insert.

A registration loses an id when its insert is refused because of that id.

* **`MemoryStore.lostId`** — the id that a step has lost;
* **`exists_thief`** — a lost id has been inserted by another client since the check that
  found it free;
* **`lost_ids_nodup`** — no registration loses the same id twice;
* **`Ending`**, **`ending_of_reaches`** — the ways in which a registration ends;
* **`lost_ids_are_charged`** — each lost id is charged to a row of its own that another
  client has inserted meanwhile, so that a registration can lose all its rounds only to as
  many other rows.
-/
import AccountRegistry.Proofs.Store.Clients

namespace AccountRegistry

namespace MemoryStore

/-- The id that a step has lost. -/
def lostId : Exchange MemoryStep.interface → Option AccountId
  | ⟨.insert u, .error .accountId⟩ => some u.accountId
  | _ => none

/-- The step that loses the id of a row. -/
def losing (u : User) : Exchange MemoryStep.interface :=
  ⟨.insert u, .error .accountId⟩

/-- The step that finds an id free. -/
def freeCheck (id : AccountId) : Exchange MemoryStep.interface :=
  ⟨.taken id, false⟩

/-- The step that inserts a row. -/
def storing (u : User) : Exchange MemoryStep.interface :=
  ⟨.insert u, .ok ()⟩

theorem exists_losing_of_lostId {e : Exchange MemoryStep.interface} {id : AccountId}
    (he : lostId e = some id) : ∃ u, e = losing u ∧ u.accountId = id := by
  obtain ⟨q, a⟩ := e
  cases q with
  | draw => cases he
  | taken id => cases he
  | find n => cases he
  | insert u =>
    match a, he with
    | .error .accountId, he => exact ⟨u, rfl, Option.some.inj he⟩

theorem eq_storing_of_insertedRow {e : Exchange MemoryStep.interface} {u : User}
    (he : insertedRow e = some u) : e = storing u := by
  obtain ⟨q, a⟩ := e
  cases q with
  | draw => cases he
  | taken id => cases he
  | find n => cases he
  | insert v =>
    match a, he with
    | .ok (), he => rw [Option.some.inj he]; rfl

theorem eq_freeCheck_of_after {e : Exchange MemoryStep.interface} {id : AccountId}
    (he : Stage.after e = .holding id) : e = freeCheck id := by
  obtain ⟨q, a⟩ := e
  match q, a, he with
  | .taken id', false, he => rw [Stage.holding.inj he]; rfl
  | .taken _, true, he => cases he
  | .draw, _, he => cases he
  | .find _, _, he => cases he
  | .insert _, .ok (), he => cases he
  | .insert _, .error .accountId, he => cases he
  | .insert _, .error .username, he => cases he
  | .insert _, .error .unknown, he => cases he

theorem exists_freeCheck_of_insert {policy : RetryPolicy} {configured : Nat} {p : Profile}
    {es₁ es₂ : List (Exchange MemoryStep.interface)} {e : Exchange MemoryStep.interface}
    {d : Dialogue MemoryStep.interface (Except StoreError User)} {u : User}
    (hd : (registering policy configured p).Reaches (es₁ ++ e :: es₂) d)
    (he : e.question = .insert u) : ∃ es, es₁ = es ++ [freeCheck u.accountId] := by
  have hallowed := (kept_registering policy configured p).allowed_of_reaches hd
  rw [he] at hallowed
  obtain ⟨id, hφ, rfl⟩ := Stage.holding_of_allows hallowed
  obtain rfl | ⟨es, e', rfl⟩ := List.eq_nil_or_concat es₁
  · cases hφ
  · rw [List.concat_eq_append, foldl_conduct_concat] at hφ
    exact ⟨es, by rw [List.concat_eq_append, eq_freeCheck_of_after hφ]; rfl⟩

/-! ### Ids in a shared table -/

theorem hasId_of_losing {s : MemoryState} {u : User}
    (h : (step (.insert u) s).value = .error .accountId) :
    s.table.hasId u.accountId = true := by
  rcases step_insert_cases u s with ⟨-, -, hinsert⟩ | ⟨hid, -⟩ | ⟨-, -, hinsert⟩
  · rw [hinsert] at h
    cases h
  · exact hid
  · rw [hinsert] at h
    cases h

theorem hasId_foldl_add (us : List User) (t : MemoryTable) (a : AccountId) :
    (us.foldl MemoryTable.add t).hasId a = true ↔
      t.hasId a = true ∨ ∃ u ∈ us, u.accountId = a := by
  induction us generalizing t with
  | nil => simp
  | cons u us ih =>
    rw [List.foldl_cons, ih, MemoryTable.hasId_add]
    simp only [Bool.or_eq_true, decide_eq_true_eq, List.mem_cons, exists_eq_or_imp]
    tauto

variable {ι : Type} {s : MemoryState} {h : List (Deed ι MemoryStep.interface)}

theorem storing_mem_of_mem_inserted {j : ι} {v : User} (hv : (j, v) ∈ inserted h) :
    ⟨j, storing v⟩ ∈ h := by
  obtain ⟨⟨k, e⟩, hd, hrow⟩ := List.mem_filterMap.mp hv
  obtain ⟨w, hw, hpair⟩ := Option.map_eq_some_iff.mp hrow
  obtain ⟨rfl, rfl⟩ := Prod.mk.inj hpair
  rwa [show e = storing w from eq_storing_of_insertedRow hw] at hd

/-- After a history the ids of before are in use, and those that it has inserted. -/
theorem hasId_replay (hh : Truthful step s h) (a : AccountId) :
    (replay step s h).table.hasId a = true ↔
      s.table.hasId a = true ∨ ∃ p ∈ inserted h, p.2.accountId = a := by
  rw [table_replay hh, hasId_foldl_add]
  refine or_congr Iff.rfl ⟨?_, ?_⟩
  · rintro ⟨u, hu, ha⟩
    obtain ⟨p, hp, rfl⟩ := List.mem_map.mp hu
    exact ⟨p, hp, ha⟩
  · rintro ⟨p, hp, ha⟩
    exact ⟨p.2, List.mem_map.mpr ⟨p, hp, rfl⟩, ha⟩

variable [DecidableEq ι] {i : ι}

/-- **A lost id has been inserted by another client** since the check that found it free. -/
theorem exists_thief {u : User} {before later : List (Deed ι MemoryStep.interface)}
    {es : List (Exchange MemoryStep.interface)}
    (hh : Truthful step s (before ++ ⟨i, losing u⟩ :: later))
    (hown : own i before = es ++ [freeCheck u.accountId]) :
    ∃ earlier since, before = earlier ++ ⟨i, freeCheck u.accountId⟩ :: since ∧
      own i earlier = es ∧ (∀ d ∈ since, d.client ≠ i) ∧
      (replay step s earlier).table.hasId u.accountId = false ∧
      ∃ j v, j ≠ i ∧ ⟨j, storing v⟩ ∈ since ∧ v.accountId = u.accountId := by
  have hlost : (replay step s before).table.hasId u.accountId = true :=
    hasId_of_losing hh.answer_eq.symm
  obtain ⟨earlier, since, rfl, hes, hsince⟩ := exists_last_own hown
  rw [List.append_assoc, List.cons_append] at hh
  have hfree : (replay step s earlier).table.hasId u.accountId = false := hh.answer_eq.symm
  -- the id has come into use between the check and the insert
  have hlater : Truthful step (replay step s earlier) (⟨i, freeCheck u.accountId⟩ :: since) := by
    rw [← List.cons_append] at hh
    exact (truthful_append.mp (truthful_append.mp hh).2).1
  rw [replay_append, hasId_replay hlater, hfree] at hlost
  obtain hlost | ⟨⟨j, v⟩, hv, hid⟩ := hlost
  · cases hlost
  · have hmem : ⟨j, storing v⟩ ∈ since := storing_mem_of_mem_inserted hv
    exact ⟨earlier, since, rfl, hes, hsince, hfree, j, v, hsince _ hmem, hmem, hid⟩

/-- The ids that a client has lost. -/
def lostIds (i : ι) (h : List (Deed ι MemoryStep.interface)) : List AccountId :=
  (own i h).filterMap lostId

theorem lostIds_append (h h' : List (Deed ι MemoryStep.interface)) :
    lostIds i (h ++ h') = lostIds i h ++ lostIds i h' := by
  rw [lostIds, own_append, List.filterMap_append]
  rfl

theorem hasId_of_mem_lostIds (hh : Truthful step s h) {id : AccountId}
    (hid : id ∈ lostIds i h) : (replay step s h).table.hasId id = true := by
  obtain ⟨e, he, hlost⟩ := List.mem_filterMap.mp hid
  obtain ⟨u, rfl, rfl⟩ := exists_losing_of_lostId hlost
  obtain ⟨d, hd, hde⟩ := List.mem_map.mp he
  obtain ⟨before, later, rfl⟩ := List.append_of_mem (List.mem_filter.mp hd).1
  obtain ⟨j, e⟩ := d
  obtain rfl : e = losing u := hde
  have hthen := hasId_of_losing hh.answer_eq.symm
  rw [replay_append, hasId_replay (truthful_append.mp hh).2]
  exact .inl hthen

section Charges

variable {policy : RetryPolicy} {configured : Nat} {p : Profile}
  {d : Dialogue MemoryStep.interface (Except StoreError User)}

/-- An id that is lost has not been lost before: it would not have been found free. -/
theorem lost_id_is_new {u : User} (hh : Truthful step s (h ++ [⟨i, losing u⟩]))
    (hd : (registering policy configured p).Reaches (own i (h ++ [⟨i, losing u⟩])) d) :
    u.accountId ∉ lostIds i h := by
  rw [own_append, own_cons_self] at hd
  obtain ⟨es, hes⟩ := exists_freeCheck_of_insert hd rfl
  obtain ⟨earlier, since, rfl, -, hsince, hfree, -⟩ := exists_thief hh hes
  intro hmem
  rw [lostIds_append, lostIds, lostIds, own_cons_self, own_eq_nil.mpr hsince] at hmem
  -- the check came after the loss, and a lost id is in use from then on
  have hearlier : u.accountId ∈ lostIds i earlier := by
    simpa [lostIds, lostId, freeCheck] using hmem
  rw [List.append_assoc] at hh
  rw [hasId_of_mem_lostIds (truthful_append.mp hh).1 hearlier] at hfree
  cases hfree

/-- **No registration loses the same id twice.** -/
theorem lost_ids_nodup (hh : Truthful step s h)
    (hd : (registering policy configured p).Reaches (own i h) d) : (lostIds i h).Nodup := by
  induction h using List.reverseRecOn generalizing d with
  | nil => exact List.nodup_nil
  | append_singleton h deed ih =>
    obtain ⟨d', hd'⟩ := (own_append i h [deed] ▸ hd).of_append
    have hnodup := ih (truthful_append.mp hh).1 hd'
    rw [lostIds_append]
    obtain ⟨j, e⟩ := deed
    by_cases hij : j = i
    · -- only a deed of the client itself adds to its losses
      subst hij
      cases hlost : lostId e with
      | none => simpa [lostIds, own, hlost] using hnodup
      | some id =>
        obtain ⟨u, rfl, rfl⟩ := exists_losing_of_lostId hlost
        have hsingle : lostIds j [⟨j, losing u⟩] = [u.accountId] := by
          simp [lostIds, own, hlost]
        rw [hsingle]
        exact List.nodup_append.mpr ⟨hnodup, List.nodup_singleton _, fun a ha b hb hab =>
          lost_id_is_new hh hd (hab.trans (List.mem_singleton.mp hb) ▸ ha)⟩
    · have hnone : lostIds i [⟨j, e⟩] = [] := by
        simp [lostIds, own, hij]
      rw [hnone, List.append_nil]
      exact hnodup

/-- The rows that other clients have inserted. -/
def insertedByOthers (i : ι) (h : List (Deed ι MemoryStep.interface)) : List (ι × User) :=
  (inserted h).filter (·.1 ≠ i)

theorem lostIds_subset (hh : Truthful step s h)
    (hd : (registering policy configured p).Reaches (own i h) d) :
    lostIds i h ⊆ (insertedByOthers i h).map (·.2.accountId) := by
  intro id hid
  obtain ⟨e, he, hlost⟩ := List.mem_filterMap.mp hid
  obtain ⟨u, rfl, rfl⟩ := exists_losing_of_lostId hlost
  obtain ⟨⟨j, e⟩, hdeed, hde⟩ := List.mem_map.mp he
  obtain ⟨hmem, hj⟩ := List.mem_filter.mp hdeed
  obtain rfl : e = losing u := hde
  obtain rfl : j = i := of_decide_eq_true hj
  obtain ⟨before, later, rfl⟩ := List.append_of_mem hmem
  rw [own_append, own_cons_self] at hd
  obtain ⟨es, hes⟩ := exists_freeCheck_of_insert hd rfl
  obtain ⟨earlier, since, rfl, -, -, -, k, v, hk, hv, hid⟩ := exists_thief hh hes
  have hrow : (k, v) ∈ inserted
      ((earlier ++ ⟨j, freeCheck u.accountId⟩ :: since) ++ ⟨j, losing u⟩ :: later) :=
    List.mem_filterMap.mpr ⟨⟨k, storing v⟩, by simp [hv], rfl⟩
  exact List.mem_map.mpr ⟨(k, v), List.mem_filter.mpr ⟨hrow, by simpa using hk⟩, hid⟩

/-- **There are at least as many rows of other clients as lost ids.** -/
theorem length_lostIds_le (hh : Truthful step s h)
    (hd : (registering policy configured p).Reaches (own i h) d) :
    (lostIds i h).length ≤ (insertedByOthers i h).length := by
  have hsubperm := List.subperm_of_subset (lost_ids_nodup hh hd) (lostIds_subset hh hd)
  simpa using hsubperm.length_le

end Charges

/-! ### How a registration ends -/

/-- Whether a step is an insert. -/
def isInsert : Exchange MemoryStep.interface → Bool
  | ⟨.insert _, _⟩ => true
  | _ => false

/-- The ways in which the last `rounds` rounds of a registration end, whose exhaustion is
told as that of `total` rounds. -/
inductive Ending (policy : RetryPolicy) (total rounds : Nat)
    (es : List (Exchange MemoryStep.interface)) : Except StoreError User → Prop
  | registered (u : User) : Ending policy total rounds es (.ok u)
  /-- The last insert has been refused, and not for its id. -/
  | refused {es' : List (Exchange MemoryStep.interface)} {u : User} {key : DuplicateKey}
      (hes : es = es' ++ [⟨.insert u, .error key⟩]) (hkey : key ≠ .accountId) :
      Ending policy total rounds es (.error (.duplicate key))
  /-- The last generation has failed. -/
  | notGenerated {es' gen : List (Exchange MemoryStep.interface)} {e : StoreError}
      (hes : es = es' ++ gen)
      (hgen : (call policy .generate).Reaches gen (.done (.error e))) :
      Ending policy total rounds es (.error e)
  /-- Every round has inserted, and every insert has lost its id. -/
  | allLost (hinserts : (es.filter isInsert).length = rounds)
      (hlost : (es.filterMap lostId).length = rounds) :
      Ending policy total rounds es (.error (.exhausted total))

theorem asks_generate (policy : RetryPolicy) :
    (call policy .generate).Asks fun q : MemoryStep => ∀ u, q ≠ .insert u := by
  refine Dialogue.asks_via (fun q => ?_) policy.generate
  cases q with
  | draw => exact ⟨fun u => by simp, fun a => trivial⟩
  | check id => exact ⟨fun u => by simp, fun a => trivial⟩

/-- One more round before the others, which has lost its id. -/
theorem Ending.of_lost {policy : RetryPolicy} {total rounds : Nat}
    {gen es : List (Exchange MemoryStep.interface)} {u : User} {r : Except StoreError User}
    {d : Dialogue MemoryStep.interface (Except StoreError AccountId)}
    (hgen : (call policy .generate).Reaches gen d) (h : Ending policy total rounds es r) :
    Ending policy total (rounds + 1) (gen ++ losing u :: es) r := by
  cases h with
  | registered v => exact .registered v
  | refused hes hkey =>
    rw [hes, ← List.cons_append, ← List.append_assoc]
    exact .refused rfl hkey
  | notGenerated hes hgen' =>
    rw [hes, ← List.cons_append, ← List.append_assoc]
    exact .notGenerated rfl hgen'
  | allLost hinserts hlost =>
    -- the generation itself neither inserts nor loses an id
    have hno := (asks_generate policy).of_reaches hgen
    have hnoInsert : gen.filter isInsert = [] := by
      refine List.filter_eq_nil_iff.mpr fun e he => ?_
      obtain ⟨q, a⟩ := e
      cases q with
      | insert v => exact absurd rfl (hno _ he v)
      | draw => simp [isInsert]
      | taken id => simp [isInsert]
      | find n => simp [isInsert]
    have hnoLost : gen.filterMap lostId = [] := by
      refine List.filterMap_eq_nil_iff.mpr fun e he => ?_
      obtain ⟨q, a⟩ := e
      cases q with
      | insert v => exact absurd rfl (hno _ he v)
      | draw => rfl
      | taken id => rfl
      | find n => rfl
    refine .allLost ?_ ?_
    · rw [List.filter_append, hnoInsert, List.filter_cons_of_pos rfl, List.nil_append,
        List.length_cons, hinserts]
    · rw [List.filterMap_append, hnoLost, List.nil_append,
        List.filterMap_cons_some (show lostId (losing u) = some u.accountId from rfl),
        List.length_cons, hlost]

theorem ending_of_reaches_rounds {policy : RetryPolicy} {p : Profile}
    {total left attempt : Nat} {es : List (Exchange MemoryStep.interface)}
    {r : Except StoreError User}
    (hd : ((Service.rounds p total left attempt).via (call policy)).Reaches es (.done r)) :
    Ending policy total left es r := by
  induction left generalizing attempt es with
  | zero =>
    cases hd with
    | refl => exact .allLost rfl rfl
  | succ left ih =>
    -- a round is a generation and an insert, and only a lost id leads to the next one
    obtain ⟨gen, es₂, a, rfl, hgen, hd⟩ := Dialogue.reaches_bind_done hd
    cases a with
    | error e =>
      cases hd with
      | refl => exact .notGenerated (show gen ++ [] = [] ++ gen by simp) hgen
    | ok id =>
      cases hd with
      | ask added hd =>
        match added with
        | .ok () =>
          cases hd with
          | note hd =>
            cases hd with
            | note hd =>
              cases hd with
              | refl => exact .registered _
        | .error .accountId =>
          cases hd with
          | note hd => exact (ih hd).of_lost hgen
        | .error .username =>
          cases hd with
          | refl => exact .refused rfl (by simp)
        | .error .unknown =>
          cases hd with
          | refl => exact .refused rfl (by simp)

/-! ### Charges -/

/-- Whether a registration has ended with the error of its last generation. -/
def GenerationFailed (policy : RetryPolicy) (es : List (Exchange MemoryStep.interface))
    (r : Except StoreError User) : Prop :=
  ∃ es' gen e, es = es' ++ gen ∧ (call policy .generate).Reaches gen (.done (.error e)) ∧
    r = .error e

variable {ι : Type} [DecidableEq ι]

/-- What the ids that clients have lost are charged to; `rounds` are the inserts that each
client may try. -/
structure LossesCharged (policy : RetryPolicy) (rounds : ι → Nat)
    (c : Configuration ι MemoryStep.interface MemoryState (Except StoreError User)) : Prop where
  /-- Another client has inserted the id between the check and the insert. -/
  thief : ∀ i u before later, c.history = before ++ ⟨i, losing u⟩ :: later →
    ∃ earlier since, before = earlier ++ ⟨i, freeCheck u.accountId⟩ :: since ∧
      (∀ d ∈ since, d.client ≠ i) ∧
      ∃ j v, j ≠ i ∧ ⟨j, storing v⟩ ∈ since ∧ v.accountId = u.accountId
  nodup : ∀ i, (lostIds i c.history).Nodup
  ending : ∀ i r, c.result i = some r →
    (∃ u, r = .ok u) ∨ r = .error (.duplicate .username) ∨
      GenerationFailed policy (own i c.history) r ∨
      (r = .error (.exhausted (rounds i)) ∧
        ((own i c.history).filter isInsert).length = rounds i ∧
        (lostIds i c.history).length = rounds i)
  /-- All rounds can be lost only to as many rows of others, inserted while the client ran. -/
  all_lost : ∀ i before during later, c.history = before ++ during ++ later →
    own i before = [] → own i later = [] → (lostIds i c.history).length = rounds i →
    rounds i ≤ (insertedByOthers i during).length
  few_rivals : ∀ i r before during later, c.history = before ++ during ++ later →
    own i before = [] → own i later = [] → c.result i = some r →
    (insertedByOthers i during).length < rounds i →
    (∃ u, r = .ok u) ∨ r = .error (.duplicate .username) ∨
      GenerationFailed policy (own i c.history) r

theorem value_insert_ne_unknown (u : User) (s : MemoryState) :
    (step (.insert u) s).value ≠ .error .unknown := by
  rcases step_insert_cases u s with ⟨-, -, h⟩ | ⟨-, h⟩ | ⟨-, -, h⟩
  · simp [h]
  · simp [h]
  · simp [h]

section Configurations

variable {policy : RetryPolicy} {configured : ι → Nat} {profile : ι → Profile}
  {s : MemoryState} {c : Configuration ι MemoryStep.interface MemoryState (Except StoreError User)}

theorem result_cases
    (hc : Sound step s (fun i => registering policy (configured i) (profile i)) c) {i : ι}
    {r : Except StoreError User} (hr : c.result i = some r) :
    (∃ u, r = .ok u) ∨ r = .error (.duplicate .username) ∨
      GenerationFailed policy (own i c.history) r ∨
      (r = .error (.exhausted (Service.bound (configured i))) ∧
        ((own i c.history).filter isInsert).length = Service.bound (configured i) ∧
        (lostIds i c.history).length = Service.bound (configured i)) := by
  have hd := hc.reaches i
  rw [Configuration.result_eq_some.mp hr] at hd
  cases ending_of_reaches_rounds hd with
  | registered u => exact .inl ⟨u, rfl⟩
  | @refused es' u key hes hkey =>
    refine .inr (.inl ?_)
    -- the answer is that of the shared table, which knows both keys
    obtain ⟨before, since, hhistory, -⟩ := exists_last_own hes
    have htruth := hc.truthful
    rw [hhistory] at htruth
    have hvalue : (.error key : Except DuplicateKey Unit) = _ := htruth.answer_eq
    cases key with
    | accountId => exact absurd rfl hkey
    | username => rfl
    | unknown => exact absurd hvalue.symm (value_insert_ne_unknown u _)
  | notGenerated hes hgen => exact .inr (.inr (.inl ⟨_, _, _, hes, hgen, rfl⟩))
  | allLost hinserts hlost => exact .inr (.inr (.inr ⟨rfl, hinserts, hlost⟩))

/-- The ids that a client has lost are no more than the rows that others have inserted in
any stretch that holds all that the client has done. -/
theorem length_lostIds_le_during
    (hc : Sound step s (fun i => registering policy (configured i) (profile i)) c) {i : ι}
    {before during later : List (Deed ι MemoryStep.interface)}
    (hsplit : c.history = before ++ during ++ later) (hbefore : own i before = [])
    (hlater : own i later = []) :
    (lostIds i c.history).length ≤ (insertedByOthers i during).length := by
  have hown : own i c.history = own i during := by
    rw [hsplit, own_append, own_append, hbefore, hlater, List.nil_append, List.append_nil]
  have htruth := hc.truthful
  rw [hsplit] at htruth
  have hd := hc.reaches i
  rw [hown] at hd
  rw [lostIds, hown]
  exact length_lostIds_le (truthful_append.mp (truthful_append.mp htruth).1).2 hd

end Configurations

/-- **Each lost id is charged to a row of its own that another client has inserted
meanwhile.**  So a registration loses all its rounds only to as many rows of others, and
with fewer of them it ends with its user, with its username taken, or with an error of a
generation; and it does end once it has been given enough moves. -/
theorem lost_ids_are_charged (policy : RetryPolicy) (configured : ι → Nat)
    (profile : ι → Profile) (s : MemoryState) :
    (∀ schedule, LossesCharged policy (fun i => Service.bound (configured i))
      (registrations policy configured profile s schedule)) ∧
    ∀ i, ∃ n, ∀ schedule : List ι, n ≤ schedule.count i →
      ∃ r, (registrations policy configured profile s schedule).result i = some r := by
  refine ⟨fun schedule => ?_, fun i => ⟨_, fun schedule hn =>
    result_of_count (within_registering policy (configured i) (profile i)) hn⟩⟩
  have hc := sound_registrations policy configured profile s schedule
  generalize registrations policy configured profile s schedule = c at hc
  refine ⟨?_, fun i => lost_ids_nodup hc.truthful (hc.reaches i),
    fun i r hr => result_cases hc hr, ?_, ?_⟩
  · intro i u before later hhistory
    have htruth := hc.truthful
    have hd := hc.reaches i
    rw [hhistory] at htruth hd
    rw [own_append, own_cons_self] at hd
    obtain ⟨es, hes⟩ := exists_freeCheck_of_insert hd rfl
    obtain ⟨earlier, since, hbefore, -, hsince, -, hthief⟩ := exists_thief htruth hes
    exact ⟨earlier, since, hbefore, hsince, hthief⟩
  · intro i before during later hsplit hbefore hlater hall
    rw [← hall]
    exact length_lostIds_le_during hc hsplit hbefore hlater
  · intro i r before during later hsplit hbefore hlater hr hfew
    have hlost := length_lostIds_le_during hc hsplit hbefore hlater
    obtain h | h | h | ⟨-, -, hall⟩ := result_cases hc hr
    · exact .inl h
    · exact .inr (.inl h)
    · exact .inr (.inr h)
    · omega

end MemoryStore

end AccountRegistry
