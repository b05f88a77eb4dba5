/-
Registrations that share one store in memory.

Each client runs a registration of its own profile, and their atomic steps are interleaved
by a schedule.

* **`MemoryStore.inserted`** — the rows that a history has inserted, each with its client;
* **`table_replay`** — the table after a history: that before it and the inserted rows;
* **`count_inserted_le_one`** — a client inserts at most one row;
* **`concurrent_registrations`** — in every configuration the users handed out have ids and
  usernames of their own, and the table is the initial one with one row for each client
  whose insert has worked.

The check of an id and the insert are different steps, so that two clients can hold the
same free id.  What keeps them apart is the insert alone.
-/
import AccountRegistry.Proofs.Interleaving
import AccountRegistry.Proofs.Store.MemoryStore
import AccountRegistry.Proofs.Store.Registration

namespace AccountRegistry

namespace MemoryStore

variable {ι : Type}

/-- The rows that a history has inserted, each with its client. -/
def inserted (h : List (Deed ι MemoryStep.interface)) : List (ι × User) :=
  h.filterMap fun d => (insertedRow d.exchange).map (d.client, ·)

theorem inserted_append (h h' : List (Deed ι MemoryStep.interface)) :
    inserted (h ++ h') = inserted h ++ inserted h' :=
  List.filterMap_append

/-! ### The table after a history -/

/-- A step changes the table only by the row that it inserts. -/
theorem table_step_eq (q : MemoryStep) (s : MemoryState) :
    (step q s).state.table =
      (insertedRow ⟨q, (step q s).value⟩).elim s.table s.table.add := by
  cases q with
  | draw => rfl
  | taken id => rfl
  | find n => rfl
  | insert u =>
    rcases step_insert_cases u s with ⟨-, -, h⟩ | ⟨-, h⟩ | ⟨-, -, h⟩
    · rw [h]
      rfl
    · rw [h]
      rfl
    · rw [h]
      rfl

/-- The table after a history has the inserted rows besides those before it. -/
theorem table_replay {s : MemoryState} {h : List (Deed ι MemoryStep.interface)}
    (hh : Truthful step s h) :
    (replay step s h).table = ((inserted h).map Prod.snd).foldl MemoryTable.add s.table := by
  induction h generalizing s with
  | nil => rfl
  | cons d h ih =>
    obtain ⟨i, q, a⟩ := d
    obtain ⟨ha, hh⟩ := hh
    obtain rfl : a = (step q s).value := ha
    show (replay step (step q s).state h).table = _
    -- the first deed inserts its row, if any, before the others
    rw [ih hh, table_step_eq]
    show _ = (List.map Prod.snd (List.filterMap _ _)).foldl MemoryTable.add s.table
    rw [List.filterMap_cons]
    cases insertedRow ⟨q, (step q s).value⟩ with
    | none => rfl
    | some u => rfl

theorem rows_foldl_add (us : List User) (t : MemoryTable) :
    (us.foldl MemoryTable.add t).rows = us.reverse ++ t.rows := by
  induction us generalizing t with
  | nil => rfl
  | cons u us ih =>
    rw [List.foldl_cons, ih, MemoryTable.rows_add, List.reverse_cons, List.append_assoc]
    rfl

theorem consistent_replay {s : MemoryState} (hs : s.table.Consistent)
    (h : List (Deed ι MemoryStep.interface)) : (replay step s h).table.Consistent := by
  induction h generalizing s with
  | nil => exact hs
  | cons d h ih => exact ih (step_consistent d.exchange.question s hs)

/-- Rows of which no two agree in `f`, split into those of clients and those before them. -/
theorem distinct_of_nodup {κ : Type} {f : User → κ} {ps : List (ι × User)} {us : List User}
    (h : (((ps.map Prod.snd).reverse ++ us).map f).Nodup) :
    (∀ p ∈ ps, ∀ p' ∈ ps, f p.2 = f p'.2 → p = p') ∧ ∀ p ∈ ps, ∀ u ∈ us, f u ≠ f p.2 := by
  rw [List.map_append, List.map_reverse, List.map_map, List.nodup_append] at h
  obtain ⟨hps, -, hdisjoint⟩ := h
  refine ⟨fun p hp p' hp' hf => ?_, fun p hp u hu hf => ?_⟩
  · exact List.inj_on_of_nodup_map (List.nodup_reverse.mp hps) hp hp' hf
  · exact hdisjoint (f p.2) (List.mem_reverse.mpr (List.mem_map.mpr ⟨p, hp, rfl⟩)) (f u)
      (List.mem_map.mpr ⟨u, hu, rfl⟩) hf.symm

/-! ### The rows of one client -/

variable [DecidableEq ι]

theorem mem_inserted_iff {i : ι} {u : User} {h : List (Deed ι MemoryStep.interface)} :
    (i, u) ∈ inserted h ↔ u ∈ (own i h).filterMap insertedRow := by
  simp only [inserted, own, List.mem_filterMap, List.mem_map, List.mem_filter,
    Option.map_eq_some_iff, Prod.mk.injEq, decide_eq_true_eq]
  constructor
  · rintro ⟨d, hd, u, hu, rfl, rfl⟩
    exact ⟨d.exchange, ⟨d, ⟨hd, rfl⟩, rfl⟩, hu⟩
  · rintro ⟨_, ⟨d, ⟨hd, rfl⟩, rfl⟩, hu⟩
    exact ⟨d, hd, u, hu, rfl, rfl⟩

theorem count_inserted (i : ι) (h : List (Deed ι MemoryStep.interface)) :
    ((inserted h).map Prod.fst).count i = ((own i h).filterMap insertedRow).length := by
  induction h with
  | nil => rfl
  | cons d h ih =>
    obtain ⟨j, e⟩ := d
    rw [← List.singleton_append, inserted_append, own_append, List.map_append,
      List.count_append, ih, List.filterMap_append, List.length_append]
    congr 1
    by_cases hij : j = i
    · subst hij
      rw [own_cons_self]
      cases he : insertedRow e <;> simp [inserted, own, he]
    · rw [own_cons_of_ne hij]
      cases he : insertedRow e <;> simp [inserted, own, he, hij]

section Shared

variable {policy : RetryPolicy} {configured : ι → Nat} {profile : ι → Profile}
  {s : MemoryState} {c : Configuration ι MemoryStep.interface MemoryState (Except StoreError User)}

theorem inserted_clients_nodup
    (hc : Sound step s (fun i => registering policy (configured i) (profile i)) c) :
    ((inserted c.history).map Prod.fst).Nodup := by
  refine List.nodup_iff_count_le_one.mpr fun i => ?_
  rw [count_inserted]
  obtain hnone | ⟨es, e, u, hes, hu, hnone⟩ := stored_of_reaches (hc.reaches i)
  · simp [hnone]
  · simp [hes, List.filterMap_append, hnone, hu]

theorem eq_withId_of_mem_inserted
    (hc : Sound step s (fun i => registering policy (configured i) (profile i)) c)
    {i : ι} {u : User} (hu : (i, u) ∈ inserted c.history) : ∃ id, u = (profile i).withId id := by
  obtain ⟨e, he, heu⟩ := List.mem_filterMap.mp (mem_inserted_iff.mp hu)
  exact eq_withId_of_stored (hc.reaches i) he heu

/-- A client that has its result has inserted exactly the user that it returns. -/
theorem mem_inserted_iff_result
    (hc : Sound step s (fun i => registering policy (configured i) (profile i)) c)
    {i : ι} {r : Except StoreError User} (hr : c.result i = some r) (u : User) :
    (i, u) ∈ inserted c.history ↔ r = .ok u := by
  have hd := hc.reaches i
  rw [Configuration.result_eq_some.mp hr] at hd
  rw [mem_inserted_iff]
  exact result_iff_stored hd

theorem rows_of_sound
    (hc : Sound step s (fun i => registering policy (configured i) (profile i)) c) :
    c.state.table.rows = ((inserted c.history).map Prod.snd).reverse ++ s.table.rows := by
  rw [hc.state, table_replay hc.truthful, rows_foldl_add]

end Shared

/-! ### Clients are kept apart -/

/-- Registrations of several clients, after the moves of a schedule. -/
def registrations (policy : RetryPolicy) (configured : ι → Nat) (profile : ι → Profile)
    (s : MemoryState) (schedule : List ι) :
    Configuration ι MemoryStep.interface MemoryState (Except StoreError User) :=
  (Configuration.start s fun i => registering policy (configured i) (profile i)).play step
    schedule

theorem sound_registrations (policy : RetryPolicy) (configured : ι → Nat)
    (profile : ι → Profile) (s : MemoryState) (schedule : List ι) :
    Sound step s (fun i => registering policy (configured i) (profile i))
      (registrations policy configured profile s schedule) :=
  sound_play step s _ schedule

/-- The clients that share a store are kept apart. -/
structure KeptApart (t : MemoryTable) (profile : ι → Profile)
    (c : Configuration ι MemoryStep.interface MemoryState (Except StoreError User)) : Prop where
  consistent : c.state.table.Consistent
  /-- The table is the initial one and the rows that have been inserted. -/
  rows : c.state.table.rows = ((inserted c.history).map Prod.snd).reverse ++ t.rows
  one_each : ((inserted c.history).map Prod.fst).Nodup
  own_profile : ∀ i u, (i, u) ∈ inserted c.history → ∃ id, u = (profile i).withId id
  /-- A client that has ended has inserted exactly the user that it returns, and none if it
  returns an error. -/
  returned : ∀ i r, c.result i = some r → ∀ u, (i, u) ∈ inserted c.history ↔ r = .ok u
  distinct : ∀ i j u v, i ≠ j → c.result i = some (.ok u) → c.result j = some (.ok v) →
    u.accountId ≠ v.accountId ∧ u.username ≠ v.username
  unused : ∀ i u, c.result i = some (.ok u) →
    ∀ v ∈ t.rows, v.accountId ≠ u.accountId ∧ v.username ≠ u.username
  /-- Of the clients that share a username at most one inserts a row. -/
  one_name : ∀ i j u v, (i, u) ∈ inserted c.history → (j, v) ∈ inserted c.history →
    (profile i).username = (profile j).username → i = j

/-- **Registrations that share a store are kept apart, whatever the schedule.** -/
theorem concurrent_registrations (policy : RetryPolicy) (configured : ι → Nat)
    (profile : ι → Profile) (source : CandidateSource) (t : MemoryTable) (ht : t.Consistent)
    (schedule : List ι) :
    KeptApart t profile (registrations policy configured profile ⟨t, source⟩ schedule) := by
  have hc := sound_registrations policy configured profile ⟨t, source⟩ schedule
  generalize registrations policy configured profile ⟨t, source⟩ schedule = c at hc
  have hconsistent : c.state.table.Consistent := by
    rw [hc.state]
    exact consistent_replay ht c.history
  -- keys of the table are distinct, and so are those of the rows that the clients inserted
  have hrows := rows_of_sound hc
  have hids := distinct_of_nodup (hrows ▸ hconsistent.rows_ids_nodup)
  have hnames := distinct_of_nodup (hrows ▸ hconsistent.rows_names_nodup)
  have hreturned : ∀ i u, c.result i = some (.ok u) → (i, u) ∈ inserted c.history :=
    fun i u hi => (mem_inserted_iff_result hc hi u).mpr rfl
  refine ⟨hconsistent, hrows, inserted_clients_nodup hc,
    fun i u hu => eq_withId_of_mem_inserted hc hu,
    fun i r hr => mem_inserted_iff_result hc hr, ?_, ?_, ?_⟩
  · intro i j u v hij hi hj
    constructor
    · intro h
      exact hij (congrArg Prod.fst (hids.1 _ (hreturned i u hi) _ (hreturned j v hj) h))
    · intro h
      exact hij (congrArg Prod.fst (hnames.1 _ (hreturned i u hi) _ (hreturned j v hj) h))
  · intro i u hi v hv
    exact ⟨hids.2 _ (hreturned i u hi) v hv, hnames.2 _ (hreturned i u hi) v hv⟩
  · intro i j u v hi hj hname
    obtain ⟨a, rfl⟩ := eq_withId_of_mem_inserted hc hi
    obtain ⟨b, rfl⟩ := eq_withId_of_mem_inserted hc hj
    exact congrArg Prod.fst (hnames.1 _ hi _ hj hname)

/-! ### A race -/

/-- A profile of which only the username matters. -/
def newcomer (username : String) : Profile :=
  { (default : Profile) with username }

/-- The table in which only alice is registered. -/
def contested : MemoryTable :=
  MemoryTable.empty.add ((newcomer "alice").withId ⟨"1000000000"⟩)

/-- The clients of a race: bob and carol, and another alice. -/
def racer : Fin 3 → Profile
  | 0 => newcomer "bob"
  | 1 => newcomer "carol"
  | 2 => newcomer "alice"

/-- A race: bob and carol draw and check the same id before either of them inserts. -/
def race : Configuration (Fin 3) MemoryStep.interface MemoryState (Except StoreError User) :=
  registrations (.immediate 8) (fun _ => 3) racer
    ⟨contested, .scripted [⟨"1000000001"⟩, ⟨"1000000001"⟩, ⟨"1000000002"⟩, ⟨"1000000003"⟩] id⟩
    ([0, 0, 1, 1, 0, 1, 0, 1] ++ List.replicate 3 0 ++ List.replicate 8 1 ++ List.replicate 6 2)

theorem concurrent_registrations_race :
    contested.Consistent ∧
    race.result 0 = some (.ok ((newcomer "bob").withId ⟨"1000000001"⟩)) ∧
    race.result 1 = some (.ok ((newcomer "carol").withId ⟨"1000000002"⟩)) ∧
    race.result 2 = some (.error (.duplicate .username)) ∧
    KeptApart contested racer race :=
  have hcontested : contested.Consistent := MemoryTable.consistent_empty.add rfl rfl
  ⟨hcontested, rfl, rfl, rfl, concurrent_registrations _ _ racer _ contested hcontested _⟩

end MemoryStore

end AccountRegistry
