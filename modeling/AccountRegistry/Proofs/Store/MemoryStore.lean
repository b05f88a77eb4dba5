/-
The store in memory over any sequence of calls.

* **`MemoryStore.step_consistent`**, **`MemoryStore.rows_suffix_step`** — a step keeps the
  two maps inverse to each other, and never changes or removes a row;
* **`store_add_of_free`**, **`store_add_of_refused`**, **`store_get`**,
  **`table_store_generate`** — what each operation does;
* **`reachable_memory_store`** — the state after any calls on the empty store: its maps,
  what every operation answers in it, and that a row once found is found ever after.
-/
import AccountRegistry.Proofs.Dialogue
import AccountRegistry.Proofs.Store.MemoryTable

namespace AccountRegistry

/-! ### Sequences of calls -/

namespace Store

variable {σ : Type}

/-- The state that some calls leave. -/
def after (S : Store σ) (s : σ) (calls : List StoreCall) : σ :=
  calls.foldl (fun s q => (S q s).state) s

/-- Whether a call has inserted a row. -/
def hasInserted : (q : StoreCall) → StoreCall.interface.Answer q → Bool
  | .add _, .ok _ => true
  | _, _ => false

/-- How many of some calls have inserted a row. -/
def insertCount (S : Store σ) : σ → List StoreCall → Nat
  | _, [] => 0
  | s, q :: calls =>
    (if hasInserted q (S q s).value then 1 else 0) + insertCount S (S q s).state calls

/-- What every call preserves, every sequence of calls preserves. -/
theorem after_preserves (P : σ → Prop) {S : Store σ} (hcall : ∀ q s, P s → P (S q s).state)
    {s : σ} (hs : P s) (calls : List StoreCall) : P (after S s calls) := by
  induction calls generalizing s with
  | nil => exact hs
  | cons q calls ih => exact ih (hcall q s hs)

end Store

namespace MemoryStore

/-! ### Steps -/

theorem step_insert_of_free {s : MemoryState} {u : User}
    (hid : s.table.hasId u.accountId = false) (hname : s.table.hasName u.username = false) :
    step (.insert u) s = ⟨.ok (), { s with table := s.table.add u }, []⟩ := by
  rw [step, MemoryTable.insert_of_free hid hname]

theorem step_insert_of_refused {s : MemoryState} {u : User} {key : DuplicateKey}
    (h : s.table.insert u = .error key) : step (.insert u) s = ⟨.error key, s, []⟩ := by
  rw [step, h]

/-- An insert as a step, in three cases. -/
theorem step_insert_cases (u : User) (s : MemoryState) :
    (s.table.hasId u.accountId = false ∧ s.table.hasName u.username = false ∧
      step (.insert u) s = ⟨.ok (), { s with table := s.table.add u }, []⟩) ∨
    (s.table.hasId u.accountId = true ∧ step (.insert u) s = ⟨.error .accountId, s, []⟩) ∨
    (s.table.hasId u.accountId = false ∧ s.table.hasName u.username = true ∧
      step (.insert u) s = ⟨.error .username, s, []⟩) := by
  rcases s.table.insert_cases u with ⟨hid, hname, -⟩ | ⟨hid, h⟩ | ⟨hid, hname, h⟩
  · exact .inl ⟨hid, hname, step_insert_of_free hid hname⟩
  · exact .inr (.inl ⟨hid, step_insert_of_refused h⟩)
  · exact .inr (.inr ⟨hid, hname, step_insert_of_refused h⟩)

/-- The table after a step: that before it, or with one more row whose keys are new. -/
theorem table_step (q : MemoryStep) (s : MemoryState) :
    (step q s).state.table = s.table ∨
    ∃ u, q = .insert u ∧ s.table.hasId u.accountId = false ∧
      s.table.hasName u.username = false ∧ (step q s).state.table = s.table.add u := by
  cases q with
  | draw => exact .inl rfl
  | taken id => exact .inl rfl
  | find n => exact .inl rfl
  | insert u =>
    rcases step_insert_cases u s with ⟨hid, hname, h⟩ | ⟨-, h⟩ | ⟨-, -, h⟩
    · exact .inr ⟨u, rfl, hid, hname, by rw [h]⟩
    · exact .inl (by rw [h])
    · exact .inl (by rw [h])

theorem step_consistent (q : MemoryStep) (s : MemoryState) (hs : s.table.Consistent) :
    (step q s).state.table.Consistent := by
  obtain h | ⟨u, -, hid, hname, h⟩ := table_step q s
  · rwa [h]
  · rw [h]
    exact hs.add hid hname

theorem rows_suffix_step (q : MemoryStep) (s : MemoryState) :
    s.table.rows <:+ (step q s).state.table.rows := by
  obtain h | ⟨u, -, -, -, h⟩ := table_step q s
  · exact ⟨[], congrArg MemoryTable.rows h.symm⟩
  · rw [h]
    exact List.suffix_cons u s.table.rows

/-! ### Operations -/

variable (policy : RetryPolicy)

theorem store_add_of_free {s : MemoryState} {u : User}
    (hid : s.table.hasId u.accountId = false) (hname : s.table.hasName u.username = false) :
    store policy (.add u) s =
      ⟨.ok (), { s with table := s.table.add u }, [added u.username]⟩ := by
  show Dialogue.run step (call policy (.add u)) s = _
  rw [call, Dialogue.run, step_insert_of_free hid hname]
  rfl

theorem store_add_of_refused {s : MemoryState} {u : User} {key : DuplicateKey}
    (h : s.table.insert u = .error key) :
    store policy (.add u) s = ⟨.error (.duplicate key), s, []⟩ := by
  show Dialogue.run step (call policy (.add u)) s = _
  rw [call, Dialogue.run, step_insert_of_refused h]
  rfl

theorem store_get (n : String) (s : MemoryState) :
    store policy (.get n) s =
      ⟨.ok (s.table.find? n), s, [fetched n (s.table.find? n).isSome]⟩ := rfl

/-- A generation only draws and checks. -/
theorem table_store_generate (s : MemoryState) :
    (store policy .generate s).state.table = s.table := by
  show ((policy.generate.via trial).run step s).state.table = s.table
  rw [Dialogue.run_via]
  refine Dialogue.run_preserves (fun s' : MemoryState => s'.table = s.table)
    (fun q s' h => ?_) policy.generate rfl
  cases q with
  | draw => exact h
  | check id => exact h

theorem store_consistent (q : StoreCall) (s : MemoryState) (hs : s.table.Consistent) :
    (store policy q s).state.table.Consistent :=
  Dialogue.run_preserves (fun s' : MemoryState => s'.table.Consistent) step_consistent
    (call policy q) hs

theorem rows_suffix_store (q : StoreCall) (s : MemoryState) :
    s.table.rows <:+ (store policy q s).state.table.rows :=
  Dialogue.run_preserves (fun s' : MemoryState => s.table.rows <:+ s'.table.rows)
    (fun q s' h => h.trans (rows_suffix_step q s')) (call policy q) (List.suffix_refl _)

/-- A call makes the table larger by one exactly when it has inserted a row. -/
theorem size_store (q : StoreCall) (s : MemoryState) :
    (store policy q s).state.table.size =
      s.table.size + if Store.hasInserted q (store policy q s).value then 1 else 0 := by
  cases q with
  | generate =>
    rw [table_store_generate]
    rfl
  | get n => rfl
  | add u =>
    obtain ⟨hid, hname, -⟩ | ⟨-, h⟩ | ⟨-, -, h⟩ := s.table.insert_cases u
    · rw [store_add_of_free policy hid hname]
      rfl
    · rw [store_add_of_refused policy h]
      rfl
    · rw [store_add_of_refused policy h]
      rfl

/-! ### Sequences of calls on the store -/

theorem size_after (s : MemoryState) (calls : List StoreCall) :
    (Store.after (store policy) s calls).table.size =
      s.table.size + Store.insertCount (store policy) s calls := by
  induction calls generalizing s with
  | nil => rfl
  | cons q calls ih =>
    show (Store.after (store policy) (store policy q s).state calls).table.size = _
    rw [ih, size_store, Store.insertCount, Nat.add_assoc]

theorem rows_suffix_after (s : MemoryState) (calls : List StoreCall) :
    s.table.rows <:+ (Store.after (store policy) s calls).table.rows :=
  Store.after_preserves (fun s' : MemoryState => s.table.rows <:+ s'.table.rows)
    (fun q s' h => h.trans (rows_suffix_store policy q s')) (List.suffix_refl _) calls

theorem consistent_after {s : MemoryState} (hs : s.table.Consistent) (calls : List StoreCall) :
    (Store.after (store policy) s calls).table.Consistent :=
  Store.after_preserves (fun s' : MemoryState => s'.table.Consistent)
    (store_consistent policy) hs calls

theorem store_add_eq_ok_iff {s : MemoryState} (hs : s.table.Consistent) (u : User) :
    (store policy (.add u) s).value = .ok () ↔
      (∀ v ∈ s.table.rows, v.accountId ≠ u.accountId) ∧
        ∀ v ∈ s.table.rows, v.username ≠ u.username := by
  rw [← hs.hasId_eq_false_iff, ← hs.hasName_eq_false_iff]
  obtain ⟨hid, hname, -⟩ | ⟨hid, h⟩ | ⟨-, hname, h⟩ := s.table.insert_cases u
  · rw [store_add_of_free policy hid hname]
    exact ⟨fun _ => ⟨hid, hname⟩, fun _ => rfl⟩
  · rw [store_add_of_refused policy h, hid]
    simp
  · rw [store_add_of_refused policy h, hname]
    simp

theorem store_add_of_id_taken {s : MemoryState} (hs : s.table.Consistent) {u : User}
    (hid : ∃ v ∈ s.table.rows, v.accountId = u.accountId) :
    store policy (.add u) s = ⟨.error (.duplicate .accountId), s, []⟩ :=
  store_add_of_refused policy (MemoryTable.insert_of_id_taken (hs.hasId_iff.mpr hid))

theorem store_add_of_name_taken {s : MemoryState} (hs : s.table.Consistent) {u : User}
    (hid : ∀ v ∈ s.table.rows, v.accountId ≠ u.accountId)
    (hname : ∃ v ∈ s.table.rows, v.username = u.username) :
    store policy (.add u) s = ⟨.error (.duplicate .username), s, []⟩ :=
  store_add_of_refused policy
    (MemoryTable.insert_of_name_taken (hs.hasId_eq_false_iff.mpr hid) (hs.hasName_iff.mpr hname))

/-- A username that has been found is found after any further calls, with the same row. -/
theorem store_get_after {s : MemoryState} (hs : s.table.Consistent) {n : String} {u : User}
    (hfound : (store policy (.get n) s).value = .ok (some u)) (calls : List StoreCall) :
    (store policy (.get n) (Store.after (store policy) s calls)).value = .ok (some u) := by
  have hrow : u ∈ s.table.rows ∧ u.username = n :=
    hs.find?_eq_some_iff.mp (Except.ok.inj hfound)
  have hlater : u ∈ (Store.after (store policy) s calls).table.rows :=
    (rows_suffix_after policy s calls).subset hrow.1
  exact congrArg Except.ok
    ((consistent_after policy hs calls).find?_eq_some_iff.mpr ⟨hlater, hrow.2⟩)

/-- **The store in memory after any calls.**  Its two maps are inverse to each other and
equally large; an insert works exactly when both keys are new, and then adds that row, and
otherwise names the key and changes nothing, the id coming first; a search gives the one row
of the username; the size is the number of inserts that worked; and a row that has been
found is found after any further calls. -/
theorem reachable_memory_store (source : CandidateSource) (calls : List StoreCall) :
    let S := store policy
    let s := Store.after S ⟨.empty, source⟩ calls
    ((s.table.byId.map Prod.fst).Nodup ∧ (s.table.byName.map Prod.fst).Nodup ∧
      s.table.byName.length = s.table.byId.length ∧
      ∀ n a, s.table.byName.lookup n = some a ↔
        ∃ u, s.table.byId.lookup a = some u ∧ u.accountId = a ∧ u.username = n) ∧
    (∀ u, ((S (.add u) s).value = .ok () ↔
        (∀ v ∈ s.table.rows, v.accountId ≠ u.accountId) ∧
          ∀ v ∈ s.table.rows, v.username ≠ u.username) ∧
      ((S (.add u) s).value = .ok () →
        (S (.add u) s).state = { s with table := s.table.add u }) ∧
      ((∃ v ∈ s.table.rows, v.accountId = u.accountId) →
        S (.add u) s = ⟨.error (.duplicate .accountId), s, []⟩) ∧
      ((∀ v ∈ s.table.rows, v.accountId ≠ u.accountId) →
        (∃ v ∈ s.table.rows, v.username = u.username) →
        S (.add u) s = ⟨.error (.duplicate .username), s, []⟩)) ∧
    (∀ n, (S (.get n) s).state = s ∧ ∃ found, (S (.get n) s).value = .ok found ∧
      ∀ u, found = some u ↔ u ∈ s.table.rows ∧ u.username = n) ∧
    (S .generate s).state.table = s.table ∧
    s.table.size = Store.insertCount S ⟨.empty, source⟩ calls ∧
    ∀ n u, (S (.get n) s).value = .ok (some u) →
      ∀ more, (S (.get n) (Store.after S s more)).value = .ok (some u) := by
  intro S s
  have hs : s.table.Consistent := consistent_after policy MemoryTable.consistent_empty calls
  refine ⟨⟨hs.ids_nodup, hs.names_nodup, hs.sameSize, hs.inverse⟩, fun u => ⟨?_, ?_, ?_, ?_⟩,
    fun n => ?_, table_store_generate policy s, ?_, ?_⟩
  · exact store_add_eq_ok_iff policy hs u
  · intro hok
    obtain ⟨hid, hname⟩ := (store_add_eq_ok_iff policy hs u).mp hok
    rw [show S (.add u) s = _ from store_add_of_free policy
      (hs.hasId_eq_false_iff.mpr hid) (hs.hasName_eq_false_iff.mpr hname)]
  · exact fun hid => store_add_of_id_taken policy hs hid
  · exact fun hid hname => store_add_of_name_taken policy hs hid hname
  · exact ⟨rfl, s.table.find? n, rfl, fun u => hs.find?_eq_some_iff⟩
  · rw [show s.table.size = _ from size_after policy _ calls]
    exact Nat.zero_add _
  · exact fun n u hfound more => store_get_after policy hs hfound more

end MemoryStore

end AccountRegistry
