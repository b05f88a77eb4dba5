/-
The two maps of a table in memory.

* **`MemoryTable.Consistent`** — the maps have no key twice and are inverse to each other;
* **`Consistent.add`** — a row with new keys keeps them so;
* **`Consistent.find?_eq_some_iff`** — the way from a username over its id to a row finds
  exactly the rows of that username;
* **`insert_of_free`**, **`insert_of_id_taken`**, **`insert_of_name_taken`** — what an
  insert does, in terms of the keys in use.
-/
import AccountRegistry.Store.Memory
import Mathlib.Data.List.Nodup
import Mathlib.Data.List.Perm.Basic

namespace AccountRegistry

/-- In a list without repeated keys the pairs are what the keys are mapped to. -/
theorem lookup_eq_some_iff_mem {α β : Type} [BEq α] [LawfulBEq α] {l : List (α × β)}
    (hl : (l.map Prod.fst).Nodup) {a : α} {b : β} : l.lookup a = some b ↔ (a, b) ∈ l := by
  induction l with
  | nil => simp
  | cons p l ih =>
    obtain ⟨a', b'⟩ := p
    rw [List.map_cons, List.nodup_cons] at hl
    rw [List.lookup_cons]
    by_cases haa : a = a'
    · subst haa
      have hnot : (a, b) ∉ l := fun hmem => hl.1 (List.mem_map.mpr ⟨_, hmem, rfl⟩)
      simp [hnot, eq_comm]
    · have hne : (a == a') = false := beq_eq_false_iff_ne.mpr haa
      simp [hne, ih hl.2, haa]

namespace MemoryTable

/-- The rows, the latest first. -/
def rows (t : MemoryTable) : List User :=
  t.byId.map Prod.snd

/-- The table with one more row, whatever its keys. -/
def add (t : MemoryTable) (u : User) : MemoryTable :=
  ⟨(u.accountId, u) :: t.byId, (u.username, u.accountId) :: t.byName⟩

/-- The two maps have no key twice and are inverse to each other. -/
structure Consistent (t : MemoryTable) : Prop where
  ids_nodup : (t.byId.map Prod.fst).Nodup
  names_nodup : (t.byName.map Prod.fst).Nodup
  own_id : ∀ p ∈ t.byId, p.2.accountId = p.1
  inverse : ∀ n a, t.byName.lookup n = some a ↔
    ∃ u, t.byId.lookup a = some u ∧ u.accountId = a ∧ u.username = n

@[simp] theorem rows_add (t : MemoryTable) (u : User) : (t.add u).rows = u :: t.rows := rfl

/-! ### Keys in use -/

theorem hasId_add (t : MemoryTable) (u : User) (a : AccountId) :
    (t.add u).hasId a = (decide (u.accountId = a) || t.hasId a) := by
  unfold hasId add
  rw [List.lookup_cons]
  by_cases ha : a = u.accountId
  · simp [ha]
  · have hne : (a == u.accountId) = false := beq_eq_false_iff_ne.mpr ha
    simp [hne, Ne.symm ha]

namespace Consistent

variable {t : MemoryTable}

/-- The row of an id is the one stored row with that id. -/
theorem lookup_id (ht : t.Consistent) {a : AccountId} {u : User} :
    t.byId.lookup a = some u ↔ u ∈ t.rows ∧ u.accountId = a := by
  rw [lookup_eq_some_iff_mem ht.ids_nodup, rows, List.mem_map]
  constructor
  · intro hmem
    exact ⟨⟨(a, u), hmem, rfl⟩, ht.own_id _ hmem⟩
  · rintro ⟨⟨p, hp, rfl⟩, rfl⟩
    rw [ht.own_id p hp]
    exact hp

theorem lookup_name (ht : t.Consistent) {n : String} {a : AccountId} :
    t.byName.lookup n = some a ↔ ∃ u ∈ t.rows, u.accountId = a ∧ u.username = n := by
  rw [ht.inverse]
  constructor
  · rintro ⟨u, hu, ha, hn⟩
    exact ⟨u, (ht.lookup_id.mp hu).1, ha, hn⟩
  · rintro ⟨u, hu, ha, hn⟩
    exact ⟨u, ht.lookup_id.mpr ⟨hu, ha⟩, ha, hn⟩

theorem hasId_iff (ht : t.Consistent) {a : AccountId} :
    t.hasId a = true ↔ ∃ u ∈ t.rows, u.accountId = a := by
  rw [hasId, Option.isSome_iff_exists]
  exact exists_congr fun u => ht.lookup_id

theorem hasName_iff (ht : t.Consistent) {n : String} :
    t.hasName n = true ↔ ∃ u ∈ t.rows, u.username = n := by
  rw [hasName, Option.isSome_iff_exists]
  constructor
  · rintro ⟨a, ha⟩
    obtain ⟨u, hu, -, hn⟩ := ht.lookup_name.mp ha
    exact ⟨u, hu, hn⟩
  · rintro ⟨u, hu, hn⟩
    exact ⟨u.accountId, ht.lookup_name.mpr ⟨u, hu, rfl, hn⟩⟩

theorem hasId_eq_false_iff (ht : t.Consistent) {a : AccountId} :
    t.hasId a = false ↔ ∀ u ∈ t.rows, u.accountId ≠ a := by
  rw [← Bool.not_eq_true, ht.hasId_iff]
  simp only [not_exists, not_and, ne_eq]

theorem hasName_eq_false_iff (ht : t.Consistent) {n : String} :
    t.hasName n = false ↔ ∀ u ∈ t.rows, u.username ≠ n := by
  rw [← Bool.not_eq_true, ht.hasName_iff]
  simp only [not_exists, not_and, ne_eq]

/-- A search finds exactly the stored rows with the username. -/
theorem find?_eq_some_iff (ht : t.Consistent) {n : String} {u : User} :
    t.find? n = some u ↔ u ∈ t.rows ∧ u.username = n := by
  rw [find?, Option.bind_eq_some_iff]
  constructor
  · rintro ⟨a, ha, hu⟩
    obtain ⟨v, hv, -, hn⟩ := (ht.inverse n a).mp ha
    obtain rfl : v = u := Option.some.inj (hv.symm.trans hu)
    exact ⟨(ht.lookup_id.mp hu).1, hn⟩
  · rintro ⟨hu, hn⟩
    exact ⟨u.accountId, ht.lookup_name.mpr ⟨u, hu, rfl, hn⟩, ht.lookup_id.mpr ⟨hu, rfl⟩⟩

theorem eq_of_username_eq (ht : t.Consistent) {u v : User} (hu : u ∈ t.rows) (hv : v ∈ t.rows)
    (h : u.username = v.username) : u = v :=
  Option.some.inj
    ((ht.find?_eq_some_iff.mpr ⟨hu, h⟩).symm.trans (ht.find?_eq_some_iff.mpr ⟨hv, rfl⟩))

theorem rows_ids_nodup (ht : t.Consistent) : (t.rows.map User.accountId).Nodup := by
  have hids : t.rows.map User.accountId = t.byId.map Prod.fst := by
    rw [rows, List.map_map]
    exact List.map_congr_left ht.own_id
  rw [hids]
  exact ht.ids_nodup

theorem rows_names_nodup (ht : t.Consistent) : (t.rows.map (·.username)).Nodup :=
  List.Nodup.map_on (fun _ hu _ hv h => ht.eq_of_username_eq hu hv h)
    (List.Nodup.of_map _ ht.rows_ids_nodup)

/-- Both maps have as many entries as there are rows. -/
theorem sameSize (ht : t.Consistent) : t.byName.length = t.byId.length := by
  -- the usernames of the map are those of the rows, and neither list repeats one
  have hperm : (t.byName.map Prod.fst).Perm (t.rows.map (·.username)) := by
    rw [List.perm_ext_iff_of_nodup ht.names_nodup ht.rows_names_nodup]
    intro n
    rw [List.mem_map, List.mem_map]
    constructor
    · rintro ⟨⟨n, a⟩, hmem, rfl⟩
      obtain ⟨u, hu, -, hn⟩ :=
        ht.lookup_name.mp ((lookup_eq_some_iff_mem ht.names_nodup).mpr hmem)
      exact ⟨u, hu, hn⟩
    · rintro ⟨u, hu, rfl⟩
      have hlookup := ht.lookup_name.mpr ⟨u, hu, rfl, rfl⟩
      exact ⟨_, (lookup_eq_some_iff_mem ht.names_nodup).mp hlookup, rfl⟩
  simpa [rows] using hperm.length_eq

end Consistent

theorem consistent_empty : empty.Consistent :=
  ⟨List.nodup_nil, List.nodup_nil, by simp [empty], by simp [empty]⟩

/-- **A row with new keys keeps the maps inverse to each other.** -/
theorem Consistent.add {t : MemoryTable} (ht : t.Consistent) {u : User}
    (hid : t.hasId u.accountId = false) (hname : t.hasName u.username = false) :
    (t.add u).Consistent := by
  have hidrows : ∀ v ∈ t.rows, v.accountId ≠ u.accountId := ht.hasId_eq_false_iff.mp hid
  have hnamerows : ∀ v ∈ t.rows, v.username ≠ u.username := ht.hasName_eq_false_iff.mp hname
  have hids : ((t.add u).byId.map Prod.fst).Nodup := by
    refine List.nodup_cons.mpr ⟨fun hmem => ?_, ht.ids_nodup⟩
    obtain ⟨p, hp, hpid⟩ := List.mem_map.mp hmem
    exact hidrows p.2 (List.mem_map_of_mem hp) ((ht.own_id p hp).trans hpid)
  have hnames : ((t.add u).byName.map Prod.fst).Nodup := by
    refine List.nodup_cons.mpr ⟨fun hmem => ?_, ht.names_nodup⟩
    obtain ⟨⟨n, a⟩, hp, rfl⟩ := List.mem_map.mp hmem
    obtain ⟨v, hv, -, hvn⟩ :=
      ht.lookup_name.mp ((lookup_eq_some_iff_mem ht.names_nodup).mpr hp)
    exact hnamerows v hv hvn
  refine ⟨hids, hnames, ?_, fun n a => ?_⟩
  · intro p hp
    obtain rfl | hp := List.mem_cons.mp hp
    · rfl
    · exact ht.own_id p hp
  · -- no old row has a key of the new one, so that the maps can be read as lists of pairs
    rw [lookup_eq_some_iff_mem hnames]
    simp only [lookup_eq_some_iff_mem hids]
    show (n, a) ∈ (u.username, u.accountId) :: t.byName ↔
      ∃ v, (a, v) ∈ (u.accountId, u) :: t.byId ∧ v.accountId = a ∧ v.username = n
    rw [List.mem_cons, ← lookup_eq_some_iff_mem ht.names_nodup, ht.inverse]
    simp only [List.mem_cons, ← lookup_eq_some_iff_mem ht.ids_nodup, Prod.mk.injEq]
    constructor
    · rintro (⟨rfl, rfl⟩ | ⟨v, hv⟩)
      · exact ⟨u, .inl ⟨rfl, rfl⟩, rfl, rfl⟩
      · exact ⟨v, .inr hv.1, hv.2⟩
    · rintro ⟨v, ⟨rfl, rfl⟩ | hv, ha, hn⟩
      · exact .inl ⟨hn.symm, rfl⟩
      · exact .inr ⟨v, hv, ha, hn⟩

/-! ### Inserts -/

theorem insert_of_free {t : MemoryTable} {u : User} (hid : t.hasId u.accountId = false)
    (hname : t.hasName u.username = false) : t.insert u = .ok (t.add u) := by
  rw [insert, hid, hname]
  rfl

theorem insert_of_id_taken {t : MemoryTable} {u : User} (hid : t.hasId u.accountId = true) :
    t.insert u = .error .accountId := by
  rw [insert, if_pos hid]

theorem insert_of_name_taken {t : MemoryTable} {u : User}
    (hid : t.hasId u.accountId = false) (hname : t.hasName u.username = true) :
    t.insert u = .error .username := by
  rw [insert, hid, if_neg Bool.false_ne_true, if_pos hname]

/-- What an insert does, in three cases. -/
theorem insert_cases (t : MemoryTable) (u : User) :
    (t.hasId u.accountId = false ∧ t.hasName u.username = false ∧ t.insert u = .ok (t.add u)) ∨
    (t.hasId u.accountId = true ∧ t.insert u = .error .accountId) ∨
    (t.hasId u.accountId = false ∧ t.hasName u.username = true ∧
      t.insert u = .error .username) := by
  cases hid : t.hasId u.accountId with
  | true => exact .inr (.inl ⟨rfl, insert_of_id_taken hid⟩)
  | false =>
    cases hname : t.hasName u.username with
    | true => exact .inr (.inr ⟨rfl, rfl, insert_of_name_taken hid hname⟩)
    | false => exact .inl ⟨rfl, rfl, insert_of_free hid hname⟩

end MemoryTable

end AccountRegistry
