/-
Users whom a table in a file finds by their names.

* **`SqliteDatabase.Lists`** — the first row with the name of a user is the row of that user;
* **`Session.OnTable.value_add`** — an insert into a table succeeds if neither of its keys is
  in use and the file is open for writing;
* **`Session.OnTable.value_get`** — a search finds the user whom the table lists;
* **`Session.OnFile.lists_of_insertedIn`** — a user whom a run has inserted alone is listed
  after it.

Design notes: the rows that a table already holds need not be rows of users, and two of them
may have the same name.  Of the rows with a name only the first one is ever looked at, and
more rows behind it do not matter.
-/
import AccountRegistry.Proofs.Store.TableFile

namespace AccountRegistry

/-! ### Rows -/

namespace SqliteDatabase

/-- Neither key of a row is in use. -/
def Fresh (rs : List Row) (r : Row) : Prop :=
  ∀ x ∈ rs, x .username ≠ r .username ∧ x .accountId ≠ r .accountId

theorem isEmpty_rowsWith_iff {rs : List Row} {f : Field} {c : Cell} :
    (rowsWith rs f c).isEmpty = true ↔ ∀ x ∈ rs, x f ≠ c := by
  rw [rowsWith, List.isEmpty_iff, List.filter_eq_nil_iff]
  simp only [beq_iff_eq]

/-- A row is appended exactly if neither of its keys is in use. -/
theorem insertRow_eq_ok_iff {rs rs' : List Row} {r : Row} :
    insertRow rs r = .ok rs' ↔ Fresh rs r ∧ rs' = rs ++ [r] := by
  constructor
  · intro h
    rw [insertRow] at h
    split at h
    · cases h
    · next hname =>
      split at h
      · cases h
      · next hid =>
        rw [Bool.not_eq_true, Bool.not_eq_false'] at hname hid
        refine ⟨fun x hx => ⟨?_, ?_⟩, (Except.ok.inj h).symm⟩
        · exact isEmpty_rowsWith_iff.mp hname x hx
        · exact isEmpty_rowsWith_iff.mp hid x hx
  · rintro ⟨hfresh, rfl⟩
    have hname := isEmpty_rowsWith_iff.mpr fun x hx => (hfresh x hx).1
    have hid := isEmpty_rowsWith_iff.mpr fun x hx => (hfresh x hx).2
    rw [insertRow, hname, hid]
    rfl

/-- The first row with the name of `u` is the row of `u`. -/
def Lists (rs : List Row) (u : User) : Prop :=
  (rowsWith rs .username (.text u.username)).head? = some u.storedRow

theorem rowsWith_append (rs rs' : List Row) (f : Field) (c : Cell) :
    rowsWith (rs ++ rs') f c = rowsWith rs f c ++ rowsWith rs' f c :=
  List.filter_append ..

/-- More rows at the end do not matter. -/
theorem Lists.of_prefix {rs rs' : List Row} {u : User} (h : Lists rs u) (hle : rs <+: rs') :
    Lists rs' u := by
  obtain ⟨more, rfl⟩ := hle
  rw [Lists, rowsWith_append, List.head?_append, h]
  rfl

/-- A row whose name has not been in use is the first one with it. -/
theorem lists_append {rs : List Row} {u : User} (h : ∀ x ∈ rs, x .username ≠ .text u.username) :
    Lists (rs ++ [u.storedRow]) u := by
  have hrow : u.storedRow .username = .text u.username := rfl
  rw [Lists, rowsWith_append, List.isEmpty_iff.mp (isEmpty_rowsWith_iff.mpr h), rowsWith,
    List.filter_cons_of_pos (by rw [hrow, BEq.rfl])]
  rfl

/-- The row that is found is that of the user. -/
theorem Lists.foundUser {rs : List Row} {u : User} (h : Lists rs u) :
    SqlStore.foundUser (.rows ((rowsWith rs .username (.text u.username)).take 1)) =
      .ok (some u) := by
  obtain ⟨rest, hrest⟩ := List.head?_eq_some_iff.mp h
  rw [hrest, List.take_succ_cons, SqlStore.foundUser, Row.user_storedRow]

end SqliteDatabase

/-- Where a user is listed there is a table. -/
theorem Files.hasTable_of_lists {fs : Files} {p : Path} {u : User}
    (h : SqliteDatabase.Lists (fs.usersAt p) u) : fs.HasTable p := by
  obtain ⟨rest, hrest⟩ := List.head?_eq_some_iff.mp h
  have hmem : u.storedRow ∈ SqliteDatabase.rowsWith (fs.usersAt p) .username (.text u.username) :=
    hrest ▸ List.mem_cons_self
  exact hasTable_of_usersAt (List.mem_filter.mp hmem).1

/-! ### Calls -/

namespace SqlitePool

/-- What an insert that succeeds has met. -/
theorem fresh_of_insert {s : SqliteState} {u : User} {reply : Reply}
    (h : (perform (.insert u) s).value = .ok reply) :
    s.pool.readOnly = false ∧ SqliteDatabase.Fresh s.rows u.storedRow := by
  cases hdb : s.pool.database s.files with
  | error e =>
    simp only [perform, hdb, Except.bind] at h
    cases h
  | ok db =>
    rw [rows_of_database hdb]
    obtain ⟨_ | rs⟩ := db
    · simp only [perform, hdb, Except.bind, SqliteDatabase.perform] at h
      cases h
    · cases hreadOnly : s.pool.readOnly with
      | true =>
        simp only [perform, hdb, Except.bind, SqliteDatabase.perform, hreadOnly, if_true] at h
        cases h
      | false =>
        cases hinsert : SqliteDatabase.insertRow rs u.storedRow with
        | error e =>
          simp only [perform, hdb, Except.bind, SqliteDatabase.perform, hreadOnly, hinsert,
            Bool.false_eq_true, if_false, Except.map] at h
          cases h
        | ok rs' => exact ⟨rfl, (SqliteDatabase.insertRow_eq_ok_iff.mp hinsert).1⟩

end SqlitePool

namespace SqliteStore

variable (policy : RetryPolicy) {s : SqliteState}

/-- An insert that has succeeded found the database open for writing and its keys not in use. -/
theorem fresh_of_add {u : User} (h : (store policy (.add u) s).value = .ok ()) :
    s.pool.readOnly = false ∧ SqliteDatabase.Fresh s.rows u.storedRow := by
  rw [store_add_eq_run, run_perform_bind] at h
  split at h
  · cases h
  · cases hvalue : (SqlitePool.perform (.insert u) s).value with
    | error e =>
      simp only [hvalue, SqlStore.finishAdd, Dialogue.run] at h
      cases h
    | ok reply => exact SqlitePool.fresh_of_insert hvalue

variable {rows : List Row} (hclosed : s.pool.closed = false)
  (hdb : s.pool.database s.files = .ok ⟨some rows⟩)
include hclosed hdb

/-- An insert into a table that is open for writing. -/
theorem value_add_of_table (hwrite : s.pool.readOnly = false) {u : User}
    (hfresh : SqliteDatabase.Fresh rows u.storedRow) :
    (store policy (.add u) s).value = .ok () := by
  have hinsert := SqliteDatabase.insertRow_eq_ok_iff.mpr ⟨hfresh, rfl⟩
  have hperform : (SqlitePool.perform (.insert u) s).value = .ok .done := by
    simp only [SqlitePool.perform, hdb, Except.bind, SqliteDatabase.perform, hwrite, hinsert,
      Bool.false_eq_true, if_false, Except.map]
  rw [store_add_eq_run, run_perform_bind, hclosed, if_neg Bool.false_ne_true]
  simp only [hperform, SqlStore.finishAdd, Dialogue.run]

/-- A search in a table. -/
theorem value_get_of_table {u : User} (h : SqliteDatabase.Lists rows u) :
    (store policy (.get u.username) s).value = .ok (some u) := by
  have hperform : (SqlitePool.perform (.find u.username) s).value =
      .ok (.rows ((SqliteDatabase.rowsWith rows .username (.text u.username)).take 1)) := by
    simp only [SqlitePool.perform, hdb, Except.bind, SqliteDatabase.perform]
  rw [store_get_eq_run, run_perform_bind, hclosed, if_neg Bool.false_ne_true]
  simp only [hperform, SqlStore.finishGet, Except.bind, h.foundUser, Dialogue.run]

end SqliteStore

namespace Session

variable {s : Session} {pool : SqlitePool} {p : Path} (o : StoreOptions) (system : String)

/-- **An insert into a table** succeeds if neither of its keys is in use and the file is open
for writing. -/
theorem OnTable.value_add (h : s.OnTable pool p) (hclosed : pool.closed = false)
    (hwrite : pool.readOnly = false) {u : User}
    (hfresh : SqliteDatabase.Fresh (s.world.files.usersAt p) u.storedRow) :
    (storeOf o system (.add u) s).value = .ok () := by
  rw [storeOf_value]
  obtain ⟨w, engine⟩ := s
  obtain ⟨rfl, hhome, rows, hrows⟩ := h
  rw [Files.usersAt_of_table hrows] at hfresh
  exact SqliteStore.value_add_of_table o.retry (s := ⟨w.files, pool, w.source⟩) hclosed
    (SqlitePool.database_of_table hhome hrows) hwrite hfresh

/-- Nobody is inserted into a table that is open for reading only. -/
theorem OnTable.value_add_of_readOnly (h : s.OnTable pool p) (hreadOnly : pool.readOnly = true)
    (u : User) : (storeOf o system (.add u) s).value ≠ .ok () := by
  rw [storeOf_value]
  obtain ⟨w, engine⟩ := s
  obtain ⟨rfl, -, -⟩ := h
  intro hadd
  have hwrite := (SqliteStore.fresh_of_add o.retry (s := ⟨w.files, pool, w.source⟩) hadd).1
  exact Bool.false_ne_true (hwrite.symm.trans hreadOnly)

/-- **A search in a table** finds the user whom it lists. -/
theorem OnTable.value_get (h : s.OnTable pool p) (hclosed : pool.closed = false) {u : User}
    (hlists : SqliteDatabase.Lists (s.world.files.usersAt p) u) :
    (storeOf o system (.get u.username) s).value = .ok (some u) := by
  rw [storeOf_value]
  obtain ⟨w, engine⟩ := s
  obtain ⟨rfl, hhome, rows, hrows⟩ := h
  rw [Files.usersAt_of_table hrows] at hlists
  exact SqliteStore.value_get_of_table o.retry (s := ⟨w.files, pool, w.source⟩) hclosed
    (SqlitePool.database_of_table hhome hrows) hlists

namespace OnFile

/-- The keys of a user whose insert has succeeded were not in use. -/
theorem fresh_of_add (h : s.OnFile p) {u : User}
    (hadd : (storeOf o system (.add u) s).value = .ok ()) :
    SqliteDatabase.Fresh (s.world.files.usersAt p) u.storedRow := by
  rw [storeOf_value] at hadd
  obtain ⟨w, engine⟩ := s
  obtain ⟨pool, rfl, hhome⟩ := h
  have hfresh := (SqliteStore.fresh_of_add o.retry (s := ⟨w.files, pool, w.source⟩) hadd).2
  rw [SqlitePool.rows_of_home hhome] at hfresh
  exact hfresh

/-- The keys of the first user whom a run inserts were not in use before it. -/
theorem fresh_of_insertedIn {α : Type} (h : s.OnFile p) (d : Dialogue StoreCall.interface α)
    {u : User} {us : List User} (hd : Store.insertedIn (storeOf o system) d s = u :: us) :
    SqliteDatabase.Fresh (s.world.files.usersAt p) u.storedRow := by
  induction d generalizing s with
  | done a => cases hd
  | note n d ih => exact ih h hd
  | ask q k ih =>
    obtain ⟨hstay, hrows⟩ := h.call o system q
    rw [Store.insertedIn] at hd
    cases hinserted : Store.insertedBy q (storeOf o system q s).value with
    | nil =>
      -- a call that inserts nobody leaves the rows as they are
      rw [hinserted, List.map_nil, List.append_nil] at hrows
      rw [hinserted, List.nil_append] at hd
      rw [← hrows]
      exact ih _ hstay hd
    | cons v vs =>
      rw [hinserted] at hd
      obtain rfl : v = u := (List.cons.inj hd).1
      cases q with
      | generate => cases hinserted
      | get n => cases hinserted
      | add v' =>
        cases hadd : (storeOf o system (.add v') s).value with
        | error e =>
          rw [hadd] at hinserted
          cases hinserted
        | ok _ =>
          rw [hadd] at hinserted
          obtain rfl : v' = v := (List.cons.inj hinserted).1
          exact h.fresh_of_add o system hadd

/-- **A user whom a run has inserted alone** is listed after it. -/
theorem lists_of_insertedIn {α : Type} (h : s.OnFile p) (d : Dialogue StoreCall.interface α)
    {u : User} (hd : Store.insertedIn (storeOf o system) d s = [u]) :
    SqliteDatabase.Lists
      ((d.run (storeOf o system) s).state.world.files.usersAt p) u := by
  have hfresh := h.fresh_of_insertedIn o system d hd
  rw [(h.run o system d).2, hd]
  exact SqliteDatabase.lists_append fun x hx => (hfresh x hx).1

end OnFile

end Session

end AccountRegistry
