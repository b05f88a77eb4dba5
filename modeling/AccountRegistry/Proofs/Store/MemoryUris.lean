/-
URIs that ask for a database without a file.

* **`SqliteLocation.Announces`** — the parts of a URI that put the database in memory: a
  path that denotes `:memory:`, and parameters that are read as `mode=memory`;
* **`SqliteLocation.isPrivate_iff`** — the database is without a file exactly if there are any,
  or the path denotes no name at all;
* **`volatile_rows_kept_iff`** — a store on such a database keeps its rows exactly if the text of
  the URI speaks of memory; else every part that puts the database there has a percent sign in it.

Design notes: the place of the database is told from the decoded parts of the URI, and the
limits of the pool from its text as it was written.  What is percent-encoded is seen by the one
and not by the other.
-/
import AccountRegistry.Proofs.Except
import AccountRegistry.Proofs.Text.Percent
import AccountRegistry.Proofs.Store.Reopening

namespace AccountRegistry

open Text

namespace SqliteLocation

/-! ### The parts of a URI -/

/-- The path of a URI and the parts of its query. -/
def parts (uri : String) : List Char × List (List Char) :=
  let rest := stripHead "sqlite:".toList (stripHead "sqlite://".toList uri.toList)
  match splitOnce '?' rest with
  | none => (rest, [])
  | some (path, query) => (path, splitOn '&' query)

/-- Whether a path denotes the name that stands for a database in memory. -/
def IsMemoryPath (path : List Char) : Prop :=
  Percent.decode path = .ok memoryName

/-- Whether a part of a query is read as the parameter that asks for a database in memory. -/
def IsMemoryMode (part : List Char) : Prop :=
  Percent.formPair part = ("mode", "memory")

/-- `a` is a part of the URI that puts the database in memory. -/
def Announces (uri : String) (a : List Char) : Prop :=
  a = (parts uri).1 ∧ IsMemoryPath a ∨ a ∈ (parts uri).2 ∧ IsMemoryMode a

/-- Whether the path of the URI denotes no name. -/
def IsNameless (uri : String) : Prop :=
  Percent.decode (parts uri).1 = .ok ""

theorem stripHead_suffix (pat cs : List Char) : stripHead pat cs <:+ cs := by
  fun_induction stripHead pat cs with
  | case1 cs h ih => exact ih.trans (List.drop_suffix pat.length cs)
  | case2 cs h => exact List.suffix_rfl

/-- The parts of a URI are parts of its text. -/
theorem infix_of_announces {uri : String} {a : List Char} (h : Announces uri a) :
    a <:+: uri.toList := by
  have hrest :
      stripHead "sqlite:".toList (stripHead "sqlite://".toList uri.toList) <:+ uri.toList :=
    (stripHead_suffix _ _).trans (stripHead_suffix _ _)
  refine List.IsInfix.trans ?_ hrest.isInfix
  rw [Announces, parts] at h
  split at h
  · rcases h with ⟨rfl, -⟩ | ⟨hnil, -⟩
    · exact List.infix_rfl
    · cases hnil
  · next path query hsplit =>
    rw [eq_of_splitOnce hsplit]
    rcases h with ⟨rfl, -⟩ | ⟨hmem, -⟩
    · exact List.infix_append_left
    · exact ((infix_of_mem_splitOn hmem).trans (List.suffix_cons '?' query).isInfix).trans
        List.infix_append_right

/-! ### Databases without a file -/

theorem isPrivate_eq_true_iff {l : SqliteLocation} :
    l.isPrivate = true ↔ l.inMemory = true ∨ l.name = "" ∨ l.name = memoryName := by
  simp only [isPrivate, Bool.or_eq_true, beq_iff_eq, or_assoc]

/-- What a parameter does to the name and to the place of the database. -/
theorem withParameter_cases {l l' : SqliteLocation} {x : String × String}
    (h : l.withParameter x = .ok l') :
    l'.name = l.name ∧ (l'.inMemory = true ↔ l.inMemory = true ∨ x = ("mode", "memory")) := by
  rw [withParameter.eq_def] at h
  split at h <;> cases h <;> simp_all

theorem foldlM_withParameter {l l' : SqliteLocation} {xs : List (String × String)}
    (h : xs.foldlM withParameter l = .ok l') :
    l'.name = l.name ∧
      (l'.inMemory = true ↔ l.inMemory = true ∨ ("mode", "memory") ∈ xs) := by
  induction xs generalizing l with
  | nil =>
    cases h
    simp
  | cons x xs ih =>
    obtain ⟨l₁, hfirst, hrest⟩ := bind_eq_ok.mp h
    obtain ⟨hname, hmem⟩ := withParameter_cases hfirst
    obtain ⟨hname', hmem'⟩ := ih hrest
    refine ⟨hname'.trans hname, ?_⟩
    rw [hmem', hmem, List.mem_cons, or_assoc, eq_comm (a := x)]

theorem ofPath_isPrivate {path : List Char} {l : SqliteLocation} (h : ofPath path = .ok l) :
    l.inMemory = true ∨ l.name = "" ∨ l.name = memoryName ↔
      Percent.decode path = .ok "" ∨ IsMemoryPath path := by
  rw [ofPath] at h
  split at h
  · next hpath =>
    cases h
    subst hpath
    have hself : Percent.decode memoryName.toList = .ok memoryName := by
      rw [Percent.decode_of_plain (by decide), String.ofList_toList]
    exact iff_of_true (.inl rfl) (.inr hself)
  · split at h
    · next name hdecode =>
      cases h
      rw [IsMemoryPath, hdecode, Except.ok.injEq, Except.ok.injEq]
      simp
    · cases h

theorem not_isMemoryMode_nil : ¬ IsMemoryMode [] := by
  intro h
  exact absurd (Prod.mk.inj h).2 (by decide)

theorem mem_formPairs_iff {query : List Char} :
    ("mode", "memory") ∈ Percent.formPairs query ↔ ∃ a ∈ splitOn '&' query, IsMemoryMode a := by
  rw [Percent.formPairs, List.mem_map]
  constructor
  · rintro ⟨a, ha, hpair⟩
    exact ⟨a, (List.mem_filter.mp ha).1, hpair⟩
  · rintro ⟨a, ha, hpair⟩
    have hne : (!a.isEmpty) = true := by
      rw [Bool.not_eq_true', List.isEmpty_eq_false_iff]
      rintro rfl
      exact not_isMemoryMode_nil hpair
    exact ⟨a, List.mem_filter.mpr ⟨ha, hne⟩, hpair⟩

/-- **A URI opens a database without a file exactly if a part of it asks for one**, or its path
denotes no name. -/
theorem isPrivate_iff {uri : String} {l : SqliteLocation} (h : ofUri uri = .ok l) :
    l.isPrivate = true ↔ IsNameless uri ∨ ∃ a, Announces uri a := by
  rw [isPrivate_eq_true_iff]
  simp only [IsNameless, Announces, parts]
  simp only [ofUri] at h
  generalize stripHead "sqlite:".toList (stripHead "sqlite://".toList uri.toList) = rest at h ⊢
  cases hsplit : splitOnce '?' rest with
  | none =>
    simp only [hsplit] at h
    rw [ofPath_isPrivate h]
    simp
  | some pair =>
    obtain ⟨path, query⟩ := pair
    simp only [hsplit] at h
    obtain ⟨l₁, hpath, hquery⟩ := bind_eq_ok.mp h
    obtain ⟨hname, hmem⟩ := foldlM_withParameter hquery
    have hfirst := ofPath_isPrivate hpath
    rw [hname, hmem, mem_formPairs_iff, or_right_comm, hfirst, or_assoc]
    simp only [exists_or, exists_eq_left]

/-! ### What the text of a URI tells -/

/-- Without percent signs a part that asks for a database in memory spells that out. -/
theorem eq_of_announces {uri : String} {a : List Char} (h : Announces uri a) (hplain : '%' ∉ a) :
    a = ":memory:".toList ∨ a = "mode=memory".toList := by
  rcases h with ⟨-, hpath⟩ | ⟨-, hmode⟩
  · left
    rw [IsMemoryPath, Percent.decode_of_plain hplain] at hpath
    rw [← String.toList_ofList (l := a), Except.ok.inj hpath]
    rfl
  · right
    exact Percent.eq_of_formPair hplain (by decide) (by decide) (by decide) hmode

theorem mentionsMemory_of_announces {uri : String} {a : List Char} (h : Announces uri a)
    (hplain : '%' ∉ a) : mentionsMemory uri = true := by
  have hpart := infix_of_announces h
  rw [mentionsMemory, Bool.or_eq_true, occurs_iff, occurs_iff]
  rcases eq_of_announces h hplain with rfl | rfl
  · exact .inl hpart
  · exact .inr hpart

end SqliteLocation

/-! ### Rows -/

/-- **Rows in volatile databases.**  Let a URI be opened whose database is without a file.  It is
such a URI if a part of it says so or its path denotes no name.

If the text of the URI speaks of memory, the pool has one connection for ever, and whatever is
done with the store, with whatever pauses, is answered as by that connection.  If it does not,
then there are as many connections as the options allow, and they expire; every part of the URI
that says where the database is has a percent sign in it; and if there may be a second connection,
with a database of its own, the store does not find its table in the next operation.  So users
who have been added are found ever after exactly if the text speaks of memory; and it does not
where the path is empty or encoded or the parameter is. -/
theorem volatile_rows_kept_iff (o : StoreOptions) (system : String) :
    (∀ uri l w b s, Backend.ofUri uri = .ok .sqlite → SqliteLocation.ofUri uri = .ok l →
      l.isVolatile = true → (openStore uri o w).value = .ok (b, s) →
      (l.isPrivate = true ↔
        SqliteLocation.IsNameless uri ∨ ∃ a, SqliteLocation.Announces uri a) ∧
      (∃ pool, s.engine = .volatile pool ∧
        pool.limits = if mentionsMemory uri then .single else ⟨o.maxConnections, true⟩) ∧
      (mentionsMemory uri = true → ∀ (ps : List Pause) (α : Type)
        (d : Dialogue StoreCall.interface α),
        (d.run (storeOf o system) (s.pausing ps)).value =
          (d.run (SqliteStore.store o.retry)
            (SqliteStore.prepared o l.refusesWrites w.files w.source)).value) ∧
      (mentionsMemory uri = false → (∀ a, SqliteLocation.Announces uri a → '%' ∈ a) ∧
        (l.isShared = false → 2 ≤ o.maxConnections → s.MissesTable o system)) ∧
      (o.createSchema = true → (s.KeepsRows o system ↔ mentionsMemory uri = true))) ∧
    ∀ uri ∈ ["sqlite:", "sqlite:%3Amemory%3A", "sqlite:users.db?mode=%6Demory"], ∀ w,
      PoolLimits.start ⟨o.maxConnections, true⟩ o.acquireTimeout = .ok () →
      mentionsMemory uri = false ∧ ∃ l s, SqliteLocation.ofUri uri = .ok l ∧
        l.isPrivate = true ∧ l.isShared = false ∧
        (openStore uri o w).value = .ok (.sqlite, s) := by
  constructor
  · intro uri l w b s hb hl hvolatile hopen
    obtain ⟨hprepared, rfl⟩ := openStore_volatile hb hl hvolatile hopen
    obtain ⟨pool, hstate, hlimits, hopened, hnew⟩ := exists_pool_prepareSchema hprepared
    refine ⟨SqliteLocation.isPrivate_iff hl, ⟨pool, congrArg Session.engine hstate, hlimits⟩,
      fun hmemory ps α d => ?_, fun hmemory => ⟨fun a ha => ?_, fun hshared hmany => ?_⟩,
      fun ho => ?_⟩
    · rw [PoolLimits.ofUri, if_pos hmemory]
      exact ((follows_prepareSchema.pausing ps).run o system d).1
    · by_contra hplain
      rw [SqliteLocation.mentionsMemory_of_announces ha hplain] at hmemory
      cases hmemory
    · rw [hstate]
      refine Session.misses_table hopened (hnew hshared ?_) o system
      rw [PoolLimits.ofUri, hmemory]
      exact hmany
    · have hwritable := writable_of_prepareSchema ho hprepared
      cases hmemory : mentionsMemory uri with
      | true =>
        refine iff_of_true ?_ rfl
        -- the table was made on the single connection, which then is one of a created table
        have hfollows : (prepareSchema o ⟨w, .volatile
            (.opened .single l.isShared l.refusesWrites)⟩).state.Follows _ :=
          follows_prepareSchema
        rw [SqliteStore.prepared, if_pos ho] at hfollows
        rw [hwritable] at hfollows ⊢
        rw [PoolLimits.ofUri, if_pos hmemory]
        exact hfollows.keepsRows o system
      | false =>
        refine iff_of_false ?_ Bool.false_ne_true
        -- even a lone connection expires, so the number of connections does not matter here
        rw [hwritable, prepareSchema_opened ho, PoolLimits.ofUri, hmemory,
          if_neg Bool.false_ne_true]
        exact Session.not_keepsRows_of_expires w rfl l.isShared [] o system
  · intro uri huri w hstart
    have hnameless : SqliteLocation.ofUri "sqlite:" = .ok { name := "" } := by decide +kernel
    have hpath : SqliteLocation.ofUri "sqlite:%3Amemory%3A" =
        .ok { name := SqliteLocation.memoryName } := by
      decide +kernel
    have hmode : SqliteLocation.ofUri "sqlite:users.db?mode=%6Demory" =
        .ok { name := "users.db", inMemory := true, sharedCache := true } := by
      decide +kernel
    simp only [List.mem_cons, List.not_mem_nil, or_false] at huri
    obtain rfl | rfl | rfl := huri
    · have hb : Backend.ofUri "sqlite:" = .ok .sqlite := rfl
      obtain ⟨s, hs⟩ := exists_openStore_volatile (w := w) hb hnameless rfl rfl rfl hstart
      exact ⟨by decide, _, s, hnameless, rfl, rfl, hs⟩
    · have hb : Backend.ofUri "sqlite:%3Amemory%3A" = .ok .sqlite := rfl
      obtain ⟨s, hs⟩ := exists_openStore_volatile (w := w) hb hpath rfl rfl rfl hstart
      exact ⟨by decide, _, s, hpath, rfl, rfl, hs⟩
    · have hb : Backend.ofUri "sqlite:users.db?mode=%6Demory" = .ok .sqlite := rfl
      obtain ⟨s, hs⟩ := exists_openStore_volatile (w := w) hb hmode rfl rfl rfl hstart
      exact ⟨by decide, _, s, hmode, rfl, rfl, hs⟩

/-- Two spellings of the same path, with ten connections allowed: as it is the rows are kept, and
with its colons encoded the table is missing at once. -/
theorem volatile_rows_kept_iff_spellings :
    let o : StoreOptions := { StoreOptions.standard with createSchema := true }
    (∃ s, (openStore "sqlite::memory:" o bareWorld).value = .ok (.sqlite, s) ∧
      s.KeepsRows o "sqlite") ∧
    ∃ s, (openStore "sqlite:%3Amemory%3A" o bareWorld).value = .ok (.sqlite, s) ∧
      ¬ s.KeepsRows o "sqlite" ∧ s.MissesTable o "sqlite" := by
  intro o
  have hplain : SqliteLocation.ofUri "sqlite::memory:" =
      .ok { name := "", inMemory := true, sharedCache := true } := by
    decide +kernel
  have hopen : ∃ s, (openStore "sqlite::memory:" o bareWorld).value = .ok (.sqlite, s) :=
    exists_openStore_volatile rfl hplain rfl rfl rfl (by decide +kernel)
  obtain ⟨s, hs⟩ := hopen
  obtain ⟨hall, hencoded⟩ := volatile_rows_kept_iff o "sqlite"
  obtain ⟨-, -, -, -, hkeeps⟩ := hall "sqlite::memory:" _ bareWorld _ _ rfl hplain rfl hs
  obtain ⟨hsilent, l, s', hl, hprivate, hshared, hs'⟩ :=
    hencoded "sqlite:%3Amemory%3A" (by simp) bareWorld (by decide +kernel)
  have hvolatile : l.isVolatile = true := by
    rw [SqliteLocation.isVolatile, hprivate]
    rfl
  obtain ⟨-, -, -, hlost, hkeeps'⟩ :=
    hall "sqlite:%3Amemory%3A" l bareWorld _ _ rfl hl hvolatile hs'
  refine ⟨⟨s, hs, (hkeeps rfl).mpr (by decide)⟩, s', hs', ?_, ?_⟩
  · rw [hkeeps' rfl, hsilent]
    exact Bool.false_ne_true
  · exact (hlost hsilent).2 hshared (by decide)

end AccountRegistry
