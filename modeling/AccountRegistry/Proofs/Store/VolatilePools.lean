/-
Stores on databases that end with the connections to them.

* **`VolatilePool.Single`** — a pool that has one connection for ever; whatever the pauses, the
  next operation gets that connection (**`Single.acquire_eq`**);
* **`VolatileState.Follows.run`**, **`Session.Follows.run`** — a store on such a pool cannot be
  told from a store on one SQLite connection;
* **`Session.KeepsRows`**, **`Session.MissesTable`** — whatever the pauses, users who have been
  added are found; and whatever is asked next, there is no table;
* **`Session.misses_table`** — so it is if the connection that is lent next is a new one;
* **`Session.lost_after_long_pause`** — and so it is after a long pause if the connections expire.

Design notes: the pool of a single connection is compared with `SqlitePool`, where a connection
stands for all and what is known of tables holds as it is.
-/
import AccountRegistry.Proofs.Generator
import AccountRegistry.Proofs.Service
import AccountRegistry.Proofs.Store.SqliteCalls
import AccountRegistry.Proofs.Store.TableFile

namespace AccountRegistry

/-! ### Pools with one connection -/

namespace VolatilePool

/-- The pool has one connection for ever, and its database is `db`. -/
structure Single (p : VolatilePool) (db : SqliteDatabase) : Prop where
  stays : p.limits.expires = false
  lone : p.mayScatter = false
  database : p.idle = [db] ∧ p.lent = none ∨ p.idle = [] ∧ p.lent = some db

variable {p : VolatilePool} {db : SqliteDatabase}

theorem single_opened (shared readOnly : Bool) :
    (opened .single shared readOnly).Single .empty where
  stays := rfl
  lone := Bool.and_false _
  database := .inl ⟨rfl, rfl⟩

namespace Single

theorem pausing (h : p.Single db) (ps : List Pause) : Single { p with pauses := ps } db :=
  ⟨h.stays, h.lone, h.database⟩

theorem lending (h : p.Single db) (db' : SqliteDatabase) :
    Single { p with idle := [], lent := some db' } db' :=
  ⟨h.stays, h.lone, .inr ⟨rfl, rfl⟩⟩

theorem rest (h : p.Single db) (pause : Pause) : (p.rest pause).Single db := by
  have hreturned : p.returned.Single db := by
    refine ⟨h.stays, h.lone, .inl ⟨?_, rfl⟩⟩
    obtain ⟨hidle, hlent⟩ | ⟨hidle, hlent⟩ := h.database
    · rw [returned, hidle, hlent]
      rfl
    · rw [returned, hidle, hlent]
      rfl
  cases pause with
  | brief => exact h
  | calm => exact hreturned
  | long =>
    rw [VolatilePool.rest, h.stays, if_neg Bool.false_ne_true]
    exact hreturned

theorem lend_eq (h : p.Single db) : p.lend = { p with idle := [], lent := some db } := by
  obtain ⟨limits, shared, readOnly, closed, idle, lent, pauses⟩ := p
  obtain ⟨rfl, rfl⟩ | ⟨rfl, rfl⟩ := h.database
  · rfl
  · simp only [lend, h.lone, Bool.false_eq_true, if_false]

/-- A pause leaves nothing but the places of the connections changed. -/
theorem lend_rest_eq (h : p.Single db) (pause : Pause) :
    (p.rest pause).lend = { p with idle := [], lent := some db } := by
  rw [(h.rest pause).lend_eq]
  cases pause with
  | brief => rfl
  | calm => rfl
  | long =>
    rw [VolatilePool.rest, h.stays, if_neg Bool.false_ne_true]
    rfl

/-- **The next operation gets the one connection**, whatever the pause before it. -/
theorem acquire_eq (h : p.Single db) :
    p.acquire = { p with idle := [], lent := some db, pauses := p.pauses.tail } := by
  rw [acquire]
  cases hpauses : p.pauses with
  | nil =>
    rw [h.lend_eq, hpauses]
    rfl
  | cons pause pauses => exact (h.pausing pauses).lend_rest_eq pause

/-- A statement finds the connection lent, or lends it. -/
theorem lent_eq (h : p.Single db) :
    (if p.lent.isSome then p else p.lend) = { p with idle := [], lent := some db } := by
  split
  · next hlent =>
    obtain ⟨limits, shared, readOnly, closed, idle, lent, pauses⟩ := p
    obtain ⟨rfl, rfl⟩ | ⟨rfl, rfl⟩ := h.database
    · cases hlent
    · rfl
  · exact h.lend_eq

end Single

end VolatilePool

/-! ### Stores that follow one connection -/

/-- The queries leave the database as it is. -/
theorem SqliteDatabase.perform_query {db db' : SqliteDatabase} {readOnly : Bool}
    {st : Statement} {r : Reply} (h : db.perform readOnly st = .ok (db', r))
    (hst : st ≠ .createUsers ∧ ∀ u, st ≠ .insert u) : db' = db := by
  obtain ⟨_ | rows⟩ := db
  · cases st with
    | createUsers => exact absurd rfl hst.1
    | insert u => exact absurd rfl (hst.2 u)
    | countId a => cases h
    | find n => cases h
  · cases st with
    | createUsers => exact absurd rfl hst.1
    | insert u => exact absurd rfl (hst.2 u)
    | countId a =>
      cases h
      rfl
    | find n =>
      cases h
      rfl

/-- The one connection of `v` is the connection that stands for all in `s`. -/
def VolatileState.Follows (v : VolatileState) (s : SqliteState) : Prop :=
  ∃ db, v.pool.Single db ∧ s.pool = ⟨.own db, v.pool.readOnly, v.pool.closed⟩ ∧
    s.source = v.source

namespace VolatileState.Follows

variable {v : VolatileState} {s : SqliteState}

theorem perform (h : v.Follows s) (st : Statement) :
    (VolatilePool.perform st v).value = (SqlitePool.perform st s).value ∧
      (VolatilePool.perform st v).state.Follows (SqlitePool.perform st s).state := by
  obtain ⟨pool, source⟩ := v
  obtain ⟨files, pool', source'⟩ := s
  obtain ⟨db, hsingle, hpool, hsource⟩ := h
  obtain rfl : pool' = ⟨.own db, pool.readOnly, pool.closed⟩ := hpool
  obtain rfl : source' = source := hsource
  simp only [VolatilePool.perform, hsingle.lent_eq, SqlitePool.perform, SqlitePool.database,
    Except.bind, Option.getD_some]
  cases hperform : db.perform pool.readOnly st with
  | error e => exact ⟨rfl, db, hsingle.lending db, rfl, rfl⟩
  | ok result =>
    obtain ⟨db', reply⟩ := result
    -- `v` puts back what the statement left, `s` only what it changed
    cases st with
    | createUsers => exact ⟨rfl, db', hsingle.lending db', rfl, rfl⟩
    | insert u => exact ⟨rfl, db', hsingle.lending db', rfl, rfl⟩
    | countId a =>
      obtain rfl := SqliteDatabase.perform_query hperform ⟨by simp, by simp⟩
      exact ⟨rfl, db', hsingle.lending db', rfl, rfl⟩
    | find n =>
      obtain rfl := SqliteDatabase.perform_query hperform ⟨by simp, by simp⟩
      exact ⟨rfl, db', hsingle.lending db', rfl, rfl⟩

/-- What is asked of the database client is answered alike. -/
theorem respond (h : v.Follows s) (q : SqlStep) :
    (VolatilePool.respond q v).value = (SqlitePool.respond q s).value ∧
      (VolatilePool.respond q v).state.Follows (SqlitePool.respond q s).state := by
  cases q with
  | perform st => exact h.perform st
  | draw =>
    obtain ⟨db, hsingle, hpool, hsource⟩ := h
    have hdraw : s.source.draw = v.source.draw := congrArg CandidateSource.draw hsource
    exact ⟨(congrArg Prod.fst hdraw).symm, db, hsingle, hpool, congrArg Prod.snd hdraw⟩
  | acquire =>
    have hfollows := h
    obtain ⟨db, hsingle, hpool, hsource⟩ := h
    have hclosed : s.pool.closed = v.pool.closed := congrArg SqlitePool.closed hpool
    simp only [VolatilePool.respond, SqlitePool.respond, hclosed]
    cases v.pool.closed with
    | true => exact ⟨rfl, hfollows⟩
    | false =>
      simp only [Bool.false_eq_true, if_false]
      -- of the pauses `s` knows nothing, and the single connection is lent after all of them
      refine ⟨trivial, db, ?_, ?_, hsource⟩
      · rw [hsingle.acquire_eq]
        exact (hsingle.lending db).pausing _
      · rw [hsingle.acquire_eq]
        exact hpool

/-- **A dialogue with the database client** of either goes alike. -/
theorem run (h : v.Follows s) {α : Type} (d : Dialogue SqlStep.interface α) :
    (d.run VolatilePool.respond v).value = (d.run SqlitePool.respond s).value ∧
      (d.run VolatilePool.respond v).state.Follows (d.run SqlitePool.respond s).state :=
  Dialogue.run_simulates (C := fun _ => True) (fun q _ _ h _ => h.respond q) d h
    fun _ _ => trivial

end VolatileState.Follows

/-- The failure of a store whose table is not there. -/
def StoreError.tableMissing : StoreError :=
  .query "error returned from database: (code: 1) no such table: users"

namespace Session

/-- The session with other pauses before the operations to come. -/
def pausing (x : Session) (ps : List Pause) : Session :=
  match x.engine with
  | .volatile pool => { x with engine := .volatile { pool with pauses := ps } }
  | _ => x

/-- A session on a volatile database of one connection, and that connection. -/
inductive Follows : Session → SqliteState → Prop
  | intro {w : World} {pool : VolatilePool} {s : SqliteState}
      (h : VolatileState.Follows ⟨pool, w.source⟩ s) : Follows ⟨w, .volatile pool⟩ s

namespace Follows

variable {x : Session} {s : SqliteState}

theorem pausing (h : x.Follows s) (ps : List Pause) : (x.pausing ps).Follows s := by
  obtain ⟨db, hsingle, hpool, hsource⟩ := h
  exact ⟨db, hsingle.pausing ps, hpool, hsource⟩

variable (o : StoreOptions) (system : String)

theorem call (h : x.Follows s) (q : StoreCall) :
    (storeOf o system q x).value = (SqliteStore.store o.retry q s).value ∧
      (storeOf o system q x).state.Follows (SqliteStore.store o.retry q s).state := by
  rw [storeOf_value, storeOf_state]
  obtain ⟨h⟩ := h
  obtain ⟨hvalue, hstate⟩ := h.run (SqlStore.call SqlitePool.dialect o.retry q)
  exact ⟨hvalue, .intro hstate⟩

/-- **Whoever uses the store** gets the answers of a store on one connection. -/
theorem run (h : x.Follows s) {α : Type} (d : Dialogue StoreCall.interface α) :
    (d.run (storeOf o system) x).value = (d.run (SqliteStore.store o.retry) s).value ∧
      (d.run (storeOf o system) x).state.Follows (d.run (SqliteStore.store o.retry) s).state :=
  Dialogue.run_simulates (C := fun _ => True) (fun q _ _ h _ => h.call o system q) d h
    fun _ _ => trivial

theorem after (h : x.Follows s) (calls : List StoreCall) :
    (Store.after (storeOf o system) x calls).Follows
      (Store.after (SqliteStore.store o.retry) s calls) := by
  induction calls generalizing x s with
  | nil => exact h
  | cons q calls ih => exact ih (h.call o system q).2

end Follows

/-! ### Rows that are kept -/

/-- Whatever the pauses, a user who has been added is found ever after. -/
def KeepsRows (x : Session) (o : StoreOptions) (system : String) : Prop :=
  let S := storeOf o system
  ∀ (ps : List Pause) (before : List StoreCall) (u : User),
    let y := Store.after S (x.pausing ps) before
    (S (.add u) y).value = .ok () →
      ∀ more, (S (.get u.username) (Store.after S (S (.add u) y).state more)).value = .ok (some u)

/-- A store that follows one connection with a table keeps its rows. -/
theorem Follows.keepsRows {x : Session} {files : Files} {source : CandidateSource}
    (h : x.Follows (SqliteStore.created files source)) (o : StoreOptions) (system : String) :
    x.KeepsRows o system := by
  intro ps before u y hadd more
  obtain ⟨source', hafter⟩ :=
    SqliteStore.exists_after_holding o.retry files [] source before
  have hy := (h.pausing ps).after o system before
  rw [SqliteStore.created_eq, hafter] at hy
  obtain ⟨hvalue, hstate⟩ := hy.call o system (.add u)
  have hkept := ((hstate.after o system more).call o system (.get u.username)).1
  -- what is left to show is about the one connection that is followed
  replace hadd := hvalue.symm.trans hadd
  refine hkept.trans ?_
  rw [SqliteStore.store_add] at hadd ⊢
  split at hadd
  · cases hadd
  · next hname =>
    split at hadd
    · cases hadd
    · next hid =>
      rw [if_neg hname, if_neg hid]
      exact (SqliteStore.get_after o.retry files _ source' u.username more).1 u
        (SqliteStore.find_append_self (Bool.not_eq_true _ ▸ hname))

/-! ### Rows that are lost -/

/-- The store answers whatever is asked of it next that there is no table. -/
structure MissesTable (x : Session) (o : StoreOptions) (system : String) : Prop where
  add : ∀ u, (storeOf o system (.add u) x).value = .error .tableMissing
  get : ∀ n, (storeOf o system (.get n) x).value = .error .tableMissing
  generate : (storeOf o system .generate x).value = .error .tableMissing
  register : ∀ attempts p,
    ((Service.register attempts p).run (storeOf o system) x).value = .error .tableMissing

end Session

namespace VolatilePool

variable {v : VolatileState}

theorem respond_acquire (hopen : v.pool.closed = false) :
    respond .acquire v = ⟨.ok (), { v with pool := v.pool.acquire }, []⟩ := by
  rw [respond, hopen, if_neg Bool.false_ne_true]

/-- A new database has no table to work on. -/
theorem perform_of_empty (h : v.pool.lent = some .empty) {st : Statement}
    (hst : st ≠ .createUsers) :
    (perform st v).value = .error (.database SqliteDatabase.noTable) := by
  simp only [perform, h, Option.isSome_some, if_true, Option.getD_some]
  cases st with
  | createUsers => exact absurd rfl hst
  | countId a => rfl
  | insert u => rfl
  | find n => rfl

variable (hopen : v.pool.closed = false) (hnew : v.pool.acquire.lent = some .empty)
include hopen hnew

theorem perform_bind_of_empty {α : Type} {st : Statement} (hst : st ≠ .createUsers)
    (f : Except ClientFault Reply → Dialogue SqlStep.interface α) :
    ∃ v', (((SqlStore.perform st).bind f).run respond v).value =
      ((f (.error (.database SqliteDatabase.noTable))).run respond v').value := by
  refine ⟨(perform st { v with pool := v.pool.acquire }).state, ?_⟩
  rw [SqlStore.perform, Dialogue.bind, Dialogue.run, respond_acquire hopen,
    ← perform_of_empty (v := { v with pool := v.pool.acquire }) hnew hst]
  rfl

/-- The first check of a generation ends it. -/
theorem generate_of_empty (policy : RetryPolicy) :
    ((SqlStore.call SqlitePool.dialect policy .generate).run respond v).value =
      .error .tableMissing := by
  obtain ⟨left, hleft⟩ := policy.exists_bound_eq
  rw [SqlStore.call, Dialogue.run, respond_acquire hopen]
  show ((policy.generate.via SqlStore.trial).run respond { v with pool := v.pool.acquire }).value = _
  rw [Dialogue.run_via, RetryPolicy.generate, hleft, RetryPolicy.value_attempts_succ]
  show ((perform (.countId _) { v with pool := v.pool.acquire, source := _ }).value.bind
    SqlStore.isTaken).mapError ClientFault.storeError >>= _ = _
  rw [perform_of_empty hnew (by simp)]
  rfl

end VolatilePool

/-- **If the connection that is lent next is a new one**, there is no table. -/
theorem Session.misses_table {w : World} {pool : VolatilePool} (hopen : pool.closed = false)
    (hnew : pool.acquire.lent = some .empty) (o : StoreOptions) (system : String) :
    MissesTable ⟨w, .volatile pool⟩ o system := by
  let v : VolatileState := ⟨pool, w.source⟩
  have hgenerate : (storeOf o system .generate ⟨w, .volatile pool⟩).value =
      .error .tableMissing := by
    rw [storeOf_value]
    exact VolatilePool.generate_of_empty (v := v) hopen hnew o.retry
  refine ⟨fun u => ?_, fun n => ?_, hgenerate, fun attempts p => ?_⟩
  · rw [storeOf_value]
    have hst : Statement.insert u ≠ .createUsers := by simp
    obtain ⟨v', h⟩ := VolatilePool.perform_bind_of_empty (v := v) hopen hnew hst
      (SqlStore.finishAdd SqlitePool.dialect u)
    exact h
  · rw [storeOf_value]
    have hst : Statement.find n ≠ .createUsers := by simp
    obtain ⟨v', h⟩ := VolatilePool.perform_bind_of_empty (v := v) hopen hnew hst
      (SqlStore.finishGet SqlitePool.dialect n)
    exact h
  · obtain ⟨left, hleft⟩ := Service.exists_bound_eq attempts
    rw [Service.register, hleft, Service.rounds, Dialogue.run]
    simp only [hgenerate]
    rfl

/-- **If the connections expire**, the user who is added to a new table is gone after a long
pause, and the table with him. -/
theorem Session.lost_after_long_pause (w : World) {limits : PoolLimits}
    (hexpires : limits.expires = true) (shared : Bool) (pauses : List Pause) (o : StoreOptions)
    (system : String) (u : User) :
    let x : Session := ⟨w, .volatile
      { limits, shared, readOnly := false, idle := [], lent := some (.holding []), pauses }⟩
    let S := storeOf o system
    let added := S (.add u) (x.pausing [.calm, .long])
    added.value = .ok () ∧ added.state.MissesTable o system := by
  obtain ⟨connections, _⟩ := limits
  obtain rfl := hexpires
  intro x S added
  -- the calm pause brings the connection with the table back, to be used for the user
  have hstate : added.state = ⟨w, .volatile
      { limits := ⟨connections, true⟩, shared, readOnly := false, idle := []
        lent := some (.holding [u]), pauses := [.long] }⟩ :=
    storeOf_state ..
  refine ⟨storeOf_value .., ?_⟩
  rw [hstate]
  exact misses_table rfl rfl o system

theorem Session.not_keepsRows_of_expires (w : World) {limits : PoolLimits}
    (hexpires : limits.expires = true) (shared : Bool) (pauses : List Pause) (o : StoreOptions)
    (system : String) :
    ¬ KeepsRows ⟨w, .volatile
      { limits, shared, readOnly := false, idle := [], lent := some (.holding []), pauses }⟩
      o system := by
  intro hkeeps
  obtain ⟨hadded, hlost⟩ :=
    lost_after_long_pause w hexpires shared pauses o system (rival default)
  have hfound := hkeeps [.calm, .long] [] (rival default) hadded []
  have hgone := hlost.get (rival default).username
  cases hgone.symm.trans hfound

/-! ### Opening -/

/-- One connection with a new database, in which the table has been created if the options ask
for it. -/
def SqliteStore.prepared (o : StoreOptions) (readOnly : Bool) (files : Files)
    (source : CandidateSource) : SqliteState :=
  let s : SqliteState := ⟨files, ⟨.own .empty, readOnly, false⟩, source⟩
  if o.createSchema then (SqlStore.createSchema.run SqlitePool.respond s).state else s

section Opening

variable {o : StoreOptions} {w : World} {limits : PoolLimits} {shared readOnly : Bool}

/-- A single connection that has been prepared goes on as the connection that it is. -/
theorem follows_prepareSchema :
    (prepareSchema o ⟨w, .volatile (.opened .single shared readOnly)⟩).state.Follows
      (SqliteStore.prepared o readOnly w.files w.source) := by
  have hfirst : VolatileState.Follows ⟨.opened .single shared readOnly, w.source⟩
      ⟨w.files, ⟨.own .empty, readOnly, false⟩, w.source⟩ :=
    ⟨.empty, VolatilePool.single_opened shared readOnly, rfl, rfl⟩
  rw [prepareSchema, SqliteStore.prepared]
  split
  · exact .intro (hfirst.run SqlStore.createSchema).2
  · exact .intro hfirst

/-- Whoever has created the table may write to it. -/
theorem writable_of_prepareSchema (ho : o.createSchema = true) (hvalue : (prepareSchema o
    ⟨w, .volatile (.opened limits shared readOnly)⟩).value = .ok ()) : readOnly = false := by
  cases readOnly with
  | false => rfl
  | true =>
    rw [prepareSchema, if_pos ho] at hvalue
    cases hvalue

/-- A pool that has created its table has its connection lent. -/
theorem prepareSchema_opened (ho : o.createSchema = true) :
    prepareSchema o ⟨w, .volatile (.opened limits shared false)⟩ =
      ⟨.ok (), ⟨w, .volatile
        { limits, shared, readOnly := false, idle := [], lent := some (.holding []) }⟩, []⟩ := by
  rw [prepareSchema, if_pos ho]
  rfl

/-- What a pool is like once it has been opened: if it may have several connections, the one
that is lent next is a new one. -/
theorem exists_pool_prepareSchema (hvalue : (prepareSchema o
    ⟨w, .volatile (.opened limits shared readOnly)⟩).value = .ok ()) :
    ∃ pool : VolatilePool,
      (prepareSchema o ⟨w, .volatile (.opened limits shared readOnly)⟩).state =
        ⟨w, .volatile pool⟩ ∧
      pool.limits = limits ∧ pool.closed = false ∧
      (shared = false → 2 ≤ limits.connections → pool.acquire.lent = some .empty) := by
  cases ho : o.createSchema with
  | true =>
    obtain rfl := writable_of_prepareSchema ho hvalue
    rw [prepareSchema_opened ho]
    -- the connection that has the table is not back yet
    refine ⟨_, rfl, rfl, rfl, fun hshared hmany => ?_⟩
    have hscatter : (!shared && decide (1 < limits.connections)) = true :=
      Bool.and_eq_true_iff.mpr ⟨congrArg not hshared, decide_eq_true hmany⟩
    simp only [VolatilePool.acquire, VolatilePool.lend, VolatilePool.mayScatter, hscatter, if_true]
  | false =>
    rw [prepareSchema, ho, if_neg Bool.false_ne_true]
    -- the first connection is idle, and as empty as a new one
    exact ⟨_, rfl, rfl, rfl, fun _ _ => rfl⟩

variable {uri : String} {l : SqliteLocation} {b : Backend} {s : Session}

theorem openStore_volatile (hb : Backend.ofUri uri = .ok .sqlite)
    (hl : SqliteLocation.ofUri uri = .ok l) (hvolatile : l.isVolatile = true)
    (h : (openStore uri o w).value = .ok (b, s)) :
    let r := prepareSchema o
      ⟨w, .volatile (.opened (PoolLimits.ofUri uri o) l.isShared l.refusesWrites)⟩
    r.value = .ok () ∧ s = r.state := by
  obtain ⟨engine, files, hopen, hprepared, -, rfl⟩ := openStore_inv hb h
  obtain ⟨l', hl', ⟨-, rfl, hanywhere⟩ | ⟨hfile, -⟩⟩ := openSqlite_cases hopen
  · obtain rfl : l = l' := Except.ok.inj (hl.symm.trans hl')
    obtain rfl : files = w.files :=
      congrArg Prod.snd (Except.ok.inj (hopen.symm.trans (hanywhere w.files)))
    exact ⟨hprepared, rfl⟩
  · obtain rfl : l = l' := Except.ok.inj (hl.symm.trans hl')
    rw [hvolatile] at hfile
    cases hfile

/-- A volatile database that may be written to can be opened, if there is time for it. -/
theorem exists_openStore_volatile (hb : Backend.ofUri uri = .ok .sqlite)
    (hl : SqliteLocation.ofUri uri = .ok l) (hvolatile : l.isVolatile = true)
    (hcheck : l.check = .ok ()) (hwritable : l.refusesWrites = false)
    (hstart : (PoolLimits.ofUri uri o).start o.acquireTimeout = .ok ()) :
    ∃ s, (openStore uri o w).value = .ok (.sqlite, s) := by
  have hopen : openSqlite uri o w.files =
      .ok (.volatile (.opened (PoolLimits.ofUri uri o) l.isShared false), w.files) := by
    refine openSqlite_eq_ok_iff.mpr ⟨l, hl, hstart, ?_⟩
    rw [SqliteLocation.openWith, hcheck, hvolatile, hwritable]
    rfl
  refine ⟨_, openStore_of_prepared hb hopen ?_⟩
  rw [prepareSchema]
  split <;> rfl

end Opening

end AccountRegistry
