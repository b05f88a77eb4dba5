/-
Stores that are opened again in the middle of a session.

* **`Session.Alike`** — two sessions of which nothing that a store looks at tells them apart;
* **`Session.Alike.call`**, **`Running.Alike.step`** — they answer every call and every request
  alike and remain so;
* **`Running.reopen_of_table`** — on a table in a file, to open the store again leads to a
  session like the one before;
* **`Setup.start_inMemory`** — in memory, whatever is opened is new and empty;
* **`reopened_stores`** — sessions with and without openings in between, on a file and in memory.

Design notes: an opening writes the table again, so that the directory after it is the one
before it place by place and not as a list of entries.  Sessions are therefore compared by
what a store sees of them.
-/
import AccountRegistry.Proofs.Store.VolatilePools

namespace AccountRegistry

/-! ### Sessions alike -/

/-- Two states of which no answer of the database client tells them apart. -/
structure SqliteState.Alike (t t' : SqliteState) : Prop where
  pool : t.pool = t'.pool
  source : t.source = t'.source
  entry : ∀ p, t.pool.home = .file p → t.files.entryAt p = t'.files.entryAt p

namespace SqliteState.Alike

variable {t t' : SqliteState}

theorem database (h : t.Alike t') : t.pool.database t.files = t'.pool.database t'.files := by
  rw [← h.pool]
  cases hhome : t.pool.home with
  | own db => simp only [SqlitePool.database, hhome]
  | file p => simp only [SqlitePool.database, hhome, h.entry p hhome]

theorem store (h : t.Alike t') (db : SqliteDatabase) :
    (SqlitePool.store t db).Alike (SqlitePool.store t' db) := by
  obtain ⟨files, pool, source⟩ := t
  obtain ⟨files', pool', source'⟩ := t'
  obtain ⟨rfl, rfl, -⟩ := h
  cases hhome : pool.home with
  | own db' =>
    simp only [SqlitePool.store, hhome]
    refine ⟨rfl, rfl, fun q hq => ?_⟩
    cases hq
  | file p =>
    simp only [SqlitePool.store, hhome]
    refine ⟨rfl, rfl, fun q hq => ?_⟩
    obtain rfl : p = q := SqliteHome.file.inj (hhome.symm.trans hq)
    rw [Files.entryAt_put, Files.entryAt_put]

theorem perform (h : t.Alike t') (st : Statement) :
    (SqlitePool.perform st t).value = (SqlitePool.perform st t').value ∧
      (SqlitePool.perform st t).state.Alike (SqlitePool.perform st t').state := by
  have hsame : (t'.pool.database t'.files).bind (fun db => db.perform t'.pool.readOnly st) =
      (t.pool.database t.files).bind fun db => db.perform t.pool.readOnly st := by
    rw [h.database, h.pool]
  rw [SqlitePool.perform, SqlitePool.perform, hsame]
  split
  · exact ⟨rfl, h⟩
  · next db reply _ =>
    cases st with
    | createUsers => exact ⟨rfl, h.store db⟩
    | insert u => exact ⟨rfl, h.store db⟩
    | countId a => exact ⟨rfl, h⟩
    | find n => exact ⟨rfl, h⟩

/-- What is asked of the database client is answered alike. -/
theorem respond (h : t.Alike t') (q : SqlStep) :
    (SqlitePool.respond q t).value = (SqlitePool.respond q t').value ∧
      (SqlitePool.respond q t).state.Alike (SqlitePool.respond q t').state := by
  cases q with
  | draw =>
    have hdraw : t.source.draw = t'.source.draw := congrArg CandidateSource.draw h.source
    exact ⟨congrArg Prod.fst hdraw, h.pool, congrArg Prod.snd hdraw, h.entry⟩
  | acquire =>
    refine ⟨?_, h⟩
    show (if t.pool.closed then _ else _) = if t'.pool.closed then _ else _
    rw [h.pool]
  | perform st => exact h.perform st

end SqliteState.Alike

/-- Two sessions of which no answer of the store tells them apart. -/
structure Session.Alike (s s' : Session) : Prop where
  engine : s.engine = s'.engine
  source : s.world.source = s'.world.source
  entry : ∀ p, s.OnFile p → s.world.files.entryAt p = s'.world.files.entryAt p

namespace Session.Alike

variable {s s' : Session}

/-- Sessions whose database is in no file are told apart by the engine and the source alone. -/
theorem of_not_onFile (hengine : s.engine = s'.engine)
    (hsource : s.world.source = s'.world.source) (h : ∀ p, ¬ s.OnFile p) : s.Alike s' :=
  ⟨hengine, hsource, fun p hp => absurd hp (h p)⟩

theorem trans {s'' : Session} (h : s.Alike s') (h' : s'.Alike s'') : s.Alike s'' := by
  refine ⟨h.engine.trans h'.engine, h.source.trans h'.source, fun p hp => ?_⟩
  rw [h.entry p hp]
  rw [OnFile, h.engine] at hp
  exact h'.entry p hp

/-- **A call on two sessions that are alike** is answered alike and leaves them alike. -/
theorem call (h : s.Alike s') (o : StoreOptions) (system system' : String) (q : StoreCall) :
    (storeOf o system q s).value = (storeOf o system' q s').value ∧
      (storeOf o system q s).state.Alike (storeOf o system' q s').state := by
  rw [storeOf_value, storeOf_value, storeOf_state, storeOf_state]
  obtain ⟨⟨files, network, source⟩, engine⟩ := s
  obtain ⟨⟨files', network', source'⟩, engine'⟩ := s'
  obtain ⟨rfl, rfl, hentry⟩ := h
  cases engine with
  | memory t => exact ⟨rfl, of_not_onFile rfl rfl nofun⟩
  | volatile pool => exact ⟨rfl, of_not_onFile rfl rfl nofun⟩
  | mysql pool server seen => exact ⟨rfl, of_not_onFile rfl rfl nofun⟩
  | sqlite pool =>
    let t : SqliteState := ⟨files, pool, source⟩
    let t' : SqliteState := ⟨files', pool, source⟩
    have halike : t.Alike t' := ⟨rfl, rfl, fun p hp => hentry p ⟨pool, rfl, hp⟩⟩
    obtain ⟨hvalue, hstate⟩ := Dialogue.run_simulates (R := SqliteState.Alike)
      (C := fun _ => True) (fun q _ _ h _ => h.respond q)
      (SqlStore.call SqlitePool.dialect o.retry q) halike fun _ _ => trivial
    refine ⟨hvalue, congrArg Engine.sqlite hstate.pool, hstate.source, ?_⟩
    rintro p ⟨pool', hpool', hp⟩
    obtain rfl := Engine.sqlite.inj hpool'
    exact hstate.entry p hp

end Session.Alike

/-! ### Requests -/

/-- Two stores with the same rivals still to come, on sessions that are alike. -/
structure Racing.Alike (m s : Racing Session) : Prop where
  rivals : m.rivals = s.rivals
  inner : m.inner.Alike s.inner

/-- A call with rivals about. -/
theorem Racing.Alike.call {m s : Racing Session} (h : m.Alike s) (o : StoreOptions)
    (system system' : String) (q : StoreCall) :
    (Store.racing (storeOf o system) q m).value = (Store.racing (storeOf o system') q s).value ∧
      (Store.racing (storeOf o system) q m).state.Alike
        (Store.racing (storeOf o system') q s).state := by
  obtain ⟨hrivals, hinner⟩ := h
  obtain ⟨hvalue, hstate⟩ := hinner.call o system system' q
  cases q with
  | add u => exact ⟨hvalue, hrivals, hstate⟩
  | get n => exact ⟨hvalue, hrivals, hstate⟩
  | generate =>
    cases hm : (storeOf o system .generate m.inner).value with
    | error e =>
      rw [racing_generate_of_error _ _ hm, racing_generate_of_error _ _ (hvalue ▸ hm)]
      exact ⟨rfl, hrivals, hstate⟩
    | ok id =>
      have hs : (storeOf o system' .generate s.inner).value = .ok id := hvalue ▸ hm
      cases hr : m.rivals with
      | zero =>
        rw [racing_generate_of_no_rival _ _ hm hr,
          racing_generate_of_no_rival _ _ hs (hrivals ▸ hr)]
        exact ⟨rfl, rfl, hstate⟩
      | succ k =>
        obtain ⟨hvalue', hstate'⟩ := hstate.call o system system' (.add (rival id))
        rw [racing_generate_of_rival _ _ hm hr, racing_generate_of_rival _ _ hs (hrivals ▸ hr)]
        exact ⟨congrArg (Except.map fun _ => id) hvalue', rfl, hstate'⟩

namespace Running

/-- Two running stores of which no answer to a request tells them apart. -/
def Alike (r r' : Running) : Prop := r.racing.Alike r'.racing

theorem Alike.refl (r : Running) : r.Alike r := ⟨rfl, rfl, rfl, fun _ _ => rfl⟩

theorem Alike.trans {r r' r'' : Running} (h : r.Alike r') (h' : r'.Alike r'') : r.Alike r'' :=
  ⟨h.rivals.trans h'.rivals, h.inner.trans h'.inner⟩

/-- **A request to two stores that are alike** is answered alike and leaves them alike. -/
theorem Alike.step {r r' : Running} (h : r.Alike r') (s : Setup) (q : Request) :
    (r.step s q.step).value = (r'.step s q.step).value ∧
      (r.step s q.step).state.Alike (r'.step s q.step).state := by
  rw [step_value, step_value, Alike, step_racing, step_racing]
  exact Dialogue.run_simulates (C := fun _ => True)
    (fun q _ _ h _ => h.call s.options r.system r'.system q) _ h fun _ _ => trivial

end Running

/-! ### Sessions -/

/-- A request, or else that the store is opened again. -/
def Request.orReopen : Option Request → Step
  | some q => q.step
  | none => .reopen

/-- The answers to requests with openings in between, from the answers to the requests: that
the store has been opened is answered in its place. -/
def withReopenings : List (Option Request) → List Answer → List Answer
  | none :: qs, answers => .done :: withReopenings qs answers
  | some _ :: qs, a :: answers => a :: withReopenings qs answers
  | _, _ => []

namespace Running

/-- The running store after some requests, with openings in between. -/
def after (s : Setup) (r : Running) (qs : List (Option Request)) : Running :=
  (r.run s (qs.map Request.orReopen)).1

/-- The answers to some requests, with openings in between. -/
def answersTo (s : Setup) (r : Running) (qs : List (Option Request)) : List Answer :=
  (r.run s (qs.map Request.orReopen)).2.map Prod.fst

variable (s : Setup) (r : Running)

theorem after_cons (q : Option Request) (qs : List (Option Request)) :
    r.after s (q :: qs) = (r.step s (Request.orReopen q)).state.after s qs := rfl

theorem answersTo_cons (q : Option Request) (qs : List (Option Request)) :
    r.answersTo s (q :: qs) =
      (r.step s (Request.orReopen q)).value ::
        (r.step s (Request.orReopen q)).state.answersTo s qs := rfl

/-- To open again is to open in the world that there is. -/
theorem step_reopen {r' : Running} (h : (s.start r.session.world).value = .ok r') :
    (r.step s .reopen).value = .done ∧ (r.step s .reopen).state = r' := by
  rw [step]
  simp only [h, and_self]

end Running

/-- A setup by a URI starts with the store that the URI leads to. -/
theorem Setup.start_ofUri_iff {uri : String} {o : StoreOptions} {rivals attempts : Nat}
    {w : World} {r : Running} :
    ((Setup.ofUri uri o rivals attempts).start w).value = .ok r ↔
      ∃ b session, (openStore uri o w).value = .ok (b, session) ∧
        r = ⟨session, rivals, b.name⟩ := by
  simp only [start, openOrigin, ofUri]
  cases (openStore uri o w).value with
  | error e =>
    refine ⟨nofun, ?_⟩
    rintro ⟨b, session, h, -⟩
    cases h
  | ok opened =>
    constructor
    · intro h
      exact ⟨opened.1, opened.2, rfl, (Except.ok.inj h).symm⟩
    · rintro ⟨b, session, h, rfl⟩
      cases h
      rfl

/-! ### On a file -/

/-- Without rivals about a call is a call on the store. -/
theorem state_racing_of_no_rival {σ : Type} (inner : Store σ) (q : StoreCall) (s : σ) :
    (Store.racing inner q ⟨0, s⟩).state = ⟨0, (inner q s).state⟩ := by
  cases q with
  | add u => rfl
  | get n => rfl
  | generate =>
    cases hvalue : (inner .generate s).value with
    | error e => rw [racing_generate_of_error inner ⟨0, s⟩ hvalue]
    | ok id => rw [racing_generate_of_no_rival inner ⟨0, s⟩ hvalue rfl]

namespace Running

variable {pool : SqlitePool} {p : Path}

/-- A running store without rivals that is a pool on the table in the file at `p`. -/
structure OnTable (r : Running) (pool : SqlitePool) (p : Path) : Prop where
  rivals : r.rivals = 0
  session : r.session.OnTable pool p

theorem OnTable.step {r : Running} (h : r.OnTable pool p) (s : Setup) (q : Request) :
    (r.step s q.step).state.OnTable pool p := by
  have hracing : (r.step s q.step).state.racing.rivals = 0 ∧
      (r.step s q.step).state.racing.inner.OnTable pool p := by
    rw [step_racing]
    refine Dialogue.run_preserves
      (fun x : Racing Session => x.rivals = 0 ∧ x.inner.OnTable pool p) ?_ _ ⟨h.rivals, h.session⟩
    rintro q ⟨_, x⟩ ⟨rfl, hx⟩
    rw [Setup.store, state_racing_of_no_rival]
    exact ⟨rfl, (hx.call s.options r.system q).1⟩
  exact ⟨hracing.1, hracing.2⟩

section Reopening

variable {uri : String} {o : StoreOptions} {fs fs' : Files}
  (hb : Backend.ofUri uri = .ok .sqlite) (hpool : openSqlite uri o fs = .ok (.sqlite pool, fs'))
  (attempts : Nat)
include hb hpool

/-- **To open a table in a file again** leads to a store like the one before. -/
theorem reopen_of_table {r : Running} (h : r.OnTable pool p) :
    let s := Setup.ofUri uri o 0 attempts
    (r.step s .reopen).value = .done ∧ (r.step s .reopen).state.Alike r ∧
      (r.step s .reopen).state.OnTable pool p := by
  intro s
  obtain ⟨⟨w, engine⟩, rivals, system⟩ := r
  obtain ⟨hrivals, hengine, hhome, htable⟩ := h
  obtain rfl : rivals = 0 := hrivals
  obtain rfl : engine = .sqlite pool := hengine
  obtain ⟨files, hfiles, hvalue, -⟩ := openStore_of_table hb hpool hhome htable
  let r' : Running := ⟨⟨{ w with files }, .sqlite pool⟩, 0, Backend.name .sqlite⟩
  have hstart : (s.start w).value = .ok r' :=
    Setup.start_ofUri_iff.mpr ⟨.sqlite, _, hvalue, rfl⟩
  obtain ⟨hdone, hstate⟩ := step_reopen s ⟨⟨w, .sqlite pool⟩, 0, system⟩ hstart
  rw [hstate]
  refine ⟨hdone, ⟨rfl, rfl, rfl, fun q _ => hfiles q⟩, rfl, rfl, hhome, ?_⟩
  obtain ⟨rows, hrows⟩ := htable
  exact ⟨rows, (hfiles p).trans hrows⟩

/-- **A session on a table in a file** goes as it does without the openings in it. -/
theorem answersTo_of_table {r r' : Running} (h : r.OnTable pool p) (halike : r.Alike r')
    (qs : List (Option Request)) :
    let s := Setup.ofUri uri o 0 attempts
    r.answersTo s qs = withReopenings qs (r'.answersTo s (qs.filter Option.isSome)) ∧
      (r.after s qs).Alike (r'.after s (qs.filter Option.isSome)) ∧
      (r.after s qs).OnTable pool p := by
  intro s
  induction qs generalizing r r' with
  | nil => exact ⟨rfl, halike, h⟩
  | cons q qs ih =>
    rw [answersTo_cons, after_cons]
    cases q with
    | none =>
      obtain ⟨hdone, hsame, htable⟩ := reopen_of_table hb hpool attempts h
      obtain ⟨hanswers, hend⟩ := ih htable (hsame.trans halike)
      rw [List.filter_cons_of_neg Bool.false_ne_true]
      refine ⟨?_, hend⟩
      show (r.step s .reopen).value :: _ = _
      rw [hdone]
      exact congrArg _ hanswers
    | some q =>
      obtain ⟨hvalue, hsame⟩ := halike.step s q
      obtain ⟨hanswers, hend⟩ := ih (h.step s q) hsame
      rw [List.filter_cons_of_pos rfl, answersTo_cons, after_cons]
      refine ⟨?_, hend⟩
      show (r.step s q.step).value :: _ = (r'.step s q.step).value :: _
      rw [hvalue]
      exact congrArg _ hanswers

end Reopening

end Running

/-- A URI that leads to an SQLite database in a file. -/
def OnDisk (uri : String) : Prop :=
  Backend.ofUri uri = .ok .sqlite ∧ ∃ l, SqliteLocation.ofUri uri = .ok l ∧ l.isVolatile = false

/-- What is opened on a file with the table to be created is a pool on a table. -/
theorem Setup.start_onDisk {uri : String} (huri : OnDisk uri) {o : StoreOptions}
    (ho : o.createSchema = true) {attempts : Nat} {w : World} {r : Running}
    (h : ((Setup.ofUri uri o 0 attempts).start w).value = .ok r) :
    ∃ pool p fs, openSqlite uri o w.files = .ok (.sqlite pool, fs) ∧ r.OnTable pool p := by
  obtain ⟨hb, l, hl, hfile⟩ := huri
  obtain ⟨b, session, hvalue, rfl⟩ := start_ofUri_iff.mp h
  obtain ⟨engine, files, hopen, hprepared, -, rfl⟩ := openStore_inv hb hvalue
  obtain ⟨l', hl', ⟨hvolatile, -⟩ | ⟨-, rfl, -⟩⟩ := openSqlite_cases hopen
  · obtain rfl : l = l' := Except.ok.inj (hl.symm.trans hl')
    rw [hfile] at hvolatile
    cases hvolatile
  · refine ⟨_, Path.plain l'.name, files, hopen, rfl, ?_⟩
    rw [state_prepareSchema ho (not_closed_of_openSqlite hopen) hprepared]
    exact ⟨rfl, rfl, _, Files.entryAt_put ..⟩

/-! ### In memory -/

/-- A URI that leads to a database in memory. -/
def InMemory (uri : String) : Prop :=
  Backend.ofUri uri = .ok .memory ∨
    Backend.ofUri uri = .ok .sqlite ∧ ∃ l, SqliteLocation.ofUri uri = .ok l ∧ l.isPrivate = true

/-- A database in memory without users. -/
def Engine.IsEmpty : Engine → Prop
  | .memory t => t = .empty
  | .sqlite pool => pool.home = .own ⟨some []⟩
  | .volatile pool => pool.idle = [] ∧ pool.lent = some ⟨some []⟩
  | .mysql _ _ _ => False

theorem Engine.IsEmpty.not_onFile {w : World} {engine : Engine} (h : engine.IsEmpty) (p : Path) :
    ¬ Session.OnFile ⟨w, engine⟩ p := by
  rintro ⟨pool, hpool, hhome⟩
  obtain rfl : engine = .sqlite pool := hpool
  rw [Engine.IsEmpty, hhome] at h
  cases h

/-- **In memory, whatever is opened is new and empty**, in every world alike. -/
theorem Setup.start_inMemory {uri : String} (huri : InMemory uri) {o : StoreOptions}
    (ho : o.createSchema = true) {rivals attempts : Nat} {w : World} {r : Running}
    (h : ((Setup.ofUri uri o rivals attempts).start w).value = .ok r) :
    ∃ engine system, engine.IsEmpty ∧ ∀ w,
      ((Setup.ofUri uri o rivals attempts).start w).value =
        .ok ⟨⟨w, engine⟩, rivals, system⟩ := by
  obtain hb | ⟨hb, l, hl, hprivate⟩ := huri
  · have hopen (w : World) : (openStore uri o w).value = .ok (.memory, ⟨w, .memory .empty⟩) := by
      rw [openStore, hb]
      rfl
    exact ⟨.memory .empty, _, rfl, fun w => start_ofUri_iff.mpr ⟨_, _, hopen w, rfl⟩⟩
  · obtain ⟨b, session, hvalue, -⟩ := start_ofUri_iff.mp h
    obtain ⟨engine, files, hopen, hprepared, -, -⟩ := openStore_inv hb hvalue
    obtain ⟨l', hl', ⟨-, rfl, hanywhere⟩ | ⟨hfile, -⟩⟩ := openSqlite_cases hopen
    · let pool := VolatilePool.opened (PoolLimits.ofUri uri o) l'.isShared false
      -- the table is created whatever the world, since it has been created once
      rw [writable_of_prepareSchema ho hprepared] at hanywhere
      have hvalue (w : World) : (openStore uri o w).value =
          .ok (.sqlite, (prepareSchema o ⟨w, .volatile pool⟩).state) :=
        openStore_of_prepared hb (hanywhere w.files)
          (congrArg Outcome.value (prepareSchema_opened ho))
      simp only [pool, prepareSchema_opened ho] at hvalue
      exact ⟨.volatile { pool with idle := [], lent := some (.holding []) }, _, ⟨rfl, rfl⟩,
        fun w => start_ofUri_iff.mpr ⟨_, _, hvalue w, rfl⟩⟩
    · obtain rfl : l = l' := Except.ok.inj (hl.symm.trans hl')
      rw [SqliteLocation.isVolatile, hprivate] at hfile
      cases hfile

/-- Sessions in memory that are alike go alike, openings and all. -/
theorem Running.answersTo_inMemory {s : Setup} {engine : Engine} {rivals : Nat} {system : String}
    (hempty : engine.IsEmpty)
    (hstart : ∀ w, (s.start w).value = .ok ⟨⟨w, engine⟩, rivals, system⟩) {r r' : Running}
    (h : r.Alike r') (qs : List (Option Request)) :
    r.answersTo s qs = r'.answersTo s qs ∧ (r.after s qs).Alike (r'.after s qs) := by
  induction qs generalizing r r' with
  | nil => exact ⟨rfl, h⟩
  | cons q qs ih =>
    have hstep : (r.step s (Request.orReopen q)).value = (r'.step s (Request.orReopen q)).value ∧
        (r.step s (Request.orReopen q)).state.Alike (r'.step s (Request.orReopen q)).state := by
      cases q with
      | some q => exact h.step s q
      | none =>
        obtain ⟨hdone, hstate⟩ := r.step_reopen s (hstart r.session.world)
        obtain ⟨hdone', hstate'⟩ := r'.step_reopen s (hstart r'.session.world)
        rw [Request.orReopen, hdone, hdone', hstate, hstate']
        exact ⟨rfl, rfl, .of_not_onFile rfl h.inner.source hempty.not_onFile⟩
    obtain ⟨hvalue, hsame⟩ := hstep
    obtain ⟨hanswers, hend⟩ := ih hsame
    rw [answersTo_cons, answersTo_cons, after_cons, after_cons, hvalue, hanswers]
    exact ⟨rfl, hend⟩

/-! ### On a file and in memory -/

/-- **Stores that are opened again.**  Let a URI be opened, with the table to be created and
without rivals.  If it leads to a database in a file, then to open the store again between
requests, wherever and as often as one likes, always succeeds and changes neither the answers
to the requests nor the candidates that are left, nor what is in the file.  If it leads to a
database in memory, then whatever has been done before, to open the store again succeeds and
leads to an empty store; from then on the answers are those of a store that is opened for the
first time, with the candidates that are left. -/
theorem reopened_stores (o : StoreOptions) (attempts : Nat) (uri : String) (w : World)
    {r : Running} :
    let s := Setup.ofUri uri { o with createSchema := true } 0 attempts
    (s.start w).value = .ok r →
    (OnDisk uri → ∃ p, r.session.OnFile p ∧ ∀ qs : List (Option Request),
      let plain := qs.filter Option.isSome
      r.answersTo s qs = withReopenings qs (r.answersTo s plain) ∧
      (r.after s qs).session.world.source = (r.after s plain).session.world.source ∧
      (r.after s qs).session.world.files.entryAt p =
        (r.after s plain).session.world.files.entryAt p) ∧
    (InMemory uri → ∀ before : Running,
      let r' := (before.step s .reopen).state
      (before.step s .reopen).value = .done ∧ r'.session.engine.IsEmpty ∧
      r'.session.world.source = before.session.world.source ∧
      ∀ w', w'.source = before.session.world.source → ∃ new, (s.start w').value = .ok new ∧
        ∀ qs : List (Option Request), r'.answersTo s qs = new.answersTo s qs ∧
          (r'.after s qs).session.world.source = (new.after s qs).session.world.source) := by
  intro s hstart
  constructor
  · intro huri
    obtain ⟨pool, p, fs, hpool, htable⟩ := Setup.start_onDisk huri rfl hstart
    refine ⟨p, htable.session.onFile, fun qs => ?_⟩
    obtain ⟨hanswers, halike, hend⟩ :=
      Running.answersTo_of_table huri.1 hpool attempts htable (.refl r) qs
    exact ⟨hanswers, halike.inner.source, halike.inner.entry p hend.session.onFile⟩
  · intro huri before r'
    obtain ⟨engine, system, hempty, hfresh⟩ := Setup.start_inMemory huri rfl hstart
    obtain ⟨hdone, hstate⟩ := before.step_reopen s (hfresh before.session.world)
    have hr : r' = ⟨⟨before.session.world, engine⟩, 0, system⟩ := hstate
    rw [hr]
    refine ⟨hdone, hempty, rfl, fun w' hw' => ⟨_, hfresh w', fun qs => ?_⟩⟩
    have halike : Running.Alike ⟨⟨before.session.world, engine⟩, 0, system⟩
        ⟨⟨w', engine⟩, 0, system⟩ :=
      ⟨rfl, .of_not_onFile rfl hw'.symm hempty.not_onFile⟩
    obtain ⟨hanswers, hend⟩ := Running.answersTo_inMemory hempty hfresh halike qs
    exact ⟨hanswers, hend.inner.source⟩

/-- A world without files. -/
def bareWorld : World where
  files := .ofTexts []
  network := .down
  source := .scripted [] id

/-- A store by a URI, with the table to be created. -/
def Setup.creating (uri : String) : Setup :=
  .ofUri uri { StoreOptions.standard with createSchema := true } 0 3

theorem Setup.start_users :
    ∃ r, ((creating "sqlite:users.db?mode=rwc").start bareWorld).value = .ok r ∧
      OnDisk "sqlite:users.db?mode=rwc" := by
  let o : StoreOptions := { StoreOptions.standard with createSchema := true }
  let pool : SqlitePool := ⟨.file ["users.db"], false, false⟩
  let files : Files := { entries := [(["users.db"], .text "")] }
  have hb : Backend.ofUri "sqlite:users.db?mode=rwc" = .ok .sqlite := rfl
  have hl : SqliteLocation.ofUri "sqlite:users.db?mode=rwc" =
      .ok { name := "users.db", createIfMissing := true } := by
    decide +kernel
  have hpool : openSqlite "sqlite:users.db?mode=rwc" o bareWorld.files =
      .ok (.sqlite pool, files) :=
    openSqlite_eq_ok_iff.mpr ⟨_, hl, by decide +kernel, rfl⟩
  have hprepared : (prepareSchema o ⟨{ bareWorld with files }, .sqlite pool⟩).value = .ok () := rfl
  have hvalue := openStore_of_prepared hb (w := bareWorld) hpool hprepared
  exact ⟨_, start_ofUri_iff.mpr ⟨_, _, hvalue, rfl⟩, hb, _, hl, by decide⟩

theorem Setup.start_memory :
    ∃ r, ((creating "sqlite::memory:").start bareWorld).value = .ok r ∧
      InMemory "sqlite::memory:" := by
  let o : StoreOptions := { StoreOptions.standard with createSchema := true }
  have hb : Backend.ofUri "sqlite::memory:" = .ok .sqlite := rfl
  have hl : SqliteLocation.ofUri "sqlite::memory:" =
      .ok { name := "", inMemory := true, sharedCache := true } := by
    decide +kernel
  let engine := Engine.volatile (.opened .single false false)
  have hpool : openSqlite "sqlite::memory:" o bareWorld.files = .ok (engine, bareWorld.files) :=
    openSqlite_eq_ok_iff.mpr ⟨_, hl, by decide +kernel, rfl⟩
  have hprepared : (prepareSchema o ⟨bareWorld, engine⟩).value = .ok () := rfl
  have hvalue := openStore_of_prepared hb (w := bareWorld) hpool hprepared
  exact ⟨_, start_ofUri_iff.mpr ⟨_, _, hvalue, rfl⟩, .inr ⟨hb, _, hl, rfl⟩⟩

/-- A store on a new file, and one on a database in memory. -/
theorem reopened_stores_bare :
    (∃ r, ((Setup.creating "sqlite:users.db?mode=rwc").start bareWorld).value = .ok r ∧
      ∀ qs, r.answersTo (.creating "sqlite:users.db?mode=rwc") qs =
        withReopenings qs (r.answersTo (.creating "sqlite:users.db?mode=rwc")
          (qs.filter Option.isSome))) ∧
    (∃ r, ((Setup.creating "sqlite::memory:").start bareWorld).value = .ok r ∧
      ∀ qs, ((r.after (.creating "sqlite::memory:") qs).step (.creating "sqlite::memory:")
        .reopen).state.session.engine.IsEmpty) := by
  obtain ⟨r, hr, hdisk⟩ := Setup.start_users
  obtain ⟨m, hm, hmemory⟩ := Setup.start_memory
  obtain ⟨p, -, hsession⟩ := (reopened_stores .standard 3 _ bareWorld hr).1 hdisk
  have hempty := (reopened_stores .standard 3 _ bareWorld hm).2 hmemory
  exact ⟨⟨r, hr, fun qs => (hsession qs).1⟩, m, hm, fun qs => (hempty _).2.1⟩

end AccountRegistry
