/-
Registrations among rivals.

A rival takes an id as soon as it has been generated, and before the user with that id can be
inserted.

* **`Service.Race`** — the rounds of a registration while rivals are still to come: its calls,
  its result, the rivals left and the users after it;
* **`Race.ids_nodup`**, **`Race.registers`**, **`Race.givesUp`**, **`Race.rivals_left`** — who
  wins a race, with which id, and what the table holds then;
* **`Store.KeepsUsers.round_of_rival`**, **`KeepsUsers.exists_race`** — a rival takes the id of
  a round, and a registration with a store that keeps a table of users runs such a race, if its
  generations find ids;
* **`registration_among_rivals`** — all of this for the store in memory and the store on SQLite
  after any calls.

Design notes: that a rival can be inserted depends on its username.  Those of the rivals that
have come before are kept apart from it by the ids in them, so that the rounds preserve that
whoever has the name of a rival is the rival with the own id.
-/
import AccountRegistry.Proofs.Service
import AccountRegistry.Proofs.Store.Agreement
import AccountRegistry.Proofs.Store.UserTable

namespace AccountRegistry

/-- Whether a username has the form of that of a rival. -/
def IsRivalName (n : String) : Prop := ∃ rest, n = "rival-" ++ rest

theorem isRivalName_rival (id : AccountId) : IsRivalName (rival id).username := ⟨id.text, rfl⟩

/-- The username of a rival tells its id. -/
theorem rival_username_injective {a b : AccountId} (h : (rival a).username = (rival b).username) :
    a = b :=
  congrArg AccountId.mk ((String.append_right_inj "rival-").mp h)

namespace Service

/-! ### Races -/

/-- The calls of a registration of `p` among the users `us`, when `left` rounds of `total` are
left and a number of rivals is still to come, with their answers; the result that they lead to,
the rivals that are left then, and the users of the table then. -/
inductive Race (p : Profile) (total : Nat) :
    (us : List User) → (left rivals : Nat) → List (Exchange StoreCall.interface) →
      Except StoreError User → Nat → List User → Prop
  | gaveUp (us : List User) (k : Nat) : Race p total us 0 k [] (.error (.exhausted total)) k us
  /-- No rival is about. -/
  | registered {us : List User} (left : Nat) {id : AccountId}
      (hfree : id ∉ us.map User.accountId) :
      Race p total us (left + 1) 0 [⟨.generate, .ok id⟩, ⟨.add (p.withId id), .ok ()⟩]
        (.ok (p.withId id)) 0 (us ++ [p.withId id])
  /-- A rival has taken the id, and there is another round. -/
  | lost {us us' : List User} {left k k' : Nat} {es : List (Exchange StoreCall.interface)}
      {r : Except StoreError User} {id : AccountId} (hfree : id ∉ us.map User.accountId)
      (h : Race p total (us ++ [rival id]) left k es r k' us') :
      Race p total us (left + 1) (k + 1) (⟨.generate, .ok id⟩ ::
        ⟨.add (p.withId id), .error (.duplicate .accountId)⟩ :: es) r k' us'

namespace Race

variable {p : Profile} {total left k k' : Nat} {us us' : List User}
  {es : List (Exchange StoreCall.interface)} {r : Except StoreError User}

/-- **The ids of a race** are distinct from each other and from those in use before it. -/
theorem ids_nodup (h : Race p total us left k es r k' us') :
    (es.filterMap generatedId).Nodup ∧
      ∀ a ∈ es.filterMap generatedId, a ∉ us.map User.accountId := by
  induction h with
  | gaveUp us k => exact ⟨List.nodup_nil, List.forall_mem_nil _⟩
  | registered left hfree => exact ⟨List.nodup_singleton _, List.forall_mem_singleton.mpr hfree⟩
  | @lost us us' left k k' es r id hfree h ih =>
    obtain ⟨hnodup, hunused⟩ := ih
    -- what comes later avoids the rival too, and with it this id
    have hlater : ∀ a ∈ es.filterMap generatedId, a ≠ id ∧ a ∉ us.map User.accountId := by
      intro a ha
      have hnot := hunused a ha
      rw [List.map_append, List.mem_append, not_or] at hnot
      exact ⟨fun heq => hnot.2 (List.mem_singleton.mpr heq), hnot.1⟩
    refine ⟨List.nodup_cons.mpr ⟨fun hmem => (hlater id hmem).1 rfl, hnodup⟩, ?_⟩
    exact List.forall_mem_cons.mpr ⟨hfree, fun a ha => (hlater a ha).2⟩

/-- **With more rounds than rivals** the last id that is generated becomes that of the user, and
the others those of the rivals. -/
theorem registers (h : Race p total us left k es r k' us') (hk : k < left) :
    ∃ lost id, es.filterMap generatedId = lost ++ [id] ∧ lost.length = k ∧
      r = .ok (p.withId id) ∧ us' = us ++ lost.map rival ++ [p.withId id] := by
  induction h with
  | gaveUp us k => exact absurd hk (Nat.not_lt_zero k)
  | @registered us left id hfree =>
    exact ⟨[], id, rfl, rfl, rfl, congrArg (· ++ [p.withId id]) (List.append_nil us).symm⟩
  | @lost us us' left k k' es r id hfree h ih =>
    obtain ⟨lost, last, hids, hlength, hr, hus⟩ := ih (Nat.lt_of_succ_lt_succ hk)
    refine ⟨id :: lost, last, congrArg (id :: ·) hids, congrArg Nat.succ hlength, hr, ?_⟩
    rw [hus, List.append_assoc us]
    rfl

/-- **With no more rounds than rivals** every id that is generated becomes that of a rival. -/
theorem givesUp (h : Race p total us left k es r k' us') (hk : left ≤ k) :
    (es.filterMap generatedId).length = left ∧ r = .error (.exhausted total) ∧
      us' = us ++ (es.filterMap generatedId).map rival := by
  induction h with
  | gaveUp us k => exact ⟨rfl, rfl, (List.append_nil us).symm⟩
  | registered left hfree => exact absurd hk (Nat.not_succ_le_zero left)
  | @lost us us' left k k' es r id hfree h ih =>
    obtain ⟨hlength, hr, hus⟩ := ih (Nat.le_of_succ_le_succ hk)
    refine ⟨congrArg Nat.succ hlength, hr, ?_⟩
    rw [hus, List.append_assoc us]
    rfl

/-- A round keeps one rival busy. -/
theorem rivals_left (h : Race p total us left k es r k' us') : k' = k - left := by
  induction h with
  | gaveUp us k => rfl
  | registered left hfree => exact (Nat.zero_sub _).symm
  | lost hfree h ih => rw [ih, Nat.succ_sub_succ]

end Race

end Service

/-! ### A registration among rivals -/

namespace Store

variable {σ : Type} {S : Store σ} {policy : RetryPolicy}
  {Holds : σ → List User → CandidateSource → Prop} {s : σ} {us : List User}
  {source : CandidateSource}

/-- Whoever has the name of a rival is named after the own id. -/
def RivalsApart (us : List User) : Prop :=
  ∀ v ∈ us, IsRivalName v.username → v.username = (rival v.accountId).username

theorem RivalsApart.concat (h : RivalsApart us) (id : AccountId) :
    RivalsApart (us ++ [rival id]) := by
  intro v hv hname
  obtain hv | hv := List.mem_append.mp hv
  · exact h v hv hname
  · rw [List.mem_singleton.mp hv]
    rfl

/-- The name of a rival is free if its id is. -/
theorem RivalsApart.username_notMem (h : RivalsApart us) {id : AccountId}
    (hfree : id ∉ us.map User.accountId) : (rival id).username ∉ us.map (·.username) := by
  intro hmem
  obtain ⟨v, hv, hname⟩ := List.mem_map.mp hmem
  have hown := h v hv (hname ▸ isRivalName_rival id)
  exact hfree (rival_username_injective (hown.symm.trans hname) ▸ List.mem_map_of_mem hv)

/-- A username that is not that of a rival stays free when a rival comes. -/
theorem username_notMem_concat {n : String} (hname : ¬ IsRivalName n)
    (hfree : n ∉ us.map (·.username)) (id : AccountId) :
    n ∉ (us ++ [rival id]).map (·.username) := by
  rw [List.map_append, List.mem_append, not_or]
  refine ⟨hfree, fun hmem => hname ?_⟩
  rw [List.mem_singleton.mp hmem]
  exact isRivalName_rival id

/-! ### A round -/

section Round

variable {x : Racing σ} {p : Profile} {id : AccountId} (hS : S.KeepsUsers policy Holds)
  (hid : (S .generate x.inner).value = .ok id) (h : Holds (S .generate x.inner).state us source)
  (hunused : id ∉ us.map User.accountId) (hfree : p.username ∉ us.map (·.username))
include hS hid h hunused hfree

/-- **Without a rival** the user of a round is inserted. -/
theorem KeepsUsers.round_of_no_rival (hrivals : x.rivals = 0) :
    let generated := racing S .generate x
    let added := racing S (.add (p.withId id)) generated.state
    generated.value = .ok id ∧ added.value = .ok () ∧ added.state.rivals = 0 ∧
      Holds added.state.inner (us ++ [p.withId id]) source := by
  intro generated added
  have hgenerated : generated = _ := racing_generate_of_no_rival S x hid hrivals
  obtain ⟨us', hinserts, hholds⟩ := hS.add h (p.withId id)
  obtain ⟨hadd, rfl⟩ := hinserts.of_free hunused hfree
  have hadded : added = racing S (.add (p.withId id)) ⟨0, (S .generate x.inner).state⟩ :=
    congrArg (racing S _ ·.state) hgenerated
  rw [hgenerated, hadded]
  exact ⟨rfl, hadd, rfl, hholds⟩

/-- **With a rival** it is the rival who is inserted, and the user is refused for the id. -/
theorem KeepsUsers.round_of_rival {k : Nat} (hrivals : x.rivals = k + 1)
    (hname : ¬ IsRivalName p.username) (hapart : RivalsApart us) :
    let generated := racing S .generate x
    let added := racing S (.add (p.withId id)) generated.state
    generated.value = .ok id ∧ added.value = .error (.duplicate .accountId) ∧
      added.state.rivals = k ∧ Holds added.state.inner (us ++ [rival id]) source := by
  intro generated added
  obtain ⟨us₁, hrival, hholds₁⟩ := hS.add h (rival id)
  obtain ⟨haddRival, rfl⟩ := hrival.of_free hunused (hapart.username_notMem hunused)
  have hgenerated : generated = _ := racing_generate_of_rival S x hid hrivals
  simp only [haddRival] at hgenerated
  obtain ⟨us₂, hinserts, hholds₂⟩ := hS.add hholds₁ (p.withId id)
  have hidTaken : id ∈ (us ++ [rival id]).map User.accountId :=
    List.mem_map_of_mem (List.mem_append_right us List.mem_cons_self)
  obtain ⟨hadd, rfl⟩ := hinserts.of_id_taken hidTaken (username_notMem_concat hname hfree id)
  have hadded : added = racing S (.add (p.withId id)) ⟨k, _⟩ :=
    congrArg (racing S _ ·.state) hgenerated
  rw [hgenerated, hadded]
  exact ⟨rfl, hadd, rfl, hholds₂⟩

end Round

/-- **The rounds of a registration among rivals.** As long as rivals come, each of them takes
the id that has been generated; the first round without a rival succeeds. -/
theorem KeepsUsers.exists_race (hS : S.KeepsUsers policy Holds) {p : Profile}
    (hname : ¬ IsRivalName p.username) (total left attempt : Nat) {x : Racing σ}
    (h : Holds x.inner us source) (hfree : p.username ∉ us.map (·.username))
    (hapart : RivalsApart us)
    (hfound : ⟨.generate, .error (.exhausted policy.bound)⟩ ∉
      (Service.rounds p total left attempt).transcript (racing S) x) :
    ∃ es r t us' source', (Service.rounds p total left attempt).RunsTo (racing S) x es r t ∧
      Service.Race p total us left x.rivals es r t.rivals us' ∧ Holds t.inner us' source' := by
  induction left generalizing attempt x us source with
  | zero => exact ⟨[], _, x, us, source, .done _ _, .gaveUp us x.rivals, h⟩
  | succ left ih =>
    obtain ⟨n, hgenerates, hafter⟩ := hS.generate h
    generalize hvalue : (S .generate x.inner).value = generated at hgenerates
    cases hgenerates with
    | exhausted htaken =>
      have hgenerated := racing_generate_of_error S x hvalue
      rw [(Service.rounds_notGenerated (congrArg Outcome.value hgenerated)).transcript] at hfound
      exact absurd List.mem_cons_self hfound
    | found hj htaken hunused =>
      cases hrivals : x.rivals with
      | zero =>
        obtain ⟨hid, hadd, hleft, hholds⟩ :=
          hS.round_of_no_rival hvalue hafter hunused hfree hrivals
        refine ⟨_, _, _, _, _, Service.rounds_registered hid rfl hadd, ?_, hholds⟩
        rw [hleft]
        exact .registered left hunused
      | succ k =>
        obtain ⟨hid, hadd, hleft, hholds⟩ :=
          hS.round_of_rival hvalue hafter hunused hfree hrivals hname hapart
        rw [(Service.rounds_lost hid rfl hadd ⟨rfl, rfl, rfl⟩).transcript] at hfound
        obtain ⟨es, r, t, us', source', hrest, hrace, hend⟩ :=
          ih (attempt + 1) hholds (username_notMem_concat hname hfree _) (hapart.concat _)
            fun hmem => hfound (List.mem_cons_of_mem _ (List.mem_cons_of_mem _ hmem))
        rw [hleft] at hrace
        exact ⟨_, r, t, us', source', Service.rounds_lost hid rfl hadd hrest,
          .lost hunused hrace, hend⟩

/-- What a registration of `p` in at most `m` rounds comes to, when `k` rivals are to come and
the table holds the users `us` before it: its calls with their answers, its result, the rivals
that are left, and the users that the table holds after it. -/
structure Outlasts (p : Profile) (m k : Nat) (us : List User)
    (es : List (Exchange StoreCall.interface)) (r : Except StoreError User) (k' : Nat)
    (us' : List User) : Prop where
  ids_nodup : (es.filterMap Service.generatedId).Nodup
  ids_unused : ∀ id ∈ es.filterMap Service.generatedId, id ∉ us.map User.accountId
  /-- There are more rounds than rivals: the last id becomes that of the user. -/
  registers : k < m → ∃ lost id, es.filterMap Service.generatedId = lost ++ [id] ∧
    lost.length = k ∧ r = .ok (p.withId id) ∧ us' = us ++ lost.map rival ++ [p.withId id]
  /-- Every round meets a rival. -/
  gives_up : m ≤ k → (es.filterMap Service.generatedId).length = m ∧
    r = .error (.exhausted m) ∧ us' = us ++ (es.filterMap Service.generatedId).map rival
  rivals_left : k' = k - m

/-- In the state `s`, when `k` rivals are to come, a registration of `p` runs its race, if all
of its generations find an id, and neither its username nor one of those of the users `us` is
that of a rival. -/
structure RegistersAmongRivals (S : Store σ) (Holds : σ → List User → CandidateSource → Prop)
    (g : Nat) (s : σ) (us : List User) (source : CandidateSource) (k configured : Nat)
    (p : Profile) : Prop where
  before : Holds s us source
  outlasts :
    let d := Service.register configured p
    let m := max 1 configured
    let o := d.run (racing S) ⟨k, s⟩
    ⟨.generate, .error (.exhausted g)⟩ ∉ d.transcript (racing S) ⟨k, s⟩ →
    p.username ∉ us.map (·.username) →
    (∀ n ∈ p.username :: us.map (·.username), ¬ IsRivalName n) →
    (∃ us' source', Holds o.state.inner us' source' ∧
      Outlasts p m k us (d.transcript (racing S) ⟨k, s⟩) o.value o.state.rivals us') ∧
    (m ≤ k → (S (.get p.username) o.state.inner).value = .ok none)

theorem KeepsUsers.registersAmongRivals (hS : S.KeepsUsers policy Holds)
    (h : Holds s us source) (k configured : Nat) (p : Profile) :
    S.RegistersAmongRivals Holds (max 1 policy.maxAttempts) s us source k configured p := by
  refine ⟨h, fun hgenerated hfree hnames => ?_⟩
  obtain ⟨hname, hothers⟩ := List.forall_mem_cons.mp hnames
  have hbound : Service.bound configured = max 1 configured := Nat.max_comm _ _
  have hattempts : policy.bound = max 1 policy.maxAttempts := Nat.max_comm _ _
  have hapart : RivalsApart us := fun v hv hrival =>
    absurd hrival (hothers _ (List.mem_map_of_mem hv))
  rw [← hattempts] at hgenerated
  obtain ⟨es, r, t, us', source', hrun, hrace, hholds⟩ :=
    hS.exists_race hname _ _ 1 (x := ⟨k, s⟩) h hfree hapart hgenerated
  have hrun : (Service.register configured p).RunsTo (racing S) ⟨k, s⟩ es r t := hrun
  rw [hbound] at hrace
  rw [hrun.transcript, hrun.value, hrun.state]
  refine ⟨⟨us', source', hholds, ?_⟩, fun hk => ?_⟩
  · exact ⟨hrace.ids_nodup.1, hrace.ids_nodup.2, hrace.registers, hrace.givesUp,
      hrace.rivals_left⟩
  · -- all that the table has gained are rivals
    rw [(hS.get hholds p.username).1, (hrace.givesUp hk).2.2]
    refine congrArg Except.ok (List.find?_eq_none.mpr fun v hv heq => ?_)
    have heq : v.username = p.username := beq_iff_eq.mp heq
    obtain hv | hv := List.mem_append.mp hv
    · exact hfree (heq ▸ List.mem_map_of_mem hv)
    · obtain ⟨id, -, rfl⟩ := List.mem_map.mp hv
      exact hname (heq ▸ isRivalName_rival id)

end Store

/-- **A registration among rivals**, with the store in memory after any calls, and with the
store on SQLite after any calls on a table that held some users, when the next `k` ids that are
generated go to rivals: with more rounds than rivals it registers its user, with the id that
it has generated last, and with no more rounds than rivals it tells that they are used up.  The
table gains the rivals and that user, all of them with new ids, and nobody else. -/
theorem registration_among_rivals (policy : RetryPolicy) (calls : List StoreCall)
    (k configured : Nat) (p : Profile) (source : CandidateSource) {t : SqliteState}
    {us : List User} {source' : CandidateSource} (ht : t.Holds us source') :
    let g := max 1 policy.maxAttempts
    (let S := MemoryStore.store policy
      let s := Store.after S ⟨.empty, source⟩ calls
      S.RegistersAmongRivals MemoryState.Holds g s (Store.inserted S ⟨.empty, source⟩ calls)
        s.source k configured p) ∧
    (let S := SqliteStore.store policy
      let s := Store.after S t calls
      S.RegistersAmongRivals SqliteState.Holds g s (us ++ Store.inserted S t calls)
        s.source k configured p) := by
  intro g
  constructor
  · intro S s
    exact (MemoryStore.keepsUsers policy).registersAmongRivals
      (MemoryStore.holds_after policy source calls) k configured p
  · intro S s
    exact (SqliteStore.keepsUsers policy).registersAmongRivals
      (SqliteStore.holds_after policy ht calls) k configured p

/-- Somebody whose name is not that of a rival. -/
def outsider : Profile := { (default : Profile) with username := "alice" }

theorem not_isRivalName_outsider : ¬ IsRivalName outsider.username := by
  rintro ⟨rest, h⟩
  have hchars := congrArg String.toList h
  simp [outsider] at hchars

/-- An empty table, and a source that has the same id twice. -/
def emptyTable : SqliteState :=
  .holding (.ofTexts []) [] (.scripted [⟨"1000000001"⟩, ⟨"1000000001"⟩, ⟨"1000000002"⟩] id)

/-- Some rivals on that table. -/
def rivals : Store (Racing SqliteState) := Store.racing (SqliteStore.store (.immediate 8))

/-- One rival is outlasted in three rounds, and five rivals are not outlasted in two. -/
theorem registration_among_rivals_few_and_many :
    let few := (Service.register 3 outsider).run rivals ⟨1, emptyTable⟩
    let many := (Service.register 2 outsider).run rivals ⟨5, emptyTable⟩
    emptyTable.Holds [] emptyTable.source ∧
    (few.value = .ok (outsider.withId ⟨"1000000002"⟩) ∧
      ∃ us source, few.state.inner.Holds us source ∧
        Store.Outlasts outsider 3 1 []
          ((Service.register 3 outsider).transcript rivals ⟨1, emptyTable⟩) few.value
          few.state.rivals us) ∧
    many.value = .error (.exhausted 2) ∧
      (SqliteStore.store (.immediate 8) (.get outsider.username) many.state.inner).value =
        .ok none := by
  have ht : emptyTable.Holds [] emptyTable.source := SqliteState.holds_holding _ _ _
  have hnames : ∀ n ∈ [outsider.username], ¬ IsRivalName n :=
    List.forall_mem_singleton.mpr not_isRivalName_outsider
  -- the second generation of each run has to skip the id of the first rival
  have hfewCalls : (Service.register 3 outsider).transcript rivals ⟨1, emptyTable⟩ =
      [⟨.generate, .ok ⟨"1000000001"⟩⟩,
        ⟨.add (outsider.withId ⟨"1000000001"⟩), .error (.duplicate .accountId)⟩,
        ⟨.generate, .ok ⟨"1000000002"⟩⟩, ⟨.add (outsider.withId ⟨"1000000002"⟩), .ok ()⟩] := rfl
  have hmanyCalls : (Service.register 2 outsider).transcript rivals ⟨5, emptyTable⟩ =
      [⟨.generate, .ok ⟨"1000000001"⟩⟩,
        ⟨.add (outsider.withId ⟨"1000000001"⟩), .error (.duplicate .accountId)⟩,
        ⟨.generate, .ok ⟨"1000000002"⟩⟩,
        ⟨.add (outsider.withId ⟨"1000000002"⟩), .error (.duplicate .accountId)⟩] := rfl
  have hfewFound : ⟨.generate, .error (.exhausted 8)⟩ ∉
      (Service.register 3 outsider).transcript rivals ⟨1, emptyTable⟩ := by
    rw [hfewCalls]
    simp
  have hmanyFound : ⟨.generate, .error (.exhausted 8)⟩ ∉
      (Service.register 2 outsider).transcript rivals ⟨5, emptyTable⟩ := by
    rw [hmanyCalls]
    simp
  have hfew := (registration_among_rivals (.immediate 8) [] 1 3 outsider default ht).2.outlasts
    hfewFound List.not_mem_nil hnames
  have hmany := (registration_among_rivals (.immediate 8) [] 5 2 outsider default ht).2.outlasts
    hmanyFound List.not_mem_nil hnames
  exact ⟨ht, ⟨rfl, hfew.1⟩, rfl, hmany.2 (by decide)⟩

end AccountRegistry
