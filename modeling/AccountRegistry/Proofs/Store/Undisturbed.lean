/-
Registrations that nobody disturbs.

A registration generates an id and inserts its user.  If nobody else uses the store, the id is
still free at the insert, so that there is no second round.

* **`Service.Settles`** — what a registration comes to among the users of a table: its calls,
  its result, the users after it and how many candidates it uses up;
* **`Store.KeepsUsers.exists_settles`** — a registration with a store that keeps a table of
  users comes to this;
* **`registration_undisturbed`** — so it does with the store in memory and with the store on
  SQLite after any calls, and no search but that of the new user tells a difference.
-/
import AccountRegistry.Proofs.Service
import AccountRegistry.Proofs.Store.UserTable

namespace AccountRegistry

/-! ### A registration on a table -/

/-- What a registration of `p` comes to among the users `us`, when the candidates come from
`source` and a generation has `g` attempts: its calls with their answers, its result, the users
after it and the number of candidates that it uses up. -/
inductive Service.Settles (p : Profile) (g : Nat) (us : List User) (source : CandidateSource) :
    List (Exchange StoreCall.interface) → Except StoreError User → List User → Nat → Prop
  /-- All candidates of the generation are taken. -/
  | exhausted (htaken : ∀ a ∈ source.ahead g, a ∈ us.map User.accountId) :
      Settles p g us source [⟨.generate, .error (.exhausted g)⟩] (.error (.exhausted g)) us g
  /-- The first free candidate comes after `k` taken ones, and the username is taken. -/
  | nameTaken {k : Nat} (hk : k < g)
      (htaken : ∀ a ∈ source.ahead k, a ∈ us.map User.accountId)
      (hfree : source.nth k ∉ us.map User.accountId)
      (hname : p.username ∈ us.map (·.username)) :
      Settles p g us source
        [⟨.generate, .ok (source.nth k)⟩,
          ⟨.add (p.withId (source.nth k)), .error (.duplicate .username)⟩]
        (.error (.duplicate .username)) us (k + 1)
  /-- The first free candidate comes after `k` taken ones, and the username is free too. -/
  | registered {k : Nat} (hk : k < g)
      (htaken : ∀ a ∈ source.ahead k, a ∈ us.map User.accountId)
      (hfree : source.nth k ∉ us.map User.accountId)
      (hname : p.username ∉ us.map (·.username)) :
      Settles p g us source
        [⟨.generate, .ok (source.nth k)⟩, ⟨.add (p.withId (source.nth k)), .ok ()⟩]
        (.ok (p.withId (source.nth k))) (us ++ [p.withId (source.nth k)]) (k + 1)

namespace Service.Settles

variable {p : Profile} {g n : Nat} {us us' : List User} {source : CandidateSource}
  {es : List (Exchange StoreCall.interface)} {r : Except StoreError User}

/-- The user of a registration that works is found by a search after it. -/
theorem find_self (h : Settles p g us source es r us' n) {u : User} (hu : r = .ok u) :
    us'.find? (·.username == u.username) = some u := by
  cases h with
  | exhausted => cases hu
  | nameTaken => cases hu
  | registered hk htaken hfree hname =>
    obtain rfl := Except.ok.inj hu
    rw [← any_username_iff_mem, Bool.not_eq_true] at hname
    exact SqliteStore.find_append_self hname

/-- No other search tells a difference. -/
theorem find_other (h : Settles p g us source es r us' n) {name : String}
    (hother : ∀ u, r = .ok u → u.username ≠ name) :
    us'.find? (·.username == name) = us.find? (·.username == name) := by
  cases h with
  | exhausted => rfl
  | nameTaken => rfl
  | registered hk htaken hfree hname =>
    refine SqliteStore.find_append_of_ne fun v hv => ?_
    rw [List.mem_singleton.mp hv]
    exact hother _ rfl

end Service.Settles

namespace Store

variable {σ : Type} {S : Store σ} {policy : RetryPolicy}
  {Holds : σ → List User → CandidateSource → Prop} {s : σ} {us : List User}
  {source : CandidateSource}

/-- **A registration on a table.** The id that its generation has found free is still free at
the insert, and no other round follows. -/
theorem KeepsUsers.exists_settles (hS : S.KeepsUsers policy Holds) (h : Holds s us source)
    (configured : Nat) (p : Profile) :
    let d := Service.register configured p
    ∃ us' n,
      Service.Settles p policy.bound us source (d.transcript S s) (d.run S s).value us' n ∧
        Holds (d.run S s).state us' (source.skip n) := by
  intro d
  obtain ⟨rounds, hbound⟩ := Service.exists_bound_eq configured
  have hd : d = Service.rounds p (Service.bound configured) (rounds + 1) 1 :=
    congrArg (Service.rounds p _ · 1) hbound
  obtain ⟨n, hgenerates, hgenerated⟩ := hS.generate h
  rw [hd]
  generalize hvalue : (S .generate s).value = generated at hgenerates
  cases hgenerates with
  | exhausted htaken =>
    obtain ⟨hes, hr, ht⟩ := Service.rounds_notGenerated (p := p) hvalue
    rw [hes, hr, ht]
    exact ⟨us, policy.bound, .exhausted htaken, hgenerated⟩
  | @found k hk htaken hfree =>
    obtain ⟨us', hinserts, hinserted⟩ := hS.add hgenerated (p.withId (source.nth k))
    by_cases hname : p.username ∈ us.map (·.username)
    · obtain ⟨hadd, rfl⟩ := hinserts.of_name_taken hfree hname
      obtain ⟨hes, hr, ht⟩ := Service.rounds_nameTaken hvalue rfl hadd
      rw [hes, hr, ht]
      exact ⟨us', k + 1, .nameTaken hk htaken hfree hname, hinserted⟩
    · obtain ⟨hadd, rfl⟩ := hinserts.of_free hfree hname
      obtain ⟨hes, hr, ht⟩ := Service.rounds_registered hvalue rfl hadd
      rw [hes, hr, ht]
      exact ⟨_, k + 1, .registered hk htaken hfree hname, hinserted⟩

/-- In the state `s` a registration of `p` comes to what it should among the users `us`, and no
search but that of the new user tells a difference. -/
structure RegistersUndisturbed (S : Store σ) (Holds : σ → List User → CandidateSource → Prop)
    (g : Nat) (s : σ) (us : List User) (source : CandidateSource) (configured : Nat)
    (p : Profile) : Prop where
  before : Holds s us source
  settles :
    let d := Service.register configured p
    ∃ us' n, Service.Settles p g us source (d.transcript S s) (d.run S s).value us' n ∧
      Holds (d.run S s).state us' (source.skip n)
  /-- The new user is found. -/
  found :
    let o := (Service.register configured p).run S s
    ∀ u, o.value = .ok u → (S (.get u.username) o.state).value = .ok (some u)
  /-- Every other search has the same result as before. -/
  others :
    let o := (Service.register configured p).run S s
    ∀ name, (∀ u, o.value = .ok u → u.username ≠ name) →
      (S (.get name) o.state).value = (S (.get name) s).value

theorem KeepsUsers.registersUndisturbed (hS : S.KeepsUsers policy Holds)
    (h : Holds s us source) (configured : Nat) (p : Profile) :
    S.RegistersUndisturbed Holds (max 1 policy.maxAttempts) s us source configured p := by
  have hbound : policy.bound = max 1 policy.maxAttempts := Nat.max_comm _ _
  obtain ⟨us', n, hsettles, hafter⟩ := hS.exists_settles h configured p
  rw [hbound] at hsettles
  refine ⟨h, ⟨us', n, hsettles, hafter⟩, fun u hu => ?_, fun name hother => ?_⟩
  · rw [(hS.get hafter _).1, hsettles.find_self hu]
  · rw [(hS.get hafter name).1, (hS.get h name).1, hsettles.find_other hother]

end Store

/-- **A registration that nobody disturbs**, with the store in memory after any calls, and with
the store on SQLite after any calls on a table that held some users, as it does if it has just
been created (`SqliteState.holds_of_created`): it generates once and inserts at most once.  If
all candidates of the generation are taken, it tells so with the bound of the generation;
otherwise the first free candidate becomes the id of the new user, unless the username is
taken.  It uses up the candidates that it has checked, and changes nothing else, whatever the
bound of the service. -/
theorem registration_undisturbed (policy : RetryPolicy) (calls : List StoreCall)
    (configured : Nat) (p : Profile) (source : CandidateSource) {t : SqliteState}
    {us : List User} {source' : CandidateSource} (ht : t.Holds us source') :
    let g := max 1 policy.maxAttempts
    (let S := MemoryStore.store policy
      let s := Store.after S ⟨.empty, source⟩ calls
      S.RegistersUndisturbed MemoryState.Holds g s (Store.inserted S ⟨.empty, source⟩ calls)
        s.source configured p) ∧
    (let S := SqliteStore.store policy
      let s := Store.after S t calls
      S.RegistersUndisturbed SqliteState.Holds g s (us ++ Store.inserted S t calls)
        s.source configured p) := by
  intro g
  constructor
  · intro S s
    exact (MemoryStore.keepsUsers policy).registersUndisturbed
      (MemoryStore.holds_after policy source calls) configured p
  · intro S s
    exact (SqliteStore.keepsUsers policy).registersUndisturbed
      (SqliteStore.holds_after policy ht calls) configured p

/-- A pool on a new database, and a source that has the same id twice. -/
def newDatabase : SqliteState where
  files := .ofTexts []
  pool := .fresh
  source := .scripted [⟨"1000000001"⟩, ⟨"1000000001"⟩, ⟨"1000000002"⟩] id

/-- Alice has taken the first id, and Bob gets the second one in a single round. -/
theorem registration_undisturbed_newDatabase :
    let alice : Profile := { (default : Profile) with username := "alice" }
    let bob : Profile := { (default : Profile) with username := "bob" }
    let S := SqliteStore.store (.immediate 8)
    let t := (SqlStore.createSchema.run SqlitePool.respond newDatabase).state
    let calls : List StoreCall := [.add (alice.withId ⟨"1000000001"⟩)]
    let s := Store.after S t calls
    t.Holds [] newDatabase.source ∧
      ((Service.register 1 bob).run S s).value = .ok (bob.withId ⟨"1000000002"⟩) ∧
      S.RegistersUndisturbed SqliteState.Holds 8 s ([] ++ Store.inserted S t calls) s.source 1
        bob := by
  intro alice bob S t calls s
  have ht : t.Holds [] newDatabase.source := SqliteState.holds_of_created rfl rfl
  exact ⟨ht, rfl, (registration_undisturbed (.immediate 8) calls 1 bob newDatabase.source ht).2⟩

end AccountRegistry
