/-
Stores that keep a table of users.

* **`Store.Inserts`**, **`Store.Generates`** — what an insert and a generation come to among
  the users of a table;
* **`Store.KeepsUsers`** — the calls of a store come to this, whatever the store is made of;
* **`KeepsUsers.exists_after`** — after any calls the table holds the users inserted so far;
* **`Responder.ChecksUsers.attempts`** — a generation that checks its candidates against the
  table finds the first one that is free, or gives up;
* **`MemoryStore.keepsUsers`**, **`SqliteStore.keepsUsers`** — both stores keep a table;
* **`MemoryStore.holds_after`**, **`SqliteStore.holds_after`** — what it holds after any calls.

Design notes: if both keys of an insert are in use, one store names the id and the other one
the username.  `Inserts` leaves this open, so that what is proved of it holds for both.
-/
import AccountRegistry.Proofs.Candidates
import AccountRegistry.Proofs.Store.Mirror
import AccountRegistry.Proofs.Store.SqliteCalls

namespace AccountRegistry

/-! ### Calls on a table -/

namespace Store

/-- The result of inserting `u` among the users `us`, and the users after it. -/
inductive Inserts (us : List User) (u : User) : Except StoreError Unit → List User → Prop
  | added (hid : u.accountId ∉ us.map User.accountId)
      (hname : u.username ∉ us.map (·.username)) : Inserts us u (.ok ()) (us ++ [u])
  | idTaken (hid : u.accountId ∈ us.map User.accountId) :
      Inserts us u (.error (.duplicate .accountId)) us
  | nameTaken (hname : u.username ∈ us.map (·.username)) :
      Inserts us u (.error (.duplicate .username)) us

/-- The result of a generation among the users `us` when `left` attempts of `total` are left,
and how many candidates of the source it uses up. -/
inductive Generates (us : List User) (total left : Nat) (source : CandidateSource) :
    Except StoreError AccountId → Nat → Prop
  | found {k : Nat} (hk : k < left) (htaken : ∀ a ∈ source.ahead k, a ∈ us.map User.accountId)
      (hfree : source.nth k ∉ us.map User.accountId) :
      Generates us total left source (.ok (source.nth k)) (k + 1)
  | exhausted (htaken : ∀ a ∈ source.ahead left, a ∈ us.map User.accountId) :
      Generates us total left source (.error (.exhausted total)) left

namespace Inserts

variable {us us' : List User} {u : User} {r : Except StoreError Unit}

/-- A user with new keys is added. -/
theorem of_free (h : Inserts us u r us') (hid : u.accountId ∉ us.map User.accountId)
    (hname : u.username ∉ us.map (·.username)) : r = .ok () ∧ us' = us ++ [u] := by
  cases h with
  | added => exact ⟨rfl, rfl⟩
  | idTaken htaken => exact absurd htaken hid
  | nameTaken htaken => exact absurd htaken hname

theorem of_id_taken (h : Inserts us u r us') (hid : u.accountId ∈ us.map User.accountId)
    (hname : u.username ∉ us.map (·.username)) :
    r = .error (.duplicate .accountId) ∧ us' = us := by
  cases h with
  | added hfree => exact absurd hid hfree
  | idTaken => exact ⟨rfl, rfl⟩
  | nameTaken htaken => exact absurd htaken hname

theorem of_name_taken (h : Inserts us u r us') (hid : u.accountId ∉ us.map User.accountId)
    (hname : u.username ∈ us.map (·.username)) :
    r = .error (.duplicate .username) ∧ us' = us := by
  cases h with
  | added _ hfree => exact absurd hname hfree
  | idTaken htaken => exact absurd htaken hid
  | nameTaken => exact ⟨rfl, rfl⟩

theorem eq_append (h : Inserts us u r us') : us' = us ++ insertedBy (.add u) r := by
  cases h with
  | added => rfl
  | idTaken => exact (List.append_nil us).symm
  | nameTaken => exact (List.append_nil us).symm

end Inserts

/-- A taken candidate in front is one more attempt and one more candidate. -/
theorem Generates.of_taken {us : List User} {total left n : Nat} {source : CandidateSource}
    {r : Except StoreError AccountId} (h : Generates us total left source.draw.2 r n)
    (hdrawn : source.draw.1 ∈ us.map User.accountId) :
    Generates us total (left + 1) source r (n + 1) := by
  cases h with
  | found hk htaken hfree =>
    exact .found (Nat.succ_lt_succ hk) (List.forall_mem_cons.mpr ⟨hdrawn, htaken⟩) hfree
  | exhausted htaken => exact .exhausted (List.forall_mem_cons.mpr ⟨hdrawn, htaken⟩)

/-- A store with the given policy keeps a table of users.  Here `Holds s us source` says that in
the state `s` the table holds the users `us`, in the order in which they came, and that the
candidates come from `source`; a call in such a state leads to another one. -/
structure KeepsUsers {σ : Type} (S : Store σ) (policy : RetryPolicy)
    (Holds : σ → List User → CandidateSource → Prop) : Prop where
  add {s : σ} {us : List User} {source : CandidateSource} (h : Holds s us source) (u : User) :
    ∃ us', Inserts us u (S (.add u) s).value us' ∧ Holds (S (.add u) s).state us' source
  generate {s : σ} {us : List User} {source : CandidateSource} (h : Holds s us source) :
    ∃ n, Generates us policy.bound policy.bound source (S .generate s).value n ∧
      Holds (S .generate s).state us (source.skip n)
  get {s : σ} {us : List User} {source : CandidateSource} (h : Holds s us source) (n : String) :
    (S (.get n) s).value = .ok (us.find? (·.username == n)) ∧
      Holds (S (.get n) s).state us source

namespace KeepsUsers

variable {σ : Type} {S : Store σ} {policy : RetryPolicy}
  {Holds : σ → List User → CandidateSource → Prop} {s : σ} {us : List User}
  {source : CandidateSource}

/-- After a call the table holds the users that it held, and the one inserted. -/
theorem exists_call (hS : S.KeepsUsers policy Holds) (h : Holds s us source) (q : StoreCall) :
    ∃ source', Holds (S q s).state (us ++ insertedBy q (S q s).value) source' := by
  cases q with
  | add u =>
    obtain ⟨us', hinsert, hholds⟩ := hS.add h u
    exact ⟨source, hinsert.eq_append ▸ hholds⟩
  | generate =>
    obtain ⟨n, -, hholds⟩ := hS.generate h
    exact ⟨source.skip n, (List.append_nil us).symm ▸ hholds⟩
  | get n => exact ⟨source, (List.append_nil us).symm ▸ (hS.get h n).2⟩

/-- **After any calls** the table holds the users inserted so far. -/
theorem exists_after (hS : S.KeepsUsers policy Holds) (h : Holds s us source)
    (calls : List StoreCall) :
    ∃ source', Holds (Store.after S s calls) (us ++ Store.inserted S s calls) source' := by
  induction calls generalizing s us source with
  | nil => exact ⟨source, (List.append_nil us).symm ▸ h⟩
  | cons q calls ih =>
    obtain ⟨source₁, hfirst⟩ := hS.exists_call h q
    obtain ⟨source₂, hrest⟩ := ih hfirst
    rw [List.append_assoc] at hrest
    exact ⟨source₂, hrest⟩

end KeepsUsers

end Store

/-! ### Keys in use -/

theorem any_accountId_iff_mem {us : List User} {a : AccountId} :
    us.any (·.accountId == a) = true ↔ a ∈ us.map User.accountId := by
  rw [List.any_eq_true, List.mem_map]
  exact exists_congr fun u => and_congr_right fun _ => beq_iff_eq

theorem any_username_iff_mem {us : List User} {n : String} :
    us.any (·.username == n) = true ↔ n ∈ us.map (·.username) := by
  rw [List.any_eq_true, List.mem_map]
  exact exists_congr fun u => and_congr_right fun _ => beq_iff_eq

/-! ### Generations -/

/-- Draws the candidates of a source and checks them against the users of a table. -/
structure Responder.ChecksUsers {σ : Type} (r : Responder Trial.interface σ)
    (Holds : σ → List User → CandidateSource → Prop) : Prop where
  draw {s : σ} {us : List User} {source : CandidateSource} (h : Holds s us source) :
    (r .draw s).value = source.draw.1 ∧ Holds (r .draw s).state us source.draw.2
  check {s : σ} {us : List User} {source : CandidateSource} (h : Holds s us source)
    (a : AccountId) : (r (.check a) s).value = .ok (us.any (·.accountId == a)) ∧
      Holds (r (.check a) s).state us source

/-- **A generation** finds the first candidate that is free, or gives up if there is none among
those that it may try. -/
theorem Responder.ChecksUsers.attempts {σ : Type} {r : Responder Trial.interface σ}
    {Holds : σ → List User → CandidateSource → Prop} (hr : r.ChecksUsers Holds)
    (p : RetryPolicy) (left attempt : Nat) {s : σ} {us : List User} {source : CandidateSource}
    (h : Holds s us source) :
    let o := (p.attempts left attempt).run r s
    ∃ n, Store.Generates us p.bound left source o.value n ∧ Holds o.state us (source.skip n) := by
  induction left generalizing attempt s source with
  | zero => exact ⟨0, .exhausted (List.forall_mem_nil _), h⟩
  | succ left ih =>
    intro o
    obtain ⟨hdrawn, hafterDraw⟩ := hr.draw h
    obtain ⟨hchecked, hafterCheck⟩ := hr.check hafterDraw (r .draw s).value
    have hresult := p.result_attempts_succ r left attempt s
    simp only [hchecked] at hresult
    rw [hdrawn] at hresult hafterCheck
    cases htaken : us.any (·.accountId == source.draw.1) with
    | false =>
      rw [htaken] at hresult
      obtain ⟨hvalue, hstate⟩ := Prod.mk.inj hresult
      have hfree : source.nth 0 ∉ us.map User.accountId := by
        rw [← any_accountId_iff_mem]
        exact Bool.eq_false_iff.mp htaken
      refine ⟨1, ?_, ?_⟩
      · rw [show o.value = _ from hvalue]
        exact .found (Nat.succ_pos left) (List.forall_mem_nil _) hfree
      · rw [show o.state = _ from hstate]
        exact hafterCheck
    | true =>
      rw [htaken] at hresult
      obtain ⟨hvalue, hstate⟩ := Prod.mk.inj hresult
      obtain ⟨n, hgenerates, hholds⟩ := ih (attempt + 1) hafterCheck
      refine ⟨n + 1, ?_, ?_⟩
      · rw [show o.value = _ from hvalue]
        exact hgenerates.of_taken (any_accountId_iff_mem.mp htaken)
      · rw [show o.state = _ from hstate]
        exact hholds

/-! ### The store in memory -/

/-- The table in memory holds the given users, in the order in which they came, and the
candidates come from the given source. -/
structure MemoryState.Holds (s : MemoryState) (us : List User) (source : CandidateSource) :
    Prop where
  consistent : s.table.Consistent
  users : s.table.rows.reverse = us
  source_eq : s.source = source

namespace MemoryStore

variable (policy : RetryPolicy)

theorem checksUsers : answerTrial.ChecksUsers MemoryState.Holds where
  draw h := ⟨congrArg (·.draw.1) h.source_eq,
    h.consistent, h.users, congrArg (·.draw.2) h.source_eq⟩
  check h a := ⟨congrArg Except.ok (h.users ▸ (Mirrors.any_id h.consistent a).symm), h⟩

/-- **The store in memory keeps a table of users.** -/
theorem keepsUsers : (store policy).KeepsUsers policy MemoryState.Holds where
  add := by
    rintro s us source ⟨hs, rfl, rfl⟩ u
    have hidmem : s.table.hasId u.accountId = true ↔ _ :=
      (Bool.eq_iff_iff.mp (Mirrors.any_id hs u.accountId)).symm.trans any_accountId_iff_mem
    have hnamemem : s.table.hasName u.username = true ↔ _ :=
      (Bool.eq_iff_iff.mp (Mirrors.any_name hs u.username)).symm.trans any_username_iff_mem
    obtain ⟨hid, hname, -⟩ | ⟨hid, h⟩ | ⟨-, hname, h⟩ := s.table.insert_cases u
    · rw [store_add_of_free policy hid hname]
      refine ⟨_, .added ?_ ?_, hs.add hid hname, List.reverse_cons, rfl⟩
      · rw [← hidmem, hid]
        exact Bool.false_ne_true
      · rw [← hnamemem, hname]
        exact Bool.false_ne_true
    · rw [store_add_of_refused policy h]
      exact ⟨_, .idTaken (hidmem.mp hid), hs, rfl, rfl⟩
    · rw [store_add_of_refused policy h]
      exact ⟨_, .nameTaken (hnamemem.mp hname), hs, rfl, rfl⟩
  generate {s us source} h := by
    rw [store_generate]
    exact checksUsers.attempts policy policy.bound 1 h
  get {s us source} h n := by
    rw [store_get, ← Mirrors.find_name h.consistent, h.users]
    exact ⟨rfl, h⟩

/-- **After any calls** on the empty store its table holds the users inserted. -/
theorem holds_after (source : CandidateSource) (calls : List StoreCall) :
    let s := Store.after (store policy) ⟨.empty, source⟩ calls
    s.Holds (Store.inserted (store policy) ⟨.empty, source⟩ calls) s.source := by
  intro s
  have hempty : MemoryState.Holds ⟨.empty, source⟩ [] source :=
    ⟨MemoryTable.consistent_empty, rfl, rfl⟩
  obtain ⟨_, hs⟩ := (keepsUsers policy).exists_after hempty calls
  exact hs.source_eq ▸ hs

end MemoryStore

/-! ### The store on SQLite -/

namespace SqliteStore

variable (policy : RetryPolicy)

theorem checksUsers : trial.ChecksUsers SqliteState.Holds where
  draw h := ⟨congrArg (·.draw.1) h.source_eq,
    h.isOpen, h.writable, h.users, congrArg (·.draw.2) h.source_eq⟩
  check {s us source} h a := by
    rw [h.trial_check]
    exact ⟨rfl, h⟩

/-- **The store on SQLite keeps a table of users.** -/
theorem keepsUsers : (store policy).KeepsUsers policy SqliteState.Holds where
  add {s us source} h u := by
    rw [h.store_add]
    by_cases hname : us.any (·.username == u.username) = true
    · rw [if_pos hname]
      exact ⟨us, .nameTaken (any_username_iff_mem.mp hname), h⟩
    · rw [if_neg hname]
      by_cases hid : us.any (·.accountId == u.accountId) = true
      · rw [if_pos hid]
        exact ⟨us, .idTaken (any_accountId_iff_mem.mp hid), h⟩
      · rw [if_neg hid]
        rw [any_username_iff_mem] at hname
        rw [any_accountId_iff_mem] at hid
        exact ⟨us ++ [u], .added hid hname, h.store (us ++ [u])⟩
  generate {s us source} h := by
    rw [h.store_generate]
    exact checksUsers.attempts policy policy.bound 1 h
  get {s us source} h n := by
    rw [h.store_get]
    exact ⟨rfl, h⟩

/-- **After any calls** on a table that held some users it holds these and those inserted. -/
theorem holds_after {t : SqliteState} {us : List User} {source : CandidateSource}
    (ht : t.Holds us source) (calls : List StoreCall) :
    let s := Store.after (store policy) t calls
    s.Holds (us ++ Store.inserted (store policy) t calls) s.source := by
  intro s
  obtain ⟨_, hs⟩ := (keepsUsers policy).exists_after ht calls
  exact hs.source_eq ▸ hs

end SqliteStore

end AccountRegistry
