/-
What several sources together say of one setting.

* **`KeyPath.tells`** — what putting something at the end of a path says of a setting in a group:
  nothing, or which scalar it becomes, or that it becomes something else;
* **`Tree.scalarAt_set`** — it says just that: other settings of the group stay as they are;
* **`Settings.scalarAt_mergeAll`** — the last one that says something of a setting decides on it;
* **`Settings.get?_mergeAll_of_list`** — a group that is given as a list at last is that list.
-/
import AccountRegistry.Settings

namespace AccountRegistry

namespace Tree

/-- The scalar that a setting is, if it is one. -/
def scalar? : Tree → Option Scalar
  | .scalar _ s => some s
  | _ => none

/-- The scalar under a key of a group. -/
def scalarAt (t : Tree) (group key : String) : Option Scalar :=
  ((t.get? group).bind (·.get? key)).bind scalar?

variable {t : Tree} {key key' : String} {f : Tree → Tree}

/-! ### One entry changed -/

theorem lookup_changeEntry_self (key : String) (f : Tree → Tree) (es : List (String × Tree)) :
    (changeEntry key f es).lookup key = some (f ((es.lookup key).getD nothing)) := by
  induction es with
  | nil => rw [changeEntry, List.lookup_cons_self, List.lookup_nil, Option.getD_none]
  | cons e es ih =>
    obtain ⟨k, t⟩ := e
    rw [changeEntry]
    split
    · next heq =>
      rw [heq, List.lookup_cons_self, List.lookup_cons_self, Option.getD_some]
    · next hne =>
      have hne : (key == k) = false := beq_eq_false_iff_ne.mpr (Ne.symm hne)
      rw [List.lookup_cons, List.lookup_cons, hne, ih]

theorem lookup_changeEntry_of_ne (h : key' ≠ key) (f : Tree → Tree) (es : List (String × Tree)) :
    (changeEntry key f es).lookup key' = es.lookup key' := by
  have hkey : (key' == key) = false := beq_eq_false_iff_ne.mpr h
  induction es with
  | nil => rw [changeEntry, List.lookup_cons, hkey]
  | cons e es ih =>
    obtain ⟨k, t⟩ := e
    rw [changeEntry]
    split
    · next heq => rw [heq, List.lookup_cons, List.lookup_cons, hkey]
    · rw [List.lookup_cons, List.lookup_cons, ih]

theorem get?_changeKey_self (key : String) (f : Tree → Tree) (t : Tree) :
    (t.changeKey key f).get? key = some (f ((t.get? key).getD nothing)) :=
  lookup_changeEntry_self key f t.entries

theorem get?_changeKey_of_ne (h : key' ≠ key) (f : Tree → Tree) (t : Tree) :
    (t.changeKey key f).get? key' = t.get? key' :=
  lookup_changeEntry_of_ne h f t.entries

theorem scalarAt_eq (t : Tree) (group key : String) :
    t.scalarAt group key = (((t.get? group).getD nothing).get? key).bind scalar? := by
  rw [scalarAt]
  cases t.get? group <;> rfl

/-! ### Tables merged -/

theorem scalar?_merge (new old : Tree) : (merge new old).scalar? = new.scalar? := by
  cases new with
  | scalar o s => rw [merge]
  | list o ts => rw [merge]
  | table o es =>
    rw [merge]
    -- whatever is put into a table, it stays one
    generalize hold : table old.tableOrigin old.entries = t
    have ht : t.scalar? = none := hold ▸ rfl
    clear hold
    induction es generalizing t with
    | nil => rw [mergeEntries, ht]; rfl
    | cons e es ih => exact ih _ rfl

/-- **The last entry of a key decides on it**, and without one it stays as it is. -/
theorem scalar?_mergeEntries (key : String) (es : List (String × Tree)) (t : Tree) :
    ((mergeEntries es t).get? key).bind scalar? =
      ((es.reverse.lookup key).map scalar?).getD ((t.get? key).bind scalar?) := by
  induction es generalizing t with
  | nil => rfl
  | cons e es ih =>
    obtain ⟨k, new⟩ := e
    rw [mergeEntries, ih, List.reverse_cons, List.lookup_append]
    cases es.reverse.lookup key with
    | some last => rfl
    | none =>
      by_cases hk : key = k
      · rw [hk, List.lookup_cons_self, get?_changeKey_self]
        exact scalar?_merge _ _
      · rw [List.lookup_cons, beq_eq_false_iff_ne.mpr hk, get?_changeKey_of_ne hk]
        rfl

end Tree

/-! ### One path -/

open AccountRegistry.Tree

/-- What putting `new` at the end of a path says of the setting of a group: nothing, or which
scalar it becomes, or that it becomes something else. -/
def KeyPath.tells (p : KeyPath) (new : Tree) (group key : String) : Option (Option Scalar) :=
  if p.root = group then
    match p.steps with
    | [] =>
      match new with
      | .table _ es => (es.reverse.lookup key).map scalar?
      | _ => some none
    | .key k :: steps => if k = key then some (if steps = [] then new.scalar? else none) else none
    | .index _ :: _ => some none
  else none

/-- What makes a setting a scalar is that scalar, or a table that holds it under the key. -/
theorem KeyPath.scalar_of_tells {p : KeyPath} {new : Tree} {group key : String} {s : Scalar}
    (h : p.tells new group key = some (some s)) :
    new.scalar? = some s ∨
      ∃ o es leaf, new = .table o es ∧ (key, leaf) ∈ es ∧ leaf.scalar? = some s := by
  unfold KeyPath.tells at h
  split at h
  · split at h
    · split at h
      · next o es =>
        obtain ⟨leaf, hleaf, hs⟩ := Option.map_eq_some_iff.mp h
        obtain ⟨before, after, hes, -⟩ := List.lookup_eq_some_iff.mp hleaf
        refine .inr ⟨o, es, leaf, rfl, List.mem_reverse.mp ?_, hs⟩
        rw [hes]
        simp
      · cases h
    · split at h
      · split at h
        · exact .inl (Option.some.inj h)
        · cases h
      · cases h
    · cases h
  · cases h

/-- At the end of a path that goes on there is no scalar. -/
theorem scalar?_changeAt (new : Tree) (steps : List PathStep) (t : Tree) :
    (changeAt new.merge steps t).scalar? = if steps = [] then new.scalar? else none := by
  cases steps with
  | nil => exact scalar?_merge new t
  | cons step steps => cases step <;> rfl

/-- **What is put at the end of a path changes no setting but those that it says something of.** -/
theorem Tree.scalarAt_set (p : KeyPath) (new t : Tree) (group key : String) :
    (p.set new t).scalarAt group key =
      (p.tells new group key).getD (t.scalarAt group key) := by
  obtain ⟨root, steps⟩ := p
  unfold KeyPath.set KeyPath.tells
  by_cases hroot : root = group
  · rw [if_pos hroot, scalarAt_eq, scalarAt_eq t, hroot, get?_changeKey_self, Option.getD_some]
    generalize (t.get? group).getD nothing = old
    dsimp only
    cases steps with
    | nil =>
      cases new with
      | scalar o s => rfl
      | list o ts => rfl
      | table o es =>
        rw [changeAt, merge]
        exact scalar?_mergeEntries key es _
    | cons step steps =>
      cases step with
      | key k =>
        by_cases hk : k = key
        · dsimp only
          rw [if_pos hk, hk, changeAt, get?_changeKey_self]
          exact scalar?_changeAt new steps _
        · dsimp only
          rw [if_neg hk, changeAt, get?_changeKey_of_ne (Ne.symm hk)]
          rfl
      | index n => rfl
  · rw [if_neg hroot, Option.getD_none, scalarAt_eq, scalarAt_eq t,
      get?_changeKey_of_ne (Ne.symm hroot)]

/-! ### One source after the other -/

namespace Settings

/-- What a source says of the setting of a group in the end. -/
def said (source : List (String × Tree)) (group key : String) : Option (Option Scalar) :=
  source.reverse.findSome? fun (path, new) => (KeyPath.ofKey path).tells new group key

theorem said_append (first second : List (String × Tree)) (group key : String) :
    said (first ++ second) group key = (said second group key).or (said first group key) := by
  rw [said, List.reverse_append, List.findSome?_append]
  rfl

theorem said_singleton (path : String) (new : Tree) (group key : String) :
    said [(path, new)] group key = (KeyPath.ofKey path).tells new group key := by
  rw [said, List.reverse_singleton, List.findSome?_singleton]

/-- **The last one that says something of a setting decides on it.** -/
theorem scalarAt_mergeAll (source : List (String × Tree)) (t : Tree) (group key : String) :
    (mergeAll source t).scalarAt group key =
      (said source group key).getD (t.scalarAt group key) := by
  induction source generalizing t with
  | nil => rfl
  | cons e source ih =>
    obtain ⟨path, new⟩ := e
    have happend := said_append [(path, new)] source group key
    rw [List.singleton_append, said_singleton] at happend
    show (mergeAll source ((KeyPath.ofKey path).set new t)).scalarAt group key = _
    rw [ih, scalarAt_set, happend]
    cases said source group key <;> rfl

/-- The environment decides, and then the file. -/
theorem scalarAt_sources (file env : List (String × Tree)) (group key : String) :
    (sources file env).scalarAt group key =
      (said env group key).getD ((said file group key).getD none) := by
  rw [sources, scalarAt_mergeAll, scalarAt_mergeAll]
  rfl

/-! ### Groups as a whole -/

/-- What a source gives for a group as a whole, if that is the last thing that it says of the
group. -/
def givenFor (source : List (String × Tree)) (group : String) : Option Tree :=
  match source.reverse.find? fun e => (KeyPath.ofKey e.1).root == group with
  | some (path, new) => if (KeyPath.ofKey path).steps = [] then some new else none
  | none => none

variable {source : List (String × Tree)} {group : String}

/-- What is said of other groups leaves a group as it is. -/
theorem get?_mergeAll_of_ne (h : ∀ e ∈ source, (KeyPath.ofKey e.1).root ≠ group) (t : Tree) :
    (mergeAll source t).get? group = t.get? group := by
  induction source generalizing t with
  | nil => rfl
  | cons e source ih =>
    obtain ⟨he, hrest⟩ := List.forall_mem_cons.mp h
    show (mergeAll source ((KeyPath.ofKey e.1).set e.2 t)).get? group = _
    rw [ih hrest, KeyPath.set, get?_changeKey_of_ne (Ne.symm he)]

/-- **A group that is given as a list at last is that list.** -/
theorem get?_mergeAll_of_list {o : Option String} {ts : List Tree}
    (h : givenFor source group = some (.list o ts)) (t : Tree) :
    (mergeAll source t).get? group = some (.list o ts) := by
  rw [givenFor] at h
  split at h
  · next path new hfind =>
    split at h
    · next hsteps =>
      obtain rfl := Option.some.inj h
      obtain ⟨hroot, after, before, hsource, hafter⟩ := List.find?_eq_some_iff_append.mp hfind
      have hroot : (KeyPath.ofKey path).root = group := beq_iff_eq.mp hroot
      have hsource : source = before.reverse ++ (path, .list o ts) :: after.reverse := by
        rw [← List.reverse_reverse source, hsource]
        simp
      have hrest : ∀ e ∈ after.reverse, (KeyPath.ofKey e.1).root ≠ group := by
        intro e he
        simpa using hafter e (List.mem_reverse.mp he)
      rw [hsource, mergeAll, List.foldl_append, List.foldl_cons]
      refine (get?_mergeAll_of_ne hrest _).trans ?_
      dsimp only
      rw [KeyPath.set, hroot, hsteps, get?_changeKey_self, changeAt, merge]
    · cases h
  · cases h

end Settings

end AccountRegistry
