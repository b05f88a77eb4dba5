/-
The ten settings one by one: the environment in layers over a file.

* **`Setting`** — the ten settings, each with its place in a group and its variable;
* **`Setting.winner`** — what decides on a setting: its own variable, or else the file;
* **`Settings.ofTree_iff`** — merged sources give the settings that they hold at the ten places;
* **`Setting.part_variables`** — after variables have been put into the settings of a file, what is
  at the place of a setting is its winner;
* **`Settings.load_iff`**, **`Settings.load_fails_iff`** — loading gives the winners, converted, and
  fails exactly if one of them is missing or cannot be converted.

Design notes: settings are one by one but for groups that a file gives as a list.  A variable makes
a table of its group, and a list has no keys that could stay in it.
-/
import AccountRegistry.CommandLine.Surroundings
import AccountRegistry.Proofs.Settings.Numbers

namespace AccountRegistry

open Settings

/-- A setting: a number, a text or a truth value. -/
inductive Setting where
  | number (k : NumberSetting)
  | url
  | createSchema
  | traceOperations
  | logFilter
  deriving DecidableEq

namespace Setting

/-- All settings. -/
def all : List Setting :=
  [url, number .maxConnections, number .acquireTimeoutSecs, createSchema, traceOperations,
    number .generationAttempts, number .backoffBaseMs, number .backoffMaxMs,
    number .registrationAttempts, logFilter]

theorem mem_all (k : Setting) : k ∈ all := by
  cases k with
  | number k => cases k <;> decide
  | _ => decide

/-- The group of a setting. -/
def group : Setting → Group
  | number k => k.group
  | url | createSchema | traceOperations => databaseGroup
  | logFilter => logGroup

/-- The place of a setting in its group. -/
def position : Setting → Nat
  | number k => k.position
  | url | logFilter => 0
  | createSchema => 3
  | traceOperations => 4

/-- The key of a setting in its group. -/
def key : Setting → String
  | number k => k.key
  | url => "url"
  | createSchema => "create_schema"
  | traceOperations => "trace_operations"
  | logFilter => "filter"

theorem keys_position (k : Setting) : k.group.keys[k.position]? = some k.key := by
  cases k with
  | number k => exact k.keys_position
  | _ => rfl

/-- The variable of a setting. -/
def variableName (k : Setting) : String :=
  Settings.variableName [k.group.name, k.key]

/-- What a setting is loaded as. -/
abbrev Value : Setting → Type
  | number _ => Nat
  | url | logFilter => String
  | createSchema | traceOperations => Bool

instance : (k : Setting) → DecidableEq k.Value
  | number _ => inferInstanceAs (DecidableEq Nat)
  | url | logFilter => inferInstanceAs (DecidableEq String)
  | createSchema | traceOperations => inferInstanceAs (DecidableEq Bool)

/-- What is loaded for a setting. -/
def value (s : Settings) : (k : Setting) → k.Value
  | number k => k.value s
  | url => s.database.url
  | createSchema => s.database.createSchema
  | traceOperations => s.database.traceOperations
  | logFilter => s.logFilter

/-- How a setting is converted. -/
def convert : (k : Setting) → String → Tree → Except SettingFault k.Value
  | number k => k.convert
  | url | logFilter => Tree.toText
  | createSchema | traceOperations => Tree.toBool

/-- What a setting is converted to, if it can be. -/
def read (k : Setting) (t : Tree) : Option k.Value :=
  (k.convert (k.group.keyOf k.key) t).toOption

/-- What settings hold at the place of a setting: in a table under its key, in a list in its
place. -/
def part (k : Setting) (root : Tree) : Option Tree := do
  let t ← root.get? k.group.name
  let parts ← (k.group.parts t).toOption
  let (_, found) ← parts[k.position]?
  found

end Setting

/-! ### Conversions -/

section Conversions

variable {α : Type} {f : Scalar → Except (Shape × String) α} {wanted name : String} {t : Tree}

theorem Tree.convert_eq_ok {a : α} :
    t.convert f wanted name = .ok a ↔ ∃ x, t.scalar? = some x ∧ f x = .ok a := by
  cases t with
  | scalar o x =>
    rw [Tree.convert, mapError_eq_ok, Tree.scalar?]
    simp only [Option.some.injEq, exists_eq_left']
  | _ =>
    constructor
    · intro h
      cases h
    · rintro ⟨x, hx, -⟩
      cases hx

theorem Tree.toSmall_eq_ok {n : Nat} :
    t.toSmall name = .ok n ↔ t.toNatural name = .ok n ∧ n < 0x100000000 := by
  rw [Tree.toSmall, bind_eq_ok]
  constructor
  · rintro ⟨m, hm, h⟩
    split at h
    · next hlt =>
      obtain rfl := Except.ok.inj h
      exact ⟨hm, hlt⟩
    · cases h
  · rintro ⟨hn, hlt⟩
    exact ⟨n, hn, if_pos hlt⟩

namespace Setting

/-- Whether and as what a setting is converted has nothing to do with the name that messages give
it. -/
theorem convert_name (k : Setting) {v : k.Value} (h : k.convert name t = .ok v) (name' : String) :
    k.convert name' t = .ok v := by
  cases k with
  | number k =>
    have h : k.convert name t = .ok v := h
    show k.convert name' t = .ok v
    rw [NumberSetting.convert] at h ⊢
    by_cases hbits : k.bits = 32
    · rw [if_pos hbits] at h ⊢
      obtain ⟨hn, hlt⟩ := Tree.toSmall_eq_ok.mp h
      exact Tree.toSmall_eq_ok.mpr ⟨Tree.convert_eq_ok.mpr (Tree.convert_eq_ok.mp hn), hlt⟩
    · rw [if_neg hbits] at h ⊢
      exact Tree.convert_eq_ok.mpr (Tree.convert_eq_ok.mp h)
  | _ => exact Tree.convert_eq_ok.mpr (Tree.convert_eq_ok.mp h)

theorem read_eq_some {k : Setting} {v : k.Value} :
    k.read t = some v ↔ k.convert name t = .ok v := by
  rw [read, toOption_eq_some]
  exact ⟨fun h => k.convert_name h name, fun h => k.convert_name h _⟩

/-- What it takes for the place of a setting to hold what becomes `v`. -/
theorem part_bind_read {k : Setting} {v : k.Value} {root : Tree} :
    (k.part root).bind k.read = some v ↔
      ∃ t parts, root.get? k.group.name = some t ∧ k.group.parts t = .ok parts ∧
        convertPart k.convert parts k.position = .ok (some v) := by
  constructor
  · intro h
    obtain ⟨leaf, hpart, hread⟩ := Option.bind_eq_some_iff.mp h
    obtain ⟨t, ht, hpart⟩ := Option.bind_eq_some_iff.mp hpart
    obtain ⟨parts, hparts, hpart⟩ := Option.bind_eq_some_iff.mp hpart
    obtain ⟨⟨name, found⟩, hfound, rfl⟩ := Option.bind_eq_some_iff.mp hpart
    refine ⟨t, parts, ht, toOption_eq_some.mp hparts, ?_⟩
    rw [convertPart, hfound]
    exact map_some_eq_ok.mpr (read_eq_some.mp hread)
  · rintro ⟨t, parts, ht, hparts, h⟩
    rw [convertPart] at h
    split at h
    · next name leaf hfound =>
      refine Option.bind_eq_some_iff.mpr ⟨leaf, ?_, read_eq_some.mpr (map_some_eq_ok.mp h)⟩
      rw [part, ht]
      show ((k.group.parts t).toOption.bind fun parts => parts[k.position]?.bind Prod.snd) = _
      rw [toOption_eq_some.mpr hparts, Option.bind_some, hfound]
      rfl
    · cases h

end Setting

end Conversions

/-! ### Settings from their places -/

namespace Settings

variable {root : Tree} {s : Settings}

/-- A setting is loaded from its place in its group. -/
theorem exists_parts (h : ofTree root = .ok s) (k : Setting) :
    ∃ t parts, root.get? k.group.name = some t ∧ k.group.parts t = .ok parts ∧
      convertPart k.convert parts k.position = .ok (some (k.value s)) := by
  obtain ⟨hdatabase, -, -, hlog⟩ := ofTree_eq_ok.mp h
  obtain ⟨d, hd, hdatabase⟩ := readGroup_eq_ok.mp hdatabase
  obtain ⟨l, hl, hlog⟩ := readGroup_eq_ok.mp hlog
  obtain ⟨dparts, hdparts, hurl, -, -, hschema, htrace⟩ := readDatabase_eq_ok.mp hdatabase
  obtain ⟨lparts, hlparts, hfilter⟩ := readLog_eq_ok.mp hlog
  cases k with
  | number k => exact k.exists_parts h
  | url => exact ⟨d, dparts, hd, hdparts, hurl⟩
  | createSchema => exact ⟨d, dparts, hd, hdparts, hschema⟩
  | traceOperations => exact ⟨d, dparts, hd, hdparts, htrace⟩
  | logFilter => exact ⟨l, lparts, hl, hlparts, hfilter⟩

/-- **Merged sources give the settings that they hold at the ten places.** -/
theorem ofTree_iff :
    ofTree root = .ok s ↔ ∀ k : Setting, (k.part root).bind k.read = some (k.value s) := by
  refine ⟨fun h k => Setting.part_bind_read.mpr (exists_parts h k), ?_⟩
  intro h
  -- the places of a group are looked up in the same parts
  have hat (k : Setting) {t : Tree} {parts : List (String × Option Tree)}
      (ht : root.get? k.group.name = some t) (hparts : k.group.parts t = .ok parts) :
      convertPart k.convert parts k.position = .ok (some (k.value s)) := by
    obtain ⟨t', parts', ht', hparts', hk⟩ := Setting.part_bind_read.mp (h k)
    obtain rfl := Option.some.inj (ht.symm.trans ht')
    obtain rfl := Except.ok.inj (hparts.symm.trans hparts')
    exact hk
  obtain ⟨d, dparts, hd, hdparts, hurl⟩ := Setting.part_bind_read.mp (h .url)
  obtain ⟨g, gparts, hg, hgparts, hattempts⟩ :=
    Setting.part_bind_read.mp (h (.number .generationAttempts))
  obtain ⟨r, rparts, hr, hrparts, hregistration⟩ :=
    Setting.part_bind_read.mp (h (.number .registrationAttempts))
  obtain ⟨l, lparts, hl, hlparts, hfilter⟩ := Setting.part_bind_read.mp (h .logFilter)
  exact ofTree_eq_ok.mpr
    ⟨readGroup_eq_ok.mpr ⟨d, hd, readDatabase_eq_ok.mpr
        ⟨dparts, hdparts, hurl, hat (.number .maxConnections) hd hdparts,
          hat (.number .acquireTimeoutSecs) hd hdparts, hat .createSchema hd hdparts,
          hat .traceOperations hd hdparts⟩⟩,
      readGroup_eq_ok.mpr ⟨g, hg, readGeneration_eq_ok.mpr
        ⟨gparts, hgparts, hattempts, hat (.number .backoffBaseMs) hg hgparts,
          hat (.number .backoffMaxMs) hg hgparts⟩⟩,
      readGroup_eq_ok.mpr ⟨r, hr, readRegistration_eq_ok.mpr ⟨rparts, hrparts, hregistration⟩⟩,
      readGroup_eq_ok.mpr ⟨l, hl, readLog_eq_ok.mpr ⟨lparts, hlparts, hfilter⟩⟩⟩

/-- The settings with given values. -/
def ofValues (v : (k : Setting) → k.Value) : Settings where
  database :=
    { url := v .url
      maxConnections := v (.number .maxConnections)
      acquireTimeoutSecs := v (.number .acquireTimeoutSecs)
      createSchema := v .createSchema
      traceOperations := v .traceOperations }
  generation :=
    { maxAttempts := v (.number .generationAttempts)
      backoffBaseMs := v (.number .backoffBaseMs)
      backoffMaxMs := v (.number .backoffMaxMs) }
  registrationAttempts := v (.number .registrationAttempts)
  logFilter := v .logFilter

theorem value_ofValues (v : (k : Setting) → k.Value) (k : Setting) :
    k.value (ofValues v) = v k := by
  cases k with
  | number k => cases k <;> rfl
  | _ => rfl

/-- **Merged sources give no settings exactly if one of the ten places holds nothing that can be
converted.** -/
theorem ofTree_fails_iff :
    (∃ e, ofTree root = .error e) ↔ ∃ k : Setting, (k.part root).bind k.read = none := by
  constructor
  · rintro ⟨e, he⟩
    by_contra hall
    have hsome (k : Setting) : ((k.part root).bind k.read).isSome :=
      Option.isSome_iff_ne_none.mpr fun hnone => hall ⟨k, hnone⟩
    have hok : ofTree root = .ok (ofValues fun k => ((k.part root).bind k.read).get (hsome k)) :=
      ofTree_iff.mpr fun k => by rw [value_ofValues, Option.some_get]
    rw [he] at hok
    cases hok
  · rintro ⟨k, hk⟩
    cases h : ofTree root with
    | error e => exact ⟨e, rfl⟩
    | ok s =>
      have hvalue := ofTree_iff.mp h k
      rw [hk] at hvalue
      cases hvalue

end Settings

/-! ### Variables over a file -/

/-- A name that the environment of the settings takes notice of: it begins with the prefix, in
letters of either case. -/
def Settings.isNoticed (name : String) : Bool :=
  variablePrefix.toList.isPrefixOf (Text.lowercase name).toList

/-- The variables that are taken notice of are those of settings, by their full names in upper
case. -/
def Environment.FullNames (env : Environment) : Prop :=
  ∀ e ∈ env, isNoticed e.1 = true → ∃ k : Setting, e.1 = k.variableName

/-- The text of a variable; the last one counts. -/
def Environment.textOf (env : Environment) (name : String) : Option String :=
  env.reverse.lookup name

/-- Some setting of a group has its variable. -/
def Environment.Sets (env : Environment) (g : Group) : Prop :=
  ∃ k ∈ Setting.all, k.group.name = g.name ∧ k.variableName ∈ env.map Prod.fst

instance (env : Environment) (g : Group) : Decidable (env.Sets g) :=
  inferInstanceAs (Decidable (∃ k ∈ Setting.all, _ ∧ _))

namespace Setting

/-- A setting that a variable gives. -/
def ofText (text : String) : Tree :=
  .scalar (some environmentOrigin) (parsedValue text)

/-- What a file with the settings `file` has for a setting.  A list has nothing any more once there
is a variable for one of its settings. -/
def fromFile (k : Setting) (env : Environment) (file : Tree) : Option Tree :=
  match file.get? k.group.name with
  | some (.list ..) => if env.Sets k.group then none else k.part file
  | _ => k.part file

/-- What decides on a setting: its variable, or else the file. -/
def winner (k : Setting) (env : Environment) (file : Tree) : Option Tree :=
  ((env.textOf k.variableName).map ofText).or (k.fromFile env file)

theorem variableKey_variableName (k : Setting) :
    variableKey k.variableName = some (k.group.keyOf k.key) := by
  cases k with
  | number k => cases k <;> decide +kernel
  | _ => decide +kernel

theorem ofKey_keyOf (k : Setting) :
    KeyPath.ofKey (k.group.keyOf k.key) = ⟨k.group.name, [.key k.key]⟩ := by
  cases k with
  | number k => cases k <;> decide +kernel
  | _ => decide +kernel

/-- The variables of two settings are the same exactly if their groups and keys are. -/
theorem variableName_eq_iff {j k : Setting} :
    j.variableName = k.variableName ↔ j.group.name = k.group.name ∧ j.key = k.key := by
  constructor
  · intro h
    have hkey : j.group.keyOf j.key = k.group.keyOf k.key := by
      rw [← Option.some.injEq, ← j.variableKey_variableName, h, k.variableKey_variableName]
    have hpath := j.ofKey_keyOf
    rw [hkey, k.ofKey_keyOf] at hpath
    obtain ⟨hname, hsteps⟩ := KeyPath.mk.inj hpath
    exact ⟨hname.symm, (PathStep.key.inj (List.cons.inj hsteps).1).symm⟩
  · rintro ⟨hname, hkey⟩
    rw [variableName, variableName, hname, hkey]

end Setting

theorem Settings.variableKey_isSome (name : String) :
    (variableKey name).isSome = isNoticed name := by
  simp only [variableKey, isNoticed]
  split
  · next h => exact h.symm
  · next h => exact (Bool.eq_false_iff.mpr h).symm

theorem Setting.isNoticed_variableName (k : Setting) : isNoticed k.variableName = true := by
  rw [← variableKey_isSome, k.variableKey_variableName, Option.isSome_some]

namespace Tree

/-- What is under a key of a group that is a table. -/
def entryAt (t : Tree) (group key : String) : Option Tree :=
  ((t.get? group).getD nothing).get? key

/-- Settings with one variable put into them. -/
def withVariable (t : Tree) (e : String × String) : Tree :=
  match variableKey e.1 with
  | some key => (KeyPath.ofKey key).set (Setting.ofText e.2) t
  | none => t

theorem withVariable_setting {e : String × String} {k : Setting} (h : e.1 = k.variableName)
    (t : Tree) :
    t.withVariable e =
      t.changeKey k.group.name (·.changeKey k.key fun _ => Setting.ofText e.2) := by
  rw [withVariable, h, k.variableKey_variableName]
  dsimp only
  rw [k.ofKey_keyOf]
  rfl

theorem withVariable_unnoticed {e : String × String} (h : isNoticed e.1 = false) (t : Tree) :
    t.withVariable e = t := by
  rw [← variableKey_isSome, Option.isSome_eq_false_iff, Option.isNone_iff_eq_none] at h
  rw [withVariable, h]

section Variable

variable {e : String × String} (he : isNoticed e.1 = true → ∃ k : Setting, e.1 = k.variableName)
include he

/-- **A variable sets its setting and leaves the others as they are.** -/
theorem entryAt_withVariable (k : Setting) (t : Tree) :
    (t.withVariable e).entryAt k.group.name k.key =
      if e.1 = k.variableName then some (Setting.ofText e.2)
      else t.entryAt k.group.name k.key := by
  cases hnoticed : isNoticed e.1 with
  | false =>
    rw [withVariable_unnoticed hnoticed, if_neg]
    intro heq
    rw [heq, k.isNoticed_variableName] at hnoticed
    cases hnoticed
  | true =>
    obtain ⟨j, hj⟩ := he hnoticed
    have hiff : e.1 = k.variableName ↔ j.group.name = k.group.name ∧ j.key = k.key := by
      rw [hj, Setting.variableName_eq_iff]
    rw [withVariable_setting hj, if_congr hiff rfl rfl, entryAt, entryAt]
    by_cases hname : j.group.name = k.group.name
    · rw [hname, get?_changeKey_self, Option.getD_some]
      by_cases hkey : j.key = k.key
      · rw [hkey, get?_changeKey_self, if_pos ⟨rfl, rfl⟩]
      · rw [get?_changeKey_of_ne (Ne.symm hkey), if_neg fun h => hkey h.2]
    · rw [get?_changeKey_of_ne (Ne.symm hname), if_neg fun h => hname h.1]

/-- A variable makes a table of its group and leaves the other groups as they are. -/
theorem get?_withVariable (g : Group) (t : Tree) :
    (∃ k : Setting, k.group.name = g.name ∧ e.1 = k.variableName) ∧
        (∃ o es, (t.withVariable e).get? g.name = some (.table o es)) ∨
      (∀ k : Setting, k.group.name = g.name → e.1 ≠ k.variableName) ∧
        (t.withVariable e).get? g.name = t.get? g.name := by
  cases hnoticed : isNoticed e.1 with
  | false =>
    refine .inr ⟨fun k _ heq => ?_, by rw [withVariable_unnoticed hnoticed]⟩
    rw [heq, k.isNoticed_variableName] at hnoticed
    cases hnoticed
  | true =>
    obtain ⟨j, hj⟩ := he hnoticed
    rw [withVariable_setting hj]
    by_cases hname : j.group.name = g.name
    · rw [hname]
      exact .inl ⟨⟨j, hname, hj⟩, _, _, get?_changeKey_self g.name _ t⟩
    · refine .inr ⟨fun k hk heq => ?_, get?_changeKey_of_ne (Ne.symm hname) _ t⟩
      exact hname ((Setting.variableName_eq_iff.mp (hj.symm.trans heq)).1.trans hk)

end Variable

/-! ### All variables -/

section Variables

variable {env : Environment} (henv : env.FullNames)
include henv

/-- **Variables set their settings**, the last one of a name for all, and leave the others as they
are. -/
theorem entryAt_variables (k : Setting) (t : Tree) :
    (env.foldl withVariable t).entryAt k.group.name k.key =
      ((env.textOf k.variableName).map Setting.ofText).or (t.entryAt k.group.name k.key) := by
  induction env generalizing t with
  | nil => rfl
  | cons e env ih =>
    obtain ⟨he, henv⟩ := List.forall_mem_cons.mp henv
    rw [List.foldl_cons, ih henv, entryAt_withVariable he, Environment.textOf, Environment.textOf,
      List.reverse_cons, List.lookup_append]
    cases List.lookup k.variableName env.reverse with
    | some text => rfl
    | none =>
      obtain ⟨name, text⟩ := e
      by_cases hname : name = k.variableName
      · rw [if_pos hname, hname, List.lookup_cons_self]
        rfl
      · rw [if_neg hname, List.lookup_cons, beq_eq_false_iff_ne.mpr (Ne.symm hname)]
        rfl

/-- Variables that set nothing of a group leave it as it is. -/
theorem get?_variables {g : Group} (hsets : ¬ env.Sets g) (t : Tree) :
    (env.foldl withVariable t).get? g.name = t.get? g.name := by
  induction env generalizing t with
  | nil => rfl
  | cons e env ih =>
    obtain ⟨he, henv⟩ := List.forall_mem_cons.mp henv
    have hrest : ¬ Environment.Sets env g := fun ⟨k, hk, hname, hmem⟩ =>
      hsets ⟨k, hk, hname, List.mem_cons_of_mem _ hmem⟩
    rw [List.foldl_cons, ih henv hrest]
    obtain ⟨⟨k, hname, heq⟩, -⟩ | ⟨-, hsame⟩ := get?_withVariable he g t
    · exact absurd ⟨k, k.mem_all, hname, heq ▸ List.mem_cons_self⟩ hsets
    · exact hsame

/-- Variables that set something of a group make a table of it. -/
theorem exists_table_variables {g : Group} (hsets : env.Sets g) (t : Tree) :
    ∃ o es, (env.foldl withVariable t).get? g.name = some (.table o es) := by
  induction env generalizing t with
  | nil =>
    obtain ⟨k, -, -, hmem⟩ := hsets
    cases hmem
  | cons e env ih =>
    obtain ⟨he, henv⟩ := List.forall_mem_cons.mp henv
    rw [List.foldl_cons]
    by_cases hrest : Environment.Sets env g
    · exact ih henv hrest _
    · rw [get?_variables henv hrest]
      obtain ⟨-, htable⟩ | ⟨hnone, -⟩ := get?_withVariable he g t
      · exact htable
      · obtain ⟨k, hk, hname, hmem⟩ := hsets
        rcases List.mem_cons.mp hmem with heq | hmem
        · exact absurd heq.symm (hnone k hname)
        · exact absurd ⟨k, hk, hname, hmem⟩ hrest

end Variables

end Tree

namespace Setting

variable {k : Setting} {root root' : Tree}

/-- The place of a setting in a group that is no list. -/
theorem part_eq_entryAt (h : ∀ o ts, root.get? k.group.name ≠ some (.list o ts)) :
    k.part root = root.entryAt k.group.name k.key := by
  rw [part, Tree.entryAt]
  cases hgroup : root.get? k.group.name with
  | none => rfl
  | some t =>
    cases t with
    | scalar o x => rfl
    | list o ts => exact absurd hgroup (h o ts)
    | table o es =>
      show ((k.group.keys.map fun key => (k.group.keyOf key, es.lookup key))[k.position]?.bind
        Prod.snd) = _
      rw [List.getElem?_map, k.keys_position]
      rfl

theorem part_congr (h : root.get? k.group.name = root'.get? k.group.name) :
    k.part root = k.part root' := by
  rw [part, part, h]

/-- **What decides on a setting** is what variables that have been put into the settings of a file
leave at its place. -/
theorem part_variables {env : Environment} (henv : env.FullNames) (k : Setting) (file : Tree) :
    k.part (env.foldl Tree.withVariable file) = k.winner env file := by
  by_cases hsets : env.Sets k.group
  · obtain ⟨o, es, htable⟩ := Tree.exists_table_variables henv hsets file
    have hfile : k.fromFile env file = file.entryAt k.group.name k.key := by
      rw [fromFile]
      split
      · next o ts hlist =>
        rw [if_pos hsets, Tree.entryAt, hlist]
        rfl
      · next hno => exact part_eq_entryAt hno
    rw [part_eq_entryAt (fun o ts hlist => by rw [htable] at hlist; cases hlist),
      Tree.entryAt_variables henv, winner, hfile]
  · have hnone : env.textOf k.variableName = none := by
      rw [Environment.textOf, List.lookup_eq_none_iff]
      intro e he
      refine bne_iff_ne.mpr fun heq => hsets ⟨k, k.mem_all, rfl, ?_⟩
      rw [heq]
      exact List.mem_map_of_mem (List.mem_reverse.mp he)
    have hfile : k.fromFile env file = k.part file := by
      rw [fromFile]
      split
      · exact if_neg hsets
      · rfl
    rw [part_congr (Tree.get?_variables henv hsets file), winner, hnone, hfile]
    rfl

end Setting

namespace Settings

theorem mergeAll_environmentSettings (env : Environment) (t : Tree) :
    mergeAll (environmentSettings env) t = env.foldl Tree.withVariable t := by
  rw [mergeAll, environmentSettings, List.foldl_filterMap]
  congr 1
  funext t e
  obtain ⟨name, text⟩ := e
  rw [Tree.withVariable]
  dsimp only
  cases variableKey name <;> rfl

/-- The settings of a file by themselves. -/
def ofFile (entries : List (String × Tree)) : Tree :=
  mergeAll entries (.table none [])

/-- Variables that are not taken notice of have no effect. -/
theorem environmentSettings_filter (env : Environment) :
    environmentSettings (env.filter (isNoticed ·.1)) = environmentSettings env := by
  rw [environmentSettings, environmentSettings, List.filterMap_filter]
  congr 1
  funext e
  obtain ⟨name, text⟩ := e
  have hkey := variableKey_isSome name
  dsimp only
  cases hnoticed : isNoticed name with
  | true => rfl
  | false =>
    rw [hnoticed, Option.isSome_eq_false_iff, Option.isNone_iff_eq_none] at hkey
    rw [hkey]
    rfl

/-- **Variables that are not taken notice of never matter.** -/
theorem load_of_filter (fs : Files) {env env' : Environment} (path : Option String)
    (h : env'.filter (isNoticed ·.1) = env.filter (isNoticed ·.1)) :
    load fs env' path = load fs env path := by
  have hsettings : environmentSettings env' = environmentSettings env := by
    rw [← environmentSettings_filter env', h, environmentSettings_filter]
  rw [load, load, hsettings]

section Loading

variable {fs : Files} {env : Environment} {path : Option String} {file : SettingsFile}
  {entries : List (String × Tree)}
  (hfile : SettingsFile.locate fs (path.getD standardPath) = .ok file)
  (hread : file.read = .ok entries)
include hfile hread

theorem load_eq_ofTree :
    load fs env path = ofTree (env.foldl Tree.withVariable (ofFile entries)) := by
  rw [load, hfile, ← mergeAll_environmentSettings]
  show (file.read >>= fun entries => ofTree (sources entries (environmentSettings env))) = _
  rw [hread]
  rfl

/-- **Loading gives what decides on each of the settings, converted.** -/
theorem load_iff (henv : env.FullNames) {s : Settings} :
    load fs env path = .ok s ↔
      ∀ k : Setting, (k.winner env (ofFile entries)).bind k.read = some (k.value s) := by
  rw [load_eq_ofTree hfile hread, ofTree_iff]
  simp only [Setting.part_variables henv]

/-- **Loading fails exactly if nothing decides on one of the settings, or something that cannot be
converted.** -/
theorem load_fails_iff (henv : env.FullNames) :
    (∃ e, load fs env path = .error e) ↔
      ∃ k : Setting, (k.winner env (ofFile entries)).bind k.read = none := by
  rw [load_eq_ofTree hfile hread, ofTree_fails_iff]
  simp only [Setting.part_variables henv]

end Loading

end Settings

end AccountRegistry
