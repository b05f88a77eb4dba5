/-
The six numbers among the settings.

* **`NumberSetting`** — which they are, and how many bits each of them has;
* **`SettingsFile.integerFor`**, **`SettingsFile.integerListed`** — the integer, however large, that
  a TOML file gives a setting, by its key or by its place in an array for the group;
* **`Settings.configured_numbers`** — a number that the file gives is the number that is loaded, and
  so is one that the environment gives, unless it has more than 64 bits with its sign; from there
  it reaches the options of the store.

Design notes: a file or an environment may give a setting several times, or spoil it by making
something else of its group.  What counts is the last that bears on it, as `Settings.said` tells.
-/
import AccountRegistry.Proofs.Duration
import AccountRegistry.Proofs.Settings.DecimalText
import AccountRegistry.Proofs.Settings.Groups
import AccountRegistry.Proofs.Toml.Written

namespace AccountRegistry

open Settings

/-- A setting that is a number. -/
inductive NumberSetting where
  | maxConnections
  | acquireTimeoutSecs
  | generationAttempts
  | backoffBaseMs
  | backoffMaxMs
  | registrationAttempts
  deriving DecidableEq

namespace NumberSetting

/-- The group of a setting. -/
def group : NumberSetting → Group
  | maxConnections | acquireTimeoutSecs => databaseGroup
  | generationAttempts | backoffBaseMs | backoffMaxMs => generationGroup
  | registrationAttempts => registrationGroup

/-- The place of a setting in its group. -/
def position : NumberSetting → Nat
  | maxConnections => 1
  | acquireTimeoutSecs => 2
  | generationAttempts => 0
  | backoffBaseMs => 1
  | backoffMaxMs => 2
  | registrationAttempts => 0

/-- The key of a setting in its group. -/
def key : NumberSetting → String
  | maxConnections => "max_connections"
  | acquireTimeoutSecs => "acquire_timeout_secs"
  | generationAttempts => "max_attempts"
  | backoffBaseMs => "backoff_base_ms"
  | backoffMaxMs => "backoff_max_ms"
  | registrationAttempts => "max_attempts"

/-- How many bits a setting has: the spans of time have 64. -/
def bits : NumberSetting → Nat
  | maxConnections | generationAttempts | registrationAttempts => 32
  | acquireTimeoutSecs | backoffBaseMs | backoffMaxMs => 64

/-- The number that is loaded for a setting. -/
def value (s : Settings) : NumberSetting → Nat
  | maxConnections => s.database.maxConnections
  | acquireTimeoutSecs => s.database.acquireTimeoutSecs
  | generationAttempts => s.generation.maxAttempts
  | backoffBaseMs => s.generation.backoffBaseMs
  | backoffMaxMs => s.generation.backoffMaxMs
  | registrationAttempts => s.registrationAttempts

/-- The options of a store hold the number `n` of a setting: as it is, or as so many seconds or
milliseconds.  Registering is no matter of the store. -/
def Carried (o : StoreOptions) (n : Nat) : NumberSetting → Prop
  | maxConnections => o.maxConnections = n
  | acquireTimeoutSecs => o.acquireTimeout.toNanos = n * 1000000000
  | generationAttempts => o.retry.maxAttempts = n
  | backoffBaseMs => o.retry.base.toNanos = n * 1000000
  | backoffMaxMs => o.retry.cap.toNanos = n * 1000000
  | registrationAttempts => True

/-- How a setting becomes a number. -/
def convert (k : NumberSetting) : String → Tree → Except SettingFault Nat :=
  if k.bits = 32 then Tree.toSmall else Tree.toNatural

theorem keys_position (k : NumberSetting) : k.group.keys[k.position]? = some k.key := by
  cases k <;> rfl

/-- **Numbers of 64 bits reach the options of the store as they are.** -/
theorem carried (k : NumberSetting) {s : Settings} (h : k.value s < 2 ^ 64) :
    k.Carried s.storeOptions (k.value s) := by
  cases k with
  | maxConnections => rfl
  | acquireTimeoutSecs => exact Duration.toNanos_ofSecs h
  | generationAttempts => rfl
  | backoffBaseMs => exact Duration.toNanos_ofMillis h
  | backoffMaxMs => exact Duration.toNanos_ofMillis h
  | registrationAttempts => trivial

/-! ### Scalars as settings -/

variable {k : NumberSetting} {s : Settings} {root : Tree} {x : Scalar}

theorem convert_scalar {key : String} {o : Option String} {n : Nat}
    (h : k.convert key (.scalar o x) = .ok n) :
    x.toNatural = .ok n ∧ (k.bits = 32 → n < 2 ^ 32) := by
  rw [convert] at h
  split at h
  · obtain ⟨m, hm, h⟩ := bind_eq_ok.mp h
    split at h
    · next hlt =>
      obtain rfl := Except.ok.inj h
      exact ⟨mapError_eq_ok.mp hm, fun _ => hlt⟩
    · cases h
  · next hbits => exact ⟨mapError_eq_ok.mp h, fun h => absurd h hbits⟩

/-- A setting is loaded from its place in its group. -/
theorem exists_parts (k : NumberSetting) (h : ofTree root = .ok s) :
    ∃ t parts, root.get? k.group.name = some t ∧ k.group.parts t = .ok parts ∧
      convertPart k.convert parts k.position = .ok (some (k.value s)) := by
  obtain ⟨hdatabase, hgeneration, hregistration, -⟩ := ofTree_eq_ok.mp h
  obtain ⟨d, hd, hdatabase⟩ := readGroup_eq_ok.mp hdatabase
  obtain ⟨g, hg, hgeneration⟩ := readGroup_eq_ok.mp hgeneration
  obtain ⟨r, hr, hregistration⟩ := readGroup_eq_ok.mp hregistration
  obtain ⟨dparts, hdparts, -, hconnections, htimeout, -⟩ := readDatabase_eq_ok.mp hdatabase
  obtain ⟨gparts, hgparts, hattempts, hbase, hcap⟩ := readGeneration_eq_ok.mp hgeneration
  obtain ⟨rparts, hrparts, hregistration⟩ := readRegistration_eq_ok.mp hregistration
  cases k with
  | maxConnections => exact ⟨d, dparts, hd, hdparts, hconnections⟩
  | acquireTimeoutSecs => exact ⟨d, dparts, hd, hdparts, htimeout⟩
  | generationAttempts => exact ⟨g, gparts, hg, hgparts, hattempts⟩
  | backoffBaseMs => exact ⟨g, gparts, hg, hgparts, hbase⟩
  | backoffMaxMs => exact ⟨g, gparts, hg, hgparts, hcap⟩
  | registrationAttempts => exact ⟨r, rparts, hr, hrparts, hregistration⟩

/-- **A scalar that a setting is in the end becomes its number.** -/
theorem value_of_scalarAt (h : ofTree root = .ok s)
    (hx : root.scalarAt k.group.name k.key = some x) :
    x.toNatural = .ok (k.value s) ∧ (k.bits = 32 → k.value s < 2 ^ 32) := by
  obtain ⟨t, parts, ht, hparts, hvalue⟩ := k.exists_parts h
  rw [Tree.scalarAt, ht, Option.bind_some] at hx
  obtain ⟨o, hconvert⟩ := convertPart_of_scalar hparts k.keys_position hx (f := k.convert)
  rw [hconvert, map_some_eq_ok] at hvalue
  exact convert_scalar hvalue

/-- **A scalar in the place of a setting in a list becomes its number.** -/
theorem value_of_item {o o' : Option String} {ts : List Tree} (h : ofTree root = .ok s)
    (hgroup : root.get? k.group.name = some (.list o ts))
    (hitem : ts[k.position]? = some (.scalar o' x)) :
    x.toNatural = .ok (k.value s) ∧ (k.bits = 32 → k.value s < 2 ^ 32) := by
  obtain ⟨t, parts, ht, hparts, hvalue⟩ := k.exists_parts h
  obtain rfl := Option.some.inj (ht.symm.trans hgroup)
  rw [convertPart_of_item hparts k.keys_position hitem, map_some_eq_ok] at hvalue
  exact convert_scalar hvalue

theorem lt_bits (h32 : k.bits = 32 → k.value s < 2 ^ 32) (h64 : k.value s < 2 ^ 64) :
    k.value s < 2 ^ k.bits := by
  cases k <;> first | exact h32 rfl | exact h64

/-- **An integer of 64 bits becomes a number as it is**, or none at all. -/
theorem eq_of_integer {n : Int} (hn : fits64 n = true)
    (h : (Scalar.integer n).toNatural = .ok (k.value s) ∧ (k.bits = 32 → k.value s < 2 ^ 32)) :
    (k.value s : Int) = n ∧ k.value s < 2 ^ k.bits := by
  obtain ⟨hvalue, h32⟩ := h
  have hn := fits64_iff.mp hn
  rw [Scalar.toNatural] at hvalue
  split at hvalue
  · cases hvalue
  · have hvalue := Except.ok.inj hvalue
    exact ⟨by omega, lt_bits h32 (by omega)⟩

end NumberSetting

/-! ### The file -/

/-- The integer that a TOML file gives a setting in the end, if it is an integer. -/
def SettingsFile.integerFor (file : SettingsFile) (group key : String) : Option Int :=
  match (Toml.written file.text).bind fun es =>
    Settings.said (Tree.ofEntries file.path es) group key with
  | some (some (.integer n)) => some n
  | _ => none

/-- The integer in a place of the array that a TOML file gives for a group in the end, if it is an
integer. -/
def SettingsFile.integerListed (file : SettingsFile) (group : String) (position : Nat) :
    Option Int :=
  match (Toml.written file.text).bind fun es =>
    Settings.givenFor (Tree.ofEntries file.path es) group with
  | some (.list _ ts) =>
    match ts[position]? with
    | some (.scalar _ (.integer n)) => some n
    | _ => none
  | _ => none

theorem Tree.mem_ofEntries {o : String} {es : List (String × Plain)} {e : String × Tree}
    (he : e ∈ ofEntries o es) : ∃ p, (e.1, p) ∈ es ∧ e.2 = ofPlain o p := by
  induction es with
  | nil => cases he
  | cons e' es ih =>
    rw [ofEntries] at he
    rcases List.mem_cons.mp he with rfl | he
    · exact ⟨e'.2, List.mem_cons_self, rfl⟩
    · obtain ⟨p, hp, heq⟩ := ih he
      exact ⟨p, List.mem_cons_of_mem _ hp, heq⟩

theorem Tree.mem_ofItems {o : String} {ps : List Plain} {t : Tree} (ht : t ∈ ofItems o ps) :
    ∃ p ∈ ps, t = ofPlain o p := by
  induction ps with
  | nil => cases ht
  | cons p ps ih =>
    rw [ofItems] at ht
    rcases List.mem_cons.mp ht with rfl | ht
    · exact ⟨p, List.mem_cons_self, rfl⟩
    · obtain ⟨q, hq, heq⟩ := ih ht
      exact ⟨q, List.mem_cons_of_mem _ hq, heq⟩

/-- A scalar with a note of its origin is the scalar without. -/
theorem Tree.scalar?_ofPlain {o : String} {p : Plain} {x : Scalar}
    (h : (ofPlain o p).scalar? = some x) : p = .scalar x := by
  cases p with
  | scalar s => exact congrArg _ (Option.some.inj h)
  | list ps => cases h
  | table es => cases h

/-- **An integer that small settings say something is set to is small.** -/
theorem Settings.said_fits {o : String} {es : List (String × Plain)} {group key : String}
    {x : Scalar} (hes : ∀ e ∈ es, e.2.Fits)
    (h : said (Tree.ofEntries o es) group key = some (some x)) : x.Fits := by
  obtain ⟨e, he, htells⟩ := List.exists_of_findSome?_eq_some h
  obtain ⟨p, hp, hplain⟩ := Tree.mem_ofEntries (List.mem_reverse.mp he)
  have hfits : p.Fits := hes _ hp
  rcases KeyPath.scalar_of_tells htells with hx | ⟨o', ts, leaf, htable, hleaf, hx⟩
  · rw [hplain] at hx
    obtain rfl := Tree.scalar?_ofPlain hx
    cases hfits with
    | scalar hx => exact hx
  · rw [hplain] at htable
    cases hfits with
    | scalar _ => cases htable
    | list _ => cases htable
    | table hes' =>
      obtain ⟨-, rfl⟩ := Tree.table.inj htable
      obtain ⟨q, hq, hleaf⟩ := Tree.mem_ofEntries hleaf
      rw [show leaf = Tree.ofPlain o q from hleaf] at hx
      obtain rfl := Tree.scalar?_ofPlain hx
      cases hes' _ hq with
      | scalar hx => exact hx

/-- What is given for a group as a whole is an entry of the source. -/
theorem Settings.mem_of_givenFor {source : List (String × Tree)} {group : String} {t : Tree}
    (h : givenFor source group = some t) : ∃ path, (path, t) ∈ source := by
  rw [givenFor] at h
  split at h
  · next path new hfind =>
    split at h
    · obtain rfl := Option.some.inj h
      exact ⟨path, List.mem_reverse.mp (List.mem_of_find?_eq_some hfind)⟩
    · cases h
  · cases h

/-- **An integer in a list of small settings is small.** -/
theorem Settings.listed_fits {o : String} {es : List (String × Plain)} {group : String}
    {o' o'' : Option String} {ts : List Tree} {i : Nat} {x : Scalar} (hes : ∀ e ∈ es, e.2.Fits)
    (h : givenFor (Tree.ofEntries o es) group = some (.list o' ts))
    (hitem : ts[i]? = some (.scalar o'' x)) : x.Fits := by
  obtain ⟨path, hmem⟩ := mem_of_givenFor h
  obtain ⟨p, hp, hlist⟩ := Tree.mem_ofEntries hmem
  have hfits : p.Fits := hes _ hp
  have hlist : Tree.list o' ts = Tree.ofPlain o p := hlist
  cases hfits with
  | scalar hx => cases hlist
  | table hes' => cases hlist
  | list hps =>
    obtain ⟨-, rfl⟩ := Tree.list.inj hlist
    obtain ⟨q, hq, hscalar⟩ := Tree.mem_ofItems (List.mem_of_getElem? hitem)
    have hx : (Tree.ofPlain o q).scalar? = some x := hscalar ▸ rfl
    obtain rfl := Tree.scalar?_ofPlain hx
    cases hps _ hq with
    | scalar hx => exact hx

/-! ### What is loaded -/

namespace Settings

variable {fs : Files} {env : Environment} {path : Option String} {s : Settings}

/-- What is loaded of a TOML file is what is written in it, and its integers have 64 bits. -/
theorem ofTree_of_load {file : SettingsFile} (hload : load fs env path = .ok s)
    (hfile : SettingsFile.locate fs (path.getD standardPath) = .ok file)
    (hformat : file.format = .toml) :
    ∃ es, Toml.written file.text = some es ∧ (∀ e ∈ es, e.2.Fits) ∧
      ofTree (sources (Tree.ofEntries file.path es) (environmentSettings env)) = .ok s := by
  obtain ⟨file', entries, hfile', hread, hs⟩ := load_eq_ok.mp hload
  obtain rfl := Except.ok.inj (hfile.symm.trans hfile')
  rw [SettingsFile.read, hformat, FileFormat.parse] at hread
  split at hread
  · next es hes =>
    obtain ⟨hwritten, hfits⟩ := Toml.parse_eq_some hes
    obtain rfl := Except.ok.inj hread
    exact ⟨es, hwritten, hfits, hs⟩
  · cases hread

/-- **A number that the file gives is loaded as it is**, if the environment leaves it alone. -/
theorem value_of_file (hload : load fs env path = .ok s) (k : NumberSetting) {file : SettingsFile}
    {n : Int} (hfile : SettingsFile.locate fs (path.getD standardPath) = .ok file)
    (hformat : file.format = .toml) (hn : file.integerFor k.group.name k.key = some n)
    (henv : said (environmentSettings env) k.group.name k.key = none) :
    (k.value s : Int) = n ∧ k.value s < 2 ^ k.bits := by
  obtain ⟨es, hwritten, hfits, hs⟩ := ofTree_of_load hload hfile hformat
  have hsaid : said (Tree.ofEntries file.path es) k.group.name k.key = some (some (.integer n)) := by
    rw [SettingsFile.integerFor, hwritten, Option.bind_some] at hn
    split at hn
    · next m hsaid => rw [hsaid, Option.some.inj hn]
    · cases hn
  have hscalar : (sources (Tree.ofEntries file.path es) (environmentSettings env)).scalarAt
      k.group.name k.key = some (.integer n) := by
    rw [scalarAt_sources, henv, hsaid]
    rfl
  exact NumberSetting.eq_of_integer (said_fits hfits hsaid)
    (NumberSetting.value_of_scalarAt hs hscalar)

/-- **So is a number in an array**, if the environment leaves the group alone. -/
theorem value_of_listed (hload : load fs env path = .ok s) (k : NumberSetting)
    {file : SettingsFile} {n : Int}
    (hfile : SettingsFile.locate fs (path.getD standardPath) = .ok file)
    (hformat : file.format = .toml)
    (hn : file.integerListed k.group.name k.position = some n)
    (henv : ∀ e ∈ environmentSettings env, (KeyPath.ofKey e.1).root ≠ k.group.name) :
    (k.value s : Int) = n ∧ k.value s < 2 ^ k.bits := by
  obtain ⟨es, hwritten, hfits, hs⟩ := ofTree_of_load hload hfile hformat
  rw [SettingsFile.integerListed, hwritten, Option.bind_some] at hn
  split at hn
  · next o ts hgiven =>
    split at hn
    · next o' m hitem =>
      obtain rfl := Option.some.inj hn
      have hgroup : (sources (Tree.ofEntries file.path es) (environmentSettings env)).get?
          k.group.name = some (.list o ts) := by
        rw [sources, get?_mergeAll_of_ne henv, get?_mergeAll_of_list hgiven]
      exact NumberSetting.eq_of_integer (listed_fits hfits hgiven hitem)
        (NumberSetting.value_of_item hs hgroup hitem)
    · cases hn
  · cases hn

/-- What a variable says of its own setting. -/
theorem tells_variable (k : NumberSetting) (o : Option String) (x : Scalar) :
    (KeyPath.ofKey (k.group.keyOf k.key)).tells (.scalar o x) k.group.name k.key =
      some (some x) := by
  have hpath : KeyPath.ofKey (k.group.keyOf k.key) = ⟨k.group.name, [.key k.key]⟩ := by
    cases k <;> decide +kernel
  simp only [hpath, KeyPath.tells, if_true, Tree.scalar?]

/-- **The last variable that bears on a number decides on it.** -/
theorem value_of_variable (hload : load fs env path = .ok s) (k : NumberSetting)
    {before after : Environment} {name text : String} {n : Int}
    (henv : env = before ++ (name, text) :: after)
    (hname : variableKey name = some (k.group.keyOf k.key)) (hn : DecimalText text.toList n)
    (hafter : said (environmentSettings after) k.group.name k.key = none) :
    (n < -0x8000000000000000 ∨ 0 ≤ n) ∧ k.value s = received n ∧ k.value s < 2 ^ k.bits := by
  obtain ⟨file, entries, -, -, hs⟩ := load_eq_ok.mp hload
  have hsaid : said (environmentSettings env) k.group.name k.key =
      some (some (parsedValue text)) := by
    have hsettings : environmentSettings env = environmentSettings before ++
        ([(k.group.keyOf k.key, .scalar (some environmentOrigin) (parsedValue text))] ++
          environmentSettings after) := by
      rw [henv, environmentSettings, List.filterMap_append]
      exact congrArg _ (List.filterMap_cons_some (by dsimp only; rw [hname]; rfl))
    rw [hsettings, said_append, said_append, hafter, said_singleton, tells_variable]
    rfl
  have hscalar : (sources entries (environmentSettings env)).scalarAt k.group.name k.key =
      some (parsedValue text) := by
    rw [scalarAt_sources, hsaid]
    rfl
  obtain ⟨hvalue, h32⟩ := NumberSetting.value_of_scalarAt hs hscalar
  obtain ⟨hbounds, hvalue⟩ := (toNatural_parsedValue hn).mp hvalue
  have hle := received_le n
  have hgreatest : greatestUnsigned = 2 ^ 64 - 1 := rfl
  exact ⟨hbounds, hvalue, NumberSetting.lt_bits h32 (by omega)⟩

/-- **Configured numbers.**  An integer of the settings file, in any of the notations of TOML and
however large, is the number that is loaded for its setting, and it has no more bits than the
setting; so is one that stands in the place of its setting in an array for the group.  An integer
that a variable gives is so unless it has more than 64 bits with its sign: then the number that is
loaded is the nearest one that is a double, cut off at zero and at the greatest number of 64 bits.
Either number reaches the options of the store as it is. -/
theorem configured_numbers (hload : load fs env path = .ok s) (k : NumberSetting) :
    (∀ word n, Toml.IntegerWord word n → Toml.wordValue Toml.whole word = some (.integer n)) ∧
    (∀ file n, SettingsFile.locate fs (path.getD standardPath) = .ok file →
      file.format = .toml → file.integerFor k.group.name k.key = some n →
      said (environmentSettings env) k.group.name k.key = none →
      (k.value s : Int) = n ∧ n < 2 ^ k.bits ∧ k.Carried s.storeOptions (k.value s)) ∧
    (∀ file n, SettingsFile.locate fs (path.getD standardPath) = .ok file →
      file.format = .toml → file.integerListed k.group.name k.position = some n →
      (∀ e ∈ environmentSettings env, (KeyPath.ofKey e.1).root ≠ k.group.name) →
      (k.value s : Int) = n ∧ n < 2 ^ k.bits ∧ k.Carried s.storeOptions (k.value s)) ∧
    ∀ before name text after n, env = before ++ (name, text) :: after →
      variableKey name = some (k.group.keyOf k.key) → DecimalText text.toList n →
      said (environmentSettings after) k.group.name k.key = none →
      (n < -2 ^ 63 ∨ 0 ≤ n) ∧ k.value s = received n ∧
        ((k.value s : Int) = n ↔
          0 ≤ n ∧ (n < 2 ^ 63 ∨ (2048 ∣ n ∧ n < 2 ^ 64) ∨ n = 2 ^ 64 - 1)) ∧
        k.value s < 2 ^ k.bits ∧ k.Carried s.storeOptions (k.value s) := by
  have hcarried (hbits : k.value s < 2 ^ k.bits) : k.Carried s.storeOptions (k.value s) :=
    k.carried (Nat.lt_of_lt_of_le hbits (Nat.pow_le_pow_right (by decide) (by cases k <;> decide)))
  refine ⟨fun word n => Toml.wordValue_of_integerWord, fun file n hfile hformat hn henv => ?_,
    fun file n hfile hformat hn henv => ?_, fun before name text after n henv hname hn hafter => ?_⟩
  · obtain ⟨rfl, hbits⟩ := value_of_file hload k hfile hformat hn henv
    exact ⟨rfl, by exact_mod_cast hbits, hcarried hbits⟩
  · obtain ⟨rfl, hbits⟩ := value_of_listed hload k hfile hformat hn henv
    exact ⟨rfl, by exact_mod_cast hbits, hcarried hbits⟩
  · obtain ⟨hbounds, hvalue, hbits⟩ := value_of_variable hload k henv hname hn hafter
    exact ⟨hbounds, hvalue, hvalue ▸ received_eq_iff n, hbits, hcarried hbits⟩

/-- A settings file with an integer in base 16; three of its groups are given in order. -/
def frugal : Files :=
  .ofTexts
    [("settings/dev.toml",
      "\n".intercalate
        ["generation = [32, 1, 100]", "registration = [3]", "log = [\"off\"]", "[database]",
          "url = \"memory:\"", "max_connections = 0x1_0", "create_schema = true",
          "trace_operations = true"])]

/-- A variable that holds an integer of 65 bits. -/
def overlong : Environment :=
  [("USERDB__DATABASE__ACQUIRE_TIMEOUT_SECS", "18446744073709551616")]

theorem configured_numbers_overlong :
    ∃ s, load frugal overlong none = .ok s ∧
      NumberSetting.maxConnections.value s = 16 ∧
      NumberSetting.maxConnections.Carried s.storeOptions 16 ∧
      NumberSetting.acquireTimeoutSecs.value s = 18446744073709551615 ∧
      NumberSetting.acquireTimeoutSecs.Carried s.storeOptions 18446744073709551615 ∧
      NumberSetting.backoffMaxMs.value s = 100 := by
  have hloads : (load frugal overlong none).toOption.isSome = true := by decide +kernel
  have hinteger : (match SettingsFile.locate frugal standardPath with
      | .ok file =>
        file.format == .toml && (file.integerFor "database" "max_connections" == some 16 &&
          file.integerListed "generation" 2 == some 100)
      | .error _ => false) = true := by
    decide +kernel
  have henv : said (environmentSettings overlong) "database" "max_connections" = none := by
    decide +kernel
  have hgroup : ∀ e ∈ environmentSettings overlong, (KeyPath.ofKey e.1).root ≠ "generation" := by
    decide +kernel
  have hname : variableKey "USERDB__DATABASE__ACQUIRE_TIMEOUT_SECS" =
      some (databaseGroup.keyOf "acquire_timeout_secs") := by
    decide +kernel
  have htext : DecimalText "18446744073709551616".toList 18446744073709551616 :=
    .plain (by decide) (List.all_eq_true.mp (by decide))
  cases hload : load frugal overlong none with
  | error e =>
    rw [hload] at hloads
    cases hloads
  | ok s =>
    refine ⟨s, rfl, ?_⟩
    obtain ⟨-, hfile, -⟩ := configured_numbers hload .maxConnections
    obtain ⟨-, -, -, hvariable⟩ := configured_numbers hload .acquireTimeoutSecs
    obtain ⟨-, -, hlisted, -⟩ := configured_numbers hload .backoffMaxMs
    cases hlocate : SettingsFile.locate frugal standardPath with
    | error e =>
      rw [hlocate] at hinteger
      cases hinteger
    | ok file =>
      rw [hlocate] at hinteger
      obtain ⟨hformat, hinteger⟩ := Bool.and_eq_true_iff.mp hinteger
      obtain ⟨hinteger, hlist⟩ := Bool.and_eq_true_iff.mp hinteger
      obtain ⟨hconnections, -, hcarried⟩ :=
        hfile file 16 hlocate (beq_iff_eq.mp hformat) (beq_iff_eq.mp hinteger) henv
      obtain ⟨-, htimeout, -, -, hspan⟩ := hvariable [] _ _ [] _ rfl hname htext rfl
      obtain ⟨hcap, -, -⟩ :=
        hlisted file 100 hlocate (beq_iff_eq.mp hformat) (beq_iff_eq.mp hlist) hgroup
      have hconnections : NumberSetting.maxConnections.value s = 16 := by omega
      have htimeout : NumberSetting.acquireTimeoutSecs.value s = 18446744073709551615 :=
        htimeout.trans (by decide +kernel)
      exact ⟨hconnections, hconnections ▸ hcarried, htimeout, htimeout ▸ hspan, by omega⟩

end Settings

end AccountRegistry
