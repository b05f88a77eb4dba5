/-
Groups of settings as records.

* **`Settings.readDatabase_eq_ok`** and the like — a group becomes a record exactly if each of its
  parts is there and becomes a field;
* **`Settings.ofTree_eq_ok`** — the settings are what their four groups become;
* **`Settings.convertPart_of_scalar`**, **`Settings.convertPart_of_item`** — the part of a group
  that is a table and holds a scalar under a key, and of one that is a list;
* **`Settings.load_eq_ok`** — loading is finding the file, reading it and reading all sources.
-/
import AccountRegistry.Proofs.Except
import AccountRegistry.Proofs.Settings.Sources

namespace AccountRegistry

open AccountRegistry.Tree

namespace Settings

variable {α : Type} {g : Group} {t root : Tree} {parts : List (String × Option Tree)} {i : Nat}

/-! ### Parts and groups that must be there -/

theorem needPart_eq_ok {found : Option α} {a : α} :
    needPart g t parts i found = .ok a ↔ found = some a := by
  cases found with
  | none => exact iff_of_false nofun nofun
  | some b => rw [needPart, Except.ok.injEq, Option.some.injEq]

theorem needGroup_eq_ok {found : Option α} {a : α} :
    needGroup g found = .ok a ↔ found = some a := by
  cases found with
  | none => exact iff_of_false nofun nofun
  | some b => rw [needGroup, Except.ok.injEq, Option.some.injEq]

theorem readGroup_eq_ok {f : Tree → Except SettingFault α} {a : α} :
    readGroup g f root = .ok (some a) ↔ ∃ t, root.get? g.name = some t ∧ f t = .ok a := by
  rw [readGroup]
  cases root.get? g.name with
  | none => exact iff_of_false nofun nofun
  | some t =>
    simp only [map_some_eq_ok, Option.some.injEq, exists_eq_left']

/-! ### The groups -/

theorem readDatabase_eq_ok {d : DatabaseSettings} :
    readDatabase t = .ok d ↔ ∃ parts, databaseGroup.parts t = .ok parts ∧
      convertPart Tree.toText parts 0 = .ok (some d.url) ∧
      convertPart Tree.toSmall parts 1 = .ok (some d.maxConnections) ∧
      convertPart Tree.toNatural parts 2 = .ok (some d.acquireTimeoutSecs) ∧
      convertPart Tree.toBool parts 3 = .ok (some d.createSchema) ∧
      convertPart Tree.toBool parts 4 = .ok (some d.traceOperations) := by
  simp only [readDatabase, bind_eq_ok, needPart_eq_ok, Except.ok.injEq]
  constructor
  · rintro ⟨parts, hparts, _, hurl, _, hconnections, _, htimeout, _, hschema, _, htrace, _, rfl,
      _, rfl, _, rfl, _, rfl, _, rfl, rfl⟩
    exact ⟨parts, hparts, hurl, hconnections, htimeout, hschema, htrace⟩
  · rintro ⟨parts, hparts, hurl, hconnections, htimeout, hschema, htrace⟩
    exact ⟨parts, hparts, _, hurl, _, hconnections, _, htimeout, _, hschema, _, htrace, _, rfl,
      _, rfl, _, rfl, _, rfl, _, rfl, rfl⟩

theorem readGeneration_eq_ok {d : GenerationSettings} :
    readGeneration t = .ok d ↔ ∃ parts, generationGroup.parts t = .ok parts ∧
      convertPart Tree.toSmall parts 0 = .ok (some d.maxAttempts) ∧
      convertPart Tree.toNatural parts 1 = .ok (some d.backoffBaseMs) ∧
      convertPart Tree.toNatural parts 2 = .ok (some d.backoffMaxMs) := by
  simp only [readGeneration, bind_eq_ok, needPart_eq_ok, Except.ok.injEq]
  constructor
  · rintro ⟨parts, hparts, _, hattempts, _, hbase, _, hcap, _, rfl, _, rfl, _, rfl, rfl⟩
    exact ⟨parts, hparts, hattempts, hbase, hcap⟩
  · rintro ⟨parts, hparts, hattempts, hbase, hcap⟩
    exact ⟨parts, hparts, _, hattempts, _, hbase, _, hcap, _, rfl, _, rfl, _, rfl, rfl⟩

theorem readRegistration_eq_ok {n : Nat} :
    readRegistration t = .ok n ↔ ∃ parts, registrationGroup.parts t = .ok parts ∧
      convertPart Tree.toSmall parts 0 = .ok (some n) := by
  simp only [readRegistration, bind_eq_ok, needPart_eq_ok]
  constructor
  · rintro ⟨parts, hparts, _, hattempts, rfl⟩
    exact ⟨parts, hparts, hattempts⟩
  · rintro ⟨parts, hparts, hattempts⟩
    exact ⟨parts, hparts, _, hattempts, rfl⟩

theorem readLog_eq_ok {filter : String} :
    readLog t = .ok filter ↔ ∃ parts, logGroup.parts t = .ok parts ∧
      convertPart Tree.toText parts 0 = .ok (some filter) := by
  simp only [readLog, bind_eq_ok, needPart_eq_ok]
  constructor
  · rintro ⟨parts, hparts, _, hfilter, rfl⟩
    exact ⟨parts, hparts, hfilter⟩
  · rintro ⟨parts, hparts, hfilter⟩
    exact ⟨parts, hparts, _, hfilter, rfl⟩

/-- **The settings are what their groups become.** -/
theorem ofTree_eq_ok {s : Settings} :
    ofTree root = .ok s ↔
      readGroup databaseGroup readDatabase root = .ok (some s.database) ∧
      readGroup generationGroup readGeneration root = .ok (some s.generation) ∧
      readGroup registrationGroup readRegistration root = .ok (some s.registrationAttempts) ∧
      readGroup logGroup readLog root = .ok (some s.logFilter) := by
  simp only [ofTree, bind_eq_ok, needGroup_eq_ok, Except.ok.injEq]
  constructor
  · rintro ⟨_, hdatabase, _, hgeneration, _, hregistration, _, hlog, _, rfl, _, rfl, _, rfl, _, rfl,
      rfl⟩
    exact ⟨hdatabase, hgeneration, hregistration, hlog⟩
  · rintro ⟨hdatabase, hgeneration, hregistration, hlog⟩
    exact ⟨_, hdatabase, _, hgeneration, _, hregistration, _, hlog, _, rfl, _, rfl, _, rfl, _, rfl,
      rfl⟩

/-! ### Scalars under keys -/

/-- The part of a group that holds a scalar under the key of the part. -/
theorem convertPart_of_scalar {f : String → Tree → Except SettingFault α} {key : String}
    {s : Scalar} (hparts : g.parts t = .ok parts) (hkey : g.keys[i]? = some key)
    (hscalar : (t.get? key).bind scalar? = some s) :
    ∃ o, convertPart f parts i = (f (g.keyOf key) (.scalar o s)).map some := by
  cases t with
  | scalar o s => cases hscalar
  | list o ts => cases hscalar
  | table o es =>
    obtain rfl := Except.ok.inj hparts
    obtain ⟨leaf, hleaf, hs⟩ := Option.bind_eq_some_iff.mp hscalar
    cases leaf with
    | list o ts => cases hs
    | table o es => cases hs
    | scalar o s =>
      obtain rfl := Option.some.inj hs
      refine ⟨o, ?_⟩
      have hlookup : es.lookup key = some (.scalar o s) := hleaf
      rw [convertPart, List.getElem?_map, hkey, Option.map_some, hlookup]

/-- The part of a group that is given in order. -/
theorem convertPart_of_item {f : String → Tree → Except SettingFault α} {key : String}
    {o : Option String} {ts : List Tree} {item : Tree}
    (hparts : g.parts (.list o ts) = .ok parts) (hkey : g.keys[i]? = some key)
    (hitem : ts[i]? = some item) :
    convertPart f parts i = (f (g.keyAt i) item).map some := by
  obtain rfl := Except.ok.inj hparts
  rw [convertPart, List.getElem?_map, List.getElem?_zipIdx, hkey, Option.map_some, Option.map_some]
  dsimp only
  rw [Nat.zero_add, hitem]

/-! ### Loading -/

theorem load_eq_ok {fs : Files} {env : Environment} {path : Option String} {s : Settings} :
    load fs env path = .ok s ↔
      ∃ file entries, SettingsFile.locate fs (path.getD standardPath) = .ok file ∧
        file.read = .ok entries ∧ ofTree (sources entries (environmentSettings env)) = .ok s := by
  simp only [load, bind_eq_ok]
  constructor
  · rintro ⟨file, hfile, entries, hentries, h⟩
    exact ⟨file, entries, hfile, hentries, h⟩
  · rintro ⟨file, entries, hfile, hentries, h⟩
    exact ⟨file, hfile, entries, hentries, h⟩

end Settings

end AccountRegistry
