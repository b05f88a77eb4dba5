/-
Spellings of the scheme of a URI.

* **`openStore_spelling`** — but for SQLite, a URI leads to the same store whatever the case of
  the letters of its scheme;
* **`start_loneFile`** — a store on a file that must be there is opened exactly if it is there;
* **`spellings_interchangeable_iff`** — two spellings of a scheme can be put for one another in
  front of every rest of a URI exactly when they are the same or the scheme is not that of
  SQLite.

Design notes: the kind of database is told from the scheme in small letters.  The place of an
SQLite database is told from the URI as it was written, and there only small letters count.
-/
import AccountRegistry.Proofs.Store.FileStore

namespace AccountRegistry

/-! ### Spellings -/

namespace Text

theorem eq_toLower_or_eq_toUpper (c : Char) : c = c.toLower ∨ c = c.toLower.toUpper := by
  by_cases h : c.val ≥ 'A'.val ∧ c.val ≤ 'Z'.val
  · right
    have hlow : 65 ≤ c.toNat := h.1
    have hhigh : c.toNat ≤ 90 := h.2
    have hall : ∀ n, n ≤ 90 → 65 ≤ n → Char.ofNat n = (Char.ofNat n).toLower.toUpper := by
      decide
    have hc := hall c.toNat hhigh hlow
    rwa [Char.ofNat_toNat] at hc
  · left
    delta Char.toLower
    rw [dif_neg h]

/-- The spellings of a word in small letters. -/
def spellings : List Char → List (List Char)
  | [] => [[]]
  | c :: cs => (spellings cs).flatMap fun t => [c :: t, c.toUpper :: t]

theorem mem_spellings (cs : List Char) : cs ∈ spellings (cs.map Char.toLower) := by
  induction cs with
  | nil => exact List.mem_singleton_self []
  | cons c cs ih =>
    refine List.mem_flatMap.mpr ⟨cs, ih, ?_⟩
    obtain hc | hc := eq_toLower_or_eq_toUpper c
    · rw [← hc]
      exact List.mem_cons_self
    · rw [← hc]
      exact List.mem_cons_of_mem _ List.mem_cons_self

theorem splitOnce_append {sep : Char} {cs : List Char} (h : sep ∉ cs) (rest : List Char) :
    splitOnce sep (cs ++ sep :: rest) = some (cs, rest) := by
  induction cs with
  | nil =>
    rw [List.nil_append, splitOnce, if_pos rfl]
  | cons c cs ih =>
    have hc : c ≠ sep := fun hc => h (hc ▸ List.mem_cons_self)
    have hrest : sep ∉ cs := fun hmem => h (List.mem_cons_of_mem c hmem)
    rw [List.cons_append, splitOnce, if_neg hc, ih hrest]
    rfl

end Text

/-- The schemes that are supported. -/
def Backend.schemes : List String := ["mysql", "mariadb", "sqlite", "memory"]

/-- A scheme that is supported, in letters of either case. -/
def Spells (s scheme : String) : Prop :=
  scheme ∈ Backend.schemes ∧ Text.asciiLowercase s = scheme

namespace Spells

variable {s scheme : String}

theorem colon_notMem (h : Spells s scheme) : ':' ∉ s.toList := by
  obtain ⟨hscheme, rfl⟩ := h
  have hlower : ∀ t ∈ Backend.schemes, ':' ∉ t.toList := by decide
  intro hmem
  refine hlower _ hscheme ?_
  rw [Text.asciiLowercase, String.toList_ofList]
  exact List.mem_map_of_mem hmem

theorem splitOnce_uri (h : Spells s scheme) (rest : String) :
    Text.splitOnce ':' (s ++ ":" ++ rest).toList = some (s.toList, rest.toList) := by
  rw [String.toList_append, String.toList_append, List.append_assoc]
  exact Text.splitOnce_append h.colon_notMem rest.toList

/-- The kind of database is told from the scheme in small letters. -/
theorem backend_eq (h : Spells s scheme) (rest : String) :
    Backend.ofUri (s ++ ":" ++ rest) = Backend.ofUri (scheme ++ ":") := by
  have hscheme : Backend.scheme (s ++ ":" ++ rest) = s := by
    rw [Backend.scheme, h.splitOnce_uri]
    exact String.ofList_toList
  obtain ⟨hmem, hlower⟩ := h
  rw [Backend.ofUri, hscheme, hlower]
  have hall : ∀ t ∈ Backend.schemes,
      Text.asciiLowercase (Backend.scheme (t ++ ":")) = t := by decide
  rw [Backend.ofUri, hall scheme hmem]

end Spells

/-! ### Databases in memory and on a server -/

theorem connectMySql_spelling {s s' scheme : String} (h : Spells s scheme)
    (h' : Spells s' scheme) (rest : String) :
    connectMySql (s ++ ":" ++ rest) = connectMySql (s' ++ ":" ++ rest) := by
  have hendpoint : MySqlEndpoint.ofUri (s ++ ":" ++ rest) =
      MySqlEndpoint.ofUri (s' ++ ":" ++ rest) := by
    rw [MySqlEndpoint.ofUri, MySqlEndpoint.ofUri, h.splitOnce_uri, h'.splitOnce_uri]
  funext o w
  rw [connectMySql, connectMySql, hendpoint]

/-- **But for SQLite, a URI leads to the same store** whatever the case of the letters of its
scheme. -/
theorem openStore_spelling {s s' scheme : String} (h : Spells s scheme) (h' : Spells s' scheme)
    (hscheme : scheme ≠ "sqlite") (rest : String) :
    openStore (s ++ ":" ++ rest) = openStore (s' ++ ":" ++ rest) := by
  have hother : ∀ t ∈ Backend.schemes, t ≠ "sqlite" →
      Backend.ofUri (t ++ ":") ≠ .ok .sqlite := by decide
  funext o w
  rw [openStore, openStore, h.backend_eq, h'.backend_eq]
  cases hb : Backend.ofUri (scheme ++ ":") with
  | error e => rfl
  | ok b =>
    have hengine : openEngine b (s ++ ":" ++ rest) o w = openEngine b (s' ++ ":" ++ rest) o w := by
      cases b with
      | memory => rfl
      | mysql => rw [openEngine, openEngine, connectMySql_spelling h h' rest]
      | sqlite => exact absurd hb (hother scheme h.1 hscheme)
    simp only [hengine]

/-! ### SQLite databases -/

/-- Whether a URI leads to the file of the given name in the working directory. -/
def LeadsToFile (uri name : String) : Prop :=
  SqliteLocation.ofUri uri = .ok { name } ∧ Path.plain name = [name] ∧
    name.toList.contains '\x00' = false ∧ ({ name } : SqliteLocation).isVolatile = false

instance (uri name : String) : Decidable (LeadsToFile uri name) :=
  inferInstanceAs (Decidable (_ ∧ _ ∧ _ ∧ _))

/-- The file that a spelling leads to when the name `x` follows it. -/
def spelledFile (s : String) : String :=
  if s = "sqlite" then "x" else s ++ ":x"

theorem leadsToFile_spelledFile {s : String} (h : Spells s "sqlite") :
    LeadsToFile (s ++ ":" ++ "x") (spelledFile s) := by
  have hall : ∀ t ∈ Text.spellings "sqlite".toList,
      LeadsToFile (String.ofList t ++ ":" ++ "x") (spelledFile (String.ofList t)) := by
    decide +kernel
  have hlower : s.toList.map Char.toLower = "sqlite".toList := by
    rw [← h.2, Text.asciiLowercase, String.toList_ofList]
  have hs := hall s.toList (hlower ▸ Text.mem_spellings s.toList)
  rwa [String.ofList_toList] at hs

theorem spelledFile_injective {s s' : String} (h : spelledFile s = spelledFile s') : s = s' := by
  -- a name of one letter is not the end of a longer one
  have hshort (t : String) : "x" ≠ t ++ ":x" := by
    intro ht
    have hlength := congrArg String.length ht
    rw [String.length_append] at hlength
    have hx : "x".length = 1 := rfl
    have htail : ":x".length = 2 := rfl
    omega
  rw [spelledFile, spelledFile] at h
  split at h <;> split at h
  · next hs hs' => rw [hs, hs']
  · exact absurd h (hshort s')
  · exact absurd h.symm (hshort s)
  · have hlist := congrArg String.toList h
    rw [String.toList_append, String.toList_append] at hlist
    exact String.toList_injective (List.append_cancel_right hlist)

/-- A world whose only file has the given name, and is empty. -/
def loneFile (name : String) : World where
  files := { entries := [([name], .text "")] }
  network := .down
  source := .scripted [] id

theorem entryAt_loneFile {n m : String} (h : n ≠ m) : (loneFile m).files.entryAt [n] = .missing := by
  have hkey : ([n] == [m]) = false := beq_eq_false_iff_ne.mpr fun heq => h (List.cons.inj heq).1
  have hhead : (n == m) = false := beq_eq_false_iff_ne.mpr h
  simp only [loneFile, Files.entryAt, Files.places, List.lookup_cons, hkey, List.lookup_nil,
    List.isEmpty, List.map, List.nil_append, List.any, List.isPrefixOf, hhead, Bool.false_and,
    Bool.or_false, Bool.false_eq_true, if_false]

/-- A URI that leads to a file asks the directory for it. -/
theorem LeadsToFile.openSqlite_eq {uri n : String} (h : LeadsToFile uri n) (fs : Files) :
    openSqlite uri .standard fs =
      ((({ name := n } : SqliteLocation).openFile fs).map fun (pool, fs) =>
        (Engine.sqlite pool, fs)).mapError .failed := by
  obtain ⟨hl, -, hnul, hvolatile⟩ := h
  have hstart : (PoolLimits.ofUri uri .standard).start StoreOptions.standard.acquireTimeout =
      .ok () := by
    rw [PoolLimits.ofUri]
    split <;> rfl
  have hcheck : ({ name := n } : SqliteLocation).check = .ok () := by
    simp only [SqliteLocation.check, hnul, Bool.false_eq_true, if_false]
  simp only [openSqlite, hl, Except.mapError, bind, Except.bind, hstart,
    SqliteLocation.openWith, hcheck, hvolatile, Bool.false_eq_true, if_false]

/-- **A store on a file that must be there** is opened exactly if it is there. -/
theorem start_loneFile {uri n : String} (hb : Backend.ofUri uri = .ok .sqlite)
    (h : LeadsToFile uri n) (m : String) :
    (∃ r, ((Setup.ofUri uri .standard 0 0).start (loneFile m)).value = .ok r) ↔ n = m := by
  have hpool := h.openSqlite_eq (loneFile m).files
  simp only [SqliteLocation.openFile, h.2.1] at hpool
  by_cases hnm : n = m
  · subst hnm
    have hfile : (loneFile n).files.entryAt [n] = .file (.text "") := by
      simp only [loneFile, Files.entryAt, List.lookup_cons_self]
    rw [hfile] at hpool
    have hvalue := openStore_of_prepared hb (w := loneFile n) hpool rfl
    have hstart : ((Setup.ofUri uri .standard 0 0).start (loneFile n)).value =
        .ok ⟨⟨loneFile n, .sqlite ⟨.file [n], false, false⟩⟩, 0, "sqlite"⟩ := by
      simp only [Setup.start, Setup.openOrigin, Setup.ofUri, hvalue]
      rfl
    exact ⟨fun _ => rfl, fun _ => ⟨_, hstart⟩⟩
  · rw [entryAt_loneFile hnm] at hpool
    have hcannot : openSqlite uri .standard (loneFile m).files =
        .error (.failed SqliteLocation.cannotOpen) := by
      rw [hpool]
      split
      · next h => cases h
      · next h _ => rfl
      · rfl
    refine iff_of_false ?_ hnm
    rintro ⟨r, hr⟩
    simp only [Setup.start, Setup.openOrigin, Setup.ofUri, openStore_of_error hb hcannot] at hr
    cases hr

/-! ### Sessions -/

namespace Setup

/-- Two ways to open a store that nobody can tell apart: whatever the world, they are opened
with the same outcome, and whatever the steps, the same comes of them, opening again among
them. -/
def Interchangeable (a b : Setup) : Prop :=
  ∀ w, a.start w = b.start w ∧
    ∀ r, (a.start w).value = .ok r → ∀ steps, r.run a steps = r.run b steps

variable {a b : Setup}

theorem step_congr (hstart : a.start = b.start) (hoptions : a.options = b.options)
    (hattempts : a.serviceAttempts = b.serviceAttempts) (r : Running) (st : Step) :
    r.step a st = r.step b st := by
  have hstore : a.store = b.store := by
    funext system
    rw [store, store, hoptions]
  have hconverse {α : Type} (f : α → Answer)
      (d : Dialogue StoreCall.interface (Except StoreError α)) :
      r.converse a f d = r.converse b f d := by
    rw [Running.converse, Running.converse, hstore]
  cases st with
  | add u => exact hconverse _ _
  | get username => exact hconverse _ _
  | generate => exact hconverse _ _
  | register p =>
    rw [Running.step, Running.step, hattempts]
    exact hconverse _ _
  | lookup username => exact hconverse _ _
  | reopen => rw [Running.step, Running.step, hstart]
  | _ => rfl

theorem run_congr (hstart : a.start = b.start) (hoptions : a.options = b.options)
    (hattempts : a.serviceAttempts = b.serviceAttempts) (r : Running) (steps : List Step) :
    r.run a steps = r.run b steps := by
  induction steps generalizing r with
  | nil => rfl
  | cons st steps ih =>
    rw [Running.run, Running.run, step_congr hstart hoptions hattempts]
    simp only [ih]

theorem interchangeable_of_openStore {uri uri' : String} (h : openStore uri = openStore uri')
    (o : StoreOptions) (rivals attempts : Nat) :
    Interchangeable (ofUri uri o rivals attempts) (ofUri uri' o rivals attempts) := by
  have hstart : (ofUri uri o rivals attempts).start = (ofUri uri' o rivals attempts).start := by
    funext w
    simp only [start, openOrigin, ofUri, h]
  exact fun w => ⟨congrFun hstart w, fun r _ => run_congr hstart rfl rfl r⟩

end Setup

/-- **Spellings of a scheme.**  Let two spellings of a scheme that is supported differ in the
case of letters only.  They can be put for one another — in front of every rest of a URI, with
all options, any number of rivals and attempts, in every world and for every sequence of steps
— exactly when the scheme is not that of SQLite or they do not differ at all. -/
theorem spellings_interchangeable_iff {s s' scheme : String} (h : Spells s scheme)
    (h' : Spells s' scheme) :
    (∀ rest o rivals attempts, Setup.Interchangeable
        (.ofUri (s ++ ":" ++ rest) o rivals attempts)
        (.ofUri (s' ++ ":" ++ rest) o rivals attempts)) ↔
      scheme ≠ "sqlite" ∨ s = s' := by
  constructor
  · intro hsame
    by_cases hscheme : scheme = "sqlite"
    · subst hscheme
      right
      have hbackend : Backend.ofUri ("sqlite" ++ ":") = .ok .sqlite := rfl
      have hs := start_loneFile ((h.backend_eq "x").trans hbackend) (leadsToFile_spelledFile h)
      have hs' := start_loneFile ((h'.backend_eq "x").trans hbackend) (leadsToFile_spelledFile h')
      -- where only the file of `s` is there, only `s` leads to it
      have hstart := (hsame "x" .standard 0 0 (loneFile (spelledFile s))).1
      have hopened := (hs (spelledFile s)).mpr rfl
      rw [hstart] at hopened
      exact (spelledFile_injective ((hs' _).mp hopened)).symm
    · exact .inl hscheme
  · rintro (hscheme | rfl) rest o rivals attempts
    · exact Setup.interchangeable_of_openStore (openStore_spelling h h' hscheme rest) _ _ _
    · exact Setup.interchangeable_of_openStore rfl _ _ _

/-- A scheme of SQLite in capital letters is supported, and yet leads elsewhere. -/
theorem capitals_lead_elsewhere :
    Spells "SQLITE" "sqlite" ∧ Spells "sqlite" "sqlite" ∧
      ¬ ∀ rest o rivals attempts, Setup.Interchangeable
        (.ofUri ("SQLITE" ++ ":" ++ rest) o rivals attempts)
        (.ofUri ("sqlite" ++ ":" ++ rest) o rivals attempts) := by
  have hcapitals : Spells "SQLITE" "sqlite" := ⟨by decide, by decide⟩
  have hsmall : Spells "sqlite" "sqlite" := ⟨by decide, by decide⟩
  refine ⟨hcapitals, hsmall, fun h => ?_⟩
  obtain hscheme | hspelling := (spellings_interchangeable_iff hcapitals hsmall).mp h
  · exact hscheme rfl
  · exact absurd hspelling (by decide)

end AccountRegistry
