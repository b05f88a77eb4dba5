/-
Integers of more than 64 bits in TOML documents.

* **`Toml.written`** — what a document says, its integers being as large as they are written;
* **`Toml.parse_eq_some`** — a document that is read is what is written, and all its integers have
  64 bits.
-/
import AccountRegistry.Proofs.Toml.IntegerWord

namespace AccountRegistry

/-- A scalar has 64 bits if it is an integer. -/
def Scalar.Fits : Scalar → Prop
  | .integer n => fits64 n = true
  | _ => True

/-- The integers of some settings have 64 bits. -/
inductive Plain.Fits : Plain → Prop
  | scalar {s : Scalar} (hs : s.Fits) : Plain.Fits (.scalar s)
  | list {ps : List Plain} (hps : ∀ p ∈ ps, Plain.Fits p) : Plain.Fits (.list ps)
  | table {es : List (String × Plain)} (hes : ∀ e ∈ es, Plain.Fits e.2) : Plain.Fits (.table es)

namespace Toml

/-- The integers of a part of a document have 64 bits. -/
inductive Node.Fits : Node → Prop
  | value {p : Plain} (hp : p.Fits) : Node.Fits (.value p)
  | table {implied dotted : Bool} {es : List (String × Node)} (hes : ∀ e ∈ es, Node.Fits e.2) :
      Node.Fits (.table implied dotted es)
  | tables {ts : List (List (String × Node))} (hts : ∀ es ∈ ts, ∀ e ∈ es, Node.Fits e.2) :
      Node.Fits (.tables ts)

/-- The integers of a table under construction have 64 bits. -/
def Entries.Fit (es : Entries) : Prop :=
  ∀ e ∈ es, e.2.Fits

section Building

variable {es es' : Entries} {key : String} {n : Node} {p : Plain} {path : List String}

theorem entriesFit_nil : Entries.Fit [] :=
  fun _ he => nomatch he

theorem Entries.Fit.lookup (h : Entries.Fit es) (hn : es.lookup key = some n) : n.Fits := by
  obtain ⟨before, after, rfl, -⟩ := List.lookup_eq_some_iff.mp hn
  exact h (key, n) (by simp)

theorem Entries.Fit.setEntry (h : Entries.Fit es) (hn : n.Fits) :
    Entries.Fit (setEntry key n es) := by
  induction es with
  | nil => exact List.forall_mem_singleton.mpr hn
  | cons e es ih =>
    obtain ⟨he, hes⟩ := List.forall_mem_cons.mp h
    rw [Toml.setEntry.eq_def]
    dsimp only
    split
    · exact List.forall_mem_cons.mpr ⟨hn, hes⟩
    · exact List.forall_mem_cons.mpr ⟨he, ih hes⟩

theorem Entries.Fit.concat (h : Entries.Fit es) (hn : n.Fits) : Entries.Fit (es ++ [(key, n)]) := by
  intro e he
  rcases List.mem_append.mp he with he | he
  · exact h e he
  · obtain rfl := List.mem_singleton.mp he
    exact hn

/-- A change along a path keeps the integers small if the change at its end does. -/
theorem changeAt_fits {dotted : Bool} {f : Bool → Entries → Option Entries}
    (hf : ∀ here es es', Entries.Fit es → f here es = some es' → Entries.Fit es') {here : Bool}
    (h : Entries.Fit es) (hes' : changeAt dotted f here path es = some es') :
    Entries.Fit es' := by
  induction path generalizing here es es' with
  | nil => exact hf here es es' h hes'
  | cons k ks ih =>
    rw [changeAt] at hes'
    split at hes'
    · obtain ⟨sub, hsub, rfl⟩ := Option.map_eq_some_iff.mp hes'
      exact h.setEntry (.table (ih entriesFit_nil hsub))
    · cases hes'
    · next ts hts =>
      obtain ⟨sub, hsub, rfl⟩ := Option.map_eq_some_iff.mp hes'
      cases h.lookup hts with
      | tables hts =>
        have hlast : Entries.Fit (ts.getLastD []) := by
          rw [List.getLastD_eq_getLast?]
          cases hlast : ts.getLast? with
          | none => exact entriesFit_nil
          | some last => exact hts last (List.mem_of_getLast? hlast)
        refine h.setEntry (.tables fun es hes => ?_)
        rcases List.mem_append.mp hes with hes | hes
        · exact hts es (List.dropLast_subset ts hes)
        · obtain rfl := List.mem_singleton.mp hes
          exact ih hlast hsub
    · next implied made sub hsub =>
      split at hes'
      · cases hes'
      · obtain ⟨sub', hsub', rfl⟩ := Option.map_eq_some_iff.mp hes'
        cases h.lookup hsub with
        | table hsub => exact h.setEntry (.table (ih hsub hsub'))

theorem insertValue_fits (h : Entries.Fit es) (hp : p.Fits)
    (hes' : insertValue path p es = some es') : Entries.Fit es' := by
  refine changeAt_fits (fun here es es' hes hes' => ?_) h hes'
  split at hes'
  · cases hes'
  · split at hes'
    · obtain rfl := Option.some.inj hes'
      exact hes.concat (.value hp)
    · cases hes'

theorem openTable_fits (h : Entries.Fit es) (hes' : openTable path es = some es') :
    Entries.Fit es' := by
  refine changeAt_fits (fun here es es' hes hes' => ?_) h hes'
  split at hes'
  · obtain rfl := Option.some.inj hes'
    exact hes.concat (.table entriesFit_nil)
  · next sub hsub =>
    obtain rfl := Option.some.inj hes'
    cases hes.lookup hsub with
    | table hsub => exact hes.setEntry (.table hsub)
  · cases hes'

theorem openListed_fits (h : Entries.Fit es) (hes' : openListed path es = some es') :
    Entries.Fit es' := by
  refine changeAt_fits (fun here es es' hes hes' => ?_) h hes'
  split at hes'
  · obtain rfl := Option.some.inj hes'
    exact hes.concat (.tables (List.forall_mem_singleton.mpr entriesFit_nil))
  · next ts hts =>
    obtain rfl := Option.some.inj hes'
    cases hes.lookup hts with
    | tables hts =>
      refine hes.setEntry (.tables fun sub hsub => ?_)
      rcases List.mem_append.mp hsub with hsub | hsub
      · exact hts sub hsub
      · obtain rfl := List.mem_singleton.mp hsub
        exact entriesFit_nil
  · cases hes'

theorem mem_entriesPlain {e : String × Plain} (he : e ∈ entriesPlain es) :
    ∃ n, (e.1, n) ∈ es ∧ e.2 = n.plain := by
  induction es with
  | nil => cases he
  | cons e' es ih =>
    rw [entriesPlain] at he
    rcases List.mem_cons.mp he with rfl | he
    · exact ⟨e'.2, List.mem_cons_self, rfl⟩
    · obtain ⟨n, hn, hplain⟩ := ih he
      exact ⟨n, List.mem_cons_of_mem _ hn, hplain⟩

theorem mem_tablesPlain {ts : List Entries} (hp : p ∈ tablesPlain ts) :
    ∃ es ∈ ts, p = .table (entriesPlain es) := by
  induction ts with
  | nil => cases hp
  | cons es ts ih =>
    rw [tablesPlain] at hp
    rcases List.mem_cons.mp hp with rfl | hp
    · exact ⟨es, List.mem_cons_self, rfl⟩
    · obtain ⟨es', hes', hplain⟩ := ih hp
      exact ⟨es', List.mem_cons_of_mem _ hes', hplain⟩

theorem Node.Fits.plain (h : n.Fits) : n.plain.Fits := by
  induction h with
  | value hp => exact hp
  | table _ ih =>
    refine .table fun e he => ?_
    obtain ⟨n, hn, hplain⟩ := mem_entriesPlain he
    exact hplain ▸ ih _ hn
  | tables _ ih =>
    refine .list fun p hp => ?_
    obtain ⟨es, hes, rfl⟩ := mem_tablesPlain hp
    refine .table fun e he => ?_
    obtain ⟨n, hn, hplain⟩ := mem_entriesPlain he
    exact hplain ▸ ih es hes _ hn

theorem entriesPlain_fits (h : Entries.Fit es) : ∀ e ∈ entriesPlain es, e.2.Fits := by
  intro e he
  obtain ⟨n, hn, hplain⟩ := mem_entriesPlain he
  exact hplain ▸ (h _ hn).plain

end Building

/-! ### Words -/

/-- Whatever is done with an integer is done with one integer, or nothing depends on it. -/
def OneInteger (x : (Int → Option Scalar) → Option Scalar) : Prop :=
  (∃ n, ∀ fit, x fit = fit n) ∨ ∃ found, (∀ fit, x fit = found) ∧ ∀ s ∈ found, s.Fits

section Words

variable {cs ds : List Char} {s : Scalar}

theorem OneInteger.constant {found : Option Scalar} (h : ∀ s ∈ found, s.Fits) :
    OneInteger fun _ => found :=
  .inr ⟨found, fun _ => rfl, h⟩

theorem mem_of_plainDigits (h : plainDigits Char.isDigit cs = some ds) :
    ∀ c ∈ cs, c.isDigit = true ∨ c = '_' := by
  fun_induction plainDigits Char.isDigit cs generalizing ds with
  | case1 => cases h
  | case2 c hc => exact List.forall_mem_singleton.mpr (.inl hc)
  | case3 c hc => cases h
  | case4 c cs hc ih =>
    obtain ⟨ds, hds, -⟩ := Option.map_eq_some_iff.mp h
    exact List.forall_mem_cons.mpr ⟨.inl hc, List.forall_mem_cons.mpr ⟨.inr rfl, ih hds⟩⟩
  | case5 c cs hc => cases h
  | case6 c cs _ _ hc ih =>
    obtain ⟨ds, hds, -⟩ := Option.map_eq_some_iff.mp h
    exact List.forall_mem_cons.mpr ⟨.inl hc, ih hds⟩
  | case7 c cs _ _ hc => cases h

theorem baseInteger_oneInteger (base : Nat) (cs : List Char) :
    OneInteger fun fit => baseInteger fit base cs := by
  unfold baseInteger
  dsimp only
  cases plainDigits _ cs with
  | none => exact .constant nofun
  | some ds => exact .inl ⟨baseValue base ds, fun _ => rfl⟩

/-- A word that is a date is a text. -/
theorem dateTime_fits (h : dateTime cs = some s) : s.Fits := by
  have htext : ∃ t, s = .text t := by
    rw [dateTime] at h
    split at h
    · exact ⟨_, (Option.some.inj h).symm⟩
    · split at h
      · simp only [Option.bind_eq_bind, Option.bind_eq_some_iff] at h
        obtain ⟨_, _, _, _, h⟩ := h
        exact ⟨_, (Option.some.inj h).symm⟩
      · cases h
    · split at h
      · exact ⟨_, (Option.some.inj h).symm⟩
      · cases h
  obtain ⟨t, rfl⟩ := htext
  trivial

theorem cutAt_eq_none {p : Char → Bool} (h : (cutAt p cs).2 = none) : (cutAt p cs).1 = cs := by
  rw [cutAt] at h ⊢
  split at h
  · rfl
  · cases h

/-- **A word in base ten is an integer, which is no date, or does not depend on what is done with
integers.** -/
theorem decimal_cases (cs : List Char) :
    (∃ n, (∀ fit, decimal fit cs = fit n) ∧ dateTime cs = none) ∨
      ∃ found, (∀ fit, decimal fit cs = found) ∧ ∀ s ∈ found, s.Fits := by
  rcases hsign : takeSign cs with ⟨negative, rest⟩
  rcases hexponent : cutAt (fun c => c = 'e' || c = 'E') rest with ⟨front, exponent⟩
  rcases hplaces : cutAt (· = '.') front with ⟨digits, places⟩
  cases hds : integerDigits digits with
  | none =>
    refine .inr ⟨none, fun fit => ?_, nofun⟩
    simp only [decimal, hsign, hexponent, hplaces, hds]
  | some ds =>
    by_cases hinteger : places = none ∧ exponent = none
    · obtain ⟨rfl, rfl⟩ := hinteger
      refine .inl ⟨if negative then -Date.digitsValue ds else Date.digitsValue ds,
        fun fit => ?_, dateTime_eq_none fun c hc => ?_⟩
      · simp only [decimal, hsign, hexponent, hplaces, hds]
      · -- behind the sign there are digits and underscores only
        have hfront : front = rest := by
          simpa [hexponent] using cutAt_eq_none (congrArg Prod.snd hexponent)
        have hdigits : digits = front := by
          simpa [hplaces] using cutAt_eq_none (congrArg Prod.snd hplaces)
        obtain ⟨ds', hds', -⟩ := Option.bind_eq_some_iff.mp hds
        rw [hsign, ← hfront, ← hdigits] at hc
        rcases mem_of_plainDigits hds' c hc with hdigit | rfl
        · constructor <;> (rintro rfl; cases hdigit)
        · decide
    · refine .inr ⟨decimal fitting cs, fun fit => ?_, fun s hs => ?_⟩
      · simp only [decimal, hsign, hexponent, hplaces, hds]
        cases places <;> cases exponent <;> first | rfl | exact absurd ⟨rfl, rfl⟩ hinteger
      · simp only [decimal, hsign, hexponent, hplaces, hds] at hs
        split at hs
        · exact absurd ⟨rfl, rfl⟩ hinteger
        · split at hs
          · split at hs
            · cases hs
            · obtain rfl := Option.some.inj hs
              trivial
          · cases hs

theorem wordValue_oneInteger (cs : List Char) : OneInteger fun fit => wordValue fit cs := by
  unfold wordValue
  split
  case h_9 | h_10 | h_11 => exact baseInteger_oneInteger _ _
  case h_12 =>
    rcases decimal_cases cs with ⟨n, hdecimal, hdate⟩ | ⟨found, hdecimal, hfits⟩
    · refine .inl ⟨n, fun fit => ?_⟩
      show (decimal fit cs).or (dateTime cs) = fit n
      rw [hdecimal, hdate, Option.or_none]
    · refine .inr ⟨found.or (dateTime cs), fun fit => ?_, fun s hs => ?_⟩
      · show (decimal fit cs).or (dateTime cs) = found.or (dateTime cs)
        rw [hdecimal]
      rcases Option.or_eq_some_iff.mp hs with hs | ⟨-, hs⟩
      · exact hfits s hs
      · exact dateTime_fits hs
  all_goals
    refine .constant fun s hs => ?_
    obtain rfl := Option.some.inj hs
    trivial

end Words

/-! ### Reading -/

/-- An integer as large as it is written. -/
def whole (n : Int) : Option Scalar :=
  some (.integer n)

/-- What a document says, its integers being as large as they are written. -/
def written (s : String) : Option (List (String × Plain)) :=
  parseWith whole s

/-- A result of the first reading is one of the second, and has a property. -/
def Narrows {α : Type} (P : α → Prop) (x y : Option α) : Prop :=
  ∀ a, x = some a → y = some a ∧ P a

namespace Narrows

variable {α β : Type} {P : α → Prop} {Q : β → Prop} {x y : Option α}

theorem none : Narrows P .none y :=
  fun _ h => nomatch h

theorem same (h : ∀ a, x = some a → P a) : Narrows P x x :=
  fun a ha => ⟨ha, h a ha⟩

theorem some {a : α} (h : P a) : Narrows P (.some a) (.some a) :=
  .same fun _ ha => Option.some.inj ha ▸ h

theorem map {f : α → β} (h : Narrows P x y) (hf : ∀ a, P a → Q (f a)) :
    Narrows Q (x.map f) (y.map f) := by
  intro b hb
  obtain ⟨a, ha, rfl⟩ := Option.map_eq_some_iff.mp hb
  obtain ⟨hy, hP⟩ := h a ha
  exact ⟨by rw [hy, Option.map_some], hf a hP⟩

theorem bind {f g : α → Option β} (h : Narrows P x y) (hf : ∀ a, P a → Narrows Q (f a) (g a)) :
    Narrows Q (x.bind f) (y.bind g) := by
  intro b hb
  obtain ⟨a, ha, hfa⟩ := Option.bind_eq_some_iff.mp hb
  obtain ⟨hy, hP⟩ := h a ha
  obtain ⟨hga, hQ⟩ := hf a hP b hfa
  exact ⟨by rw [hy, Option.bind_some, hga], hQ⟩

end Narrows

section Reading

variable {cs : List Char} {n depth : Nat}

theorem OneInteger.narrows {x : (Int → Option Scalar) → Option Scalar} (h : OneInteger x) :
    Narrows Scalar.Fits (x fitting) (x whole) := by
  rcases h with ⟨n, hx⟩ | ⟨found, hx, hfits⟩
  · intro s hs
    rw [hx, fitting] at hs
    split at hs
    · next hn =>
      obtain rfl := Option.some.inj hs
      exact ⟨hx whole, hn⟩
    · cases hs
  · rw [hx, hx]
    exact .same hfits

theorem readWord_narrows (cs : List Char) :
    Narrows (fun r => r.1.Fits) (readWord fitting cs) (readWord whole cs) := by
  unfold readWord
  dsimp only
  split
  · exact (wordValue_oneInteger _).narrows.map fun _ hs => hs
  · exact (wordValue_oneInteger _).narrows.map fun _ hs => hs

theorem text_fits {r : Plain × List Char}
    (h : ((readText cs).map fun (s, rest) => (Plain.scalar (.text s), rest)) = some r) :
    r.1.Fits := by
  obtain ⟨found, -, rfl⟩ := Option.map_eq_some_iff.mp h
  exact .scalar trivial

/-- What is read with fuel `n` is read alike, however large its integers may be. -/
structure ReadsAlike (n : Nat) : Prop where
  value (depth : Nat) (cs : List Char) :
    Narrows (fun r => r.1.Fits) (readValue fitting n depth cs) (readValue whole n depth cs)
  items (depth : Nat) (cs : List Char) :
    Narrows (fun r => ∀ p ∈ r.1, p.Fits) (readItems fitting n depth cs)
      (readItems whole n depth cs)
  pairs (depth : Nat) {es : Entries} (cs : List Char) (hes : Entries.Fit es) :
    Narrows (fun r => Entries.Fit r.1) (readPairs fitting n depth es cs)
      (readPairs whole n depth es cs)

namespace ReadsAlike

theorem value_succ (h : ReadsAlike n) (depth : Nat) (cs : List Char) :
    Narrows (fun r => r.1.Fits) (readValue fitting (n + 1) depth cs)
      (readValue whole (n + 1) depth cs) := by
  unfold readValue
  split
  · exact .same fun _ => text_fits
  · exact .same fun _ => text_fits
  · split
    · exact .none
    · exact (h.items _ _).map fun _ hps => .list hps
  · split
    · exact .none
    · split
      · exact .some (.table nofun)
      · exact (h.pairs _ _ entriesFit_nil).map fun _ hes => .table (entriesPlain_fits hes)
  · exact (readWord_narrows cs).map fun _ hs => .scalar hs

theorem items_succ (h : ReadsAlike n) (depth : Nat) (cs : List Char) :
    Narrows (fun r => ∀ p ∈ r.1, p.Fits) (readItems fitting (n + 1) depth cs)
      (readItems whole (n + 1) depth cs) := by
  unfold readItems
  split
  · exact .some nofun
  · cases hread : readValue fitting n depth (skipLines cs.length cs) with
    | none => exact .none
    | some r =>
      obtain ⟨hread', hp⟩ := h.value depth _ r hread
      rw [hread']
      dsimp only
      split
      · exact (h.items _ _).map fun _ hps => List.forall_mem_cons.mpr ⟨hp, hps⟩
      · exact .some (List.forall_mem_singleton.mpr hp)
      · exact .none

theorem pairs_succ (h : ReadsAlike n) (depth : Nat) {es : Entries} (cs : List Char)
    (hes : Entries.Fit es) :
    Narrows (fun r => Entries.Fit r.1) (readPairs fitting (n + 1) depth es cs)
      (readPairs whole (n + 1) depth es cs) := by
  unfold readPairs
  split
  · exact .none
  · split
    · next rest _ =>
      cases hread : readValue fitting n depth (skipSpace rest) with
      | none => exact .none
      | some r =>
        obtain ⟨hread', hp⟩ := h.value depth _ r hread
        rw [hread']
        dsimp only
        split
        · exact .none
        · next es' hes' =>
          have hes' := insertValue_fits hes hp hes'
          split
          · exact h.pairs _ _ hes'
          · exact .some hes'
          · exact .none
    · exact .none

end ReadsAlike

theorem readsAlike (n : Nat) : ReadsAlike n := by
  induction n with
  | zero => exact ⟨fun _ _ => .none, fun _ _ => .none, fun _ _ _ _ => .none⟩
  | succ n ih => exact ⟨ih.value_succ, ih.items_succ, fun depth _ => ih.pairs_succ depth⟩

theorem readPair_narrows {d : Document} (hd : Entries.Fit d.root) :
    Narrows (fun r => Entries.Fit r.1.root) (readPair fitting d cs) (readPair whole d cs) := by
  refine Narrows.bind (P := fun _ => True) (.same fun _ _ => trivial) fun (path, rest) _ => ?_
  dsimp only
  split
  · refine Narrows.bind (P := fun _ => True) (.same fun _ _ => trivial) fun rest _ => ?_
    refine Narrows.bind ((readsAlike _).value _ _) fun (p, rest) hp => ?_
    refine Narrows.bind (P := Entries.Fit) (.same fun root hroot => ?_) fun root hroot => .some hroot
    exact changeAt_fits (fun _ _ _ hes hes' => insertValue_fits hes hp hes') hd hroot
  · exact .none

theorem readHeader_fits {d d' : Document} {rest : List Char} (hd : Entries.Fit d.root)
    (h : readHeader cs d = some (d', rest)) : Entries.Fit d'.root := by
  rw [readHeader.eq_def] at h
  split at h
  · obtain ⟨⟨path, rest⟩, -, h⟩ := Option.bind_eq_some_iff.mp h
    dsimp only at h
    split at h
    · obtain ⟨_, -, h⟩ := Option.bind_eq_some_iff.mp h
      obtain ⟨root, hroot, h⟩ := Option.bind_eq_some_iff.mp h
      obtain ⟨rfl, -⟩ := Prod.mk.inj (Option.some.inj h)
      exact openListed_fits hd hroot
    · cases h
  · obtain ⟨⟨path, rest⟩, -, h⟩ := Option.bind_eq_some_iff.mp h
    dsimp only at h
    split at h
    · obtain ⟨_, -, h⟩ := Option.bind_eq_some_iff.mp h
      obtain ⟨root, hroot, h⟩ := Option.bind_eq_some_iff.mp h
      obtain ⟨rfl, -⟩ := Prod.mk.inj (Option.some.inj h)
      exact openTable_fits hd hroot
    · cases h
  · cases h

theorem readLines_narrows {d : Document} (hd : Entries.Fit d.root) :
    Narrows (fun d => Entries.Fit d.root) (readLines fitting n d cs) (readLines whole n d cs) := by
  induction n generalizing d cs with
  | zero => exact .none
  | succ n ih =>
    unfold readLines
    split
    · exact .some hd
    · next c rest _ =>
      -- one line is read alike, and then the lines that are left
      have hline : Narrows (fun r => Entries.Fit r.1.root)
          (if c = '#' || c = '\n' || c = '\r' then some (d, c :: rest)
            else if c = '[' then readHeader (c :: rest) d else readPair fitting d (c :: rest))
          (if c = '#' || c = '\n' || c = '\r' then some (d, c :: rest)
            else if c = '[' then readHeader (c :: rest) d else readPair whole d (c :: rest)) := by
        split
        · exact .some hd
        · split
          · exact .same fun r hr => readHeader_fits hd hr
          · exact readPair_narrows hd
      dsimp only
      split
      · exact .none
      · next d' rest' hread =>
        obtain ⟨hread', hd'⟩ := hline _ hread
        rw [hread']
        dsimp only
        split
        · exact .none
        · exact ih hd'

/-- **A document that is read is what is written, and its integers have 64 bits.** -/
theorem parse_eq_some {s : String} {es : List (String × Plain)} (h : parse s = some es) :
    written s = some es ∧ ∀ e ∈ es, e.2.Fits := by
  have hread : Narrows (fun es : List (String × Plain) => ∀ e ∈ es, e.2.Fits) (parse s)
      (written s) :=
    (readLines_narrows (d := ⟨[], []⟩) entriesFit_nil).map fun _ => entriesPlain_fits
  exact hread es h

end Reading

end Toml

end AccountRegistry
