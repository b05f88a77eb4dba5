/-
Which key the message of a database names.

* **`DuplicateKey.NamedBy`** — the key that the name of a key means;
* **`DuplicateKey.keyPart_forKey`**, **`DuplicateKey.keyPart_constraint`** — the name is what
  follows the last separator, whatever stands in front of it;
* **`key_read_from_name`** — the key is told by its name alone, and no value that a message
  quotes can change it.
-/
import AccountRegistry.Proofs.Text.Search
import AccountRegistry.Store.Error

namespace AccountRegistry

namespace DuplicateKey

open Text

/-- The key that the name `k` means: letters of either case alike, the username if it is
mentioned, and else the account id if that or the primary key is. -/
def NamedBy (k : String) : DuplicateKey → Prop
  | .username => Mentions k "username"
  | .accountId => ¬ Mentions k "username" ∧ (Mentions k "accountid" ∨ Mentions k "primary")
  | .unknown => ¬ Mentions k "username" ∧ ¬ (Mentions k "accountid" ∨ Mentions k "primary")

instance (k : String) : (key : DuplicateKey) → Decidable (key.NamedBy k)
  | .username => inferInstanceAs (Decidable (Mentions k "username"))
  | .accountId => inferInstanceAs (Decidable (¬ _ ∧ (_ ∨ _)))
  | .unknown => inferInstanceAs (Decidable (¬ _ ∧ ¬ (_ ∨ _)))

/-- A message means what the part of it that names the key means. -/
theorem ofMessage_eq_iff {message k : String} (h : keyPart message.toList = k.toList)
    (key : DuplicateKey) : ofMessage message = key ↔ key.NamedBy k := by
  rw [ofMessage, h]
  simp only [Bool.or_eq_true, ← mentions_iff]
  by_cases hname : Mentions k "username"
  · cases key <;> simp [NamedBy, hname]
  · by_cases hid : Mentions k "accountid" ∨ Mentions k "primary"
    · cases key <;> simp [NamedBy, hname, hid]
    · cases key <;> simp [NamedBy, hname, hid]

/-! ### The part that names the key -/

variable {k : String}

theorem keyPart_forKey (p : String) (hk : ¬ Contains k "for key ") :
    keyPart (p ++ "for key " ++ k).toList = k.toList := by
  have hlast : afterLast "for key ".toList (p.toList ++ ("for key ".toList ++ k.toList)) =
      some k.toList :=
    afterLast_append (by decide) (by decide) (mt contains_iff.mpr hk) p.toList
  rw [String.toList_append, String.toList_append, List.append_assoc, keyPart, hlast]

/-- A name of a constraint does not bring the other separator about. -/
theorem not_forKey_constraint {p : String} (hp : ¬ Contains p "for key ")
    (hk : ¬ Contains k "for key ") :
    ¬ "for key ".toList <:+: p.toList ++ "constraint failed: ".toList ++ k.toList := by
  have hapart : Apart "for key ".toList (p.toList ++ "constraint failed: ".toList) :=
    Apart.append (by decide) (by decide) p.toList
  rw [hapart.infix_append, List.infix_append_iff_ne_nil]
  rintro ((hp' | hsep | ⟨l, l', -, hne, heq, -, hstart⟩) | hk')
  · exact hp (contains_iff.mpr hp')
  · exact absurd hsep (by decide)
  · -- what begins as the constraint does has a letter that the separator has not
    obtain ⟨c, l', rfl⟩ := List.exists_cons_of_ne_nil hne
    obtain ⟨t, ht⟩ := hstart
    have hc : c = 'c' := (List.cons.inj ht).1
    have hmem : c ∈ "for key ".toList := by
      rw [heq]
      exact List.mem_append_right l List.mem_cons_self
    rw [hc] at hmem
    exact absurd hmem (by decide)
  · exact hk (contains_iff.mpr hk')

theorem keyPart_constraint {p : String} (hp : ¬ Contains p "for key ")
    (hk : ¬ Contains k "for key ") (hk' : ¬ Contains k "constraint failed: ") :
    keyPart (p ++ "constraint failed: " ++ k).toList = k.toList := by
  have hother := afterLast_eq_none (not_forKey_constraint hp hk)
  have hlast : afterLast "constraint failed: ".toList
      (p.toList ++ ("constraint failed: ".toList ++ k.toList)) = some k.toList :=
    afterLast_append (by decide) (by decide) (mt contains_iff.mpr hk') p.toList
  rw [← List.append_assoc] at hlast
  rw [String.toList_append, String.toList_append, keyPart, hother, hlast]
  rfl

/-! ### Messages -/

/-- **The key is told by its name alone.**  Behind the last `for key `, or behind the last
`constraint failed: ` of a message without the other, stands the name of the key, and nothing
in front of it counts.  So no value that a server quotes changes the key that it reports. -/
theorem key_read_from_name :
    (∀ p k : String, ¬ Contains k "for key " →
      ∀ key, ofMessage (p ++ "for key " ++ k) = key ↔ key.NamedBy k) ∧
    (∀ p k : String, ¬ Contains p "for key " → ¬ Contains k "for key " →
      ¬ Contains k "constraint failed: " →
      ∀ key, ofMessage (p ++ "constraint failed: " ++ k) = key ↔ key.NamedBy k) ∧
    ∀ v : String,
      ofMessage ("Duplicate entry '" ++ v ++ "' for key 'users.username'") = .username ∧
      ofMessage ("Duplicate entry '" ++ v ++ "' for key 'users.PRIMARY'") = .accountId := by
  have hname (p k : String) (hk : ¬ Contains k "for key ") (key : DuplicateKey) :
      ofMessage (p ++ "for key " ++ k) = key ↔ key.NamedBy k :=
    ofMessage_eq_iff (keyPart_forKey p hk) key
  refine ⟨hname, fun p k hp hk hk' => ofMessage_eq_iff (keyPart_constraint hp hk hk'),
    fun v => ⟨?_, ?_⟩⟩
  · have hsplit : "Duplicate entry '" ++ v ++ "' for key 'users.username'" =
        "Duplicate entry '" ++ v ++ "' " ++ "for key " ++ "'users.username'" := by
      simp only [String.append_assoc]
      rfl
    rw [hsplit]
    exact (hname _ _ (by decide) _).mpr (by decide)
  · have hsplit : "Duplicate entry '" ++ v ++ "' for key 'users.PRIMARY'" =
        "Duplicate entry '" ++ v ++ "' " ++ "for key " ++ "'users.PRIMARY'" := by
      simp only [String.append_assoc]
      rfl
    rw [hsplit]
    exact (hname _ _ (by decide) _).mpr (by decide)

/-- A value in quotes that itself reads `for key 'users.PRIMARY'`, and a report of SQLite. -/
theorem names_behind_quoted_values :
    ¬ Contains "'users.username'" "for key " ∧
    ofMessage ("Duplicate entry 'for key 'users.PRIMARY'' " ++ "for key " ++ "'users.username'") =
      .username ∧
    ¬ Contains "UNIQUE " "for key " ∧ ¬ Contains "users.accountid" "for key " ∧
    ¬ Contains "users.accountid" "constraint failed: " ∧
    ofMessage ("UNIQUE " ++ "constraint failed: " ++ "users.accountid") = .accountId :=
  ⟨by decide, (key_read_from_name.1 _ _ (by decide) _).mpr (by decide), by decide, by decide,
    by decide,
    (key_read_from_name.2.1 _ _ (by decide) (by decide) (by decide) _).mpr (by decide)⟩

end DuplicateKey

end AccountRegistry
