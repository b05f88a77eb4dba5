/-
Bytes as pairs of hexadecimal digits, written and read back.

* **`Text.Hex.decode_encode`** — bytes are read back from their digits, none of them and all of
  them included;
* **`Text.Hex.decode_eq_ok_iff`** — what is read from a text are the bytes that its digits
  denote;
* **`Text.Hex.exists_denotes_iff`** — a text denotes bytes exactly if it takes an even number of
  bytes itself and holds nothing but digits, of either case;
* **`Text.Hex.Denotes.encode_eq`** — those bytes are written with the same digits in lower case.
-/
import AccountRegistry.Proofs.Except
import AccountRegistry.Proofs.Text.Utf8
import AccountRegistry.Text.Hex
import Mathlib.Data.List.Induction

namespace AccountRegistry.Text.Hex

/-- The byte of a digit. -/
def digitByte (n : Nat) : UInt8 := UInt8.ofNat (digit n).toNat

/-- The bytes of the digits of some bytes. -/
def digitBytes (bs : List UInt8) : List UInt8 :=
  bs.flatMap fun b => [digitByte (b.toNat / 16), digitByte (b.toNat % 16)]

theorem utf8_digit : ∀ n < 16, String.utf8EncodeChar (digit n) = [digitByte n] := by
  decide

theorem value_digitByte : ∀ n < 16, value (digitByte n) = some n := by
  decide

theorem digitBytes_cons (b : UInt8) (bs : List UInt8) :
    digitBytes (b :: bs) =
      digitByte (b.toNat / 16) :: digitByte (b.toNat % 16) :: digitBytes bs := rfl

/-- Every digit takes one byte. -/
theorem utf8_encode (bs : List UInt8) : Utf8.encode (encode bs) = digitBytes bs := by
  induction bs with
  | nil => rfl
  | cons b bs ih =>
    have hbyte : b.toNat < 256 := b.toNat_lt_size
    have hhigh := utf8_digit (b.toNat / 16) (by omega)
    have hlow := utf8_digit (b.toNat % 16) (by omega)
    show String.utf8EncodeChar (digit (b.toNat / 16)) ++
      (String.utf8EncodeChar (digit (b.toNat % 16)) ++ Utf8.encode (encode bs)) = _
    rw [hhigh, hlow, ih, digitBytes_cons]
    rfl

theorem length_digitBytes (bs : List UInt8) : (digitBytes bs).length = 2 * bs.length := by
  induction bs with
  | nil => rfl
  | cons b bs ih =>
    rw [digitBytes_cons, List.length_cons, List.length_cons, List.length_cons, ih]
    omega

theorem decodePairs_digitBytes (bs : List UInt8) (index : Nat) :
    decodePairs index (digitBytes bs) = .ok bs := by
  induction bs generalizing index with
  | nil => rfl
  | cons b bs ih =>
    have hbyte : b.toNat < 256 := b.toNat_lt_size
    have hhigh := value_digitByte (b.toNat / 16) (by omega)
    have hlow := value_digitByte (b.toNat % 16) (by omega)
    have hsum : 16 * (b.toNat / 16) + b.toNat % 16 = b.toNat := Nat.div_add_mod b.toNat 16
    simp only [digitBytes_cons, decodePairs, hhigh, hlow, ih, hsum, UInt8.ofNat_toNat]
    rfl

/-- **Bytes are read back from their digits.** -/
theorem decode_encode (bs : List UInt8) : decode (.ofList (encode bs)) = .ok bs := by
  have hlength : (digitBytes bs).length % 2 = 0 := by
    rw [length_digitBytes, Nat.mul_mod_right]
  rw [decode, String.toList_ofList, utf8_encode]
  simp only [hlength, if_true]
  exact decodePairs_digitBytes bs 0

/-! ### What digits denote -/

/-- The digits of either case. -/
def digits : List Char := "0123456789abcdefABCDEF".toList

/-- A digit of either case and its value. -/
inductive IsDigit : Char → Nat → Prop
  | lower {n : Nat} (h : n < 16) : IsDigit (digit n) n
  | upper {n : Nat} (h : n < 16) : IsDigit (digit n).toUpper n

/-- The bytes that the digits of a text denote, two digits for each byte. -/
inductive Denotes : List Char → List UInt8 → Prop
  | nil : Denotes [] []
  | pair {c d : Char} {x y : Nat} {cs : List Char} {bs : List UInt8} (hc : IsDigit c x)
      (hd : IsDigit d y) (h : Denotes cs bs) :
      Denotes (c :: d :: cs) (UInt8.ofNat (16 * x + y) :: bs)

variable {c d : Char} {n x : Nat} {cs : List Char} {bs : List UInt8}

theorem IsDigit.lt (h : IsDigit c n) : n < 16 := by
  cases h with
  | lower h => exact h
  | upper h => exact h

theorem IsDigit.toLower (h : IsDigit c n) : c.toLower = digit n := by
  have hcase : ∀ n < 16, (digit n).toLower = digit n ∧ (digit n).toUpper.toLower = digit n := by
    decide
  cases h with
  | lower h => exact (hcase n h).1
  | upper h => exact (hcase n h).2

/-- A digit takes one byte, from which its value is read. -/
theorem IsDigit.utf8 (h : IsDigit c n) :
    ∃ b, String.utf8EncodeChar c = [b] ∧ value b = some n := by
  have hupper : ∀ n < 16, ∃ b ∈ String.utf8EncodeChar (digit n).toUpper,
      String.utf8EncodeChar (digit n).toUpper = [b] ∧ value b = some n := by
    decide
  cases h with
  | lower h => exact ⟨digitByte n, utf8_digit n h, value_digitByte n h⟩
  | upper h =>
    obtain ⟨b, -, hb⟩ := hupper n h
    exact ⟨b, hb⟩

/-- A byte with a value is the only byte of a digit. -/
theorem isDigit_of_value {b : UInt8} (hb : b ∈ String.utf8EncodeChar c)
    (h : value b = some n) : String.utf8EncodeChar c = [b] ∧ IsDigit c n := by
  have hdigit : ∀ k < 128, ∀ n ∈ value (UInt8.ofNat k),
      n < 16 ∧ (Char.ofNat k = digit n ∨ Char.ofNat k = (digit n).toUpper) := by
    decide
  by_cases hascii : c.toNat < 0x80
  · rw [Utf8.encodeChar_ascii hascii, List.mem_singleton] at hb
    subst hb
    obtain ⟨hn, hc⟩ := hdigit c.toNat hascii n h
    rw [Char.ofNat_toNat] at hc
    refine ⟨Utf8.encodeChar_ascii hascii, ?_⟩
    obtain rfl | rfl := hc
    · exact .lower hn
    · exact .upper hn
  · have := Utf8.le_of_mem_encodeChar (Nat.le_of_not_lt hascii) b hb
    have hnone : value b = none := by
      simp only [value]
      rw [if_neg (by omega), if_neg (by omega), if_neg (by omega)]
    rw [hnone] at h
    cases h

theorem exists_isDigit_iff : (∃ n, IsDigit c n) ↔ c ∈ digits := by
  constructor
  · have hmem : ∀ n < 16, digit n ∈ digits ∧ (digit n).toUpper ∈ digits := by decide
    rintro ⟨n, h | h⟩
    · exact (hmem n h).1
    · exact (hmem n h).2
  · have hvalue : (digits.all fun c =>
        (String.utf8EncodeChar c).any fun b => (value b).isSome) = true := by
      decide
    intro h
    obtain ⟨b, hb, hsome⟩ := List.any_eq_true.mp (List.all_eq_true.mp hvalue c h)
    obtain ⟨n, hn⟩ := Option.isSome_iff_exists.mp hsome
    exact ⟨n, (isDigit_of_value hb hn).2⟩

theorem decodePairs_cons_cons {a b : UInt8} {index : Nat} {rest : List UInt8}
    (h : decodePairs index (a :: b :: rest) = .ok bs) :
    ∃ x y bs', value a = some x ∧ value b = some y ∧ decodePairs (index + 2) rest = .ok bs' ∧
      bs = UInt8.ofNat (16 * x + y) :: bs' := by
  rw [decodePairs] at h
  cases hx : value a with
  | none =>
    rw [hx] at h
    cases h
  | some x =>
    cases hy : value b with
    | none =>
      rw [hx, hy] at h
      cases h
    | some y =>
      simp only [hx, hy] at h
      cases hrest : decodePairs (index + 2) rest with
      | error e =>
        rw [hrest] at h
        cases h
      | ok bs' =>
        rw [hrest] at h
        cases h
        exact ⟨x, y, bs', rfl, rfl, rfl, rfl⟩

/-- A text that is read begins with a character of one byte. -/
theorem exists_of_decodePairs {index : Nat}
    (h : decodePairs index (Utf8.encode (c :: cs)) = .ok bs) :
    ∃ b, String.utf8EncodeChar c = [b] := by
  obtain ⟨a, more, hbytes, -⟩ := Utf8.head_encode c []
  rw [Utf8.encode_cons, hbytes, List.cons_append] at h
  cases hrest : more ++ Utf8.encode cs with
  | nil =>
    rw [hrest] at h
    cases h
  | cons b rest =>
    rw [hrest] at h
    obtain ⟨x, -, -, hx, -⟩ := decodePairs_cons_cons h
    exact ⟨a, (isDigit_of_value (hbytes ▸ List.mem_cons_self) hx).1⟩

theorem denotes_of_decodePairs {index : Nat}
    (h : decodePairs index (Utf8.encode cs) = .ok bs) : Denotes cs bs := by
  -- two characters at a time, since each of them must be a digit and so takes one byte
  induction cs using List.twoStepInduction generalizing index bs with
  | nil =>
    cases h
    exact .nil
  | singleton c =>
    obtain ⟨a, ha⟩ := exists_of_decodePairs h
    rw [Utf8.encode_cons, ha] at h
    cases h
  | cons_cons c d cs ih _ =>
    obtain ⟨a, ha⟩ := exists_of_decodePairs h
    obtain ⟨b, more, hb, -⟩ := Utf8.head_encode d []
    rw [Utf8.encode_cons, ha, Utf8.encode_cons, hb] at h
    obtain ⟨x, y, bs', hx, hy, hrest, rfl⟩ := decodePairs_cons_cons h
    obtain ⟨hb', hd⟩ := isDigit_of_value (hb ▸ List.mem_cons_self) hy
    obtain rfl : more = [] := (List.cons.inj (hb.symm.trans hb')).2
    exact .pair (isDigit_of_value (ha ▸ List.mem_cons_self) hx).2 hd (ih hrest)

theorem Denotes.decodePairs (h : Denotes cs bs) (index : Nat) :
    decodePairs index (Utf8.encode cs) = .ok bs := by
  induction h generalizing index with
  | nil => rfl
  | pair hc hd _ ih =>
    obtain ⟨a, ha, hx⟩ := hc.utf8
    obtain ⟨b, hb, hy⟩ := hd.utf8
    rw [Utf8.encode_cons, ha, Utf8.encode_cons, hb]
    simp only [List.cons_append, List.nil_append, Hex.decodePairs, hx, hy, ih]
    rfl

theorem Denotes.two_dvd_length (h : Denotes cs bs) : 2 ∣ (Utf8.encode cs).length := by
  induction h with
  | nil => exact Nat.dvd_zero 2
  | pair hc hd _ ih =>
    obtain ⟨a, ha, -⟩ := hc.utf8
    obtain ⟨b, hb, -⟩ := hd.utf8
    rw [Utf8.encode_cons, ha, Utf8.encode_cons, hb]
    simp only [List.cons_append, List.nil_append, List.length_cons]
    omega

/-- **What is read are the bytes that the digits denote.** -/
theorem decode_eq_ok_iff {s : String} : decode s = .ok bs ↔ Denotes s.toList bs := by
  constructor
  · intro h
    rw [decode] at h
    split at h
    · exact denotes_of_decodePairs h
    · cases h
  · intro h
    rw [decode]
    exact (if_pos (Nat.mod_eq_zero_of_dvd h.two_dvd_length)).trans (h.decodePairs 0)

/-- **Digits in pairs denote bytes, and nothing else does.** -/
theorem exists_denotes_iff :
    (∃ bs, Denotes cs bs) ↔ 2 ∣ (Utf8.encode cs).length ∧ ∀ c ∈ cs, c ∈ digits := by
  constructor
  · rintro ⟨bs, h⟩
    refine ⟨h.two_dvd_length, ?_⟩
    induction h with
    | nil => exact List.forall_mem_nil _
    | pair hc hd _ ih =>
      exact List.forall_mem_cons.mpr ⟨exists_isDigit_iff.mp ⟨_, hc⟩,
        List.forall_mem_cons.mpr ⟨exists_isDigit_iff.mp ⟨_, hd⟩, ih⟩⟩
  · rintro ⟨heven, hdigits⟩
    induction cs using List.twoStepInduction with
    | nil => exact ⟨[], .nil⟩
    | singleton c =>
      -- a single digit takes one byte
      obtain ⟨x, hc⟩ := exists_isDigit_iff.mpr (hdigits c List.mem_cons_self)
      obtain ⟨a, ha, -⟩ := hc.utf8
      have hlength : (Utf8.encode [c]).length = 1 := by
        rw [Utf8.encode_cons, ha]
        rfl
      rw [hlength] at heven
      exact absurd heven (by decide)
    | cons_cons c d cs ih _ =>
      rw [List.forall_mem_cons, List.forall_mem_cons] at hdigits
      obtain ⟨x, hc⟩ := exists_isDigit_iff.mpr hdigits.1
      obtain ⟨y, hd⟩ := exists_isDigit_iff.mpr hdigits.2.1
      obtain ⟨a, ha, -⟩ := hc.utf8
      obtain ⟨b, hb, -⟩ := hd.utf8
      rw [Utf8.encode_cons, ha, Utf8.encode_cons, hb] at heven
      simp only [List.cons_append, List.nil_append, List.length_cons] at heven
      obtain ⟨bs, h⟩ := ih (by omega) hdigits.2.2
      exact ⟨_, .pair hc hd h⟩

/-- **The bytes are written with the same digits in lower case.** -/
theorem Denotes.encode_eq (h : Denotes cs bs) : encode bs = cs.map Char.toLower := by
  induction h with
  | nil => rfl
  | @pair c d x y cs bs hc hd _ ih =>
    have hx := hc.lt
    have hy := hd.lt
    have hbyte : (UInt8.ofNat (16 * x + y)).toNat = 16 * x + y := by
      rw [UInt8.toNat_ofNat']
      omega
    have hhigh : (16 * x + y) / 16 = x := by omega
    have hlow : (16 * x + y) % 16 = y := by omega
    show digit ((UInt8.ofNat (16 * x + y)).toNat / 16) ::
      digit ((UInt8.ofNat (16 * x + y)).toNat % 16) :: encode bs = _
    rw [hbyte, hhigh, hlow, ih, ← hc.toLower, ← hd.toLower]
    rfl

end AccountRegistry.Text.Hex
