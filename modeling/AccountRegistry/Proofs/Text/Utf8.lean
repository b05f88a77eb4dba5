/-
Texts as bytes, and back.

* **`Text.Utf8.head_encode`** — a character is found at the head of its bytes;
* **`Text.Utf8.decode_encode`**, **`Text.Utf8.decodeLossy_encode`** — a text is read back from
  its bytes;
* **`Text.Utf8.mem_encode_iff`** — an ASCII byte is one of the bytes of a text exactly if its
  character is in the text.
-/
import AccountRegistry.Text.Utf8
import Mathlib.Tactic.SplitIfs

namespace AccountRegistry.Text.Utf8

/-! ### Single characters -/

theorem encodeChar_ascii {c : Char} (h : c.toNat < 0x80) :
    String.utf8EncodeChar c = [UInt8.ofNat c.toNat] := by
  have hle : c.val.toNat ≤ 0x7f := Nat.le_of_lt_succ h
  simp only [String.utf8EncodeChar, hle, if_true]
  rfl

/-- The bytes of a character beyond ASCII lie beyond ASCII themselves. -/
theorem le_of_mem_encodeChar {c : Char} (h : 0x80 ≤ c.toNat) :
    ∀ b ∈ String.utf8EncodeChar c, 0x80 ≤ b.toNat := by
  have hascii : ¬ c.val.toNat ≤ 0x7f := Nat.not_le_of_lt h
  simp only [String.utf8EncodeChar, hascii, if_false]
  intro b hb
  split at hb
  · simp only [List.mem_cons, List.not_mem_nil, or_false] at hb
    rcases hb with rfl | rfl <;> rw [UInt8.toNat_ofNat'] <;> omega
  split at hb
  · simp only [List.mem_cons, List.not_mem_nil, or_false] at hb
    rcases hb with rfl | rfl | rfl <;> rw [UInt8.toNat_ofNat'] <;> omega
  · simp only [List.mem_cons, List.not_mem_nil, or_false] at hb
    rcases hb with rfl | rfl | rfl | rfl <;> rw [UInt8.toNat_ofNat'] <;> omega

/-- The byte that continues a character with the last six bits of `n`. -/
def tail (n : Nat) : UInt8 := UInt8.ofNat (n % 0x40 + 0x80)

theorem toNat_tail (n : Nat) : (tail n).toNat = n % 64 + 0x80 := by
  rw [tail, UInt8.toNat_ofNat']
  omega

theorem continueHead_tail (value size n more : Nat) (bs : List UInt8) :
    continueHead value size (more + 1) (tail n :: bs) =
      continueHead (value * 64 + n % 64) (size + 1) more bs := by
  have hbits : continuation (tail n) = some (n % 64) := by
    rw [continuation, toNat_tail, if_pos (by omega), Nat.add_sub_cancel]
  rw [continueHead, hbits]

/-- The second byte of a character is read unless the character would be written in a longer
form than it needs, or be none. -/
theorem multibyte_tail {b : UInt8} {n : Nat} (lead more : Nat) (bs : List UInt8)
    (hshort : b.toNat = 0xE0 → 32 ≤ n % 64) (hlow : b.toNat = 0xED → n % 64 < 32)
    (hlong : b.toNat = 0xF0 → 16 ≤ n % 64) (hhigh : b.toNat = 0xF4 → n % 64 < 16) :
    multibyte b lead (more + 1) (tail n :: bs) =
      continueHead (lead * 64 + n % 64) 2 more bs := by
  have hrange : (secondRange b.toNat).1 ≤ n % 64 + 0x80 ∧
      n % 64 + 0x80 ≤ (secondRange b.toNat).2 := by
    have hn : n % 64 < 64 := Nat.mod_lt n (by decide)
    unfold secondRange
    split_ifs with h h h h
    · have := hshort h
      omega
    · have := hlow h
      omega
    · have := hlong h
      omega
    · have := hhigh h
      omega
    · omega
  simp only [multibyte, toNat_tail, hrange, and_self, if_true, Nat.add_sub_cancel]

/-- **A character is found at the head of its bytes**, whatever follows them. -/
theorem head_encode (c : Char) (bs : List UInt8) :
    ∃ b more, String.utf8EncodeChar c = b :: more ∧
      head b (more ++ bs) = .char c (more.length + 1) := by
  have hvalid : c.toNat < 0xD800 ∨ 0xDFFF < c.toNat ∧ c.toNat < 0x110000 := c.valid
  have hc : Char.ofNat c.toNat = c := Char.ofNat_toNat c
  have hval : c.val.toNat = c.toNat := rfl
  simp only [String.utf8EncodeChar, hval]
  generalize c.toNat = n at hvalid hc
  -- one to four bytes, of which the first tells how many there are
  split
  · next h =>
    have hb : (UInt8.ofNat n).toNat = n := by
      rw [UInt8.toNat_ofNat']
      omega
    refine ⟨_, [], rfl, ?_⟩
    simp only [head, hb]
    rw [if_pos (by omega), hc, List.length_nil]
  split
  · next h =>
    have hb : (UInt8.ofNat (n / 64 % 0x20 + 0xc0)).toNat = n / 64 + 0xc0 := by
      rw [UInt8.toNat_ofNat']
      omega
    refine ⟨_, [tail n], rfl, ?_⟩
    have hsum : n / 64 * 64 + n % 64 = n := by omega
    simp only [head, hb, List.cons_append, List.nil_append]
    rw [if_neg (by omega), if_pos (by omega), Nat.add_sub_cancel,
      multibyte_tail _ 0 _ (by omega) (by omega) (by omega) (by omega), continueHead, hsum, hc]
    rfl
  split
  · next h =>
    have hb : (UInt8.ofNat (n / 4096 % 0x10 + 0xe0)).toNat = n / 4096 + 0xe0 := by
      rw [UInt8.toNat_ofNat']
      omega
    refine ⟨_, [tail (n / 64), tail n], rfl, ?_⟩
    have hsum : (n / 4096 * 64 + n / 64 % 64) * 64 + n % 64 = n := by omega
    simp only [head, hb, List.cons_append, List.nil_append]
    rw [if_neg (by omega), if_neg (by omega), if_pos (by omega), Nat.add_sub_cancel,
      multibyte_tail _ 1 _ (by omega) (by omega) (by omega) (by omega), continueHead_tail,
      continueHead, hsum, hc]
    rfl
  · have hb : (UInt8.ofNat (n / 262144 % 0x08 + 0xf0)).toNat = n / 262144 + 0xf0 := by
      rw [UInt8.toNat_ofNat']
      omega
    refine ⟨_, [tail (n / 4096), tail (n / 64), tail n], rfl, ?_⟩
    have hsum : ((n / 262144 * 64 + n / 4096 % 64) * 64 + n / 64 % 64) * 64 + n % 64 = n := by
      omega
    simp only [head, hb, List.cons_append, List.nil_append]
    rw [if_neg (by omega), if_neg (by omega), if_neg (by omega), if_pos (by omega),
      Nat.add_sub_cancel, multibyte_tail _ 2 _ (by omega) (by omega) (by omega) (by omega),
      continueHead_tail, continueHead_tail, continueHead, hsum, hc]
    rfl

/-! ### Texts -/

theorem encode_cons (c : Char) (cs : List Char) :
    encode (c :: cs) = String.utf8EncodeChar c ++ encode cs := rfl

theorem decodeFrom_encode (cs : List Char) (index : Nat) :
    decodeFrom index (encode cs) = .ok cs := by
  induction cs generalizing index with
  | nil => rw [encode, List.flatMap_nil, decodeFrom]
  | cons c cs ih =>
    obtain ⟨b, more, hbytes, hhead⟩ := head_encode c (encode cs)
    rw [encode_cons, hbytes, List.cons_append, decodeFrom, hhead]
    simp only [Nat.add_sub_cancel, List.drop_left, ih]
    rfl

/-- **A text is read back from its bytes.** -/
theorem decode_encode (cs : List Char) : decode (encode cs) = .ok cs :=
  decodeFrom_encode cs 0

/-- **Nothing is replaced** in the bytes of a text. -/
theorem decodeLossy_encode (cs : List Char) : decodeLossy (encode cs) = cs := by
  induction cs with
  | nil => rw [encode, List.flatMap_nil, decodeLossy]
  | cons c cs ih =>
    obtain ⟨b, more, hbytes, hhead⟩ := head_encode c (encode cs)
    rw [encode_cons, hbytes, List.cons_append, decodeLossy, hhead]
    simp only [Nat.add_sub_cancel, List.drop_left, ih]

/-- An ASCII character is in a text exactly if its byte is among the bytes. -/
theorem mem_encode_iff {c : Char} (hc : c.toNat < 0x80) {cs : List Char} :
    UInt8.ofNat c.toNat ∈ encode cs ↔ c ∈ cs := by
  have hbyte : (UInt8.ofNat c.toNat).toNat = c.toNat := by
    rw [UInt8.toNat_ofNat']
    omega
  rw [encode, List.mem_flatMap]
  constructor
  · rintro ⟨d, hd, hmem⟩
    by_cases hascii : d.toNat < 0x80
    · rw [encodeChar_ascii hascii, List.mem_singleton] at hmem
      have hnat := congrArg UInt8.toNat hmem
      rw [hbyte, UInt8.toNat_ofNat'] at hnat
      have heq : c.toNat = d.toNat := by omega
      rwa [Char.toNat_inj.mp heq]
    · have hle := le_of_mem_encodeChar (Nat.le_of_not_lt hascii) _ hmem
      rw [hbyte] at hle
      omega
  · intro hmem
    refine ⟨c, hmem, ?_⟩
    rw [encodeChar_ascii hc]
    exact List.mem_singleton_self _

end AccountRegistry.Text.Utf8
