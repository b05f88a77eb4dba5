/-
UTF-8: characters as bytes and back.

* **Utf8.encode** — the bytes of a text;
* **Utf8.decode** — the text of the bytes, or the place of the first fault;
* **Utf8.decodeLossy** — the text with a replacement character for each fault.
-/

namespace AccountRegistry.Text.Utf8

/-- The bytes of a text. -/
def encode (cs : List Char) : List UInt8 :=
  cs.flatMap String.utf8EncodeChar

/-- What stands at the head of a byte sequence: a character of some bytes, a faulty
stretch of some bytes, or the beginning of a character that is cut off. -/
inductive Head where
  | char (c : Char) (size : Nat)
  | invalid (size : Nat)
  | incomplete
  deriving DecidableEq

/-- A byte that continues a character, as its six bits. -/
def continuation (b : UInt8) : Option Nat :=
  if 0x80 ≤ b.toNat ∧ b.toNat < 0xC0 then some (b.toNat - 0x80) else none

/-- The second byte may range from `low` to `high` after the lead byte `b`, so that there
is no overlong form, no surrogate and nothing above U+10FFFF. -/
def secondRange (b : Nat) : Nat × Nat :=
  if b = 0xE0 then (0xA0, 0xBF)
  else if b = 0xED then (0x80, 0x9F)
  else if b = 0xF0 then (0x90, 0xBF)
  else if b = 0xF4 then (0x80, 0x8F)
  else (0x80, 0xBF)

/-- Reads the remaining continuation bytes of a character; `size` bytes are read. -/
def continueHead (value : Nat) (size : Nat) : Nat → List UInt8 → Head
  | 0, _ => .char (Char.ofNat value) size
  | _ + 1, [] => .incomplete
  | n + 1, b :: bs =>
    match continuation b with
    | some bits => continueHead (value * 64 + bits) (size + 1) n bs
    | none => .invalid size

/-- Reads the character that begins with the byte `b` of value `lead` and takes `more`
further bytes. -/
def multibyte (b : UInt8) (lead more : Nat) : List UInt8 → Head
  | [] => .incomplete
  | c :: bs =>
    let (low, high) := secondRange b.toNat
    if low ≤ c.toNat ∧ c.toNat ≤ high then
      continueHead (lead * 64 + (c.toNat - 0x80)) 2 (more - 1) bs
    else .invalid 1

/-- What stands at the head of `b :: bs`. -/
def head (b : UInt8) (bs : List UInt8) : Head :=
  let n := b.toNat
  if n < 0x80 then .char (Char.ofNat n) 1
  else if 0xC2 ≤ n ∧ n ≤ 0xDF then multibyte b (n - 0xC0) 1 bs
  else if 0xE0 ≤ n ∧ n ≤ 0xEF then multibyte b (n - 0xE0) 2 bs
  else if 0xF0 ≤ n ∧ n ≤ 0xF4 then multibyte b (n - 0xF0) 3 bs
  else .invalid 1

/-- A place at which bytes are not UTF-8. -/
structure Fault where
  /-- The number of good bytes before it. -/
  index : Nat
  /-- The length of the faulty stretch; none if the text ends inside a character. -/
  size : Option Nat
  deriving DecidableEq

/-- The wording of a fault. -/
def Fault.message (f : Fault) : String :=
  match f.size with
  | some n => s!"invalid utf-8 sequence of {n} bytes from index {f.index}"
  | none => s!"incomplete utf-8 byte sequence from index {f.index}"

/-- Decodes the bytes after the first `index`. -/
def decodeFrom (index : Nat) : List UInt8 → Except Fault (List Char)
  | [] => .ok []
  | b :: bs =>
    match head b bs with
    | .char c size => (decodeFrom (index + size) (bs.drop (size - 1))).map (c :: ·)
    | .invalid size => .error ⟨index, some size⟩
    | .incomplete => .error ⟨index, none⟩
termination_by bs => bs.length
decreasing_by simp only [List.length_drop, List.length_cons]; omega

/-- The text of the bytes. -/
def decode (bs : List UInt8) : Except Fault (List Char) :=
  decodeFrom 0 bs

/-- The character that stands for what cannot be read. -/
def replacement : Char := Char.ofNat 0xFFFD

/-- The text of the bytes, each fault shown as the replacement character. -/
def decodeLossy : List UInt8 → List Char
  | [] => []
  | b :: bs =>
    match head b bs with
    | .char c size => c :: decodeLossy (bs.drop (size - 1))
    | .invalid size => replacement :: decodeLossy (bs.drop (size - 1))
    | .incomplete => [replacement]
termination_by bs => bs.length
decreasing_by all_goals simp only [List.length_drop, List.length_cons]; omega

end AccountRegistry.Text.Utf8
