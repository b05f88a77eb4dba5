/-
The lexical parts of JSON text: spaces, words, texts and numbers.

* **Json.readText** — a text whose opening quote has been read, with its escapes undone;
* **Json.skipText** — the same place without a look at surrogates;
* **Json.readNumber** — a number, as an integer of 64 bits or else as a double;
* **Json.skipNumber** — the same place without a look at its size.

Each function takes the characters that are left and gives those that are left after it.
-/
import AccountRegistry.Json.Fault
import AccountRegistry.Json.Value

namespace AccountRegistry.Json

/-- The four characters that may stand between tokens. -/
def isSpace (c : Char) : Bool :=
  c = ' ' || c = '\n' || c = '\t' || c = '\r'

/-- The characters after the spaces. -/
def skipSpace (cs : List Char) : List Char :=
  cs.dropWhile isSpace

/-- Reads the rest of a word such as `null`. -/
def expectWord : List Char → List Char → Except Fault (List Char)
  | [], cs => .ok cs
  | _ :: _, [] => .error (.ended .value)
  | w :: ws, c :: cs => if c = w then expectWord ws cs else .error (.mistake .wordExpected)

/-! ### Texts -/

/-- The value of a hexadecimal digit. -/
def hexValue (c : Char) : Option Nat :=
  if '0' ≤ c ∧ c ≤ '9' then some (c.toNat - 48)
  else if 'a' ≤ c ∧ c ≤ 'f' then some (c.toNat - 87)
  else if 'A' ≤ c ∧ c ≤ 'F' then some (c.toNat - 55)
  else none

/-- The value of the four digits of an escape. With fewer than four bytes left the text has
ended. -/
def hexEscape (cs : List Char) : Except Fault Nat :=
  let four := cs.take 4
  if four.foldl (fun n c => n + c.utf8Size) 0 < 4 then .error (.ended .text)
  else match four.mapM hexValue with
    | some [a, b, c, d] => .ok (((a * 16 + b) * 16 + c) * 16 + d)
    | _ => .error (.mistake .badEscape)

/-- The character that a letter after the backslash stands for. -/
def shortEscape (c : Char) : Option Char :=
  if c = '"' || c = '\\' || c = '/' then some c
  else if c = 'b' then some (Char.ofNat 8)
  else if c = 'f' then some (Char.ofNat 12)
  else if c = 'n' then some '\n'
  else if c = 'r' then some '\r'
  else if c = 't' then some '\t'
  else none

/-- The second half of a surrogate pair, whose first half is `high`. -/
def lowSurrogate (high : Nat) : List Char → Except Fault Char
  | [] => .error (.ended .text)
  | '\\' :: [] => .error (.ended .text)
  | '\\' :: 'u' :: cs => do
    let low ← hexEscape cs
    if 0xDC00 ≤ low ∧ low ≤ 0xDFFF then
      .ok (Char.ofNat ((high - 0xD800) * 0x400 + (low - 0xDC00) + 0x10000))
    else .error (.mistake .loneSurrogate)
  | _ => .error (.mistake .unfinishedEscape)

/-- The character of an escape whose backslash has been read, and the number of characters
that it takes. -/
def readEscape : List Char → Except Fault (Char × Nat)
  | [] => .error (.ended .text)
  | 'u' :: cs => do
    let n ← hexEscape cs
    if 0xDC00 ≤ n ∧ n ≤ 0xDFFF then .error (.mistake .loneSurrogate)
    else if 0xD800 ≤ n ∧ n ≤ 0xDBFF then do
      let c ← lowSurrogate n (cs.drop 4)
      .ok (c, 11)
    else .ok (Char.ofNat n, 5)
  | c :: _ =>
    match shortEscape c with
    | some d => .ok (d, 1)
    | none => .error (.mistake .badEscape)

/-- The characters of a text up to its closing quote. -/
def readText : List Char → Except Fault (List Char × List Char)
  | [] => .error (.ended .text)
  | c :: cs =>
    if c = '"' then .ok ([], cs)
    else if c = '\\' then do
      let (d, n) ← readEscape cs
      let (ds, rest) ← readText (cs.drop n)
      .ok (d :: ds, rest)
    else if c.toNat < 0x20 then .error (.mistake .controlCharacter)
    else do
      let (ds, rest) ← readText cs
      .ok (c :: ds, rest)
termination_by cs => cs.length
decreasing_by all_goals simp only [List.length_drop, List.length_cons]; omega

/-- The number of characters of an escape that nobody reads. -/
def skipEscape : List Char → Except Fault Nat
  | [] => .error (.ended .text)
  | 'u' :: cs => do
    let _ ← hexEscape cs
    .ok 5
  | c :: _ => if (shortEscape c).isSome then .ok 1 else .error (.mistake .badEscape)

/-- The characters after a text that nobody reads. -/
def skipText : List Char → Except Fault (List Char)
  | [] => .error (.ended .text)
  | c :: cs =>
    if c = '"' then .ok cs
    else if c = '\\' then do
      let n ← skipEscape cs
      skipText (cs.drop n)
    else if c.toNat < 0x20 then .error (.mistake .controlCharacter)
    else skipText cs
termination_by cs => cs.length
decreasing_by all_goals simp only [List.length_drop, List.length_cons]; omega

/-! ### Numbers -/

/-- The greatest integer of 64 bits. -/
def greatestNatural : Nat := 0xFFFFFFFFFFFFFFFF

/-- The value of a decimal digit. -/
def digitValue (c : Char) : Nat := c.toNat - 48

/-- Appends digits to `n` as long as the number fits 64 bits: the number, how many digits
it took, and the rest. -/
def takeDigits (n : Nat) : List Char → Nat × Nat × List Char
  | [] => (n, 0, [])
  | c :: cs =>
    if c.isDigit && n * 10 + digitValue c ≤ greatestNatural then
      let (m, count, rest) := takeDigits (n * 10 + digitValue c) cs
      (m, count + 1, rest)
    else (n, 0, c :: cs)

/-- The characters after the digits. -/
def skipDigits (cs : List Char) : List Char :=
  cs.dropWhile Char.isDigit

/-- Whether a digit comes next. -/
def atDigit : List Char → Bool
  | [] => false
  | c :: _ => c.isDigit

/-- A double divided by `10 ^ n`, by steps of at most `10 ^ 308`. -/
def scaleDown (x : Binary64) (n : Nat) : Binary64 :=
  if n ≤ 308 then x.div (.ofDecimal false 1 n)
  else if x.isZero then x
  else scaleDown (x.div (.ofDecimal false 1 308)) (n - 308)
termination_by n
decreasing_by omega

/-- The double of a significand and a power of ten: the significand is rounded, and then
its product or quotient with the power. -/
def scaled (negative : Bool) (significand : Nat) (exponent : Int) :
    Except Fault Binary64 :=
  let x := Binary64.ofNat significand
  let signed := fun (y : Binary64) => if negative then y.neg else y
  if exponent < 0 then .ok (signed (scaleDown x exponent.natAbs))
  else if exponent ≤ 308 then
    let y := x.mul (.ofDecimal false 1 exponent)
    if y.isInfinite then .error (.mistake .numberRange) else .ok (signed y)
  else if x.isZero then .ok (signed x)
  else .error (.mistake .numberRange)

/-- The greatest exponent that is taken at its value. -/
def greatestExponent : Nat := 0x7FFFFFFF

/-- Reads the digits of an exponent. -/
def readExponentDigits (negative : Bool) (significand : Nat) (start : Int) (down : Bool)
    (cs : List Char) : Except Fault (Number × List Char) :=
  match cs with
  | [] => .error (.ended .value)
  | c :: _ =>
    if !c.isDigit then .error (.mistake .badNumber)
    else
      let digits := cs.takeWhile Char.isDigit
      let n := digits.foldl (fun n c => n * 10 + digitValue c) 0
      if greatestExponent < n then
        if significand ≠ 0 ∧ down = false then .error (.mistake .numberRange)
        else .ok (.real (.zero negative), skipDigits cs)
      else do
        let x ← scaled negative significand (if down then start - n else start + n)
        .ok (.real x, skipDigits cs)

/-- Reads an exponent whose letter has been read. -/
def readExponent (negative : Bool) (significand : Nat) (start : Int) :
    List Char → Except Fault (Number × List Char)
  | '+' :: cs => readExponentDigits negative significand start false cs
  | '-' :: cs => readExponentDigits negative significand start true cs
  | cs => readExponentDigits negative significand start false cs

/-- Ends a number at an exponent or without one. -/
def readScaled (negative : Bool) (significand : Nat) (exponent : Int) (cs : List Char) :
    Except Fault (Number × List Char) :=
  match cs with
  | 'e' :: rest | 'E' :: rest => readExponent negative significand exponent rest
  | _ => do
    let x ← scaled negative significand exponent
    .ok (.real x, cs)

/-- Reads the places after the point. Digits that no longer fit are passed over. -/
def readPlaces (negative : Bool) (significand : Nat) (exponent : Int) (cs : List Char) :
    Except Fault (Number × List Char) :=
  let (n, count, rest) := takeDigits significand cs
  if atDigit rest then readScaled negative n (exponent - count) (skipDigits rest)
  else if count = 0 then
    .error (if rest.isEmpty then .ended .value else .mistake .badNumber)
  else readScaled negative n (exponent - count) rest

/-- Reads what follows an integer part that is too long: every further digit multiplies it
by ten. -/
def readLong (negative : Bool) (significand : Nat) (cs : List Char) :
    Except Fault (Number × List Char) :=
  let rest := skipDigits cs
  let exponent : Int := cs.length - rest.length
  match rest with
  | '.' :: places => readPlaces negative significand exponent places
  | _ => readScaled negative significand exponent rest

/-- The number of an integer part without places and exponent. -/
def integer (negative : Bool) (n : Nat) : Number :=
  if !negative then .natural n
  else if n = 0 ∨ 0x8000000000000000 < n then .real (Binary64.ofNat n).neg
  else .negative n

/-- Reads what follows the integer part. -/
def readFraction (negative : Bool) (n : Nat) (cs : List Char) :
    Except Fault (Number × List Char) :=
  match cs with
  | '.' :: rest => readPlaces negative n 0 rest
  | 'e' :: rest | 'E' :: rest => readExponent negative n 0 rest
  | _ => .ok (integer negative n, cs)

/-- Reads a number after its sign. -/
def readNumber (negative : Bool) : List Char → Except Fault (Number × List Char)
  | [] => .error (.ended .value)
  | c :: cs =>
    if c = '0' then
      if atDigit cs then .error (.mistake .badNumber) else readFraction negative 0 cs
    else if c.isDigit then
      let (n, _, rest) := takeDigits (digitValue c) cs
      if atDigit rest then readLong negative n rest else readFraction negative n rest
    else .error (.mistake .badNumber)

/-- The characters after the digits of an exponent that nobody reads. -/
def skipExponentDigits (cs : List Char) : Except Fault (List Char) :=
  if atDigit cs then .ok (skipDigits cs) else .error (.mistake .badNumber)

/-- The characters after an exponent that nobody reads. -/
def skipExponent : List Char → Except Fault (List Char)
  | '+' :: cs => skipExponentDigits cs
  | '-' :: cs => skipExponentDigits cs
  | cs => skipExponentDigits cs

/-- The characters after an exponent, if there is one. -/
def skipScale : List Char → Except Fault (List Char)
  | 'e' :: cs | 'E' :: cs => skipExponent cs
  | cs => .ok cs

/-- The characters after the places and the exponent, if there are any. -/
def skipFraction : List Char → Except Fault (List Char)
  | '.' :: cs => if atDigit cs then skipScale (skipDigits cs) else .error (.mistake .badNumber)
  | cs => skipScale cs

/-- The characters after a number whose sign has been read. -/
def skipNumber : List Char → Except Fault (List Char)
  | [] => .error (.mistake .badNumber)
  | c :: cs =>
    if c = '0' then
      if atDigit cs then .error (.mistake .badNumber) else skipFraction cs
    else if c.isDigit then skipFraction (skipDigits cs)
    else .error (.mistake .badNumber)

end AccountRegistry.Json
