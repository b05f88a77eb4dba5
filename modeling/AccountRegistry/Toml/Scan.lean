/-
The lexical parts of TOML: spaces, comments, keys, texts, numbers and dates.

* **Toml.readKey** — a key of one or more parts;
* **Toml.readText** — a text in one of its four forms;
* **Toml.readWord** — a truth value, a number or a date.

Each function takes the characters that are left and gives those that are left after it, or
nothing if the text is not TOML.

Design notes: TOML has no largest integer.  What is done with an integer is for the caller to
say, in `fit`; the program has those of 64 bits only, which is `fitting`.
-/
import AccountRegistry.Settings.Plain
import AccountRegistry.Date

namespace AccountRegistry.Toml

/-- A space or a tab. -/
def isSpace (c : Char) : Bool := c = ' ' || c = '\t'

/-- The characters after the spaces. -/
def skipSpace (cs : List Char) : List Char := cs.dropWhile isSpace

/-- A character that may stand in a comment or, but for its delimiter, in a text. -/
def isPlainChar (c : Char) : Bool := c = '\t' || (0x20 ≤ c.toNat && c.toNat ≠ 0x7F)

/-- The characters after a comment, if there is one. -/
def skipComment : List Char → List Char
  | '#' :: cs => cs.dropWhile isPlainChar
  | cs => cs

/-- The characters after the end of a line. -/
def readNewline : List Char → Option (List Char)
  | '\n' :: cs => some cs
  | '\r' :: '\n' :: cs => some cs
  | _ => none

/-- The characters after the rest of a line that holds nothing more. -/
def endLine (cs : List Char) : Option (List Char) :=
  match skipComment (skipSpace cs) with
  | [] => some []
  | cs => readNewline cs

/-- The characters after spaces, comments and ends of lines. -/
def skipLines : Nat → List Char → List Char
  | 0, cs => cs
  | n + 1, cs =>
    let cs := skipComment (skipSpace cs)
    match readNewline cs with
    | some rest => skipLines n rest
    | none => cs

/-! ### Texts -/

/-- The value of hexadecimal digits. -/
def hexNumber (cs : List Char) : Option Nat :=
  cs.foldlM (fun n c =>
    if '0' ≤ c ∧ c ≤ '9' then some (n * 16 + (c.toNat - 48))
    else if 'a' ≤ c ∧ c ≤ 'f' then some (n * 16 + (c.toNat - 87))
    else if 'A' ≤ c ∧ c ≤ 'F' then some (n * 16 + (c.toNat - 55))
    else none) 0

/-- The character of a code point that is written in `width` digits. -/
def codePoint (width : Nat) (cs : List Char) : Option Char :=
  if cs.length < width then none
  else (hexNumber (cs.take width)).bind fun n =>
    if n < 0xD800 ∨ (0xDFFF < n ∧ n ≤ 0x10FFFF) then some (Char.ofNat n) else none

/-- The character of an escape whose backslash has been read, and how many characters it
takes. -/
def readEscape : List Char → Option (Char × Nat)
  | 'b' :: _ => some (Char.ofNat 8, 1)
  | 't' :: _ => some ('\t', 1)
  | 'n' :: _ => some ('\n', 1)
  | 'f' :: _ => some (Char.ofNat 12, 1)
  | 'r' :: _ => some ('\r', 1)
  | '"' :: _ => some ('"', 1)
  | '\\' :: _ => some ('\\', 1)
  | 'u' :: cs => (codePoint 4 cs).map (·, 5)
  | 'U' :: cs => (codePoint 8 cs).map (·, 9)
  | _ => none

/-- A text between double quotes, on one line. -/
def readBasic : List Char → Option (List Char × List Char)
  | [] => none
  | c :: cs =>
    if c = '"' then some ([], cs)
    else if c = '\\' then
      match readEscape cs with
      | some (d, n) => (readBasic (cs.drop n)).map fun (ds, rest) => (d :: ds, rest)
      | none => none
    else if isPlainChar c then (readBasic cs).map fun (ds, rest) => (c :: ds, rest)
    else none
termination_by cs => cs.length
decreasing_by all_goals simp only [List.length_drop, List.length_cons]; omega

/-- A text between single quotes, on one line. -/
def readLiteral : List Char → Option (List Char × List Char)
  | [] => none
  | c :: cs =>
    if c = '\'' then some ([], cs)
    else if isPlainChar c then (readLiteral cs).map fun (ds, rest) => (c :: ds, rest)
    else none

/-- The number of quotes at the head of a text. -/
def countQuotes (quote : Char) (cs : List Char) : Nat :=
  (cs.takeWhile (· = quote)).length

/-- What a run of quotes means inside a text of several lines: three to five of them end
it, those that are too many belonging to it. -/
def closing (quote : Char) (cs : List Char) : Option Nat :=
  let n := countQuotes quote cs
  if 3 ≤ n ∧ n ≤ 5 then some n else none

/-- The characters after the white space that a backslash at the end of a line removes. -/
def skipFold (cs : List Char) : List Char :=
  cs.dropWhile fun c => isSpace c || c = '\n' || c = '\r'

/-- Whether a backslash stands at the end of a line. -/
def folds (cs : List Char) : Bool :=
  (readNewline (skipSpace cs)).isSome

/-- A text of several lines between quotes, with or without escapes. -/
def readLong (quote : Char) (escapes : Bool) : List Char → Option (List Char × List Char)
  | [] => none
  | c :: cs =>
    if c = quote then
      match closing quote (c :: cs) with
      | some n => some (List.replicate (n - 3) quote, cs.drop (n - 1))
      | none =>
        if 5 < countQuotes quote (c :: cs) then none
        else (readLong quote escapes cs).map fun (ds, rest) => (c :: ds, rest)
    else if escapes && c = '\\' then
      if folds cs then readLong quote escapes (skipFold cs)
      else match readEscape cs with
        | some (d, n) => (readLong quote escapes (cs.drop n)).map fun (ds, rest) => (d :: ds, rest)
        | none => none
    else if c = '\n' then (readLong quote escapes cs).map fun (ds, rest) => ('\n' :: ds, rest)
    else if c = '\r' then
      if cs.head? = some '\n' then
        (readLong quote escapes (cs.drop 1)).map fun (ds, rest) => ('\n' :: ds, rest)
      else none
    else if isPlainChar c then
      (readLong quote escapes cs).map fun (ds, rest) => (c :: ds, rest)
    else none
termination_by cs => cs.length
decreasing_by
  all_goals simp only [List.length_drop, List.length_cons, skipFold]
  all_goals first
    | omega
    | exact Nat.lt_succ_of_le (List.dropWhile_suffix _).length_le

/-- The characters after a line end that directly follows the opening quotes. -/
def skipFirstNewline (cs : List Char) : List Char :=
  (readNewline cs).getD cs

/-- A text in one of its four forms. -/
def readText (cs : List Char) : Option (String × List Char) :=
  let found := match cs with
    | '"' :: '"' :: '"' :: rest => readLong '"' true (skipFirstNewline rest)
    | '\'' :: '\'' :: '\'' :: rest => readLong '\'' false (skipFirstNewline rest)
    | '"' :: rest => readBasic rest
    | '\'' :: rest => readLiteral rest
    | _ => none
  found.map fun (s, rest) => (.ofList s, rest)

/-! ### Keys -/

/-- A character of a key without quotes. -/
def isBare (c : Char) : Bool :=
  c.isAlphanum || c = '_' || c = '-'

/-- One part of a key. -/
def readKeyPart (cs : List Char) : Option (String × List Char) :=
  let found := match cs with
    | '"' :: rest => readBasic rest
    | '\'' :: rest => readLiteral rest
    | _ =>
      let bare := cs.takeWhile isBare
      if bare.isEmpty then none else some (bare, cs.dropWhile isBare)
  found.map fun (s, rest) => (.ofList s, rest)

/-- The parts of a key, separated by points. -/
def readKey : Nat → List Char → Option (List String × List Char)
  | 0, _ => none
  | n + 1, cs =>
    match readKeyPart (skipSpace cs) with
    | none => none
    | some (part, rest) =>
      match skipSpace rest with
      | '.' :: rest => (readKey n rest).map fun (parts, rest) => (part :: parts, rest)
      | rest => some ([part], rest)

/-! ### Numbers and dates -/

/-- The digits of a number without the underscores between them; nothing if an underscore
has no digit on both sides. -/
def plainDigits (isDigit : Char → Bool) : List Char → Option (List Char)
  | [] => none
  | [c] => if isDigit c then some [c] else none
  | c :: '_' :: cs =>
    if isDigit c then (plainDigits isDigit cs).map (c :: ·) else none
  | c :: cs => if isDigit c then (plainDigits isDigit cs).map (c :: ·) else none

/-- The digits of an integer part: none but a single one begins with zero. -/
def integerDigits (cs : List Char) : Option (List Char) :=
  (plainDigits Char.isDigit cs).bind fun ds =>
    if 1 < ds.length ∧ ds.head? = some '0' then none else some ds

/-- An integer of 64 bits. -/
def fitting (n : Int) : Option Scalar :=
  if fits64 n then some (.integer n) else none

section

variable (fit : Int → Option Scalar)

/-- The value of digits in a base. -/
def baseValue (base : Nat) (ds : List Char) : Nat :=
  ds.foldl (fun n c =>
    n * base + (if c.isDigit then c.toNat - 48 else c.toLower.toNat - 87)) 0

/-- An integer in base 16, 8 or 2, whose mark has been read. -/
def baseInteger (base : Nat) (cs : List Char) : Option Scalar :=
  let isDigit := fun (c : Char) =>
    if base = 16 then c.isDigit || ('a' ≤ c.toLower && c.toLower ≤ 'f')
    else '0' ≤ c && c.toNat < 48 + base
  (plainDigits isDigit cs).bind fun ds => fit (baseValue base ds)

/-- Takes the sign off a number. -/
def takeSign : List Char → Bool × List Char
  | '-' :: cs => (true, cs)
  | '+' :: cs => (false, cs)
  | cs => (false, cs)

/-- The text before the first of some characters, and what follows it, if there is one. -/
def cutAt (p : Char → Bool) (cs : List Char) : List Char × Option (List Char) :=
  match cs.dropWhile (!p ·) with
  | [] => (cs, none)
  | _ :: rest => (cs.takeWhile (!p ·), some rest)

/-- The exponent of a number. -/
def exponentValue (cs : List Char) : Option Int :=
  let (negative, cs) := takeSign cs
  (plainDigits Char.isDigit cs).map fun ds =>
    if negative then -(Date.digitsValue ds : Int) else Date.digitsValue ds

/-- A number in base ten: an integer, or a double if it has places or an exponent. A double
must not overflow. -/
def decimal (cs : List Char) : Option Scalar :=
  let (negative, cs) := takeSign cs
  let (front, exponent) := cutAt (fun c => c = 'e' || c = 'E') cs
  let (whole, places) := cutAt (· = '.') front
  match integerDigits whole with
  | none => none
  | some ds =>
    match places, exponent with
    | none, none =>
      let n : Int := Date.digitsValue ds
      fit (if negative then -n else n)
    | _, _ =>
      let fraction := match places with
        | none => some []
        | some ps => plainDigits Char.isDigit ps
      let scale := match exponent with
        | none => some 0
        | some e => exponentValue e
      match fraction, scale with
      | some ps, some e =>
        let x := Binary64.ofDecimal negative (Date.digitsValue (ds ++ ps)) (e - ps.length)
        if x.isInfinite then none else some (.real x)
      | _, _ => none

/-- Two digits with a value from `low` to `high`. -/
def twoDigits (low high : Nat) : List Char → Option (Nat × List Char)
  | a :: b :: rest =>
    let n := Date.digitsValue [a, b]
    if a.isDigit && b.isDigit && low ≤ n && n ≤ high then some (n, rest) else none
  | _ => none

/-- A date, and what follows it. -/
def readDay (cs : List Char) : Option (List Char × List Char) :=
  let year := cs.take 4
  if year.length = 4 ∧ year.all Char.isDigit then
    match cs.drop 4 with
    | '-' :: rest =>
      (twoDigits 1 12 rest).bind fun (month, rest) =>
        match rest with
        | '-' :: rest =>
          (twoDigits 1 31 rest).bind fun (day, rest) =>
            if day ≤ daysIn (Date.digitsValue year) month then
              some (year ++ '-' :: Date.padded 2 month ++ '-' :: Date.padded 2 day, rest)
            else none
        | _ => none
    | _ => none
  else none

/-- The fraction of a second: up to nine digits count, without the zeros at the end. -/
def readFraction : List Char → Option (List Char × List Char)
  | '.' :: cs =>
    let ds := cs.takeWhile Char.isDigit
    if ds.isEmpty then none
    else
      let kept := ((ds.take 9).reverse.dropWhile (· = '0')).reverse
      some (if kept.isEmpty then [] else '.' :: kept, cs.dropWhile Char.isDigit)
  | cs => some ([], cs)

/-- A time of day, and what follows it. -/
def readTime (cs : List Char) : Option (List Char × List Char) := do
  let (h, rest) ← twoDigits 0 23 cs
  let rest ← if rest.head? = some ':' then some (rest.drop 1) else none
  let (m, rest) ← twoDigits 0 59 rest
  let rest ← if rest.head? = some ':' then some (rest.drop 1) else none
  let (s, rest) ← twoDigits 0 60 rest
  let (f, rest) ← readFraction rest
  some (Date.padded 2 h ++ ':' :: Date.padded 2 m ++ ':' :: Date.padded 2 s ++ f, rest)

/-- The offset from universal time, to the end of the text. -/
def readOffset : List Char → Option (List Char)
  | [] => some []
  | ['Z'] | ['z'] => some ['Z']
  | c :: cs =>
    if c = '+' ∨ c = '-' then do
      let (h, rest) ← twoDigits 0 23 cs
      let rest ← if rest.head? = some ':' then some (rest.drop 1) else none
      let (m, rest) ← twoDigits 0 59 rest
      if !rest.isEmpty then none
      let sign := if h = 0 ∧ m = 0 then '+' else c
      some (sign :: Date.padded 2 h ++ ':' :: Date.padded 2 m)
    else none

/-- A date, a time or both, in the form that is usual for them. -/
def dateTime (cs : List Char) : Option Scalar :=
  match readDay cs with
  | some (day, []) => some (.text (.ofList day))
  | some (day, c :: rest) =>
    if c = 'T' ∨ c = 't' ∨ c = ' ' then do
      let (time, rest) ← readTime rest
      let offset ← readOffset rest
      some (.text (.ofList (day ++ 'T' :: time ++ offset)))
    else none
  | none =>
    match readTime cs with
    | some (time, []) => some (.text (.ofList time))
    | _ => none

/-- The value of a word. -/
def wordValue (cs : List Char) : Option Scalar :=
  match cs with
  | ['t', 'r', 'u', 'e'] => some (.bool true)
  | ['f', 'a', 'l', 's', 'e'] => some (.bool false)
  | ['i', 'n', 'f'] | ['+', 'i', 'n', 'f'] => some (.real (.infinity false))
  | ['-', 'i', 'n', 'f'] => some (.real (.infinity true))
  | ['n', 'a', 'n'] | ['+', 'n', 'a', 'n'] | ['-', 'n', 'a', 'n'] => some (.real .nan)
  | '0' :: 'x' :: ds => baseInteger fit 16 ds
  | '0' :: 'o' :: ds => baseInteger fit 8 ds
  | '0' :: 'b' :: ds => baseInteger fit 2 ds
  | _ => (decimal fit cs).or (dateTime cs)

/-- A character of a word. -/
def isWordChar (c : Char) : Bool :=
  c.isAlphanum || c = '+' || c = '-' || c = '_' || c = '.' || c = ':'

/-- Whether a time of day follows a date and a space. -/
def timeFollows : List Char → Bool
  | ' ' :: a :: b :: ':' :: _ => a.isDigit && b.isDigit
  | _ => false

/-- A truth value, a number or a date. -/
def readWord (cs : List Char) : Option (Scalar × List Char) :=
  let word := cs.takeWhile isWordChar
  let rest := cs.dropWhile isWordChar
  if word.length = 10 ∧ (readDay word).isSome ∧ timeFollows rest then
    let time := (rest.drop 1).takeWhile isWordChar
    (wordValue fit (word ++ ' ' :: time)).map fun s => (s, (rest.drop 1).dropWhile isWordChar)
  else (wordValue fit word).map fun s => (s, rest)

end

end AccountRegistry.Toml
