/-
JSON text.

* **Json.Value.compact** — a value on one line without spaces;
* **Json.Value.pretty** — a value with one member or item a line, two spaces deeper than
  what encloses it.

Inside a text only the quote, the backslash and the control characters are escaped.
-/
import AccountRegistry.Json.Value
import AccountRegistry.Text.Hex

namespace AccountRegistry.Json

/-- A character inside a text. -/
def escapeChar (c : Char) : List Char :=
  if c = '"' then ['\\', '"']
  else if c = '\\' then ['\\', '\\']
  else if c.toNat = 8 then ['\\', 'b']
  else if c.toNat = 12 then ['\\', 'f']
  else if c = '\n' then ['\\', 'n']
  else if c = '\r' then ['\\', 'r']
  else if c = '\t' then ['\\', 't']
  else if c.toNat < 0x20 then
    ['\\', 'u', '0', '0', Text.Hex.digit (c.toNat / 16), Text.Hex.digit (c.toNat % 16)]
  else [c]

/-- A text between quotes. -/
def quote (s : String) : List Char :=
  '"' :: s.toList.flatMap escapeChar ++ ['"']

/-- The text of a number. -/
def Number.chars : Number → List Char
  | .natural n => Nat.toDigits 10 n
  | .negative n => '-' :: Nat.toDigits 10 n
  | .real x => x.compactText.toList

mutual

/-- The characters of a value without spaces. -/
def compactValue : Value → List Char
  | .null => ['n', 'u', 'l', 'l']
  | .bool true => ['t', 'r', 'u', 'e']
  | .bool false => ['f', 'a', 'l', 's', 'e']
  | .number n => n.chars
  | .text s => quote s
  | .list [] => ['[', ']']
  | .list (v :: vs) => '[' :: compactValue v ++ compactItems vs
  | .object [] => ['{', '}']
  | .object ((k, v) :: ms) => '{' :: quote k ++ ':' :: compactValue v ++ compactMembers ms

/-- The items after the first one, and the end of the list. -/
def compactItems : List Value → List Char
  | [] => [']']
  | v :: vs => ',' :: compactValue v ++ compactItems vs

/-- The members after the first one, and the end of the object. -/
def compactMembers : Members → List Char
  | [] => ['}']
  | (k, v) :: ms => ',' :: quote k ++ ':' :: compactValue v ++ compactMembers ms

end

/-- A new line at the given depth. -/
def newline (depth : Nat) : List Char :=
  '\n' :: List.replicate (2 * depth) ' '

mutual

/-- The characters of a value, one member or item a line. -/
def prettyValue (depth : Nat) : Value → List Char
  | .list (v :: vs) =>
    '[' :: newline (depth + 1) ++ prettyValue (depth + 1) v ++ prettyItems depth vs
  | .object ((k, v) :: ms) =>
    '{' :: newline (depth + 1) ++ quote k ++ [':', ' '] ++ prettyValue (depth + 1) v ++
      prettyMembers depth ms
  | .null => ['n', 'u', 'l', 'l']
  | .bool true => ['t', 'r', 'u', 'e']
  | .bool false => ['f', 'a', 'l', 's', 'e']
  | .number n => n.chars
  | .text s => quote s
  | .list [] => ['[', ']']
  | .object [] => ['{', '}']

/-- The items after the first one, and the end of the list. -/
def prettyItems (depth : Nat) : List Value → List Char
  | [] => newline depth ++ [']']
  | v :: vs => ',' :: newline (depth + 1) ++ prettyValue (depth + 1) v ++ prettyItems depth vs

/-- The members after the first one, and the end of the object. -/
def prettyMembers (depth : Nat) : Members → List Char
  | [] => newline depth ++ ['}']
  | (k, v) :: ms =>
    ',' :: newline (depth + 1) ++ quote k ++ [':', ' '] ++ prettyValue (depth + 1) v ++
      prettyMembers depth ms

end

/-- The value on one line. -/
def Value.compact (v : Value) : String :=
  .ofList (compactValue v)

/-- The value over several lines. -/
def Value.pretty (v : Value) : String :=
  .ofList (prettyValue 0 v)

end AccountRegistry.Json
