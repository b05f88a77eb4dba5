/-
Quoted text, as error messages show it: between double quotes, on one line, with
nothing in it that cannot be seen.

* **quoted** — the quoted form of a text;
* **quotedByte** — the same for one byte between single quotes.
-/
import AccountRegistry.Text.Unprintable
import AccountRegistry.Text.Extender

namespace AccountRegistry.Text

/-- The lower-case hexadecimal digits of `n`, without leading zeros. -/
def hexNumeral (n : Nat) : List Char :=
  Nat.toDigits 16 n

/-- Whether `c` can be shown as it is: it has a visible form and stands alone. -/
def isVisible (c : Char) : Bool :=
  if c.toNat < 0x7F then 0x20 ≤ c.toNat
  else !graphemeExtenders.has c && !unprintable.has c

/-- The escape of a character by its code point. -/
def codePointEscape (c : Char) : List Char :=
  ['\\', 'u', '{'] ++ hexNumeral c.toNat ++ ['}']

/-- A character as it stands between the quotes `quote`. -/
def quotedChar (quote : Char) (c : Char) : List Char :=
  if c = quote then ['\\', c]
  else if c = '\\' then ['\\', '\\']
  else if c = '\x00' then ['\\', '0']
  else if c = '\t' then ['\\', 't']
  else if c = '\r' then ['\\', 'r']
  else if c = '\n' then ['\\', 'n']
  else if isVisible c then [c]
  else codePointEscape c

/-- A text between double quotes. -/
def quoted (s : String) : String :=
  .ofList ('"' :: (s.toList.flatMap (quotedChar '"')) ++ ['"'])

/-- A byte between single quotes, taken as the character of that code point. -/
def quotedByte (b : UInt8) : String :=
  .ofList ('\'' :: quotedChar '\'' (Char.ofNat b.toNat) ++ ['\''])

end AccountRegistry.Text
