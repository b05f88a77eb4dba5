/-
Why a text is not JSON.

* **Json.Ending** — what was being read when the text ended;
* **Json.Mistake** — the first character that is out of place, by its reason;
* **Json.Fault** — either of the two, with its wording.
-/

namespace AccountRegistry.Json

/-- What was being read when the text ended. -/
inductive Ending where
  | value | list | object | text
  deriving DecidableEq

/-- Why a character is out of place. -/
inductive Mistake where
  | colonExpected
  | listEndExpected
  | objectEndExpected
  | wordExpected
  | valueExpected
  | badEscape
  | badNumber
  | numberRange
  | controlCharacter
  | keyNotText
  | loneSurrogate
  | trailingComma
  | trailingCharacters
  | unfinishedEscape
  | tooDeep
  deriving DecidableEq

/-- The first fault of a text. -/
inductive Fault where
  | ended (e : Ending)
  | mistake (m : Mistake)
  deriving DecidableEq

/-- The wording of an early end. -/
def Ending.message : Ending → String
  | .value => "EOF while parsing a value"
  | .list => "EOF while parsing a list"
  | .object => "EOF while parsing an object"
  | .text => "EOF while parsing a string"

/-- The wording of a mistake. -/
def Mistake.message : Mistake → String
  | .colonExpected => "expected \x60:\x60"
  | .listEndExpected => "expected \x60,\x60 or \x60]\x60"
  | .objectEndExpected => "expected \x60,\x60 or \x60\x7d\x60"
  | .wordExpected => "expected ident"
  | .valueExpected => "expected value"
  | .badEscape => "invalid escape"
  | .badNumber => "invalid number"
  | .numberRange => "number out of range"
  | .controlCharacter => "control character (\\u0000-\\u001F) found while parsing a string"
  | .keyNotText => "key must be a string"
  | .loneSurrogate => "lone leading surrogate in hex escape"
  | .trailingComma => "trailing comma"
  | .trailingCharacters => "trailing characters"
  | .unfinishedEscape => "unexpected end of hex escape"
  | .tooDeep => "recursion limit exceeded"

/-- The wording of a fault. -/
def Fault.message : Fault → String
  | .ended e => e.message
  | .mistake m => m.message

end AccountRegistry.Json
