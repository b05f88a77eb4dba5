/-
Percent-encoded texts, as they stand in URIs.

* **Percent.decodeBytes** — the bytes that a text denotes; a percent sign that is not
  followed by two digits stands for itself;
* **Percent.decode** — the text, if the bytes are UTF-8;
* **Percent.formPairs** — the names and values of a query.
-/
import AccountRegistry.Text.Hex
import AccountRegistry.Text.Search

namespace AccountRegistry.Text.Percent

/-- The bytes after percent decoding. -/
def decodeBytes : List UInt8 → List UInt8
  | [] => []
  | 37 :: a :: b :: rest =>
    match Hex.value a, Hex.value b with
    | some x, some y => UInt8.ofNat (16 * x + y) :: decodeBytes rest
    | _, _ => 37 :: decodeBytes (a :: b :: rest)
  | c :: rest => c :: decodeBytes rest
termination_by bs => bs.length

/-- The text that a percent-encoded text denotes. -/
def decode (s : List Char) : Except Utf8.Fault String :=
  (Utf8.decode (decodeBytes (Utf8.encode s))).map .ofList

/-- A name or a value of a query: a plus sign stands for a space, and bytes that are not
UTF-8 are replaced. -/
def formText (s : List Char) : String :=
  let spaced := s.map fun c => if c = '+' then ' ' else c
  .ofList (Utf8.decodeLossy (decodeBytes (Utf8.encode spaced)))

/-- The name and the value of one part of a query. -/
def formPair (s : List Char) : String × String :=
  match splitOnce '=' s with
  | some (name, value) => (formText name, formText value)
  | none => (formText s, "")

/-- The names and values of a query, empty parts left out. -/
def formPairs (s : List Char) : List (String × String) :=
  ((splitOn '&' s).filter (!·.isEmpty)).map formPair

end AccountRegistry.Text.Percent
