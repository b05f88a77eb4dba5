/-
Settings in environment variables.

A variable whose name begins with `USERDB__`, in letters of either case, sets the key that
follows; two underscores in it separate the parts of a path.

* **Environment** — the variables of a program;
* **environmentSettings** — the keys and values that they set;
* **parsedValue** — the value that a text denotes: a truth value, a number or a text.
-/
import AccountRegistry.Settings.Tree
import AccountRegistry.Text.Casing
import AccountRegistry.Text.Search
import AccountRegistry.Date

namespace AccountRegistry

/-- The variables of a program by name. -/
abbrev Environment := List (String × String)

/-- What the names of the variables begin with, in lower case. -/
def variablePrefix : String := "userdb__"

/-- The source that messages name. -/
def environmentOrigin : String := "the environment"

/-- The text with every two underscores replaced by a point. -/
def dotted : List Char → List Char
  | '_' :: '_' :: cs => '.' :: dotted cs
  | c :: cs => c :: dotted cs
  | [] => []

/-- The sign at the head of a number. -/
def signAndRest : List Char → Bool × List Char
  | '-' :: cs => (true, cs)
  | '+' :: cs => (false, cs)
  | cs => (false, cs)

/-- The integer that a text denotes, if it has 64 bits. -/
def integerText (s : String) : Option Int :=
  let (negative, ds) := signAndRest s.toList
  let n : Int := Date.digitsValue ds
  let n := if negative then -n else n
  if !ds.isEmpty && ds.all Char.isDigit && fits64 n then some n else none

/-- The exponent of a number; a text without one has the exponent zero. -/
def exponentText : List Char → Option Int
  | [] => some 0
  | c :: cs =>
    if c = 'e' ∨ c = 'E' then
      let (negative, ds) := signAndRest cs
      if ds.isEmpty || !ds.all Char.isDigit then none
      else some (if negative then -(Date.digitsValue ds : Int) else Date.digitsValue ds)
    else none

/-- The double that a text denotes: digits with or without a point and an exponent, or a
word for infinity or for what is not a number. -/
def realText (s : String) : Option Binary64 :=
  let (negative, cs) := signAndRest s.toList
  let word : String := .ofList (cs.map Char.toLower)
  if word = "inf" ∨ word = "infinity" then some (.infinity negative)
  else if word = "nan" then some .nan
  else
    let whole := cs.takeWhile Char.isDigit
    let rest := cs.dropWhile Char.isDigit
    let (places, rest) := match rest with
      | '.' :: rest => (rest.takeWhile Char.isDigit, rest.dropWhile Char.isDigit)
      | _ => ([], rest)
    if whole.isEmpty && places.isEmpty then none
    else (exponentText rest).map fun e =>
      .ofDecimal negative (Date.digitsValue (whole ++ places)) (e - places.length)

/-- The value that a text denotes. -/
def parsedValue (s : String) : Scalar :=
  match Text.lowercase s with
  | "true" => .bool true
  | "false" => .bool false
  | _ =>
    match integerText s with
    | some n => .integer n
    | none =>
      match realText s with
      | some x => .real x
      | none => .text s

/-- The key that a variable sets, if it sets one. -/
def variableKey (name : String) : Option String :=
  let cs := (Text.lowercase name).toList
  let front := variablePrefix.toList
  if front.isPrefixOf cs then some (.ofList (dotted (cs.drop front.length))) else none

/-- The keys and values that some variables set. -/
def environmentSettings (env : Environment) : List (String × Tree) :=
  env.filterMap fun (name, value) =>
    (variableKey name).map fun key =>
      (key, .scalar (some environmentOrigin) (parsedValue value))

end AccountRegistry
