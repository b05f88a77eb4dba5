/-
The text in which a database is kept in a file.

* **SqliteDatabase.snapshot** — the text of a database;
* **SqliteDatabase.ofSnapshot** — the database that such a text holds.

A snapshot is a line that marks the file, and then JSON: null if there is no table, or else
the list of the rows, each the list of its cells in the order of the columns.
-/
import AccountRegistry.Json.Printer
import AccountRegistry.Json.Reader
import AccountRegistry.Store.Sqlite.Database

namespace AccountRegistry

/-- A cell as a JSON value. A text stands for itself; of a number only the kind is kept. -/
def Cell.json : Cell → Json.Value
  | .null => .null
  | .text s => .text s
  | .blob bs => .object [("blob", .text (.ofList (Text.Hex.encode bs)))]
  | .integer => .object [("number", .text "integer")]
  | .real => .object [("number", .text "real")]
  | .date y m d => .list [.ofNat y, .ofNat m, .ofNat d]

/-- The cell that a JSON value stands for. -/
def Cell.ofJson : Json.Value → Option Cell
  | .null => some .null
  | .text s => some (.text s)
  | .object [("blob", .text s)] => (Text.Hex.decode s).toOption.map .blob
  | .object [("number", .text "integer")] => some .integer
  | .object [("number", .text "real")] => some .real
  | .list [.number (.natural y), .number (.natural m), .number (.natural d)] => some (.date y m d)
  | _ => none

/-- A row as the list of its cells. -/
def Row.json (r : Row) : Json.Value :=
  .list (Field.all.map fun f => (r f).json)

/-- The row whose cells are the given ones. -/
def Row.ofJson : Json.Value → Option Row
  | .list vs => do
    let cells ← vs.mapM Cell.ofJson
    if cells.length = Field.all.length then
      some fun f => cells.getD (Field.all.idxOf f) .null
    else none
  | _ => none

namespace SqliteDatabase

/-- The line that marks a file with a database. -/
def mark : String := "account registry, format 1\n"

/-- A database as a JSON value. -/
def json : SqliteDatabase → Json.Value
  | ⟨none⟩ => .null
  | ⟨some rs⟩ => .list (rs.map Row.json)

/-- The database that a JSON value stands for. -/
def ofJson : Json.Value → Option SqliteDatabase
  | .null => some .empty
  | .list vs => (vs.mapM Row.ofJson).map fun rs => ⟨some rs⟩
  | _ => none

/-- The text of a database. -/
def snapshot (db : SqliteDatabase) : String :=
  mark ++ db.json.compact ++ "\n"

/-- The database that a text holds, if it is marked as one. -/
def ofSnapshot (s : String) : Option SqliteDatabase :=
  if mark.toList.isPrefixOf s.toList then
    match Json.parse (.ofList (s.toList.drop mark.length)) with
    | .ok v => ofJson v
    | .error _ => none
  else none

end SqliteDatabase

end AccountRegistry
