/-
Settings files.

* **SettingsFile.locate** — the file that a path means: the path itself, or the path with
  the extension of a format added;
* **SettingsFile.read** — the settings of a file, each noting the file.

Files in TOML and in JSON are read.  The formats YAML, INI, RON and JSON5 are left out: a file with
one of their extensions counts as one of an unknown format, and a path is not completed with them.
-/
import AccountRegistry.Files
import AccountRegistry.Json.Reader
import AccountRegistry.Settings.Convert
import AccountRegistry.Toml.Reader

namespace AccountRegistry

/-- The formats of settings files. -/
inductive FileFormat where
  | toml
  | json
  deriving DecidableEq

namespace FileFormat

/-- The extension of a format. -/
def extension : FileFormat → String
  | .toml => "toml"
  | .json => "json"

/-- All formats, in the order in which their extensions are tried. -/
def all : List FileFormat := [.toml, .json]

/-- The settings that a text in the format denotes. -/
def parse (format : FileFormat) (text : String) : Option (List (String × Plain)) :=
  match format with
  | .toml => Toml.parse text
  | .json =>
    match Json.parse text with
    | .ok (.object ms) => some (Plain.ofMembers ms)
    | _ => none

end FileFormat

/-- A settings file: its place, its format and its text. -/
structure SettingsFile where
  path : String
  format : FileFormat
  text : String

namespace SettingsFile

/-- What follows the last point of a name, unless the name begins with it. -/
def extensionOf (name : String) : String :=
  match Text.splitOnce '.' name.toList.reverse with
  | some (ext, _ :: _) => .ofList ext.reverse
  | _ => ""

/-- The parts of a path without the empty ones and points that it ends in. -/
def significant (path : String) : List String :=
  ((Path.parts path).reverse.dropWhile fun p => p == "" || p == ".").reverse

/-- The path with an extension added to its last name, if it has one. -/
def withExtension (path ext : String) : Option String :=
  match (significant path).getLast? with
  | none => none
  | some last =>
    if last = ".." then none else some ("/".intercalate (significant path) ++ "." ++ ext)

/-- The text without a byte order mark. -/
def withoutMark (s : String) : String :=
  match s.toList with
  | c :: cs => if c.toNat = 0xFEFF then .ofList cs else s
  | [] => s

/-- The written form of a path, seen from the working directory. -/
def placeText (path : String) : String :=
  Path.text (Path.steps path)

/-- The file of a path that is known to hold `text`. -/
def ofText (path : String) (format : FileFormat) (text : String) : SettingsFile :=
  ⟨placeText path, format, withoutMark text⟩

/-- The file that a path means. -/
def locate (fs : Files) (path : String) : Except SettingFault SettingsFile :=
  match fs.textAt? path with
  | some text =>
    let ext := extensionOf ((significant path).getLastD "")
    match FileFormat.all.find? (·.extension == ext) with
    | some format => .ok (ofText path format text)
    | none =>
      .error (.file ("configuration file \"" ++ path ++ "\" is not of a supported file format"))
  | none =>
    let candidate := fun (format : FileFormat) => do
      let path ← withExtension path format.extension
      let text ← fs.textAt? path
      some (ofText path format text)
    match FileFormat.all.findSome? candidate with
    | some f => .ok f
    | none => .error (.file ("configuration file \"" ++ path ++ "\" not found"))

/-- The settings of a file. -/
def read (f : SettingsFile) : Except SettingFault (List (String × Tree)) :=
  match f.format.parse f.text with
  | some es => .ok (Tree.ofEntries f.path es)
  | none => .error (.malformed f.path)

end SettingsFile

end AccountRegistry
