/-
What the program says about its arguments.

* **usage** — the help;
* **ArgumentFault.text** — why arguments are not accepted.
-/
import AccountRegistry.CommandLine.Arguments

namespace AccountRegistry

/-- The help. -/
def usage : String :=
  "\n".intercalate
    ["Usage: userdb [OPTIONS] <COMMAND>",
      "",
      "Commands:",
      "  generate-account-id    Print an account id that is not in use",
      "  get-user <USERNAME>    Print the user of this name",
      "  add-user               Add the user that the input describes",
      "  register               Give the profile in the input an account id and add it",
      "  help                   Print this help",
      "",
      "Options:",
      "  --settings <PATH>      The settings file (settings/dev.toml)",
      "  --database-url <URL>   The database, in place of the one in the settings",
      "  --file <PATH>          After add-user or register: read this file, not the input",
      "  -h, --help             Print this help"]

/-- Why arguments are not accepted. -/
def ArgumentFault.text : ArgumentFault → String
  | .help => usage
  | .nothingGiven => usage
  | .unknownArgument => "error: there is an argument that is not expected"
  | .unknownCommand => "error: there is no such command"
  | .missingArgument => "error: an argument is missing"
  | .missingCommand => "error: a command is missing"
  | .badValue => "error: the value of an option is missing or empty"
  | .repeated => "error: an option is given twice"
  | .tooManyValues => "error: an option takes no value"

end AccountRegistry
