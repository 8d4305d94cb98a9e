/-!
# The usage of the program

The arguments that the program and its commands take, how its usage is shown, and the help on them.
-/

namespace StatementLens.Command

/-- What may stand on the command line besides the names of commands. -/
inductive Argument where
  /-- The Java file to look at. -/
  | file
  /-- The workspace folder of the file. -/
  | workspace
  /-- Lenses are written as JSON. -/
  | json
  | help
  | version
  deriving DecidableEq, Repr

namespace Argument

/-- The name of an option. -/
def name? : Argument → Option String
  | .file => none
  | .workspace => some "workspace"
  | .json => some "json"
  | .help => some "help"
  | .version => some "version"

/-- The letter of an option. -/
def letter? : Argument → Option Char
  | .workspace => some 'w'
  | .help => some 'h'
  | .version => some 'V'
  | _ => none

/-- Whether an argument has a value. -/
def takesValue : Argument → Bool
  | .file => true
  | .workspace => true
  | _ => false

/-- An argument as it is shown. -/
def shown : Argument → String
  | .file => "<FILE>"
  | .workspace => "--workspace <DIR>"
  | .json => "--json"
  | .help => "--help"
  | .version => "--version"

/-- Whether an argument is one of the options that are shown together. -/
def isOption : Argument → Bool
  | .workspace => true
  | .json => true
  | _ => false

end Argument

/-- The program and its commands, each of which has a usage of its own. -/
inductive Topic where
  | program
  | lsp
  | lens
  | help
  deriving DecidableEq, Repr

namespace Topic

/-- The commands of a topic by their names. -/
def commands : Topic → List (String × Topic)
  | .program => [("lsp", .lsp), ("lens", .lens), ("help", .help)]
  | _ => []

/-- The arguments of a topic. -/
def arguments : Topic → List Argument
  | .program => [.help, .version]
  | .lsp => [.help]
  | .lens => [.file, .workspace, .json, .help]
  | .help => []

/-- The names of the options of a topic. -/
def optionNames (t : Topic) : List String := t.arguments.filterMap Argument.name?

/-- The option of a topic with a name. -/
def named? (t : Topic) (name : String) : Option Argument :=
  t.arguments.find? fun a => a.name? = some name

/-- The option of a topic with a letter. -/
def lettered? (t : Topic) (letter : Char) : Option Argument :=
  t.arguments.find? fun a => a.letter? = some letter

/-- Whether a file may be given. -/
def takesFile (t : Topic) : Bool := t.arguments.contains .file

/-- What the user calls. -/
def title : Topic → String
  | .program => "mapperlens"
  | .lsp => "mapperlens lsp"
  | .lens => "mapperlens lens"
  | .help => "mapperlens help"

/-- What stands behind the arguments of a topic. -/
def ending : Topic → String
  | .program => " <COMMAND>"
  | .help => " [COMMAND]..."
  | _ => ""

/-- The usage of a topic, with the given options spelled out, or else with all of them in short. -/
def usage (t : Topic) (given : List Argument) : String :=
  let options :=
    if given.isEmpty then (if t.arguments.any Argument.isOption then " [OPTIONS]" else "")
    else
      let spelled := (given.filter (· ≠ .file)).eraseDups
      String.join (spelled.map fun a => " " ++ a.shown)
  let file := if t.takesFile then " " ++ Argument.file.shown else ""
  "Usage: " ++ t.title ++ options ++ file ++ t.ending

/-- The end of messages about a wrong usage: where help can be found, if anywhere. -/
def hint (t : Topic) : String :=
  if t.arguments.contains .help then "\n\nFor more information, try '--help'.\n" else "\n"

/-- The list of commands. -/
def commandList : String :=
  "Commands:\n"
    ++ "  lsp   Start the Language Server Protocol (LSP) server on stdio\n"
    ++ "  lens  Print the code lenses of a Java mapper file\n"
    ++ "  help  Print this message or the help of the given subcommand(s)\n"

/-- The help on a topic in short. -/
def shortHelp (t : Topic) : String :=
  match t with
  | .program =>
    "Code lenses linking MyBatis mapper interfaces to their XML statements\n\n"
      ++ t.usage [] ++ "\n\n"
      ++ commandList ++ "\n"
      ++ "Options:\n"
      ++ "  -h, --help     Print help (see more with '--help')\n"
      ++ "  -V, --version  Print version\n"
  | .lsp =>
    "Start the Language Server Protocol (LSP) server on stdio\n\n" ++ t.usage [] ++ "\n\n"
      ++ "Options:\n"
      ++ "  -h, --help  Print help\n"
  | .lens =>
    "Print the code lenses of a Java mapper file\n\n" ++ t.usage [] ++ "\n\n"
      ++ "Arguments:\n"
      ++ "  <FILE>  Java mapper interface to inspect\n\n"
      ++ "Options:\n"
      ++ "  -w, --workspace <DIR>  Workspace folder the file belongs to. Defaults to the current "
      ++ "directory\n"
      ++ "      --json             Print the lenses as JSON\n"
      ++ "  -h, --help             Print help (see more with '--help')\n"
  | .help =>
    "Print this message or the help of the given subcommand(s)\n\n" ++ t.usage [] ++ "\n\n"
      ++ "Arguments:\n"
      ++ "  [COMMAND]...  Print help for the subcommand(s)\n"

/-- The help on a topic at length, where there is more to say. -/
def longHelp (t : Topic) : String :=
  match t with
  | .program =>
    "mapperlens matches the methods of Java MyBatis mapper interfaces to the "
      ++ "<select|insert|update|delete|sql> statements of their mapper XML, offering to jump to an "
      ++ "existing statement or to create a missing one.\n\n" ++ t.usage [] ++ "\n\n"
      ++ commandList ++ "\n"
      ++ "Options:\n"
      ++ "  -h, --help\n"
      ++ "          Print help (see a summary with '-h')\n\n"
      ++ "  -V, --version\n"
      ++ "          Print version\n"
  | .lens =>
    "Computes the lenses an editor would show for FILE: one per mapper method, either navigating to "
      ++ "its XML statement or generating one.\n\n" ++ t.usage [] ++ "\n\n"
      ++ "Arguments:\n"
      ++ "  <FILE>\n"
      ++ "          Java mapper interface to inspect\n\n"
      ++ "Options:\n"
      ++ "  -w, --workspace <DIR>\n"
      ++ "          Workspace folder the file belongs to. Defaults to the current directory\n\n"
      ++ "      --json\n"
      ++ "          Print the lenses as JSON\n\n"
      ++ "  -h, --help\n"
      ++ "          Print help (see a summary with '-h')\n"
  | _ => t.shortHelp

end Topic

/-- The name and version of the program. -/
def versionText : String := "mapperlens 0.1.0\n"

end StatementLens.Command
