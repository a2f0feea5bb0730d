import TreeShapes.CommandLine.Arguments
import TreeShapes.Text.Visible

namespace TreeShapes
namespace CommandLine

/-!
# Pages of help and usage errors

The fixed texts of the program.
-/

/-- What the program does, in one line. -/
def description : String :=
  "Parse structural type expressions and binary-tree literals"

def Page.lines : Page -> List String
  | program =>
      [description,
        "",
        "Usage: treetype <COMMAND>",
        "",
        "Commands:",
        "  type  Parse a type expression and print its AST",
        "  tree  Parse a binary-tree literal and print it",
        "  help  Print this message or the help of the given subcommand(s)",
        "",
        "Options:",
        "  -h, --help     Print help",
        "  -V, --version  Print version"]
  | type =>
      ["Parse a type expression and print its AST",
        "",
        "Usage: treetype type [OPTIONS] [TOKENS]...",
        "",
        "Arguments:",
        "  [TOKENS]...  One argument per token; no arguments parses as `any`",
        "",
        "Options:",
        "      --strict  Reject tokens left over after a complete expression",
        "  -h, --help    Print help"]
  | tree =>
      ["Parse a binary-tree literal and print it",
        "",
        "Usage: treetype tree [TOKENS]...",
        "",
        "Arguments:",
        "  [TOKENS]...  One argument per token; no arguments parses as `nil`",
        "",
        "Options:",
        "  -h, --help  Print help"]
  | help =>
      ["Print this message or the help of the given subcommand(s)",
        "",
        "Usage: treetype help [COMMAND]...",
        "",
        "Arguments:",
        "  [COMMAND]...  Print help for the subcommand(s)"]

def Page.text (page : Page) : String :=
  String.join (page.lines.map fun line => line ++ "\n")

def versionText : String :=
  "treetype 0.1.0\n"

/-- A part of the arguments in a message, without what would steer the terminal. -/
def quoted (text : String) : String :=
  "'" ++ Text.visible text ++ "'"

/-- The message of a usage error; without a command the program introduces itself. -/
def UsageError.message : UsageError -> String
  | missingCommand => description
  | unexpectedArgument argument => "error: unexpected argument " ++ quoted argument ++ " found"
  | unknownCommand word => "error: unrecognized subcommand " ++ quoted word
  | repeatedStrict => "error: the argument '--strict' cannot be used multiple times"
  | attachedValue option value =>
      "error: unexpected value " ++ quoted value ++ " for " ++ quoted option ++
        " found; no more were expected"

end CommandLine
end TreeShapes
