import TypedTemplate.Command.Arguments

/-! Help pages. -/
namespace TypedTemplate.Command

def usageLine (program : String) : Option Verb → String
  | none => "Usage: " ++ program ++ " [OPTIONS] COMMAND [ARGS]..."
  | some v => "Usage: " ++ program ++ " " ++ v.name ++ " [OPTIONS]"

def commandPath (program : String) : Option Verb → String
  | none => program
  | some v => program ++ " " ++ v.name

def mainHelp : List String := [
  "  Type checking for Jinja2 templates",
  "",
  "Options:",
  "  -v, --version  Show version and exit.",
  "  --help         Show this message and exit.",
  "",
  "Commands:",
  "  check  Check templates for type errors and linting issues.",
  "  init   Initialize a new typja.toml configuration file",
  "  watch  Watch type paths and templates directories for changes and auto..."]

def checkHelp : List String := [
  "  Check templates for type errors and linting issues.",
  "",
  "  This command analyzes your Jinja2 templates and validates: - Type",
  "  annotations in typja comments - Variable usage matches declared types -",
  "  Attribute access on typed variables - Import statements reference valid",
  "  types if any",
  "",
  "  Examples:",
  "",
  "      # Check templates in current project     typja check",
  "",
  "      # Check with auto-fix enabled     typja check --fix",
  "",
  "      # Check in strict mode     typja check --strict",
  "",
  "Options:",
  "  -r, --root TEXT  Root directory of the project.  [default: .]",
  "  -f, --fix        Automatically fix issues where possible.",
  "  -s, --strict     Enable strict mode (treat warnings as errors).",
  "  --help           Show this message and exit."]

def initHelp : List String := [
  "  Initialize a new typja.toml configuration file",
  "",
  "  This command creates a new typja.toml file in the specified directory with",
  "  sensible defaults. You can then customize it for your project.",
  "",
  "  Examples:",
  "",
  "      # Create typja.toml in current directory     typja init",
  "",
  "      # Create typja.toml in a specific directory     typja init --root ./my-",
  "      project",
  "",
  "      # Overwrite existing typja.toml     typja init --force",
  "",
  "Options:",
  "  -r, --root TEXT  Root directory for the project (where typja.toml will be",
  "                   created).  [default: .]",
  "  -f, --force      Overwrite existing typja.toml file.",
  "  --help           Show this message and exit."]

def watchHelp : List String := [
  "  Watch type paths and templates directories for changes and auto checks them",
  "  for type errors and linting issues.",
  "",
  "  This command watches your template files and automatically runs type",
  "  checking whenever files are modified.",
  "",
  "  Examples:",
  "",
  "      # Watch from current directory (looks for typja.toml here)     typja",
  "      watch",
  "",
  "      # Watch from specific project root     typja watch --root ./my-project/",
  "",
  "Options:",
  "  -r, --root TEXT  Root directory of the project. Defaults to current",
  "                   directory.  [default: .]",
  "  --help           Show this message and exit."]

def helpLines : Option Verb → List String
  | none => mainHelp
  | some .check => checkHelp
  | some .init => initHelp
  | some .watch => watchHelp

def helpPage (program : String) (verb : Option Verb) : String :=
  String.join (((usageLine program verb :: "" :: helpLines verb)).map (· ++ "\n"))

/-- A usage error as it is shown to the user. -/
def UsageError.page (program : String) (e : UsageError) : String :=
  let usage :=
    if e.cause.showsUsage then
      usageLine program e.verb ++ "\nTry '" ++ commandPath program e.verb ++
        " --help' for help.\n\n"
    else ""
  usage ++ "Error: " ++ e.cause.message ++ "\n"

end TypedTemplate.Command
