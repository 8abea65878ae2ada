import Cellwise.CommandLine.Request

/-!
# Options of the command line

Options belong to a scope: the main program or one of its commands. Some belong to all of them and
may stand in front of the command or behind it.
-/

namespace Cellwise

/-- Why a command line is not carried out. -/
inductive UsageError where
  /-- It asks for help. -/
  | help
  /-- It asks for the version. -/
  | version
  /-- It is empty, which is answered with help. -/
  | nothingAsked
  | missingCommand
  | missingArgument
  | unknownCommand
  | unknownArgument
  | invalidValue
  /-- An option that takes no value has one. -/
  | needlessValue
  /-- An option is given twice. -/
  | conflict
  deriving DecidableEq, Repr

namespace UsageError

/-- The exit code: asking for help or for the version is no failure. -/
def exitCode : UsageError → Nat
  | help => 0
  | version => 0
  | _ => 2

/-- The wording of an error, as a line of its own. -/
def message : UsageError → String
  | help => ""
  | version => ""
  | nothingAsked => ""
  | missingCommand => "error: a command is missing\n"
  | missingArgument => "error: an argument is missing\n"
  | unknownCommand => "error: there is no such command\n"
  | unknownArgument => "error: there is no such argument\n"
  | invalidValue => "error: an option has no value or a wrong one\n"
  | needlessValue => "error: an option has a value that it does not take\n"
  | conflict => "error: an option is given twice\n"

end UsageError

/-- How the program is used. -/
def usageText : String :=
  "Usage: typeconv [OPTIONS] <COMMAND>\n\n" ++
    "Commands:\n" ++
    "  encode --firstname <FIRSTNAME> --lastname <LASTNAME>\n" ++
    "  decode <STORED>\n" ++
    "  demo [--id <ID>]\n\n" ++
    "Options:\n" ++
    "  -c, --config <CONFIG>\n" ++
    "  -v, --verbose\n" ++
    "      --format <text|json>\n" ++
    "  -h, --help\n" ++
    "  -V, --version\n"

/-- The name and version of the program, as it shows them. -/
def versionText : String := "typeconv 0.1.0\n"

/-- The options. -/
inductive OptionName where
  | config
  | verbose
  | format
  | help
  | version
  | firstname
  | lastname
  | id
  deriving DecidableEq, Repr

namespace OptionName

/-- The long name, without the dashes. -/
def long : OptionName → String
  | config => "config"
  | verbose => "verbose"
  | format => "format"
  | help => "help"
  | version => "version"
  | firstname => "firstname"
  | lastname => "lastname"
  | id => "id"

/-- The letter that stands for the option. -/
def short : OptionName → Option Char
  | config => some 'c'
  | verbose => some 'v'
  | help => some 'h'
  | version => some 'V'
  | _ => none

/-- Does the option take a value? -/
def takesValue : OptionName → Bool
  | verbose => false
  | help => false
  | version => false
  | _ => true

/-- May the option have this value? -/
def accepts : OptionName → String → Bool
  | config, value => !value.isEmpty
  | format, value => (OutputFormat.ofName? value).isSome
  | _, _ => true

end OptionName

/-- The places that options belong to. -/
inductive Scope where
  | main
  | encode
  | decode
  | demo
  deriving DecidableEq, Repr

namespace Scope

/-- The options of a scope. -/
def options : Scope → List OptionName
  | main => [.config, .verbose, .format, .help, .version]
  | encode => [.firstname, .lastname, .config, .verbose, .format, .help]
  | decode => [.config, .verbose, .format, .help]
  | demo => [.id, .config, .verbose, .format, .help]

/-- The number of values that stand without an option. -/
def positionals : Scope → Nat
  | decode => 1
  | _ => 0

/-- The options that a scope cannot do without. -/
def required : Scope → List OptionName
  | encode => [.firstname, .lastname]
  | _ => []

/-- The option of a long name. -/
def findLong (scope : Scope) (name : String) : Option OptionName :=
  scope.options.find? fun option => option.long = name

/-- The option of a letter. -/
def findShort (scope : Scope) (letter : Char) : Option OptionName :=
  scope.options.find? fun option => option.short = some letter

/-- The commands under their names. -/
def commands : List (String × Scope) := [("encode", encode), ("decode", decode), ("demo", demo)]

/-- The name of the command that shows help. -/
def helpCommand : String := "help"

/-- Is it the name of a command? -/
def isCommand (name : String) : Bool := (commands.lookup name).isSome || name = helpCommand

end Scope

end Cellwise
