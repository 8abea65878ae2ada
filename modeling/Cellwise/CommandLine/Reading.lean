import Cellwise.CommandLine.Options

/-!
# Reading the command line

The arguments are read from left to right. An option waits for its value, if it takes one, and is
settled when the next option comes or the arguments end: only then it is found out whether the value
is missing, whether the option was given before, and whether the value is good. A command is read to
its end before the last option in front of it is settled.

* `Request.ofArguments` reads a command line.
-/

namespace Cellwise

/-- What the arguments of a scope have given so far. -/
structure Given where
  /-- The options that are settled, with their values. -/
  settled : List (OptionName × String) := []
  /-- The option that is not settled yet, with its value if it has come. -/
  pending : Option (OptionName × Option String) := none
  positionals : List String := []
  /-- Has a double dash been met? Everything behind it is a value. -/
  literal : Bool := false

namespace Given

/-- Is there an option that waits for its value? -/
def isWaiting (given : Given) : Bool :=
  match given.pending with
  | some (_, none) => true
  | _ => false

/-- The value of an option. -/
def value? (given : Given) (option : OptionName) : Option String := given.settled.lookup option

/-- Settles an option with the value that it came with. -/
def settle (given : Given) (option : OptionName) (value : Option String) :
    Except UsageError Given :=
  if option = .help then .error .help
  else if option = .version then .error .version
  else if option.takesValue && value.isNone then .error .invalidValue
  else if (given.value? option).isSome then .error .conflict
  else
    let value := value.getD ""
    if option.accepts value then .ok { given with settled := given.settled ++ [(option, value)] }
    else .error .invalidValue

/-- Settles the option that is not settled yet. -/
def settlePending (given : Given) : Except UsageError Given :=
  match given.pending with
  | none => .ok given
  | some (option, value) => { given with pending := none }.settle option value

/-- Takes an option with the value that is attached to it, if there is one. -/
def takeOption (given : Given) (option : OptionName) (attached : Option String) :
    Except UsageError Given :=
  if option.takesValue then do
    let given ← given.settlePending
    match attached with
    | some value => given.settle option (some value)
    | none => pure { given with pending := some (option, none) }
  else if attached.isSome then .error .needlessValue
  else do
    let given ← given.settlePending
    given.settle option none

/-- Takes a long option, given without its dashes. -/
def takeLong (scope : Scope) (given : Given) (body : List Char) : Except UsageError Given :=
  let name := body.takeWhile (· ≠ '=')
  let attached := match body.dropWhile (· ≠ '=') with
    | [] => none
    | _ :: value => some (String.ofList value)
  match scope.findLong (String.ofList name) with
  | none => .error .unknownArgument
  | some option => given.takeOption option attached

/-- Takes letters that stand for options. What follows the letter of an option with a value is its
value, perhaps behind an equals sign. -/
def takeShorts (scope : Scope) : Given → List Char → Except UsageError Given
  | given, [] => .ok given
  | given, letter :: rest =>
    match scope.findShort letter with
    | none => .error .unknownArgument
    | some option =>
      if option.takesValue then
        let attached := match rest with
          | [] => none
          | '=' :: value => some (String.ofList value)
          | value => some (String.ofList value)
        given.takeOption option attached
      else do
        let given ← given.takeOption option none
        takeShorts scope given rest

/-- Takes a value that stands without an option. -/
def takePositional (scope : Scope) (given : Given) (value : String) : Except UsageError Given :=
  if given.positionals.length < scope.positionals then do
    let given ← given.settlePending
    pure { given with positionals := given.positionals ++ [value] }
  else if scope = .main && !(given.literal && Scope.isCommand value) then
    .error .unknownCommand
  else .error .unknownArgument

/-- Takes one argument. A single dash is a value. -/
def take (scope : Scope) (given : Given) (argument : String) : Except UsageError Given :=
  if given.literal then given.takePositional scope argument
  else
    match argument.toList with
    | ['-', '-'] => .ok { given with literal := true }
    | '-' :: '-' :: body => given.takeLong scope body
    | '-' :: letter :: rest => given.takeShorts scope (letter :: rest)
    | _ =>
      match given.pending with
      | some (option, none) => .ok { given with pending := some (option, some argument) }
      | _ => given.takePositional scope argument

/-- Takes all arguments of a scope. -/
def takeAll (scope : Scope) : Given → List String → Except UsageError Given
  | given, [] => .ok given
  | given, argument :: arguments => do
    let given ← given.take scope argument
    takeAll scope given arguments

end Given

/-- The answer to the command that shows help, with the arguments behind it. -/
def helpAbout : List String → UsageError
  | [] => .help
  | [name] => if Scope.isCommand name then .help else .unknownCommand
  | _ => .unknownCommand

/-- Takes the arguments up to the command, and finds the command with the arguments behind it. -/
def takeUpToCommand : Given → List String →
    Except UsageError (Given × Option (Scope × List String))
  | given, [] => .ok (given, none)
  | given, argument :: arguments =>
    -- Behind an option that waits for its value the name of a command is that value.
    let mayBeCommand := !given.literal && !given.isWaiting
    if mayBeCommand && argument = Scope.helpCommand then .error (helpAbout arguments)
    else
      match if mayBeCommand then Scope.commands.lookup argument else none with
      | some scope => .ok (given, some (scope, arguments))
      | none => do
        let given ← given.take .main argument
        takeUpToCommand given arguments

/-- The command of a scope with what was given for it. -/
def Scope.command? (scope : Scope) (given : Given) : Option Command :=
  match scope with
  | .main => none
  | .encode => do
    let firstname ← given.value? .firstname
    let lastname ← given.value? .lastname
    pure (.encode firstname lastname)
  | .decode => do
    let stored ← given.positionals.head?
    pure (.decode stored)
  | .demo => some (.demo ((given.value? .id).getD "employee-id"))

/-- The value of an option that may stand in front of the command or behind it, where it counts
more. -/
def valueOf (front behind : Given) (option : OptionName) : Option String :=
  (behind.value? option).or (front.value? option)

/-- Reads a command line. -/
def Request.ofArguments (arguments : List String) : Except UsageError Request := do
  let (front, found) ← takeUpToCommand {} arguments
  match found with
  | none => do
    let front ← front.settlePending
    .error (if front.settled.isEmpty then .nothingAsked else .missingCommand)
  | some (scope, arguments) => do
    let behind ← Given.takeAll scope {} arguments
    let behind ← behind.settlePending
    -- What is wrong behind the command is found out before what is wrong in front of it.
    match scope.command? behind with
    | none => .error .missingArgument
    | some command => do
      let front ← front.settlePending
      let value := valueOf front behind
      pure
        { command
          config := value .config
          verbose := (value .verbose).isSome
          format := ((value .format).bind OutputFormat.ofName?).getD .text }

end Cellwise
