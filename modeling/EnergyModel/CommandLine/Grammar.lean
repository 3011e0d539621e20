/-!
# Command-line grammars

A command has parameters and may have subcommands. A parameter is a positional argument, an
option that takes a value (`--name NAME`, `-n NAME`), or a flag that takes none. Values are
checked against their kind when they are read: any text, a non-empty path, an unsigned 64-bit
count, a float, or one of a fixed set of choices.

Every command also understands `-h`/`--help`; the top command also understands `-V`/`--version`,
and a command with subcommands gets a `help` subcommand that shows the help of the subcommand it
names. `Command.params` and `Command.commands` add these to what a command declares.

A command with required subcommands shows its help, as an error, when it is given nothing.
-/

namespace EnergyModel.CommandLine

/-- A value a choice parameter accepts, with what it means. -/
structure Choice where
  name : String
  help : String
  deriving Inhabited, BEq

/-- What the values of a parameter must be. -/
inductive ValueKind where
  /-- Any text. -/
  | text
  /-- A path: any text but the empty one. -/
  | path
  /-- An unsigned 64-bit number in decimal. -/
  | count
  /-- A floating-point number. -/
  | number
  /-- One of the choices, by name. -/
  | choice (options : List Choice)
  deriving Inhabited, BEq

/-- What a parameter does when it is met. -/
inductive Action where
  /-- Stores the value (or the values, for a positional that takes many). -/
  | store
  /-- Marks a flag as given. -/
  | flag
  /-- Shows the help. -/
  | help
  /-- Shows the version. -/
  | version
  deriving Inhabited, BEq

/-- A parameter of a command. A parameter with neither a short nor a long name is positional. -/
structure Param where
  /-- The name the program knows the parameter by. -/
  id : String
  help : String
  /-- The name of the value in usage texts. -/
  valueName : String := ""
  short : Option Char := none
  long : Option String := none
  kind : ValueKind := .text
  action : Action := .store
  required : Bool := false
  /-- A positional that takes every remaining value. -/
  many : Bool := false
  default : Option String := none
  hidden : Bool := false
  /-- Parameters that may not be given with this one. -/
  conflicts : List String := []
  deriving Inhabited

/-- Whether a parameter is positional. -/
def Param.isPositional (p : Param) : Bool := p.short.isNone && p.long.isNone

/-- Whether a parameter takes a value. -/
def Param.takesValue (p : Param) : Bool := p.action == .store

/-- The choices of a parameter, if it has any. -/
def Param.choices (p : Param) : List Choice :=
  match p.kind with
  | .choice options => options
  | _ => []

/-- A command: what it does, its parameters and its subcommands. -/
structure Command where
  name : String
  about : String
  params : List Param := []
  subcommands : List Command := []
  /-- A subcommand must be given. -/
  subcommandRequired : Bool := false
  /-- The version text, for the top command. -/
  version : Option String := none
  /-- The built-in help subcommand, which takes no help flag of its own. -/
  isHelpCommand : Bool := false
  deriving Inhabited

/-- The help flag. -/
def helpParam : Param :=
  { id := "help", help := "Print help", short := some 'h', long := some "help", action := .help }

/-- The version flag. -/
def versionParam : Param :=
  { id := "version", help := "Print version", short := some 'V', long := some "version"
    action := .version }

/-- The help subcommand of a command with subcommands. -/
def helpCommand : Command :=
  { name := "help", about := "Print this message or the help of the given subcommand(s)"
    params := [{ id := "subcommand", help := "Print help for the subcommand(s)"
                 valueName := "COMMAND", many := true }]
    isHelpCommand := true }

/-- The parameters of a command, with the help flag and, for a command with a version, the
version flag added last. -/
def Command.allParams (c : Command) : List Param :=
  if c.isHelpCommand then c.params
  else c.params ++ [helpParam] ++ (if c.version.isSome then [versionParam] else [])

/-- The subcommands of a command, with the help subcommand added last when there are any. -/
def Command.commands (c : Command) : List Command :=
  if c.subcommands.isEmpty then [] else c.subcommands ++ [helpCommand]

/-- The positional parameters, in order. -/
def Command.positionals (c : Command) : List Param := c.allParams.filter (·.isPositional)

/-- The parameters with a name, in order. -/
def Command.options (c : Command) : List Param := c.allParams.filter (!·.isPositional)

/-- The parameter of an id. -/
def Command.param? (c : Command) (id : String) : Option Param := c.allParams.find? (·.id == id)

/-- The option of a long name. -/
def Command.long? (c : Command) (name : String) : Option Param :=
  c.options.find? (·.long == some name)

/-- The option of a short name. -/
def Command.short? (c : Command) (ch : Char) : Option Param :=
  c.options.find? (·.short == some ch)

/-- The subcommand of a name, the help subcommand included. -/
def Command.subcommand? (c : Command) (name : String) : Option Command :=
  c.commands.find? (·.name == name)

/-- The ids of the required parameters, in order. -/
def Command.requiredIds (c : Command) : List String :=
  (c.allParams.filter (·.required)).map (·.id)

/-- Whether a parameter's id is one of two that may not be given together. -/
def Command.conflict (c : Command) (a b : String) : Bool :=
  a != b &&
  (((c.param? a).map (·.conflicts.contains b)).getD false ||
   ((c.param? b).map (·.conflicts.contains a)).getD false)

end EnergyModel.CommandLine
