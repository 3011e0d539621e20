import EnergyModel.CommandLine.Usage

/-!
# Help as a Markdown document

The whole command tree as one Markdown document: a title, a table of contents with one link per
command, then a section per command in tree order with its description, usage, subcommands,
arguments and options. Only what a command declares is documented: the built-in help and
version flags, the help subcommand and hidden parameters are left out. A parameter's entry gives
its names, its help, its default value and its possible values.
-/

namespace EnergyModel.CommandLine

/-- The names of a parameter in its entry: `-s`, `--long <VALUE>`, or a positional's
placeholder. -/
def markdownNames (p : Param) : String :=
  let value := " <" ++ p.valueName ++ ">"
  match p.short, p.long with
  | some s, some l => "`-" ++ s.toString ++ "`, `--" ++ l ++ (if p.takesValue then value else "") ++ "`"
  | some s, none => "`-" ++ s.toString ++ (if p.takesValue then value else "") ++ "`"
  | none, some l => "`--" ++ l ++ (if p.takesValue then value else "") ++ "`"
  | none, none => "`<" ++ p.valueName ++ ">`"

/-- The entry of a parameter. -/
def markdownParam (p : Param) : String :=
  "* " ++ markdownNames p ++ (if p.help.isEmpty then "" else " — " ++ p.help) ++ "\n" ++
  (match p.default with
   | some d => "\n  Default value: `" ++ d ++ "`\n"
   | none => "") ++
  (if p.choices.isEmpty then ""
   else if p.choices.any (·.help != "") then
     "\n  Possible values:\n" ++ String.join (p.choices.map fun ch =>
       if ch.help.isEmpty then "  - `" ++ ch.name ++ "`\n"
       else "  - `" ++ ch.name ++ "`:\n    " ++ ch.help ++ "\n") ++ "\n"
   else "\n  Possible values: " ++ ", ".intercalate (p.choices.map fun ch => "`" ++ ch.name ++ "`") ++
     "\n\n")

/-- The table of contents below a command at `path`, the command included, with at most `depth`
levels. -/
def markdownContents (path : List String) (c : Command) : Nat → String
  | 0 => ""
  | depth + 1 =>
    let here := path ++ [c.name]
    "* [`" ++ " ".intercalate here ++ "`↴](#" ++ "-".intercalate here ++ ")\n" ++
      String.join (c.subcommands.map fun sc => markdownContents here sc depth)

/-- The sections of a command at `path` and of the commands below it, with at most `depth`
levels. -/
def markdownSections (path : List String) (c : Command) : Nat → String
  | 0 => ""
  | depth + 1 =>
    let here := path ++ [c.name]
    let positionals := c.params.filter fun p => p.isPositional && !p.hidden
    let options := c.params.filter fun p => !p.isPositional && !p.hidden
    let usage := (if path.isEmpty then "" else " ".intercalate path ++ " ") ++
      usageLine c c.name c.requiredIds []
    "## `" ++ " ".intercalate here ++ "`\n\n" ++
    (if c.about.isEmpty then "" else c.about ++ "\n\n") ++
    "**Usage:** `" ++ usage ++ "`\n\n" ++
    (if c.subcommands.isEmpty then ""
     else "###### **Subcommands:**\n\n" ++
       String.join (c.subcommands.map fun sc => "* `" ++ sc.name ++ "` — " ++ sc.about ++ "\n") ++ "\n") ++
    (if positionals.isEmpty then ""
     else "###### **Arguments:**\n\n" ++ String.join (positionals.map markdownParam) ++ "\n") ++
    (if options.isEmpty then ""
     else "###### **Options:**\n\n" ++ String.join (options.map markdownParam) ++ "\n") ++
    "\n\n" ++ String.join (c.subcommands.map fun sc => markdownSections here sc depth)

/-- The closing lines of the document. -/
def markdownFooter : String :=
  "<hr/>\n\n<small><i>\n    This document was generated automatically by\n" ++
  "    <a href=\"https://crates.io/crates/clap-markdown\"><code>clap-markdown</code></a>.\n" ++
  "</i></small>\n"

/-- The Markdown document of a command tree of at most `depth` levels. -/
def markdownHelp (c : Command) (depth : Nat) : String :=
  "# Command-Line Help for `" ++ c.name ++ "`\n\n" ++
  "This document contains the help content for the `" ++ c.name ++ "` command-line program.\n\n" ++
  "**Command Overview:**\n\n" ++ markdownContents [] c depth ++ "\n" ++
  markdownSections [] c depth ++ markdownFooter

end EnergyModel.CommandLine
