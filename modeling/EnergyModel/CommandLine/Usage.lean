import EnergyModel.CommandLine.Grammar

/-!
# Usage lines and help texts

A usage line names the command and its parameters: `temoatools build [OPTIONS] <INPUTS_DIR>
<SCENARIO_DIR> <SCENARIO>`. The full usage, shown in help texts and after most errors, lists
`[OPTIONS]` when the command has optional options, then every positional (`<X>` when required,
`[X]` when not, with `...` for one that takes many), then the subcommand placeholder. After an
error about particular parameters, the usage instead lists the required and the given parameters:
the options first, then the positionals by position, bracketing the positionals that are neither.

A help text is the command's description, its usage, and sections for its subcommands,
positionals and options, each entry with its help and its default and possible values. The short
form (`-h`) puts each entry on one line, its help aligned after the longest entry of its section;
the long form (`--help`), used when some choice explains its values, puts the help of each entry
on the next line, indented, with the choices listed one per line. Lines are never wrapped.
-/

namespace EnergyModel.CommandLine

/-- Removes the blanks at the end of a text. -/
def trimEnd (s : String) : String :=
  String.ofList (s.toList.reverse.dropWhile Char.isWhitespace).reverse

/-- A run of spaces. -/
def blanks (n : Nat) : String := String.ofList (List.replicate n ' ')

/-- Puts `indent` after every line break of a text. -/
def indentLines (indent text : String) : String := ("\n" ++ indent).intercalate (text.splitOn "\n")

/-- A list without its repeated elements, each kept where it first stands. -/
def dedup (xs : List String) : List String :=
  xs.foldl (fun acc x => if acc.contains x then acc else acc ++ [x]) []

/-- The value placeholder of a parameter: `<NAME>`, or `[NAME]` for a positional that is not
required here, with `...` for a positional that takes many values. -/
def Param.placeholder (p : Param) (required : Bool) : String :=
  (if p.isPositional && !required then "[" ++ p.valueName ++ "]" else "<" ++ p.valueName ++ ">") ++
  (if p.isPositional && p.many then "..." else "")

/-- A parameter as usage lines and messages name it: its long name (or its short name) with the
value placeholder, or a positional's placeholder. -/
def Param.describe (p : Param) (required : Bool) : String :=
  let head :=
    match p.long, p.short with
    | some l, _ => "--" ++ l
    | none, some s => "-" ++ s.toString
    | none, none => ""
  if p.isPositional then p.placeholder required
  else if p.takesValue then head ++ " " ++ p.placeholder required
  else head

/-- A parameter as error messages show it. -/
def Param.display (p : Param) : String := p.describe p.required

/-- Whether the full usage mentions `[OPTIONS]`: some visible option other than the help and
version flags is optional. -/
def Command.needsOptionsTag (c : Command) : Bool :=
  c.options.any fun p => p.action != .help && p.action != .version && !p.hidden && !p.required

/-- The parameters of a usage line: the options among `listed`, then every visible positional by
position, bracketed unless listed. -/
def usageParams (c : Command) (listed : List String) : List String :=
  let named := dedup ((listed.filterMap fun id => (c.param? id).filter (!·.isPositional)).map
    (·.describe true))
  named ++ (c.positionals.filter (!·.hidden)).map fun p => p.describe (listed.contains p.id)

/-- The placeholder of a command's subcommand. -/
def Command.subcommandPlaceholder (c : Command) : String :=
  if c.subcommandRequired then "<COMMAND>" else "[COMMAND]"

/-- The usage of a command called `bin`. With nothing used it is the full usage; otherwise it
lists the `required` and the `used` parameters. -/
def usageLine (c : Command) (bin : String) (required used : List String) : String :=
  if used.isEmpty then
    " ".intercalate ([bin] ++ (if c.needsOptionsTag then ["[OPTIONS]"] else []) ++
      usageParams c required ++ (if c.commands.isEmpty then [] else [c.subcommandPlaceholder]))
  else
    " ".intercalate ([bin] ++ usageParams c (required ++ used) ++
      (if c.subcommandRequired then ["<COMMAND>"] else []))

/-- The usage line after the `Usage:` heading. -/
def usageHeading (c : Command) (bin : String) (required used : List String) : String :=
  "Usage: " ++ usageLine c bin required used

/-! ## Help texts -/

/-- Whether some visible choice parameter explains its choices, which calls for the long help. -/
def Command.hasLongHelp (c : Command) : Bool :=
  c.params.any fun p => !p.hidden && p.choices.any (·.help != "")

/-- Whether the long help lists a parameter's choices one per line. -/
def Param.listsChoices (p : Param) (long : Bool) : Bool := long && p.choices.any (·.help != "")

/-- The help of a parameter in a command: the help flag points to the other form of help when
the command has a long one. -/
def Param.helpIn (p : Param) (c : Command) (long : Bool) : String :=
  if p.action == .help && c.hasLongHelp then
    if long then "Print help (see a summary with '-h')" else "Print help (see more with '--help')"
  else p.help

/-- The default and the possible values of a parameter, as its help shows them. -/
def Param.specs (p : Param) (long : Bool) : List String :=
  (match p.default with
   | some d => if p.takesValue then ["[default: " ++ d ++ "]"] else []
   | none => []) ++
  (if !p.choices.isEmpty && !p.listsChoices long then
    ["[possible values: " ++ ", ".intercalate (p.choices.map (·.name)) ++ "]"]
  else [])

/-- The width a section's help is aligned to: the widest entry, options counted with room for a
short name, and at least 2. -/
def sectionWidth (params : List Param) : Nat :=
  params.foldl (fun w p =>
    max w (p.display.length + (if p.isPositional then 0 else 4))) 2

/-- Whether an entry's help is too long to stand beside it on a line of 100 columns. -/
def forcesNextLine (helpWidth longest : Nat) : Bool :=
  let taken := longest + 4
  100 ≥ taken && taken > 40 && helpWidth > 100 - taken

/-- The help block of an entry: its help, the listed choices and the specs, with every line
after the first indented by `spaces`. -/
def helpBlock (about : String) (choices : List Choice) (specs : List String) (long : Bool)
    (spaces : Nat) : String :=
  let indent := blanks spaces
  let choiceBlock :=
    if choices.isEmpty then ""
    else
      let widest := choices.foldl (fun w ch => max w ch.name.length) 0
      (if about.isEmpty then "" else "\n\n" ++ indent) ++ "Possible values:" ++
        String.join (choices.map fun ch =>
          "\n" ++ indent ++ "- " ++ ch.name ++
            (if ch.help.isEmpty then "" else ": " ++ blanks (widest - ch.name.length) ++ ch.help))
  let specText :=
    if specs.isEmpty then ""
    else
      let sep := if about.isEmpty && choiceBlock.isEmpty then "" else if long then "\n\n" else " "
      indentLines indent (sep ++ (if long then "\n" else " ").intercalate specs)
  about ++ choiceBlock ++ specText

/-- The entry of a parameter in a section. -/
def paramEntry (c : Command) (p : Param) (long nextLine : Bool) (longest : Nat) : String :=
  let shortPart :=
    match p.short with
    | some s => "-" ++ s.toString
    | none => if p.long.isSome then "    " else ""
  let longPart :=
    match p.long with
    | some l => (if p.short.isSome then ", " else "") ++ "--" ++ l
    | none => ""
  let suffix :=
    if p.isPositional then p.placeholder p.required
    else if p.takesValue then " " ++ p.placeholder p.required
    else ""
  let padding :=
    if nextLine then 0
    else if p.isPositional then longest + 2 - p.display.length
    else longest + (if p.long.isSome then 2 else 6) - (p.display.length + 4)
  let spaces := if nextLine then 10 else longest + 4
  let choices := if p.listsChoices long then p.choices else []
  "  " ++ shortPart ++ longPart ++ suffix ++ blanks padding ++
    (if nextLine then "\n" ++ blanks 10 else "") ++
    helpBlock (p.helpIn c long) choices (p.specs long) long spaces

/-- A section of parameters: its entries, one per line, or separated by blank lines in the long
form. -/
def paramSection (c : Command) (params : List Param) (long : Bool) : String :=
  let longest := sectionWidth params
  let nextLine := long || params.any fun p =>
    forcesNextLine ((p.helpIn c false).length + (" ".intercalate (p.specs false)).length) longest
  let separator := if nextLine && long then "\n\n" else "\n"
  separator.intercalate (params.map fun p => paramEntry c p long nextLine longest)

/-- The section of subcommands: each name with its description, aligned. -/
def commandSection (commands : List Command) : String :=
  let longest := commands.foldl (fun w sc => max w sc.name.length) 2
  let nextLine := commands.any fun sc => forcesNextLine sc.about.length longest
  "\n".intercalate (commands.map fun sc =>
    "  " ++ sc.name ++ (if nextLine then "\n" ++ blanks 10 else blanks (longest + 2 - sc.name.length)) ++
      sc.about)

/-- The help text of a command called `bin`, short or long. It ends with one line break. -/
def helpText (c : Command) (bin : String) (long : Bool) : String :=
  let positionals := c.positionals.filter (!·.hidden)
  let options := c.options.filter (!·.hidden)
  let sections :=
    (if c.commands.isEmpty then [] else ["Commands:\n" ++ commandSection c.commands]) ++
    (if positionals.isEmpty then [] else ["Arguments:\n" ++ paramSection c positionals long]) ++
    (if options.isEmpty then [] else ["Options:\n" ++ paramSection c options long])
  let body := "\n\n".intercalate sections
  trimEnd ((if c.about.isEmpty then "" else c.about ++ "\n\n") ++ usageHeading c bin c.requiredIds [] ++
    (if sections.isEmpty then "" else "\n\n" ++ body)) ++ "\n"

end EnergyModel.CommandLine
