import EnergyModel.CommandLine.Usage
import EnergyModel.CommandLine.Similarity
import EnergyModel.Decimal.Read

/-!
# Reading a command line

The arguments are read left to right, one command level at a time. At each level an argument is
a subcommand name (which hands the rest to that subcommand), `--` (after which every argument is
a positional value), a long option `--name` or `--name=value`, a cluster of short options `-abc`
(where an option taking a value takes the rest of the cluster, or the next argument), the value
of the option before it, or the next positional value.

A value is checked against its parameter's kind when the parameter is complete: when the next
parameter begins, or when the level ends. `-h`/`--help` and `-V`/`--version` end the reading at
once with the short or long help, or the version. The `help` subcommand shows the long help of
the subcommand its arguments name.

When a level ends, an option still waiting for its value is refused, a command that needs a
subcommand and got nothing shows its help as an error, parameters that may not be given together
are refused, and so are missing required parameters. Defaults fill in what was not given.

Every refusal is an error text: its message, tips (similar names, how to pass a value that looks
like an option), the usage, and a pointer to `--help`.
-/

namespace EnergyModel.CommandLine

/-- A value given on the command line, read according to its parameter. -/
inductive Value where
  | text (s : String)
  | count (n : Nat)
  | number (x : Float)
  | flag
  deriving Inhabited

/-- A command line read: the subcommands chosen below the top command, and the values of every
parameter given or defaulted, by id. -/
structure Invocation where
  path : List String := []
  given : List (String × List Value) := []
  deriving Inhabited

/-- What reading a command line ends with. -/
inductive Outcome where
  /-- The command line is complete: run it. -/
  | run (inv : Invocation)
  /-- A help or version text to print, and nothing else to do. -/
  | inform (text : String)
  /-- A text that refuses the command line. -/
  | refuse (text : String)
  deriving Inhabited

/-- A refusal: its message, tips and usage. -/
structure Complaint where
  message : String
  tips : List String := []
  usage : Option String := none
  deriving Inhabited

/-- The text of a refusal. -/
def Complaint.render (e : Complaint) : String :=
  "error: " ++ e.message ++
  (if e.tips.isEmpty then "" else "\n" ++ String.join (e.tips.map fun t => "\n  tip: " ++ t)) ++
  (match e.usage with
   | some u => "\n\n" ++ u
   | none => "") ++
  "\n\nFor more information, try '--help'.\n"

/-- The tip naming similar names, if there are any. -/
def similarTip (what : String) : List String → List String
  | [] => []
  | [n] => ["a similar " ++ what ++ " exists: '" ++ n ++ "'"]
  | ns => ["some similar " ++ what ++ "s exist: " ++ ", ".intercalate (ns.map fun n => "'" ++ n ++ "'")]

/-- The list of a parameter's possible values, after a message about its value. -/
def possibleValues (p : Param) : String :=
  if p.choices.isEmpty then ""
  else "\n  [possible values: " ++ ", ".intercalate (p.choices.map (·.name)) ++ "]"

/-- The refusal of a missing or empty value. -/
def emptyValue (p : Param) : Complaint :=
  { message := "a value is required for '" ++ p.display ++ "' but none was supplied" ++
      possibleValues p }

/-- The refusal of a value its parameter cannot read. -/
def invalidValue (p : Param) (raw reason : String) : Complaint :=
  { message := "invalid value '" ++ raw ++ "' for '" ++ p.display ++ "': " ++ reason }

/-- Reads one value of a parameter. -/
def readValue (p : Param) (raw : String) : Except Complaint Value :=
  match p.kind with
  | .text => .ok (.text raw)
  | .path => if raw.isEmpty then .error (emptyValue p) else .ok (.text raw)
  | .count =>
    match Decimal.readUnsigned 10 (Nat.pow 2 64 - 1) raw with
    | .ok n => .ok (.count n)
    | .error e => .error (invalidValue p raw e.message)
  | .number =>
    match Decimal.readFloat raw with
    | .ok x => .ok (.number x)
    | .error e => .error (invalidValue p raw e.message)
  | .choice options =>
    if options.any (·.name == raw) then .ok (.text raw)
    else if raw.isEmpty then .error (emptyValue p)
    else .error { message := "invalid value '" ++ raw ++ "' for '" ++ p.display ++ "'" ++ possibleValues p
                  tips := similarTip "value" (closestName raw (options.map (·.name))).toList }

/-- A command being read, and the name it is called by. -/
structure Level where
  command : Command
  bin : String
  deriving Inhabited

/-- The full usage of a level. -/
def Level.usage (l : Level) : String := usageHeading l.command l.bin l.command.requiredIds []

/-- What has been read at a level: the parameters given, in the order they were completed, the
next positional, the parameter still taking values, and whether `--` was met. -/
structure Reading where
  given : List (String × List Value) := []
  position : Nat := 0
  pending : Option (Param × List String) := none
  trailing : Bool := false
  deriving Inhabited

/-- Whether a parameter was given. -/
def Reading.has (r : Reading) (id : String) : Bool := r.given.any (·.1 == id)

/-- The ids of the parameters given, in order. -/
def Reading.ids (r : Reading) : List String := r.given.map (·.1)

/-- Records the values of a parameter; only a positional that takes many may be given twice. -/
def Reading.store (l : Level) (r : Reading) (p : Param) (raw : List String) : Except Complaint Reading := do
  if !p.many && r.has p.id then
    throw { message := "the argument '" ++ p.display ++ "' cannot be used multiple times"
            usage := some l.usage }
  let values ← if p.takesValue then raw.mapM (readValue p) else pure [Value.flag]
  if r.has p.id then
    pure { r with given := r.given.map fun (id, vs) => if id == p.id then (id, vs ++ values) else (id, vs) }
  else pure { r with given := r.given ++ [(p.id, values)] }

/-- Completes the parameter still taking values. -/
def Reading.resolve (l : Level) (r : Reading) : Except Complaint Reading :=
  match r.pending with
  | none => .ok r
  | some (p, raw) => if raw.isEmpty then .error (emptyValue p) else Reading.store l { r with pending := none } p raw

/-- The given parameters a usage line mentions after a mistake: all but the hidden ones. When
there are some, the usage lists them with the required ones instead of the full usage. -/
def Reading.usedVisible (l : Level) (r : Reading) : List String :=
  r.ids.filter fun id => !(((l.command.param? id).map (·.hidden)).getD false)

/-- How reading a level goes on. -/
inductive Step where
  /-- The arguments are used up. -/
  | finished (r : Reading)
  /-- A subcommand takes the rest. -/
  | descend (r : Reading) (sc : Command) (rest : List String)
  /-- Reading stops with this outcome. -/
  | stop (o : Outcome)
  deriving Inhabited

/-- Stops with a refusal. -/
def refuseWith (e : Complaint) : Step := .stop (.refuse e.render)

/-- The help of the command a `help` subcommand names. -/
def helpFor (l : Level) (names : List String) : Outcome :=
  let rec go (c : Command) (bin : String) : List String → Outcome
    | [] => .inform (helpText c bin c.hasLongHelp)
    | n :: more =>
      match c.subcommand? n with
      | some sc => go sc (bin ++ " " ++ sc.name) more
      | none =>
        .refuse (Complaint.render { message := "unrecognized subcommand '" ++ n ++ "'",
                                    usage := some (usageHeading c bin c.requiredIds []) })
  go l.command l.bin names

/-- The version text of a command. -/
def versionText (l : Level) : String :=
  l.command.name ++ " " ++ (l.command.version.getD "") ++ "\n"

/-- The refusal of an unknown long option, with the closest long name here, or else the closest
of a subcommand named later on the line: of the subcommands with a close name, the one named
first. -/
def unknownLong (l : Level) (r : Reading) (name : String) (rest : List String) : Complaint :=
  let longs (c : Command) := c.allParams.filterMap (·.long)
  let here := closestName name (longs l.command)
  let candidates : List (Nat × String × String) :=
    l.command.commands.filterMap fun sc =>
      match closestName name (longs sc), rest.idxOf? sc.name with
      | some candidate, some k => some (k, candidate, sc.name)
      | _, _ => none
  let below : Option (String × String) :=
    if here.isSome then none
    else (candidates.foldl (fun best c =>
      match best with
      | some b => if c.1 < b.1 then some c else best
      | none => some c) none).map (·.2)
  let suggestedId := here.bind fun n => (l.command.long? n).map (·.id)
  let used := r.usedVisible l ++ suggestedId.toList
  let trailingTip :=
    if here.isNone && below.isNone && !r.trailing && !l.command.positionals.isEmpty then
      ["to pass '--" ++ name ++ "' as a value, use '-- --" ++ name ++ "'"]
    else []
  { message := "unexpected argument '--" ++ name ++ "' found"
    tips := (here.map fun n => ["a similar argument exists: '--" ++ n ++ "'"]).getD [] ++ trailingTip ++
      (below.map fun (n, sc) => ["'" ++ sc ++ " --" ++ n ++ "' exists"]).getD []
    usage := some (usageHeading l.command l.bin l.command.requiredIds used) }

/-- The refusal of an argument with no place: a mistyped subcommand, or a value too many. -/
def misplaced (l : Level) (arg : String) : Complaint :=
  let names := l.command.commands.map (·.name)
  let similar := similarNames arg names
  if !similar.isEmpty then
    { message := "unrecognized subcommand '" ++ arg ++ "'", tips := similarTip "subcommand" similar
      usage := some l.usage }
  else if !l.command.commands.isEmpty && l.command.positionals.isEmpty then
    { message := "unrecognized subcommand '" ++ arg ++ "'", usage := some l.usage }
  else { message := "unexpected argument '" ++ arg ++ "' found", usage := some l.usage }

/-- Acts on a parameter without a value: shows the help or the version, or records the flag. The
parameter before it is completed first. -/
def react (l : Level) (r : Reading) (p : Param) (long : Bool) (k : Reading → Step) : Step :=
  match r.resolve l with
  | .error e => refuseWith e
  | .ok r =>
    match p.action with
    | .help => .stop (.inform (helpText l.command l.bin (long && l.command.hasLongHelp)))
    | .version => .stop (.inform (versionText l))
    | _ =>
      match Reading.store l r p [] with
      | .ok r => k r
      | .error e => refuseWith e

/-- Starts an option that takes a value: with the value attached it is recorded at once,
otherwise it waits for the next argument. -/
def startOption (l : Level) (r : Reading) (p : Param) (attached : Option String) (k : Reading → Step) :
    Step :=
  match r.resolve l with
  | .error e => refuseWith e
  | .ok r =>
    match attached with
    | some v =>
      match Reading.store l r p [v] with
      | .ok r => k r
      | .error e => refuseWith e
    | none => k { r with pending := some (p, []) }

/-- Reads a cluster of short options. -/
def shortCluster (l : Level) (r : Reading) (k : Reading → Step) : List Char → Step
  | [] => k r
  | ch :: more =>
    match l.command.short? ch with
    | none =>
      let tip :=
        if !r.trailing && !l.command.positionals.isEmpty then
          ["to pass '-" ++ ch.toString ++ "' as a value, use '-- -" ++ ch.toString ++ "'"]
        else []
      refuseWith { message := "unexpected argument '-" ++ ch.toString ++ "' found", tips := tip
                   usage := some l.usage }
    | some p =>
      if !p.takesValue then react l r p false fun r => shortCluster l r k more
      else
        let attached := String.ofList more
        if attached.isEmpty then startOption l r p none k
        else startOption l r p (some (if attached.startsWith "=" then (attached.drop 1).toString else attached)) k

/-- Gives the next positional its first value. -/
def Reading.startPositional (r : Reading) (p : Param) (a : String) : Reading :=
  { r with pending := some (p, [a]), position := if p.many then r.position else r.position + 1 }

/-- Reads the arguments of one level. -/
def scan (l : Level) (r : Reading) : List String → Step
  | [] => .finished r
  | a :: rest =>
    let sub := if r.trailing then none else l.command.subcommand? a
    match sub with
    | some sc => if sc.isHelpCommand then .stop (helpFor l rest) else .descend r sc rest
    | none =>
      if !r.trailing && a == "--" then scan l { r with trailing := true } rest
      else if !r.trailing && a.startsWith "--" then
        let body := (a.drop 2).toString
        let (name, attached) :=
          match body.splitOn "=" with
          | [n] => (n, none)
          | n :: vs => (n, some ("=".intercalate vs))
          | [] => (body, none)
        match l.command.long? name with
        | none => refuseWith (unknownLong l r name rest)
        | some p =>
          if p.takesValue then startOption l r p attached fun r => scan l r rest
          else
            match attached with
            | some v =>
              refuseWith { message := "unexpected value '" ++ v ++ "' for '" ++ p.display ++
                              "' found; no more were expected"
                           usage := some (usageHeading l.command l.bin l.command.requiredIds
                             (r.usedVisible l ++ [p.id])) }
            | none => react l r p true fun r => scan l r rest
      else if !r.trailing && a.startsWith "-" && a != "-" then
        shortCluster l r (fun r => scan l r rest) (a.drop 1).toString.toList
      else
        match r.pending with
        | some (p, []) =>
          if !r.trailing && !p.isPositional then scan l { r with pending := some (p, [a]) } rest
          else refuseWith (emptyValue p)
        | _ =>
          match l.command.positionals[r.position]? with
          | none => refuseWith (misplaced l a)
          | some p =>
            match r.pending with
            | some (q, raw) =>
              if q.id == p.id then scan l { r with pending := some (q, raw ++ [a]) } rest
              else
                match r.resolve l with
                | .error e => refuseWith e
                | .ok r => scan l (r.startPositional p a) rest
            | none => scan l (r.startPositional p a) rest

/-- The defaults of the parameters not given. -/
def defaults (c : Command) (r : Reading) : List (String × List Value) :=
  c.allParams.filterMap fun p =>
    match p.default with
    | some d =>
      if r.has p.id then none
      else
        match readValue p d with
        | .ok v => some (p.id, [v])
        | .error _ => none
    | none => none

/-- The refusal of parameters given together that may not be. -/
def conflictComplaint (l : Level) (r : Reading) : Option Complaint :=
  let present := r.ids
  present.findSome? fun id =>
    let others := present.filter (l.command.conflict id ·)
    if others.isEmpty then none
    else
      let shown (x : String) := ((l.command.param? x).map (·.display)).getD x
      let kept := present.filter fun x =>
        !others.contains x && !(((l.command.param? x).map (·.hidden)).getD false)
      let withText :=
        match others with
        | [o] => " '" ++ shown o ++ "'"
        | os => ":" ++ String.join (os.map fun o => "\n  " ++ shown o)
      some { message := "the argument '" ++ shown id ++ "' cannot be used with" ++ withText
             usage := some (usageHeading l.command l.bin l.command.requiredIds kept) }

/-- The refusal of missing required parameters, with the absent positionals before them. -/
def missingComplaint (l : Level) (r : Reading) : Option Complaint :=
  let c := l.command
  let missing := c.requiredIds.filter (!r.has ·)
  if missing.isEmpty then none
  else
    let indexOf (id : String) : Option Nat := c.positionals.findIdx? (·.id == id)
    let highest := missing.foldl (fun m id => max m ((indexOf id).getD 0)) 0
    let earlier := (c.positionals.take highest).filter fun p => !r.has p.id && !missing.contains p.id
    let all := missing ++ earlier.map (·.id)
    let params := all.filterMap c.param?
    let named := params.filter (!·.isPositional)
    let positional := c.positionals.filter fun p => all.contains p.id
    let lines := (named ++ positional).map (·.describe true)
    let used := (r.ids.filter fun id => !(((c.param? id).map (·.hidden)).getD false)) ++ all
    some { message := "the following required arguments were not provided:" ++
             String.join (lines.map ("\n  " ++ ·))
           usage := some (usageHeading c l.bin c.requiredIds used) }

/-- Ends a level without a subcommand: checks what was read and adds the defaults. -/
def finish (l : Level) (r : Reading) : Except String (List (String × List Value)) := do
  let r ← match r.pending with
    | some (p, []) => throw (emptyValue p).render
    | _ => (r.resolve l).mapError Complaint.render
  if l.command.subcommandRequired then
    if r.given.isEmpty then throw (helpText l.command l.bin false)
    throw (Complaint.render
      { message := "'" ++ l.bin ++ "' requires a subcommand but one was not provided" ++
          "\n  [subcommands: " ++ ", ".intercalate (l.command.commands.map (·.name)) ++ "]"
        usage := some l.usage })
  if let some e := conflictComplaint l r then throw e.render
  if let some e := missingComplaint l r then throw e.render
  pure (r.given ++ defaults l.command r)

/-- Reads the arguments of a level and of the subcommands below it, at most `fuel` levels deep. -/
def readLevel : Nat → Level → List String → List (String × List Value) → List String → Outcome
  | 0, _, _, _, _ => .refuse "error: too many subcommands\n"
  | fuel + 1, l, path, above, args =>
    match scan l {} args with
    | .stop o => o
    | .finished r =>
      match finish l r with
      | .ok given => .run { path, given := above ++ given }
      | .error text => .refuse text
    | .descend r sc rest =>
      match r.resolve l with
      | .error e => .refuse e.render
      | .ok r =>
        readLevel fuel ⟨sc, l.bin ++ " " ++ sc.name⟩ (path ++ [sc.name])
          (above ++ r.given ++ defaults l.command r) rest

/-- Reads a command line for a command. -/
def readCommandLine (c : Command) (args : List String) : Outcome :=
  readLevel (args.length + 1) ⟨c, c.name⟩ [] [] args

/-! ## Values of an invocation -/

/-- The values of a parameter. -/
def Invocation.values (inv : Invocation) (id : String) : List Value :=
  ((inv.given.find? (·.1 == id)).map (·.2)).getD []

/-- The texts of a parameter. -/
def Invocation.texts (inv : Invocation) (id : String) : List String :=
  (inv.values id).filterMap fun v =>
    match v with
    | .text s => some s
    | _ => none

/-- The text of a parameter, if given. -/
def Invocation.text? (inv : Invocation) (id : String) : Option String := (inv.texts id).head?

/-- The count of a parameter, if given. -/
def Invocation.count? (inv : Invocation) (id : String) : Option Nat :=
  (inv.values id).findSome? fun v =>
    match v with
    | .count n => some n
    | _ => none

/-- The number of a parameter, if given. -/
def Invocation.number? (inv : Invocation) (id : String) : Option Float :=
  (inv.values id).findSome? fun v =>
    match v with
    | .number x => some x
    | _ => none

/-- Whether a flag was given. -/
def Invocation.flag (inv : Invocation) (id : String) : Bool := !(inv.values id).isEmpty

end EnergyModel.CommandLine
