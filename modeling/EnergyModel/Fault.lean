import EnergyModel.Decimal.Read
import EnergyModel.Text.Csv
import EnergyModel.Text.Toml.Diagnostic
import EnergyModel.Sql.Error

/-!
# Failures

A failure is a cause with the context it was met in: the innermost cause says what went wrong,
and each context, outermost first, says what the program was doing. Causes are grouped by where
they arise: the file system, the reading of a table, the database, the settings file, or a rule
of the program itself (`Problem`). Each cause has one wording, given by its `message`.

A failure is shown in two forms: on one line, with the messages joined by `": "`
(`Failure.summary`), and as a report that lists the causes below the outermost message
(`Failure.report`).
-/

namespace EnergyModel

/-- Why a file operation failed. -/
inductive FileError where
  | notFound
  | alreadyExists
  | notADirectory
  | isADirectory
  /-- A copy whose source is not a regular file. -/
  | notRegularFile
  deriving Repr, BEq, Inhabited

/-- The operating system's wording of a file error. -/
def FileError.message : FileError → String
  | .notFound => "No such file or directory (os error 2)"
  | .alreadyExists => "File exists (os error 17)"
  | .notADirectory => "Not a directory (os error 20)"
  | .isADirectory => "Is a directory (os error 21)"
  | .notRegularFile => "the source path is neither a regular file nor a symlink to a regular file"

/-- Why one field of a table record could not be decoded. -/
inductive DecodeProblem where
  /-- A count such as a year is not an unsigned 32-bit number. -/
  | count (e : Decimal.CountSyntaxError)
  /-- A required number is not a floating-point literal. -/
  | number (e : Decimal.FloatSyntaxError)
  /-- An optional number is neither missing nor a number. -/
  | invalidValue (text : String)
  | missingField (name : String)
  | duplicateField (name : String)
  /-- A name that is none of the expected ones. -/
  | unknownVariant (text : String) (expected : List String)
  deriving Repr, BEq, Inhabited

/-- A list of alternatives as the decoder words it. -/
def describeAlternatives : List String → String
  | [] => "there are no variants"
  | [a] => "expected `" ++ a ++ "`"
  | [a, b] => "expected `" ++ a ++ "` or `" ++ b ++ "`"
  | names => "expected one of " ++ ", ".intercalate (names.map fun n => "`" ++ n ++ "`")

/-- The wording of a decoding problem. -/
def DecodeProblem.message : DecodeProblem → String
  | .count e => e.message
  | .number e => e.message
  | .invalidValue text => "Invalid numeric value: " ++ text
  | .missingField name => "missing field `" ++ name ++ "`"
  | .duplicateField name => "duplicate field `" ++ name ++ "`"
  | .unknownVariant text expected =>
    "unknown variant `" ++ text ++ "`, " ++ describeAlternatives expected

/-- Why a table could not be read. -/
inductive CsvError where
  | file (e : FileError)
  /-- A record could not be decoded; the field index is known for problems of one field. -/
  | decode (position : Csv.Position) (field : Option Nat) (problem : DecodeProblem)
  /-- A record has another length than the first; reading knows where, writing does not. -/
  | lengths (position : Option Csv.Position) (expected found : Nat)
  deriving Repr, BEq, Inhabited

/-- The wording of a table error. -/
def CsvError.message : CsvError → String
  | .file e => e.message
  | .decode p (some f) problem =>
    "CSV deserialize error: " ++ p.describe ++ ": field " ++ toString f ++ ": " ++ problem.message
  | .decode p none problem => "CSV deserialize error: " ++ p.describe ++ ": " ++ problem.message
  | .lengths p expected found =>
    "CSV error: " ++ (match p with | some p => p.describe ++ ": " | none => "") ++
    "found record with " ++ toString found ++ " fields, but the previous record has " ++
    toString expected ++ " fields"

/-- The rules of the program that a run can break. -/
inductive Problem where
  | emptyTable (path : String)
  | invalidNumber (text : String)
  | unknownExisting (path name : String)
  | duplicateEntry (id table : String)
  | missingEntry (table name : String)
  | demandYearsUnordered
  | tooFewDemandYears
  | keyColumnMisnamed
  | scenarioNotFound (name : String)
  | missingSetting (name : String)
  | bothMagnitudes (quantity tech : String)
  | noMagnitude (quantity tech : String)
  | unknownPlantVariable (quantity : String)
  | unknownGlobalVariable (quantity : String)
  | missingColumn (table quantity : String)
  | drawCount (tech quantity : String) (found expected : Nat)
  | caseOutOfRange (index count : Nat)
  | multiplierRequired (quantity tech : String)
  | unknownFamily (text : String)
  | caseColumns (path : String)
  | missingDraw (tech : String)
  | relationArity (table : String) (arity given : Nat)
  | unknownId (id : String)
  | databaseExists (path : String)
  | duplicateModel (name : String)
  | buildsFailed (count : Nat) (summary : String)
  | unknownLogLevel (level : String)
  | negativeMultiplier
  | missingOutputFolder (path : String)
  | noCases
  | exampleNotFound
  | destinationExists (path : String)
  deriving Repr, BEq, Inhabited

/-- The wording of each rule that a run can break. -/
def Problem.message : Problem → String
  | .emptyTable path => "CSV file " ++ path ++ " cannot be empty"
  | .invalidNumber text => "Invalid numeric value: " ++ text
  | .unknownExisting path name => path ++ ": existing capacity given for unknown entity " ++ name
  | .duplicateEntry id table => "Duplicate entry for " ++ id ++ " in table " ++ table
  | .missingEntry table name => "Table " ++ table ++ " has no entry for " ++ name
  | .demandYearsUnordered => "Demand years must be unique and in ascending order"
  | .tooFewDemandYears =>
    "At least two demand years are required (the last year ends the model horizon)"
  | .keyColumnMisnamed => "First column must be named Scenario"
  | .scenarioNotFound name => "Scenario " ++ name ++ " not found"
  | .missingSetting name => "Missing solver setting " ++ name
  | .bothMagnitudes quantity tech =>
    "Directive for " ++ quantity ++ " of " ++ tech ++ " gives both a multiplier and a value"
  | .noMagnitude quantity tech =>
    "Directive for " ++ quantity ++ " of " ++ tech ++ " gives neither a multiplier nor a value"
  | .unknownPlantVariable quantity => "Unknown power plant variable " ++ quantity
  | .unknownGlobalVariable quantity => "Unknown global variable " ++ quantity
  | .missingColumn table quantity => "Table " ++ table ++ " has no column " ++ quantity
  | .drawCount tech quantity found expected =>
    "Monte Carlo row for " ++ tech ++ " " ++ quantity ++ " has " ++ toString found ++
    " draws but expected " ++ toString expected
  | .caseOutOfRange index count =>
    "Case " ++ toString index ++ " requested but only " ++ toString count ++ " cases are defined"
  | .multiplierRequired quantity tech =>
    "Sensitivity directive for " ++ quantity ++ " of " ++ tech ++ " must give a multiplier"
  | .unknownFamily text => "Unknown entity type " ++ text
  | .caseColumns path =>
    path ++ ": expected columns type, variable, tech followed by one column per case"
  | .missingDraw tech => "Missing draw for " ++ tech
  | .relationArity table arity given =>
    "Relation " ++ table ++ " has " ++ toString arity ++ " columns but a row with " ++
    toString given ++ " values was given"
  | .unknownId id => "Unknown ID " ++ id ++ " found"
  | .databaseExists path => "Database " ++ path ++ " already exists"
  | .duplicateModel name => "Duplicate model name " ++ name ++ " in batch"
  | .buildsFailed count summary => toString count ++ " builds failed, see " ++ summary
  | .unknownLogLevel level => "Unknown log level: " ++ level
  | .negativeMultiplier => "Multiplier must be a non-negative number"
  | .missingOutputFolder path => "Output folder " ++ path ++ " does not exist"
  | .noCases => "At least one case is required"
  | .exampleNotFound => "Example not found."
  | .destinationExists path => "Destination directory " ++ path ++ " already exists"

/-- The innermost cause of a failure. -/
inductive Cause where
  /-- Reading or writing a table. -/
  | table (e : CsvError)
  /-- A file operation outside table reading. -/
  | file (e : FileError)
  /-- A database statement. -/
  | store (e : Sql.SqlError)
  /-- The settings file, with the text the diagnostic points into. -/
  | settings (text : String) (d : Toml.Diagnostic)
  /-- A rule of the program. -/
  | problem (p : Problem)
  deriving Inhabited

/-- The wording of a cause: one message, or for a database error its message and then the line
that names its code. -/
def Cause.messages : Cause → List String
  | .table e => [e.message]
  | .file e => [e.message]
  | .store e => [e.message, e.codeLine]
  | .settings text d => [d.render text]
  | .problem p => [p.message]

/-- A cause with the contexts it was met in, outermost first. -/
structure Failure where
  context : List String
  cause : Cause
  deriving Inhabited

/-- A failure with no context. -/
def Failure.of (cause : Cause) : Failure := ⟨[], cause⟩

/-- A failure of a rule of the program, with no context. -/
def Failure.rule (p : Problem) : Failure := ⟨[], .problem p⟩

/-- The failure met inside one more context. -/
def Failure.within (outer : String) (f : Failure) : Failure := ⟨outer :: f.context, f.cause⟩

/-- Every message of a failure, outermost first. -/
def Failure.messages (f : Failure) : List String := f.context ++ f.cause.messages

/-- The one-line form: the messages joined by `": "`. -/
def Failure.summary (f : Failure) : String := ": ".intercalate f.messages

/-- Indents every line of a message after the first. -/
def indentLines (indent : String) (message : String) : String :=
  ("\n" ++ indent).intercalate (message.splitOn "\n")

/-- A number right-aligned in five columns. -/
def alignedIndex (n : Nat) : String :=
  let text := toString n
  String.ofList (List.replicate (5 - text.length) ' ') ++ text

/-- The report form: the outermost message, then the causes under `Caused by:`, numbered when
there are several, with their continuation lines indented. -/
def Failure.report (f : Failure) : String :=
  match f.messages with
  | [] => ""
  | [only] => only
  | [outer, inner] => outer ++ "\n\nCaused by:\n    " ++ indentLines "    " inner
  | outer :: causes =>
    let numbered := causes.zipIdx.map fun (m, i) =>
      alignedIndex i ++ ": " ++ indentLines "       " m
    outer ++ "\n\nCaused by:\n" ++ "\n".intercalate numbered

end EnergyModel
