import EnergyModel.Proofs.Build.Recording
import EnergyModel.Proofs.Assembly.Keys

/-!
# A build that fails before it writes

A build reads its inputs and scenario, applies its directives and assembles the model before it
touches a file: it creates the output directory and writes the database only then. A build that
may not overwrite an existing database fails at once, before reading anything, and changes
nothing (`buildModel_of_exists`). A build that fails in any later step before the write has only
recorded notes (`buildModel_records_unless_prepared`), so no file or directory is created or
removed, and the only files that change are the two log files, which grow by the lines of those
notes when file logging is on.

`BuildRequest.Prepares request files relations` says that every step before the write succeeds on
`files`, assembling `relations`; the perturbation step is read through `perturbed`, the result of
applying the directives to the loaded inputs and scenario.

A build whose directive names an unknown variable, run with file logging on, shows that the logs
do change: it has already recorded that it builds the model when the directive fails
(`buildModel_unknownVariable_appends_log`).
-/

namespace EnergyModel

open Input

/-- The inputs and scenario after a list of directives, or the failure of the first directive
that fails. -/
def perturbed (inputs : InputTables) (scenario : Scenario) (ds : List Directive) :
    Except Failure (InputTables × Scenario) :=
  let run := (applyDirectives ds).run.run { inputs, scenario }
  run.1.map fun _ => (run.2.inputs, run.2.scenario)

/-- Perturbing records the notes of the directives, then gives their result. -/
theorem Run.Records.perturb (inputs : InputTables) (scenario : Scenario) (ds : List Directive) :
    Records (Run.perturb inputs scenario ds)
      ((applyDirectives ds).run.run { inputs, scenario }).2.notes.toList
      (perturbed inputs scenario ds) := by
  unfold Run.perturb perturbed
  rcases (applyDirectives ds).run.run { inputs, scenario } with ⟨result, state⟩
  dsimp only
  rw [← List.append_nil state.notes.toList]
  refine .bind (.noteAll _) ?_
  cases result with
  | error f => exact .bind_error (.ofExcept _)
  | ok u => exact .bind (.ofExcept _) (.pure _)

/-- Every step of a build before it writes succeeds on these files: the database may be written,
the inputs and the scenario are read, the directives apply, and the model assembles into
`relations`. -/
structure BuildRequest.Prepares (request : BuildRequest) (files : FileTree Content)
    (relations : RelationSet) : Prop where
  mayWrite : request.overwrite = true ∨ files.exists? request.databasePath = false
  assembles : ∃ inputs scenario changed,
    loadInputs files request.inputsDir = .ok inputs ∧
    readScenario files request.scenarioDir request.scenario = .ok scenario ∧
    perturbed inputs scenario request.directives = .ok changed ∧
    (assembleModel changed.1 changed.2).1 = .ok relations

/-- The note a build records once it has read its inputs and scenario. -/
def BuildRequest.startNote (request : BuildRequest) : Note :=
  ⟨.info, .pipeline, "Building model " ++ request.name ++ " for scenario " ++ request.scenario⟩

/-! ## Failed builds -/

/-- A build that may not overwrite an existing database fails before it reads anything, and
leaves the session as it was. -/
theorem buildModel_of_exists (request : BuildRequest) (s : Session)
    (hoverwrite : request.overwrite = false)
    (hexists : s.files.exists? request.databasePath = true) :
    (buildModel request).run.run s = (.error (.rule (.databaseExists request.databasePath)), s) := by
  unfold buildModel
  rw [Run.files_bind]
  dsimp only
  rw [if_pos (by simp [hoverwrite, hexists])]
  rfl

/-- Unless every step before the write succeeds, a build fails having only recorded notes. -/
theorem buildModel_records_unless_prepared (request : BuildRequest) (s : Session)
    (h : ¬ ∃ relations, request.Prepares s.files relations) :
    ∃ f, ∃ ns : List Note, (buildModel request).run.run s = (.error f, ns.foldl Session.record s) := by
  unfold buildModel
  rw [Run.files_bind]
  dsimp only
  split
  · exact ⟨_, [], rfl⟩
  rename_i hcheck
  rw [Run.files_bind]
  suffices hrest : ∃ f ns, Run.Records _ ns (.error f) by
    obtain ⟨f, ns, hf⟩ := hrest
    exact ⟨f, ns, hf s⟩
  have hmay : request.overwrite = true ∨ s.files.exists? request.databasePath = false := by
    cases ho : request.overwrite with
    | true => exact .inl rfl
    | false => exact .inr (by simpa [ho] using hcheck)
  -- the first step that fails ends the run; the steps before it only record notes
  rcases hload : loadInputs s.files request.inputsDir with f | inputs
  · exact ⟨_, _, .bind_error (.within _ (.ofExcept _))⟩
  refine Run.Records.fails_bind (.within _ (.ofExcept _)) ?_
  rcases hscenario : readScenario s.files request.scenarioDir request.scenario with f | scenario
  · exact ⟨_, _, .bind_error (.ofExcept _)⟩
  refine Run.Records.fails_bind (.ofExcept _) (Run.Records.fails_bind (.note _ _ _) ?_)
  split
  · -- no directives: the model is assembled from the inputs as read
    rename_i hempty
    have hpert : perturbed inputs scenario request.directives = .ok (inputs, scenario) := by
      rw [List.isEmpty_iff.mp hempty]
      rfl
    refine Run.Records.fails_bind (.pure _) (Run.Records.fails_bind (.noteAll _) ?_)
    dsimp only
    rcases hasm : (assembleModel inputs scenario).1 with f | relations
    · exact ⟨_, _, .bind_error (.within _ (.ofExcept _))⟩
    · exact absurd ⟨relations, hmay, inputs, scenario, _, hload, hscenario, hpert, hasm⟩ h
  · have hrun := Run.Records.perturb inputs scenario request.directives
    rcases hpert : perturbed inputs scenario request.directives with f | changed
    · rw [hpert] at hrun
      exact ⟨_, _, .bind_error hrun⟩
    rw [hpert] at hrun
    refine Run.Records.fails_bind hrun (Run.Records.fails_bind (.note _ _ _) ?_)
    refine Run.Records.fails_bind (.pure _) (Run.Records.fails_bind (.noteAll _) ?_)
    rcases hasm : (assembleModel changed.1 changed.2).1 with f | relations
    · exact ⟨_, _, .bind_error (.within _ (.ofExcept _))⟩
    · exact absurd ⟨relations, hmay, inputs, scenario, changed, hload, hscenario, hpert, hasm⟩ h

/-- A build whose directives fail has recorded that it builds the model, then the notes of the
directives. -/
theorem buildModel_of_directive_failure {request : BuildRequest} {s : Session}
    {inputs : InputTables} {scenario : Scenario} {f : Failure} {st : Perturbed}
    (hmay : request.overwrite = true ∨ s.files.exists? request.databasePath = false)
    (hload : loadInputs s.files request.inputsDir = .ok inputs)
    (hscenario : readScenario s.files request.scenarioDir request.scenario = .ok scenario)
    (hds : request.directives ≠ [])
    (hfail : (applyDirectives request.directives).run.run { inputs, scenario } = (.error f, st)) :
    (buildModel request).run.run s =
      (.error f, (request.startNote :: st.notes.toList).foldl Session.record s) := by
  unfold buildModel
  rw [Run.files_bind]
  dsimp only
  rw [if_neg (by rcases hmay with h | h <;> simp [h]), Run.files_bind]
  suffices hrest : Run.Records _ (request.startNote :: st.notes.toList) (.error f) from hrest s
  have hpert := Run.Records.perturb inputs scenario request.directives
  rw [perturbed, hfail] at hpert
  rw [hload, hscenario]
  -- the steps up to the directives record the start note only
  show Run.Records _ ([] ++ ([] ++ ([request.startNote] ++ st.notes.toList))) _
  refine (Run.Records.within _ (.ofExcept (.ok inputs))).bind ?_
  refine (Run.Records.ofExcept (.ok scenario)).bind ?_
  refine (Run.Records.note _ _ _).bind ?_
  rw [if_neg (by simpa using hds)]
  exact .bind_error hpert

/-- A build that fails before it writes changes no file but the logs. If it may not overwrite and
the database exists, it fails at once and changes nothing. Otherwise, unless every step before
the write succeeds, it fails having only recorded notes: no file or directory is created or
removed, an entry changes only if it is a log file, which then grows by text, and without file
logging the files are exactly as they were. So the output directory is created, and an existing
database replaced, only once the model has been assembled. -/
theorem buildModel_changes_no_file_before_writing (request : BuildRequest) (s : Session) :
    (request.overwrite = false → s.files.exists? request.databasePath = true →
      (buildModel request).run.run s =
        (.error (.rule (.databaseExists request.databasePath)), s)) ∧
    ((¬ ∃ relations, request.Prepares s.files relations) →
      ∃ f, ∃ ns : List Note,
        (buildModel request).run.run s = (.error f, ns.foldl Session.record s) ∧
        s.files.Grows (logKeys s.logging) (ns.foldl Session.record s).files ∧
        (s.logging = none → (ns.foldl Session.record s).files = s.files)) ∧
    ∀ k, k ∉ logKeys s.logging →
      ((buildModel request).run.run s).2.files.node? k ≠ s.files.node? k →
        ∃ relations, request.Prepares s.files relations := by
  refine ⟨buildModel_of_exists request s, fun h => ?_, fun k hk hchanged => ?_⟩
  · obtain ⟨f, ns, hrun⟩ := buildModel_records_unless_prepared request s h
    exact ⟨f, ns, hrun, Session.foldl_record_grows ns s,
      Session.foldl_record_files_of_none ns s⟩
  · refine Classical.byContradiction fun hnot => hchanged ?_
    obtain ⟨f, ns, hrun⟩ := buildModel_records_unless_prepared request s hnot
    rw [hrun]
    exact (Session.foldl_record_grows ns s).node?_of_not_mem hk

/-! ## A directive on an unknown variable, with file logging on -/

/-- A directive on a power plant variable that does not exist. -/
def unknownVariable : Directive := ⟨.powerPlants, "Colour", "P", .multiplier 5.0⟩

/-- The directive fails whatever the inputs, before it changes or notes anything. -/
theorem applyDirectives_unknownVariable (inputs : InputTables) (scenario : Scenario) :
    (applyDirectives [unknownVariable]).run.run { inputs, scenario } =
      (.error ((Failure.rule (.unknownPlantVariable "Colour")).within unknownVariable.context),
        { inputs, scenario }) := rfl

/-- The small inputs at the root, their scenario under `s`, and an empty information log. -/
def loggedFiles : FileTree Content :=
  ⟨(["s"], .directory) :: smallInputs.map (fun (name, text) => ([name], .file (.text text))) ++
    smallScenario.map (fun (name, text) => (["s", name], .file (.text text))) ++
    [([infoLogName], .file (.text ""))]⟩

/-- A session that logs information notes into the root. -/
def loggedSession : Session := { files := loggedFiles, logging := some ⟨some .info, ""⟩ }

/-- A build of the small inputs that applies the unknown variable. -/
def unknownVariableBuild : BuildRequest :=
  { inputsDir := "", scenarioDir := "s", scenario := "A", name := "m", outputDir := "out",
    directives := [unknownVariable] }

theorem loggedFiles_loads : ∃ inputs, loadInputs loggedFiles "" = .ok inputs := by
  apply Except.exists_eq_ok_of_isOk
  -- paths are split by rewriting, the tables are then read by evaluation
  simp +decide [loadInputs, readSystemTables, readPlantTables, readFuels, readConnections,
    readCatalog, readExisting, readSomeRows, readRows, readRawTable, readText, FileTree.read,
    Path.join, Path.parts, String.splitOn, String.splitOnAux]
  decide +kernel

theorem loggedFiles_scenario : ∃ scenario, readScenario loggedFiles "s" "A" = .ok scenario := by
  apply Except.exists_eq_ok_of_isOk
  simp only [readScenario, Scenario.readIncluded, Scenario.Settings.read, readRawTable,
    readText, FileTree.read, smallScenario_parts "PowerPlants.csv" (by simp [smallScenario]),
    smallScenario_parts "Fuels.csv" (by simp [smallScenario]),
    smallScenario_parts "Connections.csv" (by simp [smallScenario]),
    smallScenario_parts "SolverSettings.csv" (by simp [smallScenario])]
  decide +kernel

/-- The build fails on its directive, with the session otherwise untouched. -/
theorem buildModel_unknownVariable_records_only :
    (¬ ∃ relations, unknownVariableBuild.Prepares loggedSession.files relations) ∧
      ∃ f, ∃ ns : List Note,
        (buildModel unknownVariableBuild).run.run loggedSession =
          (.error f, ns.foldl Session.record loggedSession) ∧
        loggedSession.files.Grows (logKeys loggedSession.logging)
          (ns.foldl Session.record loggedSession).files ∧
        (loggedSession.logging = none →
          (ns.foldl Session.record loggedSession).files = loggedSession.files) := by
  have hnot : ¬ ∃ relations, unknownVariableBuild.Prepares loggedSession.files relations := by
    rintro ⟨relations, -, inputs, scenario, changed, -, -, hpert, -⟩
    rw [perturbed, show unknownVariableBuild.directives = [unknownVariable] from rfl,
      applyDirectives_unknownVariable] at hpert
    cases hpert
  exact ⟨hnot, (buildModel_changes_no_file_before_writing unknownVariableBuild loggedSession).2.1
    hnot⟩

/-- With file logging on, a build whose directive fails has already written to the information
log that it builds the model: a failed build does change a file. -/
theorem buildModel_unknownVariable_appends_log :
    (readText loggedSession.files infoLogName).toOption = some "" ∧
      ∃ f, (buildModel unknownVariableBuild).run.run loggedSession =
          (.error f, [unknownVariableBuild.startNote].foldl Session.record loggedSession) ∧
        (readText ([unknownVariableBuild.startNote].foldl Session.record loggedSession).files
          infoLogName).toOption =
          some "[HH:MM:SS INFO temoatools::pipeline] Building model m for scenario A\n" := by
  obtain ⟨inputs, hload⟩ := loggedFiles_loads
  obtain ⟨scenario, hscenario⟩ := loggedFiles_scenario
  have hlog : Path.parts infoLogName = [infoLogName] := by
    simp +decide [infoLogName, Path.parts, String.splitOn, String.splitOnAux]
  have hjoin : Path.join "" infoLogName = infoLogName := by
    simp [Path.join]
  have hload' : loadInputs loggedSession.files unknownVariableBuild.inputsDir = .ok inputs := hload
  have hscenario' : readScenario loggedSession.files unknownVariableBuild.scenarioDir
      unknownVariableBuild.scenario = .ok scenario := hscenario
  have hmay : unknownVariableBuild.overwrite = true ∨
      loggedSession.files.exists? unknownVariableBuild.databasePath = false := .inl rfl
  have hrun := buildModel_of_directive_failure hmay hload' hscenario' (List.cons_ne_nil _ _)
    (applyDirectives_unknownVariable inputs scenario)
  refine ⟨?_, _, hrun, ?_⟩
  · simp only [loggedSession, readText, FileTree.read, hlog]
    decide +kernel
  · simp only [List.foldl_cons, List.foldl_nil, loggedSession, Session.record, appendLine,
      readText, FileTree.read, FileTree.write, hjoin, hlog]
    decide +kernel

end EnergyModel
