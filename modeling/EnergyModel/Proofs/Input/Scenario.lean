import EnergyModel.Scenario
import EnergyModel.Proofs.Assembly.Keys

/-!
# What a scenario directory says a scenario is

A scenario is a column of four tables. Its column is the first one named after it, and never
the first column of a table, which must be the key column `Scenario` (`SelectsColumn`); so a
scenario named `Scenario` has no column at all. The tables of plants, fuels and connections
include an entity when its row says `Y` in the column, blanks aside (`includedBy`): entities
come in file order and as often as their rows do. The solver settings are looked up by the
first cell of their rows, and a setting given twice takes its last row (`LastRow`); a switch is
on when its cell says `Y`, and a number is whatever its cell reads as, with an empty cell or a
marker for a missing value giving none.

`ScenarioReads` gathers these rules, and reading a scenario gives exactly the scenario they
describe (`readScenario_eq_ok_iff`). Some scenario fits them exactly when the tables read with a
column for the scenario, every setting has a row, and the cell of every number is empty, a
marker for a missing value or a number (`ScenarioReadable`); so reading fails exactly when one
of these does not hold (`readScenario_reads_named_column`).
-/

namespace EnergyModel.Scenario

open Input

/-! ## The column of a scenario -/

section Column

/-- Column `i` of a header is the column of scenario `S`: the header starts with the key
column, and `i` is the first column named `S`, which is not the key column. -/
structure SelectsColumn (header : List String) (S : String) (i : Nat) : Prop where
  key : header.head? = some keyColumn
  not_key : 0 < i
  named : header[i]? = some S
  first : ∀ j < i, header[j]? ≠ some S

theorem findIdx?_beq_eq_some_iff {xs : List String} {S : String} {i : Nat} :
    xs.findIdx? (· == S) = some i ↔ xs[i]? = some S ∧ ∀ j < i, xs[j]? ≠ some S := by
  rw [List.findIdx?_eq_some_iff_getElem]
  constructor
  · rintro ⟨hi, hS, hfirst⟩
    refine ⟨by simpa [List.getElem?_eq_getElem hi] using hS, fun j hj => ?_⟩
    have := hfirst j hj
    simpa [List.getElem?_eq_getElem (Nat.lt_trans hj hi)] using this
  · rintro ⟨hS, hfirst⟩
    obtain ⟨hi, hget⟩ := List.getElem?_eq_some_iff.mp hS
    refine ⟨hi, by simpa using hget, fun j hj => ?_⟩
    have := hfirst j hj
    simpa [List.getElem?_eq_getElem (Nat.lt_trans hj hi)] using this

theorem column_eq_ok_iff {table : RawTable} {S : String} {i : Nat} :
    column table S = .ok i ↔ SelectsColumn table.header S i := by
  unfold column
  by_cases hkey : table.header.head? = some keyColumn
  · simp only [hkey, bne_self_eq_false, Bool.false_eq_true, ↓reduceIte]
    cases hfind : table.header.findIdx? (· == S) with
    | none =>
      simp only [reduceCtorEq, false_iff]
      intro h
      rw [List.findIdx?_eq_none_iff] at hfind
      have := hfind S (List.mem_of_getElem? h.named)
      simp at this
    | some k =>
      obtain ⟨hk, hkfirst⟩ := findIdx?_beq_eq_some_iff.mp hfind
      constructor
      · intro h
        by_cases hk0 : k > 0
        · simp only [hk0, ↓reduceIte, Except.ok.injEq] at h
          subst h
          exact ⟨hkey, hk0, hk, hkfirst⟩
        · simp [hk0] at h
      · intro h
        -- two first columns named `S` are one
        have hki : k = i := by
          rcases Nat.lt_trichotomy k i with hlt | heq | hgt
          · exact absurd hk (h.first k hlt)
          · exact heq
          · exact absurd h.named (hkfirst i hgt)
        subst hki
        simp [h.not_key]
  · have hmisnamed : (table.header.head? != some keyColumn) = true := by simpa using hkey
    simp only [hmisnamed, ↓reduceIte, reduceCtorEq, false_iff]
    exact fun h => hkey h.key

/-- Reading a table and then its scenario column succeeds exactly when the table reads and has
a column for the scenario. -/
theorem readColumn_eq_ok_iff {β : Type} {files : FileTree Content} {path S : String}
    {f : RawTable → Nat → β} {v : β} :
    (do
      let table ← readRawTable files path
      match column table S with
      | .error p => throw ((Failure.rule p).within (readingContext path))
      | .ok i => pure (f table i) : Except Failure β) = .ok v ↔
      ∃ t i, readRawTable files path = .ok t ∧ SelectsColumn t.header S i ∧ v = f t i := by
  rw [bind_eq_ok_iff]
  simp only [exists_and_left]
  refine exists_congr fun t => and_congr_right fun _ => ?_
  cases hcol : column t S with
  | error p =>
    simp only [throw, throwThe, MonadExceptOf.throw, reduceCtorEq, false_iff, not_exists, not_and]
    intro i hi
    rw [← column_eq_ok_iff, hcol] at hi
    cases hi
  | ok k =>
    simp only [pure, Except.pure, Except.ok.injEq]
    constructor
    · rintro rfl
      exact ⟨k, column_eq_ok_iff.mp hcol, rfl⟩
    · rintro ⟨i, hi, rfl⟩
      rw [← column_eq_ok_iff, hcol] at hi
      cases hi
      rfl

end Column

/-! ## Included entities -/

section Included

/-- The entities a column includes: the first cell of every row whose cell in the column is `Y`,
blanks aside, in file order and with repetitions. -/
def includedBy (rows : List (List String)) (i : Nat) : List String :=
  (rows.filter fun row => isYes (row.getD i "")).map (·.headD "")

example : includedBy [["COAL", "Y", "N"], ["GAS", "N", "Y"], ["WIND", "Y", " Y"]] 2 =
    ["GAS", "WIND"] := by decide

/-- A table file marks `names` for scenario `S`: it reads, it has a column for `S`, and `names`
are the entities that column includes. -/
def Marks (files : FileTree Content) (path S : String) (names : List String) : Prop :=
  ∃ t i, readRawTable files path = .ok t ∧ SelectsColumn t.header S i ∧ names = includedBy t.rows i

/-- A row too short for the column says no. -/
theorem isYes_getElem? (row : List String) (i : Nat) :
    (row[i]?.map isYes).getD false = isYes (row.getD i "") := by
  cases h : row[i]? <;> simp [List.getD_eq_getElem?_getD, h]
  rfl

theorem readIncluded_eq_ok_iff {files : FileTree Content} {path S : String} {names : List String} :
    readIncluded files path S = .ok names ↔ Marks files path S names := by
  unfold readIncluded
  refine readColumn_eq_ok_iff.trans ?_
  simp only [Marks, includedBy, isYes_getElem?]

end Included

/-! ## Solver settings -/

section Settings

/-- The settings a table gives in column `i`: each row's first cell with its cell in the
column. -/
def settingsIn (rows : List (List String)) (i : Nat) : Settings :=
  ⟨rows.map fun row => (row.headD "", row.getD i "")⟩

theorem Settings.read_eq_ok_iff {files : FileTree Content} {path S : String} {s : Settings} :
    Settings.read files path S = .ok s ↔
      ∃ t i, readRawTable files path = .ok t ∧ SelectsColumn t.header S i ∧ s = settingsIn t.rows i :=
  readColumn_eq_ok_iff

/-- `row` is the last row of setting `name`: its first cell names the setting, and no row after
it does. -/
def LastRow (rows : List (List String)) (name : String) (row : List String) : Prop :=
  ∃ before after, rows = before ++ row :: after ∧ row.headD "" = name ∧
    ∀ r ∈ after, r.headD "" ≠ name

theorem getLast?_filter_eq_some_iff {rows : List (List String)} {name : String}
    {row : List String} :
    (rows.filter (·.headD "" == name)).getLast? = some row ↔ LastRow rows name row := by
  rw [List.getLast?_filter, List.find?_eq_some_iff_append]
  constructor
  · rintro ⟨hrow, after, before, hrev, hafter⟩
    refine ⟨before.reverse, after.reverse, ?_, by simpa using hrow, fun r hr => ?_⟩
    · rw [← List.reverse_reverse rows, hrev]
      simp
    · simpa using hafter r (List.mem_reverse.mp hr)
  · rintro ⟨before, after, rfl, hrow, hafter⟩
    refine ⟨by simpa using hrow, after.reverse, before.reverse, by simp, fun r hr => ?_⟩
    simpa using hafter r (List.mem_reverse.mp hr)

/-- A setting's value is the cell of its last row. -/
theorem Settings.get_settingsIn {rows : List (List String)} {i : Nat} {name v : String} :
    (settingsIn rows i).get name = .ok v ↔ ∃ row, LastRow rows name row ∧ row.getD i "" = v := by
  unfold Settings.get settingsIn
  simp only [List.filter_map]
  have hkey : ((fun p : String × String => p.1 == name) ∘
      fun row : List String => (row.headD "", row.getD i "")) = (·.headD "" == name) := rfl
  rw [hkey, List.getLast?_map]
  cases hlast : (rows.filter (·.headD "" == name)).getLast? with
  | none =>
    simp only [Option.map_none, reduceCtorEq, false_iff, not_exists, not_and]
    intro row hrow
    rw [← getLast?_filter_eq_some_iff, hlast] at hrow
    cases hrow
  | some r =>
    simp only [Option.map_some, Except.ok.injEq]
    constructor
    · intro h
      exact ⟨r, getLast?_filter_eq_some_iff.mp hlast, h⟩
    · rintro ⟨row, hrow, rfl⟩
      rw [← getLast?_filter_eq_some_iff, hlast] at hrow
      cases hrow
      rfl

theorem Settings.flag_eq_ok_iff {s : Settings} {name : String} {b : Bool} :
    s.flag name = .ok b ↔ ∃ v, s.get name = .ok v ∧ isYes v = b := by
  unfold Settings.flag
  cases s.get name <;> simp [Except.map]

theorem Settings.value_eq_ok_iff {s : Settings} {name : String} {x : Option Float} :
    s.value name = .ok x ↔ ∃ v, s.get name = .ok v ∧ parseValue v = .ok x := by
  unfold Settings.value
  rw [bind_eq_ok_iff]
  refine exists_congr fun v => and_congr_right fun _ => ?_
  cases parseValue v <;> simp [pure, Except.pure, throw, throwThe, MonadExceptOf.throw]

theorem Settings.flag_settingsIn {rows : List (List String)} {i : Nat} {name : String}
    {b : Bool} :
    (settingsIn rows i).flag name = .ok b ↔
      ∃ row, LastRow rows name row ∧ isYes (row.getD i "") = b := by
  simp only [Settings.flag_eq_ok_iff, Settings.get_settingsIn, exists_exists_and_eq_and]

theorem Settings.value_settingsIn {rows : List (List String)} {i : Nat} {name : String}
    {x : Option Float} :
    (settingsIn rows i).value name = .ok x ↔
      ∃ row, LastRow rows name row ∧ parseValue (row.getD i "") = .ok x := by
  simp only [Settings.value_eq_ok_iff, Settings.get_settingsIn, exists_exists_and_eq_and]

/-- Decoding the settings succeeds exactly when every switch and every number does, each
looked up in turn. -/
theorem Settings.decode_eq_ok_iff {s : Settings} {tg : Toggles} {g se l : Option Float} :
    s.decode = .ok (tg, g, se, l) ↔
      s.flag "include_baseload" = .ok tg.baseload ∧
      s.flag "include_reserve_margin" = .ok tg.reserveMargin ∧
      s.flag "include_ramping" = .ok tg.ramping ∧
      s.flag "include_growth_limit" = .ok tg.growthLimit ∧
      s.flag "include_RPS" = .ok tg.rps ∧
      s.flag "include_emission_limit" = .ok tg.emissionLimit ∧
      s.flag "include_min_capacity_limit" = .ok tg.minCapacityLimit ∧
      s.value "MaxGrowthRate" = .ok g ∧ s.value "MinGrowthSeed" = .ok se ∧
      s.value "MaxLoan_yrs" = .ok l := by
  unfold Settings.decode
  simp only [bind_eq_ok_iff, pure, Except.pure, Except.ok.injEq, Prod.mk.injEq]
  constructor
  · rintro ⟨_, h₁, _, h₂, _, h₃, _, h₄, _, h₅, _, h₆, _, h₇, _, h₈, _, h₉, _, h₁₀,
      rfl, rfl, rfl, rfl⟩
    exact ⟨h₁, h₂, h₃, h₄, h₅, h₆, h₇, h₈, h₉, h₁₀⟩
  · rintro ⟨h₁, h₂, h₃, h₄, h₅, h₆, h₇, h₈, h₉, h₁₀⟩
    exact ⟨_, h₁, _, h₂, _, h₃, _, h₄, _, h₅, _, h₆, _, h₇, _, h₈, _, h₉, _, h₁₀,
      rfl, rfl, rfl, rfl⟩

/-- The switches of a scenario, each with the setting that gives it. -/
def toggleSettings : List (String × (Toggles → Bool)) :=
  [("include_baseload", (·.baseload)), ("include_reserve_margin", (·.reserveMargin)),
    ("include_ramping", (·.ramping)), ("include_growth_limit", (·.growthLimit)),
    ("include_RPS", (·.rps)), ("include_emission_limit", (·.emissionLimit)),
    ("include_min_capacity_limit", (·.minCapacityLimit))]

/-- The numbers of a scenario, each with the setting that gives it. -/
def numberSettings : List (String × (Scenario → Option Float)) :=
  [("MaxGrowthRate", (·.maxGrowthRate)), ("MinGrowthSeed", (·.minGrowthSeed)),
    ("MaxLoan_yrs", (·.maxLoanYears))]

/-- What the solver settings in column `i` give a scenario: each switch is whether the cell of
the last row of its setting says yes, and each number is the value of that cell. -/
structure SettingsGive (rows : List (List String)) (i : Nat) (sc : Scenario) : Prop where
  toggles : ∀ p ∈ toggleSettings, ∃ row, LastRow rows p.1 row ∧
    isYes (row.getD i "") = p.2 sc.toggles
  numbers : ∀ p ∈ numberSettings, ∃ row, LastRow rows p.1 row ∧
    parseValue (row.getD i "") = .ok (p.2 sc)

theorem settingsGive_iff_decode {rows : List (List String)} {i : Nat} {sc : Scenario} :
    SettingsGive rows i sc ↔ (settingsIn rows i).decode =
      .ok (sc.toggles, sc.maxGrowthRate, sc.minGrowthSeed, sc.maxLoanYears) := by
  rw [Settings.decode_eq_ok_iff]
  simp only [Settings.flag_settingsIn, Settings.value_settingsIn]
  constructor
  · rintro ⟨htoggles, hnumbers⟩
    simp only [toggleSettings, numberSettings, List.mem_cons, List.not_mem_nil, or_false,
      forall_eq_or_imp, forall_eq] at htoggles hnumbers
    exact ⟨htoggles.1, htoggles.2.1, htoggles.2.2.1, htoggles.2.2.2.1, htoggles.2.2.2.2.1,
      htoggles.2.2.2.2.2.1, htoggles.2.2.2.2.2.2, hnumbers.1, hnumbers.2.1, hnumbers.2.2⟩
  · rintro ⟨h₁, h₂, h₃, h₄, h₅, h₆, h₇, h₈, h₉, h₁₀⟩
    constructor
    · simp only [toggleSettings, List.mem_cons, List.not_mem_nil, or_false, forall_eq_or_imp,
        forall_eq]
      exact ⟨h₁, h₂, h₃, h₄, h₅, h₆, h₇⟩
    · simp only [numberSettings, List.mem_cons, List.not_mem_nil, or_false, forall_eq_or_imp,
        forall_eq]
      exact ⟨h₈, h₉, h₁₀⟩

end Settings

end Scenario

open Scenario Input

/-- What the files of a scenario directory say scenario `S` is: the tables of plants, fuels and
connections mark its entities, and the solver settings, in the scenario's column, give its
switches and numbers. -/
structure ScenarioReads (files : FileTree Content) (dir S : String) (sc : Scenario) : Prop where
  name : sc.name = S
  plants : Marks files (Path.join dir "PowerPlants.csv") S sc.plants
  fuels : Marks files (Path.join dir "Fuels.csv") S sc.fuels
  connections : Marks files (Path.join dir "Connections.csv") S sc.connections
  settings : ∃ t i, readRawTable files (Path.join dir "SolverSettings.csv") = .ok t ∧
    SelectsColumn t.header S i ∧ SettingsGive t.rows i sc

/-- Reading a scenario gives exactly the scenario its directory describes; so it succeeds
exactly when some scenario fits the description. -/
theorem readScenario_eq_ok_iff {files : FileTree Content} {dir S : String} {sc : Scenario} :
    readScenario files dir S = .ok sc ↔ ScenarioReads files dir S sc := by
  unfold readScenario
  simp only [bind_eq_ok_iff, readIncluded_eq_ok_iff]
  constructor
  · rintro ⟨plants, hplants, fuels, hfuels, connections, hconnections, settings, hread, hdecode⟩
    obtain ⟨t, i, ht, hi, rfl⟩ := Settings.read_eq_ok_iff.mp hread
    cases hd : (settingsIn t.rows i).decode with
    | error f =>
      simp [hd, bind, Except.bind, throw, throwThe, MonadExceptOf.throw] at hdecode
    | ok v =>
      obtain ⟨toggles, growth, seed, loan⟩ := v
      simp only [hd, pure, Except.pure, bind, Except.bind, Except.ok.injEq] at hdecode
      subst hdecode
      exact ⟨rfl, hplants, hfuels, hconnections, t, i, ht, hi, settingsGive_iff_decode.mpr hd⟩
  · rintro ⟨hname, hplants, hfuels, hconnections, t, i, ht, hi, hgive⟩
    refine ⟨_, hplants, _, hfuels, _, hconnections, _,
      Settings.read_eq_ok_iff.mpr ⟨t, i, ht, hi, rfl⟩, ?_⟩
    rw [settingsGive_iff_decode.mp hgive]
    subst hname
    rfl

/-- The entity tables of a scenario directory. -/
def entityTables : List String := ["PowerPlants.csv", "Fuels.csv", "Connections.csv"]

/-- When a scenario directory can be read for scenario `S`: its entity tables read with a
column for `S`, and so do the solver settings, which have a row for every setting and, for each
number, a last row whose cell is empty, a marker for a missing value, or a number. -/
structure ScenarioReadable (files : FileTree Content) (dir S : String) : Prop where
  tables : ∀ name ∈ entityTables, ∃ t i, readRawTable files (Path.join dir name) = .ok t ∧
    SelectsColumn t.header S i
  settings : ∃ t i, readRawTable files (Path.join dir "SolverSettings.csv") = .ok t ∧
    SelectsColumn t.header S i ∧ (∀ p ∈ toggleSettings, ∃ row, LastRow t.rows p.1 row) ∧
    ∀ p ∈ numberSettings, ∃ row, LastRow t.rows p.1 row ∧ ∃ v, parseValue (row.getD i "") = .ok v

theorem exists_scenarioReads_iff {files : FileTree Content} {dir S : String} :
    (∃ sc, ScenarioReads files dir S sc) ↔ ScenarioReadable files dir S := by
  constructor
  · rintro ⟨sc, hname, ⟨tp, ip, hp, hip, -⟩, ⟨tf, i_f, hf, hif, -⟩, ⟨tc, ic, hc, hic, -⟩, t, i, ht, hi, hgive⟩
    refine ⟨?_, t, i, ht, hi, fun p hp => ?_, fun p hp => ?_⟩
    · simp only [entityTables, List.mem_cons, List.not_mem_nil, or_false, forall_eq_or_imp, forall_eq]
      exact ⟨⟨tp, ip, hp, hip⟩, ⟨tf, i_f, hf, hif⟩, ⟨tc, ic, hc, hic⟩⟩
    · obtain ⟨row, hrow, -⟩ := hgive.toggles p hp
      exact ⟨row, hrow⟩
    · obtain ⟨row, hrow, hv⟩ := hgive.numbers p hp
      exact ⟨row, hrow, _, hv⟩
  · rintro ⟨htables, t, i, ht, hi, htoggles, hnumbers⟩
    simp only [entityTables, List.mem_cons, List.not_mem_nil, or_false, forall_eq_or_imp, forall_eq] at htables
    obtain ⟨⟨tp, ip, hp, hip⟩, ⟨tf, i_f, hf, hif⟩, ⟨tc, ic, hc, hic⟩⟩ := htables
    simp only [toggleSettings, numberSettings, List.mem_cons, List.not_mem_nil, or_false,
      forall_eq_or_imp, forall_eq] at htoggles hnumbers
    obtain ⟨⟨r₁, h₁⟩, ⟨r₂, h₂⟩, ⟨r₃, h₃⟩, ⟨r₄, h₄⟩, ⟨r₅, h₅⟩, ⟨r₆, h₆⟩, ⟨r₇, h₇⟩⟩ := htoggles
    obtain ⟨⟨r₈, h₈, growth, hg⟩, ⟨r₉, h₉, seed, hse⟩, ⟨r₁₀, h₁₀, loan, hl⟩⟩ := hnumbers
    let cell (row : List String) : String := row.getD i ""
    let toggles : Toggles := ⟨isYes (cell r₁), isYes (cell r₂), isYes (cell r₃), isYes (cell r₄),
      isYes (cell r₅), isYes (cell r₆), isYes (cell r₇)⟩
    refine ⟨⟨S, toggles, growth, seed, loan, includedBy tp.rows ip, includedBy tf.rows i_f,
      includedBy tc.rows ic⟩, rfl, ⟨tp, ip, hp, hip, rfl⟩, ⟨tf, i_f, hf, hif, rfl⟩,
      ⟨tc, ic, hc, hic, rfl⟩, t, i, ht, hi, ?_, ?_⟩
    · simp only [toggleSettings, List.mem_cons, List.not_mem_nil, or_false, forall_eq_or_imp, forall_eq]
      exact ⟨⟨r₁, h₁, rfl⟩, ⟨r₂, h₂, rfl⟩, ⟨r₃, h₃, rfl⟩, ⟨r₄, h₄, rfl⟩, ⟨r₅, h₅, rfl⟩, ⟨r₆, h₆, rfl⟩, ⟨r₇, h₇, rfl⟩⟩
    · simp only [numberSettings, List.mem_cons, List.not_mem_nil, or_false, forall_eq_or_imp, forall_eq]
      exact ⟨⟨r₈, h₈, hg⟩, ⟨r₉, h₉, hse⟩, ⟨r₁₀, h₁₀, hl⟩⟩

/-- Reading scenario `S` succeeds exactly when its tables read with a column for `S`, every
setting has a row and every number's cell reads; and it then gives the scenario the directory
describes: the entities marked `Y` in its column, the switches and numbers of the last row of
each setting. -/
theorem readScenario_reads_named_column (files : FileTree Content) (dir S : String) :
    ((∃ sc, readScenario files dir S = .ok sc) ↔ ScenarioReadable files dir S) ∧
      ∀ sc, readScenario files dir S = .ok sc ↔ ScenarioReads files dir S sc :=
  ⟨(exists_congr fun _ => readScenario_eq_ok_iff).trans exists_scenarioReads_iff,
    fun _ => readScenario_eq_ok_iff⟩

/-- A scenario folder whose fuel table has two scenarios: `A` includes the fuel `F`, and `B` the
fuel `G`. -/
def twoScenarioFiles : FileTree Content :=
  inputFolder [] (replaceTable smallScenario "Fuels.csv" "Scenario,A,B\nF,Y,N\nG,N,Y\n")

/-- Scenario `A` of the folder reads, with the fuel `F` alone. The reading is evaluated with its
paths split by rewriting. -/
theorem twoScenarioFiles_eval :
    (readScenario twoScenarioFiles "s" "A").toOption.map (·.fuels) = some ["F"] := by
  conv =>
    lhs; arg 2; arg 1
    simp only [readScenario, Scenario.readIncluded, Scenario.Settings.read, readRawTable,
      readText, FileTree.read, smallScenario_parts "PowerPlants.csv" (by simp [smallScenario]),
      smallScenario_parts "Fuels.csv" (by simp [smallScenario]),
      smallScenario_parts "Connections.csv" (by simp [smallScenario]),
      smallScenario_parts "SolverSettings.csv" (by simp [smallScenario])]
  decide +kernel

/-- Scenario `A` of the two-scenario folder is readable, and the scenario read is the one its
column describes, which includes the fuel `F` alone. -/
theorem twoScenarioFiles_reads :
    ScenarioReadable twoScenarioFiles "s" "A" ∧
      ∃ sc, readScenario twoScenarioFiles "s" "A" = .ok sc ∧
        ScenarioReads twoScenarioFiles "s" "A" sc ∧ sc.fuels = ["F"] := by
  obtain ⟨sc, hread, hfuels⟩ := Except.exists_eq_ok_of_toOption_map twoScenarioFiles_eval
  have hcolumn := readScenario_reads_named_column twoScenarioFiles "s" "A"
  exact ⟨hcolumn.1.mp ⟨sc, hread⟩, sc, hread, (hcolumn.2 sc).mp hread, hfuels⟩

end EnergyModel
