import EnergyModel.Proofs.Assembly.Keys

/-!
# Time slices named by the rows of a model

A year is cut into representative days (seasons) and times of day, listed by the rows of
`time_season` and `time_of_day`. Three relations give a value per slice and name it by its
season and its time of day: the share of the year (`SegFrac`), the split of demand over the
slices (`DemandSpecificDistribution`) and the capacity factors of technologies
(`CapacityFactorTech`).

The shares of the year, and the capacity factors of a technology whose fuel has no profile,
are made for every pair of a listed season and a listed time of day, so the slices they name
are listed. The split of demand is made for every listed season from the demand shares given
for it, and a fuel's profile is copied row by row: the times of day of the shares, and the
seasons and times of day of a profile, are the input's own, and nothing compares them with the
slice tables. They name listed slices exactly when the input's shares and profiles do
(`SystemTables.SlicesListed`). Loading the inputs does not check it: inputs read from files
whose demand share names a time of day that is not listed load, and assemble into a model whose
split of demand names that time of day.
-/

namespace EnergyModel

open Assembly

/-- The relations whose rows name a time slice. -/
def Relation.sliced : List Relation := [.segFrac, .demandSpecificDistribution, .capacityFactorTech]

/-- A cell names a season that has a row in `time_season`. -/
def SeasonListed (rel : RelationSet) (c : Cell) : Prop :=
  ∃ s ∈ (rel.rows .timeSeason).toList, Relation.timeSeason.cell "t_season" s = some c

/-- A cell names a time of day that has a row in `time_of_day`. -/
def TimeOfDayListed (rel : RelationSet) (c : Cell) : Prop :=
  ∃ s ∈ (rel.rows .timeOfDay).toList, Relation.timeOfDay.cell "t_day" s = some c

/-- A row of a sliced relation names a listed season and a listed time of day. -/
def SliceResolves (rel : RelationSet) (r : Relation) (row : Tuple) : Prop :=
  (∃ c, r.cell "season_name" row = some c ∧ SeasonListed rel c) ∧
    ∃ c, r.cell "time_of_day_name" row = some c ∧ TimeOfDayListed rel c

/-- The demand shares name listed times of day, and the capacity-factor profiles listed seasons
and times of day. -/
def Input.SystemTables.SlicesListed (s : Input.SystemTables) : Prop :=
  (∀ share ∈ s.demandShares, share.timeOfDay ∈ s.timesOfDay.map (·.name)) ∧
    ∀ p ∈ s.capacityFactors, p.day ∈ s.days.map (·.name) ∧ p.timeOfDay ∈ s.timesOfDay.map (·.name)

/-- A sliced relation has the season first and the time of day second. -/
theorem Relation.cell_slice {r : Relation} (hr : r ∈ Relation.sliced) (season time : Cell)
    (rest : Tuple) :
    r.cell "season_name" (season :: time :: rest) = some season ∧
      r.cell "time_of_day_name" (season :: time :: rest) = some time := by
  simp only [Relation.sliced, List.mem_cons, List.not_mem_nil, or_false] at hr
  rcases hr with rfl | rfl | rfl <;> exact ⟨rfl, rfl⟩

/-! ## The rows of the slices and of the relations that name them -/

section Rows

variable (c : Setting)

@[simp] theorem rowsIn_system_timeSeason :
    rowsIn .timeSeason (calendarPushes c ++ policyPushes c) =
      c.inputs.system.days.map fun d => [.text d.name] := by
  simp [apply_ite (rowsIn _)]

@[simp] theorem rowsIn_system_timeOfDay :
    rowsIn .timeOfDay (calendarPushes c ++ policyPushes c) =
      c.inputs.system.timesOfDay.map fun t => [.text t.name] := by
  simp [apply_ite (rowsIn _)]

@[simp] theorem rowsIn_system_segFrac :
    rowsIn .segFrac (calendarPushes c ++ policyPushes c) =
      c.inputs.system.days.flatMap fun d => c.inputs.system.timesOfDay.map fun t =>
        [.text d.name, .text t.name, .real (d.timeFraction * t.timeFraction), .text noteText] := by
  simp [apply_ite (rowsIn _)]

@[simp] theorem rowsIn_system_demandSpecificDistribution :
    rowsIn .demandSpecificDistribution (calendarPushes c ++ policyPushes c) =
      c.inputs.system.days.flatMap fun d =>
        (c.inputs.system.demandShares.filter (·.day == d.name)).map fun s =>
          [.text d.name, .text s.timeOfDay, .text demandCommodity,
            .real (d.demandFraction * s.fraction), .text noteText] := by
  simp [apply_ite (rowsIn _)]

@[simp] theorem rowsIn_techPushes_capacityFactorTech (t : Technology) :
    rowsIn .capacityFactorTech (techPushes c t) =
      (Input.present t.capacityFactor).toList.flatMap fun factor =>
        if t.sector != .electric then [] else capacityFactorRows c.inputs.system t factor := by
  simp [techPushes, apply_ite (rowsIn _)]

end Rows

/-- A capacity-factor row of a technology is a row of its fuel's profile, or one made for a pair
of a listed season and a listed time of day. -/
theorem mem_capacityFactorRows {system : Input.SystemTables} {t : Technology} {factor : Float}
    {row : Tuple} (hrow : row ∈ capacityFactorRows system t factor) :
    (∃ p ∈ system.capacityFactors,
      row = [.text p.day, .text p.timeOfDay, techCell t, .real (clampUnit (p.factor * factor)),
        .text noteText]) ∨
    ∃ d ∈ system.days, ∃ tod ∈ system.timesOfDay,
      row = [.text d.name, .text tod.name, techCell t, .real factor, .text noteText] := by
  unfold capacityFactorRows at hrow
  split at hrow
  · -- the fuel's profile, copied row by row
    obtain ⟨p, hp, rfl⟩ := List.mem_map.mp hrow
    exact .inl ⟨p, (List.mem_filter.mp hp).1, rfl⟩
  · obtain ⟨d, hd, hrow⟩ := List.mem_flatMap.mp hrow
    obtain ⟨tod, htod, rfl⟩ := List.mem_map.mp hrow
    exact .inr ⟨d, hd, tod, htod, rfl⟩

/-! ## Slices in an assembled model -/

namespace Builder.Fresh

variable {b : Builder} {plants fuels connections : List Technology}

/-- The seasons of an assembled model are the representative days. -/
theorem seasonListed_iff (hb : b.Fresh) {c : Cell} :
    SeasonListed (b.assembled plants fuels connections).relations c ↔
      ∃ d ∈ b.inputs.system.days, c = .text d.name := by
  rw [SeasonListed, hb.rows_assembled_of_system (by decide) (by decide) (by decide),
    rowsIn_system_timeSeason]
  simp only [List.mem_map]
  constructor
  · rintro ⟨_, ⟨d, hd, rfl⟩, hcell⟩
    exact ⟨d, hd, (Option.some.inj hcell).symm⟩
  · rintro ⟨d, hd, rfl⟩
    exact ⟨_, ⟨d, hd, rfl⟩, rfl⟩

/-- The times of day of an assembled model are the listed times of day. -/
theorem timeOfDayListed_iff (hb : b.Fresh) {c : Cell} :
    TimeOfDayListed (b.assembled plants fuels connections).relations c ↔
      ∃ t ∈ b.inputs.system.timesOfDay, c = .text t.name := by
  rw [TimeOfDayListed, hb.rows_assembled_of_system (by decide) (by decide) (by decide),
    rowsIn_system_timeOfDay]
  simp only [List.mem_map]
  constructor
  · rintro ⟨_, ⟨t, ht, rfl⟩, hcell⟩
    exact ⟨t, ht, (Option.some.inj hcell).symm⟩
  · rintro ⟨t, ht, rfl⟩
    exact ⟨_, ⟨t, ht, rfl⟩, rfl⟩

/-- A row made for a listed season and a listed time of day names a listed slice. -/
theorem sliceResolves_of_listed (hb : b.Fresh) {r : Relation} (hr : r ∈ Relation.sliced)
    {d : Input.RepresentativeDay} {t : Input.TimeOfDay} (hd : d ∈ b.inputs.system.days)
    (ht : t ∈ b.inputs.system.timesOfDay) (rest : Tuple) :
    SliceResolves (b.assembled plants fuels connections).relations r
      (.text d.name :: .text t.name :: rest) := by
  obtain ⟨hseason, htime⟩ := Relation.cell_slice hr (.text d.name) (.text t.name) rest
  exact ⟨⟨_, hseason, hb.seasonListed_iff.mpr ⟨d, hd, rfl⟩⟩,
    ⟨_, htime, hb.timeOfDayListed_iff.mpr ⟨t, ht, rfl⟩⟩⟩

/-- The shares of the year are given for every pair of a listed season and a listed time of
day, and for nothing else. -/
theorem mem_segFrac_rows (hb : b.Fresh) {row : Tuple} :
    row ∈ ((b.assembled plants fuels connections).relations.rows .segFrac).toList ↔
      ∃ d ∈ b.inputs.system.days, ∃ t ∈ b.inputs.system.timesOfDay,
        row = [.text d.name, .text t.name, .real (d.timeFraction * t.timeFraction),
          .text noteText] := by
  rw [hb.rows_assembled_of_system (by decide) (by decide) (by decide), rowsIn_system_segFrac]
  simp only [List.mem_flatMap, List.mem_map, Builder.setting]
  constructor
  · rintro ⟨d, hd, t, ht, rfl⟩
    exact ⟨d, hd, t, ht, rfl⟩
  · rintro ⟨d, hd, t, ht, rfl⟩
    exact ⟨d, hd, t, ht, rfl⟩

/-- The split of demand is given for every listed season and every demand share given for it,
and for nothing else. -/
theorem mem_demandSpecificDistribution_rows (hb : b.Fresh) {row : Tuple} :
    row ∈ ((b.assembled plants fuels connections).relations.rows
        .demandSpecificDistribution).toList ↔
      ∃ d ∈ b.inputs.system.days, ∃ s ∈ b.inputs.system.demandShares, s.day = d.name ∧
        row = [.text d.name, .text s.timeOfDay, .text demandCommodity,
          .real (d.demandFraction * s.fraction), .text noteText] := by
  rw [hb.rows_assembled_of_system (by decide) (by decide) (by decide),
    rowsIn_system_demandSpecificDistribution]
  simp only [List.mem_flatMap, List.mem_map, List.mem_filter, beq_iff_eq, Builder.setting]
  constructor
  · rintro ⟨d, hd, s, ⟨hs, hday⟩, rfl⟩
    exact ⟨d, hd, s, hs, hday, rfl⟩
  · rintro ⟨d, hd, s, hs, hday, rfl⟩
    exact ⟨d, hd, s, ⟨hs, hday⟩, rfl⟩

/-- A capacity-factor row of an assembled model names a listed slice, or is a row of a fuel's
profile and names the profile's slice. -/
theorem capacityFactorTech_row (hb : b.Fresh) {row : Tuple}
    (hrow : row ∈ ((b.assembled plants fuels connections).relations.rows
      .capacityFactorTech).toList) :
    SliceResolves (b.assembled plants fuels connections).relations .capacityFactorTech row ∨
      ∃ p ∈ b.inputs.system.capacityFactors,
        Relation.capacityFactorTech.cell "season_name" row = some (.text p.day) ∧
          Relation.capacityFactorTech.cell "time_of_day_name" row = some (.text p.timeOfDay) := by
  rw [hb.rows_assembled_of_technology (by decide)] at hrow
  obtain ⟨t, -, hrow⟩ := List.mem_flatMap.mp hrow
  rw [rowsIn_techPushes_capacityFactorTech] at hrow
  obtain ⟨factor, -, hrow⟩ := List.mem_flatMap.mp hrow
  -- a technology that is not electric has no capacity factors
  split at hrow
  · simp at hrow
  rcases mem_capacityFactorRows hrow with ⟨p, hp, rfl⟩ | ⟨d, hd, tod, htod, rfl⟩
  · obtain ⟨hseason, htime⟩ := Relation.cell_slice (r := .capacityFactorTech) (by decide)
      (.text p.day) (.text p.timeOfDay)
      [techCell t, .real (clampUnit (p.factor * factor)), .text noteText]
    exact .inr ⟨p, hp, hseason, htime⟩
  · exact .inl (hb.sliceResolves_of_listed (by decide) hd htod _)

end Builder.Fresh

/-- In an assembled model, the shares of the year name listed slices; the split of demand names
listed seasons, with the time of day of a demand share given for the season; and the capacity
factors name listed slices or the slices of a fuel's profile. Every row of the three relations
therefore names a listed slice when the demand shares and the profiles name listed slices. -/
theorem assembleModel_timeSlices {inputs : Input.InputTables} {scenario : Scenario}
    {rel : RelationSet} (h : (assembleModel inputs scenario).1 = .ok rel) :
    (∀ row ∈ (rel.rows .segFrac).toList, SliceResolves rel .segFrac row) ∧
    (∀ row ∈ (rel.rows .demandSpecificDistribution).toList,
      (∃ c, Relation.demandSpecificDistribution.cell "season_name" row = some c ∧
        SeasonListed rel c) ∧
      ∃ s ∈ inputs.system.demandShares,
        Relation.demandSpecificDistribution.cell "season_name" row = some (.text s.day) ∧
          Relation.demandSpecificDistribution.cell "time_of_day_name" row =
            some (.text s.timeOfDay)) ∧
    (∀ row ∈ (rel.rows .capacityFactorTech).toList,
      SliceResolves rel .capacityFactorTech row ∨
        ∃ p ∈ inputs.system.capacityFactors,
          Relation.capacityFactorTech.cell "season_name" row = some (.text p.day) ∧
            Relation.capacityFactorTech.cell "time_of_day_name" row = some (.text p.timeOfDay)) ∧
    (inputs.system.SlicesListed →
      ∀ r ∈ Relation.sliced, ∀ row ∈ (rel.rows r).toList, SliceResolves rel r row) := by
  obtain ⟨b, plants, fuels, connections, hstart, -, rfl⟩ := assembleModel_eq_ok_iff.mp h
  obtain ⟨hb, -⟩ := Builder.start_fresh hstart
  obtain ⟨hinputs, -⟩ := Builder.start_setting hstart
  have hsys : b.inputs.system = inputs.system := congrArg Input.InputTables.system hinputs
  have hsegFrac : ∀ row ∈ ((b.assembled plants fuels connections).relations.rows .segFrac).toList,
      SliceResolves (b.assembled plants fuels connections).relations .segFrac row := by
    intro row hrow
    obtain ⟨d, hd, t, ht, rfl⟩ := hb.mem_segFrac_rows.mp hrow
    exact hb.sliceResolves_of_listed (by decide) hd ht _
  -- a split of demand names its season, and the time of day of a share given for it
  have hdemand : ∀ row ∈ ((b.assembled plants fuels connections).relations.rows
      .demandSpecificDistribution).toList,
      ∃ d ∈ b.inputs.system.days, ∃ s ∈ b.inputs.system.demandShares, s.day = d.name ∧
        Relation.demandSpecificDistribution.cell "season_name" row = some (.text d.name) ∧
          Relation.demandSpecificDistribution.cell "time_of_day_name" row =
            some (.text s.timeOfDay) := by
    intro row hrow
    obtain ⟨d, hd, s, hs, hday, rfl⟩ := hb.mem_demandSpecificDistribution_rows.mp hrow
    obtain ⟨hseason, htime⟩ := Relation.cell_slice (r := .demandSpecificDistribution) (by decide)
      (.text d.name) (.text s.timeOfDay) _
    exact ⟨d, hd, s, hs, hday, hseason, htime⟩
  refine ⟨hsegFrac, fun row hrow => ?_, fun row hrow => ?_, fun hlisted r hr row hrow => ?_⟩
  · obtain ⟨d, hd, s, hs, hday, hseason, htime⟩ := hdemand row hrow
    refine ⟨⟨_, hseason, hb.seasonListed_iff.mpr ⟨d, hd, rfl⟩⟩, s, hsys ▸ hs, ?_, htime⟩
    rw [hseason, hday]
  · rw [← hsys]
    exact hb.capacityFactorTech_row hrow
  · rw [← hsys] at hlisted
    obtain ⟨hshares, hprofiles⟩ := hlisted
    simp only [Relation.sliced, List.mem_cons, List.not_mem_nil, or_false] at hr
    rcases hr with rfl | rfl | rfl
    · exact hsegFrac row hrow
    · obtain ⟨d, hd, s, hs, -, hseason, htime⟩ := hdemand row hrow
      obtain ⟨t, ht, hname⟩ := List.mem_map.mp (hshares s hs)
      refine ⟨⟨_, hseason, hb.seasonListed_iff.mpr ⟨d, hd, rfl⟩⟩,
        ⟨_, htime, hb.timeOfDayListed_iff.mpr ⟨t, ht, ?_⟩⟩⟩
      rw [hname]
    · rcases hb.capacityFactorTech_row hrow with hres | ⟨p, hp, hseason, htime⟩
      · exact hres
      · obtain ⟨⟨d, hd, hday⟩, ⟨t, ht, htod⟩⟩ :=
          And.intro (List.mem_map.mp (hprofiles p hp).1) (List.mem_map.mp (hprofiles p hp).2)
        refine ⟨⟨_, hseason, hb.seasonListed_iff.mpr ⟨d, hd, ?_⟩⟩,
          ⟨_, htime, hb.timeOfDayListed_iff.mpr ⟨t, ht, ?_⟩⟩⟩
        · rw [hday]
        · rw [htod]

/-! ## A demand share at a time of day that is not listed -/

/-- One season, one time of day (`day`), two demand years, and a demand share for the season
given at `evening`, which is not a listed time of day. -/
def unlistedTimeInputs : Input.InputTables :=
  { (default : Input.InputTables) with
    system := { (default : Input.SystemTables) with
      days := [⟨"summer", 1.0, 1.0⟩]
      timesOfDay := [⟨"day", 1.0⟩]
      demand := [⟨2020, 100.0, none⟩, ⟨2030, 115.0, none⟩]
      demandShares := [⟨"summer", "evening", 1.0⟩] } }

/-- The model assembled from those inputs, with no technologies. -/
def unlistedTimeModel : RelationSet :=
  match (assembleModel unlistedTimeInputs default).1 with
  | .ok rel => rel
  | .error _ => {}

theorem unlistedTime_start :
    ∃ b, Builder.start unlistedTimeInputs default = .ok b ∧
      (assembleModel unlistedTimeInputs default).1 = .ok (b.assembled [] [] []).relations :=
  ⟨_, rfl, assembleModel_ok rfl rfl⟩

theorem assembleModel_unlistedTime :
    (assembleModel unlistedTimeInputs default).1 = .ok unlistedTimeModel := by
  obtain ⟨b, -, hok⟩ := unlistedTime_start
  unfold unlistedTimeModel
  rw [hok]

/-- The small inputs with their one demand share given at `evening`, which is not a listed time
of day. -/
def unlistedTimeFiles : FileTree Content :=
  inputFolder (replaceTable smallInputs "DemandTOD.csv"
    "representativeDay,timeOfDay,dmdFrac\nd,evening,1\n") smallScenario

/-- The inputs with the unlisted time of day load, the model of the empty scenario starts, and
no time of day is `evening`; the one season is `d`, and the one share is given for `d` at
`evening`. The loading is evaluated with its paths split by rewriting. -/
theorem unlistedTimeFiles_eval :
    (Input.loadInputs unlistedTimeFiles "").toOption.map (fun inputs =>
      ((Builder.start inputs default).isOk && (scenarioTechnologies inputs default).isOk &&
          inputs.system.timesOfDay.all (·.name != "evening"),
        inputs.system.days.map (·.name),
        inputs.system.demandShares.map (fun s => (s.day, s.timeOfDay)))) =
      some (true, ["d"], [("d", "evening")]) := by
  conv =>
    lhs; arg 2; arg 1
    simp +decide [Input.loadInputs, Input.readSystemTables, Input.readPlantTables,
      Input.readFuels, Input.readConnections, Input.readCatalog, Input.readExisting,
      Input.readSomeRows, Input.readRows, Input.readRawTable, Input.readText, FileTree.read,
      Path.join, Path.parts, String.splitOn, String.splitOnAux]
  decide +kernel

/-- The split of demand names a time of day that the model does not list, although the inputs
load from files and the assembly succeeds. -/
theorem demandShare_time_unlisted :
    ¬ ∀ (files : FileTree Content) (dir : String) (inputs : Input.InputTables)
      (scenario : Scenario) (rel : RelationSet),
      Input.loadInputs files dir = .ok inputs →
      (assembleModel inputs scenario).1 = .ok rel →
      ∀ r ∈ Relation.sliced, ∀ row ∈ (rel.rows r).toList, SliceResolves rel r row := by
  intro hall
  obtain ⟨inputs, hload, heval⟩ := Except.exists_eq_ok_of_toOption_map unlistedTimeFiles_eval
  simp only [Prod.mk.injEq, Bool.and_eq_true] at heval
  obtain ⟨⟨⟨hstart, htechs⟩, htimes⟩, hdays, hshares⟩ := heval
  -- the model assembles, as evaluated
  obtain ⟨b, hb⟩ := Except.exists_eq_ok_of_isOk hstart
  obtain ⟨⟨plants, fuels, connections⟩, hts⟩ := Except.exists_eq_ok_of_isOk htechs
  obtain ⟨hfresh, -⟩ := Builder.start_fresh hb
  have hinputs : b.inputs = inputs := (Builder.start_setting hb).1
  -- the share's row is in the model
  obtain ⟨d, hd, hdname⟩ : ∃ d ∈ inputs.system.days, d.name = "d" :=
    List.mem_map.1 (hdays ▸ List.mem_singleton_self _)
  obtain ⟨s, hs, hsname⟩ : ∃ s ∈ inputs.system.demandShares, (s.day, s.timeOfDay) = ("d", "evening") :=
    List.mem_map.1 (hshares ▸ List.mem_singleton_self _)
  obtain ⟨hsday, hstime⟩ := Prod.mk.inj hsname
  have hrow : [.text d.name, .text s.timeOfDay, .text demandCommodity,
      .real (d.demandFraction * s.fraction), .text noteText] ∈
      ((b.assembled plants fuels connections).relations.rows .demandSpecificDistribution).toList := by
    rw [hfresh.mem_demandSpecificDistribution_rows, hinputs]
    exact ⟨d, hd, s, hs, hsday.trans hdname.symm, rfl⟩
  obtain ⟨-, c, hcell, hlisted⟩ := hall unlistedTimeFiles "" inputs default _ hload
    (assembleModel_ok hb hts) .demandSpecificDistribution (by decide) _ hrow
  rw [hfresh.timeOfDayListed_iff, hinputs] at hlisted
  obtain ⟨t, ht, hname⟩ := hlisted
  -- no listed time of day is `evening`
  have htname : (t.name != "evening") = true := List.all_eq_true.1 htimes t ht
  obtain rfl := Option.some.inj hcell.symm
  rw [hstime] at hname
  rw [← Cell.text.inj hname] at htname
  exact absurd htname (by decide)

/-- In the model of a demand share at an unlisted time of day, every row still names what the
assembly promises: the split of demand names the share's slice. -/
theorem unlistedTime_timeSlices :
    (assembleModel unlistedTimeInputs default).1 = .ok unlistedTimeModel ∧
    (∀ row ∈ (unlistedTimeModel.rows .segFrac).toList,
      SliceResolves unlistedTimeModel .segFrac row) ∧
    (∀ row ∈ (unlistedTimeModel.rows .demandSpecificDistribution).toList,
      (∃ c, Relation.demandSpecificDistribution.cell "season_name" row = some c ∧
        SeasonListed unlistedTimeModel c) ∧
      ∃ s ∈ unlistedTimeInputs.system.demandShares,
        Relation.demandSpecificDistribution.cell "season_name" row = some (.text s.day) ∧
          Relation.demandSpecificDistribution.cell "time_of_day_name" row =
            some (.text s.timeOfDay)) ∧
    (∀ row ∈ (unlistedTimeModel.rows .capacityFactorTech).toList,
      SliceResolves unlistedTimeModel .capacityFactorTech row ∨
        ∃ p ∈ unlistedTimeInputs.system.capacityFactors,
          Relation.capacityFactorTech.cell "season_name" row = some (.text p.day) ∧
            Relation.capacityFactorTech.cell "time_of_day_name" row = some (.text p.timeOfDay)) ∧
    (unlistedTimeInputs.system.SlicesListed →
      ∀ r ∈ Relation.sliced, ∀ row ∈ (unlistedTimeModel.rows r).toList,
        SliceResolves unlistedTimeModel r row) :=
  ⟨assembleModel_unlistedTime, assembleModel_timeSlices assembleModel_unlistedTime⟩

end EnergyModel
