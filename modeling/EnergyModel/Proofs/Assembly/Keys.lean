import EnergyModel.Proofs.Assembly.Consistency
import Mathlib.Data.List.Nodup

/-!
# Keys of an assembled model

Most relations the assembly writes are keyed by what the assembly itself makes: a technology,
a period, a vintage. Those keys are unique. Each technology's rows are made once per period and
vintage of its schedule, the schedule lists each year once when the demand years rise, and two
technologies of a scenario have different names, which every one of these keys contains.

Existing capacity is the exception. It is written one row per unit still in service, keyed by
the technology and the unit's installation year, so two units of one technology installed in
the same year give two rows with one key (`Builder.Fresh.existingCapacity_keys`).
-/

namespace EnergyModel

open Assembly

/-- The columns that identify a row, in a relation whose keys the assembly makes; no columns
for the other relations. -/
def Relation.keyColumns : Relation → List String
  | .costFixed | .costVariable => ["periods", "tech", "vintage"]
  | .costInvest | .discountRate | .efficiency | .emissionActivity | .existingCapacity =>
    ["tech", "vintage"]
  | .maxCapacity | .maxActivity => ["periods", "tech"]
  | .demand => ["periods"]
  | .technologies | .lifetimeTech | .lifetimeLoanTech | .capacityToActivity | .capacityCredit
  | .storageDuration | .growthRateMax | .growthRateSeed | .rampUp | .rampDown | .techBaseload
  | .techReserve | .techRamping => ["tech"]
  | _ => []

/-- The key of a row: its values in the key columns. -/
def Relation.key (r : Relation) (row : Tuple) : List (Option Cell) :=
  r.keyColumns.map fun column => r.cell column row

/-- The relations with at most one row per technology, keyed by the technology alone. -/
def Relation.perTechnology : List Relation :=
  [.technologies, .lifetimeTech, .lifetimeLoanTech, .capacityToActivity, .capacityCredit,
   .storageDuration, .growthRateMax, .growthRateSeed, .rampUp, .rampDown, .techBaseload,
   .techReserve, .techRamping]

/-- The relations whose keys the assembly makes. -/
def Relation.keyed : List Relation :=
  Relation.withVintage ++ ([.maxCapacity, .maxActivity, .demand] : List Relation) ++
    Relation.perTechnology

theorem Relation.not_mem_systemWide_of_keyed :
    ∀ r ∈ Relation.keyed, r ≠ .demand → r ∉ Relation.systemWide := by
  decide

theorem Relation.tech_mem_keyColumns :
    ∀ r ∈ Relation.keyed, r ≠ .demand → "tech" ∈ r.keyColumns := by
  decide

/-- Two rows with one key agree in every key column. -/
theorem Relation.cell_eq_of_key_eq {r : Relation} {column : String} {row row' : Tuple}
    (hc : column ∈ r.keyColumns) (h : r.key row = r.key row') :
    r.cell column row = r.cell column row' :=
  List.map_inj_left.mp h column hc

theorem Relation.cell_tech_perTechnology {r : Relation} (hr : r ∈ Relation.perTechnology)
    (row : Tuple) : r.cell "tech" row = row.head? := by
  simp only [Relation.perTechnology, List.mem_cons, List.not_mem_nil, or_false] at hr
  rcases hr with rfl | rfl | rfl | rfl | rfl | rfl | rfl | rfl | rfl | rfl | rfl | rfl | rfl <;>
    cases row <;> rfl

@[simp] theorem Cell.year_inj {a b : Nat} : Cell.year a = Cell.year b ↔ a = b := by
  constructor
  · intro h
    simp only [Cell.year, Cell.integer.injEq] at h
    omega
  · rintro rfl
    rfl

/-! ## The names of a scenario's technologies -/

theorem bind_eq_ok_iff {ε α β : Type} {x : Except ε α} {f : α → Except ε β} {v : β} :
    x >>= f = .ok v ↔ ∃ a, x = .ok a ∧ f a = .ok v := by
  cases x <;> simp [bind, Except.bind]

theorem Technology.ofPlant_name {name : String} {tables : Input.PlantTables} {t : Technology}
    (h : Technology.ofPlant name tables = .ok t) : t.name = name := by
  simp only [Technology.ofPlant, bind_eq_ok_iff] at h
  obtain ⟨_, -, _, -, _, -, _, -, h⟩ := h
  cases h
  rfl

theorem Technology.ofFuel_name {name : String} {fuels : Input.Catalog Input.Fuel}
    {existing : List Input.ExistingCapacity} {t : Technology}
    (h : Technology.ofFuel name fuels existing = .ok t) : t.name = "IMP" ++ name := by
  simp only [Technology.ofFuel, bind_eq_ok_iff] at h
  obtain ⟨_, -, h⟩ := h
  cases h
  rfl

theorem Technology.ofConnection_name {name : String} {connections : Input.Catalog Input.Connection}
    {existing : List Input.ExistingCapacity} {t : Technology}
    (h : Technology.ofConnection name connections existing = .ok t) : t.name = name := by
  simp only [Technology.ofConnection, bind_eq_ok_iff] at h
  obtain ⟨_, -, h⟩ := h
  cases h
  rfl

/-- What a traversal makes of each name, read back through `g`, is `k` of the name. -/
theorem map_of_mapM_eq_ok {make : α → Except ε β} {g : β → γ} {k : α → γ}
    (hmake : ∀ a b, make a = .ok b → g b = k a) {l : List α} {out : List β}
    (h : l.mapM make = .ok out) : out.map g = l.map k := by
  induction l generalizing out with
  | nil =>
    obtain rfl : out = [] := by simpa [pure, Except.pure, eq_comm] using h
    rfl
  | cons a l ih =>
    obtain ⟨b, bs, hb, hbs, rfl⟩ := mapM_cons_eq_ok.mp h
    rw [List.map_cons, List.map_cons, hmake a b hb, ih hbs]

/-- The names of a scenario's technologies: the power plants', `IMP` before each fuel's, and
the connections'. -/
theorem scenarioTechnologies_names {inputs : Input.InputTables} {scenario : Scenario}
    {plants fuels connections : List Technology}
    (h : scenarioTechnologies inputs scenario = .ok (plants, fuels, connections)) :
    (plants ++ fuels ++ connections).map (·.name) =
      scenario.plants ++ scenario.fuels.map ("IMP" ++ ·) ++ scenario.connections := by
  obtain ⟨hplants, hfuels, hconnections⟩ := scenarioTechnologies_eq_ok.mp h
  rw [List.map_append, List.map_append,
    map_of_mapM_eq_ok (fun _ _ => Technology.ofPlant_name) hplants, List.map_id',
    map_of_mapM_eq_ok (fun _ _ => Technology.ofFuel_name) hfuels,
    map_of_mapM_eq_ok (fun _ _ => Technology.ofConnection_name) hconnections, List.map_id']

/-! ## Rising demand years -/

theorem pairwise_of_strictlyRising : ∀ {years : List Nat},
    Input.strictlyRising years = true → years.Pairwise (· < ·)
  | [], _ => List.Pairwise.nil
  | [_], _ => List.pairwise_singleton _ _
  | a :: b :: rest, h => by
    simp only [Input.strictlyRising, Bool.and_eq_true, decide_eq_true_eq] at h
    have hrest := pairwise_of_strictlyRising h.2
    refine List.Pairwise.cons (fun c hc => ?_) hrest
    rcases List.mem_cons.mp hc with rfl | hc
    · exact h.1
    · exact Nat.lt_trans h.1 (List.rel_of_pairwise_cons hrest hc)

theorem strictlyRising_of_checkDemandYears {demand : List Input.YearlyDemand} {u : Unit}
    (h : Input.checkDemandYears demand = .ok u) :
    Input.strictlyRising (demand.map (·.year)) = true := by
  cases hr : Input.strictlyRising (demand.map (·.year)) with
  | false => simp [Input.checkDemandYears, hr] at h
  | true => rfl

/-- The system tables that are read have demand years that rise. -/
theorem readSystemTables_rising {files : FileTree Content} {dir : String}
    {s : Input.SystemTables} (h : Input.readSystemTables files dir = .ok s) :
    Input.strictlyRising (s.demand.map (·.year)) = true := by
  simp only [Input.readSystemTables, bind_eq_ok_iff] at h
  obtain ⟨rows, -, h⟩ := h
  cases hcheck : Input.checkDemandYears (rows.map Input.YearlyDemand.ofRow) with
  | error p => simp [hcheck, throw, throwThe, MonadExceptOf.throw, bind, Except.bind] at h
  | ok u =>
    -- the demand the tables keep is the one that was checked
    simp only [hcheck, bind_eq_ok_iff] at h
    obtain ⟨_, -, _, -, _, -, _, -, _, -, _, -, _, -, _, -, _, -, _, -, h⟩ := h
    cases h
    exact strictlyRising_of_checkDemandYears hcheck

/-- The inputs that are read have demand years that rise. -/
theorem loadInputs_rising {files : FileTree Content} {dir : String} {inputs : Input.InputTables}
    (h : Input.loadInputs files dir = .ok inputs) :
    Input.strictlyRising (inputs.system.demand.map (·.year)) = true := by
  simp only [Input.loadInputs, bind_eq_ok_iff] at h
  obtain ⟨system, hsystem, _, -, _, -, _, -, h⟩ := h
  cases h
  exact readSystemTables_rising hsystem

/-! ## Keys of rows made over lists without repeats -/

section Lists

variable {key : Tuple → List (Option Cell)}

/-- Rows made once per year of a list without repeats, for a value that may be missing, have
different keys when a key tells the year. -/
theorem nodup_keys_of_years {o : Option α} {ys : List Nat} {g : α → Nat → Tuple}
    (hys : ys.Nodup) (hkey : ∀ x a b, key (g x a) = key (g x b) → a = b) :
    ((o.toList.flatMap fun x => ys.map (g x)).map key).Nodup := by
  cases o with
  | none => exact List.nodup_nil
  | some x =>
    rw [Option.toList_some, List.flatMap_singleton, List.map_map]
    exact hys.map_on fun a _ b _ h => hkey x a b h

/-- Rows made at most once per period and vintage, over two lists without repeats, have
different keys when a key tells both. -/
theorem nodup_keys_of_grid {o : Option α} {ps vs : List Nat} {keep : Nat → Nat → Bool}
    {g : α → Nat → Nat → Tuple} (hps : ps.Nodup) (hvs : vs.Nodup)
    (hkey : ∀ x p v p' v', key (g x p v) = key (g x p' v') → p = p' ∧ v = v') :
    ((o.toList.flatMap fun x => ps.flatMap fun p => vs.flatMap fun v =>
      if keep p v then [g x p v] else []).map key).Nodup := by
  cases o with
  | none => exact List.nodup_nil
  | some x =>
    have hcell : ∀ {k p v}, k ∈ (if keep p v then [g x p v] else []).map key →
        k = key (g x p v) := by
      intro k p v hk
      split at hk
      · exact List.mem_singleton.mp hk
      · exact absurd hk List.not_mem_nil
    rw [Option.toList_some, List.flatMap_singleton, List.map_flatMap, List.nodup_flatMap]
    refine ⟨fun p _ => ?_, hps.imp fun hne k h₁ h₂ => ?_⟩
    · rw [List.map_flatMap, List.nodup_flatMap]
      refine ⟨fun v _ => ?_, hvs.imp fun hne k h₁ h₂ => ?_⟩
      · split
        · exact List.nodup_singleton _
        · exact List.nodup_nil
      · exact hne (hkey x p _ p _ ((hcell h₁).symm.trans (hcell h₂))).2
    · simp only [List.map_flatMap] at h₁ h₂
      obtain ⟨v, -, h₁⟩ := List.mem_flatMap.mp h₁
      obtain ⟨v', -, h₂⟩ := List.mem_flatMap.mp h₂
      exact hne (hkey x _ _ _ _ ((hcell h₁).symm.trans (hcell h₂))).1

/-- Rows made once per pair of a list whose first components do not repeat have different
keys when a key tells the first component. -/
theorem nodup_keys_of_fst {L : List (Nat × β)} {g : Nat × β → Tuple}
    (hL : (L.map Prod.fst).Nodup) (hkey : ∀ a b, key (g a) = key (g b) → a.1 = b.1) :
    ((L.map g).map key).Nodup := by
  rw [List.map_map]
  exact (List.Nodup.of_map Prod.fst hL).map_on fun a ha b hb h =>
    List.inj_on_of_nodup_map hL ha hb (hkey a b h)

end Lists

/-! ## The keys of one technology's rows -/

section Key

variable {x : Cell} {a b : Nat}

/-- Keys that differ at most in a year after a common cell agree in the year. -/
theorem year_eq_of_key_eq_right (h : [some x, some (Cell.year a)] = [some x, some (Cell.year b)]) :
    a = b := by
  simpa using h

/-- Keys that differ at most in a year before a common cell agree in the year. -/
theorem year_eq_of_key_eq_left (h : [some (Cell.year a), some x] = [some (Cell.year b), some x]) :
    a = b := by
  simpa using h

/-- Keys that differ at most in the years around a common cell agree in both years. -/
theorem years_eq_of_key_eq {a' b' : Nat}
    (h : [some (Cell.year a), some x, some (Cell.year b)] =
      [some (Cell.year a'), some x, some (Cell.year b')]) :
    a = a' ∧ b = b' := by
  simpa using h

end Key

section Technology

variable {c : Setting} {t : Technology} {r : Relation} {row : Tuple}

theorem toList_ite_some {b : Prop} [Decidable b] (x : α) :
    (if b then [x] else []) = (if b then some x else none).toList := by
  split <;> rfl

theorem toList_ite_map {b : Prop} [Decidable b] (o : Option α) (f : α → β) :
    (if b then o.toList.map f else []) = (if b then o.map f else none).toList := by
  by_cases h : b <;> simp [h, Option.toList_map]

/-- A relation keyed by the technology alone gets one row at most from it, headed by its
name. -/
theorem techPushes_perTechnology (c : Setting) (t : Technology) (hr : r ∈ Relation.perTechnology) :
    ∃ o : Option Tuple, rowsIn r (techPushes c t) = o.toList ∧
      ∀ row ∈ o, row.head? = some (techCell t) := by
  simp only [Relation.perTechnology, List.mem_cons, List.not_mem_nil, or_false] at hr
  rcases hr with rfl | rfl | rfl | rfl | rfl | rfl | rfl | rfl | rfl | rfl | rfl | rfl | rfl
  · exact ⟨some _, rowsIn_techPushes_technologies c t, fun _ h => by cases h; rfl⟩
  · exact ⟨_, (rowsIn_techPushes_lifetimeTech c t).trans Option.toList_map.symm, by simp⟩
  · exact ⟨_, (rowsIn_techPushes_lifetimeLoanTech c t).trans Option.toList_map.symm, by simp⟩
  · exact ⟨_, (rowsIn_techPushes_capacityToActivity c t).trans (toList_ite_some _),
      by split <;> simp⟩
  · exact ⟨_, (rowsIn_techPushes_capacityCredit c t).trans Option.toList_map.symm, by simp⟩
  · exact ⟨_, (rowsIn_techPushes_storageDuration c t).trans (toList_ite_map _ _),
      by split <;> simp⟩
  · exact ⟨_, (rowsIn_techPushes_growthRateMax c t).trans (toList_ite_map _ _),
      by split <;> simp⟩
  · exact ⟨_, (rowsIn_techPushes_growthRateSeed c t).trans (toList_ite_map _ _),
      by split <;> simp⟩
  · exact ⟨_, (rowsIn_techPushes_rampUp c t).trans (toList_ite_map _ _), by split <;> simp⟩
  · exact ⟨_, (rowsIn_techPushes_rampDown c t).trans (toList_ite_map _ _), by split <;> simp⟩
  · exact ⟨_, (rowsIn_techPushes_techBaseload c t).trans (toList_ite_some _),
      by split <;> simp⟩
  · exact ⟨_, (rowsIn_techPushes_techReserve c t).trans (toList_ite_some _),
      by split <;> simp⟩
  · exact ⟨_, (rowsIn_techPushes_techRamping c t).trans (toList_ite_map _ _),
      by split <;> simp⟩

/-- Every keyed row of a technology names it. -/
theorem techPushes_techCell (hf : c.periods.activeFuture ≠ []) (hr : r ∈ Relation.keyed)
    (hd : r ≠ .demand) (hrow : row ∈ rowsIn r (techPushes c t)) :
    r.cell "tech" row = some (techCell t) := by
  simp only [Relation.keyed, List.mem_append] at hr
  rcases hr with (hr | hr) | hr
  · exact (techPushes_vintage hf hr hrow).1
  · simp only [List.mem_cons, List.not_mem_nil, or_false] at hr
    rcases hr with rfl | rfl | rfl
    · simp only [rowsIn_techPushes_maxCapacity, List.mem_flatMap, List.mem_map] at hrow
      obtain ⟨-, -, p, -, rfl⟩ := hrow
      rfl
    · simp only [rowsIn_techPushes_maxActivity, List.mem_map] at hrow
      obtain ⟨lim, -, rfl⟩ := hrow
      rfl
    · exact absurd rfl hd
  · obtain ⟨o, ho, hhead⟩ := techPushes_perTechnology c t hr
    rw [ho, Option.mem_toList] at hrow
    rw [Relation.cell_tech_perTechnology hr, hhead row hrow]

/-- A technology's rows in a keyed relation other than existing capacity have different keys,
when the periods open for investment do not repeat. -/
theorem techPushes_keys_nodup (hfut : c.periods.activeFuture.Nodup) (hr : r ∈ Relation.keyed)
    (he : r ≠ .existingCapacity) : ((rowsIn r (techPushes c t)).map r.key).Nodup := by
  simp only [Relation.keyed, List.mem_append] at hr
  rcases hr with (hr | hr) | hr
  · -- one row per vintage of the schedule, or per period and vintage
    simp only [Relation.withVintage, Relation.vintageData, List.mem_cons, List.not_mem_nil,
      or_false] at hr
    rcases hr with rfl | rfl | rfl | rfl | rfl | rfl | rfl
    · rw [rowsIn_techPushes_efficiency]
      exact nodup_keys_of_years nodup_buildYears fun _ _ _ h => year_eq_of_key_eq_right h
    · rw [rowsIn_techPushes_costInvest]
      exact nodup_keys_of_years (nodup_futureBuildYears hfut) fun _ _ _ h => year_eq_of_key_eq_right h
    · rw [rowsIn_techPushes_costFixed]
      exact nodup_keys_of_grid hfut nodup_buildYears fun _ _ _ _ _ h => years_eq_of_key_eq h
    · rw [rowsIn_techPushes_costVariable]
      exact nodup_keys_of_grid hfut nodup_buildYears fun _ _ _ _ _ h => years_eq_of_key_eq h
    · rw [rowsIn_techPushes_discountRate]
      exact nodup_keys_of_years nodup_buildYears fun _ _ _ h => year_eq_of_key_eq_right h
    · rw [rowsIn_techPushes_emissionActivity]
      exact nodup_keys_of_years nodup_buildYears fun _ _ _ h => year_eq_of_key_eq_right h
    · exact absurd rfl he
  · -- one row per period a constraint can name; no demand
    simp only [List.mem_cons, List.not_mem_nil, or_false] at hr
    rcases hr with rfl | rfl | rfl
    · rw [rowsIn_techPushes_maxCapacity]
      exact nodup_keys_of_years nodup_constraintPeriods fun _ _ _ h => year_eq_of_key_eq_left h
    · rw [rowsIn_techPushes_maxActivity]
      exact nodup_keys_of_fst ((map_fst_maxActivityLimits _ _ _).nodup nodup_constraintPeriods)
        fun _ _ h => year_eq_of_key_eq_left h
    · rw [rowsIn_techPushes_of_system c t (by decide)]
      exact List.nodup_nil
  · -- one row at most
    obtain ⟨o, ho, -⟩ := techPushes_perTechnology c t hr
    rw [ho, ← Option.toList_map]
    exact Option.toList_nodup _

end Technology

/-! ## The keys of a whole model -/

namespace Builder.Fresh

variable {b : Builder} {plants fuels connections : List Technology}

/-- The model starts in the first demand year. -/
theorem startYear_eq (hb : b.Fresh) : b.periods.startYear = b.periods.future.headD 0 := by
  have hlen := hb.two_le_length
  unfold Periods.startYear
  rw [hb.activeFuture_eq]
  match hf : b.periods.future, hlen with
  | y :: y' :: rest, _ => rfl

/-- The demands are keyed by the periods open for investment. -/
theorem demand_keys_nodup (hb : b.Fresh) (hfut : b.periods.activeFuture.Nodup) :
    (((b.assembled plants fuels connections).relations.rows .demand).toList.map
      Relation.demand.key).Nodup := by
  -- one demand row per period open for investment: there are fewer of those than demand years
  have hlen : b.periods.activeFuture.length ≤ b.inputs.system.demand.length := by
    rw [hb.activeFuture_eq, hb.future_eq, List.length_dropLast, List.length_map]
    omega
  have hfst : (b.setting.periods.activeFuture.zip b.setting.inputs.system.demand).map Prod.fst =
      b.periods.activeFuture := List.map_fst_zip hlen
  rw [hb.rows_assembled_of_system (by decide) (by decide) (by decide), rowsIn_system_demand]
  refine nodup_keys_of_fst (by rw [hfst]; exact hfut) fun e e' h => ?_
  change [some (Cell.year e.1)] = [some (Cell.year e'.1)] at h
  simpa using h

/-- Every relation whose keys the assembly makes, existing capacity apart, has rows with
different keys in an assembled model, when the periods open for investment do not repeat and
the technologies have different names. -/
theorem keys_nodup (hb : b.Fresh) (hfut : b.periods.activeFuture.Nodup)
    (hnames : ((plants ++ fuels ++ connections).map (·.name)).Nodup) {r : Relation}
    (hr : r ∈ Relation.keyed) (he : r ≠ .existingCapacity) :
    (((b.assembled plants fuels connections).relations.rows r).toList.map r.key).Nodup := by
  by_cases hd : r = .demand
  · subst hd
    exact hb.demand_keys_nodup hfut
  rw [hb.rows_assembled_of_technology (Relation.not_mem_systemWide_of_keyed r hr hd),
    List.map_flatMap, List.nodup_flatMap]
  refine ⟨fun t _ => techPushes_keys_nodup hfut hr he, ?_⟩
  -- a key names the technology its row belongs to
  refine (List.pairwise_map.mp hnames).imp fun hne k h₁ h₂ => hne ?_
  obtain ⟨row₁, hrow₁, rfl⟩ := List.mem_map.mp h₁
  obtain ⟨row₂, hrow₂, hkey⟩ := List.mem_map.mp h₂
  have htech := Relation.cell_eq_of_key_eq (Relation.tech_mem_keyColumns r hr hd) hkey
  rw [techPushes_techCell hb.activeFuture_ne_nil hr hd hrow₁,
    techPushes_techCell hb.activeFuture_ne_nil hr hd hrow₂] at htech
  simpa [techCell] using htech.symm

/-- Existing capacity is written one row per unit still in service when the model starts,
keyed by the technology and the unit's installation year. -/
theorem existingCapacity_keys (hb : b.Fresh) (plants fuels connections : List Technology) :
    ((b.assembled plants fuels connections).relations.rows .existingCapacity).toList.map
        Relation.existingCapacity.key =
      (plants ++ fuels ++ connections).flatMap fun t =>
        (t.existing.filter fun unit =>
            inServiceAt unit.year b.periods.startYear (Input.present t.lifetime)).map fun unit =>
          [some (techCell t), some (Cell.year unit.year)] := by
  rw [hb.rows_assembled_of_technology (by decide), List.map_flatMap]
  congr 1
  funext t
  rw [rowsIn_techPushes_existingCapacity]
  simp only [Builder.setting]
  -- unit by unit: a row, with its key, exactly for a unit in service
  induction t.existing with
  | nil => rfl
  | cons unit units ih =>
    rw [List.flatMap_cons, List.map_append, ih, List.filter_cons]
    by_cases hin : inServiceAt unit.year b.periods.startYear (Input.present t.lifetime) = true
    · simp only [hin, ↓reduceIte]
      rfl
    · simp only [hin, Bool.false_eq_true, ↓reduceIte]
      rfl

end Builder.Fresh

/-- An assembled model has rows with different keys in every relation whose keys the assembly
makes, existing capacity apart, when the demand years rise (as the inputs that are read have
them, `loadInputs_rising`) and the scenario's technologies have different names. Existing
capacity has one row per unit still in service when the model starts, keyed by the technology
and the unit's installation year, so its keys repeat exactly when two such units of a
technology were installed in the same year. -/
theorem assembleModel_keys {inputs : Input.InputTables} {scenario : Scenario} {rel : RelationSet}
    (hrise : Input.strictlyRising (inputs.system.demand.map (·.year)) = true)
    (hnames : (scenario.plants ++ scenario.fuels.map ("IMP" ++ ·) ++ scenario.connections).Nodup)
    (h : (assembleModel inputs scenario).1 = .ok rel) :
    (∀ r ∈ Relation.keyed, r ≠ .existingCapacity → ((rel.rows r).toList.map r.key).Nodup) ∧
    ∀ plants fuels connections,
      scenarioTechnologies inputs scenario = .ok (plants, fuels, connections) →
      (rel.rows .existingCapacity).toList.map Relation.existingCapacity.key =
        (plants ++ fuels ++ connections).flatMap fun t =>
          (t.existing.filter fun unit => inServiceAt unit.year
              ((inputs.system.demand.map (·.year)).headD 0) (Input.present t.lifetime)).map
            fun unit => [some (techCell t), some (Cell.year unit.year)] := by
  obtain ⟨b, plants, fuels, connections, hstart, hts, rfl⟩ := assembleModel_eq_ok_iff.mp h
  obtain ⟨hb, hfuture⟩ := Builder.start_fresh hstart
  have hfut : b.periods.activeFuture.Nodup := by
    rw [hb.activeFuture_eq, hfuture]
    exact ((pairwise_of_strictlyRising hrise).imp Nat.ne_of_lt).sublist (List.dropLast_sublist _)
  refine ⟨fun r hr he => hb.keys_nodup hfut ?_ hr he, fun plants' fuels' connections' hts' => ?_⟩
  · rw [scenarioTechnologies_names hts]
    exact hnames
  · obtain ⟨rfl, rfl, rfl⟩ : plants = plants' ∧ fuels = fuels' ∧ connections = connections' := by
      simpa using hts.symm.trans hts'
    rw [hb.existingCapacity_keys, hb.startYear_eq, hfuture]

theorem sampleModel_keys :
    Input.strictlyRising (sampleInputs.system.demand.map (·.year)) = true ∧
    (sampleScenario.plants ++ sampleScenario.fuels.map ("IMP" ++ ·) ++
      sampleScenario.connections).Nodup ∧
    (assembleModel sampleInputs sampleScenario).1 = .ok sampleModel ∧
    (∀ r ∈ Relation.keyed, r ≠ .existingCapacity →
      ((sampleModel.rows r).toList.map r.key).Nodup) ∧
    ∀ plants fuels connections,
      scenarioTechnologies sampleInputs sampleScenario = .ok (plants, fuels, connections) →
      (sampleModel.rows .existingCapacity).toList.map Relation.existingCapacity.key =
        (plants ++ fuels ++ connections).flatMap fun t =>
          (t.existing.filter fun unit => inServiceAt unit.year
              ((sampleInputs.system.demand.map (·.year)).headD 0) (Input.present t.lifetime)).map
            fun unit => [some (techCell t), some (Cell.year unit.year)] :=
  ⟨by decide, by decide, assembleModel_sample,
    assembleModel_keys (by decide) (by decide) assembleModel_sample⟩

/-! ## Inputs read from files

A folder is read by evaluation: what is evaluated is a Boolean or an optional summary of the
result, and the lemmas below turn it back into the result itself. -/

theorem Except.exists_eq_ok_of_isOk {ε α : Type} {e : Except ε α} (h : e.isOk = true) :
    ∃ a, e = .ok a := by
  cases e with
  | ok a => exact ⟨a, rfl⟩
  | error _ => cases h

theorem Except.exists_eq_ok_of_toOption_map {ε α β : Type} {e : Except ε α} {f : α → β} {b : β}
    (h : e.toOption.map f = some b) : ∃ a, e = .ok a ∧ f a = b := by
  cases e with
  | ok a => exact ⟨a, rfl, Option.some.inj h⟩
  | error _ => cases h

/-- Input tables with one plant, fuel and connection, and the fewest rows the inputs need. -/
def smallInputs : List (String × String) :=
  [("Demand.csv", "Year,Demand\n2020,1\n2030,1\n"),
   ("representativeDays.csv", "representativeDay,timeFrac,dmdFrac\nd,1,1\n"),
   ("timesOfDay.csv", "timeOfDay,timeFrac\nt,1\n"),
   ("DemandTOD.csv", "representativeDay,timeOfDay,dmdFrac\nd,t,1\n"),
   ("DiscountRateGlobal.csv", "DiscountRate\n0\n"),
   ("DiscountRateTech.csv", ""),
   ("Emission.csv", ""),
   ("ReserveMargin.csv", ""),
   ("capacityFactorTOD.csv", ""),
   ("MinCapacity.csv", ""),
   ("ref.csv", ""),
   ("PowerPlants.csv",
    "powerplant,fuel,output,baseload,reserve,newBuilds,renewable,storage\nP,F,E,N,N,N,N,N\n"),
   ("PowerPlantsExisting.csv", ""),
   ("PowerPlantsPerformance.csv", "powerplant\nP\n"),
   ("PowerPlantsCosts.csv", "powerplant\nP\n"),
   ("PowerPlantsConstraints.csv", "powerplant\nP\n"),
   ("Fuels.csv", "fuel\nF\n"),
   ("FuelsExisting.csv", ""),
   ("Connections.csv", "connection,input,output\nC,E,D\n"),
   ("ConnectionsExisting.csv", "")]

/-- Scenario `A` of the small inputs, including nothing and with every setting off or empty. -/
def smallScenario : List (String × String) :=
  [("PowerPlants.csv", "Scenario,A\n"),
   ("Fuels.csv", "Scenario,A\n"),
   ("Connections.csv", "Scenario,A\n"),
   ("SolverSettings.csv",
    "Scenario,A\ninclude_baseload,N\ninclude_reserve_margin,N\ninclude_ramping,N\n" ++
    "include_growth_limit,N\ninclude_RPS,N\ninclude_emission_limit,N\n" ++
    "include_min_capacity_limit,N\nMaxGrowthRate,\nMinGrowthSeed,\nMaxLoan_yrs,\n")]

/-- A table list with the text of one table replaced. -/
def replaceTable (tables : List (String × String)) (name text : String) : List (String × String) :=
  tables.map fun (n, t) => (n, if n == name then text else t)

/-- A folder of input tables at the root, with a scenario folder `s`. -/
def inputFolder (inputs scenario : List (String × String)) : FileTree Content :=
  ⟨(["s"], .directory) :: inputs.map (fun (name, text) => ([name], .file (.text text))) ++
    scenario.map (fun (name, text) => (["s", name], .file (.text text)))⟩

/-- The scenario tables are read from the folder `s`. -/
theorem smallScenario_parts :
    ∀ name ∈ smallScenario.map Prod.fst, Path.parts (Path.join "s" name) = ["s", name] := by
  have hjoin : ∀ name, name.startsWith "/" = false → Path.join "s" name = "s/" ++ name := by
    intro name hname
    unfold Path.join
    rw [if_neg (by simp [hname]), if_neg (by decide +kernel)]
    rfl
  simp only [smallScenario, List.map_cons, List.map_nil, List.mem_cons, List.not_mem_nil,
    or_false]
  rintro name (rfl | rfl | rfl | rfl) <;> rw [hjoin _ (by decide +kernel)] <;>
    simp +decide [Path.parts, String.splitOn, String.splitOnAux]

/-! ## Two units of one technology and one year -/

/-- The small inputs, with a fuel of fifty years' lifetime two of whose units were installed in
2000. -/
def twinUnitFiles : FileTree Content :=
  inputFolder
    (replaceTable (replaceTable smallInputs "Fuels.csv" "fuel,Lifetime\nF,50\n")
      "FuelsExisting.csv" "fuel,YearInstalled,Capacity\nF,2000,1\nF,2000,2\n")
    smallScenario

/-- The scenario that imports the fuel alone. -/
def twinScenario : Scenario := { (default : Scenario) with fuels := ["F"] }

/-- The twin-unit inputs load, the model of the scenario starts, and the fuel's two units are
in service when it does. The loading is evaluated with its paths split by rewriting. -/
theorem twinUnitFiles_eval :
    (Input.loadInputs twinUnitFiles "").toOption.map (fun inputs =>
      ((Builder.start inputs twinScenario).isOk,
        (scenarioTechnologies inputs twinScenario).toOption.map fun (p, f, c) =>
          (p ++ f ++ c).flatMap fun t =>
            (t.existing.filter fun u => inServiceAt u.year
              ((inputs.system.demand.map (·.year)).headD 0) (Input.present t.lifetime)).map
              fun u => (t.name, u.year))) =
      some (true, some [("IMPF", 2000), ("IMPF", 2000)]) := by
  conv =>
    lhs; arg 2; arg 1
    simp +decide [Input.loadInputs, Input.readSystemTables, Input.readPlantTables,
      Input.readFuels, Input.readConnections, Input.readCatalog, Input.readExisting,
      Input.readSomeRows, Input.readRows, Input.readRawTable, Input.readText, FileTree.read,
      Path.join, Path.parts, String.splitOn, String.splitOnAux]
  decide +kernel

theorem twinUnitFiles_loads : ∃ inputs, Input.loadInputs twinUnitFiles "" = .ok inputs :=
  (Except.exists_eq_ok_of_toOption_map twinUnitFiles_eval).imp fun _ h => h.1

/-- Two units of one fuel installed in the same year give two rows of existing capacity with
one key, although the inputs load from files and the scenario's names are distinct. -/
theorem existingCapacity_twin_units :
    ∃ inputs rel, Input.loadInputs twinUnitFiles "" = .ok inputs ∧
      (twinScenario.plants ++ twinScenario.fuels.map ("IMP" ++ ·) ++
        twinScenario.connections).Nodup ∧
      (assembleModel inputs twinScenario).1 = .ok rel ∧
      ¬ ((rel.rows .existingCapacity).toList.map Relation.existingCapacity.key).Nodup := by
  obtain ⟨inputs, hload, heval⟩ := Except.exists_eq_ok_of_toOption_map twinUnitFiles_eval
  obtain ⟨hstart, htechs⟩ := Prod.mk.inj heval
  -- the builder starts and the technologies are made, as evaluated
  obtain ⟨b, hb⟩ := Except.exists_eq_ok_of_isOk hstart
  obtain ⟨⟨plants, fuels, connections⟩, hts, htechs⟩ := Except.exists_eq_ok_of_toOption_map htechs
  refine ⟨inputs, _, hload, by decide, assembleModel_ok hb hts, fun hnodup => ?_⟩
  -- the keys are the evaluated units, both keyed by the fuel's technology and the year 2000
  obtain ⟨hfresh, hfuture⟩ := Builder.start_fresh hb
  rw [hfresh.existingCapacity_keys, hfresh.startYear_eq, hfuture] at hnodup
  have hkeys : ((plants ++ fuels ++ connections).flatMap fun t =>
      (t.existing.filter fun unit => inServiceAt unit.year
          ((inputs.system.demand.map (·.year)).headD 0) (Input.present t.lifetime)).map
        fun unit => [some (techCell t), some (Cell.year unit.year)]) =
      ([("IMPF", 2000), ("IMPF", 2000)] : List (String × Nat)).map fun unit =>
        [some (Cell.text unit.1), some (Cell.year unit.2)] := by
    rw [← htechs, List.map_flatMap]
    simp only [List.map_map, Function.comp_def, techCell]
  rw [hkeys] at hnodup
  simp at hnodup

end EnergyModel
