import EnergyModel.Proofs.Assembly.Keys

/-!
# The order of a scenario's technologies

A scenario lists its power plants, fuels and connections, and an assembly takes them in that
order. The order decides no more than the order of the rows. The lists themselves are read
once, to make the technologies; no row of a technology reads the rows before it; and the
periods and commodities met along the way are added the first time only, so that which of them
the model has does not depend on who met them first. A scenario whose lists are reordered
therefore assembles exactly when the scenario does, and gives every relation the same rows.
-/

namespace EnergyModel

open Assembly

/-! ## Making the technologies in another order -/

/-- Making a value of every element of a list succeeds on every reordering of the list, with
the values reordered likewise. -/
theorem mapM_perm_ok {make : α → Except ε β} {l l' : List α} (hperm : l.Perm l')
    {out : List β} (h : l.mapM make = .ok out) :
    ∃ out', l'.mapM make = .ok out' ∧ out.Perm out' := by
  induction hperm generalizing out with
  | nil => exact ⟨out, h, .refl out⟩
  | cons a _ ih =>
    obtain ⟨t, ts, ht, hts, rfl⟩ := mapM_cons_eq_ok.mp h
    obtain ⟨ts', hts', hperm⟩ := ih hts
    exact ⟨t :: ts', mapM_cons_eq_ok.mpr ⟨t, ts', ht, hts', rfl⟩, hperm.cons t⟩
  | swap a a' l =>
    obtain ⟨t, ts, ht, hts, rfl⟩ := mapM_cons_eq_ok.mp h
    obtain ⟨t', ts', ht', hts', rfl⟩ := mapM_cons_eq_ok.mp hts
    have hswapped : (a :: a' :: l).mapM make = .ok (t' :: t :: ts') :=
      mapM_cons_eq_ok.mpr ⟨t', t :: ts', ht', mapM_cons_eq_ok.mpr ⟨t, ts', ht, hts', rfl⟩, rfl⟩
    exact ⟨t' :: t :: ts', hswapped, .swap t' t ts'⟩
  | trans _ _ ih₁ ih₂ =>
    obtain ⟨mid, hmid, hperm₁⟩ := ih₁ h
    obtain ⟨out', hout', hperm₂⟩ := ih₂ hmid
    exact ⟨out', hout', hperm₁.trans hperm₂⟩

section Reorder

variable {inputs : Input.InputTables} {scenario : Scenario} {plants fuels connections : List String}

/-- A reordered scenario makes the same technologies, reordered likewise. -/
theorem scenarioTechnologies_reorder (hp : scenario.plants.Perm plants)
    (hf : scenario.fuels.Perm fuels) (hc : scenario.connections.Perm connections)
    {ps fs cs : List Technology} (h : scenarioTechnologies inputs scenario = .ok (ps, fs, cs)) :
    ∃ ps' fs' cs',
      scenarioTechnologies inputs { scenario with plants, fuels, connections } =
        .ok (ps', fs', cs') ∧ ps.Perm ps' ∧ fs.Perm fs' ∧ cs.Perm cs' := by
  obtain ⟨hps, hfs, hcs⟩ := scenarioTechnologies_eq_ok.mp h
  obtain ⟨ps', hps', hpp⟩ := mapM_perm_ok hp hps
  obtain ⟨fs', hfs', hfp⟩ := mapM_perm_ok hf hfs
  obtain ⟨cs', hcs', hcp⟩ := mapM_perm_ok hc hcs
  exact ⟨ps', fs', cs', scenarioTechnologies_eq_ok.mpr ⟨hps', hfs', hcs'⟩, hpp, hfp, hcp⟩

end Reorder

/-! ## The lists of names are read nowhere else -/

/-- The builder with other lists of power plants, fuels and connections in its scenario. -/
def Builder.withNames (b : Builder) (plants fuels connections : List String) : Builder :=
  { b with scenario := { b.scenario with plants, fuels, connections } }

section Names

variable (plants fuels connections : List String)

theorem Builder.start_withNames {inputs : Input.InputTables} {scenario : Scenario} {b : Builder}
    (h : Builder.start inputs scenario = .ok b) :
    Builder.start inputs { scenario with plants, fuels, connections } =
      .ok (b.withNames plants fuels connections) := by
  obtain ⟨periods, hperiods, rfl⟩ := Builder.start_eq_ok.mp h
  exact Builder.start_eq_ok.mpr ⟨periods, hperiods, rfl⟩

theorem Builder.addPeriod_withNames (b : Builder) (y : Nat) :
    (b.withNames plants fuels connections).addPeriod y =
      (b.addPeriod y).withNames plants fuels connections := by
  unfold Builder.addPeriod
  by_cases hy : b.allTimePeriods.contains y
  · simp only [Builder.withNames, hy, ↓reduceIte]
  · simp only [Builder.withNames, hy, ↓reduceIte, Bool.false_eq_true]
    rfl

theorem Builder.register_withNames (b : Builder) (id flag description : String) :
    (b.withNames plants fuels connections).register id flag description =
      (b.register id flag description).withNames plants fuels connections := by
  unfold Builder.register
  by_cases hid : b.commodities.contains id
  · simp only [Builder.withNames, hid, ↓reduceIte]
  · simp only [Builder.withNames, hid, ↓reduceIte, Bool.false_eq_true]
    rfl

/-- The lists of names are read nowhere in an assembly but to make the technologies. -/
theorem Builder.unseen_withNames : Builder.Unseen fun b => b.withNames plants fuels connections where
  emit _ _ := rfl
  addPeriod := Builder.addPeriod_withNames plants fuels connections
  register := Builder.register_withNames plants fuels connections
  periods _ := rfl
  allTimePeriods _ := rfl
  -- the rows read the scenario's toggles and growth settings, none of them a list of names
  techPushes _ _ := rfl
  calendarPushes _ := rfl
  policyPushes _ := rfl

/-- An assembly from a builder whose scenario has other lists of names ends where the assembly
from the builder ends, with those lists. -/
theorem Builder.assembled_withNames (b : Builder) (ps fs cs : List Technology) :
    (b.withNames plants fuels connections).assembled ps fs cs =
      (b.assembled ps fs cs).withNames plants fuels connections :=
  (Builder.unseen_withNames plants fuels connections).assembled b ps fs cs

end Names

/-! ## Assembling technologies in another order -/

/-- Of two lists without repeats that start alike and have the same members, the rests are
reorderings of each other. -/
theorem perm_of_nodup_append {w p p' : List α} (h : (w ++ p).Nodup) (h' : (w ++ p').Nodup)
    (hmem : ∀ x, x ∈ w ++ p ↔ x ∈ w ++ p') : p.Perm p' :=
  (List.perm_append_left_iff w).mp ((List.perm_ext_iff_of_nodup h h').mpr hmem)

namespace Builder.Fresh

variable {b : Builder} {ps fs cs ps' fs' cs' : List Technology}

/-- The periods met as vintages are the same, in whichever order the technologies come. -/
theorem timePeriods_perm (h : b.Fresh) (hall : (ps ++ fs ++ cs).Perm (ps' ++ fs' ++ cs')) :
    ((b.assembled ps fs cs).relations.rows .timePeriods).toList.Perm
      ((b.assembled ps' fs' cs').relations.rows .timePeriods).toList := by
  -- both assemblies extend the system-wide stage, each by the periods it meets, once each
  obtain ⟨P, -, hP, -, hrows, -⟩ := Builder.extends_assembled h.catalogued ps fs cs
  obtain ⟨P', -, hP', -, hrows', -⟩ := Builder.extends_assembled h.catalogued ps' fs' cs'
  have hnodup := Builder.nodup_allTimePeriods_assembled h.nodup_allTimePeriods
  have hsame : ∀ y, y ∈ b.withSystem.allTimePeriods ++ P ↔ y ∈ b.withSystem.allTimePeriods ++ P' := by
    intro y
    rw [← hP, ← hP', Builder.mem_allTimePeriods_assembled, Builder.mem_allTimePeriods_assembled]
    simp only [hall.mem_iff]
  have hperm : P.Perm P' :=
    perm_of_nodup_append (hP ▸ hnodup ps fs cs) (hP' ▸ hnodup ps' fs' cs') hsame
  rw [hrows, hrows']
  exact (hperm.map legacyRow).append_left _

/-- The commodities fuels and connections register are the same, in whichever order they
come. -/
theorem commodities_perm (h : b.Fresh) (hf : fs.Perm fs') (hc : cs.Perm cs') :
    ((b.assembled ps fs cs).relations.rows .commodities).toList.Perm
      ((b.assembled ps' fs' cs').relations.rows .commodities).toList := by
  obtain ⟨-, C, -, hC, -, hrows⟩ := Builder.extends_assembled h.catalogued ps fs cs
  obtain ⟨-, C', -, hC', -, hrows'⟩ := Builder.extends_assembled h.catalogued ps' fs' cs'
  have hnodup := Builder.nodup_commodities_assembled (b := b) (by rw [h.commodities_nil]; simp)
  have hsame : ∀ x, x ∈ b.withSystem.commodities ++ C ↔ x ∈ b.withSystem.commodities ++ C' := by
    intro x
    rw [← hC, ← hC', Builder.mem_commodities_assembled, Builder.mem_commodities_assembled]
    simp only [hf.mem_iff, hc.mem_iff]
  have hperm : C.Perm C' :=
    perm_of_nodup_append (hC ▸ hnodup ps fs cs) (hC' ▸ hnodup ps' fs' cs') hsame
  rw [hrows, hrows']
  exact (hperm.map commodityRow).append_left _

/-- Assembling the technologies of each stage in another order gives every relation the same
rows, reordered. -/
theorem rows_assembled_perm (h : b.Fresh) (hp : ps.Perm ps') (hf : fs.Perm fs')
    (hc : cs.Perm cs') (r : Relation) :
    ((b.assembled ps fs cs).relations.rows r).toList.Perm
      ((b.assembled ps' fs' cs').relations.rows r).toList := by
  have hall : (ps ++ fs ++ cs).Perm (ps' ++ fs' ++ cs') := (hp.append hf).append hc
  by_cases hr : r ∈ Relation.systemWide
  · by_cases htp : r = .timePeriods
    · subst htp
      exact h.timePeriods_perm hall
    by_cases hcm : r = .commodities
    · subst hcm
      exact h.commodities_perm hf hc
    -- the rest of the system-wide stage reads no technology
    rw [h.rows_assembled_of_system hr htp hcm, h.rows_assembled_of_system hr htp hcm]
  · rw [h.rows_assembled_of_technology hr, h.rows_assembled_of_technology hr]
    exact hall.flatMap_right _

end Builder.Fresh

section Reorder

variable {inputs : Input.InputTables} {scenario : Scenario} {plants fuels connections : List String}

/-- A reordered scenario assembles when the scenario does, into a model with the same rows. -/
theorem assembleModel_reorder_ok (hp : scenario.plants.Perm plants)
    (hf : scenario.fuels.Perm fuels) (hc : scenario.connections.Perm connections)
    {rel : RelationSet} (h : (assembleModel inputs scenario).1 = .ok rel) :
    ∃ rel', (assembleModel inputs { scenario with plants, fuels, connections }).1 = .ok rel' ∧
      ∀ r, (rel.rows r).toList.Perm (rel'.rows r).toList := by
  obtain ⟨b, ps, fs, cs, hstart, hts, rfl⟩ := assembleModel_eq_ok_iff.mp h
  obtain ⟨ps', fs', cs', hts', hpp, hfp, hcp⟩ := scenarioTechnologies_reorder hp hf hc hts
  have hstart' := Builder.start_withNames plants fuels connections hstart
  refine ⟨((b.withNames plants fuels connections).assembled ps' fs' cs').relations,
    assembleModel_eq_ok_iff.mpr ⟨_, _, _, _, hstart', hts', rfl⟩, fun r => ?_⟩
  rw [Builder.assembled_withNames]
  exact (Builder.start_fresh hstart).1.rows_assembled_perm hpp hfp hcp r

/-- Reordering the power plants, the fuels and the connections of a scenario does not change
whether the model assembles, and every relation of the model gets the same rows, possibly in
another order. -/
theorem assembleModel_reorder (hp : scenario.plants.Perm plants)
    (hf : scenario.fuels.Perm fuels) (hc : scenario.connections.Perm connections) :
    ((∃ rel, (assembleModel inputs scenario).1 = .ok rel) ↔
      ∃ rel', (assembleModel inputs { scenario with plants, fuels, connections }).1 = .ok rel') ∧
    ∀ rel rel', (assembleModel inputs scenario).1 = .ok rel →
      (assembleModel inputs { scenario with plants, fuels, connections }).1 = .ok rel' →
      ∀ r, (rel.rows r).toList.Perm (rel'.rows r).toList := by
  refine ⟨⟨fun ⟨rel, h⟩ => ?_, fun ⟨rel', h'⟩ => ?_⟩, fun rel rel' h h' r => ?_⟩
  · obtain ⟨rel', h', -⟩ := assembleModel_reorder_ok hp hf hc h
    exact ⟨rel', h'⟩
  · -- the scenario is the reordered one, reordered back
    obtain ⟨rel, h, -⟩ := assembleModel_reorder_ok hp.symm hf.symm hc.symm h'
    exact ⟨rel, h⟩
  · obtain ⟨rel'', h'', hperm⟩ := assembleModel_reorder_ok hp hf hc h
    obtain rfl : rel'' = rel' := Except.ok.inj (h''.symm.trans h')
    exact hperm r

/-- The technologies of a model come in the order the scenario names them. -/
theorem assembleModel_technologies {rel : RelationSet} (h : (assembleModel inputs scenario).1 = .ok rel) :
    (rel.rows .technologies).toList.map List.head? =
      (scenario.plants ++ scenario.fuels.map ("IMP" ++ ·) ++ scenario.connections).map
        fun name => some (.text name) := by
  obtain ⟨b, ps, fs, cs, hstart, hts, rfl⟩ := assembleModel_eq_ok_iff.mp h
  rw [(Builder.start_fresh hstart).1.rows_assembled_of_technology (by decide),
    ← scenarioTechnologies_names hts, List.map_flatMap, List.map_map, List.map_eq_flatMap]
  -- each technology has one row, headed by its name
  simp [techCell]

end Reorder

/-- The sample scenario with two imported fuels, gas then oil. -/
def twoFuelScenario : Scenario := { sampleScenario with fuels := ["GAS", "OIL"] }

/-- The sample inputs with a second imported fuel, oil. -/
def twoFuelInputs : Input.InputTables :=
  { sampleInputs with
    fuels := ⟨sampleInputs.fuels.entries ++ [("OIL", { (default : Input.Fuel) with
      name := "OIL", lifetime := some 30.0, costVariable := some 6.0 })]⟩ }

/-- With both fuels known, the scenario and its reordering both assemble; their technologies
come in the two orders, and every relation has the same rows. -/
theorem twoFuelInputs_reorder :
    ∃ rel rel', (assembleModel twoFuelInputs twoFuelScenario).1 = .ok rel ∧
      (assembleModel twoFuelInputs { twoFuelScenario with fuels := ["OIL", "GAS"] }).1 =
        .ok rel' ∧
      (rel.rows .technologies).toList.map List.head? =
        [some (.text "IMPGAS"), some (.text "IMPOIL")] ∧
      (rel'.rows .technologies).toList.map List.head? =
        [some (.text "IMPOIL"), some (.text "IMPGAS")] ∧
      ∀ r, (rel.rows r).toList.Perm (rel'.rows r).toList := by
  obtain ⟨b, hb⟩ : ∃ b, Builder.start twoFuelInputs twoFuelScenario = .ok b := ⟨_, rfl⟩
  obtain ⟨⟨ps, fs, cs⟩, hts⟩ :
      ∃ ts, scenarioTechnologies twoFuelInputs twoFuelScenario = .ok ts := ⟨_, rfl⟩
  have h := assembleModel_ok hb hts
  obtain ⟨hiff, hperm⟩ := @assembleModel_reorder twoFuelInputs twoFuelScenario _ _ _ (.refl _)
    (.swap "OIL" "GAS" []) (.refl _)
  obtain ⟨rel', h'⟩ := hiff.mp ⟨_, h⟩
  refine ⟨_, rel', h, h', ?_, ?_, hperm _ _ h h'⟩
  · rw [assembleModel_technologies h]
    rfl
  · rw [assembleModel_technologies h']
    rfl

end EnergyModel
