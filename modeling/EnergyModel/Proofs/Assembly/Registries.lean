import EnergyModel.Proofs.Assembly.Consistency

/-!
# The registries of a builder

Besides its rows, a builder keeps two registries: the commodities registered so far, and every
period the model has met. Each entry of a registry is made together with a row. A commodity is
registered with its `commodities` row, once; a vintage of existing capacity becomes a period
with a `time_periods` row flagged `e`, unless the model has that period already, and the start
makes every demand year a period with no row of that kind.

A caller may drive a builder by any calls (`Assembly.Call`): the stages, adding any
technology, registering any commodity, in any order and any number of times, and go on after a
call that failed partway. `Builder.Reachable` is every state reached so. The registries agree
with the rows in each of them (`Builder.Reachable.registries_match_rows`): the start has that
agreement (`Builder.RegistriesAgree`), and every call keeps it, also when it fails
(`Assembly.Keeps`), since a failed call keeps what it did before failing and what it did was
made of steps that keep the agreement.
-/

namespace EnergyModel

open Assembly

/-! ## Calls on a builder -/

/-- A call that a caller can make on a builder. -/
inductive Assembly.Call where
  | processSystem
  | processPlants
  | processFuels
  | processConnections
  | addTechnology (t : Technology)
  | registerCommodity (id flag description : String)

/-- The step of a call; the answer of a registration is dropped. -/
def Assembly.Call.run : Assembly.Call → Assembly Unit
  | .processSystem => Assembly.processSystem
  | .processPlants => Assembly.processPlants
  | .processFuels => Assembly.processFuels
  | .processConnections => Assembly.processConnections
  | .addTechnology t => Assembly.addTechnology t
  | .registerCommodity id flag description => do
    let _ ← Assembly.registerCommodity id flag description

/-- The builder after a call, whether the call succeeds or fails. -/
def Builder.call (b : Builder) (c : Assembly.Call) : Builder := (c.run.run.run b).2

/-- The states a caller reaches from the start of an assembly by any calls. -/
inductive Builder.Reachable (inputs : Input.InputTables) (scenario : Scenario) : Builder → Prop
  | start {b : Builder} : Builder.start inputs scenario = .ok b → Builder.Reachable inputs scenario b
  | call {b : Builder} (c : Assembly.Call) : Builder.Reachable inputs scenario b →
      Builder.Reachable inputs scenario (b.call c)

/-! ## Steps that keep a property, whatever their outcome -/

namespace Assembly

variable {α β γ : Type} {P : Builder → Prop}

/-- Run from a builder with `P`, `m` ends in a builder with `P`, whether it succeeds or fails. -/
def Keeps (P : Builder → Prop) (m : Assembly α) : Prop := ∀ b, P b → P (m.run.run b).2

theorem Keeps.pure (a : α) : Keeps P (Pure.pure a : Assembly α) := fun _ hb => hb

theorem Keeps.bind {m : Assembly α} {k : α → Assembly β} (hm : Keeps P m)
    (hk : ∀ a, Keeps P (k a)) : Keeps P (m >>= k) := by
  intro b hb
  have hend := hm b hb
  simp only [ExceptT.run_bind, StateT.run_bind]
  -- after a failure the run stops where `m` stopped; else the rest runs from there
  rcases hrun : m.run.run b with ⟨_ | a, b'⟩
  · rw [hrun] at hend
    exact hend
  · rw [hrun] at hend
    exact hk a b' hend

theorem Keeps.get_bind {k : Builder → Assembly α} (hk : ∀ b₀, Keeps P (k b₀)) :
    Keeps P (get >>= k) :=
  fun b hb => hk b b hb

theorem Keeps.ofExcept (x : Except Problem α) : Keeps P (Assembly.ofExcept x) := by
  cases x <;> exact fun _ hb => hb

theorem Keeps.within {m : Assembly α} {outer : String} (hm : Keeps P m) :
    Keeps P (Assembly.within outer m) := by
  intro b hb
  have hend := hm b hb
  simp only [Assembly.within, tryCatch, tryCatchThe, MonadExceptOf.tryCatch, ExceptT.tryCatch,
    ExceptT.run_mk, StateT.run_bind]
  -- a failure gets its context and nothing else changes
  rcases hrun : m.run.run b with ⟨_ | a, b'⟩
  all_goals
    rw [hrun] at hend
    erw [hrun]
    exact hend

theorem Keeps.forM {l : List γ} {f : γ → Assembly Unit} (h : ∀ x ∈ l, Keeps P (f x)) :
    Keeps P (l.forM f) := by
  induction l with
  | nil => exact Keeps.pure ()
  | cons x xs ih =>
    exact Keeps.bind (h x (by simp)) fun _ => ih fun y hy => h y (by simp [hy])

/-- A step that always succeeds keeps a property that its successful runs keep, when the
property does not read the notes. -/
theorem Keeps.of_runs {m : Assembly α} (hP : ∀ b ns, P b → P { b with notes := ns })
    (h : ∀ b, P b → ∃ a b', Runs m b a b' ∧ P b') : Keeps P m := by
  intro b hb
  obtain ⟨a, b', hrun, hb'⟩ := h b hb
  obtain ⟨ns', heq⟩ := hrun b.notes
  have hend : m.run.run b = (.ok a, { b' with notes := b.notes ++ ns' }) := heq
  rw [hend]
  exact hP b' _ hb'

end Assembly

/-! ## Registries that agree with the rows -/

/-- Whether a `time_periods` row is flagged `e`, as a vintage of existing capacity. -/
def isLegacyPeriodRow (row : Tuple) : Bool :=
  match Relation.timePeriods.cell "flag" row with
  | some (.text flag) => flag == "e"
  | _ => false

@[simp] theorem isLegacyPeriodRow_period (y : Nat) (flag : String) :
    isLegacyPeriodRow [.year y, .text flag] = (flag == "e") :=
  rfl

/-- The registries of a builder agree with its rows, for the given demand years: every
registered commodity has its row, in order of registration and once; the periods are the demand
years, each once, then the vintages met so far, each once and with its row flagged `e`, in the
order of those rows. -/
structure Builder.RegistriesAgree (years : List Nat) (b : Builder) : Prop where
  catalogued : b.relations.Catalogued
  commodity_names : (b.relations.rows .commodities).toList.map
      (Relation.commodities.cell "comm_name") = b.commodities.map fun id => some (.text id)
  nodup_commodities : b.commodities.Nodup
  legacy_rows : ∃ legacy : List Nat,
    (b.relations.rows .timePeriods).toList.filter isLegacyPeriodRow = legacy.map legacyRow ∧
      b.allTimePeriods = years.eraseDups ++ legacy
  nodup_allTimePeriods : b.allTimePeriods.Nodup

namespace Builder.RegistriesAgree

variable {years : List Nat} {b : Builder}

theorem start {inputs : Input.InputTables} {scenario : Scenario}
    (hstart : Builder.start inputs scenario = .ok b) :
    b.RegistriesAgree (inputs.system.demand.map (·.year)) := by
  obtain ⟨hb, hfuture⟩ := Builder.start_fresh hstart
  obtain ⟨periods, -, rfl⟩ := Builder.start_eq_ok.mp hstart
  -- the start lists the demand years through the fold that adds unseen years
  have hall : periods.future.foldl (fun acc y => if acc.contains y then acc else acc ++ [y]) [] =
      (inputs.system.demand.map (·.year)).eraseDups := by
    rw [← foldl_addNew_nil, ← hfuture]
    rfl
  refine ⟨hb.catalogued, ?_, ?_, ⟨[], ?_, ?_⟩, hb.nodup_allTimePeriods⟩
  · rw [hb.rows_nil, hb.commodities_nil]
    rfl
  · rw [hb.commodities_nil]
    exact List.nodup_nil
  · rw [hb.rows_nil]
    rfl
  · rw [List.append_nil]
    exact hall

/-- Rows that are neither commodities nor periods flagged `e` keep the agreement. -/
theorem emit (h : b.RegistriesAgree years) {L : List (Relation × Tuple)}
    (hcomm : rowsIn .commodities L = [])
    (hperiods : (rowsIn .timePeriods L).filter isLegacyPeriodRow = []) :
    (b.emit L).RegistriesAgree years := by
  obtain ⟨legacy, hrows, hall⟩ := h.legacy_rows
  refine ⟨Builder.catalogued_emit h.catalogued L, ?_, h.nodup_commodities, ⟨legacy, ?_, hall⟩,
    h.nodup_allTimePeriods⟩
  · rw [Builder.rows_emit h.catalogued, hcomm, List.append_nil]
    exact h.commodity_names
  · rw [Builder.rows_emit h.catalogued, List.filter_append, hperiods, List.append_nil]
    exact hrows

theorem addPeriod (h : b.RegistriesAgree years) (y : Nat) : (b.addPeriod y).RegistriesAgree years := by
  obtain ⟨legacy, hrows, hall⟩ := h.legacy_rows
  unfold Builder.addPeriod
  split
  · exact h
  · rename_i hy
    -- a new period, with its row flagged `e`
    have hnew : y ∉ b.allTimePeriods := by simpa using hy
    refine ⟨Builder.catalogued_emit h.catalogued _, ?_, h.nodup_commodities,
      ⟨legacy ++ [y], ?_, ?_⟩, ?_⟩
    · show ((b.relations.appendAll _).rows _).toList.map _ = _
      rw [RelationSet.rows_appendAll h.catalogued]
      simpa using h.commodity_names
    · show ((b.relations.appendAll _).rows _).toList.filter _ = _
      rw [RelationSet.rows_appendAll h.catalogued]
      simp [hrows, legacyRow]
    · simp [hall]
    · exact List.nodup_append.mpr ⟨h.nodup_allTimePeriods, by simp,
        fun a ha x hx => by
          rw [List.mem_singleton.mp hx]
          rintro rfl
          exact hnew ha⟩

theorem foldl_addPeriod (h : b.RegistriesAgree years) (ys : List Nat) :
    (ys.foldl Builder.addPeriod b).RegistriesAgree years := by
  induction ys generalizing b with
  | nil => exact h
  | cons y ys ih => exact ih (h.addPeriod y)

theorem register (h : b.RegistriesAgree years) (id flag description : String) :
    (b.register id flag description).RegistriesAgree years := by
  obtain ⟨legacy, hrows, hall⟩ := h.legacy_rows
  refine ⟨Builder.catalogued_register h.catalogued _ _ _, ?_,
    Builder.nodup_register_commodities h.nodup_commodities _ _ _, ⟨legacy, ?_, ?_⟩, ?_⟩
  · -- a new commodity comes with its row
    unfold Builder.register
    split
    · exact h.commodity_names
    · show ((b.relations.appendAll _).rows _).toList.map _ = _
      rw [RelationSet.rows_appendAll h.catalogued]
      simp only [rowsIn_cons, rowsIn_nil, if_true, List.map_append, h.commodity_names,
        Builder.emit_commodities]
      rfl
  · rw [Builder.rows_register h.catalogued (by decide)]
    exact hrows
  · rw [Builder.register_allTimePeriods]
    exact hall
  · rw [Builder.register_allTimePeriods]
    exact h.nodup_allTimePeriods

theorem withTechnology (h : b.RegistriesAgree years) (t : Technology) :
    (b.withTechnology t).RegistriesAgree years := by
  unfold Builder.withTechnology
  -- the technology's own rows are neither commodities nor periods
  exact (h.foldl_addPeriod _).emit (rowsIn_techPushes_of_system _ _ (by decide))
    (by rw [rowsIn_techPushes_of_system _ _ (by decide)]; rfl)

theorem withSystem (h : b.RegistriesAgree years) : b.withSystem.RegistriesAgree years := by
  unfold Builder.withSystem
  -- the calendar's periods are flagged `f`, and the policies write neither relation
  have hcalendar := h.emit (L := calendarPushes b.setting) (by simp)
    (by simp [List.filter_map, Function.comp_def])
  exact (((hcalendar.register _ _ _).register _ _ _).register _ _ _).emit
    (by simp [apply_ite (rowsIn _)]) (by simp [apply_ite (rowsIn _)])

end Builder.RegistriesAgree

/-! ## Every call keeps the agreement -/

/-- A property of builders that every call keeps, whatever its outcome: the notes do not affect
it, and adding a technology, registering a commodity and the system-wide stage keep it. Every
call is made of these steps, so it keeps such a property also when it stops partway. -/
structure Builder.KeptByCalls (P : Builder → Prop) : Prop where
  notes : ∀ b (ns : Array Note), P b → P { b with notes := ns }
  withTechnology : ∀ b t, P b → P (b.withTechnology t)
  register : ∀ b id flag description, P b → P (b.register id flag description)
  withSystem : ∀ b, P b → P b.withSystem

section Calls

variable {P : Builder → Prop}

theorem Keeps.addTechnology (h : Builder.KeptByCalls P) (t : Technology) :
    Keeps P (addTechnology t) :=
  Keeps.of_runs h.notes fun b hb => ⟨(), _, Runs.addTechnology t b, h.withTechnology b t hb⟩

theorem Keeps.registerCommodity (h : Builder.KeptByCalls P) (id flag description : String) :
    Keeps P (registerCommodity id flag description) :=
  Keeps.of_runs h.notes fun b hb =>
    ⟨_, _, Runs.registerCommodity id flag description b, h.register b id flag description hb⟩

theorem Keeps.processSystem (h : Builder.KeptByCalls P) : Keeps P processSystem :=
  Keeps.of_runs h.notes fun b hb => ⟨(), _, Runs.processSystem b, h.withSystem b hb⟩

/-- A stage of technologies keeps the property, also when a technology cannot be made and the
stage stops there: everything it did before is additions of technologies and registrations. -/
theorem Keeps.processPlants (h : Builder.KeptByCalls P) : Keeps P processPlants := by
  unfold Assembly.processPlants
  exact Keeps.get_bind fun _ => Keeps.forM fun _ _ =>
    Keeps.bind (Keeps.ofExcept _) fun t => Keeps.within (Keeps.addTechnology h t)

theorem Keeps.processFuels (h : Builder.KeptByCalls P) : Keeps P processFuels := by
  unfold Assembly.processFuels
  exact Keeps.get_bind fun _ => Keeps.forM fun name _ =>
    Keeps.bind (Keeps.ofExcept _) fun t => Keeps.bind (Keeps.within (Keeps.addTechnology h t))
      fun _ => Keeps.bind (Keeps.registerCommodity h _ _ _) fun _ => Keeps.pure ()

theorem Keeps.processConnections (h : Builder.KeptByCalls P) : Keeps P processConnections := by
  unfold Assembly.processConnections
  exact Keeps.get_bind fun _ => Keeps.forM fun _ _ =>
    Keeps.bind (Keeps.ofExcept _) fun t => Keeps.bind (Keeps.within (Keeps.addTechnology h t))
      fun _ => Keeps.bind (Keeps.registerCommodity h _ _ _)
        fun _ => Keeps.bind (Keeps.registerCommodity h _ _ _) fun _ => Keeps.pure ()

theorem Keeps.call (h : Builder.KeptByCalls P) (c : Assembly.Call) : Keeps P c.run := by
  cases c with
  | processSystem => exact Keeps.processSystem h
  | processPlants => exact Keeps.processPlants h
  | processFuels => exact Keeps.processFuels h
  | processConnections => exact Keeps.processConnections h
  | addTechnology t => exact Keeps.addTechnology h t
  | registerCommodity id flag description =>
    exact Keeps.bind (Keeps.registerCommodity h id flag description) fun _ => Keeps.pure ()

/-- A property that every start has and every call keeps holds in every state a caller
reaches. -/
theorem Builder.Reachable.of_kept {inputs : Input.InputTables} {scenario : Scenario}
    (h : Builder.KeptByCalls P) (hstart : ∀ b, Builder.start inputs scenario = .ok b → P b)
    {b : Builder} (hb : Builder.Reachable inputs scenario b) : P b := by
  induction hb with
  | start hs => exact hstart _ hs
  | call c _ ih => exact Keeps.call h c _ ih

end Calls

theorem Builder.RegistriesAgree.keptByCalls (years : List Nat) :
    Builder.KeptByCalls (Builder.RegistriesAgree years) where
  notes _ _ hb := ⟨hb.catalogued, hb.commodity_names, hb.nodup_commodities, hb.legacy_rows,
    hb.nodup_allTimePeriods⟩
  withTechnology _ t hb := hb.withTechnology t
  register _ id flag description hb := hb.register id flag description
  withSystem _ hb := hb.withSystem

/-- Every state a caller reaches has registries that agree with its rows. -/
theorem Builder.Reachable.registriesAgree {inputs : Input.InputTables} {scenario : Scenario}
    {b : Builder} (h : Builder.Reachable inputs scenario b) :
    b.RegistriesAgree (inputs.system.demand.map (·.year)) :=
  h.of_kept (Builder.RegistriesAgree.keptByCalls _) fun _ hs => Builder.RegistriesAgree.start hs

/-- In every state a caller reaches, whatever calls were made and whether they failed: the
commodities rows name the registered commodities, in order of registration and each once; and
the periods are the demand years, each once, followed by the years of the rows flagged `e`, in
the order of those rows, which are all different and none of them a demand year. -/
theorem Builder.Reachable.registries_match_rows {inputs : Input.InputTables}
    {scenario : Scenario} {b : Builder} (h : Builder.Reachable inputs scenario b) :
    (b.relations.rows .commodities).toList.map (Relation.commodities.cell "comm_name") =
        b.commodities.map (fun id => some (.text id)) ∧
      b.commodities.Nodup ∧
      ∃ legacy : List Nat,
        (b.relations.rows .timePeriods).toList.filter isLegacyPeriodRow = legacy.map legacyRow ∧
        legacy.Nodup ∧ (∀ y ∈ legacy, y ∉ inputs.system.demand.map (·.year)) ∧
        b.allTimePeriods = (inputs.system.demand.map (·.year)).eraseDups ++ legacy := by
  have hagree := h.registriesAgree
  obtain ⟨legacy, hrows, hall⟩ := hagree.legacy_rows
  have hnodup := hagree.nodup_allTimePeriods
  rw [hall] at hnodup
  obtain ⟨-, hlegacy, hdisjoint⟩ := List.nodup_append.mp hnodup
  refine ⟨hagree.commodity_names, hagree.nodup_commodities, legacy, hrows, hlegacy,
    fun y hy hdemand => ?_, hall⟩
  -- a vintage that is a demand year would be listed twice
  exact hdisjoint y (List.mem_eraseDups.mpr hdemand) y hy rfl

/-! ## A run of calls -/

/-- The start of an assembly of the sample inputs. -/
def sampleStart : Builder :=
  match Builder.start sampleInputs sampleScenario with
  | .ok b => b
  | .error _ => default

/-- The sample builder after the system-wide stage, the fuels, a registration of a fuel that
is registered already, and the connections. -/
def sampleCalls : Builder :=
  (((sampleStart.call .processSystem).call .processFuels).call
    (.registerCommodity "GAS" "p" "GAS")).call .processConnections

theorem sampleCalls_reachable : Builder.Reachable sampleInputs sampleScenario sampleCalls :=
  .call _ (.call _ (.call _ (.call _ (.start rfl))))

theorem sampleCalls_registries :
    Builder.Reachable sampleInputs sampleScenario sampleCalls ∧
    (sampleCalls.relations.rows .commodities).toList.map (Relation.commodities.cell "comm_name") =
        sampleCalls.commodities.map (fun id => some (.text id)) ∧
      sampleCalls.commodities.Nodup ∧
      ∃ legacy : List Nat,
        (sampleCalls.relations.rows .timePeriods).toList.filter isLegacyPeriodRow =
          legacy.map legacyRow ∧
        legacy.Nodup ∧ (∀ y ∈ legacy, y ∉ sampleInputs.system.demand.map (·.year)) ∧
        sampleCalls.allTimePeriods = (sampleInputs.system.demand.map (·.year)).eraseDups ++ legacy :=
  ⟨sampleCalls_reachable, Builder.Reachable.registries_match_rows sampleCalls_reachable⟩

end EnergyModel
