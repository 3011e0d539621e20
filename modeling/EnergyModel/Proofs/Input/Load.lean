import EnergyModel.Proofs.Assembly.Keys

/-!
# What loading the input tables establishes

Loading reads every table file of an inputs directory, then checks what the rest of the
program relies on: the demand years rise strictly and there are two of them at least; the
tables every model needs are not empty; the six tables of named entities (the four tables of
power plants, the fuels and the connections) name each entity once, and are kept in file order
under those names; and every row of existing capacity names a known entity. A loaded table
holds exactly the decoded rows of its file.

`TableRows` is what the files of a directory decode to before any check, and
`TableRows.tables` the tables made of them; `InputTables.WellFormed` gathers the checks. Loading
succeeds only with the tables of the decoded rows, and only when they pass every check; so when
every file decodes, loading fails exactly when one of the checks fails
(`loadInputs_establishes_invariants`). Besides, no optional number of a loaded table is NaN
(`InputTables.NanFree`): reading a cell turns NaN into no value.
-/

namespace EnergyModel.Input

/-! ## Tables of named rows -/

section Catalogs

variable {α : Type}

/-- Rows under their names, in file order. -/
def Catalog.byName (rows : List α) (name : α → String) : Catalog α :=
  ⟨rows.map fun r => (name r, r)⟩

/-- Every name of a table is listed once, and with the row of that name. -/
structure Catalog.Keyed (c : Catalog α) (name : α → String) : Prop where
  nodup : c.names.Nodup
  key_eq : ∀ e ∈ c.entries, e.1 = name e.2

@[simp] theorem Catalog.names_byName (rows : List α) (name : α → String) :
    (Catalog.byName rows name).names = rows.map name := by
  simp [Catalog.byName, Catalog.names, Function.comp_def]

@[simp] theorem Catalog.rows_byName (rows : List α) (name : α → String) :
    (Catalog.byName rows name).rows = rows := by
  simp [Catalog.byName, Catalog.rows, Function.comp_def]

/-- Every row of existing capacity names an entity of the table. -/
def Catalog.Covers (c : Catalog α) (existing : List ExistingCapacity) : Prop :=
  ∀ e ∈ existing, c.contains e.name = true

theorem Catalog.keyed_byName_iff {rows : List α} {name : α → String} :
    (Catalog.byName rows name).Keyed name ↔ (rows.map name).Nodup := by
  constructor
  · intro h
    simpa using h.nodup
  · intro h
    refine ⟨by simpa using h, fun e he => ?_⟩
    obtain ⟨r, -, rfl⟩ := List.mem_map.mp he
    rfl

theorem Catalog.byName_eq_nil_iff {rows : List α} {name : α → String} :
    (Catalog.byName rows name).entries = [] ↔ rows = [] := by
  simp [Catalog.byName]

/-- An entry has a name exactly when the name is among the keys. -/
theorem any_fst_beq_iff {k : String} {acc : List (String × α)} :
    acc.any (·.1 == k) = true ↔ k ∈ acc.map (·.1) := by
  rw [List.any_eq_true, List.mem_map]
  simp only [beq_iff_eq]

/-- Indexing rows one by one, refusing a name already listed, succeeds exactly when no name is
listed twice, and lists every row under its name. -/
theorem Catalog.foldlM_index_eq_ok (name : α → String) (table : String) (rows : List α)
    (acc out : List (String × α)) (hacc : (acc.map (·.1)).Nodup) :
    rows.foldlM (fun acc row =>
        if acc.any (·.1 == name row) then Except.error (Problem.duplicateEntry (name row) table)
        else Except.ok (acc ++ [(name row, row)])) acc = .ok out ↔
      (acc.map (·.1) ++ rows.map name).Nodup ∧ out = acc ++ rows.map fun r => (name r, r) := by
  induction rows generalizing acc with
  | nil =>
    simp only [List.foldlM_nil, List.map_nil, List.append_nil, hacc, true_and]
    exact ⟨fun h => (Except.ok.inj h).symm, fun h => h ▸ rfl⟩
  | cons r rs ih =>
    rw [List.foldlM_cons]
    by_cases hdup : acc.any (·.1 == name r) = true
    · -- the name is listed already: the indexing stops, and the names repeat
      simp only [hdup, ↓reduceIte, bind, Except.bind, reduceCtorEq, false_iff, not_and]
      intro hnodup
      exact ((List.nodup_append.mp hnodup).2.2 _ (any_fst_beq_iff.mp hdup) _
        (List.mem_map_of_mem List.mem_cons_self) rfl).elim
    · have hfresh : name r ∉ acc.map (·.1) := mt any_fst_beq_iff.mpr hdup
      have hacc' : ((acc ++ [(name r, r)]).map (·.1)).Nodup := by
        rw [List.map_append, List.nodup_append]
        exact ⟨hacc, by simp, by simpa using fun a ha => (ne_of_mem_of_not_mem ha hfresh)⟩
      simp only [hdup, Bool.false_eq_true, ↓reduceIte, bind, Except.bind]
      rw [ih _ hacc']
      simp only [List.map_append, List.map_cons, List.map_nil, List.append_assoc,
        List.cons_append, List.nil_append]

/-- Indexing a table succeeds exactly when it names every row once, and then lists the rows
under their names in file order. -/
theorem Catalog.ofRows_eq_ok_iff {rows : List α} {name : α → String} (table : String)
    {c : Catalog α} :
    Catalog.ofRows rows name table = .ok c ↔
      (Catalog.byName rows name).Keyed name ∧ c = Catalog.byName rows name := by
  have hindex (out : List (String × α)) :=
    Catalog.foldlM_index_eq_ok name table rows [] out List.nodup_nil
  simp only [List.map_nil, List.nil_append] at hindex
  rw [Catalog.keyed_byName_iff]
  unfold Catalog.ofRows
  simp only [Except.map]
  split
  · next e hfold =>
    simp only [reduceCtorEq, false_iff, not_and]
    intro hnodup
    rw [(hindex _).mpr ⟨hnodup, rfl⟩] at hfold
    cases hfold
  · next entries hfold =>
    obtain ⟨hnodup, rfl⟩ := (hindex _).mp hfold
    simp only [Except.ok.injEq, hnodup, true_and]
    exact ⟨fun h => h ▸ rfl, fun h => h ▸ rfl⟩

end Catalogs

/-! ## Reading one table -/

section Reading

variable {files : FileTree Content} {path dir table : String} {fields : List Field}
  {rows : List Row}

theorem readRows_of_readSomeRows {out : List Row} (h : readSomeRows files path fields = .ok out) :
    readRows files path fields = .ok out := by
  unfold readSomeRows at h
  cases hrows : readRows files path fields with
  | error e => simp [hrows, bind, Except.bind] at h
  | ok rs =>
    cases rs with
    | nil => simp [hrows, bind, Except.bind, throw, throwThe, MonadExceptOf.throw] at h
    | cons r rs => simpa [hrows, bind, Except.bind, pure, Except.pure] using h

/-- A table that must not be empty, of a file that decodes to `rows`. -/
theorem readSomeRows_eq_ok_iff (hrows : readRows files path fields = .ok rows) {out : List Row} :
    readSomeRows files path fields = .ok out ↔ rows ≠ [] ∧ out = rows := by
  unfold readSomeRows
  cases rows with
  | nil => simp [hrows, bind, Except.bind, throw, throwThe, MonadExceptOf.throw]
  | cons r rs => simp [hrows, bind, Except.bind, pure, Except.pure, eq_comm]

theorem readRows_of_readCatalog {α : Type} {ofRow : Row → α} {name : α → String}
    {c : Catalog α} (h : readCatalog files dir table fields ofRow name = .ok c) :
    ∃ rows, readRows files (Path.join dir (table ++ ".csv")) fields = .ok rows := by
  simp only [readCatalog, bind_eq_ok_iff] at h
  obtain ⟨rows, hrows, -⟩ := h
  exact ⟨rows, readRows_of_readSomeRows hrows⟩

/-- A table of named entities, of a file that decodes to `rows`: it is read when it is not empty
and names each entity once, and then holds the entities of the rows under their names. -/
theorem readCatalog_eq_ok_iff {α : Type} {ofRow : Row → α} {name : α → String}
    {c : Catalog α} (table : String)
    (hrows : readRows files (Path.join dir (table ++ ".csv")) fields = .ok rows) :
    readCatalog files dir table fields ofRow name = .ok c ↔
      ((Catalog.byName (rows.map ofRow) name).entries ≠ [] ∧
        (Catalog.byName (rows.map ofRow) name).Keyed name) ∧
      c = Catalog.byName (rows.map ofRow) name := by
  simp only [readCatalog, bind_eq_ok_iff, readSomeRows_eq_ok_iff hrows]
  constructor
  · rintro ⟨_, ⟨hne, rfl⟩, h⟩
    split at h
    · next c' hc' =>
      obtain ⟨hkeyed, rfl⟩ := (Catalog.ofRows_eq_ok_iff _).mp hc'
      cases h
      exact ⟨⟨by simpa [Catalog.byName_eq_nil_iff] using hne, hkeyed⟩, rfl⟩
    · simp [throw, throwThe, MonadExceptOf.throw] at h
  · rintro ⟨⟨hne, hkeyed⟩, rfl⟩
    refine ⟨rows, ⟨by simpa [Catalog.byName_eq_nil_iff] using hne, rfl⟩, ?_⟩
    rw [(Catalog.ofRows_eq_ok_iff table).mpr ⟨hkeyed, rfl⟩]
    rfl

theorem readRows_of_readExisting {α : Type} {known : Catalog α} {out : List ExistingCapacity}
    (h : readExisting files path known = .ok out) :
    ∃ rows, readRows files path ExistingCapacity.fields = .ok rows := by
  simp only [readExisting, bind_eq_ok_iff] at h
  obtain ⟨rows, hrows, -⟩ := h
  exact ⟨rows, hrows⟩

/-- A table of existing capacity, of a file that decodes to `rows`: it is read when every row
names a known entity. -/
theorem readExisting_eq_ok_iff {α : Type} {known : Catalog α} {out : List ExistingCapacity}
    (hrows : readRows files path ExistingCapacity.fields = .ok rows) :
    readExisting files path known = .ok out ↔
      known.Covers (rows.map ExistingCapacity.ofRow) ∧ out = rows.map ExistingCapacity.ofRow := by
  simp only [readExisting, hrows, bind, Except.bind, Catalog.Covers]
  split
  · next row hfind =>
    simp only [throw, throwThe, MonadExceptOf.throw, reduceCtorEq, false_iff, not_and]
    intro hall
    have hrow := List.find?_some hfind
    simp [hall row (List.mem_of_find?_eq_some hfind)] at hrow
  · next hfind =>
    rw [List.find?_eq_none] at hfind
    simp only [Bool.not_eq_true', Bool.not_eq_false] at hfind
    simp only [pure, Except.pure, Except.ok.injEq]
    exact ⟨fun h => ⟨hfind, h.symm⟩, fun h => h.2.symm⟩

end Reading

/-! ## No optional number is NaN

A cell of an optional number is read by `parseValue`, which gives no value for a missing marker
and for any spelling of NaN; the fallback of an optional number is no value. So no optional
number of a decoded row is NaN, whatever the file holds. -/

section NanFree

variable {α : Type}

/-- A value that holds no NaN: only an optional number can hold one. -/
def FieldValue.nanFree : FieldValue → Bool
  | .optionalNumber (some x) => !x.isNaN
  | _ => true

/-- The fallbacks of a layout hold no NaN. -/
def Field.FallbacksNanFree (fields : List Field) : Prop :=
  ∀ f ∈ fields, ∀ v ∈ f.fallback, v.nanFree = true

instance : DecidablePred Field.FallbacksNanFree := fun fields =>
  inferInstanceAs (Decidable (∀ f ∈ fields, ∀ v ∈ f.fallback, v.nanFree = true))

/-- A numeric column reads, from the entity of a row, the cell under its own header. -/
def NumericColumn.Reads (ofRow : Row → α) (col : NumericColumn α) : Prop :=
  ∀ r, col.get (ofRow r) = r.optionalNumber col.header

/-- No optional number of the rows of a table is NaN. -/
def Catalog.NanFree (c : Catalog α) (columns : List (NumericColumn α)) : Prop :=
  ∀ a ∈ c.rows, ∀ col ∈ columns, ∀ x ∈ col.get a, x.isNaN = false

/-- A value that a fold keeps a property of has it at the end. -/
theorem invariant_of_foldlM_eq_ok {ε β : Type} {f : β → α → Except ε β} {P : β → Prop}
    (hstep : ∀ b a b', P b → f b a = .ok b' → P b') :
    ∀ {l : List α} {b b' : β}, P b → l.foldlM f b = .ok b' → P b'
  | [], b, b', hb, h => by
    simp only [List.foldlM_nil, pure, Except.pure, Except.ok.injEq] at h
    exact h ▸ hb
  | a :: l, b, b', hb, h => by
    rw [List.foldlM_cons, bind_eq_ok_iff] at h
    obtain ⟨b₁, h₁, h⟩ := h
    exact invariant_of_foldlM_eq_ok hstep (hstep b a b₁ hb h₁) h

/-- Every result of a traversal is made from an element. -/
theorem exists_of_mem_mapM_eq_ok {ε β : Type} {make : α → Except ε β} {l : List α}
    {out : List β} (h : l.mapM make = .ok out) {b : β} (hb : b ∈ out) :
    ∃ a ∈ l, make a = .ok b := by
  induction l generalizing out with
  | nil =>
    simp only [List.mapM_nil, pure, Except.pure, Except.ok.injEq] at h
    simp [← h] at hb
  | cons a l ih =>
    obtain ⟨t, ts, ht, hts, rfl⟩ := mapM_cons_eq_ok.mp h
    rcases List.mem_cons.mp hb with rfl | hb
    · exact ⟨a, List.mem_cons_self, ht⟩
    · obtain ⟨a', ha', h'⟩ := ih hts hb
      exact ⟨a', List.mem_cons_of_mem _ ha', h'⟩

/-- A number read from a cell is never NaN: markers and NaN spellings give no value. -/
theorem parseValue_nanFree {s : String} {v : Option Float} (h : parseValue s = .ok v) :
    ∀ x ∈ v, x.isNaN = false := by
  unfold parseValue at h
  dsimp only at h
  split at h
  · cases h
    simp
  · split at h
    · next x _ =>
      cases h
      -- a NaN reading is dropped, so whatever is kept is not NaN
      simp
    · cases h

theorem FieldKind.read_nanFree {k : FieldKind} {cell : String} {v : FieldValue}
    (h : k.read cell = .ok v) : v.nanFree = true := by
  cases k with
  | optionalNumber =>
    simp only [FieldKind.read] at h
    split at h
    · next w hw =>
      cases h
      cases w with
      | none => rfl
      | some x => simpa [FieldValue.nanFree] using parseValue_nanFree hw x rfl
    · cases h
  | count | number | choice =>
    simp only [FieldKind.read] at h
    split at h
    · cases h
      rfl
    · cases h
  | text | optionalText | flag =>
    simp only [FieldKind.read, Except.ok.injEq] at h
    exact h ▸ rfl

/-- No value of a decoded record is NaN: each was read from its cell or is a fallback. -/
theorem decodeRecord_nanFree {fields : List Field} {header : List String} {r : Csv.Record}
    {row : Row} (hfields : Field.FallbacksNanFree fields)
    (h : decodeRecord fields header r = .ok row) : ∀ p ∈ row.values, p.2.nanFree = true := by
  simp only [decodeRecord, bind_eq_ok_iff] at h
  obtain ⟨found, hfound, complete, hcomplete, h⟩ := h
  simp only [pure, Except.pure, Except.ok.injEq] at h
  subst h
  -- the columns met keep the values read so far free of NaN
  have hfound' : ∀ p ∈ found, p.2.nanFree = true := by
    refine invariant_of_foldlM_eq_ok (P := fun found => ∀ p ∈ found, p.2.nanFree = true)
      ?_ (by simp) hfound
    intro acc column acc' hacc hstep
    obtain ⟨⟨name, cell⟩, index⟩ := column
    simp only at hstep
    split at hstep
    · simp only [pure, Except.pure, Except.ok.injEq] at hstep
      exact hstep ▸ hacc
    · split at hstep
      · cases hstep
      · split at hstep
        · next v hv =>
          simp only [pure, Except.pure, Except.ok.injEq] at hstep
          subst hstep
          intro p hp
          rcases List.mem_append.mp hp with hp | hp
          · exact hacc p hp
          · rw [List.mem_singleton.mp hp]
            exact FieldKind.read_nanFree hv
        · cases hstep
  intro p hp
  obtain ⟨f, hf, hmake⟩ := exists_of_mem_mapM_eq_ok hcomplete hp
  split at hmake
  · next v hv =>
    simp only [pure, Except.pure, Except.ok.injEq] at hmake
    subst hmake
    show v.nanFree = true
    exact hfound' _ (List.mem_of_find?_eq_some hv)
  · next v _ hv =>
    simp only [pure, Except.pure, Except.ok.injEq] at hmake
    subst hmake
    exact hfields f hf v hv
  · cases hmake

/-- No value of the rows read from a table is NaN, for a layout whose fallbacks are not. -/
theorem readRows_nanFree {files : FileTree Content} {path : String} {fields : List Field}
    {rows : List Row} (hfields : Field.FallbacksNanFree fields)
    (h : readRows files path fields = .ok rows) :
    ∀ row ∈ rows, ∀ p ∈ row.values, p.2.nanFree = true := by
  unfold readRows at h
  split at h
  · cases h
  · dsimp only at h
    split at h
    · cases h
    · next decoded hdecoded =>
      split at h
      · cases h
      · cases h
        intro row hrow
        obtain ⟨r, -, hr⟩ := exists_of_mem_mapM_eq_ok hdecoded hrow
        exact decodeRecord_nanFree hfields hr

theorem Row.optionalNumber_nanFree {r : Row} (hr : ∀ p ∈ r.values, p.2.nanFree = true)
    (name : String) : ∀ x ∈ r.optionalNumber name, x.isNaN = false := by
  intro x hx
  unfold Row.optionalNumber Row.get? at hx
  split at hx
  · next y hget =>
    obtain ⟨p, hp, hpv⟩ := Option.map_eq_some_iff.mp hget
    have hfree := hr p (List.mem_of_find?_eq_some hp)
    rw [hpv] at hfree
    cases hx
    simpa [FieldValue.nanFree] using hfree
  · cases hx

/-- The entities of rows free of NaN, read by columns that read their own cells, hold no NaN. -/
theorem Catalog.nanFree_byName {rows : List Row} {ofRow : Row → α} {name : α → String}
    {columns : List (NumericColumn α)} (hcolumns : ∀ col ∈ columns, col.Reads ofRow)
    (hrows : ∀ row ∈ rows, ∀ p ∈ row.values, p.2.nanFree = true) :
    (Catalog.byName (rows.map ofRow) name).NanFree columns := by
  intro a ha col hcol x hx
  rw [Catalog.rows_byName] at ha
  obtain ⟨row, hrow, rfl⟩ := List.mem_map.mp ha
  rw [hcolumns col hcol row] at hx
  exact Row.optionalNumber_nanFree (hrows row hrow) _ x hx

theorem Plant.columns_read : ∀ col ∈ Plant.columns, col.Reads Plant.ofRow := by
  simp [Plant.columns, NumericColumn.Reads, Plant.ofRow]

theorem Performance.columns_read :
    ∀ col ∈ Performance.columns, col.Reads Performance.ofRow := by
  simp [Performance.columns, NumericColumn.Reads, Performance.ofRow]

theorem Costs.columns_read : ∀ col ∈ Costs.columns, col.Reads Costs.ofRow := by
  simp [Costs.columns, NumericColumn.Reads, Costs.ofRow]

theorem Constraints.columns_read :
    ∀ col ∈ Constraints.columns, col.Reads Constraints.ofRow := by
  simp [Constraints.columns, NumericColumn.Reads, Constraints.ofRow]

theorem Fuel.columns_read : ∀ col ∈ Fuel.columns, col.Reads Fuel.ofRow := by
  simp [Fuel.columns, NumericColumn.Reads, Fuel.ofRow]

theorem Connection.columns_read : ∀ col ∈ Connection.columns, col.Reads Connection.ofRow := by
  simp [Connection.columns, NumericColumn.Reads, Connection.ofRow]

end NanFree

/-! ## Demand years -/

theorem strictlyRising_of_pairwise :
    ∀ {years : List Nat}, years.Pairwise (· < ·) → strictlyRising years = true
  | [], _ | [_], _ => rfl
  | a :: b :: rest, h => by
    obtain ⟨hab, hrest⟩ := List.pairwise_cons.mp h
    simp only [strictlyRising, Bool.and_eq_true, decide_eq_true_eq]
    exact ⟨hab b List.mem_cons_self, strictlyRising_of_pairwise hrest⟩

/-- The demand years pass their check exactly when they rise strictly and there are two of them
at least. -/
theorem checkDemandYears_eq_ok_iff {demand : List YearlyDemand} :
    checkDemandYears demand = .ok () ↔
      (demand.map (·.year)).Pairwise (· < ·) ∧ 2 ≤ demand.length := by
  unfold checkDemandYears
  by_cases hrising : strictlyRising (demand.map (·.year)) = true
  · have hpairwise := pairwise_of_strictlyRising hrising
    by_cases hfew : demand.length < 2
    · simp [hrising, hfew]
    · simp [hrising, hfew, hpairwise]
      omega
  · have hnot : ¬ (demand.map (·.year)).Pairwise (· < ·) :=
      fun h => hrising (strictlyRising_of_pairwise h)
    simp [hrising, hnot]

/-! ## What the files of a directory decode to -/

/-- The rows of the system-wide files, decoded and not yet checked. -/
structure SystemRows where
  demand : List Row
  days : List Row
  timesOfDay : List Row
  demandShares : List Row
  discountRates : List Row
  techDiscountRates : RawTable
  emissionLimits : List Row
  reserveMargins : List Row
  capacityFactors : List Row
  minimumCapacities : List Row
  references : RawTable

/-- Every system-wide file of a directory decodes, to the rows given. -/
structure SystemRows.Decoded (R : SystemRows) (files : FileTree Content) (dir : String) :
    Prop where
  demand : readRows files (Path.join dir "Demand.csv") YearlyDemand.fields = .ok R.demand
  days : readRows files (Path.join dir "representativeDays.csv") RepresentativeDay.fields =
    .ok R.days
  timesOfDay : readRows files (Path.join dir "timesOfDay.csv") TimeOfDay.fields = .ok R.timesOfDay
  demandShares : readRows files (Path.join dir "DemandTOD.csv") DemandShare.fields =
    .ok R.demandShares
  discountRates : readRows files (Path.join dir "DiscountRateGlobal.csv") discountRateFields =
    .ok R.discountRates
  techDiscountRates : readRawTable files (Path.join dir "DiscountRateTech.csv") =
    .ok R.techDiscountRates
  emissionLimits : readRows files (Path.join dir "Emission.csv") EmissionLimit.fields =
    .ok R.emissionLimits
  reserveMargins : readRows files (Path.join dir "ReserveMargin.csv") reserveMarginFields =
    .ok R.reserveMargins
  capacityFactors : readRows files (Path.join dir "capacityFactorTOD.csv")
    CapacityFactorProfile.fields = .ok R.capacityFactors
  minimumCapacities : readRows files (Path.join dir "MinCapacity.csv") MinimumCapacity.fields =
    .ok R.minimumCapacities
  references : readRawTable files (Path.join dir "ref.csv") = .ok R.references

/-- The system-wide tables of decoded rows. -/
def SystemRows.tables (R : SystemRows) : SystemTables where
  days := R.days.map RepresentativeDay.ofRow
  timesOfDay := R.timesOfDay.map TimeOfDay.ofRow
  demand := R.demand.map YearlyDemand.ofRow
  demandShares := R.demandShares.map DemandShare.ofRow
  discountRates := R.discountRates.map (·.optionalNumber "DiscountRate")
  techDiscountRates := R.techDiscountRates
  emissionLimits := R.emissionLimits.map EmissionLimit.ofRow
  reserveMargins := R.reserveMargins.map (·.optionalNumber "ReserveMargin")
  capacityFactors := R.capacityFactors.map CapacityFactorProfile.ofRow
  minimumCapacities := R.minimumCapacities.map MinimumCapacity.ofRow
  references := R.references

/-- The rows of the power plant files, decoded and not yet checked. -/
structure PlantRows where
  plants : List Row
  existing : List Row
  performance : List Row
  costs : List Row
  constraints : List Row

/-- Every power plant file of a directory decodes, to the rows given. -/
structure PlantRows.Decoded (R : PlantRows) (files : FileTree Content) (dir : String) :
    Prop where
  plants : readRows files (Path.join dir "PowerPlants.csv") Plant.fields = .ok R.plants
  existing : readRows files (Path.join dir "PowerPlantsExisting.csv") ExistingCapacity.fields =
    .ok R.existing
  performance : readRows files (Path.join dir "PowerPlantsPerformance.csv") Performance.fields =
    .ok R.performance
  costs : readRows files (Path.join dir "PowerPlantsCosts.csv") Costs.fields = .ok R.costs
  constraints : readRows files (Path.join dir "PowerPlantsConstraints.csv") Constraints.fields =
    .ok R.constraints

/-- The power plant tables of decoded rows: each table of plants holds the plants of its rows
under their names, in file order. -/
def PlantRows.tables (R : PlantRows) : PlantTables where
  plants := Catalog.byName (R.plants.map Plant.ofRow) (·.name)
  performance := Catalog.byName (R.performance.map Performance.ofRow) (·.name)
  costs := Catalog.byName (R.costs.map Costs.ofRow) (·.name)
  constraints := Catalog.byName (R.constraints.map Constraints.ofRow) (·.name)
  existing := R.existing.map ExistingCapacity.ofRow

/-- The rows of every input file, decoded and not yet checked. -/
structure TableRows where
  system : SystemRows
  plants : PlantRows
  fuels : List Row
  fuelsExisting : List Row
  connections : List Row
  connectionsExisting : List Row

/-- Every input file of a directory decodes, to the rows given. -/
structure TableRows.Decoded (R : TableRows) (files : FileTree Content) (dir : String) :
    Prop where
  system : R.system.Decoded files dir
  plants : R.plants.Decoded files dir
  fuels : readRows files (Path.join dir "Fuels.csv") Fuel.fields = .ok R.fuels
  fuelsExisting : readRows files (Path.join dir "FuelsExisting.csv") ExistingCapacity.fields =
    .ok R.fuelsExisting
  connections : readRows files (Path.join dir "Connections.csv") Connection.fields =
    .ok R.connections
  connectionsExisting : readRows files (Path.join dir "ConnectionsExisting.csv")
    ExistingCapacity.fields = .ok R.connectionsExisting

/-- The input tables of decoded rows. -/
def TableRows.tables (R : TableRows) : InputTables where
  system := R.system.tables
  plants := R.plants.tables
  fuels := Catalog.byName (R.fuels.map Fuel.ofRow) (·.name)
  fuelsExisting := R.fuelsExisting.map ExistingCapacity.ofRow
  connections := Catalog.byName (R.connections.map Connection.ofRow) (·.name)
  connectionsExisting := R.connectionsExisting.map ExistingCapacity.ofRow

/-! ## What loading checks -/

/-- What loading checks of the system-wide tables: demand years that rise strictly, two of them
at least, and some representative days, times of day, demand shares and discount rate rows. -/
structure SystemTables.WellFormed (s : SystemTables) : Prop where
  demand_rising : (s.demand.map (·.year)).Pairwise (· < ·)
  two_le_demand : 2 ≤ s.demand.length
  days_ne_nil : s.days ≠ []
  timesOfDay_ne_nil : s.timesOfDay ≠ []
  demandShares_ne_nil : s.demandShares ≠ []
  discountRates_ne_nil : s.discountRates ≠ []

/-- What loading checks of the power plant tables: none of the four tables of plants is empty,
each names a plant once, and existing capacity is of known plants. -/
structure PlantTables.WellFormed (p : PlantTables) : Prop where
  plants_ne_nil : p.plants.entries ≠ []
  plants_keyed : p.plants.Keyed (·.name)
  existing_known : p.plants.Covers p.existing
  performance_ne_nil : p.performance.entries ≠ []
  performance_keyed : p.performance.Keyed (·.name)
  costs_ne_nil : p.costs.entries ≠ []
  costs_keyed : p.costs.Keyed (·.name)
  constraints_ne_nil : p.constraints.entries ≠ []
  constraints_keyed : p.constraints.Keyed (·.name)

/-- What loading checks of the input tables. The connections may be empty. -/
structure InputTables.WellFormed (T : InputTables) : Prop where
  system : T.system.WellFormed
  plants : T.plants.WellFormed
  fuels_ne_nil : T.fuels.entries ≠ []
  fuels_keyed : T.fuels.Keyed (·.name)
  fuelsExisting_known : T.fuels.Covers T.fuelsExisting
  connections_keyed : T.connections.Keyed (·.name)
  connectionsExisting_known : T.connections.Covers T.connectionsExisting

/-- No optional number of the input tables is NaN. -/
structure InputTables.NanFree (T : InputTables) : Prop where
  renewableShares : ∀ d ∈ T.system.demand, ∀ x ∈ d.renewableShare, x.isNaN = false
  discountRates : ∀ r ∈ T.system.discountRates, ∀ x ∈ r, x.isNaN = false
  reserveMargins : ∀ r ∈ T.system.reserveMargins, ∀ x ∈ r, x.isNaN = false
  plants : T.plants.plants.NanFree Plant.columns
  performance : T.plants.performance.NanFree Performance.columns
  costs : T.plants.costs.NanFree Costs.columns
  constraints : T.plants.constraints.NanFree Constraints.columns
  fuels : T.fuels.NanFree Fuel.columns
  connections : T.connections.NanFree Connection.columns

/-! ## Loading, reader by reader

Each reader is described twice: it succeeds only when its files decode (`exists_decoded`), and
for files that decode it succeeds exactly when its checks pass, with the tables of the decoded
rows (`eq_ok_iff`). -/

section Loading

variable {files : FileTree Content} {dir : String}

theorem SystemRows.exists_decoded {s : SystemTables} (h : readSystemTables files dir = .ok s) :
    ∃ R : SystemRows, R.Decoded files dir := by
  simp only [readSystemTables, bind_eq_ok_iff] at h
  obtain ⟨demand, hdemand, h⟩ := h
  split at h
  · simp [throw, throwThe, MonadExceptOf.throw, bind, Except.bind] at h
  · simp only [bind_eq_ok_iff] at h
    obtain ⟨days, hdays, times, htimes, shares, hshares, rates, hrates, techRates, htechRates,
      emissions, hemissions, margins, hmargins, factors, hfactors, minimums, hminimums,
      references, hreferences, -⟩ := h
    exact ⟨⟨demand, days, times, shares, rates, techRates, emissions, margins, factors, minimums,
      references⟩, readRows_of_readSomeRows hdemand, readRows_of_readSomeRows hdays,
      readRows_of_readSomeRows htimes, readRows_of_readSomeRows hshares,
      readRows_of_readSomeRows hrates, htechRates, hemissions, hmargins, hfactors, hminimums,
      hreferences⟩

theorem readSystemTables_eq_ok_iff {R : SystemRows} (hR : R.Decoded files dir)
    {s : SystemTables} :
    readSystemTables files dir = .ok s ↔ R.tables.WellFormed ∧ s = R.tables := by
  constructor
  · intro h
    simp only [readSystemTables, bind_eq_ok_iff] at h
    obtain ⟨demand, hdemand, h⟩ := h
    obtain ⟨-, rfl⟩ := (readSomeRows_eq_ok_iff hR.demand).mp hdemand
    split at h
    · simp [throw, throwThe, MonadExceptOf.throw, bind, Except.bind] at h
    · next hyears =>
      simp only [bind_eq_ok_iff] at h
      obtain ⟨days, hdays, times, htimes, shares, hshares, rates, hrates, techRates, htechRates,
        emissions, hemissions, margins, hmargins, factors, hfactors, minimums, hminimums,
        references, hreferences, h⟩ := h
      -- the tables that must not be empty
      obtain ⟨hdays_ne, rfl⟩ := (readSomeRows_eq_ok_iff hR.days).mp hdays
      obtain ⟨htimes_ne, rfl⟩ := (readSomeRows_eq_ok_iff hR.timesOfDay).mp htimes
      obtain ⟨hshares_ne, rfl⟩ := (readSomeRows_eq_ok_iff hR.demandShares).mp hshares
      obtain ⟨hrates_ne, rfl⟩ := (readSomeRows_eq_ok_iff hR.discountRates).mp hrates
      -- the tables read as they are
      obtain rfl := Except.ok.inj (htechRates.symm.trans hR.techDiscountRates)
      obtain rfl := Except.ok.inj (hemissions.symm.trans hR.emissionLimits)
      obtain rfl := Except.ok.inj (hmargins.symm.trans hR.reserveMargins)
      obtain rfl := Except.ok.inj (hfactors.symm.trans hR.capacityFactors)
      obtain rfl := Except.ok.inj (hminimums.symm.trans hR.minimumCapacities)
      obtain rfl := Except.ok.inj (hreferences.symm.trans hR.references)
      obtain ⟨hrising, htwo⟩ := checkDemandYears_eq_ok_iff.mp hyears
      simp only [pure, Except.pure, Except.ok.injEq] at h
      exact ⟨⟨hrising, htwo, mt List.map_eq_nil_iff.mp hdays_ne,
        mt List.map_eq_nil_iff.mp htimes_ne, mt List.map_eq_nil_iff.mp hshares_ne,
        mt List.map_eq_nil_iff.mp hrates_ne⟩, h.symm⟩
  · rintro ⟨hwf, rfl⟩
    have hyears : checkDemandYears (R.demand.map YearlyDemand.ofRow) = .ok () :=
      checkDemandYears_eq_ok_iff.mpr ⟨hwf.demand_rising, hwf.two_le_demand⟩
    have hdemand_ne : R.demand ≠ [] := by
      intro h
      have htwo := hwf.two_le_demand
      simp [SystemRows.tables, h] at htwo
    simp only [readSystemTables, bind_eq_ok_iff]
    refine ⟨R.demand, (readSomeRows_eq_ok_iff hR.demand).mpr ⟨hdemand_ne, rfl⟩, ?_⟩
    rw [hyears]
    simp only [bind_eq_ok_iff]
    refine ⟨R.days, (readSomeRows_eq_ok_iff hR.days).mpr ⟨mt (congrArg _) hwf.days_ne_nil, rfl⟩,
      R.timesOfDay,
      (readSomeRows_eq_ok_iff hR.timesOfDay).mpr ⟨mt (congrArg _) hwf.timesOfDay_ne_nil, rfl⟩,
      R.demandShares, (readSomeRows_eq_ok_iff hR.demandShares).mpr
        ⟨mt (congrArg _) hwf.demandShares_ne_nil, rfl⟩,
      R.discountRates, (readSomeRows_eq_ok_iff hR.discountRates).mpr
        ⟨mt (congrArg _) hwf.discountRates_ne_nil, rfl⟩,
      _, hR.techDiscountRates, _, hR.emissionLimits, _, hR.reserveMargins, _, hR.capacityFactors,
      _, hR.minimumCapacities, _, hR.references, rfl⟩

theorem PlantRows.exists_decoded {p : PlantTables} (h : readPlantTables files dir = .ok p) :
    ∃ R : PlantRows, R.Decoded files dir := by
  simp only [readPlantTables, bind_eq_ok_iff] at h
  obtain ⟨_, hplants, _, hexisting, _, hperformance, _, hcosts, _, hconstraints, -⟩ := h
  obtain ⟨plants, hplants⟩ := readRows_of_readCatalog hplants
  obtain ⟨existing, hexisting⟩ := readRows_of_readExisting hexisting
  obtain ⟨performance, hperformance⟩ := readRows_of_readCatalog hperformance
  obtain ⟨costs, hcosts⟩ := readRows_of_readCatalog hcosts
  obtain ⟨constraints, hconstraints⟩ := readRows_of_readCatalog hconstraints
  exact ⟨⟨plants, existing, performance, costs, constraints⟩, hplants, hexisting, hperformance,
    hcosts, hconstraints⟩

theorem readPlantTables_eq_ok_iff {R : PlantRows} (hR : R.Decoded files dir) {p : PlantTables} :
    readPlantTables files dir = .ok p ↔ R.tables.WellFormed ∧ p = R.tables := by
  simp only [readPlantTables, bind_eq_ok_iff]
  constructor
  · rintro ⟨plants, hplants, existing, hexisting, performance, hperformance, costs, hcosts,
      constraints, hconstraints, h⟩
    obtain ⟨⟨hplants_ne, hplants_keyed⟩, rfl⟩ :=
      (readCatalog_eq_ok_iff "PowerPlants" hR.plants).mp hplants
    obtain ⟨hknown, rfl⟩ := (readExisting_eq_ok_iff hR.existing).mp hexisting
    obtain ⟨⟨hperformance_ne, hperformance_keyed⟩, rfl⟩ :=
      (readCatalog_eq_ok_iff "PowerPlantsPerformance" hR.performance).mp hperformance
    obtain ⟨⟨hcosts_ne, hcosts_keyed⟩, rfl⟩ :=
      (readCatalog_eq_ok_iff "PowerPlantsCosts" hR.costs).mp hcosts
    obtain ⟨⟨hconstraints_ne, hconstraints_keyed⟩, rfl⟩ :=
      (readCatalog_eq_ok_iff "PowerPlantsConstraints" hR.constraints).mp hconstraints
    simp only [pure, Except.pure, Except.ok.injEq] at h
    exact ⟨⟨hplants_ne, hplants_keyed, hknown, hperformance_ne, hperformance_keyed, hcosts_ne,
      hcosts_keyed, hconstraints_ne, hconstraints_keyed⟩, h.symm⟩
  · rintro ⟨hwf, rfl⟩
    exact ⟨_, (readCatalog_eq_ok_iff "PowerPlants" hR.plants).mpr
        ⟨⟨hwf.plants_ne_nil, hwf.plants_keyed⟩, rfl⟩,
      _, (readExisting_eq_ok_iff hR.existing).mpr ⟨hwf.existing_known, rfl⟩,
      _, (readCatalog_eq_ok_iff "PowerPlantsPerformance" hR.performance).mpr
        ⟨⟨hwf.performance_ne_nil, hwf.performance_keyed⟩, rfl⟩,
      _, (readCatalog_eq_ok_iff "PowerPlantsCosts" hR.costs).mpr
        ⟨⟨hwf.costs_ne_nil, hwf.costs_keyed⟩, rfl⟩,
      _, (readCatalog_eq_ok_iff "PowerPlantsConstraints" hR.constraints).mpr
        ⟨⟨hwf.constraints_ne_nil, hwf.constraints_keyed⟩, rfl⟩, rfl⟩

theorem readRows_of_readFuels {out : Catalog Fuel × List ExistingCapacity}
    (h : readFuels files dir = .ok out) :
    ∃ fuels existing, readRows files (Path.join dir "Fuels.csv") Fuel.fields = .ok fuels ∧
      readRows files (Path.join dir "FuelsExisting.csv") ExistingCapacity.fields =
        .ok existing := by
  simp only [readFuels, bind_eq_ok_iff] at h
  obtain ⟨_, hfuels, _, hexisting, -⟩ := h
  obtain ⟨fuels, hfuels⟩ := readRows_of_readCatalog hfuels
  obtain ⟨existing, hexisting⟩ := readRows_of_readExisting hexisting
  exact ⟨fuels, existing, hfuels, hexisting⟩

theorem readFuels_eq_ok_iff {R : TableRows} (hR : R.Decoded files dir)
    {out : Catalog Fuel × List ExistingCapacity} :
    readFuels files dir = .ok out ↔
      (R.tables.fuels.entries ≠ [] ∧ R.tables.fuels.Keyed (·.name) ∧
        R.tables.fuels.Covers R.tables.fuelsExisting) ∧
      out = (R.tables.fuels, R.tables.fuelsExisting) := by
  simp only [readFuels, bind_eq_ok_iff]
  constructor
  · rintro ⟨fuels, hfuels, existing, hexisting, h⟩
    obtain ⟨⟨hne, hkeyed⟩, rfl⟩ := (readCatalog_eq_ok_iff "Fuels" hR.fuels).mp hfuels
    obtain ⟨hknown, rfl⟩ := (readExisting_eq_ok_iff hR.fuelsExisting).mp hexisting
    simp only [pure, Except.pure, Except.ok.injEq] at h
    exact ⟨⟨hne, hkeyed, hknown⟩, h.symm⟩
  · rintro ⟨⟨hne, hkeyed, hknown⟩, rfl⟩
    exact ⟨_, (readCatalog_eq_ok_iff "Fuels" hR.fuels).mpr ⟨⟨hne, hkeyed⟩, rfl⟩,
      _, (readExisting_eq_ok_iff hR.fuelsExisting).mpr ⟨hknown, rfl⟩, rfl⟩

theorem readRows_of_readConnections {out : Catalog Connection × List ExistingCapacity}
    (h : readConnections files dir = .ok out) :
    ∃ connections existing,
      readRows files (Path.join dir "Connections.csv") Connection.fields = .ok connections ∧
      readRows files (Path.join dir "ConnectionsExisting.csv") ExistingCapacity.fields =
        .ok existing := by
  simp only [readConnections, bind_eq_ok_iff] at h
  obtain ⟨connections, hconnections, h⟩ := h
  split at h
  · simp only [bind_eq_ok_iff] at h
    obtain ⟨_, -, _, hexisting, -⟩ := h
    obtain ⟨existing, hexisting⟩ := readRows_of_readExisting hexisting
    exact ⟨connections, existing, hconnections, hexisting⟩
  · simp [throw, throwThe, MonadExceptOf.throw, bind, Except.bind] at h

/-- The connections may be empty, and are read when they name each connection once and their
existing capacity is of known connections. -/
theorem readConnections_eq_ok_iff {R : TableRows} (hR : R.Decoded files dir)
    {out : Catalog Connection × List ExistingCapacity} :
    readConnections files dir = .ok out ↔
      (R.tables.connections.Keyed (·.name) ∧
        R.tables.connections.Covers R.tables.connectionsExisting) ∧
      out = (R.tables.connections, R.tables.connectionsExisting) := by
  simp only [readConnections, bind_eq_ok_iff, hR.connections]
  constructor
  · rintro ⟨_, hrows, h⟩
    cases hrows
    split at h
    · next c hc =>
      obtain ⟨hkeyed, rfl⟩ := (Catalog.ofRows_eq_ok_iff _).mp hc
      simp only [bind_eq_ok_iff] at h
      obtain ⟨_, hpure, existing, hexisting, h⟩ := h
      simp only [pure, Except.pure, Except.ok.injEq] at hpure
      subst hpure
      obtain ⟨hknown, rfl⟩ := (readExisting_eq_ok_iff hR.connectionsExisting).mp hexisting
      simp only [pure, Except.pure, Except.ok.injEq] at h
      exact ⟨⟨hkeyed, hknown⟩, h.symm⟩
    · simp [throw, throwThe, MonadExceptOf.throw, bind, Except.bind] at h
  · rintro ⟨⟨hkeyed, hknown⟩, rfl⟩
    refine ⟨_, rfl, ?_⟩
    rw [(Catalog.ofRows_eq_ok_iff "Connections").mpr ⟨hkeyed, rfl⟩]
    simp only [bind_eq_ok_iff]
    exact ⟨_, rfl, _, (readExisting_eq_ok_iff hR.connectionsExisting).mpr ⟨hknown, rfl⟩, rfl⟩

theorem TableRows.exists_decoded {T : InputTables} (h : loadInputs files dir = .ok T) :
    ∃ R : TableRows, R.Decoded files dir := by
  simp only [loadInputs, bind_eq_ok_iff] at h
  obtain ⟨_, hsystem, _, hplants, _, hfuels, _, hconnections, -⟩ := h
  obtain ⟨system, hsystem⟩ := SystemRows.exists_decoded hsystem
  obtain ⟨plants, hplants⟩ := PlantRows.exists_decoded hplants
  obtain ⟨fuels, fuelsExisting, hfuels, hfuelsExisting⟩ := readRows_of_readFuels hfuels
  obtain ⟨connections, connectionsExisting, hconnections, hconnectionsExisting⟩ :=
    readRows_of_readConnections hconnections
  exact ⟨⟨system, plants, fuels, fuelsExisting, connections, connectionsExisting⟩, hsystem,
    hplants, hfuels, hfuelsExisting, hconnections, hconnectionsExisting⟩

/-- For files that decode, loading succeeds exactly when the tables of the decoded rows pass
every check, and then gives those tables. -/
theorem loadInputs_eq_ok_iff {R : TableRows} (hR : R.Decoded files dir) {T : InputTables} :
    loadInputs files dir = .ok T ↔ R.tables.WellFormed ∧ T = R.tables := by
  simp only [loadInputs, bind_eq_ok_iff]
  constructor
  · rintro ⟨system, hsystem, plants, hplants, ⟨fuels, fuelsExisting⟩, hfuels,
      ⟨connections, connectionsExisting⟩, hconnections, h⟩
    obtain ⟨hsystem_wf, rfl⟩ := (readSystemTables_eq_ok_iff hR.system).mp hsystem
    obtain ⟨hplants_wf, rfl⟩ := (readPlantTables_eq_ok_iff hR.plants).mp hplants
    obtain ⟨⟨hfuels_ne, hfuels_keyed, hfuels_known⟩, hfuels_eq⟩ :=
      (readFuels_eq_ok_iff hR).mp hfuels
    obtain ⟨⟨hconnections_keyed, hconnections_known⟩, hconnections_eq⟩ :=
      (readConnections_eq_ok_iff hR).mp hconnections
    simp only [Prod.mk.injEq] at hfuels_eq hconnections_eq
    obtain ⟨rfl, rfl⟩ := hfuels_eq
    obtain ⟨rfl, rfl⟩ := hconnections_eq
    simp only [pure, Except.pure, Except.ok.injEq] at h
    exact ⟨⟨hsystem_wf, hplants_wf, hfuels_ne, hfuels_keyed, hfuels_known, hconnections_keyed,
      hconnections_known⟩, h.symm⟩
  · rintro ⟨hwf, rfl⟩
    exact ⟨_, (readSystemTables_eq_ok_iff hR.system).mpr ⟨hwf.system, rfl⟩,
      _, (readPlantTables_eq_ok_iff hR.plants).mpr ⟨hwf.plants, rfl⟩,
      _, (readFuels_eq_ok_iff hR).mpr
        ⟨⟨hwf.fuels_ne_nil, hwf.fuels_keyed, hwf.fuelsExisting_known⟩, rfl⟩,
      _, (readConnections_eq_ok_iff hR).mpr
        ⟨⟨hwf.connections_keyed, hwf.connectionsExisting_known⟩, rfl⟩, rfl⟩

/-- The tables of decoded rows hold no NaN in any optional number. -/
theorem TableRows.nanFree_tables {R : TableRows} (hR : R.Decoded files dir) :
    R.tables.NanFree where
  renewableShares := by
    intro d hd
    obtain ⟨row, hrow, rfl⟩ := List.mem_map.mp hd
    exact Row.optionalNumber_nanFree (readRows_nanFree (by decide) hR.system.demand row hrow) _
  discountRates := by
    intro v hv
    obtain ⟨row, hrow, rfl⟩ := List.mem_map.mp hv
    exact Row.optionalNumber_nanFree
      (readRows_nanFree (by decide) hR.system.discountRates row hrow) _
  reserveMargins := by
    intro v hv
    obtain ⟨row, hrow, rfl⟩ := List.mem_map.mp hv
    exact Row.optionalNumber_nanFree
      (readRows_nanFree (by decide) hR.system.reserveMargins row hrow) _
  plants := Catalog.nanFree_byName Plant.columns_read
    (readRows_nanFree (by decide) hR.plants.plants)
  performance := Catalog.nanFree_byName Performance.columns_read
    (readRows_nanFree (by decide) hR.plants.performance)
  costs := Catalog.nanFree_byName Costs.columns_read
    (readRows_nanFree (by decide) hR.plants.costs)
  constraints := Catalog.nanFree_byName Constraints.columns_read
    (readRows_nanFree (by decide) hR.plants.constraints)
  fuels := Catalog.nanFree_byName Fuel.columns_read (readRows_nanFree (by decide) hR.fuels)
  connections := Catalog.nanFree_byName Connection.columns_read
    (readRows_nanFree (by decide) hR.connections)

end Loading

/-! ## What loading establishes -/

/-- Loaded tables pass every check of `InputTables.WellFormed`: demand years that rise strictly,
two of them at least; the tables every model needs not empty; each of the six tables of named
entities naming each entity once, under its name; existing capacity only of known entities.
They are the tables of the decoded rows of the files, in file order, and none of their optional
numbers is NaN. Conversely, when every file decodes, loading gives the tables of its rows when
they pass the checks, and fails when one of them does not. -/
theorem loadInputs_establishes_invariants (files : FileTree Content) (dir : String) :
    (∀ T, loadInputs files dir = .ok T →
      T.WellFormed ∧ T.NanFree ∧ ∃ R : TableRows, R.Decoded files dir ∧ T = R.tables) ∧
    ∀ R : TableRows, R.Decoded files dir →
      (R.tables.WellFormed → loadInputs files dir = .ok R.tables) ∧
      (¬ R.tables.WellFormed → ∃ e, loadInputs files dir = .error e) := by
  refine ⟨fun T hT => ?_, fun R hR => ⟨fun hwf => (loadInputs_eq_ok_iff hR).mpr ⟨hwf, rfl⟩,
    fun hbad => ?_⟩⟩
  · obtain ⟨R, hR⟩ := TableRows.exists_decoded hT
    obtain ⟨hwf, rfl⟩ := (loadInputs_eq_ok_iff hR).mp hT
    exact ⟨hwf, TableRows.nanFree_tables hR, R, hR, rfl⟩
  · -- loading gives no tables, since the only tables it could give are not well formed
    cases hload : loadInputs files dir with
    | error e => exact ⟨e, rfl⟩
    | ok T => exact absurd ((loadInputs_eq_ok_iff hR).mp hload).1 hbad

/-- The folder of small inputs whose fuel has two units of one year loads into well-formed
tables without NaN: the tables of its files' decoded rows. -/
theorem twinUnitFiles_invariants :
    ∃ T, loadInputs twinUnitFiles "" = .ok T ∧
      T.WellFormed ∧ T.NanFree ∧ ∃ R : TableRows, R.Decoded twinUnitFiles "" ∧ T = R.tables := by
  obtain ⟨T, hT⟩ := twinUnitFiles_loads
  exact ⟨T, hT, (loadInputs_establishes_invariants twinUnitFiles "").1 T hT⟩

end EnergyModel.Input
