import EnergyModel.Proofs.Cases.Files
import EnergyModel.Proofs.Text.Csv
import EnergyModel.Proofs.Input.Cells

/-!
# Sensitivity case files

A sensitivity case file holds one directive per record, its family, variable, entity and
multiplier, under the header `type,variable,tech,multiplier`. The writer stops at the first
directive that gives a value rather than a multiplier (`writeSensitivityCases_snd`).

A directive is kept by the file (`Directive.Keepable`) when it gives a multiplier that is a
number whose compact text reads back as it, and its variable and entity have no blanks at
either end, which the reader trims. A file written from such directives reads back as them
(`readDirectives_writeSensitivityCases`); without directives nothing is written, and the empty
file reads back as no directives.

The record of a directive is decoded in two steps, as the reader does: the fields of the record
into a row (`decodeRecord_caseRecord`), then the row into a directive (`ofRow_caseRow`).
-/

namespace EnergyModel

open Input Decimal

/-- Whether a magnitude replaces the value rather than scaling it. -/
def Magnitude.isValue : Magnitude → Bool
  | .value _ => true
  | .multiplier _ => false

/-- The number a magnitude gives. -/
def Magnitude.amount : Magnitude → Float
  | .multiplier x => x
  | .value x => x

/-- The header of a sensitivity case file. -/
def sensitivityHeader : List String := ["type", "variable", "tech", "multiplier"]

/-- The record of a directive in a sensitivity case file. -/
def Directive.caseRecord (d : Directive) : List String :=
  [d.family.name, d.quantity, d.tech, compactText d.magnitude.amount]

/-- The row the record of a directive decodes to: the file has no `value` column. -/
def Directive.caseRow (d : Directive) : Row :=
  ⟨[("type", .text d.family.name), ("variable", .text d.quantity), ("tech", .text d.tech),
    ("multiplier", .optionalNumber (some d.magnitude.amount)), ("value", .optionalNumber none)]⟩

/-- A directive that a sensitivity case file keeps as it is. -/
structure Directive.Keepable (d : Directive) : Prop where
  multiplier : d.magnitude.isValue = false
  number : d.magnitude.amount.isNaN = false
  readsBack : readFloat (compactText d.magnitude.amount) = .ok d.magnitude.amount
  quantity : Csv.trimBlank d.quantity = d.quantity
  tech : Csv.trimBlank d.tech = d.tech

theorem Magnitude.eq_multiplier {m : Magnitude} (h : m.isValue = false) : m = .multiplier m.amount := by
  cases m with
  | multiplier x => rfl
  | value x => cases h

/-! ## Writing -/

section Writing

variable (ds : List Directive)

theorem writeSensitivityCases_go_snd :
    (writeSensitivityCases.go ds).2 =
      (ds.find? (·.magnitude.isValue)).map fun d => .multiplierRequired d.quantity d.tech := by
  induction ds with
  | nil => rfl
  | cons d ds ih =>
    rcases d with ⟨family, quantity, tech, m | x⟩
    · simp [writeSensitivityCases.go, Magnitude.isValue, ih]
    · simp [writeSensitivityCases.go, Magnitude.isValue]

theorem writeSensitivityCases_go_fst (h : ∀ d ∈ ds, d.magnitude.isValue = false) :
    (writeSensitivityCases.go ds).1 = String.join (ds.map fun d => Csv.writeRecord d.caseRecord) := by
  induction ds with
  | nil => rfl
  | cons d ds ih =>
    have htail := ih fun d' hd' => h d' (List.mem_cons_of_mem d hd')
    have hd := h d List.mem_cons_self
    rcases d with ⟨family, quantity, tech, m | x⟩
    · simp [writeSensitivityCases.go, Directive.caseRecord, Magnitude.amount, htail]
    · simp [Magnitude.isValue] at hd

/-- Writing stops at the first directive that gives a value, and only there. -/
theorem writeSensitivityCases_snd :
    (writeSensitivityCases ds).2 =
      (ds.find? (·.magnitude.isValue)).map fun d => .multiplierRequired d.quantity d.tech := by
  unfold writeSensitivityCases
  split
  · rfl
  · rcases hgo : writeSensitivityCases.go ds with ⟨text, problem⟩
    have hproblem := writeSensitivityCases_go_snd ds
    rw [hgo] at hproblem
    dsimp only
    split <;> exact hproblem

theorem isEmpty_join_writeRecord {records : List (List String)} (h : records ≠ []) :
    (String.join (records.map Csv.writeRecord)).isEmpty = false := by
  obtain ⟨r, rest, rfl⟩ := List.exists_cons_of_ne_nil h
  rw [String.isEmpty_eq_false_iff, ne_eq, ← String.toList_inj, String.toList_join]
  simp [Csv.writeRecord]

/-- The text written from directives that all give multipliers: the header, then one record
per directive. -/
theorem writeSensitivityCases_fst (hne : ds ≠ []) (h : ∀ d ∈ ds, d.magnitude.isValue = false) :
    (writeSensitivityCases ds).1 =
      String.join ((sensitivityHeader :: ds.map Directive.caseRecord).map Csv.writeRecord) := by
  have htext := writeSensitivityCases_go_fst ds h
  have hnonempty : (writeSensitivityCases.go ds).1.isEmpty = false := by
    have hrecords : ds.map Directive.caseRecord ≠ [] := by simpa using hne
    have hjoin := isEmpty_join_writeRecord hrecords
    rw [List.map_map] at hjoin
    rw [htext]
    exact hjoin
  unfold writeSensitivityCases
  split
  · contradiction
  · rcases hgo : writeSensitivityCases.go ds with ⟨text, problem⟩
    rw [hgo] at htext hnonempty
    dsimp only at htext hnonempty ⊢
    rw [hnonempty, if_neg Bool.false_ne_true, htext, List.map_cons, String.join_cons,
      List.map_map]
    rfl

end Writing

/-! ## Reading -/

section Reading

variable {d : Directive}

theorem Directive.Keepable.parseValue (hd : d.Keepable) :
    parseValue (compactText d.magnitude.amount) = .ok (some d.magnitude.amount) :=
  parseValue_compactText hd.readsBack hd.number

/-- The reader trims nothing from the record of a directive it keeps. -/
theorem Directive.Keepable.trimBlank_caseRecord (hd : d.Keepable) :
    d.caseRecord.map Csv.trimBlank = d.caseRecord := by
  simp [Directive.caseRecord, Family.trimBlank_name, hd.quantity, hd.tech,
    trimBlank_eq_self (isNumeral_compactText hd.readsBack hd.number)]

theorem decodeRecord_caseRecord (hd : d.Keepable) {r : Csv.Record} (h : r.fields = d.caseRecord) :
    decodeRecord Directive.fields sensitivityHeader r = .ok d.caseRow := by
  have hchoice : ∃ f, f ∈ Family.all ∧ f.name = d.family.name := ⟨d.family, Family.mem_all _, rfl⟩
  simp [decodeRecord, h, Directive.caseRecord, sensitivityHeader, Directive.fields,
    Field.required, Field.optionalNumber, Field.answers, FieldKind.read, hchoice, hd.parseValue,
    Directive.caseRow]
  rfl

theorem ofRow_caseRow (hd : d.Keepable) : Directive.ofRow d.caseRow = .ok d := by
  have hm := Magnitude.eq_multiplier hd.multiplier
  rcases d with ⟨family, quantity, tech, magnitude⟩
  dsimp only at hm
  rw [hm]
  -- the row's family is found by its name, and its multiplier is the only magnitude
  cases family <;> simp [Directive.ofRow, Directive.caseRow, Row.text, Row.get?,
    Row.optionalNumber, Family.ofName?, Family.all, Family.name, Magnitude.amount]

theorem mapM_decodeRecord_caseRecords (ds : List Directive) (hds : ∀ d ∈ ds, d.Keepable)
    (records : List Csv.Record) (h : records.map (·.fields) = ds.map Directive.caseRecord) :
    records.mapM (decodeRecord Directive.fields sensitivityHeader) = .ok (ds.map Directive.caseRow) := by
  induction ds generalizing records with
  | nil =>
    rw [List.map_nil, List.map_eq_nil_iff] at h
    rw [h]
    rfl
  | cons d ds ih =>
    cases records with
    | nil => cases h
    | cons r rest =>
      rw [List.map_cons, List.map_cons, List.cons.injEq] at h
      rw [List.mapM_cons, decodeRecord_caseRecord (hds d List.mem_cons_self) h.1,
        ih (fun d' hd' => hds d' (List.mem_cons_of_mem d hd')) rest h.2]
      rfl

theorem mapM_ofRow_caseRows (ds : List Directive) (hds : ∀ d ∈ ds, d.Keepable) :
    (ds.map Directive.caseRow).mapM Directive.ofRow = .ok ds := by
  rw [mapM_map_eq_ok ds Directive.caseRow Directive.ofRow id fun d hd => ofRow_caseRow (hds d hd),
    List.map_id]

/-- The rows of a file holding the written records of directives the file keeps. -/
theorem readRows_caseRecords {files : FileTree Content} {path : String} (ds : List Directive)
    (hds : ∀ d ∈ ds, d.Keepable)
    (hread : readText files path =
      .ok (String.join ((sensitivityHeader :: ds.map Directive.caseRecord).map Csv.writeRecord))) :
    readRows files path Directive.fields = .ok (ds.map Directive.caseRow) := by
  have hlengths : ∀ r ∈ ds.map Directive.caseRecord, r ≠ [] ∧ r.length = sensitivityHeader.length := by
    intro r hr
    obtain ⟨d, -, rfl⟩ := List.mem_map.mp hr
    exact ⟨List.cons_ne_nil _ _, rfl⟩
  obtain ⟨hheader, hrecords, hmismatch⟩ := Csv.read_writeRecords sensitivityHeader
    (ds.map Directive.caseRecord) (List.cons_ne_nil _ _) (by decide) hlengths
  have htrimmed : (ds.map Directive.caseRecord).map (·.map Csv.trimBlank) =
      ds.map Directive.caseRecord := by
    rw [List.map_map]
    exact List.map_congr_left fun d hd => (hds d hd).trimBlank_caseRecord
  have hheader' : sensitivityHeader.map Csv.trimBlank = sensitivityHeader := by decide
  unfold readRows
  rw [hread]
  dsimp only
  rw [hheader, hheader', mapM_decodeRecord_caseRecords ds hds _ (hrecords.trans htrimmed),
    hmismatch]

/-- The empty file holds no directives. -/
theorem readDirectives_empty {files : FileTree Content} {path : String}
    (hread : readText files path = .ok "") : readDirectives files path = .ok [] := by
  unfold readDirectives readRows
  rw [hread]
  dsimp only
  rw [Csv.read_empty]
  rfl

/-- A file holding the written records of directives the file keeps reads back as them. -/
theorem readDirectives_caseRecords {files : FileTree Content} {path : String}
    (ds : List Directive) (hds : ∀ d ∈ ds, d.Keepable)
    (hread : readText files path =
      .ok (String.join ((sensitivityHeader :: ds.map Directive.caseRecord).map Csv.writeRecord))) :
    readDirectives files path = .ok ds := by
  unfold readDirectives
  rw [readRows_caseRecords ds hds hread]
  dsimp only [bind, Except.bind]
  rw [mapM_ofRow_caseRows ds hds]
  rfl

end Reading

/-- Directives that a sensitivity case file keeps are written without a problem, and the file
reads back as them; writing stops, naming the directive, at the first directive that gives a
value. -/
theorem readDirectives_writeSensitivityCases (ds : List Directive) :
    (writeSensitivityCases ds).2 =
        (ds.find? (·.magnitude.isValue)).map (fun d => .multiplierRequired d.quantity d.tech) ∧
      ((∀ d ∈ ds, d.Keepable) →
        (writeSensitivityCases ds).2 = none ∧
          ∀ (files files' : FileTree Content) (path : String),
            files.write path (.text (writeSensitivityCases ds).1) = .ok files' →
              readDirectives files' path = .ok ds) := by
  refine ⟨writeSensitivityCases_snd ds, fun hds => ⟨?_, fun files files' path hwrite => ?_⟩⟩
  · rw [writeSensitivityCases_snd, List.find?_eq_none.mpr fun d hd => by
      simp [(hds d hd).multiplier]]
    rfl
  · have hread := Input.readText_of_write hwrite
    cases ds with
    | nil => exact readDirectives_empty hread
    | cons d rest =>
      -- the header goes with the first record
      rw [writeSensitivityCases_fst _ (List.cons_ne_nil d rest)
        fun d' hd' => (hds d' hd').multiplier] at hread
      exact readDirectives_caseRecords _ hds hread

/-- A decrease and an increase by ten percent of the coal plant's efficiency. -/
def coalEfficiencyCases : List Directive :=
  [⟨.powerPlants, "Efficiency", "COAL", .multiplier (-10.0)⟩,
   ⟨.powerPlants, "Efficiency", "COAL", .multiplier 10.0⟩]

/-- A directive that sets the gas price. -/
def gasPriceValue : Directive := ⟨.fuels, "Cost", "NATGAS", .value 3.5⟩

/-- The file written from the coal plant's cases reads back as them, and a gas price given as
a value stops the writing. -/
theorem coalEfficiencyCases_readBack :
    readDirectives ⟨[(["cases.csv"], .file (.text (writeSensitivityCases coalEfficiencyCases).1))]⟩
        "cases.csv" = .ok coalEfficiencyCases ∧
      (writeSensitivityCases (coalEfficiencyCases ++ [gasPriceValue])).2 =
        some (.multiplierRequired "Cost" "NATGAS") := by
  have hkeep : ∀ d ∈ coalEfficiencyCases, d.Keepable := by
    intro d hd
    simp only [coalEfficiencyCases, List.mem_cons, List.not_mem_nil, or_false] at hd
    -- the multipliers' texts are read back by evaluation, once the word is lowered by letters
    rcases hd with rfl | rfl <;>
      exact ⟨rfl, by decide, by unfold readFloat; simp only [toLower_ofList]; rfl, by decide,
        by decide⟩
  refine ⟨((readDirectives_writeSensitivityCases coalEfficiencyCases).2 hkeep).2 ⟨[]⟩ _
    "cases.csv" (FileTree.write_empty Path.parts_casesFile), ?_⟩
  rw [(readDirectives_writeSensitivityCases (coalEfficiencyCases ++ [gasPriceValue])).1]
  rfl

end EnergyModel
