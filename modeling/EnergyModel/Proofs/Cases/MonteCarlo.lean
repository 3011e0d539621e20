import EnergyModel.Proofs.Cases.Files
import EnergyModel.Proofs.Text.Csv
import EnergyModel.Proofs.Input.Cells
import Mathlib.Data.List.Forall2

/-!
# Monte Carlo case files

A Monte Carlo case file holds one row per target: its family, variable and entity, then one draw
per case, under the header `type,variable,tech,0,1,…`. The number of cases is the number of
draws of the first row.

When every row has the same number `n` of draws, the file is written without a mismatch
(`writeMonteCarloCases_of_lengths`), and it reads back as the rows when `n` is positive, every
draw is a number whose plain text reads back as it, and no variable or entity has blanks at
either end (`MonteCarloRow.Keepable`). Case `c` of such rows is there exactly when `c < n`, and
then gives each row's directive with its draw in column `c` (`caseDirectives_of_lengths`).
-/

namespace EnergyModel

open Input Decimal

/-- The magnitude a draw gives: a percentage change, or the new value. -/
def CaseMode.magnitude : CaseMode → Float → Magnitude
  | .perturbations, x => .multiplier x
  | .values, x => .value x

/-- The header of a Monte Carlo case file with `n` cases. -/
def monteCarloHeader (n : Nat) : List String :=
  ["type", "variable", "tech"] ++ (List.range n).map toString

/-- The record of a row in a Monte Carlo case file. -/
def MonteCarloRow.record (r : MonteCarloRow) : List String :=
  [r.family.name, r.quantity, r.tech] ++ r.draws.map plainText

/-- A row that a Monte Carlo case file keeps as it is. -/
structure MonteCarloRow.Keepable (r : MonteCarloRow) : Prop where
  draws : ∀ x ∈ r.draws, x.isNaN = false ∧ readFloat (plainText x) = .ok x
  quantity : Csv.trimBlank r.quantity = r.quantity
  tech : Csv.trimBlank r.tech = r.tech

section Cases

variable {rows : List MonteCarloRow} {n : Nat}

theorem caseCount_of_lengths (hne : rows ≠ []) (h : ∀ r ∈ rows, r.draws.length = n) :
    caseCount rows = n := by
  obtain ⟨r, rest, rfl⟩ := List.exists_cons_of_ne_nil hne
  exact h r List.mem_cons_self

/-- Rows with `n` draws each give case `c` when `c < n`: every row's directive with its draw
in column `c`. -/
theorem caseDirectives_of_lengths (hne : rows ≠ []) (h : ∀ r ∈ rows, r.draws.length = n)
    (c : Nat) (mode : CaseMode) :
    caseDirectives rows c mode =
      if c < n then
        .ok (rows.map fun r => ⟨r.family, r.quantity, r.tech, mode.magnitude (r.draws.getD c 0.0)⟩)
      else .error (.caseOutOfRange c n) := by
  have hcount := caseCount_of_lengths hne h
  -- no row has another number of draws than the first
  have heven : rows.find? (·.draws.length != n) = none := by
    rw [List.find?_eq_none]
    intro r hr
    simp [h r hr]
  unfold caseDirectives
  simp only [hcount, heven]
  by_cases hc : c < n
  · simp only [ge_iff_le, Nat.not_le_of_lt hc, if_false, hc, if_true]
    cases mode <;> rfl
  · simp only [ge_iff_le, Nat.le_of_not_lt hc, if_true, hc, if_false]
    rfl

theorem caseDirectives_forall₂ (hne : rows ≠ []) (h : ∀ r ∈ rows, r.draws.length = n)
    {c : Nat} {mode : CaseMode} {ds : List Directive} (hds : caseDirectives rows c mode = .ok ds) :
    c < n ∧ List.Forall₂ (fun r d => ∃ x, r.draws[c]? = some x ∧
      d = ⟨r.family, r.quantity, r.tech, mode.magnitude x⟩) rows ds := by
  rw [caseDirectives_of_lengths hne h] at hds
  by_cases hc : c < n
  · rw [if_pos hc] at hds
    cases hds
    refine ⟨hc, List.forall₂_map_right_iff.mpr (List.forall₂_same.mpr fun r hr => ?_)⟩
    -- the draw in column `c` is there, as every row has `n` draws
    have hlt : c < r.draws.length := by rw [h r hr]; exact hc
    exact ⟨r.draws[c], List.getElem?_eq_getElem hlt,
      by rw [List.getD_eq_getElem?_getD, List.getElem?_eq_getElem hlt, Option.getD_some]⟩
  · rw [if_neg hc] at hds
    cases hds

end Cases

/-! ## Writing and reading -/

section Files

variable {rows : List MonteCarloRow} {n : Nat}

/-- Rows with the same number of draws are written one after the other, under the header. -/
theorem writeMonteCarloCases_of_lengths (hne : rows ≠ []) (h : ∀ r ∈ rows, r.draws.length = n) :
    writeMonteCarloCases rows =
      (String.join ((monteCarloHeader n :: rows.map MonteCarloRow.record).map Csv.writeRecord),
        none) := by
  unfold writeMonteCarloCases
  rw [caseCount_of_lengths hne h]
  apply Csv.writeTable_of_lengths
  intro record hrecord
  obtain ⟨r, hr, rfl⟩ := List.mem_map.mp hrecord
  simp [h r hr]

theorem trimBlank_monteCarloHeader (n : Nat) :
    (monteCarloHeader n).map Csv.trimBlank = monteCarloHeader n := by
  have hlabels : ["type", "variable", "tech"].map Csv.trimBlank = ["type", "variable", "tech"] := by
    decide
  -- the case numbers are numerals
  have hnumbers : (List.range n).map (Csv.trimBlank ∘ toString) = (List.range n).map toString :=
    List.map_congr_left fun k _ => trimBlank_eq_self (isNumeral_toString_nat k)
  rw [monteCarloHeader, List.map_append, hlabels, List.map_map, hnumbers]

/-- The reader trims nothing from the record of a row it keeps. -/
theorem MonteCarloRow.Keepable.trimBlank_record {r : MonteCarloRow} (hr : r.Keepable) :
    r.record.map Csv.trimBlank = r.record := by
  have hdraws : (r.draws.map plainText).map Csv.trimBlank = r.draws.map plainText := by
    rw [List.map_map]
    exact List.map_congr_left fun x hx =>
      trimBlank_eq_self (isNumeral_plainText (hr.draws x hx).2 (hr.draws x hx).1)
  simp only [MonteCarloRow.record, List.map_append, hdraws, List.map_cons, List.map_nil,
    Family.trimBlank_name, hr.quantity, hr.tech]

/-- The table of a file holding the written header and records: the header and the records,
with nothing trimmed from them. -/
theorem readRawTable_written {files : FileTree Content} {path : String}
    (hlengths : ∀ r ∈ rows, r.draws.length = n) (hkeep : ∀ r ∈ rows, r.Keepable)
    (hread : readText files path = .ok (String.join
      ((monteCarloHeader n :: rows.map MonteCarloRow.record).map Csv.writeRecord))) :
    readRawTable files path = .ok ⟨monteCarloHeader n, rows.map MonteCarloRow.record⟩ := by
  have hrecords : ∀ record ∈ rows.map MonteCarloRow.record,
      record ≠ [] ∧ record.length = (monteCarloHeader n).length := by
    intro record hrecord
    obtain ⟨r, hr, rfl⟩ := List.mem_map.mp hrecord
    exact ⟨by simp [MonteCarloRow.record], by simp [MonteCarloRow.record, monteCarloHeader,
      hlengths r hr]⟩
  obtain ⟨hheader, hfields, hmismatch⟩ := Csv.read_writeRecords (monteCarloHeader n)
    (rows.map MonteCarloRow.record) (by simp [monteCarloHeader]) (by simp [monteCarloHeader])
    hrecords
  have htrimmed : (rows.map MonteCarloRow.record).map (·.map Csv.trimBlank) =
      rows.map MonteCarloRow.record := by
    rw [List.map_map]
    exact List.map_congr_left fun r hr => (hkeep r hr).trimBlank_record
  unfold readRawTable
  rw [hread]
  dsimp only
  rw [hmismatch, hheader, trimBlank_monteCarloHeader, hfields, htrimmed]

theorem readMonteCarloCases_written {files : FileTree Content} {path : String} (hn : 0 < n)
    (hlengths : ∀ r ∈ rows, r.draws.length = n) (hkeep : ∀ r ∈ rows, r.Keepable)
    (hread : readText files path = .ok (String.join
      ((monteCarloHeader n :: rows.map MonteCarloRow.record).map Csv.writeRecord))) :
    readMonteCarloCases files path = .ok rows := by
  -- the header names the three columns and at least one case
  have hcheck : ((monteCarloHeader n).length > 3 &&
      (monteCarloHeader n).take 3 == ["type", "variable", "tech"]) = true := by
    simp [monteCarloHeader, hn]
  unfold readMonteCarloCases
  rw [readRawTable_written hlengths hkeep hread]
  simp only [bind, Except.bind, hcheck, Bool.not_true, Bool.false_eq_true, if_false]
  rw [mapM_map_eq_ok rows MonteCarloRow.record _ id ?_, List.map_id]
  · rfl
  intro r hr
  have hdraws := (hkeep r hr).draws
  simp only [MonteCarloRow.record, List.cons_append, List.nil_append, List.getD_cons_zero,
    List.getD_cons_succ, List.drop_succ_cons, List.drop_zero]
  -- every draw reads back, and the family is found by its name
  rw [mapM_map_eq_ok r.draws plainText _ id ?_, List.map_id]
  · simp only [Family.ofName?_name]
    rfl
  intro x hx
  rw [parseValue_plainText (hdraws x hx).2 (hdraws x hx).1]
  rfl

end Files

/-- Rows of a Monte Carlo case file, all with the same positive number `n` of draws, that the
file keeps are written without a mismatch and read back as they are; case `c` of them is there
exactly when `c < n`, and is then each row's directive, in order, with its draw in column `c`. -/
theorem readMonteCarloCases_writeMonteCarloCases (rows : List MonteCarloRow) (n : Nat)
    (hne : rows ≠ []) (hn : 0 < n) (hlengths : ∀ r ∈ rows, r.draws.length = n)
    (hkeep : ∀ r ∈ rows, r.Keepable) :
    (writeMonteCarloCases rows).2 = none ∧
      (∀ (files files' : FileTree Content) (path : String),
        files.write path (.text (writeMonteCarloCases rows).1) = .ok files' →
          readMonteCarloCases files' path = .ok rows) ∧
      (∀ (c : Nat) (mode : CaseMode), (∃ ds, caseDirectives rows c mode = .ok ds) ↔ c < n) ∧
      ∀ (c : Nat) (mode : CaseMode) (ds : List Directive), caseDirectives rows c mode = .ok ds →
        List.Forall₂ (fun r d => ∃ x, r.draws[c]? = some x ∧
          d = ⟨r.family, r.quantity, r.tech, mode.magnitude x⟩) rows ds := by
  have hwritten := writeMonteCarloCases_of_lengths hne hlengths
  refine ⟨by rw [hwritten], fun files files' path hwrite => ?_, fun c mode => ⟨?_, ?_⟩,
    fun c mode ds hds => (caseDirectives_forall₂ hne hlengths hds).2⟩
  · rw [hwritten] at hwrite
    exact readMonteCarloCases_written hn hlengths hkeep (Input.readText_of_write hwrite)
  · rintro ⟨ds, hds⟩
    exact (caseDirectives_forall₂ hne hlengths hds).1
  · intro hc
    exact ⟨_, by rw [caseDirectives_of_lengths hne hlengths, if_pos hc]⟩

/-- Two cases of draws for the coal plant's efficiency and the gas price. -/
def twoCaseRows : List MonteCarloRow :=
  [⟨.powerPlants, "Efficiency", "COAL", [-2.5, 4.0]⟩, ⟨.fuels, "Cost", "NATGAS", [1.5, -3.0]⟩]

/-- The file written from the two cases reads back as them, and of the two cases the second is
there and a third is not. -/
theorem twoCaseRows_readBack :
    readMonteCarloCases ⟨[(["cases.csv"], .file (.text (writeMonteCarloCases twoCaseRows).1))]⟩
        "cases.csv" = .ok twoCaseRows ∧
      (∃ ds, caseDirectives twoCaseRows 1 .values = .ok ds) ∧
      ¬∃ ds, caseDirectives twoCaseRows 2 .values = .ok ds := by
  have hlengths : ∀ r ∈ twoCaseRows, r.draws.length = 2 := by
    simp [twoCaseRows]
  have hkeep : ∀ r ∈ twoCaseRows, r.Keepable := by
    intro r hr
    simp only [twoCaseRows, List.mem_cons, List.not_mem_nil, or_false] at hr
    -- the draws' texts are read back by evaluation, once the word is lowered by letters
    rcases hr with rfl | rfl <;>
      refine ⟨fun x hx => ?_, by decide, by decide⟩ <;>
      simp only [List.mem_cons, List.not_mem_nil, or_false] at hx <;>
      rcases hx with rfl | rfl <;>
      exact ⟨by decide, by unfold readFloat; simp only [toLower_ofList]; rfl⟩
  obtain ⟨-, hread, hcases, -⟩ := readMonteCarloCases_writeMonteCarloCases twoCaseRows 2
    (List.cons_ne_nil _ _) (by decide) hlengths hkeep
  exact ⟨hread ⟨[]⟩ _ "cases.csv" (FileTree.write_empty Path.parts_casesFile),
    (hcases 1 .values).mpr (by decide), fun h => absurd ((hcases 2 .values).mp h) (by decide)⟩

end EnergyModel
