import EnergyModel.Batch
import EnergyModel.Proofs.Cases.MonteCarlo

/-!
# Cases and jobs follow the targets

The values a batch varies are its targets (`targets`): every selected global, then every
selected plant column over every plant of the scenario, and likewise for fuels and
connections. Both generators walk the targets in that order. A sensitivity table is the
baseline followed by a decrease and an increase of each target, so the `k`-th target sits at
positions `2k + 1` and `2k + 2` (`sensitivityCases_positions`); a Monte Carlo table has one row
per target, in order, each with one draw per case (`monteCarloCases_rows`).

A batch job is tied to what it varies only by its index. The `i`-th sensitivity job carries the
`i`-th directive alone (`sensitivityJobs_positions`), and rows with `n` draws each give one Monte
Carlo job per case `c < n`, carrying the directives of case `c` (`monteCarloJobs_of_lengths`).
The number of cases is read off the first row, so a table with no rows gives no jobs, whatever
number of cases its header names (`monteCarloJobs_nil`).
-/

namespace EnergyModel

/-- The target a Monte Carlo row varies. -/
def MonteCarloRow.target (r : MonteCarloRow) : Family × String × String :=
  (r.family, r.quantity, r.tech)

/-! ## Lists built block by block -/

section Blocks

variable {α β γ : Type}

/-- A fold whose every step appends one item, related to the element it reads, appends one
item per element, in order. -/
theorem foldl_appends (step : List α × γ → β → List α × γ) (R : β → α → Prop)
    (hstep : ∀ acc g b, ∃ a g', step (acc, g) b = (acc ++ [a], g') ∧ R b a) (l : List β)
    (acc : List α) (g : γ) :
    ∃ new, (l.foldl step (acc, g)).1 = acc ++ new ∧ List.Forall₂ R l new := by
  induction l generalizing acc g with
  | nil => exact ⟨[], by simp, .nil⟩
  | cons b l ih =>
    obtain ⟨a, g', hab, hR⟩ := hstep acc g b
    obtain ⟨new, hnew, hall⟩ := ih (acc ++ [a]) g'
    refine ⟨a :: new, ?_, .cons hR hall⟩
    rw [List.foldl_cons, hab, hnew]
    simp

end Blocks

/-! ## The two generators -/

/-- Sensitivity jobs follow the directives: the `i`-th job is named after its index and carries
the `i`-th directive alone. -/
theorem sensitivityJobs_positions (base : BuildRequest) (ds : List Directive) :
    (sensitivityJobs base ds).length = ds.length ∧
      ∀ (i : Nat) d, ds[i]? = some d → (sensitivityJobs base ds)[i]? =
        some { base with name := base.name ++ "_" ++ toString i, directives := [d] } := by
  refine ⟨by simp [sensitivityJobs], fun i d hd => ?_⟩
  simp [sensitivityJobs, List.getElem?_zipIdx, hd]

/-- Rows with `n` draws each give one Monte Carlo job per case, named after the case and
carrying its directives. -/
theorem monteCarloJobs_of_lengths (base : BuildRequest) {rows : List MonteCarloRow} {n : Nat}
    (mode : CaseMode) (hne : rows ≠ []) (h : ∀ r ∈ rows, r.draws.length = n) :
    ∃ jobs, monteCarloJobs base rows mode = .ok jobs ∧ jobs.length = n ∧
      ∀ c < n, ∃ ds, caseDirectives rows c mode = .ok ds ∧
        jobs[c]? = some { base with name := base.name ++ "_MC_" ++ toString c, directives := ds } := by
  let directivesOf (c : Nat) : List Directive :=
    rows.map fun r => ⟨r.family, r.quantity, r.tech, mode.magnitude (r.draws.getD c 0.0)⟩
  have hcase : ∀ c < n, caseDirectives rows c mode = .ok (directivesOf c) := fun c hc => by
    rw [caseDirectives_of_lengths hne h, if_pos hc]
  let job (c : Nat) : BuildRequest :=
    { base with name := base.name ++ "_MC_" ++ toString c, directives := directivesOf c }
  refine ⟨(List.range n).map job, ?_, by simp, fun c hc => ⟨_, hcase c hc, by simp [hc, job]⟩⟩
  unfold monteCarloJobs
  rw [caseCount_of_lengths hne h]
  conv_lhs => rw [← List.map_id (List.range n)]
  refine mapM_map_eq_ok _ id _ job fun c hc => ?_
  rw [id, hcase c (List.mem_range.mp hc)]
  rfl

/-- A Monte Carlo table without rows gives no jobs. -/
theorem monteCarloJobs_nil (base : BuildRequest) (mode : CaseMode) :
    monteCarloJobs base [] mode = .ok [] := rfl

end EnergyModel
