import Mathlib
import EnergyModel.Proofs.Store.Written
import EnergyModel.Proofs.Cases.Targets

/-!
# Batches: unique job names, refused duplicates, one record per job

A batch's jobs are named after their scenario, `<inputs>_<scenario>`, and a perturbed job adds
its index: `<base>_<i>` for the `i`-th directive, `<base>_MC_<c>` for Monte Carlo case `c`. The
index is all digits and the separator before it is an underscore, so the last underscore of a
name splits it back into base and index, whatever underscores and digits the scenario holds
(`indexedName_inj`). Distinct scenarios therefore give jobs with distinct names
(`batchJobs_names_nodup`), the case that tells `A` with job `12` from `A_1` with job `2`
included.

A batch refuses to run two jobs that write the same database, as paths compare, before anything
else: the session is left as it was (`runBatch_of_repeated`), and no other failure of a batch is
that one (`runBatch_unrepeated_fails_within`). Otherwise the batch makes its folder, notes its
start and runs the jobs from there one after the other, each from the session the previous one
left (`JobsRan`); it returns one record per job, in order, counting the builds that succeeded
(`runBatch_ok_of_unrepeated`).

The failures of a run are read through `Run.Ensures`: what every success gives and every
failure is, from any session, with one rule per way of putting a run together. A success is
followed step by step from the session the run starts in.
-/

namespace EnergyModel

/-! ## Names with an index -/

section Names

variable {α : Type}

/-- Two lists that each end in a separator followed by a separator-free tail are equal exactly
when the parts before and after the separators are. -/
theorem append_cons_inj_of_notMem_right {x₁ x₂ z₁ z₂ : List α} {c : α} (h₁ : c ∉ z₁)
    (h₂ : c ∉ z₂) (h : x₁ ++ c :: z₁ = x₂ ++ c :: z₂) : x₁ = x₂ ∧ z₁ = z₂ := by
  rcases List.append_eq_append_iff.mp h with ⟨a, rfl, ha⟩ | ⟨a, rfl, ha⟩
  · rcases List.cons_eq_append_iff.mp ha with ⟨rfl, ha⟩ | ⟨b, rfl, rfl⟩
    · simp_all
    · simp at h₁
  · rcases List.cons_eq_append_iff.mp ha with ⟨rfl, ha⟩ | ⟨b, rfl, rfl⟩
    · simp_all
    · simp at h₂

end Names

/-- A name with an index after a separator that ends in an underscore gives back its base and
its index: the index is all digits, so the last underscore is the separator's. -/
theorem indexedName_inj (pre : List Char) {sep : String} (hsep : sep.toList = pre ++ ['_'])
    {s s' : String} {i j : Nat} (h : s ++ sep ++ toString i = s' ++ sep ++ toString j) :
    s = s' ∧ i = j := by
  have hchars := congrArg String.toList h
  simp only [String.toList_append, hsep, Nat.toString_eq_repr, Nat.toList_repr,
    List.append_assoc, List.singleton_append] at hchars
  rw [← List.append_assoc, ← List.append_assoc] at hchars
  obtain ⟨hbase, hdigits⟩ := append_cons_inj_of_notMem_right Nat.underscore_not_in_toDigits
    Nat.underscore_not_in_toDigits hchars
  refine ⟨String.toList_injective (List.append_cancel_right hbase), ?_⟩
  rw [← Nat.ofDigitChars_ten_toDigits (n := i), hdigits, Nat.ofDigitChars_ten_toDigits]

/-- Scenarios are told apart by their default model names. -/
theorem defaultModelName_injective (inputsDir : String) :
    Function.Injective (defaultModelName inputsDir) := by
  intro s s' h
  unfold defaultModelName at h
  split at h
  · have hchars := congrArg String.toList h
    simp only [String.toList_append, List.append_assoc, List.append_cancel_left_eq] at hchars
    exact String.toList_injective hchars
  · exact h

/-- Blocks of names, one block per base name with an index below `k` each, have no name twice
when the base names are distinct and a name gives back its base and its index. -/
theorem nodup_flatMap_tagged {tag : String → Nat → String} {k : Nat}
    (htag : ∀ s s' i j, i < k → j < k → tag s i = tag s' j → s = s' ∧ i = j)
    {names : List String} (hnames : names.Nodup) :
    (names.flatMap fun s => (List.range k).map (tag s)).Nodup := by
  rw [List.nodup_flatMap]
  refine ⟨fun s _ => List.nodup_range.map_on fun i hi j hj hij => ?_, hnames.imp fun hne => ?_⟩
  · exact (htag s s i j (List.mem_range.mp hi) (List.mem_range.mp hj) hij).2
  · intro x hx hx'
    obtain ⟨i, hi, rfl⟩ := List.mem_map.mp hx
    obtain ⟨j, hj, heq⟩ := List.mem_map.mp hx'
    exact hne (htag _ _ _ _ (List.mem_range.mp hi) (List.mem_range.mp hj) heq.symm).1

/-! ## The job list -/

section JobList

variable {ε α β : Type}

/-- A list of computations that each may fail succeeds as a whole when each succeeds. -/
theorem flatMapM_ok_of_forall (l : List α) (f : α → Except ε (List β))
    (h : ∀ a ∈ l, ∃ bs, f a = .ok bs) : ∃ out, l.flatMapM f = .ok out := by
  induction l with
  | nil => exact ⟨[], rfl⟩
  | cons a l ih =>
    obtain ⟨bs, hbs⟩ := h a List.mem_cons_self
    obtain ⟨out, hout⟩ := ih fun a' ha' => h a' (List.mem_cons_of_mem a ha')
    refine ⟨bs ++ out, ?_⟩
    rw [List.flatMapM_cons, hbs, hout]
    rfl

/-- What a successful `flatMapM` gives, seen through `g`, is the blocks each element gives. -/
theorem flatMapM_map_of_ok {γ : Type} {l : List α} {f : α → Except ε (List β)} {out : List β}
    (g : β → γ) (blocks : α → List γ)
    (hf : ∀ a bs, f a = .ok bs → bs.map g = blocks a) (hout : l.flatMapM f = .ok out) :
    out.map g = l.flatMap blocks := by
  induction l generalizing out with
  | nil =>
    cases hout
    rfl
  | cons a l ih =>
    rw [List.flatMapM_cons] at hout
    rcases hbs : f a with _ | bs
    · rw [hbs] at hout
      cases hout
    · rcases hrest : l.flatMapM f with _ | rest
      · rw [hbs, hrest] at hout
        cases hout
      · rw [hbs, hrest] at hout
        cases hout
        rw [List.map_append, hf a bs hbs, ih hrest, List.flatMap_cons]

/-- What a successful `mapM` gives, seen through `g`, is what each element gives. -/
theorem mapM_map_of_ok {γ : Type} {l : List α} {f : α → Except ε β} {out : List β} (g : β → γ)
    (item : α → γ) (hf : ∀ a b, f a = .ok b → g b = item a) (hout : l.mapM f = .ok out) :
    out.map g = l.map item := by
  induction l generalizing out with
  | nil =>
    cases hout
    rfl
  | cons a l ih =>
    rw [List.mapM_cons] at hout
    rcases hb : f a with _ | b
    · rw [hb] at hout
      cases hout
    · rcases hrest : l.mapM f with _ | rest
      · rw [hb, hrest] at hout
        cases hout
      · rw [hb, hrest] at hout
        cases hout
        rw [List.map_cons, hf a b hb, ih hrest, List.map_cons]

end JobList

/-- The Monte Carlo jobs of a base build are named after it and the cases, one per case. -/
theorem monteCarloJobs_names {base : BuildRequest} {rows : List MonteCarloRow} {mode : CaseMode}
    {jobs : List BuildRequest} (h : monteCarloJobs base rows mode = .ok jobs) :
    jobs.map (·.name) =
      (List.range (caseCount rows)).map fun c => base.name ++ "_MC_" ++ toString c := by
  refine mapM_map_of_ok _ _ (fun c job hjob => ?_) h
  -- a case's job is named before its directives are looked at
  rcases hds : caseDirectives rows c mode with _ | ds
  · rw [hds] at hjob
    cases hjob
  · rw [hds] at hjob
    cases hjob
    rfl

/-- The sensitivity jobs of a base build are named after it and the directives' positions. -/
theorem sensitivityJobs_names (base : BuildRequest) (ds : List Directive) :
    (sensitivityJobs base ds).map (·.name) =
      (List.range ds.length).map fun i => base.name ++ "_" ++ toString i := by
  apply List.ext_getElem?
  intro i
  obtain ⟨hlength, hat⟩ := sensitivityJobs_positions base ds
  by_cases hi : i < ds.length
  · rw [List.getElem?_map, hat i ds[i] (List.getElem?_eq_getElem hi), List.getElem?_map,
      List.getElem?_range hi]
    rfl
  · rw [List.getElem?_map, List.getElem?_eq_none (by omega), List.getElem?_map,
      List.getElem?_eq_none (by simpa using hi)]
    rfl

/-- Monte Carlo rows with one number of draws give their jobs. -/
theorem monteCarloJobs_ok_of_lengths (base : BuildRequest) {rows : List MonteCarloRow}
    (mode : CaseMode) (h : ∃ n, ∀ r ∈ rows, r.draws.length = n) :
    ∃ jobs, monteCarloJobs base rows mode = .ok jobs := by
  obtain ⟨n, hn⟩ := h
  by_cases hne : rows = []
  · subst hne
    exact ⟨[], monteCarloJobs_nil base mode⟩
  · obtain ⟨jobs, hjobs, -⟩ := monteCarloJobs_of_lengths base mode hne hn
    exact ⟨jobs, hjobs⟩

/-- Jobs made base by base, each base's jobs named after it with an index below `k`, have
distinct names when the bases do and a name gives back its base and index. -/
theorem flatMapM_names_nodup {f : BuildRequest → Except Problem (List BuildRequest)}
    {bases jobs : List BuildRequest} (hjobs : bases.flatMapM f = .ok jobs)
    (tag : String → Nat → String) (k : Nat)
    (htag : ∀ s s' i j, i < k → j < k → tag s i = tag s' j → s = s' ∧ i = j)
    (hblock : ∀ b bs, f b = .ok bs → bs.map (·.name) = (List.range k).map (tag b.name))
    (hbases : (bases.map (·.name)).Nodup) :
    (jobs.map (·.name)).Nodup := by
  have hnames : jobs.map (·.name) =
      (bases.map (·.name)).flatMap fun s => (List.range k).map (tag s) := by
    rw [flatMapM_map_of_ok _ _ hblock hjobs, List.flatMap_map]
  rw [hnames]
  exact nodup_flatMap_tagged htag hbases

/-- The jobs of a batch over distinct scenarios have distinct names: plain builds, one job per
directive or one job per Monte Carlo case of rows with one number of draws. -/
theorem batchJobs_names_nodup (inputsDir scenarioDir outputDir : String) (scenarios : List String)
    (template : Option String) (overwrite : Bool) (directives : Option (List Directive))
    (cases : Option (List MonteCarloRow)) (mode : CaseMode) (hs : scenarios.Nodup)
    (hrows : directives = none → ∀ rows, cases = some rows →
      ∃ n, ∀ r ∈ rows, r.draws.length = n) :
    ∃ jobs, batchJobs inputsDir scenarioDir scenarios outputDir template overwrite directives
        cases mode = .ok jobs ∧ (jobs.map (·.name)).Nodup := by
  let bases := (scenarioJobs inputsDir scenarioDir scenarios outputDir).map fun b =>
    { b with template, overwrite }
  have hbases : (bases.map (·.name)).Nodup := by
    have hnames : bases.map (·.name) = scenarios.map (defaultModelName inputsDir) := by
      simp [bases, scenarioJobs, BuildRequest.plain]
    rw [hnames]
    exact hs.map (defaultModelName_injective inputsDir)
  unfold batchJobs
  rcases directives with _ | ds
  · rcases cases with _ | rows
    · -- plain builds: one job per base, named as it
      obtain ⟨jobs, hjobs⟩ := flatMapM_ok_of_forall bases _ fun b _ => ⟨[b], rfl⟩
      refine ⟨jobs, hjobs, flatMapM_names_nodup hjobs (fun s _ => s) 1
        (fun s s' i j hi hj h => ⟨h, by omega⟩) (fun b bs hbs => ?_) hbases⟩
      cases hbs
      rfl
    · -- Monte Carlo cases: one job per case
      obtain ⟨jobs, hjobs⟩ := flatMapM_ok_of_forall bases _ fun b _ =>
        monteCarloJobs_ok_of_lengths b mode (hrows rfl rows rfl)
      refine ⟨jobs, hjobs, flatMapM_names_nodup hjobs
        (fun s c => s ++ "_MC_" ++ toString c) (caseCount rows)
        (fun s s' i j _ _ h => indexedName_inj ['_', 'M', 'C'] (by decide) h)
        (fun b bs hbs => monteCarloJobs_names hbs) hbases⟩
  · -- sensitivity directives: one job per directive
    obtain ⟨jobs, hjobs⟩ := flatMapM_ok_of_forall bases _ fun b _ =>
      ⟨sensitivityJobs b ds, rfl⟩
    refine ⟨jobs, hjobs, flatMapM_names_nodup hjobs
      (fun s i => s ++ "_" ++ toString i) ds.length
      (fun s s' i j _ _ h => indexedName_inj [] (by decide) h)
      (fun b bs hbs => ?_) hbases⟩
    cases hbs
    exact sensitivityJobs_names b ds

/-! ## Runs and their outcomes -/

namespace Run

variable {α β : Type}

theorem run_bind (m : Run α) (f : α → Run β) (s : Session) :
    (m >>= f).run.run s =
      match m.run.run s with
      | (.ok a, s') => (f a).run.run s'
      | (.error e, s') => (.error e, s') := by
  simp only [ExceptT.run_bind, StateT.run_bind]
  rcases m.run.run s with ⟨_ | a, s'⟩ <;> rfl

theorem run_tryCatch (m : Run α) (handle : Failure → Run α) (s : Session) :
    (tryCatch m handle).run.run s =
      match m.run.run s with
      | (.ok a, s') => (.ok a, s')
      | (.error e, s') => (handle e).run.run s' := by
  simp only [tryCatch, tryCatchThe, MonadExceptOf.tryCatch, ExceptT.tryCatch, ExceptT.run_mk,
    StateT.run_bind]
  rcases h : m.run.run s with ⟨_ | a, s'⟩ <;> erw [h] <;> rfl

theorem run_setFiles_bind (t : FileTree Content) (f : Unit → Run α) (s : Session) :
    (Run.setFiles t >>= f).run.run s = (f ()).run.run { s with files := t } := by
  rw [run_bind]
  rfl

theorem run_note_bind (l : Level) (o : Origin) (text : String) (f : Unit → Run α) (s : Session) :
    (Run.note l o text >>= f).run.run s = (f ()).run.run (s.record ⟨l, o, text⟩) := by
  rw [run_bind]
  rfl

/-- From every session, a success of `m` gives a value with `P`, and a failure of `m` is a
failure with `E`. -/
def Ensures (m : Run α) (P : α → Prop) (E : Failure → Prop) : Prop :=
  ∀ s, match m.run.run s with
    | (.ok a, _) => P a
    | (.error f, _) => E f

namespace Ensures

variable {P : α → Prop} {Q : β → Prop} {E : Failure → Prop}

theorem pure {a : α} (h : P a) : Ensures (Pure.pure a) P E :=
  fun _ => h

theorem throw {f : Failure} (h : E f) : Ensures (MonadExcept.throw f : Run α) P E :=
  fun _ => h

theorem note (l : Level) (o : Origin) (text : String) :
    Ensures (Run.note l o text) (fun _ => True) E :=
  fun _ => trivial

theorem setFiles (t : FileTree Content) : Ensures (Run.setFiles t) (fun _ => True) E :=
  fun _ => trivial

/-- A run of two steps: the second step runs from every value the first may give. -/
theorem bind {m : Run α} {f : α → Run β} (hm : Ensures m P E) (hf : ∀ a, P a → Ensures (f a) Q E) :
    Ensures (m >>= f) Q E := by
  intro s
  rw [run_bind]
  have hs := hm s
  rcases hrun : m.run.run s with ⟨_ | a, s'⟩
  · rw [hrun] at hs
    exact hs
  · rw [hrun] at hs
    exact hf a hs s'

/-- A step that reads the files, whatever they are. -/
theorem files_bind {k : FileTree Content → Run α} (h : ∀ t, Ensures (k t) P E) :
    Ensures (Run.files >>= k) P E := by
  intro s
  rw [Run.files_bind]
  exact h s.files s

end Ensures

end Run

/-! ## Jobs run one after the other -/

/-- Jobs built one after another from a session, each from the session the previous one left:
the records they leave and the number of builds that succeeded. A job whose build succeeds is
recorded with its row count and warnings; a job whose build fails is recorded with the failure,
which is logged as an error before the next job starts. -/
inductive JobsRan : Session → List BuildRequest → List JobRecord → Nat → Prop
  | nil (s : Session) : JobsRan s [] [] 0
  | built {s s' : Session} {job : BuildRequest} {o : BuildOutcome} {jobs : List BuildRequest}
      {records : List JobRecord} {n : Nat} (h : (buildModel job).run.run s = (.ok o, s'))
      (rest : JobsRan s' jobs records n) :
      JobsRan s (job :: jobs)
        (⟨job.name, job.scenario, job.databasePath, some o.rowCount, o.warnings, none⟩ :: records)
        (n + 1)
  | failed {s s' : Session} {job : BuildRequest} {f : Failure} {jobs : List BuildRequest}
      {records : List JobRecord} {n : Nat} (h : (buildModel job).run.run s = (.error f, s'))
      (rest : JobsRan (s'.record ⟨.error, .batch, "Build of model " ++ job.name ++ " failed: " ++
        f.report⟩) jobs records n) :
      JobsRan s (job :: jobs)
        (⟨job.name, job.scenario, job.databasePath, none, [], some f.summary⟩ :: records) n

/-- The records of jobs run in order are one per job, and the builds that succeeded are the
records of a success. -/
theorem JobsRan.count {s : Session} {jobs : List BuildRequest} {records : List JobRecord}
    {n : Nat} (h : JobsRan s jobs records n) :
    records.length = jobs.length ∧ (records.filter (·.succeeded)).length = n := by
  induction h with
  | nil => exact ⟨rfl, rfl⟩
  | built _ _ ih =>
    obtain ⟨hlength, hcount⟩ := ih
    refine ⟨by rw [List.length_cons, List.length_cons, hlength], ?_⟩
    rw [List.filter_cons_of_pos rfl, List.length_cons, hcount]
  | failed _ _ ih =>
    obtain ⟨hlength, hcount⟩ := ih
    refine ⟨by rw [List.length_cons, List.length_cons, hlength], ?_⟩
    rw [List.filter_cons_of_neg (by simp [JobRecord.succeeded]), hcount]

theorem runJob_of_built {job : BuildRequest} {s s' : Session} {o : BuildOutcome}
    (h : (buildModel job).run.run s = (.ok o, s')) :
    (runJob job).run.run s =
      (.ok ⟨job.name, job.scenario, job.databasePath, some o.rowCount, o.warnings, none⟩, s') := by
  rw [runJob, Run.run_tryCatch, Run.run_bind, h]
  rfl

theorem runJob_of_failed {job : BuildRequest} {s s' : Session} {f : Failure}
    (h : (buildModel job).run.run s = (.error f, s')) :
    (runJob job).run.run s =
      (.ok ⟨job.name, job.scenario, job.databasePath, none, [], some f.summary⟩,
        s'.record ⟨.error, .batch, "Build of model " ++ job.name ++ " failed: " ++ f.report⟩) := by
  rw [runJob, Run.run_tryCatch, Run.run_bind, h]
  rfl

/-- Running the jobs in order never fails: from every session, each job's build is tried and
recorded, whether it succeeds or not. -/
theorem mapM_runJob (jobs : List BuildRequest) (s : Session) :
    ∃ records n s', (jobs.mapM runJob).run.run s = (.ok records, s') ∧
      JobsRan s jobs records n := by
  induction jobs generalizing s with
  | nil => exact ⟨[], 0, s, rfl, .nil s⟩
  | cons job jobs ih =>
    rw [List.mapM_cons, Run.run_bind]
    rcases hbuild : (buildModel job).run.run s with ⟨_ | o, s₁⟩
    · rename_i f
      rw [runJob_of_failed hbuild]
      obtain ⟨records, n, s', hrest, hran⟩ := ih (s₁.record
        ⟨.error, .batch, "Build of model " ++ job.name ++ " failed: " ++ f.report⟩)
      refine ⟨_, n, s', ?_, .failed hbuild hran⟩
      simp only [Run.run_bind, hrest]
      rfl
    · rw [runJob_of_built hbuild]
      obtain ⟨records, n, s', hrest, hran⟩ := ih s₁
      refine ⟨_, n + 1, s', ?_, .built hbuild hran⟩
      simp only [Run.run_bind, hrest]
      rfl

/-- Running the jobs in order gives records of a run of the jobs, and fails with nothing. -/
theorem mapM_runJob_ensures (jobs : List BuildRequest) {E : Failure → Prop} :
    (jobs.mapM runJob).Ensures (fun records => ∃ s n, JobsRan s jobs records n) E := by
  intro s
  obtain ⟨records, n, s', hrun, hran⟩ := mapM_runJob jobs s
  rw [hrun]
  exact ⟨s, n, hran⟩

/-! ## Refusing jobs that write one database -/

/-- The search for a repeated database finds none exactly when the jobs' databases are distinct
paths, none of them among those already seen. -/
theorem repeatedJob?_go_eq_none_iff (seen : List (Bool × List String))
    (jobs : List BuildRequest) :
    repeatedJob?.go seen jobs = none ↔
      (jobs.map fun j => Path.components j.databasePath).Nodup ∧
        ∀ j ∈ jobs, Path.components j.databasePath ∉ seen := by
  induction jobs generalizing seen with
  | nil => simp [repeatedJob?.go]
  | cons j jobs ih =>
    rw [repeatedJob?.go]
    by_cases hseen : Path.components j.databasePath ∈ seen
    · simp [hseen]
    · simp only [List.contains_iff_mem, hseen, if_false, ih, List.map_cons, List.nodup_cons,
        List.mem_map, List.mem_cons, forall_eq_or_imp, not_or]
      grind

theorem repeatedJob?_go_mem {seen : List (Bool × List String)} {jobs : List BuildRequest}
    {j : BuildRequest} (h : repeatedJob?.go seen jobs = some j) : j ∈ jobs := by
  induction jobs generalizing seen with
  | nil => simp [repeatedJob?.go] at h
  | cons k jobs ih =>
    rw [repeatedJob?.go] at h
    split at h
    · cases h
      exact List.mem_cons_self
    · exact List.mem_cons_of_mem k (ih h)

/-- No job is repeated exactly when the jobs' databases are distinct paths. -/
theorem repeatedJob?_eq_none_iff (jobs : List BuildRequest) :
    repeatedJob? jobs = none ↔ (jobs.map fun j => Path.components j.databasePath).Nodup := by
  rw [repeatedJob?, repeatedJob?_go_eq_none_iff]
  simp

/-- A batch with a repeated database fails on the job that repeats it, before anything else:
no job runs, no folder is made and nothing is logged. -/
theorem runBatch_of_repeated {jobs : List BuildRequest} {j : BuildRequest}
    (h : repeatedJob? jobs = some j) (dir : String) (workers : Nat) (s : Session) :
    (runBatch jobs dir workers).run.run s = (.error (.rule (.duplicateModel j.name)), s) := by
  simp only [runBatch, h]
  rfl

/-- A batch without a repeated database fails only with a failure in some context: making the
folder or writing the summary. -/
theorem runBatch_unrepeated_fails_within {jobs : List BuildRequest} (h : repeatedJob? jobs = none)
    (dir : String) (workers : Nat) :
    (runBatch jobs dir workers).Ensures (fun _ => True) (fun f => f.context ≠ []) := by
  simp only [runBatch, h]
  refine .files_bind fun fs => ?_
  split
  · refine .bind (.setFiles _) fun _ _ => .bind (.note _ _ _) fun _ _ =>
      .bind (mapM_runJob_ensures jobs) fun _ _ => ?_
    split
    on_goal 1 => refine .bind (.note _ _ _) fun _ _ => ?_
    -- after the warning or without it, the summary is written the same way
    all_goals
      refine .files_bind fun fs => ?_
      split
      · exact .bind (.setFiles _) fun _ _ => .bind (.note _ _ _) fun _ _ => .pure trivial
      · exact .bind (P := fun _ => False) (.throw (by simp [Failure.within])) fun _ h => h.elim
  · exact .bind (P := fun _ => False) (.throw (by simp [Failure.within])) fun _ h => h.elim

/-- A batch without a repeated database that succeeds has made its folder, noted the start and
run every job in order from there, each from the session the previous one left; it records
them one per job, with the builds that succeeded as its successes and the others as its
failures. -/
theorem runBatch_ok_of_unrepeated {jobs : List BuildRequest} (h : repeatedJob? jobs = none)
    {dir : String} {workers : Nat} {s s' : Session} {summary : BatchSummary}
    (hrun : (runBatch jobs dir workers).run.run s = (.ok summary, s')) :
    ∃ t, s.files.createDirectories dir = .ok t ∧
      JobsRan ({ s with files := t }.record ⟨.info, .batch, "Running " ++ toString jobs.length ++
        " builds on " ++ toString workers ++ " threads"⟩) jobs summary.jobs summary.success ∧
      summary.failure = jobs.length - summary.success := by
  simp only [runBatch, h] at hrun
  rw [Run.files_bind] at hrun
  cases hdir : s.files.createDirectories dir with
  | error e =>
    rw [hdir] at hrun
    cases hrun
  | ok t =>
    refine ⟨t, rfl, ?_⟩
    obtain ⟨records, n, s₂, hjobs, hran⟩ := mapM_runJob jobs
      ({ s with files := t }.record ⟨.info, .batch, "Running " ++ toString jobs.length ++
        " builds on " ++ toString workers ++ " threads"⟩)
    rw [hdir, Run.run_setFiles_bind, Run.run_note_bind, Run.run_bind, hjobs] at hrun
    dsimp only at hrun
    -- what follows the jobs only notes and writes the summary, which holds their records
    have hsummary : summary.jobs = records ∧
        summary.success = (records.filter (·.succeeded)).length ∧
        summary.failure = records.length - summary.success := by
      split at hrun
      on_goal 1 => rw [Run.run_note_bind] at hrun
      all_goals
        rw [Run.files_bind] at hrun
        split at hrun
        · cases hrun
          exact ⟨rfl, rfl, rfl⟩
        · cases hrun
    obtain ⟨hjobs, hsuccess, hfailure⟩ := hsummary
    obtain ⟨hlength, hcount⟩ := hran.count
    rw [hfailure, hjobs, hsuccess, hcount, hlength]
    exact ⟨hran, rfl⟩

/-- A batch checks its databases before running anything: it fails with the duplicate-name
failure, leaving the session as it was, exactly when two jobs write the same database path, and
it fails so in no other case. When it succeeds it has made its folder and run every job in
order from there, each from where the previous one left the session, with one record per job
and the builds that succeeded counted as its successes, the others as its failures. -/
theorem runBatch_checks_then_records (jobs : List BuildRequest) (dir : String) (workers : Nat)
    (s : Session) :
    (¬ (jobs.map fun j => Path.components j.databasePath).Nodup →
      ∃ j ∈ jobs, (runBatch jobs dir workers).run.run s =
        (.error (.rule (.duplicateModel j.name)), s)) ∧
    (∀ name s', (runBatch jobs dir workers).run.run s =
        (.error (.rule (.duplicateModel name)), s') →
      ¬ (jobs.map fun j => Path.components j.databasePath).Nodup) ∧
    ∀ summary s', (runBatch jobs dir workers).run.run s = (.ok summary, s') →
      ∃ t, s.files.createDirectories dir = .ok t ∧
        JobsRan ({ s with files := t }.record ⟨.info, .batch, "Running " ++
          toString jobs.length ++ " builds on " ++ toString workers ++ " threads"⟩)
          jobs summary.jobs summary.success ∧
        summary.failure = jobs.length - summary.success := by
  refine ⟨fun hdup => ?_, fun name s' hrun hdistinct => ?_, fun summary s' hrun => ?_⟩
  · cases hrepeat : repeatedJob? jobs with
    | none => exact absurd ((repeatedJob?_eq_none_iff jobs).mp hrepeat) hdup
    | some j => exact ⟨j, repeatedJob?_go_mem hrepeat, runBatch_of_repeated hrepeat dir workers s⟩
  · -- without a repeated database every failure has a context, and this one has none
    have hends := runBatch_unrepeated_fails_within
      ((repeatedJob?_eq_none_iff jobs).mpr hdistinct) dir workers s
    rw [hrun] at hends
    exact hends rfl
  · cases hrepeat : repeatedJob? jobs with
    | none => exact runBatch_ok_of_unrepeated hrepeat hrun
    | some j =>
      rw [runBatch_of_repeated hrepeat] at hrun
      cases hrun

/-- Batch jobs are uniquely named and duplicate outputs are refused before any work. The jobs of
a batch over distinct scenarios, plain or with a directive list or with Monte Carlo rows of one
number of draws, exist and have distinct names; and a batch fails with the duplicate-name
failure, without running a job, making the folder or logging, exactly when two jobs write the
same database path, while a batch that succeeds has made its folder and records every job, run
in order from there, counting the builds that succeeded. -/
theorem batch_names_unique_and_checked :
    (∀ (inputsDir scenarioDir outputDir : String) (scenarios : List String)
        (template : Option String) (overwrite : Bool) (directives : Option (List Directive))
        (cases : Option (List MonteCarloRow)) (mode : CaseMode),
      scenarios.Nodup →
      (directives = none → ∀ rows, cases = some rows → ∃ n, ∀ r ∈ rows, r.draws.length = n) →
      ∃ jobs, batchJobs inputsDir scenarioDir scenarios outputDir template overwrite directives
          cases mode = .ok jobs ∧ (jobs.map (·.name)).Nodup) ∧
    ∀ (jobs : List BuildRequest) (dir : String) (workers : Nat) (s : Session),
      (¬ (jobs.map fun j => Path.components j.databasePath).Nodup →
        ∃ j ∈ jobs, (runBatch jobs dir workers).run.run s =
          (.error (.rule (.duplicateModel j.name)), s)) ∧
      (∀ name s', (runBatch jobs dir workers).run.run s =
          (.error (.rule (.duplicateModel name)), s') →
        ¬ (jobs.map fun j => Path.components j.databasePath).Nodup) ∧
      ∀ summary s', (runBatch jobs dir workers).run.run s = (.ok summary, s') →
        ∃ t, s.files.createDirectories dir = .ok t ∧
          JobsRan ({ s with files := t }.record ⟨.info, .batch, "Running " ++
            toString jobs.length ++ " builds on " ++ toString workers ++ " threads"⟩)
            jobs summary.jobs summary.success ∧
          summary.failure = jobs.length - summary.success :=
  ⟨batchJobs_names_nodup, runBatch_checks_then_records⟩

/-- The jobs of scenarios `x//y` and `x/y`, plain and from the folder `inputs`. -/
theorem batchJobs_slashed :
    batchJobs "inputs" "scenarios" ["x//y", "x/y"] "out" none true none none .perturbations =
      .ok [{ BuildRequest.plain "inputs" "scenarios" "x//y" "out" with overwrite := true },
        { BuildRequest.plain "inputs" "scenarios" "x/y" "out" with overwrite := true }] := rfl

/-- The jobs of scenarios `x//y` and `x/y` write `out/inputs_x//y.sqlite` and
`out/inputs_x/y.sqlite`, one file as paths compare. -/
theorem batchJobs_slashed_one_database :
    ¬ ([{ BuildRequest.plain "inputs" "scenarios" "x//y" "out" with overwrite := true },
      { BuildRequest.plain "inputs" "scenarios" "x/y" "out" with overwrite := true }].map
      fun j => Path.components j.databasePath).Nodup := by
  have hfolder : Path.fileName? "inputs" = some "inputs" := by
    simp +decide [Path.fileName?, Path.writtenParts, String.splitOn, String.splitOnAux]
  have hsame :
      Path.components "out/inputs_x//y.sqlite" = Path.components "out/inputs_x/y.sqlite" := by
    simp +decide [Path.components, Path.writtenParts, String.splitOn, String.splitOnAux]
  simp only [List.map_cons, List.map_nil, BuildRequest.databasePath, BuildRequest.plain,
    defaultModelName, hfolder, databasePath]
  rw [show Path.join "out" ("inputs" ++ "_" ++ "x//y" ++ "." ++ databaseExtension) =
      "out/inputs_x//y.sqlite" by decide +kernel,
    show Path.join "out" ("inputs" ++ "_" ++ "x/y" ++ "." ++ databaseExtension) =
      "out/inputs_x/y.sqlite" by decide +kernel, hsame]
  simp

/-- Scenarios `A` and `A_1` with thirteen directives each: `inputs_A_12` and `inputs_A_1_2` are
told apart. Scenarios `x//y` and `x/y` give jobs of distinct names that write one database: the
batch refuses them, from every session, before running anything. -/
theorem batchJobs_underscored_and_slashed :
    (∃ jobs, batchJobs "inputs" "scenarios" ["A", "A_1"] "out" none true
        (some (List.replicate 13 .baseline)) none .perturbations = .ok jobs ∧
      (jobs.map (·.name)).Nodup) ∧
    ∃ jobs, batchJobs "inputs" "scenarios" ["x//y", "x/y"] "out" none true none none
        .perturbations = .ok jobs ∧ (jobs.map (·.name)).Nodup ∧
      ∀ s, ∃ j ∈ jobs, (runBatch jobs "out" 1).run.run s =
        (.error (.rule (.duplicateModel j.name)), s) := by
  obtain ⟨hnames, hchecked⟩ := batch_names_unique_and_checked
  obtain ⟨jobs, hjobs, hdistinct⟩ := hnames "inputs" "scenarios" "out" ["x//y", "x/y"] none true
    none none .perturbations (by simp) (fun _ _ h => by cases h)
  have hdup : ¬ (jobs.map fun j => Path.components j.databasePath).Nodup := by
    rw [batchJobs_slashed, Except.ok.injEq] at hjobs
    rw [← hjobs]
    exact batchJobs_slashed_one_database
  exact ⟨hnames "inputs" "scenarios" "out" ["A", "A_1"] none true _ none .perturbations (by simp)
      (fun h => by cases h), jobs, hjobs, hdistinct, fun s => (hchecked jobs "out" 1 s).1 hdup⟩

end EnergyModel
