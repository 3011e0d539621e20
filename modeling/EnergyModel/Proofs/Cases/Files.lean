import EnergyModel.Cases

/-!
# Reading a file that was written

A file tree keeps what was last written under a path: once `FileTree.write` succeeds, reading
the same path gives the content written (`FileTree.read_of_write`). Writing changes the entry
under the path's own parts only, so the directories above it, which the write found to be
directories, are still no files.

The case files name a family by its text; every family is found again by its name
(`Family.ofName?_name`).
-/

namespace EnergyModel

namespace FileTree

variable {α : Type} {t t' : FileTree α} {key k : List String} {n : Node α}

theorem find?_map_replace_of_ne (entries : List (List String × Node α)) (h : k ≠ key) :
    (entries.map fun e => if e.1 == key then (key, n) else e).find? (·.1 == k) =
      entries.find? (·.1 == k) := by
  induction entries with
  | nil => rfl
  | cons e entries ih =>
    by_cases he : e.1 = key
    · -- the entry is replaced by one under `key`, and neither is under `k`
      have hk : (e.1 == k) = false := by
        rw [he]
        exact beq_false_of_ne (Ne.symm h)
      have hkey : (key == k) = false := beq_false_of_ne (Ne.symm h)
      rw [List.map_cons, if_pos (beq_iff_eq.mpr he), List.find?_cons, List.find?_cons]
      simp only [hk, hkey, ih]
    · rw [List.map_cons, if_neg (mt beq_iff_eq.mp he), List.find?_cons, List.find?_cons, ih]

theorem node?_setAt_of_ne (h : k ≠ key) : (t.setAt key n).node? k = t.node? k := by
  unfold node? setAt
  split
  · rfl
  · split
    · rw [find?_map_replace_of_ne t.entries h]
    · rw [List.find?_append, List.find?_singleton, beq_false_of_ne (Ne.symm h)]
      simp

theorem node?_setAt_self (h : key ≠ []) : (t.setAt key n).node? key = some n := by
  unfold node? setAt
  rw [if_neg (by simpa using h)]
  split
  · rename_i hany
    -- the first entry under `key` is the first one replaced
    obtain ⟨e, hfind⟩ : ∃ e, t.entries.find? (·.1 == key) = some e := by
      cases hfind : t.entries.find? (·.1 == key) with
      | some e => exact ⟨e, rfl⟩
      | none =>
        obtain ⟨e, hmem, he⟩ := List.any_eq_true.mp hany
        exact absurd he (List.find?_eq_none.mp hfind e hmem)
    have hkey := List.find?_some hfind
    have he : e.1 = key := beq_iff_eq.mp hkey
    rw [List.find?_map]
    have hsame : ((fun e : List String × Node α => e.1 == key) ∘
        fun e => if e.1 == key then (key, n) else e) = fun e => e.1 == key := by
      funext e'
      by_cases he' : e'.1 = key <;> simp [he']
    rw [hsame, hfind]
    simp [he]
  · rename_i hany
    have hnone : t.entries.find? (·.1 == key) = none :=
      List.find?_eq_none.mpr fun e hmem he => hany (List.any_eq_true.mpr ⟨e, hmem, he⟩)
    rw [List.find?_append, hnone]
    simp

theorem isFileAt_setAt_of_ne (h : k ≠ key) : (t.setAt key n).isFileAt k = t.isFileAt k := by
  unfold isFileAt
  rw [node?_setAt_of_ne h]

theorem ne_of_mem_prefixes (h : k ∈ prefixes key) : k ≠ key := by
  obtain ⟨m, hm, rfl⟩ := List.mem_map.mp h
  intro heq
  have hlen := congrArg List.length heq
  rw [List.length_take, List.mem_range.mp hm |> Nat.min_eq_left ∘ Nat.le_of_lt] at hlen
  exact absurd hlen (Nat.ne_of_lt (List.mem_range.mp hm))

/-- A written file reads back as what was written. -/
theorem read_of_write {p : String} {c : α} (h : t.write p c = .ok t') : t'.read p = .ok c := by
  unfold write at h
  dsimp only at h
  split at h
  · cases h
  · rename_i hparent
    split at h
    · cases h
    · rename_i hdir
      cases h
      -- the root is a directory, so the path has parts
      have hkey : Path.parts p ≠ [] := by
        intro hroot
        rw [hroot] at hdir
        exact hdir rfl
      -- no directory above the path is a file, before the write and so after it
      have habove : (prefixes (Path.parts p)).any t.isFileAt = false := by
        unfold parentProblem at hparent
        split at hparent
        · cases hparent
        · rename_i hany
          exact Bool.eq_false_iff.mpr hany
      have habove' : (prefixes (Path.parts p)).any (t.setAt (Path.parts p) (.file c)).isFileAt =
          false := by
        rw [List.any_eq_false] at habove ⊢
        intro k hk
        rw [isFileAt_setAt_of_ne (ne_of_mem_prefixes hk)]
        exact habove k hk
      unfold read
      dsimp only
      rw [habove', node?_setAt_self hkey]
      rfl

/-- A file directly under the root is written to the empty tree as its one entry. -/
theorem write_empty {p name : String} {c : α} (h : Path.parts p = [name]) :
    (⟨[]⟩ : FileTree α).write p c = .ok ⟨[([name], .file c)]⟩ := by
  unfold write
  dsimp only
  rw [h]
  rfl

end FileTree

/-- The file `cases.csv` lies directly under the root. -/
theorem Path.parts_casesFile : Path.parts "cases.csv" = ["cases.csv"] := by
  unfold Path.parts String.splitOn
  -- the separator is met nowhere, so the text is one part
  repeat (rw [String.splitOnAux]; simp +decide only [↓reduceIte])

/-- A text written to a file is the text a reader of the file sees. -/
theorem Input.readText_of_write {files files' : FileTree Content} {path text : String}
    (h : files.write path (.text text) = .ok files') : Input.readText files' path = .ok text := by
  rw [Input.readText, FileTree.read_of_write h]
  rfl

/-- A reader that gives back each element from its text reads back a list of texts. -/
theorem mapM_map_eq_ok {ε α β γ : Type} (l : List α) (key : α → β) (f : β → Except ε γ)
    (g : α → γ) (h : ∀ a ∈ l, f (key a) = .ok (g a)) : (l.map key).mapM f = .ok (l.map g) := by
  induction l with
  | nil => rfl
  | cons a l ih =>
    rw [List.map_cons, List.mapM_cons, h a List.mem_cons_self,
      ih fun a' ha' => h a' (List.mem_cons_of_mem a ha')]
    rfl

/-! ## Families by name -/

theorem Family.ofName?_name (f : Family) : Family.ofName? f.name = some f := by
  cases f <;> rfl

theorem Family.mem_all (f : Family) : f ∈ Family.all := by
  cases f <;> simp [Family.all]

theorem Family.name_mem_names (f : Family) : (Family.all.map Family.name).contains f.name = true := by
  cases f <;> decide

theorem Family.trimBlank_name (f : Family) : Csv.trimBlank f.name = f.name := by
  cases f <;> decide

end EnergyModel
