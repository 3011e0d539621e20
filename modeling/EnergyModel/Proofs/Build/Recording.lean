import EnergyModel.Build
import EnergyModel.Proofs.Cases.Files
import Mathlib.Tactic.SplitIfs

/-!
# Runs that only record notes

Recording a note (`Session.record`) keeps it, prints it, and appends its line to a log file when
file logging is on; it creates, removes or rewrites nothing else. `FileTree.Grows keys t t'` says
that `t'` is `t` with text appended to some text files at `keys`, every other entry as it was:
appending a line is such a growth (`appendLine_grows`), and so is recording any number of notes,
at the two log files of the session (`Session.foldl_record_grows`), or no change at all when
logging is off.

`Run.Records m notes r` says that `m`, from any session, ends in `r` having done nothing but
record `notes`. It composes as a run's steps do (`Records.bind`, `Records.bind_error`), and the
steps a build takes before it writes all have it: `Run.ofExcept`, `Run.within`, `Run.note` and
`Run.noteAll`.
-/

namespace EnergyModel

/-! ## File trees that grow by appended text -/

namespace FileTree

/-- `t'` is `t` with text appended to some of the text files at `keys`: every other entry, every
directory and every file that is not text is as it was. -/
def Grows (keys : List (List String)) (t t' : FileTree Content) : Prop :=
  ∀ k, t'.node? k = t.node? k ∨
    k ∈ keys ∧ ∃ text more, t.node? k = some (.file (.text text)) ∧
      t'.node? k = some (.file (.text (text ++ more)))

variable {keys keys' : List (List String)} {t t' t'' : FileTree Content}

theorem Grows.refl (keys : List (List String)) (t : FileTree Content) : t.Grows keys t :=
  fun _ => .inl rfl

theorem Grows.trans (h₁ : t.Grows keys t') (h₂ : t'.Grows keys t'') : t.Grows keys t'' := by
  intro k
  rcases h₂ k with h₂ | ⟨hk, text, more, hold, hnew⟩
  · rw [h₂]
    exact h₁ k
  · rcases h₁ k with h₁ | ⟨-, text₀, more₀, hold₀, hnew₀⟩
    · exact .inr ⟨hk, text, more, h₁ ▸ hold, hnew⟩
    · -- the file grew twice: by both texts, in order
      rw [hnew₀, Option.some.injEq, Node.file.injEq, Content.text.injEq] at hold
      subst hold
      exact .inr ⟨hk, text₀, more₀ ++ more, hold₀, by rw [hnew, String.append_assoc]⟩

theorem Grows.mono (h : t.Grows keys t') (hkeys : keys ⊆ keys') : t.Grows keys' t' := by
  intro k
  rcases h k with h | ⟨hk, rest⟩
  · exact .inl h
  · exact .inr ⟨hkeys hk, rest⟩

/-- Outside the growing files, nothing changes. -/
theorem Grows.node?_of_not_mem (h : t.Grows keys t') {k : List String} (hk : k ∉ keys) :
    t'.node? k = t.node? k :=
  (h k).resolve_right fun ⟨hmem, _⟩ => hk hmem

/-- Growth creates and removes nothing. -/
theorem Grows.isSome_node? (h : t.Grows keys t') (k : List String) :
    (t'.node? k).isSome = (t.node? k).isSome := by
  rcases h k with h | ⟨-, text, more, hold, hnew⟩
  · rw [h]
  · rw [hold, hnew]
    rfl

theorem node?_of_read {p : String} {c : Content} (h : t.read p = .ok c) :
    t.node? (Path.parts p) = some (.file c) := by
  unfold read at h
  dsimp only at h
  split at h
  · cases h
  · split at h
    · cases h
      assumption
    · cases h
    · cases h

/-- A write that succeeds sets the entry under the path's parts, which are not the root's. -/
theorem write_eq_ok {p : String} {c : Content} (h : t.write p c = .ok t') :
    Path.parts p ≠ [] ∧ t' = t.setAt (Path.parts p) (.file c) := by
  unfold write at h
  dsimp only at h
  split at h
  · cases h
  · split at h
    · cases h
    · rename_i hdir
      cases h
      refine ⟨fun hroot => hdir ?_, rfl⟩
      rw [hroot]
      rfl

end FileTree

open FileTree in
/-- Appending a line grows the text file at its path, if there is one, and changes nothing
else. -/
theorem appendLine_grows (t : FileTree Content) (p line : String) :
    t.Grows [Path.parts p] (appendLine t p line) := by
  unfold appendLine
  split
  · rename_i text hread
    split
    · rename_i t' hwrite
      obtain ⟨hkey, rfl⟩ := write_eq_ok hwrite
      intro k
      by_cases hk : k = Path.parts p
      · subst hk
        exact .inr ⟨List.mem_singleton_self _, text, line, node?_of_read hread,
          node?_setAt_self hkey⟩
      · exact .inl (node?_setAt_of_ne hk)
    · exact Grows.refl _ _
  · exact Grows.refl _ _

/-! ## Recording notes -/

/-- The parts of the two log files of a logging setup; none without logging. -/
def logKeys : Option LogSetup → List (List String)
  | none => []
  | some setup =>
    [Path.parts (Path.join setup.directory infoLogName),
      Path.parts (Path.join setup.directory errorLogName)]

namespace Session

@[simp] theorem record_logging (s : Session) (n : Note) : (s.record n).logging = s.logging := by
  unfold record
  -- with logging on, each output is written or not, and none of them touches the setup
  cases s.logging with
  | none => rfl
  | some setup =>
    dsimp only
    split_ifs <;> rfl

theorem record_files_of_none (s : Session) (n : Note) (h : s.logging = none) :
    (s.record n).files = s.files := by
  unfold record
  rw [h]

/-- A note grows at most the two log files, by its line. -/
theorem record_grows (s : Session) (n : Note) :
    s.files.Grows (logKeys s.logging) (s.record n).files := by
  unfold record
  cases hlog : s.logging with
  | none => exact FileTree.Grows.refl _ _
  | some setup =>
    dsimp only
    have hinfo := (appendLine_grows s.files (Path.join setup.directory infoLogName)
      (n.line ++ "\n")).mono (show [_] ⊆ logKeys (some setup) by simp [logKeys])
    have herr := fun t => (appendLine_grows t (Path.join setup.directory errorLogName)
      (n.line ++ "\n")).mono (show [_] ⊆ logKeys (some setup) by simp [logKeys])
    have hnone := FileTree.Grows.refl (logKeys (some setup)) s.files
    have herr₁ := herr s.files
    have hboth := hinfo.trans (herr _)
    -- the log files a note reaches depend on its level; each choice is one of these four
    split_ifs <;> dsimp only <;> with_reducible assumption

@[simp] theorem foldl_record_logging (ns : List Note) (s : Session) :
    (ns.foldl record s).logging = s.logging := by
  induction ns generalizing s with
  | nil => rfl
  | cons n ns ih => rw [List.foldl_cons, ih, record_logging]

/-- Notes grow at most the two log files of the session. -/
theorem foldl_record_grows (ns : List Note) (s : Session) :
    s.files.Grows (logKeys s.logging) (ns.foldl record s).files := by
  induction ns generalizing s with
  | nil => exact FileTree.Grows.refl _ _
  | cons n ns ih =>
    have hrest := ih (s.record n)
    rw [record_logging] at hrest
    exact (record_grows s n).trans hrest

/-- Without logging, notes leave the files as they are. -/
theorem foldl_record_files_of_none (ns : List Note) (s : Session) (h : s.logging = none) :
    (ns.foldl record s).files = s.files := by
  induction ns generalizing s with
  | nil => rfl
  | cons n ns ih =>
    rw [List.foldl_cons, ih (s.record n) (by rw [record_logging, h]),
      record_files_of_none s n h]

end Session

/-! ## Runs that only record notes -/

namespace Run

variable {α β : Type}

/-- From every session, `m` ends in `r` having done nothing but record `notes`. -/
def Records (m : Run α) (notes : List Note) (r : Except Failure α) : Prop :=
  ∀ s, m.run.run s = (r, notes.foldl Session.record s)

namespace Records

theorem pure (a : α) : Records (Pure.pure a) [] (.ok a) :=
  fun _ => rfl

theorem bind {m : Run α} {k : α → Run β} {a : α} {r : Except Failure β} {ns ns' : List Note}
    (hm : Records m ns (.ok a)) (hk : Records (k a) ns' r) : Records (m >>= k) (ns ++ ns') r := by
  intro s
  rw [List.foldl_append, ← hk]
  simp only [ExceptT.run_bind, StateT.run_bind, hm s]
  rfl

theorem bind_error {m : Run α} {k : α → Run β} {f : Failure} {ns : List Note}
    (hm : Records m ns (.error f)) : Records (m >>= k) ns (.error f) := by
  intro s
  simp only [ExceptT.run_bind, StateT.run_bind, hm s]
  rfl

theorem ofExcept (e : Except Failure α) : Records (Run.ofExcept e) [] e := by
  intro s
  cases e <;> rfl

/-- A context given to a step changes only its failure. -/
theorem within {m : Run α} {ns : List Note} {r : Except Failure α} (outer : String)
    (hm : Records m ns r) : Records (Run.within outer m) ns (r.mapError (·.within outer)) := by
  intro s
  simp only [Run.within, tryCatch, tryCatchThe, MonadExceptOf.tryCatch, ExceptT.tryCatch,
    ExceptT.run_mk, StateT.run_bind]
  erw [hm s]
  cases r <;> rfl

theorem note (l : Level) (o : Origin) (text : String) :
    Records (Run.note l o text) [⟨l, o, text⟩] (.ok ()) :=
  fun _ => rfl

theorem noteAll (notes : Array Note) : Records (Run.noteAll notes) notes.toList (.ok ()) := by
  obtain ⟨notes⟩ := notes
  unfold Run.noteAll
  erw [List.forM_toArray' notes _ rfl]
  induction notes with
  | nil => exact .pure ()
  | cons n l ih =>
    have hstep : Records (modify fun s : Session => s.record n) [n] (.ok ()) := fun _ => rfl
    exact hstep.bind ih

/-- A run fails having only recorded notes if it records notes up to a step that does so. -/
theorem fails_bind {m : Run α} {k : α → Run β} {a : α} {ns : List Note}
    (hm : Records m ns (.ok a)) (hk : ∃ f ns', Records (k a) ns' (.error f)) :
    ∃ f ns', Records (m >>= k) ns' (.error f) :=
  let ⟨f, ns', h⟩ := hk
  ⟨f, ns ++ ns', hm.bind h⟩

end Records

/-- A step that reads the files reads those of the session it starts from. -/
theorem files_bind (k : FileTree Content → Run α) (s : Session) :
    (Run.files >>= k).run.run s = (k s.files).run.run s := rfl

end Run

end EnergyModel
