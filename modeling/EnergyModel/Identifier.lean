import EnergyModel.Fault

/-!
# Collections of identifiers

Technologies and commodities are named by identifiers. An `IdSet` keeps identifiers once each,
in the order first met; an `IdMap` gives each identifier a value, where a later value replaces
an earlier one but the identifier keeps its first place. Looking an identifier up gives back the
identifier held, or fails with an unknown-identifier problem; the comparison is exact.
-/

namespace EnergyModel

/-- Identifiers once each, in the order first met. -/
structure IdSet where
  ids : List String := []
  deriving Inhabited

/-- The set of a list's identifiers. -/
def IdSet.ofList (xs : List String) : IdSet :=
  ⟨xs.foldl (fun acc x => if acc.contains x then acc else acc ++ [x]) []⟩

/-- The number of identifiers. -/
def IdSet.size (s : IdSet) : Nat := s.ids.length

/-- The identifier held that equals the one asked for. -/
def IdSet.getId (s : IdSet) (id : String) : Except Problem String :=
  match s.ids.find? (· == id) with
  | some found => .ok found
  | none => .error (.unknownId id)

/-- Identifiers with values, each once, in the order first met. -/
structure IdMap (α : Type) where
  entries : List (String × α) := []
  deriving Inhabited

/-- Gives an identifier a value: a new one goes last, a known one keeps its place. -/
def IdMap.insert {α : Type} (m : IdMap α) (id : String) (v : α) : IdMap α :=
  if m.entries.any (·.1 == id) then ⟨m.entries.map fun e => if e.1 == id then (id, v) else e⟩
  else ⟨m.entries ++ [(id, v)]⟩

/-- The number of identifiers. -/
def IdMap.size {α : Type} (m : IdMap α) : Nat := m.entries.length

/-- The identifier held that equals the one asked for, with its value. -/
def IdMap.getId {α : Type} (m : IdMap α) (id : String) : Except Problem (String × α) :=
  match m.entries.find? (·.1 == id) with
  | some found => .ok found
  | none => .error (.unknownId id)

end EnergyModel
