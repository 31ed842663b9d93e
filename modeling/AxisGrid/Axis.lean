import AxisGrid.DeclarationError
import AxisGrid.Distinct

/-!
An axis has a name and an ordered list of distinct values. The place of a value on the axis is its
digit: `indexOf?` and `valueAt?` are inverse to each other (`valueAt?_eq_some_iff`).
-/

namespace AxisGrid

/-- One dimension of a grid. -/
@[ext]
structure Axis where
  name : String
  values : List String
  name_ne_empty : name ≠ ""
  nodup_values : values.Nodup
  deriving DecidableEq

namespace Axis

/-- The axis of a name and values, unless the name is empty or a value stands twice. -/
def declare (name : String) (values : List String) : Except DeclarationError Axis :=
  if unnamed : name = "" then .error .emptyName
  else
    match found : firstRepeat? values with
    | some value => .error (.duplicateValue name value)
    | none => .ok ⟨name, values, unnamed, firstRepeat?_eq_none_iff.mp found⟩

def size (a : Axis) : Nat := a.values.length

def indexOf? (a : Axis) (value : String) : Option Nat := a.values.idxOf? value

def valueAt? (a : Axis) (index : Nat) : Option String := a.values[index]?

def contains (a : Axis) (value : String) : Bool := a.values.contains value

def display (a : Axis) : String :=
  a.name ++ "=\x7b" ++ ",".intercalate a.values ++ "\x7d"

/-- Whether two axes have one name and the same values, in whatever order. -/
def same (a b : Axis) : Bool :=
  a.name == b.name && a.values.length == b.values.length && a.values.all b.values.contains

/-- Declaring succeeds exactly on a name with distinct values, and keeps both as they are. -/
theorem declare_eq_ok_iff {name : String} {values : List String} {a : Axis} :
    declare name values = .ok a ↔ a.name = name ∧ a.values = values := by
  constructor
  · intro h
    simp only [declare] at h
    split at h
    · cases h
    · split at h
      · cases h
      · cases h
        exact ⟨rfl, rfl⟩
  · rintro ⟨rfl, rfl⟩
    have distinct := firstRepeat?_eq_none_iff.mpr a.nodup_values
    rw [declare, dif_neg a.name_ne_empty]
    split
    · rename_i found
      rw [distinct] at found
      cases found
    · rfl

theorem exists_declare_iff {name : String} {values : List String} :
    (∃ a, declare name values = .ok a) ↔ name ≠ "" ∧ values.Nodup := by
  simp only [declare_eq_ok_iff]
  constructor
  · rintro ⟨a, rfl, rfl⟩
    exact ⟨a.name_ne_empty, a.nodup_values⟩
  · rintro ⟨named, distinct⟩
    exact ⟨⟨name, values, named, distinct⟩, rfl, rfl⟩

/-- An axis is refused for want of a name first, then for the first value that stands behind an equal one. -/
theorem declare_eq_error_iff {name : String} {values : List String} {e : DeclarationError} :
    declare name values = .error e ↔
      name = "" ∧ e = .emptyName ∨ name ≠ "" ∧ ∃ value, FirstRepeat values value ∧ e = .duplicateValue name value := by
  by_cases unnamed : name = ""
  · simp [declare, unnamed, eq_comm]
  · rw [declare, dif_neg unnamed]
    simp only [unnamed, false_and, false_or, ne_eq, not_false_eq_true, true_and, ← firstRepeat?_eq_some_iff]
    split
    · rename_i value found
      simp [found, eq_comm]
    · rename_i none
      simp [none]

theorem valueAt?_eq_some_iff {a : Axis} {index : Nat} {value : String} :
    a.valueAt? index = some value ↔ a.indexOf? value = some index := by
  simp only [valueAt?, indexOf?, List.idxOf?, List.findIdx?_eq_some_iff_getElem,
    List.getElem?_eq_some_iff, beq_iff_eq]
  constructor
  · rintro ⟨inside, at_index⟩
    refine ⟨inside, at_index, fun j before same => ?_⟩
    have apart := List.pairwise_iff_getElem.mp a.nodup_values j index
      (Nat.lt_trans before inside) inside before
    exact apart (same.trans at_index.symm)
  · rintro ⟨inside, at_index, -⟩
    exact ⟨inside, at_index⟩

theorem indexOf?_eq_none_iff {a : Axis} {value : String} :
    a.indexOf? value = none ↔ value ∉ a.values := by
  simp [indexOf?]

end Axis

end AxisGrid
