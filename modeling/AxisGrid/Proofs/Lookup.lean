import AxisGrid.Grid
import Mathlib.Data.List.NodupEquivFin

/-! What is declared keeps its order and is found again. Nothing may be repeated, so a value has one place on its
axis and a name one axis in its grid: to look at a place and to look for what stands there undo each other. What
is refused is refused for the first repetition. -/
namespace AxisGrid

namespace Axis

variable {a : Axis}

def places (a : Axis) : Fin a.size ≃ { value // value ∈ a.values } := a.nodup_values.getEquiv

theorem valueAt?_eq_places (a : Axis) (i : Fin a.size) : a.valueAt? i = some (a.places i).val :=
  List.getElem?_eq_getElem i.isLt

theorem indexOf?_eq_places (a : Axis) (value : { value // value ∈ a.values }) :
    a.indexOf? value.val = some (a.places.symm value).val := by
  rw [← valueAt?_eq_some_iff, valueAt?_eq_places, Equiv.apply_symm_apply]

theorem valueAt?_eq_none_iff {i : Nat} : a.valueAt? i = none ↔ a.size ≤ i := List.getElem?_eq_none_iff

end Axis

theorem Grid.find?_axisAt? (g : Grid) (i : Nat) : ((g.axisAt? i).bind fun a => g.find? a.name) = g.axisAt? i := by
  cases here : g.axisAt? i with
  | none => rfl
  | some a => exact find?_name (List.mem_of_getElem? here)

/-- An axis is refused for an empty name, else for the first value that is repeated, and a grid for the first name
that is. All else is declared as it stands. On an axis places and values are then in a one to one relation that is
read in both directions, and in a grid the name of the axis at a place leads back to it. -/
theorem declared_found :
    (∀ (name : String) (values : List String),
      name = "" ∧ Axis.declare name values = .error .emptyName ∨
      name ≠ "" ∧ (∃ value, FirstRepeat values value ∧
        Axis.declare name values = .error (.duplicateValue name value)) ∨
      name ≠ "" ∧ values.Nodup ∧ ∃ a, Axis.declare name values = .ok a ∧ a.name = name ∧ a.values = values ∧
        (∃ places : Fin a.size ≃ { value // value ∈ values },
          (∀ i : Fin a.size, a.valueAt? i = some (places i).val) ∧
          ∀ value, a.indexOf? value.val = some (places.symm value).val) ∧
        (∀ i, a.valueAt? i = none ↔ values.length ≤ i) ∧
        ∀ value, a.indexOf? value = none ↔ value ∉ values) ∧
    ∀ axes : List Axis,
      (∃ name, FirstRepeat (axes.map Axis.name) name ∧ Grid.ofAxes axes = .error (.duplicateAxis name)) ∨
      (axes.map Axis.name).Nodup ∧ ∃ g, Grid.ofAxes axes = .ok g ∧ g.axes = axes ∧
        (∀ i : Nat, g.axisAt? i = axes[i]?) ∧
        (∀ i, ((g.axisAt? i).bind fun a => g.find? a.name) = g.axisAt? i) ∧
        ∀ name, g.find? name = none ↔ ∀ a ∈ axes, a.name ≠ name := by
  constructor
  · intro name values
    by_cases unnamed : name = ""
    · subst unnamed
      exact .inl ⟨rfl, Axis.declare_eq_error_iff.mpr (.inl ⟨rfl, rfl⟩)⟩
    · by_cases distinct : values.Nodup
      · obtain ⟨a, declared⟩ := Axis.exists_declare_iff.mpr ⟨unnamed, distinct⟩
        obtain ⟨rfl, rfl⟩ := Axis.declare_eq_ok_iff.mp declared
        exact .inr (.inr ⟨unnamed, distinct, a, declared, rfl, rfl,
          ⟨a.places, a.valueAt?_eq_places, a.indexOf?_eq_places⟩,
          fun i => Axis.valueAt?_eq_none_iff, fun value => Axis.indexOf?_eq_none_iff⟩)
      · obtain ⟨value, first⟩ := exists_firstRepeat distinct
        have refused := Axis.declare_eq_error_iff.mpr (.inr ⟨unnamed, value, first, rfl⟩)
        exact .inr (.inl ⟨unnamed, value, first, refused⟩)
  · intro axes
    by_cases distinct : (axes.map Axis.name).Nodup
    · have declared : Grid.ofAxes axes = .ok ⟨axes, distinct⟩ := Grid.ofAxes_eq_ok_iff.mpr rfl
      exact .inr ⟨distinct, _, declared, rfl, fun i => rfl, Grid.find?_axisAt? _,
        fun name => Grid.find?_eq_none_iff⟩
    · obtain ⟨name, first⟩ := exists_firstRepeat distinct
      exact .inl ⟨name, first, Grid.ofAxes_eq_error_iff.mpr ⟨name, first, rfl⟩⟩

/-- Of two values that are repeated the one that is repeated first is told, not the one that stands first. -/
example : Axis.declare "x" ["a", "b", "b", "a"] = .error (.duplicateValue "x" "b") := rfl

end AxisGrid
