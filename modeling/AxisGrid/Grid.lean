import AxisGrid.Axis
import AxisGrid.Word

/-!
A grid is an ordered list of axes with distinct names. The order of the axes is the order of the
digits of an index, first axis most significant.
-/

namespace AxisGrid

/-- A list of axes with distinct names. -/
@[ext]
structure Grid where
  axes : List Axis
  nodup_names : (axes.map (·.name)).Nodup
  deriving DecidableEq

namespace Grid

/-- The grid of a list of axes, unless a name stands twice. -/
def ofAxes (axes : List Axis) : Except DeclarationError Grid :=
  match found : firstRepeat? (axes.map (·.name)) with
  | some name => .error (.duplicateAxis name)
  | none => .ok ⟨axes, firstRepeat?_eq_none_iff.mp found⟩

def names (g : Grid) : List String := g.axes.map (·.name)

def find? (g : Grid) (name : String) : Option Axis := g.axes.find? (·.name == name)

def axisAt? (g : Grid) (index : Nat) : Option Axis := g.axes[index]?

/-- The number of points, multiplied up from the first axis and given up once it does not fit. -/
def count? (g : Grid) : Option Nat :=
  g.axes.foldlM (fun n a => Word.mul? n a.size) 1

/-- Whether two grids have the same axes up to the order of axes and of values. -/
def same (g h : Grid) : Bool :=
  g.axes.length == h.axes.length &&
    g.axes.all fun a => (h.find? a.name).any a.same

theorem ofAxes_eq_ok_iff {axes : List Axis} {g : Grid} : ofAxes axes = .ok g ↔ g.axes = axes := by
  constructor
  · intro h
    simp only [ofAxes] at h
    split at h
    · cases h
    · cases h
      rfl
  · rintro rfl
    have distinct := firstRepeat?_eq_none_iff.mpr g.nodup_names
    simp only [ofAxes]
    split
    · rename_i found
      rw [distinct] at found
      cases found
    · rfl

/-- Axes are refused for the first name that stands behind an equal one. -/
theorem ofAxes_eq_error_iff {axes : List Axis} {e : DeclarationError} :
    ofAxes axes = .error e ↔ ∃ name, FirstRepeat (axes.map (·.name)) name ∧ e = .duplicateAxis name := by
  simp only [ofAxes, ← firstRepeat?_eq_some_iff]
  split
  · rename_i name found
    simp [found, eq_comm]
  · rename_i none
    simp [none]

theorem find?_eq_some_iff {g : Grid} {name : String} {a : Axis} :
    g.find? name = some a ↔ a ∈ g.axes ∧ a.name = name := by
  have unique : ∀ axes : List Axis, (axes.map (·.name)).Nodup →
      (axes.find? (·.name == name) = some a ↔ a ∈ axes ∧ a.name = name) := by
    intro axes
    induction axes with
    | nil => simp
    | cons b rest ih =>
      intro h
      have ⟨new, tail⟩ := List.nodup_cons.mp h
      by_cases here : b.name = name
      · simp only [List.find?_cons, here, beq_self_eq_true, Option.some.injEq, List.mem_cons]
        constructor
        · rintro rfl
          exact ⟨.inl rfl, here⟩
        · rintro ⟨rfl | later, named⟩
          · rfl
          · exact absurd (List.mem_map.mpr ⟨a, later, named.trans here.symm⟩) new
      · have other : (b.name == name) = false := by simpa using here
        simp only [List.find?_cons, other, ih tail, List.mem_cons]
        constructor
        · rintro ⟨member, named⟩
          exact ⟨.inr member, named⟩
        · rintro ⟨rfl | member, named⟩
          · exact absurd named here
          · exact ⟨member, named⟩
  exact unique g.axes g.nodup_names

theorem find?_name {g : Grid} {a : Axis} (member : a ∈ g.axes) : g.find? a.name = some a :=
  find?_eq_some_iff.mpr ⟨member, rfl⟩

theorem find?_eq_none_iff {g : Grid} {name : String} : g.find? name = none ↔ ∀ a ∈ g.axes, a.name ≠ name := by
  simp [find?]

end Grid

end AxisGrid
