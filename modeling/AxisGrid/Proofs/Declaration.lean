import AxisGrid.Proofs.Json.Grid
import AxisGrid.Shape

/-! Names and values become a grid in three ways: the axes are declared in order and put together, the text
of an array is read, or a literal is built. All accept the same shapes and refuse the others for the same
fault. That is the fault of the first axis that cannot be declared, also where a name was repeated before it;
a repeated name is told only of axes that can all be declared. -/
namespace AxisGrid

open Json

def Grid.declare (shape : Shape) : Except DeclarationError Grid := do
  Grid.ofAxes (← shape.mapM fun a => Axis.declare a.1 a.2)

def Grid.shape (g : Grid) : Shape := g.axes.map fun a => (a.name, a.values)

namespace Shape

def Valid (shape : Shape) : Prop := (∀ a ∈ shape, a.1 ≠ "" ∧ a.2.Nodup) ∧ (shape.map (·.1)).Nodup

/-- What is wrong with a shape, as it is told of a literal and by itself. -/
inductive Fault (shape : Shape) : ShapeError → DeclarationError → Prop
  | axis {before after : Shape} {name : String} {values : List String} {e : DeclarationError}
      (split : shape = before ++ (name, values) :: after)
      (front : ∀ b ∈ before, ∃ a, Axis.declare b.1 b.2 = .ok a)
      (refused : Axis.declare name values = .error e) : Fault shape (.invalidAxis name e) e
  | names {before after : List String} {name : String}
      (all : ∀ b ∈ shape, ∃ a, Axis.declare b.1 b.2 = .ok a)
      (split : shape.map (·.1) = before ++ name :: after) (distinct : before.Nodup)
      (repeated : name ∈ before) : Fault shape (.invalidGrid (.duplicateAxis name)) (.duplicateAxis name)

/-- A text is an array with one item for each axis, in order, that gives its name and its values. -/
def Spells (text : String) (shape : Shape) : Prop :=
  ∃ items, Reading.ofText text = ⟨.list items, true⟩ ∧
    List.Forall₂ (fun d a => Axis.parts d = .ok a) items shape

def toDocument (shape : Shape) : Document := .list (shape.map fun a => Axis.documentOf a.1 a.2)

def toJson (shape : Shape) : String := shape.toDocument.toText

variable {shape : Shape} {axes : List Axis} {g : Grid} {e : DeclarationError} {told : ShapeError}
  {text : String}

section Declared

theorem declare_eq_ok_iff_eq {a : String × List String} {b : Axis} :
    Axis.declare a.1 a.2 = .ok b ↔ a = (b.name, b.values) := by
  rw [Axis.declare_eq_ok_iff, Prod.ext_iff, eq_comm, @eq_comm _ b.values]

theorem mapM_declare_eq_ok_iff :
    (shape.mapM fun a => Axis.declare a.1 a.2) = .ok axes ↔ shape = axes.map fun a => (a.name, a.values) := by
  simp only [mapM_eq_ok_iff_forall₂, declare_eq_ok_iff_eq]
  rw [← List.forall₂_map_right_iff, List.forall₂_eq_eq_eq]

theorem declare_eq_ok_iff_shape : Grid.declare shape = .ok g ↔ shape = g.shape := by
  simp only [Grid.declare, bind_eq_ok_iff, mapM_declare_eq_ok_iff, Grid.ofAxes_eq_ok_iff]
  constructor
  · rintro ⟨axes, rfl, rfl⟩
    rfl
  · rintro rfl
    exact ⟨g.axes, rfl, rfl⟩

theorem grid_eq_ok_iff_shape : shape.grid = .ok g ↔ shape = g.shape := by
  rw [← declare_eq_ok_iff_shape]
  simp only [grid, Grid.declare, bind_eq_ok_iff, mapM_eq_ok_iff_forall₂, mapError_eq_ok_iff]

theorem valid_shape (g : Grid) : g.shape.Valid := by
  constructor
  · exact List.forall_mem_map.mpr fun a _ => ⟨a.name_ne_empty, a.nodup_values⟩
  · rw [Grid.shape, List.map_map]
    exact g.nodup_names

end Declared

section Spelled

theorem ofJson_of_spells (spelled : Spells text shape) :
    Grid.ofJson text = (Grid.declare shape).mapError fun e => .data (.declaration e) := by
  obtain ⟨items, read, parts⟩ := spelled
  have axes : items.mapM Axis.ofDocument
      = (shape.mapM fun a => Axis.declare a.1 a.2).mapError fun e => .data (.declaration e) := by
    refine mapM_of_forall₂ (parts.imp fun d a part => ?_)
    rw [Axis.ofDocument, part]
    rfl
  have taken : (Document.list items).items Axis.ofDocument = items.mapM Axis.ofDocument := by
    rw [Document.list, Document.items]
    cases items.mapM Axis.ofDocument <;> rfl
  rw [Grid.ofJson, decode_of_ended read, Grid.ofDocument, taken, axes, Grid.declare, mapError_bind]

theorem spells_of_ofJson (read : Grid.ofJson text = .ok g) : Spells text g.shape := by
  obtain ⟨grid, ended⟩ := decode_eq_ok_iff.mp read
  simp only [Grid.ofDocument, bind_eq_ok_iff, mapError_eq_ok_iff, Grid.ofAxes_eq_ok_iff] at grid
  obtain ⟨axes, taken, rfl⟩ := grid
  obtain ⟨items, document, each⟩ := Document.items_eq_ok_iff.mp taken
  have reading : Reading.ofText text = ⟨.list items, true⟩ := by
    rw [← document, ← ended]
  refine ⟨items, reading, List.forall₂_map_right_iff.mpr (each.imp fun d a axis => ?_)⟩
  simp only [Axis.ofDocument, bind_eq_ok_iff, mapError_eq_ok_iff, declare_eq_ok_iff_eq] at axis
  obtain ⟨_, parts, rfl⟩ := axis
  exact parts

theorem spells_toJson (shape : Shape) : Spells shape.toJson shape := by
  have whole : shape.toDocument.Whole :=
    .list (List.forall_mem_map.mpr fun a _ => Axis.whole_documentOf a.1 a.2)
  refine ⟨_, Reading.ofText_toText whole, ?_⟩
  rw [List.forall₂_map_left_iff, List.forall₂_same]
  exact fun a _ => Axis.parts_documentOf a.1 a.2

end Spelled

section Refused

theorem forall_declared (declared : (shape.mapM fun a => Axis.declare a.1 a.2) = .ok axes) :
    ∀ b ∈ shape, ∃ a, Axis.declare b.1 b.2 = .ok a := by
  rw [mapM_declare_eq_ok_iff.mp declared]
  exact List.forall_mem_map.mpr fun a _ => ⟨a, declare_eq_ok_iff_eq.mpr rfl⟩

theorem names_of_declared (declared : (shape.mapM fun a => Axis.declare a.1 a.2) = .ok axes) :
    shape.map (·.1) = axes.map (·.name) := by
  rw [mapM_declare_eq_ok_iff.mp declared, List.map_map]
  rfl

theorem exists_fault (refused : ∀ g, Grid.declare shape ≠ .ok g) : ∃ told e, shape.Fault told e := by
  cases declared : shape.mapM fun a => Axis.declare a.1 a.2 with
  | error e =>
    obtain ⟨before, b, after, split, front, failed⟩ := mapM_eq_error_iff.mp declared
    exact ⟨_, e, .axis split front failed⟩
  | ok axes =>
    cases joined : Grid.ofAxes axes with
    | ok g => exact absurd (bind_eq_ok_iff.mpr ⟨axes, declared, joined⟩) (refused g)
    | error e =>
      obtain ⟨name, ⟨before, after, split, distinct, repeated⟩, -⟩ := Grid.ofAxes_eq_error_iff.mp joined
      rw [← names_of_declared declared] at split
      exact ⟨_, _, .names (forall_declared declared) split distinct repeated⟩

theorem exists_axes_refused {before after : List String} {name : String}
    (all : ∀ b ∈ shape, ∃ a, Axis.declare b.1 b.2 = .ok a)
    (split : shape.map (·.1) = before ++ name :: after) (distinct : before.Nodup) (repeated : name ∈ before) :
    ∃ axes, (shape.mapM fun a => Axis.declare a.1 a.2) = .ok axes ∧
      Grid.ofAxes axes = .error (.duplicateAxis name) := by
  cases declared : shape.mapM fun a => Axis.declare a.1 a.2 with
  | error e =>
    obtain ⟨before, b, after, rfl, -, failed⟩ := mapM_eq_error_iff.mp declared
    obtain ⟨a, accepted⟩ := all b List.mem_append_cons_self
    rw [accepted] at failed
    cases failed
  | ok axes =>
    rw [names_of_declared declared] at split
    exact ⟨axes, rfl, Grid.ofAxes_eq_error_iff.mpr ⟨name, ⟨_, _, split, distinct, repeated⟩, rfl⟩⟩

namespace Fault

theorem declare (fault : shape.Fault told e) : Grid.declare shape = .error e := by
  unfold Grid.declare
  cases fault with
  | axis split front refused =>
    exact bind_eq_error_iff.mpr (.inl (mapM_eq_error_iff.mpr ⟨_, _, _, split, front, refused⟩))
  | names all split distinct repeated =>
    exact bind_eq_error_iff.mpr (.inr (exists_axes_refused all split distinct repeated))

theorem grid (fault : shape.Fault told e) : shape.grid = .error told := by
  unfold Shape.grid
  cases fault with
  | axis split front refused =>
    refine bind_eq_error_iff.mpr (.inl (mapM_eq_error_iff.mpr ⟨_, _, _, split, ?_, ?_⟩))
    · simpa using front
    · exact mapError_eq_error_iff.mpr ⟨e, refused, rfl⟩
  | names all split distinct repeated =>
    obtain ⟨axes, declared, joined⟩ := exists_axes_refused all split distinct repeated
    refine bind_eq_error_iff.mpr (.inr ⟨axes, ?_, mapError_eq_error_iff.mpr ⟨_, joined, rfl⟩⟩)
    simpa only [mapM_eq_ok_iff_forall₂, mapError_eq_ok_iff] using declared

theorem message (fault : shape.Fault told e) : ∃ front, told.message = front ++ e.message := by
  cases fault with
  | axis => exact ⟨_, rfl⟩
  | names => exact ⟨_, rfl⟩

end Fault

theorem exists_grid (valid : shape.Valid) : ∃ g, Grid.declare shape = .ok g := by
  -- both faults go against a part of validity, so a shape without either is declared
  by_contra refused
  obtain ⟨told, e, fault⟩ := exists_fault (not_exists.mp refused)
  cases fault with
  | @axis before after name values e split front refused =>
    have member : (name, values) ∈ shape := split ▸ List.mem_append_cons_self
    obtain ⟨a, declared⟩ := Axis.exists_declare_iff.mpr (valid.1 _ member)
    rw [declared] at refused
    cases refused
  | names all split distinct repeated =>
    have names := valid.2
    rw [split] at names
    exact (List.nodup_append.mp names).2.2 _ repeated _ List.mem_cons_self rfl

end Refused

/-- A valid shape is declared, read and built as one grid, which has its names and values in their order. Any
other shape is refused in the three ways for one fault, whose message ends the one for literals. And no text
is read as a grid but the text of a valid shape. -/
theorem constructions_agree (shape : Shape) :
    (shape.Valid ∧ (∃ g, shape = g.shape ∧ Grid.declare shape = .ok g ∧ shape.grid = .ok g ∧
        ∀ text, Spells text shape → Grid.ofJson text = .ok g) ∨
      ¬ shape.Valid ∧ ∃ told e, shape.Fault told e ∧ (∃ front, told.message = front ++ e.message) ∧
        Grid.declare shape = .error e ∧ shape.grid = .error told ∧
        ∀ text, Spells text shape → Grid.ofJson text = .error (.data (.declaration e))) ∧
    Spells shape.toJson shape ∧
    ∀ text g, Grid.ofJson text = .ok g → Spells text g.shape ∧ g.shape.Valid := by
  refine ⟨?_, spells_toJson shape, fun text g read => ⟨spells_of_ofJson read, valid_shape g⟩⟩
  -- a grid is valid by its type, so what is left to show is that a shape that no grid has is at fault
  by_cases valid : shape.Valid
  · obtain ⟨g, declared⟩ := exists_grid valid
    have own := declare_eq_ok_iff_shape.mp declared
    refine .inl ⟨valid, g, own, declared, grid_eq_ok_iff_shape.mpr own, fun text spelled => ?_⟩
    rw [ofJson_of_spells spelled, declared]
    rfl
  · have refused (g : Grid) : Grid.declare shape ≠ .ok g := by
      intro declared
      rw [declare_eq_ok_iff_shape.mp declared] at valid
      exact valid (valid_shape g)
    obtain ⟨told, e, fault⟩ := exists_fault refused
    refine .inr ⟨valid, told, e, fault, fault.message, fault.declare, fault.grid, fun text spelled => ?_⟩
    rw [ofJson_of_spells spelled, fault.declare]
    rfl

/-- Of a name that is repeated first, a value that is repeated on a later axis and an axis without a name
behind both, the repeated value is told. -/
theorem constructions_agree_muddled :
    Grid.declare [("x", ["1"]), ("x", ["2"]), ("y", ["a", "b", "a"]), ("", [])]
        = .error (.duplicateValue "y" "a") ∧
      Shape.grid [("x", ["1"]), ("x", ["2"]), ("y", ["a", "b", "a"]), ("", [])]
        = .error (.invalidAxis "y" (.duplicateValue "y" "a")) ∧
      Grid.ofJson (toJson [("x", ["1"]), ("x", ["2"]), ("y", ["a", "b", "a"]), ("", [])])
        = .error (.data (.declaration (.duplicateValue "y" "a"))) := by
  obtain ⟨⟨valid, -⟩ | ⟨-, told, e, -, -, declared, built, read⟩, spelled, -⟩ :=
    constructions_agree [("x", ["1"]), ("x", ["2"]), ("y", ["a", "b", "a"]), ("", [])]
  · exact absurd valid.2 (by decide)
  · cases declared
    cases built
    exact ⟨rfl, rfl, read _ spelled⟩

end Shape

end AxisGrid
