import AxisGrid.Cursor
import AxisGrid.Grid.Json
import AxisGrid.Proofs.Json.Decode

/-! A grid comes back from its text as it was, with every axis and every value in its place. Declaring anew
cannot fail, since an axis carries that its values are distinct and a grid that its names are. -/
namespace AxisGrid

open Json

namespace Axis

/-- The object of a name and values, whether or not they can be declared. -/
def documentOf (name : String) (values : List String) : Document :=
  .record [("name", .text name), ("values", .list (values.map .text))]

theorem whole_documentOf (name : String) (values : List String) : (documentOf name values).Whole := by
  refine .record (List.forall_mem_cons.mpr ⟨.text name, List.forall_mem_singleton.mpr ?_⟩)
  exact .list (List.forall_mem_map.mpr fun value _ => .text value)

theorem valuesOf_list (values : List String) : valuesOf (.list (values.map .text)) = .ok values :=
  Document.items_list fun _ _ => rfl

theorem parts_documentOf (name : String) (values : List String) :
    parts (documentOf name values) = .ok (name, values) := by
  have first : member (none, none) "name" (.text name) = .ok (some name, none) := rfl
  have second : member (some name, none) "values" (.list (values.map .text))
      = .ok (some name, some values) := by
    rw [member, if_neg (by decide), if_pos rfl, valuesOf_list]
    rfl
  have both : Document.members member (none, none)
      [(some "name", .text name), (some "values", .list (values.map .text))] true
      = .ok (some name, some values) := by
    refine Document.members_cons.mpr ⟨_, _, rfl, first, ?_⟩
    exact Document.members_cons.mpr ⟨_, _, rfl, second, Document.members_nil.mpr ⟨rfl, rfl⟩⟩
  simp [documentOf, Document.record, parts, both]

theorem ofDocument_toDocument (a : Axis) : ofDocument a.toDocument = .ok a := by
  have declared : declare a.name a.values = .ok a := declare_eq_ok_iff.mpr ⟨rfl, rfl⟩
  have read : parts a.toDocument = .ok (a.name, a.values) := parts_documentOf a.name a.values
  rw [ofDocument, read]
  exact congrArg (Except.mapError _) declared

end Axis

namespace Grid

theorem whole_toDocument (g : Grid) : g.toDocument.Whole :=
  .list (List.forall_mem_map.mpr fun a _ => Axis.whole_documentOf a.name a.values)

theorem ofDocument_toDocument (g : Grid) : ofDocument g.toDocument = .ok g := by
  have axes : g.toDocument.items Axis.ofDocument = .ok g.axes :=
    Document.items_list fun a _ => a.ofDocument_toDocument
  have declared : ofAxes g.axes = .ok g := ofAxes_eq_ok_iff.mpr rfl
  rw [ofDocument, axes]
  exact congrArg (Except.mapError _) declared

/-- A grid is read back from its text with its axes and their values in their order, so points have the
indexes they had, indexes stand for the points they stood for, and every walk gives the same answers. -/
theorem ofJson_toJson (g : Grid) :
    ∃ h, ofJson g.toJson = .ok h ∧
      h.axes.map (fun a => (a.name, a.values)) = g.axes.map (fun a => (a.name, a.values)) ∧
      (∀ p, h.indexReport p = g.indexReport p) ∧ (∀ i, h.point i = g.point i) ∧
      h.points = g.points ∧
      ∀ commands, (Cursor.Session.start h).map (fun s => (s.run commands).1)
        = (Cursor.Session.start g).map fun s => (s.run commands).1 := by
  have read : Reading.ofText g.toJson = ⟨g.toDocument, true⟩ := Reading.ofText_toText g.whole_toDocument
  have same : ofJson g.toJson = .ok g :=
    decode_eq_ok_iff.mpr (read.symm ▸ ⟨g.ofDocument_toDocument, rfl⟩)
  exact ⟨g, same, rfl, fun _ => rfl, fun _ => rfl, rfl, fun _ => rfl⟩

end Grid

end AxisGrid
