import AxisGrid.Point.Label
import AxisGrid.Proofs.Grammar
import AxisGrid.Proofs.Index

/-! The label for a row of axes is the text of the entries that the row asks for. What it is read back as is
the point cut down to the names of the row, and a row that has no entry for an axis is refused for the first
such axis. One entry that is asked for by one axis is outside both laws: it is written without a name, and
nothing is looked up. -/
namespace AxisGrid.Point

def firstMissing? (p : Point) (axes : List Axis) : Option Axis := axes.find? fun a => !p.contains a.name

def Lone (p : Point) (axes : List Axis) : Prop := p.size = 1 ∧ axes.length = 1

/-- A row of axes is refused exactly if a point has no value for one of them, and then for the first such
axis. -/
def RefusesMissing (p : Point) (axes : List Axis) : Prop :=
  ((∃ e, p.labelFor axes = .error e) ↔ ∃ a ∈ axes, ¬ p.contains a.name) ∧
    ∀ e, p.labelFor axes = .error e → ∃ a, p.firstMissing? axes = some a ∧ e = .missingValue a.name

def entryFor (p : Point) (a : Axis) : Except PointError (String × String) :=
  match p.get? a.name with
  | some value => .ok (a.name, value)
  | none => .error (.missingValue a.name)

section Rows

variable {p : Point} {a : Axis} {axes : List Axis} {es : List (String × String)} {e : PointError}

theorem entryFor_eq_ok_iff {entry : String × String} :
    p.entryFor a = .ok entry ↔ entry.1 = a.name ∧ p.get? entry.1 = some entry.2 := by
  obtain ⟨name, value⟩ := entry
  constructor
  · intro found
    cases bound : p.get? a.name with
    | none =>
      simp only [entryFor, bound] at found
      cases found
    | some v =>
      simp only [entryFor, bound] at found
      cases found
      exact ⟨rfl, bound⟩
  · rintro ⟨rfl, bound⟩
    simp only [entryFor, bound]

theorem entryFor_eq_error_iff :
    p.entryFor a = .error e ↔ ¬ p.contains a.name ∧ e = .missingValue a.name := by
  rw [contains_iff, not_not, entryFor]
  cases p.get? a.name with
  | none => simp [eq_comm]
  | some value => simp

theorem exists_entryFor_iff : (∃ entry, p.entryFor a = .ok entry) ↔ p.contains a.name := by
  rw [contains_iff, entryFor]
  cases p.get? a.name <;> simp

theorem entriesFor_eq_mapM : p.entriesFor axes = axes.mapM p.entryFor := rfl

theorem entriesFor_eq_ok_iff :
    p.entriesFor axes = .ok es ↔
      es.map (·.1) = axes.map (·.name) ∧ ∀ entry ∈ es, p.get? entry.1 = some entry.2 := by
  rw [entriesFor_eq_mapM, mapM_eq_ok_iff]
  induction axes generalizing es with
  | nil => cases es <;> simp
  | cons a axes ih =>
    cases es with
    | nil => simp
    | cons entry es =>
      simp only [List.map_cons, List.cons.injEq, entryFor_eq_ok_iff, ih, List.forall_mem_cons]
      exact and_and_and_comm

theorem entriesFor_eq_error_iff :
    p.entriesFor axes = .error e ↔ ∃ a, p.firstMissing? axes = some a ∧ e = .missingValue a.name := by
  simp only [entriesFor_eq_mapM, mapM_eq_error_iff, entryFor_eq_error_iff, exists_entryFor_iff,
    firstMissing?, List.find?_eq_some_iff_append]
  constructor
  · rintro ⟨before, a, after, split, bound, missing, told⟩
    exact ⟨a, ⟨by simpa using missing, before, after, split, by simpa using bound⟩, told⟩
  · rintro ⟨a, ⟨missing, before, after, split, bound⟩, told⟩
    exact ⟨before, a, after, split, by simpa using bound, by simpa using missing, told⟩

theorem exists_firstMissing?_iff :
    (∃ a, p.firstMissing? axes = some a) ↔ ∃ a ∈ axes, ¬ p.contains a.name := by
  rw [← Option.isSome_iff_exists, firstMissing?, List.find?_isSome]
  simp

theorem ofPairs_eq_restrict (bound : ∀ entry ∈ es, p.get? entry.1 = some entry.2) :
    ofPairs es = p.restrict (es.map (·.1)) := by
  apply ext_get?
  intro name
  rw [get?_ofPairs, get?_restrict]
  by_cases named : name ∈ es.map (·.1)
  · obtain ⟨value, last⟩ := Option.ne_none_iff_exists'.mp (mt Table.last?_eq_none_iff.mp (not_not.mpr named))
    rw [if_pos named, last, bound _ (Table.mem_of_last?_eq_some last)]
  · rw [if_neg named, Table.last?_eq_none_iff.mpr named]

end Rows

section Labels

variable {p : Point} {axes : List Axis}

theorem labelFor_nil (p : Point) : p.labelFor [] = .ok Format.reservedName := by
  unfold labelFor
  cases p.entries with
  | nil => rfl
  | cons entry es => cases es <;> rfl

theorem exists_labelFor_of_lone (lone : p.Lone axes) :
    ∃ name value, p.entries = [(name, value)] ∧ p.labelFor axes = .ok value := by
  obtain ⟨⟨name, value⟩, entries⟩ := List.length_eq_one_iff.mp lone.1
  obtain ⟨a, rfl⟩ := List.length_eq_one_iff.mp lone.2
  exact ⟨name, value, entries, by simp only [labelFor, show p.entries = _ from entries]⟩

theorem labelFor_row (filled : axes ≠ []) (several : ¬ p.Lone axes) :
    p.labelFor axes = (p.entriesFor axes).map (writeEntries ',' '=') := by
  unfold labelFor
  split
  · rename_i entries
    exact absurd ⟨congrArg List.length entries, rfl⟩ several
  · exact absurd rfl filled
  · rfl

theorem labelFor_eq_error_iff {e : PointError} :
    p.labelFor axes = .error e ↔
      ¬ p.Lone axes ∧ ∃ a, p.firstMissing? axes = some a ∧ e = .missingValue a.name := by
  by_cases lone : p.Lone axes
  · obtain ⟨name, value, -, label⟩ := exists_labelFor_of_lone lone
    simp [label, lone]
  · by_cases none : axes = []
    · subst none
      simp [labelFor_nil, firstMissing?]
    · rw [labelFor_row none lone, map_eq_error_iff, entriesFor_eq_error_iff]
      exact (and_iff_right lone).symm

theorem exists_labelFor_eq_error_iff :
    (∃ e, p.labelFor axes = .error e) ↔ ¬ p.Lone axes ∧ ∃ a ∈ axes, ¬ p.contains a.name := by
  simp only [labelFor_eq_error_iff, exists_and_left, ← exists_firstMissing?_iff]
  refine and_congr_right fun _ => ⟨?_, ?_⟩
  · rintro ⟨e, a, first, -⟩
    exact ⟨a, first⟩
  · rintro ⟨a, first⟩
    exact ⟨_, a, first, rfl⟩

theorem labelFor_eq_ok_iff {text : String} (filled : axes ≠ []) (several : ¬ p.Lone axes) :
    p.labelFor axes = .ok text ↔ ∃ es, (es.map (·.1) = axes.map (·.name) ∧
      ∀ entry ∈ es, p.get? entry.1 = some entry.2) ∧ writeEntries ',' '=' es = text := by
  simp only [labelFor_row filled several, map_eq_ok_iff, entriesFor_eq_ok_iff]

theorem parse_labelFor {text : String} (clean : p.Clean .canonical) (several : ¬ p.Lone axes)
    (label : p.labelFor axes = .ok text) : parse text = .ok (p.restrict (axes.map (·.name))) := by
  by_cases none : axes = []
  · subst none
    rw [labelFor_nil] at label
    cases label
    have nothing : p.restrict [] = empty := ext_get? fun name => get?_restrict p [] name
    rw [List.map_nil, nothing]
    exact parseWith_reserved rfl
  · obtain ⟨es, ⟨names, bound⟩, rfl⟩ := (labelFor_eq_ok_iff none several).mp label
    have filled : es ≠ [] := by
      rintro rfl
      exact none (List.map_eq_nil_iff.mp names.symm)
    -- the names of the row are names of the point, so nothing need be known about the axes
    have carried : ∀ entry ∈ es, ',' ∉ entry.1.toList ∧ '=' ∉ entry.1.toList ∧ ',' ∉ entry.2.toList :=
      fun entry member => clean entry (mem_entries_iff.mpr (bound entry member))
    rw [← names, ← ofPairs_eq_restrict bound]
    exact parseWith_writeEntries (f := .canonical) rfl carried filled

theorem labelFor_names (several : p.size ≠ 1) (all : axes.map (·.name) = p.names) :
    p.labelFor axes = .ok p.identifier := by
  by_cases none : axes = []
  · subst none
    have nothing : p.entries = [] := List.map_eq_nil_iff.mp all.symm
    rw [labelFor_nil, identifier, render_empty nothing]
  · have filled : p.entries ≠ [] := by
      intro nothing
      have unnamed : p.names = [] := List.map_eq_nil_iff.mpr nothing
      exact none (List.map_eq_nil_iff.mp (all.trans unnamed))
    have bound : ∀ entry ∈ p.entries, p.get? entry.1 = some entry.2 :=
      fun _ member => mem_entries_iff.mp member
    apply (labelFor_eq_ok_iff none fun lone => several lone.1).mpr
    exact ⟨p.entries, ⟨all.symm, bound⟩, (render_eq_writeEntries (f := .canonical) filled).symm⟩

end Labels

/-- A row is refused as it should be unless one entry is asked for by one axis of another name. One entry for
one axis is written as its value, whatever the name. -/
theorem refusesMissing_iff (p : Point) (axes : List Axis) :
    (p.RefusesMissing axes ↔ ¬ (p.Lone axes ∧ ∃ a ∈ axes, ¬ p.contains a.name)) ∧
      (p.Lone axes → ∃ name value, p.entries = [(name, value)] ∧ p.labelFor axes = .ok value) := by
  have told (e : PointError) (failed : p.labelFor axes = .error e) :
      ∃ a, p.firstMissing? axes = some a ∧ e = .missingValue a.name := (labelFor_eq_error_iff.mp failed).2
  refine ⟨?_, exists_labelFor_of_lone⟩
  rw [RefusesMissing, and_iff_left told, exists_labelFor_eq_error_iff, and_iff_right_iff_imp, not_and']

/-- The value of `x` is written where `y` is asked for. -/
theorem not_refusesMissing_other_name :
    ¬ (ofPairs [("x", "1")]).RefusesMissing [⟨"y", ["2"], by decide, by decide⟩] ∧
      (ofPairs [("x", "1")]).labelFor [⟨"y", ["2"], by decide, by decide⟩] = .ok "1" := by
  have label : (ofPairs [("x", "1")]).labelFor [⟨"y", ["2"], by decide, by decide⟩] = .ok "1" := by decide
  refine ⟨fun rule => ?_, label⟩
  obtain ⟨e, failed⟩ := rule.1.mpr ⟨_, List.mem_singleton_self _, by decide⟩
  rw [label] at failed
  cases failed

/-- One entry for one axis apart, a label is read back as the point cut down to the axes that it was asked for,
in whatever order and how often they come. The axes of all names in order have the identifier as label. -/
theorem labelFor_projects (p : Point) (axes : List Axis) :
    ((∀ e ∈ p.entries, ',' ∉ e.1.toList ∧ '=' ∉ e.1.toList ∧ ',' ∉ e.2.toList) →
      ¬ (p.size = 1 ∧ axes.length = 1) → ∀ text, p.labelFor axes = .ok text →
        parse text = .ok (p.restrict (axes.map (·.name)))) ∧
    (p.size ≠ 1 → axes.map (·.name) = p.names → p.labelFor axes = .ok p.identifier) :=
  ⟨fun clean several _ label => parse_labelFor clean several label, labelFor_names⟩

/-- Two axes that are asked for twice and out of order, one entry being left out, and a point that is not read
back from its own identifier. -/
theorem labelFor_projects_repeated :
    (ofPairs [("x", "1"), ("y", "2=2"), ("z", "3")]).labelFor (Grid.turned.axes ++ Grid.turned.axes)
        = .ok "y=2=2,x=1,y=2=2,x=1" ∧
      parse "y=2=2,x=1,y=2=2,x=1" = .ok (ofPairs [("x", "1"), ("y", "2=2")]) ∧
      (ofPairs [("x", "1,2"), ("y", "")]).labelFor Grid.square.axes
        = .ok (ofPairs [("x", "1,2"), ("y", "")]).identifier := by
  have label : (ofPairs [("x", "1"), ("y", "2=2"), ("z", "3")]).labelFor (Grid.turned.axes ++ Grid.turned.axes)
      = .ok "y=2=2,x=1,y=2=2,x=1" := by decide
  have read := (labelFor_projects _ _).1 (by decide) (by decide) _ label
  have cut : (ofPairs [("x", "1"), ("y", "2=2"), ("z", "3")]).restrict
      ((Grid.turned.axes ++ Grid.turned.axes).map (·.name)) = ofPairs [("x", "1"), ("y", "2=2")] := by decide
  exact ⟨label, cut ▸ read, (labelFor_projects _ _).2 (by decide) (by decide)⟩

end AxisGrid.Point
