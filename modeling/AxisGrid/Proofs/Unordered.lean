import AxisGrid.Proofs.Compact
import AxisGrid.Proofs.Reindex

/-! What does not depend on the order of axes and values. Two grids are the same if they have the same names and
declare the same entries, although only one of them is searched for the axes of the other: names are distinct, so
no axis is left over. Compact labels ask which values are shared, and this is told by the declared entries. -/
namespace AxisGrid

namespace Grid

variable {g h : Grid}

theorem eq_of_name {a b : Axis} (ha : a ∈ g.axes) (hb : b ∈ g.axes) (named : a.name = b.name) : a = b := by
  have found := find?_name ha
  rw [named, find?_name hb] at found
  exact (Option.some.inj found).symm

theorem declares_iff {a : Axis} (member : a ∈ g.axes) (value : String) :
    g.Declares (a.name, value) ↔ value ∈ a.values := by
  constructor
  · rintro ⟨b, hb, named, declared⟩
    cases eq_of_name hb member named
    exact declared
  · intro declared
    exact ⟨a, member, rfl, declared⟩

theorem shared_iff {value : String} :
    g.Shared value ↔ ∃ k l, k ≠ l ∧ g.Declares (k, value) ∧ g.Declares (l, value) := by
  constructor
  · rintro ⟨a, ha, b, hb, apart, first, second⟩
    refine ⟨a.name, b.name, mt (eq_of_name ha hb) apart, ?_, ?_⟩
    · exact (declares_iff ha value).mpr first
    · exact (declares_iff hb value).mpr second
  · rintro ⟨_, _, apart, ⟨a, ha, rfl, first⟩, ⟨b, hb, rfl, second⟩⟩
    exact ⟨a, ha, b, hb, mt (congrArg Axis.name) apart, first, second⟩

structure Agree (g h : Grid) : Prop where
  names : ∀ name, name ∈ g.names ↔ name ∈ h.names
  declared : ∀ e, g.Declares e ↔ h.Declares e

theorem agree_equivalence : Equivalence Agree where
  refl _ := ⟨fun _ => .rfl, fun _ => .rfl⟩
  symm agree := ⟨fun name => (agree.names name).symm, fun e => (agree.declared e).symm⟩
  trans first second :=
    ⟨fun name => (first.names name).trans (second.names name),
      fun e => (first.declared e).trans (second.declared e)⟩

theorem declares_of_alike (names : ∀ name, name ∈ g.names ↔ name ∈ h.names) (alike : Alike g.axes h.axes)
    {e : String × String} (declared : g.Declares e) : h.Declares e := by
  obtain ⟨a, ha, named, member⟩ := declared
  obtain ⟨b, hb, same, members⟩ := exists_counterpart (fun name => (names name).mp) alike ha
  exact ⟨b, hb, same.trans named, (members e.2).mp member⟩

theorem same_iff_agree : g.same h ↔ Agree g h := by
  rw [same_iff]
  constructor
  · rintro ⟨perm, alike⟩
    have names : ∀ name, name ∈ g.names ↔ name ∈ h.names := fun name => perm.mem_iff
    refine ⟨names, fun e => ⟨declares_of_alike names alike, ?_⟩⟩
    exact declares_of_alike (fun name => (names name).symm) alike.symm
  · intro agree
    refine ⟨names_perm agree.names, fun a ha b hb named value => ?_⟩
    rw [← declares_iff ha, agree.declared, named, declares_iff hb]

theorem Agree.shared (agree : Agree g h) (value : String) : g.Shared value ↔ h.Shared value := by
  simp only [shared_iff, agree.declared]

end Grid

theorem Point.compactLabel_congr {g h : Grid} (shared : ∀ value, g.Shared value ↔ h.Shared value) (p : Point) :
    p.compactLabel g = p.compactLabel h := by
  have tokens : compactToken g = compactToken h := by
    funext e
    unfold compactToken
    simp only [Grid.one_lt_count_iff, shared]
  unfold compactLabel
  rw [tokens]

namespace Grid

/-- Grids are the same exactly if they have the same names and under each name the same values. This is an
equivalence, and points have the same compact labels in grids that are the same. -/
theorem same_equivalence :
    (∀ g h : Grid, g.same h ↔ (∀ name, name ∈ g.names ↔ name ∈ h.names) ∧
      ∀ name value, g.Declares (name, value) ↔ h.Declares (name, value)) ∧
    (Equivalence fun g h : Grid => (g.same h : Prop)) ∧
    ∀ g h : Grid, g.same h → ∀ p : Point, p.compactLabel g = p.compactLabel h := by
  simp only [same_iff_agree]
  refine ⟨fun g h => ⟨?_, ?_⟩, agree_equivalence, fun g h agree => Point.compactLabel_congr agree.shared⟩
  · rintro ⟨names, declared⟩
    exact ⟨names, fun name value => declared (name, value)⟩
  · rintro ⟨names, declared⟩
    exact ⟨names, fun e => declared e.1 e.2⟩

theorem same_equivalence_turned :
    square.same turned ∧ turned.same square ∧ ¬ square.same overlapping ∧
      (Point.ofPairs [("x", "1"), ("z", "2")]).compactLabel turned = "x=1,z=2" ∧
      (Point.ofPairs [("x", "1"), ("z", "2")]).compactLabel square
        = (Point.ofPairs [("x", "1"), ("z", "2")]).compactLabel turned := by
  obtain ⟨-, equivalence, labels⟩ := same_equivalence
  have same : square.same turned := by decide
  exact ⟨same, equivalence.symm same, by decide, by decide, labels _ _ same _⟩

end Grid

end AxisGrid
