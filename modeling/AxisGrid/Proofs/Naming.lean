import AxisGrid.Proofs.Identifier
import AxisGrid.Proofs.Product

/-! A point over a grid, its identifier and its index name each other. Where the format can carry the
names and values of a grid, different points have different identifiers and each is read back to the
index it has. Texts that are read as points over the grid can be told apart by the one exactly as by
the other, also if they are not written in the canonical form. -/
namespace AxisGrid

namespace Point

theorem render_inj {f : Format} {p q : Point} (usable : f.check = .ok ()) (hp : p.Clean f) (hq : q.Clean f)
    (same : p.render f = q.render f) : p = q := by
  have read := parseWith_render usable hp
  rw [same, parseWith_render usable hq] at read
  exact (Except.ok.inj read).symm

theorem clean_of_over {f : Format} {g : Grid} {p : Point}
    (names : ∀ name ∈ g.names, f.entrySep ∉ name.toList ∧ f.pairSep ∉ name.toList)
    (values : ∀ a ∈ g.axes, ∀ value ∈ a.values, f.entrySep ∉ value.toList) (on_grid : p.Over g) :
    p.Clean f := by
  intro e member
  obtain ⟨a, ha, same, declared⟩ := on_grid.declares member
  obtain ⟨entry, pair⟩ := same ▸ names a.name (List.mem_map_of_mem ha)
  exact ⟨entry, pair, values a ha _ declared⟩

end Point

namespace Grid

variable {g : Grid} {n : Nat}

theorem nodup_identifiers (clean : ∀ p : Point, p.Over g → p.Clean .canonical)
    (limit : g.radices.prod ≤ Word.bound) :
    (((List.range g.radices.prod).map g.pointAt).map Point.identifier).Nodup := by
  refine List.Nodup.map_on (fun p hp q hq same => ?_) (nodup_points limit)
  have clean_p := clean p ((mem_points_iff limit).mp hp)
  have clean_q := clean q ((mem_points_iff limit).mp hq)
  exact Point.render_inj rfl clean_p clean_q same

theorem parse_identifier_index {i : Nat} (clean : (g.pointAt i).Clean .canonical)
    (below : i < g.radices.prod) (limit : i < Word.bound) :
    (Point.parse (g.pointAt i).identifier).bind g.index = .ok i := by
  have read : Point.parse (g.pointAt i).identifier = .ok (g.pointAt i) := Point.parseWith_render rfl clean
  rw [read]
  exact index_pointAt below limit

/-- On a grid that the canonical format can carry, the identifiers of the points are distinct and each
is read back to a point with the index of its place. On any grid two texts that are read as points over
it have one index exactly if these points have one identifier, which is that of the point at the index. -/
theorem identifier_index (counted : g.count? = some n) :
    ((∀ name ∈ g.names, ',' ∉ name.toList ∧ '=' ∉ name.toList) →
      (∀ a ∈ g.axes, ∀ value ∈ a.values, ',' ∉ value.toList) →
      ∃ points : List Point, g.points = .ok points ∧ points.length = n ∧
        (points.map Point.identifier).Nodup ∧
        ∀ i, i < n → ∃ text, (points.map Point.identifier)[i]? = some text ∧
          (Point.parse text).bind g.index = .ok i) ∧
    ∀ (s t : String) (p q : Point), Point.parse s = .ok p → Point.parse t = .ok q →
      p.Over g → q.Over g → ∃ i j, g.index p = .ok i ∧ g.index q = .ok j ∧
        (i = j ↔ p.identifier = q.identifier) ∧ (g.point i).map Point.identifier = .ok p.identifier := by
  have small := count?_lt counted
  obtain ⟨-, total⟩ := count?_eq_some_iff.mp counted
  have limit : g.radices.prod ≤ Word.bound := total ▸ Nat.le_of_lt small
  constructor
  · intro names values
    have clean : ∀ p : Point, p.Over g → p.Clean .canonical := fun p => Point.clean_of_over names values
    refine ⟨_, points_eq counted, by simp, ?_, fun i below => ?_⟩
    · rw [total]
      exact nodup_identifiers clean limit
    · have below' : i < g.radices.prod := total ▸ below
      refine ⟨(g.pointAt i).identifier, by simp [below], ?_⟩
      exact parse_identifier_index (clean _ (over_pointAt below')) below' (Nat.lt_trans below small)
  · intro s t p q read read' on_grid on_grid'
    obtain ⟨i, below, numbered, rfl⟩ := exists_pointAt limit on_grid
    obtain ⟨j, below', numbered', rfl⟩ := exists_pointAt limit on_grid'
    refine ⟨i, j, numbered, numbered', ⟨fun same => same ▸ rfl, fun same => ?_⟩, ?_⟩
    · have one := Point.render_inj rfl (Point.clean_of_parseWith read) (Point.clean_of_parseWith read') same
      rw [one, numbered'] at numbered
      exact (Except.ok.inj numbered).symm
    · rw [point_of_lt counted (total ▸ below)]
      rfl

theorem identifier_index_disordered :
    crossed.count? = some 6 ∧
    (∃ points : List Point, crossed.points = .ok points ∧ points.length = 6 ∧
      (points.map Point.identifier).Nodup ∧
      ∀ i, i < 6 → ∃ text, (points.map Point.identifier)[i]? = some text ∧
        (Point.parse text).bind crossed.index = .ok i) ∧
    ∃ p q : Point, Point.parse "y=1,,x=a" = .ok p ∧ Point.parse "x=c,y=1,x=a" = .ok q ∧
      crossed.index p = .ok 4 ∧ crossed.index q = .ok 4 ∧ p.identifier = q.identifier ∧
      (crossed.point 4).map Point.identifier = .ok "x=a,y=1" := by
  have counted : crossed.count? = some 6 := by decide
  obtain ⟨carried, told⟩ := identifier_index counted
  have named : crossed.pointAt 4 = .ofPairs [("x", "a"), ("y", "1")] := by decide
  have on_grid : (crossed.pointAt 4).Over crossed := over_pointAt (by decide)
  have read : Point.parse "y=1,,x=a" = .ok (crossed.pointAt 4) := by rw [named]; rfl
  have read' : Point.parse "x=c,y=1,x=a" = .ok (crossed.pointAt 4) := by rw [named]; rfl
  have numbered : crossed.index (crossed.pointAt 4) = .ok 4 := index_pointAt (by decide) (by decide)
  obtain ⟨i, j, at_i, at_j, agree, back⟩ := told _ _ _ _ read read' on_grid on_grid
  cases numbered.symm.trans at_i
  cases numbered.symm.trans at_j
  refine ⟨counted, carried (by decide) (by decide), _, _, read, read', numbered, numbered, agree.mp rfl, ?_⟩
  rw [back, named]
  rfl

end Grid

end AxisGrid
