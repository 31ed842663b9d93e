/-!
Repetition in a list. `firstRepeat?` names the first element that stands behind an equal one; it
finds nothing exactly when all elements are distinct (`firstRepeat?_eq_none_iff`).
-/

namespace AxisGrid

variable {α : Type} [DecidableEq α]

/-- The first element that was seen before or stands behind an equal one. -/
def firstRepeatAfter (seen : List α) : List α → Option α
  | [] => none
  | a :: rest => if a ∈ seen then some a else firstRepeatAfter (a :: seen) rest

def firstRepeat? (xs : List α) : Option α := firstRepeatAfter [] xs

/-- What is found stands behind distinct elements that were not seen before. -/
theorem split_of_firstRepeatAfter {seen xs : List α} {a : α} (found : firstRepeatAfter seen xs = some a) :
    ∃ before after, xs = before ++ a :: after ∧ before.Nodup ∧ (∀ b ∈ before, b ∉ seen) ∧
      (a ∈ seen ∨ a ∈ before) := by
  induction xs generalizing seen with
  | nil => cases found
  | cons x rest ih =>
    by_cases known : x ∈ seen
    · simp only [firstRepeatAfter, known, if_true, Option.some.injEq] at found
      subst found
      exact ⟨[], rest, rfl, .nil, by simp, .inl known⟩
    · simp only [firstRepeatAfter, known, if_false] at found
      obtain ⟨before, after, rfl, nodup, fresh, member⟩ := ih found
      have new : x ∉ before := fun h => fresh x h List.mem_cons_self
      refine ⟨x :: before, after, rfl, List.nodup_cons.mpr ⟨new, nodup⟩, ?_, ?_⟩
      · exact List.forall_mem_cons.mpr ⟨known, fun b hb h => fresh b hb (List.mem_cons_of_mem _ h)⟩
      · rcases member with h | h
        · rcases List.mem_cons.mp h with rfl | h
          · exact .inr List.mem_cons_self
          · exact .inl h
        · exact .inr (List.mem_cons_of_mem _ h)

theorem firstRepeatAfter_append {seen before : List α} {a : α} (nodup : before.Nodup)
    (fresh : ∀ b ∈ before, b ∉ seen) (member : a ∈ seen ∨ a ∈ before) (after : List α) :
    firstRepeatAfter seen (before ++ a :: after) = some a := by
  induction before generalizing seen with
  | nil =>
    have known : a ∈ seen := member.resolve_right List.not_mem_nil
    simp only [List.nil_append, firstRepeatAfter, known, if_true]
  | cons b before ih =>
    obtain ⟨new, nodup⟩ := List.nodup_cons.mp nodup
    obtain ⟨unseen, fresh⟩ := List.forall_mem_cons.mp fresh
    simp only [List.cons_append, firstRepeatAfter, unseen, if_false]
    apply ih nodup
    · intro c hc h
      rcases List.mem_cons.mp h with rfl | h
      · exact new hc
      · exact fresh c hc h
    · rcases member with h | h
      · exact .inl (List.mem_cons_of_mem _ h)
      · rcases List.mem_cons.mp h with rfl | h
        · exact .inl List.mem_cons_self
        · exact .inr h

theorem firstRepeatAfter_eq_some_iff {seen xs : List α} {a : α} :
    firstRepeatAfter seen xs = some a ↔
      ∃ before after, xs = before ++ a :: after ∧ before.Nodup ∧ (∀ b ∈ before, b ∉ seen) ∧
        (a ∈ seen ∨ a ∈ before) := by
  constructor
  · exact split_of_firstRepeatAfter
  · rintro ⟨before, after, rfl, nodup, fresh, member⟩
    exact firstRepeatAfter_append nodup fresh member after

/-- The first element of a row that stands behind an equal one: all before it are distinct, and it is among them. -/
def FirstRepeat {α : Type} (xs : List α) (a : α) : Prop :=
  ∃ before after, xs = before ++ a :: after ∧ before.Nodup ∧ a ∈ before

theorem firstRepeat?_eq_some_iff {xs : List α} {a : α} : firstRepeat? xs = some a ↔ FirstRepeat xs a := by
  simp [firstRepeat?, firstRepeatAfter_eq_some_iff, FirstRepeat]

theorem firstRepeatAfter_eq_none_iff {seen xs : List α} :
    firstRepeatAfter seen xs = none ↔ xs.Nodup ∧ ∀ x ∈ xs, x ∉ seen := by
  induction xs generalizing seen with
  | nil => simp [firstRepeatAfter]
  | cons x rest ih =>
    by_cases known : x ∈ seen
    · simp [firstRepeatAfter, known]
    · simp only [firstRepeatAfter, known, if_false, ih, List.nodup_cons, List.mem_cons, not_or]
      constructor
      · rintro ⟨nodup, fresh⟩
        refine ⟨⟨fun h => (fresh x h).1 rfl, nodup⟩, ?_⟩
        rintro y (rfl | hy)
        · exact known
        · exact (fresh y hy).2
      · rintro ⟨⟨new, nodup⟩, fresh⟩
        exact ⟨nodup, fun y hy => ⟨fun h => new (h ▸ hy), fresh y (.inr hy)⟩⟩

theorem firstRepeat?_eq_none_iff {xs : List α} : firstRepeat? xs = none ↔ xs.Nodup := by
  simp [firstRepeat?, firstRepeatAfter_eq_none_iff]

theorem exists_firstRepeat {xs : List α} (repeated : ¬ xs.Nodup) : ∃ a, FirstRepeat xs a := by
  cases found : firstRepeat? xs with
  | none => exact absurd (firstRepeat?_eq_none_iff.mp found) repeated
  | some a => exact ⟨a, firstRepeat?_eq_some_iff.mp found⟩

end AxisGrid
