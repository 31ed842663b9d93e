/-!
Cutting a row of characters in two at the first separator.
-/

namespace AxisGrid.Text

/-- What stands before and behind the first separator. -/
def cutAt? (sep : Char) : List Char → Option (List Char × List Char)
  | [] => none
  | c :: rest =>
    if c = sep then some ([], rest)
    else (cutAt? sep rest).map fun halves => (c :: halves.1, halves.2)

theorem cutAt?_eq_some_iff {sep : Char} {cs before after : List Char} :
    cutAt? sep cs = some (before, after) ↔ cs = before ++ sep :: after ∧ sep ∉ before := by
  induction cs generalizing before with
  | nil => simp [cutAt?]
  | cons c rest ih =>
    by_cases here : c = sep
    · subst here
      cases before with
      | nil => simp [cutAt?, eq_comm]
      | cons b before =>
        simp only [cutAt?, if_true, Option.some.injEq, Prod.mk.injEq, List.cons_append,
          List.cons.injEq, List.mem_cons, not_or]
        constructor
        · rintro ⟨h, -⟩
          cases h
        · rintro ⟨⟨rfl, -⟩, h, -⟩
          exact absurd rfl h
    · cases before with
      | nil => simp [cutAt?, here]
      | cons b before =>
        have behind : sep ≠ c := fun h => here h.symm
        simp only [cutAt?, here, if_false, Option.map_eq_some_iff, Prod.mk.injEq, List.cons.injEq,
          List.cons_append, List.mem_cons, not_or]
        constructor
        · rintro ⟨⟨x, y⟩, found, ⟨rfl, rfl⟩, rfl⟩
          have ⟨eq, new⟩ := ih.mp found
          exact ⟨⟨rfl, eq⟩, behind, new⟩
        · rintro ⟨⟨rfl, eq⟩, -, new⟩
          exact ⟨(before, after), ih.mpr ⟨eq, new⟩, ⟨rfl, rfl⟩, rfl⟩

theorem cutAt?_eq_none_iff {sep : Char} {cs : List Char} : cutAt? sep cs = none ↔ sep ∉ cs := by
  induction cs with
  | nil => simp [cutAt?]
  | cons c rest ih =>
    by_cases here : c = sep
    · simp [cutAt?, here]
    · have behind : sep ≠ c := fun h => here h.symm
      simp [cutAt?, here, behind, ih]

end AxisGrid.Text
