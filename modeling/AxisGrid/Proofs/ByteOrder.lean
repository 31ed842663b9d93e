import AxisGrid.Text.Encoding

/-! Texts in the order of their characters are in the order of their bytes. The bytes of two characters
always differ at a place that both have, so neither is the start of the other and the order of the
first two characters that differ decides. -/
namespace AxisGrid.Text

/-- Two lists differ at a place that both have, and the first is smaller at the first such place. -/
def Diverges {α : Type} [LT α] : List α → List α → Prop
  | x :: xs, y :: ys => x < y ∨ x = y ∧ Diverges xs ys
  | _, _ => False

theorem Diverges.map {α β : Type} [LT α] [LT β] {f : α → β} {us vs : List α} (h : Diverges us vs)
    (grows : ∀ u, ∀ v ∈ vs, u < v → f u < f v) : Diverges (us.map f) (vs.map f) := by
  induction us generalizing vs with
  | nil => cases h
  | cons u us ih =>
    cases vs with
    | nil => cases h
    | cons v vs =>
      rcases h with less | ⟨rfl, rest⟩
      · exact .inl (grows u v List.mem_cons_self less)
      · exact .inr ⟨rfl, ih rest fun u' v' member => grows u' v' (List.mem_cons_of_mem u member)⟩

/-- An order that puts all pairs as a total order puts the ascending ones is that order. -/
theorem eq_compare_of_grows {α : Type} [Ord α] [Std.OrientedOrd α] [Std.LawfulEqOrd α] {f : α → α → Ordering}
    [Std.OrientedCmp f] (grows : ∀ a b, compare a b = .lt → f a b = .lt) (a b : α) : f a b = compare a b := by
  cases order : compare a b with
  | lt => exact grows a b order
  | eq =>
    cases Std.LawfulEqCmp.eq_of_compare order
    exact Std.ReflCmp.compare_self
  | gt => exact Std.OrientedCmp.gt_of_lt (grows b a (Std.OrientedCmp.lt_of_gt order))

theorem compareLex_append_left {α : Type} {f : α → α → Ordering} [Std.ReflCmp f] (word xs ys : List α) :
    List.compareLex f (word ++ xs) (word ++ ys) = List.compareLex f xs ys := by
  induction word with
  | nil => rfl
  | cons x word ih =>
    have equal : f x x = .eq := Std.ReflCmp.compare_self
    rw [List.cons_append, List.cons_append, List.compareLex_cons_cons, equal, ih]
    rfl

section Compare

variable {α β : Type} [Ord β] [LT β] [LE β] [Std.LawfulOrderOrd β] [Std.LawfulOrderLT β] [Std.LawfulEqOrd β]

theorem compare_list_eq_lt_iff {xs ys : List β} : compare xs ys = .lt ↔ xs < ys := by
  induction xs generalizing ys with
  | nil => cases ys <;> simp
  | cons x xs ih =>
    cases ys with
    | nil => simp
    | cons y ys =>
      rw [List.compare_cons_cons, Ordering.then_eq_lt, List.cons_lt_cons_iff, Std.compare_eq_lt, ih,
        Std.LawfulEqCmp.compare_eq_iff_eq]

theorem Diverges.compare_append {xs ys : List β} (h : Diverges xs ys) (s t : List β) :
    compare (xs ++ s) (ys ++ t) = .lt := by
  induction xs generalizing ys with
  | nil => cases h
  | cons x xs ih =>
    cases ys with
    | nil => cases h
    | cons y ys =>
      rw [List.cons_append, List.cons_append, List.compare_cons_cons, Ordering.then_eq_lt, Std.compare_eq_lt,
        Std.LawfulEqCmp.compare_eq_iff_eq]
      exact h.imp_right fun rest => ⟨rest.1, ih rest.2⟩

theorem Diverges.compare_lt {xs ys : List β} (h : Diverges xs ys) : compare xs ys = .lt := by
  have whole := h.compare_append [] []
  rwa [List.append_nil, List.append_nil] at whole

/-- Where the words of different letters diverge, the texts in code are compared letter by letter. -/
theorem compare_flatMap [Std.OrientedOrd β] {code : α → List β} (words : ∀ a, code a ≠ [])
    (apart : ∀ a b, a ≠ b → Diverges (code a) (code b) ∨ Diverges (code b) (code a)) (xs ys : List α) :
    compare (xs.flatMap code) (ys.flatMap code) = List.compareLex (fun a b => compare (code a) (code b)) xs ys := by
  induction xs generalizing ys with
  | nil =>
    cases ys with
    | nil => rfl
    | cons b ys =>
      obtain ⟨x, rest, word⟩ := List.exists_cons_of_ne_nil (words b)
      rw [List.flatMap_cons, word]
      rfl
  | cons a xs ih =>
    cases ys with
    | nil =>
      obtain ⟨x, rest, word⟩ := List.exists_cons_of_ne_nil (words a)
      rw [List.flatMap_cons, word]
      rfl
    | cons b ys =>
      rw [List.flatMap_cons, List.flatMap_cons, List.compareLex_cons_cons]
      by_cases same : a = b
      · subst same
        have equal : compare (code a) (code a) = .eq := Std.ReflCmp.compare_self
        rw [equal, ← ih]
        exact compareLex_append_left (code a) _ _
      · rcases apart a b same with first | second
        · rw [first.compare_append, first.compare_lt]
          rfl
        · rw [Std.OrientedCmp.gt_of_lt (second.compare_append _ _),
            Std.OrientedCmp.gt_of_lt second.compare_lt]
          rfl

end Compare

def utf8Units (v : Nat) : List Nat :=
  if v ≤ 0x7f then [v]
  else if v ≤ 0x7ff then [v / 64 % 32 + 0xc0, v % 64 + 0x80]
  else if v ≤ 0xffff then [v / 4096 % 16 + 0xe0, v / 64 % 64 + 0x80, v % 64 + 0x80]
  else [v / 262144 % 8 + 0xf0, v / 4096 % 64 + 0x80, v / 64 % 64 + 0x80, v % 64 + 0x80]

theorem utf8EncodeChar_eq (c : Char) :
    String.utf8EncodeChar c = (utf8Units c.val.toNat).map UInt8.ofNat := by
  simp only [String.utf8EncodeChar, utf8Units, apply_ite (List.map UInt8.ofNat), List.map_cons, List.map_nil]

theorem utf8Units_lt {v u : Nat} (member : u ∈ utf8Units v) : u < 256 := by
  unfold utf8Units at member
  split at member
  · simp only [List.mem_singleton] at member
    omega
  · split at member
    · simp only [List.mem_cons, List.not_mem_nil, or_false] at member
      omega
    · split at member <;> simp only [List.mem_cons, List.not_mem_nil, or_false] at member <;> omega

theorem utf8Units_diverge {v w : Nat} (less : v < w) (limit : w < 0x110000) :
    Diverges (utf8Units v) (utf8Units w) := by
  -- quotients by 64 of each other, so that the digits of one number are tied together
  have sextets (n : Nat) : n / 4096 = n / 64 / 64 ∧ n / 262144 = n / 64 / 64 / 64 := by omega
  simp only [utf8Units, sextets]
  repeat' split
  all_goals simp only [Diverges]
  all_goals omega

theorem toNat_lt_limit (c : Char) : c.toNat < 0x110000 := by
  have valid : c.toNat.isValidChar := c.valid
  unfold Nat.isValidChar at valid
  omega

theorem utf8EncodeChar_diverges (c d : Char) (less : c < d) :
    Diverges (String.utf8EncodeChar c) (String.utf8EncodeChar d) := by
  rw [utf8EncodeChar_eq, utf8EncodeChar_eq]
  apply (utf8Units_diverge less (toNat_lt_limit d)).map
  intro u v member below
  have byte := utf8Units_lt member
  rw [UInt8.lt_iff_toNat_lt, UInt8.toNat_ofNat', UInt8.toNat_ofNat']
  omega

theorem lt_or_gt_of_char_ne {c d : Char} (apart : c ≠ d) : c < d ∨ d < c := by
  have numbers : c.toNat ≠ d.toNat := fun same => apart (Char.toNat_inj.mp same)
  rcases Nat.lt_or_gt_of_ne numbers with less | greater
  · exact .inl less
  · exact .inr greater

instance lawfulOrderOrd_char : Std.LawfulOrderOrd Char where
  isLE_compare c d := by
    have greater : compare d c = .lt ↔ d < c := compareOfLessAndEq_eq_lt
    rw [Ordering.isLE_iff_ne_gt, Std.OrientedCmp.gt_iff_lt, greater, Char.not_lt]
  isGE_compare c d := by
    have less : compare c d = .lt ↔ c < d := compareOfLessAndEq_eq_lt
    rw [Ordering.isGE_iff_ne_lt, less, Char.not_lt]

section Texts

variable (s t : String)

theorem compare_toList : compare s.toList t.toList = compare s t := by
  apply eq_compare_of_grows (f := compareOn String.toList)
  intro s t less
  apply compare_list_eq_lt_iff.mpr
  exact String.lt_iff.mp (compareOfLessAndEq_eq_lt.mp less)

theorem compare_code {β : Type} [Ord β] [LT β] [LE β] [Std.LawfulOrderOrd β] [Std.LawfulOrderLT β]
    [Std.LawfulEqOrd β] [Std.OrientedOrd β] {code : Char → List β} (words : ∀ c, code c ≠ [])
    (diverge : ∀ c d, c < d → Diverges (code c) (code d)) :
    compare (s.toList.flatMap code) (t.toList.flatMap code) = compare s t := by
  have single (c d : Char) : compare (code c) (code d) = compare c d := by
    apply eq_compare_of_grows (f := compareOn code)
    intro c d less
    exact (diverge c d (Std.compare_eq_lt.mp less)).compare_lt
  have apart (c d : Char) (differ : c ≠ d) : Diverges (code c) (code d) ∨ Diverges (code d) (code c) :=
    (lt_or_gt_of_char_ne differ).imp (diverge c d) (diverge d c)
  have letters : (fun c d : Char => compare (code c) (code d)) = compare := by
    funext c d
    exact single c d
  rw [compare_flatMap words apart, letters, ← compare_toList]
  rfl

theorem compare_utf8 : compare (utf8 s) (utf8 t) = compare s t :=
  compare_code s t (fun _ => String.utf8EncodeChar_ne_nil) utf8EncodeChar_diverges

end Texts

theorem compare_eq_lt_iff {s t : String} : compare s t = .lt ↔ utf8 s < utf8 t := by
  rw [← compare_utf8]
  exact compare_list_eq_lt_iff

end AxisGrid.Text
