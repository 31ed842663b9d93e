import AxisGrid.Proofs.ByteOrder
import AxisGrid.Proofs.Order
import AxisGrid.Table.Lemmas

/-! The order of points is the same whether texts are compared by their bytes, by the numbers of their
characters or as they are, and with it the order of the names in a point. Sixteen-bit units would give another
order, since a character above U+FFFF begins with a unit below U+E000. -/
namespace AxisGrid

namespace Text

def scalars (text : String) : List Nat := text.toList.map Char.toNat

theorem compare_scalars (s t : String) : compare (scalars s) (scalars t) = compare s t := by
  unfold scalars
  rw [List.map_eq_flatMap, List.map_eq_flatMap]
  apply compare_code
  · exact fun c => List.cons_ne_nil c.toNat []
  · exact fun c d less => .inl less

/-- One unit for a number that fits, and a pair of surrogates for a larger one. -/
def utf16Units (v : Nat) : List Nat :=
  if v < 0x10000 then [v]
  else [0xd800 + (v - 0x10000) / 0x400, 0xdc00 + (v - 0x10000) % 0x400]

def utf16EncodeChar (c : Char) : List UInt16 := (utf16Units c.toNat).map UInt16.ofNat

def utf16 (text : String) : List UInt16 := text.toList.flatMap utf16EncodeChar

theorem utf16Units_ne_nil (v : Nat) : utf16Units v ≠ [] := by
  unfold utf16Units
  split <;> exact List.cons_ne_nil _ _

theorem utf16Units_lt {v u : Nat} (limit : v < 0x110000) (member : u ∈ utf16Units v) : u < 0x10000 := by
  unfold utf16Units at member
  split at member <;> simp only [List.mem_cons, List.not_mem_nil, or_false] at member <;> omega

/-- A character above U+FFFF, and one below it that stands above all surrogates. -/
def Displaces (c d : Char) : Prop := 0x10000 ≤ c.toNat ∧ 0xe000 ≤ d.toNat ∧ d.toNat ≤ 0xffff

instance (c d : Char) : Decidable (Displaces c d) :=
  inferInstanceAs (Decidable (0x10000 ≤ c.toNat ∧ 0xe000 ≤ d.toNat ∧ d.toNat ≤ 0xffff))

theorem Displaces.toNat_lt {c d : Char} (h : Displaces c d) : d.toNat < c.toNat := by
  unfold Displaces at h
  omega

theorem diverges_utf16EncodeChar {c d : Char} (units : Diverges (utf16Units c.toNat) (utf16Units d.toNat)) :
    Diverges (utf16EncodeChar c) (utf16EncodeChar d) := by
  apply units.map
  intro u v member below
  have fits := utf16Units_lt (toNat_lt_limit d) member
  rw [UInt16.lt_iff_toNat_lt, UInt16.toNat_ofNat', UInt16.toNat_ofNat']
  omega

/-- The units of two characters are in the order of the characters, unless the larger displaces the smaller. -/
theorem utf16EncodeChar_diverges {c d : Char} (less : c < d) :
    if Displaces d c then Diverges (utf16EncodeChar d) (utf16EncodeChar c)
    else Diverges (utf16EncodeChar c) (utf16EncodeChar d) := by
  have below : c.toNat < d.toNat := less
  have scalar : c.toNat < 0xd800 ∨ 0xe000 ≤ c.toNat := by
    have valid : c.toNat.isValidChar := c.valid
    unfold Nat.isValidChar at valid
    omega
  have limit := toNat_lt_limit d
  split
  · rename_i displaced
    apply diverges_utf16EncodeChar
    unfold Displaces at displaced
    unfold utf16Units
    split <;> split <;> simp only [Diverges] <;> omega
  · rename_i kept
    apply diverges_utf16EncodeChar
    unfold Displaces at kept
    unfold utf16Units
    split <;> split <;> simp only [Diverges] <;> omega

theorem utf16EncodeChar_apart {c d : Char} (apart : c ≠ d) :
    Diverges (utf16EncodeChar c) (utf16EncodeChar d) ∨ Diverges (utf16EncodeChar d) (utf16EncodeChar c) := by
  rcases lt_or_gt_of_char_ne apart with less | greater
  · have diverge := utf16EncodeChar_diverges less
    split at diverge
    · exact .inr diverge
    · exact .inl diverge
  · have diverge := utf16EncodeChar_diverges greater
    split at diverge
    · exact .inl diverge
    · exact .inr diverge

theorem compare_utf16EncodeChar_of_lt {c d : Char} (less : c < d) :
    compare (utf16EncodeChar c) (utf16EncodeChar d) = if Displaces d c then .gt else .lt := by
  have diverge := utf16EncodeChar_diverges less
  split
  · rename_i displaced
    rw [if_pos displaced] at diverge
    exact Std.OrientedCmp.gt_of_lt diverge.compare_lt
  · rename_i kept
    rw [if_neg kept] at diverge
    exact diverge.compare_lt

instance : Std.LawfulEqCmp (compareOn utf16EncodeChar) where
  compare_self := Std.ReflCmp.compare_self
  eq_of_compare {c d} equal := by
    change compare (utf16EncodeChar c) (utf16EncodeChar d) = .eq at equal
    by_contra apart
    rcases utf16EncodeChar_apart apart with first | second
    · rw [first.compare_lt] at equal
      cases equal
    · rw [Std.OrientedCmp.gt_of_lt second.compare_lt] at equal
      cases equal

theorem compareOn_utf16EncodeChar_ne_iff (c d : Char) :
    compare c d ≠ compareOn utf16EncodeChar c d ↔ Displaces c d ∨ Displaces d c := by
  have ascending {c d : Char} (less : c < d) :
      compare c d ≠ compareOn utf16EncodeChar c d ↔ Displaces c d ∨ Displaces d c := by
    have below : c.toNat < d.toNat := less
    have one_way : ¬ Displaces c d := fun h => Nat.lt_asymm below h.toNat_lt
    unfold compareOn
    rw [Std.compare_eq_lt.mpr less, compare_utf16EncodeChar_of_lt less]
    by_cases displaced : Displaces d c <;> simp [displaced, one_way]
  by_cases same : c = d
  · subst same
    have alone : ¬ Displaces c c := fun h => Nat.lt_irrefl _ h.toNat_lt
    have number : compare c c = .eq := Std.ReflCmp.compare_self
    have units : compareOn utf16EncodeChar c c = .eq := Std.ReflCmp.compare_self
    rw [number, units]
    simp [alone]
  · rcases lt_or_gt_of_char_ne same with less | greater
    · exact ascending less
    · have number : compare d c = (compare c d).swap := Std.OrientedCmp.eq_swap
      have units : compareOn utf16EncodeChar d c = (compareOn utf16EncodeChar c d).swap := Std.OrientedCmp.eq_swap
      have turned := ascending greater
      rw [number, units, Ne, Ordering.swap_inj] at turned
      exact turned.trans or_comm

section FirstDifference

variable {α : Type} {f g : α → α → Ordering} [Std.LawfulEqCmp f] [Std.LawfulEqCmp g]

omit [Std.LawfulEqCmp g] in
theorem compareLex_cons_of_ne {a b : α} (apart : a ≠ b) (xs ys : List α) :
    List.compareLex f (a :: xs) (b :: ys) = f a b := by
  have decided : f a b ≠ .eq := fun equal => apart (Std.LawfulEqCmp.eq_of_compare equal)
  rw [List.compareLex_cons_cons]
  cases order : f a b with
  | eq => exact absurd order decided
  | lt => rfl
  | gt => rfl

theorem compareLex_ne_iff {xs ys : List α} :
    List.compareLex f xs ys ≠ List.compareLex g xs ys ↔
      ∃ common a b xs' ys', xs = common ++ a :: xs' ∧ ys = common ++ b :: ys' ∧ f a b ≠ g a b := by
  constructor
  · intro differ
    induction xs generalizing ys with
    | nil => cases ys <;> exact absurd rfl differ
    | cons a xs ih =>
      cases ys with
      | nil => exact absurd rfl differ
      | cons b ys =>
        by_cases same : a = b
        · subst same
          have skip (h : α → α → Ordering) [Std.ReflCmp h] :
              List.compareLex h (a :: xs) (a :: ys) = List.compareLex h xs ys := compareLex_append_left [a] xs ys
          rw [skip, skip] at differ
          obtain ⟨common, c, d, xs', ys', rfl, rfl, apart⟩ := ih differ
          exact ⟨a :: common, c, d, xs', ys', rfl, rfl, apart⟩
        · rw [compareLex_cons_of_ne same, compareLex_cons_of_ne same] at differ
          exact ⟨[], a, b, xs, ys, rfl, rfl, differ⟩
  · rintro ⟨common, a, b, xs', ys', rfl, rfl, differ⟩
    have apart : a ≠ b := by
      rintro rfl
      have first : f a a = .eq := Std.ReflCmp.compare_self
      have second : g a a = .eq := Std.ReflCmp.compare_self
      exact differ (first.trans second.symm)
    rw [compareLex_append_left, compareLex_append_left, compareLex_cons_of_ne apart, compareLex_cons_of_ne apart]
    exact differ

end FirstDifference

def FirstDiffer (s t : String) (c d : Char) : Prop :=
  c ≠ d ∧ ∃ common s' t', s.toList = common ++ c :: s' ∧ t.toList = common ++ d :: t'

theorem compare_utf16 (s t : String) :
    compare (utf16 s) (utf16 t) = List.compareLex (compareOn utf16EncodeChar) s.toList t.toList := by
  apply compare_flatMap
  · intro c
    rw [utf16EncodeChar, Ne, List.map_eq_nil_iff]
    exact utf16Units_ne_nil c.toNat
  · exact fun _ _ => utf16EncodeChar_apart

theorem compare_utf8_ne_utf16_iff (s t : String) :
    compare (utf8 s) (utf8 t) ≠ compare (utf16 s) (utf16 t) ↔
      ∃ c d, FirstDiffer s t c d ∧ (Displaces c d ∨ Displaces d c) := by
  rw [compare_utf8, compare_utf16, ← compare_toList, List.compare_eq_compareLex, compareLex_ne_iff]
  simp only [compareOn_utf16EncodeChar_ne_iff]
  constructor
  · rintro ⟨common, c, d, s', t', first, second, displaced⟩
    have apart : c ≠ d := by
      rintro rfl
      rcases displaced with h | h <;> exact Nat.lt_irrefl _ h.toNat_lt
    exact ⟨c, d, ⟨apart, common, s', t', first, second⟩, displaced⟩
  · rintro ⟨c, d, ⟨-, common, s', t', first, second⟩, displaced⟩
    exact ⟨common, c, d, s', t', first, second, displaced⟩

example : compare (utf8 "x～") (utf8 "x𝄞") = .lt ∧ compare (utf16 "x～") (utf16 "x𝄞") = .gt := by decide

end Text

namespace Point

open Text

section Code

variable {γ : Type} [Ord γ]

/-- Fewer entries first, then the first entry that differs decides, its name before its value. -/
def compareCoded (s t : Table γ γ) : Ordering :=
  (compare s.size t.size).then
    (List.compareLex (compareLex (compareOn (·.1)) (compareOn (·.2))) s.entries t.entries)

variable [Std.TransOrd γ]

/-- The pairs of a point with every text in code, put in order by the codes of their names. -/
def coded (code : String → γ) (pairs : List (String × String)) : Table γ γ :=
  .ofList (pairs.map (Prod.map code code))

variable {code : String → γ} (keeps : ∀ s t, compare (code s) (code t) = compare s t)

include keeps

theorem entries_coded (pairs : List (String × String)) :
    (coded code pairs).entries = (ofPairs pairs).entries.map (Prod.map code code) :=
  Table.entries_ofList_map keeps code pairs

omit [Std.TransOrd γ] in
theorem compareLex_code (es fs : List (String × String)) :
    List.compareLex (compareLex (compareOn (·.1)) (compareOn (·.2)))
      (es.map (Prod.map code code)) (fs.map (Prod.map code code)) = List.compareLex compareEntries es fs := by
  induction es generalizing fs with
  | nil => cases fs <;> rfl
  | cons e es ih =>
    cases fs with
    | nil => rfl
    | cons f fs =>
      have entry : compareLex (compareOn (·.1)) (compareOn (·.2)) (Prod.map code code e) (Prod.map code code f)
          = compareEntries e f := congrArg₂ Ordering.then (keeps e.1 f.1) (keeps e.2 f.2)
      rw [List.map_cons, List.map_cons, List.compareLex_cons_cons, List.compareLex_cons_cons, ih, entry]

theorem compareCoded_coded (ps qs : List (String × String)) :
    compareCoded (coded code ps) (coded code qs) = compare (ofPairs ps) (ofPairs qs) := by
  unfold compareCoded Table.size
  rw [entries_coded keeps, entries_coded keeps, List.length_map, List.length_map, compareLex_code keeps]
  rfl

end Code

/-- Bytes and character numbers order the names in a point and the points themselves as texts do. Units of
sixteen bits do not, and they fail where one of the first two characters that differ needs a pair of units and
the other stands above all pairs. -/
theorem order_encoding_free :
    (∀ pairs : List (String × String),
      (coded utf8 pairs).entries = (ofPairs pairs).entries.map (Prod.map utf8 utf8) ∧
        (coded scalars pairs).entries = (ofPairs pairs).entries.map (Prod.map scalars scalars)) ∧
    (∀ ps qs : List (String × String),
      compareCoded (coded utf8 ps) (coded utf8 qs) = compare (ofPairs ps) (ofPairs qs) ∧
        compareCoded (coded scalars ps) (coded scalars qs) = compare (ofPairs ps) (ofPairs qs)) ∧
    ∀ s t : String, compare (utf8 s) (utf8 t) = compare (scalars s) (scalars t) ∧
      (compare (utf8 s) (utf8 t) ≠ compare (utf16 s) (utf16 t) ↔
        ∃ c d, FirstDiffer s t c d ∧ (Displaces c d ∨ Displaces d c)) := by
  refine ⟨fun pairs => ?_, fun ps qs => ?_, fun s t => ?_⟩
  · exact ⟨entries_coded compare_utf8 pairs, entries_coded compare_scalars pairs⟩
  · exact ⟨compareCoded_coded compare_utf8 ps qs, compareCoded_coded compare_scalars ps qs⟩
  · exact ⟨(compare_utf8 s t).trans (compare_scalars s t).symm, compare_utf8_ne_utf16_iff s t⟩

end Point

end AxisGrid
