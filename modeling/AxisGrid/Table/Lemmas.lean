import AxisGrid.Table

/-!
Lookups decide a table. `get?_insert` and `get?_insertAll` say what each operation does to lookups,
`mem_entries_iff` ties lookups to entries, and `ext_get?` says that nothing else is in a table.
-/

namespace AxisGrid.Table

variable {α β : Type} [Ord α]

@[simp]
theorem get?_empty (key : α) : (empty : Table α β).get? key = none := rfl

/-- A list of pairs binds a key to the value of its last pair. -/
def last? (key : α) (pairs : List (α × β)) : Option β :=
  pairs.foldl (fun found p => if compare key p.1 = .eq then some p.2 else found) none

theorem find?_eq_none_of_lt {key : α} {es : List (α × β)}
    (h : ∀ e ∈ es, compare key e.1 = .lt) : find? key es = none := by
  induction es with
  | nil => rfl
  | cons head rest ih =>
    have first := h head List.mem_cons_self
    simp only [find?, first]
    exact ih fun e he => h e (List.mem_cons_of_mem _ he)

theorem foldl_eq_last?_or (key : α) (pairs : List (α × β)) (found : Option β) :
    pairs.foldl (fun found p => if compare key p.1 = .eq then some p.2 else found) found
      = (last? key pairs).or found := by
  induction pairs generalizing found with
  | nil => simp [last?]
  | cons head rest ih =>
    by_cases same : compare key head.1 = .eq
    · simp [last?, List.foldl_cons, same, ih (some head.2)]
    · simp [last?, List.foldl_cons, same, ih found]

theorem last?_append (key : α) (p q : List (α × β)) :
    last? key (p ++ q) = (last? key q).or (last? key p) := by
  rw [last?, List.foldl_append]
  exact foldl_eq_last?_or key q _

theorem last?_cons (key : α) (head : α × β) (rest : List (α × β)) :
    last? key (head :: rest)
      = (last? key rest).or (if compare key head.1 = .eq then some head.2 else none) :=
  last?_append key [head] rest

section LawfulEq

variable [Std.LawfulEqOrd α]

theorem last?_eq_none_iff {key : α} {pairs : List (α × β)} :
    last? key pairs = none ↔ key ∉ pairs.map (·.1) := by
  induction pairs with
  | nil => simp [last?]
  | cons head rest ih =>
    rw [last?_cons, Option.or_eq_none_iff, ih, List.map_cons, List.mem_cons, not_or, and_comm]
    refine and_congr_left fun _ => ?_
    by_cases same : key = head.1
    · simp [same]
    · have apart : compare key head.1 ≠ .eq := fun h => same (Std.LawfulEqCmp.eq_of_compare h)
      simp [same, apart]

/-- What is bound to a key is the value of a pair behind which the key does not come again. -/
theorem last?_eq_some_iff {key : α} {value : β} {pairs : List (α × β)} :
    last? key pairs = some value ↔
      ∃ before after, pairs = before ++ (key, value) :: after ∧ key ∉ after.map (·.1) := by
  constructor
  · intro found
    induction pairs with
    | nil => cases found
    | cons head rest ih =>
      rw [last?_cons, Option.or_eq_some_iff] at found
      rcases found with later | ⟨none, here⟩
      · obtain ⟨before, after, rfl, absent⟩ := ih later
        exact ⟨head :: before, after, rfl, absent⟩
      · by_cases same : compare key head.1 = .eq
        · rw [if_pos same] at here
          cases here
          cases Std.LawfulEqCmp.eq_of_compare same
          exact ⟨[], rest, rfl, last?_eq_none_iff.mp none⟩
        · rw [if_neg same] at here
          cases here
  · rintro ⟨before, after, rfl, absent⟩
    rw [last?_append, last?_cons, last?_eq_none_iff.mpr absent]
    simp

theorem mem_of_last?_eq_some {key : α} {value : β} {pairs : List (α × β)}
    (found : last? key pairs = some value) : (key, value) ∈ pairs := by
  obtain ⟨before, after, rfl, -⟩ := last?_eq_some_iff.mp found
  exact List.mem_append_cons_self

theorem last?_eq_some_iff_mem {key : α} {value : β} {pairs : List (α × β)}
    (distinct : (pairs.map (·.1)).Nodup) : last? key pairs = some value ↔ (key, value) ∈ pairs := by
  refine ⟨mem_of_last?_eq_some, fun member => ?_⟩
  induction pairs with
  | nil => cases member
  | cons head rest ih =>
    have ⟨new, tail⟩ := List.nodup_cons.mp distinct
    rw [last?_cons]
    rcases List.mem_cons.mp member with rfl | later
    · rw [last?_eq_none_iff.mpr new]
      simp
    · rw [ih tail later]
      rfl

theorem last?_eq_getLast? [DecidableEq α] (key : α) (pairs : List (α × β)) :
    last? key pairs = ((pairs.filter fun e => e.1 = key).getLast?).map (·.2) := by
  induction pairs with
  | nil => rfl
  | cons head rest ih =>
    rw [last?_cons, ih, List.filter_cons]
    by_cases same : head.1 = key
    · have here : compare key head.1 = .eq := same ▸ Std.ReflCmp.compare_self
      rw [if_pos here, if_pos (decide_eq_true same), List.getLast?_cons]
      cases (rest.filter fun e => e.1 = key).getLast? <;> rfl
    · have apart : compare key head.1 ≠ .eq := fun h => same (Std.LawfulEqCmp.eq_of_compare h).symm
      rw [if_neg apart, if_neg (by simpa using same), Option.or_none]

theorem find?_eq_some_iff {key : α} {value : β} {es : List (α × β)}
    (h : es.Pairwise fun a b => compare a.1 b.1 = .lt) :
    find? key es = some value ↔ (key, value) ∈ es := by
  induction es with
  | nil => simp [find?]
  | cons head rest ih =>
    obtain ⟨k, v⟩ := head
    have ⟨above, tail⟩ := List.pairwise_cons.mp h
    by_cases same : compare key k = .eq
    · have eq : key = k := Std.LawfulEqCmp.eq_of_compare same
      subst eq
      have gone : (key, value) ∉ rest := fun he => by
        have := above _ he
        simp at this
      simp [find?, gone, eq_comm]
    · have ne : key ≠ k := fun h => same (h ▸ Std.ReflCmp.compare_self)
      simp [find?, same, ne, ih tail]

theorem mem_entries_iff {t : Table α β} {key : α} {value : β} :
    (key, value) ∈ t.entries ↔ t.get? key = some value :=
  (find?_eq_some_iff t.ascending).symm

theorem get?_eq_none_iff {t : Table α β} {key : α} : t.get? key = none ↔ key ∉ t.keys := by
  constructor
  · intro none here
    obtain ⟨⟨k, v⟩, he, rfl⟩ := List.mem_map.mp here
    rw [mem_entries_iff.mp he] at none
    cases none
  · intro gone
    cases found : t.get? key with
    | none => rfl
    | some v => exact absurd (List.mem_map.mpr ⟨(key, v), mem_entries_iff.mpr found, rfl⟩) gone

theorem get?_filterKeys (t : Table α β) (keep : α → Bool) (key : α) :
    (t.filterKeys keep).get? key = if keep key then t.get? key else none := by
  apply Option.ext
  intro value
  by_cases kept : keep key
  · simp [kept, ← mem_entries_iff, filterKeys]
  · simp [kept, ← mem_entries_iff, filterKeys]

theorem nodup_keys (t : Table α β) : t.keys.Nodup := by
  refine List.pairwise_map.mpr (t.ascending.imp fun {a b} less same => ?_)
  rw [same] at less
  simp at less

theorem nodup_entries (t : Table α β) : t.entries.Nodup :=
  List.Pairwise.of_map Prod.fst (fun _ _ apart same => apart (congrArg Prod.fst same)) t.nodup_keys

end LawfulEq

variable [Std.TransOrd α]

theorem find?_place (key other : α) (value : β) (es : List (α × β)) :
    find? other (place key value es)
      = if compare other key = .eq then some value else find? other es := by
  induction es with
  | nil => rfl
  | cons head rest ih =>
    obtain ⟨k, v⟩ := head
    cases c : compare key k with
    | lt => simp [place, c, find?]
    | eq =>
      by_cases same : compare other key = .eq
      · simp [place, c, find?, same]
      · have apart : compare other k ≠ .eq := fun h =>
          same (Std.TransCmp.eq_trans h (Std.OrientedCmp.eq_symm c))
        simp [place, c, find?, same, apart]
    | gt =>
      by_cases same : compare other key = .eq
      · have apart : compare other k ≠ .eq := fun h => by
          have := Std.TransCmp.eq_trans (Std.OrientedCmp.eq_symm same) h
          simp [c] at this
        simp [place, c, find?, same, apart, ih]
      · simp [place, c, find?, same, ih]

theorem get?_insert (t : Table α β) (key other : α) (value : β) :
    (t.insert key value).get? other
      = if compare other key = .eq then some value else t.get? other :=
  find?_place key other value t.entries

theorem get?_insertAll (t : Table α β) (pairs : List (α × β)) (key : α) :
    (t.insertAll pairs).get? key = (last? key pairs).or (t.get? key) := by
  rw [← foldl_eq_last?_or]
  induction pairs generalizing t with
  | nil => rfl
  | cons p rest ih =>
    rw [insertAll, List.foldl_cons, ← insertAll, ih, get?_insert]
    rfl

/-- A table binds the keys of its pairs, each to the value of its last pair. -/
theorem get?_ofList (pairs : List (α × β)) (key : α) :
    (ofList pairs).get? key = last? key pairs := by
  rw [ofList, get?_insertAll, get?_empty, Option.or_none]

theorem ofList_append (p q : List (α × β)) : ofList (p ++ q) = (ofList p).insertAll q :=
  List.foldl_append

section Map

variable {γ δ : Type} [Ord γ] {f : α → γ} (keeps : ∀ a b, compare (f a) (f b) = compare a b) (g : β → δ)

include keeps

omit [Std.TransOrd α] in
theorem place_map (key : α) (value : β) (es : List (α × β)) :
    place (f key) (g value) (es.map (Prod.map f g)) = (place key value es).map (Prod.map f g) := by
  induction es with
  | nil => rfl
  | cons head rest ih =>
    obtain ⟨k, v⟩ := head
    rw [List.map_cons, Prod.map_apply, place, place, keeps]
    cases compare key k with
    | lt => rfl
    | eq => rfl
    | gt => rw [ih, List.map_cons, Prod.map_apply]

variable [Std.TransOrd γ]

theorem entries_insertAll_map (pairs : List (α × β)) {s : Table γ δ} {t : Table α β}
    (same : s.entries = t.entries.map (Prod.map f g)) :
    (s.insertAll (pairs.map (Prod.map f g))).entries = (t.insertAll pairs).entries.map (Prod.map f g) := by
  induction pairs generalizing s t with
  | nil => exact same
  | cons p rest ih =>
    have placed := place_map keeps g p.1 p.2 t.entries
    rw [← same] at placed
    exact @ih (s.insert (f p.1) (g p.2)) (t.insert p.1 p.2) placed

/-- Keys may be replaced by others of the same order before a table is made of them or afterwards. -/
theorem entries_ofList_map (pairs : List (α × β)) :
    (ofList (pairs.map (Prod.map f g))).entries = (ofList pairs).entries.map (Prod.map f g) :=
  entries_insertAll_map keeps g pairs rfl

end Map

variable [Std.LawfulEqOrd α]

theorem ext_get? {s t : Table α β} (same : ∀ key, s.get? key = t.get? key) : s = t := by
  have perm : s.entries.Perm t.entries :=
    (List.perm_ext_iff_of_nodup s.nodup_entries t.nodup_entries).mpr fun ⟨k, v⟩ => by
      rw [mem_entries_iff, mem_entries_iff, same]
  apply Table.ext
  refine perm.eq_of_pairwise (fun a b _ _ ab ba => ?_) s.ascending t.ascending
  have loop := Std.TransCmp.lt_trans ab ba
  simp at loop

theorem ofList_entries (t : Table α β) : ofList t.entries = t := by
  apply ext_get?
  intro key
  have run : ∀ es : List (α × β), (es.Pairwise fun a b => compare a.1 b.1 = .lt) →
      last? key es = find? key es := by
    intro es h
    induction es with
    | nil => rfl
    | cons head rest ih =>
      have ⟨above, tail⟩ := List.pairwise_cons.mp h
      have : head :: rest = [head] ++ rest := rfl
      rw [this, last?_append, ih tail]
      by_cases same : compare key head.1 = .eq
      · have gone : find? key rest = none :=
          find?_eq_none_of_lt fun e he => Std.TransCmp.lt_of_eq_of_lt same (above e he)
        simp [gone, last?, find?, same]
      · simp [last?, find?, same]
  rw [get?_ofList, run _ t.ascending]
  rfl

theorem entries_ofList {pairs : List (α × β)} (ascending : pairs.Pairwise fun a b => compare a.1 b.1 = .lt) :
    (ofList pairs).entries = pairs :=
  congrArg entries (ofList_entries ⟨pairs, ascending⟩)

theorem mem_keys_ofList [DecidableEq α] {pairs : List (α × β)} {key : α} :
    key ∈ (ofList pairs).keys ↔ key ∈ pairs.map (·.1) := by
  apply Decidable.not_iff_not.mp
  rw [← get?_eq_none_iff, get?_ofList, last?_eq_none_iff]

/-- A table is made from pairs if it binds each key to the value of its last pair. -/
theorem eq_ofList_iff {t : Table α β} {pairs : List (α × β)} :
    t = ofList pairs ↔ ∀ key, t.get? key = last? key pairs := by
  simp only [← get?_ofList]
  exact ⟨fun same _ => same ▸ rfl, ext_get?⟩

/-- The order of pairs with distinct keys does not matter. -/
theorem ofList_perm {t : Table α β} {pairs : List (α × β)} (order : pairs.Perm t.entries) :
    ofList pairs = t := by
  have distinct : (pairs.map (·.1)).Nodup := (order.map _).nodup_iff.mpr t.nodup_keys
  apply ext_get?
  intro key
  apply Option.ext
  intro value
  rw [get?_ofList, last?_eq_some_iff_mem distinct, order.mem_iff, mem_entries_iff]

theorem mem_of_mem_entries_ofList {pairs : List (α × β)} {e : α × β}
    (member : e ∈ (ofList pairs).entries) : e ∈ pairs := by
  rw [mem_entries_iff, get?_ofList] at member
  exact mem_of_last?_eq_some member

end AxisGrid.Table
