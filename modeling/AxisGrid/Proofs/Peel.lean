import AxisGrid.Proofs.Index
import AxisGrid.Proofs.Walk

/-! No digit is taken off in vain. The checked operations here stop where a radix is zero, where an axis has no
value at a digit and where something is left of the index in the end. Below the count none of them stops, so a
point is made of one value on each axis, whoever asks for it and in whatever state. -/
namespace AxisGrid

namespace Grid

/-- Takes the digits off as `peel` does, unless an axis is empty or has no value at its digit. -/
def peel? (index : Nat) : List Axis → Option (Nat × List (String × String))
  | [] => some (index, [])
  | a :: axes => do
    let (rest, pairs) ← peel? index axes
    if a.size = 0 then none
    else
      let value ← a.valueAt? (rest % a.size)
      return (rest / a.size, (a.name, value) :: pairs)

def pointAt? (g : Grid) (index : Nat) : Option Point := do
  let (rest, pairs) ← peel? index g.axes
  if rest = 0 then return .ofPairs pairs else none

def point? (g : Grid) (index : Nat) : Option (Except PointError Point) :=
  match g.count? with
  | none => some (.error .indexOverflow)
  | some count =>
    if index < count then (g.pointAt? index).map .ok
    else some (.error (.indexOutOfRange index count))

section Peel

variable {i : Nat} {a : Axis} {front back axes : List Axis}

theorem exists_digit (filled : a.size ≠ 0) (m : Nat) : ∃ value, a.valueAt? (m % a.size) = some value :=
  Axis.exists_valueAt? (Nat.mod_lt m (Nat.pos_of_ne_zero filled))

theorem peel_cons {value : String} (found : a.valueAt? ((peel i axes).1 % a.size) = some value) :
    peel i (a :: axes) = ((peel i axes).1 / a.size, (a.name, value) :: (peel i axes).2) := by
  unfold peel at found ⊢
  rw [List.foldr_cons, found]

theorem peel?_eq_some (filled : ∀ a ∈ axes, a.size ≠ 0) : peel? i axes = some (peel i axes) := by
  induction axes with
  | nil => rfl
  | cons a axes ih =>
    obtain ⟨head, tail⟩ := List.forall_mem_cons.mp filled
    obtain ⟨value, found⟩ := exists_digit head (peel i axes).1
    rw [peel_cons found, peel?, ih tail]
    simp [head, found]

theorem peel?_eq_none (empty : ∃ a ∈ axes, a.size = 0) : peel? i axes = none := by
  induction axes with
  | nil => simp at empty
  | cons a axes ih =>
    rw [peel?]
    cases rest : peel? i axes with
    | none => rfl
    | some state =>
      have head : a.size = 0 := by
        obtain ⟨b, member, zero⟩ := empty
        rcases List.mem_cons.mp member with rfl | later
        · exact zero
        · rw [ih ⟨b, later, zero⟩] at rest
          cases rest
      simp [head]

theorem size_ne_zero_of_prod (positive : 0 < (axes.map Axis.size).prod) : ∀ a ∈ axes, a.size ≠ 0 := by
  intro a member zero
  have absent := List.prod_eq_zero (List.mem_map.mpr ⟨a, member, zero⟩)
  omega

theorem peel_fst (i : Nat) (axes : List Axis) : (peel i axes).1 = i / (axes.map Axis.size).prod := by
  rw [peel_eq]

end Peel

/-- What holds each time that an axis was dealt with, the last axis first: the axes behind it are bound, what is
left is the quotient by their sizes and below the product of the others, and the next axis has a digit in it. -/
structure Peels (g : Grid) (i : Nat) : Prop where
  left : ∀ front back, g.axes = front ++ back →
    (peel i back).1 = i / (back.map Axis.size).prod ∧ (peel i back).1 < (front.map Axis.size).prod
  bound : ∀ front back, g.axes = front ++ back → (peel i back).2.map (·.1) = back.map (·.name)
  step : ∀ front a back, g.axes = front ++ a :: back → a.size ≠ 0 ∧
    ∃ value, a.valueAt? ((peel i back).1 % a.size) = some value ∧
      peel i (a :: back) = ((peel i back).1 / a.size, (a.name, value) :: (peel i back).2)
  done : (peel i g.axes).1 = 0

section InRange

variable {g : Grid} {i : Nat}

theorem prod_split {front back : List Axis} (axes : g.axes = front ++ back) :
    g.radices.prod = (front.map Axis.size).prod * (back.map Axis.size).prod := by
  rw [radices, axes, List.map_append, List.prod_append]

theorem peels_of_lt (below : i < g.radices.prod) : g.Peels i where
  left front back axes := by
    rw [prod_split axes, Nat.mul_comm] at below
    exact ⟨peel_fst i back, (peel_fst i back).trans_lt (Nat.div_lt_of_lt_mul below)⟩
  bound front back axes := by
    rw [prod_split axes] at below
    have positive : 0 < (back.map Axis.size).prod := Nat.pos_of_mul_pos_left (Nat.zero_lt_of_lt below)
    rw [peel_eq]
    exact names_choose (Radix.digits_fit positive i)
  step front a back axes := by
    have member : a ∈ g.axes := by
      rw [axes]
      exact List.mem_append_right front List.mem_cons_self
    have filled := size_ne_zero_of_prod (Nat.zero_lt_of_lt below) a member
    obtain ⟨value, found⟩ := exists_digit filled (peel i back).1
    exact ⟨filled, value, found, peel_cons found⟩
  done := by
    rw [peel_fst]
    exact Nat.div_eq_of_lt below

/-- The guard in front of the loop is exact: with a larger index, or an empty axis, a check fails. -/
theorem pointAt?_eq (g : Grid) (i : Nat) :
    g.pointAt? i = if i < g.radices.prod then some (g.pointAt i) else none := by
  unfold pointAt?
  split
  · rename_i below
    rw [peel?_eq_some (size_ne_zero_of_prod (Nat.zero_lt_of_lt below))]
    simp [(peels_of_lt below).done, pointAt]
  · rename_i beyond
    by_cases empty : ∃ a ∈ g.axes, a.size = 0
    · rw [peel?_eq_none empty]
      rfl
    · have filled : ∀ a ∈ g.axes, a.size ≠ 0 := fun a member zero => empty ⟨a, member, zero⟩
      have more : (peel i g.axes).1 ≠ 0 := by
        have positive : 0 < g.radices.prod := by
          apply Nat.pos_of_ne_zero
          rw [radices, Ne, List.prod_eq_zero_iff, List.mem_map]
          exact empty
        rw [peel_fst]
        exact Nat.pos_iff_ne_zero.mp (Nat.div_pos (Nat.le_of_not_lt beyond) positive)
      rw [peel?_eq_some filled]
      simp [more]

example : barred.pointAt? 0 = none ∧ crossed.pointAt? 6 = none := by decide

end InRange

end Grid

namespace Cursor

def next? (c : Cursor) : Option (Option Point × Cursor) :=
  if c.total ≤ c.position then some (none, c)
  else (c.grid.pointAt? c.position).map fun point => (some point, { c with position := c.position + 1 })

def nth? : Nat → Cursor → Option (Option Point × Cursor)
  | 0, c => c.next?
  | count + 1, c => do
    match ← c.next? with
    | (none, after) => return (none, after)
    | (some _, after) => nth? count after

def take? (c : Cursor) : Nat → Option (List Point × Cursor)
  | 0 => some ([], c)
  | count + 1 => do
    match ← c.next? with
    | (none, after) => return ([], after)
    | (some point, after) =>
      let (points, rest) ← after.take? count
      return (point :: points, rest)

def exhaust? (c : Cursor) : Option (List Point × Cursor) := c.take? (c.remaining + 1)

section Within

variable {c : Cursor} {g : Grid} {n : Nat} (counted : g.count? = some n) (within : c.Within g n)

include counted within

theorem next?_eq : c.next? = some c.next := by
  obtain ⟨rfl, rfl, -⟩ := within
  obtain ⟨-, total⟩ := Grid.count?_eq_some_iff.mp counted
  unfold next?
  rcases Nat.lt_or_ge c.position c.total with more | done
  · rw [next_of_more more, if_neg (Nat.not_le.mpr more), Grid.pointAt?_eq, if_pos (total ▸ more)]
    rfl
  · rw [next_of_done done, if_pos done]

theorem nth?_eq (count : Nat) : nth? count c = some (nthByNext count c) := by
  induction count generalizing c with
  | zero => exact next?_eq counted within
  | succ count ih =>
    have after := within.next
    rw [nth?, nthByNext, next?_eq counted within]
    cases given : c.next with
    | mk point rest =>
      rw [given] at after
      cases point with
      | none => rfl
      | some point => exact ih after

theorem take?_eq (count : Nat) : c.take? count = some (c.take count) := by
  induction count generalizing c with
  | zero => rfl
  | succ count ih =>
    have after := within.next
    rw [take?, take, next?_eq counted within]
    cases given : c.next with
    | mk point rest =>
      rw [given] at after
      cases point with
      | none => rfl
      | some point => simp [ih after]

omit counted within in
theorem take_eq_exhaust {count : Nat} (enough : c.remaining < count) : c.take count = c.exhaust := by
  induction count generalizing c with
  | zero => cases enough
  | succ count ih =>
    rcases Nat.lt_or_ge c.position c.total with more | done
    · have fewer : remaining { c with position := c.position + 1 } < count := by
        unfold remaining at enough ⊢
        simp only
        omega
      rw [take, exhaust, next_of_more more]
      simp only [ih fewer]
    · rw [take, exhaust, next_of_done done]

theorem exhaust?_eq : c.exhaust? = some c.exhaust := by
  rw [exhaust?, take?_eq counted within, take_eq_exhaust (Nat.lt_succ_self c.remaining)]

end Within

end Cursor

namespace Cursor.Session

/-- Carries out a command by checked calls for the next point alone. -/
def step? (s : Session) : Command → Option (Answer × Session)
  | .next => s.live.next?.map fun given => (.point given.1, { s with live := given.2 })
  | .nth count => (nth? count s.live).map fun given => (.point given.1, { s with live := given.2 })
  | .take count => (s.live.take? count).map fun given => (.points given.1, { s with live := given.2 })
  | .length => some (.amount s.live.remaining, s)
  | .bounds => some (.bounds s.live.remaining s.live.remaining, s)
  | .last => s.live.exhaust?.map fun given => (.point given.1.getLast?, { s with live := given.2 })
  | .count => s.live.exhaust?.map fun given => (.amount given.1.length, { s with live := given.2 })
  | .save => some (.done, { s with saved := s.live })
  | .restore => some (.done, { s with live := s.saved })

def run? (s : Session) : List Command → Option (List Answer × Session)
  | [] => some ([], s)
  | command :: commands => do
    let (answer, after) ← s.step? command
    let (answers, final) ← after.run? commands
    return (answer :: answers, final)

section Within

variable {s : Session} {g : Grid} {n : Nat}

theorem within_of_start (counted : g.count? = some n) (started : start g = .ok s) : s.Within g n := by
  obtain ⟨m, counted', rfl⟩ := start_eq_ok_iff.mp started
  cases Option.some.inj (counted'.symm.trans counted)
  have fresh : Cursor.Within ⟨g, 0, n⟩ g n := ⟨rfl, rfl, Nat.zero_le n⟩
  exact ⟨fresh, fresh⟩

variable (counted : g.count? = some n) (within : s.Within g n)

include counted within

theorem step?_eq (command : Command) : s.step? command = some (s.step command) := by
  have live := within.live
  rw [step_eq_stepByNext]
  cases command with
  | next => rw [step?, next?_eq counted live]; rfl
  | nth count => rw [step?, nth?_eq counted live]; rfl
  | take count => rw [step?, take?_eq counted live]; rfl
  | last => rw [step?, exhaust?_eq counted live]; rfl
  | count => rw [step?, exhaust?_eq counted live]; rfl
  | length => rfl
  | bounds => rfl
  | save => rfl
  | restore => rfl

theorem run?_eq (commands : List Command) : s.run? commands = some (s.run commands) := by
  induction commands generalizing s with
  | nil => rfl
  | cons command commands ih =>
    rw [run?, step?_eq counted within command]
    simp [ih (within.step command), run]

end Within

end Cursor.Session

namespace Grid

open Cursor (Session)

variable {g : Grid} {n : Nat}

theorem point?_eq (counted : g.count? = some n) (i : Nat) : g.point? i = some (g.point i) := by
  obtain ⟨-, total⟩ := count?_eq_some_iff.mp counted
  rw [point?, point, counted]
  by_cases below : i < n
  · simp [below, pointAt?_eq, ← total]
  · simp [below]

/-- In a grid whose points can be counted an index is taken apart without a fault exactly if it is below the
count, and the loop keeps its invariant there. No point that is asked for by its index and no session, whatever
it does, takes apart any other index. -/
theorem peeling_never_fails (counted : g.count? = some n) :
    (∀ i, g.pointAt? i = if i < n then some (g.pointAt i) else none) ∧
    (∀ i, i < n → g.Peels i) ∧
    (∀ i, g.point? i = some (g.point i)) ∧
    ∀ s, Session.start g = .ok s → ∀ commands,
      s.run? commands = some (s.run commands) ∧
      ∀ c, c = (s.run commands).2.live ∨ c = (s.run commands).2.saved →
        c.grid = g ∧ c.total = n ∧ (c.position < c.total → g.Peels c.position) := by
  obtain ⟨-, total⟩ := count?_eq_some_iff.mp counted
  have peels (i : Nat) (below : i < n) : g.Peels i := peels_of_lt (total ▸ below)
  refine ⟨fun i => total ▸ pointAt?_eq g i, peels, point?_eq counted, ?_⟩
  intro s started commands
  have fresh : s.Within g n := Session.within_of_start counted started
  have within := fresh.run commands
  refine ⟨Session.run?_eq counted fresh commands, fun c which => ?_⟩
  have inside : c.Within g n := by
    rcases which with rfl | rfl
    · exact within.live
    · exact within.saved
  exact ⟨inside.grid, inside.total, fun more => peels c.position (inside.total ▸ more)⟩

/-- A walk that came to its end is taken up again in front of the fifth of six points. -/
theorem peeling_never_fails_crossed :
    crossed.count? = some 6 ∧ Session.start crossed = .ok ⟨⟨crossed, 0, 6⟩, ⟨crossed, 0, 6⟩⟩ ∧
    Session.run? ⟨⟨crossed, 0, 6⟩, ⟨crossed, 0, 6⟩⟩ [.nth 3, .save, .last, .next, .restore]
      = some (Session.run ⟨⟨crossed, 0, 6⟩, ⟨crossed, 0, 6⟩⟩ [.nth 3, .save, .last, .next, .restore]) ∧
    (Session.run ⟨⟨crossed, 0, 6⟩, ⟨crossed, 0, 6⟩⟩ [.nth 3, .save, .last, .next, .restore]).2.live
      = ⟨crossed, 4, 6⟩ ∧
    crossed.Peels 4 := by
  have counted : crossed.count? = some 6 := by decide
  have started : Session.start crossed = .ok ⟨⟨crossed, 0, 6⟩, ⟨crossed, 0, 6⟩⟩ :=
    Session.start_eq_ok_iff.mpr ⟨6, counted, rfl⟩
  obtain ⟨-, -, -, sessions⟩ := peeling_never_fails counted
  obtain ⟨checked, cursors⟩ := sessions _ started [.nth 3, .save, .last, .next, .restore]
  have live : (Session.run ⟨⟨crossed, 0, 6⟩, ⟨crossed, 0, 6⟩⟩
      [.nth 3, .save, .last, .next, .restore]).2.live = ⟨crossed, 4, 6⟩ := rfl
  obtain ⟨-, -, peels⟩ := cursors ⟨crossed, 4, 6⟩ (.inl live.symm)
  exact ⟨counted, started, checked, live, peels (by decide)⟩

end Grid

end AxisGrid
