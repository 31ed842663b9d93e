import AxisGrid.Proofs.Count

/-! A cursor reads a list that does not change, the points of its grid in the order of their indexes.
What it has still to read is a list of its own (`Cursor.rest`), each operation of a session is one
operation on such lists, and the larger operations are what `next` gives when it is called again and
again. -/
namespace AxisGrid

namespace Cursor

def rest (c : Cursor) : List Point := (List.range' c.position c.remaining).map c.grid.pointAt

theorem length_rest (c : Cursor) : c.rest.length = c.remaining := by simp [rest]

theorem rest_eq_nil {c : Cursor} (done : c.total ≤ c.position) : c.rest = [] := by
  have none : c.remaining = 0 := Nat.sub_eq_zero_of_le done
  simp [rest, none]

theorem rest_eq_cons {c : Cursor} (more : c.position < c.total) :
    c.rest = c.grid.pointAt c.position :: rest { c with position := c.position + 1 } := by
  have split : c.remaining = c.total - (c.position + 1) + 1 := by
    unfold remaining
    omega
  unfold rest
  rw [split, List.range'_succ, List.map_cons]
  rfl

theorem next_of_done {c : Cursor} (done : c.total ≤ c.position) : c.next = (none, c) := by
  simp [next, done]

theorem next_of_more {c : Cursor} (more : c.position < c.total) :
    c.next = (some (c.grid.pointAt c.position), { c with position := c.position + 1 }) := by
  simp [next, Nat.not_le.mpr more]

theorem next_rest (c : Cursor) : c.next.1 = c.rest.head? ∧ c.next.2.rest = c.rest.tail := by
  rcases Nat.lt_or_ge c.position c.total with more | done
  · rw [next_of_more more, rest_eq_cons more]
    exact ⟨rfl, rfl⟩
  · rw [next_of_done done, rest_eq_nil done]
    exact ⟨rfl, rfl⟩

theorem rest_skip (c : Cursor) (count : Nat) : (c.skip count).rest = c.rest.drop count := by
  have left : (c.skip count).remaining = c.remaining - count := by
    simp only [skip, remaining]
    omega
  rcases Nat.lt_or_ge c.remaining count with few | enough
  · have none : c.remaining - count = 0 := by omega
    have past : c.rest.drop count = [] := List.drop_of_length_le (by rw [length_rest]; omega)
    rw [past, rest, left, none]
    rfl
  · have place : (c.skip count).position = c.position + count := by
      simp only [skip, Nat.min_eq_left enough]
    rw [rest, left, place, rest, ← List.map_drop, List.drop_range', Nat.mul_one]
    rfl

theorem nth_rest (c : Cursor) (count : Nat) :
    (c.nth count).1 = c.rest[count]? ∧ (c.nth count).2.rest = c.rest.drop (count + 1) := by
  obtain ⟨given, left⟩ := next_rest (c.skip count)
  rw [rest_skip] at given left
  exact ⟨given.trans List.head?_drop, left.trans List.tail_drop⟩

theorem take_rest (c : Cursor) (count : Nat) :
    (c.take count).1 = c.rest.take count ∧ (c.take count).2.rest = c.rest.drop count := by
  induction count generalizing c with
  | zero => exact ⟨rfl, rfl⟩
  | succ count ih =>
    rcases Nat.lt_or_ge c.position c.total with more | done
    · obtain ⟨given, left⟩ := ih { c with position := c.position + 1 }
      simp only [take, next_of_more more, rest_eq_cons more, List.take_succ_cons, List.drop_succ_cons]
      exact ⟨congrArg _ given, left⟩
    -- a walk that is done stays where it is, however many points are still asked for
    · simp [take, next_of_done done, rest_eq_nil done]

theorem rest_finish (c : Cursor) : c.finish.rest = [] := by
  rw [finish, rest_skip, ← length_rest, List.drop_length]

theorem last_eq (c : Cursor) : c.last = (c.rest.getLast?, c.finish) := by
  by_cases none : c.remaining = 0
  · have empty : c.rest = [] := List.eq_nil_of_length_eq_zero ((length_rest c).trans none)
    simp [last, finish, skip, none, empty]
  -- the last point stands behind all others, and once it is taken nothing is left
  · have given := (nth_rest c (c.remaining - 1)).1
    have left : (c.nth (c.remaining - 1)).2 = c.finish := by
      have more : (c.skip (c.remaining - 1)).position < (c.skip (c.remaining - 1)).total := by
        simp only [skip, remaining] at none ⊢
        omega
      rw [nth, next_of_more more]
      simp only [finish, skip, remaining, Cursor.mk.injEq, true_and, and_true] at none ⊢
      omega
    rw [last, if_neg none, List.getLast?_eq_getElem?, length_rest, ← given, ← left]

structure Within (c : Cursor) (g : Grid) (n : Nat) : Prop where
  grid : c.grid = g
  total : c.total = n
  position : c.position ≤ n

section Within

variable {c : Cursor} {g : Grid} {n : Nat}

theorem Within.next (within : c.Within g n) : c.next.2.Within g n := by
  obtain ⟨grid, total, position⟩ := within
  rcases Nat.lt_or_ge c.position c.total with more | done
  · rw [next_of_more more]
    exact ⟨grid, total, by simp only; omega⟩
  · rw [next_of_done done]
    exact ⟨grid, total, position⟩

theorem Within.skip (within : c.Within g n) (count : Nat) : (c.skip count).Within g n := by
  obtain ⟨grid, total, position⟩ := within
  refine ⟨grid, total, ?_⟩
  simp only [Cursor.skip, remaining]
  omega

theorem Within.nth (within : c.Within g n) (count : Nat) : (c.nth count).2.Within g n :=
  (within.skip count).next

theorem Within.take (within : c.Within g n) (count : Nat) : (c.take count).2.Within g n := by
  induction count generalizing c with
  | zero => exact within
  | succ count ih =>
    have after := within.next
    rcases Nat.lt_or_ge c.position c.total with more | done
    · rw [next_of_more more] at after
      simp only [Cursor.take, next_of_more more]
      exact ih after
    · simp only [Cursor.take, next_of_done done]
      exact within

theorem Within.last (within : c.Within g n) : c.last.2.Within g n := by
  rw [last_eq]
  exact within.skip _

end Within

/-- Calls `next` so often to pass points, and once more for an answer, unless it gives nothing. -/
def nthByNext : Nat → Cursor → Option Point × Cursor
  | 0, c => c.next
  | count + 1, c =>
    match c.next with
    | (none, after) => (none, after)
    | (some _, after) => nthByNext count after

theorem remaining_lt_of_next {c after : Cursor} {point : Point} (given : c.next = (some point, after)) :
    after.remaining < c.remaining := by
  rcases Nat.lt_or_ge c.position c.total with more | done
  · rw [next_of_more more] at given
    cases given
    simp only [remaining]
    omega
  · rw [next_of_done done] at given
    cases given

def exhaust (c : Cursor) : List Point × Cursor :=
  match _ : c.next with
  | (none, after) => ([], after)
  | (some point, after) => (point :: (exhaust after).1, (exhaust after).2)
termination_by c.remaining
decreasing_by all_goals exact remaining_lt_of_next ‹_›

theorem nthByNext_eq (count : Nat) (c : Cursor) : nthByNext count c = c.nth count := by
  induction count generalizing c with
  | zero =>
    have stay : c.skip 0 = c := by simp [skip]
    rw [nth, stay]
    rfl
  | succ count ih =>
    rcases Nat.lt_or_ge c.position c.total with more | done
    · have further : skip { c with position := c.position + 1 } count = c.skip (count + 1) := by
        simp only [skip, remaining, Cursor.mk.injEq, true_and, and_true]
        omega
      simp only [nthByNext, next_of_more more, ih, nth, further]
    · have stay : c.skip (count + 1) = c := by
        have none : c.remaining = 0 := Nat.sub_eq_zero_of_le done
        simp [skip, none]
      simp only [nthByNext, next_of_done done, nth, stay]

theorem exhaust_eq (c : Cursor) : c.exhaust = (c.rest, c.finish) := by
  -- the induction is on what remains, as the recursion of `exhaust` is
  induction left : c.remaining generalizing c with
  | zero =>
    have done : c.total ≤ c.position := Nat.le_of_sub_eq_zero left
    have stay : c.finish = c := by simp [finish, skip, left]
    rw [exhaust, next_of_done done, rest_eq_nil done, stay]
  | succ left' ih =>
    have more : c.position < c.total := by
      unfold remaining at left
      omega
    have further : finish { c with position := c.position + 1 } = c.finish := by
      simp only [finish, skip, remaining, Cursor.mk.injEq, true_and, and_true]
      omega
    rw [exhaust, next_of_more more, rest_eq_cons more]
    simp only
    rw [ih _ (by simp only [remaining] at left ⊢; omega), further]

end Cursor

/-- A plain reader of a list and a second one that was put aside: what each has still to read. -/
structure Reading where
  live : List Point
  saved : List Point

namespace Reading

open Cursor (Command Answer)

def step (r : Reading) : Command → Answer × Reading
  | .next => (.point r.live.head?, { r with live := r.live.tail })
  | .nth count => (.point r.live[count]?, { r with live := r.live.drop (count + 1) })
  | .take count => (.points (r.live.take count), { r with live := r.live.drop count })
  | .length => (.amount r.live.length, r)
  | .bounds => (.bounds r.live.length r.live.length, r)
  | .last => (.point r.live.getLast?, { r with live := [] })
  | .count => (.amount r.live.length, { r with live := [] })
  | .save => (.done, { r with saved := r.live })
  | .restore => (.done, { r with live := r.saved })

def run (r : Reading) : List Command → List Answer × Reading
  | [] => ([], r)
  | command :: commands =>
    ((r.step command).1 :: ((r.step command).2.run commands).1, ((r.step command).2.run commands).2)

end Reading

namespace Cursor.Session

variable {s : Session} {g : Grid} {n : Nat}

def reading (s : Session) : Reading := ⟨s.live.rest, s.saved.rest⟩

theorem step_reading (s : Session) (command : Command) :
    (s.step command).1 = (s.reading.step command).1 ∧
      (s.step command).2.reading = (s.reading.step command).2 := by
  cases command with
  | next =>
    obtain ⟨given, left⟩ := next_rest s.live
    exact ⟨congrArg Answer.point given, congrArg (Reading.mk · s.saved.rest) left⟩
  | nth count =>
    obtain ⟨given, left⟩ := nth_rest s.live count
    exact ⟨congrArg Answer.point given, congrArg (Reading.mk · s.saved.rest) left⟩
  | take count =>
    obtain ⟨given, left⟩ := take_rest s.live count
    exact ⟨congrArg Answer.points given, congrArg (Reading.mk · s.saved.rest) left⟩
  | length => exact ⟨congrArg Answer.amount (length_rest s.live).symm, rfl⟩
  | bounds =>
    have left := (length_rest s.live).symm
    exact ⟨congrArg₂ Answer.bounds left left, rfl⟩
  | last =>
    have given := congrArg Prod.fst (last_eq s.live)
    have left := (congrArg (rest ∘ Prod.snd) (last_eq s.live)).trans (rest_finish s.live)
    exact ⟨congrArg Answer.point given, congrArg (Reading.mk · s.saved.rest) left⟩
  | count =>
    exact ⟨congrArg Answer.amount (length_rest s.live).symm,
      congrArg (Reading.mk · s.saved.rest) (rest_finish s.live)⟩
  | save => exact ⟨rfl, rfl⟩
  | restore => exact ⟨rfl, rfl⟩

theorem run_reading (s : Session) (commands : List Command) :
    (s.run commands).1 = (s.reading.run commands).1 ∧
      (s.run commands).2.reading = (s.reading.run commands).2 := by
  induction commands generalizing s with
  | nil => exact ⟨rfl, rfl⟩
  | cons command commands ih =>
    obtain ⟨answer, after⟩ := step_reading s command
    obtain ⟨answers, final⟩ := ih (s.step command).2
    rw [after] at answers final
    exact ⟨congrArg₂ List.cons answer answers, final⟩

structure Within (s : Session) (g : Grid) (n : Nat) : Prop where
  live : s.live.Within g n
  saved : s.saved.Within g n

theorem Within.step (within : s.Within g n) (command : Command) : (s.step command).2.Within g n := by
  obtain ⟨live, saved⟩ := within
  cases command with
  | next => exact ⟨live.next, saved⟩
  | nth count => exact ⟨live.nth count, saved⟩
  | take count => exact ⟨live.take count, saved⟩
  | length => exact ⟨live, saved⟩
  | bounds => exact ⟨live, saved⟩
  | last => exact ⟨live.last, saved⟩
  | count => exact ⟨live.skip _, saved⟩
  | save => exact ⟨live, live⟩
  | restore => exact ⟨saved, saved⟩

theorem Within.run (within : s.Within g n) (commands : List Command) :
    (s.run commands).2.Within g n := by
  induction commands generalizing s with
  | nil => exact within
  | cons command commands ih => exact ih (within.step command)

/-- The same session with `next` for its only way to move. -/
def stepByNext (s : Session) : Command → Answer × Session
  | .next => (.point s.live.next.1, { s with live := s.live.next.2 })
  | .nth count =>
    (.point (nthByNext count s.live).1, { s with live := (nthByNext count s.live).2 })
  | .take count => (.points (s.live.take count).1, { s with live := (s.live.take count).2 })
  | .length => (.amount s.live.remaining, s)
  | .bounds => (.bounds s.live.remaining s.live.remaining, s)
  | .last => (.point s.live.exhaust.1.getLast?, { s with live := s.live.exhaust.2 })
  | .count => (.amount s.live.exhaust.1.length, { s with live := s.live.exhaust.2 })
  | .save => (.done, { s with saved := s.live })
  | .restore => (.done, { s with live := s.saved })

theorem step_eq_stepByNext (s : Session) (command : Command) :
    s.step command = s.stepByNext command := by
  cases command with
  | nth count => simp only [step, stepByNext, nthByNext_eq]
  | last => simp only [step, stepByNext, exhaust_eq, last_eq]
  | count => simp only [step, stepByNext, exhaust_eq, length_rest]
  | next => rfl
  | take count => rfl
  | length => rfl
  | bounds => rfl
  | save => rfl
  | restore => rfl

theorem rest_run_eq_nil (ended : s.live.rest = []) {commands : List Command}
    (kept : .restore ∉ commands) : (s.run commands).2.live.rest = [] := by
  induction commands generalizing s with
  | nil => exact ended
  | cons command commands ih =>
    rw [List.mem_cons, not_or] at kept
    obtain ⟨other, kept⟩ := kept
    refine ih ?_ kept
    have after := congrArg Reading.live (step_reading s command).2
    refine Eq.trans after ?_
    cases command with
    | restore => exact absurd rfl other
    | next => simp [Reading.step, reading, ended]
    | nth count => simp [Reading.step, reading, ended]
    | take count => simp [Reading.step, reading, ended]
    | length => exact ended
    | bounds => exact ended
    | last => rfl
    | count => rfl
    | save => exact ended

end Cursor.Session

namespace Grid

theorem point_of_lt {g : Grid} {i n : Nat} (counted : g.count? = some n) (below : i < n) :
    g.point i = .ok (g.pointAt i) := by
  simp [point, counted, below]

theorem rest_start (g : Grid) (n : Nat) : Cursor.rest ⟨g, 0, n⟩ = (List.range n).map g.pointAt := by
  rw [List.range_eq_range']
  rfl

end Grid

namespace Cursor.Session

theorem start_eq_ok_iff {g : Grid} {s : Session} :
    start g = .ok s ↔ ∃ n, g.count? = some n ∧ s = ⟨⟨g, 0, n⟩, ⟨g, 0, n⟩⟩ := by
  cases counted : g.count? with
  | none => simp [start, Cursor.start, counted, Except.map]
  | some n => simp [start, Cursor.start, counted, Except.map, eq_comm]

/-- Whatever is asked of a walk and its copy, in whatever order, the answers are those of a plain
reader of the points at the indexes below the count. No position passes the count, `next` alone would
do for every command, and a walk that came to its end stays there until the copy is taken up. -/
theorem run_eq_reading_run {g : Grid} {s : Session} (started : start g = .ok s) :
    s.live.total < Word.bound ∧ ∃ points : List Point,
      (List.range s.live.total).map g.point = points.map .ok ∧
      ∀ commands,
        (s.run commands).1 = (Reading.run ⟨points, points⟩ commands).1 ∧
        (s.run commands).2.Within g s.live.total ∧
        (∀ command, (s.run commands).2.step command = (s.run commands).2.stepByNext command) ∧
        ∀ later, .restore ∉ later → ((s.run commands).2.step .next).1 = .point none →
          ((((s.run commands).2.step .next).2.run later).2.step .next).1 = .point none := by
  obtain ⟨n, counted, rfl⟩ := start_eq_ok_iff.mp started
  refine ⟨Grid.count?_lt counted, (List.range n).map g.pointAt, ?_, fun commands => ⟨?_, ?_, ?_, ?_⟩⟩
  · rw [List.map_map]
    apply List.map_congr_left
    intro i below
    exact Grid.point_of_lt counted (List.mem_range.mp below)
  · have answers := (run_reading ⟨⟨g, 0, n⟩, ⟨g, 0, n⟩⟩ commands).1
    rw [reading, Grid.rest_start] at answers
    exact answers
  · have fresh : Cursor.Within ⟨g, 0, n⟩ g n := ⟨rfl, rfl, Nat.zero_le n⟩
    exact Within.run ⟨fresh, fresh⟩ commands
  · intro command
    exact step_eq_stepByNext _ command
  -- what the session did before does not matter here, only that nothing is left to read
  · intro later kept ended
    generalize (run _ commands).2 = s at ended ⊢
    obtain ⟨given, left⟩ := next_rest s.live
    have none : s.live.rest = [] := List.head?_eq_none_iff.mp (given.symm.trans (Answer.point.inj ended))
    have stays := rest_run_eq_nil (s := (s.step .next).2) (left.trans (by rw [none, List.tail_nil])) kept
    have answer := (next_rest ((s.step .next).2.run later).2.live).1
    rw [stays] at answer
    exact congrArg Answer.point answer

end Cursor.Session

namespace Cursor.Session

open Grid (crossed)

/-- Four points are passed, then there are too few for five more, and the copy goes on with the last two. -/
theorem run_crossed :
    start crossed = .ok ⟨⟨crossed, 0, 6⟩, ⟨crossed, 0, 6⟩⟩ ∧
    ∃ points : List Point, (List.range 6).map crossed.point = points.map .ok ∧
      (run ⟨⟨crossed, 0, 6⟩, ⟨crossed, 0, 6⟩⟩ [.nth 3, .save, .nth 4, .next, .restore, .length, .take 7]).1
        = [.point points[3]?, .done, .point none, .point none, .done, .amount 2, .points (points.drop 4)] := by
  have started : start crossed = .ok ⟨⟨crossed, 0, 6⟩, ⟨crossed, 0, 6⟩⟩ :=
    start_eq_ok_iff.mpr ⟨6, by decide, rfl⟩
  obtain ⟨-, points, indexed, reads⟩ := run_eq_reading_run started
  have length : points.length = 6 := by simpa using (congrArg List.length indexed).symm
  refine ⟨started, points, indexed, ?_⟩
  rw [(reads _).1]
  simp [Reading.run, Reading.step, length]

end Cursor.Session

end AxisGrid
