import Mathlib.Data.List.Basic

/-!
# EzRets.Lib.ForwardCursor — a cursor that visits the elements of a list once

A forward cursor stands in front of its list or on one of its elements.  It moves forward by one
element at a time and stays on the last one when there are no more.
-/

universe u

variable {α : Type u}

/-- A list and the number of elements that have been visited. -/
@[ext]
structure ForwardCursor (α : Type u) where
  rows : List α
  visited : Nat
  bound : visited ≤ rows.length

namespace ForwardCursor

/-- In front of the first element. -/
def start (rows : List α) : ForwardCursor α := ⟨rows, 0, Nat.zero_le _⟩

/-- The element that the cursor stands on. -/
def current (c : ForwardCursor α) : Option α :=
  if c.visited = 0 then none else c.rows[c.visited - 1]?

/-- The element that it moves to next. -/
def upcoming (c : ForwardCursor α) : Option α := c.rows[c.visited]?

/-- One move, which the last element does not leave. -/
def move (c : ForwardCursor α) : ForwardCursor α where
  rows := c.rows
  visited := min (c.visited + 1) c.rows.length
  bound := Nat.min_le_right _ _

/-- `k` moves. -/
def advance (c : ForwardCursor α) (k : Nat) : ForwardCursor α where
  rows := c.rows
  visited := min (c.visited + k) c.rows.length
  bound := Nat.min_le_right _ _

@[simp] theorem move_rows (c : ForwardCursor α) : c.move.rows = c.rows := rfl

@[simp] theorem advance_rows (c : ForwardCursor α) (k : Nat) : (c.advance k).rows = c.rows := rfl

@[simp] theorem advance_zero (c : ForwardCursor α) : c.advance 0 = c := by
  ext1
  · rfl
  · exact Nat.min_eq_left c.bound

theorem move_advance (c : ForwardCursor α) (k : Nat) : c.move.advance k = c.advance (k + 1) := by
  have hbound := c.bound
  ext1
  · rfl
  · simp only [advance, move]
    omega

theorem advance_move (c : ForwardCursor α) (k : Nat) : (c.advance k).move = c.advance (k + 1) := by
  have hbound := c.bound
  ext1
  · rfl
  · simp only [advance, move]
    omega

/-- There is no next element exactly at the end. -/
theorem upcoming_eq_none_iff (c : ForwardCursor α) :
    c.upcoming = none ↔ c.visited = c.rows.length := by
  have hbound := c.bound
  unfold upcoming
  rw [List.getElem?_eq_none_iff]
  omega

/-- At the end a move does nothing. -/
theorem move_of_end {c : ForwardCursor α} (h : c.upcoming = none) : c.move = c := by
  have hend := c.upcoming_eq_none_iff.mp h
  ext1
  · rfl
  · simp only [move]
    omega

/-- From the start, the `k`-th move leads to the `k`-th element. -/
theorem upcoming_start {rows : List α} {k : Nat} (h : k ≤ rows.length) :
    ((start rows).advance k).upcoming = rows[k]? := by
  have hvisited : ((start rows).advance k).visited = k := by
    simp only [advance, start]
    omega
  unfold upcoming
  rw [hvisited]
  rfl

/-- Moves beyond the last element stay there. -/
theorem advance_start_of_le {rows : List α} {k : Nat} (h : rows.length ≤ k) :
    (start rows).advance k = (start rows).advance rows.length := by
  ext1
  · rfl
  · simp only [advance, start]
    omega

/-- After `k` moves from the start the cursor stands on the `k`-th element, or on the last. -/
theorem current_start {rows : List α} {k : Nat} (h : k ≠ 0) :
    ((start rows).advance k).current = rows[min k rows.length - 1]? := by
  have hvisited : ((start rows).advance k).visited = min k rows.length := by
    simp only [advance, start]
    omega
  unfold current
  rw [hvisited]
  by_cases hnil : rows = []
  · simp [hnil]
  · have hpos := List.length_pos_of_ne_nil hnil
    have hne : min k rows.length ≠ 0 := by omega
    rw [if_neg hne]
    rfl

end ForwardCursor
