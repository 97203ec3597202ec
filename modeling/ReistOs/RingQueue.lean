import Mathlib.Tactic

/-! A bounded first-in first-out queue in a ring of cells. -/

/-- `count` elements from the cell `head` on; the other cells hold the default. -/
structure RingQueue (α : Type) (depth : Nat) where
  head : Nat
  count : Nat
  cells : Nat → α
  head_lt : head < depth
  count_le : count ≤ depth

namespace RingQueue

variable {α : Type} {depth : Nat}

/-- The cell of the element number `i`. -/
def cell (q : RingQueue α depth) (i : Nat) : Nat := (q.head + i) % depth

def toList (q : RingQueue α depth) : List α :=
  (List.range q.count).map fun i => q.cells (q.cell i)

def front (q : RingQueue α depth) : α := q.cells q.head

def push (q : RingQueue α depth) (x : α) (room : q.count < depth) : RingQueue α depth :=
  { q with
    count := q.count + 1
    cells := Function.update q.cells (q.cell q.count) x
    count_le := room }

section Default

variable [Inhabited α]

def empty (h : 0 < depth) : RingQueue α depth :=
  { head := 0, count := 0, cells := fun _ => default, head_lt := h, count_le := Nat.zero_le _ }

def pop (q : RingQueue α depth) : RingQueue α depth :=
  { head := (q.head + 1) % depth
    count := q.count - 1
    cells := Function.update q.cells q.head default
    head_lt := Nat.mod_lt _ (Nat.zero_lt_of_lt q.head_lt)
    count_le := (Nat.sub_le _ _).trans q.count_le }

end Default

theorem length_toList (q : RingQueue α depth) : q.toList.length = q.count := by
  simp [toList]

/-- Different elements are in different cells. -/
theorem cell_injective (q : RingQueue α depth) {i j : Nat} (hi : i < depth) (hj : j < depth)
    (h : q.cell i = q.cell j) : i = j := by
  have hmod : (q.head + i) ≡ (q.head + j) [MOD depth] := h
  exact (Nat.ModEq.add_left_cancel' q.head hmod).eq_of_lt_of_lt hi hj

theorem cell_zero (q : RingQueue α depth) : q.cell 0 = q.head :=
  Nat.mod_eq_of_lt q.head_lt

theorem toList_push (q : RingQueue α depth) (x : α) (room : q.count < depth) :
    (q.push x room).toList = q.toList ++ [x] := by
  have hold : ∀ i ∈ List.range q.count,
      (q.push x room).cells ((q.push x room).cell i) = q.cells (q.cell i) := by
    intro i hi
    rw [List.mem_range] at hi
    have hne : q.cell i ≠ q.cell q.count := by
      intro he
      have heq := q.cell_injective (hi.trans room) room he
      omega
    exact Function.update_of_ne hne x q.cells
  have hnew : (q.push x room).cells ((q.push x room).cell q.count) = x := by
    show Function.update q.cells (q.cell q.count) x (q.cell q.count) = x
    exact Function.update_self ..
  calc (q.push x room).toList
      = (List.range (q.count + 1)).map
          (fun i => (q.push x room).cells ((q.push x room).cell i)) := rfl
    _ = q.toList ++ [x] := by
        rw [List.range_succ, List.map_append, List.map_congr_left hold, List.map_singleton, hnew]
        rfl

theorem toList_pop [Inhabited α] (q : RingQueue α depth) (h : q.count ≠ 0) :
    q.toList = q.front :: q.pop.toList := by
  obtain ⟨n, hn⟩ := Nat.exists_eq_succ_of_ne_zero h
  have hle := q.count_le
  have hrest : ∀ i ∈ List.range n, q.cells (q.cell (i + 1)) = q.pop.cells (q.pop.cell i) := by
    intro i hi
    rw [List.mem_range] at hi
    have hcell : q.pop.cell i = q.cell (i + 1) := by
      simp only [cell, pop, Nat.mod_add_mod]
      rw [Nat.add_assoc, Nat.add_comm 1 i]
    have hne : q.cell (i + 1) ≠ q.head := by
      intro he
      rw [← q.cell_zero] at he
      have heq := q.cell_injective (by omega) (by omega) he
      omega
    rw [hcell]
    exact (Function.update_of_ne hne default q.cells).symm
  have hcount : q.pop.count = n := by
    simp only [pop, hn]
    omega
  calc q.toList
      = q.cells (q.cell 0) :: (List.range n).map (fun i => q.cells (q.cell (i + 1))) := by
        simp only [toList, hn, List.range_succ_eq_map, List.map_cons, List.map_map]
        rfl
    _ = q.front :: q.pop.toList := by
        rw [List.map_congr_left hrest, q.cell_zero]
        simp only [toList, hcount, front]

end RingQueue
