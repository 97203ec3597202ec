import Mathlib.Tactic

/-! The cells of a ring as a program with a head and a count walks them; that both stay in bounds is
for the program to prove. -/

namespace RingBuffer

variable {α : Type} {depth : Nat} {cells : Nat → α} {start n m : Nat}

/-- The `n` elements from the cell `start` on. -/
def contents (depth : Nat) (cells : Nat → α) : Nat → Nat → List α
  | _, 0 => []
  | start, n + 1 => cells start :: contents depth cells ((start + 1) % depth) n

/-- The elements written one after the other from the cell `tail` on. -/
def store (depth : Nat) (cells : Nat → α) : Nat → List α → Nat → α
  | _, [] => cells
  | tail, x :: xs => store depth (Function.update cells tail x) ((tail + 1) % depth) xs

/-- The cell after `n` steps from `start`. -/
def advance (depth : Nat) : Nat → Nat → Nat
  | start, 0 => start
  | start, n + 1 => advance depth ((start + 1) % depth) n

theorem length_contents : (contents depth cells start n).length = n := by
  induction n generalizing start with
  | zero => rfl
  | succ n ih => rw [contents, List.length_cons, ih]

theorem advance_eq (hstart : start < depth) : advance depth start n = (start + n) % depth := by
  induction n generalizing start with
  | zero => exact (Nat.mod_eq_of_lt hstart).symm
  | succ n ih =>
    have hnext : (start + 1) % depth < depth := Nat.mod_lt _ (Nat.zero_lt_of_lt hstart)
    rw [advance, ih hnext, Nat.mod_add_mod]
    congr 1
    omega

theorem contents_add :
    contents depth cells start (n + m) =
      contents depth cells start n ++ contents depth cells (advance depth start n) m := by
  induction n generalizing start with
  | zero => rw [Nat.zero_add]; rfl
  | succ n ih =>
    rw [Nat.succ_add, contents, ih]
    rfl

/-- What is read from the front is the front, and what is left follows it. -/
theorem contents_front (h : m ≤ n) :
    contents depth cells start n =
      contents depth cells start m ++ contents depth cells (advance depth start m) (n - m) := by
  have hn : n = m + (n - m) := by omega
  conv_lhs => rw [hn]
  exact contents_add

theorem cell_ne {i j : Nat} (hi : i < depth) (hj : j < depth)
    (h : i ≠ j) : (start + i) % depth ≠ (start + j) % depth :=
  fun he => h ((Nat.ModEq.add_left_cancel' start he).eq_of_lt_of_lt hi hj)

/-- A cell that is not walked over may change. -/
theorem contents_update {tail : Nat} {x : α} (hstart : start < depth)
    (h : ∀ i, i < n → (start + i) % depth ≠ tail) :
    contents depth (Function.update cells tail x) start n = contents depth cells start n := by
  induction n generalizing start with
  | zero => rfl
  | succ n ih =>
    have hfirst : start ≠ tail := by
      have hzero := h 0 (Nat.succ_pos n)
      rwa [Nat.add_zero, Nat.mod_eq_of_lt hstart] at hzero
    have hnext : (start + 1) % depth < depth := Nat.mod_lt _ (Nat.zero_lt_of_lt hstart)
    have hrest : ∀ i, i < n → ((start + 1) % depth + i) % depth ≠ tail := by
      intro i hi
      have hsucc := h (i + 1) (by omega)
      rw [Nat.mod_add_mod, Nat.add_assoc, Nat.add_comm 1 i]
      exact hsucc
    rw [contents, contents, Function.update_of_ne hfirst, ih hnext hrest]

theorem contents_push {x : α} (hstart : start < depth) (hroom : n < depth) :
    contents depth (Function.update cells ((start + n) % depth) x) start (n + 1) =
      contents depth cells start n ++ [x] := by
  have hother : ∀ i, i < n → (start + i) % depth ≠ (start + n) % depth := by
    intro i hi
    exact cell_ne (by omega) hroom (by omega)
  rw [contents_add, contents_update hstart hother, advance_eq hstart]
  show _ ++ [Function.update cells ((start + n) % depth) x ((start + n) % depth)] = _
  rw [Function.update_self]

/-- What is written after the elements in the ring is appended to them. -/
theorem contents_store {xs : List α} (hstart : start < depth) (hroom : n + xs.length ≤ depth) :
    contents depth (store depth cells ((start + n) % depth) xs) start (n + xs.length) =
      contents depth cells start n ++ xs := by
  induction xs generalizing cells n with
  | nil => rw [List.append_nil]; rfl
  | cons x xs ih =>
    rw [List.length_cons] at hroom
    have hnext : ((start + n) % depth + 1) % depth = (start + (n + 1)) % depth := by
      rw [Nat.mod_add_mod, Nat.add_assoc]
    have hlength : n + (x :: xs).length = n + 1 + xs.length := by
      rw [List.length_cons]
      omega
    rw [store, hnext, hlength, ih (by omega), contents_push hstart (by omega), List.append_assoc]
    rfl

end RingBuffer
