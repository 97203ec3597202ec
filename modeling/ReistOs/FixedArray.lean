import Mathlib.Tactic

/-! Arrays of a fixed size whose first cells are moved up and down. -/

namespace FixedArray

variable {α β : Type} [Inhabited α] {n : Nat}

/-- The cell at an index; cells past the end read the default. -/
def cell (v : Vector α n) (i : Nat) : α := v[i]?.getD default

/-- The array with one cell replaced; cells past the end are ignored. -/
def setCell (v : Vector α n) (i : Nat) (x : α) : Vector α n := v.setIfInBounds i x

/-- Copies the cells from `lo` to below the count `k` places up, the last one first. -/
def shiftUp (copy : α → α) (k lo : Nat) : Nat → Vector α n → Vector α n
  | 0, v => v
  | i + 1, v => if lo ≤ i then shiftUp copy k lo i (setCell v (i + k) (copy (cell v i))) else v

/-- Writes to `count` cells from an index on what is `k` places above them. -/
def shiftDown (copy : α → α) (k : Nat) : Nat → Nat → Vector α n → Vector α n
  | 0, _, v => v
  | count + 1, i, v => shiftDown copy k count (i + 1) (setCell v i (copy (cell v (i + k))))

/-- Writes these values to the cells from an index on. -/
def putCells : List α → Nat → Vector α n → Vector α n
  | [], _, v => v
  | x :: xs, o, v => putCells xs (o + 1) (setCell v o x)

/-- The cells from `o` on hold these values. -/
def Holds (R : α → β → Prop) (v : Vector α n) (o : Nat) (xs : List β) : Prop :=
  ∀ i y, xs[i]? = some y → R (cell v (o + i)) y

variable {R : α → β → Prop} {v w : Vector α n} {copy : α → α} {k lo m o i : Nat}

theorem cell_setCell (v : Vector α n) (o i : Nat) (x : α) :
    cell (setCell v o x) i = if o = i ∧ i < n then x else cell v i := by
  unfold cell setCell
  by_cases h : i < n
  · simp only [Vector.getElem?_setIfInBounds, h, and_true]
    split
    next he => simp [he, h]
    next => rfl
  · simp [h]

theorem cell_shiftUp (hk : 0 < k) (v : Vector α n) (j : Nat) :
    cell (shiftUp copy k lo m v) j =
      if lo + k ≤ j ∧ j < m + k ∧ j < n then copy (cell v (j - k)) else cell v j := by
  induction m generalizing v with
  | zero =>
    have hno : ¬ (lo + k ≤ j ∧ j < 0 + k ∧ j < n) := by omega
    rw [if_neg hno]
    rfl
  | succ m ih =>
    unfold shiftUp
    split
    next hlo =>
      have hkeep : j - k < m + k → cell (setCell v (m + k) (copy (cell v m))) (j - k) =
          cell v (j - k) := by
        intro hlt
        rw [cell_setCell, if_neg (by omega)]
      rw [ih]
      by_cases hin : lo + k ≤ j ∧ j < m + k ∧ j < n
      · rw [if_pos hin, if_pos (by omega), hkeep (by omega)]
      · rw [if_neg hin, cell_setCell]
        by_cases hat : m + k = j ∧ j < n
        · have hm : j - k = m := by omega
          rw [if_pos hat, if_pos (by omega), hm]
        · rw [if_neg hat, if_neg (by omega)]
    next hlo => rw [if_neg (by omega)]

theorem cell_shiftDown (hk : 0 < k) (v : Vector α n) (j : Nat) :
    cell (shiftDown copy k m i v) j =
      if i ≤ j ∧ j < i + m ∧ j < n then copy (cell v (j + k)) else cell v j := by
  induction m generalizing i v with
  | zero =>
    have hno : ¬ (i ≤ j ∧ j < i + 0 ∧ j < n) := by omega
    rw [if_neg hno]
    rfl
  | succ m ih =>
    unfold shiftDown
    rw [ih]
    by_cases hin : i + 1 ≤ j ∧ j < i + 1 + m ∧ j < n
    · rw [if_pos hin, if_pos (by omega), cell_setCell, if_neg (by omega)]
    · rw [if_neg hin, cell_setCell]
      by_cases hat : i = j ∧ j < n
      · rw [if_pos hat, if_pos (by omega), hat.1]
      · rw [if_neg hat, if_neg (by omega)]

theorem cell_putCells_outside {xs : List α} {j : Nat} (h : j < o ∨ o + xs.length ≤ j)
    (v : Vector α n) : cell (putCells xs o v) j = cell v j := by
  induction xs generalizing o v with
  | nil => rfl
  | cons x xs ih =>
    have hj : o ≠ j := by
      rw [List.length_cons] at h
      omega
    have htail : j < o + 1 ∨ o + 1 + xs.length ≤ j := by
      rw [List.length_cons] at h
      omega
    rw [putCells, ih htail, cell_setCell, if_neg (by omega)]

theorem Holds.nil : Holds R v o [] := by
  intro i y h
  simp at h

variable {xs ys : List β} {p : Nat} {x : α}

theorem holds_cons {y : β} :
    Holds R v o (y :: ys) ↔ R (cell v o) y ∧ Holds R v (o + 1) ys := by
  constructor
  · intro h
    refine ⟨h 0 y rfl, fun i z hz => ?_⟩
    have hnext := h (i + 1) z hz
    rwa [show o + (i + 1) = o + 1 + i by omega] at hnext
  · rintro ⟨hy, hys⟩ i z hz
    cases i with
    | zero =>
      obtain rfl : y = z := by simpa using hz
      exact hy
    | succ i =>
      have hnext := hys i z (by simpa using hz)
      rwa [show o + 1 + i = o + (i + 1) by omega] at hnext

theorem holds_append :
    Holds R v o (xs ++ ys) ↔ Holds R v o xs ∧ Holds R v (o + xs.length) ys := by
  induction xs generalizing o with
  | nil => simp [Holds.nil]
  | cons x xs ih =>
    rw [List.cons_append, holds_cons, holds_cons, ih, List.length_cons, and_assoc,
      show o + 1 + xs.length = o + (xs.length + 1) by omega]

theorem Holds.congr (h : Holds R v o xs)
    (hcell : ∀ j, o ≤ j → j < o + xs.length → cell w j = cell v j) : Holds R w o xs := by
  intro i y hy
  have hi : i < xs.length := (List.getElem?_eq_some_iff.mp hy).1
  rw [hcell (o + i) (by omega) (by omega)]
  exact h i y hy

theorem Holds.shiftUp_below (hk : 0 < k) (h : Holds R v o xs) (hbelow : o + xs.length ≤ lo + k) :
    Holds R (shiftUp copy k lo m v) o xs := by
  refine h.congr fun j hj hlt => ?_
  rw [cell_shiftUp hk, if_neg (by omega)]

/-- The cells that were moved up hold what they held before. -/
theorem Holds.shiftUp (hk : 0 < k) (hcopy : ∀ x y, R x y → R (copy x) y) (h : Holds R v o xs)
    (hlo : lo ≤ o) (hm : o + xs.length ≤ m) (hn : m + k ≤ n) :
    Holds R (shiftUp copy k lo m v) (o + k) xs := by
  intro i y hy
  have hi : i < xs.length := (List.getElem?_eq_some_iff.mp hy).1
  have hback : o + k + i - k = o + i := by omega
  rw [cell_shiftUp hk, if_pos (by omega), hback]
  exact hcopy _ _ (h i y hy)

theorem Holds.shiftDown_below (hk : 0 < k) (h : Holds R v o xs) (hbelow : o + xs.length ≤ i) :
    Holds R (shiftDown copy k m i v) o xs := by
  refine h.congr fun j hj hlt => ?_
  rw [cell_shiftDown hk, if_neg (by omega)]

/-- The cells that were moved down hold what they held before. -/
theorem Holds.shiftDown (hk : 0 < k) (hcopy : ∀ x y, R x y → R (copy x) y)
    (h : Holds R v (o + k) xs) (hi : i ≤ o) (hm : o + xs.length ≤ i + m) (hn : i + m ≤ n) :
    Holds R (shiftDown copy k m i v) o xs := by
  intro j y hy
  have hj : j < xs.length := (List.getElem?_eq_some_iff.mp hy).1
  have hfrom : o + j + k = o + k + j := by omega
  rw [cell_shiftDown hk, if_pos (by omega), hfrom]
  exact hcopy _ _ (h j y hy)

theorem Holds.putCells_outside {xs : List α} (h : Holds R v o ys)
    (hout : o + ys.length ≤ p ∨ p + xs.length ≤ o) : Holds R (putCells xs p v) o ys := by
  refine h.congr fun j hj hlt => ?_
  exact cell_putCells_outside (by omega) v

theorem holds_putCells {xs : List α} (hn : o + xs.length ≤ n) (v : Vector α n) :
    Holds Eq (putCells xs o v) o xs := by
  induction xs generalizing o v with
  | nil => exact Holds.nil
  | cons x xs ih =>
    rw [List.length_cons] at hn
    rw [putCells, holds_cons]
    refine ⟨?_, ih (by omega) _⟩
    rw [cell_putCells_outside (by omega), cell_setCell, if_pos (by omega)]

theorem Holds.setCell_outside (h : Holds R v o xs) (hout : p < o ∨ o + xs.length ≤ p) :
    Holds R (setCell v p x) o xs := by
  refine h.congr fun j hj hlt => ?_
  rw [cell_setCell, if_neg (by omega)]

theorem cell_setCell_self (h : o < n) : cell (setCell v o x) o = x := by
  rw [cell_setCell, if_pos ⟨rfl, h⟩]

theorem Holds.at_ {x : β} (h : Holds R v o (xs ++ x :: ys)) :
    R (cell v (o + xs.length)) x :=
  (holds_cons.mp (holds_append.mp h).2).1

/-- Replacing one cell replaces one value. -/
theorem Holds.replace {x x' : β} {a : α} (h : Holds R v o (xs ++ x :: ys)) (hn : o + xs.length < n)
    (ha : R a x') :
    Holds R (setCell v (o + xs.length) a) o (xs ++ x' :: ys) := by
  obtain ⟨hxs, hrest⟩ := holds_append.mp h
  obtain ⟨-, hys⟩ := holds_cons.mp hrest
  refine holds_append.mpr ⟨hxs.setCell_outside (.inr le_rfl), holds_cons.mpr ⟨?_, ?_⟩⟩
  · rw [cell_setCell_self hn]
    exact ha
  · exact hys.setCell_outside (.inl (by omega))

end FixedArray
