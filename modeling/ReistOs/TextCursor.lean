import Mathlib.Tactic

/-! A document of lines with a cursor between two letters. -/

/-- The lines above the cursor's line, what is left and right of the cursor, the lines below. -/
structure TextCursor (α : Type) where
  before : List (List α)
  left : List α
  right : List α
  after : List (List α)

namespace TextCursor

variable {α : Type} {c : TextCursor α}

def lines (c : TextCursor α) : List (List α) := c.before ++ (c.left ++ c.right) :: c.after

def line (c : TextCursor α) : Nat := c.before.length

def column (c : TextCursor α) : Nat := c.left.length

/-- The cursor of a document at a line and a column. -/
def place (lines : List (List α)) (line column : Nat) : TextCursor α :=
  { before := lines.take line
    left := (lines.getD line []).take column
    right := (lines.getD line []).drop column
    after := lines.drop (line + 1) }

def insert (letter : α) (c : TextCursor α) : TextCursor α := { c with left := c.left ++ [letter] }

def newline (c : TextCursor α) : TextCursor α :=
  { c with before := c.before ++ [c.left], left := [] }

/-- Removes the letter on the right, or joins the next line; none at the end of the document. -/
def delete (c : TextCursor α) : Option (TextCursor α) :=
  if c.right ≠ [] then some { c with right := c.right.tail }
  else c.after.head?.map fun next => { c with right := next, after := c.after.tail }

/-- Removes the letter on the left, or joins the line before; none at the start. -/
def backspace (c : TextCursor α) : Option (TextCursor α) :=
  if c.left ≠ [] then some { c with left := c.left.dropLast }
  else c.before.getLast?.map fun previous =>
    { c with before := c.before.dropLast, left := previous }

def moveTo (line column : Nat) (c : TextCursor α) : TextCursor α := place c.lines line column

theorem line_lt (c : TextCursor α) : c.line < c.lines.length := by
  simp [line, lines]

theorem getD_line (c : TextCursor α) : c.lines.getD c.line [] = c.left ++ c.right := by
  simp [line, lines]

theorem place_lines {ls : List (List α)} {i : Nat} (h : i < ls.length) (j : Nat) :
    (place ls i j).lines = ls := by
  have hline : ls.getD i [] = ls[i] := by simp [List.getD_eq_getElem?_getD, h]
  unfold place lines
  rw [List.take_append_drop, hline]
  rw [List.cons_getElem_drop_succ, List.take_append_drop]

theorem place_line {ls : List (List α)} {i : Nat} (h : i < ls.length) (j : Nat) :
    (place ls i j).line = i := by
  have hle : i ≤ ls.length := h.le
  simp [place, line, hle]

theorem place_column (ls : List (List α)) (i : Nat) {j : Nat} (h : j ≤ (ls.getD i []).length) :
    (place ls i j).column = j := by
  rw [column, place, List.length_take]
  exact min_eq_left h

theorem column_le (c : TextCursor α) : c.column ≤ (c.lines.getD c.line []).length := by
  rw [getD_line, List.length_append, column]
  omega

theorem lines_insert (letter : α) :
    (c.insert letter).lines = c.before ++ (c.left ++ letter :: c.right) :: c.after := by
  simp [insert, lines]

theorem lines_newline : c.newline.lines = c.before ++ c.left :: c.right :: c.after := by
  simp [newline, lines]

end TextCursor
