import ReistOs.TextEditorDocument

namespace ReistOs

open FixedArray ReferenceEditor TextCursor

section Rows

variable {model : TextEditorModel} {s : TextEditorState} {c : TextCursor Char}

theorem visibleColumns_pos (model : TextEditorModel) : 0 < visibleColumns model := by
  unfold visibleColumns
  dsimp only
  split
  next => exact Nat.one_pos
  next h => exact Nat.pos_of_ne_zero h

theorem visibleRows_pos (model : TextEditorModel) : 0 < visibleRows model := by
  unfold visibleRows
  dsimp only
  split
  next => exact Nat.one_pos
  next h => exact Nat.pos_of_ne_zero h

variable {cs : List Char} {ls : List (List Char)} {i row : Nat}

theorem HoldsLine.visualRows {line : EditorLine} (h : HoldsLine line cs) :
    lineVisualRows model line = rowsOf model cs := by
  have hlt := h.scalarCount_lt
  have hmax : textEditorLineCapacity < maxUint32 := by decide
  unfold lineVisualRows rowsOf
  by_cases hwrap : wrapEnabled model = true
  · have hsome : ¬ cs.length = maxUint32 := by omega
    simp only [hwrap, not_true, if_false, if_true, h.scalarCount, hsome]
    split
    next hzero => rw [hzero, Nat.zero_sub, Nat.zero_div]
    next => rfl
  · simp only [hwrap, not_false_eq_true, if_true, if_false, Bool.false_eq_true]

theorem rowsOf_pos (model : TextEditorModel) (cs : List Char) : 0 < rowsOf model cs := by
  unfold rowsOf
  split
  next => exact Nat.add_pos_left Nat.one_pos _
  next => exact Nat.one_pos

theorem rowsOf_le (model : TextEditorModel) (h : cs.length < textEditorLineCapacity) :
    rowsOf model cs < textEditorLineCapacity := by
  have hdiv : (cs.length - 1) / visibleColumns model ≤ cs.length - 1 := Nat.div_le_self _ _
  have hcapacity : 1 < textEditorLineCapacity := by decide
  unfold rowsOf
  split
  next =>
    calc 1 + (cs.length - 1) / visibleColumns model
        ≤ 1 + (cs.length - 1) := Nat.add_le_add_left hdiv 1
      _ < textEditorLineCapacity := by omega
  next => exact hcapacity

theorem rowsOfLines_le (model : TextEditorModel) (h : ∀ l ∈ ls, l.length < textEditorLineCapacity) :
    rowsOfLines model ls ≤ ls.length * (textEditorLineCapacity - 1) := by
  unfold rowsOfLines
  have hsum := List.sum_le_card_nsmul (ls.map (rowsOf model)) (textEditorLineCapacity - 1) (by
    intro n hn
    obtain ⟨l, hl, rfl⟩ := List.mem_map.mp hn
    have hrows := rowsOf_le model (h l hl)
    omega)
  simpa using hsum

theorem Holds.lengths (h : Holds HoldsLine s.lines i ls) :
    ∀ l ∈ ls, l.length < textEditorLineCapacity := by
  intro l hl
  obtain ⟨j, hj⟩ := List.mem_iff_getElem?.mp hl
  exact (h j l hj).scalarCount_lt

theorem rowsBefore_eq (h : Holds HoldsLine s.lines i ls) :
    s.rowsBefore model ls.length i row = row + rowsOfLines model ls := by
  induction ls generalizing i row with
  | nil => rfl
  | cons l ls ih =>
    obtain ⟨hl, hls⟩ := holds_cons.mp h
    have hrows : lineVisualRows model (s.line i) = rowsOf model l := hl.visualRows
    rw [List.length_cons, TextEditorState.rowsBefore, hrows, ih hls, rowsOfLines, rowsOfLines,
      List.map_cons, List.sum_cons, Nat.add_assoc]

theorem visualRowsFrom_eq {rows : Nat} (h : Holds HoldsLine s.lines i ls)
    (hmax : rows + rowsOfLines model ls ≤ maxUint32) :
    s.visualRowsFrom model ls.length i rows = rows + rowsOfLines model ls := by
  induction ls generalizing i rows with
  | nil => rfl
  | cons l ls ih =>
    obtain ⟨hl, hls⟩ := holds_cons.mp h
    have hrows : lineVisualRows model (s.line i) = rowsOf model l := hl.visualRows
    have hpos := rowsOf_pos model l
    have hsum : rowsOfLines model (l :: ls) = rowsOf model l + rowsOfLines model ls := by
      simp [rowsOfLines]
    rw [hsum] at hmax
    have hno : ¬ (rowsOf model l = 0 ∨ maxUint32 - rowsOf model l < rows) := by omega
    rw [List.length_cons, TextEditorState.visualRowsFrom, hrows, if_neg hno, ih hls (by omega), hsum]
    omega

theorem locateFrom_eq (h : Holds HoldsLine s.lines i ls) :
    s.locateFrom model ls.length i row =
      (locateRow model ls row).map fun place => (i + place.1, place.2) := by
  induction ls generalizing i row with
  | nil => rfl
  | cons l ls ih =>
    obtain ⟨hl, hls⟩ := holds_cons.mp h
    have hrows : lineVisualRows model (s.line i) = rowsOf model l := hl.visualRows
    rw [List.length_cons, TextEditorState.locateFrom, locateRow, hrows]
    by_cases hin : row < rowsOf model l
    · rw [if_pos hin, if_pos hin]
      rfl
    · rw [if_neg hin, if_neg hin, ih hls, Option.map_map]
      congr 1
      funext place
      simp only [Function.comp_apply, Prod.mk.injEq, and_true]
      omega

theorem locateRow_lt {place : Nat × Nat} (h : locateRow model ls row = some place) :
    place.1 < ls.length := by
  induction ls generalizing row place with
  | nil => cases h
  | cons l ls ih =>
    rw [locateRow] at h
    split at h
    next =>
      obtain rfl := Option.some.inj h
      exact Nat.succ_pos _
    next =>
      obtain ⟨q, hq, rfl⟩ := Option.map_eq_some_iff.mp h
      have hlt := ih hq
      rw [List.length_cons]
      omega

theorem locateRow_some (h : row < rowsOfLines model ls) :
    ∃ place, locateRow model ls row = some place := by
  induction ls generalizing row with
  | nil => simp [rowsOfLines] at h
  | cons l ls ih =>
    rw [locateRow]
    split
    next => exact ⟨_, rfl⟩
    next hout =>
      have hsum : rowsOfLines model (l :: ls) = rowsOf model l + rowsOfLines model ls := by
        simp [rowsOfLines]
      have hrow : row - rowsOf model l < rowsOfLines model ls := by omega
      obtain ⟨place, hplace⟩ := ih hrow
      exact ⟨_, by rw [hplace]; rfl⟩

theorem HoldsText.rowsOfLines_le (model : TextEditorModel) (h : HoldsText s c) :
    rowsOfLines model c.lines ≤ textEditorMaxLines * (textEditorLineCapacity - 1) := by
  have hroom := h.room
  have hle := ReistOs.rowsOfLines_le model (Holds.lengths h.lines)
  exact hle.trans (Nat.mul_le_mul_right _ hroom)

theorem HoldsText.documentRows (h : HoldsText s c) :
    s.documentVisualRows model = rowsOfLines model c.lines := by
  have hle := h.rowsOfLines_le model
  have hmax : textEditorMaxLines * (textEditorLineCapacity - 1) < maxUint32 := by decide
  have hzero : 0 + rowsOfLines model c.lines ≤ maxUint32 := by omega
  rw [TextEditorState.documentVisualRows, h.lineCount, visualRowsFrom_eq h.lines hzero,
    Nat.zero_add]

theorem HoldsText.locate (h : HoldsText s c) (row : Nat) :
    s.locateVisualRow model row = locateRow model c.lines row := by
  rw [TextEditorState.locateVisualRow, h.lineCount, locateFrom_eq h.lines]
  simp

theorem HoldsText.cursorRow (h : HoldsText s c) :
    s.cursorVisualRow model = ReistOs.cursorRow model c := by
  have hbefore : Holds HoldsLine s.lines 0 c.before := (holds_append.mp h.lines).1
  have hline : s.cursorLine = c.before.length := h.cursorLine
  have hrows : s.rowsBefore model s.cursorLine 0 0 = rowsOfLines model c.before := by
    rw [hline, rowsBefore_eq hbefore, Nat.zero_add]
  rw [TextEditorState.cursorVisualRow, ReistOs.cursorRow]
  dsimp only
  rw [hrows]
  by_cases hwrap : wrapEnabled model = true
  · rw [if_pos hwrap, if_pos hwrap, h.cursor.scalarCount, h.cursorColumn, List.length_append]
    have hcolumn : c.column = c.left.length := rfl
    by_cases hright : c.right = []
    · rw [if_pos hright, hright, List.length_nil, Nat.add_zero, ← hcolumn]
      by_cases hzero : c.column = 0
      · rw [hzero, if_neg (by simp)]
      · rw [if_pos ⟨rfl, hzero⟩]
    · have hpos : 0 < c.right.length := List.length_pos_iff.mpr hright
      rw [if_neg hright, if_neg (by omega)]
  · rw [if_neg hwrap, if_neg hwrap, Nat.add_zero]

theorem cursorRow_lt (model : TextEditorModel) (c : TextCursor Char) :
    cursorRow model c < rowsOfLines model c.lines := by
  have hsum : rowsOfLines model c.lines = rowsOfLines model c.before +
      (rowsOf model (c.left ++ c.right) + rowsOfLines model c.after) := by
    simp [rowsOfLines, lines]
  have hpos := rowsOf_pos model (c.left ++ c.right)
  rw [cursorRow, hsum]
  split
  next hwrap =>
    have hrows : rowsOf model (c.left ++ c.right) =
        1 + (c.left.length + c.right.length - 1) / visibleColumns model := by
      rw [rowsOf, if_pos hwrap, List.length_append]
    have hle : (if c.right = [] then c.column - 1 else c.column) ≤
        c.left.length + c.right.length - 1 := by
      split
      next hright =>
        rw [hright, column]
        simp
      next hright =>
        have hlen : 0 < c.right.length := List.length_pos_iff.mpr hright
        rw [column]
        omega
    have hdiv : (if c.right = [] then c.column - 1 else c.column) / visibleColumns model ≤
        (c.left.length + c.right.length - 1) / visibleColumns model := Nat.div_le_div_right hle
    omega
  next => omega

end Rows

variable {model : TextEditorModel} {s : TextEditorState} {e : ReferenceEditor} {rows : Nat}

/-- The state with its cursor at a place, and this preferred column. -/
def TextEditorState.placed (s : TextEditorState) (line column preferred : Nat) :
    TextEditorState :=
  { s with cursorLine := line, cursorColumn := column, preferredColumn := preferred }

theorem HoldsText.moveTo {c : TextCursor Char} {line column : Nat} (h : HoldsText s c)
    (hline : line < c.lines.length) (hcolumn : column ≤ (c.lines.getD line []).length)
    (preferred : Nat) :
    Edited s (s.placed line column preferred) (c.moveTo line column) preferred s.modified := by
  have hmoved := h.moved (place_lines hline column) preferred
  rw [place_line hline, place_column c.lines line hcolumn] at hmoved
  exact ⟨rfl, hmoved, rfl, rfl⟩

theorem moveTo_edited {line column : Nat} (h : HoldsText s e.text)
    (hline : line < e.text.lines.length) (hcolumn : column ≤ e.lengthAt line) :
    Edited s (s.placed line column column) (e.moveTo line column).text
      (e.moveTo line column).preferred s.modified :=
  h.moveTo hline hcolumn column

theorem moveLeft_edited (h : HoldsText s e.text) :
    Edited s (s.moveCursor model keyLeft rows) e.moveLeft.text e.moveLeft.preferred
      s.modified := by
  have hcode : s.moveCursor model keyLeft rows =
      if s.cursorColumn ≠ 0 then
        s.placed s.cursorLine (s.cursorColumn - 1) (s.cursorColumn - 1)
      else if s.cursorLine ≠ 0 then
        s.placed (s.cursorLine - 1) (lineScalarCount (s.line (s.cursorLine - 1)))
          (lineScalarCount (s.line (s.cursorLine - 1)))
      else s.placed s.cursorLine s.cursorColumn s.cursorColumn := rfl
  have hlt := e.text.line_lt
  have hle := e.text.column_le
  rw [hcode, h.cursorLine, h.cursorColumn, moveLeft]
  split
  next => exact moveTo_edited h hlt (by rw [lengthAt]; omega)
  next =>
    split
    next =>
      have hprevious : e.text.line - 1 < e.text.lines.length := by omega
      rw [h.scalarCount hprevious]
      exact moveTo_edited h hprevious le_rfl
    next => exact moveTo_edited h hlt hle

theorem moveRight_edited (h : HoldsText s e.text) :
    Edited s (s.moveCursor model keyRight rows) e.moveRight.text e.moveRight.preferred
      s.modified := by
  have hcode : s.moveCursor model keyRight rows =
      if s.cursorColumn < lineScalarCount (s.line s.cursorLine) then
        s.placed s.cursorLine (s.cursorColumn + 1) (s.cursorColumn + 1)
      else if s.cursorLine + 1 < s.lineCount then s.placed (s.cursorLine + 1) 0 0
      else s.placed s.cursorLine s.cursorColumn s.cursorColumn := rfl
  have hlt := e.text.line_lt
  have hle := e.text.column_le
  have hlength : lineScalarCount (s.line s.cursorLine) =
      e.text.left.length + e.text.right.length := by
    rw [h.cursor.scalarCount, List.length_append]
  have hcolumn : e.text.column = e.text.left.length := rfl
  have hcount : s.lineCount = e.text.line + 1 + e.text.after.length := by
    rw [h.lineCount, lines, line]
    simp
    omega
  rw [hcode, hlength, h.cursorLine, h.cursorColumn, hcount, moveRight]
  by_cases hright : e.text.right = []
  · rw [if_neg (by rw [hright, List.length_nil]; omega), if_neg (not_not.mpr hright)]
    by_cases hafter : e.text.after = []
    · rw [if_neg (by rw [hafter, List.length_nil]; omega), if_neg (not_not.mpr hafter)]
      exact moveTo_edited h hlt hle
    · have hpos : 0 < e.text.after.length := List.length_pos_iff.mpr hafter
      rw [if_pos (by omega), if_pos hafter]
      have hnext : e.text.line + 1 < e.text.lines.length := by
        rw [← h.lineCount, hcount]
        omega
      exact moveTo_edited h hnext (Nat.zero_le _)
  · have hpos : 0 < e.text.right.length := List.length_pos_iff.mpr hright
    rw [if_pos (by omega), if_pos hright]
    refine moveTo_edited h hlt ?_
    rw [lengthAt, getD_line, List.length_append]
    omega

theorem moveRows_edited (h : HoldsText s e.text) (hpreferred : s.preferredColumn = e.preferred)
    (up : Bool) (amount : Nat) :
    Edited s (s.moveRows model up amount) (e.moveRows model up amount).text
      (e.moveRows model up amount).preferred s.modified := by
  have hlt := e.text.line_lt
  unfold TextEditorState.moveRows moveRows
  by_cases hwrap : wrapEnabled model = true
  · have hrow := cursorRow_lt model e.text
    rw [if_pos hwrap, if_pos hwrap]
    dsimp only
    rw [h.cursorRow, h.documentRows]
    have htarget : (if up then if amount < cursorRow model e.text then
          cursorRow model e.text - amount else 0
        else if amount < rowsOfLines model e.text.lines - 1 - cursorRow model e.text then
          cursorRow model e.text + amount else rowsOfLines model e.text.lines - 1) =
        if up then cursorRow model e.text - amount
        else min (cursorRow model e.text + amount) (rowsOfLines model e.text.lines - 1) := by
      cases up with
      | true =>
        simp only [if_true]
        split
        next => rfl
        next => omega
      | false =>
        simp only [Bool.false_eq_true, if_false]
        split
        next => omega
        next => omega
    rw [htarget, h.locate]
    obtain ⟨row, hrowEq⟩ : ∃ r, r = if up then cursorRow model e.text - amount
        else min (cursorRow model e.text + amount) (rowsOfLines model e.text.lines - 1) := ⟨_, rfl⟩
    have hin : row < rowsOfLines model e.text.lines := by
      rw [hrowEq]
      split
      next => omega
      next => omega
    rw [← hrowEq]
    obtain ⟨⟨line, first⟩, hplace⟩ := locateRow_some hin
    have hline := locateRow_lt hplace
    rw [hplace]
    dsimp only
    rw [h.scalarCount hline, h.cursorColumn]
    have hmin : (if first + e.text.column % visibleColumns model <
          (e.text.lines.getD line []).length then
          first + e.text.column % visibleColumns model else (e.text.lines.getD line []).length) =
        min (first + e.text.column % visibleColumns model) (e.lengthAt line) := by
      rw [lengthAt]
      split
      next => omega
      next => omega
    rw [hmin]
    exact moveTo_edited h hline (Nat.min_le_right _ _)
  · rw [if_neg hwrap, if_neg hwrap]
    dsimp only
    have htarget : (if up then if amount < s.cursorLine then s.cursorLine - amount else 0
        else if s.lineCount ≤ s.cursorLine + amount then s.lineCount - 1
        else s.cursorLine + amount) =
        if up then e.text.line - amount
        else min (e.text.line + amount) (e.text.lines.length - 1) := by
      rw [h.cursorLine, h.lineCount]
      cases up with
      | true =>
        simp only [if_true]
        split
        next => rfl
        next => omega
      | false =>
        simp only [Bool.false_eq_true, if_false]
        split
        next => omega
        next => omega
    rw [htarget]
    obtain ⟨line, hlineEq⟩ : ∃ l, l = if up then e.text.line - amount
        else min (e.text.line + amount) (e.text.lines.length - 1) := ⟨_, rfl⟩
    have hline : line < e.text.lines.length := by
      rw [hlineEq]
      split
      next => omega
      next => omega
    rw [← hlineEq, h.scalarCount hline, hpreferred]
    have hmin : (if e.preferred < (e.text.lines.getD line []).length then e.preferred
        else (e.text.lines.getD line []).length) = min e.preferred (e.lengthAt line) := by
      rw [lengthAt]
      split
      next => omega
      next => omega
    rw [hmin]
    have hedit := h.moveTo hline (Nat.min_le_right e.preferred (e.lengthAt line)) e.preferred
    rw [TextEditorState.placed, ← hpreferred] at hedit
    rw [← hpreferred]
    exact hedit

theorem press_edited {x y : Int} (h : HoldsText s e.text) (hfirstLine : s.firstLine = e.firstLine)
    (hfirstColumn : s.firstColumn = e.firstColumn)
    (hvisual : e.firstLine + (y - model.bounds.y).toNat / model.glyphHeight ≤ maxUint32) :
    Edited s (s.placeCursor model x y) (e.press model x y).text (e.press model x y).preferred
      s.modified := by
  have hlt := e.text.line_lt
  have hlast : e.text.lines.length - 1 < e.text.lines.length := by omega
  unfold TextEditorState.placeCursor press
  dsimp only
  rw [hfirstLine, if_neg (by omega), h.locate, h.lineCount, (h.line_getD hlast).visualRows,
    hfirstColumn]
  have hbelow : (if wrapEnabled model then
        (rowsOf model (e.text.lines.getD (e.text.lines.length - 1) []) - 1) * visibleColumns model
      else e.firstColumn) =
      if wrapEnabled model then
        (e.lengthAt (e.text.lines.length - 1) - 1) / visibleColumns model * visibleColumns model
      else e.firstColumn := by
    split
    next hwrap => rw [rowsOf, if_pos hwrap, Nat.add_sub_cancel_left, lengthAt]
    next => rfl
  rw [hbelow]
  obtain ⟨place, hplace⟩ : ∃ p, p = (locateRow model e.text.lines
      (e.firstLine + (y - model.bounds.y).toNat / model.glyphHeight)).getD
      (e.text.lines.length - 1, if wrapEnabled model then
        (e.lengthAt (e.text.lines.length - 1) - 1) / visibleColumns model * visibleColumns model
      else e.firstColumn) := ⟨_, rfl⟩
  have hline : place.1 < e.text.lines.length := by
    rw [hplace]
    cases hlocated : locateRow model e.text.lines
        (e.firstLine + (y - model.bounds.y).toNat / model.glyphHeight) with
    | none => exact hlast
    | some found => exact locateRow_lt hlocated
  rw [← hplace, h.scalarCount hline]
  have hmin : (if (e.text.lines.getD place.1 []).length <
        place.2 + (x - model.bounds.x).toNat / model.glyphWidth then
        (e.text.lines.getD place.1 []).length
      else place.2 + (x - model.bounds.x).toNat / model.glyphWidth) =
      min (place.2 + (x - model.bounds.x).toNat / model.glyphWidth) (e.lengthAt place.1) := by
    rw [lengthAt]
    split
    next => exact (Nat.min_eq_right (by omega)).symm
    next => exact (Nat.min_eq_left (by omega)).symm
  rw [hmin]
  have hedit := moveTo_edited h hline
    (Nat.min_le_right (place.2 + (x - model.bounds.x).toNat / model.glyphWidth) _)
  rw [TextEditorState.placed, h.lineCount, hfirstLine, hfirstColumn] at hedit
  exact hedit

theorem moveKey_cases {key : Nat} (hvalid : keyLeft ≤ key)
    (hkey : key ≤ keyPageDown ∨ key = keyDocumentHome ∨ key = keyDocumentEnd) :
    key = keyLeft ∨ key = keyRight ∨ key = keyUp ∨ key = keyDown ∨ key = keyHome ∨
      key = keyEnd ∨ key = keyPageUp ∨ key = keyPageDown ∨ key = keyDocumentHome ∨
      key = keyDocumentEnd := by
  simp only [keyLeft, keyRight, keyUp, keyDown, keyHome, keyEnd, keyPageUp, keyPageDown,
    keyDocumentHome, keyDocumentEnd] at *
  omega

theorem moveCursor_edited {key : Nat} (h : HoldsText s e.text)
    (hpreferred : s.preferredColumn = e.preferred) (hvalid : keyLeft ≤ key)
    (hkey : key ≤ keyPageDown ∨ key = keyDocumentHome ∨ key = keyDocumentEnd) :
    Edited s (s.moveCursor model key (visibleRows model)) (e.pressKey model (editorKey key)).text
      (e.pressKey model (editorKey key)).preferred s.modified := by
  have hlt := e.text.line_lt
  have hlast : e.text.lines.length - 1 < e.text.lines.length := by omega
  have hcursor : lineScalarCount (s.line s.cursorLine) = e.lengthAt e.text.line := by
    rw [h.cursorLine, h.scalarCount hlt, lengthAt]
  rcases moveKey_cases hvalid hkey with rfl | rfl | rfl | rfl | rfl | rfl | rfl | rfl | rfl | rfl
  · exact moveLeft_edited h
  · exact moveRight_edited h
  · exact moveRows_edited h hpreferred true 1
  · exact moveRows_edited h hpreferred false 1
  · have hedit := moveTo_edited h hlt (Nat.zero_le _)
    rw [← h.cursorLine] at hedit
    rw [show (e.pressKey model (editorKey keyHome)) = e.moveTo e.text.line 0 from rfl,
      ← h.cursorLine]
    exact hedit
  · have hedit := moveTo_edited h hlt (le_refl (e.lengthAt e.text.line))
    rw [show (e.pressKey model (editorKey keyEnd)) =
      e.moveTo e.text.line (e.lengthAt e.text.line) from rfl]
    rw [← hcursor, ← h.cursorLine] at hedit ⊢
    exact hedit
  · exact moveRows_edited h hpreferred true (visibleRows model)
  · exact moveRows_edited h hpreferred false (visibleRows model)
  · exact moveTo_edited h (by omega) (Nat.zero_le _)
  · have hedit := moveTo_edited h hlast (le_refl (e.lengthAt (e.text.lines.length - 1)))
    have hend : lineScalarCount (s.line (s.lineCount - 1)) =
        e.lengthAt (e.text.lines.length - 1) := by
      rw [h.lineCount, h.scalarCount hlast, lengthAt]
    rw [show (e.pressKey model (editorKey keyDocumentEnd)) =
      e.moveTo (e.text.lines.length - 1) (e.lengthAt (e.text.lines.length - 1)) from rfl]
    rw [← hend, ← h.lineCount] at hedit ⊢
    exact hedit

end ReistOs
