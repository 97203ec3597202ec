import ReistOs.TextEditorLines

namespace ReistOs

open FixedArray TextCursor

/-- The state holds this document and its cursor. -/
structure HoldsText (s : TextEditorState) (c : TextCursor Char) : Prop where
  lines : Holds HoldsLine s.lines 0 c.lines
  lineCount : s.lineCount = c.lines.length
  room : c.lines.length ≤ textEditorMaxLines
  cursorLine : s.cursorLine = c.line
  cursorColumn : s.cursorColumn = c.column

/-- A change of the document and the cursor, and of nothing else. -/
structure Edited (s s' : TextEditorState) (c : TextCursor Char) (preferred modified : Nat) :
    Prop where
  frame : { s' with
    lines := s.lines
    lineCount := s.lineCount
    cursorLine := s.cursorLine
    cursorColumn := s.cursorColumn
    preferredColumn := s.preferredColumn
    modified := s.modified } = s
  text : HoldsText s' c
  preferred : s'.preferredColumn = preferred
  modified : s'.modified = modified

variable {s : TextEditorState} {c : TextCursor Char}

theorem Edited.of_moved {s' : TextEditorState} {line column before preferred modified : Nat}
    (h : Edited { s with
      cursorLine := line
      cursorColumn := column
      preferredColumn := before } s' c preferred modified) : Edited s s' c preferred modified :=
  ⟨congrArg (fun t : TextEditorState => { t with
    cursorLine := s.cursorLine
    cursorColumn := s.cursorColumn
    preferredColumn := s.preferredColumn }) h.frame, h.text, h.preferred, h.modified⟩

theorem HoldsText.cursor (h : HoldsText s c) :
    HoldsLine (s.line s.cursorLine) (c.left ++ c.right) := by
  have hcell := h.lines.at_
  rw [Nat.zero_add] at hcell
  rw [TextEditorState.line, h.cursorLine]
  exact hcell

variable {i : Nat} {letter : Char}

section

variable (h : HoldsText s c)
include h

theorem HoldsText.line {cs : List Char} (hi : c.lines[i]? = some cs) :
    HoldsLine (s.line i) cs := by
  have hcell := h.lines i cs hi
  rwa [Nat.zero_add] at hcell

theorem HoldsText.line_getD (hi : i < c.lines.length) :
    HoldsLine (s.line i) (c.lines.getD i []) := by
  apply h.line
  rw [List.getD_eq_getElem _ _ hi, List.getElem?_eq_getElem hi]

theorem HoldsText.scalarCount (hi : i < c.lines.length) :
    lineScalarCount (s.line i) = (c.lines.getD i []).length :=
  (h.line_getD hi).scalarCount

theorem HoldsText.byteOffset :
    lineByteOffset (s.line s.cursorLine) s.cursorColumn = (encodeText c.left).length := by
  rw [h.cursorColumn]
  exact h.cursor.byteOffset

theorem HoldsText.offset_lt : (encodeText c.left).length < maxUint32 := by
  have hfits := h.cursor.fits
  rw [encodeText_append, List.length_append] at hfits
  have hcapacity : textEditorLineCapacity < maxUint32 := by decide
  omega

theorem HoldsText.line_lt : c.before.length < textEditorMaxLines :=
  c.line_lt.trans_le h.room

theorem insertCharacter_edited (hplain : plainChar letter = true)
    (hfits : (encodeText (c.left ++ letter :: c.right)).length < textEditorLineCapacity) :
    Edited s (s.insertCharacter (String.utf8EncodeChar letter)) (c.insert letter)
      (c.column + 1) 1 := by
  have hline := h.cursor.inserted hplain hfits
  rw [← h.cursor.length, ← h.byteOffset] at hline
  have hlines := h.lines.replace (by rw [Nat.zero_add]; exact h.line_lt) hline
  rw [Nat.zero_add] at hlines
  refine ⟨rfl, ⟨?_, ?_, ?_, ?_, ?_⟩, ?_, rfl⟩
  · rw [lines_insert]
    simp only [TextEditorState.insertCharacter, h.cursorLine]
    rw [h.cursorLine] at hlines
    exact hlines
  · rw [lines_insert]
    have hcount := h.lineCount
    simpa [TextEditorState.insertCharacter, lines] using hcount
  · rw [TextCursor.lines_insert]
    simpa [TextCursor.lines] using h.room
  · exact h.cursorLine
  · simp [TextEditorState.insertCharacter, TextCursor.insert, TextCursor.column, h.cursorColumn]
  · simp [TextEditorState.insertCharacter, TextCursor.column, h.cursorColumn]

theorem insertNewline_full (hfull : c.lines.length = textEditorMaxLines) :
    s.insertNewline = (false, s) := by
  rw [TextEditorState.insertNewline, if_pos (h.lineCount.trans hfull)]

theorem insertNewline_edited (hroom : c.lines.length < textEditorMaxLines) :
    ∃ s', s.insertNewline = (true, s') ∧ Edited s s' c.newline 0 1 := by
  have hcount : s.lineCount ≠ textEditorMaxLines := by
    rw [h.lineCount]
    omega
  have hoffset : lineByteOffset (s.line s.cursorLine) s.cursorColumn ≠ maxUint32 := by
    rw [h.byteOffset]
    exact h.offset_lt.ne
  have hlen : c.lines.length = c.before.length + (c.after.length + 1) := by simp [lines]
  have hline : s.cursorLine = c.before.length := h.cursorLine
  have hlineCount := h.lineCount
  obtain ⟨moved, hmoved⟩ : ∃ m, m = shiftUp (fun line => copyLine line.toList) 1
    (s.cursorLine + 1) s.lineCount s.lines := ⟨_, rfl⟩
  have hcopy : ∀ line cs, HoldsLine line cs → HoldsLine (copyLine line.toList) cs :=
    fun _ _ hl => hl.copied
  have hall : Holds HoldsLine s.lines 0 (c.before ++ [c.left ++ c.right] ++ c.after) := by
    have hlines := h.lines
    rwa [lines, List.append_cons] at hlines
  obtain ⟨hupper, hlower⟩ := holds_append.mp hall
  rw [List.length_append, List.length_singleton, Nat.zero_add] at hlower
  have hmovedUpper : Holds HoldsLine moved 0 (c.before ++ [c.left ++ c.right]) := by
    rw [hmoved]
    exact hupper.shiftUp_below Nat.one_pos (by simp; omega)
  have hmovedLower : Holds HoldsLine moved (c.before.length + 1 + 1) c.after := by
    rw [hmoved]
    exact hlower.shiftUp Nat.one_pos hcopy (by omega) (by omega) (by omega)
  have hcursor : HoldsLine (cell moved s.cursorLine) (c.left ++ c.right) := by
    have hat := hmovedUpper.at_
    rwa [Nat.zero_add, ← hline] at hat
  obtain ⟨hbefore, -⟩ := holds_append.mp hmovedUpper
  obtain ⟨split, hsplit⟩ : ∃ n, n = lineByteOffset (s.line s.cursorLine) s.cursorColumn := ⟨_, rfl⟩
  have hleft : split = (encodeText c.left).length := hsplit.trans h.byteOffset
  obtain ⟨opened, hopened⟩ : ∃ v, v = setCell moved (s.cursorLine + 1)
    (copyLine ((cell moved s.cursorLine).toList.drop split)) := ⟨_, rfl⟩
  have hsame : cell opened s.cursorLine = cell moved s.cursorLine := by
    rw [hopened, cell_setCell, if_neg (by omega)]
  have hlines : Holds HoldsLine (setCell opened s.cursorLine
      (setCell (cell opened s.cursorLine) split 0)) 0 c.newline.lines := by
    rw [lines_newline, hsame, hleft]
    refine holds_append.mpr ⟨?_, holds_cons.mpr ⟨?_, holds_cons.mpr ⟨?_, ?_⟩⟩⟩
    · refine Holds.setCell_outside ?_ (.inr (by omega))
      rw [hopened]
      exact hbefore.setCell_outside (.inr (by omega))
    · rw [Nat.zero_add, ← hline, cell_setCell_self (by omega)]
      exact hcursor.cut
    · rw [Nat.zero_add, ← hline, cell_setCell, if_neg (by omega), hopened,
        cell_setCell_self (by omega), hleft]
      exact hcursor.copied_tail
    · rw [Nat.zero_add]
      refine Holds.setCell_outside ?_ (.inl (by omega))
      rw [hopened]
      exact hmovedLower.setCell_outside (.inl (by omega))
  refine ⟨{ s with
    lines := setCell opened s.cursorLine (setCell (cell opened s.cursorLine) split 0)
    lineCount := s.lineCount + 1
    cursorLine := s.cursorLine + 1
    cursorColumn := 0
    preferredColumn := 0
    modified := 1 }, ?_, rfl, ⟨hlines, ?_, ?_, ?_, ?_⟩, rfl, rfl⟩
  · rw [TextEditorState.insertNewline, if_neg hcount]
    rw [if_neg hoffset, hopened, hmoved, hsplit]
  · rw [lines_newline]
    simp
    omega
  · rw [lines_newline]
    simp
    omega
  · simp [newline, line, hline]
  · simp [newline, column]

theorem deleteAtCursor_scalar {rest : List Char} (hright : c.right = letter :: rest) :
    ∃ s', s.deleteAtCursor = (true, s') ∧
      Edited s s' { c with right := rest } s.preferredColumn 1 := by
  have hcursor := h.cursor
  rw [hright] at hcursor
  have hcolumns : s.cursorColumn < lineScalarCount (s.line s.cursorLine) := by
    rw [hcursor.scalarCount, h.cursorColumn, column]
    simp
  have hoffset : lineByteOffset (s.line s.cursorLine) s.cursorColumn ≠ maxUint32 := by
    rw [h.byteOffset]
    exact h.offset_lt.ne
  have hdecode := hcursor.decode
  rw [← h.byteOffset] at hdecode
  have hdeleted := hcursor.deleted
  rw [← hcursor.length, ← h.byteOffset] at hdeleted
  have hlines := h.lines.replace (by rw [Nat.zero_add]; exact h.line_lt) hdeleted
  rw [Nat.zero_add, show c.before.length = s.cursorLine from h.cursorLine.symm] at hlines
  have hcount := h.lineCount
  have hroom := h.room
  refine ⟨{ s with
    lines := setCell s.lines s.cursorLine (shiftDown id letter.utf8Size
      (lineLength (s.line s.cursorLine) + 1 - letter.utf8Size -
        lineByteOffset (s.line s.cursorLine) s.cursorColumn)
      (lineByteOffset (s.line s.cursorLine) s.cursorColumn) (s.line s.cursorLine))
    modified := 1 }, ?_, rfl, ⟨hlines, ?_, ?_, h.cursorLine, h.cursorColumn⟩, rfl, rfl⟩
  · rw [TextEditorState.deleteAtCursor]
    rw [if_pos hcolumns, if_neg hoffset, hdecode]
  · simpa [lines] using hcount
  · simpa [lines] using hroom

theorem deleteAtCursor_columns (hright : c.right = []) :
    ¬ s.cursorColumn < lineScalarCount (s.line s.cursorLine) := by
  rw [h.cursor.scalarCount, h.cursorColumn, hright, List.append_nil, column]
  exact Nat.lt_irrefl _

variable {after : List (List Char)}

theorem HoldsText.next {next : List Char}
    (hafter : c.after = next :: after) : HoldsLine (s.line (s.cursorLine + 1)) next := by
  have hline : s.cursorLine = c.before.length := h.cursorLine
  apply h.line
  rw [TextCursor.lines, hafter, hline]
  simp

theorem HoldsText.more {next : List Char}
    (hafter : c.after = next :: after) : s.lineCount = s.cursorLine + 1 + (after.length + 1) := by
  have hline : s.cursorLine = c.before.length := h.cursorLine
  rw [h.lineCount, TextCursor.lines, hafter, hline]
  simp
  omega

theorem deleteAtCursor_full {next : List Char} (hright : c.right = [])
    (hafter : c.after = next :: after)
    (hfull : textEditorLineCapacity ≤ (encodeText (c.left ++ next)).length) :
    s.deleteAtCursor = (false, s) := by
  have hmore := h.more hafter
  have hcursor := h.cursor
  rw [hright, List.append_nil] at hcursor
  rw [encodeText_append, List.length_append, ← hcursor.length, ← (h.next hafter).length] at hfull
  rw [TextEditorState.deleteAtCursor]
  rw [if_neg (deleteAtCursor_columns h hright), if_pos (by omega), if_pos hfull]

theorem deleteAtCursor_end (hright : c.right = []) (hafter : c.after = []) :
    s.deleteAtCursor = (false, s) := by
  have hline : s.cursorLine = c.before.length := h.cursorLine
  have hcount : s.lineCount = s.cursorLine + 1 := by
    rw [h.lineCount, lines, hafter, hline]
    simp
  rw [TextEditorState.deleteAtCursor]
  rw [if_neg (deleteAtCursor_columns h hright), if_neg (by omega)]

theorem deleteAtCursor_join {next : List Char} (hright : c.right = [])
    (hafter : c.after = next :: after)
    (hfits : (encodeText (c.left ++ next)).length < textEditorLineCapacity) :
    ∃ s', s.deleteAtCursor = (true, s') ∧
      Edited s s' { c with right := next, after := after } s.preferredColumn 1 := by
  have hmore := h.more hafter
  have hnext := h.next hafter
  have hline : s.cursorLine = c.before.length := h.cursorLine
  have hcursor := h.cursor
  rw [hright, List.append_nil] at hcursor
  rw [encodeText_append, List.length_append] at hfits
  have hjoined := hcursor.joined hnext hfits
  rw [← hnext.length, ← hcursor.length] at hjoined
  have hall := h.lines
  have hcount := h.lineCount
  have hroom := h.room
  rw [lines, hafter] at hall
  have hreplaced := hall.replace (by rw [Nat.zero_add]; exact h.line_lt) hjoined
  rw [Nat.zero_add, ← hline, List.append_cons, List.append_cons] at hreplaced
  obtain ⟨replaced, hreplacedEq⟩ : ∃ v, v = setCell s.lines s.cursorLine
    (putCells ((s.line (s.cursorLine + 1)).toList.take
      (lineLength (s.line (s.cursorLine + 1)) + 1)) (lineLength (s.line s.cursorLine))
      (s.line s.cursorLine)) := ⟨_, rfl⟩
  rw [← hreplacedEq] at hreplaced
  obtain ⟨hfront, hback⟩ := holds_append.mp hreplaced
  obtain ⟨hupper, -⟩ := holds_append.mp hfront
  have hcopy : ∀ line cs, HoldsLine line cs → HoldsLine (copyLine line.toList) cs :=
    fun _ _ hl => hl.copied
  have hlen : c.before.length + 1 + (after.length + 1) ≤ textEditorMaxLines := by omega
  have hshifted : Holds HoldsLine (shiftDown (fun line => copyLine line.toList) 1
      (s.lineCount - 1 - (s.cursorLine + 1)) (s.cursorLine + 1) replaced) 0
      (c.before ++ [c.left ++ next] ++ after) := by
    refine holds_append.mpr ⟨hupper.shiftDown_below Nat.one_pos (by simp; omega), ?_⟩
    refine Holds.shiftDown Nat.one_pos hcopy ?_ (by simp; omega) (by simp; omega) (by omega)
    simpa [Nat.add_assoc] using hback
  refine ⟨{ s with
    lines := setCell (shiftDown (fun line => copyLine line.toList) 1
      (s.lineCount - 1 - (s.cursorLine + 1)) (s.cursorLine + 1) replaced) (s.lineCount - 1)
      clearLine
    lineCount := s.lineCount - 1
    modified := 1 }, ?_, rfl, ⟨?_, ?_, ?_, h.cursorLine, h.cursorColumn⟩, rfl, rfl⟩
  · rw [TextEditorState.deleteAtCursor]
    rw [if_neg (deleteAtCursor_columns h hright), if_pos (by omega),
      if_neg (by rw [hcursor.length, hnext.length]; omega), hreplacedEq]
  · have hcut := hshifted.setCell_outside (p := s.lineCount - 1) (x := clearLine)
      (.inr (by simp; omega))
    simpa [lines] using hcut
  · simp [lines]
    omega
  · simp [lines]
    omega

theorem HoldsText.moved {c' : TextCursor Char} (hlines : c'.lines = c.lines) (preferred : Nat) :
    HoldsText { s with
      cursorLine := c'.line
      cursorColumn := c'.column
      preferredColumn := preferred } c' := by
  refine ⟨?_, ?_, ?_, rfl, rfl⟩
  · rw [hlines]
    exact h.lines
  · rw [hlines]
    exact h.lineCount
  · rw [hlines]
    exact h.room

theorem backspace_scalar {before : List Char} (hleft : c.left = before ++ [letter]) :
    ∃ s', s.backspace = (true, s') ∧ Edited s s' { c with left := before } before.length 1 := by
  have hcolumn : s.cursorColumn = before.length + 1 := by
    rw [h.cursorColumn, column, hleft]
    simp
  have hlines : TextCursor.lines { c with left := before, right := letter :: c.right } =
      c.lines := by
    rw [lines, lines, hleft, List.append_assoc, List.singleton_append]
  have hmoved := h.moved hlines before.length
  have hline : TextCursor.line { c with left := before, right := letter :: c.right } =
      s.cursorLine := h.cursorLine.symm
  rw [hline] at hmoved
  obtain ⟨s', hs', hedit⟩ := deleteAtCursor_scalar hmoved rfl
  refine ⟨s', ?_, hedit.of_moved⟩
  rw [TextEditorState.backspace, if_pos (by omega), hcolumn, Nat.add_sub_cancel]
  exact hs'

theorem backspace_start (hleft : c.left = []) (hbefore : c.before = []) :
    s.backspace = (false, s) := by
  have hcolumn : s.cursorColumn = 0 := by
    rw [h.cursorColumn, column, hleft]
    rfl
  have hline : s.cursorLine = 0 := by
    rw [h.cursorLine, line, hbefore]
    rfl
  rw [TextEditorState.backspace, if_neg (by omega), if_pos hline]

end

variable {above : List (List Char)} {ending : List Char}

theorem HoldsText.previous (h : HoldsText s c) (hbefore : c.before = above ++ [ending]) :
    s.cursorLine = above.length + 1 ∧ HoldsLine (s.line (s.cursorLine - 1)) ending := by
  have hline : s.cursorLine = above.length + 1 := by
    rw [h.cursorLine, TextCursor.line, hbefore]
    simp
  refine ⟨hline, ?_⟩
  rw [hline, Nat.add_sub_cancel]
  apply h.line
  rw [TextCursor.lines, hbefore]
  simp

theorem backspace_full (h : HoldsText s c) (hleft : c.left = [])
    (hbefore : c.before = above ++ [ending])
    (hfull : textEditorLineCapacity ≤ (encodeText (ending ++ c.right)).length) :
    s.backspace = (false, s) := by
  obtain ⟨hline, hprevious⟩ := h.previous hbefore
  have hcolumn : s.cursorColumn = 0 := by
    rw [h.cursorColumn, column, hleft]
    rfl
  have hcursor := h.cursor
  rw [hleft, List.nil_append] at hcursor
  rw [encodeText_append, List.length_append, ← hprevious.length, ← hcursor.length] at hfull
  rw [TextEditorState.backspace, if_neg (by omega), if_neg (by omega)]
  rw [if_pos hfull]

theorem backspace_join (h : HoldsText s c) (hleft : c.left = [])
    (hbefore : c.before = above ++ [ending])
    (hfits : (encodeText (ending ++ c.right)).length < textEditorLineCapacity) :
    ∃ s', s.backspace = (true, s') ∧
      Edited s s' { c with before := above, left := ending } ending.length 1 := by
  obtain ⟨hline, hprevious⟩ := h.previous hbefore
  have hcolumn : s.cursorColumn = 0 := by
    rw [h.cursorColumn, column, hleft]
    rfl
  have hcursor := h.cursor
  rw [hleft, List.nil_append] at hcursor
  have hroom := hfits
  rw [encodeText_append, List.length_append, ← hprevious.length, ← hcursor.length] at hroom
  have hlines : TextCursor.lines ⟨above, ending, [], c.right :: c.after⟩ = c.lines := by
    rw [lines, lines, hleft, hbefore]
    simp
  have hmoved := h.moved hlines ending.length
  have hback : TextCursor.line ⟨above, ending, [], c.right :: c.after⟩ = s.cursorLine - 1 := by
    rw [hline]
    rfl
  rw [hback] at hmoved
  obtain ⟨s', hs', hedit⟩ := deleteAtCursor_join hmoved rfl rfl hfits
  refine ⟨s', ?_, hedit.of_moved⟩
  rw [TextEditorState.backspace, if_neg (by omega), if_neg (by omega), if_neg (by omega),
    hprevious.scalarCount]
  exact hs'

end ReistOs
