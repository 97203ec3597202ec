import ReistOs.TextEditorGuarantees

/-! Presses into the text of `userspace/gui/lib/text_editor.c`: what the view shows in a cell, and
where a press in the cell puts the cursor. -/

namespace ReistOs

open TextEditorState

structure TextEditorViewport where
  visibleLines : Nat
  visibleColumns : Nat
  maximumFirstLine : Nat
  maximumFirstColumn : Nat
  firstLine : Nat
  firstColumn : Nat
  deriving DecidableEq

def maximumLineColumns (state : TextEditorState) : Nat :=
  (List.range state.lineCount).foldl (fun maximum i => max maximum (lineScalarCount (state.line i))) 0

def textEditorGetViewport (model : TextEditorModel) (state : TextEditorState) :
    Except Int TextEditorViewport :=
  if textEditorValidate model state ≠ textEditorOk ∨ state.configured = 0 then
    .error textEditorEinval
  else
    let visualRows := state.documentVisualRows model
    if visualRows = 0 then .error textEditorEinval
    else
      let maximumFirstLine := visualRows - visibleRows model
      let maximumFirstColumn :=
        if wrapEnabled model then 0 else maximumLineColumns state - visibleColumns model
      .ok
        { visibleLines := visibleRows model
          visibleColumns := visibleColumns model
          maximumFirstLine := maximumFirstLine
          maximumFirstColumn := maximumFirstColumn
          firstLine := min state.firstLine maximumFirstLine
          firstColumn := min state.firstColumn maximumFirstColumn }

def textEditorVisualRow (model : TextEditorModel) (state : TextEditorState) (visualRow : Nat) :
    Except Int (Nat × Nat) :=
  if textEditorValidate model state ≠ textEditorOk ∨ state.configured = 0 then
    .error textEditorEinval
  else
    match state.locateVisualRow model visualRow with
    | none => .error textEditorEinval
    | some found => .ok found

def textEditorScrollTo (model : TextEditorModel) (state : TextEditorState)
    (firstLine firstColumn : Nat) (result : TextEditorResult) :
    Int × TextEditorState × TextEditorResult :=
  if textEditorValidate model state ≠ textEditorOk ∨ state.configured = 0 ∨
      ¬ resultValid result then (textEditorEinval, state, result)
  else
    match textEditorGetViewport model state with
    | .error _ => (textEditorEinval, state, result)
    | .ok viewport =>
      let scrolled := { state with
        firstLine := min firstLine viewport.maximumFirstLine
        firstColumn := min firstColumn viewport.maximumFirstColumn }
      let result := publishState model state result
      let result :=
        if state.firstLine ≠ scrolled.firstLine ∨ state.firstColumn ≠ scrolled.firstColumn then
          requestFull model result
        else result
      (textEditorOk, scrolled, publishState model scrolled result)

inductive ViewCall
  | edit (call : EditorCall)
  | scrollTo (firstLine firstColumn : Nat) (result : TextEditorResult)

def ViewCall.run (model : TextEditorModel) (state : TextEditorState) : ViewCall → TextEditorState
  | .edit call => (call.run model state).2.1
  | .scrollTo firstLine firstColumn result =>
    (textEditorScrollTo model state firstLine firstColumn result).2.1

def viewRun (model : TextEditorModel) (state : TextEditorState) (calls : List ViewCall) :
    TextEditorState :=
  calls.foldl (ViewCall.run model) state

def cellRow (model : TextEditorModel) (y : Int) : Nat := (y - model.bounds.y).toNat / model.glyphHeight

def cellColumn (model : TextEditorModel) (x : Int) : Nat :=
  (x - model.bounds.x).toNat / model.glyphWidth

structure Pressed (model : TextEditorModel) (event : TextEditorEvent) : Prop where
  valid : eventValid event = true
  button : event.type = eventPointerButton
  pressed : event.pressed ≠ 0
  inside : pointInside model.bounds event.x event.y = true
  active : interactive model.flags = true

/-- The cursor is at the character that the view shows in the cell, or at the end of its line. -/
def LandsOn (model : TextEditorModel) (state : TextEditorState) (viewport : TextEditorViewport)
    (line first column : Nat) (after : TextEditorState) : Prop :=
  after.cursorLine = line ∧ after.cursorColumn =
    min (first + (if wrapEnabled model then 0 else viewport.firstColumn) + column)
      (lineScalarCount (state.line line))

/-- The stored first line leaves no more of the view empty than it has to. -/
def ScrolledWithin (model : TextEditorModel) (state : TextEditorState) : Prop :=
  state.firstLine = 0 ∨ state.firstLine + visibleRows model ≤ state.documentVisualRows model

section

variable {model : TextEditorModel} {s t : TextEditorState} {count i row line first : Nat}

theorem locateFrom_lines (h : t.lines = s.lines) :
    t.locateFrom model count i row = s.locateFrom model count i row := by
  induction count generalizing i row with
  | zero => rfl
  | succ count ih =>
    have hline : t.line i = s.line i := by rw [line, line, h]
    rw [locateFrom, locateFrom, hline, ih]

theorem locateFrom_unwrapped (hwrap : wrapEnabled model = false)
    (h : s.locateFrom model count i row = some (line, first)) : first = 0 := by
  induction count generalizing i row with
  | zero => cases h
  | succ count ih =>
    simp only [locateFrom, hwrap, Bool.false_eq_true, if_false] at h
    split at h
    next =>
      cases h
      rfl
    next => exact ih h

theorem visualRow_ok (h : textEditorVisualRow model s row = .ok (line, first)) :
    s.locateVisualRow model row = some (line, first) := by
  unfold textEditorVisualRow at h
  split at h
  next => cases h
  next =>
    split at h
    next => cases h
    next found hfound =>
      cases h
      exact hfound

theorem validate_bounds (h : textEditorValidate model s = textEditorOk) (hon : s.configured ≠ 0) :
    modelValid model = true ∧ s.firstLine < textEditorMaxLines * textEditorLineCapacity := by
  have hne : textEditorEinval ≠ textEditorOk := by decide
  unfold textEditorValidate at h
  split at h
  next => exact absurd h hne
  next hmodel =>
    split at h
    next => exact absurd h hne
    next hlines =>
      simp only [not_or, not_not, not_le] at hmodel hlines
      exact ⟨hmodel.1, hlines.2.2.2.1⟩

/-- What the view shows where its first line is within the document. -/
theorem viewport_ok {viewport : TextEditorViewport}
    (h : textEditorGetViewport model s = .ok viewport) :
    (textEditorValidate model s = textEditorOk ∧ s.configured ≠ 0) ∧
    (ScrolledWithin model s → viewport.firstLine = s.firstLine) ∧
    (wrapEnabled model = false → (viewport.firstColumn = 0 ↔
      s.firstColumn = 0 ∨ maximumLineColumns s ≤ visibleColumns model)) := by
  unfold textEditorGetViewport at h
  split at h
  next => cases h
  next haccepted =>
    simp only at h
    split at h
    next => cases h
    next =>
      cases h
      refine ⟨by simpa [not_or] using haccepted, ?_, ?_⟩
      · intro hwithin
        unfold ScrolledWithin at hwithin
        exact min_eq_left (by omega)
      · intro hwrap
        simp only [hwrap, Bool.false_eq_true, if_false]
        omega

theorem placeCursor_located {x y : Int} (hle : s.firstLine + cellRow model y ≤ maxUint32)
    (hlines : t.lines = s.lines) (hcount : t.lineCount = s.lineCount)
    (hfirst : t.firstLine = s.firstLine)
    (h : s.locateVisualRow model (s.firstLine + cellRow model y) = some (line, first)) :
    (t.placeCursor model x y).cursorLine = line ∧ (t.placeCursor model x y).cursorColumn =
      min (first + cellColumn model x) (lineScalarCount (s.line line)) := by
  have hrow : t.locateVisualRow model (t.firstLine + cellRow model y) = some (line, first) := by
    rw [hfirst, TextEditorState.locateVisualRow, locateFrom_lines hlines, hcount]
    exact h
  have hline : t.line line = s.line line := by rw [TextEditorState.line, TextEditorState.line, hlines]
  unfold cellRow at hle hrow
  unfold cellColumn
  simp only [TextEditorState.placeCursor, if_neg (not_lt.mpr (hfirst ▸ hle)), hrow,
    Option.getD_some, hline, true_and]
  split
  all_goals omega

end

/-- A press lands where the view shows its cell, except that the located row drops the column to
which an unwrapped view is scrolled. -/
theorem press_lands_iff {model : TextEditorModel} (start : TextEditorState) (calls : List ViewCall)
    {viewport : TextEditorViewport} {event : TextEditorEvent} {result : TextEditorResult}
    {line first : Nat}
    (hview : textEditorGetViewport model (viewRun model start calls) = .ok viewport)
    (hrow : textEditorVisualRow model (viewRun model start calls)
      (viewport.firstLine + cellRow model event.y) = .ok (line, first))
    (hpress : Pressed model event) (hresult : resultValid result = true)
    (hwithin : ScrolledWithin model (viewRun model start calls)) :
    LandsOn model (viewRun model start calls) viewport line first (cellColumn model event.x)
        (textEditorDispatch model (viewRun model start calls) event result).2.1 ↔
      wrapEnabled model = true ∨ (viewRun model start calls).firstColumn = 0 ∨
        maximumLineColumns (viewRun model start calls) ≤ visibleColumns model ∨
        lineScalarCount ((viewRun model start calls).line line) ≤ cellColumn model event.x := by
  generalize viewRun model start calls = s at *
  obtain ⟨⟨hvalid, hon⟩, hline, hcolumn⟩ := viewport_ok hview
  obtain ⟨hmodel, hfirst⟩ := validate_bounds hvalid hon
  have haccepted : ¬ (textEditorValidate model s ≠ textEditorOk ∨ s.configured = 0 ∨
      ¬ eventValid event ∨ ¬ resultValid result) := by
    simp [hvalid, hon, hpress.valid, hresult]
  have hlocated := visualRow_ok hrow
  rw [hline hwithin] at hlocated
  have hplaced := placeCursor_located (t := { s with focused := 1, captured := 1 }) (x := event.x)
    (cellRow_le hmodel hfirst hpress.inside) rfl rfl rfl hlocated
  rw [dispatch_button_eq haccepted hpress.button, if_neg (not_not.mpr hpress.active),
    if_pos hpress.pressed, if_neg (not_not.mpr hpress.inside), LandsOn, hplaced.1, hplaced.2]
  cases hwrap : wrapEnabled model with
  | true => simp
  | false =>
    obtain rfl := locateFrom_unwrapped hwrap hlocated
    have hzero := hcolumn hwrap
    simp only [Bool.false_eq_true, if_false, true_and, false_or, ← or_assoc, ← hzero]
    omega

def typedLine : EditorCall := .setText (some [0x61, 0x62]) emptyEditorResult

def startedEditor : TextEditorState :=
  (textEditorConfigure partialRowModel textEditorStateInitialize emptyEditorResult).2.1

def pressedFirst : TextEditorEvent := { pressedBelow with y := 0 }

def afterPress (state : TextEditorState) : TextEditorState :=
  (textEditorDispatch partialRowModel state pressedFirst emptyEditorResult).2.1

theorem pressedFirst_pressed : Pressed partialRowModel pressedFirst := by
  refine ⟨?_, ?_, ?_, ?_, ?_⟩
  all_goals decide +kernel

theorem typed_lands :
    LandsOn partialRowModel (viewRun partialRowModel startedEditor [.edit typedLine])
      ⟨1, 1, 0, 1, 0, 0⟩ 0 0 0
      (afterPress (viewRun partialRowModel startedEditor [.edit typedLine])) :=
  (press_lands_iff startedEditor [.edit typedLine] (by decide +kernel) (by decide +kernel)
    pressedFirst_pressed (by decide) (by left; decide +kernel)).mpr (by decide +kernel)

/-- One column is visible and the view is scrolled to the second character, but the press goes
before the first. -/
theorem scrolled_press_misses :
    let state := viewRun partialRowModel startedEditor
      [.edit typedLine, .scrollTo 0 1 emptyEditorResult]
    textEditorGetViewport partialRowModel state = .ok ⟨1, 1, 0, 1, 0, 1⟩ ∧
      textEditorVisualRow partialRowModel state 0 = .ok (0, 0) ∧
      Pressed partialRowModel pressedFirst ∧
      ¬ LandsOn partialRowModel state ⟨1, 1, 0, 1, 0, 1⟩ 0 0 0 (afterPress state) := by
  refine ⟨by decide +kernel, by decide +kernel, pressedFirst_pressed, ?_⟩
  unfold LandsOn
  decide +kernel

end ReistOs
