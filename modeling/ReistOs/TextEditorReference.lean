import ReistOs.TextCursor
import ReistOs.TextEditor

namespace ReistOs

inductive EditorKey
  | left | right | up | down | home | lineEnd | pageUp | pageDown
  | backspace | delete | enter | documentHome | documentEnd

inductive EditorInput
  | motion
  | press (x y : Int)
  | release
  | key (key : EditorKey)
  | text (c : Char)
  | focus (focused : Bool)
  | cancel

def unifyBreaks {α : Type} [DecidableEq α] (cr lf : α) : List α → List α
  | [] => []
  | a :: rest =>
    if a = cr then
      if rest.head? = some lf then unifyBreaks cr lf rest else lf :: unifyBreaks cr lf rest
    else a :: unifyBreaks cr lf rest

def linesOf (text : List Char) : List (List Char) := (unifyBreaks '\r' '\n' text).splitOn '\n'

def plainChar (c : Char) : Bool := scalarPrintable c.toNat

def linesFit (lines : List (List Char)) : Bool :=
  lines.length ≤ textEditorMaxLines &&
    lines.all fun line => (encodeText line).length < textEditorLineCapacity

def rowsOf (model : TextEditorModel) (line : List Char) : Nat :=
  if wrapEnabled model then 1 + (line.length - 1) / visibleColumns model else 1

def rowsOfLines (model : TextEditorModel) (lines : List (List Char)) : Nat :=
  (lines.map (rowsOf model)).sum

def locateRow (model : TextEditorModel) : List (List Char) → Nat → Option (Nat × Nat)
  | [], _ => none
  | line :: lines, row =>
    if row < rowsOf model line then
      some (0, if wrapEnabled model then row * visibleColumns model else 0)
    else (locateRow model lines (row - rowsOf model line)).map fun place => (place.1 + 1, place.2)

def cursorRow (model : TextEditorModel) (c : TextCursor Char) : Nat :=
  rowsOfLines model c.before +
    if wrapEnabled model then
      (if c.right = [] then c.column - 1 else c.column) / visibleColumns model
    else 0

structure ReferenceEditor where
  text : TextCursor Char
  preferred : Nat
  focused : Bool
  captured : Bool
  modified : Bool
  firstLine : Nat
  firstColumn : Nat

namespace ReferenceEditor

def start : ReferenceEditor :=
  { text := TextCursor.place [[]] 0 0
    preferred := 0
    focused := false
    captured := false
    modified := false
    firstLine := 0
    firstColumn := 0 }

variable (model : TextEditorModel) (e : ReferenceEditor)

def edit (preferred : Nat) : Option (TextCursor Char) → ReferenceEditor
  | none => e
  | some text =>
    if model.flags &&& textEditorReadOnly = 0 ∧ linesFit text.lines then
      { e with text := text, preferred := preferred, modified := true }
    else e

def moveTo (line column : Nat) : ReferenceEditor :=
  { e with text := e.text.moveTo line column, preferred := column }

def lengthAt (line : Nat) : Nat := (e.text.lines.getD line []).length

def moveLeft : ReferenceEditor :=
  if e.text.column ≠ 0 then e.moveTo e.text.line (e.text.column - 1)
  else if e.text.line ≠ 0 then e.moveTo (e.text.line - 1) (e.lengthAt (e.text.line - 1))
  else e.moveTo e.text.line e.text.column

def moveRight : ReferenceEditor :=
  if e.text.right ≠ [] then e.moveTo e.text.line (e.text.column + 1)
  else if e.text.after ≠ [] then e.moveTo (e.text.line + 1) 0
  else e.moveTo e.text.line e.text.column

/-- Up or down by this many rows: rows of the screen with wrapping, lines without. -/
def moveRows (up : Bool) (amount : Nat) : ReferenceEditor :=
  if wrapEnabled model then
    let row := cursorRow model e.text
    let last := rowsOfLines model e.text.lines - 1
    match locateRow model e.text.lines (if up then row - amount else min (row + amount) last) with
    | none => e
    | some (line, first) =>
      e.moveTo line (min (first + e.text.column % visibleColumns model) (e.lengthAt line))
  else
    let line := if up then e.text.line - amount else min (e.text.line + amount)
      (e.text.lines.length - 1)
    { e with text := e.text.moveTo line (min e.preferred (e.lengthAt line)) }

def press (x y : Int) : ReferenceEditor :=
  let row := e.firstLine + (y - model.bounds.y).toNat / model.glyphHeight
  let column := (x - model.bounds.x).toNat / model.glyphWidth
  let last := e.text.lines.length - 1
  -- below the last row the press falls on the last line
  let (line, first) := (locateRow model e.text.lines row).getD (last,
    if wrapEnabled model then (e.lengthAt last - 1) / visibleColumns model * visibleColumns model
    else e.firstColumn)
  e.moveTo line (min (first + column) (e.lengthAt line))

def follow : ReferenceEditor :=
  let row := cursorRow model e.text
  let rows := visibleRows model
  let columns := visibleColumns model
  { e with
    firstLine := if row < e.firstLine then row
      else if e.firstLine + rows ≤ row then row - rows + 1 else e.firstLine
    firstColumn := if wrapEnabled model then 0
      else if e.text.column < e.firstColumn then e.text.column
      else if e.firstColumn + columns ≤ e.text.column then e.text.column - columns + 1
      else e.firstColumn }

def pressKey : EditorKey → ReferenceEditor
  | .left => e.moveLeft
  | .right => e.moveRight
  | .up => e.moveRows model true 1
  | .down => e.moveRows model false 1
  | .home => e.moveTo e.text.line 0
  | .lineEnd => e.moveTo e.text.line (e.lengthAt e.text.line)
  | .pageUp => e.moveRows model true (visibleRows model)
  | .pageDown => e.moveRows model false (visibleRows model)
  | .backspace =>
    e.edit model ((e.text.backspace.map TextCursor.column).getD 0) e.text.backspace
  | .delete => e.edit model e.preferred e.text.delete
  | .enter => e.edit model 0 (some e.text.newline)
  | .documentHome => e.moveTo 0 0
  | .documentEnd =>
    e.moveTo (e.text.lines.length - 1) (e.lengthAt (e.text.lines.length - 1))

def apply : EditorInput → ReferenceEditor
  | .motion => e
  | .press x y =>
    if interactive model.flags ∧ pointInside model.bounds x y then
      { e with focused := true, captured := true }.press model x y
    else e
  | .release => { e with captured := false }
  | .key key => if e.focused then (e.pressKey model key).follow model else e
  | .text c =>
    if e.focused then
      (e.edit model (e.text.column + 1) (some (e.text.insert c))).follow model
    else e
  | .focus focused =>
    if focused ∧ ¬ interactive model.flags then e
    else { e with focused := focused, captured := focused && e.captured }
  | .cancel => { e with captured := false }

def wanted : EditorInput → Option (TextCursor Char)
  | .text c => some (e.text.insert c)
  | .key .enter => some e.text.newline
  | .key .backspace => e.text.backspace
  | .key .delete => e.text.delete
  | _ => none

/-- The document becomes this text when it is UTF-8, printable and has room. -/
def setText (text : List UInt8) : ReferenceEditor :=
  match decodeText text with
  | none => e
  | some chars =>
    if (chars.all fun c => plainChar c || c == '\r' || c == '\n') && linesFit (linesOf chars) then
      { start with text := TextCursor.place (linesOf chars) 0 0, focused := e.focused }
    else e

end ReferenceEditor

def editorKey (key : Nat) : EditorKey :=
  if key = keyLeft then .left
  else if key = keyRight then .right
  else if key = keyUp then .up
  else if key = keyDown then .down
  else if key = keyHome then .home
  else if key = keyEnd then .lineEnd
  else if key = keyPageUp then .pageUp
  else if key = keyPageDown then .pageDown
  else if key = keyBackspace then .backspace
  else if key = keyDelete then .delete
  else if key = keyEnter then .enter
  else if key = keyDocumentHome then .documentHome
  else .documentEnd

def TextEditorEvent.input (event : TextEditorEvent) : EditorInput :=
  if event.type = eventCancel then .cancel
  else if event.type = eventFocus then .focus (event.focused != 0)
  else if event.type = eventPointerMotion then .motion
  else if event.type = eventPointerButton then
    if event.pressed ≠ 0 then .press event.x event.y else .release
  else if event.type = eventText then .text (Char.ofNat event.codepoint)
  else .key (editorKey event.key)

/-- A call on an editor, with the result it is given. -/
inductive EditorCall
  | setText (text : Option (List UInt8)) (result : TextEditorResult)
  | dispatch (event : TextEditorEvent) (result : TextEditorResult)

def EditorCall.run (model : TextEditorModel) (state : TextEditorState) :
    EditorCall → Int × TextEditorState × TextEditorResult
  | .setText text result => textEditorSetText model state text result
  | .dispatch event result => textEditorDispatch model state event result

/-- What a call does to the reference editor; an invalid call does nothing. -/
def EditorCall.apply (model : TextEditorModel) (e : ReferenceEditor) : EditorCall → ReferenceEditor
  | .setText (some text) result => if resultValid result then e.setText text else e
  | .setText none _ => e
  | .dispatch event result =>
    if eventValid event ∧ resultValid result then e.apply model event.input else e

def editorRun (model : TextEditorModel) (state : TextEditorState) (calls : List EditorCall) :
    TextEditorState :=
  calls.foldl (fun state call => (call.run model state).2.1) state

def referenceRun (model : TextEditorModel) (e : ReferenceEditor) (calls : List EditorCall) :
    ReferenceEditor :=
  calls.foldl (EditorCall.apply model) e

end ReistOs
