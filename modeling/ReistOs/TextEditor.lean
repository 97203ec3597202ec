import ReistOs.FixedArray
import ReistOs.Utf

namespace ReistOs

open FixedArray

def textEditorApiVersion : Nat := 1
def textEditorMaxLines : Nat := 200
abbrev textEditorLineCapacity : Nat := 256
def textEditorNameLimit : Nat := 48
def textEditorDamageCapacity : Nat := 4

def textEditorModelSize : Nat := 60
def textEditorStateSize : Nat := 51264
def textEditorEventSize : Nat := 56
def textEditorResultSize : Nat := 132

def textEditorOk : Int := 0
def textEditorEinval : Int := -1
def textEditorEcapacity : Int := -2

def textEditorVisible : Nat := 1
def textEditorEnabled : Nat := 2
def textEditorReadOnly : Nat := 4
def textEditorVirtualWrap : Nat := 8

def maxUint32 : Nat := 0xFFFFFFFF
def maxInt32 : Nat := 0x7FFFFFFF

structure GuiRect where
  x : Int
  y : Int
  width : Nat
  height : Nat
  deriving DecidableEq

/-- `name` holds the bytes before the terminator. -/
structure TextEditorModel where
  version : Nat
  structSize : Nat
  id : Nat
  name : List UInt8
  bounds : GuiRect
  glyphWidth : Nat
  glyphHeight : Nat
  flags : Nat
  reserved : Vector Nat 4

abbrev EditorLine := Vector UInt8 textEditorLineCapacity

structure TextEditorState where
  version : Nat
  structSize : Nat
  configured : Nat
  focused : Nat
  captured : Nat
  modified : Nat
  lineCount : Nat
  cursorLine : Nat
  cursorColumn : Nat
  preferredColumn : Nat
  firstLine : Nat
  firstColumn : Nat
  lines : Vector EditorLine textEditorMaxLines
  reserved : Vector Nat 4

structure TextEditorEvent where
  version : Nat
  structSize : Nat
  type : Nat
  x : Int
  y : Int
  button : Nat
  pressed : Nat
  key : Nat
  codepoint : Nat
  focused : Nat
  reserved : Vector Nat 4

structure TextEditorResult where
  version : Nat
  structSize : Nat
  consumed : Nat
  changed : Nat
  focusChanged : Nat
  controlId : Nat
  modified : Nat
  cursorLine : Nat
  cursorColumn : Nat
  firstLine : Nat
  firstColumn : Nat
  damage : Vector GuiRect textEditorDamageCapacity
  damageCount : Nat
  fullRedraw : Nat
  reserved : Vector Nat 4

def eventPointerMotion : Nat := 1
def eventPointerButton : Nat := 2
def eventKeyboard : Nat := 3
def eventText : Nat := 4
def eventFocus : Nat := 5
def eventCancel : Nat := 6

def keyLeft : Nat := 1
def keyRight : Nat := 2
def keyUp : Nat := 3
def keyDown : Nat := 4
def keyHome : Nat := 5
def keyEnd : Nat := 6
def keyPageUp : Nat := 7
def keyPageDown : Nat := 8
def keyBackspace : Nat := 9
def keyDelete : Nat := 10
def keyEnter : Nat := 11
def keyDocumentHome : Nat := 12
def keyDocumentEnd : Nat := 13

def editorButtonLeft : Nat := 1

def wordsZero (words : Vector Nat 4) : Bool := words.toList.all (· == 0)

def nameValid (name : List UInt8) : Bool := name.length < textEditorNameLimit && name.length != 0

def rectValid (rect : GuiRect) : Bool :=
  0 ≤ rect.x && 0 ≤ rect.y && rect.width != 0 && rect.height != 0 &&
    rect.x.toNat + rect.width ≤ maxInt32 && rect.y.toNat + rect.height ≤ maxInt32

def flagsValid (flags : Nat) : Bool := flags &&& 0xFFFFFFF0 == 0

def interactive (flags : Nat) : Bool :=
  flags &&& (textEditorVisible ||| textEditorEnabled) == textEditorVisible ||| textEditorEnabled

def modelValid (model : TextEditorModel) : Bool :=
  model.version == textEditorApiVersion && model.structSize == textEditorModelSize &&
    model.id != 0 && nameValid model.name && rectValid model.bounds &&
    model.glyphWidth != 0 && model.glyphHeight != 0 &&
    model.glyphWidth ≤ model.bounds.width && model.glyphHeight ≤ model.bounds.height &&
    flagsValid model.flags && wordsZero model.reserved

def pointInside (rect : GuiRect) (x y : Int) : Bool :=
  rect.x ≤ x && rect.y ≤ y && (x - rect.x).toNat < rect.width && (y - rect.y).toNat < rect.height

def resultValid (result : TextEditorResult) : Bool :=
  result.version == textEditorApiVersion && result.structSize == textEditorResultSize &&
    result.damageCount ≤ textEditorDamageCapacity && result.fullRedraw ≤ 1 &&
    wordsZero result.reserved

def eventValid (event : TextEditorEvent) : Bool :=
  if event.version ≠ textEditorApiVersion ∨ event.structSize ≠ textEditorEventSize ∨
      ¬ wordsZero event.reserved then false
  else if event.type = eventPointerMotion then
    event.button == 0 && event.pressed == 0 && event.key == 0 && event.codepoint == 0 &&
      event.focused == 0
  else if event.type = eventPointerButton then
    event.button == editorButtonLeft && event.pressed ≤ 1 && event.key == 0 &&
      event.codepoint == 0 && event.focused == 0
  else if event.type = eventKeyboard then
    event.button == 0 && event.pressed == 0 && event.codepoint == 0 && event.focused == 0 &&
      keyLeft ≤ event.key && event.key ≤ keyDocumentEnd
  else if event.type = eventText then
    event.button == 0 && event.pressed == 0 && event.key == 0 && event.focused == 0 &&
      0x20 ≤ event.codepoint && event.codepoint ≤ 0x10FFFF &&
      !(0x7F ≤ event.codepoint && event.codepoint ≤ 0x9F) &&
      !(0xD800 ≤ event.codepoint && event.codepoint ≤ 0xDFFF)
  else if event.type = eventFocus then
    event.button == 0 && event.pressed == 0 && event.key == 0 && event.codepoint == 0 &&
      event.focused ≤ 1
  else if event.type = eventCancel then
    event.button == 0 && event.pressed == 0 && event.key == 0 && event.codepoint == 0 &&
      event.focused == 0
  else false

def lineLength (line : EditorLine) : Nat := line.toList.idxOf 0

def lineBytes (line : EditorLine) : List UInt8 := line.toList.take (lineLength line)

def scalarPrintable (scalar : Nat) : Bool := 0x20 ≤ scalar && !(0x7F ≤ scalar && scalar ≤ 0x9F)

def lineScalarCount (line : EditorLine) : Nat := (reistUtf8Scan (lineBytes line)).getD maxUint32

def visibleRows (model : TextEditorModel) : Nat :=
  let rows := model.bounds.height / model.glyphHeight
  if rows = 0 then 1 else rows

def visibleColumns (model : TextEditorModel) : Nat :=
  let columns := model.bounds.width / model.glyphWidth
  if columns = 0 then 1 else columns

def wrapEnabled (model : TextEditorModel) : Bool := model.flags &&& textEditorVirtualWrap != 0

def lineVisualRows (model : TextEditorModel) (line : EditorLine) : Nat :=
  if ¬ wrapEnabled model then 1
  else
    let length := lineScalarCount line
    if length = maxUint32 then 0
    else if length = 0 then 1
    else 1 + (length - 1) / visibleColumns model

namespace TextEditorState

def line (state : TextEditorState) (i : Nat) : EditorLine := cell state.lines i

/-- The rows of `count` lines from a line on, or zero on an overflow. -/
def visualRowsFrom (model : TextEditorModel) (state : TextEditorState) : Nat → Nat → Nat → Nat
  | 0, _, rows => rows
  | count + 1, i, rows =>
    let amount := lineVisualRows model (state.line i)
    if amount = 0 ∨ maxUint32 - amount < rows then 0
    else visualRowsFrom model state count (i + 1) (rows + amount)

def documentVisualRows (model : TextEditorModel) (state : TextEditorState) : Nat :=
  visualRowsFrom model state state.lineCount 0 0

/-- The line and the first column of a visual row, in `count` lines from a line on. -/
def locateFrom (model : TextEditorModel) (state : TextEditorState) :
    Nat → Nat → Nat → Option (Nat × Nat)
  | 0, _, _ => none
  | count + 1, i, visualRow =>
    let rows := lineVisualRows model (state.line i)
    if visualRow < rows then
      some (i, if wrapEnabled model then visualRow * visibleColumns model else 0)
    else locateFrom model state count (i + 1) (visualRow - rows)

def locateVisualRow (model : TextEditorModel) (state : TextEditorState) (visualRow : Nat) :
    Option (Nat × Nat) :=
  locateFrom model state state.lineCount 0 visualRow

def rowsBefore (model : TextEditorModel) (state : TextEditorState) : Nat → Nat → Nat → Nat
  | 0, _, row => row
  | count + 1, i, row =>
    rowsBefore model state count (i + 1) (row + lineVisualRows model (state.line i))

def cursorVisualRow (model : TextEditorModel) (state : TextEditorState) : Nat :=
  let row := state.rowsBefore model state.cursorLine 0 0
  if wrapEnabled model then
    let length := lineScalarCount (state.line state.cursorLine)
    let column := if state.cursorColumn = length ∧ state.cursorColumn ≠ 0
      then state.cursorColumn - 1 else state.cursorColumn
    row + column / visibleColumns model
  else row

end TextEditorState

def byteOffsetFrom (bytes : List UInt8) (scalarColumn : Nat) : Nat → Nat → Nat → Nat
  | 0, offset, column => if column = scalarColumn then offset else maxUint32
  | fuel + 1, offset, column =>
    if offset < bytes.length ∧ column < scalarColumn then
      match reistUtf8DecodeOne (bytes.drop offset) with
      | none => maxUint32
      | some (consumed, _) =>
        byteOffsetFrom bytes scalarColumn fuel (offset + consumed) (column + 1)
    else if column = scalarColumn then offset
    else maxUint32

def lineByteOffset (line : EditorLine) (scalarColumn : Nat) : Nat :=
  byteOffsetFrom (lineBytes line) scalarColumn (lineLength line) 0 0

/-- The bytes of a printable scalar; none for another number. -/
def encodeScalar (scalar : Nat) : List UInt8 :=
  if ¬ scalarPrintable scalar ∨ 0x10FFFF < scalar ∨ (0xD800 ≤ scalar ∧ scalar ≤ 0xDFFF) then []
  else if scalar ≤ 0x7F then [UInt8.ofNat scalar]
  else if scalar ≤ 0x7FF then
    [UInt8.ofNat (0xC0 ||| scalar >>> 6), UInt8.ofNat (0x80 ||| (scalar &&& 0x3F))]
  else if scalar ≤ 0xFFFF then
    [UInt8.ofNat (0xE0 ||| scalar >>> 12), UInt8.ofNat (0x80 ||| (scalar >>> 6 &&& 0x3F)),
      UInt8.ofNat (0x80 ||| (scalar &&& 0x3F))]
  else
    [UInt8.ofNat (0xF0 ||| scalar >>> 18), UInt8.ofNat (0x80 ||| (scalar >>> 12 &&& 0x3F)),
      UInt8.ofNat (0x80 ||| (scalar >>> 6 &&& 0x3F)), UInt8.ofNat (0x80 ||| (scalar &&& 0x3F))]

def clearLine : EditorLine := Vector.replicate textEditorLineCapacity 0

/-- Copies up to the first NUL of the source, and fills the rest with zeros. -/
def copyLine (source : List UInt8) : EditorLine :=
  Vector.ofFn fun i => ((source.take (textEditorLineCapacity - 1)).takeWhile (· != 0)).getD i 0

def requestFull (model : TextEditorModel) (result : TextEditorResult) : TextEditorResult :=
  { result with
    damageCount := 0
    fullRedraw := 1
    damage := result.damage.setIfInBounds 0 model.bounds }

def publishState (model : TextEditorModel) (state : TextEditorState) (result : TextEditorResult) :
    TextEditorResult :=
  { result with
    controlId := model.id
    modified := state.modified
    cursorLine := state.cursorLine
    cursorColumn := state.cursorColumn
    firstLine := state.firstLine
    firstColumn := state.firstColumn }

def textEditorStateInitialize : TextEditorState :=
  { version := textEditorApiVersion
    structSize := textEditorStateSize
    configured := 0
    focused := 0
    captured := 0
    modified := 0
    lineCount := 0
    cursorLine := 0
    cursorColumn := 0
    preferredColumn := 0
    firstLine := 0
    firstColumn := 0
    lines := Vector.replicate textEditorMaxLines clearLine
    reserved := Vector.replicate 4 0 }

def printableColumns : Nat → List UInt8 → Nat → Option Nat
  | _, [], columns => some columns
  | 0, _ :: _, _ => none
  | fuel + 1, b :: input, columns =>
    match reistUtf8DecodeOne (b :: input) with
    | none => none
    | some (consumed, scalar) =>
      if scalarPrintable scalar then
        printableColumns fuel ((b :: input).drop consumed) (columns + 1)
      else none

def lineValid (state : TextEditorState) (i : Nat) : Bool :=
  let line := state.line i
  if textEditorLineCapacity ≤ lineLength line then false
  else
    match printableColumns (lineLength line) (lineBytes line) 0 with
    | none => false
    | some columns => !(i == state.cursorLine && columns < state.cursorColumn)

def textEditorValidate (model : TextEditorModel) (state : TextEditorState) : Int :=
  if ¬ modelValid model ∨ state.version ≠ textEditorApiVersion ∨
      state.structSize ≠ textEditorStateSize ∨ 1 < state.configured ∨ 1 < state.focused ∨
      1 < state.captured ∨ 1 < state.modified ∨ ¬ wordsZero state.reserved then textEditorEinval
  else if state.configured = 0 then
    if state.focused = 0 ∧ state.captured = 0 ∧ state.modified = 0 ∧ state.lineCount = 0 ∧
        state.cursorLine = 0 ∧ state.cursorColumn = 0 ∧ state.preferredColumn = 0 ∧
        state.firstLine = 0 ∧ state.firstColumn = 0 ∧ cell (state.line 0) 0 = 0 then textEditorOk
    else textEditorEinval
  else if state.lineCount = 0 ∨ textEditorMaxLines < state.lineCount ∨
      state.lineCount ≤ state.cursorLine ∨
      textEditorMaxLines * textEditorLineCapacity ≤ state.firstLine ∨
      (¬ interactive model.flags ∧ (state.focused ≠ 0 ∨ state.captured ≠ 0)) ∨
      (state.focused = 0 ∧ state.captured ≠ 0) then textEditorEinval
  else if (List.range state.lineCount).all (lineValid state) then textEditorOk
  else textEditorEinval

def textEditorConfigure (model : TextEditorModel) (state : TextEditorState)
    (result : TextEditorResult) : Int × TextEditorState × TextEditorResult :=
  if ¬ modelValid model ∨ state.version ≠ textEditorApiVersion ∨
      state.structSize ≠ textEditorStateSize ∨ state.configured ≠ 0 ∨
      ¬ wordsZero state.reserved ∨ ¬ resultValid result then (textEditorEinval, state, result)
  else
    let state := { textEditorStateInitialize with configured := 1, lineCount := 1 }
    (textEditorOk, state, requestFull model (publishState model state result))

def carriageReturn : UInt8 := 0x0D
def lineFeed : UInt8 := 0x0A

/-- How many bytes the line break at the front takes, or zero. -/
def lineBreak : List UInt8 → Nat
  | [] => 0
  | value :: rest =>
    if value = carriageReturn ∧ rest.head? = some lineFeed then 2
    else if value = carriageReturn ∨ value = lineFeed then 1
    else 0

/-- The loop over the input; `fuel` bounds its steps. -/
def validateInputFrom : Nat → List UInt8 → Nat → Nat → Int
  | _, [], _, _ => textEditorOk
  | 0, _ :: _, _, _ => textEditorEinval
  | fuel + 1, b :: input, lines, bytes =>
    if lineBreak (b :: input) ≠ 0 then
      if lines = textEditorMaxLines then textEditorEcapacity
      else validateInputFrom fuel ((b :: input).drop (lineBreak (b :: input))) (lines + 1) 0
    else
      match reistUtf8DecodeOne (b :: input) with
      | none => textEditorEinval
      | some (consumed, scalar) =>
        if ¬ scalarPrintable scalar then textEditorEinval
        else if textEditorLineCapacity - bytes ≤ consumed then textEditorEcapacity
        else validateInputFrom fuel ((b :: input).drop consumed) lines (bytes + consumed)

/-- `none` is a null pointer with a length other than zero. -/
def validateInputText : Option (List UInt8) → Int
  | none => textEditorEinval
  | some text => validateInputFrom text.length text 1 0

/-- The copy loop of `set_text`: the lines, the line and the column that are written. -/
def fillLines : Nat → List UInt8 → Vector EditorLine textEditorMaxLines → Nat → Nat →
    Vector EditorLine textEditorMaxLines × Nat
  | fuel + 1, b :: input, lines, line, column =>
    if lineBreak (b :: input) ≠ 0 then
      let lines := setCell lines line (setCell (cell lines line) column 0)
      fillLines fuel ((b :: input).drop (lineBreak (b :: input))) lines (line + 1) 0
    else
      let lines := setCell lines line (setCell (cell lines line) column b)
      fillLines fuel input lines line (column + 1)
  | _, _, lines, line, column => (setCell lines line (setCell (cell lines line) column 0), line)

def textEditorSetText (model : TextEditorModel) (state : TextEditorState)
    (text : Option (List UInt8)) (result : TextEditorResult) :
    Int × TextEditorState × TextEditorResult :=
  if textEditorValidate model state ≠ textEditorOk ∨ state.configured = 0 ∨
      ¬ resultValid result then (textEditorEinval, state, result)
  else if validateInputText text ≠ textEditorOk then (validateInputText text, state, result)
  else
    let bytes := text.getD []
    let filled := fillLines bytes.length bytes textEditorStateInitialize.lines 0 0
    let state := { textEditorStateInitialize with
      configured := 1
      focused := state.focused
      lineCount := filled.2 + 1
      lines := filled.1 }
    let result := publishState model state result
    (textEditorOk, state, requestFull model { result with changed := 1 })

def textEditorGetText (model : TextEditorModel) (state : TextEditorState) (capacity : Nat) :
    Except Int (List UInt8) :=
  if textEditorValidate model state ≠ textEditorOk ∨ state.configured = 0 then
    .error textEditorEinval
  else
    let required := (state.lineCount - 1) +
      ((List.range state.lineCount).map fun i => lineLength (state.line i)).sum
    if capacity ≤ required then .error textEditorEcapacity
    else .ok <| (List.range state.lineCount).flatMap fun i =>
      lineBytes (state.line i) ++ if i + 1 < state.lineCount then [lineFeed] else []

def keepCursorVisible (model : TextEditorModel) (state : TextEditorState) :
    Bool × TextEditorState :=
  let rows := visibleRows model
  let columns := visibleColumns model
  let cursorRow := state.cursorVisualRow model
  let firstLine :=
    if cursorRow < state.firstLine then cursorRow
    else if state.firstLine + rows ≤ cursorRow then cursorRow - rows + 1
    else state.firstLine
  -- the sum is a 32-bit one, and the first column has no bound of its own
  let firstColumn :=
    if wrapEnabled model then 0
    else if state.cursorColumn < state.firstColumn then state.cursorColumn
    else if (state.firstColumn + columns) % 2 ^ 32 ≤ state.cursorColumn then
      state.cursorColumn - columns + 1
    else state.firstColumn
  (state.firstLine != firstLine || state.firstColumn != firstColumn,
    { state with firstLine := firstLine, firstColumn := firstColumn })

namespace TextEditorState

def insertCharacter (state : TextEditorState) (value : List UInt8) : TextEditorState :=
  let line := state.line state.cursorLine
  let length := lineLength line
  let offset := lineByteOffset line state.cursorColumn
  let moved := shiftUp id value.length offset (length + 1) line
  { state with
    lines := setCell state.lines state.cursorLine (putCells value offset moved)
    cursorColumn := state.cursorColumn + 1
    preferredColumn := state.cursorColumn + 1
    modified := 1 }

def insertNewline (state : TextEditorState) : Bool × TextEditorState :=
  if state.lineCount = textEditorMaxLines then (false, state)
  else
    let split := lineByteOffset (state.line state.cursorLine) state.cursorColumn
    if split = maxUint32 then (false, state)
    else
      let lines := shiftUp (fun line => copyLine line.toList) 1 (state.cursorLine + 1)
        state.lineCount state.lines
      let lines := setCell lines (state.cursorLine + 1)
        (copyLine ((cell lines state.cursorLine).toList.drop split))
      let lines := setCell lines state.cursorLine (setCell (cell lines state.cursorLine) split 0)
      (true, { state with
        lines := lines
        lineCount := state.lineCount + 1
        cursorLine := state.cursorLine + 1
        cursorColumn := 0
        preferredColumn := 0
        modified := 1 })

def deleteAtCursor (state : TextEditorState) : Bool × TextEditorState :=
  let line := state.line state.cursorLine
  let length := lineLength line
  let columns := lineScalarCount line
  if state.cursorColumn < columns then
    let offset := lineByteOffset line state.cursorColumn
    if offset = maxUint32 then (false, state)
    else
      match reistUtf8DecodeOne ((lineBytes line).drop offset) with
      | none => (false, state)
      | some (consumed, _) =>
        let line := shiftDown id consumed (length + 1 - consumed - offset) offset line
        (true, { state with
          lines := setCell state.lines state.cursorLine line
          modified := 1 })
  else if state.cursorLine + 1 < state.lineCount then
    let next := state.line (state.cursorLine + 1)
    let nextLength := lineLength next
    if textEditorLineCapacity ≤ length + nextLength then (false, state)
    else
      let line := putCells (next.toList.take (nextLength + 1)) length line
      let lines := setCell state.lines state.cursorLine line
      let lines := shiftDown (fun line => copyLine line.toList) 1
        (state.lineCount - 1 - (state.cursorLine + 1)) (state.cursorLine + 1) lines
      (true, { state with
        lines := setCell lines (state.lineCount - 1) clearLine
        lineCount := state.lineCount - 1
        modified := 1 })
  else (false, state)

def backspace (state : TextEditorState) : Bool × TextEditorState :=
  if state.cursorColumn ≠ 0 then
    deleteAtCursor { state with
      cursorColumn := state.cursorColumn - 1
      preferredColumn := state.cursorColumn - 1 }
  else if state.cursorLine = 0 then (false, state)
  else
    let previous := lineLength (state.line (state.cursorLine - 1))
    let previousColumns := lineScalarCount (state.line (state.cursorLine - 1))
    let current := lineLength (state.line state.cursorLine)
    if textEditorLineCapacity ≤ previous + current then (false, state)
    else deleteAtCursor { state with
      cursorLine := state.cursorLine - 1
      cursorColumn := previousColumns
      preferredColumn := previousColumns }

/-- The vertical moves, by a number of visual rows or of lines. -/
def moveRows (model : TextEditorModel) (state : TextEditorState) (up : Bool) (amount : Nat) :
    TextEditorState :=
  if wrapEnabled model then
    let visual := state.cursorVisualRow model
    let total := state.documentVisualRows model
    let visual :=
      if up then if amount < visual then visual - amount else 0
      else if amount < total - 1 - visual then visual + amount else total - 1
    let visualColumn := state.cursorColumn % visibleColumns model
    match state.locateVisualRow model visual with
    | none => state
    | some (line, firstColumn) =>
      let length := lineScalarCount (state.line line)
      let requested := firstColumn + visualColumn
      let column := if requested < length then requested else length
      { state with cursorLine := line, cursorColumn := column, preferredColumn := column }
  else
    let line :=
      if up then if amount < state.cursorLine then state.cursorLine - amount else 0
      else if state.lineCount ≤ state.cursorLine + amount then state.lineCount - 1
      else state.cursorLine + amount
    let length := lineScalarCount (state.line line)
    { state with
      cursorLine := line
      cursorColumn := if state.preferredColumn < length then state.preferredColumn else length }

def moveCursor (model : TextEditorModel) (state : TextEditorState) (key pageRows : Nat) :
    TextEditorState :=
  let length := lineScalarCount (state.line state.cursorLine)
  let at_ (line column : Nat) : TextEditorState :=
    { state with cursorLine := line, cursorColumn := column, preferredColumn := column }
  if key = keyLeft then
    if state.cursorColumn ≠ 0 then at_ state.cursorLine (state.cursorColumn - 1)
    else if state.cursorLine ≠ 0 then
      at_ (state.cursorLine - 1) (lineScalarCount (state.line (state.cursorLine - 1)))
    else at_ state.cursorLine state.cursorColumn
  else if key = keyRight then
    if state.cursorColumn < length then at_ state.cursorLine (state.cursorColumn + 1)
    else if state.cursorLine + 1 < state.lineCount then at_ (state.cursorLine + 1) 0
    else at_ state.cursorLine state.cursorColumn
  else if key = keyUp ∨ key = keyDown ∨ key = keyPageUp ∨ key = keyPageDown then
    let amount := if key = keyPageUp ∨ key = keyPageDown then pageRows else 1
    state.moveRows model (key = keyUp ∨ key = keyPageUp) amount
  else if key = keyHome then at_ state.cursorLine 0
  else if key = keyEnd then at_ state.cursorLine length
  else if key = keyDocumentHome then at_ 0 0
  else if key = keyDocumentEnd then
    at_ (state.lineCount - 1) (lineScalarCount (state.line (state.lineCount - 1)))
  else state

def placeCursor (model : TextEditorModel) (state : TextEditorState) (x y : Int) :
    TextEditorState :=
  let row := (y - model.bounds.y).toNat / model.glyphHeight
  let column := (x - model.bounds.x).toNat / model.glyphWidth
  let visual := state.firstLine + row
  let located := if maxUint32 < visual then none else state.locateVisualRow model visual
  let last := state.lineCount - 1
  let (line, firstColumn) := located.getD (last,
    if wrapEnabled model then
      (lineVisualRows model (state.line last) - 1) * visibleColumns model
    else state.firstColumn)
  let requested := firstColumn + column
  let length := lineScalarCount (state.line line)
  let column := if length < requested then length else requested
  { state with cursorLine := line, cursorColumn := column, preferredColumn := column }

end TextEditorState

/-- What a text or a keyboard event does before the view follows the cursor: whether it was
consumed, whether the text changed, and the state. -/
def editorInput (model : TextEditorModel) (state : TextEditorState) (event : TextEditorEvent) :
    Nat × Bool × TextEditorState :=
  if event.type = eventText then
    let encoded := encodeScalar event.codepoint
    let currentBytes := lineLength (state.line state.cursorLine)
    if model.flags &&& textEditorReadOnly = 0 ∧ encoded.length ≠ 0 ∧
        encoded.length < textEditorLineCapacity - currentBytes then
      (1, true, state.insertCharacter encoded)
    else (1, false, state)
  else if event.type = eventKeyboard then
    if event.key ≤ keyPageDown ∨ event.key = keyDocumentHome ∨ event.key = keyDocumentEnd then
      (1, false, state.moveCursor model event.key (visibleRows model))
    else if model.flags &&& textEditorReadOnly = 0 ∧ event.key = keyBackspace then
      (1, state.backspace)
    else if model.flags &&& textEditorReadOnly = 0 ∧ event.key = keyDelete then
      (1, state.deleteAtCursor)
    else if model.flags &&& textEditorReadOnly = 0 ∧ event.key = keyEnter then
      (1, state.insertNewline)
    else (0, false, state)
  else (0, false, state)

def textEditorDispatch (model : TextEditorModel) (state : TextEditorState)
    (event : TextEditorEvent) (result : TextEditorResult) :
    Int × TextEditorState × TextEditorResult :=
  if textEditorValidate model state ≠ textEditorOk ∨ state.configured = 0 ∨
      ¬ eventValid event ∨ ¬ resultValid result then (textEditorEinval, state, result)
  else
    let result := publishState model state result
    if event.type = eventCancel then
      if state.captured ≠ 0 then
        let state := { state with captured := 0 }
        (textEditorOk, state,
          publishState model state (requestFull model { result with consumed := 1 }))
      else (textEditorOk, state, publishState model state result)
    else if event.type = eventFocus then
      if event.focused ≠ 0 ∧ ¬ interactive model.flags then (textEditorEinval, state, result)
      else if state.focused ≠ event.focused then
        let state := { state with
          focused := event.focused
          captured := if event.focused = 0 then 0 else state.captured }
        (textEditorOk, state,
          publishState model state (requestFull model { result with focusChanged := 1 }))
      else (textEditorOk, state, publishState model state result)
    else if event.type = eventPointerMotion then
      (textEditorOk, state, { result with
        consumed := if state.captured ≠ 0 ∨ pointInside model.bounds event.x event.y then 1 else 0 })
    else if event.type = eventPointerButton then
      if ¬ interactive model.flags then (textEditorOk, state, result)
      else if event.pressed ≠ 0 then
        if ¬ pointInside model.bounds event.x event.y then (textEditorOk, state, result)
        else
          let state := { state with focused := 1, captured := 1 }.placeCursor model event.x event.y
          let result := requestFull model { result with focusChanged := 1, consumed := 1 }
          (textEditorOk, state, publishState model state result)
      else if state.captured ≠ 0 then
        let state := { state with captured := 0 }
        (textEditorOk, state,
          publishState model state (requestFull model { result with consumed := 1 }))
      else (textEditorOk, state, publishState model state result)
    else if state.focused = 0 then (textEditorOk, state, result)
    else
      let (consumed, changed, edited) := editorInput model state event
      let (viewChanged, shown) := keepCursorVisible model edited
      let result := { result with consumed := consumed }
      let result :=
        if consumed ≠ 0 ∧ (changed ∨ state.cursorLine ≠ shown.cursorLine ∨
            state.cursorColumn ≠ shown.cursorColumn ∨ viewChanged) then requestFull model result
        else result
      let final := if changed then { shown with modified := 1 } else shown
      let result := if changed then { result with changed := 1 } else result
      (textEditorOk, final, publishState model final result)

end ReistOs
