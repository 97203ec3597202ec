import ReistOs.FixedArray

/-! The window manager of `userspace/gui/compositor/desktop_wm.c`, without the damage that an event
reports and the flags that tell that something changed. -/

namespace ReistOs

open FixedArray

abbrev desktopWmCapacity : Nat := 8

def desktopWmWindowDialog : Nat := 2
def desktopWmWindowStateBlocked : Nat := 4
def desktopWmResizeCornerExtent : Nat := 16

def desktopWmEinval : Int := -22
def desktopWmEbusy : Int := -16

/-- A value converted to `int32_t`. -/
def toInt32 (v : Int) : Int := (v + 2147483648) % 4294967296 - 2147483648

/-- A value converted to `uint32_t`. -/
def toUint32 (v : Int) : Nat := (v % 4294967296).toNat

inductive DesktopWmCapture where
  | none
  | move
  | close
  | client
  | resize
  | minimize
  | maximize
  deriving DecidableEq

/-- The mask of `DESKTOP_WM_RESIZE_*`. -/
structure ResizeEdges where
  left : Bool := false
  right : Bool := false
  top : Bool := false
  bottom : Bool := false
  deriving DecidableEq

structure DesktopRect where
  x : Int
  y : Int
  width : Nat
  height : Nat
  deriving DecidableEq

def emptyRect : DesktopRect := ⟨0, 0, 0, 0⟩

structure DesktopWindow where
  x : Int
  y : Int
  width : Nat
  height : Nat
  contentId : Nat
  flags : Nat
  visible : Bool
  minimized : Bool
  maximized : Bool
  normalBounds : DesktopRect
  generation : Nat
  deriving DecidableEq

instance : Inhabited DesktopWindow :=
  ⟨⟨0, 0, 0, 0, 0, 0, false, false, false, emptyRect, 0⟩⟩

/-- `none` is `DESKTOP_WM_NO_WINDOW`. -/
structure DesktopWm where
  windows : Vector DesktopWindow desktopWmCapacity
  /-- Back to front. -/
  zOrder : List Nat
  keyboardFocus : Option Nat
  pointerFocus : Option Nat
  selected : Nat
  captureKind : DesktopWmCapture
  captureWindow : Option Nat
  dragOffsetX : Int
  dragOffsetY : Int
  resizeEdges : ResizeEdges
  resizeStartX : Int
  resizeStartY : Int
  resizeWindowX : Int
  resizeWindowY : Int
  resizeWindowWidth : Nat
  resizeWindowHeight : Nat
  workLeft : Int
  workTop : Int
  workRight : Int
  workBottom : Int
  titleHeight : Nat
  frameBorder : Nat
  resizeMargin : Nat
  minimumWidth : Nat
  minimumHeight : Nat
  captionArmed : Bool
  nextGeneration : Nat
  windowShadows : Nat
  dragContents : Nat
  movePreview : DesktopRect
  moveGeneration : Nat

def DesktopWindow.rect (w : DesktopWindow) : DesktopRect := ⟨w.x, w.y, w.width, w.height⟩

namespace DesktopWm

def window (m : DesktopWm) (index : Nat) : DesktopWindow := cell m.windows index

def setWindow (m : DesktopWm) (index : Nat) (w : DesktopWindow) : DesktopWm :=
  { m with windows := setCell m.windows index w }

end DesktopWm

section Geometry

variable (m : DesktopWm)

def pointInRect (rect : DesktopRect) (x y : Int) : Bool :=
  rect.x ≤ x && rect.y ≤ y && x < rect.x + rect.width && y < rect.y + rect.height

def resizeEdgesAt (index : Nat) (x y : Int) : ResizeEdges :=
  let w := m.window index
  if desktopWmCapacity ≤ index ∨ ¬ w.visible ∨ w.maximized then {}
  else if ¬ pointInRect w.rect x y then {}
  else if m.resizeMargin = 0 then {}
  else
    let cornerWidth := min (w.width / 2) desktopWmResizeCornerExtent
    let cornerHeight := min (w.height / 2) desktopWmResizeCornerExtent
    let left := decide (x < w.x + cornerWidth)
    let right := ! left && decide (w.x + w.width - cornerWidth ≤ x)
    let top := decide (y < w.y + cornerHeight)
    let bottom := ! top && decide (w.y + w.height - cornerHeight ≤ y)
    if (left || right) && (top || bottom) then ⟨left, right, top, bottom⟩
    else
      let left := decide (x < w.x + m.resizeMargin)
      let top := decide (y < w.y + m.resizeMargin)
      ⟨left, ! left && decide (w.x + w.width - m.resizeMargin ≤ x),
        top, ! top && decide (w.y + w.height - m.resizeMargin ≤ y)⟩

def titleRect (index : Nat) : DesktopRect :=
  let w := m.window index
  let borders := toUint32 (m.frameBorder * 2)
  if desktopWmCapacity ≤ index ∨ w.width ≤ borders then emptyRect
  else ⟨toInt32 (w.x + m.frameBorder), toInt32 (w.y + m.frameBorder), w.width - borders,
    m.titleHeight⟩

def desktopWmCloseRect (index : Nat) : DesktopRect :=
  let title := titleRect m index
  if title.width = 0 ∨ title.height < 8 then emptyRect
  else
    let size := min (title.height - 6) title.width
    ⟨toInt32 (title.x + 3), toInt32 (title.y + 3), size, size⟩

/-- For the kinds `minimize` and `maximize` only. -/
def desktopWmCaptionRect (index : Nat) (kind : DesktopWmCapture) : DesktopRect :=
  let w := m.window index
  if desktopWmCapacity ≤ index ∨ (kind ≠ .minimize ∧ kind ≠ .maximize) then emptyRect
  else if w.flags &&& desktopWmWindowDialog ≠ 0 ∨ m.titleHeight < 20 ∨ 64 < m.titleHeight ∨
      w.height < m.frameBorder * 2 + m.titleHeight ∨
      w.width < m.frameBorder * 2 + m.titleHeight * 3 + 12 then emptyRect
  else
    let size := m.titleHeight - 6
    let right : Int := w.x + w.width - m.frameBorder - 3 - size
    let x := if kind = .minimize then right - (size + 3) else right
    let y : Int := w.y + m.frameBorder + 3
    if x < -2147483648 ∨ 2147483647 < x + size ∨ y < -2147483648 ∨ 2147483647 < y + size then
      emptyRect
    else ⟨x, y, size, size⟩

def desktopWmWindowAt (x y : Int) : Option Nat :=
  m.zOrder.reverse.find? fun index =>
    index < desktopWmCapacity && (m.window index).visible && pointInRect (m.window index).rect x y

/-- One axis of `clamp_window`. -/
def clampAxis (low high : Int) (size : Nat) (position : Int) : Int :=
  let maximum := toInt32 (high - toInt32 size)
  let maximum := if maximum < low then low else maximum
  let position := if position < low then low else position
  if maximum < position then maximum else position

def clampWindow (w : DesktopWindow) : DesktopWindow :=
  { w with
    x := clampAxis m.workLeft m.workRight w.width w.x
    y := clampAxis m.workTop m.workBottom w.height w.y }

def workWidth : Nat := toUint32 (m.workRight - m.workLeft)
def workHeight : Nat := toUint32 (m.workBottom - m.workTop)

def restoreNormalBounds (w : DesktopWindow) : DesktopWindow :=
  if ¬ w.maximized then w
  else
    { clampWindow m
      { w with
        x := w.normalBounds.x
        y := w.normalBounds.y
        width := min w.normalBounds.width (workWidth m)
        height := min w.normalBounds.height (workHeight m) } with
      maximized := false
      normalBounds := emptyRect }

/-- One axis of `resize_window`: the dragged edge is kept in the work area and away from the
opposite edge, which stays. -/
def resizeAxis (low high : Int) (minimum : Nat) (towardLow towardHigh : Bool) (position : Int)
    (size : Nat) (delta : Int) : Int × Nat :=
  let first := if towardLow then position + delta else position
  let last := if towardHigh then position + size + delta else position + size
  if towardLow then
    let maximum := last - minimum
    let first := if first < low then low else first
    let first := if maximum < first then maximum else first
    (toInt32 first, toUint32 (last - first))
  else if towardHigh then
    let least := first + minimum
    let last := if high < last then high else last
    let last := if last < least then least else last
    (toInt32 first, toUint32 (last - first))
  else (toInt32 first, toUint32 (last - first))

def resizeWindow (w : DesktopWindow) (pointerX pointerY : Int) : DesktopWindow :=
  let horizontal := resizeAxis m.workLeft m.workRight m.minimumWidth m.resizeEdges.left
    m.resizeEdges.right m.resizeWindowX m.resizeWindowWidth (pointerX - m.resizeStartX)
  let vertical := resizeAxis m.workTop m.workBottom m.minimumHeight m.resizeEdges.top
    m.resizeEdges.bottom m.resizeWindowY m.resizeWindowHeight (pointerY - m.resizeStartY)
  { w with
    x := horizontal.1
    y := vertical.1
    width := horizontal.2
    height := vertical.2 }

end Geometry

section Transitions

variable (m : DesktopWm)

def cancelWindowCapture (index : Nat) : DesktopWm :=
  if m.captureWindow ≠ some index then m
  else
    { m with
      captureKind := .none
      captureWindow := none
      resizeEdges := {}
      captionArmed := false
      moveGeneration := 0
      movePreview := emptyRect }

def desktopWmSetVisualOptions (shadows contents : Nat) : Int × DesktopWm :=
  if 1 < shadows ∨ 1 < contents then (desktopWmEinval, m)
  else if m.captureKind ≠ .none then (desktopWmEbusy, m)
  else
    (0, { m with
      windowShadows := shadows
      dragContents := contents })

/-- The outline of a move whose window is only moved on release. -/
def desktopWmMoveOutline : Option DesktopRect :=
  match m.captureWindow with
  | none => none
  | some index =>
    let w := m.window index
    if m.dragContents ≠ 0 ∨ m.captureKind ≠ .move ∨ desktopWmCapacity ≤ index ∨
        m.moveGeneration = 0 then none
    else if ¬ w.visible ∨ w.generation ≠ m.moveGeneration ∨ m.movePreview.width ≠ w.width ∨
        m.movePreview.height ≠ w.height then none
    else some m.movePreview

def desktopWmToggleMaximize (index : Nat) : DesktopWm :=
  let w := m.window index
  if desktopWmCapacity ≤ index then m
  else if ¬ w.visible ∨ w.flags &&& (desktopWmWindowDialog ||| desktopWmWindowStateBlocked) ≠ 0 ∨
      m.workRight ≤ m.workLeft ∨ m.workBottom ≤ m.workTop ∨ w.width = 0 ∨ w.height = 0 ∨
      2147483647 < w.width ∨ 2147483647 < w.height then m
  else
    let m := cancelWindowCapture m index
    if w.maximized then m.setWindow index (restoreNormalBounds m w)
    else
      m.setWindow index
        { w with
          normalBounds := w.rect
          maximized := true
          x := m.workLeft
          y := m.workTop
          width := workWidth m
          height := workHeight m }

def raiseWindow (index : Nat) : DesktopWm :=
  let position := m.zOrder.idxOf index
  if desktopWmCapacity ≤ position ∨ position = desktopWmCapacity - 1 then m
  else { m with zOrder := m.zOrder.eraseIdx position ++ [index] }

def focusWindow (index : Nat) : DesktopWm :=
  if desktopWmCapacity ≤ index ∨ ¬ (m.window index).visible then m
  else
    raiseWindow
      { m with
        keyboardFocus := some index
        selected := index } index

def topVisible : Option Nat :=
  m.zOrder.reverse.find? fun index => index < desktopWmCapacity && (m.window index).visible

def focusTopVisible : DesktopWm :=
  { m with
    keyboardFocus := topVisible m
    selected := (topVisible m).getD m.selected }

def desktopWmOpen (index : Nat) : DesktopWm :=
  let w := m.window index
  if desktopWmCapacity ≤ index then m
  else
    let next := if (m.nextGeneration + 1) % 4294967296 = 0 then 1
      else (m.nextGeneration + 1) % 4294967296
    let fresh := ! w.visible && ! w.minimized
    let opened :=
      { w with
        visible := true
        minimized := false
        generation := if fresh then next else w.generation }
    focusWindow
      { m.setWindow index opened with
        nextGeneration := if fresh then next else m.nextGeneration } index

/-- What `close` and `minimize` do to the focus once a window is hidden. -/
def leaveFocus (index : Nat) : DesktopWm :=
  let m := if m.keyboardFocus = some index then focusTopVisible m else m
  if m.pointerFocus = some index then { m with pointerFocus := none } else m

def desktopWmClose (index : Nat) : DesktopWm :=
  let w := m.window index
  if desktopWmCapacity ≤ index ∨ (¬ w.visible ∧ ¬ w.minimized) then m
  else
    let m := cancelWindowCapture m index
    leaveFocus
      (m.setWindow index
        { restoreNormalBounds m w with
          minimized := false
          visible := false }) index

def desktopWmMinimize (index : Nat) : DesktopWm :=
  let w := m.window index
  if desktopWmCapacity ≤ index then m
  else if ¬ w.visible ∨
      w.flags &&& (desktopWmWindowDialog ||| desktopWmWindowStateBlocked) ≠ 0 then m
  else
    let m := cancelWindowCapture m index
    leaveFocus
      (m.setWindow index
        { w with
          visible := false
          minimized := true }) index

def desktopWmSelect (index : Nat) : DesktopWm :=
  if desktopWmCapacity ≤ index then m
  else if (m.window index).minimized then desktopWmOpen m index
  else
    let m := { m with selected := index }
    if (m.window index).visible then focusWindow m index else m

def inCaption (index : Nat) (x y : Int) : Bool :=
  pointInRect (desktopWmCaptionRect m index .minimize) x y ||
    pointInRect (desktopWmCaptionRect m index .maximize) x y

/-- The press on a focused window: close button, state buttons, resize, title, client. -/
def pressWindow (index : Nat) (x y : Int) : DesktopWm :=
  let w := m.window index
  if pointInRect (desktopWmCloseRect m index) x y then
    { m with
      captureKind := .close
      captureWindow := some index
      captionArmed := true }
  else if inCaption m index x y then
    if w.flags &&& desktopWmWindowStateBlocked ≠ 0 then m
    else
      { m with
        captureKind := if pointInRect (desktopWmCaptionRect m index .minimize) x y then .minimize
          else .maximize
        captureWindow := some index
        captionArmed := true }
  else
    let m := { m with resizeEdges := resizeEdgesAt m index x y }
    if m.resizeEdges ≠ {} then
      { m with
        captureKind := .resize
        captureWindow := some index
        resizeStartX := x
        resizeStartY := y
        resizeWindowX := w.x
        resizeWindowY := w.y
        resizeWindowWidth := w.width
        resizeWindowHeight := w.height }
    else if pointInRect (titleRect m index) x y then
      if w.maximized then m
      else
        { m with
          captureKind := .move
          captureWindow := some index
          dragOffsetX := toInt32 (x - w.x)
          dragOffsetY := toInt32 (y - w.y)
          moveGeneration := w.generation
          movePreview := w.rect }
    else
      { m with
        captureKind := .client
        captureWindow := some index }

def desktopWmPointerPress (x y : Int) : DesktopWm :=
  if m.captureKind ≠ .none then m
  else
    match desktopWmWindowAt m x y with
    | none => { m with pointerFocus := none }
    | some index =>
      if (m.window index).flags &&& desktopWmWindowStateBlocked ≠ 0 ∧ inCaption m index x y then m
      else pressWindow (focusWindow { m with pointerFocus := some index } index) index x y

/-- A proposed coordinate, kept in `int32_t`. -/
def saturate (v : Int) : Int :=
  if v < -2147483648 then -2147483648 else if 2147483647 < v then 2147483647 else v

def dragWindow (index : Nat) (x y : Int) : DesktopWm :=
  let w := m.window index
  let dragged := if m.dragContents = 0 then
      { w with
        x := m.movePreview.x
        y := m.movePreview.y }
    else w
  let moved := clampWindow m
    { dragged with
      x := saturate (x - m.dragOffsetX)
      y := saturate (y - m.dragOffsetY) }
  if m.dragContents = 0 then { m with movePreview := moved.rect } else m.setWindow index moved

def desktopWmPointerMotion (x y : Int) : DesktopWm :=
  if m.captureKind = .none then { m with pointerFocus := desktopWmWindowAt m x y }
  else
    let m := { m with pointerFocus := m.captureWindow }
    match m.captureWindow with
    | none => m
    | some index =>
      let w := m.window index
      if desktopWmCapacity ≤ index then m
      else if ¬ w.visible then cancelWindowCapture m index
      else
        match m.captureKind with
        | .close => { m with captionArmed := pointInRect (desktopWmCloseRect m index) x y }
        | .minimize =>
          { m with captionArmed := pointInRect (desktopWmCaptionRect m index .minimize) x y }
        | .maximize =>
          { m with captionArmed := pointInRect (desktopWmCaptionRect m index .maximize) x y }
        | .resize => m.setWindow index (resizeWindow m w x y)
        | .move =>
          if w.generation ≠ m.moveGeneration then cancelWindowCapture m index
          else dragWindow m index x y
        | .client => m
        | .none => m

def endCapture : DesktopWm :=
  { m with
    captureKind := .none
    captureWindow := none
    resizeEdges := {}
    captionArmed := false
    moveGeneration := 0
    movePreview := emptyRect }

def commitOutline (captured : Option Nat) (x y : Int) : DesktopWm :=
  let m := desktopWmPointerMotion m x y
  match desktopWmMoveOutline m, captured with
  | some preview, some index =>
    m.setWindow index
      { m.window index with
        x := preview.x
        y := preview.y }
  | _, _ => m

/-- What the button does that was pressed, when it is released on it. -/
def releaseButton (kind : DesktopWmCapture) (index : Nat) (x y : Int) : DesktopWm :=
  if desktopWmCapacity ≤ index ∨ ¬ (m.window index).visible then m
  else
    match kind with
    | .close =>
      if pointInRect (desktopWmCloseRect m index) x y then desktopWmClose m index else m
    | .minimize =>
      if desktopWmWindowAt m x y = some index ∧
          pointInRect (desktopWmCaptionRect m index .minimize) x y then desktopWmMinimize m index
      else m
    | .maximize =>
      if desktopWmWindowAt m x y = some index ∧
          pointInRect (desktopWmCaptionRect m index .maximize) x y then
        desktopWmToggleMaximize m index
      else m
    | _ => m

def desktopWmPointerRelease (x y : Int) : DesktopWm :=
  let captured := m.captureWindow
  let kind := m.captureKind
  let m := if kind = .move ∧ m.dragContents = 0 then commitOutline m captured x y else m
  let m := endCapture m
  let m := match captured with
    | none => m
    | some index => releaseButton m kind index x y
  { m with pointerFocus := desktopWmWindowAt m x y }

end Transitions

inductive DesktopWmKey where
  | tab
  | up
  | down
  | left
  | right
  | enter
  | escape
  deriving DecidableEq

/-- `DESKTOP_WM_EVENT_*`; `none` is a key that no `DESKTOP_WM_KEY_*` names. -/
inductive DesktopWmEvent where
  | pointerMotion (x y : Int32)
  | pointerButton (button pressed : UInt32) (x y : Int32)
  | keyboard (key : Option DesktopWmKey)
  | openWindow (target : UInt32)
  | select (target : UInt32)
  | close (target : UInt32)
  | minimize (target : UInt32)
  | toggleMaximize (target : UInt32)
  | unknown (type : UInt32)

/-- The parts of `desktop_wm_dispatch_result_t` that are not derived from the damage. -/
structure DesktopWmResult where
  launch : Bool := false
  exit : Bool := false
  target : Option Nat := none

def desktopWmKeyboard (m : DesktopWm) : DesktopWmKey → DesktopWmResult × DesktopWm
  | .tab => ({}, desktopWmSelect m ((m.selected + 1) % desktopWmCapacity))
  | .right => ({}, desktopWmSelect m ((m.selected + 1) % desktopWmCapacity))
  | .left => ({}, desktopWmSelect m ((m.selected + desktopWmCapacity - 1) % desktopWmCapacity))
  | .up => ({}, desktopWmSelect m ((m.selected + desktopWmCapacity - 2) % desktopWmCapacity))
  | .down => ({}, desktopWmSelect m ((m.selected + 2) % desktopWmCapacity))
  | .enter =>
    let m := desktopWmOpen m m.selected
    ({ launch := true, target := some m.selected }, m)
  | .escape =>
    match m.captureWindow with
    | some index =>
      if m.captureKind = .move ∧ m.dragContents = 0 then ({}, cancelWindowCapture m index)
      else ({ exit := true }, m)
    | none => ({ exit := true }, m)

def onTarget (m : DesktopWm) (target : UInt32) (act : DesktopWm → Nat → DesktopWm) :
    Int × DesktopWmResult × DesktopWm :=
  if desktopWmCapacity ≤ target.toNat then (desktopWmEinval, {}, m)
  else (0, {}, act m target.toNat)

def desktopWmDispatch (m : DesktopWm) : DesktopWmEvent → Int × DesktopWmResult × DesktopWm
  | .pointerMotion x y => (0, {}, desktopWmPointerMotion m x.toInt y.toInt)
  | .pointerButton button pressed x y =>
    if button ≠ 1 ∨ 1 < pressed then (desktopWmEinval, {}, m)
    else if pressed ≠ 0 then (0, {}, desktopWmPointerPress m x.toInt y.toInt)
    else (0, {}, desktopWmPointerRelease m x.toInt y.toInt)
  | .keyboard (some key) => (0, desktopWmKeyboard m key)
  | .keyboard none => (desktopWmEinval, {}, m)
  | .openWindow target => onTarget m target desktopWmOpen
  | .select target => onTarget m target desktopWmSelect
  | .close target => onTarget m target desktopWmClose
  | .minimize target => onTarget m target desktopWmMinimize
  | .toggleMaximize target => onTarget m target desktopWmToggleMaximize
  | .unknown _ => (desktopWmEinval, {}, m)

def initialWindow (m : DesktopWm) (baseX baseY : Int) (width height index : Nat) : DesktopWindow :=
  clampWindow m
    { x := toInt32 (baseX + index * 36)
      y := toInt32 (baseY + index * 28)
      width
      height
      contentId := index
      flags := 0
      visible := false
      minimized := false
      maximized := false
      normalBounds := emptyRect
      generation := 0 }

def desktopWmInitialize (screenWidth screenHeight : UInt32) (workTop workBottom : Int32)
    (titleHeight : UInt32) : DesktopWm :=
  let height := toInt32 screenHeight.toNat
  let left : Int := 4
  let right := if 8 < screenWidth.toNat then toInt32 (toInt32 screenWidth.toNat - 4) else 4
  let top := max workTop.toInt 0
  let bottom := min workBottom.toInt height
  let bottom := if bottom ≤ top then height else bottom
  let title := max titleHeight.toNat 18
  let availableWidth := if left < right then toUint32 (right - left) else 1
  let availableHeight := if top < bottom then toUint32 (bottom - top) else 1
  let desiredHeight := if 4294967295 - 64 < title then 4294967295 else title + 64
  let minimumWidth := min availableWidth 160
  let minimumHeight := min availableHeight desiredHeight
  let width := availableWidth / 5 * 3
  let width := if width < minimumWidth then availableWidth else width
  let windowHeight := availableHeight / 5 * 3
  let windowHeight := if windowHeight < minimumHeight then availableHeight else windowHeight
  let m : DesktopWm :=
    { windows := Vector.replicate desktopWmCapacity default
      zOrder := List.range desktopWmCapacity
      keyboardFocus := none
      pointerFocus := none
      selected := 0
      captureKind := .none
      captureWindow := none
      dragOffsetX := 0
      dragOffsetY := 0
      resizeEdges := {}
      resizeStartX := 0
      resizeStartY := 0
      resizeWindowX := 0
      resizeWindowY := 0
      resizeWindowWidth := 0
      resizeWindowHeight := 0
      workLeft := left
      workTop := top
      workRight := right
      workBottom := bottom
      titleHeight := title
      frameBorder := 3
      resizeMargin := 6
      minimumWidth
      minimumHeight
      captionArmed := false
      nextGeneration := 0
      windowShadows := 1
      dragContents := 1
      movePreview := emptyRect
      moveGeneration := 0 }
  let baseX := toInt32 (left + toInt32 (availableWidth / 5 : Nat))
  let baseY := toInt32 (top + 12)
  { m with
    windows := Vector.ofFn fun index =>
      initialWindow m baseX baseY (min width availableWidth) (min windowHeight availableHeight)
        index }

end ReistOs
