import ReistOs.DesktopWmFocus
import ReistOs.DesktopWmPlacement

/-! What one operation of `desktop_wm.c` does to the windows and to the pointer capture. -/

namespace ReistOs

open FixedArray DesktopWm

structure DesktopFrame where
  rect : DesktopRect
  maximized : Bool
  normalBounds : DesktopRect

def DesktopWindow.frame (w : DesktopWindow) : DesktopFrame := ⟨w.rect, w.maximized, w.normalBounds⟩

/-- What a pointer capture keeps of the press that began it. -/
structure CaptureGrip where
  kind : DesktopWmCapture
  window : Option Nat
  edges : ResizeEdges
  startX : Int
  startY : Int
  windowX : Int
  windowY : Int
  windowWidth : Nat
  windowHeight : Nat
  generation : Nat

namespace DesktopWm

def grip (m : DesktopWm) : CaptureGrip :=
  ⟨m.captureKind, m.captureWindow, m.resizeEdges, m.resizeStartX, m.resizeStartY,
    m.resizeWindowX, m.resizeWindowY, m.resizeWindowWidth, m.resizeWindowHeight,
    m.moveGeneration⟩

/-- The manager without its order, its focus and what it shows of a capture. -/
def body (m : DesktopWm) : DesktopWm :=
  { m with
    zOrder := []
    keyboardFocus := none
    pointerFocus := none
    selected := 0
    captionArmed := false
    nextGeneration := 0
    movePreview := emptyRect }

structure SameArea (m m' : DesktopWm) : Prop where
  left : m'.workLeft = m.workLeft
  top : m'.workTop = m.workTop
  right : m'.workRight = m.workRight
  bottom : m'.workBottom = m.workBottom
  minimumWidth : m'.minimumWidth = m.minimumWidth
  minimumHeight : m'.minimumHeight = m.minimumHeight

/-- What an operation can do to the frame of one window. -/
inductive Reshaped (m m' : DesktopWm) (i : Nat) : Prop where
  | kept (hframe : (m'.window i).frame = (m.window i).frame)
  | maximized (hnormal : (m.window i).maximized = false) (hwide : m.workLeft < m.workRight)
      (hhigh : m.workTop < m.workBottom)
      (hframe : (m'.window i).frame =
        ⟨⟨m.workLeft, m.workTop, workWidth m, workHeight m⟩, true, (m.window i).rect⟩)
      (hreleased : m'.captureWindow ≠ some i)
  | restored (hmaximized : (m.window i).maximized = true)
      (hframe : (m'.window i).frame = (restoreNormalBounds m (m.window i)).frame)
      (hreleased : m'.captureWindow ≠ some i)
  | resized (x y : Int) (hkind : m.captureKind = .resize) (hwindow : m.captureWindow = some i)
      (hframe : (m'.window i).frame = (resizeWindow m (m.window i) x y).frame)
  | moved (x y : Int) (hx : x ≤ 2147483647) (hy : y ≤ 2147483647) (hkind : m.captureKind = .move)
      (hwindow : m.captureWindow = some i)
      (hgeneration : (m.window i).generation = m.moveGeneration)
      (hframe : (m'.window i).frame =
        (clampWindow m
          { m.window i with
            x := x
            y := y }).frame)

/-- The capture of a resize has the bounds of the window. -/
structure Snapshot (m : DesktopWm) (i : Nat) : Prop where
  horizontal : ¬ (m.resizeEdges.left = true ∧ m.resizeEdges.right = true)
  vertical : ¬ (m.resizeEdges.top = true ∧ m.resizeEdges.bottom = true)
  normal : (m.window i).maximized = false
  x : m.resizeWindowX = (m.window i).x
  y : m.resizeWindowY = (m.window i).y
  width : m.resizeWindowWidth = (m.window i).width
  height : m.resizeWindowHeight = (m.window i).height

/-- What an operation can do to the capture. -/
inductive CaptureStep (m m' : DesktopWm) : Prop where
  | held (hgrip : m'.grip = m.grip)
  | ended (hkind : m'.captureKind = .none) (hwindow : m'.captureWindow = none)
  | grabbed (i : Nat) (hfree : m.captureKind = .none) (hkind : m'.captureKind ≠ .none)
      (hwindow : m'.captureWindow = some i) (hshown : m.shown i = true)
      (hwindows : m'.windows = m.windows) (hresize : m'.captureKind = .resize → m'.Snapshot i)
      (hmove : m'.captureKind = .move → (m.window i).maximized = false)

structure Changed (m m' : DesktopWm) : Prop where
  area : m.SameArea m'
  reshaped : ∀ i, m.Reshaped m' i
  capture : m.CaptureStep m'
  generation : ∀ i, (m.window i).visible = true →
    (m'.window i).generation = (m.window i).generation

end DesktopWm

open DesktopWm

variable {m m' m'' : DesktopWm} {i j : Nat} {w : DesktopWindow} {x y : Int}

theorem windows_of_body (h : m'.body = m.body) : m'.windows = m.windows :=
  (congrArg windows h :)

theorem window_of_body (h : m'.body = m.body) : m'.window i = m.window i := by
  unfold window
  rw [windows_of_body h]

theorem grip_of_body (h : m'.body = m.body) : m'.grip = m.grip :=
  (congrArg grip h :)

theorem area_of_body (h : m'.body = m.body) : m.SameArea m' :=
  { left := (congrArg workLeft h :)
    top := (congrArg workTop h :)
    right := (congrArg workRight h :)
    bottom := (congrArg workBottom h :)
    minimumWidth := (congrArg minimumWidth h :)
    minimumHeight := (congrArg minimumHeight h :) }

theorem DesktopWm.SameArea.refl : m.SameArea m := ⟨rfl, rfl, rfl, rfl, rfl, rfl⟩

theorem DesktopWm.SameArea.trans (h : m.SameArea m') (h' : m'.SameArea m'') : m.SameArea m'' :=
  { left := h'.left.trans h.left
    top := h'.top.trans h.top
    right := h'.right.trans h.right
    bottom := h'.bottom.trans h.bottom
    minimumWidth := h'.minimumWidth.trans h.minimumWidth
    minimumHeight := h'.minimumHeight.trans h.minimumHeight }

theorem changed_of_body (h : m'.body = m.body) : Changed m m' :=
  { area := area_of_body h
    reshaped := fun i => .kept (by rw [window_of_body h])
    capture := .held (grip_of_body h)
    generation := fun i _ => by rw [window_of_body h] }

theorem DesktopWm.Changed.focus (h : Changed m m') (hbody : m''.body = m'.body) : Changed m m'' := by
  have hwindow : ∀ i, m''.window i = m'.window i := fun i => window_of_body hbody
  have hcaptured : m''.captureWindow = m'.captureWindow := (congrArg captureWindow hbody :)
  have hkind : m''.captureKind = m'.captureKind := (congrArg captureKind hbody :)
  refine ⟨h.area.trans (area_of_body hbody), ?_, ?_, ?_⟩
  · intro i
    have hw := hwindow i
    cases h.reshaped i with
    | kept hframe => exact .kept (hw ▸ hframe)
    | maximized hnormal hwide hhigh hframe hreleased =>
      exact .maximized hnormal hwide hhigh (hw ▸ hframe) (hcaptured ▸ hreleased)
    | restored hmaximized hframe hreleased =>
      exact .restored hmaximized (hw ▸ hframe) (hcaptured ▸ hreleased)
    | resized x y hk hc hframe => exact .resized x y hk hc (hw ▸ hframe)
    | moved x y hx hy hk hc hg hframe => exact .moved x y hx hy hk hc hg (hw ▸ hframe)
  · cases h.capture with
    | held hgrip => exact .held ((grip_of_body hbody).trans hgrip)
    | ended hk hc => exact .ended (hkind.trans hk) (hcaptured.trans hc)
    | grabbed i hfree hk hc hshown hwindows hresize hmove =>
      refine .grabbed i hfree (hkind ▸ hk) (hcaptured.trans hc) hshown
        ((windows_of_body hbody).trans hwindows) ?_ ?_
      · intro hr
        obtain ⟨hh, hv, hn, hx, hy, hwidth, hheight⟩ := hresize (hkind ▸ hr)
        have hedges : m''.resizeEdges = m'.resizeEdges := (congrArg resizeEdges hbody :)
        exact
          { horizontal := hedges ▸ hh
            vertical := hedges ▸ hv
            normal := hwindow i ▸ hn
            x := (congrArg resizeWindowX hbody :).trans (hwindow i ▸ hx)
            y := (congrArg resizeWindowY hbody :).trans (hwindow i ▸ hy)
            width := (congrArg resizeWindowWidth hbody :).trans (hwindow i ▸ hwidth)
            height := (congrArg resizeWindowHeight hbody :).trans (hwindow i ▸ hheight) }
      · intro hm
        exact hmove (hkind ▸ hm)
  · intro i hv
    rw [hwindow i]
    exact h.generation i hv

theorem focusWindow_body : (focusWindow m i).body = m.body := by
  unfold focusWindow
  split
  · rfl
  · rw [raiseWindow_eq]
    rfl

theorem leaveFocus_body : (leaveFocus m i).body = m.body := by
  unfold leaveFocus
  dsimp only
  split <;> split <;> rfl

theorem cancelWindowCapture_area : m.SameArea (cancelWindowCapture m i) := by
  unfold cancelWindowCapture
  split
  · exact SameArea.refl
  · exact ⟨rfl, rfl, rfl, rfl, rfl, rfl⟩

theorem cancelWindowCapture_step : m.CaptureStep (cancelWindowCapture m i) := by
  unfold cancelWindowCapture
  split
  · exact .held rfl
  · exact .ended rfl rfl

theorem changed_cancel_set
    (hgeneration : (m.window i).visible = true → w.generation = (m.window i).generation)
    (hreshaped : i < desktopWmCapacity →
      m.Reshaped ((cancelWindowCapture m i).setWindow i w) i) :
    Changed m ((cancelWindowCapture m i).setWindow i w) := by
  have hwindow : ∀ j, ((cancelWindowCapture m i).setWindow i w).window j =
      if i = j ∧ j < desktopWmCapacity then w else m.window j := by
    intro j
    rw [window_setWindow, cancelWindowCapture_window]
  refine ⟨?_, ?_, ?_, ?_⟩
  · exact cancelWindowCapture_area.trans ⟨rfl, rfl, rfl, rfl, rfl, rfl⟩
  · intro j
    by_cases hj : i = j ∧ j < desktopWmCapacity
    · obtain ⟨rfl, hi⟩ := hj
      exact hreshaped hi
    · exact .kept (by rw [hwindow, if_neg hj])
  · cases cancelWindowCapture_step (m := m) (i := i) with
    | held hgrip => exact .held hgrip
    | ended hkind hcaptured => exact .ended hkind hcaptured
    | grabbed k hfree hkind hcaptured =>
      -- ending a capture begins none
      exfalso
      unfold cancelWindowCapture at hkind
      split at hkind
      · exact hkind hfree
      · exact hkind rfl
  · intro j hv
    rw [hwindow]
    split
    next hj =>
      obtain ⟨rfl, -⟩ := hj
      exact hgeneration hv
    next => rfl

theorem changed_cancel_hide
    (hgeneration : (m.window i).visible = true → w.generation = (m.window i).generation)
    (hreshaped : i < desktopWmCapacity →
      m.Reshaped ((cancelWindowCapture m i).setWindow i w) i) :
    Changed m (leaveFocus ((cancelWindowCapture m i).setWindow i w) i) :=
  (changed_cancel_set hgeneration hreshaped).focus leaveFocus_body

theorem changed_set (hframe : w.frame = (m.window i).frame)
    (hgeneration : (m.window i).visible = true → w.generation = (m.window i).generation) :
    Changed m (m.setWindow i w) := by
  refine ⟨⟨rfl, rfl, rfl, rfl, rfl, rfl⟩, ?_, .held rfl, ?_⟩
  · intro j
    apply Reshaped.kept
    rw [window_setWindow]
    split
    next hj => rw [hframe, hj.1]
    next => rfl
  · intro j hv
    rw [window_setWindow]
    split
    next hj =>
      obtain ⟨rfl, -⟩ := hj
      exact hgeneration hv
    next => rfl

theorem changed_set_focus {generation : Nat} (hframe : w.frame = (m.window i).frame)
    (hgeneration : (m.window i).visible = true → w.generation = (m.window i).generation) :
    Changed m (focusWindow { m.setWindow i w with nextGeneration := generation } i) :=
  (changed_set hframe hgeneration).focus (focusWindow_body.trans rfl)

theorem desktopWmOpen_changed : Changed m (desktopWmOpen m i) := by
  unfold desktopWmOpen
  split
  · exact changed_of_body rfl
  · apply changed_set_focus
    · rfl
    · intro hv
      simp [hv]

theorem desktopWmSelect_changed : Changed m (desktopWmSelect m i) := by
  unfold desktopWmSelect
  split
  · exact changed_of_body rfl
  · split
    · exact desktopWmOpen_changed
    · dsimp only
      split
      · exact changed_of_body (focusWindow_body.trans rfl)
      · exact changed_of_body rfl

theorem restoreNormalBounds_generation :
    (restoreNormalBounds m w).generation = w.generation := by
  unfold restoreNormalBounds clampWindow
  split <;> rfl

theorem restoreNormalBounds_congr (h : m.SameArea m') :
    restoreNormalBounds m' w = restoreNormalBounds m w := by
  unfold restoreNormalBounds clampWindow workWidth workHeight
  rw [h.left, h.right, h.top, h.bottom]

theorem desktopWmClose_changed : Changed m (desktopWmClose m i) := by
  unfold desktopWmClose
  dsimp only
  split
  · exact changed_of_body rfl
  · apply changed_cancel_hide
    · intro _
      exact restoreNormalBounds_generation
    · intro hi
      have hrestore := restoreNormalBounds_congr (w := m.window i)
        (cancelWindowCapture_area (m := m) (i := i))
      cases hmax : (m.window i).maximized with
      | false =>
        apply Reshaped.kept
        rw [window_setWindow_self hi, hrestore]
        unfold restoreNormalBounds
        rw [if_pos (by simp [hmax])]
        rfl
      | true =>
        apply Reshaped.restored hmax
        · rw [window_setWindow_self hi, hrestore]
          rfl
        · exact cancelWindowCapture_released

theorem desktopWmMinimize_changed : Changed m (desktopWmMinimize m i) := by
  unfold desktopWmMinimize
  dsimp only
  split
  · exact changed_of_body rfl
  · split
    · exact changed_of_body rfl
    · refine changed_cancel_hide (fun _ => rfl) ?_
      intro hi
      apply Reshaped.kept
      rw [window_setWindow_self hi]
      rfl

theorem desktopWmToggleMaximize_changed : Changed m (desktopWmToggleMaximize m i) := by
  unfold desktopWmToggleMaximize
  dsimp only
  split
  · exact changed_of_body rfl
  · split
    · exact changed_of_body rfl
    next hno =>
      have harea := cancelWindowCapture_area (m := m) (i := i)
      have hrestore := restoreNormalBounds_congr (w := m.window i) harea
      have hroom : m.workLeft < m.workRight ∧ m.workTop < m.workBottom := by
        simp only [not_or, not_le] at hno
        exact ⟨hno.2.2.1, hno.2.2.2.1⟩
      cases hmax : (m.window i).maximized with
      | true =>
        rw [if_pos rfl]
        refine changed_cancel_set (fun _ => restoreNormalBounds_generation) fun hi => ?_
        apply Reshaped.restored hmax
        · rw [window_setWindow_self hi, hrestore]
        · exact cancelWindowCapture_released
      | false =>
        rw [if_neg (by simp)]
        refine changed_cancel_set (fun _ => rfl) fun hi => ?_
        apply Reshaped.maximized hmax hroom.1 hroom.2
        · rw [window_setWindow_self hi]
          unfold DesktopWindow.frame workWidth workHeight
          rw [harea.left, harea.right, harea.top, harea.bottom]
          rfl
        · exact cancelWindowCapture_released

end ReistOs
