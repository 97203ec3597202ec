import ReistOs.DesktopWmPointer

/-! What holds of the window manager of `desktop_wm.c` after every event. -/

namespace ReistOs

open FixedArray DesktopWm WorkAxis

structure WorkArea where
  horizontal : WorkAxis
  vertical : WorkAxis

namespace WorkArea

structure Of (area : WorkArea) (m : DesktopWm) : Prop where
  left : m.workLeft = area.horizontal.low
  right : m.workRight = area.horizontal.high
  minimumWidth : m.minimumWidth = area.horizontal.minimum
  top : m.workTop = area.vertical.low
  bottom : m.workBottom = area.vertical.high
  minimumHeight : m.minimumHeight = area.vertical.minimum

def Places (area : WorkArea) (r : DesktopRect) : Prop :=
  area.horizontal.Placed r.x r.width ∧ area.vertical.Placed r.y r.height

/-- A window that is placed, and that fills the work area where it is maximized. -/
structure Frames (area : WorkArea) (f : DesktopFrame) : Prop where
  placed : area.Places f.rect
  wide : f.maximized = true → area.horizontal.low < area.horizontal.high
  high : f.maximized = true → area.vertical.low < area.vertical.high
  normal : f.maximized = true → area.Places f.normalBounds

/-- The window is where the drag of its edges can have taken it. -/
structure Anchors (area : WorkArea) (m : DesktopWm) (i : Nat) : Prop where
  horizontal : ¬ (m.resizeEdges.left = true ∧ m.resizeEdges.right = true)
  vertical : ¬ (m.resizeEdges.top = true ∧ m.resizeEdges.bottom = true)
  normal : (m.window i).maximized = false
  placed : area.Places
    ⟨m.resizeWindowX, m.resizeWindowY, m.resizeWindowWidth, m.resizeWindowHeight⟩
  column : area.horizontal.Resized m.resizeEdges.left m.resizeEdges.right m.resizeWindowX
    m.resizeWindowWidth ((m.window i).x, (m.window i).width)
  row : area.vertical.Resized m.resizeEdges.top m.resizeEdges.bottom m.resizeWindowY
    m.resizeWindowHeight ((m.window i).y, (m.window i).height)

structure Keeps (area : WorkArea) (m : DesktopWm) : Prop extends Focused m where
  extent : area.Of m
  frames : ∀ i, i < desktopWmCapacity → area.Frames (m.window i).frame
  anchored : ∀ i, m.captureKind = .resize → m.captureWindow = some i → area.Anchors m i
  moving : ∀ i, m.captureKind = .move → m.captureWindow = some i → (m.window i).maximized = false

end WorkArea

variable {area : WorkArea} {m m' : DesktopWm} {i : Nat} {w : DesktopWindow} {x y : Int}

section Frames

theorem WorkArea.Of.step (h : area.Of m) (hsame : m.SameArea m') : area.Of m' :=
  { left := hsame.left.trans h.left
    right := hsame.right.trans h.right
    minimumWidth := hsame.minimumWidth.trans h.minimumWidth
    top := hsame.top.trans h.top
    bottom := hsame.bottom.trans h.bottom
    minimumHeight := hsame.minimumHeight.trans h.minimumHeight }

variable {w' : DesktopWindow} {a : WorkAxis}

theorem frame_rect (h : w'.frame = w.frame) : w'.rect = w.rect :=
  (congrArg DesktopFrame.rect h :)

theorem frame_maximized (h : w'.frame = w.frame) :
    w'.maximized = w.maximized :=
  (congrArg DesktopFrame.maximized h :)

theorem places_rect : area.Places w.rect ↔
    area.horizontal.Placed w.x w.width ∧ area.vertical.Placed w.y w.height := Iff.rfl

theorem WorkAxis.placed_whole (h : a.low < a.high) :
    a.Placed a.low (toUint32 (a.high - a.low)) := by
  have hlow := a.low_nonneg
  have hhigh := a.high_le
  have hminimum := a.minimum_le h
  have hextent : (toUint32 (a.high - a.low) : Int) = a.high - a.low :=
    toUint32_eq (by omega) (by omega)
  constructor <;> omega

theorem WorkAxis.Placed.size_le_whole {position : Int} {size : Nat} (h : a.Placed position size)
    (hlt : a.low < a.high) : size ≤ toUint32 (a.high - a.low) := by
  have hlow := a.low_nonneg
  have hhigh := a.high_le
  have habove := h.above
  have hbelow := h.below hlt
  have hextent : (toUint32 (a.high - a.low) : Int) = a.high - a.low :=
    toUint32_eq (by omega) (by omega)
  omega

theorem clampWindow_places (harea : area.Of m) (hplaced : area.Places w.rect)
    (hx : x ≤ 2147483647) (hy : y ≤ 2147483647) :
    area.Places (clampWindow m
      { w with
        x := x
        y := y }).rect := by
  obtain ⟨hcolumn, hrow⟩ := places_rect.mp hplaced
  unfold clampWindow
  rw [harea.left, harea.right, harea.top, harea.bottom]
  exact ⟨hcolumn.clamp hx, hrow.clamp hy⟩

theorem restoreNormalBounds_frame (harea : area.Of m) (hframes : area.Frames w.frame)
    (hmax : w.maximized = true) :
    (restoreNormalBounds m w).frame = ⟨w.normalBounds, false, emptyRect⟩ := by
  obtain ⟨hcolumn, hrow⟩ := hframes.normal hmax
  have hwide := hframes.wide hmax
  have hhigh := hframes.high hmax
  have hwidth : min w.normalBounds.width (workWidth m) = w.normalBounds.width := by
    unfold workWidth
    rw [harea.right, harea.left]
    exact Nat.min_eq_left (hcolumn.size_le_whole hwide)
  have hheight : min w.normalBounds.height (workHeight m) = w.normalBounds.height := by
    unfold workHeight
    rw [harea.bottom, harea.top]
    exact Nat.min_eq_left (hrow.size_le_whole hhigh)
  unfold restoreNormalBounds
  rw [if_neg (by simpa using hmax), hwidth, hheight]
  unfold DesktopWindow.frame DesktopWindow.rect clampWindow
  rw [harea.left, harea.right, harea.top, harea.bottom]
  have hx := hcolumn.clampAxis_eq hwide
  have hy := hrow.clampAxis_eq hhigh
  simp only [DesktopWindow.frame] at hx hy
  rw [hx, hy]

theorem resizeWindow_resized (harea : area.Of m) (h : area.Anchors m i) :
    area.horizontal.Resized m.resizeEdges.left m.resizeEdges.right m.resizeWindowX
        m.resizeWindowWidth
        ((resizeWindow m w x y).x, (resizeWindow m w x y).width) ∧
      area.vertical.Resized m.resizeEdges.top m.resizeEdges.bottom m.resizeWindowY
        m.resizeWindowHeight
        ((resizeWindow m w x y).y, (resizeWindow m w x y).height) := by
  unfold resizeWindow
  rw [harea.left, harea.right, harea.top, harea.bottom, harea.minimumWidth, harea.minimumHeight]
  exact ⟨resizeAxis_resized h.placed.1 h.horizontal,
    resizeAxis_resized h.placed.2 h.vertical⟩

end Frames

theorem frames_step (h : area.Keeps m) (hchanged : Changed m m') (hi : i < desktopWmCapacity) :
    area.Frames (m'.window i).frame := by
  have hbefore := h.frames i hi
  cases hchanged.reshaped i with
  | kept hframe =>
    rw [hframe]
    exact hbefore
  | maximized hnormal hwide hhigh hframe =>
    rw [h.extent.left, h.extent.right] at hwide
    rw [h.extent.top, h.extent.bottom] at hhigh
    rw [hframe]
    unfold workWidth workHeight
    rw [h.extent.left, h.extent.right, h.extent.top, h.extent.bottom]
    exact
      { placed := ⟨placed_whole hwide, placed_whole hhigh⟩
        wide := fun _ => hwide
        high := fun _ => hhigh
        normal := fun _ => hbefore.placed }
  | restored hmaximized hframe =>
    rw [hframe, restoreNormalBounds_frame h.extent hbefore hmaximized]
    exact
      { placed := hbefore.normal hmaximized
        wide := by simp
        high := by simp
        normal := by simp }
  | resized x y hkind hwindow hframe =>
    have hanchors := h.anchored i hkind hwindow
    obtain ⟨hcolumn, hrow⟩ := resizeWindow_resized (w := m.window i) (x := x) (y := y) h.extent
      hanchors
    have hnormal : (resizeWindow m (m.window i) x y).frame.maximized = false := hanchors.normal
    rw [hframe]
    refine ⟨⟨hcolumn.placed, hrow.placed⟩, ?_, ?_, ?_⟩ <;> simp [hnormal]
  | moved x y hx hy hkind hwindow hgeneration hframe =>
    rw [hframe]
    exact
      { placed := clampWindow_places h.extent hbefore.placed hx hy
        wide := hbefore.wide
        high := hbefore.high
        normal := hbefore.normal }

theorem anchors_of_snapshot (h : area.Keeps m) (hwindows : m'.windows = m.windows)
    (hshown : m.shown i = true) (hsnapshot : m'.Snapshot i) : area.Anchors m' i := by
  have hwindow : m'.window i = m.window i := by
    unfold DesktopWm.window
    rw [hwindows]
  obtain ⟨hcolumn, hrow⟩ := places_rect.mp (h.frames i (shown_lt hshown)).placed
  obtain ⟨hhorizontal, hvertical, hnormal, hx, hy, hwidth, hheight⟩ := hsnapshot
  rw [hwindow] at hx hy hwidth hheight
  refine ⟨hhorizontal, hvertical, hnormal, ?_, ?_, ?_⟩
  · rw [hx, hy, hwidth, hheight]
    exact ⟨hcolumn, hrow⟩
  · rw [hwindow, hx, hwidth]
    exact ⟨hcolumn, fun _ => rfl, fun _ => rfl, fun _ _ => rfl⟩
  · rw [hwindow, hy, hheight]
    exact ⟨hrow, fun _ => rfl, fun _ => rfl, fun _ _ => rfl⟩

theorem Anchors.of_grip (h : area.Anchors m i) (hgrip : m'.grip = m.grip) {w : DesktopWindow}
    (hframe : (m'.window i).frame = w.frame) (hnormal : w.maximized = false)
    (hcolumn : area.horizontal.Resized m.resizeEdges.left m.resizeEdges.right m.resizeWindowX
      m.resizeWindowWidth (w.x, w.width))
    (hrow : area.vertical.Resized m.resizeEdges.top m.resizeEdges.bottom m.resizeWindowY
      m.resizeWindowHeight (w.y, w.height)) : area.Anchors m' i := by
  obtain ⟨-, -, hedges, -, -, hx, hy, hwidth, hheight, -⟩ := CaptureGrip.mk.inj hgrip
  obtain ⟨hx', hy', hwidth', hheight'⟩ := DesktopRect.mk.inj (frame_rect hframe)
  refine ⟨?_, ?_, (frame_maximized hframe).trans hnormal, ?_, ?_, ?_⟩
  · rw [hedges]
    exact h.horizontal
  · rw [hedges]
    exact h.vertical
  · rw [hx, hy, hwidth, hheight]
    exact h.placed
  · rw [hedges, hx, hwidth, hx', hwidth']
    exact hcolumn
  · rw [hedges, hy, hheight, hy', hheight']
    exact hrow

theorem anchors_step (h : area.Keeps m) (hchanged : Changed m m')
    (hkind : m'.captureKind = .resize) (hwindow : m'.captureWindow = some i) :
    area.Anchors m' i := by
  cases hchanged.capture with
  | ended hfree =>
    rw [hkind] at hfree
    cases hfree
  | grabbed j hfree hnone hcaptured hshown hwindows hresize =>
    obtain rfl : i = j := Option.some.inj (hwindow.symm.trans hcaptured)
    exact anchors_of_snapshot h hwindows hshown (hresize hkind)
  | held hgrip =>
    have hkind' : m.captureKind = .resize := (congrArg CaptureGrip.kind hgrip :).symm.trans hkind
    have hwindow' : m.captureWindow = some i :=
      (congrArg CaptureGrip.window hgrip :).symm.trans hwindow
    have hanchors := h.anchored i hkind' hwindow'
    cases hchanged.reshaped i with
    | kept hframe =>
      exact Anchors.of_grip hanchors hgrip hframe hanchors.normal hanchors.column hanchors.row
    | maximized _ _ _ _ hreleased => exact absurd hwindow hreleased
    | restored _ _ hreleased => exact absurd hwindow hreleased
    | resized x y _ _ hframe =>
      obtain ⟨hcolumn, hrow⟩ := resizeWindow_resized (w := m.window i) (x := x) (y := y) h.extent
        hanchors
      exact Anchors.of_grip hanchors hgrip hframe hanchors.normal hcolumn hrow
    | moved x y _ _ hmove =>
      rw [hkind'] at hmove
      cases hmove

theorem moving_step (h : area.Keeps m) (hchanged : Changed m m')
    (hkind : m'.captureKind = .move) (hwindow : m'.captureWindow = some i) :
    (m'.window i).maximized = false := by
  cases hchanged.capture with
  | ended hfree =>
    rw [hkind] at hfree
    cases hfree
  | grabbed j hfree hnone hcaptured hshown hwindows hresize hmove =>
    obtain rfl : i = j := Option.some.inj (hwindow.symm.trans hcaptured)
    unfold DesktopWm.window
    rw [hwindows]
    exact hmove hkind
  | held hgrip =>
    have hkind' : m.captureKind = .move := (congrArg CaptureGrip.kind hgrip :).symm.trans hkind
    have hwindow' : m.captureWindow = some i :=
      (congrArg CaptureGrip.window hgrip :).symm.trans hwindow
    have hnormal := h.moving i hkind' hwindow'
    cases hchanged.reshaped i with
    | kept hframe => exact (frame_maximized hframe).trans hnormal
    | maximized _ _ _ _ hreleased => exact absurd hwindow hreleased
    | restored _ _ hreleased => exact absurd hwindow hreleased
    | resized x y hresize =>
      rw [hkind'] at hresize
      cases hresize
    | moved x y _ _ _ _ _ hframe => exact (frame_maximized hframe).trans hnormal

theorem WorkArea.Keeps.step (h : area.Keeps m) (hchanged : Changed m m') (hfocused : Focused m') :
    area.Keeps m' :=
  { toFocused := hfocused
    extent := h.extent.step hchanged.area
    frames := fun _ hi => frames_step h hchanged hi
    anchored := fun _ hkind hwindow => anchors_step h hchanged hkind hwindow
    moving := fun _ hkind hwindow => moving_step h hchanged hkind hwindow }

end ReistOs
