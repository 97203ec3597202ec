import ReistOs.DesktopWmSteps

/-! What the pointer of `desktop_wm.c` does to the windows and to the capture. -/

namespace ReistOs

open FixedArray DesktopWm DesktopWm

variable {m m' : DesktopWm} {i j : Nat} {w : DesktopWindow} {x y : Int}

theorem changed_of_windows (harea : m.SameArea m') (hwindows : m'.windows = m.windows)
    (hcapture : m.CaptureStep m') : Changed m m' := by
  have hwindow : ∀ i, m'.window i = m.window i := by
    intro i
    unfold window
    rw [hwindows]
  refine ⟨harea, ?_, hcapture, ?_⟩
  · intro i
    exact .kept (by rw [hwindow])
  · intro i _
    rw [hwindow]

theorem resizeEdgesAt_horizontal :
    ¬ ((resizeEdgesAt m i x y).left = true ∧ (resizeEdgesAt m i x y).right = true) := by
  unfold resizeEdgesAt
  dsimp only
  split
  · simp
  · split
    · simp
    · split
      · simp
      · split <;> simp <;> omega

theorem resizeEdgesAt_vertical :
    ¬ ((resizeEdgesAt m i x y).top = true ∧ (resizeEdgesAt m i x y).bottom = true) := by
  unfold resizeEdgesAt
  dsimp only
  split
  · simp
  · split
    · simp
    · split
      · simp
      · split <;> simp <;> omega

theorem resizeEdgesAt_normal (h : resizeEdgesAt m i x y ≠ {}) :
    (m.window i).maximized = false := by
  by_contra hmax
  apply h
  unfold resizeEdgesAt
  rw [if_pos (by simp [hmax])]

theorem pressWindow_changed (hbody : m'.body = m.body) (hfree : m.captureKind = .none)
    (hnone : m.captureWindow = none) (hshown : m.shown i = true) :
    Changed m (pressWindow m' i x y) := by
  have harea : m.SameArea m' := area_of_body hbody
  have hwindows : m'.windows = m.windows := windows_of_body hbody
  have hwindow : m'.window i = m.window i := window_of_body hbody
  have harea' : m.SameArea { m' with resizeEdges := resizeEdgesAt m' i x y } :=
    harea.trans ⟨rfl, rfl, rfl, rfl, rfl, rfl⟩
  have hidle : m'.captureKind = .none := (congrArg captureKind hbody :).trans hfree
  unfold pressWindow
  dsimp only
  split
  · refine changed_of_windows (harea.trans ⟨rfl, rfl, rfl, rfl, rfl, rfl⟩) hwindows ?_
    exact .grabbed i hfree (by simp) rfl hshown hwindows (by simp) (by simp)
  · split
    · split
      · exact changed_of_body hbody
      · refine changed_of_windows (harea.trans ⟨rfl, rfl, rfl, rfl, rfl, rfl⟩) hwindows ?_
        refine .grabbed i hfree ?_ rfl hshown hwindows ?_ ?_ <;> dsimp only <;> split <;> simp
    · split
      next hedges =>
        -- the drag of an edge
        refine changed_of_windows (harea'.trans ⟨rfl, rfl, rfl, rfl, rfl, rfl⟩) hwindows ?_
        refine .grabbed i hfree (by simp) rfl hshown hwindows ?_ (by simp)
        intro _
        exact
          { horizontal := resizeEdgesAt_horizontal
            vertical := resizeEdgesAt_vertical
            normal := resizeEdgesAt_normal hedges
            x := rfl
            y := rfl
            width := rfl
            height := rfl }
      next hedges =>
        split
        · split
          · -- a maximized window is not moved
            refine changed_of_windows harea' hwindows (.ended hidle ?_)
            exact (congrArg captureWindow hbody :).trans hnone
          next hmax =>
            refine changed_of_windows (harea'.trans ⟨rfl, rfl, rfl, rfl, rfl, rfl⟩) hwindows ?_
            refine .grabbed i hfree (by simp) rfl hshown hwindows (by simp) ?_
            intro _
            rw [← hwindow]
            exact Bool.eq_false_iff.mpr hmax
        · refine changed_of_windows (harea'.trans ⟨rfl, rfl, rfl, rfl, rfl, rfl⟩) hwindows ?_
          exact .grabbed i hfree (by simp) rfl hshown hwindows (by simp) (by simp)

theorem desktopWmPointerPress_changed (h : Focused m) :
    Changed m (desktopWmPointerPress m x y) := by
  unfold desktopWmPointerPress
  split
  · exact changed_of_body rfl
  next hbusy =>
    have hfree : m.captureKind = .none := by simpa using hbusy
    split
    · exact changed_of_body rfl
    next index hat =>
      split
      · exact changed_of_body rfl
      · exact pressWindow_changed (focusWindow_body.trans rfl) hfree (h.free.mp hfree)
          (desktopWmWindowAt_shown hat)

theorem saturate_le (v : Int) : saturate v ≤ 2147483647 := by
  unfold saturate
  split
  · omega
  · split <;> omega

theorem changed_captured (hgeneration : w.generation = (m.window i).generation)
    (hreshaped : i < desktopWmCapacity → m.Reshaped (m.setWindow i w) i) :
    Changed m (m.setWindow i w) := by
  refine ⟨⟨rfl, rfl, rfl, rfl, rfl, rfl⟩, ?_, .held rfl, ?_⟩
  · intro j
    by_cases hj : i = j ∧ j < desktopWmCapacity
    · obtain ⟨rfl, hi⟩ := hj
      exact hreshaped hi
    · exact .kept (by rw [window_setWindow, if_neg hj])
  · intro j _
    rw [window_setWindow]
    split
    next hj => rw [hgeneration, hj.1]
    next => rfl

def dragged (m : DesktopWm) (i : Nat) (x y : Int) : DesktopWindow :=
  clampWindow m
    { m.window i with
      x := saturate (x - m.dragOffsetX)
      y := saturate (y - m.dragOffsetY) }

theorem dragWindow_outline (hoff : m.dragContents = 0) :
    dragWindow m i x y = { m with movePreview := (dragged m i x y).rect } := by
  unfold dragWindow dragged
  simp only [hoff, if_true]

theorem dragWindow_contents (hon : m.dragContents ≠ 0) :
    dragWindow m i x y = m.setWindow i (dragged m i x y) := by
  unfold dragWindow dragged
  simp only [hon, if_false]

theorem dragged_moved (hkind : m.captureKind = .move) (hwindow : m.captureWindow = some i)
    (hgeneration : (m.window i).generation = m.moveGeneration)
    (hframe : (m'.window i).frame = (dragged m i x y).frame) : m.Reshaped m' i :=
  .moved _ _ (saturate_le _) (saturate_le _) hkind hwindow hgeneration hframe

theorem dragWindow_changed (hkind : m.captureKind = .move) (hwindow : m.captureWindow = some i)
    (hgeneration : (m.window i).generation = m.moveGeneration) :
    Changed m (dragWindow m i x y) := by
  by_cases hoff : m.dragContents = 0
  · rw [dragWindow_outline hoff]
    exact changed_of_body rfl
  · rw [dragWindow_contents hoff]
    apply changed_captured
    · rfl
    · intro hi
      apply dragged_moved hkind hwindow hgeneration
      rw [window_setWindow_self hi]

theorem changed_pointer {pointed : Option Nat} (act : DesktopWm → DesktopWm)
    (hbody : (act { m with pointerFocus := pointed }).body = (act m).body)
    (h : Changed m (act m)) : Changed m (act { m with pointerFocus := pointed }) :=
  h.focus hbody

theorem cancelWindowCapture_changed : Changed m (cancelWindowCapture m i) :=
  changed_of_windows cancelWindowCapture_area cancelWindowCapture_windows cancelWindowCapture_step

theorem desktopWmPointerMotion_changed : Changed m (desktopWmPointerMotion m x y) := by
  unfold desktopWmPointerMotion
  split
  · exact changed_of_body rfl
  · dsimp only
    split
    · exact changed_of_body rfl
    next index hwindow =>
      split
      · exact changed_of_body rfl
      · split
        · apply changed_pointer (fun m => cancelWindowCapture m index) _
            cancelWindowCapture_changed
          unfold cancelWindowCapture
          split <;> rfl
        · split
          · exact changed_of_body rfl
          · exact changed_of_body rfl
          · exact changed_of_body rfl
          next hkind =>
            refine Changed.focus
              (?_ : Changed m (m.setWindow index (resizeWindow m (m.window index) x y))) ?_
            · apply changed_captured
              · rfl
              · intro hi
                apply Reshaped.resized x y hkind hwindow
                rw [window_setWindow_self hi]
            · rfl
          next hkind =>
            split
            · apply changed_pointer (fun m => cancelWindowCapture m index) _
                cancelWindowCapture_changed
              unfold cancelWindowCapture
              split <;> rfl
            next hgeneration =>
              have hsame : (m.window index).generation = m.moveGeneration :=
                not_not.mp hgeneration
              apply changed_pointer (fun m => dragWindow m index x y) _
                (dragWindow_changed hkind hwindow hsame)
              unfold dragWindow
              split <;> rfl
          · exact changed_of_body rfl
          · exact changed_of_body rfl

theorem endCapture_step : m.CaptureStep (endCapture m') := .ended rfl rfl

theorem DesktopWm.Changed.endCapture (h : Changed m m') : Changed m (endCapture m') := by
  refine ⟨⟨h.area.left, h.area.top, h.area.right, h.area.bottom, h.area.minimumWidth,
    h.area.minimumHeight⟩, ?_, endCapture_step, h.generation⟩
  intro i
  cases h.reshaped i with
  | kept hframe => exact .kept hframe
  | maximized hnormal hwide hhigh hframe =>
    exact .maximized hnormal hwide hhigh hframe (by simp [ReistOs.endCapture])
  | restored hmaximized hframe => exact .restored hmaximized hframe (by simp [ReistOs.endCapture])
  | resized x y hkind hwindow hframe => exact .resized x y hkind hwindow hframe
  | moved x y hx hy hkind hwindow hgeneration hframe =>
    exact .moved x y hx hy hkind hwindow hgeneration hframe

theorem changed_of_endCapture (h : Changed (endCapture m) m') (hkind : m'.captureKind = .none)
    (hwindow : m'.captureWindow = none) : Changed m m' := by
  refine ⟨⟨h.area.left, h.area.top, h.area.right, h.area.bottom, h.area.minimumWidth,
    h.area.minimumHeight⟩, ?_, .ended hkind hwindow, h.generation⟩
  intro i
  cases h.reshaped i with
  | kept hframe => exact .kept hframe
  | maximized hnormal hwide hhigh hframe hreleased =>
    exact .maximized hnormal hwide hhigh hframe hreleased
  | restored hmaximized hframe hreleased => exact .restored hmaximized hframe hreleased
  | resized x y hk => exact absurd hk (by simp [endCapture])
  | moved x y hx hy hk => exact absurd hk (by simp [endCapture])

def DesktopWm.Idle (m : DesktopWm) : Prop := m.captureKind = .none ∧ m.captureWindow = none

theorem DesktopWm.Idle.of_body (h : Idle m) (hbody : m'.body = m.body) : Idle m' :=
  ⟨(congrArg captureKind hbody :).trans h.1,
    (congrArg captureWindow hbody :).trans h.2⟩

theorem cancelWindowCapture_idle (h : Idle m) : Idle (cancelWindowCapture m i) := by
  unfold cancelWindowCapture
  split
  · exact h
  · exact ⟨rfl, rfl⟩

variable {P : DesktopWm → Prop} {kind : DesktopWmCapture}

/-- What releasing a button over a caption can do. -/
theorem releaseButton_cases (hsame : P m)
    (hclose : P (desktopWmClose m i)) (hminimize : P (desktopWmMinimize m i))
    (hmaximize : P (desktopWmToggleMaximize m i)) : P (releaseButton m kind i x y) := by
  unfold releaseButton
  split
  · exact hsame
  · split
    · split
      · exact hclose
      · exact hsame
    · split
      · exact hminimize
      · exact hsame
    · split
      · exact hmaximize
      · exact hsame
    · exact hsame

theorem releaseButton_sets (hsame : P m) (hset : ∀ w, P ((cancelWindowCapture m i).setWindow i w))
    (hhide : ∀ w, P (leaveFocus ((cancelWindowCapture m i).setWindow i w) i)) :
    P (releaseButton m kind i x y) := by
  apply releaseButton_cases hsame
  · unfold desktopWmClose
    dsimp only
    split
    · exact hsame
    · exact hhide _
  · unfold desktopWmMinimize
    dsimp only
    split
    · exact hsame
    · split
      · exact hsame
      · exact hhide _
  · unfold desktopWmToggleMaximize
    dsimp only
    split
    · exact hsame
    · split
      · exact hsame
      · split
        · exact hset _
        · exact hset _

theorem releaseButton_idle (h : Idle m) : Idle (releaseButton m kind i x y) := by
  have hset : ∀ w, Idle ((cancelWindowCapture m i).setWindow i w) := by
    intro w
    exact ⟨(cancelWindowCapture_idle h).1, (cancelWindowCapture_idle h).2⟩
  apply releaseButton_sets h hset
  intro w
  exact Idle.of_body (hset w) leaveFocus_body

theorem releaseButton_changed : Changed m (releaseButton m kind i x y) :=
  releaseButton_cases (changed_of_body rfl) desktopWmClose_changed desktopWmMinimize_changed
    desktopWmToggleMaximize_changed

theorem desktopWmMoveOutline_free (h : m.captureWindow = none) :
    desktopWmMoveOutline m = none := by
  unfold desktopWmMoveOutline
  rw [h]

theorem desktopWmMoveOutline_some {preview : DesktopRect}
    (h : desktopWmMoveOutline m = some preview) : preview = m.movePreview := by
  unfold desktopWmMoveOutline at h
  split at h
  · cases h
  · dsimp only at h
    split at h
    · cases h
    · split at h
      · cases h
      · exact (Option.some.inj h).symm

theorem motion_move (hkind : m.captureKind = .move) (hwindow : m.captureWindow = some i)
    (hshown : m.shown i = true) :
    desktopWmPointerMotion m x y =
      if (m.window i).generation ≠ m.moveGeneration then
        cancelWindowCapture { m with pointerFocus := some i } i
      else dragWindow { m with pointerFocus := some i } i x y := by
  have hlt : ¬ desktopWmCapacity ≤ i := Nat.not_le.mpr (shown_lt hshown)
  have hvisible := shown_visible hshown
  unfold desktopWmPointerMotion
  rw [if_neg (by simp [hkind])]
  simp only [hwindow]
  rw [if_neg hlt]
  split
  next hhidden => exact absurd hvisible hhidden
  next => simp only [hkind]; rfl

theorem motion_outline (hkind : m.captureKind = .move) (hoff : m.dragContents = 0)
    (hwindow : m.captureWindow = some i) (hshown : m.shown i = true)
    (hgeneration : (m.window i).generation = m.moveGeneration) :
    desktopWmPointerMotion m x y =
      { m with
        pointerFocus := some i
        movePreview := (dragged m i x y).rect } := by
  rw [motion_move hkind hwindow hshown, if_neg (not_not.mpr hgeneration)]
  exact dragWindow_outline hoff

theorem commitOutline_changed (h : Focused m) (hkind : m.captureKind = .move)
    (hoff : m.dragContents = 0) : Changed m (commitOutline m m.captureWindow x y) := by
  unfold commitOutline
  dsimp only
  cases hwindow : m.captureWindow with
  | none =>
    -- no window has been captured, so there is no outline
    have hfree := h.free.mpr hwindow
    exact absurd (hkind.symm.trans hfree) (by decide)
  | some i =>
    have hshown := h.captured i hwindow
    by_cases hgeneration : (m.window i).generation = m.moveGeneration
    · have hmotion := motion_outline (x := x) (y := y) hkind hoff hwindow hshown hgeneration
      split
      next preview index houtline hindex =>
        obtain rfl : i = index := Option.some.inj hindex
        have hpreview := desktopWmMoveOutline_some houtline
        rw [hmotion] at hpreview ⊢
        refine Changed.focus (?_ : Changed m (m.setWindow i (dragged m i x y))) ?_
        · apply changed_captured
          · rfl
          · intro hi
            apply dragged_moved hkind hwindow hgeneration
            rw [window_setWindow_self hi]
        · rw [hpreview]
          rfl
      next => exact desktopWmPointerMotion_changed
    · have hcancelled : (desktopWmPointerMotion m x y).captureWindow = none := by
        rw [motion_move hkind hwindow hshown, if_pos hgeneration]
        unfold cancelWindowCapture
        rw [if_neg (by simp [hwindow])]
      rw [desktopWmMoveOutline_free hcancelled]
      exact desktopWmPointerMotion_changed

theorem DesktopWm.Changed.pointed {pointed : Option Nat} (h : Changed m m') :
    Changed m { m' with pointerFocus := pointed } :=
  h.focus rfl

theorem desktopWmPointerRelease_changed (h : Focused m) :
    Changed m (desktopWmPointerRelease m x y) := by
  apply Changed.pointed
  by_cases hmove : m.captureKind = .move ∧ m.dragContents = 0
  · rw [if_pos hmove]
    have hended := (commitOutline_changed (x := x) (y := y) h hmove.1 hmove.2).endCapture
    split
    · exact hended
    · -- the button that is released moved the window
      unfold releaseButton
      rw [hmove.1]
      split
      · exact hended
      · exact hended
  · rw [if_neg hmove]
    split
    · exact (changed_of_body rfl).endCapture
    next index _ =>
      have hreleased : Idle (releaseButton (endCapture m) m.captureKind index x y) :=
        releaseButton_idle ⟨rfl, rfl⟩
      exact changed_of_endCapture releaseButton_changed hreleased.1 hreleased.2

theorem desktopWmPointerMotion_other (h : m.captureWindow ≠ some j) :
    (desktopWmPointerMotion m x y).window j = m.window j := by
  unfold desktopWmPointerMotion
  split
  · rfl
  · dsimp only
    split
    · rfl
    next index hwindow =>
      have hne : index ≠ j := by
        rintro rfl
        exact h hwindow
      split
      · rfl
      · split
        · exact cancelWindowCapture_window
        · split
          · rfl
          · rfl
          · rfl
          · exact window_setWindow_other hne
          · split
            · exact cancelWindowCapture_window
            · unfold dragWindow
              split
              · rfl
              · exact window_setWindow_other hne
          · rfl
          · rfl

theorem leaveFocus_window : (leaveFocus m i).window j = m.window j :=
  window_of_body leaveFocus_body

theorem releaseButton_other (hne : i ≠ j) : (releaseButton m kind i x y).window j = m.window j := by
  have hset : ∀ w, ((cancelWindowCapture m i).setWindow i w).window j = m.window j := by
    intro w
    rw [window_setWindow_other hne, cancelWindowCapture_window]
  apply releaseButton_sets (P := fun m' => m'.window j = m.window j) rfl hset
  intro w
  exact leaveFocus_window.trans (hset w)

theorem commitOutline_other {captured : Option Nat} (hcaptured : captured = m.captureWindow)
    (h : m.captureWindow ≠ some j) : (commitOutline m captured x y).window j = m.window j := by
  unfold commitOutline
  dsimp only
  split
  next index _ =>
    rw [window_setWindow_other, desktopWmPointerMotion_other h]
    rintro rfl
    exact h hcaptured.symm
  · exact desktopWmPointerMotion_other h

theorem desktopWmPointerRelease_other (h : m.captureWindow ≠ some j) :
    (desktopWmPointerRelease m x y).window j = m.window j := by
  have hcommit : (if m.captureKind = .move ∧ m.dragContents = 0 then
      commitOutline m m.captureWindow x y else m).window j = m.window j := by
    split
    · exact commitOutline_other rfl h
    · rfl
  unfold desktopWmPointerRelease
  dsimp only
  split
  · exact hcommit
  next index hwindow =>
    have hne : index ≠ j := by
      rintro rfl
      exact h hwindow
    exact (releaseButton_other hne).trans hcommit

theorem pressWindow_windows : (pressWindow m i x y).windows = m.windows := by
  unfold pressWindow
  dsimp only
  split
  · rfl
  · split
    · split <;> rfl
    · split
      · rfl
      · split
        · split <;> rfl
        · rfl

theorem desktopWmPointerPress_windows : (desktopWmPointerPress m x y).windows = m.windows := by
  unfold desktopWmPointerPress
  split
  · rfl
  · split
    · rfl
    · split
      · rfl
      · exact pressWindow_windows.trans focusWindow_windows

theorem desktopWmPointerRelease_resize (hkind : m.captureKind = .resize) :
    (desktopWmPointerRelease m x y).windows = m.windows := by
  have hno : ¬ (m.captureKind = .move ∧ m.dragContents = 0) := by simp [hkind]
  unfold desktopWmPointerRelease
  dsimp only
  rw [if_neg hno]
  split
  · rfl
  · unfold releaseButton
    rw [hkind]
    split <;> rfl

end ReistOs
