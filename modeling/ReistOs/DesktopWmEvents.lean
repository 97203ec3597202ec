import ReistOs.DesktopWmInvariant

/-! The events of `desktop_wm.c` keep the order, the focus and the capture. -/

namespace ReistOs

open FixedArray DesktopWm

variable {m m' : DesktopWm} {i j : Nat} {w : DesktopWindow} {x y : Int}

theorem desktopWmOpen_focused (h : Focused m) : Focused (desktopWmOpen m i) := by
  unfold desktopWmOpen
  split
  · exact h
  next hi =>
    apply focusWindow_focused
    · refine ⟨h.order, ?_, ?_, h.free⟩
      · intro j hj
        exact shown_setWindow_visible rfl (h.pointer j hj)
      · intro j hj
        exact shown_setWindow_visible rfl (h.captured j hj)
    · apply shown_of (Nat.lt_of_not_le hi)
      show ((m.setWindow i _).window i).visible = true
      rw [window_setWindow_self (Nat.lt_of_not_le hi)]

theorem focusWindow_keeps (h : Focused m) : Focused (focusWindow m i) := by
  by_cases hshown : m.shown i = true
  · exact focusWindow_focused h.toPointed hshown
  · have hsame : focusWindow m i = m := by
      unfold focusWindow
      rw [if_pos]
      by_contra hno
      rw [not_or, not_not] at hno
      exact hshown (shown_of (Nat.lt_of_not_le hno.1) hno.2)
    rw [hsame]
    exact h

theorem desktopWmSelect_focused (h : Focused m) : Focused (desktopWmSelect m i) := by
  have hselected : Focused { m with selected := i } :=
    ⟨⟨h.order, h.pointer, h.captured, h.free⟩, h.keyboard⟩
  unfold desktopWmSelect
  split
  · exact h
  · split
    · exact desktopWmOpen_focused h
    · dsimp only
      split
      · exact focusWindow_keeps hselected
      · exact hselected

theorem desktopWmClose_focused (h : Focused m) : Focused (desktopWmClose m i) := by
  unfold desktopWmClose
  dsimp only
  split
  · exact h
  · exact leaveFocus_focused (cancelWindowCapture_focused h) rfl cancelWindowCapture_released

theorem desktopWmMinimize_focused (h : Focused m) : Focused (desktopWmMinimize m i) := by
  unfold desktopWmMinimize
  dsimp only
  split
  · exact h
  · split
    · exact h
    · exact leaveFocus_focused (cancelWindowCapture_focused h) rfl cancelWindowCapture_released

theorem restoreNormalBounds_visible : (restoreNormalBounds m w).visible = w.visible := by
  unfold restoreNormalBounds clampWindow
  split <;> rfl

theorem desktopWmToggleMaximize_focused (h : Focused m) :
    Focused (desktopWmToggleMaximize m i) := by
  unfold desktopWmToggleMaximize
  dsimp only
  split
  · exact h
  · split
    · exact h
    · split
      · apply setWindow_focused (cancelWindowCapture_focused h)
        rw [restoreNormalBounds_visible, cancelWindowCapture_window]
      · apply setWindow_focused (cancelWindowCapture_focused h)
        rw [cancelWindowCapture_window]

theorem focused_grab (kind : DesktopWmCapture) (h : Focused m) (hshown : m.shown i = true)
    (hkind : kind ≠ .none) :
    Focused { m with
      captureKind := kind
      captureWindow := some i } := by
  refine ⟨⟨h.order, h.pointer, ?_, ?_⟩, h.keyboard⟩
  · intro j hj
    obtain rfl : i = j := Option.some.inj hj
    exact hshown
  · constructor
    · intro hnone
      exact absurd hnone hkind
    · intro hnone
      cases hnone

section

variable (h : Focused m)
include h

theorem Focused.of_eq (horder : m'.zOrder = m.zOrder) (hwindows : m'.windows = m.windows)
    (hkeyboard : m'.keyboardFocus = m.keyboardFocus) (hpointer : m'.pointerFocus = m.pointerFocus)
    (hkind : m'.captureKind = m.captureKind) (hwindow : m'.captureWindow = m.captureWindow) :
    Focused m' := by
  have hshown : ∀ j, m'.shown j = m.shown j := by
    intro j
    apply shown_congr
    unfold DesktopWm.window
    rw [hwindows]
  refine ⟨⟨?_, ?_, ?_, ?_⟩, ?_⟩
  · rw [horder]
    exact h.order
  · intro j hj
    rw [hshown]
    exact h.pointer j (hpointer ▸ hj)
  · intro j hj
    rw [hshown]
    exact h.captured j (hwindow ▸ hj)
  · rw [hkind, hwindow]
    exact h.free
  · rw [hkeyboard, topVisible_congr horder hshown]
    exact h.keyboard

theorem pressWindow_focused (hshown : m.shown i = true) :
    Focused (pressWindow m i x y) := by
  unfold pressWindow
  dsimp only
  split
  · exact Focused.of_eq (focused_grab .close h hshown (by decide)) rfl rfl rfl rfl rfl rfl
  · split
    · split
      · exact h
      · have hkind : (if pointInRect (desktopWmCaptionRect m i .minimize) x y = true then
            DesktopWmCapture.minimize else .maximize) ≠ .none := by
          split <;> decide
        exact Focused.of_eq (focused_grab _ h hshown hkind) rfl rfl rfl rfl rfl rfl
    · split
      · exact Focused.of_eq (focused_grab .resize h hshown (by decide))
          rfl rfl rfl rfl rfl rfl
      · split
        · split
          · exact Focused.of_eq h rfl rfl rfl rfl rfl rfl
          · exact Focused.of_eq (focused_grab .move h hshown (by decide))
              rfl rfl rfl rfl rfl rfl
        · exact Focused.of_eq (focused_grab .client h hshown (by decide))
            rfl rfl rfl rfl rfl rfl

theorem desktopWmPointerPress_focused :
    Focused (desktopWmPointerPress m x y) := by
  unfold desktopWmPointerPress
  split
  · exact h
  · split
    next => exact ⟨⟨h.order, by simp, h.captured, h.free⟩, h.keyboard⟩
    next index hat =>
      have hshown := desktopWmWindowAt_shown hat
      split
      · exact h
      · have hpointed : Pointed { m with pointerFocus := some index } := by
          refine ⟨h.order, ?_, h.captured, h.free⟩
          intro j hj
          obtain rfl : index = j := Option.some.inj hj
          exact hshown
        apply pressWindow_focused (focusWindow_focused hpointed hshown)
        have hsame : (focusWindow { m with pointerFocus := some index } index).shown index =
            m.shown index := by
          apply shown_congr
          unfold DesktopWm.window
          rw [focusWindow_windows]
        rw [hsame]
        exact hshown

theorem pointCaptured_focused :
    Focused { m with pointerFocus := m.captureWindow } :=
  ⟨⟨h.order, h.captured, h.captured, h.free⟩, h.keyboard⟩

theorem dragWindow_focused : Focused (dragWindow m i x y) := by
  by_cases hoff : m.dragContents = 0
  · rw [dragWindow_outline hoff]
    exact Focused.of_eq h rfl rfl rfl rfl rfl rfl
  · rw [dragWindow_contents hoff]
    exact setWindow_focused h rfl

theorem desktopWmPointerMotion_focused :
    Focused (desktopWmPointerMotion m x y) := by
  have hpointed := pointCaptured_focused h
  unfold desktopWmPointerMotion
  split
  · exact pointAt_focused h
  · dsimp only
    split
    · exact hpointed
    · split
      · exact hpointed
      · split
        · exact cancelWindowCapture_focused hpointed
        · split
          · exact Focused.of_eq hpointed rfl rfl rfl rfl rfl rfl
          · exact Focused.of_eq hpointed rfl rfl rfl rfl rfl rfl
          · exact Focused.of_eq hpointed rfl rfl rfl rfl rfl rfl
          · exact setWindow_focused hpointed rfl
          · split
            · exact cancelWindowCapture_focused hpointed
            · exact dragWindow_focused hpointed
          · exact hpointed
          · exact hpointed

theorem commitOutline_focused {captured : Option Nat} :
    Focused (commitOutline m captured x y) := by
  have hmotion := desktopWmPointerMotion_focused (x := x) (y := y) h
  unfold commitOutline
  dsimp only
  split
  · exact setWindow_focused hmotion rfl
  · exact hmotion

theorem releaseButton_focused {kind : DesktopWmCapture} : Focused (releaseButton m kind i x y) :=
  releaseButton_cases h (desktopWmClose_focused h) (desktopWmMinimize_focused h)
    (desktopWmToggleMaximize_focused h)

theorem desktopWmPointerRelease_focused :
    Focused (desktopWmPointerRelease m x y) := by
  have hcommit : Focused (if m.captureKind = .move ∧ m.dragContents = 0 then
      commitOutline m m.captureWindow x y else m) := by
    split
    · exact commitOutline_focused h
    · exact h
  have hended := endCapture_focused hcommit
  unfold desktopWmPointerRelease
  dsimp only
  split
  · exact pointAt_focused hended
  · exact pointAt_focused (releaseButton_focused hended)

end

theorem onTarget_cases {P : DesktopWm → Prop} {target : UInt32} {act : DesktopWm → Nat → DesktopWm}
    (hsame : P m) (hact : P (act m target.toNat)) : P (onTarget m target act).2.2 := by
  unfold onTarget
  split
  · exact hsame
  · exact hact

variable {key : DesktopWmKey} {event : DesktopWmEvent}

theorem desktopWmKeyboard_focused (h : Focused m) :
    Focused (desktopWmKeyboard m key).2 := by
  cases key with
  | tab => exact desktopWmSelect_focused h
  | right => exact desktopWmSelect_focused h
  | left => exact desktopWmSelect_focused h
  | up => exact desktopWmSelect_focused h
  | down => exact desktopWmSelect_focused h
  | enter => exact desktopWmOpen_focused h
  | escape =>
    unfold desktopWmKeyboard
    dsimp only
    split
    · split
      · exact cancelWindowCapture_focused h
      · exact h
    · exact h

theorem desktopWmKeyboard_changed : Changed m (desktopWmKeyboard m key).2 := by
  cases key with
  | tab => exact desktopWmSelect_changed
  | right => exact desktopWmSelect_changed
  | left => exact desktopWmSelect_changed
  | up => exact desktopWmSelect_changed
  | down => exact desktopWmSelect_changed
  | enter => exact desktopWmOpen_changed
  | escape =>
    unfold desktopWmKeyboard
    dsimp only
    split
    · split
      · exact cancelWindowCapture_changed
      · exact changed_of_body rfl
    · exact changed_of_body rfl

theorem desktopWmDispatch_focused (h : Focused m) :
    Focused (desktopWmDispatch m event).2.2 := by
  cases event with
  | pointerMotion x y => exact desktopWmPointerMotion_focused h
  | pointerButton button pressed x y =>
    unfold desktopWmDispatch
    dsimp only
    split
    · exact h
    · split
      · exact desktopWmPointerPress_focused h
      · exact desktopWmPointerRelease_focused h
  | keyboard key =>
    cases key with
    | none => exact h
    | some key => exact desktopWmKeyboard_focused h
  | openWindow target => exact onTarget_cases h (desktopWmOpen_focused h)
  | select target => exact onTarget_cases h (desktopWmSelect_focused h)
  | close target => exact onTarget_cases h (desktopWmClose_focused h)
  | minimize target => exact onTarget_cases h (desktopWmMinimize_focused h)
  | toggleMaximize target => exact onTarget_cases h (desktopWmToggleMaximize_focused h)
  | unknown type => exact h

theorem desktopWmDispatch_changed (h : Focused m) :
    Changed m (desktopWmDispatch m event).2.2 := by
  have hsame : Changed m m := changed_of_body rfl
  cases event with
  | pointerMotion x y => exact desktopWmPointerMotion_changed
  | pointerButton button pressed x y =>
    unfold desktopWmDispatch
    dsimp only
    split
    · exact hsame
    · split
      · exact desktopWmPointerPress_changed h
      · exact desktopWmPointerRelease_changed h
  | keyboard key =>
    cases key with
    | none => exact hsame
    | some key => exact desktopWmKeyboard_changed
  | openWindow target => exact onTarget_cases hsame desktopWmOpen_changed
  | select target => exact onTarget_cases hsame desktopWmSelect_changed
  | close target => exact onTarget_cases hsame desktopWmClose_changed
  | minimize target => exact onTarget_cases hsame desktopWmMinimize_changed
  | toggleMaximize target => exact onTarget_cases hsame desktopWmToggleMaximize_changed
  | unknown type => exact hsame

end ReistOs
