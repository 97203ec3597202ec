import ReistOs.DesktopWm

/-! The order of the windows of `desktop_wm.c`, and the windows that its focus and its capture
name. -/

namespace ReistOs

open FixedArray

namespace DesktopWm

def shown (m : DesktopWm) (i : Nat) : Bool := i < desktopWmCapacity && (m.window i).visible

theorem window_setWindow (m : DesktopWm) (i j : Nat) (w : DesktopWindow) :
    (m.setWindow i w).window j = if i = j ∧ j < desktopWmCapacity then w else m.window j :=
  cell_setCell m.windows i j w

variable {i : Nat} {m : DesktopWm} {w : DesktopWindow}

theorem window_setWindow_self (hi : i < desktopWmCapacity) : (m.setWindow i w).window i = w := by
  rw [window_setWindow, if_pos ⟨rfl, hi⟩]

theorem window_setWindow_other {i j : Nat} (h : i ≠ j) :
    (m.setWindow i w).window j = m.window j := by
  rw [window_setWindow, if_neg (by tauto)]

theorem shown_lt (h : m.shown i = true) : i < desktopWmCapacity := by
  have := Bool.and_eq_true_iff.mp h
  simpa using this.1

theorem shown_visible (h : m.shown i = true) : (m.window i).visible = true :=
  (Bool.and_eq_true_iff.mp h).2

theorem shown_of (hi : i < desktopWmCapacity)
    (h : (m.window i).visible = true) : m.shown i = true := by
  simp [shown, hi, h]

theorem shown_congr {m m' : DesktopWm}
    (h : (m'.window i).visible = (m.window i).visible) : m'.shown i = m.shown i := by
  simp [shown, h]

theorem shown_setWindow_hidden (hw : w.visible = false) : (m.setWindow i w).shown i = false := by
  by_cases hi : i < desktopWmCapacity
  · simp [shown, window_setWindow_self hi, hw]
  · simp [shown, hi]

theorem shown_setWindow_other {i j : Nat} (h : i ≠ j) : (m.setWindow i w).shown j = m.shown j :=
  shown_congr (by rw [window_setWindow_other h])

theorem shown_setWindow_visible {i j : Nat}
    (hw : w.visible = true) (h : m.shown j = true) : (m.setWindow i w).shown j = true := by
  apply shown_of (shown_lt h)
  rw [window_setWindow]
  split
  · exact hw
  · exact shown_visible h

def Topmost (m : DesktopWm) (i : Nat) : Prop :=
  m.shown i = true ∧ ∀ j, m.shown j = true → m.zOrder.idxOf j ≤ m.zOrder.idxOf i

/-- The windows in front of which nothing is named but what is shown. -/
structure Pointed (m : DesktopWm) : Prop where
  order : m.zOrder.Perm (List.range desktopWmCapacity)
  pointer : ∀ i, m.pointerFocus = some i → m.shown i = true
  captured : ∀ i, m.captureWindow = some i → m.shown i = true
  free : m.captureKind = .none ↔ m.captureWindow = none

structure Focused (m : DesktopWm) : Prop extends Pointed m where
  keyboard : m.keyboardFocus = topVisible m

end DesktopWm

open DesktopWm

variable {m m' : DesktopWm} {i j : Nat} {w : DesktopWindow} {x y : Int}

theorem mem_zOrder (h : m.zOrder.Perm (List.range desktopWmCapacity)) :
    j ∈ m.zOrder ↔ j < desktopWmCapacity := by
  rw [h.mem_iff, List.mem_range]

theorem topVisible_eq : topVisible m = m.zOrder.reverse.find? m.shown := rfl

theorem topVisible_congr (horder : m'.zOrder = m.zOrder) (h : ∀ j, m'.shown j = m.shown j) :
    topVisible m' = topVisible m := by
  have hshown : m'.shown = m.shown := funext h
  rw [topVisible_eq, topVisible_eq, horder, hshown]

theorem topVisible_shown (h : topVisible m = some i) : m.shown i = true :=
  List.find?_some h

theorem topVisible_eq_none (horder : m.zOrder.Perm (List.range desktopWmCapacity)) :
    topVisible m = none ↔ ∀ j, m.shown j = false := by
  rw [topVisible_eq, List.find?_eq_none]
  constructor
  · intro h j
    by_cases hj : j < desktopWmCapacity
    · exact Bool.eq_false_iff.mpr (h j (List.mem_reverse.mpr ((mem_zOrder horder).mpr hj)))
    · simp [shown, hj]
  · intro h j _
    simp [h j]

theorem topVisible_topmost (horder : m.zOrder.Perm (List.range desktopWmCapacity))
    (h : topVisible m = some i) : Topmost m i := by
  refine ⟨topVisible_shown h, ?_⟩
  intro j hj
  obtain ⟨-, front, back, hreverse, hfront⟩ := List.find?_eq_some_iff_append.mp h
  have hz : m.zOrder = back.reverse ++ i :: front.reverse := by
    have := congrArg List.reverse hreverse
    simpa using this
  have hnodup : m.zOrder.Nodup := horder.nodup_iff.mpr List.nodup_range
  rw [hz] at hnodup
  have hi : i ∉ back.reverse := by
    intro hmem
    exact (List.nodup_append.mp hnodup).2.2 i hmem i (by simp) rfl
  have hidx : m.zOrder.idxOf i = back.reverse.length := by
    rw [hz, List.idxOf_append_of_notMem hi]
    simp
  rw [hidx]
  have hmem : j ∈ back.reverse ++ i :: front.reverse := hz ▸ (mem_zOrder horder).mpr (shown_lt hj)
  rcases List.mem_append.mp hmem with hback | hrest
  · have := List.idxOf_lt_length_of_mem hback
    rw [hz, List.idxOf_append_of_mem hback]
    omega
  · rcases List.mem_cons.mp hrest with rfl | hin
    · omega
    · have hno : (! m.shown j) = true := hfront j (List.mem_reverse.mp hin)
      simp [hj] at hno

theorem topVisible_hide (hi : topVisible m ≠ some i) (horder : m'.zOrder = m.zOrder)
    (hhidden : m'.shown i = false) (hother : ∀ j, i ≠ j → m'.shown j = m.shown j) :
    topVisible m' = topVisible m := by
  rw [topVisible_eq, topVisible_eq] at *
  rw [horder]
  generalize m.zOrder.reverse = order at *
  induction order with
  | nil => rfl
  | cons j order ih =>
    rw [List.find?_cons] at hi
    rw [List.find?_cons, List.find?_cons]
    by_cases hj : i = j
    · subst hj
      rw [hhidden]
      cases hs : m.shown i with
      | true => simp [hs] at hi
      | false =>
        rw [hs] at hi
        exact ih hi
    · rw [hother j hj]
      cases hs : m.shown j with
      | true => rfl
      | false =>
        rw [hs] at hi
        exact ih hi

theorem raiseWindow_zOrder (horder : m.zOrder.Perm (List.range desktopWmCapacity))
    (hi : i < desktopWmCapacity) : (raiseWindow m i).zOrder = m.zOrder.erase i ++ [i] := by
  have hlength : m.zOrder.length = desktopWmCapacity := by
    rw [horder.length_eq, List.length_range]
  have hlt : m.zOrder.idxOf i < desktopWmCapacity := by
    rw [← hlength]
    exact List.idxOf_lt_length_of_mem ((mem_zOrder horder).mpr hi)
  unfold raiseWindow
  simp only [Nat.not_le.mpr hlt, false_or]
  split
  next hlast =>
    -- the window is in front already, so nothing is moved
    obtain ⟨back, front, hz, hno⟩ := List.eq_append_cons_of_mem ((mem_zOrder horder).mpr hi)
    have hidx : m.zOrder.idxOf i = back.length := by
      rw [hz, List.idxOf_append_of_notMem hno]
      simp
    have hfront : front = [] := by
      apply List.length_eq_zero_iff.mp
      rw [hz] at hlength
      simp only [List.length_append, List.length_cons] at hlength
      omega
    subst hfront
    rw [hz, List.erase_append_right _ hno]
    simp
  next hlast =>
    show m.zOrder.eraseIdx (m.zOrder.idxOf i) ++ [i] = _
    rw [List.eraseIdx_idxOf_eq_erase]

theorem raiseWindow_order (horder : m.zOrder.Perm (List.range desktopWmCapacity))
    (hi : i < desktopWmCapacity) :
    (raiseWindow m i).zOrder.Perm (List.range desktopWmCapacity) := by
  rw [raiseWindow_zOrder horder hi]
  have hmem := (mem_zOrder horder).mpr hi
  exact (List.perm_append_singleton i _).trans ((List.perm_cons_erase hmem).symm.trans horder)

theorem raiseWindow_eq : raiseWindow m i = { m with zOrder := (raiseWindow m i).zOrder } := by
  unfold raiseWindow
  dsimp only
  split <;> rfl

theorem focusWindow_eq (h : m.shown i = true) :
    focusWindow m i = { m with
      keyboardFocus := some i
      selected := i
      zOrder := (raiseWindow m i).zOrder } := by
  have hi := shown_lt h
  unfold focusWindow
  rw [if_neg (by simp [shown_visible h]; omega)]
  unfold raiseWindow
  dsimp only
  split <;> rfl

theorem focusWindow_windows : (focusWindow m i).windows = m.windows := by
  unfold focusWindow
  split
  · rfl
  · rw [raiseWindow_eq]

theorem focusWindow_focused (h : Pointed m) (hi : m.shown i = true) :
    Focused (focusWindow m i) := by
  have hlt := shown_lt hi
  have htop : topVisible (focusWindow m i) = some i := by
    rw [focusWindow_eq hi, topVisible_eq]
    show (raiseWindow m i).zOrder.reverse.find? m.shown = some i
    rw [raiseWindow_zOrder h.order hlt]
    simp [hi]
  refine ⟨?_, ?_⟩
  · rw [focusWindow_eq hi]
    exact ⟨raiseWindow_order h.order hlt, h.pointer, h.captured, h.free⟩
  · rw [htop, focusWindow_eq hi]

theorem cancelWindowCapture_released : (cancelWindowCapture m i).captureWindow ≠ some i := by
  unfold cancelWindowCapture
  split
  next h => exact h
  next => simp

theorem cancelWindowCapture_windows : (cancelWindowCapture m i).windows = m.windows := by
  unfold cancelWindowCapture
  split <;> rfl

theorem cancelWindowCapture_window : (cancelWindowCapture m i).window j = m.window j := by
  unfold DesktopWm.window
  rw [cancelWindowCapture_windows]

theorem cancelWindowCapture_focused (h : Focused m) : Focused (cancelWindowCapture m i) := by
  unfold cancelWindowCapture
  split
  · exact h
  · exact
      { order := h.order
        pointer := h.pointer
        captured := by simp
        free := by simp
        keyboard := h.keyboard }

theorem endCapture_focused (h : Focused m) : Focused (endCapture m) :=
  { order := h.order
    pointer := h.pointer
    captured := by simp [endCapture]
    free := by simp [endCapture]
    keyboard := h.keyboard }

theorem setWindow_focused (h : Focused m) (hw : w.visible = (m.window i).visible) :
    Focused (m.setWindow i w) := by
  have hshown : ∀ j, (m.setWindow i w).shown j = m.shown j := by
    intro j
    apply shown_congr
    rw [window_setWindow]
    split
    next heq => rw [hw, heq.1]
    next => rfl
  refine ⟨⟨h.order, ?_, ?_, h.free⟩, ?_⟩
  · intro j hj
    rw [hshown]
    exact h.pointer j hj
  · intro j hj
    rw [hshown]
    exact h.captured j hj
  · have htop : topVisible (m.setWindow i w) = topVisible m := topVisible_congr rfl hshown
    rw [htop]
    exact h.keyboard

theorem leaveFocus_focused (h : Focused m) (hw : w.visible = false)
    (hcapture : m.captureWindow ≠ some i) : Focused (leaveFocus (m.setWindow i w) i) := by
  have hother : ∀ j, i ≠ j → (m.setWindow i w).shown j = m.shown j := by
    intro j hj
    exact shown_setWindow_other hj
  have hhidden : (m.setWindow i w).shown i = false := shown_setWindow_hidden hw
  have hcaptured : ∀ j, m.captureWindow = some j → (m.setWindow i w).shown j = true := by
    intro j hj
    rw [hother j (by rintro rfl; exact hcapture hj)]
    exact h.captured j hj
  have hkeyboard : m.keyboardFocus ≠ some i →
      m.keyboardFocus = topVisible (m.setWindow i w) := by
    intro hne
    have htop : topVisible m ≠ some i := h.keyboard ▸ hne
    have hsame : topVisible (m.setWindow i w) = topVisible m :=
      topVisible_hide htop rfl hhidden hother
    rw [hsame]
    exact h.keyboard
  have hpointer : m.pointerFocus ≠ some i →
      ∀ j, m.pointerFocus = some j → (m.setWindow i w).shown j = true := by
    intro hne j hj
    rw [hother j (by rintro rfl; exact hne hj)]
    exact h.pointer j hj
  unfold leaveFocus
  by_cases hk : m.keyboardFocus = some i <;> by_cases hp : m.pointerFocus = some i
  · rw [if_pos (show (m.setWindow i w).keyboardFocus = some i from hk)]
    rw [if_pos (show (focusTopVisible (m.setWindow i w)).pointerFocus = some i from hp)]
    exact ⟨⟨h.order, by simp, hcaptured, h.free⟩, rfl⟩
  · rw [if_pos (show (m.setWindow i w).keyboardFocus = some i from hk)]
    rw [if_neg (show (focusTopVisible (m.setWindow i w)).pointerFocus ≠ some i from hp)]
    exact ⟨⟨h.order, hpointer hp, hcaptured, h.free⟩, rfl⟩
  · rw [if_neg (show (m.setWindow i w).keyboardFocus ≠ some i from hk)]
    rw [if_pos (show (m.setWindow i w).pointerFocus = some i from hp)]
    exact ⟨⟨h.order, by simp, hcaptured, h.free⟩, hkeyboard hk⟩
  · rw [if_neg (show (m.setWindow i w).keyboardFocus ≠ some i from hk)]
    rw [if_neg (show (m.setWindow i w).pointerFocus ≠ some i from hp)]
    exact ⟨⟨h.order, hpointer hp, hcaptured, h.free⟩, hkeyboard hk⟩

theorem desktopWmWindowAt_shown (h : desktopWmWindowAt m x y = some i) : m.shown i = true := by
  have hfound := List.find?_some h
  simp only [Bool.and_eq_true, decide_eq_true_eq] at hfound
  exact shown_of hfound.1.1 hfound.1.2

theorem pointAt_focused (h : Focused m) :
    Focused { m with pointerFocus := desktopWmWindowAt m x y } :=
  { order := h.order
    pointer := fun _ hj => desktopWmWindowAt_shown hj
    captured := h.captured
    free := h.free
    keyboard := h.keyboard }

end ReistOs
