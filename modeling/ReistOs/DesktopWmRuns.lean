import ReistOs.DesktopWmEvents

/-! The window manager of `desktop_wm.c` over every run of events. -/

namespace ReistOs

open FixedArray DesktopWm DesktopFrame DesktopWm

/-- An event, or what the compositor sets between two events. -/
inductive DesktopWmAction where
  | dispatch (event : DesktopWmEvent)
  | setFlags (index flags : Nat)
  | setVisualOptions (shadows contents : Nat)

/-- The manager, and the window with its generation on which the pressed button went down. -/
structure DesktopWmRun where
  manager : DesktopWm
  grab : Option (Nat × Nat)

namespace DesktopWm

def act (m : DesktopWm) : DesktopWmAction → DesktopWm
  | .dispatch event => (desktopWmDispatch m event).2.2
  | .setFlags index flags => m.setWindow index { m.window index with flags }
  | .setVisualOptions shadows contents => (desktopWmSetVisualOptions m shadows contents).2

def captured (m : DesktopWm) : Option (Nat × Nat) :=
  m.captureWindow.map fun index => (index, (m.window index).generation)

end DesktopWm

namespace DesktopWmRun

def start (m : DesktopWm) : DesktopWmRun := ⟨m, none⟩

def step (s : DesktopWmRun) (action : DesktopWmAction) : DesktopWmRun :=
  let m := s.manager.act action
  { manager := m
    grab := if m.captureKind = .none then none
      else if s.manager.captureKind = .none then m.captured
      else s.grab }

def run (s : DesktopWmRun) (actions : List DesktopWmAction) : DesktopWmRun := actions.foldl step s

end DesktopWmRun

def DesktopWmAction.byPointer : DesktopWmAction → Bool
  | .dispatch (.pointerMotion _ _) => true
  | .dispatch (.pointerButton _ _ _ _) => true
  | _ => false

/-- What holds of the manager between two events. -/
structure WindowsArranged (m : DesktopWm) : Prop where
  order : m.zOrder.Perm (List.range desktopWmCapacity)
  keyboard : ∀ i, m.keyboardFocus = some i → m.Topmost i
  keyboard_none : m.keyboardFocus = none ↔ ∀ i, m.shown i = false
  pointer : ∀ i, m.pointerFocus = some i → m.shown i = true
  capture : ∀ i, m.captureWindow = some i → m.shown i = true
  capture_none : m.captureKind = .none ↔ m.captureWindow = none
  inside_width : ∀ i, m.shown i = true →
    ((m.window i).width : Int) ≤ m.workRight - m.workLeft →
    m.workLeft ≤ (m.window i).x ∧ (m.window i).x + (m.window i).width ≤ m.workRight
  inside_height : ∀ i, m.shown i = true →
    ((m.window i).height : Int) ≤ m.workBottom - m.workTop →
    m.workTop ≤ (m.window i).y ∧ (m.window i).y + (m.window i).height ≤ m.workBottom
  least : ∀ i, i < desktopWmCapacity →
    m.minimumWidth ≤ (m.window i).width ∧ m.minimumHeight ≤ (m.window i).height

/-- The edges that the drag of a border leaves where they are. -/
structure EdgesFixed (edges : ResizeEdges) (w w' : DesktopWindow) : Prop where
  right : edges.left = true → w'.x + w'.width = w.x + w.width
  left : edges.left = false → w'.x = w.x
  width : edges.left = false → edges.right = false → w'.width = w.width
  bottom : edges.top = true → w'.y + w'.height = w.y + w.height
  top : edges.top = false → w'.y = w.y
  height : edges.top = false → edges.bottom = false → w'.height = w.height

structure EventContained (s : DesktopWmRun) (action : DesktopWmAction) : Prop where
  /-- The capture ends with the window that it names. -/
  hidden : ∀ i, s.manager.captureWindow = some i →
    (s.manager.act action).shown i = false →
    (s.manager.act action).captureKind = .none ∧ (s.manager.act action).captureWindow = none
  /-- The pointer only moves the window on which the button went down. -/
  dragged : action.byPointer = true → ∀ i,
    ((s.manager.act action).window i).frame ≠ (s.manager.window i).frame →
    s.grab = some (i, (s.manager.window i).generation)
  /-- The drag of a border keeps the opposite one. -/
  resized : action.byPointer = true → s.manager.captureKind = .resize → ∀ i,
    s.manager.captureWindow = some i →
    EdgesFixed s.manager.resizeEdges (s.manager.window i) ((s.manager.act action).window i)

/-- From one event that maximizes a window to the next that ends this, nothing that happens
takes its bounds away. -/
def BoundsRestored (m : DesktopWm) (i : Nat) : Prop :=
  ∀ (first : DesktopWmAction) (between : List DesktopWmAction) (last : DesktopWmAction),
    (m.window i).maximized = false →
    (∀ rest, rest <+: between →
      ((rest.foldl act (m.act first)).window i).maximized = true) →
    (((between.foldl act (m.act first)).act last).window i).maximized = false →
    (((between.foldl act (m.act first)).act last).window i).rect = (m.window i).rect

/-- A window that may be maximized is maximized, or is so no longer. -/
def MaximizeToggles (m : DesktopWm) : Prop :=
  ∀ (target : UInt32), m.shown target.toNat = true →
    (m.window target.toNat).flags &&& (desktopWmWindowDialog ||| desktopWmWindowStateBlocked) = 0 →
    m.workLeft < m.workRight → m.workTop < m.workBottom →
    ((m.act (.dispatch (.toggleMaximize target))).window target.toNat).maximized =
      ! (m.window target.toNat).maximized

variable {area : WorkArea} {m m' : DesktopWm} {i j : Nat} {action : DesktopWmAction}

theorem toInt32_bounds (v : Int) : -2147483648 ≤ toInt32 v ∧ toInt32 v ≤ 2147483647 := by
  unfold toInt32
  omega

theorem initialAxis (low high : Int) (desired : Nat) (hlow : 0 ≤ low) (hlow' : low ≤ 2147483647)
    (hhigh : -2147483648 ≤ high) (hhigh' : high ≤ 2147483647) (hdesired : 1 ≤ desired)
    {available extent : Nat}
    (havailable : available = if low < high then toUint32 (high - low) else 1)
    (hextent : extent = min (if available / 5 * 3 < min available desired then available
      else available / 5 * 3) available) :
    ∃ a : WorkAxis, a.low = low ∧ a.high = high ∧ a.minimum = min available desired ∧
      ∀ position, position ≤ 2147483647 →
        a.Placed (clampAxis low high extent position) extent := by
  have hsome : low < high → (available : Int) = high - low := by
    intro hlt
    rw [havailable, if_pos hlt]
    exact WorkAxis.toUint32_eq (by omega) (by omega)
  have hnone : high ≤ low → available = 1 := by
    intro hge
    rw [havailable, if_neg (by omega)]
  have hpos : 1 ≤ available := by
    rcases lt_or_ge low high with hlt | hge
    · have := hsome hlt
      omega
    · have := hnone hge
      omega
  have hleast : min available desired ≤ extent := by
    rw [hextent]
    split <;> omega
  have hmost : extent ≤ available := by omega
  refine ⟨⟨low, high, min available desired, hlow, hlow', hhigh, hhigh', ?_, ?_, ?_⟩,
    rfl, rfl, rfl, ?_⟩
  · omega
  · intro hlt
    have := hsome hlt
    omega
  · intro hge
    have := hnone hge
    omega
  · intro position hposition
    apply WorkAxis.clampAxis_placed
    · exact hleast
    · intro hlt
      have : (available : Int) = high - low := hsome hlt
      show (extent : Int) ≤ high - low
      omega
    · intro hge
      have := hnone hge
      omega
    · exact hposition

theorem cell_ofFn {α : Type} [Inhabited α] {n : Nat} (f : Fin n → α) (hi : i < n) :
    cell (Vector.ofFn f) i = f ⟨i, hi⟩ := by
  unfold cell
  simp [hi]

theorem initialWindow_frames {baseX baseY : Int} {width height index : Nat}
    (hcolumn : ∀ position, position ≤ 2147483647 →
      area.horizontal.Placed (clampAxis m.workLeft m.workRight width position) width)
    (hrow : ∀ position, position ≤ 2147483647 →
      area.vertical.Placed (clampAxis m.workTop m.workBottom height position) height) :
    area.Frames (initialWindow m baseX baseY width height index).frame := by
  have hnormal : (initialWindow m baseX baseY width height index).frame.maximized = false := rfl
  refine ⟨⟨?_, ?_⟩, ?_, ?_, ?_⟩
  · exact hcolumn _ (toInt32_bounds _).2
  · exact hrow _ (toInt32_bounds _).2
  · simp [hnormal]
  · simp [hnormal]
  · simp [hnormal]

section Initialize

variable (screenWidth screenHeight : UInt32) (workTop workBottom : Int32) (titleHeight : UInt32)

theorem desktopWmInitialize_hidden :
    (desktopWmInitialize screenWidth screenHeight workTop workBottom titleHeight).shown i =
      false := by
  by_cases hi : i < desktopWmCapacity
  · unfold shown window desktopWmInitialize
    rw [cell_ofFn _ hi]
    simp [initialWindow, clampWindow]
  · simp [shown, hi]

theorem desktopWmInitialize_focused :
    Focused (desktopWmInitialize screenWidth screenHeight workTop workBottom titleHeight) := by
  have horder : (desktopWmInitialize screenWidth screenHeight workTop workBottom
      titleHeight).zOrder.Perm (List.range desktopWmCapacity) := List.Perm.refl _
  refine ⟨⟨horder, ?_, ?_, ?_⟩, ?_⟩
  · intro i hi
    exact absurd hi (by simp [desktopWmInitialize])
  · intro i hi
    exact absurd hi (by simp [desktopWmInitialize])
  · simp [desktopWmInitialize]
  · have htop := (topVisible_eq_none horder).mpr fun _ =>
      desktopWmInitialize_hidden screenWidth screenHeight workTop workBottom titleHeight
    rw [htop]
    rfl

theorem desktopWmInitialize_keeps : ∃ area : WorkArea,
    area.Keeps (desktopWmInitialize screenWidth screenHeight workTop workBottom titleHeight) := by
  have hworkRight := toInt32_bounds (toInt32 screenWidth.toNat - 4)
  have hheight := toInt32_bounds screenHeight.toNat
  have htop := workTop.toInt_lt
  have hbottom := workBottom.toInt_lt
  have hbottom' := workBottom.le_toInt
  obtain ⟨horizontal, hleft, hright, hwidth, hcolumn⟩ := initialAxis 4
    (if 8 < screenWidth.toNat then toInt32 (toInt32 screenWidth.toNat - 4) else 4) 160 (by omega) (by omega) (by split <;> omega) (by split <;> omega) (by omega)
    rfl rfl
  obtain ⟨vertical, hvtop, hvbottom, hvheight, hrow⟩ := initialAxis (max workTop.toInt 0)
    (if min workBottom.toInt (toInt32 screenHeight.toNat) ≤ max workTop.toInt 0 then
      toInt32 screenHeight.toNat else min workBottom.toInt (toInt32 screenHeight.toNat))
    (if 4294967295 - 64 < max titleHeight.toNat 18 then 4294967295
      else max titleHeight.toNat 18 + 64)
    (by omega) (by omega) (by split <;> omega) (by split <;> omega) (by split <;> omega) rfl rfl
  refine ⟨⟨horizontal, vertical⟩,
    { toFocused := desktopWmInitialize_focused _ _ _ _ _
      extent := ⟨hleft.symm, hright.symm, hwidth.symm, hvtop.symm, hvbottom.symm, hvheight.symm⟩
      frames := ?_
      anchored := ?_
      moving := ?_ }⟩
  · intro i hi
    unfold window desktopWmInitialize
    rw [cell_ofFn _ hi]
    exact initialWindow_frames hcolumn hrow
  · intro i hkind
    exact absurd hkind (by simp [desktopWmInitialize])
  · intro i hkind
    exact absurd hkind (by simp [desktopWmInitialize])

end Initialize

theorem act_focused (h : Focused m) : Focused (m.act action) := by
  cases action with
  | dispatch event => exact desktopWmDispatch_focused h
  | setFlags index flags => exact setWindow_focused h rfl
  | setVisualOptions shadows contents =>
    unfold act desktopWmSetVisualOptions
    dsimp only
    split
    · exact h
    · split
      · exact h
      · exact Focused.of_eq h rfl rfl rfl rfl rfl rfl

theorem act_changed (h : Focused m) : Changed m (m.act action) := by
  cases action with
  | dispatch event => exact desktopWmDispatch_changed h
  | setFlags index flags => exact changed_set rfl fun _ => rfl
  | setVisualOptions shadows contents =>
    unfold act desktopWmSetVisualOptions
    dsimp only
    split
    · exact changed_of_body rfl
    · split
      · exact changed_of_body rfl
      · exact changed_of_windows ⟨rfl, rfl, rfl, rfl, rfl, rfl⟩ rfl (.held rfl)

theorem desktopAct_keeps (h : area.Keeps m) : area.Keeps (m.act action) :=
  h.step (act_changed h.toFocused) (act_focused h.toFocused)

theorem foldl_keeps {actions : List DesktopWmAction} (h : area.Keeps m) :
    area.Keeps (actions.foldl act m) := by
  induction actions generalizing m with
  | nil => exact h
  | cons action actions ih => exact ih (desktopAct_keeps h)

theorem WorkArea.Keeps.arranged (h : area.Keeps m) : WindowsArranged m := by
  have hplaced : ∀ i, i < desktopWmCapacity →
      area.horizontal.Placed (m.window i).x (m.window i).width ∧
        area.vertical.Placed (m.window i).y (m.window i).height :=
    fun i hi => (h.frames i hi).placed
  refine
    { order := h.order
      keyboard := ?_
      keyboard_none := ?_
      pointer := h.pointer
      capture := h.captured
      capture_none := h.free
      inside_width := ?_
      inside_height := ?_
      least := ?_ }
  · intro i hi
    apply topVisible_topmost h.order
    rw [← h.keyboard]
    exact hi
  · rw [h.keyboard]
    exact topVisible_eq_none h.order
  · intro i hshown hfits
    rw [h.extent.left, h.extent.right] at *
    exact (hplaced i (shown_lt hshown)).1.inside hfits
  · intro i hshown hfits
    rw [h.extent.top, h.extent.bottom] at *
    exact (hplaced i (shown_lt hshown)).2.inside hfits
  · intro i hi
    rw [h.extent.minimumWidth, h.extent.minimumHeight]
    exact ⟨(hplaced i hi).1.least, (hplaced i hi).2.least⟩

theorem hidden_ends (h : Focused m) (hchanged : Changed m m') (h' : Focused m')
    (hwindow : m.captureWindow = some i) (hhidden : m'.shown i = false) :
    m'.captureKind = .none ∧ m'.captureWindow = none := by
  cases hchanged.capture with
  | ended hkind hnone => exact ⟨hkind, hnone⟩
  | held hgrip =>
    have hsame : m'.captureWindow = m.captureWindow := (congrArg CaptureGrip.window hgrip :)
    have hshown := h'.captured i (hsame.trans hwindow)
    rw [hhidden] at hshown
    cases hshown
  | grabbed j hfree =>
    have hnone := h.free.mp hfree
    rw [hwindow] at hnone
    cases hnone

theorem byPointer_cases (h : action.byPointer = true) :
    (∃ x y, action = .dispatch (.pointerMotion x y)) ∨
      ∃ button pressed x y, action = .dispatch (.pointerButton button pressed x y) := by
  unfold DesktopWmAction.byPointer at h
  split at h
  · exact .inl ⟨_, _, rfl⟩
  · exact .inr ⟨_, _, _, _, rfl⟩
  · cases h

theorem pointer_other (hpointer : action.byPointer = true) (h : m.captureWindow ≠ some i) :
    (m.act action).window i = m.window i := by
  obtain ⟨x, y, rfl⟩ | ⟨button, pressed, x, y, rfl⟩ := byPointer_cases hpointer
  · exact desktopWmPointerMotion_other h
  · unfold act desktopWmDispatch
    dsimp only
    split
    · rfl
    · split
      · unfold window
        rw [desktopWmPointerPress_windows]
      · exact desktopWmPointerRelease_other h

theorem edgesFixed_refl (edges : ResizeEdges) (w : DesktopWindow) : EdgesFixed edges w w :=
  ⟨fun _ => rfl, fun _ => rfl, fun _ _ => rfl, fun _ => rfl, fun _ => rfl, fun _ _ => rfl⟩

theorem edgesFixed_of_resized {edges : ResizeEdges} {w w' : DesktopWindow} {left top : Int}
    {width height : Nat}
    (hcolumn : area.horizontal.Resized edges.left edges.right left width (w.x, w.width))
    (hrow : area.vertical.Resized edges.top edges.bottom top height (w.y, w.height))
    (hcolumn' : area.horizontal.Resized edges.left edges.right left width (w'.x, w'.width))
    (hrow' : area.vertical.Resized edges.top edges.bottom top height (w'.y, w'.height)) :
    EdgesFixed edges w w' :=
  { right := fun h => (hcolumn'.opposite_low h).trans (hcolumn.opposite_low h).symm
    left := fun h => (hcolumn'.opposite_high h).trans (hcolumn.opposite_high h).symm
    width := fun hl hr => (hcolumn'.kept hl hr).trans (hcolumn.kept hl hr).symm
    bottom := fun h => (hrow'.opposite_low h).trans (hrow.opposite_low h).symm
    top := fun h => (hrow'.opposite_high h).trans (hrow.opposite_high h).symm
    height := fun ht hb => (hrow'.kept ht hb).trans (hrow.kept ht hb).symm }

theorem motion_resize {x y : Int} (hkind : m.captureKind = .resize)
    (hwindow : m.captureWindow = some i) (hshown : m.shown i = true) :
    (desktopWmPointerMotion m x y).window i = resizeWindow m (m.window i) x y := by
  have hlt := shown_lt hshown
  unfold desktopWmPointerMotion
  rw [if_neg (by simp [hkind])]
  simp only [hwindow]
  rw [if_neg (Nat.not_le.mpr hlt)]
  split
  next hhidden => exact absurd (shown_visible hshown) hhidden
  next =>
    simp only [hkind]
    exact window_setWindow_self hlt

theorem pointer_resize (h : area.Keeps m) (hpointer : action.byPointer = true)
    (hkind : m.captureKind = .resize) (hwindow : m.captureWindow = some i) :
    EdgesFixed m.resizeEdges (m.window i) ((m.act action).window i) := by
  have hshown := h.captured i hwindow
  have hanchors := h.anchored i hkind hwindow
  obtain ⟨x, y, rfl⟩ | ⟨button, pressed, x, y, rfl⟩ := byPointer_cases hpointer
  · show EdgesFixed _ _ ((desktopWmPointerMotion m x.toInt y.toInt).window i)
    rw [motion_resize hkind hwindow hshown]
    obtain ⟨hcolumn, hrow⟩ := resizeWindow_resized (w := m.window i) (x := x.toInt)
      (y := y.toInt) h.extent hanchors
    exact edgesFixed_of_resized hanchors.column hanchors.row hcolumn hrow
  · have hsame : (m.act (.dispatch (.pointerButton button pressed x y))).windows =
        m.windows := by
      unfold act desktopWmDispatch
      dsimp only
      split
      · rfl
      · split
        · exact desktopWmPointerPress_windows
        · exact desktopWmPointerRelease_resize hkind
    have hwindow' : (m.act (.dispatch (.pointerButton button pressed x y))).window i =
        m.window i := by
      unfold window
      rw [hsame]
    rw [hwindow']
    exact edgesFixed_refl _ _

variable {s : DesktopWmRun}

theorem eventContained (h : area.Keeps s.manager)
    (hgrab : s.grab = s.manager.captured) : EventContained s action := by
  refine ⟨?_, ?_, ?_⟩
  · intro i hwindow hhidden
    exact hidden_ends h.toFocused (act_changed h.toFocused) (act_focused h.toFocused) hwindow
      hhidden
  · intro hpointer i hframe
    have hwindow : s.manager.captureWindow = some i := by
      by_contra hother
      exact hframe (congrArg DesktopWindow.frame (pointer_other hpointer hother))
    rw [hgrab]
    unfold captured
    rw [hwindow]
    rfl
  · intro hpointer hkind i hwindow
    exact pointer_resize h hpointer hkind hwindow

theorem maximized_normalBounds (h : area.Keeps m) (hchanged : Changed m m')
    (hmax : (m.window i).maximized = true) (hmax' : (m'.window i).maximized = true)
    (hi : i < desktopWmCapacity) :
    (m'.window i).normalBounds = (m.window i).normalBounds := by
  cases hchanged.reshaped i with
  | kept hframe => exact (congrArg normalBounds hframe :)
  | maximized hnormal =>
    rw [hmax] at hnormal
    cases hnormal
  | restored hmaximized hframe =>
    rw [restoreNormalBounds_frame h.extent (h.frames i hi) hmaximized] at hframe
    have hnormal : (m'.window i).maximized = false := (congrArg maximized hframe :)
    rw [hmax'] at hnormal
    cases hnormal
  | resized x y hkind hwindow =>
    have hnormal := (h.anchored i hkind hwindow).normal
    rw [hmax] at hnormal
    cases hnormal
  | moved x y hx hy hkind hwindow =>
    have hnormal := h.moving i hkind hwindow
    rw [hmax] at hnormal
    cases hnormal

theorem maximizing_normalBounds (hchanged : Changed m m')
    (hnormal : (m.window i).maximized = false) (hmax' : (m'.window i).maximized = true)
    (hrestored : (restoreNormalBounds m (m.window i)).maximized = false) :
    (m'.window i).normalBounds = (m.window i).rect := by
  have hlost : ∀ {f : DesktopFrame}, f.maximized = false → (m'.window i).frame = f → False := by
    intro f hf hframe
    have hsame : (m'.window i).maximized = f.maximized :=
      (congrArg maximized hframe :)
    rw [hmax', hf] at hsame
    cases hsame
  cases hchanged.reshaped i with
  | kept hframe => exact (hlost hnormal hframe).elim
  | maximized _ _ _ hframe => exact (congrArg normalBounds hframe :)
  | restored _ hframe => exact (hlost hrestored hframe).elim
  | resized x y _ _ hframe => exact (hlost hnormal hframe).elim
  | moved x y _ _ _ _ _ hframe => exact (hlost hnormal hframe).elim

theorem restoring_rect (h : area.Keeps m) (hchanged : Changed m m')
    (hmax : (m.window i).maximized = true) (hnormal : (m'.window i).maximized = false)
    (hi : i < desktopWmCapacity) : (m'.window i).rect = (m.window i).normalBounds := by
  have hlost : ∀ {f : DesktopFrame}, f.maximized = true → (m'.window i).frame = f → False := by
    intro f hf hframe
    have hsame : (m'.window i).maximized = f.maximized :=
      (congrArg maximized hframe :)
    rw [hnormal, hf] at hsame
    cases hsame
  cases hchanged.reshaped i with
  | kept hframe => exact (hlost hmax hframe).elim
  | maximized _ _ _ hframe => exact (hlost rfl hframe).elim
  | restored hmaximized hframe =>
    rw [restoreNormalBounds_frame h.extent (h.frames i hi) hmaximized] at hframe
    exact (congrArg rect hframe :)
  | resized x y _ _ hframe => exact (hlost hmax hframe).elim
  | moved x y _ _ _ _ _ hframe => exact (hlost hmax hframe).elim

theorem restoreNormalBounds_normal {w : DesktopWindow} :
    (restoreNormalBounds m w).maximized = false := by
  unfold restoreNormalBounds
  split
  next h => simpa using h
  next => rfl

theorem foldl_normalBounds (h : area.Keeps m) (hi : i < desktopWmCapacity)
    (between : List DesktopWmAction)
    (hmax : ∀ rest, rest <+: between → ((rest.foldl act m).window i).maximized = true) :
    ((between.foldl act m).window i).normalBounds = (m.window i).normalBounds := by
  induction between generalizing m with
  | nil => rfl
  | cons action between ih =>
    have hbefore : (m.window i).maximized = true := hmax [] (List.nil_prefix)
    have hafter : ((m.act action).window i).maximized = true :=
      hmax [action] (List.prefix_cons_inj action |>.mpr List.nil_prefix)
    have hrest := ih (desktopAct_keeps h) fun rest hprefix =>
      hmax (action :: rest) ((List.prefix_cons_inj action).mpr hprefix)
    exact hrest.trans
      (maximized_normalBounds h (act_changed h.toFocused) hbefore hafter hi)

theorem boundsRestored (h : area.Keeps m) (hi : i < desktopWmCapacity) : BoundsRestored m i := by
  intro first between last hnormal hmax hend
  have hfirst : ((m.act first).window i).maximized = true := hmax [] List.nil_prefix
  have hbetween : (((between.foldl act (m.act first))).window i).maximized = true :=
    hmax between (List.prefix_refl between)
  have hkeeps : area.Keeps (m.act first) := desktopAct_keeps h
  have hlast : area.Keeps (between.foldl act (m.act first)) := foldl_keeps hkeeps
  calc (((between.foldl act (m.act first)).act last).window i).rect
      = ((between.foldl act (m.act first)).window i).normalBounds :=
        restoring_rect hlast (act_changed hlast.toFocused) hbetween hend hi
    _ = ((m.act first).window i).normalBounds := foldl_normalBounds hkeeps hi between hmax
    _ = (m.window i).rect :=
        maximizing_normalBounds (act_changed h.toFocused) hnormal hfirst restoreNormalBounds_normal

theorem maximizeToggles (h : area.Keeps m) : MaximizeToggles m := by
  intro target hshown hflags hwide hhigh
  have hi := shown_lt hshown
  obtain ⟨hcolumn, hrow⟩ := places_rect.mp (h.frames _ hi).placed
  have hwide' : area.horizontal.low < area.horizontal.high := by
    rw [← h.extent.left, ← h.extent.right]
    exact hwide
  have hhigh' : area.vertical.low < area.vertical.high := by
    rw [← h.extent.top, ← h.extent.bottom]
    exact hhigh
  have hguard : ¬ (¬ (m.window target.toNat).visible = true ∨
      (m.window target.toNat).flags &&& (desktopWmWindowDialog ||| desktopWmWindowStateBlocked) ≠ 0 ∨
      m.workRight ≤ m.workLeft ∨ m.workBottom ≤ m.workTop ∨ (m.window target.toNat).width = 0 ∨
      (m.window target.toNat).height = 0 ∨ 2147483647 < (m.window target.toNat).width ∨
      2147483647 < (m.window target.toNat).height) := by
    have hleast := hcolumn.least
    have hleast' := hrow.least
    have hpos := area.horizontal.minimum_pos
    have hpos' := area.vertical.minimum_pos
    have hbelow := hcolumn.below hwide'
    have hbelow' := hrow.below hhigh'
    have habove := hcolumn.above
    have habove' := hrow.above
    have hlow := area.horizontal.low_nonneg
    have hlow' := area.vertical.low_nonneg
    have htop := area.horizontal.high_le
    have htop' := area.vertical.high_le
    have hvisible := shown_visible hshown
    simp only [not_or, not_not]
    refine ⟨hvisible, hflags, ?_, ?_, ?_, ?_, ?_, ?_⟩ <;> omega
  unfold act desktopWmDispatch
  dsimp only
  unfold onTarget
  rw [if_neg (Nat.not_le.mpr hi)]
  unfold desktopWmToggleMaximize
  rw [if_neg (Nat.not_le.mpr hi), if_neg hguard]
  cases hmax : (m.window target.toNat).maximized with
  | true =>
    rw [if_pos rfl, window_setWindow_self hi]
    exact restoreNormalBounds_normal
  | false =>
    rw [if_neg (by decide), window_setWindow_self hi]
    rfl

theorem captured_step (h : area.Keeps s.manager) (hgrab : s.grab = s.manager.captured) :
    (s.step action).grab = (s.step action).manager.captured := by
  have hafter : Focused (s.manager.act action) := act_focused h.toFocused
  have hchanged : Changed s.manager (s.manager.act action) := act_changed h.toFocused
  unfold DesktopWmRun.step
  dsimp only
  split
  next hnone =>
    unfold captured
    rw [hafter.free.mp hnone]
    rfl
  next hsome =>
    split
    · rfl
    next hheld =>
      -- the button stayed down on the same window
      rw [hgrab]
      cases hchanged.capture with
      | ended hkind => exact absurd hkind hsome
      | grabbed i hfree => exact absurd hfree hheld
      | held hgrip =>
        have hsame : (s.manager.act action).captureWindow = s.manager.captureWindow :=
          (congrArg CaptureGrip.window hgrip :)
        unfold captured
        rw [hsame]
        cases hwindow : s.manager.captureWindow with
        | none => rfl
        | some i =>
          have hvisible := shown_visible (h.captured i hwindow)
          rw [Option.map_some, Option.map_some, hchanged.generation i hvisible]

theorem desktopRun_keeps (actions : List DesktopWmAction) (h : area.Keeps s.manager)
    (hgrab : s.grab = s.manager.captured) :
    area.Keeps (s.run actions).manager ∧
      (s.run actions).grab = (s.run actions).manager.captured := by
  induction actions generalizing s with
  | nil => exact ⟨h, hgrab⟩
  | cons action actions ih => exact ih (desktopAct_keeps h) (captured_step h hgrab)

theorem desktopWm_invariants (screenWidth screenHeight : UInt32) (workTop workBottom : Int32)
    (titleHeight : UInt32) (actions : List DesktopWmAction) :
    let s := (DesktopWmRun.start
      (desktopWmInitialize screenWidth screenHeight workTop workBottom titleHeight)).run actions
    WindowsArranged s.manager ∧ (∀ action, EventContained s action) ∧
      (∀ i, i < desktopWmCapacity → BoundsRestored s.manager i) ∧ MaximizeToggles s.manager := by
  obtain ⟨area, hkeeps⟩ := desktopWmInitialize_keeps screenWidth screenHeight workTop workBottom
    titleHeight
  obtain ⟨h, hgrab⟩ := desktopRun_keeps actions
    (s := .start (desktopWmInitialize screenWidth screenHeight workTop workBottom titleHeight))
    hkeeps rfl
  intro s
  refine ⟨h.arranged, ?_, ?_, maximizeToggles h⟩
  · intro action
    exact eventContained h hgrab
  · intro i hi
    exact boundsRestored h hi

end ReistOs
