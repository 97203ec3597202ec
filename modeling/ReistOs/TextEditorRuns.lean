import ReistOs.TextEditorRefinement

namespace ReistOs

open FixedArray ReferenceEditor TextEditorEvent TextCursor

section Events

variable {event : TextEditorEvent}

theorem eventValid_focus (h : eventValid event = true) (htype : event.type = eventFocus) :
    event.focused ≤ 1 := by
  simp [eventValid, htype, eventFocus, eventPointerMotion, eventPointerButton, eventKeyboard,
    eventText] at h
  omega

theorem eventValid_text (h : eventValid event = true) (htype : event.type = eventText) :
    (Char.ofNat event.codepoint).toNat = event.codepoint ∧
      plainChar (Char.ofNat event.codepoint) = true := by
  simp [eventValid, htype, eventPointerMotion, eventPointerButton, eventKeyboard, eventText] at h
  have hvalue : (Char.ofNat event.codepoint).toNat = event.codepoint :=
    char_ofNat_toNat (by omega)
  refine ⟨hvalue, ?_⟩
  rw [plainChar, hvalue]
  simp [scalarPrintable]
  omega

theorem eventValid_key (h : eventValid event = true) (htype : event.type = eventKeyboard) :
    keyLeft ≤ event.key ∧ event.key ≤ keyDocumentEnd := by
  simp [eventValid, htype, eventPointerMotion, eventPointerButton, eventKeyboard] at h
  omega

theorem eventValid_type (h : eventValid event = true) :
    event.type = eventCancel ∨ event.type = eventFocus ∨ event.type = eventPointerMotion ∨
      event.type = eventPointerButton ∨ event.type = eventText ∨ event.type = eventKeyboard := by
  by_contra hno
  simp only [not_or] at hno
  obtain ⟨h1, h2, h3, h4, h5, h6⟩ := hno
  simp [eventValid, h1, h2, h3, h4, h5, h6] at h

theorem input_cancel (ht : event.type = eventCancel) : event.input = .cancel := by
  rw [input, if_pos ht]

theorem input_focus (ht : event.type = eventFocus) :
    event.input = .focus (event.focused != 0) := by
  rw [input, if_neg (by rw [ht]; decide), if_pos ht]

theorem input_motion (ht : event.type = eventPointerMotion) : event.input = .motion := by
  rw [input, if_neg (by rw [ht]; decide), if_neg (by rw [ht]; decide), if_pos ht]

theorem input_button (ht : event.type = eventPointerButton) :
    event.input = if event.pressed ≠ 0 then .press event.x event.y else .release := by
  rw [input, if_neg (by rw [ht]; decide), if_neg (by rw [ht]; decide),
    if_neg (by rw [ht]; decide), if_pos ht]

theorem input_text (ht : event.type = eventText) :
    event.input = .text (Char.ofNat event.codepoint) := by
  rw [input, if_neg (by rw [ht]; decide), if_neg (by rw [ht]; decide),
    if_neg (by rw [ht]; decide), if_neg (by rw [ht]; decide), if_pos ht]

theorem input_key (ht : event.type = eventKeyboard) :
    event.input = .key (editorKey event.key) := by
  rw [input, if_neg (by rw [ht]; decide), if_neg (by rw [ht]; decide),
    if_neg (by rw [ht]; decide), if_neg (by rw [ht]; decide), if_neg (by rw [ht]; decide)]

theorem editKey_cases {key : Nat} (hlow : keyLeft ≤ key) (hhigh : key ≤ keyDocumentEnd)
    (hmove : ¬ (key ≤ keyPageDown ∨ key = keyDocumentHome ∨ key = keyDocumentEnd)) :
    key = keyBackspace ∨ key = keyDelete ∨ key = keyEnter := by
  simp only [keyLeft, keyPageDown, keyDocumentHome, keyDocumentEnd, keyBackspace, keyDelete,
    keyEnter] at hlow hhigh hmove ⊢
  omega

end Events

variable {model : TextEditorModel} {s : TextEditorState} {e : ReferenceEditor}
  {event : TextEditorEvent} {result : TextEditorResult}

theorem HoldsEditor.refocused (h : HoldsEditor model s e) (focused captured : Bool)
    (hactive : focused = true → interactive model.flags = true)
    (hgrabbed : captured = true → focused = true) :
    HoldsEditor model { s with focused := focused.toNat, captured := captured.toNat }
      { e with focused := focused, captured := captured } :=
  { version := h.version
    structSize := h.structSize
    reserved := h.reserved
    configured := h.configured
    focused := rfl
    captured := rfl
    modified := h.modified
    text := ⟨h.text.lines, h.text.lineCount, h.text.room, h.text.cursorLine,
      h.text.cursorColumn⟩
    preferred := h.preferred
    firstLine := h.firstLine
    firstColumn := h.firstColumn
    firstLine_lt := h.firstLine_lt
    firstColumn_lt := h.firstColumn_lt
    active := hactive
    grabbed := hgrabbed }

theorem refocused_self {focused captured : Bool} (hfocused : e.focused = focused)
    (hcaptured : e.captured = captured) :
    { e with focused := focused, captured := captured } = e := by
  subst hfocused
  subst hcaptured
  rfl

theorem HoldsEditor.captured_false (h : HoldsEditor model s e) (hzero : s.captured = 0) :
    e.captured = false := by
  cases hc : e.captured with
  | false => rfl
  | true =>
    rw [h.captured, hc] at hzero
    cases hzero

theorem HoldsEditor.released (h : HoldsEditor model s e) :
    HoldsEditor model { s with captured := 0 } { e with captured := false } := by
  have hback := h.refocused e.focused false h.active (nofun)
  rw [← h.focused] at hback
  exact hback

theorem cellRow_le (hmodel : modelValid model = true) {first : Nat} {x y : Int}
    (hfirst : first < textEditorMaxLines * textEditorLineCapacity)
    (hinside : pointInside model.bounds x y = true) :
    first + (y - model.bounds.y).toNat / model.glyphHeight ≤ maxUint32 := by
  have hlimit : textEditorMaxLines * textEditorLineCapacity + maxInt32 < maxUint32 := by decide
  simp only [modelValid, rectValid, Bool.and_eq_true, decide_eq_true_eq] at hmodel
  simp only [pointInside, Bool.and_eq_true, decide_eq_true_eq] at hinside
  have hdiv : (y - model.bounds.y).toNat / model.glyphHeight ≤ (y - model.bounds.y).toNat :=
    Nat.div_le_self _ _
  omega

theorem HoldsEditor.press (hmodel : modelValid model = true) (h : HoldsEditor model s e) {x y : Int}
    (hinside : pointInside model.bounds x y = true) :
    HoldsEditor model (s.placeCursor model x y) (e.press model x y) := by
  have hvisual := cellRow_le hmodel h.firstLine_lt hinside
  have hedit := press_edited (x := x) h.text h.firstLine h.firstColumn hvisual
  rw [h.modified] at hedit
  exact h.edited hedit rfl rfl rfl rfl

theorem editorInput_text (h : HoldsEditor model s e) (hvalid : eventValid event = true)
    (htype : event.type = eventText) :
    EditHolds model (e.edit model (e.text.column + 1)
      (some (e.text.insert (Char.ofNat event.codepoint)))) (editorInput model s event).2 := by
  obtain ⟨hvalue, hplain⟩ := eventValid_text hvalid htype
  have hencoded : encodeScalar event.codepoint =
      String.utf8EncodeChar (Char.ofNat event.codepoint) := by
    have hscalar := encodeScalar_plain hplain
    rwa [hvalue] at hscalar
  rw [editorInput, if_pos htype]
  rw [hencoded]
  by_cases hwritable : model.flags &&& textEditorReadOnly = 0
  · have hholds := (insertCharacter_performs h.text hplain).holds h hwritable
    split at hholds
    next hin =>
      rw [if_pos ⟨hwritable, hin⟩]
      exact hholds
    next hin =>
      rw [if_neg (fun hand => hin hand.2)]
      exact hholds
  · rw [if_neg (fun hand => hwritable hand.1), edit_readOnly hwritable]
    exact .kept h

structure ReferenceEditor.Moved (e e' : ReferenceEditor) : Prop where
  focused : e'.focused = e.focused
  captured : e'.captured = e.captured
  modified : e'.modified = e.modified
  firstLine : e'.firstLine = e.firstLine
  firstColumn : e'.firstColumn = e.firstColumn

theorem moveTo_moved (line column : Nat) : e.Moved (e.moveTo line column) :=
  ⟨rfl, rfl, rfl, rfl, rfl⟩

theorem moveLeft_moved : e.Moved e.moveLeft := by
  unfold moveLeft
  split
  next => exact moveTo_moved _ _
  next =>
    split
    next => exact moveTo_moved _ _
    next => exact moveTo_moved _ _

theorem moveRight_moved : e.Moved e.moveRight := by
  unfold moveRight
  split
  next => exact moveTo_moved _ _
  next =>
    split
    next => exact moveTo_moved _ _
    next => exact moveTo_moved _ _

theorem moveRows_moved (up : Bool) (amount : Nat) : e.Moved (e.moveRows model up amount) := by
  unfold moveRows
  split
  next =>
    dsimp only
    split
    next => exact ⟨rfl, rfl, rfl, rfl, rfl⟩
    next => exact moveTo_moved _ _
  next => exact ⟨rfl, rfl, rfl, rfl, rfl⟩

theorem pressKey_moved {key : Nat} (hvalid : keyLeft ≤ key)
    (hkey : key ≤ keyPageDown ∨ key = keyDocumentHome ∨ key = keyDocumentEnd) :
    e.Moved (e.pressKey model (editorKey key)) := by
  rcases moveKey_cases hvalid hkey with rfl | rfl | rfl | rfl | rfl | rfl | rfl | rfl | rfl | rfl
  · exact moveLeft_moved
  · exact moveRight_moved
  · exact moveRows_moved true 1
  · exact moveRows_moved false 1
  · exact moveTo_moved _ _
  · exact moveTo_moved _ _
  · exact moveRows_moved true (visibleRows model)
  · exact moveRows_moved false (visibleRows model)
  · exact moveTo_moved _ _
  · exact moveTo_moved _ _

theorem editorInput_key (h : HoldsEditor model s e) (hvalid : eventValid event = true)
    (htype : event.type = eventKeyboard) :
    EditHolds model (e.pressKey model (editorKey event.key)) (editorInput model s event).2 := by
  obtain ⟨hlow, hhigh⟩ := eventValid_key hvalid htype
  have hnotText : ¬ event.type = eventText := by
    rw [htype]
    decide
  rw [editorInput, if_neg hnotText, if_pos htype]
  by_cases hmove : event.key ≤ keyPageDown ∨ event.key = keyDocumentHome ∨
      event.key = keyDocumentEnd
  · rw [if_pos hmove]
    have hmoved : e.Moved (e.pressKey model (editorKey event.key)) := pressKey_moved hlow hmove
    have hedit : Edited s (s.moveCursor model event.key (visibleRows model))
        (e.pressKey model (editorKey event.key)).text
        (e.pressKey model (editorKey event.key)).preferred s.modified :=
      moveCursor_edited h.text h.preferred hlow hmove
    rw [h.modified, ← hmoved.modified] at hedit
    exact ⟨h.edited hedit hmoved.focused hmoved.captured hmoved.firstLine hmoved.firstColumn,
      nofun⟩
  · rw [if_neg hmove]
    have hkeys := editKey_cases hlow hhigh hmove
    by_cases hwritable : model.flags &&& textEditorReadOnly = 0
    · rcases hkeys with hkey | hkey | hkey
      · rw [if_pos ⟨hwritable, hkey⟩, hkey]
        exact (backspace_performs h.text).holds h hwritable
      · have hnot : ¬ (model.flags &&& textEditorReadOnly = 0 ∧ event.key = keyBackspace) := by
          rw [hkey]
          exact fun hin => absurd hin.2 (by decide)
        rw [if_neg hnot, if_pos ⟨hwritable, hkey⟩, hkey]
        have hperforms := deleteAtCursor_performs h.text
        rw [h.preferred] at hperforms
        exact hperforms.holds h hwritable
      · have hnot : ∀ k, keyEnter ≠ k →
            ¬ (model.flags &&& textEditorReadOnly = 0 ∧ event.key = k) := by
          intro k hne hin
          exact hne (hkey.symm.trans hin.2)
        rw [if_neg (hnot keyBackspace (by decide)), if_neg (hnot keyDelete (by decide)),
          if_pos ⟨hwritable, hkey⟩, hkey]
        exact (insertNewline_performs h.text).holds h hwritable
    · rw [if_neg (fun hin => hwritable hin.1), if_neg (fun hin => hwritable hin.1),
        if_neg (fun hin => hwritable hin.1)]
      have hkept : e.pressKey model (editorKey event.key) = e := by
        rcases hkeys with hkey | hkey | hkey
        · rw [hkey]
          exact edit_readOnly hwritable e.text.backspace
        · rw [hkey]
          exact edit_readOnly hwritable e.text.delete
        · rw [hkey]
          exact edit_readOnly hwritable (some e.text.newline)
      rw [hkept]
      exact .kept h

theorem dispatch_invalid (h : ¬ (eventValid event = true ∧ resultValid result = true)) :
    (textEditorDispatch model s event result).2.1 = s := by
  rw [textEditorDispatch, if_pos]
  by_cases hevent : eventValid event = true
  · exact .inr (.inr (.inr fun hresult => h ⟨hevent, hresult⟩))
  · exact .inr (.inr (.inl hevent))

theorem dispatch_button_eq (haccepted : ¬ (textEditorValidate model s ≠ textEditorOk ∨
    s.configured = 0 ∨ ¬ eventValid event ∨ ¬ resultValid result))
    (htype : event.type = eventPointerButton) : (textEditorDispatch model s event result).2.1 =
      if ¬ interactive model.flags then s
      else if event.pressed ≠ 0 then
        if ¬ pointInside model.bounds event.x event.y then s
        else { s with focused := 1, captured := 1 }.placeCursor model event.x event.y
      else if s.captured ≠ 0 then { s with captured := 0 }
      else s := by
  have hnot : ∀ k, eventPointerButton ≠ k → ¬ event.type = k := fun k hne hk =>
    hne (htype.symm.trans hk)
  rw [textEditorDispatch, if_neg haccepted]
  rw [if_neg (hnot eventCancel (by decide)), if_neg (hnot eventFocus (by decide)),
    if_neg (hnot eventPointerMotion (by decide)), if_pos htype]
  split
  next => rfl
  next =>
    split
    next =>
      split
      next => rfl
      next => rfl
    next =>
      split
      next => rfl
      next => rfl

section Valid

variable (hmodel : modelValid model = true) (h : HoldsEditor model s e)
  (hevent : eventValid event = true) (hresult : resultValid result = true)

include hmodel h hevent hresult

theorem dispatch_accepted : ¬ (textEditorValidate model s ≠ textEditorOk ∨ s.configured = 0 ∨
    ¬ eventValid event ∨ ¬ resultValid result) := by
  rw [h.valid hmodel, h.configured, hevent, hresult]
  decide

theorem dispatch_cancel (htype : event.type = eventCancel) :
    HoldsEditor model (textEditorDispatch model s event result).2.1
      { e with captured := false } := by
  rw [textEditorDispatch, if_neg (dispatch_accepted hmodel h hevent hresult)]
  rw [if_pos htype]
  split
  next => exact h.released
  next hzero =>
    have hcaptured := h.captured_false (not_not.mp hzero)
    rw [refocused_self rfl hcaptured]
    exact h

theorem dispatch_focus_state (htype : event.type = eventFocus) :
    (textEditorDispatch model s event result).2.1 =
      if event.focused ≠ 0 ∧ ¬ interactive model.flags then s
      else if s.focused ≠ event.focused then
        { s with
          focused := event.focused
          captured := if event.focused = 0 then 0 else s.captured }
      else s := by
  have hnot : ¬ event.type = eventCancel := by
    rw [htype]
    decide
  rw [textEditorDispatch, if_neg (dispatch_accepted hmodel h hevent hresult)]
  rw [if_neg hnot, if_pos htype]
  split
  next => rfl
  next =>
    split
    next => rfl
    next => rfl

theorem dispatch_focus (htype : event.type = eventFocus) :
    HoldsEditor model (textEditorDispatch model s event result).2.1
      (e.apply model (.focus (event.focused != 0))) := by
  have hle := eventValid_focus hevent htype
  rw [dispatch_focus_state hmodel h hevent hresult htype, apply]
  rcases Nat.le_one_iff_eq_zero_or_eq_one.mp hle with hf | hf
  · simp only [hf, ne_eq, not_true, false_and, if_false, if_true, bne_self_eq_false,
      Bool.false_eq_true, Bool.false_and]
    split
    next => exact h.refocused false false (nofun) (nofun)
    next hzero =>
      have hfocused : e.focused = false := by
        cases he : e.focused with
        | false => rfl
        | true => simp [h.focused, he] at hzero
      have hcaptured : e.captured = false := by
        cases hc : e.captured with
        | false => rfl
        | true => exact absurd (h.grabbed hc) (by rw [hfocused]; decide)
      rw [refocused_self hfocused hcaptured]
      exact h
  · have hon : (1 != 0) = true := by decide
    simp only [hf, ne_eq, Nat.one_ne_zero, not_false_eq_true, true_and, if_false, hon,
      Bool.true_and]
    split
    next => exact h
    next hactive =>
      have hactive' : interactive model.flags = true := not_not.mp hactive
      split
      next =>
        have hholds := h.refocused true e.captured (fun _ => hactive') (fun _ => rfl)
        rw [← h.captured] at hholds
        exact hholds
      next hone =>
        have hfocused : e.focused = true := by
          cases he : e.focused with
          | false => simp [h.focused, he] at hone
          | true => rfl
        rw [refocused_self hfocused rfl]
        exact h

theorem dispatch_motion (htype : event.type = eventPointerMotion) :
    (textEditorDispatch model s event result).2.1 = s := by
  have hnot : ∀ k, eventPointerMotion ≠ k → ¬ event.type = k := fun k hne hk =>
    hne (htype.symm.trans hk)
  rw [textEditorDispatch, if_neg (dispatch_accepted hmodel h hevent hresult)]
  rw [if_neg (hnot eventCancel (by decide)), if_neg (hnot eventFocus (by decide)), if_pos htype]

theorem dispatch_button (htype : event.type = eventPointerButton) :
    HoldsEditor model (textEditorDispatch model s event result).2.1
      (e.apply model (if event.pressed ≠ 0 then .press event.x event.y else .release)) := by
  rw [dispatch_button_eq (dispatch_accepted hmodel h hevent hresult) htype]
  by_cases hactive : interactive model.flags = true
  · rw [if_neg (not_not.mpr hactive)]
    split
    next =>
      rw [apply]
      by_cases hinside : pointInside model.bounds event.x event.y = true
      · rw [if_neg (not_not.mpr hinside), if_pos ⟨hactive, hinside⟩]
        have hgrab := h.refocused true true (fun _ => hactive) (fun _ => rfl)
        exact hgrab.press hmodel hinside
      · rw [if_pos hinside, if_neg (fun hin => hinside hin.2)]
        exact h
    next =>
      rw [apply]
      split
      next => exact h.released
      next hzero =>
        rw [refocused_self rfl (h.captured_false (not_not.mp hzero))]
        exact h
  · rw [if_pos hactive]
    have hcaptured : e.captured = false := by
      cases hc : e.captured with
      | false => rfl
      | true => exact absurd (h.active (h.grabbed hc)) hactive
    split
    next =>
      rw [apply, if_neg (fun hin => hactive hin.1)]
      exact h
    next =>
      rw [apply, refocused_self rfl hcaptured]
      exact h

omit hmodel h hevent hresult in
theorem input_apart (htype : event.type = eventText ∨ event.type = eventKeyboard) :
    event.type ≠ eventCancel ∧ event.type ≠ eventFocus ∧ event.type ≠ eventPointerMotion ∧
      event.type ≠ eventPointerButton := by
  rcases htype with hty | hty
  · rw [hty]
    decide
  · rw [hty]
    decide

theorem dispatch_unfocused (htype : event.type = eventText ∨ event.type = eventKeyboard)
    (hfocused : ¬ s.focused ≠ 0) : (textEditorDispatch model s event result).2.1 = s := by
  obtain ⟨hcancel, hfocus, hmotion, hbutton⟩ := input_apart htype
  rw [textEditorDispatch, if_neg (dispatch_accepted hmodel h hevent hresult)]
  rw [if_neg hcancel, if_neg hfocus, if_neg hmotion, if_neg hbutton, if_pos (not_not.mp hfocused)]

theorem dispatch_input (htype : event.type = eventText ∨ event.type = eventKeyboard)
    (hfocused : s.focused ≠ 0)
    (hmodified : (editorInput model s event).2.1 = true →
      (editorInput model s event).2.2.modified = 1) :
    (textEditorDispatch model s event result).2.1 =
      (keepCursorVisible model (editorInput model s event).2.2).2 := by
  obtain ⟨hcancel, hfocus, hmotion, hbutton⟩ := input_apart htype
  rw [textEditorDispatch, if_neg (dispatch_accepted hmodel h hevent hresult)]
  rw [if_neg hcancel, if_neg hfocus, if_neg hmotion, if_neg hbutton, if_neg hfocused]
  dsimp only
  split
  next hchanged =>
    obtain ⟨shown, hshown⟩ : ∃ t, t = (keepCursorVisible model (editorInput model s event).2.2).2 :=
      ⟨_, rfl⟩
    have hone : shown.modified = 1 := by
      rw [hshown]
      exact hmodified hchanged
    rw [← hshown, ← hone]
  next => rfl

theorem dispatch_holds :
    HoldsEditor model (textEditorDispatch model s event result).2.1
      (e.apply model event.input) := by
  have hinput : s.focused ≠ 0 ↔ e.focused = true := by
    rw [h.focused]
    cases e.focused <;> decide
  rcases eventValid_type hevent with ht | ht | ht | ht | ht | ht
  · rw [input_cancel ht]
    exact dispatch_cancel hmodel h hevent hresult ht
  · rw [input_focus ht]
    exact dispatch_focus hmodel h hevent hresult ht
  · rw [input_motion ht, dispatch_motion hmodel h hevent hresult ht]
    exact h
  · rw [input_button ht]
    exact dispatch_button hmodel h hevent hresult ht
  · rw [input_text ht, apply]
    by_cases hfocused : e.focused = true
    · obtain ⟨hholds, hmodified⟩ := editorInput_text h hevent ht
      rw [if_pos hfocused,
        dispatch_input hmodel h hevent hresult (.inl ht) (hinput.mpr hfocused) hmodified]
      exact hholds.follow hmodel
    · rw [if_neg hfocused, dispatch_unfocused hmodel h hevent hresult (.inl ht)
        (fun hs => hfocused (hinput.mp hs))]
      exact h
  · rw [input_key ht, apply]
    by_cases hfocused : e.focused = true
    · obtain ⟨hholds, hmodified⟩ := editorInput_key h hevent ht
      rw [if_pos hfocused,
        dispatch_input hmodel h hevent hresult (.inr ht) (hinput.mpr hfocused) hmodified]
      exact hholds.follow hmodel
    · rw [if_neg hfocused, dispatch_unfocused hmodel h hevent hresult (.inr ht)
        (fun hs => hfocused (hinput.mp hs))]
      exact h

end Valid

theorem initialize_reserved : wordsZero textEditorStateInitialize.reserved = true := by decide

theorem initialize_line : cell textEditorStateInitialize.lines 0 = clearLine := by
  have hlt : 0 < textEditorMaxLines := by decide
  rw [cell, textEditorStateInitialize, Vector.getElem?_eq_getElem hlt, Vector.getElem_replicate,
    Option.getD_some]

theorem firstLine_zero : 0 < textEditorMaxLines * textEditorLineCapacity := by decide

theorem firstColumn_zero : 0 < textEditorLineCapacity := by decide

section

variable (hmodel : modelValid model = true) (h : HoldsEditor model s e)
include hmodel h

theorem setText_holds (text : Option (List UInt8)) :
    HoldsEditor model (textEditorSetText model s text result).2.1
      ((EditorCall.setText text result).apply model e) := by
  by_cases hresult : resultValid result = true
  · have haccepted : ¬ (textEditorValidate model s ≠ textEditorOk ∨ s.configured = 0 ∨
        ¬ resultValid result) := by
      rw [h.valid hmodel, h.configured, hresult]
      decide
    rw [textEditorSetText, if_neg haccepted]
    cases text with
    | none =>
      rw [if_pos (by decide)]
      exact h
    | some bytes =>
      rw [EditorCall.apply, if_pos hresult, setText]
      by_cases hok : validateInputText (some bytes) = textEditorOk
      · obtain ⟨chars, rfl, hchars, hfit⟩ := validateInputText_iff.mp hok
        obtain ⟨v, hfill, hholds⟩ := filled_linesOf hchars hfit
        have hdecode : decodeText (encodeText chars) = some chars := decodeText_iff.mpr rfl
        have hall : (chars.all fun c => plainChar c || c == '\r' || c == '\n') = true :=
          List.all_eq_true.mpr hchars
        have hlines : linesOf chars ≠ [] := (lineText_linesOf hchars).ne_nil
        have hpos : 0 < (linesOf chars).length := List.length_pos_iff.mpr hlines
        have hroom := (linesFit_iff.mp hfit).1
        rw [if_neg (not_not.mpr hok), hdecode]
        dsimp only
        rw [if_pos (by rw [hall, hfit]; rfl), Option.getD_some, hfill]
        refine
          { version := rfl
            structSize := rfl
            reserved := initialize_reserved
            configured := rfl
            focused := h.focused
            captured := rfl
            modified := rfl
            text := ⟨?_, ?_, ?_, ?_, ?_⟩
            preferred := rfl
            firstLine := rfl
            firstColumn := rfl
            firstLine_lt := firstLine_zero
            firstColumn_lt := firstColumn_zero
            active := h.active
            grabbed := nofun }
        · rw [place_lines hpos]
          exact hholds
        · rw [place_lines hpos]
          dsimp only
          omega
        · rw [place_lines hpos]
          exact hroom
        · rw [place_line hpos]
          rfl
        · rw [place_column _ _ (Nat.zero_le _)]
          rfl
      · rw [if_pos hok]
        have hkept : e.setText bytes = e := by
          rw [setText]
          split
          next => rfl
          next chars hdecode =>
            have hbytes := decodeText_iff.mp hdecode
            split
            next hin =>
              rw [Bool.and_eq_true, List.all_eq_true] at hin
              exact absurd (validateInputText_iff.mpr ⟨chars, hbytes, hin.1, hin.2⟩) hok
            next => rfl
        rw [setText] at hkept
        rw [hkept]
        exact h
  · have hkept : (EditorCall.setText text result).apply model e = e := by
      cases text with
      | none => rfl
      | some bytes => rw [EditorCall.apply, if_neg hresult]
    rw [textEditorSetText, if_pos (.inr (.inr hresult)), hkept]
    exact h

theorem call_holds (call : EditorCall) :
    HoldsEditor model (call.run model s).2.1 (call.apply model e) := by
  cases call with
  | setText text result => exact setText_holds hmodel h text
  | dispatch event result =>
    by_cases hvalid : eventValid event = true ∧ resultValid result = true
    · rw [EditorCall.apply, if_pos hvalid]
      exact dispatch_holds hmodel h hvalid.1 hvalid.2
    · rw [EditorCall.apply, if_neg hvalid, EditorCall.run, dispatch_invalid hvalid]
      exact h

theorem editorRun_holds (calls : List EditorCall) :
    HoldsEditor model (editorRun model s calls) (referenceRun model e calls) := by
  induction calls generalizing s e with
  | nil => exact h
  | cons call calls ih => exact ih (call_holds hmodel h call)

end

theorem configure_holds (hok : (textEditorConfigure model s result).1 = textEditorOk) :
    modelValid model = true ∧
      HoldsEditor model (textEditorConfigure model s result).2.1 ReferenceEditor.start := by
  rw [textEditorConfigure] at hok ⊢
  split at hok
  next =>
    have hne : textEditorEinval ≠ textEditorOk := by decide
    exact absurd hok hne
  next haccepted =>
    rw [if_neg haccepted]
    have hmodel : modelValid model = true := by
      by_contra hno
      exact haccepted (.inl hno)
    refine ⟨hmodel,
      { version := rfl
        structSize := rfl
        reserved := initialize_reserved
        configured := rfl
        focused := rfl
        captured := rfl
        modified := rfl
        text := ⟨?_, rfl, by decide, rfl, rfl⟩
        preferred := rfl
        firstLine := rfl
        firstColumn := rfl
        firstLine_lt := firstLine_zero
        firstColumn_lt := firstColumn_zero
        active := nofun
        grabbed := nofun }⟩
    refine holds_cons.mpr ⟨?_, Holds.nil⟩
    rw [initialize_line]
    exact holdsLine_clear

end ReistOs
