import ReistOs.TextEditorRuns

namespace ReistOs

open FixedArray

section GetText

variable {model : TextEditorModel} {s : TextEditorState} {e : ReferenceEditor}

theorem flatMap_lines (lines : List (List UInt8)) :
    ((List.range lines.length).flatMap fun i =>
      lines.getD i [] ++ if i + 1 < lines.length then [lineFeed] else []) =
      [lineFeed].intercalate lines := by
  induction lines with
  | nil => rfl
  | cons l lines ih =>
    have hrest : ((List.range lines.length).flatMap fun i =>
        (l :: lines).getD (i + 1) [] ++
          if i + 1 + 1 < (l :: lines).length then [lineFeed] else []) =
        [lineFeed].intercalate lines := by
      rw [← ih]
      simp
    rw [List.length_cons, List.range_succ_eq_map, List.flatMap_cons, List.flatMap_map]
    rw [List.length_cons] at hrest
    rw [hrest]
    cases lines with
    | nil => simp
    | cons m lines => simp [List.intercalate_cons_cons]

theorem length_lines (lines : List (List UInt8)) :
    ([lineFeed].intercalate lines).length =
      (lines.length - 1) + (lines.map List.length).sum := by
  induction lines with
  | nil => rfl
  | cons l lines ih =>
    cases lines with
    | nil => simp
    | cons m lines =>
      rw [List.intercalate_cons_cons, List.length_append, List.length_append, ih]
      simp
      omega

theorem encodeText_intercalate (lines : List (List Char)) :
    encodeText (['\n'].intercalate lines) = [lineFeed].intercalate (lines.map encodeText) := by
  induction lines with
  | nil => rfl
  | cons l lines ih =>
    cases lines with
    | nil => simp
    | cons m lines =>
      have hlf : encodeText ['\n'] = [lineFeed] := rfl
      simp only [List.map_cons, List.intercalate_cons_cons] at ih ⊢
      rw [encodeText_append, encodeText_append, ih, hlf]

theorem unifyBreaks_bytes {bytes rest : List UInt8} (h : ∀ b ∈ bytes, 0x20 ≤ b.toNat) :
    unifyBreaks carriageReturn lineFeed (bytes ++ rest) =
      bytes ++ unifyBreaks carriageReturn lineFeed rest := by
  induction bytes with
  | nil => rfl
  | cons b bytes ih =>
    have hcr : b ≠ carriageReturn := by
      intro hb
      have hle := h b List.mem_cons_self
      rw [hb] at hle
      exact absurd hle (by decide)
    have hbytes : ∀ d ∈ bytes, 0x20 ≤ d.toNat := fun d hd => h d (List.mem_cons_of_mem b hd)
    rw [List.cons_append, unifyBreaks, if_neg hcr, ih hbytes, List.cons_append]

theorem encodeText_unifyBreaks {cs : List Char} (hok : ∀ c ∈ cs, editorChar c = true) :
    encodeText (unifyBreaks '\r' '\n' cs) =
      unifyBreaks carriageReturn lineFeed (encodeText cs) := by
  induction cs with
  | nil => rfl
  | cons c cs ih =>
    have hrest : ∀ d ∈ cs, editorChar d = true := fun d hd => hok d (List.mem_cons_of_mem c hd)
    rcases editorChar_cases (hok c List.mem_cons_self) with hc | rfl | rfl
    · have hcr := (plainChar_break hc).1
      rw [unifyBreaks, if_neg hcr, encodeText_cons, encodeText_cons,
        unifyBreaks_bytes (fun b hb => encodeChar_bytes hc hb), ih hrest]
    · by_cases hhead : cs.head? = some '\n'
      · have hbytes : (encodeText cs).head? = some lineFeed := by
          obtain ⟨rest, rfl⟩ := List.head?_eq_some_iff.mp hhead
          rw [encodeText_lf, List.head?_cons]
        rw [unifyBreaks, if_pos rfl, if_pos hhead, encodeText_cr, unifyBreaks, if_pos rfl,
          if_pos hbytes, ih hrest]
      · rw [unifyBreaks, if_pos rfl, if_neg hhead, encodeText_cr, unifyBreaks, if_pos rfl,
          if_neg (head_encodeText hrest hhead), encodeText_lf, ih hrest]
    · rw [unifyBreaks, if_neg (by decide), encodeText_lf, encodeText_lf, unifyBreaks,
        if_neg (by decide), ih hrest]

theorem getText_holds (hmodel : modelValid model = true) (h : HoldsEditor model s e)
    (capacity : Nat) :
    textEditorGetText model s capacity =
      if capacity ≤ (encodeText (['\n'].intercalate e.text.lines)).length then
        .error textEditorEcapacity
      else .ok (encodeText (['\n'].intercalate e.text.lines)) := by
  have haccepted : ¬ (textEditorValidate model s ≠ textEditorOk ∨ s.configured = 0) := by
    rw [h.valid hmodel, h.configured]
    decide
  obtain ⟨lines, hlines⟩ : ∃ lines, lines = e.text.lines.map encodeText := ⟨_, rfl⟩
  have hcount : s.lineCount = lines.length := by
    rw [hlines, List.length_map, h.text.lineCount]
  have hline : ∀ i < lines.length, HoldsLine (s.line i) (e.text.lines.getD i []) := by
    intro i hi
    rw [hlines, List.length_map] at hi
    exact h.text.line_getD hi
  have hbytes : ∀ i < lines.length, lineBytes (s.line i) = lines.getD i [] := by
    intro i hi
    rw [(hline i hi).lineBytes, hlines]
    rw [hlines, List.length_map] at hi
    rw [List.getD_eq_getElem _ _ hi, List.getD_eq_getElem _ _ (by simpa using hi),
      List.getElem_map]
  have hlength : ((List.range s.lineCount).map fun i => lineLength (s.line i)).sum =
      (lines.map List.length).sum := by
    congr 1
    apply List.ext_getElem
    · rw [List.length_map, List.length_range, List.length_map, hcount]
    · intro i hi hj
      rw [List.length_map] at hj
      rw [List.getElem_map, List.getElem_range, List.getElem_map, (hline i hj).length,
        ← (hline i hj).lineBytes, hbytes i hj, List.getD_eq_getElem _ _ hj]
  have htext : ((List.range s.lineCount).flatMap fun i =>
      lineBytes (s.line i) ++ if i + 1 < s.lineCount then [lineFeed] else []) =
      [lineFeed].intercalate lines := by
    rw [hcount, ← flatMap_lines]
    apply List.flatMap_congr
    intro i hi
    rw [hbytes i (List.mem_range.mp hi)]
  rw [textEditorGetText, if_neg haccepted]
  rw [hlength, htext, hcount, ← length_lines, encodeText_intercalate, ← hlines]

end GetText

section Refused

variable {model : TextEditorModel} {s : TextEditorState} {e : ReferenceEditor}
  {event : TextEditorEvent} {t : TextCursor Char}

theorem wanted_moveKey {key : Nat} (hlow : keyLeft ≤ key)
    (hmove : key ≤ keyPageDown ∨ key = keyDocumentHome ∨ key = keyDocumentEnd) :
    e.wanted (.key (editorKey key)) = none := by
  rcases moveKey_cases hlow hmove with rfl | rfl | rfl | rfl | rfl | rfl | rfl | rfl | rfl | rfl <;> rfl

theorem Performs.refused_of {preferred : Nat} {new : Option (TextCursor Char)}
    {edited : Bool × TextEditorState} (h : Performs s new preferred edited) (hnew : new = some t)
    (hfull : ¬ linesFit t.lines = true) : edited = (false, s) := by
  apply h.refused
  intro u hu
  obtain rfl := Option.some.inj (hnew.symm.trans hu)
  exact hfull

theorem editorInput_refused (h : HoldsEditor model s e) (hevent : eventValid event = true)
    (hwanted : e.wanted event.input = some t) (hfull : ¬ linesFit t.lines = true) :
    (event.type = eventText ∨ event.type = eventKeyboard) ∧
      (editorInput model s event).2 = (false, s) := by
  rcases eventValid_type hevent with ht | ht | ht | ht | ht | ht
  · rw [input_cancel ht] at hwanted
    cases hwanted
  · rw [input_focus ht] at hwanted
    cases hwanted
  · rw [input_motion ht] at hwanted
    cases hwanted
  · rw [input_button ht] at hwanted
    split at hwanted
    next => cases hwanted
    next => cases hwanted
  · refine ⟨.inl ht, ?_⟩
    obtain ⟨hvalue, hplain⟩ := eventValid_text hevent ht
    have hencoded : encodeScalar event.codepoint =
        String.utf8EncodeChar (Char.ofNat event.codepoint) := by
      have hscalar := encodeScalar_plain hplain
      rwa [hvalue] at hscalar
    rw [input_text ht] at hwanted
    have hrefused := (insertCharacter_performs h.text hplain).refused_of hwanted hfull
    rw [editorInput, if_pos ht]
    dsimp only
    rw [hencoded]
    split
    next hin =>
      rw [if_pos hin.2] at hrefused
      exact hrefused
    next => rfl
  · refine ⟨.inr ht, ?_⟩
    obtain ⟨hlow, hhigh⟩ := eventValid_key hevent ht
    have hnotText : ¬ event.type = eventText := by
      rw [ht]
      decide
    rw [input_key ht] at hwanted
    have hmove : ¬ (event.key ≤ keyPageDown ∨ event.key = keyDocumentHome ∨
        event.key = keyDocumentEnd) := by
      intro hmove
      rw [wanted_moveKey hlow hmove] at hwanted
      cases hwanted
    rw [editorInput, if_neg hnotText, if_pos ht, if_neg hmove]
    rcases editKey_cases hlow hhigh hmove with hkey | hkey | hkey
    · rw [hkey] at hwanted ⊢
      have hrefused := (backspace_performs h.text).refused_of hwanted hfull
      split
      next => exact hrefused
      next =>
        rw [if_neg (fun hin => absurd hin.2 (by decide)),
          if_neg (fun hin => absurd hin.2 (by decide))]
    · rw [hkey] at hwanted ⊢
      have hrefused := (deleteAtCursor_performs h.text).refused_of hwanted hfull
      rw [if_neg (fun hin => absurd hin.2 (by decide))]
      split
      next => exact hrefused
      next => rw [if_neg (fun hin => absurd hin.2 (by decide))]
    · rw [hkey] at hwanted ⊢
      have hrefused := (insertNewline_performs h.text).refused_of hwanted hfull
      rw [if_neg (fun hin => absurd hin.2 (by decide)),
        if_neg (fun hin => absurd hin.2 (by decide))]
      split
      next => exact hrefused
      next => rfl

theorem dispatch_refused {result : TextEditorResult} (hmodel : modelValid model = true)
    (h : HoldsEditor model s e) (hwanted : e.wanted event.input = some t)
    (hfull : ¬ linesFit t.lines = true) :
    { (textEditorDispatch model s event result).2.1 with
      firstLine := s.firstLine
      firstColumn := s.firstColumn } = s := by
  by_cases hvalid : eventValid event = true ∧ resultValid result = true
  · obtain ⟨hevent, hresult⟩ := hvalid
    obtain ⟨htype, hedited⟩ := editorInput_refused h hevent hwanted hfull
    by_cases hfocused : s.focused ≠ 0
    · have hmodified : (editorInput model s event).2.1 = true →
          (editorInput model s event).2.2.modified = 1 := by
        rw [hedited]
        intro hc
        cases hc
      rw [dispatch_input hmodel h hevent hresult htype hfocused hmodified, hedited]
      rfl
    · rw [dispatch_unfocused hmodel h hevent hresult htype hfocused]
  · rw [dispatch_invalid hvalid]

end Refused

section ReadOnly

variable {model : TextEditorModel} {s : TextEditorState} {event : TextEditorEvent}

theorem moveRows_text (up : Bool) (amount : Nat) :
    (s.moveRows model up amount).lines = s.lines ∧
      (s.moveRows model up amount).lineCount = s.lineCount := by
  unfold TextEditorState.moveRows
  split
  next =>
    dsimp only
    split
    next => exact ⟨rfl, rfl⟩
    next => exact ⟨rfl, rfl⟩
  next => exact ⟨rfl, rfl⟩

theorem moveCursor_text (key rows : Nat) :
    (s.moveCursor model key rows).lines = s.lines ∧
      (s.moveCursor model key rows).lineCount = s.lineCount := by
  unfold TextEditorState.moveCursor
  dsimp only
  split
  next =>
    split
    next => exact ⟨rfl, rfl⟩
    next =>
      split
      next => exact ⟨rfl, rfl⟩
      next => exact ⟨rfl, rfl⟩
  next =>
    split
    next =>
      split
      next => exact ⟨rfl, rfl⟩
      next =>
        split
        next => exact ⟨rfl, rfl⟩
        next => exact ⟨rfl, rfl⟩
    next =>
      split
      next => exact moveRows_text _ _
      next =>
        split
        next => exact ⟨rfl, rfl⟩
        next =>
          split
          next => exact ⟨rfl, rfl⟩
          next =>
            split
            next => exact ⟨rfl, rfl⟩
            next =>
              split
              next => exact ⟨rfl, rfl⟩
              next => exact ⟨rfl, rfl⟩

theorem editorInput_readOnly (hreadOnly : ¬ model.flags &&& textEditorReadOnly = 0) :
    (editorInput model s event).2.2.lines = s.lines ∧
      (editorInput model s event).2.2.lineCount = s.lineCount := by
  unfold editorInput
  split
  next =>
    rw [if_neg (fun hin => hreadOnly hin.1)]
    exact ⟨rfl, rfl⟩
  next =>
    split
    next =>
      split
      next => exact moveCursor_text _ _
      next =>
        rw [if_neg (fun hin => hreadOnly hin.1), if_neg (fun hin => hreadOnly hin.1),
          if_neg (fun hin => hreadOnly hin.1)]
        exact ⟨rfl, rfl⟩
    next => exact ⟨rfl, rfl⟩

theorem dispatch_readOnly (hreadOnly : ¬ model.flags &&& textEditorReadOnly = 0)
    (event : TextEditorEvent) (result : TextEditorResult) :
    (textEditorDispatch model s event result).2.1.lines = s.lines ∧
      (textEditorDispatch model s event result).2.1.lineCount = s.lineCount := by
  have hinput : (editorInput model s event).2.2.lines = s.lines ∧
      (editorInput model s event).2.2.lineCount = s.lineCount := editorInput_readOnly hreadOnly
  unfold textEditorDispatch
  split
  next => exact ⟨rfl, rfl⟩
  next =>
    dsimp only
    split
    next =>
      split
      next => exact ⟨rfl, rfl⟩
      next => exact ⟨rfl, rfl⟩
    next =>
      split
      next =>
        split
        next => exact ⟨rfl, rfl⟩
        next =>
          split
          next => exact ⟨rfl, rfl⟩
          next => exact ⟨rfl, rfl⟩
      next =>
        split
        next => exact ⟨rfl, rfl⟩
        next =>
          split
          next =>
            split
            next => exact ⟨rfl, rfl⟩
            next =>
              split
              next =>
                split
                next => exact ⟨rfl, rfl⟩
                next => exact ⟨rfl, rfl⟩
              next =>
                split
                next => exact ⟨rfl, rfl⟩
                next => exact ⟨rfl, rfl⟩
          next =>
            split
            next => exact ⟨rfl, rfl⟩
            next =>
              split
              next => exact hinput
              next => exact hinput

end ReadOnly

variable {model : TextEditorModel} {s : TextEditorState} {e : ReferenceEditor}

theorem setText_accepted {text : List UInt8} {result : TextEditorResult}
    (hok : (textEditorSetText model s (some text) result).1 = textEditorOk) :
    resultValid result = true ∧ validateInputText (some text) = textEditorOk := by
  have hne : textEditorEinval ≠ textEditorOk := by decide
  rw [textEditorSetText] at hok
  split at hok
  next => exact absurd hok hne
  next haccepted =>
    simp only [not_or, not_not] at haccepted
    split at hok
    next hinput => exact absurd hok hinput
    next hinput => exact ⟨haccepted.2.2, not_not.mp hinput⟩

theorem getText_setText (hmodel : modelValid model = true) (h : HoldsEditor model s e)
    {text : List UInt8} {result : TextEditorResult}
    (hok : (textEditorSetText model s (some text) result).1 = textEditorOk) (capacity : Nat) :
    textEditorGetText model (textEditorSetText model s (some text) result).2.1 capacity =
      if capacity ≤ (unifyBreaks carriageReturn lineFeed text).length then
        .error textEditorEcapacity
      else .ok (unifyBreaks carriageReturn lineFeed text) := by
  obtain ⟨hresult, hinput⟩ := setText_accepted hok
  obtain ⟨chars, rfl, hchars, hfit⟩ := validateInputText_iff.mp hinput
  have hset : HoldsEditor model (textEditorSetText model s (some (encodeText chars)) result).2.1
      ((EditorCall.setText (some (encodeText chars)) result).apply model e) :=
    setText_holds hmodel h (some (encodeText chars))
  have hlines : ((EditorCall.setText (some (encodeText chars)) result).apply model e).text.lines =
      linesOf chars := by
    have hdecode : decodeText (encodeText chars) = some chars := decodeText_iff.mpr rfl
    have hall : (chars.all fun c => plainChar c || c == '\r' || c == '\n') = true :=
      List.all_eq_true.mpr hchars
    have hpos : 0 < (linesOf chars).length :=
      List.length_pos_iff.mpr (lineText_linesOf hchars).ne_nil
    rw [EditorCall.apply, if_pos hresult, ReferenceEditor.setText, hdecode]
    dsimp only
    rw [if_pos (by rw [hall, hfit]; rfl)]
    exact TextCursor.place_lines hpos 0
  have htext : ['\n'].intercalate (linesOf chars) = unifyBreaks '\r' '\n' chars :=
    List.intercalate_splitOn '\n'
  rw [getText_holds hmodel hset, hlines, htext, encodeText_unifyBreaks hchars]

/-- The editor is the reference editor on lists of characters: the same lines and cursor, valid, no
edit without room, what was set is read back, and no edits when it is read-only. -/
theorem textEditor_refines {state : TextEditorState} {result : TextEditorResult}
    (hok : (textEditorConfigure model state result).1 = textEditorOk) (calls : List EditorCall) :
    let s := editorRun model (textEditorConfigure model state result).2.1 calls
    let e := referenceRun model ReferenceEditor.start calls
    textEditorValidate model s = textEditorOk ∧
    (s.lineCount = e.text.lines.length ∧
      (∀ i line, e.text.lines[i]? = some line → lineBytes (s.line i) = encodeText line) ∧
      s.cursorLine = e.text.line ∧ s.cursorColumn = e.text.column ∧
      s.modified = e.modified.toNat) ∧
    (∀ event result t, e.wanted event.input = some t → ¬ linesFit t.lines = true →
      { (textEditorDispatch model s event result).2.1 with
        firstLine := s.firstLine
        firstColumn := s.firstColumn } = s) ∧
    (∀ text result, (textEditorSetText model s (some text) result).1 = textEditorOk →
      ∀ capacity, textEditorGetText model (textEditorSetText model s (some text) result).2.1
          capacity =
        if capacity ≤ (unifyBreaks carriageReturn lineFeed text).length then
          .error textEditorEcapacity
        else .ok (unifyBreaks carriageReturn lineFeed text)) ∧
    (¬ model.flags &&& textEditorReadOnly = 0 → ∀ event result,
      (textEditorDispatch model s event result).2.1.lines = s.lines ∧
        (textEditorDispatch model s event result).2.1.lineCount = s.lineCount) := by
  intro s e
  obtain ⟨hmodel, hstart⟩ := configure_holds hok
  have h : HoldsEditor model s e := editorRun_holds hmodel hstart calls
  refine ⟨h.valid hmodel, ⟨h.text.lineCount, ?_, h.text.cursorLine, h.text.cursorColumn,
    h.modified⟩, ?_, ?_, ?_⟩
  · intro i line hi
    exact (h.text.line hi).lineBytes
  · intro event result t hwanted hfull
    exact dispatch_refused hmodel h hwanted hfull
  · intro text result hset capacity
    exact getText_setText hmodel h hset capacity
  · intro hreadOnly event result
    exact dispatch_readOnly hreadOnly event result

def partialRowModel : TextEditorModel :=
  { version := textEditorApiVersion
    structSize := textEditorModelSize
    id := 1
    name := [0x65]
    bounds := ⟨0, 0, 8, 3⟩
    glyphWidth := 8
    glyphHeight := 2
    flags := textEditorVisible ||| textEditorEnabled
    reserved := Vector.replicate 4 0 }

def emptyEditorResult : TextEditorResult :=
  { version := textEditorApiVersion
    structSize := textEditorResultSize
    consumed := 0
    changed := 0
    focusChanged := 0
    controlId := 0
    modified := 0
    cursorLine := 0
    cursorColumn := 0
    firstLine := 0
    firstColumn := 0
    damage := Vector.replicate textEditorDamageCapacity ⟨0, 0, 0, 0⟩
    damageCount := 0
    fullRedraw := 0
    reserved := Vector.replicate 4 0 }

def pressedBelow : TextEditorEvent :=
  { version := textEditorApiVersion
    structSize := textEditorEventSize
    type := eventPointerButton
    x := 0
    y := 2
    button := editorButtonLeft
    pressed := 1
    key := 0
    codepoint := 0
    focused := 0
    reserved := Vector.replicate 4 0 }

def pressedEnter : TextEditorEvent :=
  { version := textEditorApiVersion
    structSize := textEditorEventSize
    type := eventKeyboard
    x := 0
    y := 0
    button := 0
    pressed := 0
    key := keyEnter
    codepoint := 0
    focused := 0
    reserved := Vector.replicate 4 0 }

/-- Two hundred empty lines, and a press on the row that is only partly visible. -/
def fullDocument : List EditorCall :=
  [.setText (some (List.replicate 199 lineFeed)) emptyEditorResult,
    .dispatch pressedBelow emptyEditorResult]

theorem partialRowModel_configure :
    (textEditorConfigure partialRowModel textEditorStateInitialize emptyEditorResult).1 =
      textEditorOk := by
  decide +kernel

theorem textEditor_refines_partialRow :
    textEditorValidate partialRowModel
      (editorRun partialRowModel (textEditorConfigure partialRowModel textEditorStateInitialize
        emptyEditorResult).2.1 fullDocument) = textEditorOk :=
  (textEditor_refines partialRowModel_configure fullDocument).1

theorem partialRowModel_firstLine (calls : List EditorCall) :
    (editorRun partialRowModel (textEditorConfigure partialRowModel textEditorStateInitialize
      emptyEditorResult).2.1 calls).firstLine =
      (referenceRun partialRowModel ReferenceEditor.start calls).firstLine := by
  obtain ⟨hmodel, hstart⟩ := configure_holds partialRowModel_configure
  exact (editorRun_holds hmodel hstart calls).firstLine

/-- An edit that is refused can still move the view: ENTER at the line limit. -/
theorem refused_edit_scrolls :
    (textEditorConfigure partialRowModel textEditorStateInitialize emptyEditorResult).1 =
      textEditorOk ∧
    (∃ t, (referenceRun partialRowModel ReferenceEditor.start fullDocument).wanted
        pressedEnter.input = some t ∧ ¬ linesFit t.lines = true) ∧
    (textEditorDispatch partialRowModel
      (editorRun partialRowModel (textEditorConfigure partialRowModel textEditorStateInitialize
        emptyEditorResult).2.1 fullDocument) pressedEnter emptyEditorResult).2.1.firstLine = 1 ∧
    (editorRun partialRowModel (textEditorConfigure partialRowModel textEditorStateInitialize
      emptyEditorResult).2.1 fullDocument).firstLine = 0 := by
  have hwanted : ∃ t, (referenceRun partialRowModel ReferenceEditor.start fullDocument).wanted
      pressedEnter.input = some t ∧ ¬ linesFit t.lines = true := ⟨_, rfl, by decide +kernel⟩
  refine ⟨partialRowModel_configure, hwanted, ?_, ?_⟩
  · have hrun : ∀ s, (textEditorDispatch partialRowModel (editorRun partialRowModel s fullDocument)
        pressedEnter emptyEditorResult).2.1 = editorRun partialRowModel s
          (fullDocument ++ [.dispatch pressedEnter emptyEditorResult]) := fun _ => rfl
    rw [hrun, partialRowModel_firstLine]
    decide +kernel
  · rw [partialRowModel_firstLine]
    decide +kernel

end ReistOs
