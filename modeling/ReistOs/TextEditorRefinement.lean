import ReistOs.TextEditorInput

namespace ReistOs

open FixedArray TextCursor ReferenceEditor

/-- The state of the code is the state of the reference editor. -/
structure HoldsEditor (model : TextEditorModel) (s : TextEditorState) (e : ReferenceEditor) :
    Prop where
  version : s.version = textEditorApiVersion
  structSize : s.structSize = textEditorStateSize
  reserved : wordsZero s.reserved = true
  configured : s.configured = 1
  focused : s.focused = e.focused.toNat
  captured : s.captured = e.captured.toNat
  modified : s.modified = e.modified.toNat
  text : HoldsText s e.text
  preferred : s.preferredColumn = e.preferred
  firstLine : s.firstLine = e.firstLine
  firstColumn : s.firstColumn = e.firstColumn
  firstLine_lt : e.firstLine < textEditorMaxLines * textEditorLineCapacity
  firstColumn_lt : e.firstColumn < textEditorLineCapacity
  active : e.focused = true → interactive model.flags = true
  grabbed : e.captured = true → e.focused = true

variable {model : TextEditorModel} {s s' : TextEditorState} {e e' : ReferenceEditor}

theorem toNat_le_one (b : Bool) : ¬ 1 < b.toNat := by
  cases b <;> decide

theorem HoldsEditor.lineValid (h : HoldsEditor model s e) {i : Nat} (hi : i < s.lineCount) :
    lineValid s i = true := by
  have hlt : i < e.text.lines.length := by
    rw [← h.text.lineCount]
    exact hi
  have hline := h.text.line_getD hlt
  have hshort : ¬ textEditorLineCapacity ≤ lineLength (s.line i) := by
    rw [hline.length]
    have hfits := hline.fits
    omega
  rw [ReistOs.lineValid, if_neg hshort, hline.columns]
  dsimp only
  by_cases hcursor : i = s.cursorLine
  · have hle := e.text.column_le
    rw [h.text.cursorLine] at hcursor
    rw [← hcursor, ← h.text.cursorColumn] at hle
    have hno : decide ((e.text.lines.getD i []).length < s.cursorColumn) = false := by
      rw [decide_eq_false_iff_not]
      omega
    rw [hno, Bool.and_false, Bool.not_false]
  · simp [hcursor]

theorem HoldsEditor.valid (hmodel : modelValid model = true) (h : HoldsEditor model s e) :
    textEditorValidate model s = textEditorOk := by
  have hheader : ¬ (¬ modelValid model ∨ s.version ≠ textEditorApiVersion ∨
      s.structSize ≠ textEditorStateSize ∨ 1 < s.configured ∨ 1 < s.focused ∨ 1 < s.captured ∨
      1 < s.modified ∨ ¬ wordsZero s.reserved) := by
    rw [h.version, h.structSize, h.configured, h.focused, h.captured, h.modified, h.reserved,
      hmodel]
    simp [toNat_le_one]
  have hconfigured : ¬ s.configured = 0 := by
    rw [h.configured]
    decide
  have hlt := e.text.line_lt
  have hroom := h.text.room
  have hgrabbed : ¬ (s.focused = 0 ∧ s.captured ≠ 0) := by
    rw [h.focused, h.captured]
    rintro ⟨hf, hc⟩
    cases hcaptured : e.captured with
    | false => simp [hcaptured] at hc
    | true => simp [h.grabbed hcaptured] at hf
  have hactive : ¬ (¬ interactive model.flags ∧ (s.focused ≠ 0 ∨ s.captured ≠ 0)) := by
    rintro ⟨hno, hgrab⟩
    have hfocused : e.focused = true := by
      by_contra hf
      have hc : ¬ e.captured = true := fun hc => hf (h.grabbed hc)
      simp [h.focused, h.captured, hf, hc] at hgrab
    exact hno (h.active hfocused)
  have hbounds : ¬ (s.lineCount = 0 ∨ textEditorMaxLines < s.lineCount ∨
      s.lineCount ≤ s.cursorLine ∨ textEditorMaxLines * textEditorLineCapacity ≤ s.firstLine ∨
      (¬ interactive model.flags ∧ (s.focused ≠ 0 ∨ s.captured ≠ 0)) ∨
      (s.focused = 0 ∧ s.captured ≠ 0)) := by
    have hfirst := h.firstLine_lt
    have hcount := h.text.lineCount
    have hcursor := h.text.cursorLine
    have hline := h.firstLine
    rintro (hb | hb | hb | hb | hb | hb)
    · omega
    · omega
    · omega
    · omega
    · exact hactive hb
    · exact hgrabbed hb
  have hlines : (List.range s.lineCount).all (ReistOs.lineValid s) = true := by
    rw [List.all_eq_true]
    intro i hi
    exact h.lineValid (List.mem_range.mp hi)
  rw [textEditorValidate, if_neg hheader, if_neg hconfigured, if_neg hbounds, if_pos hlines]

theorem wide_lt (hmodel : modelValid model = true) : visibleColumns model ≤ maxInt32 := by
  simp only [modelValid, rectValid, Bool.and_eq_true, decide_eq_true_eq] at hmodel
  have hwidth : model.bounds.width ≤ maxInt32 := by omega
  have hdiv : model.bounds.width / model.glyphWidth ≤ model.bounds.width := Nat.div_le_self _ _
  have hone : 1 ≤ maxInt32 := by decide
  unfold visibleColumns
  dsimp only
  split
  next => exact hone
  next => exact hdiv.trans hwidth

theorem HoldsEditor.edited (h : HoldsEditor model s e)
    (hedit : Edited s s' e'.text e'.preferred e'.modified.toNat) (hfocused : e'.focused = e.focused)
    (hcaptured : e'.captured = e.captured) (hline : e'.firstLine = e.firstLine)
    (hcolumn : e'.firstColumn = e.firstColumn) : HoldsEditor model s' e' := by
  have hframe := hedit.frame
  refine
    { version := ?_
      structSize := ?_
      reserved := ?_
      configured := ?_
      focused := ?_
      captured := ?_
      modified := hedit.modified
      text := hedit.text
      preferred := hedit.preferred
      firstLine := ?_
      firstColumn := ?_
      firstLine_lt := by rw [hline]; exact h.firstLine_lt
      firstColumn_lt := by rw [hcolumn]; exact h.firstColumn_lt
      active := by rw [hfocused]; exact h.active
      grabbed := by rw [hfocused, hcaptured]; exact h.grabbed }
  · exact (congrArg TextEditorState.version hframe).trans h.version
  · exact (congrArg TextEditorState.structSize hframe).trans h.structSize
  · exact (congrArg (fun t : TextEditorState => wordsZero t.reserved) hframe).trans h.reserved
  · exact (congrArg TextEditorState.configured hframe).trans h.configured
  · rw [hfocused]
    exact (congrArg TextEditorState.focused hframe).trans h.focused
  · rw [hcaptured]
    exact (congrArg TextEditorState.captured hframe).trans h.captured
  · rw [hline]
    exact (congrArg TextEditorState.firstLine hframe).trans h.firstLine
  · rw [hcolumn]
    exact (congrArg TextEditorState.firstColumn hframe).trans h.firstColumn

theorem HoldsEditor.follow (hmodel : modelValid model = true) (h : HoldsEditor model s e) :
    HoldsEditor model (keepCursorVisible model s).2 (e.follow model) := by
  have hwide := wide_lt hmodel
  have hfirst := h.firstColumn_lt
  have hcapacity : textEditorLineCapacity + maxInt32 < 2 ^ 32 := by decide
  have hmod : (e.firstColumn + visibleColumns model) % 2 ^ 32 =
      e.firstColumn + visibleColumns model := Nat.mod_eq_of_lt (by omega)
  have hrow := cursorRow_lt model e.text
  have hrows := h.text.rowsOfLines_le model
  have hcolumn : e.text.column < textEditorLineCapacity := by
    have hlt := h.text.cursor.scalarCount_lt
    rw [List.length_append] at hlt
    rw [column]
    omega
  have hlimit : textEditorMaxLines * (textEditorLineCapacity - 1) <
      textEditorMaxLines * textEditorLineCapacity := by decide
  refine
    { version := h.version
      structSize := h.structSize
      reserved := h.reserved
      configured := h.configured
      focused := h.focused
      captured := h.captured
      modified := h.modified
      text := ⟨h.text.lines, h.text.lineCount, h.text.room, h.text.cursorLine,
        h.text.cursorColumn⟩
      preferred := h.preferred
      firstLine := ?_
      firstColumn := ?_
      firstLine_lt := ?_
      firstColumn_lt := ?_
      active := h.active
      grabbed := h.grabbed }
  · simp only [keepCursorVisible, ReferenceEditor.follow, h.text.cursorRow, h.firstLine]
  · simp only [keepCursorVisible, ReferenceEditor.follow, h.firstColumn, h.text.cursorColumn, hmod]
  · have hold := h.firstLine_lt
    simp only [ReferenceEditor.follow]
    split
    next => omega
    next =>
      split
      next =>
        have hpos := visibleRows_pos model
        omega
      next => exact hold
  · have hpos := visibleColumns_pos model
    simp only [ReferenceEditor.follow]
    split
    next => decide
    next =>
      split
      next => exact hcolumn
      next =>
        split
        next => omega
        next => exact hfirst

theorem linesFit_iff {ls : List (List Char)} :
    linesFit ls = true ↔ ls.length ≤ textEditorMaxLines ∧
      ∀ l ∈ ls, (encodeText l).length < textEditorLineCapacity := by
  simp [linesFit]

theorem HoldsText.fits {c : TextCursor Char} (h : HoldsText s c) :
    ∀ l ∈ c.lines, (encodeText l).length < textEditorLineCapacity := by
  intro l hl
  obtain ⟨i, hi⟩ := List.mem_iff_getElem?.mp hl
  exact (h.line hi).fits

theorem linesFit_changed {before after : List (List Char)} {l : List Char}
    (hroom : before.length + (after.length + 1) ≤ textEditorMaxLines)
    (hbefore : ∀ m ∈ before, (encodeText m).length < textEditorLineCapacity)
    (hafter : ∀ m ∈ after, (encodeText m).length < textEditorLineCapacity) :
    linesFit (before ++ l :: after) = true ↔ (encodeText l).length < textEditorLineCapacity := by
  rw [linesFit_iff]
  constructor
  · rintro ⟨-, hall⟩
    exact hall l (by simp)
  · intro hl
    refine ⟨by simpa using hroom, ?_⟩
    intro m hm
    rcases List.mem_append.mp hm with hm | hm
    · exact hbefore m hm
    · rcases List.mem_cons.mp hm with rfl | hm
      · exact hl
      · exact hafter m hm

variable {c : TextCursor Char} {letter : Char} {preferred : Nat} {t : TextCursor Char}

theorem HoldsText.fitsBefore (h : HoldsText s c) :
    ∀ m ∈ c.before, (encodeText m).length < textEditorLineCapacity :=
  fun m hm => h.fits m (by rw [TextCursor.lines]; exact List.mem_append_left _ hm)

theorem HoldsText.fitsAfter (h : HoldsText s c) :
    ∀ m ∈ c.after, (encodeText m).length < textEditorLineCapacity :=
  fun m hm => h.fits m (by
    rw [TextCursor.lines]
    exact List.mem_append_right _ (List.mem_cons_of_mem _ hm))

theorem HoldsText.count_le (h : HoldsText s c) :
    c.before.length + (c.after.length + 1) ≤ textEditorMaxLines := by
  have hroom := h.room
  simpa [TextCursor.lines] using hroom

theorem edit_fits (hwritable : model.flags &&& textEditorReadOnly = 0)
    (hfit : linesFit t.lines = true) :
    e.edit model preferred (some t) =
      { e with text := t, preferred := preferred, modified := true } := by
  rw [edit, if_pos ⟨hwritable, hfit⟩]

theorem edit_full (hfull : ¬ linesFit t.lines = true) : e.edit model preferred (some t) = e := by
  rw [edit, if_neg (fun h => hfull h.2)]

theorem edit_readOnly (hreadOnly : ¬ model.flags &&& textEditorReadOnly = 0)
    (new : Option (TextCursor Char)) : e.edit model preferred new = e := by
  cases new with
  | none => rfl
  | some t => rw [edit, if_neg (fun h => hreadOnly h.1)]

theorem HoldsEditor.edit (h : HoldsEditor model s e)
    (hwritable : model.flags &&& textEditorReadOnly = 0) (hfit : linesFit t.lines = true)
    (hedit : Edited s s' t preferred 1) :
    HoldsEditor model s' (e.edit model preferred (some t)) ∧ s'.modified = 1 := by
  rw [edit_fits hwritable hfit]
  exact ⟨h.edited hedit rfl rfl rfl rfl, hedit.modified⟩

/-- What an edit is to leave behind: the reference editor's edit, and a modified document when the
code says it changed. -/
def EditHolds (model : TextEditorModel) (e : ReferenceEditor) (edited : Bool × TextEditorState) :
    Prop :=
  HoldsEditor model edited.2 e ∧ (edited.1 = true → edited.2.modified = 1)

theorem EditHolds.kept (h : HoldsEditor model s e) : EditHolds model e (false, s) :=
  ⟨h, nofun⟩

/-- An operation that performs an edit when the new document has room, and else does nothing. -/
structure Performs (s : TextEditorState) (new : Option (TextCursor Char)) (preferred : Nat)
    (edited : Bool × TextEditorState) : Prop where
  done : ∀ t, new = some t → linesFit t.lines = true →
    ∃ s', edited = (true, s') ∧ Edited s s' t preferred 1
  refused : (∀ t, new = some t → ¬ linesFit t.lines = true) → edited = (false, s)

variable {edited : Bool × TextEditorState}

theorem Performs.holds {new : Option (TextCursor Char)}
    (h : HoldsEditor model s e) (hwritable : model.flags &&& textEditorReadOnly = 0)
    (hperforms : Performs s new preferred edited) :
    EditHolds model (e.edit model preferred new) edited := by
  cases new with
  | none =>
    rw [hperforms.refused (fun t ht => by cases ht)]
    exact .kept h
  | some t =>
    by_cases hfit : linesFit t.lines = true
    · obtain ⟨s', rfl, hedit⟩ := hperforms.done t rfl hfit
      obtain ⟨hholds, hmodified⟩ := h.edit hwritable hfit hedit
      exact ⟨hholds, fun _ => hmodified⟩
    · have hnone : ∀ u, some t = some u → ¬ linesFit u.lines = true := by
        intro u hu
        rwa [← Option.some.inj hu]
      rw [hperforms.refused hnone, edit_full hfit]
      exact .kept h

theorem Performs.of_some
    (hdone : linesFit t.lines = true → ∃ s', edited = (true, s') ∧ Edited s s' t preferred 1)
    (hrefused : ¬ linesFit t.lines = true → edited = (false, s)) :
    Performs s (some t) preferred edited := by
  refine ⟨fun u hu hfit => ?_, fun hno => hrefused (hno t rfl)⟩
  obtain rfl := Option.some.inj hu
  exact hdone hfit

theorem Performs.of_none (hkept : edited = (false, s)) : Performs s none preferred edited :=
  ⟨(fun t ht => by cases ht), fun _ => hkept⟩

theorem insertCharacter_performs (h : HoldsText s c) (hplain : plainChar letter = true) :
    Performs s (some (c.insert letter)) (c.column + 1)
      (if (String.utf8EncodeChar letter).length ≠ 0 ∧ (String.utf8EncodeChar letter).length <
          textEditorLineCapacity - lineLength (s.line s.cursorLine) then
        (true, s.insertCharacter (String.utf8EncodeChar letter))
      else (false, s)) := by
  have hpos := letter.utf8Size_pos
  have hsize := String.length_utf8EncodeChar letter
  have hlength : (encodeText (c.left ++ letter :: c.right)).length =
      (encodeText (c.left ++ c.right)).length + letter.utf8Size := by
    simp only [encodeText_append, encodeText_cons, List.length_append, hsize]
    omega
  have hfit : linesFit (c.insert letter).lines = true ↔
      (encodeText (c.left ++ letter :: c.right)).length < textEditorLineCapacity := by
    rw [lines_insert]
    exact linesFit_changed h.count_le h.fitsBefore h.fitsAfter
  rw [h.cursor.length]
  refine .of_some (fun hin => ?_) (fun hno => ?_)
  · have hroom := hfit.mp hin
    rw [if_pos ⟨by omega, by omega⟩]
    exact ⟨_, rfl, insertCharacter_edited h hplain hroom⟩
  · rw [hfit] at hno
    rw [if_neg (by omega)]

theorem insertNewline_performs (h : HoldsText s c) :
    Performs s (some c.newline) 0 s.insertNewline := by
  have hcount : c.lines.length = c.before.length + (c.after.length + 1) := by
    simp [lines]
  have hnew : c.newline.lines.length = c.lines.length + 1 := by
    rw [lines_newline, hcount]
    simp
    omega
  refine .of_some (fun hfit => ?_) (fun hno => ?_)
  · have hroom := (linesFit_iff.mp hfit).1
    exact insertNewline_edited h (by omega)
  · apply insertNewline_full h
    have hfits := h.cursor.fits
    rw [encodeText_append, List.length_append] at hfits
    by_contra hne
    have hroom := h.room
    apply hno
    rw [linesFit_iff]
    refine ⟨by omega, ?_⟩
    intro l hl
    rw [lines_newline] at hl
    rcases List.mem_append.mp hl with hl | hl
    · exact h.fitsBefore l hl
    · rcases List.mem_cons.mp hl with rfl | hl
      · omega
      · rcases List.mem_cons.mp hl with rfl | hl
        · omega
        · exact h.fitsAfter l hl

theorem deleteAtCursor_performs (h : HoldsText s c) :
    Performs s c.delete s.preferredColumn s.deleteAtCursor := by
  have hcount := h.count_le
  cases hright : c.right with
  | cons letter rest =>
    have hdelete : c.delete = some { c with right := rest } := by
      rw [delete, hright, if_pos (by simp)]
      rfl
    have hfits := h.cursor.fits
    rw [hright] at hfits
    have hfit : linesFit ({ c with right := rest } : TextCursor Char).lines = true := by
      refine (linesFit_changed hcount h.fitsBefore h.fitsAfter).mpr ?_
      simp only [encodeText_append, encodeText_cons, List.length_append] at hfits ⊢
      omega
    rw [hdelete]
    exact .of_some (fun _ => deleteAtCursor_scalar h hright) (fun hno => absurd hfit hno)
  | nil =>
    cases hafter : c.after with
    | nil =>
      have hdelete : c.delete = none := by
        rw [delete, hright, if_neg (by simp), hafter]
        rfl
      rw [hdelete]
      exact .of_none (deleteAtCursor_end h hright hafter)
    | cons next after =>
      have hdelete : c.delete = some { c with right := next, after := after } := by
        rw [delete, hright, if_neg (by simp), hafter]
        rfl
      have hfitsAfter := h.fitsAfter
      rw [hafter] at hfitsAfter hcount
      rw [List.length_cons] at hcount
      have hlen : c.before.length + (after.length + 1) ≤ textEditorMaxLines := by omega
      have hfit : linesFit ({ c with right := next, after := after } : TextCursor Char).lines
          = true ↔ (encodeText (c.left ++ next)).length < textEditorLineCapacity :=
        linesFit_changed hlen h.fitsBefore fun m hm =>
          hfitsAfter m (List.mem_cons_of_mem next hm)
      rw [hdelete]
      refine .of_some (fun hin => ?_) (fun hno => ?_)
      · exact deleteAtCursor_join h hright hafter (hfit.mp hin)
      · rw [hfit] at hno
        exact deleteAtCursor_full h hright hafter (by omega)

theorem backspace_performs (h : HoldsText s c) :
    Performs s c.backspace ((c.backspace.map TextCursor.column).getD 0) s.backspace := by
  have hcount := h.count_le
  rcases List.eq_nil_or_concat c.left with hleft | ⟨before, letter, hleft⟩
  · rcases List.eq_nil_or_concat c.before with hbefore | ⟨above, ending, hbefore⟩
    · have hback : c.backspace = none := by
        rw [backspace, hleft, if_neg (by simp), hbefore]
        rfl
      rw [hback]
      exact .of_none (backspace_start h hleft hbefore)
    · rw [List.concat_eq_append] at hbefore
      have hback : c.backspace = some { c with before := above, left := ending } := by
        rw [backspace, hleft, if_neg (by simp), hbefore, List.getLast?_concat,
          Option.map_some, List.dropLast_concat]
      have hfitsBefore := h.fitsBefore
      rw [hbefore] at hfitsBefore hcount
      rw [List.length_append, List.length_singleton] at hcount
      have hlen : above.length + (c.after.length + 1) ≤ textEditorMaxLines := by omega
      have hfit : linesFit ({ c with before := above, left := ending } :
          TextCursor Char).lines = true ↔
          (encodeText (ending ++ c.right)).length < textEditorLineCapacity :=
        linesFit_changed hlen (fun m hm => hfitsBefore m (List.mem_append_left _ hm)) h.fitsAfter
      rw [hback, Option.map_some, Option.getD_some]
      refine .of_some (fun hin => ?_) (fun hno => ?_)
      · exact backspace_join h hleft hbefore (hfit.mp hin)
      · rw [hfit] at hno
        exact backspace_full h hleft hbefore (by omega)
  · rw [List.concat_eq_append] at hleft
    have hback : c.backspace = some { c with left := before } := by
      rw [backspace, hleft, if_pos (by simp), List.dropLast_concat]
    have hfits := h.cursor.fits
    rw [hleft] at hfits
    have hfit : linesFit ({ c with left := before } : TextCursor Char).lines = true := by
      refine (linesFit_changed hcount h.fitsBefore h.fitsAfter).mpr ?_
      simp only [encodeText_append, List.length_append] at hfits ⊢
      omega
    rw [hback]
    exact .of_some (fun _ => backspace_scalar h hleft) (fun hno => absurd hfit hno)

end ReistOs
