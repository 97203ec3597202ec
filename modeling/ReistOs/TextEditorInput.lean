import ReistOs.TextEditorMotion

namespace ReistOs

open FixedArray

/-- A line break in front of a text: CR LF, LF, or CR before anything but LF. -/
inductive Break : List Char → List Char → Prop
  | crlf (cs : List Char) : Break ['\r', '\n'] cs
  | lf (cs : List Char) : Break ['\n'] cs
  | cr (cs : List Char) (h : (encodeText cs).head? ≠ some lineFeed) : Break ['\r'] cs

/-- A text of printable characters and line breaks, and its lines. -/
inductive LineText : List Char → List (List Char) → Prop
  | nil : LineText [] [[]]
  | break_ {brk cs : List Char} {ls : List (List Char)} (hbrk : Break brk cs)
      (h : LineText cs ls) : LineText (brk ++ cs) ([] :: ls)
  | char {c : Char} {cs l : List Char} {ls : List (List Char)} (hc : plainChar c = true)
      (h : LineText cs (l :: ls)) : LineText (c :: cs) ((c :: l) :: ls)

def editorChar (c : Char) : Bool := plainChar c || c == '\r' || c == '\n'

section Lines

variable {c : Char} {cs l : List Char} {ls : List (List Char)}

theorem encodeText_cr (cs : List Char) : encodeText ('\r' :: cs) = carriageReturn :: encodeText cs :=
  rfl

theorem encodeText_lf (cs : List Char) : encodeText ('\n' :: cs) = lineFeed :: encodeText cs := rfl

theorem editorChar_cases (h : editorChar c = true) : plainChar c = true ∨ c = '\r' ∨ c = '\n' := by
  simpa [editorChar, or_assoc] using h

theorem plainChar_break (h : plainChar c = true) : c ≠ '\r' ∧ c ≠ '\n' := by
  constructor
  · rintro rfl
    revert h
    decide
  · rintro rfl
    revert h
    decide

theorem head_encodeText (hok : ∀ c ∈ cs, editorChar c = true) (hhead : cs.head? ≠ some '\n') :
    (encodeText cs).head? ≠ some lineFeed := by
  cases cs with
  | nil => simp [encodeText]
  | cons c cs =>
    rcases editorChar_cases (hok c List.mem_cons_self) with hc | rfl | rfl
    · obtain ⟨b, bs, hb⟩ := encodeChar_cons c
      have hle := encodeChar_bytes hc (b := b) (by rw [hb]; exact List.mem_cons_self)
      rw [encodeText_cons, hb, List.cons_append, List.head?_cons]
      intro he
      obtain rfl := Option.some.inj he
      revert hle
      decide
    · rw [encodeText_cr, List.head?_cons]
      decide
    · exact absurd rfl hhead

theorem splitOn_lf (cs : List Char) : ('\n' :: cs).splitOn '\n' = [] :: cs.splitOn '\n' := by
  rw [List.splitOn_cons_eq_if_modifyHead, if_pos (by decide)]

theorem splitOn_char (h : c ≠ '\n') (hcs : cs.splitOn '\n' = l :: ls) :
    (c :: cs).splitOn '\n' = (c :: l) :: ls := by
  rw [List.splitOn_cons_eq_if_modifyHead, if_neg (by simpa using h), hcs, List.modifyHead_cons]

theorem linesOf_lf (cs : List Char) : linesOf ('\n' :: cs) = [] :: linesOf cs := by
  have hunify : unifyBreaks '\r' '\n' ('\n' :: cs) = '\n' :: unifyBreaks '\r' '\n' cs := by
    rw [unifyBreaks, if_neg (by decide)]
  rw [linesOf, hunify, splitOn_lf, linesOf]

theorem linesOf_crlf (cs : List Char) : linesOf ('\r' :: '\n' :: cs) = [] :: linesOf cs := by
  have hunify : unifyBreaks '\r' '\n' ('\r' :: '\n' :: cs) =
      unifyBreaks '\r' '\n' ('\n' :: cs) := by
    rw [unifyBreaks, if_pos rfl, List.head?_cons, if_pos rfl]
  rw [linesOf, hunify, ← linesOf, linesOf_lf]

theorem linesOf_cr (h : cs.head? ≠ some '\n') : linesOf ('\r' :: cs) = [] :: linesOf cs := by
  have hunify : unifyBreaks '\r' '\n' ('\r' :: cs) = '\n' :: unifyBreaks '\r' '\n' cs := by
    rw [unifyBreaks, if_pos rfl, if_neg h]
  rw [linesOf, hunify, splitOn_lf, linesOf]

theorem linesOf_char (hc : plainChar c = true) (hcs : linesOf cs = l :: ls) :
    linesOf (c :: cs) = (c :: l) :: ls := by
  obtain ⟨hcr, hlf⟩ := plainChar_break hc
  have hunify : unifyBreaks '\r' '\n' (c :: cs) = c :: unifyBreaks '\r' '\n' cs := by
    rw [unifyBreaks, if_neg hcr]
  rw [linesOf, hunify]
  exact splitOn_char hlf hcs

theorem lineText_linesOf (hok : ∀ c ∈ cs, editorChar c = true) : LineText cs (linesOf cs) := by
  obtain ⟨n, hn⟩ : ∃ n, cs.length ≤ n := ⟨cs.length, le_rfl⟩
  induction n generalizing cs with
  | zero =>
    obtain rfl : cs = [] := List.eq_nil_of_length_eq_zero (by omega)
    exact .nil
  | succ n ih =>
    cases cs with
    | nil => exact .nil
    | cons c cs =>
      have hrest : ∀ d ∈ cs, editorChar d = true := fun d hd => hok d (List.mem_cons_of_mem c hd)
      have hlen : cs.length ≤ n := by simpa using hn
      rcases editorChar_cases (hok c List.mem_cons_self) with hc | rfl | rfl
      · obtain ⟨l, ls, hlines⟩ := List.exists_cons_of_ne_nil
          (List.splitOn_ne_nil '\n' (unifyBreaks '\r' '\n' cs))
        have htext := ih hrest hlen
        rw [linesOf_char hc hlines]
        rw [linesOf, hlines] at htext
        exact .char hc htext
      · by_cases hhead : cs.head? = some '\n'
        · obtain ⟨cs, rfl⟩ := List.head?_eq_some_iff.mp hhead
          have hrest' : ∀ d ∈ cs, editorChar d = true :=
            fun d hd => hrest d (List.mem_cons_of_mem _ hd)
          have hlen' : cs.length ≤ n := by
            rw [List.length_cons] at hlen
            omega
          rw [linesOf_crlf]
          exact .break_ (.crlf cs) (ih hrest' hlen')
        · rw [linesOf_cr hhead]
          exact .break_ (.cr cs (head_encodeText hrest hhead)) (ih hrest hlen)
      · rw [linesOf_lf]
        exact .break_ (.lf cs) (ih hrest hlen)

theorem LineText.ne_nil (h : LineText cs ls) : ls ≠ [] := by
  cases h with
  | nil => simp
  | break_ => simp
  | char => simp

variable {brk : List Char} {fuel : Nat} {b : UInt8}

theorem Break.bytes (h : Break brk cs) :
    lineBreak (encodeText (brk ++ cs)) = brk.length ∧
      (encodeText (brk ++ cs)).drop brk.length = encodeText cs ∧ 0 < brk.length := by
  cases h with
  | crlf => exact ⟨rfl, rfl, by decide⟩
  | lf =>
    refine ⟨?_, rfl, by decide⟩
    rw [List.singleton_append, encodeText_lf, lineBreak, if_neg (fun hcr => by cases hcr.1),
      if_pos (.inr rfl), List.length_singleton]
  | cr _ h =>
    refine ⟨?_, rfl, by decide⟩
    rw [List.singleton_append, encodeText_cr, lineBreak, if_neg (fun hcr => h hcr.2),
      if_pos (.inl rfl), List.length_singleton]

theorem Break.head (h : Break brk cs) (hfuel : (encodeText (brk ++ cs)).length ≤ fuel) :
    ∃ b input n,
    encodeText (brk ++ cs) = b :: input ∧ lineBreak (b :: input) = brk.length ∧
      (b :: input).drop brk.length = encodeText cs ∧ 0 < brk.length ∧ fuel = n + 1 ∧
      (encodeText cs).length ≤ n := by
  obtain ⟨hlen, hdrop, hpos⟩ := h.bytes
  cases htext : encodeText (brk ++ cs) with
  | nil =>
    rw [htext, lineBreak] at hlen
    omega
  | cons b input =>
    rw [htext] at hlen hdrop hfuel
    obtain ⟨n, rfl⟩ : ∃ n, fuel = n + 1 := ⟨fuel - 1, by simp at hfuel; omega⟩
    refine ⟨b, input, n, rfl, hlen, hdrop, hpos, rfl, ?_⟩
    rw [← hdrop, List.length_drop]
    omega

variable {input : List UInt8} {lines bytes : Nat} {done : List (List Char)}
  {v : Vector EditorLine textEditorMaxLines}

theorem lineBreak_plain (h : 0x20 ≤ b.toNat) : lineBreak (b :: input) = 0 := by
  have hcr : b ≠ carriageReturn := by
    rintro rfl
    revert h
    decide
  have hlf : b ≠ lineFeed := by
    rintro rfl
    revert h
    decide
  rw [lineBreak, if_neg (fun hb => hcr hb.1), if_neg (fun hb => hb.elim hcr hlf)]

/-- What the loop over the input still needs room for: the rest of the line, with `bytes` of it
read already, and the lines after it. -/
def RoomFor (lines bytes : Nat) (ls : List (List Char)) : Prop :=
  bytes + (encodeText (ls.headD [])).length < textEditorLineCapacity ∧
    (∀ l ∈ ls.tail, (encodeText l).length < textEditorLineCapacity) ∧
    lines + ls.tail.length ≤ textEditorMaxLines

theorem roomFor_break (lines : Nat) {bytes : Nat} (hls : ls ≠ [])
    (hbytes : bytes < textEditorLineCapacity) :
    RoomFor lines bytes ([] :: ls) ↔ lines ≠ textEditorMaxLines ∧ RoomFor (lines + 1) 0 ls := by
  obtain ⟨l, ls, rfl⟩ := List.exists_cons_of_ne_nil hls
  constructor
  · rintro ⟨-, hall, hroom⟩
    simp only [List.tail_cons, List.length_cons] at hall hroom
    refine ⟨by omega, ?_, fun m hm => hall m (List.mem_cons_of_mem l hm), ?_⟩
    · rw [Nat.zero_add]
      exact hall l List.mem_cons_self
    · rw [List.tail_cons]
      omega
  · rintro ⟨hne, hhead, hall, hroom⟩
    rw [Nat.zero_add] at hhead
    simp only [List.tail_cons] at hall hroom
    refine ⟨by simpa [encodeText] using hbytes, fun m hm => ?_, ?_⟩
    · rcases List.mem_cons.mp hm with rfl | hm
      · exact hhead
      · exact hall m hm
    · rw [List.tail_cons, List.length_cons]
      omega

theorem roomFor_char :
    RoomFor lines bytes ((c :: l) :: ls) ↔ RoomFor lines (bytes + c.utf8Size) (l :: ls) := by
  simp only [RoomFor, List.headD_cons, List.tail_cons, encodeText_cons, List.length_append,
    String.length_utf8EncodeChar, Nat.add_assoc]

theorem validateInputFrom_ok (h : LineText cs ls)
    (hfuel : (encodeText cs).length ≤ fuel) (hlines : lines ≤ textEditorMaxLines)
    (hbytes : bytes < textEditorLineCapacity) :
    validateInputFrom fuel (encodeText cs) lines bytes = textEditorOk ↔ RoomFor lines bytes ls := by
  induction h generalizing fuel lines bytes with
  | nil =>
    have hroom : RoomFor lines bytes [[]] := ⟨by simpa [encodeText] using hbytes, by simp, hlines⟩
    cases fuel <;> simp [validateInputFrom, encodeText, hroom]
  | @break_ brk cs ls hbrk h ih =>
    obtain ⟨b, input, fuel, hinput, hlen, hdrop, hpos, rfl, hrest⟩ := hbrk.head hfuel
    rw [hinput]
    have hexpand := roomFor_break lines h.ne_nil hbytes
    rw [validateInputFrom, hlen, if_pos (by omega), hexpand, hdrop]
    by_cases hfull : lines = textEditorMaxLines
    · rw [if_pos hfull]
      simp [hfull, textEditorEcapacity, textEditorOk]
    · rw [if_neg hfull, ih hrest (by omega) (by decide)]
      simp [hfull]
  | @char c cs l ls hc h ih =>
    obtain ⟨b, bs, hb, htext, hone, hdrop⟩ := encodeText_head c cs
    have hbyte := encodeChar_bytes hc (b := b) (by rw [hb]; exact List.mem_cons_self)
    have hsize := String.length_utf8EncodeChar c
    have hpos := c.utf8Size_pos
    have hprint : scalarPrintable c.toNat = true := hc
    rw [encodeText_cons, List.length_append, hsize] at hfuel
    obtain ⟨fuel, rfl⟩ : ∃ n, fuel = n + 1 := ⟨fuel - 1, by omega⟩
    rw [htext, validateInputFrom, lineBreak_plain hbyte, if_neg (by simp), hone, roomFor_char]
    dsimp only
    rw [if_neg (by simp [hprint]), hdrop]
    by_cases hfull : textEditorLineCapacity - bytes ≤ c.utf8Size
    · rw [if_pos hfull]
      have hno : ¬ RoomFor lines (bytes + c.utf8Size) (l :: ls) := by
        intro hroom
        have hhead := hroom.1
        omega
      simp [hno, textEditorEcapacity, textEditorOk]
    · rw [if_neg hfull]
      exact ih (by omega) hlines (by omega)

theorem lineBreak_cases (h : lineBreak (b :: input) ≠ 0) :
    (b = carriageReturn ∧ input.head? = some lineFeed ∧ lineBreak (b :: input) = 2) ∨
    (b = carriageReturn ∨ b = lineFeed) ∧ lineBreak (b :: input) = 1 := by
  rw [lineBreak] at h ⊢
  split at h
  next hcrlf => exact .inl ⟨hcrlf.1, hcrlf.2, by rw [if_pos hcrlf]⟩
  next hcrlf =>
    rw [if_neg hcrlf]
    split at h
    next hone => exact .inr ⟨hone, by rw [if_pos hone]⟩
    next => exact absurd rfl h

theorem validateInputFrom_text (h : validateInputFrom fuel input lines bytes = textEditorOk) :
    ∃ cs, input = encodeText cs ∧ ∀ c ∈ cs, editorChar c = true := by
  induction fuel generalizing input lines bytes with
  | zero =>
    cases input with
    | nil => exact ⟨[], rfl, by simp⟩
    | cons b input => simp [validateInputFrom, textEditorEinval, textEditorOk] at h
  | succ fuel ih =>
    cases input with
    | nil => exact ⟨[], rfl, by simp⟩
    | cons b input =>
      rw [validateInputFrom] at h
      split at h
      next hbreak =>
        split at h
        next => simp [textEditorEcapacity, textEditorOk] at h
        next =>
          obtain ⟨cs, hcs, hok⟩ := ih h
          rcases lineBreak_cases hbreak with ⟨rfl, hhead, htwo⟩ | ⟨hone, hlen⟩
          · obtain ⟨rest, rfl⟩ := List.head?_eq_some_iff.mp hhead
            rw [htwo, List.drop_succ_cons, List.drop_succ_cons, List.drop_zero] at hcs
            refine ⟨'\r' :: '\n' :: cs, by rw [encodeText_cr, encodeText_lf, hcs], ?_⟩
            intro c hc
            rcases List.mem_cons.mp hc with rfl | hc
            · decide
            · rcases List.mem_cons.mp hc with rfl | hc
              · decide
              · exact hok c hc
          · rw [hlen, List.drop_succ_cons, List.drop_zero] at hcs
            rcases hone with rfl | rfl
            · refine ⟨'\r' :: cs, by rw [encodeText_cr, hcs], ?_⟩
              intro c hc
              rcases List.mem_cons.mp hc with rfl | hc
              · decide
              · exact hok c hc
            · refine ⟨'\n' :: cs, by rw [encodeText_lf, hcs], ?_⟩
              intro c hc
              rcases List.mem_cons.mp hc with rfl | hc
              · decide
              · exact hok c hc
      next =>
        split at h
        next => simp [textEditorEinval, textEditorOk] at h
        next consumed scalar hone =>
          obtain ⟨c, rest, hinput, rfl, rfl⟩ := decodeOne_some hone
          split at h
          next => simp [textEditorEinval, textEditorOk] at h
          next hprint =>
            split at h
            next => simp [textEditorEcapacity, textEditorOk] at h
            next =>
              rw [hinput, drop_encodeChar] at h
              obtain ⟨cs, rfl, hok⟩ := ih h
              refine ⟨c :: cs, by rw [hinput, encodeText_cons], ?_⟩
              intro d hd
              rcases List.mem_cons.mp hd with rfl | hd
              · have hplain : plainChar d = true := not_not.mp hprint
                rw [editorChar, hplain]
                rfl
              · exact hok d hd

/-- These lines are written, and these bytes of the line after them. -/
structure Filled (v : Vector EditorLine textEditorMaxLines) (done : List (List Char))
    (bytes : List UInt8) : Prop where
  above : Holds HoldsLine v 0 done
  front : Holds Eq (cell v done.length) 0 bytes
  line_lt : done.length < textEditorMaxLines

theorem Filled.byte {bytes : List UInt8} (h : Filled v done bytes) (b : UInt8)
    (hlen : bytes.length < textEditorLineCapacity) :
    Filled (setCell v done.length (setCell (cell v done.length) bytes.length b)) done
      (bytes ++ [b]) := by
  refine ⟨h.above.setCell_outside (.inr (by omega)), ?_, h.line_lt⟩
  rw [cell_setCell_self h.line_lt]
  refine holds_append.mpr ⟨h.front.setCell_outside (.inr (by omega)),
    holds_cons.mpr ⟨?_, Holds.nil⟩⟩
  rw [Nat.zero_add, cell_setCell_self hlen]

theorem fillLines_bytes
    {bytes more : List UInt8} (rest : List UInt8) (fuel : Nat) (h : Filled v done bytes)
    (hplain : ∀ b ∈ more, 0x20 ≤ b.toNat)
    (hroom : bytes.length + more.length < textEditorLineCapacity) :
    ∃ v', fillLines (more.length + fuel) (more ++ rest) v done.length bytes.length =
        fillLines fuel rest v' done.length (bytes ++ more).length ∧
      Filled v' done (bytes ++ more) := by
  induction more generalizing v bytes with
  | nil => exact ⟨v, by simp, by simpa using h⟩
  | cons b more ih =>
    rw [List.length_cons] at hroom
    have hnext := h.byte b (by omega)
    have hmore : ∀ d ∈ more, 0x20 ≤ d.toNat := fun d hd => hplain d (List.mem_cons_of_mem b hd)
    have hlen : (bytes ++ [b]).length + more.length < textEditorLineCapacity := by
      rw [List.length_append, List.length_singleton]
      omega
    obtain ⟨v', hrun, hfilled⟩ := ih hnext hmore hlen
    rw [List.append_assoc, List.singleton_append] at hrun hfilled
    have hplus : (b :: more).length + fuel = more.length + fuel + 1 := by
      rw [List.length_cons]
      omega
    refine ⟨v', ?_, hfilled⟩
    rw [hplus, List.cons_append, fillLines, lineBreak_plain (hplain b List.mem_cons_self),
      if_neg (by simp)]
    rw [← hrun, List.length_append, List.length_singleton]

theorem Filled.ended
    {l : List Char} (h : Filled v done (encodeText l)) (hplain : ∀ c ∈ l, plainChar c = true)
    (hfits : (encodeText l).length < textEditorLineCapacity) :
    Holds HoldsLine (setCell v done.length (setCell (cell v done.length) (encodeText l).length 0)) 0
      (done ++ [l]) := by
  have hbyte := h.byte 0 hfits
  refine holds_append.mpr ⟨hbyte.above, holds_cons.mpr ⟨⟨hplain, hfits, ?_⟩, Holds.nil⟩⟩
  rw [Nat.zero_add]
  exact hbyte.front

theorem fillLines_holds
    {cur : List Char} (h : LineText cs ls) (hfilled : Filled v done (encodeText cur))
    (hcur : ∀ c ∈ cur, plainChar c = true)
    (hroom : RoomFor (done.length + 1) (encodeText cur).length ls)
    (hfuel : (encodeText cs).length ≤ fuel) :
    ∃ v', fillLines fuel (encodeText cs) v done.length (encodeText cur).length =
        (v', done.length + ls.tail.length) ∧
      Holds HoldsLine v' 0 (done ++ (cur ++ ls.headD []) :: ls.tail) := by
  have hcurFits : (encodeText cur).length < textEditorLineCapacity := by
    have hhead := hroom.1
    omega
  induction h generalizing v done cur fuel with
  | nil =>
    have hended := hfilled.ended hcur hcurFits
    refine ⟨_, ?_, by simpa using hended⟩
    cases fuel <;> rfl
  | @break_ brk cs ls hbrk h ih =>
    obtain ⟨b, input, fuel, hinput, hlen, hdrop, hpos, rfl, hrest⟩ := hbrk.head hfuel
    rw [hinput]
    have hline := hfilled.line_lt
    obtain ⟨hmore, hnextRoom⟩ := (roomFor_break _ h.ne_nil hcurFits).mp hroom
    have hnextLen : (done ++ [cur]).length = done.length + 1 := by simp
    have hnext : Filled (setCell v done.length
        (setCell (cell v done.length) (encodeText cur).length 0)) (done ++ [cur])
        (encodeText []) := by
      refine ⟨hfilled.ended hcur hcurFits, ?_, by omega⟩
      exact Holds.nil
    rw [← hnextLen] at hnextRoom
    obtain ⟨v', hrun, hholds⟩ := ih hnext (by simp) hnextRoom hrest (by decide)
    obtain ⟨l, ls, rfl⟩ := List.exists_cons_of_ne_nil h.ne_nil
    refine ⟨v', ?_, by simpa using hholds⟩
    rw [fillLines, hlen, if_pos (by omega), hdrop]
    rw [hnextLen] at hrun
    rw [show (0 : Nat) = (encodeText []).length from rfl, hrun]
    simp
    omega
  | @char c cs l ls hc h ih =>
    have hbytes : ∀ b ∈ String.utf8EncodeChar c, 0x20 ≤ b.toNat := fun b hb =>
      encodeChar_bytes hc hb
    have hsize := String.length_utf8EncodeChar c
    rw [roomFor_char] at hroom
    have hhead := hroom.1
    rw [encodeText_cons, List.length_append] at hfuel
    obtain ⟨extra, rfl⟩ : ∃ n, fuel = (String.utf8EncodeChar c).length + n :=
      ⟨fuel - (String.utf8EncodeChar c).length, by omega⟩
    obtain ⟨v1, hfirst, hnext⟩ := fillLines_bytes (encodeText cs) extra hfilled hbytes
      (by omega)
    have htext : encodeText (cur ++ [c]) = encodeText cur ++ String.utf8EncodeChar c := by
      rw [encodeText_append, encodeText_singleton]
    have hnextLen : (encodeText (cur ++ [c])).length = (encodeText cur).length + c.utf8Size := by
      rw [htext, List.length_append, hsize]
    have hplain : ∀ d ∈ cur ++ [c], plainChar d = true := by
      intro d hd
      rcases List.mem_append.mp hd with hd | hd
      · exact hcur d hd
      · rw [List.mem_singleton.mp hd]
        exact hc
    rw [← htext] at hfirst hnext
    rw [← hnextLen] at hroom
    have hextra : (encodeText cs).length ≤ extra := by omega
    obtain ⟨v', hrun, hholds⟩ := ih hnext hplain hroom hextra (by omega)
    refine ⟨v', ?_, by simpa using hholds⟩
    rw [encodeText_cons, hfirst, hrun]
    simp

end Lines

variable {s : TextEditorState} {c : TextCursor Char} {text : List UInt8}

theorem validateInputText_ok (chars : List Char) (hok : ∀ c ∈ chars, editorChar c = true) :
    validateInputText (some (encodeText chars)) = textEditorOk ↔
      linesFit (linesOf chars) = true := by
  have hlines := lineText_linesOf hok
  obtain ⟨l, ls, hcons⟩ := List.exists_cons_of_ne_nil hlines.ne_nil
  have hcapacity : 0 < textEditorLineCapacity := by decide
  have hmax : 1 ≤ textEditorMaxLines := by decide
  rw [validateInputText, validateInputFrom_ok hlines le_rfl hmax hcapacity, hcons]
  simp [RoomFor, linesFit, Nat.add_comm]
  tauto

theorem validateInputText_iff :
    validateInputText (some text) = textEditorOk ↔
      ∃ chars, text = encodeText chars ∧ (∀ c ∈ chars, editorChar c = true) ∧
        linesFit (linesOf chars) = true := by
  constructor
  · intro h
    obtain ⟨chars, rfl, hok⟩ := validateInputFrom_text h
    exact ⟨chars, rfl, hok, (validateInputText_ok chars hok).mp h⟩
  · rintro ⟨chars, rfl, hok, hfit⟩
    exact (validateInputText_ok chars hok).mpr hfit

theorem filled_linesOf {chars : List Char} (hok : ∀ c ∈ chars, editorChar c = true)
    (hfit : linesFit (linesOf chars) = true) :
    ∃ v, fillLines (encodeText chars).length (encodeText chars) textEditorStateInitialize.lines
        0 0 = (v, (linesOf chars).length - 1) ∧ Holds HoldsLine v 0 (linesOf chars) := by
  have hlines := lineText_linesOf hok
  obtain ⟨l, ls, hcons⟩ := List.exists_cons_of_ne_nil hlines.ne_nil
  have hstart : Filled textEditorStateInitialize.lines [] (encodeText []) :=
    ⟨Holds.nil, Holds.nil, by decide⟩
  have hroom : RoomFor (([] : List (List Char)).length + 1) (encodeText []).length
      (linesOf chars) := by
    have hcapacity : 0 < textEditorLineCapacity := by decide
    have hmax : 1 ≤ textEditorMaxLines := by decide
    exact (validateInputFrom_ok hlines le_rfl hmax hcapacity).mp
      ((validateInputText_ok chars hok).mpr hfit)
  obtain ⟨v, hrun, hholds⟩ := fillLines_holds hlines hstart (by simp) hroom le_rfl
  have hempty : (encodeText []).length = 0 := rfl
  refine ⟨v, ?_, ?_⟩
  · rw [hcons, hempty] at hrun
    rw [hcons]
    simpa using hrun
  · rw [hcons] at hholds ⊢
    simpa using hholds

end ReistOs
