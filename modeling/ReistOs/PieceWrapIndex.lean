import ReistOs.PieceDocumentGuarantees
import ReistOs.Utf

/-! The index of wrapped rows of `userspace/gui/lib/piece_document.c`. The rows are the used part of
the tables of row offsets and hard starts. -/

namespace ReistOs.Pieces

open Relation

/-- `sizeof(reist_gui_piece_wrap_index_t)` -/
def pieceWrapIndexSize : UInt32 := 67620
def pieceWrapIndexCapacity : Nat := 16384
def pieceWrapRowByteCapacity : Nat := 256

structure WrapRow where
  offset : Nat
  hard : Bool
  deriving DecidableEq

/-- The fields of the index that the loop over the bytes works on. -/
structure WrapScan where
  columns : Nat
  documentSize : Nat
  currentColumn : Nat
  currentRowBytes : Nat
  rows : List WrapRow

/-- `reist_gui_piece_wrap_index_t` -/
structure PieceWrapIndex extends WrapScan where
  apiVersion : UInt32
  structSize : UInt32
  scannedOffset : Nat
  complete : Bool

def rowOffset (rows : List WrapRow) (row : Nat) : Nat := rows[row]?.elim 0 WrapRow.offset

def wrapIndexValid (index : PieceWrapIndex) : Bool :=
  index.apiVersion == pieceDocumentApiVersion && index.structSize == pieceWrapIndexSize &&
    index.columns != 0 && index.rows.length != 0 &&
    decide (index.rows.length ≤ pieceWrapIndexCapacity) &&
    decide (index.scannedOffset ≤ index.documentSize) && rowOffset index.rows 0 == 0

section Scan

variable (w : WrapScan) (offset : Nat)

def WrapScan.lastOffset : Nat := w.rows.getLast?.elim 0 WrapRow.offset

def wrapAppendRow (hard : Bool) : Except PieceError WrapScan :=
  if w.rows.length = pieceWrapIndexCapacity then .error .ecapacity
  else if offset < w.lastOffset ∨ w.documentSize < offset then .error .einval
  else .ok { w with rows := w.rows ++ [⟨offset, hard⟩] }

def wrapNewRow (hard : Bool) : Except PieceError WrapScan :=
  (wrapAppendRow w offset hard).map fun w => { w with currentColumn := 0, currentRowBytes := 0 }

/-- The current row has no room for a scalar of this many bytes. -/
def WrapScan.Full (consumed : Nat) : Prop :=
  w.currentColumn = w.columns ∨ pieceWrapRowByteCapacity - w.currentRowBytes ≤ consumed

instance (consumed : Nat) : Decidable (w.Full consumed) := by unfold WrapScan.Full; infer_instance

def WrapScan.addScalar (consumed : Nat) : WrapScan :=
  { w with
    currentColumn := w.currentColumn + 1
    currentRowBytes := w.currentRowBytes + consumed }

def wrapScalar (consumed : Nat) : Except PieceError WrapScan :=
  (if w.Full consumed then wrapNewRow w offset false else .ok w).map fun w => w.addScalar consumed

/-- `newline_bytes` -/
def lineBreak : Bytes → Nat
  | [] => 0
  | b :: rest => if b = 13 then (if rest.head? = some 10 then 2 else 1) else if b = 10 then 1 else 0

/-- The size of the line break or of the scalar that the bytes start with, and whether it is a line
break. -/
def wrapToken (rest : Bytes) : Option (Nat × Bool) :=
  if lineBreak rest ≠ 0 then some (lineBreak rest, true)
  else
    match reistUtf8DecodeOne rest with
    | none => none
    | some (consumed, scalar) =>
      if scalar < 0x20 ∨ (0x7F ≤ scalar ∧ scalar ≤ 0x9F) then none else some (consumed, false)

def wrapAdd (token : Nat × Bool) : Except PieceError WrapScan :=
  if token.2 then wrapNewRow w (offset + token.1) true else wrapScalar w offset token.1

/-- What the rest of the buffer starts with may go on behind it. -/
def wrapAwaits (rest : Bytes) : Prop :=
  (rest = [13] ∧ offset + 1 < w.documentSize) ∨
    (lineBreak rest = 0 ∧ reistUtf8DecodeOne rest = none ∧ rest.length < 4 ∧
      offset + rest.length < w.documentSize)

instance (rest : Bytes) : Decidable (wrapAwaits w offset rest) := by
  unfold wrapAwaits
  infer_instance

end Scan

/-- The loop of `reist_gui_piece_wrap_index_advance` over the rest of the buffer. -/
def wrapLoop (base : Nat) : Nat → Bytes → Nat → WrapScan → Except PieceError Nat × WrapScan
  | 0, _, used, w => (.ok used, w)
  | fuel + 1, rest, used, w =>
    if rest = [] ∨ wrapAwaits w (base + used) rest then (.ok used, w)
    else
      match wrapToken rest with
      | none => (.error .einval, w)
      | some token =>
        match wrapAdd w (base + used) token with
        | .error e => (.error e, w)
        | .ok w => wrapLoop base fuel (rest.drop token.1) (used + token.1) w

def wrapStart (columns documentSize : Nat) : WrapScan := ⟨columns, documentSize, 0, 0, [⟨0, true⟩]⟩

def wrapIndexInitialize (columns documentSize : Nat) : PieceWrapIndex :=
  { wrapStart columns documentSize with
    apiVersion := pieceDocumentApiVersion
    structSize := pieceWrapIndexSize
    scannedOffset := 0
    complete := documentSize == 0 }

section Advance

variable (readOriginal : ReadOriginal) (d : PieceDocument)

def wrapIndexAdvance (index : PieceWrapIndex) (byteBudget : Nat) :
    Except PieceError Bool × PieceWrapIndex :=
  if !valid d || !wrapIndexValid index || decide (byteBudget < 4) || index.documentSize != d.size then
    (.error .einval, index)
  else if index.complete then (.ok true, index)
  else
    let amount := min (min (index.documentSize - index.scannedOffset) pieceIoCapacity) byteBudget
    match pieceDocumentRead readOriginal d index.scannedOffset amount with
    | .error _ => (.error .eio, index)
    | .ok buffer =>
      match wrapLoop index.scannedOffset amount buffer 0 index.toWrapScan with
      | (.error e, w) => (.error e, { index with toWrapScan := w })
      | (.ok used, w) =>
        if used = 0 then (.error .einval, { index with toWrapScan := w })
        else
          let complete := index.scannedOffset + used == w.documentSize
          (.ok complete, { index with
            toWrapScan := w
            scannedOffset := index.scannedOffset + used
            complete := complete })

def wrapAdvances (budgets : List Nat) (index : PieceWrapIndex) : PieceWrapIndex :=
  budgets.foldl (fun index byteBudget => (wrapIndexAdvance readOriginal d index byteBudget).2) index

end Advance

/-- The binary search; `fuel` bounds its turns. -/
def rowSearch (rows : List WrapRow) (byteOffset : Nat) : Nat → Nat → Nat → Nat
  | 0, low, _ => low
  | fuel + 1, low, high =>
    if low + 1 < high then
      let middle := low + (high - low) / 2
      if rowOffset rows middle ≤ byteOffset then rowSearch rows byteOffset fuel middle high
      else rowSearch rows byteOffset fuel low middle
    else low

def rowForOffset (index : PieceWrapIndex) (byteOffset : Nat) : Nat :=
  if !wrapIndexValid index || !index.complete || decide (index.documentSize < byteOffset) then uint32Max
  else rowSearch index.rows byteOffset index.rows.length 0 index.rows.length

/-- The last row up to this one that starts behind a line break. -/
def hardRow (rows : List WrapRow) : Nat → Nat
  | 0 => 0
  | row + 1 => if rows[row + 1]?.elim false WrapRow.hard then row + 1 else hardRow rows row

def wrapIndexInvalidate (index : PieceWrapIndex) (byteOffset documentSize : Nat) :
    Except PieceError Unit × PieceWrapIndex :=
  if !wrapIndexValid index || !index.complete || decide (index.documentSize < byteOffset) then
    (.error .einval, index)
  else if rowForOffset index byteOffset = uint32Max then (.error .einval, index)
  else
    let row := hardRow index.rows (rowForOffset index byteOffset)
    let scannedOffset := rowOffset index.rows row
    (.ok (), { index with
      rows := index.rows.take (row + 1)
      scannedOffset := scannedOffset
      currentColumn := 0
      currentRowBytes := 0
      documentSize := documentSize
      complete := scannedOffset == documentSize })

variable {text : Bytes} {w w' : WrapScan} {t : Nat × Bool} {s s' : Nat × WrapScan} {p q : Nat}

def wrapPass (text : Bytes) : Nat → Nat → WrapScan → Option WrapScan
  | 0, p, w => if p = text.length then some w else none
  | fuel + 1, p, w =>
    if p = text.length then some w
    else
      match wrapToken (text.drop p) with
      | none => none
      | some t =>
        match wrapAdd w p t with
        | .error _ => none
        | .ok w => wrapPass text fuel (p + t.1) w

def WrapStep (text : Bytes) (s s' : Nat × WrapScan) : Prop :=
  ∃ t, wrapToken (text.drop s.1) = some t ∧ wrapAdd s.2 s.1 t = .ok s'.2 ∧ s'.1 = s.1 + t.1

abbrev WrapSteps (text : Bytes) : Nat × WrapScan → Nat × WrapScan → Prop :=
  ReflTransGen (WrapStep text)

variable {a b : Bytes} {m : Nat}

theorem decodeOne_agree {n scalar : Nat} (hagree : a.take m = b.take m)
    (h : reistUtf8DecodeOne a = some (n, scalar)) (hm : n ≤ m) :
    0 < n ∧ n ≤ 4 ∧ n ≤ a.length ∧ reistUtf8DecodeOne b = some (n, scalar) := by
  obtain ⟨c, tail, rfl, rfl, rfl⟩ := decodeOne_some h
  have hsize : (String.utf8EncodeChar c).length = c.utf8Size := String.length_utf8EncodeChar c
  have hb : b = String.utf8EncodeChar c ++ b.drop c.utf8Size := by
    have htake := congrArg (List.take c.utf8Size) hagree
    rw [List.take_take, List.take_take, Nat.min_eq_left hm, List.take_append_of_le_length (by omega),
      ← hsize, List.take_length, hsize] at htake
    rw [htake, List.take_append_drop]
  refine ⟨c.utf8Size_pos, c.utf8Size_le_four, ?_, ?_⟩
  · rw [List.length_append]
    omega
  · rw [hb]
    exact decodeOne_encode c _

theorem lineBreak_le (rest : Bytes) : lineBreak rest ≤ 2 ∧ lineBreak rest ≤ rest.length := by
  rcases rest with _ | ⟨b, _ | ⟨b', rest⟩⟩
  · exact ⟨Nat.zero_le _, Nat.le_refl _⟩
  all_goals
    simp only [lineBreak, List.length_cons, List.length_nil]
    split_ifs <;> simp_all

theorem lineBreak_agree (hagree : a.take m = b.take m) (hm : 0 < m) (hfits : lineBreak a ≤ m)
    (hcr : ¬(m = 1 ∧ a.head? = some 13 ∧ b[1]? = some 10)) :
    lineBreak b = lineBreak a := by
  obtain ⟨m, rfl⟩ := Nat.exists_eq_add_one.mpr hm
  rcases a with _ | ⟨x, a⟩ <;> rcases b with _ | ⟨y, b⟩
  · rfl
  · simp at hagree
  · simp at hagree
  · simp only [List.take_succ_cons, List.cons.injEq] at hagree
    obtain ⟨rfl, hagree⟩ := hagree
    simp only [lineBreak] at hfits ⊢
    by_cases hx : x = 13
    · have hhead : 0 < m → b.head? = a.head? := by
        intro hpos
        have := congrArg List.head? hagree
        rw [List.head?_take, List.head?_take, if_neg (by omega), if_neg (by omega)] at this
        exact this.symm
      by_cases hpos : 0 < m
      · rw [hhead hpos]
      · have hzero : m = 0 := by omega
        subst hzero hx
        have hb : b.head? ≠ some 10 := by
          intro h10
          rw [List.head?_eq_getElem?] at h10
          exact hcr ⟨rfl, rfl, h10⟩
        rw [if_pos rfl] at hfits
        split at hfits
        next => omega
        next ha => rw [if_neg ha, if_neg hb]
    · rw [if_neg hx, if_neg hx]

theorem wrapToken_agree (hagree : a.take m = b.take m) (h : wrapToken a = some t) (hm : t.1 ≤ m)
    (hcr : ¬(m = 1 ∧ a.head? = some 13 ∧ b[1]? = some 10)) :
    0 < t.1 ∧ t.1 ≤ 4 ∧ t.1 ≤ a.length ∧ wrapToken b = some t := by
  have hle := lineBreak_le a
  unfold wrapToken at h ⊢
  split at h
  next hbreak =>
    cases h
    have hsame := lineBreak_agree hagree (by omega) hm hcr
    rw [hsame, if_pos hbreak]
    exact ⟨by omega, by omega, hle.2, rfl⟩
  next hbreak =>
    split at h
    next => cases h
    next consumed scalar hdecode =>
      split at h
      next => cases h
      next hprintable =>
        cases h
        obtain ⟨hpos, hfour, hlength, hb⟩ := decodeOne_agree hagree hdecode hm
        have hsame := lineBreak_agree hagree (by omega) (by omega) hcr
        rw [hsame, if_neg hbreak, hb]
        exact ⟨hpos, hfour, hlength, if_neg hprintable⟩

theorem wrapToken_bounds {rest : Bytes} (h : wrapToken rest = some t) :
    0 < t.1 ∧ t.1 ≤ 4 ∧ t.1 ≤ rest.length := by
  obtain ⟨hpos, hfour, hlength, -⟩ :=
    wrapToken_agree (m := t.1 + 2) (b := rest) rfl h (by omega) (fun hlone => by omega)
  exact ⟨hpos, hfour, hlength⟩

end ReistOs.Pieces
