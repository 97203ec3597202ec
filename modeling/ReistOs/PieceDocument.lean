import Mathlib.Tactic

/-! The piece table of `userspace/gui/lib/piece_document.c`. The lists are the used parts of the
arrays; `valid` keeps every sum below 2^32. -/

namespace ReistOs.Pieces

abbrev Bytes := List UInt8

def pieceDocumentApiVersion : UInt32 := 1
/-- `sizeof(reist_gui_piece_document_t)` -/
def pieceDocumentSize : UInt32 := 68644
def pieceCapacity : Nat := 256
def pieceAddedCapacity : Nat := 65536
def pieceIoCapacity : Nat := 4096
def uint32Max : Nat := 0xFFFFFFFF
def pieceOriginal : UInt32 := 1
def pieceAdded : UInt32 := 2

inductive PieceError
  | einval
  | eio
  | ecapacity
  deriving DecidableEq

/-- `reist_gui_piece_t` -/
structure Piece where
  source : UInt32
  offset : Nat
  length : Nat
  deriving DecidableEq

/-- `reist_gui_piece_document_t` -/
structure PieceDocument where
  apiVersion : UInt32
  structSize : UInt32
  size : Nat
  originalSize : UInt32
  modified : Bool
  pieces : List Piece
  added : Bytes
  deriving DecidableEq

/-- `read_original` with its context: the bytes at an offset, or a failure. -/
abbrev ReadOriginal := Nat → Nat → Option Bytes

def Piece.inBounds (d : PieceDocument) (p : Piece) : Bool :=
  let bound := if p.source = pieceOriginal then d.originalSize.toNat else d.added.length
  !((p.source != pieceOriginal && p.source != pieceAdded) || p.length == 0 ||
    decide (bound < p.offset) || decide (bound - p.offset < p.length))

/-- The loop of `valid`, from a total on. -/
def totalFrom (d : PieceDocument) : List Piece → Nat → Option Nat
  | [], total => some total
  | p :: ps, total =>
    if !p.inBounds d || decide (uint32Max - total < p.length) then none
    else totalFrom d ps (total + p.length)

def valid (d : PieceDocument) : Bool :=
  d.apiVersion == pieceDocumentApiVersion && d.structSize == pieceDocumentSize &&
    decide (d.pieces.length ≤ pieceCapacity) && decide (d.added.length ≤ pieceAddedCapacity) &&
    totalFrom d d.pieces 0 == some d.size

def pieceDocumentOpen (originalSize : UInt32) : PieceDocument where
  apiVersion := pieceDocumentApiVersion
  structSize := pieceDocumentSize
  size := originalSize.toNat
  originalSize := originalSize
  modified := false
  pieces := if originalSize ≠ 0 then [⟨pieceOriginal, 0, originalSize.toNat⟩] else []
  added := []

section Reads

variable (readOriginal : ReadOriginal)

def addedBytes (d : PieceDocument) (offset amount : Nat) : Bytes := (d.added.drop offset).take amount

def fetch (d : PieceDocument) (p : Piece) (within amount : Nat) : Option Bytes :=
  if p.source = pieceAdded then some (addedBytes d (p.offset + within) amount)
  else readOriginal (p.offset + within) amount

def readFrom (d : PieceDocument) (size : Nat) :
    List Piece → Nat → Nat → Bytes → Except PieceError Bytes
  | [], _, _, output => if output.length = size then .ok output else .error .eio
  | p :: ps, logical, offset, output =>
    if ¬ output.length < size then (if output.length = size then .ok output else .error .eio)
    else if logical + p.length ≤ offset then readFrom d size ps (logical + p.length) offset output
    else
      let within := if logical < offset then offset - logical else 0
      let amount := min (p.length - within) (size - output.length)
      match fetch readOriginal d p within amount with
      | none => .error .eio
      | some bytes =>
        readFrom d size ps (logical + p.length) (offset + amount) (output ++ bytes)

def pieceDocumentRead (d : PieceDocument) (offset size : Nat) : Except PieceError Bytes :=
  if !valid d || decide (d.size < offset) || decide (d.size - offset < size) then .error .einval
  else readFrom readOriginal d size d.pieces 0 offset []

variable {σ : Type} (writeBytes : σ → Bytes → Bool × σ)

def streamPiece (d : PieceDocument) (p : Piece) (done : Nat) (s : σ) :
    Except PieceError Unit × σ :=
  if done < p.length then
    let amount := min (p.length - done) pieceIoCapacity
    match fetch readOriginal d p done amount with
    | none => (.error .eio, s)
    | some bytes =>
      match writeBytes s bytes with
      | (false, s) => (.error .eio, s)
      | (true, s) => streamPiece d p (done + amount) s
  else (.ok (), s)
termination_by p.length - done
decreasing_by
  have hpositive : 0 < min (p.length - done) pieceIoCapacity := by
    unfold pieceIoCapacity
    omega
  omega

def streamPieces (d : PieceDocument) : List Piece → σ → Except PieceError Unit × σ
  | [], s => (.ok (), s)
  | p :: ps, s =>
    match streamPiece readOriginal writeBytes d p 0 s with
    | (.error e, s) => (.error e, s)
    | (.ok (), s) => streamPieces d ps s

def pieceDocumentStream (d : PieceDocument) (s : σ) : Except PieceError Unit × σ :=
  if !valid d then (.error .einval, s) else streamPieces readOriginal writeBytes d d.pieces s

end Reads

/-- Adds a piece behind the others, joined to the last one where it goes on from it. -/
def append (pieces : List Piece) (source : UInt32) (offset length : Nat) : Option (List Piece) :=
  if length = 0 then some pieces
  else
    match pieces.getLast? with
    | some last =>
      if last.source = source ∧ last.offset + last.length = offset then
        if uint32Max - last.length < length then none
        else some (pieces.dropLast ++ [{ last with length := last.length + length }])
      else if pieces.length = pieceCapacity then none
      else some (pieces ++ [⟨source, offset, length⟩])
    | none => if pieces.length = pieceCapacity then none else some (pieces ++ [⟨source, offset, length⟩])

def appendAll : List Piece → List Piece → Option (List Piece)
  | [], next => some next
  | p :: ps, next => (append next p.source p.offset p.length).bind (appendAll ps)

def insertFrom (d : PieceDocument) (offset size : Nat) :
    List Piece → List Piece → Nat → Option (List Piece)
  | [], next, _ => if offset = d.size then append next pieceAdded d.added.length size else none
  | p :: ps, next, logical =>
    if logical ≤ offset ∧ offset ≤ logical + p.length then
      let left := offset - logical
      (append next p.source p.offset left).bind fun next =>
        (append next pieceAdded d.added.length size).bind fun next =>
          (append next p.source (p.offset + left) (p.length - left)).bind (appendAll ps)
    else
      (append next p.source p.offset p.length).bind fun next =>
        insertFrom d offset size ps next (logical + p.length)

def pieceDocumentInsert (d : PieceDocument) (offset : Nat) (data : Bytes) :
    Except PieceError Unit × PieceDocument :=
  if !valid d || decide (d.size < offset) then (.error .einval, d)
  else if data.length = 0 then (.ok (), d)
  else if pieceAddedCapacity - d.added.length < data.length ∨
      uint32Max - d.size < data.length then (.error .ecapacity, d)
  else
    match insertFrom d offset data.length d.pieces [] 0 with
    | none => (.error .ecapacity, d)
    | some next =>
      (.ok (), { d with
        added := d.added ++ data
        pieces := next
        size := d.size + data.length
        modified := true })

def eraseFrom (offset stop : Nat) : List Piece → List Piece → Nat → Option (List Piece)
  | [], next, _ => some next
  | p :: ps, next, logical =>
    let pieceEnd := logical + p.length
    (if logical < offset then
        append next p.source p.offset (if offset < pieceEnd then offset - logical else p.length)
      else some next).bind fun next =>
    (if stop < pieceEnd then
        let skip := if logical < stop then stop - logical else 0
        append next p.source (p.offset + skip) (p.length - skip)
      else some next).bind fun next =>
    eraseFrom offset stop ps next pieceEnd

def pieceDocumentErase (d : PieceDocument) (offset size : Nat) :
    Except PieceError Unit × PieceDocument :=
  if !valid d || decide (d.size < offset) || decide (d.size - offset < size) then
    (.error .einval, d)
  else if size = 0 then (.ok (), d)
  else
    match eraseFrom offset (offset + size) d.pieces [] 0 with
    | none => (.error .ecapacity, d)
    | some next => (.ok (), { d with pieces := next, size := d.size - size, modified := true })

inductive PieceEdit
  | insert (offset : Nat) (data : Bytes)
  | erase (offset size : Nat)

def PieceEdit.apply (d : PieceDocument) : PieceEdit → Except PieceError Unit × PieceDocument
  | .insert offset data => pieceDocumentInsert d offset data
  | .erase offset size => pieceDocumentErase d offset size

def PieceEdit.onList (bytes : Bytes) : PieceEdit → Bytes
  | .insert offset data => bytes.take offset ++ data ++ bytes.drop offset
  | .erase offset size => bytes.take offset ++ bytes.drop (offset + size)

def PieceEdit.InRange (size : Nat) : PieceEdit → Prop
  | .insert offset _ => offset ≤ size
  | .erase offset amount => offset + amount ≤ size

def PieceEdit.HasRoom (d : PieceDocument) : PieceEdit → Prop
  | .insert _ data => d.added.length + data.length ≤ pieceAddedCapacity ∧
      d.size + data.length ≤ uint32Max ∧ d.pieces.length + 2 ≤ pieceCapacity
  | .erase _ _ => d.pieces.length + 1 ≤ pieceCapacity

def edited (d : PieceDocument) (edits : List PieceEdit) : PieceDocument :=
  edits.foldl (fun d edit => (edit.apply d).2) d

/-- The list after those of the edits that succeed on the document. -/
def listEdited : PieceDocument → Bytes → List PieceEdit → Bytes
  | _, bytes, [] => bytes
  | d, bytes, edit :: edits =>
    listEdited (edit.apply d).2
      (if (edit.apply d).1 = .ok () then edit.onList bytes else bytes) edits

end ReistOs.Pieces
