import ReistOs.Utf16
import ReistOs.LittleEndian
import ReistOs.FixedArray

/-! Long names in FAT32 directories: the slots of `fat32_dir.c` and the reader of `fat32_files.c`. A
name is its bytes in front of the terminator. -/

namespace ReistOs.LongNames

open LittleEndian FixedArray

abbrev Bytes := List UInt8

abbrev DirEntry := Vector UInt8 32

def maxPathLength : Nat := 256
def fat32MaxLfnChars : Nat := 255
def fat32LfnCharsPerEntry : Nat := 13
def fat32MaxLfnEntries : Nat := 20
def attrLongName : UInt8 := 0x0F

section Fields

variable (e : DirEntry)

def DirEntry.shortName : Bytes := slice e 0 11
def DirEntry.attr : UInt8 := byte e 11
def DirEntry.ntRes : UInt8 := byte e 12
def DirEntry.order : UInt8 := byte e 0
def DirEntry.type : UInt8 := byte e 12
def DirEntry.checksum : UInt8 := byte e 13
def DirEntry.firstClusterLow : UInt16 := get16 e 26

/-- Where a character of a slot lies: in `name1`, `name2` or `name3`. -/
def charOffset (index : Nat) : Nat :=
  if index < 5 then 1 + 2 * index else if index < 11 then 14 + 2 * (index - 5)
  else 28 + 2 * (index - 11)

def fat32LfnCharacter (index : Nat) : UInt16 := get16 e (charOffset index)

def fat32SetLfnCharacter (index : Nat) (value : UInt16) : DirEntry := put16 e (charOffset index) value

end Fields

def forbiddenUnits : List UInt16 := [0x22, 0x2A, 0x2F, 0x3A, 0x3C, 0x3E, 0x3F, 0x5C, 0x7C]

def fat32IsValidName (name : Bytes) : Bool :=
  if name.length = 0 ∨ fat32MaxLfnChars < name.length ∨ name = [0x2E] ∨ name = [0x2E, 0x2E] then
    false
  else
    match reistUtf8ToUtf16 name fat32MaxLfnChars with
    | none => false
    | some units =>
      !(units.isEmpty || decide (fat32MaxLfnChars < units.length) ||
        units.getLast? == some 0x20 || units.getLast? == some 0x2E) &&
      units.all fun value => !(decide (value < 0x20) || forbiddenUnits.contains value)

/-- The letters of a stem or an extension up to the first blank. -/
def shortPart (lower : Bool) (part : Bytes) : Bytes :=
  (part.takeWhile (· != 0x20)).map fun value =>
    if lower && decide (0x41 ≤ value) && decide (value ≤ 0x5A) then value + 0x20 else value

def fat32FormatShortName (e : DirEntry) : Bytes :=
  shortPart (e.ntRes &&& 0x08 != 0) (e.shortName.take 8) ++
    if e.shortName.getD 8 0 != 0x20 then
      0x2E :: shortPart (e.ntRes &&& 0x10 != 0) (e.shortName.drop 8)
    else []

def fat32ShortNameChecksum (name : Bytes) : UInt8 :=
  name.foldl (fun checksum value =>
    (((checksum &&& 1) <<< 7) ||| ((checksum &&& 0xFE) >>> 1)) + value) 0

/-- `fat32_lfn_reader_t`; the name is what `fat32LfnFinish` returns. -/
structure LfnReader where
  units : Vector UInt16 260
  checksum : UInt8
  expectedOrder : Nat
  slotCount : Nat
  active : Bool

def fat32LfnReset : LfnReader := ⟨Vector.replicate 260 0, 0, 0, 0, false⟩

/-- The order in the low five bits, and whether a sequence starts here. -/
def DirEntry.lfnOrder (e : DirEntry) : Nat := (e.order &&& 0x1F).toNat
def DirEntry.starts (e : DirEntry) : Bool := e.order &&& 0x40 != 0

def DirEntry.chars (e : DirEntry) : List UInt16 :=
  (List.range fat32LfnCharsPerEntry).map (fat32LfnCharacter e)

def fat32LfnConsume (reader : LfnReader) (e : DirEntry) : LfnReader :=
  if e.attr != attrLongName || e.type != 0 || e.firstClusterLow != 0 || e.lfnOrder == 0 ||
      decide (fat32MaxLfnEntries < e.lfnOrder) then fat32LfnReset
  else
    let reader := if e.starts then
      { units := Vector.replicate 260 0xFFFF, checksum := e.checksum, expectedOrder := e.lfnOrder,
        slotCount := e.lfnOrder, active := true } else reader
    if !reader.active || reader.checksum != e.checksum || reader.expectedOrder != e.lfnOrder then
      fat32LfnReset
    else
      -- the order is at most twenty: no position reaches the end of the units
      { reader with
        units := putCells e.chars ((e.lfnOrder - 1) * fat32LfnCharsPerEntry) reader.units
        expectedOrder := reader.expectedOrder - 1 }

/-- The scan for the terminator; behind it there is only padding. -/
def unitCountFrom : List UInt16 → Nat → Nat → Bool → Option Nat
  | [], _, count, _ => some count
  | value :: units, i, count, terminated =>
    if !terminated && value == 0 then unitCountFrom units (i + 1) i true
    else if (!terminated && value == 0xFFFF) || (terminated && value != 0xFFFF) then none
    else unitCountFrom units (i + 1) count terminated

def lfnText (units : List UInt16) : Option Bytes :=
  match unitCountFrom units 0 units.length false with
  | none => none
  | some count =>
    if count = 0 ∨ fat32MaxLfnChars < count then none
    else
      match reistUtf16ToUtf8 (units.take count) maxPathLength with
      | none => none
      | some name => if name.length ≠ 0 ∧ fat32IsValidName name = true then some name else none

def fat32LfnFinish (reader : LfnReader) : Option Bytes :=
  if !reader.active || reader.expectedOrder != 0 || reader.slotCount == 0 ||
      decide (fat32MaxLfnEntries < reader.slotCount) then none
  else lfnText ((List.range (reader.slotCount * fat32LfnCharsPerEntry)).map (cell reader.units))

def visibleName (reader : LfnReader) (e : DirEntry) : Bytes :=
  if reader.active && reader.checksum == fat32ShortNameChecksum e.shortName then
    (fat32LfnFinish reader).getD (fat32FormatShortName e)
  else fat32FormatShortName e

/-- The walk of `fat32_scan_directory` over the entries of the chain, to the first that is wanted
at its index, under its visible or its short name. -/
def scanEntries (wanted : Nat → Bytes → Bytes → Bool) :
    List DirEntry → LfnReader → Nat → Option (DirEntry × Bytes)
  | [], _, _ => none
  | e :: entries, reader, index =>
    if e.order = 0 then none
    else if e.order = 0xE5 then scanEntries wanted entries fat32LfnReset index
    else if e.attr = attrLongName then scanEntries wanted entries (fat32LfnConsume reader e) index
    else if e.attr &&& 0x08 ≠ 0 then scanEntries wanted entries fat32LfnReset index
    else if wanted index (visibleName reader e) (fat32FormatShortName e) then
      some (e, visibleName reader e)
    else scanEntries wanted entries fat32LfnReset (index + 1)

/-- The unit of a name at a position, with the terminator and the padding behind it. -/
def paddedUnit (name : List UInt16) (position : Nat) : UInt16 :=
  if position < name.length then name.getD position 0
  else if position = name.length then 0 else 0xFFFF

def fat32BuildLfnSlot (name : List UInt16) (order total : Nat) (checksum : UInt8) : DirEntry :=
  let base := (order - 1) * fat32LfnCharsPerEntry
  let blank : DirEntry := Vector.replicate 32 0xFF
  let marked := setByte blank 0 (UInt8.ofNat (order ||| if order = total then 0x40 else 0))
  let fields := put16 (setByte (setByte (setByte marked 11 attrLongName) 12 0) 13 checksum) 26 0
  (List.range fat32LfnCharsPerEntry).foldl
    (fun e i => fat32SetLfnCharacter e i (paddedUnit name (base + i))) fields

/-- The slots of a name as they lie on the disk, the last part first. -/
def lfnSlots (name : List UInt16) (total : Nat) (checksum : UInt8) : List DirEntry :=
  (List.range total).map fun i => fat32BuildLfnSlot name (total - i) total checksum

/-- Slots that count down from `n` under one checksum, the first of them marked as the start. -/
def Descends (checksum : UInt8) (n : Nat) (slots : List DirEntry) : Prop :=
  ∀ i e, slots[i]? = some e → e.attr = attrLongName ∧ e.type = 0 ∧ e.firstClusterLow = 0 ∧
    e.checksum = checksum ∧ e.lfnOrder = n - i ∧ (e.starts = true ↔ i = 0)

/-- A whole sequence: the last slot has order one. -/
structure Complete (checksum : UInt8) (slots : List DirEntry) : Prop where
  nonempty : slots ≠ []
  le : slots.length ≤ fat32MaxLfnEntries
  descends : Descends checksum slots.length slots

def slotUnits (slots : List DirEntry) : List UInt16 := slots.reverse.flatMap DirEntry.chars

end ReistOs.LongNames
