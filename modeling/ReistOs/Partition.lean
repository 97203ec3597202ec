import ReistOs.Sector
import ReistOs.StorageControl

/-! MBR and GPT discovery of `drivers/block/partition.c`. -/

namespace ReistOs

open LittleEndian

inductive DriveType
  | none
  | ata
  | fdd
  | ahci
  | partition
  deriving DecidableEq

inductive PartitionScheme
  | none
  | mbr
  | gpt
  deriving DecidableEq

/-- `drive_t` without its texts and mount point. -/
structure Drive where
  type : DriveType
  base : UInt16
  isMaster : Bool
  sectors : UInt32
  cylinder : UInt32
  head : UInt32
  sector : UInt32
  fddDriveNo : UInt8
  parentResource : UInt8
  partitionType : UInt8
  partitionIndex : UInt8
  partitionScheme : PartitionScheme
  partitionTypeGuid : List UInt8
  partitionGuid : List UInt8
  hasPartitions : Bool
  lba48Supported : Bool
  lbaOffset : UInt32
  deriving DecidableEq

def gptMaxChildren : Nat := 16
def gptMaxEntries : UInt32 := 128
def gptEntrySize : UInt32 := 128
def gptHeaderMinSize : UInt32 := 92

structure PartitionCandidate where
  firstLba : UInt32
  sectors : UInt32
  type : UInt8
  index : UInt8
  scheme : PartitionScheme
  typeGuid : List UInt8
  guid : List UInt8
  deriving DecidableEq

def guidIsZero (guid : List UInt8) : Bool := guid.all (· == 0)

def PartitionCandidate.stop (c : PartitionCandidate) : UInt64 := c.firstLba.toUInt64 + c.sectors.toUInt64

/-- One comparison of `candidates_valid`. -/
def candidatesCollide (a b : PartitionCandidate) : Bool :=
  (a.firstLba.toUInt64 < b.stop && b.firstLba.toUInt64 < a.stop) ||
    (a.scheme == .gpt && a.guid == b.guid)

def candidatesValid : List PartitionCandidate → Bool
  | [] => true
  | a :: items => items.all (fun b => !candidatesCollide a b) && candidatesValid items

/-- The child `publish` initializes in the next free slot. -/
def publishedDrive (parentId driveCount : Nat) (item : PartitionCandidate) : Drive where
  type := .partition
  base := UInt16.ofNat (0xB000 ||| driveCount)
  isMaster := false
  sectors := item.sectors
  cylinder := 0
  head := 0
  sector := 0
  fddDriveNo := 0
  parentResource := UInt8.ofNat parentId
  partitionType := item.type
  partitionIndex := item.index
  partitionScheme := item.scheme
  partitionTypeGuid := item.typeGuid
  partitionGuid := item.guid
  hasPartitions := false
  lba48Supported := false
  lbaOffset := item.firstLba

def publishChildren (parentId : Nat) : List PartitionCandidate → List Drive → List Drive
  | [], drives => drives
  | item :: items, drives =>
    publishChildren parentId items (drives ++ [publishedDrive parentId drives.length item])

def publish (parentId : Nat) (items : List PartitionCandidate) (drives : List Drive) :
    Nat × List Drive :=
  if items.length = 0 ∨ maxDrives < drives.length + items.length then (0, drives)
  else (items.length, (publishChildren parentId items drives).modify parentId
    fun parent => { parent with hasPartitions := true })

structure GptHeader where
  firstUsable : UInt64
  lastUsable : UInt64
  entriesLba : UInt64
  entryCount : UInt32
  entriesExpectedCrc : UInt32

/-- `memset(header + 16U, 0, 4U)` and the CRC over `header_size` bytes. -/
def gptHeaderCrc (header : Sector) (headerSize : UInt32) : UInt32 :=
  Crc32.crc32 (slice (put32 header 16 0) 0 headerSize.toNat)

def gptHeader (parentSectors : UInt32) (header : Sector) : Option GptHeader :=
  let headerSize := get32 header 12
  let firstUsable := get64 header 40
  let lastUsable := get64 header 48
  let entriesLba := get64 header 72
  let entryCount := get32 header 80
  if slice header 0 8 ≠ [0x45, 0x46, 0x49, 0x20, 0x50, 0x41, 0x52, 0x54] then none
  else if headerSize < gptHeaderMinSize ∨ 512 < headerSize ∨ get32 header 8 ≠ 0x00010000 ∨
      get32 header 20 ≠ 0 ∨ get64 header 24 ≠ 1 ∨ get64 header 32 ≠ parentSectors.toUInt64 - 1 ∨
      guidIsZero (slice header 56 16) ∨ lastUsable < firstUsable ∨ parentSectors.toUInt64 ≤ lastUsable ∨
      entriesLba < 2 ∨ parentSectors.toUInt64 ≤ entriesLba ∨ entryCount = 0 ∨
      gptMaxEntries < entryCount ∨ get32 header 84 ≠ gptEntrySize then none
  else if gptHeaderCrc header headerSize ≠ get32 header 16 then none
  else some ⟨firstUsable, lastUsable, entriesLba, entryCount, get32 header 88⟩

namespace GptHeader

variable (g : GptHeader)

def tableBytes : UInt64 := g.entryCount.toUInt64 * gptEntrySize.toUInt64

def tableSectors : UInt64 := (g.tableBytes + 511) / 512

/-- One table entry; an unused entry is skipped, and a bad one rejects the table. -/
def entry (sector : Sector) (offset seen : Nat) (items : List PartitionCandidate) :
    Option (List PartitionCandidate) :=
  let first := get64 sector (offset + 32)
  let last := get64 sector (offset + 40)
  if guidIsZero (slice sector offset 16) then some items
  else if guidIsZero (slice sector (offset + 16) 16) ∨ first < g.firstUsable ∨ g.lastUsable < last ∨
      last < first ∨ 0xFFFFFFFF < first ∨ 0xFFFFFFFF < last - first + 1 ∨
      gptMaxChildren ≤ items.length then none
  else some (items ++ [⟨first.toUInt32, (last - first + 1).toUInt32, 0, UInt8.ofNat seen + 1, .gpt,
    slice sector offset 16, slice sector (offset + 16) 16⟩])

def sectorEntries (sector : Sector) (used : Nat) : Nat → Nat → Nat → List PartitionCandidate →
    Option (Nat × List PartitionCandidate)
  | 0, _, seen, items => some (seen, items)
  | room + 1, offset, seen, items =>
    if offset < used ∧ seen < g.entryCount.toNat then
      match g.entry sector offset seen items with
      | none => none
      | some items => sectorEntries sector used room (offset + gptEntrySize.toNat) (seen + 1) items
    else some (seen, items)

/-- The sectors of the table from the `s`-th on, with the running CRC. -/
def table (read : UInt32 → Option Sector) : Nat → Nat → Nat → UInt32 → Nat → List PartitionCandidate →
    Option (UInt32 × List PartitionCandidate)
  | 0, _, _, crc, _, items => some (crc, items)
  | left + 1, s, bytesLeft, crc, seen, items =>
    match read (g.entriesLba + UInt64.ofNat s).toUInt32 with
    | none => none
    | some sector =>
      let used := if 512 ≤ bytesLeft then 512 else bytesLeft
      match g.sectorEntries sector used 4 0 seen items with
      | none => none
      | some (seen, items) =>
        table read left (s + 1) (bytesLeft - used) (Crc32.update crc (slice sector 0 used)) seen items

def candidates (read : UInt32 → Option Sector) : Option (List PartitionCandidate) :=
  if g.firstUsable < g.entriesLba + g.tableSectors then none
  else
    match g.table read g.tableSectors.toNat 0 g.tableBytes.toNat 0xFFFFFFFF 0 [] with
    | none => none
    | some (crc, items) =>
      if crc ^^^ 0xFFFFFFFF ≠ g.entriesExpectedCrc ∨ !candidatesValid items then none else some items

end GptHeader

/-- The header of `discover_gpt`. -/
def readGptHeader (read : UInt32 → Option Sector) (parentSectors : UInt32) : Option GptHeader :=
  if parentSectors < 3 then none else (read 1).bind (gptHeader parentSectors)

/-- What `discover_gpt` publishes. -/
def gptCandidates (read : UInt32 → Option Sector) (parentSectors : UInt32) :
    Option (List PartitionCandidate) :=
  (readGptHeader read parentSectors).bind fun g => g.candidates read

/-- One MBR slot: whether a protective entry was seen, and the candidates so far. -/
def mbrSlot (parentSectors : UInt32) (sector : Sector) (slot : Nat)
    (r : Bool × List PartitionCandidate) : Option (Bool × List PartitionCandidate) :=
  let entry := 446 + slot * 16
  let boot := byte sector entry
  let type := byte sector (entry + 4)
  let first := get32 sector (entry + 8)
  let sectors := get32 sector (entry + 12)
  if type = 0 ∧ first = 0 ∧ sectors = 0 then some r
  else if type = 0xEE then
    if r.1 ∨ boot ≠ 0 ∨ first ≠ 1 ∨ sectors = 0 ∨
        (sectors ≠ 0xFFFFFFFF ∧ sectors < parentSectors - 1) then none
    else some (true, r.2)
  else if r.1 ∨ (boot ≠ 0 ∧ boot ≠ 0x80) ∨ type = 0 ∨ first = 0 ∨ sectors = 0 ∨
      parentSectors.toUInt64 < first.toUInt64 + sectors.toUInt64 then none
  else some (false, r.2 ++ [⟨first, sectors, type, UInt8.ofNat (slot + 1), .mbr,
    List.replicate 16 0, List.replicate 16 0⟩])

def mbrSlots (parentSectors : UInt32) (sector : Sector) : Option (Bool × List PartitionCandidate) :=
  (mbrSlot parentSectors sector 0 (false, [])).bind fun r =>
  (mbrSlot parentSectors sector 1 r).bind fun r =>
  (mbrSlot parentSectors sector 2 r).bind (mbrSlot parentSectors sector 3)

/-- What `discover_parent` publishes for one disk. -/
def partitionCandidates (read : UInt32 → Option Sector) (parent : Drive) :
    Option (List PartitionCandidate) :=
  if (parent.type ≠ .ata ∧ parent.type ≠ .ahci) ∨ parent.sectors = 0 then none
  else (read 0).bind fun sector =>
    if byte sector 510 ≠ 0x55 ∨ byte sector 511 ≠ 0xAA then none
    else (mbrSlots parent.sectors sector).bind fun r =>
      if r.1 then if r.2.length = 0 then gptCandidates read parent.sectors else none
      else if candidatesValid r.2 then some r.2 else none

abbrev Media := Nat → UInt32 → Option Sector

def discoverParent (media : Media) (drives : List Drive) (parentId : Nat) : Nat × List Drive :=
  match drives[parentId]? with
  | none => (0, drives)
  | some parent =>
    match partitionCandidates (media parentId) parent with
    | none => (0, drives)
    | some items => publish parentId items drives

/-- One call walks the drives that were there when it started. -/
def partitionDiscover (media : Media) (drives : List Drive) : Nat × List Drive :=
  if maxDrives < drives.length then (0, drives)
  else (List.range drives.length).foldl (fun r parentId =>
    let published := discoverParent media r.2 parentId
    (r.1 + published.1, published.2)) (0, drives)

end ReistOs
