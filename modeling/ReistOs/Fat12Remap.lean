import ReistOs.Fat12Journal

/-! The sector remap of `fs/fat12/fat12_remap.c`. -/

namespace ReistOs

open WriteBack LittleEndian

def fat12RemapMaxEntries : Nat := 16
def fat12RemapVersion : UInt16 := 1
def fat12RemapMagic : UInt32 := 0x52504D31
def fat12RemapSpareCount : Nat := 8

/-- `fat12_remap_entry_t`; the packed record takes 16 bytes. -/
structure Fat12RemapEntry where
  badSector : UInt32
  replacementSector : UInt32
  sequence : UInt64
  deriving DecidableEq

namespace Fat12RemapEntry

def encode (e : Fat12RemapEntry) : Sector :=
  put64 (put32 (put32 zero 0 e.badSector) 4 e.replacementSector) 8 e.sequence

def decode (s : Sector) (index : Nat) : Fat12RemapEntry :=
  ⟨get32 s (16 * index), get32 s (16 * index + 4), get64 s (16 * index + 8)⟩

end Fat12RemapEntry

def emptyRemapEntry : Fat12RemapEntry := ⟨0, 0, 0⟩

/-- `fat12_remap_header_t`; the packed record takes 28 bytes. -/
structure Fat12RemapHeader where
  magic : UInt32
  version : UInt16
  entrySize : UInt16
  mediaFingerprint : UInt32
  sequence : UInt64
  entryCount : UInt32
  crc32 : UInt32
  deriving DecidableEq

namespace Fat12RemapHeader

def encode (h : Fat12RemapHeader) : Sector :=
  put32 (put32 (put64 (put32 (put16 (put16 (put32 zero 0 h.magic) 4 h.version)
    6 h.entrySize) 8 h.mediaFingerprint) 12 h.sequence) 20 h.entryCount) 24 h.crc32

def decode (s : Sector) : Fat12RemapHeader :=
  ⟨get32 s 0, get16 s 4, get16 s 6, get32 s 8, get64 s 12, get32 s 20, get32 s 24⟩

theorem decode_encode (h : Fat12RemapHeader) : decode h.encode = h := by
  unfold decode encode get16 get32 get64 put16 put32 put64
  simp (disch := omega) only [get_put_of_disjoint, get_put, ofNat16_mod, ofNat32_mod, ofNat64_mod]

end Fat12RemapHeader

/-- `fat12_remap_table_t`; of `entries` the first 16 are used. -/
structure Fat12RemapTable where
  primarySector : Nat
  mirrorSector : Nat
  tableSector : Nat
  mediaFingerprint : UInt32
  header : Fat12RemapHeader
  entries : Nat → Fat12RemapEntry

def Fat12RemapTable.used (t : Fat12RemapTable) : List Fat12RemapEntry :=
  (List.range t.header.entryCount.toNat).map t.entries

def headerShapeValid (fingerprint : UInt32) (h : Fat12RemapHeader) : Bool :=
  h.magic == fat12RemapMagic && h.version == fat12RemapVersion && h.entrySize == 16 &&
  h.mediaFingerprint == fingerprint && h.entryCount.toNat ≤ fat12RemapMaxEntries

/-- The checksum of the header, with a zero checksum field, and of the counted entries. -/
def tableCrc (h : Fat12RemapHeader) (entries : Nat → Fat12RemapEntry) : UInt32 :=
  Crc32.crc32 (slice { h with crc32 := 0 }.encode 0 28 ++
    (List.range h.entryCount.toNat).flatMap fun i => slice (entries i).encode 0 16)

def entriesValid (entries : Nat → Fat12RemapEntry) (h : Fat12RemapHeader) : Bool :=
  ((List.range h.entryCount.toNat).all fun i =>
    (entries i).badSector != 0 && (entries i).replacementSector != 0 &&
    (entries i).badSector != (entries i).replacementSector &&
    (entries i).sequence != 0 && (entries i).sequence ≤ h.sequence &&
    (List.range i).all fun k =>
      (entries k).badSector != (entries i).badSector &&
      (entries k).replacementSector != (entries i).replacementSector &&
      (entries k).badSector != (entries i).replacementSector &&
      (entries k).replacementSector != (entries i).badSector) &&
  h.crc32 == tableCrc h entries

def prepareRemapHeader (fingerprint : UInt32) (sequence : UInt64) (count : UInt32) : Fat12RemapHeader :=
  ⟨fat12RemapMagic, fat12RemapVersion, 16, fingerprint, sequence, count, 0⟩

def fat12RemapFormat (primarySector mirrorSector tableSector : Nat) (mediaFingerprint : UInt32) :
    Option Fat12RemapTable :=
  if mediaFingerprint = 0 ∨ primarySector = mirrorSector ∨ tableSector ≤ mirrorSector then none
  else
    let h := prepareRemapHeader mediaFingerprint 1 0
    some ⟨primarySector, mirrorSector, tableSector, mediaFingerprint,
      { h with crc32 := tableCrc h fun _ => emptyRemapEntry }, fun _ => emptyRemapEntry⟩

/-- The header copy that `fat12_remap_load` follows. -/
def selectRemapHeader (first second : Option Fat12RemapHeader) : Option Fat12RemapHeader :=
  match first, second with
  | none, none => none
  | some f, none => some f
  | none, some s => some s
  | some f, some s =>
    if f.sequence = s.sequence ∧ f ≠ s then none
    else if s.sequence ≤ f.sequence then some f else some s

section Load

variable (t : Fat12RemapTable)

/-- A header copy whose fields without the checksum are in order. -/
def shapedHeader (s : Option Sector) : Option Fat12RemapHeader :=
  (s.map Fat12RemapHeader.decode).filter (headerShapeValid t.mediaFingerprint)

/-- The checks of `fat12_remap_load` once the table sector is there. -/
def adoptRemap (first second : Option Fat12RemapHeader) (tableSector : Sector) : Bool × Fat12RemapTable :=
  let entries := Fat12RemapEntry.decode tableSector
  match selectRemapHeader (first.filter (entriesValid entries)) (second.filter (entriesValid entries)) with
  | none => (false, { t with entries := entries })
  | some h =>
    let kept := fun i => if i < h.entryCount.toNat then entries i else emptyRemapEntry
    (true, { t with header := h, entries := kept })

def maximumCount (first second : Option Fat12RemapHeader) : Nat :=
  max (first.elim 0 fun h => h.entryCount.toNat) (second.elim 0 fun h => h.entryCount.toNat)

def fat12RemapLoad (w : Fat12World) : Bool × Fat12RemapTable × Fat12World :=
  if t.mediaFingerprint = 0 then (false, t, w)
  else
    let primary := w.read t.primarySector
    let mirror := primary.2.read t.mirrorSector
    let first := shapedHeader t primary.1
    let second := shapedHeader t mirror.1
    if first = none ∧ second = none then (false, t, mirror.2)
    else
      -- an empty table is not read
      let table := if maximumCount first second = 0 then (some zero, mirror.2)
        else mirror.2.read t.tableSector
      match table.1 with
      | none => (false, t, table.2)
      | some s => ((adoptRemap t first second s).1, (adoptRemap t first second s).2, table.2)

def fat12RemapLookup (badSector : UInt32) : Option UInt32 :=
  if badSector = 0 then none
  else (t.used.find? fun e => e.badSector == badSector).map Fat12RemapEntry.replacementSector

end Load

variable {t : Fat12RemapTable} {w w' : Fat12World} {s r : UInt32}

def loadedRemap (t : Fat12RemapTable) (d : Floppy) : Bool × Fat12RemapTable :=
  let first := shapedHeader t (some (d t.primarySector))
  let second := shapedHeader t (some (d t.mirrorSector))
  if first = none ∧ second = none then (false, t)
  else adoptRemap t first second (if maximumCount first second = 0 then zero else d t.tableSector)

theorem fat12RemapLoad_eq (hfp : t.mediaFingerprint ≠ 0) (hr : w.readFates = []) :
    fat12RemapLoad t w = ((loadedRemap t w.medium.view).1, (loadedRemap t w.medium.view).2, w) := by
  unfold fat12RemapLoad loadedRemap
  rw [if_neg hfp, World.read_of_readFates hr]
  dsimp only
  rw [World.read_of_readFates hr]
  split
  next => rfl
  next =>
    rw [World.read_of_readFates hr]
    by_cases hc : maximumCount (shapedHeader t (some (w.medium.view t.primarySector)))
        (shapedHeader t (some (w.medium.view t.mirrorSector))) = 0
    · rw [if_pos hc, if_pos hc]
    · rw [if_neg hc, if_neg hc]

theorem loadedRemap_congr {d e : Floppy} (hp : d t.primarySector = e t.primarySector)
    (hm : d t.mirrorSector = e t.mirrorSector)
    (ht : d t.tableSector = e t.tableSector) : loadedRemap t d = loadedRemap t e := by
  unfold loadedRemap
  rw [hp, hm, ht]

def Fat12RemapTable.IsBad (t : Fat12RemapTable) (s : UInt32) : Prop :=
  ∃ e ∈ t.used, e.badSector = s

def Fat12RemapTable.IsReplacement (t : Fat12RemapTable) (s : UInt32) : Prop :=
  ∃ e ∈ t.used, e.replacementSector = s

theorem fat12RemapLookup_some (h : fat12RemapLookup t s = some r) : t.IsBad s ∧ t.IsReplacement r := by
  unfold fat12RemapLookup at h
  split at h
  next => simp at h
  next =>
    obtain ⟨e, he, rfl⟩ := Option.map_eq_some_iff.mp h
    have hmem := List.mem_of_find?_eq_some he
    have hbad : (e.badSector == s) = true := List.find?_some (p := fun e : Fat12RemapEntry => e.badSector == s) he
    exact ⟨⟨e, hmem, beq_iff_eq.mp hbad⟩, e, hmem, rfl⟩

end ReistOs
