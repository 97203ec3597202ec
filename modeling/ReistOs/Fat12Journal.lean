import ReistOs.Sector
import ReistOs.Transfer

/-! The undo journal of `fs/fat12/fat12_journal.c`. -/

namespace ReistOs

open WriteBack LittleEndian

abbrev Fat12World := World Nat Sector

abbrev Floppy := Nat → Sector

def fat12JournalMagic : UInt32 := 0x524A3132
def fat12JournalVersion : UInt16 := 2
def fat12JournalMaxEntries : Nat := 64
def fat12JournalClean : UInt32 := 0
def fat12JournalActive : UInt32 := 1

/-- `fat12_journal_header_t`; the packed record takes 32 bytes. -/
structure Fat12JournalHeader where
  magic : UInt32
  version : UInt16
  headerSize : UInt16
  mediaFingerprint : UInt32
  sequence : UInt64
  state : UInt32
  entryCount : UInt32
  crc32 : UInt32
  deriving DecidableEq

namespace Fat12JournalHeader

def encode (h : Fat12JournalHeader) : Sector :=
  put32 (put32 (put32 (put64 (put32 (put16 (put16 (put32 zero 0 h.magic) 4 h.version)
    6 h.headerSize) 8 h.mediaFingerprint) 12 h.sequence) 20 h.state) 24 h.entryCount) 28 h.crc32

def decode (s : Sector) : Fat12JournalHeader :=
  ⟨get32 s 0, get16 s 4, get16 s 6, get32 s 8, get64 s 12, get32 s 20, get32 s 24, get32 s 28⟩

theorem decode_encode (h : Fat12JournalHeader) : decode h.encode = h := by
  unfold decode encode get16 get32 get64 put16 put32 put64
  simp (disch := omega) only [get_put_of_disjoint, get_put, ofNat16_mod, ofNat32_mod, ofNat64_mod]

def checksum (h : Fat12JournalHeader) : UInt32 :=
  Crc32.crc32 (slice { h with crc32 := 0 }.encode 0 32)

end Fat12JournalHeader

/-- `fat12_journal_entry_t`; the packed record takes 20 bytes. -/
structure Fat12JournalEntry where
  targetSector : UInt32
  dataCrc32 : UInt32
  sequence : UInt64
  metadataCrc32 : UInt32
  deriving DecidableEq

namespace Fat12JournalEntry

def encode (e : Fat12JournalEntry) : Sector :=
  put32 (put64 (put32 (put32 zero 0 e.targetSector) 4 e.dataCrc32) 8 e.sequence) 16 e.metadataCrc32

def decode (s : Sector) : Fat12JournalEntry := ⟨get32 s 0, get32 s 4, get64 s 8, get32 s 16⟩

theorem decode_encode (e : Fat12JournalEntry) : decode e.encode = e := by
  unfold decode encode get32 get64 put32 put64
  simp (disch := omega) only [get_put_of_disjoint, get_put, ofNat32_mod, ofNat64_mod]

def checksum (e : Fat12JournalEntry) : UInt32 :=
  Crc32.crc32 (slice { e with metadataCrc32 := 0 }.encode 0 20)

end Fat12JournalEntry

/-- `fat12_journal_t` without its scratch sectors; of `entries` the first 64 are used. -/
structure Fat12Journal where
  primaryHeaderSector : Nat
  mirrorHeaderSector : Nat
  dataStartSector : Nat
  mediaFingerprint : UInt32
  header : Fat12JournalHeader
  entries : Nat → Fat12JournalEntry

def headerValid (h : Fat12JournalHeader) (fingerprint : UInt32) : Bool :=
  h.magic == fat12JournalMagic && h.version == fat12JournalVersion && h.headerSize == 32 &&
  h.mediaFingerprint == fingerprint && h.state ≤ fat12JournalActive &&
  h.entryCount.toNat ≤ fat12JournalMaxEntries && h.crc32 == h.checksum

def prepareHeader (fingerprint : UInt32) (sequence : UInt64) (state entryCount : UInt32) :
    Fat12JournalHeader :=
  let h : Fat12JournalHeader :=
    ⟨fat12JournalMagic, fat12JournalVersion, 32, fingerprint, sequence, state, entryCount, 0⟩
  { h with crc32 := h.checksum }

def emptyEntry : Fat12JournalEntry := ⟨0, 0, 0, 0⟩

def fat12JournalFormat (primaryHeaderSector mirrorHeaderSector dataStartSector : Nat)
    (mediaFingerprint : UInt32) : Option Fat12Journal :=
  if mediaFingerprint = 0 ∨ primaryHeaderSector = mirrorHeaderSector ∨
      dataStartSector ≤ max primaryHeaderSector mirrorHeaderSector ∨
      4294967295 - (fat12JournalMaxEntries * 2 - 1) < dataStartSector then none
  else some ⟨primaryHeaderSector, mirrorHeaderSector, dataStartSector, mediaFingerprint,
    prepareHeader mediaFingerprint 1 fat12JournalClean 0, fun _ => emptyEntry⟩

def writeVerified (sector : Nat) (data : Sector) (w : Fat12World) : Bool × Fat12World :=
  andThen (w.write sector data) fun w => ((w.read sector).1 == some data, (w.read sector).2)

variable (j : Fat12Journal)

def writeHeader (w : Fat12World) : Bool × Fat12World :=
  andThen (writeVerified j.primaryHeaderSector j.header.encode w)
    (writeVerified j.mirrorHeaderSector j.header.encode)

/-- The header copy that `fat12_journal_load` follows. -/
def selectHeader (first second : Option Fat12JournalHeader) : Option Fat12JournalHeader :=
  match first, second with
  | none, none => none
  | some f, none => some f
  | none, some s => some s
  | some f, some s =>
    if f.sequence = s.sequence ∧ f ≠ s then none
    else if s.sequence ≤ f.sequence then some f else some s

def validHeader (s : Option Sector) : Option Fat12JournalHeader :=
  (s.map Fat12JournalHeader.decode).filter fun h => headerValid h j.mediaFingerprint

def fat12JournalLoad (w : Fat12World) : Bool × Fat12Journal × Fat12World :=
  if j.mediaFingerprint = 0 then (false, j, w)
  else
    let first := w.read j.primaryHeaderSector
    let second := first.2.read j.mirrorHeaderSector
    match selectHeader (validHeader j first.1) (validHeader j second.1) with
    | none => (false, j, second.2)
    | some h => (true, { j with header := h }, second.2)

def fat12JournalBegin (sequence : UInt64) (w : Fat12World) : Bool × Fat12Journal × Fat12World :=
  if j.mediaFingerprint = 0 ∨ j.header.state = fat12JournalActive ∨ sequence ≤ j.header.sequence then
    (false, j, w)
  else
    let j' := { j with
      entries := fun _ => emptyEntry
      header := prepareHeader j.mediaFingerprint sequence fat12JournalActive 0 }
    ((writeHeader j' w).1, j', (writeHeader j' w).2)

def Fat12Journal.Reserved (sector : Nat) : Prop :=
  sector = j.primaryHeaderSector ∨ sector = j.mirrorHeaderSector ∨
    j.dataStartSector ≤ sector ∧ sector < j.dataStartSector + fat12JournalMaxEntries * 2

instance (sector : Nat) : Decidable (j.Reserved sector) := by
  unfold Fat12Journal.Reserved; infer_instance

def Fat12Journal.oldSector (index : Nat) : Nat := j.dataStartSector + index * 2

def Fat12Journal.metadataSector (index : Nat) : Nat := j.dataStartSector + index * 2 + 1

/-- The entry `fat12_journal_record` prepares. -/
def newEntry (target : UInt32) (old : Sector) (sequence : UInt64) : Fat12JournalEntry :=
  let e : Fat12JournalEntry := ⟨target, old.crc32, sequence, 0⟩
  { e with metadataCrc32 := e.checksum }

def storeUndo (index : Nat) (old : Sector) (entry : Fat12JournalEntry) (w : Fat12World) :
    Bool × Fat12World :=
  andThen (writeVerified (j.oldSector index) old w)
    (writeVerified (j.metadataSector index) entry.encode)

/-- The count is published in the headers once the undo data are written. -/
def recordNew (target : UInt32) (old : Sector) (w : Fat12World) : Bool × Fat12Journal × Fat12World :=
  let index := j.header.entryCount.toNat
  let entry := newEntry target old j.header.sequence
  let j' := { j with entries := Function.update j.entries index entry }
  let stored := storeUndo j index old entry w
  if stored.1 then
    let header := prepareHeader j.mediaFingerprint j.header.sequence fat12JournalActive
      (j.header.entryCount + 1)
    let j'' := { j' with header := header }
    ((writeHeader j'' stored.2).1, j'', (writeHeader j'' stored.2).2)
  else (false, j', stored.2)

def fat12JournalRecord (target : UInt32) (old : Sector) (w : Fat12World) :
    Bool × Fat12Journal × Fat12World :=
  if j.header.state ≠ fat12JournalActive ∨ j.Reserved target.toNat then (false, j, w)
  else if (List.range j.header.entryCount.toNat).any fun i => (j.entries i).targetSector == target then
    (true, j, w)
  else if fat12JournalMaxEntries ≤ j.header.entryCount.toNat then (false, j, w)
  else recordNew j target old w

/-- An uncertain CLEAN write leaves the journal ACTIVE in memory. -/
def fat12JournalCommit (w : Fat12World) : Bool × Fat12Journal × Fat12World :=
  if j.header.state ≠ fat12JournalActive then (false, j, w)
  else
    let j' := { j with
      header := prepareHeader j.mediaFingerprint j.header.sequence fat12JournalClean 0 }
    if (writeHeader j' w).1 then (true, j', (writeHeader j' w).2)
    else
      let header := prepareHeader j.mediaFingerprint j.header.sequence fat12JournalActive
        j.header.entryCount
      (false, { j with header := header }, (writeHeader j' w).2)

/-- One entry of the undo pass: both sectors are read and checked before the target is
written and read back. -/
def restoreEntry (index : Nat) (w : Fat12World) : Bool × Fat12World :=
  let old := w.read (j.oldSector index)
  match old.1 with
  | none => (false, old.2)
  | some data =>
    let metadata := old.2.read (j.metadataSector index)
    match metadata.1 with
    | none => (false, metadata.2)
    | some m =>
      let entry := Fat12JournalEntry.decode m
      if entry.targetSector.toNat = j.primaryHeaderSector ∨
          entry.targetSector.toNat = j.mirrorHeaderSector ∨
          entry.sequence ≠ j.header.sequence ∨ entry.metadataCrc32 ≠ entry.checksum ∨
          entry.dataCrc32 ≠ data.crc32 then (false, metadata.2)
      else writeVerified entry.targetSector.toNat data metadata.2

def restoreEntries (index : Nat) : Nat → Fat12World → Bool × Fat12World
  | 0, w => (true, w)
  | k + 1, w => andThen (restoreEntry j index w) (restoreEntries (index + 1) k)

def fat12JournalRecover (w : Fat12World) : Bool × Fat12Journal × Fat12World :=
  let loaded := fat12JournalLoad j w
  if !loaded.1 then loaded
  else if loaded.2.1.header.state = fat12JournalClean then loaded
  else
    let restored := restoreEntries loaded.2.1 0 loaded.2.1.header.entryCount.toNat loaded.2.2
    if restored.1 then fat12JournalCommit loaded.2.1 restored.2
    else (false, loaded.2.1, restored.2)

end ReistOs
