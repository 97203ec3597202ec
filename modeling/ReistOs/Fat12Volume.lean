import ReistOs.Fat12JournalCrash
import ReistOs.Fat12Remap

/-! Mounting a REIST12 volume and writing its logical sectors, after `fs/fat12/fat12.c`. -/

namespace ReistOs

open WriteBack

def fat12ReplicaReservedSectors : Nat := 54
def fat12ReplicaSlotSectors : Nat := 18
def fat12ReplicaDataSectors : Nat := 8
def fat12ReplicaFileCount : Nat := 3

def fat12SafetyReservedSectors : Nat :=
  2 + fat12JournalMaxEntries * 2 + 3 + fat12RemapSpareCount + fat12ReplicaReservedSectors

def fat12MinReistReservedSectors : Nat := 1 + fat12SafetyReservedSectors

/-- The file system type of a volume with journal, remap table and replicas. -/
def reist12 : List UInt8 := [0x52, 0x45, 0x49, 0x53, 0x54, 0x31, 0x32]

/-- The fields of `fat12_boot_sector` that the write path reads. -/
structure Fat12BootSector where
  reservedSectors : UInt16
  totalSectors : UInt16
  totalSectorsLarge : UInt32
  volumeId : UInt32
  fsType : List UInt8

namespace Fat12BootSector

variable (b : Fat12BootSector)

def total : Nat :=
  if b.totalSectors ≠ 0 then b.totalSectors.toNat else b.totalSectorsLarge.toNat

def IsReist12 : Prop := b.fsType.take 7 = reist12

instance : Decidable b.IsReist12 := by
  unfold IsReist12; infer_instance

def replicaBase : Nat := b.reservedSectors.toNat - fat12ReplicaReservedSectors

def remapBase : Nat := b.replicaBase - fat12RemapSpareCount - 3

def journalBase : Nat := b.remapBase - (2 + fat12JournalMaxEntries * 2)

/-- The sectors `fat12_install_sector_remap` hands out as replacements. -/
def Spare (sector : Nat) : Prop :=
  b.replicaBase - fat12RemapSpareCount ≤ sector ∧ sector < b.replicaBase

end Fat12BootSector

/-- `fat12_replica_t` without the copies it loads. -/
structure Fat12Replica where
  primarySector : Nat
  mirrorSector : Nat
  mediaFingerprint : UInt32

def fat12ReplicaInit (primarySector mirrorSector : Nat) (mediaFingerprint : UInt32) :
    Option Fat12Replica :=
  if mediaFingerprint = 0 ∨ 4294967295 - fat12ReplicaDataSectors < primarySector ∨
      mirrorSector ≤ primarySector + fat12ReplicaDataSectors ∨
      4294967295 - fat12ReplicaDataSectors < mirrorSector then none
  else some ⟨primarySector, mirrorSector, mediaFingerprint⟩

/-- `fat12_t` with the sequence counter of its driver; `fat` tells whether the FAT is in
memory. -/
structure Fat12 where
  bootSector : Fat12BootSector
  fat : Bool
  journalEnabled : Bool
  journal : Fat12Journal
  remapEnabled : Bool
  remap : Fat12RemapTable
  replicaEnabled : Bool
  replicas : List Fat12Replica
  transactionActive : Bool
  writeFenced : Bool
  journalSequence : UInt64

section Mount

variable (f : Fat12)

def initReplicas : Option (List Fat12Replica) :=
  (List.range fat12ReplicaFileCount).mapM fun slot =>
    let primary := f.bootSector.replicaBase + slot * fat12ReplicaSlotSectors
    fat12ReplicaInit primary (primary + 1 + fat12ReplicaDataSectors) f.bootSector.volumeId

def prepareJournal (w : Fat12World) : Bool × Fat12 × Fat12World :=
  let base := f.bootSector.journalBase
  match fat12JournalFormat base (base + 1) (base + 2) f.bootSector.volumeId with
  | none => (false, f, w)
  | some j =>
    let primary := w.read base
    let mirror := primary.2.read (base + 1)
    if primary.1 = none ∨ mirror.1 = none then (false, { f with journal := j }, mirror.2)
    else
      let l := fat12JournalLoad j mirror.2
      if l.1 then
        let r := fat12JournalRecover l.2.1 l.2.2
        (r.1, { f with journal := r.2.1 }, r.2.2)
      else (false, { f with journal := l.2.1 }, l.2.2)

def prepareRemap (w : Fat12World) : Bool × Fat12 × Fat12World :=
  let base := f.bootSector.remapBase
  match fat12RemapFormat base (base + 1) (base + 2) f.bootSector.volumeId with
  | none => (false, f, w)
  | some t =>
    let l := fat12RemapLoad t w
    (l.1, { f with remap := l.2.1 }, l.2.2)

def enableVolume (w : Fat12World) : Bool × Fat12 × Fat12World :=
  match initReplicas f with
  | none => (false, f, w)
  | some replicas =>
    (true, { f with
      replicas := replicas
      journalEnabled := true
      remapEnabled := true
      replicaEnabled := true
      journalSequence := f.journal.header.sequence
      transactionActive := false
      writeFenced := false }, w)

def fat12JournalPrepare (w : Fat12World) : Bool × Fat12 × Fat12World :=
  if ¬ f.bootSector.IsReist12 then (true, f, w)
  else if f.bootSector.reservedSectors.toNat < fat12MinReistReservedSectors ∨
      f.bootSector.volumeId = 0 then (false, f, w)
  else
    let j := prepareJournal f w
    if j.1 then
      let r := prepareRemap j.2.1 j.2.2
      if r.1 then enableVolume r.2.1 r.2.2 else r
    else j

end Mount

section Access

variable (f : Fat12)

def fat12RemapSector (sector : UInt32) : UInt32 :=
  if f.remapEnabled then (fat12RemapLookup f.remap sector).getD sector else sector

def fat12WriteSupported : Bool :=
  f.fat && !f.writeFenced && f.journalEnabled && f.remapEnabled && f.replicaEnabled &&
  fat12MinReistReservedSectors ≤ f.bootSector.reservedSectors.toNat &&
  f.bootSector.IsReist12 && f.bootSector.volumeId != 0 &&
  f.journal.mediaFingerprint == f.bootSector.volumeId &&
  f.journal.header.mediaFingerprint == f.bootSector.volumeId &&
  f.remap.mediaFingerprint == f.bootSector.volumeId &&
  f.remap.header.mediaFingerprint == f.bootSector.volumeId &&
  f.replicas.all fun r => r.mediaFingerprint == f.bootSector.volumeId

def readEach : List Nat → Fat12World → Option (List Sector) × Fat12World
  | [], w => (some [], w)
  | a :: as, w =>
    match w.read a with
    | (none, w) => (none, w)
    | (some x, w) => ((readEach as w).1.map (x :: ·), (readEach as w).2)

def fat12ReadLogicalSectors (logicalSector : UInt32) (count : Nat) (w : Fat12World) :
    Option (List Sector) × Fat12World :=
  if count = 0 ∨ f.bootSector.total ≤ logicalSector.toNat ∨
      f.bootSector.total - logicalSector.toNat < count then (none, w)
  else if f.remapEnabled then
    readEach ((List.range count).map fun i =>
      (fat12RemapSector f (logicalSector + UInt32.ofNat i)).toNat) w
  else readEach ((List.range count).map (logicalSector.toNat + ·)) w

def fat12TransactionFail : Fat12 := { f with writeFenced := true }

def fat12TransactionBegin (maximumUniqueSectors : Nat) (w : Fat12World) : Bool × Fat12 × Fat12World :=
  if !fat12WriteSupported f ∨ f.transactionActive ∨ maximumUniqueSectors = 0 ∨
      fat12JournalMaxEntries < maximumUniqueSectors ∨
      f.journalSequence = 0xFFFFFFFFFFFFFFFF then (false, f, w)
  else
    let sequence := f.journalSequence + 1
    let b := fat12JournalBegin f.journal sequence w
    if b.1 then
      (true, { f with journalSequence := sequence, journal := b.2.1, transactionActive := true }, b.2.2)
    else (false, { f with journalSequence := sequence, journal := b.2.1, writeFenced := true }, b.2.2)

def fat12TransactionCommit (w : Fat12World) : Bool × Fat12 × Fat12World :=
  if !f.transactionActive ∨ f.writeFenced then (false, f, w)
  else
    let c := fat12JournalCommit f.journal w
    if c.1 then (true, { f with journal := c.2.1, transactionActive := false }, c.2.2)
    else (false, fat12TransactionFail { f with journal := c.2.1 }, c.2.2)

/-- One sector of `fat12_write_logical_sectors`: what is recorded is the logical number,
what is written is the physical sector. -/
def writeLogicalSector (logicalSector : UInt32) (data : Sector) (w : Fat12World) :
    Bool × Fat12 × Fat12World :=
  let physical := (fat12RemapSector f logicalSector).toNat
  match fat12ReadLogicalSectors f logicalSector 1 w with
  | (some [old], w) =>
    let r := fat12JournalRecord f.journal logicalSector old w
    if r.1 then
      let written := writeVerified physical data r.2.2
      (written.1, { f with journal := r.2.1 }, written.2)
    else (false, { f with journal := r.2.1 }, r.2.2)
  | (_, w) => (false, f, w)

end Access

/-- The loop of `fat12_write_logical_sectors`; a failure fences the volume. -/
def writeSectorLoop : List Sector → UInt32 → Fat12 → Fat12World → Bool × Fat12 × Fat12World
  | [], _, f, w => (true, f, w)
  | x :: xs, s, f, w =>
    let r := writeLogicalSector f s x w
    if r.1 then writeSectorLoop xs (s + 1) r.2.1 r.2.2
    else (false, fat12TransactionFail r.2.1, r.2.2)

def fat12WriteLogicalSectors (f : Fat12) (logicalSector : UInt32) (input : List Sector)
    (w : Fat12World) : Bool × Fat12 × Fat12World :=
  if !fat12WriteSupported f ∨ input = [] ∨ f.bootSector.total ≤ logicalSector.toNat ∨
      f.bootSector.total - logicalSector.toNat < input.length ∨
      fat12JournalMaxEntries < input.length then (false, f, w)
  else if f.transactionActive then writeSectorLoop input logicalSector f w
  else
    let b := fat12TransactionBegin f input.length w
    if b.1 then
      let r := writeSectorLoop input logicalSector b.2.1 b.2.2
      if r.1 then fat12TransactionCommit r.2.1 r.2.2 else r
    else b

/-- A sequence of write requests, up to the first that fails. -/
def writeRequests : List (UInt32 × List Sector) → Fat12 → Fat12World → Bool × Fat12 × Fat12World
  | [], f, w => (true, f, w)
  | q :: qs, f, w =>
    let r := fat12WriteLogicalSectors f q.1 q.2 w
    if r.1 then writeRequests qs r.2.1 r.2.2 else r

def journaledWrites (f : Fat12) (maximumUniqueSectors : Nat) (qs : List (UInt32 × List Sector))
    (w : Fat12World) : Bool × Fat12 × Fat12World :=
  let b := fat12TransactionBegin f maximumUniqueSectors w
  if b.1 then writeRequests qs b.2.1 b.2.2 else b

def sectorWrites : List Sector → UInt32 → List (UInt32 × Sector)
  | [], _ => []
  | x :: xs, s => (s, x) :: sectorWrites xs (s + 1)

def requestWrites (qs : List (UInt32 × List Sector)) : List (UInt32 × Sector) :=
  qs.flatMap fun q => sectorWrites q.2 q.1

end ReistOs
