import ReistOs.AtaJournalRecord
import ReistOs.Transfer

/-! The fixed-capacity undo journal of `drivers/block/ata_journal.c`. -/

namespace ReistOs

open WriteBack

abbrev DiskWorld := World SectorAddr Sector

abbrev Disk := SectorAddr → Sector

def uint32Max : Nat := 4294967295

/-- `ata_journal_transport_t`: which callbacks are present. -/
structure AtaJournalTransport where
  read : Bool
  write : Bool
  commitWrite : Bool
  writeDeferred : Bool
  writeSectorsDeferred : Bool
  flush : Bool
  commitBegin : Bool
  commitWriteDeferred : Bool
  commitWriteSectorsDeferred : Bool
  commitEnd : Bool
  deriving DecidableEq, Repr

/-- One slot of `entries`, `undo_data` and `pending_data`. -/
structure AtaJournalEntry where
  targetLba : Nat
  dataCrc32 : UInt32
  undoData : Sector
  pendingData : Sector

/-- `ata_undo_journal_t` without its scratch buffers; `entry_count` is the length of
`entries`. -/
structure AtaUndoJournal where
  enabled : Bool
  base : UInt16
  isMaster : Bool
  headerLba : Nat
  mirrorLba : Nat
  dataLba : Nat
  volumeStartLba : Nat
  volumeEndLba : Nat
  sequence : UInt32
  transactionDepth : Nat
  entries : List AtaJournalEntry

def ataUndoJournalInit : AtaUndoJournal where
  enabled := false
  base := 0
  isMaster := false
  headerLba := 0
  mirrorLba := 0
  dataLba := 0
  volumeStartLba := 0
  volumeEndLba := 0
  sequence := 0
  transactionDepth := 0
  entries := []

namespace AtaJournalTransport

variable (t : AtaJournalTransport)

def transportReady : Bool := t.read && t.write

def deferredTransportReady : Bool := t.transportReady && t.writeDeferred && t.flush

def deferredCommitReady : Bool :=
  t.deferredTransportReady && t.commitBegin && t.commitWriteDeferred && t.commitEnd

end AtaJournalTransport

section Transport

variable (t : AtaJournalTransport)

def readSector (w : DiskWorld) (a : SectorAddr) : Option Sector × DiskWorld :=
  if t.transportReady then w.read a else (none, w)

def writeSector (w : DiskWorld) (a : SectorAddr) (s : Sector) : Bool × DiskWorld :=
  if t.transportReady then w.write a s else (false, w)

def writeSectorDeferred (w : DiskWorld) (a : SectorAddr) (s : Sector) : Bool × DiskWorld :=
  if t.deferredTransportReady then w.writeDeferred [(a, s)] else (false, w)

def flushDeferred (w : DiskWorld) : Bool × DiskWorld :=
  if t.deferredTransportReady then w.flush else (false, w)

/-- `if (result && deferred) result = flush_deferred(journal)` -/
def barrier (deferred : Bool) (w : DiskWorld) : Bool × DiskWorld :=
  if deferred then flushDeferred t w else (true, w)

end Transport

namespace AtaUndoJournal

def addr (j : AtaUndoJournal) (lba : Nat) : SectorAddr := ⟨j.base, j.isMaster, lba⟩

/-- The header copies `write_record` writes. -/
def headerAddrs (j : AtaUndoJournal) : List SectorAddr :=
  if j.mirrorLba = 0 then [j.addr j.headerLba] else [j.addr j.headerLba, j.addr j.mirrorLba]

def undoWrites (j : AtaUndoJournal) : List (SectorAddr × Sector) :=
  j.entries.zipIdx.map fun p => (j.addr (j.dataLba + p.2), p.1.undoData)

def targetWrites (j : AtaUndoJournal) : List (SectorAddr × Sector) :=
  j.entries.map fun e => (j.addr e.targetLba, e.pendingData)

end AtaUndoJournal

section Commit

variable (t : AtaJournalTransport) (j : AtaUndoJournal)

def recordWriter (deferred : Bool) (w : DiskWorld) (a : SectorAddr) (r : Sector) :
    Bool × DiskWorld :=
  if deferred then if t.writeDeferred then w.writeDeferred [(a, r)] else (false, w)
  else if t.write then w.write a r else (false, w)

def writeRecord (r : AtaJournalRecord) (deferred : Bool) (w : DiskWorld) : Bool × DiskWorld :=
  sendEach (recordWriter t deferred) (j.headerAddrs.map fun a => (a, r)) w

def clearJournal (deferred : Bool) (w : DiskWorld) : Bool × DiskWorld :=
  writeRecord t j (ataUndoJournalMakeClean j.sequence) deferred w

/-- The record `write_active` builds from the journal. -/
def AtaUndoJournal.active : AtaJournalRecord :=
  activeRecord j.sequence (j.entries.map fun e => (UInt32.ofNat e.targetLba, e.dataCrc32))

def writeActive (deferred : Bool) (w : DiskWorld) : Bool × DiskWorld :=
  writeRecord t j j.active deferred w

/-- The longest prefix of entries with consecutive targets, and the rest. -/
def splitRun : List AtaJournalEntry → List AtaJournalEntry × List AtaJournalEntry
  | [] => ([], [])
  | [e] => ([e], [])
  | e :: f :: es =>
    if e.targetLba ≠ uint32Max ∧ f.targetLba = e.targetLba + 1 then
      (e :: (splitRun (f :: es)).1, (splitRun (f :: es)).2)
    else ([e], f :: es)

theorem splitRun_rest_length (e : AtaJournalEntry) (es : List AtaJournalEntry) :
    (splitRun (e :: es)).2.length ≤ es.length := by
  induction es generalizing e with
  | nil => simp [splitRun]
  | cons f es ih =>
    unfold splitRun
    split
    · exact Nat.le_succ_of_le (ih f)
    · exact Nat.le_refl _

/-- One command writes a run: its first target, and the pending data in order. -/
def runWrites (first : Nat) (run : List AtaJournalEntry) : List (SectorAddr × Sector) :=
  run.zipIdx.map fun p => (j.addr (first + p.2), p.1.pendingData)

def commitRuns : List AtaJournalEntry → DiskWorld → Bool × DiskWorld
  | [], w => (true, w)
  | e :: es, w =>
    andThen (w.writeDeferred (runWrites j e.targetLba (splitRun (e :: es)).1))
      (commitRuns (splitRun (e :: es)).2)
termination_by es => es.length
decreasing_by exact Nat.lt_succ_of_le (splitRun_rest_length e es)

def commitTargetsDeferred (w : DiskWorld) : Bool × DiskWorld :=
  if !t.deferredCommitReady then (false, w)
  else if !t.commitWriteSectorsDeferred then
    sendEach (fun w a s => w.writeDeferred [(a, s)]) j.targetWrites w
  else commitRuns j j.entries w

/-- `commit_begin` takes ownership of the transport; it issues no command. -/
def commitBegin (w : DiskWorld) : Bool × DiskWorld := w.send []

/-- `commit_end` flushes; only a commit that flushed is reported as durable. -/
def commitEnd (commit : Bool) (w : DiskWorld) : Bool × DiskWorld :=
  (commit && w.flush.1, w.flush.2)

/-- `commit_begin`, the target batch, and `commit_end` on every path once begun. -/
def commitBatch (w : DiskWorld) : Bool × DiskWorld :=
  andThen (commitBegin w) fun w =>
    commitEnd (commitTargetsDeferred t j w).1 (commitTargetsDeferred t j w).2

def targetWriter (useCommitTransport : Bool) (w : DiskWorld) (a : SectorAddr) (s : Sector) :
    Bool × DiskWorld :=
  if useCommitTransport && t.commitWrite then w.write a s else writeSector t w a s

def writeUndo (deferred : Bool) (w : DiskWorld) : Bool × DiskWorld :=
  if deferred && t.writeSectorsDeferred then w.writeDeferred j.undoWrites
  else sendEach (if deferred then writeSectorDeferred t else writeSector t) j.undoWrites w

def writeTargets (useCommitTransport deferred : Bool) (w : DiskWorld) : Bool × DiskWorld :=
  if useCommitTransport && t.deferredCommitReady then commitBatch t j w
  else if !useCommitTransport && deferred then
    andThen (sendEach (writeSectorDeferred t) j.targetWrites w) (flushDeferred t)
  else sendEach (targetWriter t useCommitTransport) j.targetWrites w

/-- The four barriers of a nonempty transaction: undo, ACTIVE, targets, CLEAN. -/
def commitEntries (useCommitTransport : Bool) (w : DiskWorld) : Bool × DiskWorld :=
  let deferred := t.deferredTransportReady
  andThen (andThen (writeUndo t j deferred w) (barrier t deferred)) fun w =>
  andThen (andThen (writeActive t j deferred w) (barrier t deferred)) fun w =>
  andThen (writeTargets t j useCommitTransport deferred w) fun w =>
  andThen (clearJournal t j deferred w) (barrier t deferred)

def transactionEnd (commit useCommitTransport : Bool) (w : DiskWorld) :
    Bool × AtaUndoJournal × DiskWorld :=
  if j.transactionDepth = 0 then (false, j, w)
  else if j.transactionDepth - 1 ≠ 0 then
    (true, { j with transactionDepth := j.transactionDepth - 1 }, w)
  else
    let j' := { j with transactionDepth := 0 }
    if !j.enabled || j.entries.isEmpty || !commit then (true, { j' with entries := [] }, w)
    else
      ((commitEntries t j' useCommitTransport w).1, { j' with entries := [] },
        (commitEntries t j' useCommitTransport w).2)

def ataUndoJournalTransactionBegin : Bool × AtaUndoJournal :=
  if j.transactionDepth = uint32Max then (false, j)
  else (true, { j with
    transactionDepth := j.transactionDepth + 1
    entries := if j.transactionDepth = 0 then [] else j.entries })

def ataUndoJournalTransactionEnd (commit : Bool) (w : DiskWorld) :
    Bool × AtaUndoJournal × DiskWorld :=
  transactionEnd t j commit true w

end Commit

section Sectors

variable (t : AtaJournalTransport) (j : AtaUndoJournal)

def ataUndoJournalReadSector (a : SectorAddr) (w : DiskWorld) : Option Sector × DiskWorld :=
  if !t.transportReady then (none, w)
  else if j.enabled && j.transactionDepth != 0 && a.base == j.base && a.isMaster == j.isMaster then
    match j.entries.find? fun e => e.targetLba == a.lba with
    | some e => (some e.pendingData, w)
    | none => readSector t w a
  else readSector t w a

def AtaUndoJournal.reserved (lba : Nat) : Bool :=
  (j.headerLba ≤ lba && lba < j.dataLba + ataJournalMaxEntries) || lba == j.mirrorLba

/-- The write is outside the journaled volume and goes straight to the transport. -/
def AtaUndoJournal.bypasses (a : SectorAddr) : Bool :=
  !j.enabled || a.base != j.base || a.isMaster != j.isMaster ||
    a.lba < j.volumeStartLba || j.volumeEndLba ≤ a.lba

/-- A new slot for `lba`; the first slot of a transaction takes the next sequence
number, and the wrap to zero is refused. -/
def stageNew (lba : Nat) (buffer : Sector) (w : DiskWorld) : Bool × AtaUndoJournal × DiskWorld :=
  match readSector t w (j.addr lba) with
  | (none, w) => (false, j, w)
  | (some old, w) =>
    let j' := { j with entries := j.entries ++ [⟨lba, old.crc32, old, buffer⟩] }
    if j.entries.isEmpty then
      (j.sequence + 1 != 0, { j' with sequence := j.sequence + 1 }, w)
    else (true, j', w)

/-- The body of `ata_undo_journal_write_sector` inside a transaction. -/
def stage (lba : Nat) (buffer : Sector) (w : DiskWorld) : Bool × AtaUndoJournal × DiskWorld :=
  match j.entries.findIdx? fun e => e.targetLba == lba with
  | some i => (true, { j with
      entries := j.entries.modify i fun e => { e with pendingData := buffer } }, w)
  | none =>
    if ataJournalMaxEntries ≤ j.entries.length then (false, j, w)
    else stageNew t j lba buffer w

def ataUndoJournalWriteSector (a : SectorAddr) (buffer : Sector) (w : DiskWorld) :
    Bool × AtaUndoJournal × DiskWorld :=
  if !t.transportReady then (false, j, w)
  else if j.bypasses a then ((writeSector t w a buffer).1, j, (writeSector t w a buffer).2)
  else if j.reserved a.lba then (false, j, w)
  else if j.transactionDepth = 0 then
    let s := stage t (ataUndoJournalTransactionBegin j).2 a.lba buffer w
    let r := transactionEnd t s.2.1 s.1 false s.2.2
    (r.1 && s.1, r.2.1, r.2.2)
  else stage t j a.lba buffer w

end Sectors

variable (t : AtaJournalTransport) (j : AtaUndoJournal)

def recoveryTargetValid (target : Nat) : Bool :=
  j.volumeStartLba ≤ target && target < j.volumeEndLba &&
  !(j.headerLba ≤ target && target < j.dataLba + ataJournalMaxEntries) &&
  (j.mirrorLba == 0 || target != j.mirrorLba)

def primaryValid (r : AtaJournalRecord) : Bool :=
  r.magic == ataJournalMagic && (if r.version == 1 then v1RecordValid r else recordValid r)

def mirrorValid (r : AtaJournalRecord) : Bool :=
  r.magic == ataJournalMagic && r.version == ataJournalVersion && recordValid r

/-- The header copy that recovery follows, and whether both copies are rewritten. -/
def selectRecord (mirrorLba : Nat) (primary mirror : Option Sector) :
    Option (AtaJournalRecord × Bool) :=
  match primary.filter primaryValid, mirror.filter mirrorValid with
  | none, none => none
  | some p, none => some (p, mirrorLba != 0)
  | none, some m => some (m, true)
  | some p, some m =>
    if p.version == ataJournalVersion then
      if m.sequence < p.sequence then some (p, true)
      else if p.sequence < m.sequence then some (m, true)
      else if p.state != m.state then some (if p.state == ataJournalActive then p else m, true)
      else if p != m then none
      else some (p, false)
    else some (m, true)

/-- The admission loop: every entry is checked before any effect. -/
def admitEntries (r : AtaJournalRecord) (index : Nat) :
    Nat → DiskWorld → Option (List (SectorAddr × Sector)) × DiskWorld
  | 0, w => (some [], w)
  | k + 1, w =>
    let target := (r.targetLba index).toNat
    if recoveryTargetValid j target &&
        (List.range index).all fun prior => (r.targetLba prior).toNat != target then
      match readSector t w (j.addr (j.dataLba + index)) with
      | (none, w) => (none, w)
      | (some data, w) =>
        if data.crc32 == r.dataCrc32 index then
          match admitEntries r (index + 1) k w with
          | (none, w) => (none, w)
          | (some rest, w) => (some ((j.addr target, data) :: rest), w)
        else (none, w)
    else (none, w)

/-- Admission, restoration from the last entry to the first, and the CLEAN header. -/
def recoverV2 (r : AtaJournalRecord) (repairHeaders : Bool) (w : DiskWorld) : Bool × DiskWorld :=
  match admitEntries t j r 0 r.entryCount.toNat w with
  | (none, w) => (false, w)
  | (some undo, w) =>
    andThen (sendEach (writeSector t) undo.reverse w) fun w =>
      if r.state == ataJournalActive || repairHeaders then clearJournal t j false w else (true, w)

def recoverV1 (r : AtaJournalV1Record) (w : DiskWorld) : Bool × DiskWorld :=
  if AtaJournalV1Record.state r == ataJournalActive then
    let target := (AtaJournalV1Record.targetLba r).toNat
    if recoveryTargetValid j target then
      match readSector t w (j.addr j.dataLba) with
      | (none, w) => (false, w)
      | (some data, w) =>
        if data.crc32 == AtaJournalV1Record.dataCrc32 r then
          andThen (writeSector t w (j.addr target) data) (clearJournal t j false)
        else (false, w)
    else (false, w)
  else clearJournal t j false w

/-- The geometry `ata_undo_journal_attach` installs. -/
def AtaUndoJournal.install (base : UInt16) (isMaster : Bool)
    (partitionLba volumeSectors reservedSectors : Nat) : AtaUndoJournal :=
  { j with
    base := base
    isMaster := isMaster
    headerLba := partitionLba + ataJournalHeaderOffset
    mirrorLba := if ataJournalMirrorOffset < reservedSectors then
      partitionLba + ataJournalMirrorOffset else 0
    dataLba := partitionLba + ataJournalDataOffset
    volumeStartLba := partitionLba
    volumeEndLba := partitionLba + volumeSectors
    entries := [] }

def recordSequence (r : AtaJournalRecord) : UInt32 :=
  if r.version == 1 then AtaJournalV1Record.sequence r else r.sequence

/-- Recovery by the selected record enables the journal when it succeeds. -/
def recoverRecord (r : AtaJournalRecord) (repairHeaders : Bool) (w : DiskWorld) :
    Bool × AtaUndoJournal × DiskWorld :=
  let k := { j with sequence := recordSequence r }
  let result := if r.version == 1 then recoverV1 t k r w else recoverV2 t k r repairHeaders w
  (result.1, { k with enabled := result.1 }, result.2)

def marked (s : Option Sector) : Bool := s.any fun r => AtaJournalRecord.magic r == ataJournalMagic

/-- The headers as read, with the geometry installed in `k`. -/
def attachHeaders (k : AtaUndoJournal) (reservedSectors : Nat) (primary mirror : Option Sector)
    (w : DiskWorld) : Bool × AtaUndoJournal × DiskWorld :=
  if !marked primary && !marked mirror then
    (primary.isSome && (k.mirrorLba == 0 || mirror.isSome), j, w)
  else if reservedSectors < ataJournalDataOffset + ataJournalMaxEntries then (false, j, w)
  else match selectRecord k.mirrorLba primary mirror with
    | none => (false, k, w)
    | some (r, repairHeaders) => recoverRecord t k r repairHeaders w

/-- The header reads of `ata_undo_journal_attach`. -/
def readHeaders (w : DiskWorld) : Option Sector × Option Sector × DiskWorld :=
  let primary := readSector t w (j.addr j.headerLba)
  if j.mirrorLba = 0 then (primary.1, none, primary.2)
  else
    let mirror := readSector t primary.2 (j.addr j.mirrorLba)
    (primary.1, mirror.1, mirror.2)

def ataUndoJournalAttach (base : UInt16) (isMaster : Bool)
    (partitionLba volumeSectors reservedSectors : Nat) (w : DiskWorld) :
    Bool × AtaUndoJournal × DiskWorld :=
  if !t.transportReady then (false, j, w)
  else if j.transactionDepth ≠ 0 ∧ j.entries ≠ [] then (false, j, w)
  else if volumeSectors = 0 ∨ volumeSectors < reservedSectors ∨
      uint32Max - partitionLba < volumeSectors then (false, { j with enabled := false }, w)
  else if reservedSectors ≤ ataJournalHeaderOffset then (true, { j with enabled := false }, w)
  else
    let off := { j with enabled := false }
    let k := off.install base isMaster partitionLba volumeSectors reservedSectors
    let headers := readHeaders t k w
    attachHeaders t off k reservedSectors headers.1 headers.2.1 headers.2.2

def ataUndoJournalIsAttached (base : UInt16) (isMaster : Bool)
    (partitionLba volumeSectors : Nat) : Bool :=
  j.enabled && volumeSectors != 0 && partitionLba ≤ uint32Max - volumeSectors &&
  j.base == base && j.isMaster == isMaster && j.volumeStartLba == partitionLba &&
  j.volumeEndLba == partitionLba + volumeSectors

end ReistOs
