import ReistOs.Partition
import ReistOs.AtaJournal

/-! LBA translation and dispatch of `drivers/block/block_device.c`, over the sector entry
points of `drivers/block/ata.c`, `drivers/block/ahci.c` and `drivers/block/fdd.c`. -/

namespace ReistOs

open WriteBack

def blockDeviceInvalid : Int := -22
def blockDeviceRange : Int := -34
def blockDeviceIo : Int := -5
def blockDeviceUnsupported : Int := -95

def ataPioMaxSectors : Nat := 20
def ataPioMaxReadSectors : Nat := 128
def ataLba28Limit : UInt32 := 0x10000000

/-- Every callback of `ata_journal_transport` is there. -/
def ataJournalTransport : AtaJournalTransport where
  read := true
  write := true
  commitWrite := true
  writeDeferred := true
  writeSectorsDeferred := true
  flush := true
  commitBegin := true
  commitWriteDeferred := true
  commitWriteSectorsDeferred := true
  commitEnd := true

/-- `fenced` refuses `storage_write_begin`, `ahciFenced` is the fence of the AHCI driver, and
`accessed` lists the sectors that data commands addressed, in order. -/
structure BlockState where
  disk : DiskWorld
  journal : AtaUndoJournal
  channels : List UInt16
  supervised : Bool
  fenced : Bool
  ahciFenced : Bool
  accessed : List SectorAddr

abbrev BlockResult (α : Type) := Except Int α × BlockState

def Drive.addr (d : Drive) (lba : UInt32) : SectorAddr := ⟨d.base, d.isMaster, lba.toNat⟩

def sectorSpan (base : UInt16) (isMaster : Bool) (lba count : Nat) : List SectorAddr :=
  (List.range' lba count).map fun i => ⟨base, isMaster, i⟩

def readSectorsEach (read : UInt32 → BlockState → BlockResult Sector) (lba : UInt32) :
    Nat → BlockState → BlockResult (List Sector)
  | 0, s => (.ok [], s)
  | n + 1, s =>
    match read lba s with
    | (.error e, s) => (.error e, s)
    | (.ok x, s) =>
      match readSectorsEach read (lba + 1) n s with
      | (.error e, s) => (.error e, s)
      | (.ok xs, s) => (.ok (x :: xs), s)

def writeSectorsEach (write : UInt32 → Sector → BlockState → BlockResult Unit) (lba : UInt32) :
    List Sector → BlockState → BlockResult Unit
  | [], s => (.ok (), s)
  | x :: xs, s =>
    match write lba x s with
    | (.error e, s) => (.error e, s)
    | (.ok (), s) => writeSectorsEach write (lba + 1) xs s

namespace BlockState

variable (s : BlockState)

def readCommand (as : List SectorAddr) : BlockResult (List Sector) :=
  (if s.disk.readFates.headD true then .ok (as.map s.disk.medium.view) else .error blockDeviceIo,
    { s with
      disk := { s.disk with readFates := s.disk.readFates.tail }
      accessed := s.accessed ++ as })

def readSector (a : SectorAddr) : BlockResult Sector :=
  match (s.disk.read a).1 with
  | none => (.error blockDeviceIo, { s with
      disk := (s.disk.read a).2
      accessed := s.accessed ++ [a] })
  | some x => (.ok x, { s with
      disk := (s.disk.read a).2
      accessed := s.accessed ++ [a] })

def wrote (r : Bool × DiskWorld) (as : List SectorAddr) : BlockResult Unit :=
  (if r.1 then .ok () else .error blockDeviceIo,
    { s with
      disk := r.2
      accessed := s.accessed ++ as })

/-- `storage_write_begin` and `storage_write_end` around a write; one that fails fences all
later ones. -/
def storageWrite (op : BlockState → BlockResult Unit) : BlockResult Unit :=
  if s.fenced then (.error blockDeviceIo, s)
  else
    match op s with
    | (.ok (), s) => (.ok (), s)
    | (.error e, s) => (.error e, { s with
        fenced := s.fenced || s.supervised
        ahciFenced := s.ahciFenced || s.supervised })

end BlockState

def verifySector (w : DiskWorld) (a : SectorAddr) (x : Sector) : Bool × DiskWorld :=
  (decide ((w.read a).1 = some x), (w.read a).2)

def ahciReadSector (drive : Drive) (sector : UInt32) (s : BlockState) : BlockResult Sector :=
  if drive.sectors ≤ sector then (.error blockDeviceIo, s) else s.readSector (drive.addr sector)

def ahciWriteSector (drive : Drive) (sector : UInt32) (x : Sector) (s : BlockState) :
    BlockResult Unit :=
  if s.ahciFenced ∨ drive.sectors ≤ sector then (.error blockDeviceIo, s)
  else s.wrote (andThen (s.disk.write (drive.addr sector) x) fun w =>
    verifySector w (drive.addr sector) x) [drive.addr sector]

def ahciReadSectors (drive : Drive) (sector : UInt32) (count : Nat) (s : BlockState) :
    BlockResult (List Sector) :=
  if count = 0 ∨ ataPioMaxSectors < count ∨ drive.sectors ≤ sector ∨
      (drive.sectors - sector).toNat < count then (.error blockDeviceIo, s)
  else s.readCommand (sectorSpan drive.base drive.isMaster sector.toNat count)

section Ata

variable (drives : List Drive)

/-- The drive `ata_resource_index` finds. -/
def ataResource (base : UInt16) (isMaster : Bool) : Option Drive :=
  drives.find? fun d => ((d.type == .ata && d.isMaster == isMaster) || d.type == .ahci) && d.base == base

def ataCompatAhciDrive (base : UInt16) : Option Drive :=
  if base &&& 0xFFE0 ≠ 0xA000 then none
  else drives.find? fun d => d.type == .ahci && d.base == base

def ataCompatPartitionDrive (base : UInt16) : Option Drive :=
  if base &&& 0xFFE0 ≠ 0xB000 then none
  else drives.find? fun d => d.type == .partition && d.base == base

def ataPartitionTranslate (partition : Drive) (lba : UInt32) : Option (Drive × UInt32) :=
  if partition.sectors ≤ lba ∨ 0xFFFFFFFF - partition.lbaOffset < lba then none
  else
    match drives[partition.parentResource.toNat]? with
    | none => none
    | some parent =>
      if parent.type = .partition ∨ parent.sectors ≤ partition.lbaOffset + lba then none
      else some (parent, partition.lbaOffset + lba)

/-- What the one-sector commands refuse: an address beyond LBA28 on a drive without LBA48, one
behind the drive, and an unknown channel. -/
def ataSectorRefused (channels : List UInt16) (base : UInt16) (lba : UInt32) (isMaster : Bool) : Bool :=
  let drive := ataResource drives base isMaster
  (ataLba28Limit ≤ lba && !drive.any (·.lba48Supported)) || drive.any (·.sectors ≤ lba) ||
    !channels.contains base

def ataReadSectorImpl (base : UInt16) (lba : UInt32) (isMaster : Bool) (s : BlockState) :
    BlockResult Sector :=
  if ataSectorRefused drives s.channels base lba isMaster then (.error blockDeviceIo, s)
  else s.readSector ⟨base, isMaster, lba.toNat⟩

def ataReadSectorFresh (base : UInt16) (lba : UInt32) (isMaster : Bool) (s : BlockState) :
    BlockResult Sector :=
  match ataCompatPartitionDrive drives base with
  | some partition =>
    match ataPartitionTranslate drives partition lba with
    | none => (.error blockDeviceIo, s)
    | some (parent, absolute) =>
      if parent.type = .ahci then ahciReadSector parent absolute s
      else ataReadSectorImpl drives parent.base absolute parent.isMaster s
  | none =>
    match ataCompatAhciDrive drives base with
    | some drive => ahciReadSector drive lba s
    | none => ataReadSectorImpl drives base lba isMaster s

/-- `ata_journal_transaction_active` -/
def AtaUndoJournal.transactionActive (j : AtaUndoJournal) : Bool := j.enabled && j.transactionDepth != 0

def AtaUndoJournal.openOn (j : AtaUndoJournal) (base : UInt16) (isMaster : Bool) : Bool :=
  j.transactionActive && base == j.base && isMaster == j.isMaster

def ataJournalReadView (base : UInt16) (lba : UInt32) (isMaster : Bool) (s : BlockState) :
    BlockResult Sector :=
  match if s.journal.openOn base isMaster then s.journal.entries.find? (·.targetLba == lba.toNat)
    else none with
  | some e => (.ok e.pendingData, { s with accessed := s.accessed ++ [⟨base, isMaster, lba.toNat⟩] })
  | none =>
    match ataCompatAhciDrive drives base with
    | some drive => ahciReadSector drive lba s
    | none => ataReadSectorImpl drives base lba isMaster s

def ataJournalRangeHasPending (j : AtaUndoJournal) (base : UInt16) (lba : UInt32) (count : Nat)
    (isMaster : Bool) : Bool :=
  j.openOn base isMaster && j.entries.any fun e => lba.toNat ≤ e.targetLba && e.targetLba - lba.toNat < count

def ataReadSectorsPio (base : UInt16) (lba : UInt32) (count : Nat) (isMaster : Bool) (s : BlockState) :
    BlockResult (List Sector) :=
  match ataResource drives base isMaster with
  | none => (.error blockDeviceIo, s)
  | some drive =>
    if count = 0 ∨ ataPioMaxReadSectors < count ∨ drive.sectors ≤ lba ∨
        (drive.sectors - lba).toNat < count then (.error blockDeviceIo, s)
    else if ataLba28Limit.toNat ≤ lba.toNat + count - 1 ∧ !drive.lba48Supported then
      (.error blockDeviceIo, s)
    else s.readCommand (sectorSpan base isMaster lba.toNat count)

def ataReadView (base : UInt16) (lba : UInt32) (count : Nat) (isMaster : Bool)
    (batch : BlockState → BlockResult (List Sector)) (s : BlockState) : BlockResult (List Sector) :=
  if ataJournalRangeHasPending s.journal base lba count isMaster then
    readSectorsEach (fun lba => ataJournalReadView drives base lba isMaster) lba count s
  else batch s

def ataReadSectors (base : UInt16) (lba : UInt32) (count : Nat) (isMaster : Bool) (s : BlockState) :
    BlockResult (List Sector) :=
  match ataCompatPartitionDrive drives base with
  | some partition =>
    match ataPartitionTranslate drives partition lba with
    | none => (.error blockDeviceIo, s)
    | some (parent, absolute) =>
      if count = 0 ∨ (if parent.type = .ahci then ataPioMaxSectors else ataPioMaxReadSectors) < count ∨
          (partition.sectors - lba).toNat < count ∨ (ataPioMaxSectors < count ∧ s.journal.transactionActive) then
        (.error blockDeviceIo, s)
      else ataReadView drives parent.base absolute count parent.isMaster
        (if parent.type = .ahci then ahciReadSectors parent absolute count
          else ataReadSectorsPio drives parent.base absolute count parent.isMaster) s
  | none =>
    match ataCompatAhciDrive drives base with
    | some drive =>
      if count = 0 ∨ ataPioMaxSectors < count ∨ drive.sectors ≤ lba ∨
          (drive.sectors - lba).toNat < count then (.error blockDeviceIo, s)
      else ataReadView drives base lba count isMaster (ahciReadSectors drive lba count) s
    | none =>
      match ataResource drives base isMaster with
      | none => (.error blockDeviceIo, s)
      | some drive =>
        if count = 0 ∨ ataPioMaxReadSectors < count ∨ drive.sectors ≤ lba ∨
            (drive.sectors - lba).toNat < count ∨ (ataPioMaxSectors < count ∧ s.journal.transactionActive) then
          (.error blockDeviceIo, s)
        else ataReadView drives base lba count isMaster
          (ataReadSectorsPio drives base lba count isMaster) s

def ataTransportRefused (channels : List UInt16) (base : UInt16) (lba : UInt32) (isMaster : Bool) : Bool :=
  match ataCompatAhciDrive drives base with
  | some drive => drive.sectors ≤ lba
  | none => ataSectorRefused drives channels base lba isMaster

def ataWriteSectorJournaled (base : UInt16) (lba : UInt32) (x : Sector) (isMaster : Bool)
    (s : BlockState) : BlockResult Unit :=
  if ataTransportRefused drives s.channels base lba isMaster then (.error blockDeviceIo, s)
  else
    let r := ataUndoJournalWriteSector ataJournalTransport s.journal ⟨base, isMaster, lba.toNat⟩ x s.disk
    (if r.1 then .ok () else .error blockDeviceIo,
      { s with
        journal := r.2.1
        disk := r.2.2
        accessed := s.accessed ++ [⟨base, isMaster, lba.toNat⟩] })

/-- The admitted write of `ata_write_sector`, once the drive is known. -/
def ataWriteResource (base : UInt16) (lba : UInt32) (x : Sector) (isMaster : Bool) (s : BlockState) :
    BlockResult Unit :=
  match ataResource drives base isMaster with
  | none => (.error blockDeviceIo, s)
  | some _ => s.storageWrite (ataWriteSectorJournaled drives base lba x isMaster)

def ataWriteSector (base : UInt16) (lba : UInt32) (x : Sector) (isMaster : Bool) (s : BlockState) :
    BlockResult Unit :=
  match ataCompatPartitionDrive drives base with
  | some partition =>
    match ataPartitionTranslate drives partition lba with
    | none => (.error blockDeviceIo, s)
    | some (parent, absolute) => ataWriteResource drives parent.base absolute x parent.isMaster s
  | none => ataWriteResource drives base lba x isMaster s

/-- `commit_begin` is refused while the caller's own write is admitted: the undo and ACTIVE
records are written, and no target. -/
def commitRefused (j : AtaUndoJournal) (w : DiskWorld) : Bool × DiskWorld :=
  andThen (andThen (writeUndo ataJournalTransport j true w) (barrier ataJournalTransport true)) fun w =>
  andThen (andThen (writeActive ataJournalTransport j true w) (barrier ataJournalTransport true)) fun w =>
  (false, w)

/-- `ata_journal_transaction_end` under an admitted write. -/
def ataTransactionEndAdmitted (commit : Bool) (s : BlockState) : Bool × BlockState :=
  let j := s.journal
  if s.supervised && j.transactionDepth == 1 && j.enabled && !j.entries.isEmpty && commit then
    ((commitRefused { j with transactionDepth := 0 } s.disk).1,
      { s with
        journal := { j with
          transactionDepth := 0
          entries := [] }
        disk := (commitRefused { j with transactionDepth := 0 } s.disk).2 })
  else
    let r := ataUndoJournalTransactionEnd ataJournalTransport j commit s.disk
    (r.1, { s with
      journal := r.2.1
      disk := r.2.2 })

/-- The end of a transaction commits when all its writes succeeded. -/
def ataTransactionFinish : BlockResult Unit → BlockResult Unit
  | (.ok (), s) =>
    (if (ataTransactionEndAdmitted true s).1 then .ok () else .error blockDeviceIo,
      (ataTransactionEndAdmitted true s).2)
  | (.error _, s) => (.error blockDeviceIo, (ataTransactionEndAdmitted false s).2)

def ataWriteTransaction (write : UInt32 → Sector → BlockState → BlockResult Unit) (lba : UInt32)
    (data : List Sector) (s : BlockState) : BlockResult Unit :=
  let begun := ataUndoJournalTransactionBegin s.journal
  ataTransactionFinish (if begun.1 then writeSectorsEach write lba data { s with journal := begun.2 }
    else (.error blockDeviceIo, { s with journal := begun.2 }))

def ataRangeJournaled (j : AtaUndoJournal) (base : UInt16) (lba : UInt32) (count : Nat)
    (isMaster : Bool) : Bool :=
  j.enabled && base == j.base && isMaster == j.isMaster && j.volumeStartLba ≤ lba.toNat &&
    lba.toNat < j.volumeEndLba && count ≤ j.volumeEndLba - lba.toNat

/-- `ata_write_sectors_pio_impl`: one command, a flush, and the read-back. -/
def ataWriteSectorsPio (drive : Drive) (base : UInt16) (lba : UInt32) (data : List Sector)
    (isMaster : Bool) (s : BlockState) : BlockResult Unit :=
  if ataLba28Limit.toNat ≤ lba.toNat + data.length - 1 ∧ !drive.lba48Supported then
    (.error blockDeviceIo, s)
  else
    let as := sectorSpan base isMaster lba.toNat data.length
    s.wrote (andThen (andThen (s.disk.writeDeferred (as.zip data)) World.flush)
      (sendEach verifySector (as.zip data))) as

def ataWriteRange (drive : Drive) (base : UInt16) (lba : UInt32) (data : List Sector) (isMaster : Bool)
    (s : BlockState) : BlockResult Unit :=
  if ataRangeJournaled s.journal base lba data.length isMaster then
    ataWriteTransaction (fun lba x => ataWriteSectorJournaled drives base lba x isMaster) lba data s
  else ataWriteSectorsPio drive base lba data isMaster s

def ataWriteSectors (base : UInt16) (lba : UInt32) (data : List Sector) (isMaster : Bool)
    (s : BlockState) : BlockResult Unit :=
  match ataCompatPartitionDrive drives base with
  | some partition =>
    match ataPartitionTranslate drives partition lba with
    | none => (.error blockDeviceIo, s)
    | some (parent, absolute) =>
      if data.length = 0 ∨ (partition.sectors - lba).toNat < data.length then (.error blockDeviceIo, s)
      else writeSectorsEach (fun lba x => ataWriteSector drives parent.base lba x parent.isMaster) absolute data s
  | none =>
    match ataCompatAhciDrive drives base with
    | some drive =>
      if data.length = 0 ∨ ataPioMaxSectors < data.length ∨ drive.sectors ≤ lba ∨
          (drive.sectors - lba).toNat < data.length then (.error blockDeviceIo, s)
      else s.storageWrite fun s =>
        if ataRangeJournaled s.journal base lba data.length isMaster then
          ataWriteTransaction (fun lba x => ataWriteSectorJournaled drives base lba x isMaster) lba data s
        else writeSectorsEach (ahciWriteSector drive) lba data s
    | none =>
      match ataResource drives base isMaster with
      | none => (.error blockDeviceIo, s)
      | some drive =>
        if data.length = 0 ∨ ataPioMaxSectors < data.length ∨ drive.sectors ≤ lba ∨
            (drive.sectors - lba).toNat < data.length then (.error blockDeviceIo, s)
        else s.storageWrite (ataWriteRange drives drive base lba data isMaster)

end Ata

def fddChs (drive : Drive) (sector : UInt32) : Except Int (UInt8 × UInt8 × UInt8) :=
  if drive.head = 0 ∨ drive.sector = 0 ∨ drive.sectors ≤ sector then .error blockDeviceInvalid
  else
    let trackSize := drive.head * drive.sector
    let cylinder := sector / trackSize
    let within := sector % trackSize
    let selectedHead := within / drive.sector
    let selectedSector := within % drive.sector + 1
    if drive.cylinder ≤ cylinder ∨ 255 < selectedHead ∨ 255 < selectedSector then .error blockDeviceRange
    else .ok (selectedHead.toUInt8, cylinder.toUInt8, selectedSector.toUInt8)

def fdcValidateChs (drive : Drive) (chs : UInt8 × UInt8 × UInt8) : Bool :=
  drive.fddDriveNo < 2 && chs.1 < 2 && chs.2.1 < 80 && 1 ≤ chs.2.2 && chs.2.2 ≤ 18

/-- A floppy has no sector number of its own: head, track and number stand for one. -/
def fddAddr (drive : Drive) (chs : UInt8 × UInt8 × UInt8) : SectorAddr :=
  ⟨drive.fddDriveNo.toUInt16, false, (chs.2.1.toNat * 256 + chs.1.toNat) * 256 + chs.2.2.toNat⟩

def fddReadSector (drive : Drive) (sector : UInt32) (s : BlockState) : BlockResult Sector :=
  match fddChs drive sector with
  | .error e => (.error e, s)
  | .ok chs =>
    if !fdcValidateChs drive chs then (.error blockDeviceIo, s) else s.readSector (fddAddr drive chs)

def fddWriteSector (drive : Drive) (sector : UInt32) (x : Sector) (s : BlockState) : BlockResult Unit :=
  match fddChs drive sector with
  | .error e => (.error e, s)
  | .ok chs => s.storageWrite fun s =>
    if !fdcValidateChs drive chs then (.error blockDeviceIo, s)
    else s.wrote (s.disk.write (fddAddr drive chs) x) [fddAddr drive chs]

variable (drives : List Drive)

def blockDeviceSectorRangeValid (drive : Drive) (sector : UInt32) : Bool :=
  drive.sectors != 0 && sector < drive.sectors

def partitionParent (drive : Drive) (sector : UInt32) : Option (Drive × UInt32) :=
  if drive.type ≠ .partition ∨ !blockDeviceSectorRangeValid drive sector then none
  else
    match drives[drive.parentResource.toNat]? with
    | none => none
    | some parent =>
      if parent.type = .partition ∨ parent.sectors ≤ drive.lbaOffset ∨
          0xFFFFFFFF - drive.lbaOffset < sector then none
      else if !blockDeviceSectorRangeValid parent (drive.lbaOffset + sector) then none
      else some (parent, drive.lbaOffset + sector)

/-- The branches of `block_device_read_sector` below a partition. -/
def deviceReadSector (drive : Drive) (sector : UInt32) (s : BlockState) : BlockResult Sector :=
  if !blockDeviceSectorRangeValid drive sector then (.error blockDeviceInvalid, s)
  else
    match drive.type with
    | .ata => ataReadSectorFresh drives drive.base sector drive.isMaster s
    | .ahci => ahciReadSector drive sector s
    | .fdd => fddReadSector drive sector s
    | _ => (.error blockDeviceUnsupported, s)

def blockDeviceReadSector (drive : Drive) (sector : UInt32) (s : BlockState) : BlockResult Sector :=
  if drive.type = .partition then
    if !blockDeviceSectorRangeValid drive sector then (.error blockDeviceInvalid, s)
    else
      match partitionParent drives drive sector with
      | none => (.error blockDeviceRange, s)
      | some (parent, parentSector) => deviceReadSector drives parent parentSector s
  else deviceReadSector drives drive sector s

def deviceWriteSector (drive : Drive) (sector : UInt32) (x : Sector) (s : BlockState) : BlockResult Unit :=
  if !blockDeviceSectorRangeValid drive sector then (.error blockDeviceInvalid, s)
  else
    match drive.type with
    | .ata => ataWriteSector drives drive.base sector x drive.isMaster s
    | .ahci => ahciWriteSector drive sector x s
    | .fdd => fddWriteSector drive sector x s
    | _ => (.error blockDeviceUnsupported, s)

def blockDeviceWriteSector (drive : Drive) (sector : UInt32) (x : Sector) (s : BlockState) :
    BlockResult Unit :=
  if drive.type = .partition then
    if !blockDeviceSectorRangeValid drive sector then (.error blockDeviceInvalid, s)
    else
      match partitionParent drives drive sector with
      | none => (.error blockDeviceRange, s)
      | some (parent, parentSector) => deviceWriteSector drives parent parentSector x s
  else deviceWriteSector drives drive sector x s

def blockDeviceRangeValid (drive : Drive) (sector : UInt32) (count : Nat) : Bool :=
  count != 0 && count ≤ ataPioMaxSectors && sector < drive.sectors &&
    count ≤ (drive.sectors - sector).toNat

def deviceReadSectors (drive : Drive) (sector : UInt32) (count : Nat) (s : BlockState) :
    BlockResult (List Sector) :=
  if !blockDeviceRangeValid drive sector count then (.error blockDeviceRange, s)
  else if drive.type = .ata then ataReadSectors drives drive.base sector count drive.isMaster s
  else readSectorsEach (deviceReadSector drives drive) sector count s

def blockDeviceReadSectors (drive : Drive) (sector : UInt32) (count : Nat) (s : BlockState) :
    BlockResult (List Sector) :=
  if drive.type = .partition then
    if !blockDeviceRangeValid drive sector count then (.error blockDeviceRange, s)
    else
      match partitionParent drives drive sector with
      | none => (.error blockDeviceRange, s)
      | some (parent, parentSector) =>
        if (parent.sectors - parentSector).toNat < count then (.error blockDeviceRange, s)
        else deviceReadSectors drives parent parentSector count s
  else deviceReadSectors drives drive sector count s

def deviceWriteSectors (drive : Drive) (sector : UInt32) (data : List Sector) (s : BlockState) :
    BlockResult Unit :=
  if !blockDeviceRangeValid drive sector data.length then (.error blockDeviceRange, s)
  else if drive.type = .ata then ataWriteSectors drives drive.base sector data drive.isMaster s
  else writeSectorsEach (deviceWriteSector drives drive) sector data s

def blockDeviceWriteSectors (drive : Drive) (sector : UInt32) (data : List Sector) (s : BlockState) :
    BlockResult Unit :=
  if drive.type = .partition then
    if !blockDeviceRangeValid drive sector data.length then (.error blockDeviceRange, s)
    else
      match partitionParent drives drive sector with
      | none => (.error blockDeviceRange, s)
      | some (parent, parentSector) =>
        if (parent.sectors - parentSector).toNat < data.length then (.error blockDeviceRange, s)
        else deviceWriteSectors drives parent parentSector data s
  else deviceWriteSectors drives drive sector data s

end ReistOs
