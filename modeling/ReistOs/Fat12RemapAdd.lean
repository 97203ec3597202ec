import ReistOs.Fat12Remap

/-! Additions to the sector remap, on a medium whose sector writes may fail and may be the last thing
the machine does. -/

namespace ReistOs.Remap

open LittleEndian

/-- What becomes of a sector write and of its read-back. The sector is written whole or not at
all. -/
inductive SectorFate
  | done
  | fails (reached : Bool)
  | stops (reached : Bool)
  deriving DecidableEq

structure AddFates where
  table : SectorFate
  primary : SectorFate
  mirror : SectorFate

/-- `none` when the machine stops. -/
def writeVerified (sector : Nat) (data : Sector) (fate : SectorFate) (disk : Floppy) :
    Option Bool × Floppy :=
  let written := Function.update disk sector data
  match fate with
  | .done => (some true, written)
  | .fails reached => (some false, if reached then written else disk)
  | .stops reached => (none, if reached then written else disk)

def putEntry (s : Sector) (o : Nat) (e : Fat12RemapEntry) : Sector :=
  put64 (put32 (put32 s o e.badSector) (o + 4) e.replacementSector) (o + 8) e.sequence

def encodeEntries (entries : Nat → Fat12RemapEntry) : Nat → Sector
  | 0 => zero
  | n + 1 => putEntry (encodeEntries entries n) (16 * n) (entries n)

def meets (e : Fat12RemapEntry) (badSector replacementSector : UInt32) : Bool :=
  e.badSector == badSector || e.replacementSector == replacementSector ||
    e.badSector == replacementSector || e.replacementSector == badSector

def writeHeaders (t : Fat12RemapTable) (fates : AddFates) (disk : Floppy) : Option Bool × Floppy :=
  match writeVerified t.primarySector t.header.encode fates.primary disk with
  | (some true, disk) => writeVerified t.mirrorSector t.header.encode fates.mirror disk
  | failed => failed

def fat12RemapAdd (t : Fat12RemapTable) (badSector replacementSector : UInt32) (fates : AddFates)
    (disk : Floppy) : Option Bool × Fat12RemapTable × Floppy :=
  let index := t.header.entryCount.toNat
  if badSector = 0 ∨ replacementSector = 0 ∨ badSector = replacementSector ∨
      fat12RemapMaxEntries ≤ index ∨
      t.used.any (meets · badSector replacementSector) then (some false, t, disk)
  else
    let entry := ⟨badSector, replacementSector, t.header.sequence + 1⟩
    let entered := { t with entries := Function.update t.entries index entry }
    match writeVerified t.tableSector (encodeEntries entered.entries (index + 1)) fates.table disk with
    | (some true, disk) =>
      let header := prepareRemapHeader t.mediaFingerprint (t.header.sequence + 1)
        (t.header.entryCount + 1)
      let added := { entered with
        header := { header with crc32 := tableCrc header entered.entries } }
      match writeHeaders added fates disk with
      | (some false, disk) =>
        (some false, { added with
          header := t.header
          entries := Function.update added.entries index emptyRemapEntry }, disk)
      | (told, disk) => (told, added, disk)
    -- the entry stays behind the count
    | (told, disk) => (told, entered, disk)

/-- A call of `fat12_remap_add`: the table it began with, the entry it was to add, and whether it
reported success. -/
structure RemapCall where
  before : List Fat12RemapEntry
  entry : Fat12RemapEntry
  reported : Bool

/-- The medium, the table in memory unless the machine has stopped, and the calls so far. -/
structure RemapRun where
  disk : Floppy
  table : Option Fat12RemapTable
  calls : List RemapCall

inductive RemapStep
  | add (badSector replacementSector : UInt32) (fates : AddFates)
  | load

def RemapRun.fresh (t : Fat12RemapTable) (disk : Floppy) : RemapRun where
  disk := Function.update (Function.update disk t.primarySector t.header.encode) t.mirrorSector
    t.header.encode
  table := some t
  calls := []

def RemapRun.step (formatted : Fat12RemapTable) (r : RemapRun) : RemapStep → RemapRun
  | .add badSector replacementSector fates =>
    match r.table with
    | none => r
    | some t =>
      let (told, t', disk) := fat12RemapAdd t badSector replacementSector fates r.disk
      { disk := disk
        table := if told.isSome then some t' else none
        calls := r.calls ++ [⟨t.used, ⟨badSector, replacementSector, t.header.sequence + 1⟩,
          told == some true⟩] }
  | .load =>
    let (ok, t) := loadedRemap formatted r.disk
    { r with table := if ok then some t else none }

/-- The table after some of the first calls, none of the others having reported success; the last of
them may not have reported it either. -/
def Reaches (calls : List RemapCall) (table : List Fat12RemapEntry) : Prop :=
  (table = [] ∧ ∀ call ∈ calls, call.reported = false) ∨
    ∃ done call rest, calls = done ++ call :: rest ∧ (∀ later ∈ rest, later.reported = false) ∧
      (table = call.before ++ [call.entry] ∨ call.reported = false ∧ table = call.before)

def Unmixed (table : List Fat12RemapEntry) : Prop :=
  table.Pairwise fun a b => meets a b.badSector b.replacementSector = false

def RemapStep.Settled : RemapStep → Prop
  | .add _ _ fates => fates.mirror ≠ .fails true
  | .load => True

def RemapStep.Tabled : RemapStep → Prop
  | .add _ _ fates => ∀ reached, fates.table ≠ .fails reached
  | .load => True

end ReistOs.Remap
