import ReistOs.Sector

/-! The on-disk records of the ATA undo journal (`drivers/block/ata_journal.h`). A
record is its sector; fields are read and stored at their packed offsets. -/

namespace ReistOs

open LittleEndian

def ataJournalMagic : UInt32 := 0x4A545352
def ataJournalVersion : UInt32 := 2
def ataJournalClean : UInt32 := 0
def ataJournalActive : UInt32 := 1
def ataJournalHeaderOffset : Nat := 8
def ataJournalDataOffset : Nat := 9
def ataJournalMaxEntries : Nat := 20
def ataJournalMirrorOffset : Nat := 31

abbrev AtaJournalRecord := Sector

namespace AtaJournalRecord

variable (r : AtaJournalRecord)

def magic : UInt32 := get32 r 0
def version : UInt32 := get32 r 4
def state : UInt32 := get32 r 8
def sequence : UInt32 := get32 r 12
def entryCount : UInt32 := get32 r 16
def headerCrc32 : UInt32 := get32 r 20
def targetLba (i : Nat) : UInt32 := get32 r (24 + 8 * i)
def dataCrc32 (i : Nat) : UInt32 := get32 r (28 + 8 * i)

end AtaJournalRecord

abbrev AtaJournalV1Record := Sector

namespace AtaJournalV1Record

variable (r : AtaJournalV1Record)

def magic : UInt32 := get32 r 0
def version : UInt32 := get32 r 4
def state : UInt32 := get32 r 8
def targetLba : UInt32 := get32 r 12
def dataCrc32 : UInt32 := get32 r 16
def sequence : UInt32 := get32 r 20
def headerCrc32 : UInt32 := get32 r 24

end AtaJournalV1Record

/-- The checksum reads the record with four zero bytes in place of its own field. -/
def journalRecordCrc32 (r : AtaJournalRecord) : UInt32 :=
  Crc32.update (Crc32.update (Crc32.update 0xFFFFFFFF (slice r 0 20)) [0, 0, 0, 0])
    (slice r 24 488) ^^^ 0xFFFFFFFF

def recordValid (r : AtaJournalRecord) : Bool :=
  r.magic == ataJournalMagic && r.version == ataJournalVersion &&
  r.state ≤ ataJournalActive && r.entryCount.toNat ≤ ataJournalMaxEntries &&
  (r.state == ataJournalActive || r.entryCount == 0) &&
  r.headerCrc32 == journalRecordCrc32 r

def sealRecord (r : AtaJournalRecord) : AtaJournalRecord :=
  put32 (put32 r 20 0) 20 (journalRecordCrc32 (put32 r 20 0))

def v1RecordValid (r : AtaJournalV1Record) : Bool :=
  AtaJournalV1Record.magic r == ataJournalMagic && AtaJournalV1Record.version r == 1 &&
  AtaJournalV1Record.state r ≤ ataJournalActive &&
  AtaJournalV1Record.headerCrc32 r == Crc32.crc32 (slice r 0 24)

/-- The fields that precede the checksum, over a zeroed sector. -/
def recordHead (state sequence count : UInt32) : AtaJournalRecord :=
  put32 (put32 (put32 (put32 (put32 zero 0 ataJournalMagic) 4 ataJournalVersion) 8 state)
    12 sequence) 16 count

def ataUndoJournalMakeClean (sequence : UInt32) : AtaJournalRecord :=
  sealRecord (recordHead ataJournalClean sequence 0)

/-- The entry table from index `i` on. -/
def putEntries (r : AtaJournalRecord) (i : Nat) : List (UInt32 × UInt32) → AtaJournalRecord
  | [] => r
  | e :: es => putEntries (put32 (put32 r (24 + 8 * i) e.1) (28 + 8 * i) e.2) (i + 1) es

/-- The sector `write_active` publishes. -/
def activeRecord (sequence : UInt32) (entries : List (UInt32 × UInt32)) : AtaJournalRecord :=
  sealRecord (putEntries (recordHead ataJournalActive sequence (UInt32.ofNat entries.length))
    0 entries)

theorem journalRecordCrc32_put_crc (r : AtaJournalRecord) (x : UInt32) :
    journalRecordCrc32 (put32 r 20 x) = journalRecordCrc32 r := by
  unfold journalRecordCrc32
  rw [slice_put32_of_disjoint r (p := 0) x (by omega),
    slice_put32_of_disjoint r (p := 24) x (by omega)]

variable {o i : Nat} {es : List (UInt32 × UInt32)}

theorem get32_sealRecord (r : AtaJournalRecord) (h : o + 4 ≤ 20 ∨ 24 ≤ o) :
    get32 (sealRecord r) o = get32 r o := by
  unfold sealRecord
  rw [get32_put32_of_disjoint _ _ (by omega), get32_put32_of_disjoint _ _ (by omega)]

theorem sealRecord_crc (r : AtaJournalRecord) :
    (sealRecord r).headerCrc32 = journalRecordCrc32 (sealRecord r) := by
  unfold sealRecord AtaJournalRecord.headerCrc32
  rw [get32_put32 _ _ (by decide)]
  simp only [journalRecordCrc32_put_crc]

theorem get32_putEntries_of_lt (r : AtaJournalRecord) (es : List (UInt32 × UInt32))
    (h : o + 4 ≤ 24 + 8 * i) : get32 (putEntries r i es) o = get32 r o := by
  induction es generalizing r i with
  | nil => rfl
  | cons e es ih =>
    rw [putEntries, ih _ (by omega), get32_put32_of_disjoint _ _ (by omega),
      get32_put32_of_disjoint _ _ (by omega)]

theorem get32_putEntries (r : AtaJournalRecord) {k : Nat} (hb : i + es.length ≤ 61)
    (hk : k < es.length) :
    get32 (putEntries r i es) (24 + 8 * (i + k)) = es[k].1 ∧
      get32 (putEntries r i es) (28 + 8 * (i + k)) = es[k].2 := by
  induction es generalizing r i k with
  | nil => simp at hk
  | cons e es ih =>
    simp only [List.length_cons] at hb hk
    cases k with
    | zero =>
      rw [putEntries, get32_putEntries_of_lt _ _ (by omega), get32_putEntries_of_lt _ _ (by omega)]
      rw [Nat.add_zero, get32_put32 _ _ (by omega), get32_put32_of_disjoint _ _ (by omega),
        get32_put32 _ _ (by omega)]
      exact ⟨rfl, rfl⟩
    | succ k =>
      have := ih (put32 (put32 r (24 + 8 * i) e.1) (28 + 8 * i) e.2) (i := i + 1) (k := k)
        (by omega) (by omega)
      rw [show i + (k + 1) = i + 1 + k by omega]
      exact this

section Head

variable (state sequence count : UInt32)

theorem recordHead_fields :
    (recordHead state sequence count).magic = ataJournalMagic ∧
    (recordHead state sequence count).version = ataJournalVersion ∧
    (recordHead state sequence count).state = state ∧
    (recordHead state sequence count).sequence = sequence ∧
    (recordHead state sequence count).entryCount = count := by
  refine ⟨?_, ?_, ?_, ?_, ?_⟩ <;>
    simp [recordHead, AtaJournalRecord.magic, AtaJournalRecord.version, AtaJournalRecord.state,
      AtaJournalRecord.sequence, AtaJournalRecord.entryCount, get32_put32,
      get32_put32_of_disjoint]

end Head

/-- What a reader finds in a sealed record built over `recordHead`. -/
structure SealedRecord (r : AtaJournalRecord) (state sequence count : UInt32) : Prop where
  magic : r.magic = ataJournalMagic
  version : r.version = ataJournalVersion
  state : r.state = state
  sequence : r.sequence = sequence
  entryCount : r.entryCount = count
  crc : r.headerCrc32 = journalRecordCrc32 r

theorem sealedRecord_of_head {r : AtaJournalRecord} {state sequence count : UInt32}
    (h : ∀ o, o + 4 ≤ 24 → get32 r o = get32 (recordHead state sequence count) o) :
    SealedRecord (sealRecord r) state sequence count := by
  obtain ⟨hm, hv, hs, hq, hc⟩ := recordHead_fields state sequence count
  refine ⟨?_, ?_, ?_, ?_, ?_, sealRecord_crc r⟩
  · exact (get32_sealRecord r (by omega)).trans ((h 0 (by omega)).trans hm)
  · exact (get32_sealRecord r (by omega)).trans ((h 4 (by omega)).trans hv)
  · exact (get32_sealRecord r (by omega)).trans ((h 8 (by omega)).trans hs)
  · exact (get32_sealRecord r (by omega)).trans ((h 12 (by omega)).trans hq)
  · exact (get32_sealRecord r (by omega)).trans ((h 16 (by omega)).trans hc)

theorem makeClean_sealed (sequence : UInt32) :
    SealedRecord (ataUndoJournalMakeClean sequence) ataJournalClean sequence 0 :=
  sealedRecord_of_head fun _ _ => rfl

theorem activeRecord_sealed (sequence : UInt32) (es : List (UInt32 × UInt32)) :
    SealedRecord (activeRecord sequence es) ataJournalActive sequence
      (UInt32.ofNat es.length) :=
  sealedRecord_of_head fun _ ho => get32_putEntries_of_lt _ es (by omega)

theorem makeClean_valid (sequence : UInt32) :
    recordValid (ataUndoJournalMakeClean sequence) = true := by
  have h := makeClean_sealed sequence
  simp [recordValid, h.magic, h.version, h.state, h.entryCount, h.crc, ataJournalClean,
    ataJournalActive]

theorem activeRecord_valid (sequence : UInt32) (h : es.length ≤ ataJournalMaxEntries) :
    recordValid (activeRecord sequence es) = true := by
  have hs := activeRecord_sealed sequence es
  have hl : es.length ≤ 20 := h
  have hc : (UInt32.ofNat es.length).toNat ≤ ataJournalMaxEntries := by
    rw [UInt32.toNat_ofNat_of_lt' (Nat.lt_of_le_of_lt hl (by decide))]
    exact h
  unfold recordValid
  simp [hs.magic, hs.version, hs.state, hs.entryCount, hs.crc, hc, -UInt32.toNat_ofNat']

theorem activeRecord_entry (sequence : UInt32) (h : es.length ≤ ataJournalMaxEntries)
    (hi : i < es.length) :
    (activeRecord sequence es).targetLba i = es[i].1 ∧
      (activeRecord sequence es).dataCrc32 i = es[i].2 := by
  have hl : es.length ≤ 20 := h
  have hp := get32_putEntries
    (recordHead ataJournalActive sequence (UInt32.ofNat es.length)) (i := 0) (by omega) hi
  rw [Nat.zero_add] at hp
  exact ⟨(get32_sealRecord _ (by omega)).trans hp.1, (get32_sealRecord _ (by omega)).trans hp.2⟩

end ReistOs
