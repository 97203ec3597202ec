import ReistOs.AtaJournal
import ReistOs.CrashTriple

/-! What the sectors of a journaled volume may hold while a transaction is published,
applied and cleared. -/

namespace ReistOs

open WriteBack

/-- A volume whose reserved area holds the journal. -/
structure JournalGeometry where
  base : UInt16
  isMaster : Bool
  partitionLba : Nat
  volumeSectors : Nat
  reservedSectors : Nat
  reserved_le : reservedSectors ≤ volumeSectors
  end_le : partitionLba + volumeSectors ≤ uint32Max
  extent : ataJournalDataOffset + ataJournalMaxEntries ≤ reservedSectors

namespace JournalGeometry

variable (g : JournalGeometry)

def addr (lba : Nat) : SectorAddr := ⟨g.base, g.isMaster, lba⟩

def headerLba : Nat := g.partitionLba + ataJournalHeaderOffset

def mirrorLba : Nat :=
  if ataJournalMirrorOffset < g.reservedSectors then g.partitionLba + ataJournalMirrorOffset else 0

def dataLba : Nat := g.partitionLba + ataJournalDataOffset

def headers : List SectorAddr :=
  if g.mirrorLba = 0 then [g.addr g.headerLba] else [g.addr g.headerLba, g.addr g.mirrorLba]

def undoAddr (i : Nat) : SectorAddr := g.addr (g.dataLba + i)

def JournalArea (a : SectorAddr) : Prop :=
  a.base = g.base ∧ a.isMaster = g.isMaster ∧
    (g.headerLba ≤ a.lba ∧ a.lba < g.dataLba + ataJournalMaxEntries ∨
      g.mirrorLba ≠ 0 ∧ a.lba = g.mirrorLba)

instance (a : SectorAddr) : Decidable (g.JournalArea a) := by
  unfold JournalArea; infer_instance

/-- A sector of the volume that the journal accepts for a transaction. Without a
mirror, sector 0 of the drive is refused as well. -/
structure IsTarget (lba : Nat) : Prop where
  start_le : g.partitionLba ≤ lba
  lt_end : lba < g.partitionLba + g.volumeSectors
  not_journal : ¬ (g.headerLba ≤ lba ∧ lba < g.dataLba + ataJournalMaxEntries)
  ne_mirror : lba ≠ g.mirrorLba

theorem IsTarget.outside {g : JournalGeometry} {lba : Nat} (h : g.IsTarget lba) :
    ¬ g.JournalArea (g.addr lba) := by
  rintro ⟨-, -, hin | ⟨-, hm⟩⟩
  · exact h.not_journal hin
  · exact h.ne_mirror hm

theorem mirrorLba_of_ne_zero {g : JournalGeometry} (h : g.mirrorLba ≠ 0) :
    g.mirrorLba = g.partitionLba + ataJournalMirrorOffset := by
  unfold mirrorLba at h ⊢
  split
  next => rfl
  next hr => exact absurd (if_neg hr) h

theorem addr_injective {i k : Nat} (h : g.addr i = g.addr k) : i = k := congrArg SectorAddr.lba h

theorem mem_headers {a : SectorAddr} :
    a ∈ g.headers ↔ a = g.addr g.headerLba ∨ g.mirrorLba ≠ 0 ∧ a = g.addr g.mirrorLba := by
  unfold headers
  split
  next h => simp [h]
  next h => simp [h]

theorem primary_mem_headers : g.addr g.headerLba ∈ g.headers := g.mem_headers.mpr (Or.inl rfl)

theorem headers_ne_nil : g.headers ≠ [] := List.ne_nil_of_mem g.primary_mem_headers

theorem headers_journalArea {a : SectorAddr} (h : a ∈ g.headers) : g.JournalArea a := by
  rcases g.mem_headers.mp h with rfl | ⟨hm, rfl⟩
  · refine ⟨rfl, rfl, Or.inl ⟨Nat.le_refl _, ?_⟩⟩
    simp only [addr, headerLba, dataLba, ataJournalHeaderOffset, ataJournalDataOffset]
    omega
  · exact ⟨rfl, rfl, Or.inr ⟨hm, rfl⟩⟩

theorem undoAddr_journalArea {i : Nat} (h : i < ataJournalMaxEntries) :
    g.JournalArea (g.undoAddr i) := by
  refine ⟨rfl, rfl, Or.inl ?_⟩
  simp only [undoAddr, addr, headerLba, dataLba, ataJournalHeaderOffset, ataJournalDataOffset]
  omega

theorem undoAddr_not_header {i : Nat} (h : i < ataJournalMaxEntries) :
    g.undoAddr i ∉ g.headers := by
  simp only [ataJournalMaxEntries] at h
  intro hm
  rcases g.mem_headers.mp hm with he | ⟨hne, he⟩
  · have := g.addr_injective he
    simp only [headerLba, dataLba, ataJournalHeaderOffset, ataJournalDataOffset] at this
    omega
  · have := g.addr_injective he
    rw [mirrorLba_of_ne_zero hne] at this
    simp only [dataLba, ataJournalMirrorOffset, ataJournalDataOffset] at this
    omega

end JournalGeometry

/-- `ata_undo_journal_attach` installed the geometry of the volume. -/
structure InstalledOn (g : JournalGeometry) (j : AtaUndoJournal) : Prop where
  base : j.base = g.base
  isMaster : j.isMaster = g.isMaster
  headerLba : j.headerLba = g.headerLba
  mirrorLba : j.mirrorLba = g.mirrorLba
  dataLba : j.dataLba = g.dataLba
  volumeStartLba : j.volumeStartLba = g.partitionLba
  volumeEndLba : j.volumeEndLba = g.partitionLba + g.volumeSectors

variable {g : JournalGeometry} {j : AtaUndoJournal}

theorem InstalledOn.addr (h : InstalledOn g j) : j.addr = g.addr := by
  funext lba
  simp [AtaUndoJournal.addr, JournalGeometry.addr, h.base, h.isMaster]

theorem InstalledOn.enable (h : InstalledOn g j) (b : Bool) :
    InstalledOn g { j with enabled := b } :=
  ⟨h.base, h.isMaster, h.headerLba, h.mirrorLba, h.dataLba, h.volumeStartLba, h.volumeEndLba⟩

structure AttachedTo (g : JournalGeometry) (j : AtaUndoJournal) : Prop extends InstalledOn g j where
  enabled : j.enabled = true

/-- Staged slots with the undo data of a content. -/
structure Staged (g : JournalGeometry) (content : Disk) (es : List AtaJournalEntry) : Prop where
  distinct : (es.map AtaJournalEntry.targetLba).Nodup
  fits : es.length ≤ ataJournalMaxEntries
  target : ∀ e ∈ es, g.IsTarget e.targetLba
  undo : ∀ e ∈ es, e.undoData = content (g.addr e.targetLba)
  crc : ∀ e ∈ es, e.dataCrc32 = e.undoData.crc32

theorem Staged.nil (g : JournalGeometry) (content : Disk) : Staged g content [] := by
  refine ⟨by simp, Nat.zero_le _, ?_, ?_, ?_⟩ <;> simp

/-- A transaction as it is published: its sequence number, its slots and the content of
the volume it started from. -/
structure JournalTransaction (g : JournalGeometry) where
  sequence : UInt32
  entries : List AtaJournalEntry
  before : Disk
  staged : Staged g before entries

namespace JournalTransaction

variable {g : JournalGeometry} (T : JournalTransaction g)

def active : AtaJournalRecord :=
  activeRecord T.sequence (T.entries.map fun e => (UInt32.ofNat e.targetLba, e.dataCrc32))

def clean : AtaJournalRecord := ataUndoJournalMakeClean T.sequence

def undoWrites : List (SectorAddr × Sector) :=
  T.entries.zipIdx.map fun p => (g.undoAddr p.2, p.1.undoData)

def targetWrites : List (SectorAddr × Sector) :=
  T.entries.map fun e => (g.addr e.targetLba, e.pendingData)

def restoreWrites : List (SectorAddr × Sector) :=
  T.entries.map fun e => (g.addr e.targetLba, e.undoData)

def after : Disk := applyWrites T.targetWrites T.before

theorem active_sealed : SealedRecord T.active ataJournalActive T.sequence
    (UInt32.ofNat T.entries.length) := by
  simpa [active] using activeRecord_sealed T.sequence
    (T.entries.map fun e => (UInt32.ofNat e.targetLba, e.dataCrc32))

theorem active_valid : recordValid T.active = true :=
  activeRecord_valid T.sequence (by simpa using T.staged.fits)

theorem clean_sealed : SealedRecord T.clean ataJournalClean T.sequence 0 :=
  makeClean_sealed T.sequence

theorem clean_valid : recordValid T.clean = true := makeClean_valid T.sequence

theorem clean_ne_active : T.clean ≠ T.active := by
  intro h
  have hs := congrArg AtaJournalRecord.state h
  rw [T.clean_sealed.state, T.active_sealed.state] at hs
  cases hs

variable {a : SectorAddr} {x : Sector} {e : AtaJournalEntry}

theorem mem_undoWrites : (a, x) ∈ T.undoWrites ↔
    ∃ i e, T.entries[i]? = some e ∧ a = g.undoAddr i ∧ x = e.undoData := by
  simp only [undoWrites, List.mem_map, Prod.exists, List.mem_zipIdx_iff_getElem?, Prod.mk.injEq]
  constructor
  · rintro ⟨e, i, hi, rfl, rfl⟩
    exact ⟨i, e, hi, rfl, rfl⟩
  · rintro ⟨i, e, hi, rfl, rfl⟩
    exact ⟨e, i, hi, rfl, rfl⟩

theorem mem_targetWrites : (a, x) ∈ T.targetWrites ↔
    ∃ e ∈ T.entries, a = g.addr e.targetLba ∧ x = e.pendingData := by
  simp [targetWrites, eq_comm]

theorem mem_restoreWrites : (a, x) ∈ T.restoreWrites ↔
    ∃ e ∈ T.entries, a = g.addr e.targetLba ∧ x = e.undoData := by
  simp [restoreWrites, eq_comm]

theorem index_lt {i : Nat} (h : T.entries[i]? = some e) :
    i < ataJournalMaxEntries :=
  Nat.lt_of_lt_of_le (List.getElem?_eq_some_iff.mp h).1 T.staged.fits

theorem entry_unique {f : AtaJournalEntry} (he : e ∈ T.entries) (hf : f ∈ T.entries)
    (h : g.addr e.targetLba = g.addr f.targetLba) : e = f :=
  List.inj_on_of_nodup_map T.staged.distinct he hf (g.addr_injective h)

theorem targetWrites_outside (h : (a, x) ∈ T.targetWrites) :
    ¬ g.JournalArea a := by
  obtain ⟨e, he, rfl, -⟩ := T.mem_targetWrites.mp h
  exact (T.staged.target e he).outside

theorem after_of_mem (h : (a, x) ∈ T.targetWrites) :
    T.after a = x := by
  refine applyWrites_of_mem _ h fun y hy => ?_
  obtain ⟨e, he, rfl, rfl⟩ := T.mem_targetWrites.mp h
  obtain ⟨f, hf, ha, rfl⟩ := T.mem_targetWrites.mp hy
  rw [T.entry_unique he hf ha]

theorem after_of_not_target (h : ∀ e ∈ T.entries, g.addr e.targetLba ≠ a) :
    T.after a = T.before a := by
  refine applyWrites_of_not_mem _ fun p hp => ?_
  obtain ⟨e, he, ha, -⟩ := T.mem_targetWrites.mp hp
  rw [ha]
  exact h e he

theorem applyWrites_restore {d : Disk} (h : d a = T.before a ∨ d a = T.after a) :
    applyWrites T.restoreWrites.reverse d a = T.before a := by
  by_cases hm : ∃ e ∈ T.entries, g.addr e.targetLba = a
  · obtain ⟨e, he, rfl⟩ := hm
    rw [← T.staged.undo e he]
    refine applyWrites_of_mem _ ?_ fun y hy => ?_
    · exact List.mem_reverse.mpr (T.mem_restoreWrites.mpr ⟨e, he, rfl, rfl⟩)
    · obtain ⟨f, hf, ha, rfl⟩ := T.mem_restoreWrites.mp (List.mem_reverse.mp hy)
      rw [T.entry_unique he hf ha]
  · have hno : ∀ e ∈ T.entries, g.addr e.targetLba ≠ a := fun e he ha => hm ⟨e, he, ha⟩
    rw [applyWrites_of_not_mem _ fun p hp => by
      obtain ⟨e, he, ha, -⟩ := T.mem_restoreWrites.mp (List.mem_reverse.mp hp)
      rw [ha]
      exact hno e he]
    rcases h with h | h
    · exact h
    · rw [h, T.after_of_not_target hno]

end JournalTransaction

/-- Contents by role: headers, the undo sectors of the slots, and everything else. -/
def Layout (g : JournalGeometry) (es : List AtaJournalEntry) (header : Sector → Prop)
    (data : SectorAddr → Sector → Prop) (a : SectorAddr) (x : Sector) : Prop :=
  (a ∈ g.headers → header x) ∧
  (∀ i e, es[i]? = some e → a = g.undoAddr i → x = e.undoData) ∧
  (¬ g.JournalArea a → data a x)

namespace Layout

variable {g : JournalGeometry} {es : List AtaJournalEntry} {header : Sector → Prop}
  {data : SectorAddr → Sector → Prop} {a : SectorAddr} {x : Sector}

theorem of_header (hfit : es.length ≤ ataJournalMaxEntries) (ha : a ∈ g.headers) (hx : header x) :
    Layout g es header data a x := by
  refine ⟨fun _ => hx, ?_, fun hn => absurd (g.headers_journalArea ha) hn⟩
  rintro i e hi rfl
  have hlt := Nat.lt_of_lt_of_le (List.getElem?_eq_some_iff.mp hi).1 hfit
  exact absurd ha (g.undoAddr_not_header hlt)

theorem of_data (hfit : es.length ≤ ataJournalMaxEntries) (ha : ¬ g.JournalArea a)
    (hx : data a x) : Layout g es header data a x := by
  refine ⟨fun hm => absurd (g.headers_journalArea hm) ha, ?_, fun _ => hx⟩
  rintro i e hi rfl
  have hlt := Nat.lt_of_lt_of_le (List.getElem?_eq_some_iff.mp hi).1 hfit
  exact absurd (g.undoAddr_journalArea hlt) ha

theorem of_undo {i : Nat} (hi : i < ataJournalMaxEntries) :
    Layout g [] header data (g.undoAddr i) x :=
  ⟨fun hm => absurd hm (g.undoAddr_not_header hi), by simp,
    fun hn => absurd (g.undoAddr_journalArea hi) hn⟩

theorem mono {header' : Sector → Prop} {data' : SectorAddr → Sector → Prop}
    (h : Layout g es header data a x) (hh : ∀ x, header x → header' x)
    (hd : ∀ a x, ¬ g.JournalArea a → data a x → data' a x) : Layout g es header' data' a x :=
  ⟨fun ha => hh x (h.1 ha), h.2.1, fun ha => hd a x ha (h.2.2 ha)⟩

end Layout

def CleanRecord (r : AtaJournalRecord) : Prop :=
  recordValid r = true ∧ r.state = ataJournalClean

theorem JournalTransaction.clean_cleanRecord (T : JournalTransaction g) :
    CleanRecord T.clean := ⟨T.clean_valid, T.clean_sealed.state⟩

variable {g : JournalGeometry}

/-- No published transaction: headers from a set of CLEAN records. -/
def Quiet (g : JournalGeometry) (clean : Sector → Prop) (content : Disk) (m : Medium SectorAddr Sector) :
    Prop := m.Within (Layout g [] clean fun a x => x = content a)

/-- The undo data are stable and the targets untouched; a header may be ACTIVE. -/
def Armable (clean : Sector → Prop) (T : JournalTransaction g) (m : Medium SectorAddr Sector) : Prop :=
  m.Within (Layout g T.entries (fun r => clean r ∨ r = T.active) fun a x => x = T.before a)

def Armed (T : JournalTransaction g) (m : Medium SectorAddr Sector) : Prop :=
  m.Within (Layout g T.entries (fun r => r = T.active ∨ r = T.clean)
    fun a x => x = T.before a ∨ x = T.after a) ∧
  ∃ h ∈ g.headers, ∀ x, m.Holds h x → x = T.active

/-- All targets are new; a header that reads ACTIVE has nothing else pending. -/
def Clearing (T : JournalTransaction g) (m : Medium SectorAddr Sector) : Prop :=
  m.Within (Layout g T.entries (fun r => r = T.active ∨ r = T.clean) fun a x => x = T.after a) ∧
  ∀ h ∈ g.headers, m.view h = T.active → ∀ x, m.Holds h x → x = T.active

end ReistOs
