import ReistOs.BlockDevice
import ReistOs.PartitionRuns

/-! Which sectors a block device transfer addresses. -/

namespace ReistOs

open WriteBack

variable {α : Type}

/-- A call addresses sectors from the front of a list, and all of them when it succeeds. -/
def Touched (whole : List SectorAddr) (s : BlockState) (r : BlockResult α) : Prop :=
  ∃ as, r.2.accessed = s.accessed ++ as ∧ as <+: whole ∧ ∀ x, r.1 = .ok x → as = whole

theorem touched_error (whole : List SectorAddr) (s : BlockState) (e : Int) :
    Touched whole s ((.error e, s) : BlockResult α) :=
  ⟨[], by simp, List.nil_prefix, by simp⟩

section Span

variable (base : UInt16) (isMaster : Bool)

theorem sectorSpan_succ (lba n : Nat) :
    sectorSpan base isMaster lba (n + 1) = ⟨base, isMaster, lba⟩ :: sectorSpan base isMaster (lba + 1) n := rfl

theorem mem_sectorSpan {a : SectorAddr} {lba n : Nat} :
    a ∈ sectorSpan base isMaster lba n ↔
      a.base = base ∧ a.isMaster = isMaster ∧ lba ≤ a.lba ∧ a.lba < lba + n := by
  unfold sectorSpan
  rw [List.mem_map]
  constructor
  · rintro ⟨i, hi, rfl⟩
    obtain ⟨h1, h2⟩ := List.mem_range'_1.mp hi
    exact ⟨rfl, rfl, h1, h2⟩
  · rintro ⟨rfl, rfl, h1, h2⟩
    exact ⟨a.lba, List.mem_range'_1.mpr ⟨h1, h2⟩, rfl⟩

end Span

theorem toNat_succ {lba : UInt32} {n : Nat} (h : lba.toNat + (n + 1) ≤ 4294967296) (hn : n ≠ 0) :
    (lba + 1).toNat = lba.toNat + 1 := by
  rw [UInt32.toNat_add]
  change (lba.toNat + 1) % 4294967296 = _
  omega

theorem toNat_next_le (lba : UInt32) : (lba + 1).toNat ≤ lba.toNat + 1 := by
  rw [UInt32.toNat_add]
  exact Nat.mod_le _ _

section Loops

variable {base : UInt16} {isMaster : Bool}

variable {lba : UInt32}

theorem sectorSpan_next {n : Nat} (h : lba.toNat + (n + 1) ≤ 4294967296) :
    sectorSpan base isMaster (lba + 1).toNat n = sectorSpan base isMaster (lba.toNat + 1) n := by
  cases n with
  | zero => rfl
  | succ n => rw [toNat_succ h (by omega)]

theorem Touched.cons {β : Type} {a : SectorAddr} {whole : List SectorAddr} {s s₁ : BlockState} {x : β}
    {r : BlockResult α} (h : Touched [a] s (.ok x, s₁)) (hrest : Touched whole s₁ r) :
    Touched (a :: whole) s r := by
  obtain ⟨as, hacc, -, hall⟩ := h
  obtain ⟨bs, hacc', hpre, hall'⟩ := hrest
  refine ⟨a :: bs, ?_, List.cons_prefix_cons.mpr ⟨rfl, hpre⟩, fun y hy => by rw [hall' y hy]⟩
  rw [hacc', hacc, hall x rfl, List.append_assoc, List.singleton_append]

theorem Touched.stopped {β : Type} {a : SectorAddr} (whole : List SectorAddr) {s s₁ : BlockState}
    {e : Int} (h : Touched [a] s ((.error e, s₁) : BlockResult β)) :
    Touched (a :: whole) s ((.error e, s₁) : BlockResult α) := by
  obtain ⟨as, hacc, hpre, -⟩ := h
  exact ⟨as, hacc, hpre.trans ⟨whole, rfl⟩, by simp⟩

theorem touched_readEach {read : UInt32 → BlockState → BlockResult Sector}
    (hread : ∀ (lba : UInt32) s, Touched [⟨base, isMaster, lba.toNat⟩] s (read lba s))
    (n : Nat) (hwrap : lba.toNat + n ≤ 4294967296) (s : BlockState) :
    Touched (sectorSpan base isMaster lba.toNat n) s (readSectorsEach read lba n s) := by
  induction n generalizing lba s with
  | zero => exact ⟨[], by simp [readSectorsEach], List.nil_prefix, fun _ _ => rfl⟩
  | succ n ih =>
    have hfirst := hread lba s
    have hnext := toNat_next_le lba
    rw [sectorSpan_succ]
    unfold readSectorsEach
    generalize read lba s = r at hfirst
    obtain ⟨e | x, s₁⟩ := r
    · exact hfirst.stopped _
    · have hrest := hfirst.cons (@ih (lba + 1) (by omega) s₁)
      rw [sectorSpan_next hwrap] at hrest
      obtain ⟨bs, hacc, hpre, hall⟩ := hrest
      dsimp only
      generalize readSectorsEach read (lba + 1) n s₁ = r at hacc hall
      obtain ⟨e | xs, s2⟩ := r
      · exact ⟨bs, hacc, hpre, by simp⟩
      · exact ⟨bs, hacc, hpre, fun _ _ => hall xs rfl⟩

theorem touched_writeEach {write : UInt32 → Sector → BlockState → BlockResult Unit}
    (hwrite : ∀ (lba : UInt32) x s, Touched [⟨base, isMaster, lba.toNat⟩] s (write lba x s))
    (data : List Sector) (hwrap : lba.toNat + data.length ≤ 4294967296)
    (s : BlockState) :
    Touched (sectorSpan base isMaster lba.toNat data.length) s (writeSectorsEach write lba data s) := by
  induction data generalizing lba s with
  | nil => exact ⟨[], by simp [writeSectorsEach], List.nil_prefix, fun _ _ => rfl⟩
  | cons x data ih =>
    rw [List.length_cons] at hwrap ⊢
    have hfirst := hwrite lba x s
    have hnext := toNat_next_le lba
    rw [sectorSpan_succ]
    unfold writeSectorsEach
    generalize write lba x s = r at hfirst
    obtain ⟨e | u, s₁⟩ := r
    · exact hfirst.stopped _
    · have hrest := hfirst.cons (@ih (lba + 1) (by omega) s₁)
      rwa [sectorSpan_next hwrap] at hrest

end Loops

section Commands

variable (s : BlockState)

theorem touched_readSector (a : SectorAddr) : Touched [a] s (s.readSector a) := by
  unfold BlockState.readSector
  split
  next => exact ⟨[a], rfl, List.prefix_refl _, by simp⟩
  next => exact ⟨[a], rfl, List.prefix_refl _, fun _ _ => rfl⟩

theorem touched_readCommand (as : List SectorAddr) : Touched as s (s.readCommand as) :=
  ⟨as, rfl, List.prefix_refl _, fun _ _ => rfl⟩

theorem touched_wrote (r : Bool × DiskWorld) (as : List SectorAddr) : Touched as s (s.wrote r as) :=
  ⟨as, rfl, List.prefix_refl _, fun _ _ => rfl⟩

variable {as : List SectorAddr}

theorem touched_storageWrite {op : BlockState → BlockResult Unit} (hop : ∀ s, Touched as s (op s)) :
    Touched as s (s.storageWrite op) := by
  unfold BlockState.storageWrite
  split
  next => exact touched_error as s _
  next =>
    obtain ⟨bs, hacc, hpre, hall⟩ := hop s
    generalize op s = r at hacc hall
    obtain ⟨e | u, s1⟩ := r
    · exact ⟨bs, hacc, hpre, by simp⟩
    · exact ⟨bs, hacc, hpre, hall⟩

theorem ataTransactionEndAdmitted_accessed (commit : Bool) :
    (ataTransactionEndAdmitted commit s).2.accessed = s.accessed := by
  unfold ataTransactionEndAdmitted
  dsimp only
  split <;> rfl

theorem touched_finish {r : BlockResult Unit} (h : Touched as s r) :
    Touched as s (ataTransactionFinish r) := by
  obtain ⟨bs, hacc, hpre, hall⟩ := h
  obtain ⟨e | u, s1⟩ := r
  · refine ⟨bs, ?_, hpre, by simp [ataTransactionFinish]⟩
    change (ataTransactionEndAdmitted false s1).2.accessed = _
    rw [ataTransactionEndAdmitted_accessed]
    exact hacc
  · refine ⟨bs, ?_, hpre, fun _ _ => hall u rfl⟩
    change (ataTransactionEndAdmitted true s1).2.accessed = _
    rw [ataTransactionEndAdmitted_accessed]
    exact hacc

theorem touched_transaction {write : UInt32 → Sector → BlockState → BlockResult Unit} {lba : UInt32}
    {data : List Sector} (hwrite : ∀ s, Touched as s (writeSectorsEach write lba data s)) :
    Touched as s (ataWriteTransaction write lba data s) := by
  refine touched_finish s ?_
  split
  next => exact hwrite { s with journal := (ataUndoJournalTransactionBegin s.journal).2 }
  next => exact touched_error as { s with journal := (ataUndoJournalTransactionBegin s.journal).2 } _

end Commands

/-- The ATA entry points find the drive under its base: no AHCI disk or partition has that virtual
base, and no other drive its channel position. -/
structure OwnBase (drives : List Drive) (drive : Drive) : Prop where
  noPartition : ataCompatPartitionDrive drives drive.base = none
  noAhci : ataCompatAhciDrive drives drive.base = none
  resource : ataResource drives drive.base drive.isMaster = some drive

section Physical

variable {drives : List Drive} {parent : Drive}

theorem touched_ataReadSectorImpl (base : UInt16) (lba : UInt32) (isMaster : Bool) (s : BlockState) :
    Touched [⟨base, isMaster, lba.toNat⟩] s (ataReadSectorImpl drives base lba isMaster s) := by
  unfold ataReadSectorImpl
  split
  next => exact touched_error _ s _
  next => exact touched_readSector s _

theorem touched_ataJournalReadView (own : OwnBase drives parent) (lba : UInt32) (s : BlockState) :
    Touched [⟨parent.base, parent.isMaster, lba.toNat⟩] s
      (ataJournalReadView drives parent.base lba parent.isMaster s) := by
  unfold ataJournalReadView
  split
  next => exact ⟨_, rfl, List.prefix_refl _, fun _ _ => rfl⟩
  next =>
    rw [own.noAhci]
    exact touched_ataReadSectorImpl parent.base lba parent.isMaster s

theorem touched_ataWriteSectorJournaled (base : UInt16) (lba : UInt32) (x : Sector) (isMaster : Bool)
    (s : BlockState) :
    Touched [⟨base, isMaster, lba.toNat⟩] s (ataWriteSectorJournaled drives base lba x isMaster s) := by
  unfold ataWriteSectorJournaled
  split
  next => exact touched_error _ s _
  next => exact ⟨_, rfl, List.prefix_refl _, fun _ _ => rfl⟩

theorem touched_deviceReadSector (htype : parent.type = .ata ∨ parent.type = .ahci)
    (own : parent.type = .ata → OwnBase drives parent) (lba : UInt32) (s : BlockState) :
    Touched [⟨parent.base, parent.isMaster, lba.toNat⟩] s (deviceReadSector drives parent lba s) := by
  unfold deviceReadSector
  split
  next => exact touched_error _ s _
  next =>
    rcases htype with ht | ht
    · rw [ht]
      unfold ataReadSectorFresh
      rw [(own ht).noPartition, (own ht).noAhci]
      exact touched_ataReadSectorImpl parent.base lba parent.isMaster s
    · rw [ht]
      dsimp only
      unfold ahciReadSector
      split
      next => exact touched_error _ s _
      next => exact touched_readSector s _

theorem touched_ahciWriteSector (drive : Drive) (lba : UInt32) (x : Sector) (s : BlockState) :
    Touched [⟨drive.base, drive.isMaster, lba.toNat⟩] s (ahciWriteSector drive lba x s) := by
  unfold ahciWriteSector
  split
  next => exact touched_error _ s _
  next => exact touched_wrote s _ _

theorem ataWriteSector_own (own : OwnBase drives parent) (lba : UInt32) (x : Sector) (s : BlockState) :
    ataWriteSector drives parent.base lba x parent.isMaster s =
      s.storageWrite (ataWriteSectorJournaled drives parent.base lba x parent.isMaster) := by
  unfold ataWriteSector ataWriteResource
  rw [own.noPartition]
  rw [own.resource]

theorem touched_deviceWriteSector (htype : parent.type = .ata ∨ parent.type = .ahci)
    (own : parent.type = .ata → OwnBase drives parent) (lba : UInt32) (x : Sector) (s : BlockState) :
    Touched [⟨parent.base, parent.isMaster, lba.toNat⟩] s (deviceWriteSector drives parent lba x s) := by
  unfold deviceWriteSector
  split
  next => exact touched_error _ s _
  next =>
    rcases htype with ht | ht
    · rw [ht]
      rw [ataWriteSector_own (own ht)]
      exact touched_storageWrite s (touched_ataWriteSectorJournaled parent.base lba x parent.isMaster)
    · rw [ht]
      exact touched_ahciWriteSector parent lba x s

theorem touched_ataReadSectors (own : OwnBase drives parent) (lba : UInt32) {count : Nat}
    (hwrap : lba.toNat + count ≤ 4294967296) (s : BlockState) :
    Touched (sectorSpan parent.base parent.isMaster lba.toNat count) s
      (ataReadSectors drives parent.base lba count parent.isMaster s) := by
  unfold ataReadSectors
  rw [own.noPartition, own.noAhci, own.resource]
  dsimp only
  split
  next => exact touched_error _ s _
  next =>
    unfold ataReadView
    split
    next =>
      exact touched_readEach (touched_ataJournalReadView own) count hwrap s
    next =>
      unfold ataReadSectorsPio
      rw [own.resource]
      dsimp only
      split
      next => exact touched_error _ s _
      next =>
        split
        next => exact touched_error _ s _
        next => exact touched_readCommand s _

theorem touched_ataWriteSectors (own : OwnBase drives parent) (lba : UInt32) {data : List Sector}
    (hwrap : lba.toNat + data.length ≤ 4294967296) (s : BlockState) :
    Touched (sectorSpan parent.base parent.isMaster lba.toNat data.length) s
      (ataWriteSectors drives parent.base lba data parent.isMaster s) := by
  unfold ataWriteSectors
  rw [own.noPartition, own.noAhci, own.resource]
  dsimp only
  split
  next => exact touched_error _ s _
  next =>
    refine touched_storageWrite s fun s => ?_
    unfold ataWriteRange
    split
    next =>
      exact touched_transaction s (touched_writeEach (fun other x =>
        touched_ataWriteSectorJournaled parent.base other x parent.isMaster) data hwrap)
    next =>
      unfold ataWriteSectorsPio
      split
      next => exact touched_error _ s _
      next => exact touched_wrote s _ _

theorem touched_deviceReadSectors (htype : parent.type = .ata ∨ parent.type = .ahci)
    (own : parent.type = .ata → OwnBase drives parent) (lba : UInt32) {count : Nat}
    (hwrap : lba.toNat + count ≤ 4294967296) (s : BlockState) :
    Touched (sectorSpan parent.base parent.isMaster lba.toNat count) s
      (deviceReadSectors drives parent lba count s) := by
  unfold deviceReadSectors
  split
  next => exact touched_error _ s _
  next =>
    split
    next ht => exact touched_ataReadSectors (own ht) lba hwrap s
    next =>
      exact touched_readEach (touched_deviceReadSector htype own) count hwrap s

theorem touched_deviceWriteSectors (htype : parent.type = .ata ∨ parent.type = .ahci)
    (own : parent.type = .ata → OwnBase drives parent) (lba : UInt32) {data : List Sector}
    (hwrap : lba.toNat + data.length ≤ 4294967296) (s : BlockState) :
    Touched (sectorSpan parent.base parent.isMaster lba.toNat data.length) s
      (deviceWriteSectors drives parent lba data s) := by
  unfold deviceWriteSectors
  split
  next => exact touched_error _ s _
  next =>
    split
    next ht => exact touched_ataWriteSectors (own ht) lba hwrap s
    next =>
      exact touched_writeEach (touched_deviceWriteSector htype own) data hwrap s

end Physical

variable {drives : List Drive} {p parent : Drive} {sector parentSector : UInt32}

/-- A translated sector is inside the partition and the parent. -/
structure Translates (p parent : Drive) (sector parentSector : UInt32) : Prop where
  absolute : parentSector.toNat = p.lbaOffset.toNat + sector.toNat
  inside : sector.toNat < p.sectors.toNat
  onParent : parentSector.toNat < parent.sectors.toNat

variable {drive : Drive} {lba : UInt32}

theorem sectorRangeValid_lt (h : blockDeviceSectorRangeValid drive lba = true) :
    lba.toNat < drive.sectors.toNat := by
  exact of_decide_eq_true (Bool.and_eq_true_iff.mp h).2

theorem partitionParent_translates {owner : Drive}
    (hl : drives[p.parentResource.toNat]? = some parent)
    (h : partitionParent drives p sector = some (owner, parentSector)) :
    owner = parent ∧ Translates p parent sector parentSector := by
  unfold partitionParent at h
  split at h
  next => simp at h
  next hvalid =>
    split at h
    next => simp at h
    next owner howner =>
      split at h
      next => simp at h
      next hsum =>
        split at h
        next => simp at h
        next habs =>
          cases Option.some.inj h
          cases Option.some.inj (hl.symm.trans howner)
          push Not at hvalid hsum
          obtain ⟨-, -, hwrap⟩ := hsum
          have hnowrap := UInt32.not_lt.mp hwrap
          have hle : sector.toNat ≤ (0xFFFFFFFF - p.lbaOffset).toNat := hnowrap
          have hoff : p.lbaOffset ≤ (0xFFFFFFFF : UInt32) := by
            have := p.lbaOffset.toNat_lt
            exact UInt32.le_iff_toNat_le.mpr (by change p.lbaOffset.toNat ≤ 4294967295; omega)
          rw [UInt32.toNat_sub_of_le _ _ hoff] at hle
          change sector.toNat ≤ 4294967295 - p.lbaOffset.toNat at hle
          have hb := p.lbaOffset.toNat_lt
          have hadd : (p.lbaOffset + sector).toNat = p.lbaOffset.toNat + sector.toNat := by
            rw [UInt32.toNat_add]
            omega
          have hin := sectorRangeValid_lt (by simpa using hvalid.2)
          exact ⟨rfl, hadd, hin, sectorRangeValid_lt (by simpa using habs)⟩

/-- A transfer on a partition is refused without an access, or addresses the translated sectors. -/
def Confined (p parent : Drive) (sector : UInt32) (count : Nat) (s : BlockState) {α : Type}
    (r : BlockResult α) : Prop :=
  (∃ e, r = (.error e, s)) ∨
    (sector.toNat + count ≤ p.sectors.toNat ∧
      p.lbaOffset.toNat + sector.toNat + count ≤ parent.sectors.toNat ∧
      Touched (sectorSpan parent.base parent.isMaster (p.lbaOffset.toNat + sector.toNat) count) s r)

variable {count : Nat}

theorem rangeValid_le (h : blockDeviceRangeValid drive lba count = true) :
    count ≠ 0 ∧ count ≤ ataPioMaxSectors ∧ lba.toNat + count ≤ drive.sectors.toNat := by
  unfold blockDeviceRangeValid at h
  simp only [Bool.and_eq_true, bne_iff_ne, decide_eq_true_eq] at h
  obtain ⟨⟨⟨hne, hmax⟩, hlt⟩, hle⟩ := h
  have hlt' : lba.toNat < drive.sectors.toNat := hlt
  rw [UInt32.toNat_sub_of_le _ _ (UInt32.le_of_lt hlt)] at hle
  exact ⟨hne, hmax, by omega⟩

theorem Translates.confined {s : BlockState} {r : BlockResult α}
    (ht : Translates p parent sector parentSector) (hin : sector.toNat + count ≤ p.sectors.toNat)
    (hon : parentSector.toNat + count ≤ parent.sectors.toNat)
    (h : Touched (sectorSpan parent.base parent.isMaster parentSector.toNat count) s r) :
    Confined p parent sector count s r := by
  rw [ht.absolute] at hon h
  exact Or.inr ⟨hin, by omega, h⟩

theorem Translates.range (ht : Translates p parent sector parentSector)
    (hvalid : ¬ !blockDeviceRangeValid p sector count)
    (hfit : ¬ (parent.sectors - parentSector).toNat < count) :
    sector.toNat + count ≤ p.sectors.toNat ∧ parentSector.toNat + count ≤ parent.sectors.toNat := by
  obtain ⟨-, -, hin⟩ := rangeValid_le (by simpa using hvalid)
  have hon := ht.onParent
  rw [UInt32.toNat_sub_of_le _ _ (UInt32.le_of_lt hon)] at hfit
  exact ⟨hin, by omega⟩

variable (hp : p.type = .partition) (hl : drives[p.parentResource.toNat]? = some parent)
  (htype : parent.type = .ata ∨ parent.type = .ahci) (own : parent.type = .ata → OwnBase drives parent)

include hp hl htype own

theorem confined_readSector (sector : UInt32) (s : BlockState) :
    Confined p parent sector 1 s (blockDeviceReadSector drives p sector s) := by
  unfold blockDeviceReadSector
  rw [if_pos hp]
  split
  next => exact Or.inl ⟨_, rfl⟩
  next =>
    split
    next => exact Or.inl ⟨_, rfl⟩
    next owner parentSector htr =>
      obtain ⟨rfl, ht⟩ := partitionParent_translates hl htr
      exact ht.confined ht.inside ht.onParent
        (touched_deviceReadSector htype own parentSector s)

theorem confined_writeSector (sector : UInt32) (x : Sector) (s : BlockState) :
    Confined p parent sector 1 s (blockDeviceWriteSector drives p sector x s) := by
  unfold blockDeviceWriteSector
  rw [if_pos hp]
  split
  next => exact Or.inl ⟨_, rfl⟩
  next =>
    split
    next => exact Or.inl ⟨_, rfl⟩
    next owner parentSector htr =>
      obtain ⟨rfl, ht⟩ := partitionParent_translates hl htr
      exact ht.confined ht.inside ht.onParent
        (touched_deviceWriteSector htype own parentSector x s)

theorem confined_readSectors (sector : UInt32) (count : Nat) (s : BlockState) :
    Confined p parent sector count s (blockDeviceReadSectors drives p sector count s) := by
  unfold blockDeviceReadSectors
  rw [if_pos hp]
  split
  next => exact Or.inl ⟨_, rfl⟩
  next hvalid =>
    split
    next => exact Or.inl ⟨_, rfl⟩
    next owner parentSector htr =>
      obtain ⟨rfl, ht⟩ := partitionParent_translates hl htr
      split
      next => exact Or.inl ⟨_, rfl⟩
      next hfit =>
        obtain ⟨hin, hon⟩ := ht.range hvalid hfit
        have hn := owner.sectors.toNat_lt
        exact ht.confined hin hon (touched_deviceReadSectors htype own parentSector (by omega) s)

theorem confined_writeSectors (sector : UInt32) (data : List Sector) (s : BlockState) :
    Confined p parent sector data.length s (blockDeviceWriteSectors drives p sector data s) := by
  unfold blockDeviceWriteSectors
  rw [if_pos hp]
  split
  next => exact Or.inl ⟨_, rfl⟩
  next hvalid =>
    split
    next => exact Or.inl ⟨_, rfl⟩
    next owner parentSector htr =>
      obtain ⟨rfl, ht⟩ := partitionParent_translates hl htr
      split
      next => exact Or.inl ⟨_, rfl⟩
      next hfit =>
        obtain ⟨hin, hon⟩ := ht.range hvalid hfit
        have hn := owner.sectors.toNat_lt
        exact ht.confined hin hon (touched_deviceWriteSectors htype own parentSector (by omega) s)

end ReistOs
