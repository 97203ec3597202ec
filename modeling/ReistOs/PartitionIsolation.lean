import ReistOs.BlockDeviceTransfers

/-! Transfers on published partitions stay inside them. -/

namespace ReistOs

open WriteBack

/-- A transfer fails without an access, or addresses exactly the translated sectors. -/
def Exact (p parent : Drive) (sector : UInt32) (count : Nat) (s : BlockState) {α : Type}
    (r : BlockResult α) : Prop :=
  (∃ e, r.1 = .error e ∧ r.2.accessed = s.accessed) ∨
    (sector.toNat + count ≤ p.sectors.toNat ∧
      p.lbaOffset.toNat + sector.toNat + count ≤ parent.sectors.toNat ∧
      r.2.accessed = s.accessed ++
        sectorSpan parent.base parent.isMaster (p.lbaOffset.toNat + sector.toNat) count)

/-- A read of a range from a disk that does not fail; an open transaction holds none of its sectors. -/
structure ReadClean (drives : List Drive) (parent : Drive) (s : BlockState) (lba : UInt32) (count : Nat) :
    Prop where
  healthy : DeviceHealthy s
  serving : parent.type = .ata → Serving drives parent s
  unstaged : parent.type = .ata →
    ataJournalRangeHasPending s.journal parent.base lba count parent.isMaster = false

/-- A write of a range to a disk that does not fail; the range is outside the attached volume, or
an open transaction has room for it. -/
structure WriteClean (drives : List Drive) (parent : Drive) (s : BlockState) (lba : UInt32) (count : Nat) :
    Prop where
  healthy : DeviceHealthy s
  serving : parent.type = .ata → Serving drives parent s
  journal : parent.type = .ata →
    Unjournaled s.journal parent lba.toNat count ∨ Staging s.journal parent lba.toNat count

/-- What holds of the transfers on a partition. -/
structure TransfersIsolated (drives : List Drive) (p parent : Drive) : Prop where
  readSector : ∀ sector s, Exact p parent sector 1 s (blockDeviceReadSector drives p sector s)
  writeSector : ∀ sector x s, Exact p parent sector 1 s (blockDeviceWriteSector drives p sector x s)
  readSectors : ∀ sector count s,
    Confined p parent sector count s (blockDeviceReadSectors drives p sector count s)
  writeSectors : ∀ sector data s,
    Confined p parent sector data.length s (blockDeviceWriteSectors drives p sector data s)
  readRange : ∀ sector count s, ReadClean drives parent s (p.lbaOffset + sector) count →
    Exact p parent sector count s (blockDeviceReadSectors drives p sector count s) ∧
    (blockDeviceRangeValid p sector count = true →
      blockDeviceReadSectors drives p sector count s =
        readSectorsEach (blockDeviceReadSector drives p) sector count s)
  writeRange : ∀ sector data s, WriteClean drives parent s (p.lbaOffset + sector) data.length →
    Exact p parent sector data.length s (blockDeviceWriteSectors drives p sector data s) ∧
    (blockDeviceRangeValid p sector data.length = true →
      SameEffect (blockDeviceWriteSectors drives p sector data s)
        (writeSectorsEach (blockDeviceWriteSector drives p) sector data s))

section Exact

variable {p parent : Drive} {sector : UInt32} {count : Nat} {s : BlockState} {α : Type} {r : BlockResult α}

theorem Confined.exact_of_ok (h : Confined p parent sector count s r) {x : α} (hok : r.1 = .ok x) :
    Exact p parent sector count s r := by
  rcases h with ⟨e, he⟩ | ⟨hin, hon, as, hacc, -, hall⟩
  · rw [he] at hok
    cases hok
  · rw [hall x hok] at hacc
    exact Or.inr ⟨hin, hon, hacc⟩

theorem Confined.exact_one (h : Confined p parent sector 1 s r) : Exact p parent sector 1 s r := by
  cases hr : r.1 with
  | ok x => exact h.exact_of_ok hr
  | error e =>
    rcases h with ⟨e', he⟩ | ⟨hin, hon, as, hacc, hpre, -⟩
    · exact Or.inl ⟨e, hr, by rw [he]⟩
    · rw [sectorSpan_succ] at hpre
      rcases List.prefix_cons_iff.mp hpre with has | ⟨bs, has, hbs⟩
      · subst has
        exact Or.inl ⟨e, hr, by simpa using hacc⟩
      · have hnil : bs = [] := List.prefix_nil.mp hbs
        subst hnil
        rw [has] at hacc
        exact Or.inr ⟨hin, hon, hacc⟩

end Exact

section Translate

variable {drives : List Drive} {p parent : Drive}

variable {sector : UInt32} {count : Nat}

theorem toNat_translate (hinside : p.lbaOffset.toNat + p.sectors.toNat ≤ parent.sectors.toNat)
    (hs : sector.toNat < p.sectors.toNat) :
    (p.lbaOffset + sector).toNat = p.lbaOffset.toNat + sector.toNat := by
  have hn := parent.sectors.toNat_lt
  rw [UInt32.toNat_add]
  omega

theorem rangeValid_translate (hinside : p.lbaOffset.toNat + p.sectors.toNat ≤ parent.sectors.toNat)
    (hv : blockDeviceRangeValid p sector count = true) :
    sector.toNat < p.sectors.toNat ∧ (p.lbaOffset + sector).toNat + count ≤ parent.sectors.toNat ∧
      blockDeviceRangeValid parent (p.lbaOffset + sector) count = true ∧
      ¬ (parent.sectors - (p.lbaOffset + sector)).toNat < count := by
  obtain ⟨hne, hmax, hin⟩ := rangeValid_le hv
  have hs : sector.toNat < p.sectors.toNat := by omega
  have habs := toNat_translate hinside hs
  have hlt : (p.lbaOffset + sector).toNat < parent.sectors.toNat := by omega
  have hsub : (parent.sectors - (p.lbaOffset + sector)).toNat =
      parent.sectors.toNat - (p.lbaOffset + sector).toNat :=
    UInt32.toNat_sub_of_le _ _ (UInt32.le_of_lt hlt)
  have hroom : count ≤ (parent.sectors - (p.lbaOffset + sector)).toNat := by omega
  have hlt' : p.lbaOffset + sector < parent.sectors := hlt
  refine ⟨hs, by omega, ?_, by omega⟩
  simp [blockDeviceRangeValid, hne, hmax, hlt', hroom]

variable (hp : p.type = .partition)
  (hl : drives[p.parentResource.toNat]? = some parent)
  (htype : parent.type = .ata ∨ parent.type = .ahci)
  (hinside : p.lbaOffset.toNat + p.sectors.toNat ≤ parent.sectors.toNat)

include hp hl htype hinside

theorem partitionParent_placed (hs : sector.toNat < p.sectors.toNat) :
    partitionParent drives p sector = some (parent, p.lbaOffset + sector) := by
  have hn := parent.sectors.toNat_lt
  have habs := toNat_translate hinside hs
  have hvalid : blockDeviceSectorRangeValid p sector = true := sectorRangeValid_of_lt hs
  have hon : blockDeviceSectorRangeValid parent (p.lbaOffset + sector) = true :=
    sectorRangeValid_of_lt (by omega)
  have hnot : parent.type ≠ .partition := by
    rcases htype with ht | ht <;> rw [ht] <;> decide
  have hoff : ¬ parent.sectors ≤ p.lbaOffset := fun hle => by
    have hle' : parent.sectors.toNat ≤ p.lbaOffset.toNat := hle
    omega
  have hwrap : ¬ 0xFFFFFFFF - p.lbaOffset < sector := fun hlt => by
    have hlt' : (0xFFFFFFFF - p.lbaOffset).toNat < sector.toNat := hlt
    have hle : p.lbaOffset ≤ (0xFFFFFFFF : UInt32) :=
      UInt32.le_iff_toNat_le.mpr (by change p.lbaOffset.toNat ≤ 4294967295; omega)
    rw [UInt32.toNat_sub_of_le _ _ hle] at hlt'
    change 4294967295 - p.lbaOffset.toNat < sector.toNat at hlt'
    omega
  unfold partitionParent
  rw [hl]
  simp [hp, hvalid, hnot, hoff, hwrap, hon]

theorem readSector_translate (hs : sector.toNat < p.sectors.toNat) :
    blockDeviceReadSector drives p sector = deviceReadSector drives parent (p.lbaOffset + sector) := by
  funext s
  unfold blockDeviceReadSector
  rw [if_pos hp, sectorRangeValid_of_lt hs, partitionParent_placed hp hl htype hinside hs]
  rfl

theorem writeSector_translate (hs : sector.toNat < p.sectors.toNat) :
    blockDeviceWriteSector drives p sector = deviceWriteSector drives parent (p.lbaOffset + sector) := by
  funext x s
  unfold blockDeviceWriteSector
  rw [if_pos hp, sectorRangeValid_of_lt hs, partitionParent_placed hp hl htype hinside hs]
  rfl

theorem readSectors_translate (s : BlockState) (hv : blockDeviceRangeValid p sector count = true) :
    blockDeviceReadSectors drives p sector count s =
        deviceReadSectors drives parent (p.lbaOffset + sector) count s ∧
      readSectorsEach (blockDeviceReadSector drives p) sector count s =
        readSectorsEach (deviceReadSector drives parent) (p.lbaOffset + sector) count s := by
  obtain ⟨hs, -, -, hroom⟩ := rangeValid_translate hinside hv
  obtain ⟨-, -, hin⟩ := rangeValid_le hv
  constructor
  · unfold blockDeviceReadSectors
    rw [if_pos hp, hv, partitionParent_placed hp hl htype hinside hs]
    exact if_neg hroom
  · exact readEach_shift (fun a ha => readSector_translate hp hl htype hinside ha) count hin s

theorem writeSectors_translate {data : List Sector} (s : BlockState)
    (hv : blockDeviceRangeValid p sector data.length = true) :
    blockDeviceWriteSectors drives p sector data s =
        deviceWriteSectors drives parent (p.lbaOffset + sector) data s ∧
      writeSectorsEach (blockDeviceWriteSector drives p) sector data s =
        writeSectorsEach (deviceWriteSector drives parent) (p.lbaOffset + sector) data s := by
  obtain ⟨hs, -, -, hroom⟩ := rangeValid_translate hinside hv
  obtain ⟨-, -, hin⟩ := rangeValid_le hv
  constructor
  · unfold blockDeviceWriteSectors
    rw [if_pos hp, hv, partitionParent_placed hp hl htype hinside hs]
    exact if_neg hroom
  · exact writeEach_shift (fun a ha => writeSector_translate hp hl htype hinside ha) data hin s

end Translate

section Ahci

variable {drives : List Drive} {parent : Drive}

variable {s : BlockState} {lba : UInt32}

theorem ahciWriteSector_healthy (hs : DeviceHealthy s) (hopen : s.ahciFenced = false)
    (ht : parent.type = .ahci) (hlba : lba.toNat < parent.sectors.toNat) (x : Sector) :
    ∃ s', deviceWriteSector drives parent lba x s = (.ok (), s') ∧ DeviceHealthy s' ∧ s'.ahciFenced = false := by
  have hnot : ¬ parent.sectors ≤ lba := fun hle => by
    have hle' : parent.sectors.toNat ≤ lba.toNat := hle
    omega
  obtain ⟨hok, hwrote⟩ := World.write_healthy hs.fates (parent.addr lba) x
  have hview : (s.disk.write (parent.addr lba) x).2.medium.view (parent.addr lba) = x := by
    rw [hwrote.view]
    exact Function.update_self _ _ _
  have hread := World.read_of_readFates (hwrote.readFates.trans hs.readFates) (parent.addr lba)
  have hboth : andThen (s.disk.write (parent.addr lba) x) (fun w => verifySector w (parent.addr lba) x) =
      (true, (s.disk.write (parent.addr lba) x).2) := by
    unfold andThen verifySector
    rw [if_pos hok]
    dsimp only
    rw [hread, hview]
    simp
  refine ⟨{ s with
    disk := (s.disk.write (parent.addr lba) x).2
    accessed := s.accessed ++ [parent.addr lba] }, ?_,
    ⟨hwrote.fates.trans hs.fates, hwrote.readFates.trans hs.readFates⟩, hopen⟩
  unfold deviceWriteSector
  rw [sectorRangeValid_of_lt hlba, ht]
  change ahciWriteSector parent lba x s = _
  unfold ahciWriteSector
  rw [if_neg (by simp [hnot, hopen])]
  rw [hboth]
  rfl

theorem ahciWriteEach_ok (ht : parent.type = .ahci) (data : List Sector) (hs : DeviceHealthy s)
    (hopen : s.ahciFenced = false) (hn : lba.toNat + data.length ≤ parent.sectors.toNat) :
    (writeSectorsEach (deviceWriteSector drives parent) lba data s).1 = .ok () := by
  induction data generalizing lba s with
  | nil => rfl
  | cons x data ih =>
    simp only [List.length_cons] at hn
    have hbound := parent.sectors.toNat_lt
    obtain ⟨s', hone, hs', hopen'⟩ := @ahciWriteSector_healthy drives parent s lba hs hopen ht (by omega) x
    unfold writeSectorsEach
    rw [hone]
    by_cases hz : data.length = 0
    · rw [List.length_eq_zero_iff.mp hz]
      rfl
    · have hsucc : (lba + 1).toNat = lba.toNat + 1 := toNat_succ (by omega : lba.toNat + (data.length + 1) ≤ _) hz
      exact ih hs' hopen' (by omega)

theorem ahciWriteEach_fenced (ht : parent.type = .ahci) {data : List Sector}
    (hfenced : s.ahciFenced = true) (hne : data ≠ []) (hlba : lba.toNat < parent.sectors.toNat) :
    writeSectorsEach (deviceWriteSector drives parent) lba data s = (.error blockDeviceIo, s) := by
  obtain ⟨x, rest, rfl⟩ := List.exists_cons_of_ne_nil hne
  have hone : deviceWriteSector drives parent lba x s = (.error blockDeviceIo, s) := by
    unfold deviceWriteSector
    rw [sectorRangeValid_of_lt hlba, ht]
    unfold ahciWriteSector
    rw [hfenced]
    simp
  unfold writeSectorsEach
  rw [hone]

end Ahci

section Isolation

variable {drives : List Drive} {p parent : Drive}

variable {lba : UInt32} {s : BlockState}

theorem deviceSectors_ahci (ht : parent.type = .ahci) {data : List Sector} (s : BlockState)
    (hv : blockDeviceRangeValid parent lba data.length = true) :
    deviceWriteSectors drives parent lba data s = writeSectorsEach (deviceWriteSector drives parent) lba data s := by
  unfold deviceWriteSectors
  rw [hv, ht]
  rfl

theorem deviceReadSectors_healthy (htype : parent.type = .ata ∨ parent.type = .ahci) {count : Nat}
    (clean : ReadClean drives parent s lba count)
    (hv : blockDeviceRangeValid parent lba count = true) :
    deviceReadSectors drives parent lba count s =
        readSectorsEach (deviceReadSector drives parent) lba count s ∧
      ∃ xs, (deviceReadSectors drives parent lba count s).1 = .ok xs := by
  obtain ⟨-, -, hin⟩ := rangeValid_le hv
  have heach := readEach_healthy htype count clean.serving clean.healthy hin
  have hmulti : deviceReadSectors drives parent lba count s =
      readSectorsEach (deviceReadSector drives parent) lba count s := by
    unfold deviceReadSectors
    rw [hv]
    by_cases ht : parent.type = .ata
    · rw [heach, if_neg (by simp), if_pos ht]
      exact ataReadSectors_healthy (clean.serving ht) clean.healthy hv (clean.unstaged ht)
    · rw [if_neg (by simp), if_neg ht]
  exact ⟨hmulti, _, by rw [hmulti, heach]⟩

theorem deviceWriteSectors_effect (htype : parent.type = .ata ∨ parent.type = .ahci)
    {data : List Sector} (clean : WriteClean drives parent s lba data.length)
    (hv : blockDeviceRangeValid parent lba data.length = true) :
    SameEffect (deviceWriteSectors drives parent lba data s)
        (writeSectorsEach (deviceWriteSector drives parent) lba data s) ∧
      ((deviceWriteSectors drives parent lba data s).1 = .ok () ∨
        deviceWriteSectors drives parent lba data s = (.error blockDeviceIo, s)) := by
  obtain ⟨hpos, -, hin⟩ := rangeValid_le hv
  have hne : data ≠ [] := fun he => hpos (by rw [he]; rfl)
  rcases htype with ht | ht
  · exact ataWriteSectors_effect (clean.serving ht) clean.healthy ht hv (clean.journal ht)
  · rw [deviceSectors_ahci ht s hv]
    refine ⟨SameEffect.refl _, ?_⟩
    cases hf : s.ahciFenced with
    | false => exact Or.inl (ahciWriteEach_ok ht data clean.healthy hf hin)
    | true => exact Or.inr (ahciWriteEach_fenced ht hf hne (by omega))

theorem transfersIsolated (hp : p.type = .partition)
    (hl : drives[p.parentResource.toNat]? = some parent)
    (htype : parent.type = .ata ∨ parent.type = .ahci)
    (hinside : p.lbaOffset.toNat + p.sectors.toNat ≤ parent.sectors.toNat)
    (own : parent.type = .ata → OwnBase drives parent) : TransfersIsolated drives p parent where
  readSector sector s := (confined_readSector hp hl htype own sector s).exact_one
  writeSector sector x s := (confined_writeSector hp hl htype own sector x s).exact_one
  readSectors := confined_readSectors hp hl htype own
  writeSectors := confined_writeSectors hp hl htype own
  readRange sector count s clean := by
    have hconfined := confined_readSectors hp hl htype own sector count s
    by_cases hv : blockDeviceRangeValid p sector count = true
    · obtain ⟨-, -, hv', -⟩ := rangeValid_translate hinside hv
      obtain ⟨hmulti, heach⟩ := readSectors_translate hp hl htype hinside s hv
      obtain ⟨hsame, xs, hok⟩ := deviceReadSectors_healthy htype clean hv'
      rw [← hmulti] at hok hsame
      exact ⟨hconfined.exact_of_ok hok, fun _ => by rw [hsame, heach]⟩
    · refine ⟨?_, fun h => absurd h hv⟩
      have hrefused : blockDeviceReadSectors drives p sector count s = (.error blockDeviceRange, s) := by
        unfold blockDeviceReadSectors
        rw [if_pos hp, if_pos (by simpa using hv)]
      rw [hrefused]
      exact Or.inl ⟨_, rfl, rfl⟩
  writeRange sector data s clean := by
    have hconfined := confined_writeSectors hp hl htype own sector data s
    by_cases hv : blockDeviceRangeValid p sector data.length = true
    · obtain ⟨-, -, hv', -⟩ := rangeValid_translate hinside hv
      obtain ⟨hmulti, heach⟩ := writeSectors_translate hp hl htype hinside s hv
      obtain ⟨hsame, hend⟩ := deviceWriteSectors_effect htype clean hv'
      rw [← hmulti] at hend hsame
      refine ⟨?_, fun _ => by rw [heach]; exact hsame⟩
      rcases hend with hok | hfenced
      · exact hconfined.exact_of_ok hok
      · exact Or.inl ⟨_, by rw [hfenced], by rw [hfenced]⟩
    · refine ⟨?_, fun h => absurd h hv⟩
      have hrefused : blockDeviceWriteSectors drives p sector data s = (.error blockDeviceRange, s) := by
        unfold blockDeviceWriteSectors
        rw [if_pos hp, if_pos (by simpa using hv)]
      rw [hrefused]
      exact Or.inl ⟨_, rfl, rfl⟩

/-- Discoveries that meet no disk with partitions again publish isolated partitions. -/
theorem partitions_isolated (medias : List Media) (drives : List Drive)
    (start : ∀ d ∈ drives, d.type ≠ .partition) (clean : RunClean medias drives) :
    ((partitionRun medias drives).map Drive.extent).Pairwise Extent.Apart ∧
      ∀ p ∈ partitionRun medias drives, p.type = .partition → ∃ parent,
        (partitionRun medias drives)[p.parentResource.toNat]? = some parent ∧ Placed medias parent p ∧
        ((parent.type = .ata → OwnBase (partitionRun medias drives) parent) →
          TransfersIsolated (partitionRun medias drives) p parent) := by
  have hpub : PublishedTable medias (partitionRun medias drives) :=
    partitionRun_published medias (fun _ h => h) (published_start start) clean
  refine ⟨hpub.apart, fun p hmem hp => ?_⟩
  obtain ⟨parent, hl, hplaced⟩ := hpub.placed p hmem hp
  exact ⟨parent, hl, hplaced, transfersIsolated hp hl hplaced.physical hplaced.inside⟩

end Isolation

open LittleEndian

def smallDisk (base : UInt16) : Drive where
  type := .ata
  base := base
  isMaster := true
  sectors := 4096
  cylinder := 0
  head := 0
  sector := 0
  fddDriveNo := 0
  parentResource := 0
  partitionType := 0
  partitionIndex := 0
  partitionScheme := .none
  partitionTypeGuid := []
  partitionGuid := []
  hasPartitions := false
  lba48Supported := false
  lbaOffset := 0

/-- An MBR with one partition, from sector 2048 to the end of the disk. -/
def oneEntryMbr : Sector :=
  Vector.ofFn fun i =>
    if i.val = 450 then 0x83 else if i.val = 455 ∨ i.val = 459 then 8
    else if i.val = 510 then 0x55 else if i.val = 511 then 0xAA else 0

def firstProvisioned : Media := fun id lba =>
  if id = 0 ∧ lba = 0 then some oneEntryMbr else some (Vector.replicate 512 0)

def bothProvisioned : Media := fun _ lba =>
  if lba = 0 then some oneEntryMbr else some (Vector.replicate 512 0)

def onePartition : PartitionCandidate :=
  ⟨2048, 2048, 0x83, 1, .mbr, List.replicate 16 0, List.replicate 16 0⟩

def OneEntry (v : Sector) : Prop :=
  ∀ i < 512, byte v i = if i = 450 then 0x83 else if i = 455 ∨ i = 459 then 8
    else if i = 510 then 0x55 else if i = 511 then 0xAA else 0

theorem oneEntryMbr_bytes : OneEntry oneEntryMbr := by
  intro i h
  simp [byte, oneEntryMbr, h]

theorem OneEntry.slots {v : Sector} (h : OneEntry v) :
    mbrSlots 4096 v = some (false, [onePartition]) := by
  unfold OneEntry at h
  have hfirst : mbrSlot 4096 v 0 (false, []) = some (false, [onePartition]) := by
    simp [mbrSlot, get32, LittleEndian.get, h, onePartition]
  have hempty : ∀ slot, slot = 1 ∨ slot = 2 ∨ slot = 3 → ∀ r, mbrSlot 4096 v slot r = some r := by
    rintro slot (rfl | rfl | rfl) r
    · simp [mbrSlot, get32, LittleEndian.get, h]
    · simp [mbrSlot, get32, LittleEndian.get, h]
    · simp [mbrSlot, get32, LittleEndian.get, h]
  unfold mbrSlots
  rw [hfirst, Option.bind_some, hempty 1 (.inl rfl), Option.bind_some,
    hempty 2 (.inr (.inl rfl)), Option.bind_some, hempty 3 (.inr (.inr rfl))]

theorem partitionCandidates_mbr {read : UInt32 → Option Sector} {parent : Drive} {v : Sector}
    (hv : OneEntry v) (hread : read 0 = some v) (htype : parent.type = .ata)
    (hsectors : parent.sectors = 4096) : partitionCandidates read parent = some [onePartition] := by
  have hvalid : candidatesValid [onePartition] = true := by decide
  have hsignature : ¬ (byte v 510 ≠ 0x55 ∨ byte v 511 ≠ 0xAA) := by
    unfold OneEntry at hv
    simp [hv]
  have hparent : ¬ ((parent.type ≠ .ata ∧ parent.type ≠ .ahci) ∨ parent.sectors = 0) := by
    rw [htype, hsectors]
    decide
  unfold partitionCandidates
  rw [if_neg hparent, hread, Option.bind_some, if_neg hsignature, hsectors, hv.slots,
    Option.bind_some]
  simp [hvalid]

theorem partitionCandidates_none {read : UInt32 → Option Sector} {parent : Drive}
    (h : parent.type = .partition ∨ read 0 = some (Vector.replicate 512 0)) :
    partitionCandidates read parent = none := by
  unfold partitionCandidates
  rcases h with htype | hread
  · simp [htype]
  · split
    next => rfl
    next =>
      rw [hread, Option.bind_some, if_pos]
      simp [byte]

theorem partitionRun_again {first both : Media}
    (hfirst : partitionCandidates (first 0) (smallDisk 0x1F0) = some [onePartition])
    (hempty : partitionCandidates (first 1) (smallDisk 0x170) = none)
    (hagain : partitionCandidates (both 0) { smallDisk 0x1F0 with hasPartitions := true } =
      some [onePartition])
    (hsecond : partitionCandidates (both 1) (smallDisk 0x170) = some [onePartition]) :
    partitionRun [first, both] [smallDisk 0x1F0, smallDisk 0x170] =
      [{ smallDisk 0x1F0 with hasPartitions := true },
        { smallDisk 0x170 with hasPartitions := true }, publishedDrive 0 2 onePartition,
        publishedDrive 0 3 onePartition, publishedDrive 1 4 onePartition] := by
  have hchild : partitionCandidates (both 2) (publishedDrive 0 2 onePartition) = none :=
    partitionCandidates_none (.inl rfl)
  have hone : (partitionDiscover first [smallDisk 0x1F0, smallDisk 0x170]).2 =
      [{ smallDisk 0x1F0 with hasPartitions := true }, smallDisk 0x170,
        publishedDrive 0 2 onePartition] := by
    simp [partitionDiscover, List.range_succ, discoverParent, hfirst, hempty, publish,
      publishChildren, maxDrives]
  have htwo : (partitionDiscover both
      [{ smallDisk 0x1F0 with hasPartitions := true }, smallDisk 0x170,
        publishedDrive 0 2 onePartition]).2 =
      [{ smallDisk 0x1F0 with hasPartitions := true },
        { smallDisk 0x170 with hasPartitions := true }, publishedDrive 0 2 onePartition,
        publishedDrive 0 3 onePartition, publishedDrive 1 4 onePartition] := by
    simp [partitionDiscover, List.range_succ, discoverParent, hagain, hsecond, hchild, publish,
      publishChildren, maxDrives]
  unfold partitionRun
  rw [hone]
  unfold partitionRun
  rw [htwo]
  rfl

theorem oneEntryMbr_candidates :
    partitionCandidates (firstProvisioned 0) (smallDisk 0x1F0) = some [onePartition] :=
  partitionCandidates_mbr oneEntryMbr_bytes rfl rfl rfl

theorem rediscovered_extents :
    (partitionRun [firstProvisioned, bothProvisioned] [smallDisk 0x1F0, smallDisk 0x170]).map Drive.extent =
      [(smallDisk 0x1F0).extent, (smallDisk 0x170).extent, onePartition.extent 0, onePartition.extent 0,
        onePartition.extent 1] := by
  rw [partitionRun_again oneEntryMbr_candidates (partitionCandidates_none (.inr rfl))
    (partitionCandidates_mbr oneEntryMbr_bytes rfl rfl rfl)
    (partitionCandidates_mbr oneEntryMbr_bytes rfl rfl rfl)]
  rfl

theorem rediscovered_partition_overlaps :
    ¬ ((partitionRun [firstProvisioned, bothProvisioned] [smallDisk 0x1F0, smallDisk 0x170]).map
      Drive.extent).Pairwise Extent.Apart := by
  rw [rediscovered_extents]
  intro h
  have htwice := (List.pairwise_cons.mp (List.pairwise_cons.mp (List.pairwise_cons.mp h).2).2).1
    (onePartition.extent 0) List.mem_cons_self
  exact absurd (htwice rfl rfl rfl) (by decide)

theorem firstProvisioned_clean : RunClean [firstProvisioned] [smallDisk 0x1F0] := by
  refine ⟨⟨⟨fun parent items hp _ _ _ => ?_, fun parent items g hp hc hg _ => ?_⟩, trivial⟩, trivial⟩
  · cases Option.some.inj hp
    rfl
  · cases Option.some.inj hp
    cases Option.some.inj (oneEntryMbr_candidates.symm.trans hc)
    obtain ⟨c, hc, hs⟩ := hg
    rw [List.mem_singleton.mp hc] at hs
    cases hs

/-- The one partition of a fresh disk is isolated. -/
theorem partitions_isolated_one :
    ((partitionRun [firstProvisioned] [smallDisk 0x1F0]).map Drive.extent).Pairwise Extent.Apart ∧
      ∀ p ∈ partitionRun [firstProvisioned] [smallDisk 0x1F0], p.type = .partition → ∃ parent,
        (partitionRun [firstProvisioned] [smallDisk 0x1F0])[p.parentResource.toNat]? = some parent ∧
        Placed [firstProvisioned] parent p ∧
        ((parent.type = .ata → OwnBase (partitionRun [firstProvisioned] [smallDisk 0x1F0]) parent) →
          TransfersIsolated (partitionRun [firstProvisioned] [smallDisk 0x1F0]) p parent) :=
  partitions_isolated [firstProvisioned] [smallDisk 0x1F0]
    (fun d hd => by rw [List.mem_singleton.mp hd]; decide) firstProvisioned_clean

end ReistOs
