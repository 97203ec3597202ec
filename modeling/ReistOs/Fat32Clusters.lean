import ReistOs.Sector

/-! The search for a free cluster in `fs/fat32/fat32_cluster.c`. A field is the number in its
unsigned type. -/

namespace ReistOs.Fat32

open LittleEndian

def invalidCluster : Nat := 0xFFFFFFFF
def reservedMin : Nat := 0x0FFFFFF0

structure BootSector where
  bytesPerSector : Nat
  sectorsPerCluster : Nat
  reservedSectorCount : Nat
  numberOfFats : Nat
  totalSectors32 : Nat
  fatSize32 : Nat
  flags : Nat

structure Fsinfo where
  nextFreeCluster : Nat
  valid : Bool

namespace BootSector

variable (b : BootSector)

def metadata : Nat := b.reservedSectorCount + b.numberOfFats * b.fatSize32

def getTotalClusters : Nat :=
  if b.sectorsPerCluster = 0 then 2
  else if b.totalSectors32 ≤ b.metadata then 0
  else (b.totalSectors32 - b.metadata) / b.sectorsPerCluster

def isValidCluster (cluster : Nat) : Bool :=
  2 ≤ cluster ∧ cluster < reservedMin ∧ b.getTotalClusters ≠ 0 ∧ cluster ≤ b.getTotalClusters + 1

def activeFatIndex : Nat := if b.flags &&& 0x80 = 0 then 0 else b.flags &&& 0xF

/-- What a mount at the given sector asks of the fields that are kept here. -/
def Mountable (partitionLba : Nat) : Prop :=
  b.bytesPerSector = 512 ∧ b.sectorsPerCluster ≠ 0 ∧
    (b.flags &&& 0x80 = 0 ∨ b.flags &&& 0xF < b.numberOfFats) ∧ b.numberOfFats ≠ 0 ∧
    b.metadata < b.totalSectors32 ∧ b.getTotalClusters < reservedMin - 1 ∧
    b.getTotalClusters + 2 ≤ b.fatSize32 * 512 / 4 ∧ partitionLba + b.totalSectors32 ≤ 2 ^ 32

end BootSector

variable (readFatSector : Nat → Option Sector) (partitionLba : Nat) (b : BootSector)

def readFatEntry (cluster : Nat) : Nat :=
  if b.isValidCluster cluster then
    let fatOffset := cluster * 4 % 2 ^ 32
    let fatSector := (partitionLba + b.reservedSectorCount + b.activeFatIndex * b.fatSize32 +
      fatOffset / b.bytesPerSector) % 2 ^ 32
    ((readFatSector fatSector).map fun buffer =>
      get buffer (fatOffset % b.bytesPerSector) 4 % 2 ^ 28).getD invalidCluster
  else invalidCluster

/-- A search loop: the free cluster, if there is one, and the number of entries read. -/
def scan (entry : Nat → Nat) (stop : Nat) : Nat → Nat → Option (Option Nat × Nat)
  | 0, _ => none
  | fuel + 1, cluster =>
    if cluster < stop then
      if entry cluster = 0 then some (some cluster, 1)
      else (scan entry stop fuel ((cluster + 1) % 2 ^ 32)).map fun (found, reads) =>
        (found, reads + 1)
    else some (none, 0)

structure Search where
  cluster : Nat
  nextFreeCluster : Nat
  reads : Nat

def startCluster (fsinfo : Fsinfo) (last : Nat) : Nat :=
  if fsinfo.valid ∧ fsinfo.nextFreeCluster ≠ 0xFFFFFFFF ∧ 2 ≤ fsinfo.nextFreeCluster ∧
      fsinfo.nextFreeCluster ≤ last then fsinfo.nextFreeCluster
  else 2

/-- The search with the hint it leaves; `none` is a loop that outlasts its fuel. -/
def findFreeCluster (fuel : Nat) (fsinfo : Fsinfo) : Option Search :=
  let entry := readFatEntry readFatSector partitionLba b
  let last := (b.getTotalClusters + 1) % 2 ^ 32
  let start := startCluster fsinfo last
  let hint (next : Nat) := if fsinfo.valid then next else fsinfo.nextFreeCluster
  (scan entry (last + 1) fuel start).bind fun (found, reads) =>
    match found with
    | some cluster =>
      some ⟨cluster, hint (if cluster < last then cluster + 1 else 0xFFFFFFFF), reads⟩
    | none =>
      (if start > 2 then scan entry start fuel 2 else some (none, 0)).map fun (wrapped, more) =>
        match wrapped with
        | some cluster => ⟨cluster, hint (cluster + 1), reads + more⟩
        | none => ⟨invalidCluster, fsinfo.nextFreeCluster, reads + more⟩

/-- A cluster in range whose entry can be read and has no bit set below the reserved four. -/
def FreeCluster (cluster : Nat) : Prop :=
  2 ≤ cluster ∧ cluster < b.getTotalClusters + 2 ∧
    ∃ buffer, readFatSector (partitionLba + b.reservedSectorCount +
        b.activeFatIndex * b.fatSize32 + cluster / 128) = some buffer ∧
      get buffer (cluster % 128 * 4) 4 % 2 ^ 28 = 0

variable {readFatSector} {partitionLba} {b} {cluster fuel : Nat}

theorem readFatEntry_eq_zero (hb : b.Mountable partitionLba) (hlow : 2 ≤ cluster)
    (hhigh : cluster < b.getTotalClusters + 2) :
    readFatEntry readFatSector partitionLba b cluster = 0 ↔
      FreeCluster readFatSector partitionLba b cluster := by
  obtain ⟨hbytes, -, hflags, hfats, hmeta, hcount, hentries, hend⟩ := hb
  unfold reservedMin at hcount
  have hvalid : b.isValidCluster cluster := by
    unfold BootSector.isValidCluster reservedMin
    rw [decide_eq_true_eq]
    omega
  have hactive : b.activeFatIndex < b.numberOfFats := by
    unfold BootSector.activeFatIndex
    split
    next => omega
    next hset => exact hflags.resolve_left hset
  have hfat : (b.activeFatIndex + 1) * b.fatSize32 ≤ b.numberOfFats * b.fatSize32 :=
    Nat.mul_le_mul_right _ hactive
  rw [Nat.add_one_mul] at hfat
  unfold BootSector.metadata at hmeta
  have hoffset : cluster * 4 % 2 ^ 32 = cluster * 4 := by omega
  have hsector : cluster * 4 / 512 = cluster / 128 := by omega
  have hinside : cluster * 4 % 512 = cluster % 128 * 4 := by omega
  simp only [readFatEntry, hvalid, if_true, hbytes, hoffset, hsector, hinside]
  have hsum : partitionLba + b.reservedSectorCount + b.activeFatIndex * b.fatSize32 +
      cluster / 128 < 2 ^ 32 := by omega
  rw [Nat.mod_eq_of_lt hsum]
  cases hread : readFatSector (partitionLba + b.reservedSectorCount +
      b.activeFatIndex * b.fatSize32 + cluster / 128) with
  | none => simp [FreeCluster, hread, invalidCluster]
  | some buffer => simp [FreeCluster, hread, hlow, hhigh]

/-- A loop comes back with a free cluster, or has passed none. -/
def Scanned (entry : Nat → Nat) (start stop : Nat) (result : Option (Option Nat × Nat)) : Prop :=
  ∃ found reads, result = some (found, reads) ∧ start + reads ≤ stop ∧
    (∀ c, found = some c → start ≤ c ∧ c < stop ∧ entry c = 0) ∧
    (found = none → ∀ c, start ≤ c → c < stop → entry c ≠ 0)

theorem scan_spec (entry : Nat → Nat) {start stop : Nat} (hstop : stop < 2 ^ 32)
    (hstart : start ≤ stop) (hfuel : stop - start < fuel) :
    Scanned entry start stop (scan entry stop fuel start) := by
  induction fuel generalizing start with
  | zero => omega
  | succ fuel ih =>
    unfold scan
    split
    next hin =>
      split
      next hfree => exact ⟨some start, 1, rfl, by omega, by simp [hin, hfree], by simp⟩
      next hfree =>
        rw [Nat.mod_eq_of_lt (by omega)]
        obtain ⟨found, reads, hrest, hreads, hsome, hnone⟩ := ih hin (by omega)
        refine ⟨found, reads + 1, by rw [hrest]; rfl, by omega, ?_, ?_⟩
        · intro c hc
          obtain ⟨hle, hlt, hzero⟩ := hsome c hc
          exact ⟨by omega, hlt, hzero⟩
        · intro hn c hle hlt
          obtain rfl | hne := Nat.eq_or_lt_of_le hle
          · exact hfree
          · exact hnone hn c hne hlt
    next hout => exact ⟨none, 0, rfl, by omega, by simp, fun _ c hle hlt => by omega⟩

theorem startCluster_spec (fsinfo : Fsinfo) {last : Nat} (h : 1 ≤ last) :
    2 ≤ startCluster fsinfo last ∧ startCluster fsinfo last ≤ last + 1 := by
  unfold startCluster
  split
  next => omega
  next => omega

/-- A search that ends within one round, with a free cluster unless there is none. -/
def Completes (b : BootSector) (free : Nat → Prop) (result : Option Search) : Prop :=
  ∃ search, result = some search ∧ search.reads ≤ b.getTotalClusters ∧
    ((∃ c, free c) → free search.cluster) ∧ (search.cluster = invalidCluster ↔ ¬ ∃ c, free c)

theorem findFreeCluster_complete (hb : b.Mountable partitionLba)
    (hfuel : b.getTotalClusters < fuel) (fsinfo : Fsinfo) :
    Completes b (FreeCluster readFatSector partitionLba b)
      (findFreeCluster readFatSector partitionLba b fuel fsinfo) := by
  have hcount := hb.2.2.2.2.2.1
  unfold reservedMin at hcount
  have hfree : FreeCluster readFatSector partitionLba b = fun c =>
      2 ≤ c ∧ c < b.getTotalClusters + 2 ∧ readFatEntry readFatSector partitionLba b c = 0 := by
    funext c
    apply propext
    constructor
    · exact fun h => ⟨h.1, h.2.1, (readFatEntry_eq_zero hb h.1 h.2.1).mpr h⟩
    · exact fun h => (readFatEntry_eq_zero hb h.1 h.2.1).mp h.2.2
  rw [hfree]
  unfold findFreeCluster
  dsimp only
  rw [Nat.mod_eq_of_lt (show b.getTotalClusters + 1 < 2 ^ 32 by omega)]
  obtain ⟨hlow, hhigh⟩ := startCluster_spec fsinfo (show 1 ≤ b.getTotalClusters + 1 by omega)
  generalize startCluster fsinfo (b.getTotalClusters + 1) = start at hlow hhigh
  generalize readFatEntry readFatSector partitionLba b = entry
  have hfound : ∀ c next reads, 2 ≤ c ∧ c < b.getTotalClusters + 2 ∧ entry c = 0 →
      reads ≤ b.getTotalClusters → Completes b (fun c => 2 ≤ c ∧ c < b.getTotalClusters + 2 ∧
        entry c = 0) (some ⟨c, next, reads⟩) := by
    intro c next reads hc hreads
    refine ⟨_, rfl, hreads, fun _ => hc, fun h => ?_, fun h => absurd ⟨c, hc⟩ h⟩
    simp only [invalidCluster] at h
    omega
  obtain ⟨found, reads, hfirst, hreads, hsome, hnone⟩ :=
    scan_spec entry (show b.getTotalClusters + 1 + 1 < 2 ^ 32 by omega) hhigh
      (show _ < fuel by omega)
  rw [hfirst]
  cases found with
  | some c =>
    obtain ⟨hle, hlt, hzero⟩ := hsome c rfl
    exact hfound c _ reads ⟨by omega, hlt, hzero⟩ (by omega)
  | none =>
    have hloop : Scanned entry 2 start
        (if start > 2 then scan entry start fuel 2 else some (none, 0)) := by
      split
      next => exact scan_spec entry (by omega) hlow (by omega)
      next => exact ⟨none, 0, rfl, by omega, by simp, fun _ c hle hlt => by omega⟩
    obtain ⟨wrapped, more, hsecond, hmore, hsome', hnone'⟩ := hloop
    rw [Option.bind_some, hsecond]
    cases wrapped with
    | some c =>
      obtain ⟨hle, hlt, hzero⟩ := hsome' c rfl
      exact hfound c _ _ ⟨hle, by omega, hzero⟩ (by omega)
    | none =>
      have hfull : ¬ ∃ c, 2 ≤ c ∧ c < b.getTotalClusters + 2 ∧ entry c = 0 := by
        rintro ⟨c, hc, hlt, hzero⟩
        by_cases hbefore : c < start
        · exact hnone' rfl c hc hbefore hzero
        · exact hnone rfl c (by omega) hlt hzero
      exact ⟨_, rfl, by dsimp only; omega, fun h => absurd h hfull, fun _ => hfull, fun _ => rfl⟩

/-- One cluster behind one FAT, with a hint far outside. -/
theorem one_cluster_found :
    Completes ⟨512, 1, 1, 1, 3, 1, 0⟩ (FreeCluster (fun _ => some zero) 0 ⟨512, 1, 1, 1, 3, 1, 0⟩)
      (findFreeCluster (fun _ => some zero) 0 ⟨512, 1, 1, 1, 3, 1, 0⟩ 2 ⟨70, true⟩) :=
  findFreeCluster_complete (by unfold BootSector.Mountable; decide) (by decide) _

end ReistOs.Fat32
