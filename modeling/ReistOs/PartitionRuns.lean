import ReistOs.PartitionDiscovery

/-! The partitions that any sequence of discoveries publishes. -/

namespace ReistOs

structure Extent where
  type : DriveType
  parentResource : UInt8
  lbaOffset : UInt32
  sectors : UInt32
  deriving DecidableEq

def Drive.extent (d : Drive) : Extent := ⟨d.type, d.parentResource, d.lbaOffset, d.sectors⟩

def Extent.Apart (a b : Extent) : Prop :=
  a.type = .partition → b.type = .partition → a.parentResource = b.parentResource →
    a.lbaOffset.toNat + a.sectors.toNat ≤ b.lbaOffset.toNat ∨
      b.lbaOffset.toNat + b.sectors.toNat ≤ a.lbaOffset.toNat

/-- A partition inside its parent; one from a GPT read in some discovery is also inside
the usable range of that table, and in front of the table's backup. -/
structure Placed (seen : List Media) (parent child : Drive) : Prop where
  physical : parent.type = .ata ∨ parent.type = .ahci
  nonempty : child.sectors ≠ 0
  inside : child.lbaOffset.toNat + child.sectors.toNat ≤ parent.sectors.toNat
  usable : child.partitionScheme = .gpt → ∃ media ∈ seen, ∃ g,
    readGptHeader (media child.parentResource.toNat) parent.sectors = some g ∧
    InUsableRange g child.lbaOffset child.sectors ∧
    child.lbaOffset.toNat + child.sectors.toNat + g.tableSectors.toNat < parent.sectors.toNat

structure PublishedTable (seen : List Media) (drives : List Drive) : Prop where
  placed : ∀ child ∈ drives, child.type = .partition →
    ∃ parent, drives[child.parentResource.toNat]? = some parent ∧ Placed seen parent child
  marked : ∀ child ∈ drives, child.type = .partition → ∀ parent,
    drives[child.parentResource.toNat]? = some parent → parent.hasPartitions = true
  apart : (drives.map Drive.extent).Pairwise Extent.Apart

/-- A disk that is discovered with tables to publish has no partitions yet, and a GPT on it
leaves room for its backup behind the usable range. -/
structure DiscoveryClean (media : Media) (drives : List Drive) (parentId : Nat) : Prop where
  fresh : ∀ parent items, drives[parentId]? = some parent →
    partitionCandidates (media parentId) parent = some items → items.length ≠ 0 →
    drives.length + items.length ≤ maxDrives → parent.hasPartitions = false
  backup : ∀ parent items g, drives[parentId]? = some parent →
    partitionCandidates (media parentId) parent = some items → (∃ c ∈ items, c.scheme = .gpt) →
    readGptHeader (media parentId) parent.sectors = some g →
    g.lastUsable.toNat + g.tableSectors.toNat + 1 < parent.sectors.toNat

section Publish

variable {parentId : Nat} {items : List PartitionCandidate} {drives : List Drive}

theorem publishChildren_mem {child : Drive} (h : child ∈ publishChildren parentId items drives) :
    child ∈ drives ∨ ∃ item ∈ items, ∃ n, child = publishedDrive parentId n item := by
  induction items generalizing drives with
  | nil => exact Or.inl h
  | cons item items ih =>
    rcases ih h with hold | ⟨other, ho, n, hn⟩
    · rcases List.mem_append.mp hold with hold | hnew
      · exact Or.inl hold
      · exact Or.inr ⟨item, List.mem_cons_self, drives.length, List.mem_singleton.mp hnew⟩
    · exact Or.inr ⟨other, List.mem_cons_of_mem _ ho, n, hn⟩

theorem publishChildren_getElem? (items : List PartitionCandidate) {i : Nat} (h : i < drives.length) :
    (publishChildren parentId items drives)[i]? = drives[i]? := by
  induction items generalizing drives with
  | nil => rfl
  | cons item items ih =>
    have hlen : i < (drives ++ [publishedDrive parentId drives.length item]).length := by
      simp only [List.length_append, List.length_singleton]
      omega
    have hrest := ih hlen
    rw [List.getElem?_append_left h] at hrest
    exact hrest

def PartitionCandidate.extent (parentId : Nat) (c : PartitionCandidate) : Extent :=
  ⟨.partition, UInt8.ofNat parentId, c.firstLba, c.sectors⟩

theorem publishChildren_extent (parentId : Nat) (items : List PartitionCandidate) (drives : List Drive) :
    (publishChildren parentId items drives).map Drive.extent =
      drives.map Drive.extent ++ items.map (PartitionCandidate.extent parentId) := by
  induction items generalizing drives with
  | nil => simp [publishChildren]
  | cons item items ih =>
    have hone : (publishedDrive parentId drives.length item).extent =
        PartitionCandidate.extent parentId item := rfl
    have hrest := ih (drives ++ [publishedDrive parentId drives.length item])
    unfold publishChildren
    simpa [hone, List.append_assoc] using hrest

theorem map_extent_modify (drives : List Drive) (i : Nat) :
    (drives.modify i fun parent => { parent with hasPartitions := true }).map Drive.extent =
      drives.map Drive.extent := by
  induction drives generalizing i with
  | nil => simp
  | cons d drives ih =>
    cases i with
    | zero => simp [Drive.extent]
    | succ i => simp [ih]

theorem CandidatesFit.extent_apart {read : UInt32 → Option Sector} {n : UInt32}
    (h : CandidatesFit read n items) :
    (items.map (PartitionCandidate.extent parentId)).Pairwise Extent.Apart := by
  rw [List.pairwise_map]
  refine h.apart.imp fun hab => ?_
  intro _ _ _
  exact hab

end Publish

section Step

variable {seen : List Media} {media : Media} {drives : List Drive} {parentId : Nat} {parent : Drive}
  {items : List PartitionCandidate}

/-- The table after `publish`: the old drives stay where they are, and only the flag of
the parent changes. -/
def publishedDrives (parentId : Nat) (items : List PartitionCandidate) (drives : List Drive) :
    List Drive :=
  (publishChildren parentId items drives).modify parentId fun parent =>
    { parent with hasPartitions := true }

theorem publishedDrives_lookup (parentId : Nat) (items : List PartitionCandidate) {i : Nat} {d : Drive} (hd : drives[i]? = some d) :
    ∃ p, (publishedDrives parentId items drives)[i]? = some { d with hasPartitions := p } ∧
      (d.hasPartitions = true ∨ parentId = i → p = true) := by
  obtain ⟨hi, -⟩ := List.getElem?_eq_some_iff.mp hd
  unfold publishedDrives
  rw [List.getElem?_modify, publishChildren_getElem? items hi, hd]
  by_cases he : parentId = i
  · exact ⟨true, by simp [he], fun _ => rfl⟩
  · exact ⟨d.hasPartitions, by simp [he], fun hor => hor.resolve_right he⟩

variable {child : Drive} {c : PartitionCandidate} {n : Nat}

theorem publishedDrives_mem (h : child ∈ publishedDrives parentId items drives) :
    ∃ d p, (d ∈ drives ∨ ∃ item ∈ items, ∃ n, d = publishedDrive parentId n item) ∧
      child = { d with hasPartitions := p } := by
  obtain ⟨i, hi⟩ := List.mem_iff_getElem?.mp h
  unfold publishedDrives at hi
  rw [List.getElem?_modify] at hi
  obtain ⟨d, hd, he⟩ := Option.map_eq_some_iff.mp hi
  have hmem := publishChildren_mem (List.mem_iff_getElem?.mpr ⟨i, hd⟩)
  split at he
  next => exact ⟨d, true, hmem, he.symm⟩
  next => exact ⟨d, d.hasPartitions, hmem, he.symm⟩

theorem Placed.flagged {p c : Bool} (h : Placed seen parent child) :
    Placed seen { parent with hasPartitions := p } { child with hasPartitions := c } :=
  ⟨h.physical, h.nonempty, h.inside, h.usable⟩

theorem CandidatesFit.placed (hm : media ∈ seen)
    (hresource : (UInt8.ofNat parentId).toNat = parentId) (hp : drives[parentId]? = some parent)
    (hc : partitionCandidates (media parentId) parent = some items)
    (clean : DiscoveryClean media drives parentId) (h : c ∈ items) :
    Placed seen parent (publishedDrive parentId n c) := by
  obtain ⟨htype, hfit⟩ := partitionCandidates_fit hc
  refine ⟨htype, hfit.nonempty c h, hfit.inside c h, fun hg => ?_⟩
  obtain ⟨g, hread, hrange⟩ := hfit.usable c h hg
  have hbackup := clean.backup parent items g hp hc ⟨c, h, hg⟩ hread
  have hlast := hrange.last
  refine ⟨media, hm, g, ?_, hrange, ?_⟩
  · change readGptHeader (media (UInt8.ofNat parentId).toNat) parent.sectors = some g
    rw [hresource]
    exact hread
  · change c.firstLba.toNat + c.sectors.toNat + g.tableSectors.toNat < parent.sectors.toNat
    omega

/-- A table that gets the children of a childless parent. -/
structure PublishingTable (media : Media) (drives : List Drive) (parentId : Nat) (parent : Drive)
    (items : List PartitionCandidate) : Prop where
  lookup : drives[parentId]? = some parent
  candidates : partitionCandidates (media parentId) parent = some items
  resource : (UInt8.ofNat parentId).toNat = parentId
  fresh : parent.hasPartitions = false

theorem PublishingTable.lookup_child (hp : PublishingTable media drives parentId parent items) :
    drives[(publishedDrive parentId n c).parentResource.toNat]? = some parent := by
  have he := hp.lookup
  rw [← hp.resource] at he
  exact he

section

variable (h : PublishedTable seen drives)
include h

theorem PublishedTable.childless (hp : PublishingTable media drives parentId parent items)
    (hm : child ∈ drives) (htype : child.type = .partition) :
    child.parentResource.toNat ≠ parentId := by
  intro he
  have hmarked := h.marked child hm htype parent (by rw [he]; exact hp.lookup)
  rw [hp.fresh] at hmarked
  cases hmarked

theorem publishedDrives_placed (hm : media ∈ seen)
    (hp : PublishingTable media drives parentId parent items)
    (clean : DiscoveryClean media drives parentId)
    (hc : child ∈ publishedDrives parentId items drives) (htype : child.type = .partition) :
    ∃ owner, (publishedDrives parentId items drives)[child.parentResource.toNat]? = some owner ∧
      Placed seen owner child := by
  obtain ⟨d, q, hd, rfl⟩ := publishedDrives_mem hc
  have hd' : ∃ owner, drives[d.parentResource.toNat]? = some owner ∧ Placed seen owner d := by
    rcases hd with hd | ⟨c, hcm, n, rfl⟩
    · exact h.placed d hd htype
    · exact ⟨parent, hp.lookup_child, CandidatesFit.placed hm hp.resource hp.lookup hp.candidates clean hcm⟩
  obtain ⟨owner, howner, hplaced⟩ := hd'
  obtain ⟨p, hp', -⟩ := publishedDrives_lookup parentId items howner
  exact ⟨_, hp', hplaced.flagged⟩

theorem publishedDrives_marked (hp : PublishingTable media drives parentId parent items)
    (hc : child ∈ publishedDrives parentId items drives) (htype : child.type = .partition)
    {other : Drive}
    (hother : (publishedDrives parentId items drives)[child.parentResource.toNat]? = some other) :
    other.hasPartitions = true := by
  obtain ⟨d, q, hd, rfl⟩ := publishedDrives_mem hc
  have hd' : ∃ owner, drives[d.parentResource.toNat]? = some owner ∧
      (owner.hasPartitions = true ∨ parentId = d.parentResource.toNat) := by
    rcases hd with hd | ⟨c, -, n, rfl⟩
    · obtain ⟨owner, howner, -⟩ := h.placed d hd htype
      exact ⟨owner, howner, Or.inl (h.marked d hd htype owner howner)⟩
    · exact ⟨parent, hp.lookup_child, Or.inr hp.resource.symm⟩
  obtain ⟨owner, howner, hmark⟩ := hd'
  obtain ⟨p, hp', hset⟩ := publishedDrives_lookup parentId items howner
  rw [hp'] at hother
  cases Option.some.inj hother
  exact hset hmark

theorem publishedDrives_apart (hp : PublishingTable media drives parentId parent items) :
    ((publishedDrives parentId items drives).map Drive.extent).Pairwise Extent.Apart := by
  have hfit := (partitionCandidates_fit hp.candidates).2
  unfold publishedDrives
  rw [map_extent_modify, publishChildren_extent, List.pairwise_append]
  refine ⟨h.apart, hfit.extent_apart, ?_⟩
  intro a ha b hb htype _ hsame
  obtain ⟨d, hd, rfl⟩ := List.mem_map.mp ha
  obtain ⟨c, -, rfl⟩ := List.mem_map.mp hb
  have he : d.parentResource.toNat = parentId := (congrArg UInt8.toNat hsame).trans hp.resource
  exact absurd he (h.childless hp hd htype)

theorem publish_published (hm : media ∈ seen) (hp : drives[parentId]? = some parent)
    (hc : partitionCandidates (media parentId) parent = some items)
    (clean : DiscoveryClean media drives parentId) :
    PublishedTable seen (publish parentId items drives).2 := by
  unfold publish
  split
  next => exact h
  next hroom =>
    obtain ⟨hne, hfits⟩ := not_or.mp hroom
    have hfew : drives.length + items.length ≤ maxDrives := by omega
    have hmax : maxDrives = 22 := rfl
    have hsize : UInt8.size = 256 := rfl
    obtain ⟨hlt, -⟩ := List.getElem?_eq_some_iff.mp hp
    have hpub : PublishingTable media drives parentId parent items :=
      ⟨hp, hc, UInt8.toNat_ofNat_of_lt (by omega), clean.fresh parent items hp hc hne hfew⟩
    exact ⟨fun _ hchild htype => publishedDrives_placed h hm hpub clean hchild htype,
      fun _ hchild htype _ hother => publishedDrives_marked h hpub hchild htype hother,
      publishedDrives_apart h hpub⟩

theorem discoverParent_published (hm : media ∈ seen) (clean : DiscoveryClean media drives parentId) :
    PublishedTable seen (discoverParent media drives parentId).2 := by
  unfold discoverParent
  split
  next => exact h
  next hp =>
    split
    next => exact h
    next hc => exact publish_published h hm hp hc clean

end

end Step

variable {seen : List Media} {media : Media}

def discoverParents (media : Media) (ids : List Nat) (drives : List Drive) : List Drive :=
  ids.foldl (fun drives parentId => (discoverParent media drives parentId).2) drives

theorem partitionDiscover_drives (media : Media) (drives : List Drive) :
    (partitionDiscover media drives).2 = if maxDrives < drives.length then drives
      else discoverParents media (List.range drives.length) drives := by
  unfold partitionDiscover discoverParents
  split
  next => rfl
  next hfew =>
    clear hfew
    generalize List.range drives.length = ids
    generalize 0 = published
    induction ids generalizing drives published with
    | nil => rfl
    | cons id ids ih =>
      exact ih (discoverParent media drives id).2 (published + (discoverParent media drives id).1)

def DiscoveriesClean (media : Media) : List Nat → List Drive → Prop
  | [], _ => True
  | id :: ids, drives =>
    DiscoveryClean media drives id ∧ DiscoveriesClean media ids (discoverParent media drives id).2

variable {drives : List Drive}

theorem discoverParents_published (hm : media ∈ seen) (ids : List Nat)
    (h : PublishedTable seen drives) (clean : DiscoveriesClean media ids drives) :
    PublishedTable seen (discoverParents media ids drives) := by
  induction ids generalizing drives with
  | nil => exact h
  | cons id ids ih => exact ih (discoverParent_published h hm clean.1) clean.2

/-- Calls of `partition_discover`, each on the contents the disks then have. -/
def partitionRun : List Media → List Drive → List Drive
  | [], drives => drives
  | media :: rest, drives => partitionRun rest (partitionDiscover media drives).2

def RunClean : List Media → List Drive → Prop
  | [], _ => True
  | media :: rest, drives =>
    DiscoveriesClean media (List.range drives.length) drives ∧ RunClean rest (partitionDiscover media drives).2

theorem partitionRun_published (medias : List Media) (hm : ∀ media ∈ medias, media ∈ seen)
    (h : PublishedTable seen drives) (clean : RunClean medias drives) :
    PublishedTable seen (partitionRun medias drives) := by
  induction medias generalizing drives with
  | nil => exact h
  | cons media rest ih =>
    have hstep : PublishedTable seen (partitionDiscover media drives).2 := by
      rw [partitionDiscover_drives]
      split
      next => exact h
      next => exact discoverParents_published (hm media List.mem_cons_self) _ h clean.1
    exact ih (fun m hmem => hm m (List.mem_cons_of_mem _ hmem)) hstep clean.2

theorem published_start (h : ∀ d ∈ drives, d.type ≠ .partition) :
    PublishedTable seen drives := by
  refine ⟨fun d hd ht => absurd ht (h d hd), fun d hd ht => absurd ht (h d hd), ?_⟩
  rw [List.pairwise_map]
  refine List.pairwise_of_forall_mem_list fun a ha b _ hta => ?_
  exact absurd hta (h a ha)

end ReistOs
