import ReistOs.ResilientSteps

namespace ReistOs.Pages

section Shields

/-- The page can do without the domain: it has a replica elsewhere, and all of those are sound. -/
def Shielded (pool : Pool) (slot : Nat) (metadata : Metadata) (domain : UInt32) : Prop :=
  metadata.state ≠ PageState.failed.code ∧
    (∃ replica : Fin 2, replica.val < metadata.replicaCount.toNat ∧
      metadata.domain replica ≠ domain) ∧
    ∀ replica : Fin 2, replica.val < metadata.replicaCount.toNat →
      metadata.domain replica ≠ domain → replicaValid pool slot metadata replica = true

/-- A live page: sound metadata, every sound replica with the page's bytes, and a shield against
the loss of any one of the domains in question. -/
def PageSound (pool : Pool) (slot : Nat) (bytes : Page) (domains : UInt32 → Prop) : Prop :=
  ∃ sequence metadata, Holding pool slot sequence metadata ∧ Mirrors pool slot metadata bytes ∧
    ∀ domain, domains domain → Shielded pool slot metadata domain

/-- A step inside one slot that leaves the page its handle. -/
structure SamePage (slot : Nat) (before after : Pool) : Prop where
  only : OnlyAt slot before after
  generation : (after.slots slot).generation = (before.slots slot).generation

variable {pool pool' : Pool} {slot : Nat} {sequence : UInt32} {metadata : Metadata} {bytes : Page}
  {domains : UInt32 → Prop}

theorem SamePage.refl (slot : Nat) (pool : Pool) : SamePage slot pool pool :=
  ⟨OnlyAt.refl slot pool, rfl⟩

theorem SamePage.trans {a b c : Pool} (h : SamePage slot a b) (h' : SamePage slot b c) :
    SamePage slot a c :=
  ⟨h.only.trans h'.only, h'.generation.trans h.generation⟩

theorem samePage_setMetadata (pool : Pool) (slot : Nat) (object : Critical.Object) :
    SamePage slot pool (pool.setMetadata slot object) := by
  refine ⟨onlyAt_setMetadata pool slot object, ?_⟩
  rw [setMetadata_slot]

/-- The whole page stays as it was: its slot, the failed domains and the banks in use. -/
structure SameView (slot : Nat) (metadata : Metadata) (before after : Pool) : Prop where
  slots : after.slots = before.slots
  failed : after.failedDomains = before.failedDomains
  pages : ∀ replica : Fin 2, replica.val < metadata.replicaCount.toNat →
    replicaPage after slot metadata replica = replicaPage before slot metadata replica

section

variable (h : SameView slot metadata pool pool')
include h

theorem SameView.valid {replica : Fin 2} (hr : replica.val < metadata.replicaCount.toNat) :
    replicaValid pool' slot metadata replica = replicaValid pool slot metadata replica :=
  replicaValid_congr rfl rfl (h.pages replica hr) h.failed

theorem SameView.validReplicas :
    validReplicas pool' slot metadata = validReplicas pool slot metadata := by
  apply List.filter_congr
  intro replica _
  by_cases hr : replica.val < metadata.replicaCount.toNat
  · rw [h.valid hr]
  · simp [hr]

theorem SameView.holding (hold : Holding pool slot sequence metadata) :
    Holding pool' slot sequence metadata := by
  refine ⟨?_, ?_, hold.valid, ?_⟩
  · rw [h.slots]
    exact hold.active
  · rw [h.slots]
    exact hold.object
  · rw [h.slots]
    exact hold.generation

theorem SameView.mirrors (hm : Mirrors pool slot metadata bytes) :
    Mirrors pool' slot metadata bytes := by
  intro replica hreplica
  rw [h.validReplicas] at hreplica
  rw [h.pages replica (mem_validReplicas.mp hreplica).1]
  exact hm replica hreplica

theorem SameView.shielded {domain : UInt32} (hs : Shielded pool slot metadata domain) :
    Shielded pool' slot metadata domain := by
  obtain ⟨hstate, hother, hvalid⟩ := hs
  refine ⟨hstate, hother, ?_⟩
  intro replica hr hd
  rw [h.valid hr]
  exact hvalid replica hr hd

end

end Shields

section Assessed

variable {pool : Pool} {slot : Nat} {sequence : UInt32} {metadata : Metadata} {bytes : Page}
  {domains : UInt32 → Prop}

/-- What an operation can rely on after an assessment that went well: every replica is sound. -/
structure Ready (pool : Pool) (slot : Nat) (metadata : Metadata) : Prop where
  state : metadata.state ≠ PageState.failed.code
  some : 0 < metadata.replicaCount.toNat
  all : ∀ replica : Fin 2, replica.val < metadata.replicaCount.toNat →
    replicaValid pool slot metadata replica = true

def Answerable (pool : Pool) (slot : Nat) (sequence : UInt32) (metadata : Metadata) : Prop :=
  metadata.state ≠ PageState.failed.code ∧
    (validReplicas pool slot metadata = List.finRange 2 ∨
      ∃ survivor, validReplicas pool slot metadata = [survivor] ∧ sequence + 1 ≠ 0)

/-- A page on its last sound replica has two metadata sequences left to publish. -/
def Spare (pool : Pool) (slot : Nat) : Prop :=
  ∀ sequence metadata, Holding pool slot sequence metadata →
    ∀ survivor, validReplicas pool slot metadata = [survivor] → sequence.toNat + 2 < 2 ^ 32

theorem next_ne_zero {sequence : UInt32} (h : sequence.toNat + 1 < 2 ^ 32) : sequence + 1 ≠ 0 := by
  intro h0
  have hnat := congrArg UInt32.toNat h0
  rw [UInt32.toNat_add] at hnat
  have hone : (1 : UInt32).toNat = 1 := rfl
  have hzero : (0 : UInt32).toNat = 0 := rfl
  omega

theorem assess_succeeded (h : Holding pool slot sequence metadata)
    (hmirrors : Mirrors pool slot metadata bytes)
    (hanswerable : Answerable pool slot sequence metadata) :
    (assess pool slot metadata).1.result.succeeded = true := by
  obtain ⟨hnot, hreplicas⟩ := hanswerable
  have hcases := assess_cases h hmirrors
  generalize assess pool slot metadata = answer at hcases ⊢
  cases hcases with
  | failed hstate => exact absurd hstate hnot
  | stuck assessment hspent hstate hvalid hresult =>
    rcases hreplicas with h | ⟨survivor, -, hnext⟩
    · exact absurd h hvalid
    · exact absurd hspent hnext
  | lost assessment hnext hstate hvalid hresult =>
    rcases hreplicas with h | ⟨survivor, h, -⟩
    · rw [hvalid] at h
      cases h
    · rw [hvalid] at h
      cases h
  | degraded survivor hnext hstate hvalid => rfl
  | sound hstate hvalid => rfl

theorem replicaPage_degrade (pool' : Pool) (hstorage : pool'.storage = pool.storage)
    (survivor : Fin 2) :
    replicaPage pool' slot (degrade metadata survivor) 0 =
      replicaPage pool slot metadata survivor := by
  unfold replicaPage
  rw [hstorage]
  rfl

theorem replicaValid_degrade (pool' : Pool) (hstorage : pool'.storage = pool.storage)
    (hfailed : pool'.failedDomains = pool.failedDomains) (survivor : Fin 2) :
    replicaValid pool' slot (degrade metadata survivor) 0 =
      replicaValid pool slot metadata survivor :=
  replicaValid_congr rfl rfl (replicaPage_degrade pool' hstorage survivor) hfailed

theorem counted_degrade {survivor replica : Fin 2}
    (h : replica.val < (degrade metadata survivor).replicaCount.toNat) : replica = 0 := by
  have hone : (degrade metadata survivor).replicaCount.toNat = 1 := rfl
  apply Fin.ext
  show replica.val = 0
  omega

theorem validReplicas_degrade {pool' : Pool} {survivor : Fin 2}
    (h : replicaValid pool' slot (degrade metadata survivor) 0 = true) :
    validReplicas pool' slot (degrade metadata survivor) = [0] := by
  have hone : ((1 : UInt32).toNat) = 1 := rfl
  have hcount : (degrade metadata survivor).replicaCount.toNat = 1 := rfl
  have hrange : List.finRange 2 = [0, 1] := rfl
  unfold validReplicas
  simp [hrange, hcount, h]

theorem assess_spec (h : Holding pool slot sequence metadata)
    (hmirrors : Mirrors pool slot metadata bytes)
    (hshield : ∀ domain, domains domain → Shielded pool slot metadata domain) :
    ∃ sequence' metadata', Holding (assess pool slot metadata).2 slot sequence' metadata' ∧
      Mirrors (assess pool slot metadata).2 slot metadata' bytes ∧
      (∀ domain, domains domain → Shielded (assess pool slot metadata).2 slot metadata' domain) ∧
      SamePage slot pool (assess pool slot metadata).2 ∧
      ((assess pool slot metadata).1.result.succeeded = true →
        (assess pool slot metadata).1.metadata = metadata' ∧
        (assess pool slot metadata).1.source = 0 ∧
        Ready (assess pool slot metadata).2 slot metadata' ∧
        (Spare pool slot → Answerable (assess pool slot metadata).2 slot sequence' metadata')) := by
  have hcases := assess_cases h hmirrors
  generalize assess pool slot metadata = answer at hcases ⊢
  cases hcases with
  | failed hstate =>
    exact ⟨sequence, metadata, h, hmirrors, hshield, SamePage.refl slot pool, nofun⟩
  | stuck assessment hspent hstate hvalid hresult =>
    refine ⟨sequence, metadata, h, hmirrors, hshield, SamePage.refl slot pool, ?_⟩
    intro hs
    rw [hresult] at hs
    cases hs
  | lost assessment hnext hstate hvalid hresult =>
    have hnone : ∀ replica : Fin 2, replica.val < metadata.replicaCount.toNat →
        replicaValid pool slot metadata replica ≠ true := by
      intro replica hr hv
      have hmem := mem_validReplicas.mpr ⟨hr, hv⟩
      rw [hvalid] at hmem
      cases hmem
    refine ⟨sequence + 1, { metadata with state := PageState.failed.code },
      h.publish (fieldsValid_failed h.valid) rfl _, ?_, ?_, samePage_setMetadata _ _ _, ?_⟩
    · intro replica hreplica
      obtain ⟨hr, hv⟩ := mem_validReplicas.mp hreplica
      exact absurd hv (hnone replica hr)
    · intro domain hd
      obtain ⟨-, ⟨replica, hr, hne⟩, hall⟩ := hshield domain hd
      exact absurd (hall replica hr hne) (hnone replica hr)
    · intro hs
      rw [hresult] at hs
      cases hs
  | degraded survivor hnext hstate hvalid =>
    have hsurvivor : survivor ∈ validReplicas pool slot metadata := by
      rw [hvalid]
      simp
    obtain ⟨hr, hv⟩ := mem_validReplicas.mp hsurvivor
    have hstill : replicaValid
        (pool.setMetadata slot (sealedObject (sequence + 1) (degrade metadata survivor))) slot
        (degrade metadata survivor) 0 = true := by
      rw [replicaValid_degrade _ (setMetadata_storage _) (setMetadata_failed _), hv]
    refine ⟨sequence + 1, degrade metadata survivor,
      h.publish (fieldsValid_degrade h.valid hr) rfl _, ?_, ?_, samePage_setMetadata _ _ _, ?_⟩
    · intro replica hreplica
      obtain rfl := counted_degrade (mem_validReplicas.mp hreplica).1
      rw [replicaPage_degrade _ (setMetadata_storage _)]
      exact hmirrors survivor hsurvivor
    · intro domain hd
      obtain ⟨-, ⟨replica, hr', hne⟩, hall⟩ := hshield domain hd
      have hreplica : replica ∈ validReplicas pool slot metadata :=
        mem_validReplicas.mpr ⟨hr', hall replica hr' hne⟩
      rw [hvalid, List.mem_singleton] at hreplica
      subst hreplica
      refine ⟨(by decide : PageState.degraded.code ≠ PageState.failed.code), ⟨0, ?_, hne⟩, ?_⟩
      · exact (by decide : (0 : Fin 2).val < (1 : UInt32).toNat)
      · intro other ho _
        obtain rfl := counted_degrade ho
        exact hstill
    · intro _
      have hstate' : (degrade metadata survivor).state ≠ PageState.failed.code :=
        (by decide : PageState.degraded.code ≠ PageState.failed.code)
      refine ⟨rfl, rfl, ⟨hstate', (by decide : 0 < (1 : UInt32).toNat), ?_⟩, ?_⟩
      · intro replica ho
        obtain rfl := counted_degrade ho
        exact hstill
      · intro hspare
        refine ⟨hstate', .inr ⟨0, ?_, ?_⟩⟩
        · exact validReplicas_degrade hstill
        · have hroom := hspare sequence metadata h survivor hvalid
          have hnat : (sequence + 1).toNat = sequence.toNat + 1 := by
            rw [UInt32.toNat_add]
            have hone : (1 : UInt32).toNat = 1 := rfl
            omega
          apply next_ne_zero
          omega
  | sound hstate hvalid =>
    refine ⟨sequence, metadata, h, hmirrors, hshield, SamePage.refl slot pool, ?_⟩
    intro _
    have hboth : ∀ replica : Fin 2, replica ∈ validReplicas pool slot metadata := by
      intro replica
      rw [hvalid]
      fin_cases replica
      · simp
      · simp
    have hnot : metadata.state ≠ PageState.failed.code := by
      rw [hstate]
      decide
    refine ⟨rfl, rfl, ⟨hnot, ?_, ?_⟩, fun _ => ⟨hnot, .inl hvalid⟩⟩
    · have h0 := (mem_validReplicas.mp (hboth 0)).1
      exact h0
    · intro replica _
      exact (mem_validReplicas.mp (hboth replica)).2

end Assessed

section Resolving

variable {pool : Pool} {handle : Handle} {sequence : UInt32} {metadata : Metadata} {bytes : Page}
  {domains : UInt32 → Prop}

/-- The handle names an active slot of its generation. -/
structure Live (pool : Pool) (handle : Handle) : Prop where
  slot : handle.slot.toNat < pageCapacity
  nonzero : handle.generation ≠ 0
  active : (pool.slots handle.slot.toNat).active = true
  generation : (pool.slots handle.slot.toNat).generation = handle.generation

theorem resolve_live (hlive : Live pool handle)
    (h : Holding pool handle.slot.toNat sequence metadata) :
    resolve pool handle = (.ok (handle.slot.toNat, metadata), pool) := by
  have hargs : ¬ (pageCapacity ≤ handle.slot.toNat ∨ handle.generation = 0) := by
    push Not
    exact ⟨hlive.slot, hlive.nonzero⟩
  have hslot : ¬ ((pool.slots handle.slot.toNat).active = false ∨
      (pool.slots handle.slot.toNat).generation ≠ handle.generation) := by
    push Not
    rw [hlive.active]
    exact ⟨by simp, hlive.generation⟩
  have hgeneration : metadata.handleGeneration = handle.generation :=
    h.generation.trans hlive.generation
  unfold resolve
  rw [if_neg hargs]
  rw [if_neg hslot, metadataRead_sealed h.object h.valid]
  simp [hgeneration]

theorem resolve_dead (hdead : ¬ Live pool handle) :
    ∃ result ∈ [PageResult.errorArgument, .errorStale],
      resolve pool handle = (.error result, pool) := by
  unfold resolve
  by_cases hargs : pageCapacity ≤ handle.slot.toNat ∨ handle.generation = 0
  · rw [if_pos hargs]
    exact ⟨.errorArgument, by simp, rfl⟩
  · rw [if_neg hargs]
    rw [if_pos]
    · exact ⟨.errorStale, by simp, rfl⟩
    · by_contra hslot
      push Not at hargs hslot
      apply hdead
      exact ⟨hargs.1, hargs.2, by simpa using hslot.1, hslot.2⟩

theorem resolveAssess_live (hlive : Live pool handle)
    (h : Holding pool handle.slot.toNat sequence metadata) :
    resolveAssess pool handle =
      if (assess pool handle.slot.toNat metadata).1.result.succeeded = true then
        (.ok (handle.slot.toNat, (assess pool handle.slot.toNat metadata).1),
          (assess pool handle.slot.toNat metadata).2)
      else (.error (assess pool handle.slot.toNat metadata).1.result,
        (assess pool handle.slot.toNat metadata).2) := by
  unfold resolveAssess
  rw [resolve_live hlive h]

theorem resolveAssess_dead (hdead : ¬ Live pool handle) :
    ∃ result ∈ [PageResult.errorArgument, .errorStale],
      resolveAssess pool handle = (.error result, pool) := by
  obtain ⟨result, hresult, hresolve⟩ := resolve_dead hdead
  refine ⟨result, hresult, ?_⟩
  unfold resolveAssess
  rw [hresolve]

/-- The first two steps of an operation on a live page. -/
inductive Entry (pool : Pool) (handle : Handle) (bytes : Page) (domains : UInt32 → Prop) :
    Except PageResult (Nat × Assessment) × Pool → Prop
  | refused (result : PageResult) (after : Pool) (hresult : result.succeeded = false)
      (hsame : SamePage handle.slot.toNat pool after)
      (hsound : PageSound after handle.slot.toNat bytes domains) :
      Entry pool handle bytes domains (.error result, after)
  | entered (assessment : Assessment) (after : Pool) (sequence : UInt32)
      (hresult : assessment.result.succeeded = true) (hsource : assessment.source = 0)
      (hsame : SamePage handle.slot.toNat pool after)
      (hold : Holding after handle.slot.toNat sequence assessment.metadata)
      (hmirrors : Mirrors after handle.slot.toNat assessment.metadata bytes)
      (hready : Ready after handle.slot.toNat assessment.metadata)
      (hshield : ∀ domain, domains domain →
        Shielded after handle.slot.toNat assessment.metadata domain)
      (hspare : Spare pool handle.slot.toNat →
        Answerable after handle.slot.toNat sequence assessment.metadata) :
      Entry pool handle bytes domains (.ok (handle.slot.toNat, assessment), after)

theorem entry_of_sound (hlive : Live pool handle)
    (hsound : PageSound pool handle.slot.toNat bytes domains) :
    Entry pool handle bytes domains (resolveAssess pool handle) := by
  obtain ⟨sequence, metadata, h, hmirrors, hshield⟩ := hsound
  obtain ⟨sequence', metadata', hold, hmirrors', hshield', hsame, hgood⟩ :=
    assess_spec h hmirrors hshield
  rw [resolveAssess_live hlive h]
  by_cases hresult : (assess pool handle.slot.toNat metadata).1.result.succeeded = true
  · obtain ⟨rfl, hsource, hready, hspare⟩ := hgood hresult
    rw [if_pos hresult]
    exact .entered _ _ sequence' hresult hsource hsame hold hmirrors' hready hshield' hspare
  · rw [if_neg hresult]
    exact .refused _ _ (by simpa using hresult) hsame ⟨sequence', metadata', hold, hmirrors', hshield'⟩

def Readable (pool : Pool) (handle : Handle) : Prop :=
  ∃ answer, (resolveAssess pool handle).1 = .ok answer

theorem readable_of_answerable (hlive : Live pool handle)
    (h : Holding pool handle.slot.toNat sequence metadata)
    (hmirrors : Mirrors pool handle.slot.toNat metadata bytes)
    (hanswerable : Answerable pool handle.slot.toNat sequence metadata) :
    Readable pool handle := by
  unfold Readable
  rw [resolveAssess_live hlive h, if_pos (assess_succeeded h hmirrors hanswerable)]
  exact ⟨_, rfl⟩

theorem Live.after {after : Pool} (hlive : Live pool handle)
    (hsame : SamePage handle.slot.toNat pool after)
    (hactive : (after.slots handle.slot.toNat).active = true) : Live after handle :=
  ⟨hlive.slot, hlive.nonzero, hactive, hsame.generation.trans hlive.generation⟩

end Resolving

variable {pool : Pool} {slot : Nat} {sequence : UInt32} {metadata : Metadata}

theorem bank_flip {bank : UInt32} (h : bank < bankCount) :
    bank ^^^ 1 ≠ bank ∧ bank ^^^ 1 < bankCount := by
  have hlt : bank.toNat < 2 := UInt32.lt_iff_toNat_lt.mp h
  have hcases : bank = 0 ∨ bank = 1 := by
    rcases Nat.lt_or_ge bank.toNat 1 with h0 | h1
    · left
      apply UInt32.toNat_inj.mp
      show bank.toNat = 0
      omega
    · right
      apply UInt32.toNat_inj.mp
      show bank.toNat = 1
      omega
  rcases hcases with rfl | rfl
  · decide
  · decide

theorem domain_injective (hvalid : fieldsValid metadata = true) {a b : Fin 2}
    (ha : a.val < metadata.replicaCount.toNat) (hb : b.val < metadata.replicaCount.toNat)
    (hdomain : metadata.domain a = metadata.domain b) : a = b := by
  obtain ⟨-, -, -, -, hdistinct⟩ := fieldsValid_iff.mp hvalid
  have hle := replicaCount_toNat hvalid
  by_contra hne
  have hboth : metadata.replicaCount = replicaCountMax := by
    apply UInt32.toNat_inj.mp
    show metadata.replicaCount.toNat = 2
    have : a.val ≠ b.val := fun h => hne (Fin.ext h)
    omega
  have h01 := hdistinct hboth
  fin_cases a
  · fin_cases b
    · exact hne rfl
    · exact h01 hdomain
  · fin_cases b
    · exact h01 hdomain.symm
    · exact hne rfl

theorem setPage_here (domain bank : UInt32) (page : Page) :
    (pool.setPage slot domain bank page).storage domain slot bank = page := by
  show (if domain = domain ∧ slot = slot ∧ bank = bank then page else _) = page
  rw [if_pos ⟨rfl, rfl, rfl⟩]

theorem setPage_elsewhere {domain bank d b : UInt32} (page : Page) (h : ¬ (d = domain ∧ b = bank)) :
    (pool.setPage slot domain bank page).storage d slot b = pool.storage d slot b := by
  show (if d = domain ∧ slot = slot ∧ b = bank then page else _) = _
  rw [if_neg]
  rintro ⟨hd, -, hb⟩
  exact h ⟨hd, hb⟩

theorem sameView_setPage {domain bank : UInt32} (page : Page)
    (h : ∀ replica : Fin 2, replica.val < metadata.replicaCount.toNat →
      ¬ (metadata.domain replica = domain ∧ metadata.activeBank replica = bank)) :
    SameView slot metadata pool (pool.setPage slot domain bank page) := by
  refine ⟨rfl, rfl, ?_⟩
  intro replica hr
  exact setPage_elsewhere page (h replica hr)

theorem SameView.trans {a b c : Pool} (h : SameView slot metadata a b)
    (h' : SameView slot metadata b c) : SameView slot metadata a c := by
  refine ⟨h'.slots.trans h.slots, h'.failed.trans h.failed, ?_⟩
  intro replica hr
  rw [h'.pages replica hr, h.pages replica hr]

end ReistOs.Pages
