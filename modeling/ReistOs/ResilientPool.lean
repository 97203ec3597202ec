import ReistOs.ResilientWrites

namespace ReistOs.Pages

open PageResult

section Reading

variable {pool : Pool} {handle : Handle} {bytes : Page} {domains : UInt32 → Prop}

/-- The domain that an operation on a page would copy its bytes from. -/
def dataSource (pool : Pool) (handle : Handle) : Option UInt32 :=
  match resolveAssess pool handle with
  | (.error _, _) => none
  | (.ok (_, assessment), _) => some (assessment.metadata.domain assessment.source)

section

variable (hlive : Live pool handle) (hsound : PageSound pool handle.slot.toNat bytes domains)
include hlive hsound

theorem read_spec (capacity : Nat) :
    SamePage handle.slot.toNat pool (read pool handle capacity).2 ∧
      PageSound (read pool handle capacity).2 handle.slot.toNat bytes domains ∧
      ((read pool handle capacity).1.result.succeeded = true →
        (read pool handle capacity).1.bytes = some bytes) := by
  unfold read
  split
  next => exact ⟨SamePage.refl _ _, hsound, nofun⟩
  next =>
    have hentry := entry_of_sound hlive hsound
    generalize resolveAssess pool handle = entry at hentry ⊢
    cases hentry with
    | refused result after hresult hsame hafter =>
      refine ⟨hsame, hafter, ?_⟩
      intro h
      simp only [hresult] at h
      cases h
    | entered assessment after sequence hresult hsource hsame hold hmirrors hready hshield hspare =>
      refine ⟨hsame, ⟨sequence, assessment.metadata, hold, hmirrors, hshield⟩, ?_⟩
      intro _
      simp only [hsource]
      rw [hmirrors 0 (mem_validReplicas.mpr ⟨hready.some, hready.all 0 hready.some⟩)]

theorem scrub_spec :
    SamePage handle.slot.toNat pool (scrub pool handle).2 ∧
      PageSound (scrub pool handle).2 handle.slot.toNat bytes domains := by
  have hentry := entry_of_sound hlive hsound
  unfold scrub
  generalize resolveAssess pool handle = entry at hentry ⊢
  cases hentry with
  | refused result after hresult hsame hafter => exact ⟨hsame, hafter⟩
  | entered assessment after sequence hresult hsource hsame hold hmirrors hready hshield hspare =>
    exact ⟨hsame, sequence, assessment.metadata, hold, hmirrors, hshield⟩

theorem dataSource_sound {domain : UInt32} (h : dataSource pool handle = some domain) :
    pool.failedDomains domain = false := by
  have hentry := entry_of_sound hlive hsound
  unfold dataSource at h
  generalize resolveAssess pool handle = entry at hentry h
  cases hentry with
  | refused result after hresult hsame hafter => cases h
  | entered assessment after sequence hresult hsource hsame hold hmirrors hready hshield hspare =>
    have hdomain := Option.some.inj h
    rw [← hdomain, hsource]
    have hvalid := hready.all 0 hready.some
    unfold replicaValid at hvalid
    simp only [Bool.and_eq_true, Bool.not_eq_true'] at hvalid
    rw [← hsame.only.failed]
    exact hvalid.1

end

end Reading

section Dead

variable {pool : Pool} {handle : Handle}

theorem dead_refused (hdead : ¬ Live pool handle) (capacity offset : Nat) (new : List UInt8) :
    (((read pool handle capacity).1.result ∈ [errorArgument, .errorStale] ∧
        (read pool handle capacity).2 = pool) ∧
      ((write pool handle offset new).1 ∈ [errorArgument, .errorStale] ∧
        (write pool handle offset new).2 = pool)) ∧
      ((scrub pool handle).1.1 ∈ [errorArgument, .errorStale] ∧
        (scrub pool handle).2 = pool) ∧
      ((rebuild pool handle).1 ∈ [errorArgument, .errorStale] ∧
        (rebuild pool handle).2 = pool) ∧
      ((destroy pool handle).1 ∈ [errorArgument, .errorStale] ∧
        (destroy pool handle).2 = pool) ∧ dataSource pool handle = none := by
  obtain ⟨result, hresult, hentry⟩ := resolveAssess_dead hdead
  obtain ⟨refusal, hrefusal, hresolve⟩ := resolve_dead hdead
  refine ⟨⟨?_, ?_⟩, ?_, ?_, ?_, ?_⟩
  · unfold read
    split
    next => exact ⟨by simp, rfl⟩
    next =>
      rw [hentry]
      exact ⟨hresult, rfl⟩
  · unfold write
    split
    next => exact ⟨by simp, rfl⟩
    next =>
      rw [hentry]
      exact ⟨hresult, rfl⟩
  · unfold scrub
    rw [hentry]
    exact ⟨hresult, rfl⟩
  · unfold rebuild
    rw [hentry]
    exact ⟨hresult, rfl⟩
  · unfold destroy
    rw [hresolve]
    exact ⟨hrefusal, rfl⟩
  · unfold dataSource
    rw [hentry]

end Dead

variable {pool pool' : Pool} {slot : Nat} {bytes : Page} {domains : UInt32 → Prop}

theorem pageSound_weaken {domains' : UInt32 → Prop} (hslot : pool'.slots slot = pool.slots slot)
    (hlost : ∀ (metadata : Metadata) (replica : Fin 2), replica.val < metadata.replicaCount.toNat →
      (∃ sequence, Holding pool slot sequence metadata) →
      replicaValid pool' slot metadata replica = true →
        replicaPage pool' slot metadata replica = replicaPage pool slot metadata replica ∧
          replicaValid pool slot metadata replica = true)
    (helsewhere : ∀ (metadata : Metadata) (replica : Fin 2) d, domains' d →
      metadata.domain replica ≠ d →
      replicaValid pool' slot metadata replica = replicaValid pool slot metadata replica)
    (hsub : ∀ d, domains' d → domains d) (h : PageSound pool slot bytes domains) :
    PageSound pool' slot bytes domains' := by
  obtain ⟨sequence, metadata, hold, hmirrors, hshield⟩ := h
  refine ⟨sequence, metadata, ⟨?_, ?_, hold.valid, ?_⟩, ?_, ?_⟩
  · rw [hslot]
    exact hold.active
  · rw [hslot]
    exact hold.object
  · rw [hslot]
    exact hold.generation
  · intro replica hreplica
    obtain ⟨hr, hv⟩ := mem_validReplicas.mp hreplica
    obtain ⟨hpage, hvalid⟩ := hlost metadata replica hr ⟨sequence, hold⟩ hv
    rw [hpage]
    exact hmirrors replica (mem_validReplicas.mpr ⟨hr, hvalid⟩)
  · intro d hd
    obtain ⟨hstate, hother, hall⟩ := hshield d (hsub d hd)
    refine ⟨hstate, hother, ?_⟩
    intro replica hr hne
    rw [helsewhere metadata replica d hd hne]
    exact hall replica hr hne

theorem pageSound_congr (hslot : pool'.slots slot = pool.slots slot)
    (hstorage : ∀ d b, pool'.storage d slot b = pool.storage d slot b)
    (hfailed : pool'.failedDomains = pool.failedDomains)
    (h : PageSound pool slot bytes domains) : PageSound pool' slot bytes domains := by
  have hpage : ∀ metadata replica, replicaPage pool' slot metadata replica =
      replicaPage pool slot metadata replica := fun _ _ => hstorage _ _
  have hvalid : ∀ metadata replica, replicaValid pool' slot metadata replica =
      replicaValid pool slot metadata replica :=
    fun metadata replica => replicaValid_congr rfl rfl (hpage metadata replica) hfailed
  apply pageSound_weaken hslot _ _ (fun _ hd => hd) h
  · intro metadata replica _ _ hv
    rw [hvalid] at hv
    exact ⟨hpage metadata replica, hv⟩
  · intro metadata replica _ _ _
    exact hvalid metadata replica

theorem OnlyAt.pageSound {other : Nat} (h : OnlyAt other pool pool') (hne : slot ≠ other)
    (hsound : PageSound pool slot bytes domains) : PageSound pool' slot bytes domains :=
  pageSound_congr (h.slots slot hne) (fun d b => h.storage d slot b hne) h.failed hsound

end ReistOs.Pages
