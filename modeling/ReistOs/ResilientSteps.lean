import ReistOs.ResilientMetadata

namespace ReistOs.Pages

open PageState

section Fields

variable {metadata : Metadata}

theorem fieldsValid_iff : fieldsValid metadata = true ↔
    (metadata.handleGeneration ≠ 0 ∧ metadata.dataGeneration ≠ 0 ∧
      metadata.state ≤ PageState.failed.code ∧ metadata.replicaCount ≤ replicaCountMax ∧
      metadata.reserved 0 = 0 ∧ metadata.reserved 1 = 0) ∧
    (metadata.state = healthy.code → metadata.replicaCount = replicaCountMax) ∧
    (metadata.state = degraded.code ∨ metadata.state = rebuilding.code →
      metadata.replicaCount = 1) ∧
    (∀ i : Fin 2, i.val < metadata.replicaCount.toNat →
      metadata.domain i < domainCount ∧ metadata.activeBank i < bankCount) ∧
    (metadata.replicaCount = replicaCountMax → metadata.domain 0 ≠ metadata.domain 1) := by
  unfold fieldsValid
  constructor
  · intro h
    split at h
    next => cases h
    next h1 =>
      split at h
      next => cases h
      next h2 =>
        split at h
        next => cases h
        next h3 =>
          split at h
          next => cases h
          next h4 =>
            split at h
            next => cases h
            next h5 =>
              push Not at h1 h2 h3 h4 h5
              obtain ⟨hhandle, hdata, hstate, hcount, hreserved⟩ := h1
              refine ⟨⟨hhandle, hdata, UInt32.not_lt.mp hstate, UInt32.not_lt.mp hcount,
                hreserved⟩, h2, h3, ?_, h5⟩
              intro i hi
              obtain ⟨hdomain, hbank⟩ := h4 i hi
              exact ⟨UInt32.not_le.mp hdomain, UInt32.not_le.mp hbank⟩
  · rintro ⟨⟨hhandle, hdata, hstate, hcount, h0, h1⟩, h2, h3, h4, h5⟩
    rw [if_neg (by
      push Not
      exact ⟨hhandle, hdata, UInt32.not_lt.mpr hstate, UInt32.not_lt.mpr hcount, h0, h1⟩)]
    rw [if_neg (by
      push Not
      exact h2)]
    rw [if_neg (by
      push Not
      exact h3)]
    rw [if_neg (by
      push Not
      intro i hi
      exact ⟨UInt32.not_le.mpr (h4 i hi).1, UInt32.not_le.mpr (h4 i hi).2⟩)]
    rw [if_neg (by
      push Not
      exact h5)]

theorem replicaCount_toNat (h : fieldsValid metadata = true) : metadata.replicaCount.toNat ≤ 2 := by
  have hcount := (fieldsValid_iff.mp h).1.2.2.2.1
  exact UInt32.le_iff_toNat_le.mp hcount

theorem fieldsValid_failed (h : fieldsValid metadata = true) :
    fieldsValid { metadata with state := PageState.failed.code } = true := by
  obtain ⟨⟨hhandle, hdata, -, hcount, hreserved⟩, -, -, hindex, hdomains⟩ := fieldsValid_iff.mp h
  have hhealthy : PageState.failed.code ≠ healthy.code := by decide
  have hsingle : ¬ (PageState.failed.code = degraded.code ∨
      PageState.failed.code = rebuilding.code) := by decide
  exact fieldsValid_iff.mpr ⟨⟨hhandle, hdata, UInt32.le_refl _, hcount, hreserved⟩,
    fun h => absurd h hhealthy, fun h => absurd h hsingle, hindex, hdomains⟩

theorem fieldsValid_single {single : Metadata} (h : fieldsValid metadata = true)
    (hhandle : single.handleGeneration = metadata.handleGeneration)
    (hdata : single.dataGeneration = metadata.dataGeneration)
    (hreserved : single.reserved = metadata.reserved) (hcount : single.replicaCount = 1)
    (hstate : single.state = degraded.code ∨ single.state = rebuilding.code)
    (hdomain : single.domain 0 < domainCount) (hbank : single.activeBank 0 < bankCount) :
    fieldsValid single = true := by
  obtain ⟨⟨hh, hd, -, -, hr⟩, -⟩ := fieldsValid_iff.mp h
  rw [← hhandle] at hh
  rw [← hdata] at hd
  rw [← hreserved] at hr
  have hstate' : single.state ≤ PageState.failed.code ∧ single.state ≠ healthy.code := by
    rcases hstate with h | h
    · rw [h]
      decide
    · rw [h]
      decide
  refine fieldsValid_iff.mpr ⟨⟨hh, hd, hstate'.1, ?_, hr⟩, fun h => absurd h hstate'.2,
    fun _ => hcount, ?_, ?_⟩
  · rw [hcount]
    decide
  · intro i hi
    have hi0 : i = 0 := by
      rw [hcount] at hi
      have hone : (1 : UInt32).toNat = 1 := rfl
      apply Fin.ext
      show i.val = 0
      omega
    subst hi0
    exact ⟨hdomain, hbank⟩
  · intro h
    rw [hcount] at h
    exact absurd h (by decide)

theorem fieldsValid_degrade (h : fieldsValid metadata = true) {survivor : Fin 2}
    (hs : survivor.val < metadata.replicaCount.toNat) :
    fieldsValid (degrade metadata survivor) = true := by
  obtain ⟨-, -, -, hindex, -⟩ := fieldsValid_iff.mp h
  obtain ⟨hdomain, hbank⟩ := hindex survivor hs
  exact fieldsValid_single h rfl rfl rfl rfl (.inl rfl) hdomain hbank

end Fields

section Replicas

variable {pool : Pool} {slot : Nat} {metadata : Metadata}

theorem mem_validReplicas {replica : Fin 2} :
    replica ∈ validReplicas pool slot metadata ↔
      replica.val < metadata.replicaCount.toNat ∧ replicaValid pool slot metadata replica = true := by
  simp [validReplicas]

theorem validReplicas_cases (pool : Pool) (slot : Nat) (metadata : Metadata) :
    validReplicas pool slot metadata = [] ∨
      (∃ survivor, validReplicas pool slot metadata = [survivor]) ∨
      validReplicas pool slot metadata = [0, 1] := by
  have hrange : List.finRange 2 = [0, 1] := rfl
  unfold validReplicas
  rw [hrange]
  simp only [List.filter_cons, List.filter_nil]
  split
  · split
    · exact .inr (.inr rfl)
    · exact .inr (.inl ⟨0, rfl⟩)
  · split
    · exact .inr (.inl ⟨1, rfl⟩)
    · exact .inl rfl

end Replicas

section Holding

/-- An active slot whose metadata is undisturbed. -/
structure Holding (pool : Pool) (slot : Nat) (sequence : UInt32) (metadata : Metadata) : Prop where
  active : (pool.slots slot).active = true
  object : (pool.slots slot).metadata = sealedObject sequence metadata
  valid : fieldsValid metadata = true
  generation : metadata.handleGeneration = (pool.slots slot).generation

def Mirrors (pool : Pool) (slot : Nat) (metadata : Metadata) (bytes : Page) : Prop :=
  ∀ replica ∈ validReplicas pool slot metadata, replicaPage pool slot metadata replica = bytes

structure OnlyAt (slot : Nat) (before after : Pool) : Prop where
  slots : ∀ i, i ≠ slot → after.slots i = before.slots i
  storage : ∀ d i b, i ≠ slot → after.storage d i b = before.storage d i b
  failed : after.failedDomains = before.failedDomains
  next : after.nextHandleGeneration = before.nextHandleGeneration

theorem OnlyAt.refl (slot : Nat) (pool : Pool) : OnlyAt slot pool pool :=
  ⟨fun _ _ => rfl, fun _ _ _ _ => rfl, rfl, rfl⟩

theorem OnlyAt.trans {slot : Nat} {a b c : Pool} (h : OnlyAt slot a b) (h' : OnlyAt slot b c) :
    OnlyAt slot a c := by
  refine ⟨?_, ?_, ?_, ?_⟩
  · intro i hi
    rw [h'.slots i hi, h.slots i hi]
  · intro d i b hi
    rw [h'.storage d i b hi, h.storage d i b hi]
  · rw [h'.failed, h.failed]
  · rw [h'.next, h.next]

theorem onlyAt_setSlot (pool : Pool) (slot : Nat) (value : Slot) :
    OnlyAt slot pool (pool.setSlot slot value) := by
  refine ⟨?_, fun _ _ _ _ => rfl, rfl, rfl⟩
  intro i hi
  exact Function.update_of_ne hi _ _

theorem onlyAt_setMetadata (pool : Pool) (slot : Nat) (object : Critical.Object) :
    OnlyAt slot pool (pool.setMetadata slot object) := onlyAt_setSlot pool slot _

theorem onlyAt_setPage (pool : Pool) (slot : Nat) (domain bank : UInt32) (page : Page) :
    OnlyAt slot pool (pool.setPage slot domain bank page) := by
  refine ⟨fun _ _ => rfl, ?_, rfl, rfl⟩
  intro d i b hi
  show (if d = domain ∧ i = slot ∧ b = bank then page else pool.storage d i b) = _
  rw [if_neg]
  rintro ⟨-, hslot, -⟩
  exact hi hslot

theorem onlyAt_zeroStorage (pool : Pool) (slot : Nat) : OnlyAt slot pool (pool.zeroStorage slot) := by
  refine ⟨fun _ _ => rfl, ?_, rfl, rfl⟩
  intro d i b hi
  exact if_neg hi

variable {pool : Pool} {slot : Nat} {sequence : UInt32} {metadata : Metadata}

theorem setMetadata_slot (object : Critical.Object) :
    (pool.setMetadata slot object).slots slot = { pool.slots slot with metadata := object } :=
  Function.update_self _ _ _

theorem setMetadata_storage (object : Critical.Object) :
    (pool.setMetadata slot object).storage = pool.storage := rfl

theorem setMetadata_failed (object : Critical.Object) :
    (pool.setMetadata slot object).failedDomains = pool.failedDomains := rfl

theorem Holding.publish (h : Holding pool slot sequence metadata) {next : Metadata}
    (hvalid : fieldsValid next = true)
    (hgeneration : next.handleGeneration = metadata.handleGeneration) (newSequence : UInt32) :
    Holding (pool.setMetadata slot (sealedObject newSequence next)) slot newSequence next := by
  refine ⟨?_, ?_, hvalid, ?_⟩
  · rw [setMetadata_slot]
    exact h.active
  · rw [setMetadata_slot]
  · rw [setMetadata_slot, hgeneration, h.generation]

theorem replicaValid_congr {pool' : Pool} {metadata' : Metadata} {replica replica' : Fin 2}
    (hdomain : metadata'.domain replica' = metadata.domain replica)
    (hcrc : metadata'.replicaCrc32 replica' = metadata.replicaCrc32 replica)
    (hpage : replicaPage pool' slot metadata' replica' = replicaPage pool slot metadata replica)
    (hfailed : pool'.failedDomains = pool.failedDomains) :
    replicaValid pool' slot metadata' replica' = replicaValid pool slot metadata replica := by
  unfold replicaValid
  rw [hdomain, hcrc, hpage, hfailed]

end Holding

variable {pool : Pool} {slot : Nat} {sequence : UInt32} {metadata : Metadata} {bytes : Page}

inductive AssessCase (pool : Pool) (slot : Nat) (sequence : UInt32) (metadata : Metadata) :
    Assessment × Pool → Prop
  | failed (hstate : metadata.state = PageState.failed.code) :
      AssessCase pool slot sequence metadata
        ({ result := .errorFailed, metadata := metadata, source := 0 }, pool)
  | stuck (assessment : Assessment) (hspent : sequence + 1 = 0)
      (hstate : metadata.state ≠ PageState.failed.code)
      (hvalid : validReplicas pool slot metadata ≠ [0, 1])
      (hresult : assessment.result = .errorCorrupt) :
      AssessCase pool slot sequence metadata (assessment, pool)
  | lost (assessment : Assessment) (hnext : sequence + 1 ≠ 0)
      (hstate : metadata.state ≠ PageState.failed.code)
      (hvalid : validReplicas pool slot metadata = []) (hresult : assessment.result = .errorFailed) :
      AssessCase pool slot sequence metadata (assessment, pool.setMetadata slot
        (sealedObject (sequence + 1) { metadata with state := PageState.failed.code }))
  | degraded (survivor : Fin 2) (hnext : sequence + 1 ≠ 0)
      (hstate : metadata.state ≠ PageState.failed.code)
      (hvalid : validReplicas pool slot metadata = [survivor]) :
      AssessCase pool slot sequence metadata
        ({ result := .resultDegraded, metadata := degrade metadata survivor, source := 0 },
          pool.setMetadata slot (sealedObject (sequence + 1) (degrade metadata survivor)))
  | sound (hstate : metadata.state = PageState.healthy.code)
      (hvalid : validReplicas pool slot metadata = [0, 1]) :
      AssessCase pool slot sequence metadata
        ({ result := .ok, metadata := metadata, source := 0 }, pool)

theorem healthy_of_both (hvalid : fieldsValid metadata = true)
    (hstate : metadata.state ≠ PageState.failed.code) (hone : 1 < metadata.replicaCount.toNat) :
    metadata.state = healthy.code := by
  obtain ⟨⟨-, -, hle, -⟩, -, hsingle, -⟩ := fieldsValid_iff.mp hvalid
  have hnot : ¬ (metadata.state = degraded.code ∨
      metadata.state = rebuilding.code) := by
    intro h
    rw [hsingle h] at hone
    exact absurd hone (by decide)
  push Not at hnot
  have h3 : metadata.state.toNat ≤ 3 := UInt32.le_iff_toNat_le.mp hle
  have hfailed : metadata.state.toNat ≠ 3 := fun h => hstate (UInt32.toNat_inj.mp h)
  have hdegraded : metadata.state.toNat ≠ 1 := fun h => hnot.1 (UInt32.toNat_inj.mp h)
  have hrebuilding : metadata.state.toNat ≠ 2 := fun h => hnot.2 (UInt32.toNat_inj.mp h)
  apply UInt32.toNat_inj.mp
  show metadata.state.toNat = 0
  omega

theorem assess_single (h : Holding pool slot sequence metadata)
    (hstate : metadata.state ≠ PageState.failed.code)
    (hvalid : validReplicas pool slot metadata = [survivor]) :
    assess pool slot metadata =
      if sequence + 1 = 0 then
        ({ result := .errorCorrupt, metadata := degrade metadata survivor, source := 0 }, pool)
      else ({ result := .resultDegraded, metadata := degrade metadata survivor, source := 0 },
        pool.setMetadata slot (sealedObject (sequence + 1) (degrade metadata survivor))) := by
  have hsurvivor : survivor ∈ validReplicas pool slot metadata := by
    rw [hvalid]
    simp
  have hdegrade := fieldsValid_degrade h.valid (mem_validReplicas.mp hsurvivor).1
  unfold assess
  rw [if_neg hstate, hvalid]
  simp only
  rw [metadataUpdate_sealed h.object h.valid hdegrade]
  by_cases hspent : sequence + 1 = 0
  · rw [if_pos hspent, if_pos hspent]
  · rw [if_neg hspent, if_neg hspent]

theorem assess_cases (h : Holding pool slot sequence metadata)
    (hmirrors : Mirrors pool slot metadata bytes) :
    AssessCase pool slot sequence metadata (assess pool slot metadata) := by
  by_cases hstate : metadata.state = PageState.failed.code
  · unfold assess
    rw [if_pos hstate]
    exact .failed hstate
  · rcases validReplicas_cases pool slot metadata with hvalid | ⟨survivor, hvalid⟩ | hvalid
    · unfold assess
      rw [if_neg hstate, hvalid]
      show AssessCase pool slot sequence metadata (markFailed pool slot metadata .errorFailed)
      unfold markFailed
      simp only
      rw [metadataUpdate_sealed h.object h.valid (fieldsValid_failed h.valid)]
      by_cases hspent : sequence + 1 = 0
      · rw [if_pos hspent]
        exact .stuck _ hspent hstate (by simp [hvalid]) rfl
      · rw [if_neg hspent]
        exact .lost _ hspent hstate hvalid rfl
    · rw [assess_single h hstate hvalid]
      by_cases hspent : sequence + 1 = 0
      · rw [if_pos hspent]
        exact .stuck _ hspent hstate (by simp [hvalid]) rfl
      · rw [if_neg hspent]
        exact .degraded survivor hspent hstate hvalid
    · have hone : (1 : Fin 2) ∈ validReplicas pool slot metadata := by
        rw [hvalid]
        simp
      have hzero : (0 : Fin 2) ∈ validReplicas pool slot metadata := by
        rw [hvalid]
        simp
      have hhealthy := healthy_of_both h.valid hstate (mem_validReplicas.mp hone).1
      have hequal : replicaPage pool slot metadata 0 = replicaPage pool slot metadata 1 := by
        rw [hmirrors 0 hzero, hmirrors 1 hone]
      unfold assess
      rw [if_neg hstate, hvalid]
      simp only
      rw [if_neg (by simpa using hequal), if_neg (by simpa using hhealthy)]
      exact .sound hhealthy hvalid

end ReistOs.Pages
