import ReistOs.StorageRequestAccess
import ReistOs.StorageRequestRuns

/-! Rules for programs on the storage request pool: an access that moves nothing that counts hands
on the state it was given, up to such moves. -/

namespace ReistOs.RequestPool

open Attempt

variable {α β : Type} {s0 : StoragePool} {i : StorageSlot} {m : StorageSlotMetadata}
  {handle : UInt32} {x : StorageExcuse} {R : β → StoragePool → Prop} {E : StorageError → StoragePool → Prop}

section Calm

variable {s : StoragePool} {b : StorageBulkIndex} {f : Unit → Pool β} {service : StorageIdentity}
  {nowMs : UInt64}

theorem StoragePool.Sound.calm_of (hs : s0.Sound) (hmetadata : ∀ i, s.slot i = s0.slot i)
    (hfences : ∀ r, s0.Fenced r → s.Fenced r) (hbulk : s.bulk = s0.bulk)
    (hcopies : s.copies = s0.copies) :
    s0.Calm s := by
  refine ⟨hmetadata, hfences, fun b => ?_, hcopies⟩
  rw [hbulk]
  exact .refl (hs.bulk.free b)

theorem StoragePool.Sound.poisoned (hs : s0.Sound) : s0.Calm { s0 with poisoned := true } :=
  hs.calm_of (fun _ => rfl) (fun _ _ => Or.inl rfl) rfl rfl

theorem StoragePool.Sound.setFrame {primary shadow : StorageDataCopy} (hs : s0.Sound) :
    s0.Calm (s0.setFrame i primary shadow) :=
  hs.calm_of (fun _ => rfl) (fun _ h => h) rfl rfl

theorem StoragePool.Sound.setService {service : CriticalObject StorageIdentity} (hs : s0.Sound) :
    s0.Calm { s0 with service := service } :=
  hs.calm_of (fun _ => rfl) (fun _ h => h) rfl rfl

theorem StoragePool.Sound.setFences {mask : UInt32} (hs : s0.Sound)
    (h : ∀ r, Names s0.fences.payload r → Names mask r) : s0.Calm (s0.setFences mask) :=
  hs.calm_of (fun _ => rfl) (fun r hr => hr.imp_right (h r)) rfl rfl

variable {bulk : StorageBulkSlot}

theorem StoragePool.Sound.setBulk (hs : s0.Sound)
    (h : BulkCalm (s0.bulk b) bulk) : s0.Calm (s0.setBulk b bulk) := by
  refine ⟨fun _ => rfl, fun _ hr => hr, fun c => ?_, rfl⟩
  unfold StoragePool.setBulk
  by_cases hc : c = b
  · subst hc
    simpa using h
  · simpa [hc] using BulkCalm.refl (hs.bulk.free c)

theorem calm_start {x : Pool α} {Q : α → StoragePool → Prop} (hs : s0.Sound)
    (h : ∀ s1, s1.Sound → s0.Calm s1 → Triple (· = s1) x Q E) : Triple s0.Calm x Q E :=
  Triple.start fun s1 h1 => h s1 (h1.sound hs) h1

theorem calm_refuse {c : Prop} [Decidable c] {e : StorageError} (hE : ∀ e s, s0.Calm s → E e s)
    (h : ¬ c → Triple s0.Calm (f ()) R E) :
    Triple s0.Calm (Attempt.refuse c e >>= f) R E := by
  refine Triple.bind (Q := fun _ s => s0.Calm s ∧ ¬ c)
    (Triple.refuse (fun s hcalm _ => hE e s hcalm) fun s hcalm hc => ⟨hcalm, hc⟩) fun _ => Triple.fact h

theorem calm_get {f : StoragePool → Pool β} (hs : s0.Sound)
    (h : ∀ s1, s1.Sound → s0.Calm s1 → Triple (· = s1) (f s1) R E) :
    Triple s0.Calm (Attempt.get >>= f) R E :=
  calm_start hs fun s1 hs1 hcalm => Triple.read (h s1 hs1 hcalm)

theorem calm_keeps {x : Pool α} {f : α → Pool β} (hx : Keeps s0.Calm x)
    (hE : ∀ e s, s0.Calm s → E e s) (h : ∀ a, Triple s0.Calm (f a) R E) : Triple s0.Calm (x >>= f) R E :=
  (hx.triple hE).bind h

theorem mutationPoison_calm (hs : s0.Sound) :
    Triple s0.Calm (mutationPoison : Pool α) (fun _ _ => False) fun _ => s0.Calm := by
  refine Triple.bind (Q := fun _ => s0.Calm) (Triple.modify fun s hcalm => ?_) fun _ =>
    Triple.fail fun _ hcalm => hcalm
  exact hcalm.trans (hcalm.sound hs).poisoned

theorem loadMetadata_calm (hs : s0.Sound) : Triple s0.Calm (loadMetadata i)
    (fun m s => s0.Calm s ∧ m = s0.slot i ∧ metadataValid m = true) fun _ => s0.Calm := by
  refine calm_get hs fun s1 hs1 hcalm => Triple.ite (fun hreadable => Triple.done ?_) fun _ => ?_
  · have hvalid := (Bool.and_eq_true_iff.mp hreadable).2
    exact ⟨hcalm, hcalm.slots i, hvalid⟩
  · exact (mutationPoison_calm hs).weaken (fun s heq => heq ▸ hcalm) (fun _ _ h => h.elim)
      fun _ _ h => h

theorem calm_load {f : StorageSlotMetadata → Pool β} (hs : s0.Sound) (hE : ∀ e s, s0.Calm s → E e s)
    (h : ∀ m, m = s0.slot i → metadataValid m = true → Triple s0.Calm (f m) R E) :
    Triple s0.Calm (loadMetadata i >>= f) R E :=
  ((loadMetadata_calm hs).weaken (fun _ hcalm => hcalm) (fun _ _ hm => hm) hE).learn fun m hm => h m hm.1 hm.2

/-- A request handle and the slot it names. -/
structure Resolves (s : StoragePool) (handle : UInt32) (i : StorageSlot) (m : StorageSlotMetadata) :
    Prop where
  slot : m = s.slot i
  valid : metadataValid m = true
  generation : m.generation = handle >>> 8
  encoded : storageMakeHandle i m.generation = handle
  live : ¬ m.state.Idle
  request : s.request handle = some m

theorem resolveHandle_calm (hs : s0.Sound) : Triple s0.Calm (resolveHandle handle)
    (fun p s => s0.Calm s ∧ Resolves s0 handle p.1 p.2) fun _ => s0.Calm := by
  unfold resolveHandle
  cases hslot : storageHandleSlot handle with
  | none => exact Triple.fail fun s hcalm => hcalm
  | some i =>
    have herror : ∀ (e : StorageError) s, s0.Calm s → s0.Calm s := fun _ _ h => h
    refine calm_refuse herror fun _ => calm_load hs herror fun m hm hvalid => calm_refuse herror fun hc => ?_
    have hgeneration : m.generation = handle >>> 8 := by
      by_contra hne
      exact hc (Or.inl hne)
    have hlive : ¬ m.state.Idle := fun hidle => hc (Or.inr hidle)
    refine Triple.pure fun s hcalm => ⟨hcalm, hm, hvalid, hgeneration, ?_, hlive, ?_⟩
    · rw [hgeneration]
      exact handleSlot_handle hslot
    · subst hm
      unfold StoragePool.request
      rw [hslot]
      exact if_pos ⟨hgeneration, hlive⟩

theorem calm_resolve {f : StorageSlot × StorageSlotMetadata → Pool β} (hs : s0.Sound)
    (hE : ∀ e s, s0.Calm s → E e s)
    (h : ∀ i m, Resolves s0 handle i m → Triple s0.Calm (f (i, m)) R E) :
    Triple s0.Calm (resolveHandle handle >>= f) R E :=
  ((resolveHandle_calm hs).weaken (fun _ hcalm => hcalm) (fun _ _ hp => hp) hE).learn fun p hp => h p.1 p.2 hp

section

variable (h : metadataValid m = true)
include h

theorem metadataValid_generation : m.generation ≤ storageHandleGenerationMax := by
  simp only [metadataValid, Bool.and_eq_true, decide_eq_true_eq] at h
  exact h.1.1.1.1.1.1

theorem metadataValid_resource : m.mutationResource < 32 := by
  simp only [metadataValid, Bool.and_eq_true, decide_eq_true_eq] at h
  have hle : m.mutationResourcePlusOne ≤ 32 := h.1.1.1.1.2
  unfold StorageSlotMetadata.mutationResource
  omega

theorem metadataValid_bound :
    m.mutationState = .unbound ↔ m.mutationResourcePlusOne = 0 := by
  simp only [metadataValid, Bool.and_eq_true, beq_iff_eq] at h
  have heq := Bool.eq_iff_iff.mp h.1.1.1.2
  rw [bne_iff_ne, bne_iff_ne] at heq
  exact not_iff_not.mp heq

theorem vacant_unbound (hidle : m.state.Idle) : m.mutationState = .unbound := by
  simp only [metadataValid, Bool.and_eq_true, if_pos hidle, beq_iff_eq] at h
  have heq := h.2
  rw [heq]
  rfl

theorem metadataValid_mutation (hbound : m.mutationState ≠ .unbound) :
    m.operation = some .vfsObjectMutate ∧ m.state ≠ .queued ∧ m.state ≠ .inputPending := by
  simp only [metadataValid, Bool.and_eq_true, Bool.or_eq_true, beq_iff_eq, bne_iff_ne] at h
  obtain hu | hclaimed := h.1.1.2
  · exact absurd hu hbound
  · exact ⟨hclaimed.1.1.1, hclaimed.1.2, hclaimed.2⟩

end

theorem Effectful.bound {state : StorageMutationState} (h : state.Effectful) : state ≠ .unbound := by
  rintro rfl
  obtain h | h | h := h <;> cases h

section

variable (hs : s0.Sound)
include hs

theorem mutationFencesRead_calm : Triple s0.Calm mutationFencesRead
    (fun mask s => s0.Calm s ∧ s.poisoned = false ∧ s.fences.payload = mask) fun _ => s0.Calm := by
  refine calm_get hs fun s1 hs1 hcalm => Triple.check (fun _ => hcalm) fun hpoisoned => ?_
  refine Triple.ite (fun _ => Triple.done ⟨hcalm, ?_, rfl⟩) fun _ => ?_
  · exact Bool.eq_false_iff.mpr hpoisoned
  · exact (mutationPoison_calm hs).weaken (fun s heq => heq ▸ hcalm) (fun _ _ h => h.elim)
      fun _ _ h => h

theorem mutationFenceLost_calm (hr : m.mutationResource < 32) :
    Triple s0.Calm (mutationFenceLost m)
      (fun _ s => s0.Calm s ∧ (m.mutationState.Effectful → s.Fenced m.mutationResource))
      fun _ => s0.Calm := by
  refine Triple.ite (fun _ => ?_) fun hnot => Triple.pure fun s hcalm => ⟨hcalm, fun h => absurd h hnot⟩
  refine (mutationFencesRead_calm hs).bind fun mask => ?_
  refine Triple.start fun s1 hs1 => ?_
  obtain ⟨hcalm, -, rfl⟩ := hs1
  refine Triple.ite (fun hnamed => Triple.done ⟨hcalm, fun _ => Or.inr hnamed⟩) fun _ => ?_
  refine Triple.read (Triple.ite (fun _ => Triple.updated ⟨?_, fun _ => Or.inr ?_⟩) fun _ => ?_)
  · exact hcalm.trans ((hcalm.sound hs).setFences fun r hr => names_or.mpr (Or.inl hr))
  · exact names_or.mpr (Or.inr ((names_bit hr).mpr rfl))
  · exact (mutationPoison_calm hs).weaken (fun s heq => heq ▸ hcalm) (fun _ _ h => h.elim)
      fun _ _ h => h

theorem calm_fenceLost (hr : m.mutationResource < 32) (hE : ∀ e s, s0.Calm s → E e s)
    (h : ∀ s1, s1.Sound → s0.Calm s1 → (m.mutationState.Effectful → s1.Fenced m.mutationResource) →
      Triple s1.Calm (f ()) R E) :
    Triple s0.Calm (mutationFenceLost m >>= f) R E := by
  refine ((mutationFenceLost_calm hs hr).weaken (fun _ hcalm => hcalm) (fun _ _ h => h) hE).bind fun _ => ?_
  refine Triple.start fun s1 hs1 => ?_
  have hsound := hs1.1.sound hs
  exact (h s1 hsound hs1.1 hs1.2).pre fun s heq => heq ▸ hsound.calm_refl

theorem loadIdentity_calm : Keeps s0.Calm loadIdentity :=
  calm_get hs fun _ _ hcalm => Triple.check (fun _ => hcalm) fun _ => Triple.done hcalm

theorem storeIdentity_calm {identity : StorageIdentity} :
    Keeps s0.Calm (storeIdentity identity) :=
  calm_get hs fun _ hs1 hcalm => Triple.check (fun _ => hcalm) fun _ =>
    Triple.updated (hcalm.trans hs1.setService)

theorem clearData_calm : Keeps s0.Calm (clearData i) :=
  Keeps.modify fun _ hcalm => hcalm.trans (hcalm.sound hs).setFrame

theorem storeData_calm {data : Vector UInt8 storageRequestBlockSize} {length : Nat} :
    Keeps s0.Calm (storeData i data length) :=
  Keeps.modify fun _ hcalm => hcalm.trans (hcalm.sound hs).setFrame

theorem loadData_calm {length : Nat} : Keeps s0.Calm (loadData i length) :=
  calm_get hs fun _ hs1 hcalm => Triple.check (fun _ => hcalm) fun _ =>
    Triple.update (Triple.done (hcalm.trans hs1.setFrame))

end

theorem BulkCalm.goes {bulk bulk' : StorageBulkSlot} (hfree : bulk.state ≠ .free)
    (hrevoked : bulk.state ≠ .revoked) (hstate : bulk'.state ≠ .free)
    (hhandle : bulk'.requestHandle = bulk.requestHandle) : BulkCalm bulk bulk' :=
  Or.inr ⟨hfree, hstate, hhandle, fun _ => hrevoked⟩

theorem StoragePool.Sound.fill {data : List UInt8} (hs : s0.Sound) :
    s0.Calm (s0.setBulk b ((s0.bulk b).fill data)) := by
  refine hs.setBulk ?_
  by_cases hfree : (s0.bulk b).state = .free
  · exact Or.inl ⟨hfree, hs.bulk.free b hfree⟩
  · exact Or.inr ⟨hfree, hfree, rfl, fun h => h⟩

theorem BulkCalm.clear : BulkCalm bulk bulk.clear := Or.inl ⟨rfl, rfl⟩

theorem bulkClear_calm (hs : s0.Sound) : Keeps s0.Calm (bulkClear b) :=
  Keeps.modify fun _ hcalm => hcalm.trans ((hcalm.sound hs).setBulk .clear)

theorem bulkFind_some (h : s.bulkFind handle = some b) :
    (s.bulk b).state ≠ .free ∧ (s.bulk b).requestHandle = handle := by
  have hb := List.find?_some h
  simpa using hb

theorem bulkFind_none (h : s.bulkFind handle = none) (b : StorageBulkIndex)
    (hb : (s.bulk b).state ≠ .free) : (s.bulk b).requestHandle ≠ handle := by
  have hnone := List.find?_eq_none.mp h b (List.mem_finRange b)
  simpa [hb] using hnone

theorem BulkCalm.released (h : bulk.state ≠ .free) :
    BulkCalm bulk bulk.released ∧ (bulk.released.state = .free ∨ bulk.released.state = .revoked) := by
  unfold StorageBulkSlot.released
  split
  next => exact ⟨Or.inr ⟨h, by simp, rfl, fun hrevoked => absurd rfl hrevoked⟩, Or.inr rfl⟩
  next => exact ⟨.clear, Or.inl rfl⟩

theorem bulkRelease_calm (hs : s0.Sound) : Triple s0.Calm (bulkRelease handle)
    (fun _ s => s0.Calm s ∧ s.Unheld handle) (fun e s => E e s) := by
  refine calm_get hs fun s1 hs1 hcalm => ?_
  cases hfind : s1.bulkFind handle with
  | none => exact Triple.done ⟨hcalm, fun b hb _ => bulkFind_none hfind b hb⟩
  | some b =>
    obtain ⟨hlive, hhandle⟩ := bulkFind_some hfind
    obtain ⟨hreleased, hstate⟩ := BulkCalm.released hlive
    refine Triple.updated ⟨hcalm.trans (hs1.setBulk hreleased), ?_⟩
    intro c hc hrevoked heq
    unfold StoragePool.setBulk at hc hrevoked heq
    by_cases hcb : c = b
    · subst hcb
      simp only [Function.update_self] at hc hrevoked
      obtain hfree | hrevoked' := hstate
      · exact hc hfree
      · exact hrevoked hrevoked'
    · simp only [ne_eq, hcb, not_false_eq_true, Function.update_of_ne] at hc heq
      exact hcb (hs1.bulk.unique c b hc hlive (heq.trans hhandle.symm))

/-- A mutation that is claimed by the bound service, in time. -/
structure Claims (s : StoragePool) (handle : UInt32) (nowMs : UInt64) (i : StorageSlot)
    (m : StorageSlotMetadata) : Prop where
  resolves : Resolves s handle i m
  claimed : m.state = .claimed
  early : nowMs < m.deadlineMs

theorem mutationClaimed_calm (hs : s0.Sound) :
    Triple s0.Calm (mutationClaimed service handle nowMs)
      (fun p s => s0.Calm s ∧ Claims s0 handle nowMs p.1 p.2) fun _ => s0.Calm := by
  have herror : ∀ (e : StorageError) s, s0.Calm s → s0.Calm s := fun _ _ h => h
  refine calm_keeps (loadIdentity_calm hs) herror fun _ => calm_refuse herror fun _ =>
    calm_resolve hs herror fun i m hm => calm_refuse herror fun _ => calm_refuse herror fun _ =>
    calm_refuse herror fun hclaimed => calm_refuse herror fun hlate => Triple.pure fun s hcalm => ?_
  exact ⟨hcalm, hm, not_not.mp hclaimed, UInt64.not_le.mp hlate⟩

theorem calm_claimed {f : StorageSlot × StorageSlotMetadata → Pool β} (hs : s0.Sound)
    (hE : ∀ e s, s0.Calm s → E e s)
    (h : ∀ i m, Claims s0 handle nowMs i m → Triple s0.Calm (f (i, m)) R E) :
    Triple s0.Calm (mutationClaimed service handle nowMs >>= f) R E :=
  ((mutationClaimed_calm hs).weaken (fun _ hcalm => hcalm) (fun _ _ hp => hp) hE).learn fun p hp => h p.1 p.2 hp

end Calm

variable {m' : StorageSlotMetadata}

theorem storeMetadata_calm (hs : s0.Sound) : Triple s0.Calm (storeMetadata i m')
    (fun _ s => ∃ s1, s1.Sound ∧ s0.Calm s1 ∧ metadataValid (s0.slot i) = true ∧ s = s1.setMetadata i m')
    fun _ => s0.Calm := by
  refine calm_get hs fun s1 hs1 hcalm => Triple.ite (fun hwritable => Triple.updated ?_) fun _ => ?_
  · have hreadable := (Bool.and_eq_true_iff.mp hwritable).1
    have hvalid : metadataValid (s1.slot i) = true := (Bool.and_eq_true_iff.mp hreadable).2
    rw [hcalm.slots i] at hvalid
    exact ⟨s1, hs1, hcalm, hvalid, rfl⟩
  · exact (mutationPoison_calm hs).weaken (fun s heq => heq ▸ hcalm) (fun _ _ h => h.elim)
      fun _ _ h => h

theorem storeMetadata_moved (hs : s0.Sound) (h : ∀ s1, s1.Sound → s0.Calm s1 →
    metadataValid (s0.slot i) = true → s0.Moved x (s1.setMetadata i m')) :
    Triple s0.Calm (storeMetadata i m') (fun _ => s0.Moved x) fun _ => s0.Calm := by
  refine (storeMetadata_calm hs).post fun _ s hstored => ?_
  obtain ⟨s1, hs1, hcalm, hvalid, rfl⟩ := hstored
  exact h s1 hs1 hcalm hvalid

theorem releaseSlot_moved (hs : s0.Sound) (hgeneration : m.generation = (s0.slot i).generation)
    (hmax : m.generation ≤ storageHandleGenerationMax) (hr : m.mutationResource < 32)
    (hkeep : metadataValid (s0.slot i) = true → (s0.slot i).mutationState.Effectful →
      m.mutationState.Effectful ∧ m.mutationResource = (s0.slot i).mutationResource ∨
        x = .acked (storageMakeHandle i m.generation)) :
    Triple s0.Calm (releaseSlot i m) (fun _ => s0.Moved x) fun _ => s0.Calm := by
  refine calm_fenceLost hs hr (fun _ _ h => h) fun s1 hs1 hcalm hfenced => ?_
  refine (bulkRelease_calm (E := fun _ => s0.Calm) hs1).bind fun _ => Triple.start fun s2 hs2 => ?_
  have hsound2 := hs2.1.sound hs1
  have hcalm2 := hcalm.trans hs2.1
  refine Triple.pre (P := s2.Calm) ?_ fun s heq => heq ▸ hsound2.calm_refl
  have herror : ∀ (e : StorageError) s, s2.Calm s → s0.Calm s := fun _ s h => hcalm2.trans h
  refine calm_keeps (clearData_calm hsound2) herror fun _ => ?_
  refine (storeMetadata_calm hsound2).ends (fun _ s hstored => ?_) herror
  obtain ⟨s3, hs3, hcalm3, hvalid, rfl⟩ := hstored
  rw [hcalm2.slots i] at hvalid
  have hvacate : ∀ state generation, m.replacement = .vacant state generation →
      state.Idle → m.generation ≤ generation → s0.Moved x (s3.setMetadata i m.replacement) := by
    intro state generation heq hidle hle
    rw [heq]
    rw [hgeneration] at hle
    refine hs.vacate (hcalm2.trans hcalm3) hidle hle (fun _ => ?_) fun heffect => ?_
    · rw [← hgeneration]
      exact hs2.2.calm hcalm3
    · obtain ⟨hstate, hresource⟩ | hacked := hkeep hvalid heffect
      · rw [← hresource]
        exact Or.inl ((hs2.1.trans hcalm3).fences _ (hfenced hstate))
      · rw [← hgeneration]
        exact Or.inr hacked
  have hle := replacement_generation hmax
  unfold StorageSlotMetadata.replacement at hle hvacate ⊢
  split at hle
  next heq => exact (if_pos heq ▸ hvacate _ _ (if_pos heq) (Or.inr rfl) hle)
  next hne => exact (if_neg hne ▸ hvacate _ _ (if_neg hne) (Or.inl rfl) hle)

end ReistOs.RequestPool
