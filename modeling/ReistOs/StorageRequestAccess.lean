import ReistOs.StorageRequestSteps

/-! What the accesses of the records do to the request pool: reads and refusals move nothing that
counts, a store changes one slot, and a release leaves the effects of its request fenced. -/

namespace ReistOs.RequestPool

open Attempt

variable {s s' s0 s1 s2 : StoragePool} {i : StorageSlot} {m m' : StorageSlotMetadata}
  {handle generation : UInt32} {x : StorageExcuse}

@[simp] theorem setMetadata_slot : (s.setMetadata i m).slot i = m := by
  simp [StoragePool.slot, StoragePool.setMetadata, CriticalObject.update]

theorem setMetadata_slot_ne {j : StorageSlot} (h : j ≠ i) : (s.setMetadata i m).slot j = s.slot j := by
  simp [StoragePool.slot, StoragePool.setMetadata, h]

/-- The state after a step is sound, and the step is one. -/
structure StoragePool.Moved (x : StorageExcuse) (s s' : StoragePool) : Prop where
  sound : s'.Sound
  step : PoolStep x s s'

theorem StoragePool.Moved.refl (hs : s.Sound) : s.Moved .none s := ⟨hs, .refl⟩

theorem StoragePool.Moved.trans (h : s.Moved .none s') (h' : s'.Moved .none s1) : s.Moved .none s1 :=
  ⟨h'.sound, h.step.trans h'.step⟩

theorem StoragePool.Calm.moved (h : s.Calm s') (hs : s.Sound) : s.Moved .none s' := ⟨h.sound hs, h.step⟩

/-- What a store may make of a slot that keeps its request. -/
structure StorageSlotMetadata.Changes (x : StorageExcuse) (s : StoragePool) (i : StorageSlot)
    (m m' : StorageSlotMetadata) : Prop where
  generation : m'.generation = m.generation
  operation : m'.operation = m.operation
  before : ¬ m.state.Idle
  live : ¬ m'.state.Idle
  kept : m.Kept m'
  client : m'.client = m.client
  deadline : m'.deadlineMs = m.deadlineMs
  effect : m.mutationState.Effectful →
    m'.mutationState.Effectful ∧ m'.mutationResourcePlusOne = m.mutationResourcePlusOne
  attempted : m'.mutationState = .attempted → m'.state = .claimed ∨ m'.state = .cancelPending
  unknown : m'.mutationState = .finishedUnknown → s.Fenced m'.mutationResource
  delivered : m'.state = .delivered → x = .copied (storageMakeHandle i m'.generation)

theorem StoragePool.Sound.store (hs : s0.Sound) (hcalm : s0.Calm s1)
    (hslot : SlotStep x (s1.setMetadata i m') i (s0.slot i) m')
    (hattempted : m'.mutationState = .attempted → m'.state = .claimed ∨ m'.state = .cancelPending)
    (hunknown : m'.mutationState = .finishedUnknown → s1.Fenced m'.mutationResource)
    (hheld : ∀ b, (s1.bulk b).state ≠ .free → (s1.bulk b).state ≠ .revoked →
      (s1.bulk b).requestHandle = storageMakeHandle i (s0.slot i).generation →
      ¬ (s0.slot i).state.Idle → m'.generation = (s0.slot i).generation ∧ ¬ m'.state.Idle) :
    s0.Moved x (s1.setMetadata i m') := by
  have hother : ∀ j, j ≠ i → (s1.setMetadata i m').slot j = s0.slot j := fun j hj =>
    (setMetadata_slot_ne hj).trans (hcalm.slots j)
  have hslots : ∀ j, SlotStep x (s1.setMetadata i m') j (s0.slot j) ((s1.setMetadata i m').slot j) := by
    intro j
    by_cases hj : j = i
    · subst hj
      rw [setMetadata_slot]
      exact hslot
    · rw [hother j hj]
      exact .refl
  refine ⟨⟨?_, ?_, ?_, ?_⟩, ⟨hslots, fun r hr => Or.inl (hcalm.fences r hr)⟩⟩
  · intro j
    by_cases hj : j = i
    · subst hj
      rw [setMetadata_slot]
      exact hattempted
    · rw [hother j hj]
      exact hs.attempted j
  · intro j
    by_cases hj : j = i
    · subst hj
      rw [setMetadata_slot]
      exact hunknown
    · rw [hother j hj]
      exact fun hj => hcalm.fences _ (hs.unknown j hj)
  · refine hs.bulk.of_calm hcalm.bulk (fun j => (hslots j).generation) ?_
    intro b j hb hrevoked hhandle hidle
    by_cases hj : j = i
    · subst hj
      rw [setMetadata_slot]
      exact hheld b hb hrevoked hhandle hidle
    · rw [hother j hj]
      exact ⟨rfl, hidle⟩
  · intro copy hcopy
    have hbefore : copy ∈ s0.copies := hcalm.copies ▸ hcopy
    exact (hs.copies copy hbefore).mono hslots

theorem StoragePool.Sound.change (hs : s0.Sound) (hcalm : s0.Calm s1)
    (h : StorageSlotMetadata.Changes x s1 i (s0.slot i) m') : s0.Moved x (s1.setMetadata i m') := by
  refine hs.store hcalm ⟨?_, ?_, ?_, fun _ _ => h.kept, ?_, ?_⟩ h.attempted h.unknown ?_
  · rw [h.generation]
    exact UInt32.le_refl _
  · intro _ hoperation
    rw [h.operation]
    exact hoperation
  · intro _ hidle
    exact absurd hidle h.before
  · intro _ heffect
    obtain ⟨heffect', hresource⟩ := h.effect heffect
    exact Or.inl ⟨h.generation, h.live, h.client, h.deadline, heffect', hresource⟩
  · intro hdelivered
    exact Or.inr (h.delivered hdelivered)
  · intro _ _ _ _ _
    exact ⟨h.generation, h.live⟩

def StoragePool.Unheld (s : StoragePool) (handle : UInt32) : Prop :=
  ∀ b, (s.bulk b).state ≠ .free → (s.bulk b).state ≠ .revoked → (s.bulk b).requestHandle ≠ handle

theorem StoragePool.Unheld.calm (h : s.Unheld handle) (hcalm : s.Calm s') : s'.Unheld handle := by
  intro b hb hrevoked
  obtain ⟨hfree, -⟩ | ⟨hold, -, hhandle, hkeep⟩ := hcalm.bulk b
  · exact absurd hfree hb
  · rw [hhandle]
    exact h b hold (hkeep hrevoked)

theorem StoragePool.Sound.vacate {state : StorageSlotState} (hs : s0.Sound) (hcalm : s0.Calm s1)
    (hidle : state.Idle) (hgeneration : (s0.slot i).generation ≤ generation)
    (hunheld : ¬ (s0.slot i).state.Idle → s1.Unheld (storageMakeHandle i (s0.slot i).generation))
    (heffect : (s0.slot i).mutationState.Effectful → s1.Fenced (s0.slot i).mutationResource ∨
      x = .acked (storageMakeHandle i (s0.slot i).generation)) :
    s0.Moved x (s1.setMetadata i (.vacant state generation)) := by
  refine hs.store hcalm ⟨hgeneration, ?_, fun _ _ => hidle,
    fun _ hlive => absurd hidle hlive, ?_, ?_⟩ ?_ ?_ ?_
  · intro _ _ hoperation
    cases hoperation
  · intro hlive hstate
    refine Or.inr ⟨?_, heffect hstate⟩
    obtain hlt | heq := UInt32.lt_or_eq_of_le hgeneration
    · exact Or.inl hlt
    · exact Or.inr ⟨heq.symm, hidle⟩
  · intro hdelivered
    have hstate : state = .delivered := hdelivered
    subst hstate
    obtain h | h := hidle <;> cases h
  · intro h
    cases h
  · intro h
    cases h
  · intro b hb hrevoked hhandle hlive
    exact absurd hhandle (hunheld hlive b hb hrevoked)

theorem storageSlot_lt (i : StorageSlot) : i.val < 255 := Nat.lt_of_lt_of_le i.isLt (by decide)

theorem makeHandle_inj {j : StorageSlot} {generation' : UInt32}
    (h : generation ≤ storageHandleGenerationMax) (h' : generation' ≤ storageHandleGenerationMax)
    (heq : storageMakeHandle i generation = storageMakeHandle j generation') :
    i = j ∧ generation = generation' := by
  obtain ⟨hslot, hgeneration⟩ := slotToken_inj (storageSlot_lt i) (storageSlot_lt j) h h' heq
  exact ⟨Fin.ext hslot, hgeneration⟩

theorem makeHandle_ne_zero (h : generation ≤ storageHandleGenerationMax) : storageMakeHandle i generation ≠ 0 := by
  intro hzero
  have hvalue := slotToken_toNat (storageSlot_lt i) h
  have htoken : slotToken i.val generation = 0 := hzero
  rw [htoken] at hvalue
  have : (0 : UInt32).toNat = 0 := rfl
  omega

theorem handleSlot_handle (h : storageHandleSlot handle = some i) :
    storageMakeHandle i (handle >>> 8) = handle := by
  unfold storageHandleSlot at h
  simp only at h
  split at h
  next hbounds =>
    have hi := Option.some.inj h
    subst hi
    refine slotToken_of_low ?_
    show (handle &&& 0xff).toNat = (handle &&& 0xff).toNat - 1 + 1
    omega
  next => cases h

theorem handleSlot_makeHandle :
    storageHandleSlot (storageMakeHandle i generation) = some i := by
  obtain ⟨hin, hindex⟩ := slotToken_index i (by decide) generation
  exact (dif_pos hin).trans (congrArg some hindex)

theorem makeHandle_generation (h : generation ≤ storageHandleGenerationMax) :
    storageMakeHandle i generation >>> 8 = generation := slotToken_high (storageSlot_lt i) h

theorem generation_lt_succ (h : generation ≤ storageHandleGenerationMax) : generation < generation + 1 := by
  have hle : generation.toNat ≤ 16777215 := UInt32.le_iff_toNat_le.mp h
  rw [UInt32.lt_iff_toNat_lt, UInt32.toNat_add]
  have : (1 : UInt32).toNat = 1 := rfl
  omega

theorem replacement_generation (h : m.generation ≤ storageHandleGenerationMax) :
    m.generation ≤ m.replacement.generation := by
  unfold StorageSlotMetadata.replacement
  split
  next heq => exact heq ▸ UInt32.le_refl _
  next => exact UInt32.le_of_lt (generation_lt_succ h)

end ReistOs.RequestPool
