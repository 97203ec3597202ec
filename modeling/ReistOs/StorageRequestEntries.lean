import ReistOs.StorageRequestMoves

/-! The claims, completions, collections and cancellations of the storage request pool, and the
copies of its bulk buffers. -/

namespace ReistOs.RequestPool

open Attempt StorageSlotState

variable {α β : Type} {s s0 s1 : StoragePool} {i : StorageSlot} {b : StorageBulkIndex}
  {m : StorageSlotMetadata} {handle : UInt32} {client service : StorageIdentity} {nowMs : UInt64}

section Requests

variable {version : StorageDescriptorVersion}
  {blockData : Option (Vector UInt8 storageRequestBlockSize)}

theorem claimIn_moves (slots : List StorageSlot) : Moves (claimIn service nowMs version slots) := by
  induction slots with
  | nil => exact Moves.fail
  | cons i rest ih =>
    intro s0 hs
    have herror := calm_moved hs
    refine calm_load hs herror fun m hm hvalid => Triple.ite (fun _ => ih s0 hs) fun hstate => ?_
    have hwaiting : m.state = .queued ∨ m.state = .inputPending := by
      by_contra hnot
      exact hstate (not_or.mp hnot)
    have hlive : ¬ m.state.Idle := by
      obtain h | h := hwaiting <;> simp [StorageSlotState.Idle, h]
    have hattempted : m.mutationState ≠ .attempted := by
      apply hs.not_attempted hm <;> obtain h | h := hwaiting <;> simp [h]
    have hearly : m.state.phase < 2 := by
      obtain h | h := hwaiting <;> simp [phase, h]
    have hkept : ∀ state service result, 2 ≤ state.phase →
        m.Kept { m with state := state, service := service, result := result } := fun _ _ _ h =>
      .moved (hearly.le.trans h) (fun _ => by omega) fun _ => by omega
    refine Triple.ite (fun _ => ?_) fun _ => Triple.ite (fun _ => ih s0 hs) fun _ =>
      Triple.ite (fun _ => ih s0 hs) fun _ => ?_
    · refine Triple.bind (Q := fun _ => s0.Moved .none) ?_ fun _ => ih.keeps
      exact (storeState_moved hs hs hs.calm_refl hm hlive (by simp [StorageSlotState.Idle])
        (hkept _ _ _ (by simp [phase])) (fun h => absurd h hattempted) fun h => by cases h).errors herror
    · have hdata : Keeps s0.Calm (if m.operation.any operationHasInput = true then
          loadData i m.length else Pure.pure []) :=
        Triple.ite (fun _ => loadData_calm hs) fun _ => Keeps.pure
      refine calm_keeps hdata herror fun _ => ?_
      refine Triple.bind (Q := fun _ => s0.Moved .none) ?_ fun _ => Triple.ret
      exact (storeState_moved hs hs hs.calm_refl hm hlive (by simp [StorageSlotState.Idle])
        (hkept _ _ _ (by simp [phase])) (fun h => absurd h hattempted) fun h => by cases h).errors herror

theorem storageRequestClaim_moves :
    Moves (storageRequestClaim service nowMs version) := fun s0 hs =>
  calm_keeps (loadIdentity_calm hs) (calm_moved hs) fun _ => calm_refuse (calm_moved hs) fun _ =>
    claimIn_moves storageSlots s0 hs

theorem bulkRelease_keeps (hs : s0.Sound) : Keeps s0.Calm (bulkRelease handle) :=
  (bulkRelease_calm hs).post fun _ _ h => h.1

variable {resultCode : Int}

theorem completeBulk_calm (hs : s0.Sound) : Keeps s0.Calm (completeBulk handle m resultCode) := by
  refine Triple.ite (fun _ => Triple.ite (fun _ => ?_) fun _ => bulkRelease_keeps hs) fun _ => Keeps.pure
  exact calm_get hs fun s1 hs1 hcalm =>
    (Triple.refuse (P := fun s => s = s1) (fun s h _ => h ▸ hcalm) fun s h _ => h ▸ hcalm)

theorem completeOutput_calm
    (hs : s0.Sound) : Keeps s0.Calm (completeOutput i m resultCode blockData) := by
  refine Triple.ite (fun _ => ?_) fun _ => Keeps.pure
  cases blockData with
  | none => exact Keeps.fail
  | some block => exact storeData_calm hs

/-- What a mutation is when its request completes: no attempt is left open. -/
structure Completing (s : StoragePool) (m m' : StorageSlotMetadata) : Prop where
  same : m' = { m with mutationState := m'.mutationState }
  closed : m'.mutationState ≠ .attempted
  effect : m.mutationState.Effectful → m'.mutationState.Effectful
  unknown : m'.mutationState = .finishedUnknown → s.Fenced m.mutationResource

theorem completeMutation_calm (hs : s0.Sound) (hm : m = s0.slot i) (hvalid : metadataValid m = true) :
    Triple s0.Calm (completeMutation m resultCode)
      (fun m' s => s0.Calm s ∧ Completing s m m') fun _ => s0.Calm := by
  refine Triple.ite (fun hopen => calm_refuse (fun _ _ h => h) fun _ => ?_) fun hclosed => ?_
  · refine (mutationFenceLost_calm hs (metadataValid_resource hvalid)).bind fun _ => Triple.pure ?_
    rintro s ⟨hcalm, hfenced⟩
    obtain ⟨-, hbound | hattempted⟩ := hopen
    · refine ⟨hcalm, by simp [hbound], by simp [hbound], ?_, by simp [hbound]⟩
      intro heffect
      rw [hbound] at heffect
      obtain h | h | h := heffect <;> cases h
    · have heffect : m.mutationState.Effectful := Or.inl hattempted
      refine ⟨hcalm, by simp [hattempted], by simp [hattempted], ?_, fun _ => hfenced heffect⟩
      simp [hattempted, StorageMutationState.Effectful]
  · refine Triple.pure fun s hcalm => ⟨hcalm, rfl, ?_, fun h => h, ?_⟩
    · intro hattempted
      have hmutation := metadataValid_mutation hvalid (by simp [hattempted])
      exact hclosed ⟨hmutation.1, Or.inr hattempted⟩
    · intro hunknown
      subst hm
      exact hcalm.fences _ (hs.unknown i hunknown)

theorem storageRequestComplete_moves :
    Moves (storageRequestComplete service handle resultCode blockData) := by
  intro s0 hs
  have herror := calm_moved hs
  refine calm_resolve hs herror fun i m hm => calm_refuse herror fun hclaimed =>
    Triple.ite (fun _ => ?_) fun hpending => ?_
  · exact (releaseSlot_loaded hs hm.slot hm.valid).errors herror
  · have hstate : m.state.phase = 2 := by
      have hclaimed : m.state = .claimed := not_not.mp fun h => hclaimed (Or.inl ⟨h, hpending⟩)
      rw [hclaimed]
      rfl
    have hcomplete : m.state.phase ≤ complete.phase := by
      rw [hstate]
      decide
    refine ((completeMutation_calm hs hm.slot hm.valid).errors
      herror).bind fun m' => Triple.start fun s1 hs1 => ?_
    obtain ⟨hcalm, hcompleting⟩ := hs1
    have hsound := hcalm.sound hs
    refine Triple.pre (P := s1.Calm) ?_ fun s h => h ▸ hsound.calm_refl
    have herror1 := calm_since hs hcalm
    have hresource : m'.mutationResource < 32 := by
      rw [hcompleting.same]
      show m.mutationResource < 32
      exact metadataValid_resource hm.valid
    have hlost : Keeps s1.Calm (if m'.operation = some .vfsObjectMutate ∧ resultCode ≠ 0 then
        mutationFenceLost m' else Pure.pure ()) :=
      Triple.ite (fun _ => (mutationFenceLost_calm hsound hresource).post fun _ _ h => h.1) fun _ => Keeps.pure
    refine calm_keeps hlost herror1 fun _ => calm_keeps (completeBulk_calm hsound) herror1 fun _ =>
      calm_keeps (completeOutput_calm hsound) herror1 fun _ => ?_
    refine (storeMetadata_calm hsound).ends (fun _ s hstored => ?_) herror1
    obtain ⟨s2, -, hcalm2, -, rfl⟩ := hstored
    have hslot := hm.slot
    subst hslot
    rw [hcompleting.same]
    exact hs.change (hcalm.trans hcalm2)
      { generation := rfl
        operation := rfl
        before := hm.live
        live := by simp [StorageSlotState.Idle]
        kept := ⟨rfl, rfl, rfl, rfl, hcomplete, fun _ => rfl, fun _ => by omega⟩
        client := rfl
        deadline := rfl
        effect := fun h => ⟨hcompleting.effect h, rfl⟩
        attempted := fun h => absurd h hcompleting.closed
        unknown := fun h => hcalm2.fences _ (hcompleting.unknown h)
        delivered := nofun }

theorem storageRequestCompletionContext_moves : Moves (storageRequestCompletionContext service handle) :=
  Moves.of_calm fun _ hs => calm_resolve hs (fun _ _ h => h) fun _ _ _ =>
    calm_refuse (fun _ _ h => h) fun _ => Keeps.pure

theorem storageRequestCollect_moves {room : Bool} : Moves (storageRequestCollect client handle room) := by
  intro s0 hs
  have herror := calm_moved hs
  refine calm_resolve hs herror fun i m hm => calm_refuse herror fun _ => calm_refuse herror fun _ =>
    calm_refuse herror fun _ => calm_refuse herror fun _ => calm_refuse herror fun _ =>
    calm_refuse herror fun _ => ?_
  refine calm_keeps (Triple.ite (fun _ => loadData_calm hs) fun _ => Keeps.pure) herror fun _ => ?_
  refine Triple.bind (Q := fun _ => s0.Moved .none) ?_ fun _ => Triple.ret
  exact (releaseSlot_loaded hs hm.slot hm.valid).errors herror

theorem storageRequestCancel_moves : Moves (storageRequestCancel client handle) := by
  intro s0 hs
  have herror := calm_moved hs
  refine calm_refuse herror fun _ => calm_resolve hs herror fun i m hm => calm_refuse herror fun _ => ?_
  refine calm_fenceLost hs (metadataValid_resource hm.valid) herror fun s1 hs1 hcalm _ => ?_
  have herror1 := calm_since hs hcalm
  have hdone : Triple s1.Calm (Pure.pure () : Pool Unit) (fun _ => s0.Moved .none) fun _ =>
      s0.Moved .none := Triple.pure fun s h => herror1 .einval s h
  refine Triple.ite (fun _ => hdone) fun _ => Triple.ite (fun hstate => ?_) fun _ =>
    Triple.ite (fun _ => hdone) fun _ => Triple.ite (fun _ => ?_) fun _ => ?_
  · have hattempted : m.mutationState ≠ .attempted := by
      apply hs.not_attempted hm.slot <;> simp [hstate]
    exact (storeState_moved hs hs1 hcalm hm.slot hm.live (by simp [StorageSlotState.Idle])
      (.moved (by simp [hstate, phase]) (fun _ => rfl) fun _ => rfl)
      (fun h => absurd h hattempted) fun h => by cases h).errors herror
  · have hslot : m = s1.slot i := hm.slot.trans (hcalm.slots i).symm
    exact (releaseSlot_loaded hs1 hslot hm.valid).ends
      (fun _ _ h => (hcalm.moved hs).trans h) herror1
  · refine calm_refuse herror1 fun hclaimed => ?_
    have hstate : m.state = .claimed := not_not.mp hclaimed
    exact (storeState_moved hs hs1 hcalm hm.slot hm.live (by simp [StorageSlotState.Idle])
      (.moved (by simp [hstate, phase]) (fun _ => rfl) fun _ => rfl)
      (fun _ => Or.inr rfl) fun h => by cases h).errors herror

end Requests

variable {copy : StorageCopy} {capacity : Nat} {crc : UInt32}

theorem StoragePool.Sound.withCopies {copies : List StorageCopy} (hs : s0.Sound)
    (hcopies : ∀ c ∈ copies, c.Sound s0) : s0.Moved .none { s0 with copies := copies } := by
  have hslots : ∀ i, SlotStep .none { s0 with copies := copies } i (s0.slot i) (s0.slot i) := fun _ => .refl
  exact ⟨⟨hs.attempted, hs.unknown, ⟨hs.bulk.free, hs.bulk.past, hs.bulk.held, hs.bulk.unique⟩,
    fun c hc => (hcopies c hc).mono hslots⟩, hslots, fun _ h => Or.inl h⟩

theorem beginCopy_moved {state : StorageBulkState} {E : StorageError → StoragePool → Prop}
    (hs : s1.Sound) (hmoved : s0.Moved .none s1) (hfree : (s1.bulk b).state ≠ .free)
    (hrevoked : (s1.bulk b).state ≠ .revoked) (hstate : state ≠ .free) (hcopy : copy.Sound s1) :
    Triple (· = s1) (do bulkSetState b state; beginCopy copy) (fun _ => s0.Moved .none) E := by
  have hcalm : s1.Calm (s1.setBulk b { s1.bulk b with state := state }) :=
    hs.setBulk (.goes hfree hrevoked hstate rfl)
  have hsound := hcalm.sound hs
  have hcopy' : copy.Sound (s1.setBulk b { s1.bulk b with state := state }) := hcopy.mono hcalm.step.slots
  have hbegins := hsound.withCopies (List.forall_mem_cons.mpr ⟨hcopy', hsound.copies⟩)
  exact Triple.update (Triple.updated (hmoved.trans ((hcalm.moved hs).trans hbegins)))

variable {data : List UInt8}

theorem storageRequestInputPublish_moves :
    Moves (storageRequestInputPublish client handle data nowMs) := by
  intro s0 hs
  have herror := calm_moved hs
  refine calm_refuse herror fun _ => calm_resolve hs herror fun i m hm => calm_refuse herror fun _ =>
    calm_refuse herror fun _ => calm_refuse herror fun _ => calm_get hs fun s1 hs1 hcalm => ?_
  cases hfind : s1.bulkFind handle with
  | none => exact Triple.failed (herror .einval s1 hcalm)
  | some b =>
    refine Triple.check (fun _ => herror .einval s1 hcalm) fun hc => ?_
    have hreserved : (s1.bulk b).state = .reserved := not_not.mp fun h => hc (Or.inr h)
    exact beginCopy_moved hs1 (hcalm.moved hs) (by simp [hreserved]) (by simp [hreserved]) (by simp) trivial

def StoragePool.published (s : StoragePool) (b : StorageBulkIndex) (data : List UInt8) : StoragePool :=
  s.setBulk b { s.bulk b with state := .published, length := data.length, crc32 := Crc32.crc32 data }

theorem published_calm (hs : s1.Sound) (hstate : (s1.bulk b).state = .writing) :
    s1.Calm (s1.published b data) :=
  hs.setBulk (.goes (by simp [hstate]) (by simp [hstate]) (by simp) rfl)

theorem fill_calm (hs : s0.Sound) :
    Keeps s0.Calm (Attempt.modify fun s => s.setBulk b ((s.bulk b).fill data) : Pool Unit) :=
  Keeps.modify fun _ hcalm => hcalm.trans (hcalm.sound hs).fill

theorem clearFail_moved {e : StorageError} (hs : s0.Sound) : Triple s0.Calm
    (do bulkClear b; Attempt.fail e : Pool α) (fun _ => s0.Moved .none) fun _ => s0.Moved .none :=
  calm_keeps (bulkClear_calm hs) (calm_moved hs) fun _ => Triple.fail fun _ h => h.moved hs

theorem clearFail_at {e : StorageError} (hs : s0.Sound) (hcalm : s0.Calm s1) :
    Triple (· = s1) (do bulkClear b; Attempt.fail e : Pool α) (fun _ => s0.Moved .none)
      fun _ => s0.Moved .none :=
  (clearFail_moved hs).pre fun _ heq => heq ▸ hcalm

theorem inputPublished_moved (hs : s0.Sound) (hs1 : s1.Sound) (hcalm : s0.Calm s1)
    (hstate : (s1.bulk b).state = .writing) (hm : Resolves s0 handle i m) (hpending : m.state = .inputPending) :
    Triple (· = s1) (inputPublished b i m data) (fun _ => s0.Moved .none)
      fun _ => s0.Moved .none := by
  have hpublished : s1.Calm (s1.published b data) := published_calm hs1 hstate
  have hs2 := hpublished.sound hs1
  have hcalm2 := hcalm.trans hpublished
  refine Triple.update (Triple.pre (P := (s1.published b data).Calm) ?_ ?_)
  swap
  · rintro s rfl
    exact hs2.calm_refl
  have hattempted : m.mutationState ≠ .attempted := by
    apply hs.not_attempted hm.slot <;> simp [hpending]
  refine Triple.bind ((storeState_moved (x := .none) hs hs2 hcalm2 hm.slot hm.live
    (by simp [StorageSlotState.Idle])
    (.moved (by simp [hpending, phase]) (fun _ => rfl) fun _ => rfl)
    (fun h => absurd h hattempted) fun h => by cases h).outcome_ends) fun r => ?_
  cases r with
  | ok _ => exact Triple.ret
  | error e => exact clearFail_moved hs

theorem inputPublishEnd_moves : Moves (inputPublishEnd client handle b data) := by
  intro s0 hs
  have herror := calm_moved hs
  refine calm_keeps (fill_calm hs) herror fun _ => Triple.bind (resolveHandle_calm hs).outcome_ends fun r => ?_
  cases r with
  | error e =>
    exact calm_get hs fun s1 hs1 hcalm => Triple.check (fun _ => herror .eintegrity s1 hcalm) fun _ =>
      clearFail_at hs hcalm
  | ok p =>
    refine Triple.fact fun hm => calm_get hs fun s1 hs1 hcalm =>
      Triple.check (fun _ => herror .eintegrity s1 hcalm) fun _ => ?_
    refine Triple.ite (fun _ => clearFail_at hs hcalm) fun _ =>
      Triple.ite (fun _ => clearFail_at hs hcalm) fun hc => ?_
    have hwriting : (s1.bulk b).state = .writing := not_not.mp fun h => hc (Or.inl h)
    have hpending : p.2.state = .inputPending := not_not.mp fun h => hc (Or.inr (Or.inl h))
    exact inputPublished_moved hs hs1 hcalm hwriting hm hpending

theorem storageRequestInputTake_moves :
    Moves (storageRequestInputTake service handle capacity nowMs) := by
  intro s0 hs
  have herror := calm_moved hs
  refine calm_refuse herror fun _ => calm_claimed hs herror fun i m hm => calm_get hs fun s1 hs1 hcalm => ?_
  cases hfind : s1.bulkFind handle with
  | none => exact Triple.failed (herror .einval s1 hcalm)
  | some b =>
    refine Triple.check (fun _ => herror .einval s1 hcalm) fun hc =>
      Triple.check (fun _ => herror .eintegrity s1 hcalm) fun _ =>
      Triple.check (fun _ => herror .emsgsize s1 hcalm) fun _ => ?_
    have hpublished : (s1.bulk b).state = .published := not_not.mp hc
    exact beginCopy_moved hs1 (hcalm.moved hs) (by simp [hpublished]) (by simp [hpublished]) (by simp) trivial

theorem inputTakeEnd_moves {length : Nat} :
    Moves (inputTakeEnd service handle b length crc nowMs) := by
  intro s0 hs
  have herror := calm_moved hs
  refine Triple.bind (mutationClaimed_calm hs).outcome_ends fun r => ?_
  have hcalm_of : ∀ s, Attempt.Ends (fun p s => s0.Calm s ∧ Claims s0 handle nowMs p.1 p.2)
      (fun _ => s0.Calm) r s → s0.Calm s := by
    intro s h
    cases r with
    | ok p => exact h.1
    | error e => exact h
  refine Triple.pre (P := s0.Calm) ?_ hcalm_of
  refine calm_get hs fun s1 hs1 hcalm => Triple.check (fun _ => herror .eintegrity s1 hcalm) fun _ => ?_
  cases r with
  | error e => exact clearFail_at hs hcalm
  | ok p =>
    refine Triple.ite (fun _ => clearFail_at hs hcalm) fun hrevoked =>
      Triple.ite (fun _ => clearFail_at hs hcalm) fun hc => ?_
    have hreading : (s1.bulk b).state = .reading := not_not.mp fun h => hc (Or.inl h)
    have hconsumed : s1.Calm (s1.setBulk b { s1.bulk b with state := .consumed }) :=
      hs1.setBulk (.goes (by simp [hreading]) hrevoked (by simp) rfl)
    exact Triple.update (Triple.done ((hcalm.trans hconsumed).moved hs))

theorem storageRequestBulkPublish_moves :
    Moves (storageRequestBulkPublish service handle data) := by
  intro s0 hs
  have herror := calm_moved hs
  refine calm_refuse herror fun _ => calm_resolve hs herror fun i m hm => calm_refuse herror fun _ =>
    calm_get hs fun s1 hs1 hcalm => ?_
  cases hfind : s1.bulkFind handle with
  | none => exact Triple.failed (herror .einval s1 hcalm)
  | some b =>
    refine Triple.check (fun _ => herror .einval s1 hcalm) fun hc => ?_
    have hreserved : (s1.bulk b).state = .reserved := not_not.mp hc
    exact beginCopy_moved hs1 (hcalm.moved hs) (by simp [hreserved]) (by simp [hreserved]) (by simp) trivial

theorem bulkPublishEnd_moves : Moves (bulkPublishEnd handle b data) := by
  intro s0 hs
  have herror := calm_moved hs
  refine calm_keeps (fill_calm hs) herror fun _ => calm_get hs fun s1 hs1 hcalm => ?_
  refine Triple.ite (fun _ => clearFail_at hs hcalm) fun _ =>
    Triple.ite (fun _ => clearFail_at hs hcalm) fun hc => ?_
  have hwriting : (s1.bulk b).state = .writing := not_not.mp hc
  exact Triple.updated ((hcalm.trans (published_calm hs1 hwriting)).moved hs)

theorem bulkCollectBuffer_calm (hs : s0.Sound) :
    Keeps s0.Calm (bulkCollectBuffer handle capacity) := by
  refine calm_get hs fun s1 hs1 hcalm => ?_
  cases hfind : s1.bulkFind handle with
  | none => exact Triple.failed hcalm
  | some b =>
    refine Triple.check (fun _ => hcalm) fun hc => Triple.check (fun _ => hcalm) fun _ => ?_
    have hpublished : (s1.bulk b).state = .published := not_not.mp hc
    have hreading : s1.Calm (s1.setBulk b { s1.bulk b with state := .reading }) :=
      hs1.setBulk (.goes (by simp [hpublished]) (by simp [hpublished]) (by simp) rfl)
    exact Triple.update (Triple.done (hcalm.trans hreading))

theorem storageRequestBulkCollect_moves :
    Moves (storageRequestBulkCollect client handle capacity) := by
  intro s0 hs
  have herror := calm_moved hs
  refine calm_refuse herror fun _ => calm_resolve hs herror fun i m hm => calm_refuse herror fun _ =>
    calm_refuse herror fun _ => calm_refuse herror fun hoperation => Triple.ite (fun _ => ?_) fun _ => ?_
  · refine calm_keeps (bulkCollectBuffer_calm hs) herror fun b =>
      calm_keeps (loadData_calm hs) herror fun frame => calm_get hs fun s1 hs1 hcalm => ?_
    have hslot : m = s1.slot i := hm.slot.trans (hcalm.slots i).symm
    have hcopy : (StorageCopy.bulkCollect handle b i m frame (s1.bulk b).length (s1.bulk b).crc32).Sound
        s1 := by
      refine ⟨hm.encoded.symm, hm.valid, hslot ▸ UInt32.le_refl _, fun _ => ?_⟩
      rw [← hslot, not_not.mp hoperation]
      simp
    have hbegins := hs1.withCopies (List.forall_mem_cons.mpr ⟨hcopy, hs1.copies⟩)
    exact Triple.update (Triple.done ((hcalm.moved hs).trans hbegins))
  · refine calm_keeps (loadData_calm hs) herror fun frame =>
      Triple.bind (Q := fun _ => s0.Moved .none) ?_ fun _ => Triple.ret
    exact (releaseSlot_loaded hs hm.slot hm.valid).errors herror

theorem bulkCollectEnd_moved {frame : List UInt8} {length : Nat} (hs : s0.Sound)
    (hcopy : (StorageCopy.bulkCollect handle b i m frame length crc).Sound s0) :
    Triple (· = s0) (bulkCollectEnd handle b i m frame length crc) (fun _ => s0.Moved .none)
      fun _ => s0.Moved .none := by
  obtain ⟨hhandle, hvalid, -, hsame⟩ := hcopy
  have hmax := metadataValid_generation hvalid
  have hcalm : s0.Calm (s0.setBulk b (s0.bulk b).clear) := hs.setBulk .clear
  have hs1 := hcalm.sound hs
  refine Triple.read (Triple.update (Triple.check (fun _ => hcalm.moved hs) fun hc => ?_))
  have hmine : (s0.bulk b).requestHandle = storageMakeHandle i m.generation :=
    (not_not.mp fun h => hc (Or.inl h)).trans hhandle
  have hrevoked : (s0.bulk b).state ≠ .revoked := fun h => hc (Or.inr h)
  have hfree : (s0.bulk b).state ≠ .free := by
    intro hfree
    have hzero := hs.bulk.free b hfree
    rw [hmine] at hzero
    exact makeHandle_ne_zero hmax hzero
  obtain ⟨hgeneration, -⟩ := hs.bulk.held b i m.generation hfree hrevoked hmax hmine
  have hrelease : Triple (fun s => s = s0.setBulk b (s0.bulk b).clear) (releaseSlot i m)
      (fun _ => s0.Moved .none) fun _ => s0.Moved .none := by
    refine (releaseSlot_moved hs1 (hcalm.slots i ▸ hgeneration.symm) hmax (metadataValid_resource hvalid)
      fun hcurrent heffect => ?_).weaken (fun s heq => heq ▸ hs1.calm_refl)
      (fun _ _ h => (hcalm.moved hs).trans h) fun _ s h => (hcalm.trans h).moved hs
    rw [hcalm.slots i] at hcurrent heffect
    have hmutation := metadataValid_mutation hcurrent (Effectful.bound heffect)
    exact absurd hmutation.1 (hsame hgeneration.symm)
  refine Triple.ite (fun _ => ?_) fun _ => hrelease.bind fun _ => Triple.ret
  exact Triple.bind (Q := fun _ => s0.Moved .none) (Triple.outcome hrelease) fun _ => Triple.fail fun _ h => h

end ReistOs.RequestPool
