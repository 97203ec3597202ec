import ReistOs.StorageRequestEntries

/-! The mutations of the storage request pool: their effects, their outcomes and fences, and the
delivery of their replies. -/

namespace ReistOs.RequestPool

open Attempt

variable {α β : Type} {s s0 s1 : StoragePool} {i : StorageSlot} {m : StorageSlotMetadata} {handle : UInt32}
  {client service : StorageIdentity} {nowMs : UInt64} {resource : Nat} {x : StorageExcuse}

theorem Resolves.handleSlot (h : Resolves s handle i m) : storageHandleSlot handle = some i := by
  rw [← h.encoded]
  exact handleSlot_makeHandle

theorem request_of_slot (hslot : storageHandleSlot handle = some i)
    (hgeneration : (s.slot i).generation = handle >>> 8) (hlive : ¬ (s.slot i).state.Idle) :
    s.request handle = some (s.slot i) := by
  unfold StoragePool.request
  rw [hslot]
  exact if_pos ⟨hgeneration, hlive⟩

theorem inputConsumed_calm (hs : s0.Sound) : Keeps s0.Calm (inputConsumed handle m) :=
  calm_get hs fun s1 _ hcalm =>
    Triple.refuse (P := fun s => s = s1) (fun _ h _ => h ▸ hcalm) fun _ h _ => h ▸ hcalm

theorem storageRequestMutationContext_moves : Moves (storageRequestMutationContext service handle nowMs) :=
  Moves.of_calm fun _ hs => calm_claimed hs (fun _ _ h => h) fun _ _ _ =>
    calm_keeps (inputConsumed_calm hs) (fun _ _ h => h) fun _ => Keeps.pure

variable {E : StorageError → StoragePool → Prop} {R : β → StoragePool → Prop}

theorem calm_fencesRead {f : UInt32 → Pool β} (hs : s0.Sound) (hE : ∀ e s, s0.Calm s → E e s)
    (h : ∀ s1, s1.Sound → s0.Calm s1 → s1.poisoned = false →
      Triple (· = s1) (f s1.fences.payload) R E) :
    Triple s0.Calm (mutationFencesRead >>= f) R E := by
  refine ((mutationFencesRead_calm hs).errors hE).bind fun mask =>
    Triple.start fun s1 hs1 => ?_
  obtain ⟨hcalm, hclean, rfl⟩ := hs1
  exact h s1 (hcalm.sound hs) hcalm hclean

/-- A claimed slot keeps its request whatever becomes of its mutation. -/
theorem Claims.remutated (hm : Claims s0 handle nowMs i m) (hs : s0.Sound) (hcalm : s0.Calm s1)
    {state : StorageMutationState} {bound : Nat}
    (heffect : m.mutationState.Effectful → state.Effectful ∧ bound = m.mutationResourcePlusOne)
    (hunknown : state = .finishedUnknown → s1.Fenced (bound - 1)) :
    s0.Moved .none (s1.setMetadata i
      { m with
        mutationState := state
        mutationResourcePlusOne := bound }) := by
  have hslot := hm.resolves.slot
  subst hslot
  exact hs.change hcalm
    { generation := rfl
      operation := rfl
      before := hm.resolves.live
      live := hm.resolves.live
      kept := ⟨rfl, rfl, rfl, rfl, le_rfl, fun _ => rfl, fun _ => rfl⟩
      client := rfl
      deadline := rfl
      effect := heffect
      attempted := fun _ => Or.inl hm.claimed
      unknown := hunknown
      delivered := fun h => by
        have hstate : (s0.slot i).state = .delivered := h
        rw [hm.claimed] at hstate
        cases hstate }

theorem storageRequestMutationBind_moves :
    Moves (storageRequestMutationBind service handle resource nowMs) := by
  intro s0 hs
  have herror := calm_moved hs
  refine calm_refuse herror fun _ => calm_claimed hs herror fun i m hm =>
    calm_fencesRead hs herror fun s1 hs1 hcalm _ => ?_
  have herror1 := calm_since hs hcalm
  refine Triple.pre (P := s1.Calm) ?_ fun s h => h ▸ hs1.calm_refl
  refine calm_refuse herror1 fun _ => calm_refuse herror1 fun hunbound =>
    calm_keeps (inputConsumed_calm hs1) herror1 fun _ => ?_
  refine (storeMetadata_calm hs1).ends (fun _ s hstored => ?_) herror1
  obtain ⟨s2, -, hcalm2, -, rfl⟩ := hstored
  exact hm.remutated hs (hcalm.trans hcalm2)
    (fun heffect => absurd (not_not.mp hunbound) (Effectful.bound heffect)) nofun

/-- What the success of an effect says of the state before it and the state after it. -/
structure Effected (s s' : StoragePool) (handle : UInt32) (resource : Nat) (m : StorageSlotMetadata) :
    Prop where
  unfenced : ¬ s.Fenced resource
  request : s.request handle = some m
  moved : s.Moved .none s'
  after : ∃ m', s'.request handle = some m' ∧ m'.state = .claimed ∧ m'.mutationState.Effectful ∧
    m'.mutationResourcePlusOne = resource + 1 ∧ m'.client = m.client ∧ m'.deadlineMs = m.deadlineMs

theorem mutationIo_moved {effect : Bool} (hs : s0.Sound) :
    Triple s0.Calm (mutationIo service handle resource nowMs effect)
      (fun _ s => s0.Moved .none s ∧ (effect = true → ∃ m, Effected s0 s handle resource m))
      fun _ => s0.Moved .none := by
  have herror := calm_moved hs
  refine calm_refuse herror fun _ => calm_claimed hs herror fun i m hm =>
    calm_fencesRead hs herror fun s1 hs1 hcalm hclean => ?_
  have herror1 := calm_since hs hcalm
  refine Triple.pre (P := s1.Calm) ?_ fun s h => h ▸ hs1.calm_refl
  refine calm_refuse herror1 fun hunnamed => calm_refuse herror1 fun hstate => ?_
  have hunfenced : ¬ s0.Fenced resource := by
    intro hfenced
    obtain hpoisoned | hnamed := hcalm.fences resource hfenced
    · rw [hclean] at hpoisoned
      cases hpoisoned
    · exact hunnamed hnamed
  have hresource : m.mutationResourcePlusOne = resource + 1 := not_not.mp fun h => hstate (Or.inl h)
  have hbound : m.mutationState = .bound ∨ m.mutationState = .attempted := by
    by_contra hnot
    exact hstate (Or.inr (not_or.mp hnot))
  have hslot := hm.resolves.slot
  refine Triple.ite (fun hnew => ?_) fun hold => Triple.pure fun s h => ?_
  · refine (storeMetadata_calm hs1).ends (fun _ s hstored => ?_) herror1
    obtain ⟨s2, -, hcalm2, -, rfl⟩ := hstored
    have hfresh : ¬ m.mutationState.Effectful := by
      rintro (h | h | h)
      · exact hnew.2 h
      · obtain hb | hb := hbound <;> simp [hb] at h
      · obtain hb | hb := hbound <;> simp [hb] at h
    have hmoved : s0.Moved .none (s2.setMetadata i { m with mutationState := .attempted }) :=
      hm.remutated hs (hcalm.trans hcalm2) (fun heffect => absurd heffect hfresh) nofun
    refine ⟨hmoved, fun _ => ⟨m, hunfenced, hm.resolves.request, hmoved, ?_⟩⟩
    refine ⟨{ m with mutationState := .attempted }, ?_, hm.claimed, Or.inl rfl, hresource, rfl, rfl⟩
    have hrequest : (s2.setMetadata i { m with mutationState := .attempted }).request handle = some _ :=
      request_of_slot hm.resolves.handleSlot (by rw [setMetadata_slot]; exact hm.resolves.generation)
        (by rw [setMetadata_slot]; exact hm.resolves.live)
    rw [hrequest, setMetadata_slot]
  · have hmoved := (hcalm.trans h).moved hs
    refine ⟨hmoved, fun heffect => ⟨m, hunfenced, hm.resolves.request, hmoved, m, ?_, hm.claimed, ?_,
      hresource, rfl, rfl⟩⟩
    · have hsame : s.slot i = m := ((hcalm.trans h).slots i).trans hslot.symm
      have hrequest : s.request handle = some (s.slot i) :=
        request_of_slot hm.resolves.handleSlot (hsame ▸ hm.resolves.generation) (hsame ▸ hm.resolves.live)
      rw [hrequest, hsame]
    · exact Or.inl (not_not.mp fun hne => hold ⟨heffect, hne⟩)

theorem storageRequestMutationAuthorized_moves :
    Moves (storageRequestMutationAuthorized service handle resource nowMs) := fun _ hs =>
  (mutationIo_moved hs).post fun _ _ h => h.1

theorem storageRequestMutationFinish_moves {outcome : StorageMutationOutcome} :
    Moves (storageRequestMutationFinish service handle resource outcome nowMs) := by
  intro s0 hs
  have herror := calm_moved hs
  refine calm_refuse herror fun _ => calm_claimed hs herror fun i m hm => calm_refuse herror fun hopen => ?_
  have hnoEffect : outcome = .noEffect → m.mutationState ≠ .attempted := fun ho ha =>
    hopen (Or.inr (Or.inr ⟨ho, ha⟩))
  have hbound : m.mutationState = .bound ∨ m.mutationState = .attempted := by
    by_contra hnot
    exact hopen (Or.inr (Or.inl (not_or.mp hnot)))
  have hresource : ({ m with mutationState := outcome.state } : StorageSlotMetadata).mutationResource < 32 := by
    show m.mutationResource < 32
    exact metadataValid_resource hm.resolves.valid
  have hfence : Triple s0.Calm (if outcome = .unknown then
      mutationFenceLost { m with mutationState := outcome.state } else Pure.pure ())
      (fun _ s => s0.Calm s ∧ (outcome = .unknown → s.Fenced m.mutationResource)) fun _ => s0.Calm := by
    refine Triple.ite (fun hunknown => ?_) fun hknown => Triple.pure fun s h => ⟨h, fun h => absurd h hknown⟩
    refine (mutationFenceLost_calm hs hresource).post fun _ s h => ⟨h.1, fun _ => h.2 ?_⟩
    rw [hunknown]
    exact Or.inr (Or.inr rfl)
  refine (hfence.errors herror).bind fun _ => Triple.start fun s1 hs1 => ?_
  have hsound := hs1.1.sound hs
  refine ((storeMetadata_calm hsound).ends (fun _ s hstored => ?_) fun _ s h =>
    (hs1.1.trans h).moved hs).pre fun s heq => heq ▸ hsound.calm_refl
  obtain ⟨s2, -, hcalm2, -, rfl⟩ := hstored
  apply hm.remutated hs (hs1.1.trans hcalm2)
  · intro heffect
    refine ⟨?_, rfl⟩
    cases outcome with
    | noEffect =>
      obtain h | h := hbound
      · rw [h] at heffect
        obtain h | h | h := heffect <;> cases h
      · exact absurd h (hnoEffect rfl)
    | durable => exact Or.inr (Or.inl rfl)
    | unknown => exact Or.inr (Or.inr rfl)
  · intro hstate
    apply hcalm2.fences _ (hs1.2 _)
    cases outcome with
    | noEffect => cases hstate
    | durable => cases hstate
    | unknown => rfl

theorem fenceExpired_calm (hs : s0.Sound) : Keeps s0.Calm (fenceExpired nowMs i) :=
  calm_load hs (fun _ _ h => h) fun _ _ hvalid => Triple.ite
    (fun _ => (mutationFenceLost_calm hs (metadataValid_resource hvalid)).post fun _ _ h => h.1)
    fun _ => Keeps.pure

theorem storageRequestMutationFences_moves : Moves (storageRequestMutationFences nowMs) := by
  refine Moves.of_calm fun s0 hs => ?_
  have hsweep : Keeps s0.Calm (if nowMs ≠ 0 then Attempt.forEach (fenceExpired nowMs) storageSlots
      else Pure.pure ()) :=
    Triple.ite (fun _ => Keeps.forEach fun _ _ => fenceExpired_calm hs) fun _ => Keeps.pure
  exact Keeps.bind hsweep.outcome fun _ => (mutationFencesRead_calm hs).post fun _ _ h => h.1

theorem storageRequestRecoveryRefence_moves : Moves (storageRequestRecoveryRefence resource) := by
  refine Moves.of_calm fun s0 hs => calm_refuse (fun _ _ h => h) fun hresource => ?_
  refine (mutationFenceLost_calm hs ?_).post fun _ _ h => h.1
  show resource + 1 - 1 < 32
  have hlt : resource < storageMutationResources := Nat.not_le.mp hresource
  have heq : storageMutationResources = 32 := rfl
  omega

/-- What the success of a recovery says: nothing is left of the resource in the slots. -/
structure Recovered (s s' : StoragePool) (resource : Nat) (clear : Bool) : Prop where
  free : ∀ i, (s.slot i).mutationResourcePlusOne ≠ resource + 1
  moved : s.Moved (if clear then .cleared resource else .none) s'

theorem StoragePool.Sound.cleared (hs : s0.Sound) (hcalm : s0.Calm s1) (hr : resource < 32)
    (hslots : ∀ i, (s0.slot i).mutationResourcePlusOne ≠ resource + 1 ∧ metadataValid (s0.slot i) = true) :
    s0.Moved (.cleared resource)
      (s1.setFences (s1.fences.payload &&& ~~~resourceBit resource)) := by
  have hs1 := hcalm.sound hs
  have hkept : ∀ r, r ≠ resource → s1.Fenced r →
      (s1.setFences (s1.fences.payload &&& ~~~resourceBit resource)).Fenced r := by
    intro r hne hfenced
    refine hfenced.imp_right fun hnamed => names_and_not hnamed fun hbit => ?_
    exact hne ((names_bit hr).mp hbit)
  have hslot : ∀ i, (s1.setFences (s1.fences.payload &&& ~~~resourceBit resource)).slot i = s0.slot i :=
    hcalm.slots
  refine ⟨⟨hs1.attempted, fun i hunknown => ?_, ⟨hs1.bulk.free, hs1.bulk.past, hs1.bulk.held,
    hs1.bulk.unique⟩, fun copy hcopy => ?_⟩, fun i => ?_, fun r hfenced => ?_⟩
  · refine hkept _ ?_ (hs1.unknown i hunknown)
    rw [hslot i] at hunknown ⊢
    have hbound := (metadataValid_bound (hslots i).2).not.mp (by simp [hunknown])
    have hne := (hslots i).1
    unfold StorageSlotMetadata.mutationResource
    omega
  · have hsame : ∀ i, SlotStep .none (s1.setFences (s1.fences.payload &&& ~~~resourceBit resource)) i
        (s1.slot i) (s1.slot i) := fun _ => .refl
    exact (hs1.copies copy hcopy).mono hsame
  · rw [hslot i]
    exact .refl
  · by_cases hr : r = resource
    · exact Or.inr (hr ▸ rfl)
    · exact Or.inl (hkept r hr (hcalm.fences r hfenced))

theorem StoragePool.Moved.weaken (h : s.Moved .none s1) : s.Moved x s1 := by
  refine ⟨h.sound, fun i => ?_, fun r hr => Or.inl (h.step.fenced hr)⟩
  have hslot := h.step.slots i
  refine ⟨hslot.generation, hslot.operation, hslot.idle, hslot.kept, fun hlive heffect => ?_, fun hdelivered => ?_⟩
  · obtain hcarried | ⟨hpast, hfenced | hx⟩ := hslot.effect hlive heffect
    · exact Or.inl hcarried
    · exact Or.inr ⟨hpast, Or.inl hfenced⟩
    · cases hx
  · obtain hbefore | hx := hslot.delivered hdelivered
    · exact Or.inl hbefore
    · cases hx

theorem loadMetadata_same (hs : s1.Sound) : Triple (· = s1) (loadMetadata i)
    (fun m s => s = s1 ∧ m = s1.slot i ∧ metadataValid m = true) fun _ => s1.Calm := by
  refine Triple.read (Triple.ite (fun hreadable => Triple.done ⟨rfl, rfl, ?_⟩) fun _ => ?_)
  · exact (Bool.and_eq_true_iff.mp hreadable).2
  · exact (mutationPoison_calm hs).weaken (fun s heq => heq ▸ hs.calm_refl) (fun _ _ h => h.elim) fun _ _ h => h

theorem slotsFree_same (hs : s1.Sound) : Triple (· = s1)
    (Attempt.forEach (fun slot => do
      let m ← loadMetadata slot
      refuse (m.mutationResourcePlusOne = resource + 1) .ebusy) storageSlots)
    (fun _ s => s = s1 ∧ ∀ i ∈ storageSlots, (s1.slot i).mutationResourcePlusOne ≠ resource + 1 ∧
      metadataValid (s1.slot i) = true) fun _ => s1.Calm := by
  refine Triple.forEach_each (K := fun i _ => (s1.slot i).mutationResourcePlusOne ≠ resource + 1 ∧
    metadataValid (s1.slot i) = true) fun i _ s2 hs2 => ?_
  subst hs2
  refine (loadMetadata_same hs).bind fun m => ?_
  refine Triple.refuse (fun s h _ => h.1 ▸ hs.calm_refl) fun s h hfree => ⟨⟨h.1, ?_⟩, fun _ h => h⟩
  obtain ⟨-, rfl, hvalid⟩ := h
  exact ⟨hfree, hvalid⟩

theorem mutationRecovery_moved {clear : Bool} (hs : s0.Sound) :
    Triple s0.Calm (mutationRecovery service resource clear)
      (fun _ s => Recovered s0 s resource clear) fun _ => s0.Moved .none := by
  have herror := calm_moved hs
  refine calm_refuse herror fun hrefused => calm_fencesRead hs herror fun s1 hs1 hcalm _ => ?_
  have hr : resource < 32 := Nat.not_le.mp fun h => hrefused (Or.inl h)
  have herror1 := calm_since hs hcalm
  have hmoved := hcalm.moved hs
  have hidentity : Triple (· = s1) loadIdentity (fun _ s => s = s1) fun _ => s0.Moved .none :=
    Triple.read (Triple.check (fun _ => hmoved) fun _ => Triple.done rfl)
  refine hidentity.bind fun _ => Triple.check (fun _ => hmoved) fun _ => ?_
  refine ((slotsFree_same hs1).errors herror1).learn fun _ hfree => ?_
  have hslots : ∀ i, (s0.slot i).mutationResourcePlusOne ≠ resource + 1 ∧ metadataValid (s0.slot i) = true := by
    intro i
    rw [← hcalm.slots i]
    exact hfree i (List.mem_finRange i)
  have hclean : s0.Moved (if clear then .cleared resource else .none) s1 := by
    cases clear
    · exact hmoved
    · exact hmoved.weaken
  refine Triple.ite (fun hclear => ?_) fun _ => Triple.done ⟨fun i => (hslots i).1, hclean⟩
  refine Triple.read (Triple.ite (fun _ => Triple.updated ⟨fun i => (hslots i).1, ?_⟩) fun _ => ?_)
  · rw [if_pos hclear.1]
    exact hs.cleared hcalm hr hslots
  · exact (mutationPoison_calm hs1).weaken (fun s heq => heq ▸ hs1.calm_refl) (fun _ _ h => h.elim) herror1

/-- A reply entry found the request of its own client. -/
structure Replies (s : StoragePool) (client : StorageIdentity) (handle : UInt32) (i : StorageSlot)
    (m : StorageSlotMetadata) : Prop where
  resolves : Resolves s handle i m
  client : m.client = client

theorem calm_client {f : StorageSlot × StorageSlotMetadata → Pool β}
    (hs : s0.Sound) (hE : ∀ e s, s0.Calm s → E e s)
    (h : ∀ i m, Replies s0 client handle i m → Triple s0.Calm (f (i, m)) R E) :
    Triple s0.Calm (mutationClient client handle >>= f) R E := by
  refine Triple.bind (Q := fun p s => s0.Calm s ∧ Replies s0 client handle p.1 p.2) ?_ fun p =>
    Triple.fact fun hp => h p.1 p.2 hp
  refine calm_resolve hs hE fun i m hm => calm_refuse hE fun hclient => calm_refuse hE fun _ => ?_
  exact Triple.pure fun s hcalm => ⟨hcalm, hm, not_not.mp hclient⟩

theorem replyFrame_calm (hs : s0.Sound) (hr : m.mutationResource < 32) : Keeps s0.Calm (replyFrame i m) := by
  refine Triple.ite (fun _ => ?_) fun _ => Keeps.pure
  refine Keeps.bind (loadData_calm hs).outcome fun r => ?_
  cases r with
  | ok data => exact Keeps.pure
  | error e =>
    have hlost : Keeps s0.Calm (mutationFenceLost m) := (mutationFenceLost_calm hs hr).post fun _ _ h => h.1
    exact hlost.outcome.bind fun _ => Keeps.fail

theorem storageRequestMutationReplyBegin_moves :
    Moves (storageRequestMutationReplyBegin client handle nowMs) := by
  intro s0 hs
  have herror := calm_moved hs
  refine calm_client hs herror fun i m hm => calm_refuse herror fun hcomplete => Triple.ite (fun _ => ?_) fun _ => ?_
  · refine Triple.bind (Q := fun _ => s0.Moved .none) ?_ fun _ => Triple.fail fun _ h => h
    exact (releaseSlot_loaded hs hm.resolves.slot hm.resolves.valid).ends
      (fun _ _ h => h) herror
  · refine calm_keeps (replyFrame_calm hs (metadataValid_resource hm.resolves.valid)) herror fun frame => ?_
    have hstate : m.state = .complete := not_not.mp hcomplete
    have hattempted : m.mutationState ≠ .attempted := by
      apply hs.not_attempted hm.resolves.slot <;> simp [hstate]
    refine Triple.bind (Q := fun _ => s0.Moved .none) ?_ fun _ => Triple.ret
    exact (storeState_moved hs hs hs.calm_refl hm.resolves.slot hm.resolves.live
      (by simp [StorageSlotState.Idle])
      (.moved (by simp [hstate, StorageSlotState.phase]) (fun _ => rfl) fun _ => rfl)
      (fun h => absurd h hattempted) fun h => by cases h).weaken
      (fun _ h => h) (fun _ _ h => h) herror

theorem storageRequestMutationReplyEnd_moved {copied : Bool} (hs : s0.Sound) :
    Triple s0.Calm (storageRequestMutationReplyEnd client handle copied nowMs)
      (fun _ s => if copied then s0.Moved (.copied handle) s ∧ ∃ m, s0.request handle = some m ∧
        m.client = client else s0.Moved .none s) fun _ => s0.Moved .none := by
  have herror := calm_moved hs
  refine calm_client hs herror fun i m hm => calm_refuse herror fun hdelivering =>
    Triple.ite (fun hlost => ?_) fun hkept => ?_
  · refine Triple.bind (Q := fun _ => s0.Moved .none) ?_ fun _ =>
      Triple.bind (Q := fun _ s => s0.Moved .none s ∧ m.state ≠ .deliveryCancelled)
        (Triple.refuse (fun _ h _ => h) fun _ h hc => ⟨h, hc⟩) fun _ =>
      Triple.refuse (fun _ h _ => h.1) fun s h hlate => ?_
    · exact (releaseSlot_loaded hs hm.resolves.slot hm.resolves.valid).ends
        (fun _ _ h => h) herror
    · have hcopied : copied = false := by
        obtain hcopied | hcancelled | hexpired := hlost
        · simpa using hcopied
        · exact absurd hcancelled h.2
        · exact absurd hexpired hlate
      rw [hcopied]
      exact h.1
  · have hcopied : copied = true := by
      by_contra hnot
      exact hkept (Or.inl (by simpa using hnot))
    have hstate : m.state = .delivering ∨ m.state = .deliveryCancelled := by
      by_contra hnot
      exact hdelivering (not_or.mp hnot)
    have hattempted : m.mutationState ≠ .attempted := by
      apply hs.not_attempted hm.resolves.slot <;> obtain h | h := hstate <;> simp [h]
    have hencoded : StorageExcuse.copied handle = .copied (storageMakeHandle i m.generation) := by
      rw [hm.resolves.encoded]
    refine (storeState_moved (x := .copied handle) hs hs hs.calm_refl hm.resolves.slot hm.resolves.live
      (by simp [StorageSlotState.Idle])
      (.moved (by obtain h | h := hstate <;> simp [StorageSlotState.phase, h]) (fun _ => rfl) fun _ => rfl)
      (fun h => absurd h hattempted) fun _ => hencoded).weaken
      (fun _ h => h) (fun _ s h => ?_) herror
    rw [hcopied]
    exact ⟨h, m, hm.resolves.request, hm.client⟩

/-- An acknowledgement that ends well came in time from the client of a delivered reply. -/
structure Acked (s s' : StoragePool) (client : StorageIdentity) (handle : UInt32) (nowMs : UInt64)
    (m : StorageSlotMetadata) : Prop where
  request : s.request handle = some m
  client : m.client = client
  delivered : m.state = .delivered
  early : nowMs < m.deadlineMs
  moved : s.Moved (.acked handle) s'

theorem storageRequestMutationReplyAck_moved (hs : s0.Sound) :
    Triple s0.Calm (storageRequestMutationReplyAck client handle nowMs)
      (fun _ s => ∃ m, Acked s0 s client handle nowMs m) fun _ => s0.Moved .none := by
  have herror := calm_moved hs
  refine calm_client hs herror fun i m hm => calm_refuse herror fun hdelivered => ?_
  have hvalid := hm.resolves.valid
  have hslot := hm.resolves.slot
  have hmax : m.generation ≤ storageHandleGenerationMax := metadataValid_generation hvalid
  by_cases hearly : nowMs < m.deadlineMs
  · rw [if_pos hearly]
    have hencoded : StorageExcuse.acked handle = .acked (storageMakeHandle i m.generation) := by
      rw [hm.resolves.encoded]
    have hrelease : Triple s0.Calm
        (releaseSlot i { m with mutationState := .unbound, mutationResourcePlusOne := 0 })
        (fun _ => s0.Moved (.acked handle)) fun _ => s0.Calm :=
      releaseSlot_moved hs (hslot ▸ rfl) hmax (by show 0 - 1 < 32; omega)
        fun _ _ => Or.inr hencoded
    refine (hrelease.errors herror).bind fun _ =>
      Triple.refuse (fun s _ hlate => ?_) fun s h _ => ?_
    · exact absurd hlate (UInt64.not_le.mpr hearly)
    · exact ⟨m, hm.resolves.request, hm.client, not_not.mp hdelivered, hearly, h⟩
  · rw [if_neg hearly]
    refine Triple.bind ((releaseSlot_loaded hs hslot hvalid).errors herror)
      fun _ => Triple.refuse (fun _ h _ => h) fun s _ hnot => absurd (UInt64.not_lt.mp hearly) hnot

end ReistOs.RequestPool
