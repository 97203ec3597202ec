import ReistOs.StorageRequestMutations

/-! Whatever the calls of the request pool and the damage to its memory: an effect that was let
through stays on record until its reply is known to have arrived, or its resource is fenced until a
recovery is confirmed. -/

namespace ReistOs.RequestPool

open Attempt StoragePool

variable {s s' s0 : StoragePool} {i : StorageSlot} {m m0 : StorageSlotMetadata} {handle : UInt32}
  {resource : Nat} {x : StorageExcuse} {call : StorageCall} {result : Except StorageError StorageReply}
  {events : List StorageEvent}

def StorageExcuse.Explains (s : StoragePool) (call : StorageCall) (result : Except StorageError StorageReply) :
    StorageExcuse → Prop
  | .none => True
  | .copied handle => ∃ client thenMs m, call = .replyEnd client handle true thenMs ∧ result = .ok .done ∧
      s.request handle = some m ∧ m.client = client
  | .acked handle => ∃ client nowMs m, call = .replyAck client handle nowMs ∧ result = .ok .done ∧
      s.request handle = some m ∧ m.client = client ∧ m.state = .delivered ∧ nowMs < m.deadlineMs
  | .cleared resource => ∃ service, call = .recoveryClear service resource ∧ result = .ok .done

def StorageCall.Does (s s' : StoragePool) (call : StorageCall) (result : Except StorageError StorageReply) :
    Prop :=
  ∃ x : StorageExcuse, x.Explains s call result ∧ s.Moved x s'

theorem Does.moved (h : s.Moved .none s') : call.Does s s' result := ⟨.none, trivial, h⟩

theorem does_of_moves {α : Type} {p : Pool α} {f : α → StorageReply} (hs : s0.Sound) (hp : Moves p) :
    Triple (· = s0) (do let a ← p; pure (f a)) (fun r s => call.Does s0 s (.ok r))
      fun e s => call.Does s0 s (.error e) := by
  have hpre : ∀ s, s = s0 → s0.Calm s := fun s heq => heq ▸ hs.calm_refl
  exact ((hp s0 hs).weaken hpre (fun _ _ h => h) fun _ _ h => Does.moved h).bind fun a =>
    Triple.pure fun s h => Does.moved h

theorem does_of_calm {g : StoragePool → StoragePool} (hs : s0.Sound) (h : s0.Calm (g s0)) :
    Triple (· = s0) (do Attempt.modify g; pure .done : Pool StorageReply)
      (fun r s => call.Does s0 s (.ok r)) fun e s => call.Does s0 s (.error e) :=
  Triple.update (Triple.done (Does.moved (h.moved hs)))

theorem StorageCopy.finish_moved {copy : StorageCopy} (hs : s0.Sound) (hcopy : copy.Sound s0) :
    Triple (· = s0) copy.finish (fun _ => s0.Moved .none) fun _ => s0.Moved .none := by
  have hpre : ∀ s, s = s0 → s0.Calm s := fun s heq => heq ▸ hs.calm_refl
  cases copy with
  | inputPublish client handle b data =>
    exact ((inputPublishEnd_moves s0 hs).pre hpre).bind fun _ => Triple.ret
  | inputTake service handle b length crc nowMs =>
    exact ((inputTakeEnd_moves s0 hs).pre hpre).bind fun _ => Triple.ret
  | bulkPublish handle b data =>
    exact ((bulkPublishEnd_moves s0 hs).pre hpre).bind fun _ => Triple.ret
  | bulkCollect handle b slot m frame length crc =>
    exact (bulkCollectEnd_moved hs hcopy).bind fun _ => Triple.ret

theorem finishCopy_does {index : Nat} (hs : s0.Sound) :
    Triple (· = s0) (finishCopy index) (fun r s => call.Does s0 s (.ok r))
      fun e s => call.Does s0 s (.error e) := by
  refine Triple.read ?_
  cases hcopy : s0.copies[index]? with
  | none => exact Triple.done (Does.moved (.refl hs))
  | some copy =>
    have hmem : copy ∈ s0.copies := List.mem_of_getElem? hcopy
    have hdrop := hs.withCopies fun c (hc : c ∈ s0.copies.eraseIdx index) =>
      hs.copies c (List.mem_of_mem_eraseIdx hc)
    have hsound : copy.Sound { s0 with copies := s0.copies.eraseIdx index } :=
      (hs.copies copy hmem).mono hdrop.step.slots
    refine Triple.update ((StorageCopy.finish_moved hdrop.sound hsound).ends ?_ ?_)
    · intro r s h
      exact Does.moved (hdrop.trans h)
    · intro e s h
      exact Does.moved (hdrop.trans h)

theorem storageCall_does (hs : s0.Sound) (call : StorageCall) :
    Triple (· = s0) call.exec (fun r s => call.Does s0 s (.ok r))
      fun e s => call.Does s0 s (.error e) := by
  have hpre : ∀ s, s = s0 → s0.Calm s := fun s heq => heq ▸ hs.calm_refl
  cases call with
  | bindService service => exact does_of_moves hs storageRequestBindService_moves
  | unbindService service => exact does_of_moves hs storageRequestUnbindService_moves
  | submit client request blockData nowMs => exact does_of_moves hs storageRequestSubmit_moves
  | claim service nowMs version => exact does_of_moves hs storageRequestClaim_moves
  | complete service handle resultCode blockData => exact does_of_moves hs storageRequestComplete_moves
  | completionContext service handle => exact does_of_moves hs storageRequestCompletionContext_moves
  | collect client handle room => exact does_of_moves hs storageRequestCollect_moves
  | cancel client handle => exact does_of_moves hs storageRequestCancel_moves
  | cancelProcess identity => exact does_of_moves hs storageRequestCancelProcess_moves
  | inputPublish client handle data nowMs => exact does_of_moves hs storageRequestInputPublish_moves
  | inputTake service handle capacity nowMs => exact does_of_moves hs storageRequestInputTake_moves
  | mutationContext service handle nowMs => exact does_of_moves hs storageRequestMutationContext_moves
  | mutationBind service handle resource nowMs => exact does_of_moves hs storageRequestMutationBind_moves
  | mutationEffect service handle resource nowMs =>
    have hmoves : Moves (storageRequestMutationEffect service handle resource nowMs) := fun _ hs =>
      (mutationIo_moved hs).post fun _ _ h => h.1
    exact does_of_moves hs hmoves
  | mutationAuthorized service handle resource nowMs =>
    exact does_of_moves hs storageRequestMutationAuthorized_moves
  | mutationFinish service handle resource outcome nowMs =>
    exact does_of_moves hs storageRequestMutationFinish_moves
  | mutationFences nowMs => exact does_of_moves hs storageRequestMutationFences_moves
  | recoveryReady service resource =>
    have hmoves : Moves (storageRequestRecoveryReady service resource) := fun _ hs =>
      (mutationRecovery_moved hs).post fun _ _ h => h.moved
    exact does_of_moves hs hmoves
  | recoveryClear service resource =>
    refine ((mutationRecovery_moved hs).weaken hpre (fun _ _ h => h)
      fun _ _ h => Does.moved h).bind fun _ => Triple.pure fun s h => ?_
    exact ⟨.cleared resource, ⟨service, rfl, rfl⟩, h.moved⟩
  | recoveryRefence resource => exact does_of_moves hs storageRequestRecoveryRefence_moves
  | replyBegin client handle nowMs => exact does_of_moves hs storageRequestMutationReplyBegin_moves
  | replyEnd client handle copied nowMs =>
    refine ((storageRequestMutationReplyEnd_moved hs).weaken hpre (fun _ _ h => h)
      fun _ _ h => Does.moved h).bind fun _ => Triple.pure fun s h => ?_
    cases copied with
    | false => exact Does.moved h
    | true =>
      obtain ⟨hmoved, m, hrequest, hclient⟩ := h
      exact ⟨.copied handle, ⟨client, nowMs, m, rfl, rfl, hrequest, hclient⟩, hmoved⟩
  | replyAck client handle nowMs =>
    refine ((storageRequestMutationReplyAck_moved hs).weaken hpre (fun _ _ h => h)
      fun _ _ h => Does.moved h).bind fun _ => Triple.pure fun s h => ?_
    obtain ⟨m, hm⟩ := h
    exact ⟨.acked handle, ⟨client, nowMs, m, rfl, rfl, hm.request, hm.client, hm.delivered, hm.early⟩,
      hm.moved⟩
  | bulkPublish service handle data => exact does_of_moves hs storageRequestBulkPublish_moves
  | bulkCollect client handle capacity => exact does_of_moves hs storageRequestBulkCollect_moves
  | endCopy index => exact finishCopy_does hs
  | damageMetadata slot =>
    refine does_of_calm hs (hs.calm_of (fun j => ?_) (fun _ h => h) rfl rfl)
    by_cases hj : j = slot
    · subst hj
      simp [StoragePool.slot, CriticalObject.damaged]
    · simp [StoragePool.slot, hj]
  | damageService => exact does_of_calm hs hs.setService
  | damageFences => exact does_of_calm hs (hs.calm_of (fun _ => rfl) (fun _ h => h) rfl rfl)
  | damageFrame slot primary shadow => exact does_of_calm hs hs.setFrame
  | damageBulk b bytes =>
    refine does_of_calm hs (hs.setBulk ?_)
    by_cases hfree : (s0.bulk b).state = .free
    · exact Or.inl ⟨hfree, hs.bulk.free b hfree⟩
    · exact Or.inr ⟨hfree, hfree, rfl, fun h => h⟩

theorem StoragePool.Sound.does (hs : s.Sound) (call : StorageCall) :
    call.Does s (s.after call) (s.result call) := by
  have hrun := storageCall_does hs call () 0 s rfl
  unfold after result
  rcases hr : call.exec () 0 s with ⟨r | r, n, s'⟩
  · rw [hr] at hrun
    exact hrun
  · rw [hr] at hrun
    exact hrun

theorem storageRequestPoolInit_sound : storageRequestPoolInit.Sound := by
  constructor
  · intro i h
    cases h
  · intro i h
    cases h
  · refine ⟨fun _ _ => rfl, ?_, ?_, ?_⟩
    · intro b i generation h
      exact absurd rfl h
    · intro b i generation h
      exact absurd rfl h
    · intro b b' h
      exact absurd rfl h
  · intro copy h
    cases h

section Runs

theorem history_snoc (calls : List StorageCall) (call : StorageCall) :
    s.history (calls ++ [call]) = ((s.history calls).1.after call,
      ⟨(s.history calls).1, call, (s.history calls).1.result call⟩ :: (s.history calls).2) := by
  unfold history
  rw [List.foldl_append]
  rfl

theorem history_sound (hs : s.Sound) (calls : List StorageCall) : (s.history calls).1.Sound := by
  induction calls using List.reverseRecOn with
  | nil => exact hs
  | append_singleton calls call ih =>
    rw [history_snoc]
    obtain ⟨x, -, hmoved⟩ := ih.does call
    exact hmoved.sound

def StorageCopied (client : StorageIdentity) (handle : UInt32) (events : List StorageEvent) : Prop :=
  ∃ copied ∈ events, ∃ thenMs, copied.call = .replyEnd client handle true thenMs ∧
    copied.result = .ok .done

/-- The slot of a live request records the effect of the request with the slot `m0`. -/
structure StorageSlotMetadata.Traces (m m₀ : StorageSlotMetadata) (handle : UInt32) (resource : Nat)
    (events : List StorageEvent) : Prop where
  effectful : m.mutationState.Effectful
  resource : m.mutationResourcePlusOne = resource + 1
  client : m.client = m₀.client
  deadline : m.deadlineMs = m₀.deadlineMs
  copied : m.state = .delivered → StorageCopied m₀.client handle events

def StoragePool.Gone (s : StoragePool) (handle : UInt32) : Prop :=
  ∃ i, storageHandleSlot handle = some i ∧ StorageSlotMetadata.Past (handle >>> 8) (s.slot i)

def EffectTraced (s : StoragePool) (handle : UInt32) (resource : Nat) (m₀ : StorageSlotMetadata)
    (events : List StorageEvent) : Prop :=
  (∃ m, s.request handle = some m ∧ m.Traces m₀ handle resource events) ∨
    s.Gone handle ∧ (s.Fenced resource ∨ StorageAcknowledged handle m₀ events ∨
      StorageRecovered handle resource events)

theorem StoragePool.Gone.request (h : s.Gone handle) : s.request handle = none := by
  obtain ⟨i, hslot, hpast⟩ := h
  unfold StoragePool.request
  rw [hslot]
  refine if_neg fun hlive => ?_
  obtain hlt | ⟨-, hidle⟩ := hpast
  · have heq : (s.slot i).generation = handle >>> 8 := hlive.1
    rw [heq] at hlt
    exact UInt32.lt_irrefl _ hlt
  · exact hlive.2 hidle

theorem request_some (h : s.request handle = some m) :
    ∃ i, storageHandleSlot handle = some i ∧ m = s.slot i ∧ m.generation = handle >>> 8 ∧
      ¬ m.state.Idle ∧ storageMakeHandle i m.generation = handle := by
  unfold request at h
  cases hslot : storageHandleSlot handle with
  | none =>
    rw [hslot] at h
    cases h
  | some i =>
    rw [hslot] at h
    simp only [Option.bind_some] at h
    split at h
    next hlive =>
      cases h
      refine ⟨i, rfl, rfl, hlive.1, hlive.2, ?_⟩
      rw [hlive.1]
      exact handleSlot_handle hslot
    next => cases h

variable {event : StorageEvent} {client : StorageIdentity} {nowMs : UInt64}

theorem StorageAcknowledged.more (h : StorageAcknowledged handle m0 events) :
    StorageAcknowledged handle m0 (event :: events) := by
  obtain ⟨later, ack, earlier, nowMs, m', rfl, hack⟩ := h
  exact ⟨event :: later, ack, earlier, nowMs, m', rfl, hack⟩

theorem StorageRecovered.more (h : StorageRecovered handle resource events) :
    StorageRecovered handle resource (event :: events) := by
  obtain ⟨clear, hmem, hclear⟩ := h
  exact ⟨clear, List.mem_cons_of_mem _ hmem, hclear⟩

theorem StorageCopied.more (h : StorageCopied client handle events) :
    StorageCopied client handle (event :: events) := by
  obtain ⟨copied, hmem, hcopied⟩ := h
  exact ⟨copied, List.mem_cons_of_mem _ hmem, hcopied⟩

theorem EffectTraced.gone_step (hexplains : x.Explains s call result) (hmoved : s.Moved x s')
    (hgone : s.Gone handle) (h : s.Fenced resource ∨ StorageAcknowledged handle m0 events ∨
      StorageRecovered handle resource events) :
    EffectTraced s' handle resource m0 (⟨s, call, result⟩ :: events) := by
  have hrequest := hgone.request
  obtain ⟨i, hslot, hpast⟩ := hgone
  refine Or.inr ⟨⟨i, hslot, hpast.step (hmoved.step.slots i)⟩, ?_⟩
  obtain hfenced | hacked | hrecovered := h
  · obtain hfenced' | rfl := hmoved.step.fences resource hfenced
    · exact Or.inl hfenced'
    · obtain ⟨service, hcall, hresult⟩ := hexplains
      exact Or.inr (Or.inr ⟨_, List.mem_cons_self, service, hcall, hresult, hrequest⟩)
  · exact Or.inr (Or.inl hacked.more)
  · exact Or.inr (Or.inr hrecovered.more)

theorem Traces.acked (hs : s.Sound) (hrequest : s.request handle = some m)
    (hm : m.Traces m0 handle resource events) (hcall : call = .replyAck client handle nowMs)
    (hresult : result = .ok .done) (hclient : m.client = client) (hdelivered : m.state = .delivered)
    (hearly : nowMs < m.deadlineMs) :
    s.Fenced resource ∨ StorageAcknowledged handle m0 (⟨s, call, result⟩ :: events) := by
  obtain ⟨i, -, hslot, -⟩ := request_some hrequest
  have hresource : m.mutationResource = resource := by
    unfold StorageSlotMetadata.mutationResource
    rw [hm.resource]
    rfl
  obtain hattempted | hdurable | hunknown := hm.effectful
  · exact absurd hattempted (hs.not_attempted hslot (by simp [hdelivered]) (by simp [hdelivered]))
  · refine Or.inr ⟨[], ⟨s, call, result⟩, events, nowMs, m, rfl, ?_, hresult, ?_, hrequest,
      Or.inr hdurable, hm.copied hdelivered⟩
    · rw [← hm.client, hclient]
      exact hcall
    · rw [← hm.deadline]
      exact hearly
  · have hfenced := hs.unknown i (hslot ▸ hunknown)
    rw [← hslot, hresource] at hfenced
    exact Or.inl hfenced

theorem Traces.step (hs : s.Sound) (hexplains : x.Explains s call result) (hmoved : s.Moved x s')
    (hrequest : s.request handle = some m) (hm : m.Traces m0 handle resource events) :
    EffectTraced s' handle resource m0 (⟨s, call, result⟩ :: events) := by
  obtain ⟨i, hslot, hmi, hgeneration, hlive, hencoded⟩ := request_some hrequest
  have hstep := hmoved.step.slots i
  rw [← hmi] at hstep
  have hresource : m.mutationResource = resource := by
    unfold StorageSlotMetadata.mutationResource
    rw [hm.resource]
    rfl
  obtain hcarried | ⟨hpast, hkept⟩ := hstep.effect hlive hm.effectful
  · refine Or.inl ⟨s'.slot i, request_of_slot hslot (hcarried.generation.trans hgeneration) hcarried.live,
      hcarried.effectful, hcarried.resource.trans hm.resource, hcarried.client.trans hm.client,
      hcarried.deadline.trans hm.deadline, fun hdelivered => ?_⟩
    obtain ⟨hbefore, -⟩ | rfl := hstep.delivered hdelivered
    · exact (hm.copied hbefore).more
    · obtain ⟨client, thenMs, m1, hcall, hresult, hrequest1, hclient⟩ := hexplains
      rw [hcarried.generation, hencoded] at hcall hrequest1
      have hsame : m = m1 := Option.some.inj (hrequest.symm.trans hrequest1)
      refine ⟨_, List.mem_cons_self, thenMs, ?_, hresult⟩
      rw [← hm.client, hsame, hclient]
      exact hcall
  · rw [hgeneration] at hpast
    refine Or.inr ⟨⟨i, hslot, hpast⟩, ?_⟩
    obtain hfenced | rfl := hkept
    · exact Or.inl (hresource ▸ hfenced)
    · obtain ⟨client, nowMs, m1, hcall, hresult, hrequest1, hclient, hdelivered, hearly⟩ := hexplains
      rw [hencoded] at hcall hrequest1
      have hsame : m = m1 := Option.some.inj (hrequest.symm.trans hrequest1)
      subst hsame
      obtain hfenced | hacked := Traces.acked hs hrequest hm hcall hresult hclient hdelivered hearly
      · obtain hfenced' | hx := hmoved.step.fences resource hfenced
        · exact Or.inl hfenced'
        · cases hx
      · exact Or.inr (Or.inl hacked)

theorem EffectTraced.step (hs : s.Sound) (h : EffectTraced s handle resource m0 events) (call : StorageCall) :
    EffectTraced (s.after call) handle resource m0 (⟨s, call, s.result call⟩ :: events) := by
  obtain ⟨x, hexplains, hmoved⟩ := hs.does call
  obtain ⟨m, hrequest, hm⟩ | ⟨hgone, hkept⟩ := h
  · exact Traces.step hs hexplains hmoved hrequest hm
  · exact EffectTraced.gone_step hexplains hmoved hgone hkept

theorem EffectTraced.remembered (h : EffectTraced s handle resource m0 events) :
    EffectRemembered s handle resource m0 events := by
  obtain ⟨m, hrequest, hm⟩ | ⟨-, hfenced | hacked | hrecovered⟩ := h
  · exact Or.inl ⟨m, hrequest, hm.effectful, hm.resource⟩
  · obtain hpoisoned | hnamed := hfenced
    · exact Or.inr (Or.inr (Or.inr (Or.inl hpoisoned)))
    · exact Or.inr (Or.inr (Or.inl hnamed))
  · exact Or.inr (Or.inl hacked)
  · exact Or.inr (Or.inr (Or.inr (Or.inr hrecovered)))

theorem StoragePool.Sound.effected {service : StorageIdentity} (hs : s.Sound)
    (hok : s.result (.mutationEffect service handle resource nowMs) = .ok .done) :
    ∃ m, Effected s (s.after (.mutationEffect service handle resource nowMs)) handle resource m := by
  have hrun : Triple (fun s' => s' = s) (StorageCall.mutationEffect service handle resource nowMs).exec
      (fun _ s' => ∃ m, Effected s s' handle resource m) fun _ _ => True := by
    have hio : Triple s.Calm (mutationIo service handle resource nowMs true)
        (fun _ s' => s.Moved .none s' ∧ (true = true → ∃ m, Effected s s' handle resource m))
        fun _ => s.Moved .none := mutationIo_moved hs
    have hpre : ∀ s', s' = s → s.Calm s' := fun s' heq => heq ▸ hs.calm_refl
    exact (hio.weaken hpre (fun _ _ h => h.2 rfl) fun _ _ _ => trivial).bind fun _ =>
      Triple.ret
  have hend := hrun () 0 s rfl
  unfold result at hok
  rw [hok] at hend
  exact hend

theorem Effected.traced (h : Effected s s' handle resource m) : EffectTraced s' handle resource m [] := by
  obtain ⟨m', hrequest, hclaimed, heffect, hresource, hclient, hdeadline⟩ := h.after
  refine Or.inl ⟨m', hrequest, heffect, hresource, hclient, hdeadline, fun hdelivered => ?_⟩
  rw [hclaimed] at hdelivered
  cases hdelivered

end Runs

def EffectsTraced (s : StoragePool) (events : List StorageEvent) : Prop :=
  ∀ later effect earlier, events = later ++ effect :: earlier →
    ∀ service handle resource nowMs,
      effect.call = .mutationEffect service handle resource nowMs → effect.result = .ok .done →
      ¬ effect.before.Fenced resource ∧
        ∃ m, effect.before.request handle = some m ∧ EffectTraced s handle resource m later

theorem EffectsTraced.step (hs : s.Sound) (h : EffectsTraced s events) (call : StorageCall) :
    EffectsTraced (s.after call) (⟨s, call, s.result call⟩ :: events) := by
  intro later effect earlier hevents service handle resource nowMs hcall hresult
  cases later with
  | nil =>
    obtain ⟨rfl, rfl⟩ := List.cons.inj hevents
    subst hcall
    obtain ⟨m, hm⟩ := hs.effected hresult
    exact ⟨hm.unfenced, m, hm.request, hm.traced⟩
  | cons event later =>
    obtain ⟨rfl, htail⟩ := List.cons.inj hevents
    obtain ⟨hunfenced, m, hrequest, htraced⟩ := h later effect earlier htail service handle resource
      nowMs hcall hresult
    exact ⟨hunfenced, m, hrequest, htraced.step hs call⟩

theorem effectsTraced (hs : s.Sound) (calls : List StorageCall) :
    EffectsTraced (s.history calls).1 (s.history calls).2 := by
  induction calls using List.reverseRecOn with
  | nil =>
    intro later effect earlier hevents
    cases later <;> cases hevents
  | append_singleton calls call ih =>
    rw [history_snoc]
    exact ih.step (history_sound hs calls) call

/-- In every state of every run: no effect is let through to a fenced resource, and none is
forgotten. -/
theorem storageEffects_remembered (calls : List StorageCall) :
    EffectsRemembered (storageRequestPoolInit.history calls).1
      (storageRequestPoolInit.history calls).2 := by
  intro later effect earlier hevents service handle resource nowMs hcall hresult
  obtain ⟨hunfenced, m, hrequest, htraced⟩ := effectsTraced storageRequestPoolInit_sound calls later
    effect earlier hevents service handle resource nowMs hcall hresult
  refine ⟨fun hnamed => hunfenced (Or.inr hnamed), ?_, m, hrequest, htraced.remembered⟩
  exact Bool.eq_false_iff.mpr fun hpoisoned => hunfenced (Or.inl hpoisoned)

end ReistOs.RequestPool
