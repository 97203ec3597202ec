import ReistOs.StorageBulkCopies

/-! The bulk buffers over whole runs: a buffer in use belongs to a live request, unless the frame of
a bulk reply was found bad after its buffer was taken. -/

namespace ReistOs.RequestPool

open Attempt StorageDataCopy StoragePool

variable {α : Type} {s s0 s1 : StoragePool} {b : StorageBulkIndex} {bulk : StorageBulkSlot} {i : StorageSlot}
  {m : StorageSlotMetadata} {handle : UInt32} {client : StorageIdentity} {nowMs : UInt64}
  {call : StorageCall} {P : StoragePool → Prop}

/-- A bulk reply that is collected with room for its buffer, and whose two frames do not pass. -/
structure StoragePool.BadFrame (s : StoragePool) (client : StorageIdentity) (handle : UInt32)
    (capacity : Nat) (i : StorageSlot) (b : StorageBulkIndex) : Prop where
  live : client.live = true
  bounded : capacity ≤ storageRequestBulkMaxBytes
  slot : storageHandleSlot handle = some i
  readable : (s.metadata i).readable metadataValid = true
  request : s.request handle = some (s.slot i)
  owner : (s.slot i).client = client
  complete : (s.slot i).state = .complete
  operation : (s.slot i).operation = some .vfsBulkRead
  result : (s.slot i).result = 0
  buffer : s.bulkFind handle = some b
  published : (s.bulk b).state = .published
  room : (s.bulk b).length ≤ capacity
  primary : (s.primary i).valid storageRequestBlockSize = false
  shadow : (s.shadow i).valid storageRequestBlockSize = false

def StorageEvent.Strands (event : StorageEvent) : Prop :=
  ∃ client handle capacity i b, event.call = .bulkCollect client handle capacity ∧
    event.before.BadFrame client handle capacity i b

theorem mutationPoison_fails {Q : α → StoragePool → Prop} :
    Triple P (mutationPoison : Pool α) Q fun _ _ => True :=
  Triple.bind (Q := fun _ _ => True) (Triple.modify fun _ _ => trivial) fun _ => Triple.fail fun _ h => h

theorem loadMetadata_readable : Triple (· = s1) (loadMetadata i)
    (fun m s => s = s1 ∧ m = s1.slot i ∧ (s1.metadata i).readable metadataValid = true) fun _ _ => True :=
  Triple.read (Triple.ite (fun hreadable => Triple.done ⟨rfl, rfl, hreadable⟩) fun _ => mutationPoison_fails)

theorem resolveHandle_readable : Triple (· = s1) (resolveHandle handle)
    (fun p s => s = s1 ∧ p.2 = s1.slot p.1 ∧ storageHandleSlot handle = some p.1 ∧
      s1.request handle = some (s1.slot p.1) ∧ (s1.metadata p.1).readable metadataValid = true)
    fun _ _ => True := by
  unfold resolveHandle
  cases hslot : storageHandleSlot handle with
  | none => exact Triple.fail fun _ _ => trivial
  | some i =>
    refine Triple.check (fun _ => trivial) fun _ => loadMetadata_readable.bind fun m => ?_
    refine Triple.bind (Q := fun _ s => (s = s1 ∧ m = s1.slot i ∧
      (s1.metadata i).readable metadataValid = true) ∧ ¬ (m.generation ≠ handle >>> 8 ∨ m.state.Idle))
      (Triple.refuse (fun _ _ _ => trivial) fun _ h hc => ⟨h, hc⟩) fun _ => Triple.pure ?_
    rintro s ⟨⟨rfl, rfl, hreadable⟩, hlive⟩
    exact ⟨rfl, rfl, rfl, request_of_slot hslot (not_not.mp fun h => hlive (Or.inl h)) fun h => hlive (Or.inr h),
      hreadable⟩

theorem bulkCollectBuffer_takes {capacity : Nat} : Triple (· = s1) (bulkCollectBuffer handle capacity)
    (fun b s => s = s1.setBulk b { s1.bulk b with state := .reading } ∧ s1.bulkFind handle = some b ∧
      (s1.bulk b).state = .published ∧ (s1.bulk b).length ≤ capacity) fun _ s => s = s1 := by
  refine Triple.read ?_
  cases hfind : s1.bulkFind handle with
  | none => exact Triple.failed rfl
  | some b =>
    exact Triple.check (fun _ => rfl) fun hpublished => Triple.check (fun _ => rfl) fun hroom =>
      Triple.update (Triple.done ⟨rfl, rfl, not_not.mp hpublished, Nat.not_lt.mp hroom⟩)

theorem loadData_fails {length : Nat} : Triple (· = s1) (loadData i length)
    (fun _ s => s.bulk = s1.bulk ∧ s.copies = s1.copies)
    fun _ _ => (s1.primary i).valid length = false ∧ (s1.shadow i).valid length = false := by
  refine Triple.read (Triple.check (fun hbad => ?_) fun _ => Triple.update (Triple.done ⟨rfl, rfl⟩))
  rwa [Bool.and_eq_true, Bool.not_eq_true', Bool.not_eq_true'] at hbad

theorem bulkCollect_rests {capacity : Nat} (h : s0.Rests s1)
    (hgood : ∀ i b, ¬ s1.BadFrame client handle capacity i b) :
    Triple (· = s1) (storageRequestBulkCollect client handle capacity) (fun _ => s0.Rests)
      fun _ => s0.Rests := by
  have hpre : ∀ s, s = s1 → s0.Rests s ∧ s = s1 := fun s heq => ⟨heq ▸ h, heq⟩
  refine Triple.check (fun _ => h) fun hclient => Triple.bind
    (((rests_lasting.resolve).and resolveHandle_readable).weaken hpre (fun _ _ hp => hp.2) fun _ _ he => he.1)
    fun ⟨i, m⟩ => Triple.fact fun ⟨hm, hslot, hrequest, hreadable⟩ => ?_
  simp only at hm hslot hrequest hreadable
  subst hm
  refine Triple.check (fun _ => h) fun howner => Triple.check (fun _ => h) fun hcomplete =>
    Triple.check (fun _ => h) fun hoperation => Triple.ite (fun hresult => ?_) fun _ => ?_
  · refine Triple.learn (bulkCollectBuffer_takes.weaken (fun _ heq => heq) (fun _ _ hb => hb)
      fun _ _ heq => heq ▸ h) fun b ⟨hbuffer, hpublished, hroom⟩ => ?_
    obtain ⟨hfree, hidle⟩ := reserved_idle (Or.inr hpublished)
    have hlent : ∀ copy : StorageCopy, copy.bulk = b → copy.handle = handle →
        s0.Rests { s1.setBulk b { s1.bulk b with state := .reading } with copies := copy :: s1.copies } := by
      intro copy hb hhandle
      have hstate : (s1.bulk b).state ≠ .revoked := by simp [hpublished]
      have hlend := hhandle.trans (bulkFind_some hbuffer).2.symm
      exact ⟨h.1.lend hidle (Or.inr (Or.inl rfl)) hb hlend, h.2.set (.goes hfree hstate (by simp) rfl)⟩
    refine Triple.bind (loadData_fails.weaken (fun _ heq => heq) (fun _ _ hd => hd) fun _ s hbad => ?_)
      fun frame => Triple.start fun s2 hs2 => Triple.read (Triple.update (Triple.done ?_))
    · refine absurd ?_ (hgood i b)
      exact
        { live := by_contra fun hlive => hclient (Or.inl hlive)
          bounded := Nat.not_lt.mp fun hlt => hclient (Or.inr hlt)
          slot := hslot
          readable := hreadable
          request := hrequest
          owner := not_not.mp howner
          complete := not_not.mp hcomplete
          operation := not_not.mp hoperation
          result := hresult
          buffer := hbuffer
          published := hpublished
          room := hroom
          primary := hbad.1
          shadow := hbad.2 }
    · have hrests := hlent (.bulkCollect handle b i (s1.slot i) frame (s2.bulk b).length (s2.bulk b).crc32)
        rfl rfl
      refine rests_lasting.same _ _ ?_ ?_ hrests
      · exact hs2.1
      · exact congrArg (List.cons _) hs2.2
  · have hrest : Keeps s0.Rests (do
        let frame ← loadData i storageRequestBlockSize
        releaseSlot i (s1.slot i)
        Pure.pure (some (StorageBulkReply.mk (s1.slot i).result frame []))) :=
      rests_lasting.frame.bind fun _ => rests_lasting.releaseSlot.bind fun _ => Keeps.pure
    exact hrest.pre fun _ heq => heq ▸ h

section Submit

theorem reserved_not_busy : ¬ StorageBulkState.reserved.Busy := by
  rintro (h | h | h) <;> cases h

/-- The buffer is in use for the request of a slot, and the request owns one. -/
def StoragePool.Owner (s : StoragePool) (b : StorageBulkIndex) : Prop :=
  ∃ i, ¬ (s.slot i).state.Idle ∧ (s.slot i).generation ≤ storageHandleGenerationMax ∧ (s.slot i).OwnsBulk ∧
    (s.bulk b).requestHandle = storageMakeHandle i (s.slot i).generation

/-- A buffer was not in use before, or goes on for the request that had it. -/
def StoragePool.Reserves (s₀ s : StoragePool) : Prop :=
  s.Attended (fun _ => False) ∧ ∀ b, BulkCalm (s₀.bulk b) (s.bulk b) ∨ s.Owner b

theorem StoragePool.Rests.reserves (h : s0.Rests s) : s0.Reserves s := ⟨h.1, fun b => .inl (h.2 b)⟩

theorem loadMetadata_valid (h : Lasting P) : Triple P (loadMetadata i)
    (fun m s => P s ∧ metadataValid m = true) fun _ => P := by
  refine Triple.start fun s hs => Triple.read (Triple.ite (fun hreadable => Triple.done ⟨hs, ?_⟩) fun _ => ?_)
  · exact (Bool.and_eq_true_iff.mp hreadable).2
  · exact h.poison.pre fun _ heq => heq ▸ hs

variable {operation : StorageOperation} {generation : UInt32}

variable {request : StorageSubmit} {block : Vector UInt8 storageRequestBlockSize}

theorem metadata_ownsBulk (h : request.needsBulk operation = true) :
    (request.metadata operation client nowMs generation).OwnsBulk := by
  unfold StorageSubmit.needsBulk at h
  rw [Bool.or_eq_true, Bool.and_eq_true, beq_iff_eq, beq_iff_eq, bne_iff_ne] at h
  obtain h | ⟨h, hoffset⟩ := h
  · exact .inl (congrArg some h)
  · exact .inr ⟨congrArg some h, hoffset⟩

theorem metadata_live : ¬ (request.metadata operation client nowMs generation).state.Idle := by
  unfold StorageSubmit.metadata StorageSlotMetadata.vacant
  split <;> simp [StorageSlotState.Idle]

theorem submitAt_reserves {needsBulk : Bool}
    (hlive : ¬ m.state.Idle) (hmax : m.generation ≤ storageHandleGenerationMax)
    (howns : needsBulk = true → m.OwnsBulk) :
    Triple s0.Rests (submitAt i m operation needsBulk block) (fun _ => s0.Reserves) fun _ => s0.Rests := by
  refine (rests_lasting.setFrame.triple fun _ _ h => h).bind fun _ => ?_
  have hstore : Triple s0.Rests (storeMetadata i m) (fun _ s => s0.Rests s ∧ s.slot i = m) fun _ => s0.Rests :=
    Triple.start fun s hs => Triple.read (Triple.ite
      (fun _ => Triple.updated ⟨rests_lasting.same s _ rfl rfl hs, setMetadata_slot⟩)
      fun _ => rests_lasting.poison.pre fun _ heq => heq ▸ hs)
  refine Triple.bind hstore.outcome_ends fun r => ?_
  cases r with
  | error e => exact rests_lasting.setFrame.bind fun _ => Keeps.fail
  | ok _ =>
    have hreserve : Triple (fun s => s0.Rests s ∧ s.slot i = m)
        (if needsBulk then bulkReserve (storageMakeHandle i m.generation) else Pure.pure true)
        (fun reserved s => if reserved then s0.Reserves s else s0.Rests s) fun _ => s0.Rests := by
      refine Triple.ite (fun hneeds => Triple.start fun s1 hs1 => Triple.read ?_) fun _ =>
        Triple.pure fun s hs => hs.1.reserves
      cases hvacant : s1.bulkVacant with
      | none => exact Triple.done hs1.1
      | some b =>
        refine Triple.update (Triple.done ?_)
        have hidle : ¬ (s1.bulk b).state.Busy := by
          rw [bulkVacant_some hvacant]
          rintro (h | h | h) <;> cases h
        refine ⟨hs1.1.1.change (fun hbusy => absurd hbusy reserved_not_busy) fun h => absurd h hidle, fun c => ?_⟩
        by_cases hcb : c = b
        · subst hcb
          have hslot : ∀ bulk, (s1.setBulk c bulk).slot i = m := fun _ => hs1.2
          refine .inr ⟨i, ?_⟩
          rw [hslot, setBulk_bulk]
          exact ⟨hlive, hmax, howns hneeds, rfl⟩
        · rw [setBulk_bulk_ne hcb]
          exact .inl (hs1.1.2 c)
    refine hreserve.bind fun reserved => ?_
    cases reserved with
    | true => exact Triple.ret
    | false =>
      have hundo : Keeps s0.Rests (do
          clearData i
          let _ ← (storeMetadata i (.vacant .free (m.generation + 1))).outcome
          fail .enospc : Pool UInt32) :=
        rests_lasting.setFrame.bind fun _ => rests_lasting.store.outcome.bind fun _ => Keeps.fail
      exact hundo.ends (fun _ _ hs => hs.reserves) fun _ _ hs => hs

theorem submitIn_reserves (slots : List StorageSlot) :
    Triple s0.Rests (submitIn request operation client nowMs block slots) (fun _ => s0.Reserves)
      fun _ => s0.Rests := by
  induction slots with
  | nil => exact Triple.fail fun _ hs => hs
  | cons i rest ih =>
    refine (loadMetadata_valid rests_lasting).learn fun m hvalid =>
      Triple.ite (fun _ => ih) fun _ => Triple.ite (fun _ => Triple.bind rests_lasting.store fun _ => ih) fun hmax => ?_
    exact submitAt_reserves metadata_live (generation_succ_le (metadataValid_generation hvalid) hmax)
      metadata_ownsBulk

theorem submit_reserves {blockData : Option (Vector UInt8 storageRequestBlockSize)} :
    Triple s0.Rests (storageRequestSubmit client request blockData nowMs) (fun _ => s0.Reserves)
      fun _ => s0.Rests := by
  refine Triple.bind Keeps.refuse fun _ => ?_
  cases request.operation with
  | none => exact Triple.fail fun _ hs => hs
  | some operation =>
    have hlength : Keeps s0.Rests (request.checkLength operation) := by
      repeat refine Keeps.bind Keeps.refuse fun _ => ?_
      exact Keeps.refuse
    have hcount : Keeps s0.Rests (Attempt.forEach (fun slot => do
        let _ ← loadMetadata slot
        Pure.pure ()) storageSlots) :=
      Keeps.forEach fun i _ => rests_lasting.load.bind fun _ => Keeps.pure
    exact Triple.bind hlength fun _ => Triple.bind Keeps.refuse fun _ => Triple.bind hcount fun _ =>
      Triple.bind Keeps.get fun _ => Triple.bind Keeps.refuse fun _ => Triple.bind Keeps.refuse fun _ =>
      submitIn_reserves storageSlots

end Submit

/-- What holds of the buffers at every moment of a run without a stranded buffer. -/
structure StoragePool.Tended (s : StoragePool) : Prop where
  sound : s.Sound
  attended : s.Attended fun _ => False
  owned : ∀ b, (s.bulk b).state ≠ .free → (s.bulk b).state ≠ .revoked → s.Owner b

theorem storageCall_reserves (hs : s0.Tended) (hcall : ∀ client handle capacity,
    call = .bulkCollect client handle capacity → ∀ i b, ¬ s0.BadFrame client handle capacity i b) :
    Triple (· = s0) call.exec (fun _ => s0.Reserves) fun _ => s0.Reserves := by
  have hstart : s0.Rests s0 := ⟨hs.attended, fun b => .refl (hs.sound.bulk.free b)⟩
  have hkeeps : ∀ {β : Type} {p : Pool β} {f : β → StorageReply}, Keeps s0.Rests p →
      Triple (· = s0) (do let a ← p; Pure.pure (f a)) (fun _ => s0.Reserves)
        fun _ => s0.Reserves := fun hp =>
    (hp.bind fun _ => Keeps.pure).weaken (fun _ heq => heq ▸ hstart) (fun _ _ h => h.reserves)
      fun _ _ h => h.reserves
  have hmodify : ∀ {g : StoragePool → StoragePool}, s0.Rests (g s0) →
      Triple (· = s0) (do Attempt.modify g; Pure.pure .done : Pool StorageReply)
        (fun _ => s0.Reserves) fun _ => s0.Reserves := fun hg => Triple.update (Triple.done hg.reserves)
  cases call with
  | bindService service => exact hkeeps rests_lasting.bindService
  | unbindService service => exact hkeeps rests_lasting.unbindService
  | submit client request blockData nowMs =>
    exact (submit_reserves.weaken (fun _ heq => heq ▸ hstart) (fun _ _ h => h)
      fun _ _ h => h.reserves).bind fun _ => Triple.ret
  | claim service nowMs version => exact hkeeps rests_lasting.claim
  | complete service handle resultCode blockData => exact hkeeps rests_lasting.complete
  | completionContext service handle => exact hkeeps rests_lasting.completionContext
  | collect client handle room => exact hkeeps rests_lasting.collect
  | cancel client handle => exact hkeeps rests_lasting.cancel
  | cancelProcess identity => exact hkeeps rests_lasting.cancelProcess
  | inputPublish client handle data nowMs => exact hkeeps inputPublish_rests
  | inputTake service handle capacity nowMs => exact hkeeps inputTake_rests
  | mutationContext service handle nowMs => exact hkeeps rests_lasting.mutationContext
  | mutationBind service handle resource nowMs => exact hkeeps rests_lasting.mutationBind
  | mutationEffect service handle resource nowMs => exact hkeeps rests_lasting.mutationIo
  | mutationAuthorized service handle resource nowMs => exact hkeeps rests_lasting.mutationIo
  | mutationFinish service handle resource outcome nowMs => exact hkeeps rests_lasting.mutationFinish
  | mutationFences nowMs => exact hkeeps rests_lasting.mutationFences
  | recoveryReady service resource => exact hkeeps rests_lasting.mutationRecovery
  | recoveryClear service resource => exact hkeeps rests_lasting.mutationRecovery
  | recoveryRefence resource => exact hkeeps rests_lasting.recoveryRefence
  | replyBegin client handle nowMs => exact hkeeps rests_lasting.replyBegin
  | replyEnd client handle copied nowMs => exact hkeeps rests_lasting.replyEnd
  | replyAck client handle nowMs => exact hkeeps rests_lasting.replyAck
  | bulkPublish service handle data => exact hkeeps bulkPublish_rests
  | bulkCollect client handle capacity =>
    exact ((bulkCollect_rests hstart (hcall client handle capacity rfl)).bind fun _ => Keeps.pure).weaken
      (fun _ heq => heq) (fun _ _ h => h.reserves) fun _ _ h => h.reserves
  | endCopy index =>
    exact finishCopy_rests.weaken (fun _ heq => heq ▸ hstart) (fun _ _ h => h.reserves)
      fun _ _ h => h.reserves
  | damageMetadata slot => exact hmodify (rests_lasting.same s0 _ rfl rfl hstart)
  | damageService => exact hmodify (rests_lasting.same s0 _ rfl rfl hstart)
  | damageFences => exact hmodify (rests_lasting.same s0 _ rfl rfl hstart)
  | damageFrame slot primary shadow => exact hmodify (rests_lasting.same s0 _ rfl rfl hstart)
  | damageBulk b bytes =>
    refine hmodify ⟨hs.attended.change (fun hbusy => hbusy) fun hbusy => ⟨hbusy, rfl⟩, ?_⟩
    by_cases hfree : (s0.bulk b).state = .free
    · exact hstart.2.set (.inl ⟨hfree, hs.sound.bulk.free b hfree⟩)
    · exact hstart.2.set (.inr ⟨hfree, hfree, rfl, fun h => h⟩)

theorem StoragePool.Tended.step (hs : s.Tended) (call : StorageCall)
    (hcall : ¬ (⟨s, call, s.result call⟩ : StorageEvent).Strands) : (s.after call).Tended := by
  obtain ⟨x, -, hmoved⟩ := hs.sound.does call
  have hgood : ∀ client handle capacity, call = .bulkCollect client handle capacity →
      ∀ i b, ¬ s.BadFrame client handle capacity i b := fun client handle capacity heq i b hbad =>
    hcall ⟨client, handle, capacity, i, b, heq, hbad⟩
  obtain ⟨hattended, hbulk⟩ : s.Reserves (s.after call) := by
    have hrun := storageCall_reserves hs hgood () 0 s rfl
    unfold after
    rcases hr : call.exec () 0 s with ⟨r | r, n, s'⟩ <;> rw [hr] at hrun <;> exact hrun
  refine ⟨hmoved.sound, hattended, fun b hfree hrevoked => ?_⟩
  obtain (⟨hfree', -⟩ | ⟨hold, -, hhandle, hkeep⟩) | howner := hbulk b
  · exact absurd hfree' hfree
  · obtain ⟨i, hlive, hmax, howns, hnamed⟩ := hs.owned b hold (hkeep hrevoked)
    obtain ⟨hgeneration, hlive'⟩ := hmoved.sound.bulk.held b i _ hfree hrevoked hmax (hhandle.trans hnamed)
    have hkept := (hmoved.step.slots i).kept hgeneration.symm hlive'
    refine ⟨i, hlive', hgeneration ▸ hmax, ?_, ?_⟩
    · unfold StorageSlotMetadata.OwnsBulk
      rw [hkept.operation, hkept.offset]
      exact howns
    · rw [hgeneration]
      exact hhandle.trans hnamed
  · exact howner

theorem storageRequestPoolInit_tended : storageRequestPoolInit.Tended := by
  refine ⟨storageRequestPoolInit_sound, ⟨fun b hbusy => ?_, fun copy h => ?_, List.nodup_nil, fun copy h => ?_⟩,
    fun b h => absurd rfl h⟩
  · obtain h | h | h := hbusy <;> cases h
  · cases h
  · cases h

theorem history_tended (calls : List StorageCall)
    (h : ∀ event ∈ (storageRequestPoolInit.history calls).2, ¬ event.Strands) :
    (storageRequestPoolInit.history calls).1.Tended := by
  induction calls using List.reverseRecOn with
  | nil => exact storageRequestPoolInit_tended
  | append_singleton calls call ih =>
    rw [history_snoc] at h ⊢
    have hbefore := ih fun event hevent => h event (List.mem_cons_of_mem _ hevent)
    exact hbefore.step call (h _ List.mem_cons_self)

theorem StoragePool.Tended.bulkOwned (h : s.Tended) (hquiet : s.copies = []) : s.BulkOwned := by
  intro b hfree
  have hrevoked : (s.bulk b).state ≠ .revoked := by
    intro hrevoked
    obtain hfalse | ⟨copy, hcopy, -⟩ := h.attended.copier b (Or.inr (Or.inr hrevoked))
    · exact hfalse
    · rw [hquiet] at hcopy
      cases hcopy
  obtain ⟨i, hlive, hmax, howns, hhandle⟩ := h.owned b hfree hrevoked
  have hrequest : s.request (s.bulk b).requestHandle = some (s.slot i) := by
    rw [hhandle]
    exact request_of_slot handleSlot_makeHandle (makeHandle_generation hmax).symm hlive
  exact ⟨s.slot i, hrequest, howns⟩

theorem StoragePool.BulkOwned.all_free (h : s.BulkOwned) (hidle : ∀ i, (s.slot i).state.Idle)
    (b : StorageBulkIndex) : (s.bulk b).state = .free := by
  by_contra hfree
  obtain ⟨m, hrequest, -⟩ := h b hfree
  obtain ⟨i, -, rfl, -, hlive, -⟩ := request_some hrequest
  exact hlive (hidle i)

section Admission

/-- A well-formed request for an operation with a bulk buffer. -/
structure StorageSubmit.AsksBulk (request : StorageSubmit) (operation : StorageOperation) : Prop where
  version : request.version = storageRequestVersion
  size : storageRequestSubmitSize ≤ request.structSize
  timeout : request.timeoutMs ≠ 0 ∧ request.timeoutMs ≤ storageRequestMaxTimeoutMs
  length : request.length = storageRequestBlockSize
  asked : request.operation = some operation
  owns : operation = .vfsBulkRead ∨ operation = .vfsObjectMutate ∧
    request.structSize = storageRequestSubmitSize ∧ request.resource = 0 ∧ request.offset ≠ 0 ∧
    request.offset ≤ storageRequestBulkMaxBytes

/-- While the records can be written and a slot is left, every request for a buffer is admitted. -/
def StoragePool.AdmitsBulk (s : StoragePool) : Prop :=
  ∀ client request operation block nowMs, client.live = true → request.AsksBulk operation →
    (∀ i, (s.metadata i).writable metadataValid = true) →
    (∃ i, (s.slot i).state = .free ∧ (s.slot i).generation ≠ storageHandleGenerationMax) →
    ∃ handle, s.result (.submit client request (some block) nowMs) = .ok (.submitted handle)

/-- What is left to be searched has a slot that can be taken. -/
structure StoragePool.Roomy (s : StoragePool) (slots : List StorageSlot) : Prop where
  writable : ∀ i ∈ slots, (s.metadata i).writable metadataValid = true
  room : ∃ i ∈ slots, (s.slot i).state = .free ∧ (s.slot i).generation ≠ storageHandleGenerationMax
  buffer : ∃ b, (s.bulk b).state = .free

variable {request : StorageSubmit} {operation : StorageOperation}
  {block : Vector UInt8 storageRequestBlockSize}

theorem storeMetadata_writes (h : (s1.metadata i).writable metadataValid = true) :
    Triple (· = s1) (storeMetadata i m) (fun _ s => s = s1.setMetadata i m) fun _ _ => False :=
  Triple.read (Triple.ite (fun _ => Triple.updated rfl) fun hnot => absurd h hnot)

theorem loadMetadata_reads (h : (s1.metadata i).writable metadataValid = true) :
    Triple (· = s1) (loadMetadata i) (fun m s => s = s1 ∧ m = s1.slot i) fun _ _ => False :=
  Triple.read (Triple.ite (fun _ => Triple.done ⟨rfl, rfl⟩)
    fun hnot => absurd (Bool.and_eq_true_iff.mp h).1 hnot)

theorem bulkVacant_of_free (h : ∃ b, (s.bulk b).state = .free) : s.bulkVacant ≠ none := by
  obtain ⟨b, hfree⟩ := h
  intro hnone
  have hused := List.find?_eq_none.mp hnone b (List.mem_finRange _)
  simp [hfree] at hused

theorem submitAt_admits {needsBulk : Bool} (hwritable : (s1.metadata i).writable metadataValid = true)
    (hbuffer : ∃ b, (s1.bulk b).state = .free) :
    Triple (· = s1) (submitAt i m operation needsBulk block) (fun _ _ => True) fun _ _ => False := by
  refine Triple.update (Triple.bind (Triple.outcome_ends (storeMetadata_writes ?_)) fun r => ?_)
  · exact hwritable
  cases r with
  | error e => exact fun _ _ _ h => h.elim
  | ok _ =>
    have hreserve : ∀ s : StoragePool, (∃ b, (s.bulk b).state = .free) → Triple (fun t => t = s)
        (if needsBulk then bulkReserve (storageMakeHandle i m.generation) else Pure.pure true)
        (fun reserved _ => reserved = true) fun _ _ => False := by
      refine fun s hfree => Triple.ite (fun _ => Triple.read ?_) fun _ => Triple.done rfl
      cases hvacant : s.bulkVacant with
      | none => exact absurd hvacant (bulkVacant_of_free hfree)
      | some b => exact Triple.update (Triple.done rfl)
    refine Triple.bind (hreserve _ hbuffer) fun reserved => ?_
    cases reserved with
    | true => exact Triple.pure fun _ _ => trivial
    | false => exact fun _ _ _ h => by cases h

theorem submitIn_admits (slots : List StorageSlot) (hslots : slots.Nodup) (hroomy : s1.Roomy slots) :
    Triple (· = s1) (submitIn request operation client nowMs block slots) (fun _ _ => True)
      fun _ _ => False := by
  induction slots generalizing s1 with
  | nil =>
    obtain ⟨i, hi, -⟩ := hroomy.room
    cases hi
  | cons j rest ih =>
    have hwritable := hroomy.writable j List.mem_cons_self
    obtain ⟨hj, hrest⟩ := List.nodup_cons.mp hslots
    have hlater : ¬ ((s1.slot j).state = .free ∧ (s1.slot j).generation ≠ storageHandleGenerationMax) →
        s1.Roomy rest := by
      intro hnot
      refine ⟨fun i hi => hroomy.writable i (List.mem_cons_of_mem _ hi), ?_, hroomy.buffer⟩
      obtain ⟨i, hi, hfree⟩ := hroomy.room
      obtain rfl | hi := List.mem_cons.mp hi
      · exact absurd hfree hnot
      · exact ⟨i, hi, hfree⟩
    refine (loadMetadata_reads hwritable).learn fun m hm => ?_
    subst hm
    refine Triple.ite (fun hused => ih hrest (hlater fun h => hused h.1)) fun hfree =>
      Triple.ite (fun hmax => ?_) fun _ => submitAt_admits hwritable hroomy.buffer
    refine (storeMetadata_writes hwritable).bind fun _ => ih hrest ?_
    have hroomy' := hlater fun h => h.2 hmax
    have hother : ∀ i ∈ rest, i ≠ j := fun i hi heq => hj (heq ▸ hi)
    refine ⟨fun i hi => ?_, ?_, hroomy.buffer⟩
    · have hsame : (s1.setMetadata j (.vacant .retired storageHandleGenerationMax)).metadata i =
          s1.metadata i := Function.update_of_ne (hother i hi) _ _
      rw [hsame]
      exact hroomy'.writable i hi
    · obtain ⟨i, hi, hfree⟩ := hroomy'.room
      refine ⟨i, hi, ?_⟩
      rw [setMetadata_slot_ne (hother i hi)]
      exact hfree

theorem checkLength_passes (h : request.AsksBulk operation) :
    Triple (· = s1) (request.checkLength operation) (fun _ s => s = s1) fun _ _ => False := by
  have hlength := h.length
  obtain rfl | ⟨rfl, hsize, hresource, -, hoffset⟩ := h.owns
  · refine Triple.check (by simp) fun _ => Triple.check (by simp) fun _ =>
      Triple.check (by simp [hlength]) fun _ => Triple.check (by simp) fun _ => Triple.check (by simp) fun _ => ?_
    exact Triple.refuse (by simp [StorageOperation.lengthless]) fun _ heq _ => heq
  · refine Triple.check (by simp) fun _ => Triple.check (by simp) fun _ =>
      Triple.check (by simp [hlength]) fun _ => Triple.check (by simp [hsize, hresource, hoffset]) fun _ =>
      Triple.check (by simp) fun _ => ?_
    exact Triple.refuse (by simp [StorageOperation.lengthless]) fun _ heq _ => heq

theorem submit_admits {client : StorageIdentity} (hfree : ∀ b, (s1.bulk b).state = .free)
    (hidle : ∀ i, (s1.slot i).state.Idle) (hclient : client.live = true) (h : request.AsksBulk operation)
    (hwritable : ∀ i, (s1.metadata i).writable metadataValid = true)
    (hroom : ∃ i, (s1.slot i).state = .free ∧ (s1.slot i).generation ≠ storageHandleGenerationMax) :
    Triple (· = s1) (storageRequestSubmit client request (some block) nowMs) (fun _ _ => True)
      fun _ _ => False := by
  have hsize : ¬ request.structSize < storageRequestSubmitSize := UInt32.not_lt.mpr h.size
  have htimeout : ¬ storageRequestMaxTimeoutMs < request.timeoutMs := UInt32.not_lt.mpr h.timeout.2
  refine Triple.check (by simp [hclient, h.version, hsize, h.timeout.1, htimeout]) fun _ => ?_
  rw [h.asked]
  have hload : Triple (· = s1) (Attempt.forEach (fun slot => do
      let _ ← loadMetadata slot
      Pure.pure ()) storageSlots) (fun _ s => s = s1) fun _ _ => False :=
    Triple.forEach fun i _ => (loadMetadata_reads (hwritable i)).bind fun _ => Triple.pure fun _ hs => hs.1
  refine (checkLength_passes h).bind fun _ => Triple.check (by simp) fun _ => hload.bind fun _ =>
    Triple.read (Triple.check (fun hcount => ?_) fun _ => Triple.check (fun hnone => ?_) fun _ => ?_)
  · have hzero : (storageSlots.countP fun i =>
        !decide (s1.slot i).state.Idle && (s1.slot i).client == client) = 0 := by
      rw [List.countP_eq_zero]
      intro i _
      simp [hidle i]
    have hcount : storageRequestMaxPerClient ≤ storageSlots.countP fun i =>
        !decide (s1.slot i).state.Idle && (s1.slot i).client == client := hcount
    rw [hzero] at hcount
    cases hcount
  · exact bulkVacant_of_free ⟨⟨0, by decide⟩, hfree _⟩ hnone.2
  · obtain ⟨i, hroom⟩ := hroom
    exact submitIn_admits storageSlots (List.nodup_finRange _)
      ⟨fun i _ => hwritable i, ⟨i, List.mem_finRange i, hroom⟩, ⟨⟨0, by decide⟩, hfree _⟩⟩

theorem StoragePool.admitsBulk (hfree : ∀ b, (s.bulk b).state = .free) (hidle : ∀ i, (s.slot i).state.Idle) :
    s.AdmitsBulk := by
  intro client request operation block nowMs hclient h hwritable hroom
  have hadmits : Triple (fun t => t = s) (storageRequestSubmit client request (some block) nowMs)
      (fun _ _ => True) fun _ _ => False := submit_admits hfree hidle hclient h hwritable hroom
  have hrun := hadmits () 0 s rfl
  rcases hr : storageRequestSubmit client request (some block) nowMs () 0 s with ⟨e | handle, n, s'⟩
  · rw [hr] at hrun
    exact hrun.elim
  · exact ⟨handle, congrArg Prod.fst (bind_run hr)⟩

end Admission

/-- Over every run that strands none: between the halves of no copy every buffer in use carries the
handle of a live request with a buffer, and with no request left all are free and the next request
for one is admitted. -/
theorem bulk_buffers_owned (calls : List StorageCall)
    (hcalls : ∀ event ∈ (storageRequestPoolInit.history calls).2, ¬ event.Strands)
    (hquiet : (storageRequestPoolInit.history calls).1.copies = []) :
    (storageRequestPoolInit.history calls).1.BulkOwned ∧
      ((∀ i, ((storageRequestPoolInit.history calls).1.slot i).state.Idle) →
        (∀ b, ((storageRequestPoolInit.history calls).1.bulk b).state = .free) ∧
        (storageRequestPoolInit.history calls).1.AdmitsBulk) := by
  have howned := (history_tended calls hcalls).bulkOwned hquiet
  refine ⟨howned, fun hidle => ?_⟩
  have hfree := howned.all_free hidle
  exact ⟨hfree, admitsBulk hfree hidle⟩

def bulkReadClient : StorageIdentity := ⟨5, 1⟩

def bulkReadService : StorageIdentity := ⟨7, 1⟩

def bulkReadRequest : StorageSubmit :=
  { version := storageRequestVersion
    structSize := storageRequestSubmitSize
    operation := some .vfsBulkRead
    resource := 0
    offset := 0
    length := storageRequestBlockSize
    timeoutMs := 1000 }

def submittedRead : List StorageCall :=
  [.bindService bulkReadService, .submit bulkReadClient bulkReadRequest (some blankBlock) 0]

/-- The request waits with its buffer. -/
theorem submittedRead_owned : (storageRequestPoolInit.history submittedRead).1.BulkOwned := by
  refine (bulk_buffers_owned submittedRead (fun event hevent hstrands => ?_) (by decide +kernel)).1
  obtain ⟨client, handle, capacity, i, b, hcall, -⟩ := hstrands
  have hcalls : event.call ∈ submittedRead := by
    have hmem : event.call ∈ (storageRequestPoolInit.history submittedRead).2.map StorageEvent.call :=
      List.mem_map_of_mem hevent
    exact List.mem_reverse.mp hmem
  rw [hcall] at hcalls
  simp [submittedRead] at hcalls

theorem of_valid (block : Vector UInt8 storageRequestBlockSize) :
    (StorageDataCopy.of block storageRequestBlockSize).valid storageRequestBlockSize = true := by
  have hbytes : (of block storageRequestBlockSize).bytes = block := by
    ext i
    simp [of]
  unfold valid data
  rw [hbytes]
  simp [of]

def StoragePool.claimed (s : StoragePool) (i : StorageSlot) (service : StorageIdentity) : StoragePool :=
  (s.setFrame i (s.primary i) (s.shadow i)).setMetadata i
    { s.slot i with
      state := .claimed
      service := service }

theorem claimIn_claims {service : StorageIdentity} {rest : List StorageSlot}
    (hwritable : (s1.metadata i).writable metadataValid = true)
    (hqueued : (s1.slot i).state = .queued) (hearly : nowMs < (s1.slot i).deadlineMs)
    (hoperation : (s1.slot i).operation = some .vfsBulkRead)
    (hprimary : (s1.primary i).valid (s1.slot i).length = true)
    (hshadow : (s1.shadow i).valid (s1.slot i).length = true) :
    Triple (· = s1) (claimIn service nowMs .v1 (i :: rest)) (fun _ s => s = s1.claimed i service)
      fun _ _ => False := by
  have hload : Triple (· = s1) (loadData i (s1.slot i).length)
      (fun _ s => s = s1.setFrame i (s1.primary i) (s1.shadow i)) fun _ _ => False := by
    refine Triple.read (Triple.check (by simp [hprimary]) fun _ => Triple.update (Triple.done ?_))
    rw [if_pos hprimary, if_pos hshadow]
  have hwritable' : ((s1.setFrame i (s1.primary i) (s1.shadow i)).metadata i).writable metadataValid = true :=
    hwritable
  refine (loadMetadata_reads hwritable).learn fun m hm => ?_
  subst hm
  refine Triple.ite (fun h => absurd hqueued h.1) fun _ => Triple.ite (fun h => absurd hearly (UInt64.not_lt.mpr h))
    fun _ => Triple.ite (fun h => by simp [hqueued] at h) fun _ =>
    Triple.ite (fun h => by simp [hoperation] at h) fun _ => ?_
  have hinput : (s1.slot i).operation.any operationHasInput = true := by
    rw [hoperation]
    rfl
  rw [if_pos hinput]
  exact hload.bind fun _ => (storeMetadata_writes hwritable').bind fun _ => Triple.ret

set_option maxRecDepth 20000 in
theorem submittedRead_frames :
    ((storageRequestPoolInit.history submittedRead).1.primary ⟨0, by decide⟩) =
        .of blankBlock storageRequestBlockSize ∧
      ((storageRequestPoolInit.history submittedRead).1.shadow ⟨0, by decide⟩) =
        .of blankBlock storageRequestBlockSize ∧
      ((storageRequestPoolInit.history submittedRead).1.slot ⟨0, by decide⟩).length = storageRequestBlockSize :=
  ⟨rfl, rfl, rfl⟩

theorem history_append (calls later : List StorageCall) :
    (s.history (calls ++ later)).1 = ((s.history calls).1.history later).1 := by
  induction later using List.reverseRecOn with
  | nil => rw [List.append_nil]; rfl
  | append_singleton later call ih => rw [← List.append_assoc, history_snoc, history_snoc, ih]

theorem history_resume (calls : List StorageCall) (call : StorageCall) (later : List StorageCall) :
    (s.history (calls ++ call :: later)).1 = (((s.history calls).1.after call).history later).1 := by
  rw [history_append]
  exact history_append [call] later

theorem after_of_triple (h : Triple (fun t => t = s) call.exec (fun _ => P) fun _ _ => False) :
    P (s.after call) := h.settles () 0

/-- A bulk reply is collected whose frame has gone bad in both copies, and the request is then cancelled. -/
def strandingCalls : List StorageCall :=
  [.bulkPublish bulkReadService 0x101 [7], .endCopy 0,
    .complete bulkReadService 0x101 0 (some blankBlock), .damageFrame ⟨0, by decide⟩ .empty .empty,
    .bulkCollect bulkReadClient 0x101 1, .cancel bulkReadClient 0x101]

def strandedRead : List StorageCall := submittedRead ++ .claim bulkReadService 0 .v1 :: strandingCalls

theorem strandedRead_leaks :
    (storageRequestPoolInit.history strandedRead).1.copies = [] ∧
      (∀ i, ((storageRequestPoolInit.history strandedRead).1.slot i).state.Idle) ∧
      ¬ (storageRequestPoolInit.history strandedRead).1.BulkOwned := by
  have hclaim : (storageRequestPoolInit.history submittedRead).1.after (.claim bulkReadService 0 .v1) =
      (storageRequestPoolInit.history submittedRead).1.claimed ⟨0, by decide⟩ bulkReadService := by
    obtain ⟨hprimary, hshadow, hlength⟩ := submittedRead_frames
    have hclaims : Triple (fun s => s = (storageRequestPoolInit.history submittedRead).1)
        (StorageCall.claim bulkReadService 0 .v1).exec
        (fun _ s => s = (storageRequestPoolInit.history submittedRead).1.claimed ⟨0, by decide⟩ bulkReadService)
        fun _ _ => False := by
      refine Triple.bind (Triple.bind (Q := fun identity s => s = (storageRequestPoolInit.history submittedRead).1 ∧
        identity = bulkReadService) (Triple.read (Triple.check (by decide +kernel) fun _ => Triple.done ?_))
        fun identity => Triple.fact fun hidentity => Triple.check (absurd hidentity) fun _ => ?_) fun _ =>
        Triple.ret
      · exact ⟨rfl, by decide +kernel⟩
      · refine claimIn_claims (by decide +kernel) (by decide +kernel) (by decide +kernel) (by decide +kernel) ?_ ?_
        · rw [hprimary, hlength]
          exact of_valid blankBlock
        · rw [hshadow, hlength]
          exact of_valid blankBlock
    exact after_of_triple hclaims
  have hrun : (storageRequestPoolInit.history strandedRead).1 =
      (((storageRequestPoolInit.history submittedRead).1.claimed ⟨0, by decide⟩ bulkReadService).history
        strandingCalls).1 := by
    rw [← hclaim]
    exact history_resume submittedRead _ strandingCalls
  have hend : (storageRequestPoolInit.history strandedRead).1.copies.length = 0 ∧
      (∀ i, ((storageRequestPoolInit.history strandedRead).1.slot i).state.Idle) ∧
      ((storageRequestPoolInit.history strandedRead).1.bulk ⟨0, by decide⟩).state = .revoked := by
    rw [hrun]
    decide +kernel
  obtain ⟨hcopies, hidle, hrevoked⟩ := hend
  refine ⟨List.length_eq_zero_iff.mp hcopies, hidle, fun howned => ?_⟩
  have hfree := howned.all_free hidle ⟨0, by decide⟩
  rw [hrevoked] at hfree
  cases hfree

end ReistOs.RequestPool
