import ReistOs.IpcCalls

/-! What sending and receiving do to the queues of `kernel/ipc/ipc.c`. -/

namespace ReistOs

open Attempt IpcState

variable {s s' s0 s1 : IpcState} {slot other : IpcSlot} {i j : IpcRecordSlot} {p q : IpcProcessSlot}
  {e : IpcEndpoint} {index : IpcCell} {value : IpcQueued} {message : IpcMessage}
  {sender receiver : IpcIdentity} {handle required : UInt32} {patience : IpcPatience}

/-- Only the messages of one open endpoint may have changed. -/
structure Stirred (slot : IpcSlot) (s s' : IpcState) : Prop where
  records : s'.records = s.records
  processes : s'.processes = s.processes
  recordIntact : s'.recordIntact = s.recordIntact
  endpoint : ∀ other, other ≠ slot → s'.endpoints other = s.endpoints other
  messages : ∀ other, other ≠ slot → s'.messages other = s.messages other
  frame : (s'.endpoints slot).frame = (s.endpoints slot).frame
  peers : (s'.endpoints slot).peerCapabilities = (s.endpoints slot).peerCapabilities
  room : (s'.endpoints slot).count ≤ ipcQueueDepth
  active : (s.endpoints slot).active = true

theorem Stirred.refl (h : IpcTables s) (hactive : (s.endpoints slot).active = true) :
    Stirred slot s s :=
  { records := rfl
    processes := rfl
    recordIntact := rfl
    endpoint := fun _ _ => rfl
    messages := fun _ _ => rfl
    frame := rfl
    peers := rfl
    room := h.room slot
    active := hactive }

theorem Stirred.frames (h : Stirred slot s s') (other : IpcSlot) :
    (s'.endpoints other).frame = (s.endpoints other).frame := by
  by_cases hother : other = slot
  · rw [hother]
    exact h.frame
  · rw [h.endpoint other hother]

theorem Stirred.tables (h : Stirred slot s s') (htables : IpcTables s) : IpcTables s' where
  sound := htables.sound.of_frame h.records h.processes (fun _ hi => h.recordIntact ▸ hi) h.frames
  counted := by
    apply htables.counted.of_frame h.records h.frames
    intro other _
    by_cases hother : other = slot
    · rw [hother]
      exact h.peers
    · rw [h.endpoint other hother]
  live := by
    rw [h.processes]
    exact htables.live
  idle other hother := by
    have hslot : other ≠ slot := by
      rintro rfl
      rw [(frame_eq h.frame).1, h.active] at hother
      exact Bool.false_ne_true hother.symm
    rw [h.endpoint other hslot] at hother ⊢
    exact htables.idle other hother
  room other := by
    by_cases hother : other = slot
    · rw [hother]
      exact h.room
    · rw [h.endpoint other hother]
      exact htables.room other

theorem Stirred.quarantined (h : Stirred slot s s') (htables : IpcTables s) :
    Faded s (quarantineEndpoint slot s') := by
  have htables' := h.tables htables
  have hrevoked := quarantineEndpoint_revoked slot htables'.sound htables'.counted
  have hfaded := hrevoked.faded htables'
  refine
    { tables := hfaded.tables
      generation := ?_
      endpoint := ?_
      record := ?_
      identity := ?_
      isRunning := ?_
      recordIntact := ?_ }
  · intro other
    rw [← (frame_eq (h.frames other)).2.1]
    exact hfaded.generation other
  · intro other hactive
    have hslot : other ≠ slot := by
      rintro rfl
      exact Bool.false_ne_true (hrevoked.inactive.symm.trans hactive)
    have hsame := hfaded.endpoint other hactive
    rw [h.endpoint other hslot, h.messages other hslot] at hsame
    exact hsame
  · intro i hi
    rw [hfaded.record i hi, h.records]
  · intro p
    rw [hfaded.identity p, h.processes]
  · intro p hrunning
    have hrunning' := hfaded.isRunning p hrunning
    rw [h.processes] at hrunning'
    exact hrunning'
  · intro i hintact
    have hintact' := hfaded.recordIntact i hintact
    rw [h.recordIntact] at hintact'
    exact hintact'

def Upset (slot : IpcSlot) (s₀ : IpcState) (e : IpcError) (s : IpcState) : Prop :=
  Stirred slot s₀ s ∧ (e ≠ .eintegrity → s = s₀)

theorem Upset.same (h : IpcTables s0) (hactive : (s0.endpoints slot).active = true) (e : IpcError) :
    Upset slot s0 e s0 :=
  ⟨Stirred.refl h hactive, fun _ => rfl⟩

theorem orQuarantine_triple {α : Type} {x : Ipc α} {Q : α → IpcState → Prop} (h : IpcTables s0)
    (hx : Triple (· = s0) x Q (Upset slot s0)) :
    Triple (· = s0) (orQuarantine slot x) Q (fun _ => Faded s0) := by
  refine Triple.bind (Triple.outcome_ends hx) fun r => ?_
  split
  next a => exact Triple.pure fun _ hs => hs
  next =>
    refine Triple.start fun s1 hs1 => ?_
    apply Triple.update
    exact Triple.failed (hs1.1.quarantined h)
  next e he =>
    refine Triple.fail fun s hs => ?_
    obtain rfl : s = s0 := hs.2 fun heq => he heq
    exact Faded.refl h

section Queues

def IpcState.queue (s : IpcState) (slot : IpcSlot) : List IpcQueued :=
  (List.range (s.endpoints slot).count).map fun offset =>
    s.messages slot ((s.endpoints slot).cellAt offset)

def IpcState.bulk (s : IpcState) (slot : IpcSlot) : List (IpcBulkMessage × IpcIdentity) :=
  if (s.endpoints slot).bulkActive then
    [((s.endpoints slot).bulkMessage, (s.endpoints slot).bulkSender)]
  else []

theorem queue_getElem? (offset : Nat) : (s.queue slot)[offset]? =
    if offset < (s.endpoints slot).count then
      some (s.messages slot ((s.endpoints slot).cellAt offset))
    else none := by
  unfold queue
  split
  next h => rw [List.getElem?_map, List.getElem?_range h, Option.map_some]
  next h =>
    apply List.getElem?_eq_none
    rw [List.length_map, List.length_range]
    exact Nat.not_lt.mp h

theorem cellAt_inj {o o' : Nat} (ho : o < ipcQueueDepth) (ho' : o' < ipcQueueDepth)
    (h : e.cellAt o = e.cellAt o') : o = o' := by
  have hval : (e.head + o) % 4 = (e.head + o') % 4 := congrArg Fin.val h
  have hlt : o < 4 := ho
  have hlt' : o' < 4 := ho'
  omega

theorem messages_setMessage {index' : IpcCell} :
    (s.setMessage slot index value).messages slot index' =
      if index' = index then value else s.messages slot index' := by
  unfold setMessage
  simp only [Function.update_self, Function.update_apply]

theorem setMessage_other (h : other ≠ slot) :
    (s.setMessage slot index value).messages other = s.messages other := by
  unfold setMessage
  simp only [Function.update_of_ne h]

variable {E : IpcError → IpcState → Prop}

theorem loadMessage_triple (hE : E .eintegrity s0) :
    Triple (· = s0) (loadMessage slot index)
      (fun value s => s = s0 ∧ value = s0.messages slot index ∧ messageValid value.message = true)
      E := by
  apply Triple.read
  refine Triple.check (fun _ => hE) fun _ => ?_
  refine Triple.check (fun _ => hE) fun hvalid => Triple.done ⟨rfl, rfl, ?_⟩
  simpa using (not_or.mp hvalid).1

theorem sealMessage_triple (hE : E .eintegrity s0) :
    Triple (· = s0) (sealMessage slot index value)
      (fun _ s => s = s0.setMessage slot index value) E := by
  apply Triple.read
  refine Triple.check (fun _ => hE) fun _ => ?_
  exact Triple.updated rfl

theorem Stirred.requeue (hactive : (s.endpoints slot).active = true)
    (hother : ∀ other, other ≠ slot → s'.messages other = s.messages other)
    (hrest : s'.endpoints = s.endpoints ∧ s'.records = s.records ∧ s'.processes = s.processes ∧
      s'.recordIntact = s.recordIntact)
    (hframe : e.frame = (s.endpoints slot).frame)
    (hpeers : e.peerCapabilities = (s.endpoints slot).peerCapabilities)
    (hroom : e.count ≤ ipcQueueDepth) : Stirred slot s (s'.setEndpoint slot e) := by
  obtain ⟨hendpoints, hrecords, hprocesses, hintact⟩ := hrest
  exact
    { records := hrecords
      processes := hprocesses
      recordIntact := hintact
      endpoint := fun other hslot => by rw [endpoints_setEndpoint, if_neg hslot, hendpoints]
      messages := hother
      frame := by
        rw [endpoints_setEndpoint, if_pos rfl]
        exact hframe
      peers := by
        rw [endpoints_setEndpoint, if_pos rfl]
        exact hpeers
      room := by
        rw [endpoints_setEndpoint, if_pos rfl]
        exact hroom
      active := hactive }

end Queues

section Sending

structure Posted (slot : IpcSlot) (message : IpcMessage) (sender : IpcIdentity)
    (s s' : IpcState) : Prop where
  valid : messageValid message = true
  stirred : Stirred slot s s'
  queue : s'.queue slot = s.queue slot ++ [⟨message.copied ipcMaxMessageSize, sender⟩]
  bulk : s'.bulk slot = s.bulk slot

theorem enqueueMessage_triple (sender : IpcIdentity) (hvalid : messageValid message = true)
    (h : IpcTables s0) (hactive : (s0.endpoints slot).active = true) :
    Triple (· = s0) (enqueueMessage slot message sender)
      (fun _ => Posted slot message sender s0) (Upset slot s0) := by
  apply Triple.read
  refine Triple.check (fun _ => .same h hactive _) fun hfull => ?_
  have hroom : (s0.endpoints slot).count < ipcQueueDepth := Nat.not_le.mp hfull
  refine Triple.bind (sealMessage_triple (.same h hactive _)) fun _ => ?_
  apply Triple.update
  apply Triple.read
  have hstirred : ∀ e : IpcEndpoint, e.frame = (s0.endpoints slot).frame →
      e.peerCapabilities = (s0.endpoints slot).peerCapabilities → e.count ≤ ipcQueueDepth →
      Stirred slot s0 ((s0.setMessage slot ((s0.endpoints slot).cellAt (s0.endpoints slot).count)
        ⟨message.copied ipcMaxMessageSize, sender⟩).setEndpoint slot e) := fun e =>
    Stirred.requeue hactive (fun other hother => setMessage_other hother) ⟨rfl, rfl, rfl, rfl⟩
  refine Triple.ite (fun _ => ?_) fun _ => ?_
  · refine Triple.done ⟨hvalid, hstirred _ rfl rfl hroom, ?_, ?_⟩
    · unfold queue
      rw [endpoints_setEndpoint, if_pos rfl]
      show (List.range ((s0.endpoints slot).count + 1)).map _ = _
      rw [List.range_succ, List.map_append, List.map_singleton]
      congr 1
      · apply List.map_congr_left
        intro offset hoffset
        have hlt : offset < (s0.endpoints slot).count := List.mem_range.mp hoffset
        refine messages_setMessage.trans (if_neg fun heq => ?_)
        have hcell := cellAt_inj (hlt.trans hroom) hroom heq
        omega
      · congr 1
        exact messages_setMessage.trans (if_pos rfl)
    · unfold bulk
      rw [endpoints_setEndpoint, if_pos rfl]
  · apply Triple.update
    refine Triple.failed ⟨?_, fun he => absurd rfl he⟩
    rw [setEndpoint_setEndpoint]
    exact hstirred (s0.endpoints slot) rfl rfl (h.room slot)

structure BulkPosted (slot : IpcSlot) (message : IpcBulkMessage) (sender : IpcIdentity)
    (s s' : IpcState) : Prop where
  valid : bulkMessageValid message = true
  stirred : Stirred slot s s'
  queue : s'.queue slot = s.queue slot
  empty : s.bulk slot = []
  bulk : s'.bulk slot = [(message.copied ipcBulkMaxMessageSize, sender)]

theorem enqueueBulk_triple {message : IpcBulkMessage} (sender : IpcIdentity)
    (hvalid : bulkMessageValid message = true) (h : IpcTables s0)
    (hactive : (s0.endpoints slot).active = true) :
    Triple (· = s0) (enqueueBulk slot message sender)
      (fun _ => BulkPosted slot message sender s0) (Upset slot s0) := by
  have hstirred : ∀ e : IpcEndpoint, e.frame = (s0.endpoints slot).frame →
      e.peerCapabilities = (s0.endpoints slot).peerCapabilities → e.count ≤ ipcQueueDepth →
      Stirred slot s0 (s0.setEndpoint slot e) := fun e =>
    Stirred.requeue hactive (fun _ _ => rfl) ⟨rfl, rfl, rfl, rfl⟩
  apply Triple.read
  refine Triple.check (fun _ => .same h hactive _) fun _ => ?_
  refine Triple.check (fun _ => .same h hactive _) fun hempty => ?_
  apply Triple.update
  apply Triple.read
  refine Triple.ite (fun _ => ?_) fun _ => ?_
  · refine Triple.done ⟨hvalid, hstirred _ rfl rfl (h.room slot), ?_, ?_, ?_⟩
    · unfold queue
      rw [endpoints_setEndpoint, if_pos rfl]
      rfl
    · unfold bulk
      rw [if_neg hempty]
    · unfold bulk
      rw [endpoints_setEndpoint, if_pos rfl]
      rfl
  · apply Triple.update
    refine Triple.failed ⟨?_, fun he => absurd rfl he⟩
    rw [setEndpoint_setEndpoint]
    exact hstirred _ rfl rfl (h.room slot)

def Turned {α : Type} (s₀ : IpcState) (Q : α → IpcState → Prop) (turn : IpcTurn α) (s : IpcState) :
    Prop :=
  (turn = .waits ∧ s = s₀) ∨ ∃ a, turn = .done a ∧ Q a s

theorem waitTurn_triple {α : Type} {Q : α → IpcState → Prop} {right : UInt32} (h : IpcTables s0) :
    Triple (· = s0) (waitTurn slot p right patience) (Turned s0 Q) (fun _ => Faded s0) := by
  unfold waitTurn
  split
  next => exact Triple.failed (Faded.refl h)
  next => exact Triple.failed (Faded.refl h)
  next =>
    apply Triple.read
    split
    next => exact integrityLost_known (Faded.refl h)
    next => exact Triple.done (.inl ⟨rfl, rfl⟩)

theorem ipcSendTimeout_triple (h : IpcTables s0) :
    Triple (· = s0) (ipcSendTimeout p handle message patience)
      (Turned s0 fun slot s => s0.Resolved p handle ipcRightSend slot ∧
        Posted slot message (s0.processes p).identity s0 s) (fun _ => Faded s0) := by
  refine check_known h fun _ => ?_
  refine check_known h fun hvalid => ?_
  replace hvalid : messageValid message = true := by simpa using hvalid
  refine Triple.learn (resolveCapability_triple h) fun slot hresolved => ?_
  apply Triple.read
  refine check_known h fun _ => ?_
  refine Triple.ite (fun _ => ?_) fun _ => waitTurn_triple h
  have hsent := orQuarantine_triple h (enqueueMessage_triple (s0.processes p).identity hvalid h
    hresolved.active)
  exact hsent.bind fun _ => Triple.pure fun s hs => .inr ⟨slot, rfl, hresolved, hs⟩

theorem ipcSendBulkTimeout_triple {message : IpcBulkMessage} (h : IpcTables s0) :
    Triple (· = s0) (ipcSendBulkTimeout p handle message patience)
      (Turned s0 fun slot s => s0.Resolved p handle ipcRightSend slot ∧
        BulkPosted slot message (s0.processes p).identity s0 s) (fun _ => Faded s0) := by
  refine check_known h fun _ => ?_
  refine check_known h fun hvalid => ?_
  replace hvalid : bulkMessageValid message = true := by simpa using hvalid
  refine Triple.learn (resolveCapability_triple h) fun slot hresolved => ?_
  apply Triple.read
  refine Triple.bind (Q := fun _ s => s = s0) ?_ fun _ => ?_
  · refine Triple.ite (fun _ => Triple.done rfl) fun _ => integrityLost_known (Faded.refl h)
  · refine check_known h fun _ => ?_
    refine Triple.ite (fun _ => ?_) fun _ => waitTurn_triple h
    have hsent := orQuarantine_triple h (enqueueBulk_triple (s0.processes p).identity hvalid h
      hresolved.active)
    exact hsent.bind fun _ => Triple.pure fun s hs => .inr ⟨slot, rfl, hresolved, hs⟩

variable {owner : IpcIdentity}

theorem ownedEndpoint_triple (h : IpcTables s0) :
    Triple (· = s0) (ownedEndpoint owner handle message)
      (fun slot s => s = s0 ∧ messageValid message = true ∧ (s0.endpoints slot).active = true ∧
        (s0.endpoints slot).owner = owner) (fun _ => Faded s0) := by
  refine check_known h fun hvalid => ?_
  replace hvalid : messageValid message = true := by simpa using (not_or.mp hvalid).2
  split
  next => exact Triple.failed (Faded.refl h)
  next slot generation _ =>
    refine Triple.learn (endpointLoaded_triple h) fun e ⟨he, _⟩ => ?_
    subst he
    refine check_known h fun hlive => Triple.done ⟨rfl, ?_⟩
    obtain ⟨hactive, howner⟩ := not_or.mp hlive
    exact ⟨hvalid, by simpa using hactive, not_not.mp (not_or.mp howner).2⟩

def IpcState.peerIdentity (s : IpcState) (slot : IpcSlot) : IpcIdentity :=
  match peerRecord s slot recordSlots none with
  | .ok (some i) => (s.records i).holderIdentity
  | _ => .none

def IpcState.SendsFor (s : IpcState) (slot : IpcSlot) (sender : IpcIdentity) : Prop :=
  ∃ i p, s.PeerOf slot i ∧ (s.records i).holder = some p ∧ (s.records i).holderIdentity = sender ∧
    (s.processes p).isRunning = true ∧ (s.processes p).identity = sender

theorem peerRecord_some {is : List IpcRecordSlot} {peer : Option IpcRecordSlot}
    (h : peerRecord s slot is peer = .ok (some i)) : peer = some i ∨ (s.recordIntact i = true ∧
      (s.records i).active = true ∧ (s.records i).endpointSlot = slot ∧
      (s.records i).rights &&& ipcRightControl = 0) := by
  induction is generalizing peer with
  | nil =>
    left
    exact Except.ok.inj h
  | cons a is ih =>
    unfold peerRecord at h
    dsimp only at h
    split at h
    next => cases h
    next hintact =>
      split at h
      next hpeer =>
        split at h
        next => cases h
        next =>
          rcases ih h with ha | hi
          · obtain rfl := Option.some.inj ha
            exact .inr ⟨by simpa using hintact, hpeer⟩
          · exact .inr hi
      next => exact ih h

theorem ipcSendExternalFromPeer_triple (h : IpcTables s0) :
    Triple (· = s0) (ipcSendExternalFromPeer owner handle message)
      (fun slot s => s0.SendsFor slot (s0.peerIdentity slot) ∧
        Posted slot message (s0.peerIdentity slot) s0 s)
      (fun _ => Faded s0) := by
  refine Triple.learn (ownedEndpoint_triple h) fun slot ⟨hvalid, hactive, _⟩ => ?_
  apply Triple.read
  split
  next => exact integrityLost_known (Faded.refl h)
  next => exact Triple.failed (Faded.refl h)
  next i hfound =>
    have hidentity : s0.peerIdentity slot = (s0.records i).holderIdentity := by
      unfold peerIdentity
      rw [hfound]
    split
    next => exact Triple.failed (Faded.refl h)
    next p hholder =>
      have hpeer : s0.PeerOf slot i := by
        rcases peerRecord_some hfound with hnone | ⟨hintact, hi, hslot, hright⟩
        · cases hnone
        · exact ⟨hi, hslot, not_not.mpr hright, h.sound.current i hi hintact⟩
      refine check_known h fun hgone => ?_
      obtain ⟨hrunning, hholds⟩ := not_or.mp hgone
      rw [← hidentity] at hholds ⊢
      have hsender : s0.SendsFor slot (s0.peerIdentity slot) :=
        ⟨i, p, hpeer, hholder, hidentity.symm, by simpa using hrunning, not_not.mp hholds⟩
      have hsent := orQuarantine_triple h (enqueueMessage_triple (s0.peerIdentity slot) hvalid h
        hactive)
      exact hsent.bind fun _ => Triple.pure fun s hs => ⟨hsender, hs⟩

theorem ipcSendKernelToOwner_triple (h : IpcTables s0) :
    Triple (· = s0) (ipcSendKernelToOwner owner handle message)
      (fun slot s => Posted slot message .none s0 s) (fun _ => Faded s0) := by
  refine Triple.learn (ownedEndpoint_triple h) fun _ ⟨hvalid, hactive, _⟩ => ?_
  have hsent := orQuarantine_triple h (enqueueMessage_triple .none hvalid h hactive)
  exact hsent.bind fun _ => Triple.pure fun _ hs => hs

end Sending

theorem receivableOffset_triple (h : IpcTables s0) (hactive : (s0.endpoints slot).active = true)
    (offsets : List Nat) :
    Triple (· = s0) (receivableOffset slot (s0.endpoints slot) receiver offsets)
      (fun found s => s = s0 ∧ found = offsets.find? fun offset =>
        (s0.messages slot ((s0.endpoints slot).cellAt offset)).sender ≠ receiver)
      (Upset slot s0) := by
  induction offsets with
  | nil => exact Triple.done ⟨rfl, rfl⟩
  | cons offset rest ih =>
    refine Triple.learn (loadMessage_triple (.same h hactive _)) fun value hvalue => ?_
    obtain ⟨rfl, -⟩ := hvalue
    refine Triple.ite (fun hother => ?_) fun hown => ?_
    · exact Triple.done ⟨rfl, by rw [List.find?_cons_of_pos (by simpa using hother)]⟩
    · rw [List.find?_cons_of_neg (by simpa using hown)]
      exact ih

def IpcState.setMessages (s : IpcState) (slot : IpcSlot) (f : IpcCell → IpcQueued) : IpcState :=
  { s with messages := Function.update s.messages slot f }

theorem setMessages_self {f : IpcCell → IpcQueued} : (s.setMessages slot f).messages slot = f :=
  Function.update_self ..

theorem setMessages_messages : s.setMessages slot (s.messages slot) = s := by
  unfold setMessages
  rw [Function.update_eq_self]

theorem setMessage_setMessages {f : IpcCell → IpcQueued} :
    (s.setMessages slot f).setMessage slot index value =
      s.setMessages slot (Function.update f index value) := by
  unfold setMessages setMessage
  simp only [Function.update_self, Function.update_idem]

def ShiftedFrom (e : IpcEndpoint) (offset rest : Nat) (f f' : IpcCell → IpcQueued) : Prop :=
  ∀ o, o < ipcQueueDepth → f' (e.cellAt o) =
    if offset ≤ o ∧ o < offset + rest then f (e.cellAt (o + 1)) else f (e.cellAt o)

theorem shiftMessages_triple {E : IpcError → IpcState → Prop}
    (hE : ∀ f, E .eintegrity (s0.setMessages slot f)) (offset rest : Nat)
    (hroom : offset + rest < ipcQueueDepth) (f : IpcCell → IpcQueued) :
    Triple (fun s => s = s0.setMessages slot f) (shiftMessages slot e offset rest)
      (fun _ s => ∃ f', s = s0.setMessages slot f' ∧ ShiftedFrom e offset rest f f') E := by
  induction rest generalizing offset f with
  | zero =>
    refine Triple.done ⟨f, rfl, fun o _ => ?_⟩
    rw [if_neg (by omega)]
  | succ rest ih =>
    refine Triple.learn (loadMessage_triple (hE f)) fun value hvalue => ?_
    rw [setMessages_self] at hvalue
    replace hvalue := hvalue.1
    refine Triple.bind (sealMessage_triple (hE f)) fun _ => ?_
    rw [setMessage_setMessages]
    refine (ih (offset + 1) (by omega) _).post fun _ s hs => ?_
    obtain ⟨f', hs', hshifted⟩ := hs
    refine ⟨f', hs', fun o ho => ?_⟩
    rw [hshifted o ho]
    have hcell : ∀ o', o' < ipcQueueDepth → o' ≠ offset →
        Function.update f (e.cellAt offset) value (e.cellAt o') = f (e.cellAt o') := by
      intro o' ho' hne
      apply Function.update_of_ne
      exact fun heq => hne (cellAt_inj ho' (by omega) heq)
    by_cases hin : offset + 1 ≤ o ∧ o < offset + 1 + rest
    · rw [if_pos hin, if_pos (by omega), hcell (o + 1) (by omega) (by omega)]
    · rw [if_neg hin]
      by_cases hat : o = offset
      · subst hat
        rw [if_pos (by omega), Function.update_self]
        exact hvalue
      · rw [if_neg (by omega), hcell o ho hat]

/-- The receiver has the first message that is not its own, and the queue has one less. -/
structure Fetched (slot : IpcSlot) (receiver : IpcIdentity) (offset : Nat) (message : IpcMessage)
    (s s' : IpcState) : Prop where
  valid : messageValid message = true
  stirred : Stirred slot s s'
  taken : ∃ sender, (s.queue slot)[offset]? = some ⟨message, sender⟩ ∧ sender ≠ receiver
  passed : ∀ o, o < offset → ∀ value, (s.queue slot)[o]? = some value → value.sender = receiver
  queue : s'.queue slot = (s.queue slot).eraseIdx offset
  bulk : s'.bulk slot = s.bulk slot

theorem removeMessage_triple (h : IpcTables s0) (hactive : (s0.endpoints slot).active = true)
    {offset : Nat} (hoffset : offset < (s0.endpoints slot).count) :
    Triple (· = s0) (removeMessage slot offset)
      (fun message s => messageValid message = true ∧ Stirred slot s0 s ∧
        message = (s0.messages slot ((s0.endpoints slot).cellAt offset)).message ∧
        s.queue slot = (s0.queue slot).eraseIdx offset ∧ s.bulk slot = s0.bulk slot)
      (Upset slot s0) := by
  have hroom := h.room slot
  have hother : ∀ f other, other ≠ slot → (s0.setMessages slot f).messages other = s0.messages other :=
    fun f other hslot => Function.update_of_ne hslot ..
  have hstirred : ∀ f (e : IpcEndpoint), e.frame = (s0.endpoints slot).frame →
      e.peerCapabilities = (s0.endpoints slot).peerCapabilities → e.count ≤ ipcQueueDepth →
      Stirred slot s0 ((s0.setMessages slot f).setEndpoint slot e) := fun f e =>
    Stirred.requeue hactive (hother f) ⟨rfl, rfl, rfl, rfl⟩
  have hupset : ∀ f, Upset slot s0 .eintegrity (s0.setMessages slot f) := by
    intro f
    refine ⟨?_, fun he => absurd rfl he⟩
    have hback := hstirred f (s0.endpoints slot) rfl rfl hroom
    have hself : (s0.setMessages slot f).setEndpoint slot (s0.endpoints slot) =
        s0.setMessages slot f := setEndpoint_self
    rw [hself] at hback
    exact hback
  apply Triple.read
  refine Triple.learn (loadMessage_triple (.same h hactive _)) fun taken htaken => ?_
  obtain ⟨rfl, hvalid⟩ := htaken
  have hrest : offset + ((s0.endpoints slot).count - (offset + 1)) < ipcQueueDepth := by omega
  have hshift := shiftMessages_triple (e := s0.endpoints slot) hupset offset _ hrest
    (s0.messages slot)
  rw [setMessages_messages] at hshift
  refine Triple.bind hshift fun _ => Triple.exists fun f => Triple.fact fun hshifted => ?_
  apply Triple.update
  apply Triple.read
  have hlast := hstirred f
    { s0.endpoints slot with
      count := (s0.endpoints slot).count - 1
      head := if (s0.endpoints slot).count - 1 = 0 then 0 else (s0.endpoints slot).head } rfl rfl
    (Nat.le_trans (Nat.sub_le _ _) hroom)
  refine Triple.ite (fun _ => ?_) fun _ => Triple.failed ⟨hlast, fun he => absurd rfl he⟩
  refine Triple.done ⟨hvalid, hlast, rfl, ?_, ?_⟩
  · apply List.ext_getElem?
    intro o
    rw [List.getElem?_eraseIdx, queue_getElem?, queue_getElem?, queue_getElem?, endpoints_setEndpoint,
      if_pos rfl]
    by_cases hlt : o < (s0.endpoints slot).count - 1
    · rw [if_pos hlt]
      have hcell : IpcEndpoint.cellAt
          { s0.endpoints slot with
            count := (s0.endpoints slot).count - 1
            head := if (s0.endpoints slot).count - 1 = 0 then 0 else (s0.endpoints slot).head } o =
          (s0.endpoints slot).cellAt o := by
        unfold IpcEndpoint.cellAt
        rw [if_neg (by omega)]
      have hmessages : ((s0.setMessages slot f).setEndpoint slot
          { s0.endpoints slot with
            count := (s0.endpoints slot).count - 1
            head := if (s0.endpoints slot).count - 1 = 0 then 0
              else (s0.endpoints slot).head }).messages slot = f := setMessages_self
      rw [hmessages, hcell, hshifted o (by omega)]
      by_cases hbefore : o < offset
      · rw [if_neg (by omega), if_pos hbefore, if_pos (by omega)]
      · rw [if_pos (by omega), if_neg hbefore, if_pos (by omega)]
    · rw [if_neg hlt]
      by_cases hbefore : o < offset
      · omega
      · rw [if_neg hbefore, if_neg (by omega)]
  · unfold bulk
    rw [endpoints_setEndpoint, if_pos rfl]

theorem takeMessage_triple (h : IpcTables s0) (hactive : (s0.endpoints slot).active = true) :
    Triple (· = s0) (takeMessage slot receiver)
      (fun taken s => (taken = none ∧ s = s0) ∨ ∃ offset message, taken = some (offset, message) ∧
        Fetched slot receiver offset message s0 s) (Upset slot s0) := by
  apply Triple.read
  refine Triple.learn (receivableOffset_triple h hactive _) fun found hfound => ?_
  cases found with
  | none => exact Triple.done (.inl ⟨rfl, rfl⟩)
  | some offset =>
    obtain ⟨hother, hmem, hpassed⟩ := List.find?_range_eq_some.mp hfound.symm
    have hoffset : offset < (s0.endpoints slot).count := List.mem_range.mp hmem
    refine Triple.bind (removeMessage_triple h hactive hoffset) fun message => ?_
    refine Triple.pure fun s hs => .inr ⟨offset, message, rfl, ?_⟩
    obtain ⟨hvalid, hstirred, hmessage, hqueue, hbulk⟩ := hs
    refine
      { valid := hvalid
        stirred := hstirred
        taken := ?_
        passed := ?_
        queue := hqueue
        bulk := hbulk }
    · refine ⟨(s0.messages slot ((s0.endpoints slot).cellAt offset)).sender, ?_, by simpa using hother⟩
      rw [queue_getElem?, if_pos hoffset, hmessage]
    · intro o ho value hvalue
      rw [queue_getElem?, if_pos (ho.trans hoffset)] at hvalue
      obtain rfl := Option.some.inj hvalue
      simpa using hpassed o ho

theorem ipcReceiveTimeout_triple {buffer : IpcMessage} (h : IpcTables s0) :
    Triple (· = s0) (ipcReceiveTimeout p handle buffer patience)
      (Turned s0 fun got s => s0.Resolved p handle ipcRightReceive got.1 ∧
        Fetched got.1 (s0.processes p).identity got.2.1 got.2.2 s0 s) (fun _ => Faded s0) := by
  refine check_known h fun _ => ?_
  refine Triple.learn (resolveCapability_triple h) fun slot hresolved => ?_
  apply Triple.read
  refine Triple.bind (orQuarantine_triple h (takeMessage_triple h hresolved.active)) fun taken => ?_
  refine Triple.start fun s1 hs1 => ?_
  rcases hs1 with ⟨rfl, rfl⟩ | ⟨offset, message, rfl, hfetched⟩
  · refine check_known h fun _ => waitTurn_triple h
  · exact Triple.done (.inr ⟨(slot, offset, message), rfl, hresolved, hfetched⟩)

structure BulkFetched (slot : IpcSlot) (receiver : IpcIdentity) (message : IpcBulkMessage)
    (s s' : IpcState) : Prop where
  stirred : Stirred slot s s'
  taken : ∃ sender, s.bulk slot = [(message, sender)] ∧ sender ≠ receiver
  queue : s'.queue slot = s.queue slot
  bulk : s'.bulk slot = []

theorem removeBulk_triple (h : IpcTables s0) (hactive : (s0.endpoints slot).active = true)
    (hother : (s0.endpoints slot).bulkSender ≠ receiver) :
    Triple (· = s0) (removeBulk slot)
      (fun message => BulkFetched slot receiver message s0) (Upset slot s0) := by
  have hstirred : Stirred slot s0 (s0.setEndpoint slot
      { s0.endpoints slot with
        bulkActive := false
        bulkMessage := noBulk
        bulkSender := .none }) :=
    Stirred.requeue hactive (fun _ _ => rfl) ⟨rfl, rfl, rfl, rfl⟩ rfl rfl (h.room slot)
  apply Triple.read
  refine Triple.check (fun _ => .same h hactive _) fun hbulk => ?_
  obtain ⟨-, hfull⟩ := not_or.mp hbulk
  apply Triple.update
  apply Triple.read
  refine Triple.ite (fun _ => ?_) fun _ => Triple.failed ⟨hstirred, fun he => absurd rfl he⟩
  refine Triple.done ⟨hstirred, ⟨(s0.endpoints slot).bulkSender, ?_, hother⟩, ?_, ?_⟩
  · unfold bulk
    rw [if_pos (by simpa using hfull)]
  · unfold queue
    rw [endpoints_setEndpoint, if_pos rfl]
    rfl
  · unfold bulk
    rw [endpoints_setEndpoint, if_pos rfl]
    rfl

/-- What `ipc_receive_bulk_timeout` hands out: a queued message, or else the bulk message. -/
def BulkReceived (receiver : IpcIdentity) (slot : IpcSlot) (got : Option Nat × IpcBulkMessage)
    (s s' : IpcState) : Prop :=
  (∃ offset small, got = (some offset, small.copied ipcBulkMaxMessageSize) ∧
    Fetched slot receiver offset small s s') ∨
  (got.1 = none ∧ BulkFetched slot receiver got.2 s s')

theorem ipcReceiveBulkTimeout_triple {buffer : IpcBulkMessage} (h : IpcTables s0) :
    Triple (· = s0) (ipcReceiveBulkTimeout p handle buffer patience)
      (Turned s0 fun got s => s0.Resolved p handle ipcRightReceive got.1 ∧
        BulkReceived (s0.processes p).identity got.1 got.2 s0 s) (fun _ => Faded s0) := by
  refine check_known h fun _ => ?_
  refine Triple.learn (resolveCapability_triple h) fun slot hresolved => ?_
  apply Triple.read
  refine Triple.bind (orQuarantine_triple h (takeMessage_triple h hresolved.active)) fun taken => ?_
  refine Triple.start fun s1 hs1 => ?_
  rcases hs1 with ⟨rfl, rfl⟩ | ⟨offset, message, rfl, hfetched⟩
  · refine Triple.bind (Q := fun _ s => s = s1) ?_ fun _ => ?_
    · exact Triple.ite (fun _ => Triple.done rfl) fun _ => integrityLost_known (Faded.refl h)
    · refine Triple.ite (fun hbulk => ?_) fun _ => ?_
      · refine Triple.bind (orQuarantine_triple h (removeBulk_triple h hresolved.active hbulk.2))
          fun message => Triple.pure fun s hs => ?_
        exact .inr ⟨(slot, none, message), rfl, hresolved, .inr ⟨rfl, hs⟩⟩
      · refine check_known h fun _ => waitTurn_triple h
  · refine Triple.done (.inr ⟨(slot, some offset, message.copied ipcBulkMaxMessageSize), rfl,
      hresolved, .inl ⟨offset, message, rfl, hfetched⟩⟩)

end ReistOs
