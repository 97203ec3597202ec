import ReistOs.IpcRevocation

/-! What a call of `kernel/ipc/ipc.c` may leave of the tables, and how it puts a capability into
them. -/

namespace ReistOs

open Attempt

variable {s s' s0 s1 : IpcState} {slot other : IpcSlot} {i j : IpcRecordSlot} {p q : IpcProcessSlot}
  {k : Fin ipcMaxCapabilitiesPerProcess} {e : IpcEndpoint} {r : IpcCapabilityRecord}
  {handle rights generation : UInt32}

structure IpcTables (s : IpcState) : Prop where
  sound : IpcSound NoneDying s
  counted : PeersCounted s
  live : ∀ p, (s.processes p).isRunning = true → (s.processes p).identity.live = true
  idle : ∀ slot, (s.endpoints slot).active = false →
    (s.endpoints slot).count = 0 ∧ (s.endpoints slot).bulkActive = false
  room : ∀ slot, (s.endpoints slot).count ≤ ipcQueueDepth

/-- Endpoints and capabilities may be gone, but what is left is as it was. -/
structure Faded (s s' : IpcState) : Prop where
  tables : IpcTables s'
  generation : ∀ slot, (s.endpoints slot).generation ≤ (s'.endpoints slot).generation
  endpoint : ∀ slot, (s'.endpoints slot).active = true →
    (∃ n, s'.endpoints slot = { s.endpoints slot with peerCapabilities := n }) ∧
      s'.messages slot = s.messages slot
  record : ∀ i, (s'.records i).active = true → s'.records i = s.records i
  identity : ∀ p, (s'.processes p).identity = (s.processes p).identity
  isRunning : ∀ p, (s'.processes p).isRunning = true → (s.processes p).isRunning = true
  recordIntact : ∀ i, s'.recordIntact i = true → s.recordIntact i = true

theorem Faded.refl (h : IpcTables s) : Faded s s :=
  { tables := h
    generation := fun _ => UInt32.le_refl _
    endpoint := fun slot _ => ⟨⟨(s.endpoints slot).peerCapabilities, rfl⟩, rfl⟩
    record := fun _ _ => rfl
    identity := fun _ => rfl
    isRunning := fun _ h => h
    recordIntact := fun _ h => h }

theorem Faded.frame (h : Faded s s') (hactive : (s'.endpoints slot).active = true) :
    (s'.endpoints slot).frame = (s.endpoints slot).frame := by
  obtain ⟨⟨n, hn⟩, -⟩ := h.endpoint slot hactive
  rw [hn]
  rfl

theorem Faded.active (h : Faded s s') (hactive : (s'.endpoints slot).active = true) :
    (s.endpoints slot).active = true :=
  (frame_eq (h.frame hactive)).1 ▸ hactive

theorem Faded.trans (h : Faded s0 s) (h' : Faded s s') : Faded s0 s' where
  tables := h'.tables
  generation slot := UInt32.le_trans (h.generation slot) (h'.generation slot)
  endpoint slot hactive := by
    obtain ⟨⟨n', hn'⟩, hmessages'⟩ := h'.endpoint slot hactive
    obtain ⟨⟨n, hn⟩, hmessages⟩ := h.endpoint slot (h'.active hactive)
    exact ⟨⟨n', by rw [hn', hn]⟩, hmessages'.trans hmessages⟩
  record i hactive := by
    have hsame := h'.record i hactive
    rw [hsame] at hactive ⊢
    exact h.record i hactive
  identity p := (h'.identity p).trans (h.identity p)
  isRunning p hrunning := h.isRunning p (h'.isRunning p hrunning)
  recordIntact i hintact := h.recordIntact i (h'.recordIntact i hintact)

theorem IpcCleared.idle (h : IpcCleared s s') (hidle : ∀ slot, (s.endpoints slot).active = false →
    (s.endpoints slot).count = 0 ∧ (s.endpoints slot).bulkActive = false) (slot : IpcSlot)
    (hactive : (s'.endpoints slot).active = false) :
    (s'.endpoints slot).count = 0 ∧ (s'.endpoints slot).bulkActive = false := by
  obtain ⟨n, hn⟩ := h.endpoint slot
  rw [hn] at hactive ⊢
  exact hidle slot hactive

theorem IpcCleared.faded (h : IpcCleared s s') (htables : IpcTables s)
    (hkept : IpcSound NoneDying s' ∧ PeersCounted s') : Faded s s' where
  tables :=
    { sound := hkept.1
      counted := hkept.2
      live := fun p hrunning => by
        rw [h.isRunning] at hrunning
        rw [h.identity]
        exact htables.live p hrunning
      idle := h.idle htables.idle
      room := fun slot => by
        obtain ⟨n, hn⟩ := h.endpoint slot
        rw [hn]
        exact htables.room slot }
  generation slot := by
    rw [(frame_eq (h.frame slot)).2.1]
    exact UInt32.le_refl _
  endpoint slot _ := ⟨h.endpoint slot, by rw [h.messages]⟩
  record i hactive := h.active_record hactive
  identity := h.identity
  isRunning p hrunning := h.isRunning p ▸ hrunning
  recordIntact i hintact := h.recordIntact ▸ hintact

theorem clearCapabilityRecord_faded (h : IpcTables s) (hactive : (s.records i).active = true)
    (hintact : s.recordIntact i = true) : Faded s (clearCapabilityRecord i s) :=
  clear_cleared.faded h ⟨h.sound.clear hactive hintact, h.counted.clear h.sound hactive hintact⟩

theorem closeEndpoint_idle (h : ∀ slot, (s.endpoints slot).active = false →
    (s.endpoints slot).count = 0 ∧ (s.endpoints slot).bulkActive = false) (other : IpcSlot)
    (hactive : ((closeEndpoint slot s).endpoints other).active = false) :
    ((closeEndpoint slot s).endpoints other).count = 0 ∧
      ((closeEndpoint slot s).endpoints other).bulkActive = false := by
  by_cases hother : other = slot
  · rw [hother, closeEndpoint_self]
    exact ⟨rfl, rfl⟩
  · rw [closeEndpoint_other hother] at hactive ⊢
    exact h other hactive

theorem closeEndpoint_room (h : ∀ slot, (s.endpoints slot).count ≤ ipcQueueDepth)
    (other : IpcSlot) : ((closeEndpoint slot s).endpoints other).count ≤ ipcQueueDepth := by
  by_cases hother : other = slot
  · rw [hother, closeEndpoint_self]
    exact Nat.zero_le _
  · rw [closeEndpoint_other hother]
    exact h other

theorem Revoked.faded (h : Revoked slot s s') (htables : IpcTables s) : Faded s s' where
  tables :=
    { sound := h.sound
      counted := h.counted
      live := fun p hrunning => by
        rw [h.cleared.isRunning] at hrunning
        rw [h.cleared.identity]
        exact htables.live p hrunning
      idle := h.cleared.idle (closeEndpoint_idle htables.idle)
      room := fun other => by
        obtain ⟨n, hn⟩ := h.cleared.endpoint other
        rw [hn]
        exact closeEndpoint_room htables.room other }
  generation other := by
    rw [(frame_eq (h.cleared.frame other)).2.1, closeEndpoint_generation]
    exact UInt32.le_refl _
  endpoint other hactive := by
    obtain ⟨n, hn⟩ := h.cleared.endpoint other
    rw [hn] at hactive
    obtain ⟨-, hsame⟩ := closeEndpoint_active hactive
    rw [hsame] at hn
    exact ⟨⟨n, hn⟩, by rw [h.cleared.messages]; rfl⟩
  record i hactive := h.cleared.active_record hactive
  identity := h.cleared.identity
  isRunning p hrunning := h.cleared.isRunning p ▸ hrunning
  recordIntact i hintact := h.cleared.recordIntact ▸ hintact

theorem Revoked.inactive (h : Revoked slot s s') : (s'.endpoints slot).active = false := by
  rw [(frame_eq (h.cleared.frame slot)).1, closeEndpoint_self]
  rfl

theorem quarantineEndpoint_faded (h : IpcTables s) : Faded s (quarantineEndpoint slot s) :=
  (quarantineEndpoint_revoked slot h.sound h.counted).faded h

theorem IpcSound.setEndpoint (h : IpcSound NoneDying s)
    (hnone : ∀ i, (s.records i).active = true → s.recordIntact i = true →
      (s.records i).endpointSlot ≠ slot)
    (hbound : e.generation ≤ ipcHandleGenerationMax)
    (hgeneration : (s.endpoints slot).generation ≤ e.generation)
    (howned : e.active = true → (s.endpoints slot).generation < e.generation) :
    IpcSound NoneDying (s.setEndpoint slot e) := by
  have hother : ∀ i, (s.records i).active = true → s.recordIntact i = true →
      (s.setEndpoint slot e).endpoints (s.records i).endpointSlot =
        s.endpoints (s.records i).endpointSlot := by
    intro i hi hintact
    rw [endpoints_setEndpoint, if_neg (hnone i hi hintact)]
  refine
    { bounded := ?_
      distinct := h.distinct
      dead := fun _ hf => hf.elim
      valid := h.valid
      issued := ?_
      current := ?_
      opened := ?_
      unique := h.unique
      single := h.single
      owned := ?_
      held := h.held
      recorded := h.recorded
      slots := h.slots }
  · intro other
    rw [endpoints_setEndpoint]
    split
    next => exact hbound
    next => exact h.bounded other
  · intro i hi
    obtain ⟨g, hne, hle, hhandle⟩ := h.issued i hi
    refine ⟨g, hne, ?_, hhandle⟩
    rw [endpoints_setEndpoint]
    split
    next hslot =>
      have hle' : g ≤ (s.endpoints slot).generation := hslot ▸ hle
      exact UInt32.le_trans hle' hgeneration
    next => exact hle
  · intro i hi hintact
    show (s.records i).handle = _
    rw [records_setEndpoint, hother i hi hintact]
    exact h.current i hi hintact
  · intro i hi hintact _
    rw [records_setEndpoint, hother i hi hintact]
    exact h.opened i hi hintact fun hf => hf
  · intro i hi hcurrent hcontrol hactive
    rw [records_setEndpoint] at hi hcontrol hactive ⊢
    by_cases hslot : (s.records i).endpointSlot = slot
    · -- a record that nobody can read has an earlier handle
      rw [endpoints_setEndpoint, if_pos hslot] at hactive
      obtain ⟨g, -, hle, hhandle⟩ := h.issued i hi
      have hcur : (s.records i).handle = ipcMakeHandle (s.records i).endpointSlot e.generation := by
        have hcur' := hcurrent
        unfold IpcState.Current at hcur'
        rw [records_setEndpoint, endpoints_setEndpoint, if_pos hslot] at hcur'
        exact hcur'
      rw [hslot] at hle
      have hbound' : g ≤ ipcHandleGenerationMax := UInt32.le_trans hle (h.bounded slot)
      obtain ⟨-, hg⟩ := ipcMakeHandle_inj hbound' hbound (hhandle.symm.trans hcur)
      have hlt := howned hactive
      rw [hg] at hle
      exact absurd hlt (UInt32.not_lt.mpr hle)
    · have hcur : s.Current (s.records i) := by
        have hcur' := hcurrent
        unfold IpcState.Current at hcur' ⊢
        rw [records_setEndpoint, endpoints_setEndpoint, if_neg hslot] at hcur'
        exact hcur'
      rw [endpoints_setEndpoint, if_neg hslot] at hactive ⊢
      exact h.owned i hi hcur hcontrol hactive

theorem PeersCounted.setEndpoint (h : PeersCounted s)
    (hnone : e.active = true → ¬ (∃ i, (s.setEndpoint slot e).PeerOf slot i) ∧
      e.peerCapabilities = 0) : PeersCounted (s.setEndpoint slot e) := by
  have hpeer : ∀ other, other ≠ slot → ∀ i, (s.setEndpoint slot e).PeerOf other i ↔
      s.PeerOf other i := by
    intro other hother i
    have hcurrent : (s.records i).endpointSlot = other →
        ((s.setEndpoint slot e).Current (s.records i) ↔ s.Current (s.records i)) := by
      intro hslot
      unfold IpcState.Current
      rw [endpoints_setEndpoint, if_neg (hslot ▸ hother)]
    exact ⟨fun hp => ⟨hp.active, hp.slot, hp.peer, (hcurrent hp.slot).mp hp.current⟩,
      fun hp => ⟨hp.active, hp.slot, hp.peer, (hcurrent hp.slot).mpr hp.current⟩⟩
  constructor
  · intro other hactive hsome
    by_cases hother : other = slot
    · subst hother
      rw [endpoints_setEndpoint, if_pos rfl] at hactive
      exact absurd hsome (hnone hactive).1
    · rw [endpoints_setEndpoint, if_neg hother] at hactive ⊢
      simp only [hpeer other hother] at hsome
      exact h.one other hactive hsome
  · intro other hactive hzero
    by_cases hother : other = slot
    · subst hother
      rw [endpoints_setEndpoint, if_pos rfl] at hactive ⊢
      exact (hnone hactive).2
    · rw [endpoints_setEndpoint, if_neg hother] at hactive ⊢
      simp only [hpeer other hother] at hzero
      exact h.zero other hactive hzero

theorem IpcTables.unread (h : IpcTables s) (hactive : (s.endpoints slot).active = false)
    (i : IpcRecordSlot) (hi : (s.records i).active = true) (hintact : s.recordIntact i = true) :
    (s.records i).endpointSlot ≠ slot := by
  rintro rfl
  exact Bool.false_ne_true (hactive.symm.trans (h.sound.opened i hi hintact fun hf => hf))

theorem IpcTables.setIdle (h : IpcTables s) (hnone : ∀ i, (s.records i).active = true →
      s.recordIntact i = true → (s.records i).endpointSlot ≠ slot)
    (hactive : e.active = false) (hbound : e.generation ≤ ipcHandleGenerationMax)
    (hgeneration : (s.endpoints slot).generation ≤ e.generation)
    (hidle : e.count = 0 ∧ e.bulkActive = false) : Faded s (s.setEndpoint slot e) := by
  have hne : e.active = true → False := fun he => Bool.false_ne_true (hactive.symm.trans he)
  have hsound : IpcSound NoneDying (s.setEndpoint slot e) :=
    h.sound.setEndpoint hnone hbound hgeneration fun he => (hne he).elim
  refine
    { tables :=
        { sound := hsound
          counted := h.counted.setEndpoint fun he => (hne he).elim
          live := h.live
          idle := ?_
          room := ?_ }
      generation := ?_
      endpoint := ?_
      record := fun _ _ => rfl
      identity := fun _ => rfl
      isRunning := fun _ hrunning => hrunning
      recordIntact := fun _ hintact => hintact }
  · intro other hother
    rw [endpoints_setEndpoint] at hother ⊢
    split
    next => exact hidle
    next hslot =>
      rw [if_neg hslot] at hother
      exact h.idle other hother
  · intro other
    rw [endpoints_setEndpoint]
    split
    next =>
      rw [hidle.1]
      exact Nat.zero_le _
    next => exact h.room other
  · intro other
    rw [endpoints_setEndpoint]
    split
    next hslot =>
      rw [hslot]
      exact hgeneration
    next => exact UInt32.le_refl _
  · intro other hother
    rw [endpoints_setEndpoint] at hother ⊢
    split at hother
    next => exact (hne hother).elim
    next hslot =>
      rw [if_neg hslot]
      exact ⟨⟨(s.endpoints other).peerCapabilities, rfl⟩, rfl⟩

def IpcState.grantedRecord (s : IpcState) (p : IpcProcessSlot) (handle : UInt32) (slot : IpcSlot)
    (rights : UInt32) : IpcCapabilityRecord :=
  { active := true
    handle := handle
    holder := some p
    holderIdentity := (s.processes p).identity
    rights := rights
    endpointSlot := slot }

def IpcState.grant (s : IpcState) (p : IpcProcessSlot) (k : Fin ipcMaxCapabilitiesPerProcess)
    (i : IpcRecordSlot) (handle : UInt32) (slot : IpcSlot) (rights : UInt32) : IpcState :=
  (s.setCapability p k ⟨handle, rights, true⟩).setRecord i (s.grantedRecord p handle slot rights)

theorem grant_records : (s.grant p k i handle slot rights).records j =
    if j = i then s.grantedRecord p handle slot rights else s.records j := by
  unfold IpcState.grant
  rw [records_setRecord, records_setCapability]

theorem grant_identity : ((s.grant p k i handle slot rights).processes q).identity =
    (s.processes q).identity := identity_setCapability

theorem grant_isRunning : ((s.grant p k i handle slot rights).processes q).isRunning =
    (s.processes q).isRunning := isRunning_setCapability

theorem grant_capability {k' : Fin ipcMaxCapabilitiesPerProcess} :
    ((s.grant p k i handle slot rights).processes q).ipcCapabilities k' =
      if q = p ∧ k' = k then ⟨handle, rights, true⟩ else (s.processes q).ipcCapabilities k' :=
  ipcCapabilities_setCapability

/-- What the tables must look like for a capability to be given. -/
structure Grantable (s : IpcState) (p : IpcProcessSlot) (k : Fin ipcMaxCapabilitiesPerProcess)
    (i : IpcRecordSlot) (handle : UInt32) (slot : IpcSlot) (rights : UInt32) : Prop where
  record : (s.records i).active = false
  free : ((s.processes p).ipcCapabilities k).inUse = false
  valid : capabilityMetadataValid (s.grantedRecord p handle slot rights) = true
  current : handle = ipcMakeHandle slot (s.endpoints slot).generation
  generation : (s.endpoints slot).generation ≠ 0
  active : (s.endpoints slot).active = true
  alone : ∀ j, (s.records j).active = true → (s.records j).handle = handle →
    ¬ ((s.records j).IsControl ↔ rights &&& ipcRightControl ≠ 0)
  single : ∀ j, (s.records j).active = true → (s.records j).handle = handle →
    (s.records j).holderIdentity ≠ (s.processes p).identity
  owner : rights &&& ipcRightControl ≠ 0 → (s.processes p).identity = (s.endpoints slot).owner

theorem Grantable.unheld (h : Grantable s p k i handle slot rights) (hsound : IpcSound NoneDying s)
    (k' : Fin ipcMaxCapabilitiesPerProcess) (huse : ((s.processes p).ipcCapabilities k').inUse = true) :
    ((s.processes p).ipcCapabilities k').handle ≠ handle := by
  intro hhandle
  obtain ⟨j, hj, -, hidentity, hcapability⟩ := hsound.recorded p k' huse
  have hsame : (s.records j).handle = handle := by
    rw [hcapability] at hhandle
    exact hhandle
  exact h.single j hj hsame hidentity.symm

theorem IpcSound.grant (hsound : IpcSound NoneDying s) (h : Grantable s p k i handle slot rights) :
    IpcSound NoneDying (s.grant p k i handle slot rights) := by
  have hnew : ∀ j, j ≠ i → (s.grant p k i handle slot rights).records j = s.records j := by
    intro j hj
    rw [grant_records, if_neg hj]
  have hself : (s.grant p k i handle slot rights).records i = s.grantedRecord p handle slot rights := by
    rw [grant_records, if_pos rfl]
  refine
    { bounded := hsound.bounded
      distinct := ?_
      dead := fun _ hf => hf.elim
      valid := ?_
      issued := ?_
      current := ?_
      opened := ?_
      unique := ?_
      single := ?_
      owned := ?_
      held := ?_
      recorded := ?_
      slots := ?_ }
  · intro p' q'
    rw [grant_identity, grant_identity]
    exact hsound.distinct p' q'
  · intro j hj
    by_cases hji : j = i
    · subst hji
      rw [hself]
      exact h.valid
    · rw [hnew j hji] at hj ⊢
      exact hsound.valid j hj
  · intro j hj
    by_cases hji : j = i
    · subst hji
      rw [hself]
      exact ⟨_, h.generation, UInt32.le_refl _, h.current⟩
    · rw [hnew j hji] at hj ⊢
      exact hsound.issued j hj
  · intro j hj hintact
    by_cases hji : j = i
    · subst hji
      rw [hself]
      exact h.current
    · rw [hnew j hji] at hj ⊢
      exact hsound.current j hj hintact
  · intro j hj hintact _
    by_cases hji : j = i
    · subst hji
      rw [hself]
      exact h.active
    · rw [hnew j hji] at hj ⊢
      exact hsound.opened j hj hintact fun hf => hf
  · intro j j' hj hj' hhandle hkind
    by_cases hji : j = i
    · by_cases hji' : j' = i
      · rw [hji, hji']
      · subst hji
        rw [hself] at hhandle hkind
        rw [hnew j' hji'] at hj' hhandle hkind
        exact absurd hkind.symm (h.alone j' hj' hhandle.symm)
    · by_cases hji' : j' = i
      · subst hji'
        rw [hself] at hhandle hkind
        rw [hnew j hji] at hj hhandle hkind
        exact absurd hkind (h.alone j hj hhandle)
      · rw [hnew j hji] at hj hhandle hkind
        rw [hnew j' hji'] at hj' hhandle hkind
        exact hsound.unique j j' hj hj' hhandle hkind
  · intro j j' hj hj' hhandle hholder
    by_cases hji : j = i
    · by_cases hji' : j' = i
      · rw [hji, hji']
      · subst hji
        rw [hself] at hhandle hholder
        rw [hnew j' hji'] at hj' hhandle hholder
        exact absurd hholder.symm (h.single j' hj' hhandle.symm)
    · by_cases hji' : j' = i
      · subst hji'
        rw [hself] at hhandle hholder
        rw [hnew j hji] at hj hhandle hholder
        exact absurd hholder (h.single j hj hhandle)
      · rw [hnew j hji] at hj hhandle hholder
        rw [hnew j' hji'] at hj' hhandle hholder
        exact hsound.single j j' hj hj' hhandle hholder
  · intro j hj hcurrent hcontrol hactive
    by_cases hji : j = i
    · subst hji
      rw [hself] at hcontrol ⊢
      exact h.owner hcontrol
    · rw [hnew j hji] at hj hcurrent hcontrol hactive ⊢
      exact hsound.owned j hj hcurrent hcontrol hactive
  · intro j hj hintact
    by_cases hji : j = i
    · subst hji
      refine ⟨p, k, ?_, ?_, ?_⟩
      · rw [hself]
        rfl
      · rw [hself, grant_identity]
        rfl
      · rw [hself, grant_capability, if_pos ⟨rfl, rfl⟩]
        rfl
    · rw [hnew j hji] at hj ⊢
      obtain ⟨p', k', hholder, hidentity, hcapability⟩ := hsound.held j hj hintact
      refine ⟨p', k', hholder, grant_identity.trans hidentity, ?_⟩
      rw [grant_capability, if_neg]
      · exact hcapability
      · rintro ⟨rfl, rfl⟩
        have huse := h.free
        rw [hcapability] at huse
        exact Bool.false_ne_true huse.symm
  · intro p' k' huse
    rw [grant_capability] at huse ⊢
    by_cases hslot : p' = p ∧ k' = k
    · obtain ⟨rfl, rfl⟩ := hslot
      refine ⟨i, ?_⟩
      rw [if_pos ⟨rfl, rfl⟩, hself, grant_identity]
      exact ⟨rfl, rfl, rfl, rfl⟩
    · rw [if_neg hslot] at huse ⊢
      obtain ⟨j, hj, hholder, hidentity, hcapability⟩ := hsound.recorded p' k' huse
      have hji : j ≠ i := by
        rintro rfl
        exact Bool.false_ne_true (h.record.symm.trans hj)
      refine ⟨j, ?_⟩
      rw [hnew j hji, grant_identity]
      exact ⟨hj, hholder, hidentity, hcapability⟩
  · intro p' k1 k2 huse1 huse2 hhandle
    rw [grant_capability] at huse1 hhandle
    rw [grant_capability] at huse2 hhandle
    by_cases hslot1 : p' = p ∧ k1 = k
    · by_cases hslot2 : p' = p ∧ k2 = k
      · rw [hslot1.2, hslot2.2]
      · obtain ⟨rfl, rfl⟩ := hslot1
        rw [if_neg hslot2] at huse2 hhandle
        rw [if_pos ⟨rfl, rfl⟩] at hhandle
        exact absurd hhandle.symm (h.unheld hsound k2 huse2)
    · rw [if_neg hslot1] at huse1 hhandle
      by_cases hslot2 : p' = p ∧ k2 = k
      · obtain ⟨rfl, rfl⟩ := hslot2
        rw [if_pos ⟨rfl, rfl⟩] at hhandle
        exact absurd hhandle (h.unheld hsound k1 huse1)
      · rw [if_neg hslot2] at huse2 hhandle
        exact hsound.slots p' k1 k2 huse1 huse2 hhandle

theorem grant_peerOf (hidle : (s.records i).active = false) :
    (s.grant p k i handle slot rights).PeerOf other j ↔
      (j = i ∧ slot = other ∧ rights &&& ipcRightControl = 0 ∧
        handle = ipcMakeHandle slot (s.endpoints slot).generation) ∨ s.PeerOf other j := by
  have hcurrent : ∀ r, (s.grant p k i handle slot rights).Current r ↔ s.Current r := fun r => Iff.rfl
  by_cases hji : j = i
  · subst hji
    have hself : (s.grant p k j handle slot rights).records j =
        s.grantedRecord p handle slot rights := by
      rw [grant_records, if_pos rfl]
    constructor
    · intro hp
      have hslot := hp.slot
      have hpeer := hp.peer
      have hcur := hp.current
      rw [hself] at hslot hpeer hcur
      exact .inl ⟨rfl, hslot, not_not.mp hpeer, hcur⟩
    · rintro (⟨-, hslot, hpeer, hcur⟩ | hp)
      · refine ⟨?_, ?_, ?_, ?_⟩
        · rw [hself]
          rfl
        · rw [hself]
          exact hslot
        · rw [hself]
          exact not_not.mpr hpeer
        · rw [hself]
          exact hcur
      · exact absurd (hidle.symm.trans hp.active) Bool.false_ne_true
  · have hsame : (s.grant p k i handle slot rights).records j = s.records j := by
      rw [grant_records, if_neg hji]
    constructor
    · intro hp
      have hcur := hp.current
      rw [hsame] at hcur
      exact .inr ⟨hsame ▸ hp.active, hsame ▸ hp.slot, hsame ▸ hp.peer, hcur⟩
    · rintro (⟨hj, -⟩ | hp)
      · exact absurd hj hji
      · refine ⟨hsame ▸ hp.active, hsame ▸ hp.slot, hsame ▸ hp.peer, ?_⟩
        rw [hsame]
        exact (hcurrent _).mpr hp.current

theorem PeersCounted.grantControl (hcount : PeersCounted s)
    (h : Grantable s p k i handle slot rights) (hcontrol : rights &&& ipcRightControl ≠ 0) :
    PeersCounted (s.grant p k i handle slot rights) := by
  have hpeer : ∀ other j, (s.grant p k i handle slot rights).PeerOf other j ↔ s.PeerOf other j := by
    intro other j
    rw [grant_peerOf h.record]
    exact ⟨fun hp => hp.resolve_left fun hc => hcontrol hc.2.2.1, .inr⟩
  constructor
  · intro other hactive hsome
    simp only [hpeer] at hsome
    exact hcount.one other hactive hsome
  · intro other hactive hnone
    simp only [hpeer] at hnone
    exact hcount.zero other hactive hnone

theorem peerOf_setEndpoint (he : e.generation = (s.endpoints slot).generation) :
    (s.setEndpoint slot e).PeerOf other j ↔ s.PeerOf other j := by
  have hcurrent : ∀ r, (s.setEndpoint slot e).Current r ↔ s.Current r := by
    intro r
    unfold IpcState.Current
    rw [endpoints_setEndpoint]
    split
    next hslot => rw [he, hslot]
    next => rfl
  exact ⟨fun hp => ⟨hp.active, hp.slot, hp.peer, (hcurrent _).mp hp.current⟩,
    fun hp => ⟨hp.active, hp.slot, hp.peer, (hcurrent _).mpr hp.current⟩⟩

theorem PeersCounted.grantPeer (hcount : PeersCounted s)
    (h : Grantable s p k i handle slot rights) (hpeer : rights &&& ipcRightControl = 0)
    (he : e.generation = (s.endpoints slot).generation) (hone : e.peerCapabilities = 1) :
    PeersCounted ((s.grant p k i handle slot rights).setEndpoint slot e) := by
  have hsame : e.generation = ((s.grant p k i handle slot rights).endpoints slot).generation := he
  have hpeers : ∀ other j, ((s.grant p k i handle slot rights).setEndpoint slot e).PeerOf other j ↔
      (j = i ∧ slot = other) ∨ s.PeerOf other j := by
    intro other j
    rw [peerOf_setEndpoint hsame, grant_peerOf h.record]
    constructor
    · rintro (⟨hj, hslot, -⟩ | hp)
      · exact .inl ⟨hj, hslot⟩
      · exact .inr hp
    · rintro (⟨hj, hslot⟩ | hp)
      · exact .inl ⟨hj, hslot, hpeer, h.current⟩
      · exact .inr hp
  constructor
  · intro other hactive hsome
    rw [endpoints_setEndpoint] at hactive ⊢
    by_cases hother : other = slot
    · rw [if_pos hother]
      exact hone
    · rw [if_neg hother] at hactive ⊢
      simp only [hpeers] at hsome
      obtain ⟨j, ⟨-, hslot⟩ | hp⟩ := hsome
      · exact absurd hslot.symm hother
      · exact hcount.one other hactive ⟨j, hp⟩
  · intro other hactive hnone
    simp only [hpeers] at hnone
    by_cases hother : other = slot
    · exact absurd ⟨i, .inl ⟨rfl, hother.symm⟩⟩ hnone
    · rw [endpoints_setEndpoint, if_neg hother] at hactive ⊢
      apply hcount.zero other hactive
      rintro ⟨j, hp⟩
      exact hnone ⟨j, .inr hp⟩

end ReistOs
