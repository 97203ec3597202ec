import ReistOs.IpcTables

/-! What holds of the tables of `kernel/ipc/ipc.c` between its calls. -/

namespace ReistOs

open Attempt

variable {s s' : IpcState} {slot : IpcSlot} {i j : IpcRecordSlot} {p q : IpcProcessSlot}
  {k : Fin ipcMaxCapabilitiesPerProcess} {r : IpcCapabilityRecord} {handle generation : UInt32}
  {dying : IpcSlot → Prop}

/-- The handle of the record is that of the endpoint as it is now. -/
def IpcState.Current (s : IpcState) (r : IpcCapabilityRecord) : Prop :=
  r.handle = ipcMakeHandle r.endpointSlot (s.endpoints r.endpointSlot).generation

def IpcCapabilityRecord.IsControl (r : IpcCapabilityRecord) : Prop :=
  r.rights &&& ipcRightControl ≠ 0

def IpcCapabilityRecord.capability (r : IpcCapabilityRecord) : IpcCapability :=
  ⟨r.handle, r.rights, true⟩

structure IpcState.PeerOf (s : IpcState) (slot : IpcSlot) (i : IpcRecordSlot) : Prop where
  active : (s.records i).active = true
  slot : (s.records i).endpointSlot = slot
  peer : ¬ (s.records i).IsControl
  current : s.Current (s.records i)

/-- The tables are in step, but for the endpoints that are being revoked. -/
structure IpcSound (dying : IpcSlot → Prop) (s : IpcState) : Prop where
  bounded : ∀ slot, (s.endpoints slot).generation ≤ ipcHandleGenerationMax
  distinct : ∀ p q, (s.processes p).identity.live = true →
    (s.processes p).identity = (s.processes q).identity → p = q
  dead : ∀ slot, dying slot → (s.endpoints slot).active = false
  valid : ∀ i, (s.records i).active = true → capabilityMetadataValid (s.records i) = true
  issued : ∀ i, (s.records i).active = true → ∃ g, g ≠ 0 ∧
    g ≤ (s.endpoints (s.records i).endpointSlot).generation ∧
    (s.records i).handle = ipcMakeHandle (s.records i).endpointSlot g
  current : ∀ i, (s.records i).active = true → s.recordIntact i = true → s.Current (s.records i)
  opened : ∀ i, (s.records i).active = true → s.recordIntact i = true →
    ¬ dying (s.records i).endpointSlot → (s.endpoints (s.records i).endpointSlot).active = true
  unique : ∀ i j, (s.records i).active = true → (s.records j).active = true →
    (s.records i).handle = (s.records j).handle →
    ((s.records i).IsControl ↔ (s.records j).IsControl) → i = j
  single : ∀ i j, (s.records i).active = true → (s.records j).active = true →
    (s.records i).handle = (s.records j).handle →
    (s.records i).holderIdentity = (s.records j).holderIdentity → i = j
  owned : ∀ i, (s.records i).active = true → s.Current (s.records i) → (s.records i).IsControl →
    (s.endpoints (s.records i).endpointSlot).active = true →
    (s.records i).holderIdentity = (s.endpoints (s.records i).endpointSlot).owner
  held : ∀ i, (s.records i).active = true → s.recordIntact i = true → ∃ p k,
    (s.records i).holder = some p ∧ (s.processes p).identity = (s.records i).holderIdentity ∧
    (s.processes p).ipcCapabilities k = (s.records i).capability
  recorded : ∀ p k, ((s.processes p).ipcCapabilities k).inUse = true → ∃ i,
    (s.records i).active = true ∧ (s.records i).holder = some p ∧
    (s.processes p).identity = (s.records i).holderIdentity ∧
    (s.processes p).ipcCapabilities k = (s.records i).capability
  slots : ∀ p k k', ((s.processes p).ipcCapabilities k).inUse = true →
    ((s.processes p).ipcCapabilities k').inUse = true →
    ((s.processes p).ipcCapabilities k).handle = ((s.processes p).ipcCapabilities k').handle →
    k = k'

structure PeersCounted (s : IpcState) : Prop where
  one : ∀ slot, (s.endpoints slot).active = true → (∃ i, s.PeerOf slot i) →
    (s.endpoints slot).peerCapabilities = 1
  zero : ∀ slot, (s.endpoints slot).active = true → ¬ (∃ i, s.PeerOf slot i) →
    (s.endpoints slot).peerCapabilities = 0

def IpcEndpoint.frame (e : IpcEndpoint) : Bool × UInt32 × IpcIdentity :=
  (e.active, e.generation, e.owner)

theorem frame_eq {e e' : IpcEndpoint} (h : e'.frame = e.frame) :
    e'.active = e.active ∧ e'.generation = e.generation ∧ e'.owner = e.owner := by
  obtain ⟨hactive, hrest⟩ := Prod.mk.inj h
  obtain ⟨hgeneration, howner⟩ := Prod.mk.inj hrest
  exact ⟨hactive, hgeneration, howner⟩

theorem IpcSound.of_frame (h : IpcSound dying s) (hrecords : s'.records = s.records)
    (hprocesses : s'.processes = s.processes)
    (hintact : ∀ i, s'.recordIntact i = true → s.recordIntact i = true)
    (hframe : ∀ slot, (s'.endpoints slot).frame = (s.endpoints slot).frame) :
    IpcSound dying s' := by
  have hactive : ∀ slot, (s'.endpoints slot).active = (s.endpoints slot).active :=
    fun slot => (frame_eq (hframe slot)).1
  have hgeneration : ∀ slot, (s'.endpoints slot).generation = (s.endpoints slot).generation :=
    fun slot => (frame_eq (hframe slot)).2.1
  have howner : ∀ slot, (s'.endpoints slot).owner = (s.endpoints slot).owner :=
    fun slot => (frame_eq (hframe slot)).2.2
  have hcurrent : ∀ r, s'.Current r ↔ s.Current r := by
    intro r
    unfold IpcState.Current
    rw [hgeneration]
  refine
    { bounded := ?_
      distinct := ?_
      dead := ?_
      valid := ?_
      issued := ?_
      current := ?_
      opened := ?_
      unique := ?_
      single := ?_
      owned := ?_
      held := ?_
      recorded := ?_
      slots := ?_ }
  · intro slot
    rw [hgeneration]
    exact h.bounded slot
  · rw [hprocesses]
    exact h.distinct
  · intro slot hdying
    rw [hactive]
    exact h.dead slot hdying
  · rw [hrecords]
    exact h.valid
  · rw [hrecords]
    intro i hi
    rw [hgeneration]
    exact h.issued i hi
  · rw [hrecords]
    intro i hi hin
    exact (hcurrent _).mpr (h.current i hi (hintact i hin))
  · rw [hrecords]
    intro i hi hin
    rw [hactive]
    exact h.opened i hi (hintact i hin)
  · rw [hrecords]
    exact h.unique
  · rw [hrecords]
    exact h.single
  · rw [hrecords]
    intro i hi hcur
    rw [hactive, howner]
    exact h.owned i hi ((hcurrent _).mp hcur)
  · rw [hrecords, hprocesses]
    exact fun i hi hin => h.held i hi (hintact i hin)
  · rw [hrecords, hprocesses]
    exact h.recorded
  · rw [hprocesses]
    exact h.slots

theorem PeersCounted.of_frame (h : PeersCounted s) (hrecords : s'.records = s.records)
    (hframe : ∀ slot, (s'.endpoints slot).frame = (s.endpoints slot).frame)
    (hpeers : ∀ slot, (s.endpoints slot).active = true →
      (s'.endpoints slot).peerCapabilities = (s.endpoints slot).peerCapabilities) :
    PeersCounted s' := by
  have hpeer : ∀ slot i, s'.PeerOf slot i ↔ s.PeerOf slot i := by
    intro slot i
    have hcurrent : s'.Current (s.records i) ↔ s.Current (s.records i) := by
      unfold IpcState.Current
      rw [(frame_eq (hframe _)).2.1]
    constructor
    · intro hp
      have hcur := hp.current
      rw [hrecords] at hcur
      exact ⟨hrecords ▸ hp.active, hrecords ▸ hp.slot, hrecords ▸ hp.peer, hcurrent.mp hcur⟩
    · intro hp
      refine ⟨hrecords ▸ hp.active, hrecords ▸ hp.slot, hrecords ▸ hp.peer, ?_⟩
      rw [hrecords]
      exact hcurrent.mpr hp.current
  constructor
  · intro slot hactive hsome
    rw [(frame_eq (hframe slot)).1] at hactive
    rw [hpeers slot hactive]
    simp only [hpeer] at hsome
    exact h.one slot hactive hsome
  · intro slot hactive hnone
    rw [(frame_eq (hframe slot)).1] at hactive
    rw [hpeers slot hactive]
    simp only [hpeer] at hnone
    exact h.zero slot hactive hnone

theorem dropPeer_records : (dropPeer r s).records = s.records := by
  unfold dropPeer
  dsimp only
  split
  · rfl
  · rfl

theorem dropPeer_processes : (dropPeer r s).processes = s.processes := by
  unfold dropPeer
  dsimp only
  split
  · rfl
  · rfl

theorem dropPeer_recordIntact : (dropPeer r s).recordIntact = s.recordIntact := by
  unfold dropPeer
  dsimp only
  split
  · rfl
  · rfl

theorem dropPeer_endpoints (slot : IpcSlot) : ∃ n, (dropPeer r s).endpoints slot =
    { s.endpoints slot with peerCapabilities := n } := by
  unfold dropPeer
  dsimp only
  split
  · rw [endpoints_setEndpoint]
    split
    next h =>
      rw [h]
      exact ⟨_, rfl⟩
    next => exact ⟨(s.endpoints slot).peerCapabilities, rfl⟩
  · exact ⟨(s.endpoints slot).peerCapabilities, rfl⟩

theorem dropPeer_frame (slot : IpcSlot) :
    ((dropPeer r s).endpoints slot).frame = (s.endpoints slot).frame := by
  obtain ⟨n, hn⟩ := dropPeer_endpoints (r := r) (s := s) slot
  rw [hn]
  rfl

/-- The record and the capability of its holder are gone together. -/
def IpcState.forget (s : IpcState) (i : IpcRecordSlot) (p : IpcProcessSlot)
    (k : Fin ipcMaxCapabilitiesPerProcess) : IpcState :=
  (s.setCapability p k .empty).setRecord i .empty

theorem clearCapabilityRecord_eq (h : IpcSound dying s) (hactive : (s.records i).active = true)
    (hintact : s.recordIntact i = true) :
    ∃ p k, (s.records i).holder = some p ∧
      (s.processes p).identity = (s.records i).holderIdentity ∧
      (s.processes p).ipcCapabilities k = (s.records i).capability ∧
      clearCapabilityRecord i s = (dropPeer (s.records i) s).forget i p k := by
  obtain ⟨p, k, hholder, hidentity, hcapability⟩ := h.held i hactive hintact
  refine ⟨p, k, hholder, hidentity, hcapability, ?_⟩
  have huse : ((s.processes p).ipcCapabilities k).inUse = true := by rw [hcapability]; rfl
  have hhandle : ((s.processes p).ipcCapabilities k).handle = (s.records i).handle := by
    rw [hcapability]
    rfl
  have hslot : processCapabilitySlot (s.processes p) (s.records i).handle = some k := by
    cases hfind : processCapabilitySlot (s.processes p) (s.records i).handle with
    | none => exact absurd hhandle (processCapabilitySlot_none hfind k huse)
    | some k' =>
      obtain ⟨huse', hhandle'⟩ := processCapabilitySlot_some hfind
      rw [h.slots p k k' huse huse' (hhandle.trans hhandle'.symm)]
  unfold clearCapabilityRecord
  rw [if_neg (by simp [hactive])]
  unfold dropCapability
  rw [hholder]
  dsimp only
  rw [dropPeer_processes, if_pos hidentity, hslot]
  rfl

theorem forget_records :
    (s.forget i p k).records j = if j = i then .empty else s.records j := by
  unfold IpcState.forget
  rw [records_setRecord, records_setCapability]

theorem forget_active (h : ((s.forget i p k).records j).active = true) :
    j ≠ i ∧ (s.forget i p k).records j = s.records j := by
  rw [forget_records] at h ⊢
  by_cases hj : j = i
  · rw [if_pos hj] at h
    cases h
  · exact ⟨hj, if_neg hj⟩

variable {k' : Fin ipcMaxCapabilitiesPerProcess}

theorem forget_capability : ((s.forget i p k).processes q).ipcCapabilities k' =
      if q = p ∧ k' = k then .empty else (s.processes q).ipcCapabilities k' :=
  ipcCapabilities_setCapability

theorem forget_identity :
    ((s.forget i p k).processes q).identity = (s.processes q).identity :=
  identity_setCapability

theorem forget_inUse (h : (((s.forget i p k).processes q).ipcCapabilities k').inUse = true) :
    ¬ (q = p ∧ k' = k) ∧ ((s.forget i p k).processes q).ipcCapabilities k' =
      (s.processes q).ipcCapabilities k' := by
  rw [forget_capability] at h ⊢
  by_cases hq : q = p ∧ k' = k
  · rw [if_pos hq] at h
    cases h
  · exact ⟨hq, if_neg hq⟩

theorem IpcSound.forget (h : IpcSound dying s) (hactive : (s.records i).active = true)
    (hholder : (s.records i).holder = some p)
    (hidentity : (s.processes p).identity = (s.records i).holderIdentity)
    (hcapability : (s.processes p).ipcCapabilities k = (s.records i).capability) :
    IpcSound dying (s.forget i p k) := by
  have huse : ((s.processes p).ipcCapabilities k).inUse = true := by rw [hcapability]; rfl
  refine
    { bounded := h.bounded
      distinct := ?_
      dead := h.dead
      valid := ?_
      issued := ?_
      current := ?_
      opened := ?_
      unique := ?_
      single := ?_
      owned := ?_
      held := ?_
      recorded := ?_
      slots := ?_ }
  · intro p' q'
    rw [forget_identity, forget_identity]
    exact h.distinct p' q'
  · intro j hj
    obtain ⟨-, hsame⟩ := forget_active hj
    rw [hsame] at hj ⊢
    exact h.valid j hj
  · intro j hj
    obtain ⟨-, hsame⟩ := forget_active hj
    rw [hsame] at hj ⊢
    exact h.issued j hj
  · intro j hj hintact
    obtain ⟨-, hsame⟩ := forget_active hj
    rw [hsame] at hj ⊢
    exact h.current j hj hintact
  · intro j hj hintact
    obtain ⟨-, hsame⟩ := forget_active hj
    rw [hsame] at hj ⊢
    exact h.opened j hj hintact
  · intro j j' hj hj'
    obtain ⟨-, hsame⟩ := forget_active hj
    obtain ⟨-, hsame'⟩ := forget_active hj'
    rw [hsame] at hj ⊢
    rw [hsame'] at hj' ⊢
    exact h.unique j j' hj hj'
  · intro j j' hj hj'
    obtain ⟨-, hsame⟩ := forget_active hj
    obtain ⟨-, hsame'⟩ := forget_active hj'
    rw [hsame] at hj ⊢
    rw [hsame'] at hj' ⊢
    exact h.single j j' hj hj'
  · intro j hj
    obtain ⟨-, hsame⟩ := forget_active hj
    rw [hsame] at hj ⊢
    exact h.owned j hj
  · intro j hj hintact
    obtain ⟨hother, hsame⟩ := forget_active hj
    rw [hsame] at hj ⊢
    obtain ⟨p', k', hholder', hidentity', hcapability'⟩ := h.held j hj hintact
    refine ⟨p', k', hholder', forget_identity.trans hidentity', ?_⟩
    rw [forget_capability, if_neg]
    · exact hcapability'
    · rintro ⟨rfl, rfl⟩
      -- the same slot of the same process would make them the same record
      have hsame' : (s.records j).capability = (s.records i).capability :=
        hcapability'.symm.trans hcapability
      have hhandle : (s.records j).handle = (s.records i).handle :=
        congrArg IpcCapability.handle hsame'
      exact hother (h.single j i hj hactive hhandle (hidentity'.symm.trans hidentity))
  · intro p' k' huse'
    obtain ⟨hother, hsame⟩ := forget_inUse huse'
    rw [hsame] at huse' ⊢
    obtain ⟨j, hj, hholder', hidentity', hcapability'⟩ := h.recorded p' k' huse'
    have hji : j ≠ i := by
      rintro rfl
      obtain rfl : p' = p := Option.some.inj (hholder'.symm.trans hholder)
      have hhandle := congrArg IpcCapability.handle (hcapability'.trans hcapability.symm)
      exact hother ⟨rfl, h.slots p' k' k huse' huse hhandle⟩
    refine ⟨j, ?_⟩
    rw [forget_records, if_neg hji, forget_identity]
    exact ⟨hj, hholder', hidentity', hcapability'⟩
  · intro p' k1 k2 huse1 huse2
    obtain ⟨-, hsame1⟩ := forget_inUse huse1
    obtain ⟨-, hsame2⟩ := forget_inUse huse2
    rw [hsame1] at huse1 ⊢
    rw [hsame2] at huse2 ⊢
    exact h.slots p' k1 k2 huse1 huse2

theorem dropPeer_sound (h : IpcSound dying s) : IpcSound dying (dropPeer r s) := by
  apply h.of_frame dropPeer_records dropPeer_processes _ dropPeer_frame
  intro i hi
  rw [← dropPeer_recordIntact (r := r)]
  exact hi

theorem IpcSound.clear (h : IpcSound dying s) (hactive : (s.records i).active = true)
    (hintact : s.recordIntact i = true) : IpcSound dying (clearCapabilityRecord i s) := by
  obtain ⟨p, k, hholder, hidentity, hcapability, heq⟩ := clearCapabilityRecord_eq h hactive hintact
  rw [heq]
  have hdrop : IpcSound dying (dropPeer (s.records i) s) := dropPeer_sound h
  apply hdrop.forget
  · rw [dropPeer_records]
    exact hactive
  · rw [dropPeer_records]
    exact hholder
  · rw [dropPeer_records, dropPeer_processes]
    exact hidentity
  · rw [dropPeer_records, dropPeer_processes]
    exact hcapability

end ReistOs
