import ReistOs.IpcInvariant

/-! What is left of an endpoint of `kernel/ipc/ipc.c` that is closed or quarantined. -/

namespace ReistOs

open Attempt

variable {s s' s'' : IpcState} {slot : IpcSlot} {i j : IpcRecordSlot} {p q : IpcProcessSlot}
  {k : Fin ipcMaxCapabilitiesPerProcess} {r : IpcCapabilityRecord}
  {dying : IpcSlot → Prop} {goes : IpcCapabilityRecord → Bool}

theorem PeersCounted.clear (hcount : PeersCounted s) (h : IpcSound dying s)
    (hactive : (s.records i).active = true) (hintact : s.recordIntact i = true) :
    PeersCounted (clearCapabilityRecord i s) := by
  obtain ⟨p, k, -, -, -, heq⟩ := clearCapabilityRecord_eq h hactive hintact
  rw [heq]
  have hendpoints : ((dropPeer (s.records i) s).forget i p k).endpoints =
      (dropPeer (s.records i) s).endpoints := rfl
  have hrecords : ∀ j, ((dropPeer (s.records i) s).forget i p k).records j =
      if j = i then .empty else s.records j := by
    intro j
    rw [forget_records, dropPeer_records]
  have hframe : ∀ slot, (((dropPeer (s.records i) s).forget i p k).endpoints slot).frame =
      (s.endpoints slot).frame := fun slot => dropPeer_frame slot
  have hpeer : ∀ slot j, ((dropPeer (s.records i) s).forget i p k).PeerOf slot j ↔
      j ≠ i ∧ s.PeerOf slot j := by
    intro slot j
    have hcurrent : ((dropPeer (s.records i) s).forget i p k).Current (s.records j) ↔
        s.Current (s.records j) := by
      unfold IpcState.Current
      rw [(frame_eq (hframe _)).2.1]
    constructor
    · intro hp
      have hp' := hp.active
      have hslot := hp.slot
      have hpeer := hp.peer
      have hcur := hp.current
      obtain ⟨hj, hsame⟩ := forget_active hp'
      rw [hsame, dropPeer_records] at hp' hslot hpeer hcur
      exact ⟨hj, hp', hslot, hpeer, hcurrent.mp hcur⟩
    · rintro ⟨hj, hp⟩
      have hsame : ((dropPeer (s.records i) s).forget i p k).records j = s.records j := by
        rw [hrecords, if_neg hj]
      refine ⟨hsame ▸ hp.active, hsame ▸ hp.slot, hsame ▸ hp.peer, ?_⟩
      rw [hsame]
      exact hcurrent.mpr hp.current
  by_cases hcontrol : (s.records i).IsControl
  · -- the record of an owner is not counted
    have hdrop : dropPeer (s.records i) s = s := by
      unfold dropPeer
      rw [if_neg]
      exact fun hc => hcontrol hc.1
    have hsame : ∀ slot, (∃ j, ((dropPeer (s.records i) s).forget i p k).PeerOf slot j) ↔
        ∃ j, s.PeerOf slot j := by
      intro slot
      simp only [hpeer]
      constructor
      · rintro ⟨j, -, hp⟩
        exact ⟨j, hp⟩
      · rintro ⟨j, hp⟩
        refine ⟨j, ?_, hp⟩
        rintro rfl
        exact hp.peer hcontrol
    constructor
    · intro slot hopen hsome
      rw [hendpoints, hdrop] at hopen ⊢
      exact hcount.one slot hopen ((hsame slot).mp hsome)
    · intro slot hopen hnone
      rw [hendpoints, hdrop] at hopen ⊢
      exact hcount.zero slot hopen fun hsome => hnone ((hsame slot).mpr hsome)
  · have hself : s.PeerOf (s.records i).endpointSlot i :=
      ⟨hactive, rfl, hcontrol, h.current i hactive hintact⟩
    have hpeers : ∀ slot, (s.endpoints slot).active = true →
        ((dropPeer (s.records i) s).endpoints slot).peerCapabilities =
          if slot = (s.records i).endpointSlot then 0 else (s.endpoints slot).peerCapabilities := by
      intro slot hopen
      by_cases hslot : slot = (s.records i).endpointSlot
      · subst hslot
        have hone := hcount.one _ hopen ⟨i, hself⟩
        have hgone : (s.records i).rights &&& ipcRightControl = 0 := not_not.mp hcontrol
        unfold dropPeer
        rw [if_pos ⟨hgone, hopen, by omega⟩, endpoints_setEndpoint, if_pos rfl, if_pos rfl]
        show (s.endpoints (s.records i).endpointSlot).peerCapabilities - 1 = 0
        omega
      · rw [if_neg hslot]
        unfold dropPeer
        dsimp only
        split
        · rw [endpoints_setEndpoint, if_neg hslot]
        · rfl
    have halone : ∀ j, s.PeerOf (s.records i).endpointSlot j → j = i := by
      intro j hp
      have hcur := hp.current
      have hcur' := hself.current
      unfold IpcState.Current at hcur hcur'
      rw [hp.slot] at hcur
      apply h.unique j i hp.active hactive (hcur.trans hcur'.symm)
      exact ⟨fun hc => absurd hc hp.peer, fun hc => absurd hc hcontrol⟩
    constructor
    · rintro slot hopen ⟨j, hj⟩
      obtain ⟨hother, hp⟩ := (hpeer slot j).mp hj
      have hopen' : (s.endpoints slot).active = true := (frame_eq (hframe slot)).1 ▸ hopen
      have hslot : slot ≠ (s.records i).endpointSlot := by
        rintro rfl
        exact hother (halone j hp)
      rw [hendpoints, hpeers slot hopen', if_neg hslot]
      exact hcount.one slot hopen' ⟨j, hp⟩
    · intro slot hopen hnone
      have hopen' : (s.endpoints slot).active = true := (frame_eq (hframe slot)).1 ▸ hopen
      rw [hendpoints, hpeers slot hopen']
      split
      next => rfl
      next hslot =>
        apply hcount.zero slot hopen'
        rintro ⟨j, hp⟩
        apply hnone
        refine ⟨j, (hpeer slot j).mpr ⟨?_, hp⟩⟩
        rintro rfl
        exact hslot hp.slot.symm

/-- What a sweep of the records leaves as it was. -/
structure IpcCleared (s s' : IpcState) : Prop where
  endpoint : ∀ slot, ∃ n, s'.endpoints slot = { s.endpoints slot with peerCapabilities := n }
  record : ∀ i, s'.records i = s.records i ∨ s'.records i = .empty
  identity : ∀ p, (s'.processes p).identity = (s.processes p).identity
  isRunning : ∀ p, (s'.processes p).isRunning = (s.processes p).isRunning
  capability : ∀ p k, (s'.processes p).ipcCapabilities k = (s.processes p).ipcCapabilities k ∨
    (s'.processes p).ipcCapabilities k = .empty
  messages : s'.messages = s.messages
  endpointIntact : s'.endpointIntact = s.endpointIntact
  bulkIntact : s'.bulkIntact = s.bulkIntact
  messageIntact : s'.messageIntact = s.messageIntact
  recordIntact : s'.recordIntact = s.recordIntact

theorem IpcCleared.refl : IpcCleared s s :=
  { endpoint := fun slot => ⟨(s.endpoints slot).peerCapabilities, rfl⟩
    record := fun _ => .inl rfl
    identity := fun _ => rfl
    isRunning := fun _ => rfl
    capability := fun _ _ => .inl rfl
    messages := rfl
    endpointIntact := rfl
    bulkIntact := rfl
    messageIntact := rfl
    recordIntact := rfl }

theorem IpcCleared.trans (h : IpcCleared s s') (h' : IpcCleared s' s'') : IpcCleared s s'' := by
  refine ⟨?_, ?_, fun p => (h'.identity p).trans (h.identity p),
    fun p => (h'.isRunning p).trans (h.isRunning p), ?_, h'.messages.trans h.messages,
    h'.endpointIntact.trans h.endpointIntact, h'.bulkIntact.trans h.bulkIntact,
    h'.messageIntact.trans h.messageIntact, h'.recordIntact.trans h.recordIntact⟩
  · intro slot
    obtain ⟨n, hn⟩ := h.endpoint slot
    obtain ⟨n', hn'⟩ := h'.endpoint slot
    exact ⟨n', by rw [hn', hn]⟩
  · intro i
    rcases h'.record i with hsame | hgone
    · rw [hsame]
      exact h.record i
    · exact .inr hgone
  · intro p k
    rcases h'.capability p k with hsame | hgone
    · rw [hsame]
      exact h.capability p k
    · exact .inr hgone

theorem IpcCleared.frame (h : IpcCleared s s') (slot : IpcSlot) :
    (s'.endpoints slot).frame = (s.endpoints slot).frame := by
  obtain ⟨n, hn⟩ := h.endpoint slot
  rw [hn]
  rfl

theorem IpcCleared.active_record (h : IpcCleared s s') (hactive : (s'.records i).active = true) :
    s'.records i = s.records i := by
  rcases h.record i with hsame | hgone
  · exact hsame
  · rw [hgone] at hactive
    cases hactive

theorem dropPeer_cleared : IpcCleared s (dropPeer r s) := by
  have hrest : (dropPeer r s).messages = s.messages ∧
      (dropPeer r s).endpointIntact = s.endpointIntact ∧
      (dropPeer r s).bulkIntact = s.bulkIntact ∧
      (dropPeer r s).messageIntact = s.messageIntact := by
    unfold dropPeer
    dsimp only
    split
    · exact ⟨rfl, rfl, rfl, rfl⟩
    · exact ⟨rfl, rfl, rfl, rfl⟩
  refine ⟨dropPeer_endpoints, fun i => .inl ?_, fun p => ?_, fun p => ?_, fun p k => .inl ?_,
    hrest.1, hrest.2.1, hrest.2.2.1, hrest.2.2.2, dropPeer_recordIntact⟩
  · rw [dropPeer_records]
  · rw [dropPeer_processes]
  · rw [dropPeer_processes]
  · rw [dropPeer_processes]

theorem setCapability_cleared : IpcCleared s (s.setCapability p k .empty) := by
  refine { IpcCleared.refl with
    endpoint := IpcCleared.refl.endpoint
    record := fun _ => .inl rfl
    identity := fun _ => identity_setCapability
    isRunning := fun _ => isRunning_setCapability
    capability := fun q k' => ?_ }
  rw [ipcCapabilities_setCapability]
  split
  · exact .inr rfl
  · exact .inl rfl

theorem dropCapability_cleared : IpcCleared s (dropCapability r s) := by
  unfold dropCapability
  split
  · exact IpcCleared.refl
  · split
    · split
      · exact IpcCleared.refl
      · exact setCapability_cleared
    · exact IpcCleared.refl

theorem clear_cleared : IpcCleared s (clearCapabilityRecord i s) := by
  unfold clearCapabilityRecord
  dsimp only
  split
  · exact IpcCleared.refl
  · have hdropped := dropPeer_cleared.trans
      (dropCapability_cleared : IpcCleared _ (dropCapability (s.records i) (dropPeer (s.records i) s)))
    refine { hdropped with record := fun j => ?_ }
    rw [records_setRecord]
    split
    · exact .inr rfl
    · exact hdropped.record j

theorem clear_self : ((clearCapabilityRecord i s).records i).active = false := by
  unfold clearCapabilityRecord
  dsimp only
  split
  next h => simpa using h
  next =>
    rw [records_setRecord, if_pos rfl]
    rfl

def sweepRecord (goes : IpcCapabilityRecord → Bool) (s : IpcState) (i : IpcRecordSlot) : IpcState :=
  if s.recordIntact i && (s.records i).active && goes (s.records i) then clearCapabilityRecord i s
  else s

theorem sweepRecords_eq : sweepRecords goes s = recordSlots.foldl (sweepRecord goes) s := rfl

theorem sweepRecord_cleared : IpcCleared s (sweepRecord goes s i) := by
  unfold sweepRecord
  split
  · exact clear_cleared
  · exact IpcCleared.refl

theorem sweep_list (is : List IpcRecordSlot) {P : IpcState → Prop} (hP : P s)
    (hclear : ∀ s i, P s → (s.records i).active = true → s.recordIntact i = true →
      goes (s.records i) = true → P (clearCapabilityRecord i s)) :
    P (is.foldl (sweepRecord goes) s) ∧ IpcCleared s (is.foldl (sweepRecord goes) s) ∧
      ∀ i ∈ is, s.recordIntact i = true →
        ((is.foldl (sweepRecord goes) s).records i).active = true →
          goes ((is.foldl (sweepRecord goes) s).records i) = false := by
  induction is generalizing s with
  | nil => exact ⟨hP, IpcCleared.refl, by simp⟩
  | cons a is ih =>
    have hstep : P (sweepRecord goes s a) := by
      unfold sweepRecord
      split
      next hgo =>
        simp only [Bool.and_eq_true] at hgo
        exact hclear s a hP hgo.1.2 hgo.1.1 hgo.2
      next => exact hP
    have hcleared : IpcCleared s (sweepRecord goes s a) := sweepRecord_cleared
    obtain ⟨hend, hrest, hgone⟩ := ih hstep
    refine ⟨hend, hcleared.trans hrest, fun i hi hintact hactive => ?_⟩
    rcases List.mem_cons.mp hi with rfl | hi
    · have hlast := hrest.active_record hactive
      have hactive' := hactive
      rw [List.foldl_cons, hlast] at hactive' ⊢
      unfold sweepRecord at hactive' ⊢
      split at hactive'
      next => exact absurd (clear_self.symm.trans hactive') Bool.false_ne_true
      next hstay =>
        rw [if_neg hstay]
        simpa [hintact, hactive'] using hstay
    · apply hgone i hi _ hactive
      rw [hcleared.recordIntact]
      exact hintact

theorem sweepRecords_keeps {P : IpcState → Prop} (hP : P s)
    (hclear : ∀ s i, P s → (s.records i).active = true → s.recordIntact i = true →
      goes (s.records i) = true → P (clearCapabilityRecord i s)) :
    P (sweepRecords goes s) ∧ IpcCleared s (sweepRecords goes s) ∧
      ∀ i, s.recordIntact i = true → ((sweepRecords goes s).records i).active = true →
        goes ((sweepRecords goes s).records i) = false := by
  rw [sweepRecords_eq]
  obtain ⟨hend, hcleared, hgone⟩ := sweep_list recordSlots hP hclear
  exact ⟨hend, hcleared, fun i hintact hactive => hgone i (List.mem_finRange i) hintact hactive⟩

theorem sound_sweep (goes : IpcCapabilityRecord → Bool) (h : IpcSound dying s) (hcount : PeersCounted s) :
    (IpcSound dying (sweepRecords goes s) ∧ PeersCounted (sweepRecords goes s)) ∧
      IpcCleared s (sweepRecords goes s) ∧
      ∀ i, s.recordIntact i = true → ((sweepRecords goes s).records i).active = true →
        goes ((sweepRecords goes s).records i) = false := by
  apply sweepRecords_keeps (P := fun s => IpcSound dying s ∧ PeersCounted s) ⟨h, hcount⟩
  intro s i hs hactive hintact _
  exact ⟨hs.1.clear hactive hintact, hs.2.clear hs.1 hactive hintact⟩

abbrev NoneDying : IpcSlot → Prop := fun _ => False

theorem closeEndpoint_generation (other : IpcSlot) :
    ((closeEndpoint slot s).endpoints other).generation = (s.endpoints other).generation := by
  unfold closeEndpoint
  rw [endpoints_setEndpoint]
  split
  next h =>
    rw [h]
    rfl
  next => rfl

theorem closeEndpoint_other {other : IpcSlot} (h : other ≠ slot) :
    (closeEndpoint slot s).endpoints other = s.endpoints other := by
  unfold closeEndpoint
  rw [endpoints_setEndpoint, if_neg h]

theorem closeEndpoint_self : ((closeEndpoint slot s).endpoints slot) = (s.endpoints slot).closed := by
  unfold closeEndpoint
  rw [endpoints_setEndpoint, if_pos rfl]

theorem closeEndpoint_active {other : IpcSlot}
    (h : ((closeEndpoint slot s).endpoints other).active = true) :
    other ≠ slot ∧ (closeEndpoint slot s).endpoints other = s.endpoints other := by
  by_cases hother : other = slot
  · rw [hother, closeEndpoint_self] at h
    cases h
  · exact ⟨hother, closeEndpoint_other hother⟩

theorem closeEndpoint_sound (slot : IpcSlot) (h : IpcSound NoneDying s) :
    IpcSound (fun other => other = slot) (closeEndpoint slot s) := by
  have hcurrent : ∀ r, (closeEndpoint slot s).Current r ↔ s.Current r := by
    intro r
    unfold IpcState.Current
    rw [closeEndpoint_generation]
  refine
    { bounded := ?_
      distinct := h.distinct
      dead := ?_
      valid := h.valid
      issued := ?_
      current := fun i hi hin => (hcurrent _).mpr (h.current i hi hin)
      opened := ?_
      unique := h.unique
      single := h.single
      owned := ?_
      held := h.held
      recorded := h.recorded
      slots := h.slots }
  · intro other
    rw [closeEndpoint_generation]
    exact h.bounded other
  · rintro other rfl
    rw [closeEndpoint_self]
    rfl
  · intro i hi
    rw [closeEndpoint_generation]
    exact h.issued i hi
  · intro i hi hin hother
    rw [closeEndpoint_other hother]
    exact h.opened i hi hin fun hf => hf
  · intro i hi hcur hcontrol hopen
    obtain ⟨-, hsame⟩ := closeEndpoint_active hopen
    rw [hsame] at hopen ⊢
    exact h.owned i hi ((hcurrent _).mp hcur) hcontrol hopen

theorem closeEndpoint_counted (slot : IpcSlot) (hcount : PeersCounted s) : PeersCounted (closeEndpoint slot s) := by
  have hpeer : ∀ other, other ≠ slot → ∀ i, (closeEndpoint slot s).PeerOf other i ↔ s.PeerOf other i := by
    intro other hother i
    have hcurrent : (closeEndpoint slot s).Current (s.records i) ↔ s.Current (s.records i) := by
      unfold IpcState.Current
      rw [closeEndpoint_generation]
    exact ⟨fun hp => ⟨hp.active, hp.slot, hp.peer, hcurrent.mp hp.current⟩,
      fun hp => ⟨hp.active, hp.slot, hp.peer, hcurrent.mpr hp.current⟩⟩
  constructor
  · intro other hopen hsome
    obtain ⟨hother, hsame⟩ := closeEndpoint_active hopen
    rw [hsame] at hopen ⊢
    simp only [hpeer other hother] at hsome
    exact hcount.one other hopen hsome
  · intro other hopen hnone
    obtain ⟨hother, hsame⟩ := closeEndpoint_active hopen
    rw [hsame] at hopen ⊢
    simp only [hpeer other hother] at hnone
    exact hcount.zero other hopen hnone

theorem IpcSound.settle (h : IpcSound (fun other => other = slot) s)
    (hgone : ∀ i, s.recordIntact i = true → (s.records i).active = true →
      (s.records i).endpointSlot ≠ slot) : IpcSound NoneDying s :=
  { h with
    dead := fun _ hf => hf.elim
    opened := fun i hi hin _ => h.opened i hi hin (hgone i hin hi) }

structure Revoked (slot : IpcSlot) (s s' : IpcState) : Prop where
  sound : IpcSound NoneDying s'
  counted : PeersCounted s'
  cleared : IpcCleared (closeEndpoint slot s) s'

theorem quarantineEndpoint_revoked (slot : IpcSlot) (h : IpcSound NoneDying s) (hcount : PeersCounted s) :
    Revoked slot s (quarantineEndpoint slot s) := by
  obtain ⟨⟨hsound, hcounted⟩, hcleared, hgone⟩ :=
    sound_sweep (fun r => r.endpointSlot == slot) (closeEndpoint_sound slot h)
      (closeEndpoint_counted slot hcount)
  refine ⟨hsound.settle fun i hintact hactive => ?_, hcounted, hcleared⟩
  have hstay := hgone i (hcleared.recordIntact ▸ hintact) hactive
  simpa using hstay

theorem revokeEndpoint_revoked (slot : IpcSlot) (h : IpcSound NoneDying s) (hcount : PeersCounted s) :
    Revoked slot s (revokeEndpoint slot s) := by
  obtain ⟨⟨hsound, hcounted⟩, hcleared, hgone⟩ :=
    sound_sweep (fun r => r.endpointSlot == slot &&
        r.handle == ipcMakeHandle slot (s.endpoints slot).generation)
      (closeEndpoint_sound slot h) (closeEndpoint_counted slot hcount)
  refine ⟨hsound.settle fun i hintact hactive hslot => ?_, hcounted, hcleared⟩
  have hstay := hgone i (hcleared.recordIntact ▸ hintact) hactive
  have hcurrent := hsound.current i hactive hintact
  unfold IpcState.Current at hcurrent
  rw [hslot, (frame_eq (hcleared.frame slot)).2.1, closeEndpoint_generation] at hcurrent
  exact absurd hstay (by simp [hslot, hcurrent])

end ReistOs
