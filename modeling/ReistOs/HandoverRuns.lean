import ReistOs.Handover

namespace ReistOs.Handover

open Critical HandoverRun Handover

/-- The status in a protected object, as the kernel keeps it. -/
abbrev guarded : RecordStore Object HandoverStatus := statusLayout.store statusValid

abbrev plain : RecordStore (Plain HandoverStatus) HandoverStatus := Plain.store

theorem loadStatus_plain (p : Handover (Plain HandoverStatus)) :
    loadStatus plain p = (.ok p.protectedStatus.record, p) := rfl

section Status

variable {status status' : HandoverStatus}

theorem statusValid_iff : statusValid status = true ↔
    (status.version = handoverProtocolVersion ∧ status.structSize = handoverStatusSize ∧
      status.activeNode ≠ 0 ∧ status.standbyNode ≠ 0 ∧ status.activeNode ≠ status.standbyNode ∧
      handoverMinLeaseMs ≤ status.leaseMs ∧ status.leaseMs ≤ handoverMaxLeaseMs ∧
      status.reserved = 0) ∧ status.epoch ≠ 0 ∧ status.leaseDeadlineMs ≠ 0 ∧
    (status.fencedEpoch = 0 ∨ status.fencedEpoch = status.epoch) ∧
    status.transitionSequence ≠ 0 := by
  simp [statusValid, and_assoc]

variable {x nowMs expectedEpoch : UInt64} {node : UInt32} {found : Option HandoverStatus}

theorem uint64_succ (h : x ≠ uint64Max) : (x + 1).toNat = x.toNat + 1 := by
  have hlt := x.toNat_lt
  have hne : x.toNat ≠ 18446744073709551615 := fun h' => h (UInt64.toNat_inj.mp h')
  rw [UInt64.toNat_add]
  show (x.toNat + 1) % 18446744073709551616 = _
  omega

theorem uint64_succ_ne (h : x ≠ uint64Max) : x + 1 ≠ 0 := by
  intro h'
  have hsucc := uint64_succ h
  rw [h'] at hsucc
  exact absurd hsucc.symm (Nat.succ_ne_zero _)

theorem deadlineAfter_ne {leaseMs : UInt32} (h : handoverMinLeaseMs ≤ leaseMs) :
    deadlineAfter nowMs leaseMs ≠ 0 := by
  have hlease : 10 ≤ leaseMs.toNat := UInt32.le_iff_toNat_le.mp h
  have hlt := nowMs.toNat_lt
  unfold deadlineAfter
  split
  next => decide
  next hroom =>
    have hroom' := Nat.le_of_not_lt (fun h' => hroom (UInt64.lt_iff_toNat_lt.mpr h'))
    rw [UInt32.toNat_toUInt64, UInt64.toNat_sub_of_le _ _ (UInt64.le_iff_toNat_le.mpr (by
      show nowMs.toNat ≤ 18446744073709551615
      omega))] at hroom'
    have hmax : uint64Max.toNat = 18446744073709551615 := rfl
    rw [hmax] at hroom'
    intro h0
    have hsum := congrArg UInt64.toNat h0
    rw [UInt64.toNat_add, UInt32.toNat_toUInt64] at hsum
    have hzero : (0 : UInt64).toNat = 0 := rfl
    omega

/-- What a locked section changes, on whose call, and what it is then said to have done. -/
inductive Change (status : HandoverStatus) : HandoverCall → HandoverStatus → HandoverDeed → Prop
  | renewed {nowMs : UInt64} (hlease : nowMs < status.leaseDeadlineMs)
      (hroom : status.transitionSequence ≠ uint64Max) :
      Change status (.renew status.activeNode status.epoch nowMs)
        { status with
          leaseDeadlineMs := deadlineAfter nowMs status.leaseMs
          transitionSequence := status.transitionSequence + 1 } (.renewed status.epoch)
  | fenced {thread : Nat} (hroom : status.transitionSequence ≠ uint64Max) :
      Change status (.readback thread true)
        { status with
          fencedEpoch := status.epoch
          transitionSequence := status.transitionSequence + 1 } (.confirmed status.epoch)
  | tookOver {nowMs : UInt64} (hfenced : status.fencedEpoch = status.epoch)
      (hepoch : status.epoch ≠ uint64Max) (hroom : status.transitionSequence ≠ uint64Max) :
      Change status (.takeover status.standbyNode status.epoch nowMs)
        { status with
          activeNode := status.standbyNode
          standbyNode := status.activeNode
          epoch := status.epoch + 1
          transitionSequence := status.transitionSequence + 1
          fencedEpoch := 0
          leaseDeadlineMs := deadlineAfter nowMs status.leaseMs }
        (.tookOver status.standbyNode status.epoch)

theorem renewStatus_change (h : renewStatus node expectedEpoch nowMs status = .ok found) :
    ∃ status', found = some status' ∧
      Change status (.renew node expectedEpoch nowMs) status' (.renewed expectedEpoch) := by
  unfold renewStatus at h
  split at h
  next => cases h
  next hnode =>
    split at h
    next => cases h
    next hlease =>
      split at h
      next => cases h
      next hroom =>
        push Not at hnode
        obtain ⟨rfl, rfl⟩ := hnode
        cases h
        exact ⟨_, rfl, .renewed (UInt64.not_le.mp hlease) hroom⟩

theorem confirmStatus_change {asked : FenceReadback} {thread : Nat}
    (h : confirmStatus asked status = .ok found) :
    status.epoch = asked.expectedEpoch ∧ ((found = none ∧ status.fencedEpoch = status.epoch) ∨
      ∃ status', found = some status' ∧ Change status (.readback thread true) status'
        (.confirmed asked.expectedEpoch)) := by
  unfold confirmStatus at h
  split at h
  next => cases h
  next hsame =>
    push Not at hsame
    refine ⟨hsame.1, ?_⟩
    rw [← hsame.1]
    split at h
    next hfenced =>
      cases h
      exact .inl ⟨rfl, hfenced⟩
    next =>
      split at h
      next => cases h
      next hroom =>
        cases h
        exact .inr ⟨_, rfl, .fenced hroom⟩

theorem takeoverStatus_change (h : takeoverStatus node expectedEpoch nowMs status = .ok found) :
    ∃ status', found = some status' ∧
      Change status (.takeover node expectedEpoch nowMs) status' (.tookOver node expectedEpoch) := by
  unfold takeoverStatus at h
  split at h
  next => cases h
  next hnode =>
    split at h
    next => cases h
    next hfence =>
      split at h
      next => cases h
      next hroom =>
        push Not at hnode hfence hroom
        obtain ⟨rfl, rfl⟩ := hnode
        cases h
        exact ⟨_, rfl, .tookOver hfence.2 hroom.1 hroom.2⟩

theorem Change.valid {call : HandoverCall} {deed : HandoverDeed}
    (h : Change status call status' deed) (hvalid : statusValid status = true) :
    statusValid status' = true := by
  obtain ⟨⟨hversion, hsize, hactive, hstandby, hne, hmin, hmax, hreserved⟩, hepoch, hdeadline, hfenced,
    hsequence⟩ := statusValid_iff.mp hvalid
  apply statusValid_iff.mpr
  cases h with
  | renewed hlease hroom =>
    exact ⟨⟨hversion, hsize, hactive, hstandby, hne, hmin, hmax, hreserved⟩, hepoch,
      deadlineAfter_ne hmin, hfenced, uint64_succ_ne hroom⟩
  | fenced hroom =>
    exact ⟨⟨hversion, hsize, hactive, hstandby, hne, hmin, hmax, hreserved⟩, hepoch, hdeadline,
      .inr rfl, uint64_succ_ne hroom⟩
  | tookOver hfenced hroom hnext =>
    exact ⟨⟨hversion, hsize, hstandby, hactive, hne.symm, hmin, hmax, hreserved⟩,
      uint64_succ_ne hroom, deadlineAfter_ne hmin, .inl rfl, uint64_succ_ne hnext⟩

end Status

section Refinement

variable {s : Handover Object} {p : Handover (Plain HandoverStatus)}

/-- The protected status is the plain one. -/
structure Refines (s : Handover Object) (p : Handover (Plain HandoverStatus)) : Prop where
  initialized : s.initialized = p.initialized
  backendAttached : s.backendAttached = p.backendAttached
  keeps : p.initialized = true → statusLayout.Keeps statusValid p.protectedStatus.record
    p.protectedStatus.sequence s.protectedStatus

/-- Two calls end with one answer and with states of which the first refines the second. -/
def Agree {β : Type} (x : Except HandoverError β × Handover Object)
    (y : Except HandoverError β × Handover (Plain HandoverStatus)) : Prop :=
  x.1 = y.1 ∧ Refines x.2 y.2

section

variable (h : Refines s p)
include h

theorem Refines.load (hinit : p.initialized = true) :
    ∃ s', loadStatus guarded s = (.ok p.protectedStatus.record, s') ∧ Refines s' p := by
  obtain ⟨result, -, object, hread, hkeeps⟩ := (h.keeps hinit).read
  refine ⟨{ s with protectedStatus := object }, ?_, h.initialized, h.backendAttached,
    fun _ => hkeeps⟩
  unfold loadStatus
  rw [hread]

theorem Refines.inspect {β : Type} (hinit : p.initialized = true)
    (f : HandoverStatus → Except HandoverError β) :
    Agree (inspect guarded f s) (inspect plain f p) := by
  obtain ⟨s', hload, hs'⟩ := h.load hinit
  unfold Handover.inspect
  rw [hload]
  exact ⟨rfl, hs'⟩

theorem Refines.amend (hinit : p.initialized = true)
    {f : HandoverStatus → Except HandoverError (Option HandoverStatus)}
    (hf : ∀ status', f p.protectedStatus.record = .ok (some status') → statusValid status' = true) :
    Agree (amend guarded f s) (amend plain f p) := by
  obtain ⟨s', hload, hs'⟩ := h.load hinit
  unfold Handover.amend
  rw [hload, loadStatus_plain]
  simp only
  cases hfound : f p.protectedStatus.record with
  | error e => exact ⟨rfl, hs'⟩
  | ok found =>
    cases found with
    | none => exact ⟨rfl, hs'⟩
    | some status' =>
      obtain ⟨hfull, hroom⟩ := (hs'.keeps hinit).update (hf status' hfound)
      simp only [storeStatus]
      by_cases hnext : p.protectedStatus.sequence + 1 = 0
      · have hplain : plain.update p.protectedStatus status' = (false, p.protectedStatus) := if_pos hnext
        rw [hfull hnext, hplain]
        exact ⟨rfl, hs'⟩
      · obtain ⟨object, hupdate, hkeeps⟩ := hroom hnext
        have hplain : plain.update p.protectedStatus status' =
            (true, ⟨status', p.protectedStatus.sequence + 1⟩) := if_neg hnext
        rw [hupdate, hplain]
        exact ⟨rfl, hs'.initialized, hs'.backendAttached, fun _ => hkeeps⟩

theorem Refines.valid (hinit : p.initialized = true) :
    statusValid p.protectedStatus.record = true := (h.keeps hinit).passes

theorem attach_agrees (complete : Bool) :
    Agree (handoverAttachFenceBackend complete s) (handoverAttachFenceBackend complete p) := by
  unfold handoverAttachFenceBackend
  rw [h.initialized, h.backendAttached]
  split
  · exact ⟨rfl, h⟩
  · exact ⟨rfl, rfl, rfl, h.keeps⟩

theorem init_agrees (activeNode standbyNode leaseMs : UInt32)
    (epoch transitionSequence nowMs : UInt64) :
    Agree (handoverInitReplica guarded activeNode standbyNode leaseMs epoch transitionSequence nowMs s)
      (handoverInitReplica plain activeNode standbyNode leaseMs epoch transitionSequence nowMs p) := by
  unfold handoverInitReplica
  rw [h.initialized, h.backendAttached]
  split
  · exact ⟨rfl, h⟩
  · split
    next => exact ⟨rfl, h⟩
    next hargs =>
      push Not at hargs
      obtain ⟨-, hactive, hstandby, hne, hmin, hmax, hepoch, hsequence⟩ := hargs
      have hvalid : statusValid (initialStatus activeNode standbyNode leaseMs epoch
          transitionSequence nowMs) = true :=
        statusValid_iff.mpr ⟨⟨rfl, rfl, hactive, hstandby, hne, UInt32.not_lt.mp hmin,
          UInt32.not_lt.mp hmax, rfl⟩, hepoch, deadlineAfter_ne (UInt32.not_lt.mp hmin), .inl rfl,
          hsequence⟩
      obtain ⟨object, hstored, hkeeps⟩ := statusLayout.init_keeps hvalid s.protectedStatus
      rw [hstored]
      exact ⟨rfl, rfl, rfl, fun _ => hkeeps⟩

theorem snapshot_agrees :
    Agree (handoverSnapshot guarded s) (handoverSnapshot plain p) := by
  unfold handoverSnapshot
  rw [h.initialized]
  split
  next => exact ⟨rfl, h⟩
  next hinit =>
    obtain ⟨s', hload, hs'⟩ := h.load (not_not.mp hinit)
    rw [hload]
    exact ⟨rfl, hs'⟩

theorem renew_agrees (node : UInt32) (expectedEpoch nowMs : UInt64) :
    Agree (handoverRenew guarded node expectedEpoch nowMs s)
      (handoverRenew plain node expectedEpoch nowMs p) := by
  unfold handoverRenew
  rw [h.initialized]
  split
  next => exact ⟨rfl, h⟩
  next hargs =>
    have hinit := not_not.mp (not_or.mp hargs).1
    apply h.amend hinit
    intro status' hfound
    obtain ⟨found, hsome, hchange⟩ := renewStatus_change hfound
    cases hsome
    exact hchange.valid (h.valid hinit)

theorem confirmBegin_agrees (expectedEpoch nowMs : UInt64) :
    Agree (handoverConfirmBegin guarded expectedEpoch nowMs s)
      (handoverConfirmBegin plain expectedEpoch nowMs p) := by
  unfold handoverConfirmBegin
  rw [h.initialized, h.backendAttached]
  split
  next => exact ⟨rfl, h⟩
  next hargs => exact h.inspect (not_not.mp (not_or.mp hargs).1) _

theorem confirmEnd_agrees (hinit : p.initialized = true) (asked : FenceReadback) (confirmed : Bool) :
    Agree (handoverConfirmEnd guarded asked confirmed s)
      (handoverConfirmEnd plain asked confirmed p) := by
  unfold handoverConfirmEnd
  split
  next => exact ⟨rfl, h⟩
  next =>
    apply h.amend hinit
    intro status' hfound
    rcases (@confirmStatus_change _ _ _ 0 hfound).2 with ⟨hnone, -⟩ | ⟨found, hsome, hchange⟩
    · cases hnone
    · cases hsome
      exact hchange.valid (h.valid hinit)

theorem requestFence_agrees (expectedEpoch nowMs : UInt64) (sent : Bool) :
    Agree (handoverRequestFence guarded expectedEpoch nowMs sent s)
      (handoverRequestFence plain expectedEpoch nowMs sent p) := by
  unfold handoverRequestFence
  rw [h.initialized, h.backendAttached]
  split
  next => exact ⟨rfl, h⟩
  next hargs =>
    obtain ⟨hsame, hstate⟩ := h.inspect (not_not.mp (not_or.mp hargs).1)
      (expiredStatus expectedEpoch nowMs)
    rcases hs : inspect guarded (expiredStatus expectedEpoch nowMs) s with ⟨result, s'⟩
    rcases hp : inspect plain (expiredStatus expectedEpoch nowMs) p with ⟨result', p'⟩
    rw [hs, hp] at hsame hstate
    subst hsame
    cases result with
    | error e => exact ⟨rfl, hstate⟩
    | ok status => exact ⟨rfl, hstate⟩

theorem takeover_agrees (node : UInt32) (expectedEpoch nowMs : UInt64) :
    Agree (handoverTakeover guarded node expectedEpoch nowMs s)
      (handoverTakeover plain node expectedEpoch nowMs p) := by
  unfold handoverTakeover
  rw [h.initialized]
  split
  next => exact ⟨rfl, h⟩
  next hargs =>
    have hinit := not_not.mp (not_or.mp hargs).1
    apply h.amend hinit
    intro status' hfound
    obtain ⟨found, hsome, hchange⟩ := takeoverStatus_change hfound
    cases hsome
    exact hchange.valid (h.valid hinit)

end

theorem amend_initialized {ω : Type} (store : RecordStore ω HandoverStatus)
    (f : HandoverStatus → Except HandoverError (Option HandoverStatus)) (s : Handover ω) :
    (amend store f s).2.initialized = s.initialized := by
  unfold amend loadStatus
  split
  next e s' hload =>
    split at hload
    · cases hload
    · cases hload
      rfl
  next status s' hload =>
    split at hload
    · cases hload
      split
      · rfl
      · rfl
      · unfold storeStatus
        split
        · rfl
        · rfl
    · cases hload

/-- The two runs answer alike: the same deeds, the same confirmations in flight. -/
structure Mirrors (r : HandoverRun Object) (q : HandoverRun (Plain HandoverStatus)) : Prop where
  handover : Refines r.handover q.handover
  waiting : r.waiting = q.waiting
  deeds : r.deeds = q.deeds
  -- a confirmation in flight has read the status
  begun : q.waiting ≠ [] → q.handover.initialized = true

variable {r : HandoverRun Object} {q : HandoverRun (Plain HandoverStatus)}

theorem Mirrors.ended (h : Mirrors r q) {x : Except HandoverError Unit × Handover Object}
    {y : Except HandoverError Unit × Handover (Plain HandoverStatus)} (hagree : Agree x y)
    (hbegun : q.waiting ≠ [] → y.2.initialized = true) (deeds : List HandoverDeed) :
    (r.ended x deeds).1 = (q.ended y deeds).1 ∧ Mirrors (r.ended x deeds).2 (q.ended y deeds).2 := by
  obtain ⟨hresult, hstate⟩ := hagree
  unfold HandoverRun.ended
  rw [hresult, h.deeds]
  exact ⟨rfl, hstate, h.waiting, rfl, hbegun⟩

end Refinement

section Moves

variable {q : HandoverRun (Plain HandoverStatus)}

/-- A call on the plain status, told apart by what it does. -/
inductive Moved (q : HandoverRun (Plain HandoverStatus)) : HandoverCall →
    Option (Except HandoverError Unit) → HandoverRun (Plain HandoverStatus) → Prop
  | still {call : HandoverCall} {result : Option (Except HandoverError Unit)}
      {q' : HandoverRun (Plain HandoverStatus)}
      (hinit : q'.handover.initialized = q.handover.initialized)
      (hcell : q'.handover.protectedStatus = q.handover.protectedStatus)
      (hdeeds : q'.deeds = q.deeds)
      (hcall : ∀ node epoch nowMs, call = .takeover node epoch nowMs → result ≠ some (.ok ())) :
      Moved q call result q'
  | started {call : HandoverCall} {q' : HandoverRun (Plain HandoverStatus)}
      (hbefore : q.handover.initialized = false) (hinit : q'.handover.initialized = true)
      (hfenced : q'.handover.protectedStatus.record.fencedEpoch = 0) (hdeeds : q'.deeds = q.deeds)
      (hcall : ∀ node epoch nowMs, call ≠ .takeover node epoch nowMs) :
      Moved q call (some (.ok ())) q'
  | changed {call : HandoverCall} {deed : HandoverDeed} {q' : HandoverRun (Plain HandoverStatus)}
      (hbefore : q.handover.initialized = true) (hinit : q'.handover.initialized = true)
      (hchange : Change q.handover.protectedStatus.record call q'.handover.protectedStatus.record deed)
      (hdeeds : q'.deeds = q.deeds ++ [deed]) : Moved q call (some (.ok ())) q'
  | confirmedAgain {thread : Nat} {q' : HandoverRun (Plain HandoverStatus)}
      (hbefore : q.handover.initialized = true) (hinit : q'.handover.initialized = true)
      (hcell : q'.handover.protectedStatus = q.handover.protectedStatus)
      (hfenced : q.handover.protectedStatus.record.fencedEpoch =
        q.handover.protectedStatus.record.epoch)
      (hdeeds : q'.deeds = q.deeds ++ [.confirmed q.handover.protectedStatus.record.epoch]) :
      Moved q (.readback thread true) (some (.ok ())) q'

theorem amend_plain (f : HandoverStatus → Except HandoverError (Option HandoverStatus))
    (p : Handover (Plain HandoverStatus)) :
    (∃ e, amend plain f p = (.error e, p)) ∨
    (f p.protectedStatus.record = .ok none ∧ amend plain f p = (.ok (), p)) ∨
    ∃ status', f p.protectedStatus.record = .ok (some status') ∧
      amend plain f p =
        (.ok (), { p with protectedStatus := ⟨status', p.protectedStatus.sequence + 1⟩ }) := by
  unfold amend
  rw [loadStatus_plain]
  simp only
  cases f p.protectedStatus.record with
  | error e => exact .inl ⟨e, rfl⟩
  | ok found =>
    cases found with
    | none => exact .inr (.inl ⟨rfl, rfl⟩)
    | some status' =>
      by_cases hnext : p.protectedStatus.sequence + 1 = 0
      · have hupdate : plain.update p.protectedStatus status' = (false, p.protectedStatus) :=
          if_pos hnext
        simp only [storeStatus, hupdate]
        exact .inl ⟨_, rfl⟩
      · have hupdate : plain.update p.protectedStatus status' =
            (true, ⟨status', p.protectedStatus.sequence + 1⟩) := if_neg hnext
        simp only [storeStatus, hupdate]
        exact .inr (.inr ⟨status', rfl, rfl⟩)

theorem amend_moves {f : HandoverStatus → Except HandoverError (Option HandoverStatus)}
    {call : HandoverCall} {deed : HandoverDeed} (hinit : q.handover.initialized = true)
    (hf : ∀ found, f q.handover.protectedStatus.record = .ok found → ∃ status',
      found = some status' ∧ Change q.handover.protectedStatus.record call status' deed) :
    Moved q call (q.ended (amend plain f q.handover) [deed]).1
      (q.ended (amend plain f q.handover) [deed]).2 := by
  rcases amend_plain f q.handover with ⟨e, h⟩ | ⟨hfound, h⟩ | ⟨status', hfound, h⟩
  · rw [h]
    exact .still rfl rfl rfl fun _ _ _ _ hok => by cases hok
  · obtain ⟨status', hsome, -⟩ := hf none hfound
    cases hsome
  · obtain ⟨found, hsome, hchange⟩ := hf _ hfound
    cases hsome
    rw [h]
    exact .changed hinit hinit hchange rfl

theorem refused_still {call : HandoverCall} {e : HandoverError} {deeds : List HandoverDeed} :
    Moved q call (q.ended (.error e, q.handover) deeds).1
      (q.ended (.error e, q.handover) deeds).2 :=
  .still rfl rfl rfl fun _ _ _ _ hok => by cases hok

theorem step_moves (hbegun : q.waiting ≠ [] → q.handover.initialized = true) (call : HandoverCall) :
    Moved q call (q.step plain call).1 (q.step plain call).2 ∧
      ((q.step plain call).2.waiting ≠ [] → (q.step plain call).2.handover.initialized = true) := by
  cases call with
  | attachFenceBackend complete =>
    simp only [step, handoverAttachFenceBackend]
    split
    · exact ⟨refused_still, hbegun⟩
    · exact ⟨.still rfl rfl (List.append_nil _) (fun _ _ _ h => by cases h), hbegun⟩
  | initReplica activeNode standbyNode leaseMs epoch transitionSequence nowMs =>
    simp only [step, handoverInitReplica]
    split
    · exact ⟨refused_still, hbegun⟩
    · split
      next => exact ⟨refused_still, hbegun⟩
      next hargs =>
        have hbefore := Bool.eq_false_iff.mpr (not_or.mp hargs).1
        exact ⟨.started hbefore rfl rfl (List.append_nil _) (fun _ _ _ h => by cases h), fun _ => rfl⟩
  | snapshot =>
    simp only [step, handoverSnapshot]
    split
    · exact ⟨.still rfl rfl rfl (fun _ _ _ h => by cases h), hbegun⟩
    · exact ⟨.still rfl rfl (List.append_nil _) (fun _ _ _ h => by cases h), hbegun⟩
  | renew node expectedEpoch nowMs =>
    simp only [step, handoverRenew]
    split
    next => exact ⟨refused_still, hbegun⟩
    next hargs =>
      have hinit := not_not.mp (not_or.mp hargs).1
      exact ⟨amend_moves hinit fun _ h => renewStatus_change h, fun _ =>
        (amend_initialized plain _ _).trans hinit⟩
  | requestFence expectedEpoch nowMs sent =>
    simp only [step, handoverRequestFence]
    split
    next => exact ⟨refused_still, hbegun⟩
    next hargs =>
      simp only [inspect, loadStatus_plain]
      cases expiredStatus expectedEpoch nowMs q.handover.protectedStatus.record with
      | error e => exact ⟨refused_still, hbegun⟩
      | ok status =>
        cases sent with
        | false => exact ⟨refused_still, hbegun⟩
        | true => exact ⟨.still rfl rfl (List.append_nil _) (fun _ _ _ h => by cases h), hbegun⟩
  | confirmFenced expectedEpoch nowMs =>
    simp only [step, handoverConfirmBegin]
    split
    next e handover hresult =>
      split at hresult
      · cases hresult
        exact ⟨.still rfl rfl rfl (fun _ _ _ h => by cases h), hbegun⟩
      · simp only [inspect, loadStatus_plain] at hresult
        cases (Prod.mk.inj hresult).2
        exact ⟨.still rfl rfl rfl (fun _ _ _ h => by cases h), hbegun⟩
    next asked handover hresult =>
      split at hresult
      next => cases hresult
      next hargs =>
        simp only [inspect, loadStatus_plain] at hresult
        cases (Prod.mk.inj hresult).2
        exact ⟨.still rfl rfl rfl (fun _ _ _ h => by cases h), fun _ =>
          not_not.mp (not_or.mp hargs).1⟩
  | readback thread confirmed =>
    simp only [step]
    cases hasked : q.waiting[thread]? with
    | none => exact ⟨.still rfl rfl rfl (fun _ _ _ h => by cases h), hbegun⟩
    | some asked =>
      have hinit := hbegun (List.ne_nil_of_mem (List.mem_of_getElem? hasked))
      cases confirmed with
      | false => exact ⟨.still rfl rfl rfl (fun _ _ _ h => by cases h), fun _ => hinit⟩
      | true =>
        have hconfirmed : handoverConfirmEnd plain asked true q.handover =
            amend plain (confirmStatus asked) q.handover := if_neg (not_not.mpr rfl)
        simp only [hconfirmed]
        refine ⟨?_, fun _ => (amend_initialized plain _ _).trans hinit⟩
        rcases amend_plain (confirmStatus asked) q.handover with
          ⟨e, h⟩ | ⟨hfound, h⟩ | ⟨status', hfound, h⟩
        · rw [h]
          exact .still rfl rfl rfl fun _ _ _ h => by cases h
        · obtain ⟨hepoch, ⟨-, hfenced⟩ | ⟨found, hsome, -⟩⟩ :=
            @confirmStatus_change _ _ _ thread hfound
          · rw [h, ← hepoch]
            exact .confirmedAgain hinit hinit rfl hfenced rfl
          · cases hsome
        · obtain ⟨hepoch, ⟨hnone, -⟩ | ⟨found, hsome, hchange⟩⟩ :=
            @confirmStatus_change _ _ _ thread hfound
          · cases hnone
          · cases hsome
            rw [h]
            exact .changed hinit hinit hchange rfl
  | takeover node expectedEpoch nowMs =>
    simp only [step, handoverTakeover]
    split
    next => exact ⟨refused_still, hbegun⟩
    next hargs =>
      have hinit := not_not.mp (not_or.mp hargs).1
      exact ⟨amend_moves hinit fun _ h => takeoverStatus_change h, fun _ =>
        (amend_initialized plain _ _).trans hinit⟩

end Moves

section Runs

variable {r : HandoverRun Object} {q : HandoverRun (Plain HandoverStatus)}

theorem Mirrors.step (h : Mirrors r q) (call : HandoverCall) :
    (r.step guarded call).1 = (q.step plain call).1 ∧
      Mirrors (r.step guarded call).2 (q.step plain call).2 := by
  have hbegun := (step_moves h.begun call).2
  cases call with
  | attachFenceBackend complete => exact h.ended (attach_agrees h.handover complete) hbegun []
  | initReplica activeNode standbyNode leaseMs epoch transitionSequence nowMs =>
    exact h.ended (init_agrees h.handover activeNode standbyNode leaseMs epoch transitionSequence
      nowMs) hbegun []
  | snapshot =>
    obtain ⟨hresult, hstate⟩ := snapshot_agrees h.handover
    simp only [HandoverRun.step] at hbegun ⊢
    rcases hr : handoverSnapshot guarded r.handover with ⟨result, s⟩
    rcases hq : handoverSnapshot plain q.handover with ⟨result', p⟩
    rw [hr, hq] at hresult hstate
    rw [hq] at hbegun
    subst hresult
    have hagree : Agree (result.map fun _ => (), s) (result.map fun _ => (), p) := ⟨rfl, hstate⟩
    exact h.ended hagree hbegun []
  | renew node expectedEpoch nowMs =>
    exact h.ended (renew_agrees h.handover node expectedEpoch nowMs) hbegun _
  | requestFence expectedEpoch nowMs sent =>
    exact h.ended (requestFence_agrees h.handover expectedEpoch nowMs sent) hbegun []
  | confirmFenced expectedEpoch nowMs =>
    obtain ⟨hresult, hstate⟩ := confirmBegin_agrees h.handover expectedEpoch nowMs
    simp only [HandoverRun.step] at hbegun ⊢
    rcases hr : handoverConfirmBegin guarded expectedEpoch nowMs r.handover with ⟨result, s⟩
    rcases hq : handoverConfirmBegin plain expectedEpoch nowMs q.handover with ⟨result', p⟩
    rw [hr, hq] at hresult hstate
    rw [hq] at hbegun
    subst hresult
    cases result with
    | error e => exact ⟨rfl, hstate, h.waiting, h.deeds, hbegun⟩
    | ok asked =>
      refine ⟨rfl, hstate, ?_, h.deeds, hbegun⟩
      rw [h.waiting]
  | readback thread confirmed =>
    simp only [HandoverRun.step] at hbegun ⊢
    rw [h.waiting]
    cases hasked : q.waiting[thread]? with
    | none => exact ⟨rfl, h⟩
    | some asked =>
      have hinit := h.begun (List.ne_nil_of_mem (List.mem_of_getElem? hasked))
      rw [hasked] at hbegun
      have hrest : Mirrors { r with waiting := q.waiting.eraseIdx thread }
          { q with waiting := q.waiting.eraseIdx thread } :=
        ⟨h.handover, rfl, h.deeds, fun _ => hinit⟩
      exact hrest.ended (confirmEnd_agrees h.handover hinit asked confirmed) hbegun _
  | takeover node expectedEpoch nowMs =>
    exact h.ended (takeover_agrees h.handover node expectedEpoch nowMs) hbegun _

theorem Mirrors.status (h : Mirrors r q) : r.status guarded = q.status plain := by
  unfold HandoverRun.status
  rw [(snapshot_agrees h.handover).1]

theorem plain_status (q : HandoverRun (Plain HandoverStatus)) : q.status plain =
    if q.handover.initialized then some q.handover.protectedStatus.record else none := by
  unfold status handoverSnapshot
  cases q.handover.initialized
  · rfl
  · rw [if_neg (not_not.mpr rfl), loadStatus_plain]
    rfl

theorem Mirrors.orderly (h : Mirrors r q) (calls : List HandoverCall) :
    r.Orderly guarded calls ↔ q.Orderly plain calls := by
  induction calls generalizing r q with
  | nil => exact Iff.rfl
  | cons call calls ih =>
    have hlate : r.LateRenewal guarded call ↔ q.LateRenewal plain call := by
      cases call with
      | renew node expectedEpoch nowMs =>
        simp only [HandoverRun.LateRenewal]
        rw [h.status]
      | _ => exact Iff.rfl
    unfold HandoverRun.Orderly
    rw [hlate, ih (h.step call).2]

/-- What the deeds say about the fence of the present epoch. -/
structure Fencing (q : HandoverRun (Plain HandoverStatus)) : Prop where
  idle : q.handover.initialized = false → q.deeds = []
  fenced : q.handover.initialized = true → q.handover.protectedStatus.record.fencedEpoch ≠ 0 →
    .confirmed q.handover.protectedStatus.record.epoch ∈ q.deeds

/-- Confirmed epochs are over or fenced, and none was extended after its confirmation. -/
structure Settled (q : HandoverRun (Plain HandoverStatus)) : Prop where
  past : ∀ epoch, .confirmed epoch ∈ q.deeds →
    epoch.toNat < q.handover.protectedStatus.record.epoch.toNat ∨
      (epoch = q.handover.protectedStatus.record.epoch ∧
        q.handover.protectedStatus.record.fencedEpoch = epoch)
  final : ∀ before epoch after, q.deeds = before ++ .confirmed epoch :: after →
    .renewed epoch ∉ after

variable {q' : HandoverRun (Plain HandoverStatus)} {told : Option (Except HandoverError Unit)}

theorem Fencing.step {call : HandoverCall} (h : Fencing q) (hmove : Moved q call told q') :
    Fencing q' := by
  cases hmove with
  | still hinit hcell hdeeds hcall =>
    refine ⟨?_, ?_⟩
    · rw [hinit, hdeeds]
      exact h.idle
    · rw [hinit, hcell, hdeeds]
      exact h.fenced
  | started hbefore hinit hfenced hdeeds hcall =>
    refine ⟨fun hoff => absurd (hinit.symm.trans hoff) (by decide), ?_⟩
    intro _ hne
    exact absurd hfenced hne
  | confirmedAgain hbefore hinit hcell hfenced hdeeds =>
    refine ⟨fun hoff => absurd (hinit.symm.trans hoff) (by decide), ?_⟩
    intro _ _
    rw [hcell, hdeeds]
    exact List.mem_append_right _ (List.mem_singleton.mpr rfl)
  | changed hbefore hinit hchange hdeeds =>
    refine ⟨fun hoff => absurd (hinit.symm.trans hoff) (by decide), ?_⟩
    intro _ hne
    rw [hdeeds]
    generalize q'.handover.protectedStatus.record = status' at hchange hne ⊢
    cases hchange with
    | renewed hlease hroom => exact List.mem_append_left _ (h.fenced hbefore hne)
    | fenced hroom => exact List.mem_append_right _ (List.mem_singleton.mpr rfl)
    | tookOver hfenced hepoch hroom => exact absurd rfl hne

theorem final_snoc {deeds : List HandoverDeed} {deed : HandoverDeed}
    (h : ∀ before epoch after, deeds = before ++ .confirmed epoch :: after → .renewed epoch ∉ after)
    (hdeed : ∀ epoch, deed = .renewed epoch → .confirmed epoch ∉ deeds) :
    ∀ before epoch after, deeds ++ [deed] = before ++ .confirmed epoch :: after →
      .renewed epoch ∉ after := by
  intro before epoch after hsplit
  rcases List.eq_nil_or_concat after with rfl | ⟨after, last, rfl⟩
  · exact List.not_mem_nil
  · rw [List.concat_eq_append, ← List.cons_append, ← List.append_assoc] at hsplit
    obtain ⟨hdeeds, hlast⟩ := List.append_inj' hsplit rfl
    cases hlast
    intro hmem
    rw [List.concat_eq_append] at hmem
    rcases List.mem_append.mp hmem with hmem | hmem
    · exact h before epoch after hdeeds hmem
    · apply hdeed epoch (List.mem_singleton.mp hmem).symm
      rw [hdeeds]
      exact List.mem_append_right _ (List.mem_cons_self)

theorem Settled.step {call : HandoverCall} (hidle : Fencing q) (h : Settled q)
    (hlate : ¬ q.LateRenewal plain call) (hmove : Moved q call told q') : Settled q' := by
  cases hmove with
  | still hinit hcell hdeeds hcall =>
    refine ⟨?_, ?_⟩
    · rw [hcell, hdeeds]
      exact h.past
    · rw [hdeeds]
      exact h.final
  | started hbefore hinit hfenced hdeeds hcall =>
    have hnone := hidle.idle hbefore
    refine ⟨?_, ?_⟩
    · intro epoch hmem
      rw [hdeeds, hnone] at hmem
      cases hmem
    · rw [hdeeds]
      exact h.final
  | confirmedAgain hbefore hinit hcell hfenced hdeeds =>
    refine ⟨?_, ?_⟩
    · intro epoch hmem
      rw [hdeeds] at hmem
      rw [hcell]
      rcases List.mem_append.mp hmem with hmem | hmem
      · exact h.past epoch hmem
      · cases List.mem_singleton.mp hmem
        exact .inr ⟨rfl, hfenced⟩
    · rw [hdeeds]
      exact final_snoc h.final fun _ heq => by cases heq
  | changed hbefore hinit hchange hdeeds =>
    have hstatus : q.status plain = some q.handover.protectedStatus.record := by
      rw [plain_status, if_pos hbefore]
    generalize hrecord : q.handover.protectedStatus.record = status at hchange
    generalize hrecord' : q'.handover.protectedStatus.record = status' at hchange
    have hpast := h.past
    rw [hrecord] at hpast hstatus
    cases hchange with
    | renewed hlease hroom =>
      -- a confirmed epoch is an earlier one, or this renewal is a late one
      have hopen : .confirmed status.epoch ∉ q.deeds := by
        intro hmem
        rcases hpast _ hmem with hlt | ⟨-, hfenced⟩
        · exact Nat.lt_irrefl _ hlt
        · exact hlate ⟨status, hstatus, rfl, rfl, hlease, hfenced⟩
      refine ⟨?_, ?_⟩
      · intro epoch hmem
        rw [hdeeds] at hmem
        rw [hrecord']
        rcases List.mem_append.mp hmem with hmem | hmem
        · exact hpast epoch hmem
        · cases List.mem_singleton.mp hmem
      · rw [hdeeds]
        refine final_snoc h.final fun epoch heq => ?_
        cases heq
        exact hopen
    | fenced hroom =>
      refine ⟨?_, ?_⟩
      · intro epoch hmem
        rw [hdeeds] at hmem
        rw [hrecord']
        rcases List.mem_append.mp hmem with hmem | hmem
        · rcases hpast epoch hmem with hlt | ⟨heq, -⟩
          · exact .inl hlt
          · exact .inr ⟨heq, heq.symm⟩
        · cases List.mem_singleton.mp hmem
          exact .inr ⟨rfl, rfl⟩
      · rw [hdeeds]
        exact final_snoc h.final fun _ heq => by cases heq
    | tookOver hfenced hepoch hroom =>
      refine ⟨?_, ?_⟩
      · intro epoch hmem
        rw [hdeeds] at hmem
        rw [hrecord']
        left
        show epoch.toNat < (status.epoch + 1).toNat
        rw [uint64_succ hepoch]
        rcases List.mem_append.mp hmem with hmem | hmem
        · rcases hpast epoch hmem with hlt | ⟨heq, -⟩
          · exact Nat.lt_succ_of_lt hlt
          · rw [heq]
            exact Nat.lt_succ_self _
        · cases List.mem_singleton.mp hmem
      · rw [hdeeds]
        exact final_snoc h.final fun _ heq => by cases heq

theorem run_mirrors (calls : List HandoverCall) (h : Mirrors r q) (hfencing : Fencing q) :
    Mirrors (r.run guarded calls) (q.run plain calls) ∧ Fencing (q.run plain calls) ∧
      (Settled q → q.Orderly plain calls → Settled (q.run plain calls)) := by
  induction calls generalizing r q with
  | nil => exact ⟨h, hfencing, fun hsettled _ => hsettled⟩
  | cons call calls ih =>
    have hmove := (step_moves h.begun call).1
    obtain ⟨hmirrors, hfencing', hsettled⟩ := ih (h.step call).2 (hfencing.step hmove)
    refine ⟨hmirrors, hfencing', fun hstart horderly => ?_⟩
    exact hsettled (hstart.step hfencing horderly.1 hmove) horderly.2

theorem boot_mirrors (cell : Object) (cell' : Plain HandoverStatus) :
    Mirrors (boot cell) (boot cell') ∧
      Fencing (boot cell') ∧ Settled (boot cell') := by
  refine ⟨⟨⟨rfl, rfl, nofun⟩, rfl, rfl, fun h => absurd rfl h⟩,
    ⟨fun _ => rfl, nofun⟩, ?_, ?_⟩
  · intro epoch hmem
    cases hmem
  · intro before epoch after hsplit
    simp [boot] at hsplit

end Runs

theorem Change.moves_on {status status' : HandoverStatus} {call : HandoverCall}
    {deed : HandoverDeed} (h : Change status call status' deed) :
    status.transitionSequence < status'.transitionSequence ∧
      ((status'.activeNode, status'.standbyNode, status'.epoch) ≠
          (status.activeNode, status.standbyNode, status.epoch) →
        ∃ nowMs, call = .takeover status.standbyNode status.epoch nowMs) := by
  have hcount : ∀ {x : UInt64}, x ≠ uint64Max → x < x + 1 := by
    intro x hx
    rw [UInt64.lt_iff_toNat_lt, uint64_succ hx]
    exact Nat.lt_succ_self _
  cases h with
  | renewed hlease hroom => exact ⟨hcount hroom, fun hne => absurd rfl hne⟩
  | fenced hroom => exact ⟨hcount hroom, fun hne => absurd rfl hne⟩
  | tookOver hfenced hepoch hroom => exact ⟨hcount hroom, fun _ => ⟨_, rfl⟩⟩

variable {q q' : HandoverRun (Plain HandoverStatus)} {call : HandoverCall}
  {told : Option (Except HandoverError Unit)}

theorem Moved.refused (h : Moved q call told q') {e : HandoverError} (htold : told = some (.error e)) :
    q'.status plain = q.status plain := by
  rw [plain_status, plain_status]
  cases h with
  | still hinit hcell hdeeds hcall => rw [hinit, hcell]
  | started hbefore hinit hfenced hdeeds hcall => cases htold
  | confirmedAgain hbefore hinit hcell hfenced hdeeds => cases htold
  | changed hbefore hinit hchange hdeeds => cases htold

theorem Moved.changes (h : Moved q call told q') {status : HandoverStatus}
    (hstatus : q.status plain = some status) : ∃ status', q'.status plain = some status' ∧
      (status' ≠ status → told = some (.ok ()) ∧
        status.transitionSequence < status'.transitionSequence) ∧
      ((status'.activeNode, status'.standbyNode, status'.epoch) ≠
          (status.activeNode, status.standbyNode, status.epoch) →
        ∃ nowMs, call = .takeover status.standbyNode status.epoch nowMs) := by
  rw [plain_status] at hstatus
  split at hstatus
  next hbefore =>
    cases hstatus
    rw [plain_status]
    cases h with
    | still hinit hcell hdeeds hcall =>
      rw [hinit, hbefore, hcell]
      exact ⟨_, rfl, fun hne => absurd rfl hne, fun hne => absurd rfl hne⟩
    | started hoff hinit hfenced hdeeds hcall =>
      rw [hoff] at hbefore
      cases hbefore
    | confirmedAgain hbefore hinit hcell hfenced hdeeds =>
      rw [hinit, hcell]
      exact ⟨_, rfl, fun hne => absurd rfl hne, fun hne => absurd rfl hne⟩
    | changed hbefore hinit hchange hdeeds =>
      rw [hinit]
      obtain ⟨hcount, hroles⟩ := hchange.moves_on
      exact ⟨_, rfl, fun _ => ⟨rfl, hcount⟩, hroles⟩
  next => cases hstatus

theorem Moved.takeover (h : Moved q call told q') (hfencing : Fencing q)
    (hvalid : q.handover.initialized = true → statusValid q.handover.protectedStatus.record = true)
    {node : UInt32} {epoch nowMs : UInt64} (hcall : call = .takeover node epoch nowMs)
    (htold : told = some (.ok ())) : ∃ status status', q.status plain = some status ∧
      q'.status plain = some status' ∧ node = status.standbyNode ∧ epoch = status.epoch ∧
      status'.activeNode = status.standbyNode ∧ status'.standbyNode = status.activeNode ∧
      status'.epoch.toNat = status.epoch.toNat + 1 ∧ .confirmed epoch ∈ q.deeds := by
  cases h with
  | still hinit hcell hdeeds hno => exact absurd htold (hno _ _ _ hcall)
  | started hbefore hinit hfenced hdeeds hno => exact absurd hcall (hno _ _ _)
  | confirmedAgain hbefore hinit hcell hfenced hdeeds => cases hcall
  | changed hbefore hinit hchange hdeeds =>
    refine ⟨q.handover.protectedStatus.record, q'.handover.protectedStatus.record, ?_, ?_, ?_⟩
    · rw [plain_status, if_pos hbefore]
    · rw [plain_status, if_pos hinit]
    have hsound := (statusValid_iff.mp (hvalid hbefore)).2.1
    have hconfirmed := hfencing.fenced hbefore
    generalize q.handover.protectedStatus.record = status at hchange hsound hconfirmed ⊢
    generalize q'.handover.protectedStatus.record = status' at hchange ⊢
    cases hchange with
    | renewed hlease hroom => cases hcall
    | fenced hroom => cases hcall
    | tookOver hfenced hepoch hroom =>
      cases hcall
      have hset : status.fencedEpoch ≠ 0 := by
        rw [hfenced]
        exact hsound
      exact ⟨rfl, rfl, rfl, rfl, uint64_succ hepoch, hconfirmed hset⟩

/-- Roles and epoch move only in the takeover of the standby, behind a confirmation of that epoch;
what fails leaves the status alone; where no renewal is late, no epoch is extended after its fence
was confirmed. -/
theorem handover_safe (cell : Object) (calls : List HandoverCall) (call : HandoverCall) :
    let r := (HandoverRun.boot cell).run guarded calls
    let told := (r.step guarded call).1
    let r' := (r.step guarded call).2
    (∀ e, told = some (.error e) → r'.status guarded = r.status guarded) ∧
    (∀ status, r.status guarded = some status → ∃ status', r'.status guarded = some status' ∧
      (status' ≠ status → told = some (.ok ()) ∧
        status.transitionSequence < status'.transitionSequence) ∧
      ((status'.activeNode, status'.standbyNode, status'.epoch) ≠
          (status.activeNode, status.standbyNode, status.epoch) →
        ∃ nowMs, call = .takeover status.standbyNode status.epoch nowMs)) ∧
    (∀ node epoch nowMs, call = .takeover node epoch nowMs → told = some (.ok ()) →
      ∃ status status', r.status guarded = some status ∧ r'.status guarded = some status' ∧
        node = status.standbyNode ∧ epoch = status.epoch ∧
        status'.activeNode = status.standbyNode ∧ status'.standbyNode = status.activeNode ∧
        status'.epoch.toNat = status.epoch.toNat + 1 ∧ .confirmed epoch ∈ r.deeds) ∧
    ((HandoverRun.boot cell).Orderly guarded calls → ∀ before epoch after,
      r.deeds = before ++ .confirmed epoch :: after → .renewed epoch ∉ after) := by
  intro r told r'
  obtain ⟨hboot, hstart, hsettled⟩ := boot_mirrors cell ⟨⟨0, 0, 0, 0, 0, 0, 0, 0, 0, 0⟩, 0⟩
  obtain ⟨hrun, hfencing, hfinal⟩ := run_mirrors calls hboot hstart
  obtain ⟨htold, hstep⟩ := hrun.step call
  have hmove := (step_moves hrun.begun call).1
  have htold' : told = _ := htold
  have hstatus : r.status guarded = _ := hrun.status
  have hstatus' : r'.status guarded = _ := hstep.status
  rw [hstatus, hstatus', htold']
  refine ⟨fun e h => hmove.refused h, fun status h => hmove.changes h, ?_, ?_⟩
  · intro node epoch nowMs hcall hok
    have hdeeds : r.deeds = _ := hrun.deeds
    rw [hdeeds]
    exact hmove.takeover hfencing (fun hinit => hrun.handover.valid hinit) hcall hok
  · intro horderly before epoch after hsplit
    have hdeeds : r.deeds = _ := hrun.deeds
    rw [hdeeds] at hsplit
    exact (hfinal hsettled ((hboot.orderly calls).mp horderly)).final before epoch after hsplit

def zeroObject : Object :=
  let zero : Copy := { words := fun _ => 0, ecc := fun _ => 0, crc32 := 0 }
  { publicationLock := 0, primary := zero, shadow := zero }

/-- The lease of node 1 runs out, its fence is confirmed, and node 2 takes over. -/
def timelyCalls : List HandoverCall :=
  [.attachFenceBackend true, .initReplica 1 2 100 1 1 1000, .confirmFenced 1 1100, .readback 0 true,
    .takeover 2 1 1200]

/-- Node 1 took its clock before the lease ran out and renews behind the confirmation. -/
def lateCalls : List HandoverCall :=
  [.attachFenceBackend true, .initReplica 1 2 100 1 1 1000, .confirmFenced 1 1100, .readback 0 true,
    .renew 1 1 1099, .takeover 2 1 1199]

theorem deeds_boot (calls : List HandoverCall) :
    ((boot zeroObject).run guarded calls).deeds =
      ((boot (⟨⟨0, 0, 0, 0, 0, 0, 0, 0, 0, 0⟩, 0⟩ : Plain HandoverStatus)).run plain
        calls).deeds := by
  obtain ⟨hboot, hstart, -⟩ := boot_mirrors zeroObject ⟨⟨0, 0, 0, 0, 0, 0, 0, 0, 0, 0⟩, 0⟩
  exact (run_mirrors calls hboot hstart).1.deeds

theorem timely_handover :
    ((HandoverRun.boot zeroObject).run guarded timelyCalls).deeds =
      [] ++ .confirmed 1 :: [.tookOver 2 1] ∧ .renewed 1 ∉ [HandoverDeed.tookOver 2 1] := by
  have hdeeds : ((boot zeroObject).run guarded timelyCalls).deeds =
      [] ++ .confirmed 1 :: [.tookOver 2 1] := by
    rw [deeds_boot]
    decide
  have horderly : (boot zeroObject).Orderly guarded timelyCalls := by
    obtain ⟨hboot, -, -⟩ := boot_mirrors zeroObject ⟨⟨0, 0, 0, 0, 0, 0, 0, 0, 0, 0⟩, 0⟩
    rw [hboot.orderly]
    simp [timelyCalls, HandoverRun.Orderly, HandoverRun.LateRenewal]
  exact ⟨hdeeds, (handover_safe zeroObject timelyCalls .snapshot).2.2.2 horderly [] 1 _ hdeeds⟩

/-- The lease of a node whose fence was confirmed is extended, and the takeover goes ahead on the
old confirmation. -/
theorem late_renewal_extends :
    ((HandoverRun.boot zeroObject).run guarded lateCalls).deeds =
      [.confirmed 1, .renewed 1, .tookOver 2 1] := by
  rw [deeds_boot]
  decide

end ReistOs.Handover
