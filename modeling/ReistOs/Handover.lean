import ReistOs.CriticalRecord

/-! The standby handover of `kernel/init/handover.c`: the lease of the active node, the fence that
ends it, and the takeover. The status lives in a protected cell. -/

namespace ReistOs.Handover

open Critical

inductive HandoverError
  | einval
  | eacces
  | eagain
  | eintegrity
  | eoverflow
  | enodev
  deriving DecidableEq

def handoverProtocolVersion : UInt32 := 1
def handoverMinLeaseMs : UInt32 := 10
def handoverMaxLeaseMs : UInt32 := 10000
/-- `sizeof(handover_status_t)` -/
def handoverStatusSize : UInt32 := 56
def uint64Max : UInt64 := 0xFFFFFFFFFFFFFFFF

structure HandoverStatus where
  version : UInt32
  structSize : UInt32
  activeNode : UInt32
  standbyNode : UInt32
  leaseMs : UInt32
  reserved : UInt32
  epoch : UInt64
  leaseDeadlineMs : UInt64
  fencedEpoch : UInt64
  transitionSequence : UInt64
  deriving DecidableEq

def statusWidths : List Nat := [4, 4, 4, 4, 4, 4, 8, 8, 8, 8]

def statusFields (status : HandoverStatus) : List Nat :=
  [status.version.toNat, status.structSize.toNat, status.activeNode.toNat, status.standbyNode.toNat,
    status.leaseMs.toNat, status.reserved.toNat, status.epoch.toNat, status.leaseDeadlineMs.toNat,
    status.fencedEpoch.toNat, status.transitionSequence.toNat]

def statusOfFields : List Nat → HandoverStatus
  | [version, structSize, activeNode, standbyNode, leaseMs, reserved, epoch, leaseDeadlineMs,
      fencedEpoch, transitionSequence] =>
    { version := .ofNat version
      structSize := .ofNat structSize
      activeNode := .ofNat activeNode
      standbyNode := .ofNat standbyNode
      leaseMs := .ofNat leaseMs
      reserved := .ofNat reserved
      epoch := .ofNat epoch
      leaseDeadlineMs := .ofNat leaseDeadlineMs
      fencedEpoch := .ofNat fencedEpoch
      transitionSequence := .ofNat transitionSequence }
  | _ => ⟨0, 0, 0, 0, 0, 0, 0, 0, 0, 0⟩

theorem statusFields_fit (status : HandoverStatus) :
    Packed.Fits statusWidths (statusFields status) := by
  have h32 : ∀ x : UInt32, x.toNat < 256 ^ 4 := fun x => x.toNat_lt
  have h64 : ∀ x : UInt64, x.toNat < 256 ^ 8 := fun x => x.toNat_lt
  unfold Packed.Fits statusWidths statusFields
  simp only [List.forall₂_cons, h32, h64, List.Forall₂.nil, and_self]

theorem statusOfFields_statusFields (status : HandoverStatus) :
    statusOfFields (statusFields status) = status := by
  simp [statusOfFields, statusFields]

def statusLayout : RecordLayout HandoverStatus where
  version := handoverProtocolVersion
  size := 56
  bytes status := Packed.pack statusWidths (statusFields status)
  value bytes := statusOfFields (Packed.unpack statusWidths bytes)
  version_ne := by decide
  size_pos := by decide
  size_le := by decide
  length_bytes status := Packed.length_pack (statusFields_fit status)
  value_bytes status := by
    rw [Packed.unpack_pack (statusFields_fit status), statusOfFields_statusFields]

def statusValid (status : HandoverStatus) : Bool :=
  status.version = handoverProtocolVersion && status.structSize = handoverStatusSize &&
    status.activeNode != 0 && status.standbyNode != 0 &&
    status.activeNode != status.standbyNode &&
    handoverMinLeaseMs ≤ status.leaseMs && status.leaseMs ≤ handoverMaxLeaseMs &&
    status.reserved == 0 && status.epoch != 0 && status.leaseDeadlineMs != 0 &&
    (status.fencedEpoch == 0 || status.fencedEpoch == status.epoch) &&
    status.transitionSequence != 0

def deadlineAfter (nowMs : UInt64) (leaseMs : UInt32) : UInt64 :=
  if uint64Max - nowMs < leaseMs.toUInt64 then uint64Max else nowMs + leaseMs.toUInt64

/-- The globals of the file; the two callbacks of the backend are asked from outside. -/
structure Handover (ω : Type) where
  protectedStatus : ω
  initialized : Bool
  backendAttached : Bool

/-- What a confirmation keeps while the backend reads the fence back. -/
structure FenceReadback where
  expectedEpoch : UInt64
  nowMs : UInt64
  activeNode : UInt32
  sequence : UInt64
  deriving DecidableEq

section Calls

variable {ω : Type} (store : RecordStore ω HandoverStatus)

def loadStatus (s : Handover ω) : Except HandoverError HandoverStatus × Handover ω :=
  match store.read s.protectedStatus with
  | (some (status, _), cell) => (.ok status, { s with protectedStatus := cell })
  | (none, cell) => (.error .eintegrity, { s with protectedStatus := cell })

def storeStatus (status : HandoverStatus) (s : Handover ω) :
    Except HandoverError Unit × Handover ω :=
  match store.update s.protectedStatus status with
  | (true, cell) => (.ok (), { s with protectedStatus := cell })
  | (false, cell) => (.error .eintegrity, { s with protectedStatus := cell })

def inspect {β : Type} (f : HandoverStatus → Except HandoverError β) (s : Handover ω) :
    Except HandoverError β × Handover ω :=
  match loadStatus store s with
  | (.error e, s) => (.error e, s)
  | (.ok status, s) => (f status, s)

def amend (f : HandoverStatus → Except HandoverError (Option HandoverStatus)) (s : Handover ω) :
    Except HandoverError Unit × Handover ω :=
  match loadStatus store s with
  | (.error e, s) => (.error e, s)
  | (.ok status, s) =>
    match f status with
    | .error e => (.error e, s)
    | .ok none => (.ok (), s)
    | .ok (some status) => storeStatus store status s

def handoverAttachFenceBackend (complete : Bool) (s : Handover ω) :
    Except HandoverError Unit × Handover ω :=
  if s.backendAttached ∨ s.initialized ∨ ¬ complete then (.error .einval, s)
  else (.ok (), { s with backendAttached := true })

def initialStatus (activeNode standbyNode leaseMs : UInt32)
    (epoch transitionSequence nowMs : UInt64) : HandoverStatus :=
  { version := handoverProtocolVersion
    structSize := handoverStatusSize
    activeNode := activeNode
    standbyNode := standbyNode
    leaseMs := leaseMs
    reserved := 0
    epoch := epoch
    leaseDeadlineMs := deadlineAfter nowMs leaseMs
    fencedEpoch := 0
    transitionSequence := transitionSequence }

def handoverInitReplica (activeNode standbyNode leaseMs : UInt32)
    (epoch transitionSequence nowMs : UInt64) (s : Handover ω) :
    Except HandoverError Unit × Handover ω :=
  if ¬ s.backendAttached then (.error .enodev, s)
  else if s.initialized ∨ activeNode = 0 ∨ standbyNode = 0 ∨ activeNode = standbyNode ∨
      leaseMs < handoverMinLeaseMs ∨ handoverMaxLeaseMs < leaseMs ∨ epoch = 0 ∨
      transitionSequence = 0 then (.error .einval, s)
  else
    match store.init s.protectedStatus
      (initialStatus activeNode standbyNode leaseMs epoch transitionSequence nowMs) with
    | (true, cell) => (.ok (), { s with protectedStatus := cell, initialized := true })
    | (false, cell) => (.error .eintegrity, { s with protectedStatus := cell })

def handoverInit (activeNode standbyNode leaseMs : UInt32) (nowMs : UInt64) (s : Handover ω) :
    Except HandoverError Unit × Handover ω :=
  handoverInitReplica store activeNode standbyNode leaseMs 1 1 nowMs s

def handoverSnapshot (s : Handover ω) : Except HandoverError HandoverStatus × Handover ω :=
  if ¬ s.initialized then (.error .einval, s) else loadStatus store s

def renewStatus (node : UInt32) (expectedEpoch nowMs : UInt64) (status : HandoverStatus) :
    Except HandoverError (Option HandoverStatus) :=
  if node ≠ status.activeNode ∨ expectedEpoch ≠ status.epoch then .error .eacces
  else if status.leaseDeadlineMs ≤ nowMs then .error .eagain
  else if status.transitionSequence = uint64Max then .error .eoverflow
  else .ok <| some { status with
    leaseDeadlineMs := deadlineAfter nowMs status.leaseMs
    transitionSequence := status.transitionSequence + 1 }

def handoverRenew (node : UInt32) (expectedEpoch nowMs : UInt64) (s : Handover ω) :
    Except HandoverError Unit × Handover ω :=
  if ¬ s.initialized ∨ node = 0 ∨ expectedEpoch = 0 then (.error .einval, s)
  else amend store (renewStatus node expectedEpoch nowMs) s

/-- The checks of a request and of a confirmation: this epoch, and its lease has run out. -/
def expiredStatus (expectedEpoch nowMs : UInt64) (status : HandoverStatus) :
    Except HandoverError HandoverStatus :=
  if expectedEpoch ≠ status.epoch then .error .eacces
  else if nowMs < status.leaseDeadlineMs then .error .eagain
  else .ok status

/-- The first locked section of `handover_confirm_fenced`. -/
def handoverConfirmBegin (expectedEpoch nowMs : UInt64) (s : Handover ω) :
    Except HandoverError FenceReadback × Handover ω :=
  if ¬ s.initialized ∨ ¬ s.backendAttached ∨ expectedEpoch = 0 then (.error .einval, s)
  else inspect store (fun status => (expiredStatus expectedEpoch nowMs status).map fun status =>
    ⟨expectedEpoch, nowMs, status.activeNode, status.transitionSequence⟩) s

def confirmStatus (asked : FenceReadback) (status : HandoverStatus) :
    Except HandoverError (Option HandoverStatus) :=
  if status.epoch ≠ asked.expectedEpoch ∨ status.activeNode ≠ asked.activeNode ∨
      status.transitionSequence ≠ asked.sequence ∨ asked.nowMs < status.leaseDeadlineMs then
    .error .eagain
  else if status.fencedEpoch = status.epoch then .ok none
  else if status.transitionSequence = uint64Max then .error .eoverflow
  else .ok <| some { status with
    fencedEpoch := status.epoch
    transitionSequence := status.transitionSequence + 1 }

/-- The rest of `handover_confirm_fenced`, once the backend has read the fence back. -/
def handoverConfirmEnd (asked : FenceReadback) (confirmed : Bool) (s : Handover ω) :
    Except HandoverError Unit × Handover ω :=
  if ¬ confirmed then (.error .eagain, s) else amend store (confirmStatus asked) s

def handoverRequestFence (expectedEpoch nowMs : UInt64) (sent : Bool) (s : Handover ω) :
    Except HandoverError Unit × Handover ω :=
  if ¬ s.initialized ∨ ¬ s.backendAttached ∨ expectedEpoch = 0 then (.error .einval, s)
  else
    match inspect store (expiredStatus expectedEpoch nowMs) s with
    | (.error e, s) => (.error e, s)
    | (.ok _, s) => (if sent then .ok () else .error .eagain, s)

def takeoverStatus (candidateNode : UInt32) (expectedEpoch nowMs : UInt64)
    (status : HandoverStatus) : Except HandoverError (Option HandoverStatus) :=
  if candidateNode ≠ status.standbyNode ∨ expectedEpoch ≠ status.epoch then .error .eacces
  else if nowMs < status.leaseDeadlineMs ∨ status.fencedEpoch ≠ status.epoch then .error .eagain
  else if status.epoch = uint64Max ∨ status.transitionSequence = uint64Max then .error .eoverflow
  else .ok <| some { status with
    activeNode := status.standbyNode
    standbyNode := status.activeNode
    epoch := status.epoch + 1
    transitionSequence := status.transitionSequence + 1
    fencedEpoch := 0
    leaseDeadlineMs := deadlineAfter nowMs status.leaseMs }

def handoverTakeover (candidateNode : UInt32) (expectedEpoch nowMs : UInt64) (s : Handover ω) :
    Except HandoverError Unit × Handover ω :=
  if ¬ s.initialized ∨ candidateNode = 0 ∨ expectedEpoch = 0 then (.error .einval, s)
  else amend store (takeoverStatus candidateNode expectedEpoch nowMs) s

end Calls

/-- A call by some node with the clock it sampled. A confirmation is two events: other calls may
come between its two locked sections. -/
inductive HandoverCall
  | attachFenceBackend (complete : Bool)
  | initReplica (activeNode standbyNode leaseMs : UInt32) (epoch transitionSequence nowMs : UInt64)
  | snapshot
  | renew (node : UInt32) (expectedEpoch nowMs : UInt64)
  | requestFence (expectedEpoch nowMs : UInt64) (sent : Bool)
  | confirmFenced (expectedEpoch nowMs : UInt64)
  | readback (thread : Nat) (confirmed : Bool)
  | takeover (candidateNode : UInt32) (expectedEpoch nowMs : UInt64)
  deriving DecidableEq

/-- What has been done, as the callers were told. -/
inductive HandoverDeed
  | renewed (epoch : UInt64)
  | confirmed (epoch : UInt64)
  | tookOver (node : UInt32) (epoch : UInt64)
  deriving DecidableEq

structure HandoverRun (ω : Type) where
  handover : Handover ω
  waiting : List FenceReadback
  deeds : List HandoverDeed

variable {ω : Type} (store : RecordStore ω HandoverStatus)

def HandoverRun.boot (cell : ω) : HandoverRun ω := ⟨⟨cell, false, false⟩, [], []⟩

def HandoverRun.ended (r : HandoverRun ω) (result : Except HandoverError Unit × Handover ω)
    (deeds : List HandoverDeed) : Option (Except HandoverError Unit) × HandoverRun ω :=
  (some result.1, { r with
    handover := result.2
    deeds := if result.1.isOk then r.deeds ++ deeds else r.deeds })

/-- What the caller is told, `none` while its call has not returned, and the run after the call. -/
def HandoverRun.step (r : HandoverRun ω) :
    HandoverCall → Option (Except HandoverError Unit) × HandoverRun ω
  | .attachFenceBackend complete => r.ended (handoverAttachFenceBackend complete r.handover) []
  | .initReplica activeNode standbyNode leaseMs epoch transitionSequence nowMs =>
    r.ended (handoverInitReplica store activeNode standbyNode leaseMs epoch transitionSequence nowMs
      r.handover) []
  | .snapshot =>
    let (result, handover) := handoverSnapshot store r.handover
    r.ended (result.map fun _ => (), handover) []
  | .renew node expectedEpoch nowMs =>
    r.ended (handoverRenew store node expectedEpoch nowMs r.handover) [.renewed expectedEpoch]
  | .requestFence expectedEpoch nowMs sent =>
    r.ended (handoverRequestFence store expectedEpoch nowMs sent r.handover) []
  | .confirmFenced expectedEpoch nowMs =>
    match handoverConfirmBegin store expectedEpoch nowMs r.handover with
    | (.error e, handover) => (some (.error e), { r with handover := handover })
    | (.ok asked, handover) =>
      (none, { r with handover := handover, waiting := r.waiting ++ [asked] })
  | .readback thread confirmed =>
    match r.waiting[thread]? with
    | none => (none, r)
    | some asked =>
      { r with waiting := r.waiting.eraseIdx thread }.ended
        (handoverConfirmEnd store asked confirmed r.handover) [.confirmed asked.expectedEpoch]
  | .takeover candidateNode expectedEpoch nowMs =>
    r.ended (handoverTakeover store candidateNode expectedEpoch nowMs r.handover)
      [.tookOver candidateNode expectedEpoch]

def HandoverRun.run (r : HandoverRun ω) (calls : List HandoverCall) : HandoverRun ω :=
  calls.foldl (fun r call => (r.step store call).2) r

def HandoverRun.status (r : HandoverRun ω) : Option HandoverStatus :=
  (handoverSnapshot store r.handover).1.toOption

/-- A renewal that an earlier clock lets pass although the fence of its epoch is confirmed. -/
def HandoverRun.LateRenewal (r : HandoverRun ω) : HandoverCall → Prop
  | .renew node expectedEpoch nowMs => ∃ status ∈ r.status store, node = status.activeNode ∧
      expectedEpoch = status.epoch ∧ nowMs < status.leaseDeadlineMs ∧
      status.fencedEpoch = status.epoch
  | _ => False

def HandoverRun.Orderly (r : HandoverRun ω) : List HandoverCall → Prop
  | [] => True
  | call :: calls => ¬ r.LateRenewal store call ∧ (r.step store call).2.Orderly calls

end ReistOs.Handover
