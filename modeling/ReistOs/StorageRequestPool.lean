import ReistOs.StorageRequest

/-! The entries of `kernel/init/storage_request_pool.c`. Each runs under the lock as one program;
one that copies a bulk buffer is one program before the copy and one after it. Every pointer for
results is given. -/

namespace ReistOs.RequestPool

open Attempt

def storageRequestBindService (service : StorageIdentity) : Pool Unit := do
  refuse (¬ service.live) .einval
  let identity ← loadIdentity
  refuse (identity.pid ≠ 0 ∧ identity ≠ service) .eacces
  storeIdentity service

def cancelProcessSlot (identity : StorageIdentity) (slot : StorageSlot) : Pool Unit := do
  let m ← loadMetadata slot
  if m.client = identity ∨ m.service = identity then
    -- The copier of a reply must quiesce before its slot is used again.
    if m.state = .delivering ∨ m.state = .deliveryCancelled then do
      mutationFenceLost m
      storeMetadata slot { m with state := .deliveryCancelled }
    else releaseSlot slot m
  else pure ()

def storageRequestCancelProcess (identity : StorageIdentity) : Pool Unit :=
  if identity.live then
    Attempt.forEach (fun slot => do
      let _ ← (cancelProcessSlot identity slot).outcome
      pure ()) storageSlots
  else pure ()

def unbindIdentity (service : StorageIdentity) : Pool Unit := do
  let identity ← loadIdentity
  if identity = service then storeIdentity .none else pure ()

def storageRequestUnbindService (service : StorageIdentity) : Pool Unit := do
  let _ ← (unbindIdentity service).outcome
  storageRequestCancelProcess service

/-- `storage_request_submit_t`; the operation of a number that names none is `none`. -/
structure StorageSubmit where
  version : UInt32
  structSize : UInt32
  operation : Option StorageOperation
  resource : Nat
  offset : Nat
  length : Nat
  timeoutMs : UInt32

def deadlineAfter (nowMs : UInt64) (timeoutMs : UInt32) : UInt64 :=
  if 0xffffffffffffffff - nowMs < timeoutMs.toUInt64 then 0xffffffffffffffff
  else nowMs + timeoutMs.toUInt64

def StorageSubmit.needsBulk (request : StorageSubmit) (operation : StorageOperation) : Bool :=
  operation == .vfsBulkRead || operation == .vfsObjectMutate && request.offset != 0

def StorageSubmit.checkLength (request : StorageSubmit) (operation : StorageOperation) : Pool Unit := do
  refuse ((operation = .blockRead ∨ operation = .blockWrite) ∧
    request.length ≠ storageRequestBlockSize) .emsgsize
  refuse ((operation = .vfsRead ∨ operation = .vfsWrite) ∧
    (request.length = 0 ∨ storageRequestBlockSize < request.length)) .emsgsize
  refuse ((operation = .vfsShadowStat ∨ operation = .vfsBulkRead ∨ operation = .vfsSymlink ∨
    operation = .vfsNamespace ∨ operation = .vfsObjectMutate) ∧
    request.length ≠ storageRequestBlockSize) .emsgsize
  refuse (operation = .vfsObjectMutate ∧ (request.structSize ≠ storageRequestSubmitSize ∨
    request.resource ≠ 0 ∨ storageRequestBulkMaxBytes < request.offset)) .einval
  refuse ((operation = .vfsSymlink ∨ operation = .vfsNamespace) ∧
    (request.resource ≠ 0 ∨ request.offset ≠ 0)) .einval
  refuse (operation.lengthless ∧ request.length ≠ 0) .emsgsize

def StorageSubmit.metadata (request : StorageSubmit) (operation : StorageOperation)
    (client : StorageIdentity) (nowMs : UInt64) (generation : UInt32) : StorageSlotMetadata :=
  { StorageSlotMetadata.vacant
      (if operation = .vfsObjectMutate ∧ request.offset ≠ 0 then .inputPending else .queued)
      generation with
    operation := some operation
    client := client
    resource := request.resource
    offset := request.offset
    length := request.length
    deadlineMs := deadlineAfter nowMs request.timeoutMs }

def blankBlock : Vector UInt8 storageRequestBlockSize := Vector.replicate storageRequestBlockSize 0

def submitAt (slot : StorageSlot) (m : StorageSlotMetadata) (operation : StorageOperation)
    (needsBulk : Bool) (block : Vector UInt8 storageRequestBlockSize) : Pool UInt32 := do
  storeData slot block (if operationHasInput operation then m.length else 0)
  match ← (storeMetadata slot m).outcome with
  | .error e => do
    clearData slot
    fail e
  | .ok _ => do
    let handle := storageMakeHandle slot m.generation
    let reserved ← (if needsBulk then bulkReserve handle else pure true)
    if reserved then pure handle
    else do
      clearData slot
      let _ ← (storeMetadata slot (.vacant .free (m.generation + 1))).outcome
      fail .enospc

/-- Takes the first free slot, and retires the ones whose generations are used up. -/
def submitIn (request : StorageSubmit) (operation : StorageOperation) (client : StorageIdentity)
    (nowMs : UInt64) (block : Vector UInt8 storageRequestBlockSize) : List StorageSlot → Pool UInt32
  | [] => fail .enospc
  | slot :: rest => do
    let m ← loadMetadata slot
    if m.state ≠ .free then submitIn request operation client nowMs block rest
    else if m.generation = storageHandleGenerationMax then do
      storeMetadata slot (.vacant .retired storageHandleGenerationMax)
      submitIn request operation client nowMs block rest
    else
      submitAt slot (request.metadata operation client nowMs (m.generation + 1)) operation
        (request.needsBulk operation) block

def storageRequestSubmit (client : StorageIdentity) (request : StorageSubmit)
    (blockData : Option (Vector UInt8 storageRequestBlockSize)) (nowMs : UInt64) : Pool UInt32 := do
  refuse (¬ client.live ∨ request.version ≠ storageRequestVersion ∨
    request.structSize < storageRequestSubmitSize ∨ request.timeoutMs = 0 ∨
    storageRequestMaxTimeoutMs < request.timeoutMs) .einval
  match request.operation with
  | none => fail .einval
  | some operation => do
    request.checkLength operation
    refuse (operationHasInput operation ∧ blockData = none) .einval
    Attempt.forEach (fun slot => do
      let _ ← loadMetadata slot
      pure ()) storageSlots
    let s ← get
    let clientRequests := storageSlots.countP fun i =>
      !decide (s.metadata i).payload.state.Idle && (s.metadata i).payload.client == client
    refuse (storageRequestMaxPerClient ≤ clientRequests) .enospc
    refuse (request.needsBulk operation ∧ s.bulkVacant = none) .enospc
    submitIn request operation client nowMs (blockData.getD blankBlock) storageSlots

/-- `storage_request_descriptor_t` -/
structure StorageDescriptor where
  handle : UInt32
  operation : Option StorageOperation
  resource : Nat
  offset : Nat
  length : Nat
  deriving DecidableEq

/-- `storage_request_descriptor_v2_t` -/
structure StorageDescriptorV2 extends StorageDescriptor where
  client : StorageIdentity
  serviceGeneration : UInt32
  deriving DecidableEq

/-- `storage_request_descriptor_v3_t` -/
structure StorageDescriptorV3 extends StorageDescriptorV2 where
  deadlineMs : UInt64
  deriving DecidableEq

inductive StorageClaimed
  | v1 (descriptor : StorageDescriptor)
  | v2 (descriptor : StorageDescriptorV2)
  | v3 (descriptor : StorageDescriptorV3)
  deriving DecidableEq

inductive StorageDescriptorVersion
  | v1
  | v2
  | v3
  deriving DecidableEq

def StorageSlotMetadata.descriptor (m : StorageSlotMetadata) (handle : UInt32) : StorageDescriptorV3 :=
  { handle := handle
    operation := m.operation
    resource := m.resource
    offset := m.offset
    length := m.length
    client := m.client
    serviceGeneration := m.service.generation
    deadlineMs := m.deadlineMs }

def StorageDescriptorVersion.claimed (version : StorageDescriptorVersion)
    (descriptor : StorageDescriptorV3) : StorageClaimed :=
  match version with
  | .v1 => .v1 descriptor.toStorageDescriptor
  | .v2 => .v2 descriptor.toStorageDescriptorV2
  | .v3 => .v3 descriptor

def storageTimedOut : Int := -110

def claimIn (service : StorageIdentity) (nowMs : UInt64) (version : StorageDescriptorVersion) :
    List StorageSlot → Pool (StorageClaimed × List UInt8)
  | [] => fail .eagain
  | slot :: rest => do
    let m ← loadMetadata slot
    if m.state ≠ .queued ∧ m.state ≠ .inputPending then claimIn service nowMs version rest
    else if m.deadlineMs ≤ nowMs then do
      storeMetadata slot { m with state := .complete, result := storageTimedOut }
      claimIn service nowMs version rest
    else if m.state = .inputPending then claimIn service nowMs version rest
    else if m.operation = some .vfsObjectMutate ∧ version ≠ .v3 then
      claimIn service nowMs version rest
    else do
      let data ← (if m.operation.any operationHasInput then loadData slot m.length else pure [])
      let claimed := { m with state := .claimed, service := service }
      storeMetadata slot claimed
      pure (version.claimed (claimed.descriptor (storageMakeHandle slot m.generation)), data)

def storageRequestClaim (service : StorageIdentity) (nowMs : UInt64)
    (version : StorageDescriptorVersion) : Pool (StorageClaimed × List UInt8) := do
  let identity ← loadIdentity
  refuse (identity ≠ service) .eacces
  claimIn service nowMs version storageSlots

/-- The end of the guard must precede a success; an error without it is the unknown outcome of a
mutation that was attempted. -/
def completeMutation (m : StorageSlotMetadata) (resultCode : Int) : Pool StorageSlotMetadata :=
  if m.operation = some .vfsObjectMutate ∧
      (m.mutationState = .bound ∨ m.mutationState = .attempted) then do
    refuse (resultCode = 0) .eagain
    mutationFenceLost m
    pure
      { m with
        mutationState := if m.mutationState = .bound then .finishedNoEffect else .finishedUnknown }
  else pure m

def completeBulk (handle : UInt32) (m : StorageSlotMetadata) (resultCode : Int) : Pool Unit :=
  if m.operation = some .vfsBulkRead then
    if resultCode = 0 then do
      let s ← get
      refuse (¬ (s.bulkFind handle).any fun b => (s.bulk b).state == .published) .einval
    else bulkRelease handle
  else pure ()

def completeOutput (slot : StorageSlot) (m : StorageSlotMetadata) (resultCode : Int)
    (blockData : Option (Vector UInt8 storageRequestBlockSize)) : Pool Unit :=
  if resultCode = 0 ∧ m.operation.any operationHasOutput then
    match blockData with
    | none => fail .einval
    | some block => storeData slot block m.length
  else pure ()

def storageRequestComplete (service : StorageIdentity) (handle : UInt32) (resultCode : Int)
    (blockData : Option (Vector UInt8 storageRequestBlockSize)) : Pool Unit := do
  let (slot, m) ← resolveHandle handle
  refuse ((m.state ≠ .claimed ∧ m.state ≠ .cancelPending) ∨ m.service ≠ service) .eacces
  if m.state = .cancelPending then releaseSlot slot m
  else do
    let m ← completeMutation m resultCode
    (if m.operation = some .vfsObjectMutate ∧ resultCode ≠ 0 then mutationFenceLost m else pure ())
    completeBulk handle m resultCode
    completeOutput slot m resultCode blockData
    storeMetadata slot { m with state := .complete, result := resultCode }

def storageRequestCompletionContext (service : StorageIdentity) (handle : UInt32) :
    Pool (Option StorageOperation × Nat) := do
  let (_, m) ← resolveHandle handle
  refuse ((m.state ≠ .claimed ∧ m.state ≠ .cancelPending) ∨ m.service ≠ service) .eacces
  pure (m.operation, m.resource)

/-- `room` says whether the caller takes the output. -/
def storageRequestCollect (client : StorageIdentity) (handle : UInt32) (room : Bool) :
    Pool (Int × List UInt8) := do
  let (slot, m) ← resolveHandle handle
  refuse (m.client ≠ client) .eacces
  refuse (m.operation = some .vfsObjectMutate) .einval
  refuse (m.state = .cancelPending) .ecanceled
  refuse (m.state ≠ .complete) .eagain
  refuse (m.operation = some .vfsBulkRead) .einval
  let output := decide (m.result = 0) && m.operation.any operationHasOutput
  refuse (output && !room) .einval
  let data ← (if output then loadData slot m.length else pure [])
  releaseSlot slot m
  pure (m.result, data)

def storageRequestCancel (client : StorageIdentity) (handle : UInt32) : Pool Unit := do
  refuse (¬ client.live) .einval
  let (slot, m) ← resolveHandle handle
  refuse (m.client ≠ client) .eacces
  mutationFenceLost m
  if m.state = .deliveryCancelled then pure ()
  else if m.state = .delivering then storeMetadata slot { m with state := .deliveryCancelled }
  else if m.state = .cancelPending then pure ()
  else if m.state = .queued ∨ m.state = .inputPending ∨ m.state = .complete ∨ m.state = .delivered then
    releaseSlot slot m
  else do
    refuse (m.state ≠ .claimed) .einval
    storeMetadata slot { m with state := .cancelPending }

def beginCopy (copy : StorageCopy) : Pool Unit :=
  modify fun s => { s with copies := copy :: s.copies }

def storageRequestInputPublish (client : StorageIdentity) (handle : UInt32) (data : List UInt8)
    (nowMs : UInt64) : Pool Unit := do
  refuse (¬ client.live ∨ data = [] ∨ storageRequestBulkMaxBytes < data.length) .einval
  let (_, m) ← resolveHandle handle
  refuse (m.client ≠ client ∨ m.operation ≠ some .vfsObjectMutate) .eacces
  refuse (m.offset ≠ data.length) .emsgsize
  refuse (m.deadlineMs ≤ nowMs) .etimedout
  let s ← get
  match s.bulkFind handle with
  | none => fail .einval
  | some b => do
    refuse (m.state ≠ .inputPending ∨ (s.bulk b).state ≠ .reserved) .einval
    bulkSetState b .writing
    beginCopy (.inputPublish client handle b data)

def bulkPublished (b : StorageBulkIndex) (data : List UInt8) : Pool Unit :=
  modify fun s =>
    s.setBulk b
      { s.bulk b with state := .published, length := data.length, crc32 := Crc32.crc32 data }

def inputPublished (b : StorageBulkIndex) (slot : StorageSlot) (m : StorageSlotMetadata)
    (data : List UInt8) : Pool Unit := do
  bulkPublished b data
  match ← (storeMetadata slot { m with state := .queued }).outcome with
  | .ok _ => pure ()
  | .error e => do
    bulkClear b
    fail e

def inputPublishEnd (client : StorageIdentity) (handle : UInt32) (b : StorageBulkIndex)
    (data : List UInt8) : Pool Unit := do
  modify fun s => s.setBulk b ((s.bulk b).fill data)
  let resolved ← (resolveHandle handle).outcome
  let s ← get
  refuse ((s.bulk b).requestHandle ≠ handle) .eintegrity
  match resolved with
  | .error _ => do
    bulkClear b
    fail .ecanceled
  | .ok (slot, m) =>
    if (s.bulk b).state = .revoked then do
      bulkClear b
      fail .ecanceled
    else if (s.bulk b).state ≠ .writing ∨ m.state ≠ .inputPending ∨ m.client ≠ client then do
      bulkClear b
      fail .eintegrity
    else inputPublished b slot m data

def mutationClaimed (service : StorageIdentity) (handle : UInt32) (nowMs : UInt64) :
    Pool (StorageSlot × StorageSlotMetadata) := do
  let identity ← loadIdentity
  refuse (¬ service.live ∨ identity ≠ service) .eacces
  let (slot, m) ← resolveHandle handle
  refuse (m.operation ≠ some .vfsObjectMutate ∨ m.service ≠ service) .eacces
  refuse (m.state = .cancelPending) .ecanceled
  refuse (m.state ≠ .claimed) .eacces
  refuse (m.deadlineMs ≤ nowMs) .etimedout
  pure (slot, m)

def storageRequestInputTake (service : StorageIdentity) (handle : UInt32) (capacity : Nat)
    (nowMs : UInt64) : Pool Unit := do
  refuse (capacity = 0 ∨ storageRequestBulkMaxBytes < capacity) .einval
  let (_, m) ← mutationClaimed service handle nowMs
  let s ← get
  match s.bulkFind handle with
  | none => fail .einval
  | some b => do
    let bulk := s.bulk b
    refuse (bulk.state ≠ .published) .einval
    refuse (bulk.length = 0 ∨ bulk.length ≠ m.offset ∨ storageRequestBulkMaxBytes < bulk.length)
      .eintegrity
    refuse (capacity < bulk.length) .emsgsize
    bulkSetState b .reading
    beginCopy (.inputTake service handle b bulk.length bulk.crc32 nowMs)

def inputTakeEnd (service : StorageIdentity) (handle : UInt32) (b : StorageBulkIndex) (length : Nat)
    (crc : UInt32) (nowMs : UInt64) : Pool (List UInt8) := do
  let claimed ← (mutationClaimed service handle nowMs).outcome
  let s ← get
  let data := (s.bulk b).bytes.take length
  refuse ((s.bulk b).requestHandle ≠ handle) .eintegrity
  match claimed with
  | .error e => do
    bulkClear b
    fail e
  | .ok _ =>
    if (s.bulk b).state = .revoked then do
      bulkClear b
      fail .ecanceled
    else if (s.bulk b).state ≠ .reading ∨ Crc32.crc32 data ≠ crc then do
      bulkClear b
      fail .eintegrity
    else do
      bulkSetState b .consumed
      pure data

def inputConsumed (handle : UInt32) (m : StorageSlotMetadata) : Pool Unit := do
  let s ← get
  refuse (m.offset ≠ 0 ∧ ¬ (s.bulkFind handle).any fun b =>
    (s.bulk b).state == .consumed && (s.bulk b).length == m.offset) .eagain

def storageRequestMutationContext (service : StorageIdentity) (handle : UInt32) (nowMs : UInt64) :
    Pool StorageDescriptorV3 := do
  let (_, m) ← mutationClaimed service handle nowMs
  inputConsumed handle m
  pure (m.descriptor handle)

def storageRequestMutationBind (service : StorageIdentity) (handle : UInt32) (resource : Nat)
    (nowMs : UInt64) : Pool Unit := do
  refuse (storageMutationResources ≤ resource) .einval
  let (slot, m) ← mutationClaimed service handle nowMs
  let mask ← mutationFencesRead
  refuse (Names mask resource) .eio
  refuse (m.mutationState ≠ .unbound) .eacces
  inputConsumed handle m
  storeMetadata slot { m with mutationResourcePlusOne := resource + 1, mutationState := .bound }

def mutationIo (service : StorageIdentity) (handle : UInt32) (resource : Nat) (nowMs : UInt64)
    (effect : Bool) : Pool Unit := do
  refuse (storageMutationResources ≤ resource) .einval
  let (slot, m) ← mutationClaimed service handle nowMs
  let mask ← mutationFencesRead
  refuse (Names mask resource) .eio
  refuse (m.mutationResourcePlusOne ≠ resource + 1 ∨
    (m.mutationState ≠ .bound ∧ m.mutationState ≠ .attempted)) .eacces
  if effect ∧ m.mutationState ≠ .attempted then storeMetadata slot { m with mutationState := .attempted }
  else pure ()

def storageRequestMutationEffect (service : StorageIdentity) (handle : UInt32) (resource : Nat)
    (nowMs : UInt64) : Pool Unit := mutationIo service handle resource nowMs true

def storageRequestMutationAuthorized (service : StorageIdentity) (handle : UInt32) (resource : Nat)
    (nowMs : UInt64) : Pool Unit := mutationIo service handle resource nowMs false

inductive StorageMutationOutcome
  | noEffect
  | durable
  | unknown
  deriving DecidableEq

def StorageMutationOutcome.state : StorageMutationOutcome → StorageMutationState
  | .noEffect => .finishedNoEffect
  | .durable => .finishedDurable
  | .unknown => .finishedUnknown

def storageRequestMutationFinish (service : StorageIdentity) (handle : UInt32) (resource : Nat)
    (outcome : StorageMutationOutcome) (nowMs : UInt64) : Pool Unit := do
  refuse (storageMutationResources ≤ resource) .einval
  let (slot, m) ← mutationClaimed service handle nowMs
  refuse (m.mutationResourcePlusOne ≠ resource + 1 ∨
    (m.mutationState ≠ .bound ∧ m.mutationState ≠ .attempted) ∨
    (outcome = .noEffect ∧ m.mutationState = .attempted)) .eacces
  let finished := { m with mutationState := outcome.state }
  (if outcome = .unknown then mutationFenceLost finished else pure ())
  storeMetadata slot finished

def fenceExpired (nowMs : UInt64) (slot : StorageSlot) : Pool Unit := do
  let m ← loadMetadata slot
  if m.deadlineMs ≠ 0 ∧ m.deadlineMs ≤ nowMs then mutationFenceLost m else pure ()

def storageRequestMutationFences (nowMs : UInt64) : Pool UInt32 := do
  let _ ← (if nowMs ≠ 0 then Attempt.forEach (fenceExpired nowMs) storageSlots else pure ()).outcome
  mutationFencesRead

def mutationRecovery (service : StorageIdentity) (resource : Nat) (clear : Bool) : Pool Unit := do
  refuse (storageMutationResources ≤ resource ∨ ¬ service.live) .einval
  let mask ← mutationFencesRead
  let identity ← loadIdentity
  refuse (identity ≠ service) .eacces
  -- A lost reply of a request that is left would fence the resource again.
  Attempt.forEach (fun slot => do
    let m ← loadMetadata slot
    refuse (m.mutationResourcePlusOne = resource + 1) .ebusy) storageSlots
  if clear ∧ Names mask resource then mutationFencesUpdate (mask &&& ~~~resourceBit resource)
  else pure ()

def storageRequestRecoveryReady (service : StorageIdentity) (resource : Nat) : Pool Unit :=
  mutationRecovery service resource false

def storageRequestRecoveryClear (service : StorageIdentity) (resource : Nat) : Pool Unit :=
  mutationRecovery service resource true

def storageRequestRecoveryRefence (resource : Nat) : Pool Unit := do
  refuse (storageMutationResources ≤ resource) .einval
  mutationFenceLost
    { StorageSlotMetadata.vacant .free 0 with
      mutationResourcePlusOne := resource + 1
      mutationState := .finishedUnknown }

def mutationClient (client : StorageIdentity) (handle : UInt32) :
    Pool (StorageSlot × StorageSlotMetadata) := do
  let (slot, m) ← resolveHandle handle
  refuse (m.client ≠ client) .eacces
  refuse (m.operation ≠ some .vfsObjectMutate) .einval
  pure (slot, m)

/-- A frame that does not pass leaves the effects of its request fenced. -/
def replyFrame (slot : StorageSlot) (m : StorageSlotMetadata) : Pool (List UInt8) :=
  if m.result = 0 then do
    match ← (loadData slot m.length).outcome with
    | .ok data => pure data
    | .error e => do
      let _ ← (mutationFenceLost m).outcome
      fail e
  else pure blankBlock.toList

def storageRequestMutationReplyBegin (client : StorageIdentity) (handle : UInt32) (nowMs : UInt64) :
    Pool (Int × List UInt8) := do
  let (slot, m) ← mutationClient client handle
  refuse (m.state ≠ .complete) .eagain
  if m.deadlineMs ≤ nowMs then do
    releaseSlot slot m
    fail .etimedout
  else do
    let frame ← replyFrame slot m
    storeMetadata slot { m with state := .delivering }
    pure (m.result, frame)

def storageRequestMutationReplyEnd (client : StorageIdentity) (handle : UInt32) (copied : Bool)
    (nowMs : UInt64) : Pool Unit := do
  let (slot, m) ← mutationClient client handle
  refuse (m.state ≠ .delivering ∧ m.state ≠ .deliveryCancelled) .eacces
  if !copied ∨ m.state = .deliveryCancelled ∨ m.deadlineMs ≤ nowMs then do
    releaseSlot slot m
    refuse (m.state = .deliveryCancelled) .ecanceled
    refuse (m.deadlineMs ≤ nowMs) .etimedout
  else storeMetadata slot { m with state := .delivered }

/-- Only a reply that was copied and then validated releases its slot without recording a loss. -/
def storageRequestMutationReplyAck (client : StorageIdentity) (handle : UInt32) (nowMs : UInt64) :
    Pool Unit := do
  let (slot, m) ← mutationClient client handle
  refuse (m.state ≠ .delivered) .eacces
  releaseSlot slot
    (if nowMs < m.deadlineMs then { m with mutationState := .unbound, mutationResourcePlusOne := 0 }
    else m)
  refuse (m.deadlineMs ≤ nowMs) .etimedout

def storageRequestBulkPublish (service : StorageIdentity) (handle : UInt32) (data : List UInt8) :
    Pool Unit := do
  refuse (¬ service.live ∨ storageRequestBulkMaxBytes < data.length) .einval
  let (_, m) ← resolveHandle handle
  refuse (m.operation ≠ some .vfsBulkRead ∨ m.state ≠ .claimed ∨ m.service ≠ service) .eacces
  let s ← get
  match s.bulkFind handle with
  | none => fail .einval
  | some b => do
    refuse ((s.bulk b).state ≠ .reserved) .einval
    bulkSetState b .writing
    beginCopy (.bulkPublish handle b data)

def bulkPublishEnd (handle : UInt32) (b : StorageBulkIndex) (data : List UInt8) : Pool Unit := do
  modify fun s => s.setBulk b ((s.bulk b).fill data)
  let s ← get
  if (s.bulk b).requestHandle ≠ handle ∨ (s.bulk b).state = .revoked then do
    bulkClear b
    fail .ecanceled
  else if (s.bulk b).state ≠ .writing then do
    bulkClear b
    fail .eintegrity
  else bulkPublished b data

/-- A reply with its frame and the data of its bulk buffer. -/
structure StorageBulkReply where
  result : Int
  frame : List UInt8
  data : List UInt8
  deriving DecidableEq

def bulkCollectBuffer (handle : UInt32) (capacity : Nat) : Pool StorageBulkIndex := do
  let s ← get
  match s.bulkFind handle with
  | none => fail .eintegrity
  | some b => do
    refuse ((s.bulk b).state ≠ .published) .eintegrity
    refuse (capacity < (s.bulk b).length) .emsgsize
    bulkSetState b .reading
    pure b

def storageRequestBulkCollect (client : StorageIdentity) (handle : UInt32) (capacity : Nat) :
    Pool (Option StorageBulkReply) := do
  refuse (¬ client.live ∨ storageRequestBulkMaxBytes < capacity) .einval
  let (slot, m) ← resolveHandle handle
  refuse (m.client ≠ client) .eacces
  refuse (m.state ≠ .complete) .eagain
  refuse (m.operation ≠ some .vfsBulkRead) .einval
  if m.result = 0 then do
    let b ← bulkCollectBuffer handle capacity
    let frame ← loadData slot storageRequestBlockSize
    let s ← get
    beginCopy (.bulkCollect handle b slot m frame (s.bulk b).length (s.bulk b).crc32)
    pure none
  else do
    let frame ← loadData slot storageRequestBlockSize
    releaseSlot slot m
    pure (some ⟨m.result, frame, []⟩)

def bulkCollectEnd (handle : UInt32) (b : StorageBulkIndex) (slot : StorageSlot)
    (m : StorageSlotMetadata) (frame : List UInt8) (length : Nat) (crc : UInt32) :
    Pool StorageBulkReply := do
  let s ← get
  let data := (s.bulk b).bytes.take length
  bulkClear b
  refuse ((s.bulk b).requestHandle ≠ handle ∨ (s.bulk b).state = .revoked) .ecanceled
  if (s.bulk b).state ≠ .reading ∨ Crc32.crc32 data ≠ crc then do
    let _ ← (releaseSlot slot m).outcome
    fail .eintegrity
  else do
    releaseSlot slot m
    pure ⟨m.result, frame, data⟩

end ReistOs.RequestPool
