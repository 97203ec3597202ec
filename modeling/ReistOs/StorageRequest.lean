import ReistOs.Attempt
import ReistOs.Crc32
import ReistOs.SlotToken
import ReistOs.StorageControl

/-! The records of `kernel/init/storage_request_pool.c`: the request slots with their frames, the
bulk buffers, the bound service and the fences of the mutated resources, without the counters. -/

namespace ReistOs.RequestPool

open Attempt

inductive StorageError
  | eio
  | eagain
  | eacces
  | ebusy
  | einval
  | enospc
  | eintegrity
  | emsgsize
  | etimedout
  | ecanceled
  deriving DecidableEq

def storageRequestPoolCapacity : Nat := 8
def storageRequestBulkCapacity : Nat := 2
def storageRequestBlockSize : Nat := 512
def storageRequestMaxPerClient : Nat := 2
def storageRequestMaxTimeoutMs : UInt32 := 60000
def storageRequestBulkMaxBytes : Nat := 128 * 1024
def storageRequestVersion : UInt32 := 1
/-- `sizeof(storage_request_submit_t)` -/
def storageRequestSubmitSize : UInt32 := 28
def storageHandleGenerationMax : UInt32 := 0x00ffffff
def storageMutationResources : Nat := 32

abbrev StorageSlot := Fin storageRequestPoolCapacity
abbrev StorageBulkIndex := Fin storageRequestBulkCapacity

/-- `storage_request_operation_t` -/
inductive StorageOperation
  | blockRead
  | blockWrite
  | blockFlush
  | vfsRead
  | vfsWrite
  | vfsSync
  | formatFat12
  | formatFat32
  | formatFat32Scan
  | formatFat32Prepare
  | checkFat12
  | repairFat12Mirror
  | repairFat12Chains
  | repairFat12ShortFiles
  | reclaimFat12Orphans
  | repairFat12Loops
  | repairFat12DirectoryLoops
  | repairFat12ShortLoops
  | repairFat12Crosslinks
  | repairFat12DirectorySize
  | repairFat12VolumeLabel
  | repairFat12ZeroFiles
  | repairFat12ZeroStartFiles
  | repairFat12DotSize
  | repairFat12DotCluster
  | repairFat12RequiredCrosslinks
  | repairFat12DirectoryCrosslinks
  | repairFat12DirectoryTopology
  | salvageFat12Orphans
  | recordFat12BadSector
  | vfsShadowStat
  | vfsBulkRead
  | vfsSymlink
  | vfsNamespace
  | vfsObjectMutate
  deriving DecidableEq

/-- The flushes and the maintenance operations carry no data. -/
def StorageOperation.lengthless : StorageOperation → Bool
  | .blockRead | .blockWrite | .vfsRead | .vfsWrite | .vfsShadowStat | .vfsBulkRead | .vfsSymlink
  | .vfsNamespace | .vfsObjectMutate => false
  | _ => true

def operationHasInput : StorageOperation → Bool
  | .blockWrite | .vfsWrite | .vfsShadowStat | .vfsBulkRead | .vfsSymlink | .vfsNamespace
  | .vfsObjectMutate => true
  | _ => false

def operationHasOutput : StorageOperation → Bool
  | .blockRead | .vfsRead | .vfsShadowStat | .vfsBulkRead | .vfsSymlink | .vfsNamespace
  | .vfsObjectMutate => true
  | _ => false

inductive StorageSlotState
  | free
  | queued
  | claimed
  | complete
  | retired
  | cancelPending
  | inputPending
  | delivering
  | deliveryCancelled
  | delivered
  deriving DecidableEq

inductive StorageMutationState
  | unbound
  | bound
  | attempted
  | finishedNoEffect
  | finishedDurable
  | finishedUnknown
  deriving DecidableEq

/-- `storage_service_identity_t`, and the pid and generation of a client. -/
structure StorageIdentity where
  pid : Int
  generation : UInt32
  deriving DecidableEq

def StorageIdentity.none : StorageIdentity := ⟨0, 0⟩

def StorageIdentity.live (identity : StorageIdentity) : Bool :=
  0 < identity.pid && identity.generation != 0

def identityValid (identity : StorageIdentity) : Bool :=
  identity.pid == 0 && identity.generation == 0 || identity.live

structure StorageSlotMetadata where
  state : StorageSlotState
  generation : UInt32
  operation : Option StorageOperation
  client : StorageIdentity
  service : StorageIdentity
  resource : Nat
  offset : Nat
  length : Nat
  result : Int
  deadlineMs : UInt64
  mutationResourcePlusOne : Nat
  mutationState : StorageMutationState
  deriving DecidableEq

def StorageSlotMetadata.vacant (state : StorageSlotState) (generation : UInt32) :
    StorageSlotMetadata :=
  { state := state
    generation := generation
    operation := none
    client := .none
    service := .none
    resource := 0
    offset := 0
    length := 0
    result := 0
    deadlineMs := 0
    mutationResourcePlusOne := 0
    mutationState := .unbound }

def StorageSlotState.Idle (state : StorageSlotState) : Prop := state = .free ∨ state = .retired

instance (state : StorageSlotState) : Decidable state.Idle := by
  unfold StorageSlotState.Idle
  infer_instance

def StorageSlotState.delivery : StorageSlotState → Bool
  | .delivering | .deliveryCancelled | .delivered => true
  | _ => false

def operationLengthValid (operation : StorageOperation) (length : Nat) : Bool :=
  if operation.lengthless then length == 0
  else if operation = .blockRead ∨ operation = .blockWrite then length == storageRequestBlockSize
  else length != 0 && length ≤ storageRequestBlockSize

def requestValid (m : StorageSlotMetadata) (operation : StorageOperation) : Bool :=
  m.generation != 0 && m.client.live && m.deadlineMs != 0 &&
  (!(m.state == .queued || m.state == .inputPending) ||
    m.service.pid == 0 && m.service.generation == 0) &&
  (m.state != .inputPending || operation == .vfsObjectMutate && m.offset != 0) &&
  (operation != .vfsObjectMutate || m.resource == 0 && m.length == storageRequestBlockSize &&
    m.offset ≤ storageRequestBulkMaxBytes) &&
  (!(m.state == .claimed || m.state == .cancelPending) || m.service.live) &&
  (m.state != .complete || identityValid m.service) && operationLengthValid operation m.length

def metadataValid (m : StorageSlotMetadata) : Bool :=
  m.generation ≤ storageHandleGenerationMax && m.length ≤ storageRequestBlockSize &&
  m.mutationResourcePlusOne ≤ storageMutationResources &&
  (m.mutationState != .unbound) == (m.mutationResourcePlusOne != 0) &&
  (m.mutationState == .unbound || m.operation == some .vfsObjectMutate && m.service.live &&
    m.state != .queued && m.state != .inputPending) &&
  (!m.state.delivery || m.operation == some .vfsObjectMutate) &&
  (if m.state.Idle then m == .vacant m.state m.generation
  else m.operation.any (requestValid m))

structure StorageDataCopy where
  bytes : Vector UInt8 storageRequestBlockSize
  length : Nat
  crc32 : UInt32
  deriving DecidableEq

def StorageDataCopy.empty : StorageDataCopy := ⟨Vector.replicate storageRequestBlockSize 0, 0, 0⟩

def StorageDataCopy.data (copy : StorageDataCopy) : List UInt8 := copy.bytes.toList.take copy.length

def StorageDataCopy.valid (copy : StorageDataCopy) (expectedLength : Nat) : Bool :=
  copy.length == expectedLength && copy.crc32 == Crc32.crc32 copy.data

def StorageDataCopy.of (data : Vector UInt8 storageRequestBlockSize) (length : Nat) :
    StorageDataCopy :=
  { bytes := Vector.ofFn fun i => if i.val < length then data[i] else 0
    length := length
    crc32 := Crc32.crc32 (data.toList.take length) }

inductive StorageBulkState
  | free
  | reserved
  | writing
  | published
  | reading
  | revoked
  | consumed
  deriving DecidableEq

structure StorageBulkSlot where
  state : StorageBulkState
  requestHandle : UInt32
  length : Nat
  crc32 : UInt32
  bytes : List UInt8

def StorageBulkSlot.clear (bulk : StorageBulkSlot) : StorageBulkSlot :=
  { bulk with
    state := .free
    requestHandle := 0
    length := 0
    crc32 := 0 }

def StorageBulkSlot.fill (bulk : StorageBulkSlot) (data : List UInt8) : StorageBulkSlot :=
  { bulk with bytes := data ++ bulk.bytes.drop data.length }

/-- `critical_object_t`: two sealed copies of a payload. `intact` says that a copy still passes its
seal and that no publication lock was left behind. -/
structure CriticalObject (α : Type) where
  payload : α
  sequence : UInt32
  intact : Bool

section Objects

variable {α : Type}

def CriticalObject.init (payload : α) : CriticalObject α := ⟨payload, 1, true⟩

def CriticalObject.readable (object : CriticalObject α) (valid : α → Bool) : Bool :=
  object.intact && valid object.payload

/-- An update checks what it replaces, and ends for good with the last sequence number. -/
def CriticalObject.writable (object : CriticalObject α) (valid : α → Bool) : Bool :=
  object.readable valid && object.sequence + 1 != 0

def CriticalObject.update (object : CriticalObject α) (payload : α) : CriticalObject α :=
  { object with
    payload := payload
    sequence := object.sequence + 1 }

end Objects

/-- A copy of a bulk buffer outside the lock, with what its caller goes on with. -/
inductive StorageCopy
  | inputPublish (client : StorageIdentity) (handle : UInt32) (bulk : StorageBulkIndex)
    (data : List UInt8)
  | inputTake (service : StorageIdentity) (handle : UInt32) (bulk : StorageBulkIndex)
    (length : Nat) (crc : UInt32) (nowMs : UInt64)
  | bulkPublish (handle : UInt32) (bulk : StorageBulkIndex) (data : List UInt8)
  | bulkCollect (handle : UInt32) (bulk : StorageBulkIndex) (slot : StorageSlot)
    (metadata : StorageSlotMetadata) (frame : List UInt8) (length : Nat) (crc : UInt32)

/-- The state of the file after its initialisation. -/
structure StoragePool where
  metadata : StorageSlot → CriticalObject StorageSlotMetadata
  primary : StorageSlot → StorageDataCopy
  shadow : StorageSlot → StorageDataCopy
  bulk : StorageBulkIndex → StorageBulkSlot
  service : CriticalObject StorageIdentity
  fences : CriticalObject UInt32
  poisoned : Bool
  copies : List StorageCopy

abbrev Pool := Attempt Unit StorageError StoragePool

section Records

variable {α : Type}

def mutationPoison : Pool α := do
  modify fun s => { s with poisoned := true }
  fail .eintegrity

def loadMetadata (slot : StorageSlot) : Pool StorageSlotMetadata := do
  let s ← get
  if (s.metadata slot).readable metadataValid then pure (s.metadata slot).payload
  else mutationPoison

def StoragePool.setMetadata (s : StoragePool) (slot : StorageSlot) (value : StorageSlotMetadata) :
    StoragePool :=
  { s with metadata := Function.update s.metadata slot ((s.metadata slot).update value) }

def storeMetadata (slot : StorageSlot) (value : StorageSlotMetadata) : Pool Unit := do
  let s ← get
  if (s.metadata slot).writable metadataValid then modify fun s => s.setMetadata slot value
  else mutationPoison

def mutationFencesValid (_ : UInt32) : Bool := true

def mutationFencesRead : Pool UInt32 := do
  let s ← get
  refuse s.poisoned .eintegrity
  if s.fences.readable mutationFencesValid then pure s.fences.payload
  else mutationPoison

def StoragePool.setFences (s : StoragePool) (mask : UInt32) : StoragePool :=
  { s with fences := s.fences.update mask }

def mutationFencesUpdate (mask : UInt32) : Pool Unit := do
  let s ← get
  if s.fences.writable mutationFencesValid then modify fun s => s.setFences mask else mutationPoison

def StorageMutationState.Effectful (state : StorageMutationState) : Prop :=
  state = .attempted ∨ state = .finishedDurable ∨ state = .finishedUnknown

instance (state : StorageMutationState) : Decidable state.Effectful := by
  unfold StorageMutationState.Effectful
  infer_instance

def StorageSlotMetadata.mutationResource (m : StorageSlotMetadata) : Nat :=
  m.mutationResourcePlusOne - 1

def mutationFenceLost (m : StorageSlotMetadata) : Pool Unit :=
  if m.mutationState.Effectful then do
    let mask ← mutationFencesRead
    if Names mask m.mutationResource then pure ()
    else mutationFencesUpdate (mask ||| resourceBit m.mutationResource)
  else pure ()

def loadIdentity : Pool StorageIdentity := do
  let s ← get
  refuse (!s.service.readable identityValid) .eintegrity
  pure s.service.payload

def storeIdentity (identity : StorageIdentity) : Pool Unit := do
  let s ← get
  refuse (!s.service.writable identityValid) .eintegrity
  modify fun s => { s with service := s.service.update identity }

def StoragePool.setFrame (s : StoragePool) (slot : StorageSlot) (primary shadow : StorageDataCopy) :
    StoragePool :=
  { s with
    primary := Function.update s.primary slot primary
    shadow := Function.update s.shadow slot shadow }

def clearData (slot : StorageSlot) : Pool Unit := modify fun s => s.setFrame slot .empty .empty

def storeData (slot : StorageSlot) (data : Vector UInt8 storageRequestBlockSize) (length : Nat) :
    Pool Unit := modify fun s => s.setFrame slot (.of data length) (.of data length)

/-- Reads a frame, and repairs the copy that does not pass from the one that does. -/
def loadData (slot : StorageSlot) (expectedLength : Nat) : Pool (List UInt8) := do
  let s ← get
  let primaryValid := (s.primary slot).valid expectedLength
  let shadowValid := (s.shadow slot).valid expectedLength
  refuse (!primaryValid && !shadowValid) .eintegrity
  let primary := if primaryValid then s.primary slot else s.shadow slot
  let shadow := if shadowValid then s.shadow slot else s.primary slot
  modify fun s => s.setFrame slot primary shadow
  pure primary.data

end Records

def storageMakeHandle (slot : StorageSlot) (generation : UInt32) : UInt32 := slotToken slot.val generation

def storageHandleSlot (handle : UInt32) : Option StorageSlot :=
  let encoded := (handle &&& 0xff).toNat
  if h : 1 ≤ encoded ∧ encoded ≤ storageRequestPoolCapacity then some ⟨encoded - 1, by omega⟩ else none

def storageSlots : List StorageSlot := List.finRange storageRequestPoolCapacity
def storageBulkSlots : List StorageBulkIndex := List.finRange storageRequestBulkCapacity

def StoragePool.bulkFind (s : StoragePool) (handle : UInt32) : Option StorageBulkIndex :=
  storageBulkSlots.find? fun b => (s.bulk b).state != .free && (s.bulk b).requestHandle == handle

def StoragePool.bulkVacant (s : StoragePool) : Option StorageBulkIndex :=
  storageBulkSlots.find? fun b => (s.bulk b).state == .free

def StoragePool.setBulk (s : StoragePool) (b : StorageBulkIndex) (bulk : StorageBulkSlot) :
    StoragePool := { s with bulk := Function.update s.bulk b bulk }

def bulkSetState (b : StorageBulkIndex) (state : StorageBulkState) : Pool Unit :=
  modify fun s => s.setBulk b { s.bulk b with state := state }

def bulkClear (b : StorageBulkIndex) : Pool Unit := modify fun s => s.setBulk b (s.bulk b).clear

def bulkReserve (handle : UInt32) : Pool Bool := do
  let s ← get
  match s.bulkVacant with
  | none => pure false
  | some b => do
    modify fun s =>
      s.setBulk b { s.bulk b with state := .reserved, requestHandle := handle, length := 0, crc32 := 0 }
    pure true

/-- A buffer that is being copied is only revoked: its copier clears it. -/
def StorageBulkSlot.released (bulk : StorageBulkSlot) : StorageBulkSlot :=
  if bulk.state = .writing ∨ bulk.state = .reading ∨ bulk.state = .revoked then
    { bulk with state := .revoked }
  else bulk.clear

def bulkRelease (handle : UInt32) : Pool Unit := do
  let s ← get
  match s.bulkFind handle with
  | none => pure ()
  | some b => modify fun s => s.setBulk b (s.bulk b).released

def resolveHandle (handle : UInt32) : Pool (StorageSlot × StorageSlotMetadata) :=
  match storageHandleSlot handle with
  | none => fail .einval
  | some slot => do
    refuse (handle >>> 8 = 0) .einval
    let m ← loadMetadata slot
    refuse (m.generation ≠ handle >>> 8 ∨ m.state.Idle) .einval
    pure (slot, m)

/-- What a released slot holds: a generation is never used again. -/
def StorageSlotMetadata.replacement (m : StorageSlotMetadata) : StorageSlotMetadata :=
  if m.generation = storageHandleGenerationMax then .vacant .retired storageHandleGenerationMax
  else .vacant .free (m.generation + 1)

def releaseSlot (slot : StorageSlot) (m : StorageSlotMetadata) : Pool Unit := do
  mutationFenceLost m
  bulkRelease (storageMakeHandle slot m.generation)
  clearData slot
  storeMetadata slot m.replacement

end ReistOs.RequestPool
