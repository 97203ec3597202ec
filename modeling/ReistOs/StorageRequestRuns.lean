import ReistOs.StorageRequestPool

/-! Every call of the storage request pool, the damage its memory may take, and the runs of them. -/

namespace ReistOs.RequestPool

open Attempt

inductive StorageCall
  | bindService (service : StorageIdentity)
  | unbindService (service : StorageIdentity)
  | submit (client : StorageIdentity) (request : StorageSubmit)
    (blockData : Option (Vector UInt8 storageRequestBlockSize)) (nowMs : UInt64)
  | claim (service : StorageIdentity) (nowMs : UInt64) (version : StorageDescriptorVersion)
  | complete (service : StorageIdentity) (handle : UInt32) (resultCode : Int)
    (blockData : Option (Vector UInt8 storageRequestBlockSize))
  | completionContext (service : StorageIdentity) (handle : UInt32)
  | collect (client : StorageIdentity) (handle : UInt32) (room : Bool)
  | cancel (client : StorageIdentity) (handle : UInt32)
  | cancelProcess (identity : StorageIdentity)
  | inputPublish (client : StorageIdentity) (handle : UInt32) (data : List UInt8) (nowMs : UInt64)
  | inputTake (service : StorageIdentity) (handle : UInt32) (capacity : Nat) (nowMs : UInt64)
  | mutationContext (service : StorageIdentity) (handle : UInt32) (nowMs : UInt64)
  | mutationBind (service : StorageIdentity) (handle : UInt32) (resource : Nat) (nowMs : UInt64)
  | mutationEffect (service : StorageIdentity) (handle : UInt32) (resource : Nat) (nowMs : UInt64)
  | mutationAuthorized (service : StorageIdentity) (handle : UInt32) (resource : Nat) (nowMs : UInt64)
  | mutationFinish (service : StorageIdentity) (handle : UInt32) (resource : Nat)
    (outcome : StorageMutationOutcome) (nowMs : UInt64)
  | mutationFences (nowMs : UInt64)
  | recoveryReady (service : StorageIdentity) (resource : Nat)
  | recoveryClear (service : StorageIdentity) (resource : Nat)
  | recoveryRefence (resource : Nat)
  | replyBegin (client : StorageIdentity) (handle : UInt32) (nowMs : UInt64)
  | replyEnd (client : StorageIdentity) (handle : UInt32) (copied : Bool) (nowMs : UInt64)
  | replyAck (client : StorageIdentity) (handle : UInt32) (nowMs : UInt64)
  | bulkPublish (service : StorageIdentity) (handle : UInt32) (data : List UInt8)
  | bulkCollect (client : StorageIdentity) (handle : UInt32) (capacity : Nat)
  | endCopy (index : Nat)
  | damageMetadata (slot : StorageSlot)
  | damageService
  | damageFences
  | damageFrame (slot : StorageSlot) (primary shadow : StorageDataCopy)
  | damageBulk (b : StorageBulkIndex) (bytes : List UInt8)

inductive StorageReply
  | done
  | copying
  | submitted (handle : UInt32)
  | claimed (descriptor : StorageClaimed) (data : List UInt8)
  | context (operation : Option StorageOperation) (resource : Nat)
  | collected (result : Int) (data : List UInt8)
  | descriptor (descriptor : StorageDescriptorV3)
  | taken (data : List UInt8)
  | mask (mask : UInt32)
  | bulkCollected (reply : StorageBulkReply)
  deriving DecidableEq

def StorageCopy.finish : StorageCopy → Pool StorageReply
  | .inputPublish client handle b data => do
    inputPublishEnd client handle b data
    pure .done
  | .inputTake service handle b length crc nowMs => do
    let data ← inputTakeEnd service handle b length crc nowMs
    pure (.taken data)
  | .bulkPublish handle b data => do
    bulkPublishEnd handle b data
    pure .done
  | .bulkCollect handle b slot m frame length crc => do
    let reply ← bulkCollectEnd handle b slot m frame length crc
    pure (.bulkCollected reply)

def finishCopy (index : Nat) : Pool StorageReply := do
  let s ← get
  match s.copies[index]? with
  | none => pure .done
  | some copy => do
    modify fun s => { s with copies := s.copies.eraseIdx index }
    copy.finish

def CriticalObject.damaged {α : Type} (object : CriticalObject α) : CriticalObject α :=
  { object with intact := false }

def StorageCall.exec : StorageCall → Pool StorageReply
  | .bindService service => do
    storageRequestBindService service
    pure .done
  | .unbindService service => do
    storageRequestUnbindService service
    pure .done
  | .submit client request blockData nowMs => do
    let handle ← storageRequestSubmit client request blockData nowMs
    pure (.submitted handle)
  | .claim service nowMs version => do
    let (descriptor, data) ← storageRequestClaim service nowMs version
    pure (.claimed descriptor data)
  | .complete service handle resultCode blockData => do
    storageRequestComplete service handle resultCode blockData
    pure .done
  | .completionContext service handle => do
    let (operation, resource) ← storageRequestCompletionContext service handle
    pure (.context operation resource)
  | .collect client handle room => do
    let (result, data) ← storageRequestCollect client handle room
    pure (.collected result data)
  | .cancel client handle => do
    storageRequestCancel client handle
    pure .done
  | .cancelProcess identity => do
    storageRequestCancelProcess identity
    pure .done
  | .inputPublish client handle data nowMs => do
    storageRequestInputPublish client handle data nowMs
    pure .copying
  | .inputTake service handle capacity nowMs => do
    storageRequestInputTake service handle capacity nowMs
    pure .copying
  | .mutationContext service handle nowMs => do
    let descriptor ← storageRequestMutationContext service handle nowMs
    pure (.descriptor descriptor)
  | .mutationBind service handle resource nowMs => do
    storageRequestMutationBind service handle resource nowMs
    pure .done
  | .mutationEffect service handle resource nowMs => do
    storageRequestMutationEffect service handle resource nowMs
    pure .done
  | .mutationAuthorized service handle resource nowMs => do
    storageRequestMutationAuthorized service handle resource nowMs
    pure .done
  | .mutationFinish service handle resource outcome nowMs => do
    storageRequestMutationFinish service handle resource outcome nowMs
    pure .done
  | .mutationFences nowMs => do
    let mask ← storageRequestMutationFences nowMs
    pure (.mask mask)
  | .recoveryReady service resource => do
    storageRequestRecoveryReady service resource
    pure .done
  | .recoveryClear service resource => do
    storageRequestRecoveryClear service resource
    pure .done
  | .recoveryRefence resource => do
    storageRequestRecoveryRefence resource
    pure .done
  | .replyBegin client handle nowMs => do
    let (result, frame) ← storageRequestMutationReplyBegin client handle nowMs
    pure (.collected result frame)
  | .replyEnd client handle copied nowMs => do
    storageRequestMutationReplyEnd client handle copied nowMs
    pure .done
  | .replyAck client handle nowMs => do
    storageRequestMutationReplyAck client handle nowMs
    pure .done
  | .bulkPublish service handle data => do
    storageRequestBulkPublish service handle data
    pure .copying
  | .bulkCollect client handle capacity => do
    let reply ← storageRequestBulkCollect client handle capacity
    pure (reply.elim .copying .bulkCollected)
  | .endCopy index => finishCopy index
  | .damageMetadata slot => do
    modify fun s =>
      { s with metadata := Function.update s.metadata slot (s.metadata slot).damaged }
    pure .done
  | .damageService => do
    modify fun s => { s with service := s.service.damaged }
    pure .done
  | .damageFences => do
    modify fun s => { s with fences := s.fences.damaged }
    pure .done
  | .damageFrame slot primary shadow => do
    modify fun s => s.setFrame slot primary shadow
    pure .done
  | .damageBulk b bytes => do
    modify fun s => s.setBulk b { s.bulk b with bytes := bytes }
    pure .done

def storageRequestPoolInit : StoragePool :=
  { metadata := fun _ => .init (.vacant .free 0)
    primary := fun _ => .empty
    shadow := fun _ => .empty
    bulk := fun _ => ⟨.free, 0, 0, 0, List.replicate storageRequestBulkMaxBytes 0⟩
    service := .init .none
    fences := .init 0
    poisoned := false
    copies := [] }

def StoragePool.result (s : StoragePool) (call : StorageCall) : Except StorageError StorageReply :=
  (call.exec () 0 s).1

def StoragePool.after (s : StoragePool) (call : StorageCall) : StoragePool := (call.exec () 0 s).2.2

/-- A call of a run, with the state it met. -/
structure StorageEvent where
  before : StoragePool
  call : StorageCall
  result : Except StorageError StorageReply

def StoragePool.history (s : StoragePool) (calls : List StorageCall) :
    StoragePool × List StorageEvent :=
  calls.foldl (fun h call => (h.1.after call, ⟨h.1, call, h.1.result call⟩ :: h.2)) (s, [])

def StoragePool.request (s : StoragePool) (handle : UInt32) : Option StorageSlotMetadata :=
  (storageHandleSlot handle).bind fun slot =>
    if (s.metadata slot).payload.generation = handle >>> 8 ∧ ¬ (s.metadata slot).payload.state.Idle then
      some (s.metadata slot).payload
    else none

/-- The request has not ended, and its slot records the effect. -/
def StoragePool.Holds (s : StoragePool) (handle : UInt32) (resource : Nat) : Prop :=
  ∃ m, s.request handle = some m ∧ m.mutationState.Effectful ∧
    m.mutationResourcePlusOne = resource + 1

/-- The reply of a request was copied to its client, and then acknowledged by the client in time and
with a known outcome. -/
def StorageAcknowledged (handle : UInt32) (m : StorageSlotMetadata) (events : List StorageEvent) :
    Prop :=
  ∃ later ack earlier nowMs m', events = later ++ ack :: earlier ∧
    ack.call = .replyAck m.client handle nowMs ∧ ack.result = .ok .done ∧ nowMs < m.deadlineMs ∧
    ack.before.request handle = some m' ∧
    (m'.mutationState = .finishedNoEffect ∨ m'.mutationState = .finishedDurable) ∧
    ∃ copied ∈ earlier, ∃ thenMs, copied.call = .replyEnd m.client handle true thenMs ∧
      copied.result = .ok .done

/-- A recovery of the resource was confirmed after the request ended. -/
def StorageRecovered (handle : UInt32) (resource : Nat) (events : List StorageEvent) : Prop :=
  ∃ clear ∈ events, ∃ service, clear.call = .recoveryClear service resource ∧
    clear.result = .ok .done ∧ clear.before.request handle = none

/-- The effect of a request with the slot `m`, after the events since it. -/
def EffectRemembered (s : StoragePool) (handle : UInt32) (resource : Nat) (m : StorageSlotMetadata)
    (events : List StorageEvent) : Prop :=
  s.Holds handle resource ∨ StorageAcknowledged handle m events ∨ Names s.fences.payload resource ∨
    s.poisoned = true ∨ StorageRecovered handle resource events

/-- Every effect that was allowed met a resource without a fence and is remembered. -/
def EffectsRemembered (s : StoragePool) (events : List StorageEvent) : Prop :=
  ∀ later effect earlier, events = later ++ effect :: earlier →
    ∀ service handle resource nowMs,
      effect.call = .mutationEffect service handle resource nowMs → effect.result = .ok .done →
      ¬ Names effect.before.fences.payload resource ∧ effect.before.poisoned = false ∧
        ∃ m, effect.before.request handle = some m ∧ EffectRemembered s handle resource m later

end ReistOs.RequestPool
