import ReistOs.StorageEffects

/-! Who has the bulk buffers of the request pool: every entry that does not reserve or copy one
leaves the buffers and their copiers alone, or releases the buffer of a request. -/

namespace ReistOs.RequestPool

open Attempt

def StorageBulkState.Busy (state : StorageBulkState) : Prop :=
  state = .writing ∨ state = .reading ∨ state = .revoked

def StorageCopy.bulk : StorageCopy → StorageBulkIndex
  | .inputPublish _ _ b _ => b
  | .inputTake _ _ b _ _ _ => b
  | .bulkPublish _ b _ => b
  | .bulkCollect _ b _ _ _ _ _ => b

def StorageCopy.handle : StorageCopy → UInt32
  | .inputPublish _ handle _ _ => handle
  | .inputTake _ handle _ _ _ _ => handle
  | .bulkPublish handle _ _ => handle
  | .bulkCollect handle _ _ _ _ _ _ => handle

/-- Of a buffer: it is between the halves of a copy for the request. -/
def StoragePool.Lent (s : StoragePool) (b : StorageBulkIndex) (handle : UInt32) : Prop :=
  (s.bulk b).state.Busy ∧ (s.bulk b).requestHandle = handle

/-- Every copier has a buffer of its own, and every busy buffer its copier, but for the buffers that
`ending` names. -/
structure StoragePool.Attended (s : StoragePool) (ending : StorageBulkIndex → Prop) : Prop where
  copier : ∀ b, (s.bulk b).state.Busy → ending b ∨ ∃ copy ∈ s.copies, copy.bulk = b
  lent : ∀ copy ∈ s.copies, s.Lent copy.bulk copy.handle
  distinct : (s.copies.map StorageCopy.bulk).Nodup
  apart : ∀ copy ∈ s.copies, ¬ ending copy.bulk

def StorageSlotMetadata.OwnsBulk (m : StorageSlotMetadata) : Prop :=
  m.operation = some .vfsBulkRead ∨ m.operation = some .vfsObjectMutate ∧ m.offset ≠ 0

/-- Every buffer in use carries the handle of a live request that owns a buffer. -/
def StoragePool.BulkOwned (s : StoragePool) : Prop :=
  ∀ b, (s.bulk b).state ≠ .free → ∃ m, s.request (s.bulk b).requestHandle = some m ∧ m.OwnsBulk

/-- A statement about the buffers and their copiers that outlives the release of a request. -/
structure Lasting (P : StoragePool → Prop) : Prop where
  same : ∀ s s', s'.bulk = s.bulk → s'.copies = s.copies → P s → P s'
  released : ∀ s b, (s.bulk b).state ≠ .free → P s → P (s.setBulk b (s.bulk b).released)

variable {α : Type} {P : StoragePool → Prop} {i : StorageSlot} {m : StorageSlotMetadata}
  {handle : UInt32} {client service : StorageIdentity} {nowMs : UInt64} {resource : Nat}

namespace Lasting

theorem modify {g : StoragePool → StoragePool} (h : Lasting P) (hbulk : ∀ s, (g s).bulk = s.bulk)
    (hcopies : ∀ s, (g s).copies = s.copies) : Keeps P (Attempt.modify g : Pool Unit) :=
  Keeps.modify fun s hs => h.same s _ (hbulk s) (hcopies s) hs

theorem poison {Q : α → StoragePool → Prop} (h : Lasting P) :
    Triple P (mutationPoison : Pool α) Q fun _ => P := by
  have hset : Keeps P (Attempt.modify fun s => { s with poisoned := true } : Pool Unit) :=
    h.modify (fun _ => rfl) fun _ => rfl
  exact Triple.bind hset fun _ => Triple.fail fun _ hs => hs

theorem load (h : Lasting P) : Keeps P (loadMetadata i) :=
  Keeps.get.bind fun _ => Keeps.guard fun _ => h.poison

theorem store (h : Lasting P) : Keeps P (storeMetadata i m) :=
  Keeps.get.bind fun _ => Keeps.ite (fun _ => h.modify (fun _ => rfl) fun _ => rfl) fun _ => h.poison

theorem fencesRead (h : Lasting P) : Keeps P mutationFencesRead :=
  Keeps.get.bind fun _ => Keeps.refuse.bind fun _ => Keeps.guard fun _ => h.poison

theorem fencesUpdate {mask : UInt32} (h : Lasting P) : Keeps P (mutationFencesUpdate mask) :=
  Keeps.get.bind fun _ => Keeps.ite (fun _ => h.modify (fun _ => rfl) fun _ => rfl) fun _ => h.poison

theorem fenceLost (h : Lasting P) : Keeps P (mutationFenceLost m) :=
  Keeps.ite (fun _ => h.fencesRead.bind fun _ => Keeps.guard fun _ => h.fencesUpdate)
    fun _ => Keeps.pure

theorem identity : Keeps P loadIdentity := Keeps.get.bind fun _ => Keeps.refuse.bind fun _ => Keeps.pure

theorem setIdentity (h : Lasting P) : Keeps P (storeIdentity service) :=
  Keeps.get.bind fun _ => Keeps.refuse.bind fun _ => h.modify (fun _ => rfl) fun _ => rfl

theorem setFrame {primary shadow : StorageDataCopy} (h : Lasting P) :
    Keeps P (Attempt.modify fun s => s.setFrame i primary shadow : Pool Unit) :=
  h.modify (fun _ => rfl) fun _ => rfl

theorem frame {length : Nat} (h : Lasting P) : Keeps P (loadData i length) :=
  Keeps.get.bind fun _ => Keeps.refuse.bind fun _ => h.setFrame.bind fun _ => Keeps.pure

theorem bulkRelease (h : Lasting P) : Keeps P (bulkRelease handle) := by
  refine Triple.start fun s hs => Triple.read ?_
  cases hfind : s.bulkFind handle with
  | none => exact Triple.done hs
  | some b => exact Triple.updated (h.released s b (bulkFind_some hfind).1 hs)

theorem resolve (h : Lasting P) : Keeps P (resolveHandle handle) := by
  unfold resolveHandle
  cases storageHandleSlot handle with
  | none => exact Keeps.fail
  | some i => exact Keeps.refuse.bind fun _ => h.load.bind fun _ => Keeps.refuse.bind fun _ => Keeps.pure

theorem releaseSlot (h : Lasting P) : Keeps P (releaseSlot i m) :=
  h.fenceLost.bind fun _ => h.bulkRelease.bind fun _ => h.setFrame.bind fun _ => h.store

section

variable (h : Lasting P)
include h

theorem bindService : Keeps P (storageRequestBindService service) :=
  Keeps.refuse.bind fun _ => identity.bind fun _ => Keeps.refuse.bind fun _ => h.setIdentity

theorem cancelProcess : Keeps P (storageRequestCancelProcess service) := by
  have hslot : ∀ i, Keeps P (cancelProcessSlot service i) := fun i =>
    h.load.bind fun _ => Keeps.ite (fun _ => Keeps.ite (fun _ => h.fenceLost.bind fun _ => h.store)
      fun _ => h.releaseSlot) fun _ => Keeps.pure
  exact Keeps.ite (fun _ => Keeps.forEach fun i _ => (hslot i).outcome.bind fun _ => Keeps.pure)
    fun _ => Keeps.pure

theorem unbindService : Keeps P (storageRequestUnbindService service) := by
  have hunbind : Keeps P (unbindIdentity service) :=
    identity.bind fun _ => Keeps.ite (fun _ => h.setIdentity) fun _ => Keeps.pure
  exact hunbind.outcome.bind fun _ => h.cancelProcess

variable {version : StorageDescriptorVersion}

theorem claimIn (slots : List StorageSlot) : Keeps P (claimIn service nowMs version slots) := by
  induction slots with
  | nil => exact Keeps.fail
  | cons i rest ih =>
    refine h.load.bind fun m => Keeps.ite (fun _ => ih) fun _ =>
      Keeps.ite (fun _ => h.store.bind fun _ => ih) fun _ => Keeps.ite (fun _ => ih) fun _ =>
      Keeps.ite (fun _ => ih) fun _ => ?_
    have hdata : Keeps P (if m.operation.any operationHasInput = true then loadData i m.length
        else Pure.pure []) := Keeps.ite (fun _ => h.frame) fun _ => Keeps.pure
    exact hdata.bind fun _ => h.store.bind fun _ => Keeps.pure

theorem claim : Keeps P (storageRequestClaim service nowMs version) :=
  identity.bind fun _ => Keeps.refuse.bind fun _ => h.claimIn storageSlots

theorem complete {resultCode : Int} {blockData : Option (Vector UInt8 storageRequestBlockSize)} :
    Keeps P (storageRequestComplete service handle resultCode blockData) := by
  have hmutation : ∀ m, Keeps P (completeMutation m resultCode) := fun m =>
    Keeps.ite (fun _ => Keeps.refuse.bind fun _ => h.fenceLost.bind fun _ => Keeps.pure) fun _ => Keeps.pure
  have hlost : ∀ m : StorageSlotMetadata, Keeps P (if m.operation = some .vfsObjectMutate ∧ resultCode ≠ 0
      then mutationFenceLost m else Pure.pure ()) := fun m =>
    Keeps.ite (fun _ => h.fenceLost) fun _ => Keeps.pure
  have hbulk : ∀ m, Keeps P (completeBulk handle m resultCode) := fun m =>
    Keeps.ite (fun _ => Keeps.ite (fun _ => Keeps.get.bind fun _ => Keeps.refuse) fun _ => h.bulkRelease)
      fun _ => Keeps.pure
  have houtput : ∀ i m, Keeps P (completeOutput i m resultCode blockData) := by
    intro i m
    refine Keeps.ite (fun _ => ?_) fun _ => Keeps.pure
    cases blockData with
    | none => exact Keeps.fail
    | some block => exact h.setFrame
  exact h.resolve.bind fun ⟨i, m⟩ => Keeps.refuse.bind fun _ => Keeps.ite (fun _ => h.releaseSlot)
    fun _ => (hmutation m).bind fun m => (hlost m).bind fun _ => (hbulk m).bind fun _ =>
      (houtput i m).bind fun _ => h.store

theorem completionContext : Keeps P (storageRequestCompletionContext service handle) :=
  h.resolve.bind fun ⟨_, _⟩ => Keeps.refuse.bind fun _ => Keeps.pure

theorem collect {room : Bool} : Keeps P (storageRequestCollect client handle room) :=
  h.resolve.bind fun ⟨_, _⟩ => Keeps.refuse.bind fun _ => Keeps.refuse.bind fun _ =>
    Keeps.refuse.bind fun _ => Keeps.refuse.bind fun _ => Keeps.refuse.bind fun _ =>
    Keeps.refuse.bind fun _ => (Keeps.ite (fun _ => h.frame) fun _ => Keeps.pure).bind fun _ =>
    h.releaseSlot.bind fun _ => Keeps.pure

theorem cancel : Keeps P (storageRequestCancel client handle) :=
  Keeps.refuse.bind fun _ => h.resolve.bind fun ⟨_, _⟩ => Keeps.refuse.bind fun _ =>
    h.fenceLost.bind fun _ => Keeps.guard fun _ => Keeps.ite (fun _ => h.store) fun _ =>
    Keeps.guard fun _ => Keeps.ite (fun _ => h.releaseSlot) fun _ =>
    Keeps.refuse.bind fun _ => h.store

end

theorem claimed (h : Lasting P) : Keeps P (mutationClaimed service handle nowMs) :=
  identity.bind fun _ => Keeps.refuse.bind fun _ => h.resolve.bind fun ⟨_, _⟩ => Keeps.refuse.bind fun _ =>
    Keeps.refuse.bind fun _ => Keeps.refuse.bind fun _ => Keeps.refuse.bind fun _ => Keeps.pure

theorem consumed : Keeps P (inputConsumed handle m) := Keeps.get.bind fun _ => Keeps.refuse

variable (h : Lasting P)
include h

theorem mutationContext : Keeps P (storageRequestMutationContext service handle nowMs) :=
  h.claimed.bind fun ⟨_, _⟩ => consumed.bind fun _ => Keeps.pure

theorem mutationBind : Keeps P (storageRequestMutationBind service handle resource nowMs) :=
  Keeps.refuse.bind fun _ => h.claimed.bind fun ⟨_, _⟩ => h.fencesRead.bind fun _ =>
    Keeps.refuse.bind fun _ => Keeps.refuse.bind fun _ => consumed.bind fun _ => h.store

theorem mutationIo {effect : Bool} : Keeps P (mutationIo service handle resource nowMs effect) :=
  Keeps.refuse.bind fun _ => h.claimed.bind fun ⟨_, _⟩ => h.fencesRead.bind fun _ =>
    Keeps.refuse.bind fun _ => Keeps.refuse.bind fun _ => Keeps.ite (fun _ => h.store) fun _ => Keeps.pure

theorem mutationFinish {outcome : StorageMutationOutcome} :
    Keeps P (storageRequestMutationFinish service handle resource outcome nowMs) :=
  Keeps.refuse.bind fun _ => h.claimed.bind fun ⟨_, _⟩ => Keeps.refuse.bind fun _ =>
    (Keeps.ite (fun _ => h.fenceLost) fun _ => Keeps.pure).bind fun _ => h.store

theorem mutationFences : Keeps P (storageRequestMutationFences nowMs) := by
  have hslot : ∀ i, Keeps P (fenceExpired nowMs i) := fun i =>
    h.load.bind fun _ => Keeps.ite (fun _ => h.fenceLost) fun _ => Keeps.pure
  exact (Keeps.ite (fun _ => Keeps.forEach fun i _ => hslot i) fun _ => Keeps.pure).outcome.bind
    fun _ => h.fencesRead

theorem mutationRecovery {clear : Bool} : Keeps P (mutationRecovery service resource clear) :=
  Keeps.refuse.bind fun _ => h.fencesRead.bind fun _ => identity.bind fun _ => Keeps.refuse.bind fun _ =>
    (Keeps.forEach fun _ _ => h.load.bind fun _ => Keeps.refuse).bind fun _ =>
    Keeps.ite (fun _ => h.fencesUpdate) fun _ => Keeps.pure

theorem recoveryRefence : Keeps P (storageRequestRecoveryRefence resource) :=
  Keeps.refuse.bind fun _ => h.fenceLost

theorem replying : Keeps P (mutationClient client handle) :=
  h.resolve.bind fun ⟨_, _⟩ => Keeps.refuse.bind fun _ => Keeps.refuse.bind fun _ => Keeps.pure

theorem replyBegin : Keeps P (storageRequestMutationReplyBegin client handle nowMs) := by
  have hframe : ∀ i m, Keeps P (replyFrame i m) := by
    intro i m
    refine Keeps.ite (fun _ => h.frame.outcome.bind fun r => ?_) fun _ => Keeps.pure
    cases r with
    | ok data => exact Keeps.pure
    | error e => exact h.fenceLost.outcome.bind fun _ => Keeps.fail
  exact h.replying.bind fun ⟨i, m⟩ => Keeps.refuse.bind fun _ =>
    Keeps.ite (fun _ => h.releaseSlot.bind fun _ => Keeps.fail) fun _ =>
    (hframe i m).bind fun _ => h.store.bind fun _ => Keeps.pure

theorem replyEnd {copied : Bool} :
    Keeps P (storageRequestMutationReplyEnd client handle copied nowMs) :=
  h.replying.bind fun ⟨_, _⟩ => Keeps.refuse.bind fun _ => Keeps.ite
    (fun _ => h.releaseSlot.bind fun _ => Keeps.refuse.bind fun _ => Keeps.refuse) fun _ => h.store

theorem replyAck : Keeps P (storageRequestMutationReplyAck client handle nowMs) :=
  h.replying.bind fun ⟨_, _⟩ => Keeps.refuse.bind fun _ => h.releaseSlot.bind fun _ => Keeps.refuse

end Lasting

end ReistOs.RequestPool
