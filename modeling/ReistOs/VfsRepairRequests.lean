import ReistOs.VfsRepair

/-! The entries of `fs/vfs/vfs.c` that change a repair: the repair request itself, journal I/O,
ordinary file object requests, process cleanup and the poll. -/

namespace ReistOs

open Attempt

def fileRepairInvalid (q : FileRepairRequest) : Bool :=
  q.version != reistFileRepairVersion || q.structSize != fileRepairRequestSize ||
  q.operation < reistFileRepairQuery || reistFileRepairAbort < q.operation ||
  fileObjectGuardResources ≤ q.resource || q.flags != 0 || q.reserved0 != 0 || q.reserved1 != 0

def fileRepairBlank (q : FileRepairRequest) : Bool :=
  q.generation == 0 && q.fingerprint == 0 && q.deadlineMs == 0 && q.firstSector == 0 &&
  q.sectorCount == 0 && q.reservedSectors == 0 && q.backupSector == 0

def vfsRepairRecordRead (resource : Nat) : Vfs VfsRepairRecord := do
  let r ← vfsRepairRead resource
  match r with
  | none => fail .enoent
  | some r => pure r

def retireDeadRepair (q : FileRepairRequest) (r : VfsRepairRecord) : Vfs VfsRepairRecord :=
  if r.state = .active ∧ q.operation = reistFileRepairQuery then do
    refuse (q.token ≠ 0 ∨ !fileRepairBlank q) .einval
    let reaped ← draw VfsAnswers.ownerReaped
    refuse (!reaped) .ebusy
    onGuard (fileObjectGuardCleanup r.owner)
    vfsRepairRevoke q.resource
    vfsRepairRecordRead q.resource
  else pure r

def fileRepairAdmit (q : FileRepairRequest) (owner : FileObjectOwner) (r : VfsRepairRecord) :
    Vfs VfsRepairRecord := do
  let fences ← onGuard fileObjectGuardFenced
  refuse (¬ Names fences q.resource) .enoent
  let r ← retireDeadRepair q r
  refuse (q.token ≠ 0 ∨ (r.state ≠ .revoked ∧ r.state ≠ .failed)) .enoent
  let reaped ← draw VfsAnswers.ownerReaped
  refuse (3 ≤ r.attempts ∨ !reaped) .ebusy
  let opened ← draw VfsAnswers.openNodes
  refuse opened .ebusy
  storageRequestRecoveryReady owner q.resource
  pure r

/-- Abort, expired lease, failed handoff or partial publication: every layer is fenced again. -/
def fileRepairFail (q : FileRepairRequest) (r : VfsRepairRecord) (owner : FileObjectOwner)
    (result : Option Errno) : Vfs FileRepairRequest := do
  let _ ← (storageRequestRecoveryRefence q.resource).outcome
  let _ ← (onGuard (fileObjectGuardMergeFences (resourceBit q.resource))).outcome
  let now ← vfsNow
  let _ ← (onGuard (fileObjectGuardRepairFinish r.token owner false now)).outcome
  let _ ← reportMediaFailure q.resource true
  let written ← (vfsRepairWrite q.resource { r with state := .failed }).outcome
  match written, result with
  | .error _, _ => fail .eio
  | .ok _, some e => fail e
  | .ok _, none => pure q

def fileRepairHandOver (resource : Nat) (r : VfsRepairRecord) : Vfs Unit := do
  vfsRepairWrite resource r
  deviceCall
  let result ← draw VfsAnswers.verdict
  ofExcept result
  let now ← vfsNow
  refuse (r.deadlineMs ≤ now) .etimedout

def begunRecord (q : FileRepairRequest) (r : VfsRepairRecord) (owner : FileObjectOwner) (token : UInt32) :
    VfsRepairRecord :=
  { r with
    owner := owner
    deadlineMs := q.deadlineMs
    state := .active
    attempts := r.attempts + 1
    token := token }

def fileRepairReserve (q : FileRepairRequest) (owner : FileObjectOwner) (r : VfsRepairRecord) (now : UInt64) :
    Vfs UInt32 := do
  refuse (!vfsRepairEcho q r ∨ q.deadlineMs ≤ now ∨ 5000 < q.deadlineMs - now) .einval
  let current ← repairCheck q.resource owner r.fingerprint
  refuse (!current) .eio
  let now ← vfsNow
  let epoch ← onGuard (fileObjectGuardSnapshot now)
  let now ← vfsNow
  onGuard (fileObjectGuardRepairBegin q.resource owner epoch now q.deadlineMs)

def fileRepairStart (q : FileRepairRequest) (owner : FileObjectOwner) (r : VfsRepairRecord) (token : UInt32) :
    Vfs FileRepairRequest := do
  let result ← (fileRepairHandOver q.resource (begunRecord q r owner token)).outcome
  match result with
  | .ok _ => pure (vfsRepairOutput q (begunRecord q r owner token))
  | .error e => fileRepairFail q (begunRecord q r owner token) owner (some e)

def fileRepairCommit (q : FileRepairRequest) (owner : FileObjectOwner) (r : VfsRepairRecord) (now : UInt64) :
    Vfs Unit := do
  let (pending, _) ← onGuard (fileObjectGuardJournalIo owner r.token q.resource .check now)
  let context ← onGuard (fileObjectGuardContext owner r.token)
  refuse (pending ∨ !context.repair ∨ !context.attempted) .ebusy
  let current ← repairCheck q.resource owner r.fingerprint
  refuse (!current) .eio
  storageRequestRecoveryClear owner q.resource
  let published ← repairPublish q.resource owner r.fingerprint
  refuse (!published) .eio
  vfsRepairWrite q.resource { r with state := .verified }
  let now ← vfsNow
  onGuard (fileObjectGuardRepairFinish r.token owner true now)

def fileRepairMismatch (q : FileRepairRequest) (owner : FileObjectOwner) (r : VfsRepairRecord) : Bool :=
  !vfsRepairEcho q r || q.token == 0 || r.token != q.token || r.owner != owner ||
  q.deadlineMs != r.deadlineMs || (r.state != .active && r.state != .failed)

def fileRepairClose (q : FileRepairRequest) (owner : FileObjectOwner) (r : VfsRepairRecord) (now : UInt64) :
    Vfs FileRepairRequest :=
  if q.operation = reistFileRepairCommit then do
    let result ← (fileRepairCommit q owner r now).outcome
    match result with
    | .ok _ => pure q
    | .error e => fileRepairFail q r owner (some e)
  else fileRepairFail q r owner none

/-- `vfs_file_repair_request` under the VFS mutex, with the record and the time it has read. -/
def fileRepairOn (q : FileRepairRequest) (owner : FileObjectOwner) (r : VfsRepairRecord) (now : UInt64) :
    Vfs FileRepairRequest :=
  if q.operation = reistFileRepairQuery then do
    let r ← fileRepairAdmit q owner r
    refuse (!fileRepairBlank q) .einval
    pure (vfsRepairOutput q r)
  else if q.operation = reistFileRepairBegin then do
    let r ← fileRepairAdmit q owner r
    let token ← fileRepairReserve q owner r now
    fileRepairStart q owner r token
  else do
    refuse (fileRepairMismatch q owner r) .estale
    fileRepairClose q owner r now

def fileRepairLocked (q : FileRepairRequest) (owner : FileObjectOwner) : Vfs FileRepairRequest := do
  let r ← vfsRepairRecordRead q.resource
  let now ← vfsNow
  fileRepairOn q owner r now

def vfsFileRepairRequest (q : FileRepairRequest) (owner : FileObjectOwner) : Vfs FileRepairRequest := do
  refuse (fileRepairInvalid q) .einval
  let live ← draw VfsAnswers.ownerLive
  refuse (!live) .eacces
  vfsOperation none (fileRepairLocked q owner)

def repairExpiredAny (owner : FileObjectOwner) (nowMs : UInt64) : List Nat → Vfs Bool
  | [] => pure false
  | resource :: rest => do
    let record ← (vfsRepairRead resource).outcome
    match record with
    | .error _ => pure true
    | .ok none => repairExpiredAny owner nowMs rest
    | .ok (some r) => do
      let later ← repairExpiredAny owner nowMs rest
      pure (later || (r.owner == owner && (r.state == .failed || (r.state == .active && r.deadlineMs ≤ nowMs))))

/-- `vfs_file_repair_expired`: whether a repair of the owner failed or ran out of time. -/
def vfsRepairExpired (owner : FileObjectOwner) (nowMs : UInt64) : Vfs Bool :=
  vfsOperation none (repairExpiredAny owner nowMs (List.range fileObjectGuardResources))

def reistStorageJournalVersion : UInt32 := 1
def reistStorageJournalRead : UInt32 := 1
def reistStorageJournalWriteDeferred : UInt32 := 2
def reistStorageJournalFlush : UInt32 := 3
def reistStorageJournalMaxSectors : UInt32 := 256

/-- `reist_storage_journal_request_t` -/
structure StorageJournalRequest where
  version : UInt32
  structSize : UInt32
  operation : UInt32
  token : UInt32
  resource : Nat
  sector : UInt32
  count : UInt32
  reserved : UInt32
  deriving DecidableEq

def fileObjectGuardJournalRequestValid (q : StorageJournalRequest) : Bool :=
  if q.version ≠ reistStorageJournalVersion ∨ q.structSize ≠ 32 ∨ q.token = 0 ∨
      fileObjectGuardResources ≤ q.resource ∨ q.reserved ≠ 0 then false
  else if q.operation = reistStorageJournalFlush then q.sector == 0 && q.count == 0
  else (q.operation == reistStorageJournalRead || q.operation == reistStorageJournalWriteDeferred) &&
    q.count != 0 && q.count ≤ reistStorageJournalMaxSectors && q.sector ≤ 0xffffffff - (q.count - 1)

def repairRange (q : StorageJournalRequest) (r : VfsRepairRecord) : Except Errno Unit :=
  if q.operation = reistStorageJournalFlush then .ok ()
  else
    let relative := q.sector - r.first
    if q.sector < r.first ∨ r.count ≤ relative ∨ r.count - relative < q.count then .error .einval
    else if q.operation = reistStorageJournalWriteDeferred ∧ (relative = 0 ∨
        (r.backup ≠ 0 ∧ r.backup ≠ 0xffff ∧ relative ≤ r.backup ∧ r.backup - relative < q.count)) then
      .error .eacces
    else .ok ()

def vfsRepairAccess (q : StorageJournalRequest) (owner : FileObjectOwner) : Vfs Unit := do
  let r ← vfsRepairRecordRead q.resource
  let now ← vfsNow
  refuse (r.state ≠ .active ∨ r.owner ≠ owner ∨ r.token ≠ q.token ∨ r.deadlineMs ≤ now) .estale
  let authorized ← serviceAuthorized owner
  let expected ← draw VfsAnswers.expectedFingerprint
  refuse (!authorized ∨ expected ≠ some r.fingerprint) .eacces
  ofExcept (repairRange q r)

/-- `vfs_storage_journal_repair` -/
def storageJournalRepair (q : StorageJournalRequest) (owner : FileObjectOwner) : Vfs Bool := do
  let context ← onGuard (fileObjectGuardContext owner q.token)
  if context.repair then do
    vfsRepairAccess q owner
    pure true
  else pure false

/-- `vfs_journal_authorize_context` -/
def journalAuthorizeContext (q : StorageJournalRequest) (owner : FileObjectOwner) :
    Vfs FileObjectMutationContext := do
  refuse (!fileObjectGuardJournalRequestValid q) .einval
  let live ← draw VfsAnswers.ownerLive
  refuse (!live) .eacces
  vfsGuardApplyMediaChanges
  let now ← vfsNow
  let context ← onGuard (fileObjectGuardJournalProbe owner q.token q.resource now)
  (if context.repair then vfsRepairAccess q owner
   else if context.request ≠ 0 then do
    let allowed ← draw VfsAnswers.verdict
    ofExcept allowed
   else pure ())
  pure context

/-- `vfs_storage_journal_authorized`, asked before each command. -/
def journalAuthorized (q : StorageJournalRequest) (owner : FileObjectOwner) (effect : Bool) : Vfs Unit := do
  let context ← journalAuthorizeContext q owner
  if !effect ∨ (context.attempted ∧ context.pending) then pure ()
  else do
    let now ← vfsNow
    let _ ← onGuard (fileObjectGuardJournalIo owner q.token q.resource .write now)
    pure ()

/-- `vfs_storage_journal_io_complete` after the device succeeded. -/
def journalIoComplete (q : StorageJournalRequest) (owner : FileObjectOwner) : Vfs Unit := do
  journalAuthorized q owner false
  if q.operation ≠ reistStorageJournalFlush then pure ()
  else do
    let now ← vfsNow
    let _ ← onGuard (fileObjectGuardJournalIo owner q.token q.resource .flushed now)
    pure ()

/-- `vfs_storage_journal_abort` -/
def journalAbort (q : StorageJournalRequest) (owner : FileObjectOwner) : Vfs MutationOutcome := do
  let context ← onGuard (fileObjectGuardContext owner q.token)
  if context.repair then do
    let r ← vfsRepairRecordRead q.resource
    let written ← (vfsRepairWrite q.resource { r with state := .failed }).outcome
    let now ← vfsNow
    let _ ← (onGuard (fileObjectGuardRepairFinish q.token owner false now)).outcome
    ofExcept written
    pure .unknown
  else if context.request ≠ 0 ∧ !context.attempted then do
    onGuard (fileObjectGuardCancelUndelivered q.token owner)
    pure .noEffect
  else do
    let now ← vfsNow
    onGuard (fileObjectGuardEnd q.token owner .unknown now)
    pure .unknown

/-- `vfs_storage_journal_io_begin_mode` under the mutex. -/
def journalIoBegin (q : StorageJournalRequest) (owner : FileObjectOwner) : Vfs FileObjectMutationContext := do
  let context ← journalAuthorizeContext q owner
  (if context.repair then pure ()
   else do
    let mounted ← draw VfsAnswers.verdict
    ofExcept mounted)
  let now ← vfsNow
  refuse (context.deadlineMs ≤ now) .etimedout
  pure context

def journalDevice (q : StorageJournalRequest) (owner : FileObjectOwner) : Vfs Unit := do
  let commands ← draw VfsAnswers.journalCommands
  deviceCall
  Attempt.forEach (journalAuthorized q owner) commands
  let result ← draw VfsAnswers.verdict
  ofExcept result
  journalIoComplete q owner

/-- A failed transfer ends the reservation, and the resource unless nothing was attempted. -/
def journalTransfer (q : StorageJournalRequest) (owner : FileObjectOwner) : Vfs Unit := do
  let result ← (journalDevice q owner).outcome
  match result with
  | .ok _ => pure ()
  | .error e => do
    let aborted ← (journalAbort q owner).outcome
    (match aborted with
     | .ok .noEffect => pure ()
     | _ => do
      let _ ← reportMediaFailure q.resource true
      pure ())
    fail e

/-- `syscall_storage_journal_io` -/
def storageJournalIo (q : StorageJournalRequest) (owner : FileObjectOwner) : Vfs Unit := do
  let authorized ← serviceAuthorized owner
  refuse (!authorized) .eacces
  refuse (!fileObjectGuardJournalRequestValid q) .einval
  let live ← draw VfsAnswers.ownerLive
  refuse (!live) .eacces
  let now ← vfsNow
  let (_, reserved) ← onGuard (fileObjectGuardJournalIo owner q.token q.resource .check now)
  vfsOperation (some reserved.deadlineMs) do
    let context ← journalIoBegin q owner
    let available ← draw VfsAnswers.confirmed
    refuse (!context.repair ∧ !available) .erofs
    let copied ← draw VfsAnswers.confirmed
    refuse (!copied) .efault
    journalTransfer q owner

def reistFileObjectVersion : UInt32 := 1

/-- `REIST_FILE_OBJECT_SNAPSHOT` to `REIST_FILE_OBJECT_VERIFY`. -/
inductive FileObjectOperation
  | snapshot
  | pin
  | release
  | mutationBegin
  | mutationEnd (outcome : MutationOutcome)
  | verify
  deriving DecidableEq

/-- `reist_file_object_guard_request_t`, whose flags carry the outcome of an end. -/
structure FileObjectGuardRequest where
  operation : FileObjectOperation
  flags : UInt32
  key : FileObjectKey
  second : Option FileObjectKey
  epoch : UInt64
  deadlineMs : UInt64
  token : UInt32
  client : FileObjectOwner

def FileObjectGuardRequest.keys (request : FileObjectGuardRequest) : List FileObjectKey :=
  request.key :: request.second.toList

def normalizedKeys : List FileObjectKey → Vfs (List FileObjectKey)
  | [] => pure []
  | key :: rest => do
    let normalized ← draw VfsAnswers.normalized
    let resource ← ofExcept normalized
    let available ← draw VfsAnswers.confirmed
    refuse (!available) .eio
    let rest ← normalizedKeys rest
    pure ({ key with resource := resource } :: rest)

/-- An external journal is handed over only after the volume's record was saved. -/
def journalHandOver (request : FileObjectGuardRequest) (resource : Nat) (service : FileObjectOwner)
    (token handle : UInt32) : Vfs Unit := do
  let bound ← draw VfsAnswers.verdict
  (if handle ≠ 0 then ofExcept bound else pure ())
  let mounted ← draw VfsAnswers.verdict
  ofExcept mounted
  refuse (request.key.resource ≠ resource) .einval
  vfsRepairRemember resource service (handle ≠ 0)
  deviceCall
  let handed ← draw VfsAnswers.verdict
  ofExcept handed
  let now ← vfsNow
  let _ ← onGuard (fileObjectGuardJournalIo service token resource .check now)
  let allowed ← draw VfsAnswers.verdict
  (if handle ≠ 0 then ofExcept allowed else pure ())

def mutationBeginRequest (request : FileObjectGuardRequest) (keys : List FileObjectKey)
    (service : FileObjectOwner) (pin handle : UInt32) (now : UInt64) : Vfs Unit :=
  match keys with
  | [] => fail .einval
  | key :: _ => do
    let legacy ← draw VfsAnswers.verdict
    ofExcept legacy
    let token ← onGuard (if handle ≠ 0 then fileObjectGuardBeginOwned key service ⟨pin, handle, request.client⟩
        request.epoch now request.deadlineMs
      else fileObjectGuardBeginMode keys request.flags service request.epoch now request.deadlineMs)
    if request.flags &&& reistFileObjectExternalJournal = 0 then pure ()
    else do
      let result ← (journalHandOver request key.resource service token handle).outcome
      match result with
      | .ok _ => pure ()
      | .error e => do
        onGuard (fileObjectGuardCancelUndelivered token service)
        fail e

/-- `vfs_guard_finish_request` -/
def mutationEndRequest (token : UInt32) (service : FileObjectOwner) (outcome : MutationOutcome) (now : UInt64) :
    Vfs Unit := do
  let context ← onGuard (fileObjectGuardContext service token)
  let allowed ← draw VfsAnswers.verdict
  match allowed with
  | .error e =>
    if context.request ≠ 0 ∧ outcome ≠ .unknown then do
      let _ ← (onGuard (if context.attempted then fileObjectGuardEnd token service .unknown now
        else fileObjectGuardCancelUndelivered token service)).outcome
      fail e
    else onGuard (fileObjectGuardEnd token service outcome now)
  | .ok _ => onGuard (fileObjectGuardEnd token service outcome now)

/-- `vfs_guard_request_common` under the mutex. -/
def guardRequestLocked (request : FileObjectGuardRequest) (service : FileObjectOwner) (pin handle : UInt32) :
    Vfs Unit := do
  let now ← vfsNow
  let live ← draw VfsAnswers.ownerLive
  refuse (!live) .eacces
  let claimed ← draw VfsAnswers.verdict
  (if handle ≠ 0 then ofExcept claimed else pure ())
  let clientLive ← draw VfsAnswers.ownerLive
  match request.operation with
  | .snapshot => do
    let _ ← onGuard (fileObjectGuardSnapshot now)
    pure ()
  | .pin => do
    refuse (!clientLive) .estale
    let keys ← normalizedKeys [request.key]
    let token ← onGuard (match keys with
      | key :: _ => fileObjectGuardPin key service request.client request.epoch now
      | [] => fail .einval)
    let stillLive ← draw VfsAnswers.ownerLive
    if stillLive then pure ()
    else do
      onGuard (fileObjectGuardRelease token service request.client)
      fail .estale
  | .release => onGuard (fileObjectGuardRelease request.token service request.client)
  | .verify => do
    refuse (!clientLive) .estale
    let _ ← onGuard (fileObjectGuardLookup request.token service request.client now)
    let available ← draw VfsAnswers.confirmed
    refuse (!available) .eio
  | .mutationBegin => do
    let keys ← normalizedKeys request.keys
    refuse (keys.any fun k => keys.any fun l => k.resource ≠ l.resource) .einval
    mutationBeginRequest request keys service pin handle now
  | .mutationEnd outcome => mutationEndRequest request.token service outcome now

/-- `vfs_guard_request_common` -/
def vfsGuardRequest (request : FileObjectGuardRequest) (service : FileObjectOwner) (pin handle : UInt32) :
    Vfs Unit :=
  vfsOperation (if request.operation = .mutationBegin ∧ request.flags &&& reistFileObjectExternalJournal ≠ 0
      then some request.deadlineMs else none)
    (guardRequestLocked request service pin handle)

/-- `vfs_file_object_guard_cancel_undelivered` -/
def vfsCancelUndelivered (operation : FileObjectOperation) (token : UInt32) (service client : FileObjectOwner) :
    Vfs Unit :=
  vfsOperation none (match operation with
    | .pin => onGuard (fileObjectGuardRelease token service client)
    | .mutationBegin => onGuard (fileObjectGuardCancelUndelivered token service)
    | _ => fail .einval)

/-- `vfs_file_object_guard_process_cleanup` -/
def vfsProcessCleanup (owner : FileObjectOwner) : Vfs Unit :=
  vfsOperation none (onGuard (fileObjectGuardCleanup owner))

def pollOwner (owner : FileObjectOwner) : Vfs Unit := do
  let live ← draw VfsAnswers.ownerLive
  if owner.pid ≠ 0 ∧ !live then onGuard (fileObjectGuardCleanup owner) else pure ()

def pollSlot (slot : Option (Fin fileObjectGuardCapacity)) : Vfs Unit := do
  let (service, client) ← onGuard (fileObjectGuardOwnerAt slot)
  pollOwner service
  pollOwner client

/-- The requests whose deadline has passed leave their resources fenced. -/
def poolExpire : Vfs Unit := do
  let expired ← draw VfsAnswers.expired
  Attempt.forEach storageRequestRecoveryRefence expired

/-- `vfs_file_object_guard_poll`; `cursor` is the pin slot whose turn it is. -/
def vfsObjectGuardPoll (nowMs : UInt64) (cursor : Fin fileObjectGuardCapacity) : Vfs Unit :=
  vfsOperation none do
    let _ ← poolExpire.outcome
    let fences ← mutationFencesRead.outcome
    let mask := match fences with
      | .ok mask => mask
      | .error _ => 0xffffffff
    let merged ← (onGuard (fileObjectGuardMergeFences mask)).outcome
    let _ ← ofExcept fences
    ofExcept merged
    onGuard (fileObjectGuardPoll nowMs)
    pollSlot none
    pollSlot (some cursor)

/-- The guard calls of the other VFS operations. -/
inductive LegacyCall
  | enter (nowMs : UInt64)
  | canOpen (resource : Nat) (nowMs : UInt64)
  | keyBusy (key : FileObjectKey) (nowMs : UInt64)
  | count (resource : Nat) (nowMs : UInt64)
  | detachReady (resource : Nat) (nowMs : UInt64)
  | revokeMedia (resource : Nat)
  | mutationAuthorized (owner : FileObjectOwner) (resource : Nat) (nowMs : UInt64)
  | fenced

def LegacyCall.guard : LegacyCall → Guard Unit
  | .enter nowMs => fileObjectGuardLegacyEnter nowMs
  | .canOpen resource nowMs => fileObjectGuardCanOpen resource nowMs
  | .keyBusy key nowMs => fileObjectGuardKeyBusy key nowMs
  | .count resource nowMs => do
    let _ ← fileObjectGuardCount resource nowMs
    pure ()
  | .detachReady resource nowMs => fileObjectGuardDetachReady resource nowMs
  | .revokeMedia resource => fileObjectGuardRevokeMedia resource
  | .mutationAuthorized owner resource nowMs => fileObjectGuardMutationAuthorized owner resource nowMs
  | .fenced => do
    let _ ← fileObjectGuardFenced
    pure ()

end ReistOs
