import ReistOs.FileObjectGuard
import ReistOs.StorageServiceTasks

/-! The repair protocol of `fs/vfs/vfs.c`: the retained record of a volume, the request pool's
fence, the service's quarantine and the guard's reservation. Other answers are drawn. -/

namespace ReistOs

open Attempt

/-- `VFS_REPAIR_SAVED` to `VFS_REPAIR_FAILED`. -/
inductive VfsRepairPhase
  | saved
  | revoked
  | active
  | verified
  | failed
  deriving DecidableEq

structure VfsRepairRecord where
  deadlineMs : UInt64
  first : UInt32
  count : UInt32
  reserved : UInt32
  backup : UInt32
  fingerprint : UInt32
  generation : UInt32
  owner : FileObjectOwner
  state : VfsRepairPhase
  attempts : UInt32
  token : UInt32
  deriving DecidableEq

def reistFileRepairVersion : UInt32 := 3
def reistFileRepairQuery : UInt32 := 1
def reistFileRepairBegin : UInt32 := 2
def reistFileRepairCommit : UInt32 := 3
def reistFileRepairAbort : UInt32 := 4

/-- `sizeof(reist_file_repair_request_t)` -/
def fileRepairRequestSize : UInt32 := 64

/-- `reist_file_repair_request_t` -/
structure FileRepairRequest where
  version : UInt32
  structSize : UInt32
  operation : UInt32
  resource : Nat
  token : UInt32
  generation : UInt32
  fingerprint : UInt32
  flags : UInt32
  deadlineMs : UInt64
  firstSector : UInt32
  sectorCount : UInt32
  reservedSectors : UInt32
  backupSector : UInt32
  reserved0 : UInt32
  reserved1 : UInt32
  deriving DecidableEq

/-- The part of the storage request pool that a repair reads: its fences, the bound service and,
slot by slot, the resource a mutation names. -/
structure RequestPool where
  fences : UInt32
  poisoned : Bool
  initialized : Bool
  service : FileObjectOwner
  slots : List (Option Nat)

/-- What the kernel around the repair protocol answers. -/
structure VfsAnswers where
  guard : GuardAnswers
  mutexFree : Nat → Bool
  nowMs : Nat → UInt64
  ownerLive : Nat → Bool
  ownerReaped : Nat → Bool
  openNodes : Nat → Bool
  recordStored : Nat → Bool
  poolStored : Nat → Bool
  controlStored : Nat → Bool
  administrativelyEnabled : Nat → Bool
  identityAlive : Nat → Bool
  drivePresent : Nat → Bool
  driveCount : Nat → Int
  driveKind : Nat → DriveKind
  samePhysical : Nat → UInt32
  expectedFingerprint : Nat → Option UInt32
  mediaIdentityMatches : Nat → Bool
  mediaFailures : Nat → List (Nat × Bool)
  lifecycleFree : Nat → Bool
  restored : Nat → Bool
  verdict : Nat → Except Errno Unit
  journalCommands : Nat → List Bool
  extent : Nat → Option (UInt32 × UInt32)
  journalGeometry : Nat → Option (UInt32 × UInt32)
  normalized : Nat → Except Errno Nat
  confirmed : Nat → Bool
  expired : Nat → List Nat

/-- `controlFailed` remembers that the service's control record once did not read or could not be
published. -/
structure VfsRepairState where
  guard : FileObjectGuard
  records : Nat → Option VfsRepairRecord
  repairPoisoned : Bool
  pendingMedia : UInt32
  reported : UInt32
  pool : RequestPool
  control : StorageServiceControl
  initialized : Bool
  controlFailed : Bool
  writesFenced : Bool

abbrev Vfs := Attempt VfsAnswers Errno VfsRepairState

def onGuard {α : Type} (x : Guard α) : Vfs α :=
  zoom VfsAnswers.guard VfsRepairState.guard (fun g s => { s with guard := g }) x

def vfsNow : Vfs UInt64 := draw VfsAnswers.nowMs

def fenceWrites : Vfs Unit := modify fun s => { s with writesFenced := true }

def storageControlLost : Vfs Unit := modify fun s => { s with controlFailed := true }

/-- `control_read` -/
def storageControlRead : Vfs (Option StorageServiceControl) := do
  let s ← get
  if controlValid s.control then pure (some s.control)
  else do
    storageControlLost
    pure none

/-- `control_write` -/
def storageControlWrite (control : StorageServiceControl) : Vfs Bool := do
  let stored ← draw VfsAnswers.controlStored
  if stored then do
    modify fun s => { s with control := control }
    pure true
  else do
    storageControlLost
    pure false

/-- `vfs_file_object_guard_media_changed`: every resource of the same medium. -/
def fileObjectGuardMediaChanged (resource : Nat) : Vfs Unit :=
  if fileObjectGuardResources ≤ resource then pure ()
  else do
    let others ← draw VfsAnswers.samePhysical
    modify fun s => { s with pendingMedia := s.pendingMedia ||| (resourceBit resource ||| others) }

def quarantineAnnounced (before : StorageServiceControl) (resource : Nat) : Vfs Unit :=
  if before.quarantinedResources &&& resourceBit resource = 0 then fileObjectGuardMediaChanged resource
  else pure ()

/-- The quarantine of a resource published over the control record as it was read. -/
def quarantinePublish (control : StorageServiceControl) (resource : Nat) (writeUncertain : Bool) : Vfs Bool := do
  let now ← vfsNow
  let stored ← storageControlWrite (quarantinedControl control resource writeUncertain now)
  (if !stored ∨ writeUncertain then fenceWrites else pure ())
  (if stored then quarantineAnnounced control resource else pure ())
  pure stored

/-- `storage_service_report_media_failure` -/
def reportMediaFailure (resource : Nat) (writeUncertain : Bool) : Vfs Bool := do
  let s ← get
  if maxDrives ≤ resource ∨ !s.initialized then do
    fenceWrites
    pure false
  else do
    let control ← storageControlRead
    match control with
    | none => do
      fenceWrites
      pure false
    | some control => quarantinePublish control resource writeUncertain

/-- A call into the device layer, which may report media failures before it returns. -/
def deviceCall : Vfs Unit := do
  let failures ← draw VfsAnswers.mediaFailures
  Attempt.forEach (fun f => do
    let _ ← reportMediaFailure f.1 f.2
    pure ()) failures

def serviceAuthorized (owner : FileObjectOwner) : Vfs Bool := do
  let s ← get
  let enabled ← draw VfsAnswers.administrativelyEnabled
  let control ← storageControlRead
  let alive ← draw VfsAnswers.identityAlive
  match control with
  | none => pure false
  | some c => pure (s.initialized && enabled && c.healthy != 0 && c.retiring == 0 && c.pid == owner.pid &&
      c.generation == owner.generation && alive)

def repairIdentity (resource : Nat) (owner : FileObjectOwner) (fingerprint : UInt32) : Vfs Bool := do
  let driveCount ← draw VfsAnswers.driveCount
  let authorized ← serviceAuthorized owner
  let control ← storageControlRead
  let expected ← draw VfsAnswers.expectedFingerprint
  let kind ← draw VfsAnswers.driveKind
  match control, repairAdminMask resource driveCount kind with
  | some c, some adminMask => pure (resource < maxDrives && (resource : Int) < driveCount && fingerprint != 0 &&
      authorized && expected == some fingerprint &&
      adminMask &&& (c.adminDownResources ||| c.adminTransitionResources ||| c.adminFailedResources) == 0 &&
      decide (Names c.quarantinedResources resource) && decide (Names c.readOnlyResources resource))
  | _, _ => pure false

/-- `storage_service_repair_check`; the identity of a partition is also that of its parent. -/
def repairCheck (resource : Nat) (owner : FileObjectOwner) (fingerprint : UInt32) : Vfs Bool := do
  let before ← repairIdentity resource owner fingerprint
  if before then do
    deviceCall
    let matched ← draw VfsAnswers.mediaIdentityMatches
    let after ← repairIdentity resource owner fingerprint
    pure (matched && after)
  else pure false

/-- The write fences are lifted only when no other resource is unsafe. -/
def restoreWritesIfAlone (control : StorageServiceControl) (resource : Nat) : Vfs Bool :=
  if otherUnsafe control resource = 0 then do
    deviceCall
    let restored ← draw VfsAnswers.restored
    modify fun s => { s with writesFenced := s.writesFenced && !restored }
    pure restored
  else pure true

def repairPublished (resource : Nat) (owner : FileObjectOwner) (fingerprint : UInt32) : Vfs Bool := do
  let current ← repairIdentity resource owner fingerprint
  let control ← storageControlRead
  match current, control with
  | true, some c => do
    let restored ← restoreWritesIfAlone c resource
    if restored then storageControlWrite (repairedControl c resource) else pure false
  | _, _ => pure false

/-- `storage_service_repair_publish` -/
def repairPublish (resource : Nat) (owner : FileObjectOwner) (fingerprint : UInt32) : Vfs Bool := do
  let entered ← draw VfsAnswers.lifecycleFree
  if entered then do
    let ok ← repairPublished resource owner fingerprint
    (if ok then pure () else fenceWrites)
    pure ok
  else pure false

def poolPoison {α : Type} : Vfs α := do
  modify fun s => { s with pool := { s.pool with poisoned := true } }
  fail .eintegrity

def mutationFencesRead : Vfs UInt32 := do
  let s ← get
  if s.pool.poisoned then fail .eintegrity
  else if !s.pool.initialized then pure 0
  else pure s.pool.fences

def mutationFencesWrite (mask : UInt32) : Vfs Unit := do
  let s ← get
  let stored ← draw VfsAnswers.poolStored
  if s.pool.initialized ∧ stored then modify fun s => { s with pool := { s.pool with fences := mask } }
  else poolPoison

def mutationRecovery (service : FileObjectOwner) (resource : Nat) (clear : Bool) : Vfs Unit := do
  refuse (32 ≤ resource ∨ service.pid ≤ 0 ∨ service.generation = 0) .einval
  let mask ← mutationFencesRead
  let s ← get
  refuse (!s.pool.initialized) .eacces
  refuse (s.pool.service ≠ service) .eacces
  refuse (some resource ∈ s.pool.slots) .ebusy
  (if clear ∧ Names mask resource then mutationFencesWrite (mask &&& ~~~resourceBit resource) else pure ())

def storageRequestRecoveryReady (service : FileObjectOwner) (resource : Nat) : Vfs Unit :=
  mutationRecovery service resource false

def storageRequestRecoveryClear (service : FileObjectOwner) (resource : Nat) : Vfs Unit :=
  mutationRecovery service resource true

def storageRequestRecoveryRefence (resource : Nat) : Vfs Unit := do
  refuse (32 ≤ resource) .einval
  let mask ← mutationFencesRead
  if Names mask resource then pure () else mutationFencesWrite (mask ||| resourceBit resource)

def vfsRepairPoison {α : Type} : Vfs α := do
  modify fun s => { s with repairPoisoned := true }
  let _ ← (onGuard (fileObjectGuardMergeFences 0xffffffff)).outcome
  fail .eio

def vfsRepairValid (r : VfsRepairRecord) : Bool :=
  r.count != 0 && 1 < r.reserved && r.reserved < r.count && (r.backup < r.reserved || r.backup == 0xffff) &&
  r.fingerprint != 0 && r.generation != 0 && 0 < r.owner.pid && r.owner.generation != 0 && r.attempts ≤ 3 &&
  (r.state != .active || (r.token != 0 && r.deadlineMs != 0 && r.attempts != 0))

/-- `vfs_repair_read`; `none` where no record was ever saved (`-REIST_ENOENT`). -/
def vfsRepairRead (resource : Nat) : Vfs (Option VfsRepairRecord) := do
  refuse (fileObjectGuardResources ≤ resource) .einval
  let s ← get
  refuse s.repairPoisoned .eio
  match s.records resource with
  | none => pure none
  | some r => if vfsRepairValid r then pure (some r) else vfsRepairPoison

def vfsRepairWrite (resource : Nat) (r : VfsRepairRecord) : Vfs Unit := do
  let s ← get
  let stored ← draw VfsAnswers.recordStored
  if s.repairPoisoned ∨ !vfsRepairValid r ∨ !stored then vfsRepairPoison
  else modify fun s => { s with records := Function.update s.records resource (some r) }

/-- The record a mutation leaves behind before its journal is handed over. -/
def rememberedRecord (old : Option VfsRepairRecord) (extent geometry : UInt32 × UInt32) (fingerprint : UInt32)
    (owner : FileObjectOwner) : VfsRepairRecord :=
  { deadlineMs := 0, first := extent.1, count := extent.2, reserved := geometry.1, backup := geometry.2,
    fingerprint := fingerprint, generation := (old.map VfsRepairRecord.generation).getD 1, owner := owner,
    state := .saved, attempts := (old.map VfsRepairRecord.attempts).getD 0, token := 0 }

/-- An older record of another volume, or one under repair, is not replaced. -/
def rememberRefused (old : Option VfsRepairRecord) (next : VfsRepairRecord) : Bool :=
  match old with
  | none => false
  | some r => r.first != next.first || r.count != next.count || r.reserved != next.reserved ||
      r.backup != next.backup || r.fingerprint != next.fingerprint ||
      (r.state != .saved && r.state != .verified)

def vfsRepairRemember (resource : Nat) (owner : FileObjectOwner) (required : Bool) : Vfs Unit := do
  let external ← draw VfsAnswers.confirmed
  if external then do
    let extent ← draw VfsAnswers.extent
    let geometry ← draw VfsAnswers.journalGeometry
    let fingerprint ← draw VfsAnswers.expectedFingerprint
    let fits ← draw VfsAnswers.confirmed
    match extent, geometry, fingerprint with
    | some extent, some geometry, some fingerprint => do
      refuse (!fits) .einval
      let old ← vfsRepairRead resource
      let next := rememberedRecord old extent geometry fingerprint owner
      refuse (rememberRefused old next) .estale
      vfsRepairWrite resource next
    | _, _, _ => fail .eio
  else refuse required .enotsup

def VfsRepairRecord.revoked (r : VfsRepairRecord) : VfsRepairRecord :=
  { r with generation := r.generation + 1, state := if r.state = .active then .failed else .revoked }

def vfsRepairRevoke (resource : Nat) : Vfs Unit := do
  let r ← vfsRepairRead resource
  match r with
  | none => pure ()
  | some r =>
    if r.state = .revoked ∨ r.state = .failed then pure ()
    else if r.generation = 0xffffffff then vfsRepairPoison
    else vfsRepairWrite resource r.revoked

def vfsRepairEcho (q : FileRepairRequest) (r : VfsRepairRecord) : Bool :=
  q.generation == r.generation && q.fingerprint == r.fingerprint && q.firstSector == r.first &&
  q.sectorCount == r.count && q.reservedSectors == r.reserved && q.backupSector == r.backup

def vfsRepairOutput (q : FileRepairRequest) (r : VfsRepairRecord) : FileRepairRequest :=
  { q with
    generation := r.generation
    fingerprint := r.fingerprint
    firstSector := r.first
    sectorCount := r.count
    reservedSectors := r.reserved
    backupSector := r.backup
    token := if r.state = .active then r.token else 0 }

def applyMediaChange (resource : Nat) : Vfs Unit := do
  onGuard (fileObjectGuardRevokeMedia resource)
  vfsRepairRevoke resource
  modify fun s => { s with pendingMedia := s.pendingMedia &&& ~~~resourceBit resource }

def applyPendingMedia : List Nat → Vfs Unit :=
  Attempt.forEach fun resource => do
    let s ← get
    if Names s.pendingMedia resource then applyMediaChange resource else pure ()

def vfsGuardApplyMediaChanges : Vfs Unit := do
  let s ← get
  refuse s.repairPoisoned .eio
  let fences ← mutationFencesRead.outcome
  let mask := match fences with
    | .ok mask => mask
    | .error _ => 0xffffffff
  onGuard (fileObjectGuardMergeFences mask)
  (match fences with
    | .ok _ => pure ()
    | .error _ => fail .eio)
  applyPendingMedia (List.range fileObjectGuardResources)

def publishFence (mask : UInt32) (resource : Nat) : Vfs Unit := do
  let s ← get
  let present ← draw VfsAnswers.drivePresent
  if Names mask resource ∧ ¬ Names s.reported resource ∧ present then do
    let told ← reportMediaFailure resource true
    (if told then modify fun s => { s with reported := s.reported ||| resourceBit resource } else pure ())
  else pure ()

/-- `vfs_guard_publish_fences`; a contended guard publishes nothing. -/
def guardPublishFences : Vfs Unit := do
  let fences ← (onGuard fileObjectGuardFenced).outcome
  match fences with
  | .error .ebusy => pure ()
  | .error _ => do
    Attempt.forEach (publishFence 0xffffffff) (List.range fileObjectGuardResources)
  | .ok mask => do
    modify fun s => { s with reported := s.reported &&& mask }
    Attempt.forEach (publishFence mask) (List.range fileObjectGuardResources)

def vfsOperationEnd : Vfs Unit := do
  let _ ← guardPublishFences.outcome
  pure ()

/-- `vfs_operation_begin` and its variants: the mutex, with a deadline for the journal, and the
media changes that wait. -/
def vfsOperationBegin (deadlineMs : Option UInt64) : Vfs Unit := do
  let before ← vfsNow
  refuse (deadlineMs.any fun d => d = 0 ∨ d ≤ before ∨ fileObjectGuardMaxMs < d - before) .ebusy
  let free ← draw VfsAnswers.mutexFree
  refuse (!free) .ebusy
  let now ← vfsNow
  let applied ← (if deadlineMs.any (· ≤ now) then (fail .ebusy : Vfs Unit) else vfsGuardApplyMediaChanges).outcome
  match applied with
  | .ok _ => pure ()
  | .error _ => do
    vfsOperationEnd
    fail .ebusy

def vfsOperation {α : Type} (deadlineMs : Option UInt64) (x : Vfs α) : Vfs α := do
  vfsOperationBegin deadlineMs
  let result ← x.outcome
  vfsOperationEnd
  ofExcept result

end ReistOs
