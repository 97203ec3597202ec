import ReistOs.StorageService

/-! The entry points of `kernel/init/storage_service.c`: inventory, binding, affinity,
administration, repair and the periodic poll. -/

namespace ReistOs

open SharedRecord

def captureAll : List Nat → StorageServiceControl → Service StorageServiceControl
  | [], control => pure control
  | resource :: rest, control => do
    let captured : Bool ← call (.captureFingerprint resource)
    if captured then captureAll rest control
    else captureAll rest { control with
      quarantinedResources := control.quarantinedResources ||| resourceBit resource
      readOnlyResources := control.readOnlyResources ||| resourceBit resource }

def inventoryControl (c : StorageServiceControl) (nowMs : UInt64) : StorageServiceControl :=
  { c with
    probeCursor := 0
    probeAttempts := 0
    nextProbeMs :=
      if c.quarantinedResources ≠ 0 then deadlineAfter nowMs storageMediaProbeInitialMs else 0 }

def storageServiceInventoryMedia : Service Bool := do
  let initialized ← getFlag .initialized
  let driveCount : Int ← ask .driveCount
  if !initialized ∨ driveCount < 0 ∨ (maxDrives : Int) < driveCount then pure false
  else
    let read ← Prog.fetch
    match read with
    | none => pure false
    | some control =>
      let captured ← captureAll (List.range driveCount.toNat) control.value
      let nowMs : UInt64 ← ask .monotonicMs
      let stored ← Prog.store .other (control.set (inventoryControl captured nowMs))
      pure stored.1

def storageServiceBind (pid : Int) (generation : UInt32) : Service Int := do
  let initialized ← getFlag .initialized
  let enabled ← getFlag .administrativelyEnabled
  if !initialized ∨ !enabled then pure (-13)
  else
    let read ← Prog.fetch
    match read with
    | none => pure (-13)
    | some control =>
      let nowMs : UInt64 ← ask .monotonicMs
      let alive : Bool ← ask (.identityAlive pid generation)
      if control.value.pid ≠ pid ∨ control.value.generation ≠ generation ∨ control.value.healthy ≠ 0 ∨
          control.value.retiring ≠ 0 ∨ control.value.startDeadlineMs ≤ nowMs ∨ !alive then pure (-13)
      else
        let result : Int ← ask (.bindService pid generation)
        if result ≠ 0 then pure result
        else
          let stored ← Prog.store .other
            (control.set { control.value with healthy := 1, startDeadlineMs := 0 })
          if !stored.1 then
            tell (.unbindService pid generation)
            pure (-84)
          else if stored.2.value.postReadyCpuAffinityMask ≠ 0 then
            let pinned : Int ← ask (.setAffinity stored.2.value.pid stored.2.value.generation
              stored.2.value.postReadyCpuAffinityMask.toUInt32)
            pure (if pinned ≠ 0 then -3 else 0)
          else pure 0

def storageServiceSetCurrentAffinity (cpuAffinityMask : UInt32) : Service Int :=
  if cpuAffinityMask = 0 then pure (-3)
  else do
    let read ← Prog.fetch
    match read with
    | none => pure (-3)
    | some control =>
      let alive : Bool ← ask (.identityAlive control.value.pid control.value.generation)
      if control.value.healthy = 0 ∨ control.value.pid ≤ 0 ∨ control.value.generation = 0 ∨ !alive then
        pure (-3)
      else
        let stored ← Prog.store .other
          (control.set { control.value with postReadyCpuAffinityMask := cpuAffinityMask.toUInt16 })
        if !stored.1 then pure (-84)
        else ask (.setAffinity stored.2.value.pid stored.2.value.generation cpuAffinityMask)

/-- `initialized` and a mask of present resources. -/
def adminResourceMaskValid (resourceMask : UInt32) : Service Bool := do
  let initialized ← getFlag .initialized
  let driveCount : Int ← ask .driveCount
  pure (initialized && resourceMask != 0 && 0 < driveCount && driveCount ≤ maxDrives &&
    resourceMask &&& ~~~(resourceBit driveCount.toNat - 1) == 0)

def adminBlocked (c : StorageServiceControl) (resourceMask : UInt32) (requireDown : Bool) : Bool :=
  c.adminTransitionResources &&& resourceMask != 0 || c.quarantinedResources &&& resourceMask != 0 ||
  c.readOnlyResources &&& resourceMask != 0 || c.recoveringResources &&& resourceMask != 0 ||
  (if requireDown then c.adminDownResources &&& resourceMask != resourceMask
    else c.adminDownResources &&& resourceMask != 0)

/-- The interrupt lock around the read and the write holds on one CPU only. -/
def storageServiceAdminBegin (resourceMask : UInt32) (requireDown : Bool) : Service Bool := do
  let valid ← adminResourceMaskValid resourceMask
  if !valid then pure false
  else
    let read ← Prog.fetch
    match read with
    | none => pure false
    | some control =>
      if adminBlocked control.value resourceMask requireDown then pure false
      else
        let stored ← Prog.store .other (control.set { control.value with
          adminTransitionResources := control.value.adminTransitionResources ||| resourceMask })
        pure stored.1

inductive AdminMode
  | online
  | down
  | up
  deriving DecidableEq

def finishedControl (c : StorageServiceControl) (resourceMask : UInt32) : AdminMode → StorageServiceControl
  | .online =>
    { c with adminTransitionResources := c.adminTransitionResources &&& ~~~resourceMask }
  | .down =>
    { c with
      adminDownResources := c.adminDownResources ||| resourceMask
      adminFailedResources := c.adminFailedResources &&& ~~~resourceMask
      adminTransitionResources := c.adminTransitionResources &&& ~~~resourceMask }
  | .up =>
    { c with
      adminDownResources := c.adminDownResources &&& ~~~resourceMask
      adminFailedResources := c.adminFailedResources &&& ~~~resourceMask
      adminTransitionResources := c.adminTransitionResources &&& ~~~resourceMask }

def storageServiceAdminFinish (resourceMask : UInt32) (mode : AdminMode) : Service Bool := do
  let valid ← adminResourceMaskValid resourceMask
  if !valid then pure false
  else
    let read ← Prog.fetch
    match read with
    | none => pure false
    | some control =>
      if control.value.adminTransitionResources &&& resourceMask ≠ resourceMask then pure false
      else if mode = .online ∧ control.value.adminDownResources &&& resourceMask ≠ 0 then pure false
      else
        let stored ← Prog.store (.adminFinished resourceMask)
          (control.set (finishedControl control.value resourceMask mode))
        pure stored.1

def failedControl (c : StorageServiceControl) (resourceMask : UInt32) : StorageServiceControl :=
  { c with
    adminDownResources := c.adminDownResources ||| resourceMask
    adminFailedResources := c.adminFailedResources ||| resourceMask
    adminTransitionResources := c.adminTransitionResources &&& ~~~resourceMask }

def storageServiceAdminFail (resourceMask : UInt32) : Service Bool := do
  let valid ← adminResourceMaskValid resourceMask
  if !valid then pure false
  else
    let read ← Prog.fetch
    match read with
    | none => pure false
    | some control =>
      let stored ← Prog.store .other (control.set (failedControl control.value resourceMask))
      pure stored.1

def storageServiceAuthorized (pid : Int) (generation : UInt32) : Service Bool := do
  let initialized ← getFlag .initialized
  let enabled ← getFlag .administrativelyEnabled
  if !initialized ∨ !enabled then pure false
  else
    let read ← Prog.fetch
    match read with
    | none => pure false
    | some control =>
      if control.value.healthy = 0 ∨ control.value.retiring ≠ 0 ∨ control.value.pid ≠ pid ∨
          control.value.generation ≠ generation then pure false
      else ask (.identityAlive pid generation)

/-- The resources whose administrative state matters for a repair. -/
def repairAdminMask (resource : Nat) (driveCount : Int) : DriveKind → Option UInt32
  | .ata => some (resourceBit resource)
  | .partition parent parentAta =>
    if maxDrives ≤ parent ∨ driveCount ≤ parent ∨ !parentAta then none
    else some (resourceBit resource ||| resourceBit parent)
  | .other => none

def repairIdentityCurrent (resource : Nat) (pid : Int) (generation fingerprint : UInt32) :
    Service Bool := do
  let driveCount : Int ← ask .driveCount
  if maxDrives ≤ resource ∨ driveCount ≤ resource ∨ fingerprint = 0 then pure false
  else
    let authorized ← storageServiceAuthorized pid generation
    if !authorized then pure false
    else
      let read ← Prog.fetch
      let expected : Option UInt32 ← ask (.expectedFingerprint resource)
      let kind : DriveKind ← ask (.drive resource)
      match read, repairAdminMask resource driveCount kind with
      | some control, some adminMask =>
        pure (expected == some fingerprint &&
          adminMask &&& (control.value.adminDownResources ||| control.value.adminTransitionResources |||
            control.value.adminFailedResources) == 0 &&
          control.value.quarantinedResources &&& resourceBit resource != 0 &&
          control.value.readOnlyResources &&& resourceBit resource != 0)
      | _, _ => pure false

def otherUnsafe (c : StorageServiceControl) (resource : Nat) : UInt32 :=
  (c.quarantinedResources ||| c.readOnlyResources ||| c.adminDownResources |||
    c.adminTransitionResources ||| c.adminFailedResources) &&& ~~~resourceBit resource

def repairedControl (c : StorageServiceControl) (resource : Nat) : StorageServiceControl :=
  { c with
    quarantinedResources := c.quarantinedResources &&& ~~~resourceBit resource
    readOnlyResources := c.readOnlyResources &&& ~~~resourceBit resource
    recoveringResources := c.recoveringResources &&& ~~~resourceBit resource }

/-- The write fences are lifted only when no other resource is unsafe. -/
def restoreIfAlone (c : StorageServiceControl) (resource : Nat) : Service Bool :=
  if otherUnsafe c resource = 0 then do
    let writes : Bool ← call (.restoreWrites resource)
    if writes then call .restoreMutations else pure false
  else pure true

/-- `storage_service_repair_publish` inside the lifecycle lock. -/
def repairPublishLocked (resource : Nat) (pid : Int) (generation fingerprint : UInt32) : Service Bool := do
  let current ← repairIdentityCurrent resource pid generation fingerprint
  if !current then pure false
  else
    let read ← Prog.fetch
    match read with
    | none => pure false
    | some control =>
      let restored ← restoreIfAlone control.value resource
      if !restored then pure false
      else
        let stored ← Prog.store (.repaired resource)
          (control.set (repairedControl control.value resource))
        pure stored.1

def storageServiceRepairPublish (resource : Nat) (pid : Int) (generation fingerprint : UInt32) :
    Service Bool := do
  let entered ← lifecycleEnter
  if !entered then pure false
  else
    let ok ← repairPublishLocked resource pid generation fingerprint
    fenceIf (!ok)
    Prog.leave
    pure ok

/-- The next quarantined resource without a fence, in rotation from the cursor. -/
def probeCandidate (c : StorageServiceControl) (objectFences : UInt32) : Option Nat :=
  ((List.range maxDrives).map fun count => (c.probeCursor + count) % maxDrives).find? fun candidate =>
    c.quarantinedResources &&& resourceBit candidate != 0 &&
    objectFences &&& resourceBit candidate == 0

def recoveringControl (c : StorageServiceControl) (resource : Nat) (recovered : Bool) :
    StorageServiceControl :=
  { c with
    recoveringResources :=
      if recovered then c.recoveringResources ||| resourceBit resource
      else c.recoveringResources &&& ~~~resourceBit resource }

/-- The recovery of a write-uncertain medium: every layer in turn, up to the first that
refuses. -/
def recoverWrites (control : StorageServiceControl) (resource : Nat) : Service Bool := do
  if (control.quarantinedResources ||| control.readOnlyResources) &&& ~~~resourceBit resource ≠ 0 then
    pure false
  else
    let journal : Bool ← call (.journalRecover resource)
    if !journal then pure false
    else
      let tested : Bool ← call (.selfTest resource)
      if !tested then pure false
      else
        let writes : Bool ← call (.restoreWrites resource)
        if !writes then pure false else call .restoreMutations

/-- The bits of a reintegrated resource are cleared; a read-only bit only together with
the write fences. -/
def reintegratedControl (c : StorageServiceControl) (resource : Nat) : StorageServiceControl :=
  { repairedControl c resource with probeAttempts := 0 }

def probeIntervalMs (attempts : Nat) : UInt64 :=
  min storageMediaProbeMaxMs (storageMediaProbeInitialMs <<< UInt64.ofNat (min attempts 6))

def nextProbeAttempts (c : StorageServiceControl) (recovered : Bool) : Nat :=
  if !recovered ∧ c.probeAttempts < storageMediaProbeMaxAttempts then c.probeAttempts + 1
  else c.probeAttempts

def probedControl (c : StorageServiceControl) (resource : Nat) (recovered : Bool) (nowMs : UInt64) :
    StorageServiceControl :=
  let attempts := nextProbeAttempts c recovered
  let cursor := (resource + 1) % maxDrives
  if !recovered ∧ storageMediaProbeMaxAttempts ≤ attempts then
    { c with
      probeAttempts := attempts
      probeCursor := cursor
      recoveringResources := c.recoveringResources &&& ~~~resourceBit resource
      nextProbeMs := 0 }
  else
    { c with
      probeAttempts := attempts
      probeCursor := cursor
      nextProbeMs :=
        if c.quarantinedResources ≠ 0 then deadlineAfter nowMs (probeIntervalMs attempts) else 0 }

def finishProbe (control : ControlCopy) (resource : Nat) (recovered : Bool) (nowMs : UInt64) :
    Service Unit := do
  let base := if recovered then reintegratedControl control.value resource else control.value
  let purpose := if recovered then StoragePurpose.reintegrated resource else .other
  let stored ← Prog.store purpose (control.set (probedControl base resource recovered nowMs))
  fenceIf (!stored.1)

/-- The part of `poll_media_reintegration` after the identity of the medium was checked. -/
def reintegrate (control : ControlCopy) (resource : Nat) (matched : Bool) (nowMs : UInt64) :
    Service Unit := do
  let stored ← Prog.store .other (control.set (recoveringControl control.value resource matched))
  if !stored.1 then fenceAll
  else if !matched then finishProbe stored.2 resource false nowMs
  else if stored.2.value.readOnlyResources &&& resourceBit resource = 0 then
    finishProbe stored.2 resource true nowMs
  else
    let recovered ← recoverWrites stored.2.value resource
    fenceIf (!recovered)
    finishProbe stored.2 resource recovered nowMs

def pollMediaReintegration (nowMs : UInt64) : Service Unit := do
  let fences ← vfsFileObjectGuardFenced
  match fences with
  | none => pure ()
  | some objectFences =>
    let read ← Prog.fetch
    match read with
    | none => fenceAll
    | some control =>
      if control.value.quarantinedResources = 0 ∨ control.value.nextProbeMs = 0 ∨
          nowMs < control.value.nextProbeMs then pure ()
      else match probeCandidate control.value objectFences with
        | none => fenceAll
        | some resource =>
          let matched : Bool ← call (.mediaIdentityMatches resource)
          let read ← Prog.reread control
          if !read.1 ∨ read.2.value.quarantinedResources &&& resourceBit resource = 0 then pure ()
          else reintegrate read.2 resource matched nowMs

def degradedControl (c : StorageServiceControl) : StorageServiceControl :=
  if c.pid = 0 then { c with retiring := storageRetireExhausted } else c

def pollRestart (control : ControlCopy) (nowMs : UInt64) : Service Unit := do
  let spawned ← (if storageServiceRestartBudget < control.value.launchCount then pure (false, control)
    else spawnService control nowMs : Service (Bool × ControlCopy))
  if spawned.1 then pure ()
  else
    fenceAll
    let stored ← Prog.store .other (spawned.2.set (degradedControl spawned.2.value))
    if !stored.1 then tell (.setFlag .administrativelyEnabled false) else pure ()

def pollRetire (control : ControlCopy) (nowMs : UInt64) : Service Unit := do
  let begun ← (if control.value.retiring = 0 then retirementBegin control nowMs 0xFFFFFFFFFFFFFFFF false
    else pure (true, control) : Service (Bool × ControlCopy))
  if !begun.1 then pure ()
  else
    let retired ← retirementStep begun.2 nowMs
    if retired.1 ≠ 1 then pure () else pollRestart retired.2 nowMs

def pollLifecycle (control : ControlCopy) (nowMs : UInt64) : Service Unit :=
  if control.value.retiring = storageRetireExhausted then pure ()
  else if control.value.pid = 0 then pollRestart control nowMs
  else do
    let alive : Bool ← ask (.identityAlive control.value.pid control.value.generation)
    if alive ∧ control.value.retiring = 0 ∧
        (control.value.healthy ≠ 0 ∨ nowMs < control.value.startDeadlineMs) then pure ()
    else pollRetire control nowMs

/-- The supervision of the service task: a new fence or an expired repair retires it. -/
def pollService (nowMs : UInt64) : Service Unit := do
  let read ← Prog.fetch
  match read with
  | none => fenceAll
  | some control =>
    let fences ← vfsFileObjectGuardFenced
    match fences with
    | none => pure ()
    | some objectFences =>
      let observed : UInt32 ← ask .observedFences
      let observed := observed &&& objectFences
      tell (.setObservedFences observed)
      let expired ← (if objectFences &&& ~~~observed ≠ 0 then pure true
        else if control.value.retiring ≠ 0 then pure false
        else vfsFileRepairExpired control.value.pid control.value.generation nowMs : Service Bool)
      if !expired then pollLifecycle control nowMs
      else
        let begun ← retirementBegin control nowMs 0xFFFFFFFFFFFFFFFF false
        if !begun.1 then pure ()
        else
          tell (.setObservedFences (observed ||| objectFences))
          pollLifecycle begun.2 nowMs

def pollLocked (nowMs : UInt64) : Service Unit := do
  let polled ← vfsFileObjectGuardPoll nowMs
  if polled ≠ 0 then pure ()
  else
    tell .emitPendingQuarantine
    pollMediaReintegration nowMs
    let enabled ← getFlag .administrativelyEnabled
    let started ← getFlag .serviceStarted
    let starting ← getFlag .serviceStarting
    if !enabled ∨ !started ∨ starting then pure () else pollService nowMs

def storageServicePoll (nowMs : UInt64) : Service Unit := do
  let initialized ← getFlag .initialized
  if !initialized then pure ()
  else
    let entered ← lifecycleEnter
    if !entered then pure ()
    else
      pollLocked nowMs
      Prog.leave

/-- The calls that may write the control record. -/
inductive StorageEntry
  | poll (nowMs : UInt64)
  | reportMediaFailure (resource : Nat) (writeUncertain : Bool)
  | inventoryMedia
  | start (nowMs : UInt64)
  | bind (pid : Int) (generation : UInt32)
  | setCurrentAffinity (cpuAffinityMask : UInt32)
  | adminBegin (resourceMask : UInt32) (requireDown : Bool)
  | adminFinish (resourceMask : UInt32) (mode : AdminMode)
  | adminFail (resourceMask : UInt32)
  | repairPublish (resource : Nat) (pid : Int) (generation fingerprint : UInt32)
  | componentDown (deadlineMs : UInt64)
  | componentUp (deadlineMs : UInt64)

def StorageEntry.program : StorageEntry → Service Unit
  | .poll nowMs => storageServicePoll nowMs
  | .reportMediaFailure resource writeUncertain =>
    ignore (storageServiceReportMediaFailure resource writeUncertain)
  | .inventoryMedia => ignore storageServiceInventoryMedia
  | .start nowMs => ignore (storageServiceStart nowMs)
  | .bind pid generation => ignore (storageServiceBind pid generation)
  | .setCurrentAffinity cpuAffinityMask => ignore (storageServiceSetCurrentAffinity cpuAffinityMask)
  | .adminBegin resourceMask requireDown => ignore (storageServiceAdminBegin resourceMask requireDown)
  | .adminFinish resourceMask mode => ignore (storageServiceAdminFinish resourceMask mode)
  | .adminFail resourceMask => ignore (storageServiceAdminFail resourceMask)
  | .repairPublish resource pid generation fingerprint =>
    ignore (storageServiceRepairPublish resource pid generation fingerprint)
  | .componentDown deadlineMs => ignore (storageServiceComponentDown deadlineMs)
  | .componentUp deadlineMs => ignore (storageServiceComponentUp deadlineMs)

abbrev StorageState :=
  State StorageServiceControl StoragePurpose ServiceQuery ServiceQuery.Answer

def storageService :
    Machine StorageServiceControl StoragePurpose ServiceQuery ServiceQuery.Answer StorageEntry where
  valid := controlValid
  program := StorageEntry.program

end ReistOs
