import ReistOs.StorageControl

/-! The tasks of `kernel/init/storage_service.c` that write the control record. -/

namespace ReistOs

open SharedRecord

inductive ServiceFlag
  | initialized
  | lifecycleFailed
  | administrativelyEnabled
  | serviceStarted
  | serviceStarting

/-- What a task does without reading an answer. -/
inductive ServiceEffect
  | fenceWrites
  | fenceMutations
  | setFlag (f : ServiceFlag) (v : Bool)
  | setObservedFences (mask : UInt32)
  | unbindService (pid : Int) (generation : UInt32)
  | mediaChanged (resource : Nat)
  | reportQuarantine (resource : Nat)
  | emitPendingQuarantine

/-- The kind and the parent of a detected drive. -/
inductive DriveKind
  | ata
  | partition (parentResource : Nat) (parentAta : Bool)
  | other

/-- What a task asks of the rest of the kernel. -/
inductive ServiceQuery
  | effect (e : ServiceEffect)
  | flag (f : ServiceFlag)
  | monotonicMs
  | driveCount
  | drive (resource : Nat)
  | identityAlive (pid : Int) (generation : UInt32)
  | bindService (pid : Int) (generation : UInt32)
  | setAffinity (pid : Int) (generation mask : UInt32)
  | terminate (pid : Int) (generation : UInt32)
  | spawnPrepared
  | identity (pid : Int)
  | startPrepared (pid : Int) (generation : UInt32)
  | adminMaintenanceInit
  | sleeps
  | captureFingerprint (resource : Nat)
  | expectedFingerprint (resource : Nat)
  | mediaIdentityMatches (resource : Nat)
  | journalRecover (resource : Nat)
  | selfTest (resource : Nat)
  | restoreWrites (resource : Nat)
  | restoreMutations
  | guardEntered
  | guardPoll (nowMs : UInt64)
  | guardFenced
  | guardRepairExpired (pid : Int) (generation : UInt32) (nowMs : UInt64)
  | unreportedFences
  | observedFences
  | mediaFailures (q : ServiceQuery)

/-- `mediaFailures q` lists the failures that the call `q` reports on its way,
`unreportedFences` the resources `vfs_guard_publish_fences` still has to report. -/
def ServiceQuery.Answer : ServiceQuery → Type
  | effect _ => Unit
  | monotonicMs => UInt64
  | driveCount | bindService .. | setAffinity .. | terminate .. | spawnPrepared
  | startPrepared .. | guardPoll _ => Int
  | drive _ => DriveKind
  | identity _ | expectedFingerprint _ | guardFenced => Option UInt32
  | sleeps => Nat
  | unreportedFences => List Nat
  | observedFences => UInt32
  | mediaFailures _ => List (Nat × Bool)
  | flag _ | identityAlive .. | adminMaintenanceInit | captureFingerprint _ | mediaIdentityMatches _
  | journalRecover _ | selfTest _ | restoreWrites _ | restoreMutations | guardEntered
  | guardRepairExpired .. => Bool

abbrev Service (α : Type) := Prog StorageServiceControl StoragePurpose ServiceQuery ServiceQuery.Answer α

abbrev ControlCopy := Copy StorageServiceControl

def ask (q : ServiceQuery) : Service q.Answer := Prog.query q

def tell (e : ServiceEffect) : Service Unit := ask (.effect e)

def getFlag (f : ServiceFlag) : Service Bool := ask (.flag f)

def ignore {α : Type} (p : Service α) : Service Unit := p.bind fun _ => .done ()

def fenceAll : Service Unit := do
  tell .fenceWrites
  tell .fenceMutations

def fenceIf (unsafeState : Bool) : Service Unit := if unsafeState then fenceAll else pure ()

def lifecycleFail : Service Unit := do
  tell (.setFlag .lifecycleFailed true)
  tell (.setFlag .administrativelyEnabled false)
  fenceAll

def lifecycleEnter : Service Bool := do
  let failed ← getFlag .lifecycleFailed
  if failed then pure false else Prog.enter

def deadlineAfter (nowMs intervalMs : UInt64) : UInt64 :=
  if 0xFFFFFFFFFFFFFFFF - nowMs < intervalMs then 0xFFFFFFFFFFFFFFFF else nowMs + intervalMs

def quarantinedControl (c : StorageServiceControl) (resource : Nat) (writeUncertain : Bool)
    (nowMs : UInt64) : StorageServiceControl :=
  let mask := resourceBit resource
  { c with
    quarantinedResources := c.quarantinedResources ||| mask
    recoveringResources := c.recoveringResources &&& ~~~mask
    readOnlyResources := if writeUncertain then c.readOnlyResources ||| mask else c.readOnlyResources
    probeAttempts := 0
    nextProbeMs := deadlineAfter nowMs storageMediaProbeInitialMs }

/-- The first report of a resource revokes its objects and is printed by the next poll. -/
def announceQuarantine (resource : Nat) (first : Bool) : Service Unit :=
  if first then do
    tell (.mediaChanged resource)
    tell (.reportQuarantine resource)
  else pure ()

def storageServiceReportMediaFailure (resource : Nat) (writeUncertain : Bool) : Service Bool := do
  let initialized ← getFlag .initialized
  if maxDrives ≤ resource ∨ !initialized then
    fenceAll
    pure false
  else
    let read ← Prog.fetch
    match read with
    | none =>
      fenceAll
      pure false
    | some control =>
      let reportQuarantine := control.value.quarantinedResources &&& resourceBit resource == 0
      let nowMs : UInt64 ← ask .monotonicMs
      let stored ← Prog.store .other
        (control.set (quarantinedControl control.value resource writeUncertain nowMs))
      if !stored.1 then
        fenceAll
        pure false
      else
        fenceIf writeUncertain
        announceQuarantine resource reportQuarantine
        pure true

def reportFailures (failures : List (Nat × Bool)) : Service Unit :=
  Prog.forEach (fun f => ignore (storageServiceReportMediaFailure f.1 f.2)) failures

/-- A call into a layer that may report media failures before it returns. -/
def call (q : ServiceQuery) : Service q.Answer := do
  let failures : List (Nat × Bool) ← ask (.mediaFailures q)
  reportFailures failures
  ask q

def vfsGuardPublishFences : Service Unit := do
  let resources : List Nat ← ask .unreportedFences
  reportFailures (resources.map fun r => (r, true))

/-- Every VFS guard call publishes the fences when it leaves the VFS mutex, also one that
is refused because of a pending media change. -/
def vfsGuardCall {α : Type} (busy : α) (q : Service α) : Service α := do
  let entered : Bool ← ask .guardEntered
  let result ← (if entered then q else pure busy : Service α)
  vfsGuardPublishFences
  pure result

def vfsFileObjectGuardPoll (nowMs : UInt64) : Service Int :=
  vfsGuardCall (-16) (ask (.guardPoll nowMs))

def vfsFileObjectGuardFenced : Service (Option UInt32) := vfsGuardCall none (ask .guardFenced)

def vfsFileRepairExpired (pid : Int) (generation : UInt32) (nowMs : UInt64) : Service Bool :=
  vfsGuardCall false (ask (.guardRepairExpired pid generation nowMs))

def retiringControl (c : StorageServiceControl) (deadlineMs : UInt64) : StorageServiceControl :=
  if c.retiring ≠ storageRetirePending then
    { c with healthy := 0, retiring := storageRetirePending, startDeadlineMs := deadlineMs }
  else if deadlineMs < c.startDeadlineMs then { c with startDeadlineMs := deadlineMs }
  else c

def retireDeadline (nowMs limitMs : UInt64) : UInt64 :=
  let deadline := min limitMs (deadlineAfter nowMs storageServiceRetireTimeoutMs)
  if deadline = 0 then 1 else deadline

def retirementBegin (control : ControlCopy) (nowMs limitMs : UInt64) (explicitRetry : Bool) :
    Service (Bool × ControlCopy) :=
  if control.value.pid = 0 then pure (true, control)
  else if control.value.retiring = storageRetireExhausted ∧ !explicitRetry then pure (false, control)
  else do
    let stored ← Prog.store .other
      (control.set (retiringControl control.value (retireDeadline nowMs limitMs)))
    if !stored.1 then
      lifecycleFail
      pure (false, stored.2)
    else
      tell (.unbindService stored.2.value.pid stored.2.value.generation)
      pure (true, stored.2)

def retiredControl (c : StorageServiceControl) : StorageServiceControl :=
  { c with pid := 0, generation := 0, healthy := 0, retiring := 0, startDeadlineMs := 0 }

def retirementStep (control : ControlCopy) (nowMs : UInt64) : Service (Int × ControlCopy) :=
  if control.value.pid = 0 then pure (1, control)
  else if control.value.retiring ≠ storageRetirePending then pure (-1, control)
  else do
    let pid := control.value.pid
    let generation := control.value.generation
    let alive : Bool ← ask (.identityAlive pid generation)
    if !alive then
      -- cleanup may have published fences, so the record is read again
      let read ← Prog.reread control
      if !read.1 ∨ read.2.value.pid ≠ pid ∨ read.2.value.generation ≠ generation then
        lifecycleFail
        pure (-1, read.2)
      else
        let stored ← Prog.store .other (read.2.set (retiredControl read.2.value))
        if !stored.1 then
          lifecycleFail
          pure (-1, stored.2)
        else pure (1, stored.2)
    else if control.value.startDeadlineMs ≤ nowMs then
      fenceAll
      let stored ← Prog.store .other
        (control.set { control.value with retiring := storageRetireExhausted })
      if !stored.1 then
        lifecycleFail
        pure (-1, stored.2)
      else pure (-1, stored.2)
    else
      let pinned : Int ← ask (.setAffinity pid generation 1)
      if pinned ≠ 0 then pure (0, control)
      else
        let _ ← ask (.terminate pid generation)
        pure (0, control)

def launchedControl (c : StorageServiceControl) (pid : Int) (generation : UInt32) (nowMs : UInt64) :
    StorageServiceControl :=
  { c with
    pid := pid
    generation := generation
    healthy := 0
    launchCount := c.launchCount + 1
    startDeadlineMs := deadlineAfter nowMs storageServiceStartTimeoutMs }

/-- The end of `spawn_service` once the prepared task has an identity. -/
def publishService (control : ControlCopy) (pid : Int) (generation : UInt32) (nowMs : UInt64) :
    Service (Bool × ControlCopy) := do
  let read ← Prog.reread control
  if !read.1 ∨ read.2.value.pid ≠ 0 ∨ read.2.value.retiring ≠ 0 then
    lifecycleFail
    let _ ← ask (.terminate pid generation)
    pure (false, read.2)
  else
    let stored ← Prog.store .other (read.2.set (launchedControl read.2.value pid generation nowMs))
    if !stored.1 then
      lifecycleFail
      let _ ← ask (.terminate pid generation)
      pure (false, stored.2)
    else
      let started : Int ← ask (.startPrepared pid generation)
      if started ≠ 0 then
        let retired ← retirementBegin stored.2 nowMs 0xFFFFFFFFFFFFFFFF false
        fenceIf (!retired.1)
        pure (false, retired.2)
      else pure (true, stored.2)

def spawnService (control : ControlCopy) (nowMs : UInt64) : Service (Bool × ControlCopy) :=
  if control.value.pid ≠ 0 ∨ control.value.retiring ≠ 0 ∨
      storageServiceRestartBudget < control.value.launchCount then pure (false, control)
  else do
    let pid : Int ← call .spawnPrepared
    if pid ≤ 0 then
      let read ← Prog.reread control
      (if !read.1 then lifecycleFail else pure () : Service Unit)
      pure (false, read.2)
    else
      let identity : Option UInt32 ← ask (.identity pid)
      match identity with
      | none =>
        lifecycleFail
        pure (false, control)
      | some generation => publishService control pid generation nowMs

def storageStartLocked (nowMs : UInt64) : Service Bool := do
  let initialized ← getFlag .initialized
  let enabled ← getFlag .administrativelyEnabled
  let starting ← getFlag .serviceStarting
  let started ← getFlag .serviceStarted
  if !initialized ∨ !enabled ∨ starting ∨ started then pure false
  else
    let ready : Bool ← ask .adminMaintenanceInit
    if !ready then pure false
    else
      tell (.setFlag .serviceStarting true)
      let read ← Prog.fetch
      match read with
      | none =>
        tell (.setFlag .serviceStarted false)
        tell (.setFlag .serviceStarting false)
        pure false
      | some control =>
        let result ← (if control.value.pid = 0 then spawnService control nowMs
          else pure (false, control) : Service (Bool × ControlCopy))
        tell (.setFlag .serviceStarted (result.1 || decide (0 < result.2.value.pid)))
        tell (.setFlag .serviceStarting false)
        pure result.1

def storageServiceStart (nowMs : UInt64) : Service Bool := do
  let entered ← lifecycleEnter
  if !entered then pure false
  else
    let result ← storageStartLocked nowMs
    Prog.leave
    pure result

/-- The waiting loop of `storage_down_locked`; `sleeps` counts the sleeps that succeed. -/
def retireLoop : Nat → ControlCopy → Service (Option ControlCopy)
  | sleeps, control => do
    let nowMs : UInt64 ← ask .monotonicMs
    let result ← retirementStep control nowMs
    if result.1 < 0 then pure none
    else if result.1 = 1 then pure (some result.2)
    else match sleeps with
      | 0 => pure none
      | sleeps + 1 =>
        let read ← Prog.reread result.2
        if !read.1 then pure none else retireLoop sleeps read.2

def downControl (c : StorageServiceControl) : StorageServiceControl :=
  { retiredControl c with postReadyCpuAffinityMask := 0 }

def storageServiceComponentReady : Service Bool := do
  let initialized ← getFlag .initialized
  let enabled ← getFlag .administrativelyEnabled
  let started ← getFlag .serviceStarted
  if !initialized ∨ !enabled ∨ !started then pure false
  else
    let read ← Prog.fetch
    match read with
    | none => pure false
    | some control =>
      if control.value.healthy = 0 ∨ control.value.pid ≤ 0 ∨ control.value.generation = 0 then pure false
      else ask (.identityAlive control.value.pid control.value.generation)

def retireService (control : ControlCopy) (deadlineMs : UInt64) : Service (Option ControlCopy) :=
  if 0 < control.value.pid then do
    let nowMs : UInt64 ← ask .monotonicMs
    let begun ← retirementBegin control nowMs deadlineMs true
    if !begun.1 then pure none
    else
      let sleeps : Nat ← ask .sleeps
      retireLoop sleeps begun.2
  else pure (some control)

def storageDownLocked (deadlineMs : UInt64) : Service Bool := do
  let initialized ← getFlag .initialized
  if !initialized then pure false
  else
    tell (.setFlag .administrativelyEnabled false)
    let read ← Prog.fetch
    match read with
    | none => pure false
    | some control =>
      let retired ← retireService control deadlineMs
      match retired with
      | none => pure false
      | some control =>
        let stored ← Prog.store .other (control.set (downControl control.value))
        if !stored.1 then pure false
        else
          tell (.setFlag .serviceStarted false)
          tell (.setFlag .serviceStarting false)
          let ready ← storageServiceComponentReady
          pure !ready

def storageServiceComponentDown (deadlineMs : UInt64) : Service Bool := do
  let entered ← lifecycleEnter
  if !entered then pure false
  else
    let result ← storageDownLocked deadlineMs
    Prog.leave
    pure result

/-- Waiting for the service; the loop ends when it is ready or no further sleep is due. -/
def awaitReady : Nat → Service Unit
  | 0 => pure ()
  | sleeps + 1 => do
    let ready ← storageServiceComponentReady
    if ready then pure () else awaitReady sleeps

def startAndAwait : Service Bool := do
  let nowMs : UInt64 ← ask .monotonicMs
  let started ← storageStartLocked nowMs
  if started then do
    let sleeps : Nat ← ask .sleeps
    awaitReady sleeps
    storageServiceComponentReady
  else pure false

/-- `storage_service_component_up` inside the lifecycle lock. -/
def storageUpLocked (deadlineMs : UInt64) : Service Bool := do
  let ready ← storageServiceComponentReady
  if ready then pure true
  else
    let down ← storageDownLocked deadlineMs
    if !down then pure false
    else
      let read ← Prog.fetch
      match read with
      | none => pure false
      | some control =>
        let stored ← Prog.store .other (control.set { control.value with launchCount := 0 })
        if !stored.1 then pure false
        else
          tell (.setFlag .administrativelyEnabled true)
          let result ← startAndAwait
          if result then pure true
          else
            let down ← storageDownLocked deadlineMs
            fenceIf (!down)
            pure false

def storageServiceComponentUp (deadlineMs : UInt64) : Service Bool := do
  let initialized ← getFlag .initialized
  let nowMs : UInt64 ← ask .monotonicMs
  if !initialized ∨ deadlineMs ≤ nowMs then pure false
  else
    let entered ← lifecycleEnter
    if !entered then pure false
    else
      let result ← storageUpLocked deadlineMs
      Prog.leave
      pure result

end ReistOs
