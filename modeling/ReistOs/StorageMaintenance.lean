import Mathlib.Tactic

/-! Maintenance leases of `kernel/init/storage_maintenance.c`. -/

namespace ReistOs

def storageMaintenanceMaxResources : UInt32 := 32
def storageMaintenanceTokenSlotMask : UInt32 := 0x1F
def storageMaintenanceTokenGenerationMax : UInt32 := 0x07FFFFFF
def storageMaintenanceLeaseMs : UInt64 := 15000
def storageMaintenanceInvalidToken : UInt32 := 0

def storageEinval : Int := -22
def storageEbusy : Int := -16
def storageEacces : Int := -13
def storageEtimedout : Int := -110
def storageEintegrity : Int := -84

structure StorageMaintenanceState where
  active : UInt32
  pid : Int
  processGeneration : UInt32
  mediaFingerprint : UInt32
  tokenGeneration : UInt32
  deadlineMs : UInt64
  deriving DecidableEq

def leaseStateValid (state : StorageMaintenanceState) : Bool :=
  if 1 < state.active ∨ state.tokenGeneration = 0 ∨
      storageMaintenanceTokenGenerationMax < state.tokenGeneration then false
  else if state.active = 0 then
    state.pid == 0 && state.processGeneration == 0 && state.mediaFingerprint == 0 && state.deadlineMs == 0
  else
    0 < state.pid && state.processGeneration != 0 && state.mediaFingerprint != 0 && state.deadlineMs != 0

def deadlineExpired (deadline nowMs : UInt64) : Bool := deadline == 0 || deadline ≤ nowMs

def leaseDeadline (nowMs : UInt64) : UInt64 :=
  if 0xFFFFFFFFFFFFFFFF - nowMs < storageMaintenanceLeaseMs then 0xFFFFFFFFFFFFFFFF
  else nowMs + storageMaintenanceLeaseMs

def makeToken (slot generation : UInt32) : UInt32 := generation <<< 5 ||| (slot + 1) &&& 0x1F

def decodeToken (token : UInt32) : Option (UInt32 × UInt32) :=
  if token = storageMaintenanceInvalidToken then none
  else
    let encodedSlot := token &&& storageMaintenanceTokenSlotMask
    let encodedGeneration := token >>> 5
    if encodedSlot = 0 ∨ storageMaintenanceMaxResources < encodedSlot ∨ encodedGeneration = 0 ∨
        storageMaintenanceTokenGenerationMax < encodedGeneration then none
    else some (encodedSlot - 1, encodedGeneration)

/-- The module's state; `leaseObjects` is only used at slots below the maximum. -/
structure StorageMaintenance where
  initialized : Bool
  leaseObjects : UInt32 → StorageMaintenanceState

namespace StorageMaintenance

/-- `critical_object_read` of a lease: only a valid record is returned. -/
def read (m : StorageMaintenance) (slot : UInt32) : Option StorageMaintenanceState :=
  if leaseStateValid (m.leaseObjects slot) then some (m.leaseObjects slot) else none

/-- `critical_object_update` of a lease: only a valid record is replaced. -/
def update (m : StorageMaintenance) (slot : UInt32) (state : StorageMaintenanceState) :
    Bool × StorageMaintenance :=
  if leaseStateValid (m.leaseObjects slot) then
    (true, { m with leaseObjects := Function.update m.leaseObjects slot state })
  else (false, m)

end StorageMaintenance

def freeLease (tokenGeneration : UInt32) : StorageMaintenanceState := ⟨0, 0, 0, 0, tokenGeneration, 0⟩

def storageMaintenanceInit (m : StorageMaintenance) : StorageMaintenance :=
  if m.initialized then m
  else ⟨true, fun slot => if slot < storageMaintenanceMaxResources then freeLease 1 else m.leaseObjects slot⟩

def storageMaintenanceAcquire (pid : Int) (processGeneration resource mediaFingerprint : UInt32)
    (nowMs : UInt64) (m : StorageMaintenance) : Except Int UInt32 × StorageMaintenance :=
  if !m.initialized ∨ pid ≤ 0 ∨ processGeneration = 0 ∨ storageMaintenanceMaxResources ≤ resource ∨
      mediaFingerprint = 0 then (.error storageEinval, m)
  else
    match m.read resource with
    | none => (.error storageEintegrity, m)
    | some state =>
      if state.active ≠ 0 ∧ !deadlineExpired state.deadlineMs nowMs then (.error storageEbusy, m)
      else if state.tokenGeneration = storageMaintenanceTokenGenerationMax then
        (.error storageEintegrity, m)
      else
        let state := ⟨1, pid, processGeneration, mediaFingerprint, state.tokenGeneration + 1,
          leaseDeadline nowMs⟩
        let updated := m.update resource state
        if updated.1 then (.ok (makeToken resource state.tokenGeneration), updated.2)
        else (.error storageEintegrity, updated.2)

def storageMaintenanceRenew (pid : Int) (processGeneration token mediaFingerprint : UInt32)
    (nowMs : UInt64) (m : StorageMaintenance) : Int × StorageMaintenance :=
  if !m.initialized ∨ pid ≤ 0 ∨ processGeneration = 0 ∨ mediaFingerprint = 0 then (storageEinval, m)
  else
    match decodeToken token with
    | none => (storageEinval, m)
    | some (slot, generation) =>
      match m.read slot with
      | none => (storageEintegrity, m)
      | some state =>
        if state.active = 0 ∨ state.tokenGeneration ≠ generation ∨ state.pid ≠ pid ∨
            state.processGeneration ≠ processGeneration ∨ state.mediaFingerprint ≠ mediaFingerprint then
          (storageEacces, m)
        else if deadlineExpired state.deadlineMs nowMs then (storageEtimedout, m)
        else
          let updated := m.update slot { state with deadlineMs := leaseDeadline nowMs }
          (if updated.1 then 0 else storageEintegrity, updated.2)

def storageMaintenanceRelease (pid : Int) (processGeneration token : UInt32) (m : StorageMaintenance) :
    Int × StorageMaintenance :=
  if !m.initialized then (storageEinval, m)
  else
    match decodeToken token with
    | none => (storageEinval, m)
    | some (slot, generation) =>
      match m.read slot with
      | none => (storageEintegrity, m)
      | some state =>
        if state.active = 0 then (0, m)
        else if state.tokenGeneration ≠ generation ∨ state.pid ≠ pid ∨
            state.processGeneration ≠ processGeneration then (storageEacces, m)
        else
          let updated := m.update slot (freeLease state.tokenGeneration)
          (if updated.1 then 0 else storageEintegrity, updated.2)

def storageMaintenanceValid (pid : Int) (processGeneration token mediaFingerprint : UInt32)
    (nowMs : UInt64) (m : StorageMaintenance) : Bool :=
  if !m.initialized then false
  else
    match decodeToken token with
    | none => false
    | some (slot, generation) =>
      match m.read slot with
      | none => false
      | some state =>
        state.active != 0 && state.tokenGeneration == generation && state.pid == pid &&
          state.processGeneration == processGeneration && state.mediaFingerprint == mediaFingerprint &&
          !deadlineExpired state.deadlineMs nowMs

def cleanupLease (pid : Int) (processGeneration slot : UInt32) (r : UInt32 × StorageMaintenance) :
    UInt32 × StorageMaintenance :=
  match r.2.read slot with
  | none => r
  | some state =>
    if state.active = 0 ∨ state.pid ≠ pid ∨ state.processGeneration ≠ processGeneration then r
    else
      let updated := r.2.update slot (freeLease state.tokenGeneration)
      (if updated.1 ∧ slot < 32 then r.1 ||| 1 <<< slot else r.1, updated.2)

def storageMaintenanceProcessCleanup (pid : Int) (processGeneration : UInt32) (m : StorageMaintenance) :
    UInt32 × StorageMaintenance :=
  if !m.initialized ∨ pid ≤ 0 ∨ processGeneration = 0 then (0, m)
  else
    ((List.range storageMaintenanceMaxResources.toNat).map UInt32.ofNat).foldl
      (fun r slot => cleanupLease pid processGeneration slot r) (0, m)

/-- The calls of a run, each with the owner it names. -/
inductive LeaseCall
  | init
  | acquire (pid : Int) (processGeneration resource mediaFingerprint : UInt32)
  | renew (pid : Int) (processGeneration token mediaFingerprint : UInt32)
  | release (pid : Int) (processGeneration token : UInt32)
  | valid (pid : Int) (processGeneration token mediaFingerprint : UInt32)
  | processCleanup (pid : Int) (processGeneration : UInt32)

def LeaseCall.run (nowMs : UInt64) (m : StorageMaintenance) :
    LeaseCall → Option UInt32 × StorageMaintenance
  | .init => (none, storageMaintenanceInit m)
  | .acquire pid generation resource fingerprint =>
    let r := storageMaintenanceAcquire pid generation resource fingerprint nowMs m
    (r.1.toOption, r.2)
  | .renew pid generation token fingerprint =>
    (none, (storageMaintenanceRenew pid generation token fingerprint nowMs m).2)
  | .release pid generation token => (none, (storageMaintenanceRelease pid generation token m).2)
  | .valid .. => (none, m)
  | .processCleanup pid generation => (none, (storageMaintenanceProcessCleanup pid generation m).2)

/-- A run: timed calls, the tokens handed out in order, and the state at the end. -/
def runLeases (m : StorageMaintenance) : List (UInt64 × LeaseCall) → List UInt32 × StorageMaintenance
  | [] => ([], m)
  | (nowMs, call) :: calls =>
    let r := call.run nowMs m
    (r.1.toList ++ (runLeases r.2 calls).1, (runLeases r.2 calls).2)

end ReistOs
