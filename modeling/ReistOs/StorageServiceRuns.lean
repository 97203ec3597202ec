import ReistOs.StorageServiceBits

/-! Runs of the tasks that share the control record: when a bit that withholds a resource
stays set. -/

namespace ReistOs

open SharedRecord

/-- A write is fresh when the record it replaces withholds nothing that the writer had not
seen. -/
abbrev FreshWrite (w : Written StorageServiceControl StoragePurpose) : Prop :=
  w.Fresh StorageServiceControl.Has

def healthyControl : StorageServiceControl where
  pid := 5
  generation := 1
  launchCount := 1
  healthy := 1
  quarantinedResources := 0
  readOnlyResources := 0
  recoveringResources := 0
  probeCursor := 0
  probeAttempts := 0
  postReadyCpuAffinityMask := 1
  adminDownResources := 0
  adminTransitionResources := 0
  adminFailedResources := 0
  retiring := 0
  startDeadlineMs := 0
  nextProbeMs := 0

def healthyState : StorageState := ⟨healthyControl, false, []⟩

/-- A started service whose VFS guard has the objects of `fences` fenced and not reported. -/
def fenceAnswers (fences : List Nat) (mask : UInt32) : Answers ServiceQuery ServiceQuery.Answer where
  ok := true
  answer
    | .effect _ => ()
    | .monotonicMs => (1000 : UInt64)
    | .driveCount => (1 : Int)
    | .bindService .. | .setAffinity .. | .terminate .. | .spawnPrepared | .startPrepared ..
    | .guardPoll _ => (0 : Int)
    | .drive _ => DriveKind.ata
    | .identity _ | .expectedFingerprint _ => (none : Option UInt32)
    | .guardFenced => (some mask : Option UInt32)
    | .sleeps => (0 : Nat)
    | .unreportedFences => fences
    | .observedFences => (0 : UInt32)
    | .mediaFailures _ => ([] : List (Nat × Bool))
    | .flag .lifecycleFailed | .flag .serviceStarting => false
    | .flag _ | .identityAlive .. | .guardEntered => true
    | .adminMaintenanceInit | .captureFingerprint _ | .mediaIdentityMatches _ | .journalRecover _
    | .selfTest _ | .restoreWrites _ | .restoreMutations | .guardRepairExpired .. => false

abbrev StorageMove := Move StorageEntry ServiceQuery ServiceQuery.Answer

def taskMoves (task count : Nat) (env : Answers ServiceQuery ServiceQuery.Answer) : List StorageMove :=
  List.replicate count (.step task env)

def reportMoves : List StorageMove :=
  .start (.reportMediaFailure 3 true) :: taskMoves 0 10 (fenceAnswers [] 0)

def reportedState : StorageState := (run storageService healthyState reportMoves).1

def affinityMoves : List StorageMove :=
  .start (.setCurrentAffinity 2) :: taskMoves 1 10 (fenceAnswers [] 0)

def pollMoves : List StorageMove :=
  .start (.poll 1000) :: (taskMoves 0 16 (fenceAnswers [] 0) ++ taskMoves 0 10 (fenceAnswers [0] 1))

end ReistOs
