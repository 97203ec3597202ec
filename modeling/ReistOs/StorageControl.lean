import ReistOs.SharedRecord

/-! The protected control record of `kernel/init/storage_service.c`. -/

namespace ReistOs

open SharedRecord

def maxDrives : Nat := 22
def x86CpuLocalMax : Nat := 16
def storageServiceStartTimeoutMs : UInt64 := 1000
def storageServiceRetireTimeoutMs : UInt64 := 1000
def storageRetirePending : UInt32 := 1
def storageRetireExhausted : UInt32 := 2
def storageServiceRestartBudget : UInt32 := 3
def storageMediaProbeInitialMs : UInt64 := 250
def storageMediaProbeMaxMs : UInt64 := 30000
def storageMediaProbeMaxAttempts : Nat := 8

structure StorageServiceControl where
  pid : Int
  generation : UInt32
  launchCount : UInt32
  healthy : UInt32
  quarantinedResources : UInt32
  readOnlyResources : UInt32
  recoveringResources : UInt32
  probeCursor : Nat
  probeAttempts : Nat
  postReadyCpuAffinityMask : UInt16
  adminDownResources : UInt32
  adminTransitionResources : UInt32
  adminFailedResources : UInt32
  retiring : UInt32
  startDeadlineMs : UInt64
  nextProbeMs : UInt64
  deriving DecidableEq

/-- `1U << resource` -/
def resourceBit (resource : Nat) : UInt32 := 1 <<< UInt32.ofNat resource

def controlValid (c : StorageServiceControl) : Bool :=
  let validResources := resourceBit maxDrives - 1
  c.healthy ≤ 1 && c.retiring ≤ storageRetireExhausted &&
  (c.quarantinedResources ||| c.readOnlyResources ||| c.recoveringResources ||| c.adminDownResources |||
    c.adminTransitionResources ||| c.adminFailedResources) &&& ~~~validResources == 0 &&
  c.recoveringResources &&& ~~~c.quarantinedResources == 0 &&
  c.adminFailedResources &&& ~~~c.adminDownResources == 0 &&
  c.probeCursor < maxDrives && c.probeAttempts ≤ storageMediaProbeMaxAttempts &&
  c.launchCount ≤ storageServiceRestartBudget + 1 &&
  (if c.pid = 0 then
    c.generation == 0 && c.healthy == 0 && c.startDeadlineMs == 0 && c.retiring != storageRetirePending
  else
    0 < c.pid && c.generation != 0 &&
      (c.healthy != 0 && c.retiring == 0 && c.startDeadlineMs == 0 ||
        c.healthy == 0 && c.startDeadlineMs != 0))

/-- The bits of the record that withhold a resource. -/
inductive StorageBit
  | quarantined (resource : Nat)
  | readOnly (resource : Nat)
  | adminDown (resource : Nat)
  | adminFailed (resource : Nat)

def Names (mask : UInt32) (resource : Nat) : Prop := mask.toBitVec.getLsbD resource = true

instance (mask : UInt32) (resource : Nat) : Decidable (Names mask resource) := by
  unfold Names; infer_instance

def StorageServiceControl.Has (c : StorageServiceControl) : StorageBit → Prop
  | .quarantined r => Names c.quarantinedResources r
  | .readOnly r => Names c.readOnlyResources r
  | .adminDown r => Names c.adminDownResources r
  | .adminFailed r => Names c.adminFailedResources r

inductive StoragePurpose
  | other
  | reintegrated (resource : Nat)
  | repaired (resource : Nat)
  | adminFinished (resourceMask : UInt32)
  deriving DecidableEq

/-- The bits a write may clear: reintegration and repair those of their resource, the end of a
transition the administrative bits of its resources. -/
def StoragePurpose.Clears : StoragePurpose → StorageBit → Prop
  | .reintegrated r, .quarantined k => k = r
  | .reintegrated r, .readOnly k => k = r
  | .repaired r, .quarantined k => k = r
  | .repaired r, .readOnly k => k = r
  | .adminFinished mask, .adminDown k => Names mask k
  | .adminFinished mask, .adminFailed k => Names mask k
  | _, _ => False

variable {a b : UInt32} {r k : Nat}

@[simp] theorem names_or : Names (a ||| b) r ↔ Names a r ∨ Names b r := by
  simp [Names]

theorem names_and_not (ha : Names a r) (hb : ¬ Names b r) : Names (a &&& ~~~b) r := by
  unfold Names at ha hb ⊢
  have hr : r < 32 := BitVec.lt_of_getLsbD ha
  rw [UInt32.toBitVec_and, UInt32.toBitVec_not, BitVec.getLsbD_and, BitVec.getLsbD_not, ha,
    Bool.eq_false_iff.mpr hb]
  simp [hr]

theorem names_bit (hr : r < 32) : Names (resourceBit r) k ↔ k = r := by
  have hm : r % 4294967296 % 32 = r := by omega
  unfold Names resourceBit
  simp [hm, BitVec.getLsbD_shiftLeft]
  omega

end ReistOs
