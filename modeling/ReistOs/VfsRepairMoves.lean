import ReistOs.FileObjectGuardFences
import ReistOs.VfsRepairRequests

/-! Which of the protected records of a repair each layer may touch. -/

namespace ReistOs

open Attempt

def unmarked : FileObjectOwner → UInt32 → Nat → Prop := fun _ _ _ => False

/-- A move of the storage service: its control record and what follows from it. -/
structure ServiceMove (s s' : VfsRepairState) : Prop where
  guard : s'.guard = s.guard
  records : s'.records = s.records
  repairPoisoned : s'.repairPoisoned = s.repairPoisoned
  pool : s'.pool = s.pool
  initialized : s'.initialized = s.initialized

structure PoolMove (s s' : VfsRepairState) : Prop where
  guard : s'.guard = s.guard
  records : s'.records = s.records
  repairPoisoned : s'.repairPoisoned = s.repairPoisoned
  control : s'.control = s.control
  controlFailed : s'.controlFailed = s.controlFailed
  writesFenced : s'.writesFenced = s.writesFenced
  initialized : s'.initialized = s.initialized

/-- A move of the guard, which may come with the repair layer's own poison. -/
structure GuardMove (s s' : VfsRepairState) : Prop where
  guard : GuardRetains unmarked s.guard s'.guard
  records : s'.records = s.records
  repairPoisoned : s.repairPoisoned = true → s'.repairPoisoned = true
  pool : s'.pool = s.pool
  control : s'.control = s.control
  controlFailed : s'.controlFailed = s.controlFailed
  writesFenced : s'.writesFenced = s.writesFenced
  initialized : s'.initialized = s.initialized

section Service

variable {s0 : VfsRepairState} {resource : Nat} {owner : FileObjectOwner} {fingerprint : UInt32}

theorem ServiceMove.refl (s : VfsRepairState) : ServiceMove s s := ⟨rfl, rfl, rfl, rfl, rfl⟩

theorem fenceWrites_moves : Keeps (ServiceMove s0) fenceWrites :=
  Keeps.modify fun _ h => ⟨h.guard, h.records, h.repairPoisoned, h.pool, h.initialized⟩

theorem storageControlRead_moves : Keeps (ServiceMove s0) storageControlRead := by
  refine Keeps.get.bind fun s => Keeps.guard fun _ => ?_
  refine Keeps.bind (Keeps.modify fun _ h => ?_) fun _ => Keeps.pure
  exact ⟨h.guard, h.records, h.repairPoisoned, h.pool, h.initialized⟩

variable {control : StorageServiceControl} {writeUncertain : Bool}

theorem storageControlWrite_moves : Keeps (ServiceMove s0) (storageControlWrite control) := by
  refine Keeps.draw.bind fun stored => Keeps.ite (fun _ => ?_) fun _ => ?_
  · refine Keeps.bind (Keeps.modify fun s h => ?_) fun _ => Keeps.pure
    exact ⟨h.guard, h.records, h.repairPoisoned, h.pool, h.initialized⟩
  · refine Keeps.bind (Keeps.modify fun s h => ?_) fun _ => Keeps.pure
    exact ⟨h.guard, h.records, h.repairPoisoned, h.pool, h.initialized⟩

theorem fileObjectGuardMediaChanged_moves : Keeps (ServiceMove s0) (fileObjectGuardMediaChanged resource) :=
  Keeps.guard fun _ => Keeps.draw.bind fun _ => Keeps.modify fun _ h =>
    ⟨h.guard, h.records, h.repairPoisoned, h.pool, h.initialized⟩

theorem quarantinePublish_moves :
    Keeps (ServiceMove s0) (quarantinePublish control resource writeUncertain) := by
  refine Keeps.draw.bind fun now => storageControlWrite_moves.bind fun stored => ?_
  refine (Keeps.ite (fun _ => fenceWrites_moves) fun _ => Keeps.pure).bind fun _ => ?_
  refine (Keeps.ite (fun _ => ?_) fun _ => Keeps.pure).bind fun _ => Keeps.pure
  exact Keeps.ite (fun _ => fileObjectGuardMediaChanged_moves) fun _ => Keeps.pure

theorem reportMediaFailure_moves :
    Keeps (ServiceMove s0) (reportMediaFailure resource writeUncertain) := by
  refine Keeps.get.bind fun s => Keeps.ite (fun _ => fenceWrites_moves.bind fun _ => Keeps.pure) fun _ => ?_
  refine storageControlRead_moves.bind fun control => ?_
  cases control with
  | none => exact fenceWrites_moves.bind fun _ => Keeps.pure
  | some control => exact quarantinePublish_moves

theorem deviceCall_moves : Keeps (ServiceMove s0) deviceCall :=
  Keeps.draw.bind fun _ => Keeps.forEach fun _ _ => reportMediaFailure_moves.bind fun _ => Keeps.pure

theorem serviceAuthorized_moves : Keeps (ServiceMove s0) (serviceAuthorized owner) := by
  refine Keeps.get.bind fun s => Keeps.draw.bind fun _ => storageControlRead_moves.bind fun control => ?_
  refine Keeps.draw.bind fun _ => ?_
  cases control with
  | none => exact Keeps.pure
  | some c => exact Keeps.pure

theorem repairIdentity_moves : Keeps (ServiceMove s0) (repairIdentity resource owner fingerprint) := by
  refine Keeps.draw.bind fun _ => serviceAuthorized_moves.bind fun _ => storageControlRead_moves.bind fun _ => ?_
  refine Keeps.draw.bind fun _ => Keeps.draw.bind fun _ => ?_
  split
  · exact Keeps.pure
  · exact Keeps.pure

theorem repairCheck_moves : Keeps (ServiceMove s0) (repairCheck resource owner fingerprint) := by
  refine repairIdentity_moves.bind fun before => Keeps.ite (fun _ => ?_) fun _ => Keeps.pure
  refine deviceCall_moves.bind fun _ => Keeps.draw.bind fun _ => repairIdentity_moves.bind fun _ => Keeps.pure

theorem restoreWritesIfAlone_moves :
    Keeps (ServiceMove s0) (restoreWritesIfAlone control resource) := by
  refine Keeps.ite (fun _ => deviceCall_moves.bind fun _ => Keeps.draw.bind fun _ => ?_) fun _ => Keeps.pure
  refine Keeps.bind (Keeps.modify fun _ h => ?_) fun _ => Keeps.pure
  exact ⟨h.guard, h.records, h.repairPoisoned, h.pool, h.initialized⟩

theorem publishFence_moves {mask : UInt32} : Keeps (ServiceMove s0) (publishFence mask resource) := by
  refine Keeps.get.bind fun s => Keeps.draw.bind fun _ => Keeps.ite (fun _ => ?_) fun _ => Keeps.pure
  refine reportMediaFailure_moves.bind fun told => Keeps.ite (fun _ => Keeps.modify fun _ h => ?_) fun _ => Keeps.pure
  exact ⟨h.guard, h.records, h.repairPoisoned, h.pool, h.initialized⟩

end Service

section Pool

variable {s0 : VfsRepairState} {resource : Nat}

theorem PoolMove.refl (s : VfsRepairState) : PoolMove s s := ⟨rfl, rfl, rfl, rfl, rfl, rfl, rfl⟩

theorem poolPoison_moves {α : Type} : Keeps (PoolMove s0) (poolPoison : Vfs α) := by
  refine Keeps.bind (Keeps.modify fun _ h => ?_) fun _ => Keeps.fail
  exact ⟨h.guard, h.records, h.repairPoisoned, h.control, h.controlFailed, h.writesFenced, h.initialized⟩

theorem mutationFencesRead_moves : Keeps (PoolMove s0) mutationFencesRead :=
  Keeps.get.bind fun _ => Keeps.ite (fun _ => Keeps.fail) fun _ => Keeps.guard fun _ => Keeps.pure

theorem mutationFencesWrite_moves {mask : UInt32} : Keeps (PoolMove s0) (mutationFencesWrite mask) := by
  refine Keeps.get.bind fun _ => Keeps.draw.bind fun _ => Keeps.ite (fun _ => Keeps.modify fun _ h => ?_) fun _ =>
    poolPoison_moves
  exact ⟨h.guard, h.records, h.repairPoisoned, h.control, h.controlFailed, h.writesFenced, h.initialized⟩

theorem mutationRecovery_moves {service : FileObjectOwner} {clear : Bool} :
    Keeps (PoolMove s0) (mutationRecovery service resource clear) := by
  refine Keeps.refuse.bind fun _ => mutationFencesRead_moves.bind fun _ => Keeps.get.bind fun _ => ?_
  refine Keeps.refuse.bind fun _ => Keeps.refuse.bind fun _ => Keeps.refuse.bind fun _ => ?_
  exact Keeps.ite (fun _ => mutationFencesWrite_moves) fun _ => Keeps.pure

theorem storageRequestRecoveryRefence_moves : Keeps (PoolMove s0) (storageRequestRecoveryRefence resource) :=
  Keeps.refuse.bind fun _ => mutationFencesRead_moves.bind fun _ => Keeps.guard fun _ =>
    mutationFencesWrite_moves

end Pool

variable {s0 : VfsRepairState} {α : Type}

theorem GuardMove.refl (s : VfsRepairState) : GuardMove s s :=
  ⟨GuardRetains.refl, rfl, fun h => h, rfl, rfl, rfl, rfl, rfl⟩

theorem onGuard_moves {x : Guard α} (hx : ∀ g, Keeps (GuardRetains unmarked g) x) : Keeps (GuardMove s0) (onGuard x) := by
  have hmove : ∀ s g, GuardMove s0 s → GuardRetains unmarked s.guard g → GuardMove s0 { s with guard := g } :=
    fun s g h hg => ⟨h.guard.trans hg, h.records, h.repairPoisoned, h.pool, h.control, h.controlFailed,
      h.writesFenced, h.initialized⟩
  refine Triple.zoom fun s hs => ?_
  exact (hx s.guard).weaken (fun g hg => hg ▸ GuardRetains.refl) (fun _ g hg => hmove s g hs hg) fun _ g hg => hmove s g hs hg

theorem vfsRepairPoison_moves : Keeps (GuardMove s0) (vfsRepairPoison : Vfs α) := by
  have hset : Keeps (GuardMove s0) (Attempt.modify fun s => { s with repairPoisoned := true } : Vfs Unit) :=
    Keeps.modify fun _ h => ⟨h.guard, h.records, fun _ => rfl, h.pool, h.control, h.controlFailed, h.writesFenced,
      h.initialized⟩
  exact hset.bind fun _ => (onGuard_moves fun g => fileObjectGuardMergeFences_keeps).outcome.bind fun _ => Keeps.fail

theorem vfsRepairRead_moves {resource : Nat} : Keeps (GuardMove s0) (vfsRepairRead resource) := by
  refine Keeps.refuse.bind fun _ => Keeps.get.bind fun s => Keeps.refuse.bind fun _ => ?_
  split
  · exact Keeps.pure
  · exact Keeps.guard fun _ => vfsRepairPoison_moves

theorem vfsRepairRecordRead_moves {resource : Nat} : Keeps (GuardMove s0) (vfsRepairRecordRead resource) := by
  refine vfsRepairRead_moves.bind fun r => ?_
  cases r with
  | none => exact Keeps.fail
  | some r => exact Keeps.pure

end ReistOs
