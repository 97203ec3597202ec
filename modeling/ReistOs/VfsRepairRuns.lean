import ReistOs.VfsRepairBegin

/-! Runs of the VFS under any order of repair requests, journal I/O, ordinary object requests, media
changes, owner deaths and clock values. -/

namespace ReistOs

open Attempt

section Others

variable {latest : Option BegunRepair} {count : Nat → Nat} {X : FileObjectGuard → Prop}

variable {P : VfsRepairState → Prop} {service owner : FileObjectOwner} {token pin : UInt32}
  {now nowMs : UInt64}

theorem normalizedKeys_keeps {keys : List FileObjectKey} :
    Keeps P (normalizedKeys keys) := by
  induction keys with
  | nil => exact Keeps.pure
  | cons key rest ih =>
    refine Keeps.draw.bind fun normalized => Keeps.ofExcept.bind fun resource => Keeps.draw.bind fun available => ?_
    exact Keeps.refuse.bind fun _ => ih.bind fun _ => Keeps.pure

theorem askedIf_keeps {p : Prop} [Decidable p] {r : Except Errno Unit} :
    Keeps P (if p then Attempt.ofExcept r else pure () : Vfs Unit) :=
  Keeps.ite (fun _ => Keeps.ofExcept) fun _ => Keeps.pure

section

variable (hX : GuardStable X)
include hX

variable {handle : UInt32} {request : FileObjectGuardRequest}

theorem journalHandOver_keeps {resource : Nat} :
    Keeps (RepairHolds latest count X) (journalHandOver request resource service token handle) := by
  have hstable := holds_stable latest count hX
  refine Keeps.draw.bind fun bound => askedIf_keeps.bind fun _ => Keeps.draw.bind fun mounted => ?_
  refine Keeps.ofExcept.bind fun _ => Keeps.refuse.bind fun _ => (vfsRepairRemember_keeps hX).bind fun _ => ?_
  refine (hstable.keeps_service fun _ => deviceCall_moves).bind fun _ => Keeps.draw.bind fun handed => ?_
  refine Keeps.ofExcept.bind fun _ => Keeps.draw.bind fun now => ?_
  refine (hstable.keeps_guard fun _ => guardJournalIo_keeps (by decide)).bind fun _ => ?_
  exact Keeps.draw.bind fun _ => askedIf_keeps

theorem mutationBeginRequest_keeps {keys : List FileObjectKey} :
    Keeps (RepairHolds latest count X) (mutationBeginRequest request keys service pin handle now) := by
  have hstable := holds_stable latest count hX
  cases keys with
  | nil => exact Keeps.fail
  | cons key rest =>
    refine Keeps.draw.bind fun legacy => Keeps.ofExcept.bind fun _ => Keeps.bind ?_ fun token => ?_
    · refine hstable.keeps_guard fun g => Keeps.ite (fun _ => ?_) fun _ => guardBegin_keeps
      exact fileObjectGuardBeginOwned_keeps
    · refine Keeps.guard fun _ => (journalHandOver_keeps hX).outcome.bind fun result => ?_
      cases result with
      | ok _ => exact Keeps.pure
      | error e =>
        exact (hstable.keeps_guard fun _ => fileObjectGuardCancelUndelivered_keeps).bind fun _ => Keeps.fail

theorem mutationEndRequest_keeps {outcome : MutationOutcome} :
    Keeps (RepairHolds latest count X) (mutationEndRequest token service outcome now) := by
  have hstable := holds_stable latest count hX
  refine (hstable.keeps_guard fun _ => fileObjectGuardContext_keeps).bind fun context => ?_
  refine Keeps.draw.bind fun allowed => ?_
  cases allowed with
  | ok _ => exact hstable.keeps_guard fun _ => fileObjectGuardEnd_keeps
  | error e =>
    refine Keeps.ite (fun _ => Keeps.bind (Keeps.outcome ?_) fun _ => Keeps.fail) fun _ =>
      hstable.keeps_guard fun _ => fileObjectGuardEnd_keeps
    refine hstable.keeps_guard fun g => Keeps.ite (fun _ => fileObjectGuardEnd_keeps) fun _ => ?_
    exact fileObjectGuardCancelUndelivered_keeps

theorem guardRequestLocked_keeps :
    Keeps (RepairHolds latest count X) (guardRequestLocked request service pin handle) := by
  have hstable := holds_stable latest count hX
  refine Keeps.draw.bind fun now => Keeps.draw.bind fun live => Keeps.refuse.bind fun _ => Keeps.draw.bind fun claimed => ?_
  refine askedIf_keeps.bind fun _ => Keeps.draw.bind fun clientLive => ?_
  cases request.operation with
  | snapshot => exact (hstable.keeps_guard fun _ => fileObjectGuardSnapshot_keeps).bind fun _ => Keeps.pure
  | pin =>
    refine Keeps.refuse.bind fun _ => normalizedKeys_keeps.bind fun keys => Keeps.bind ?_ fun token => ?_
    · refine hstable.keeps_guard fun g => ?_
      cases keys with
      | nil => exact Keeps.fail
      | cons key rest => exact fileObjectGuardPin_keeps
    · refine Keeps.draw.bind fun stillLive => Keeps.guard fun _ => ?_
      exact (hstable.keeps_guard fun _ => fileObjectGuardRelease_keeps).bind fun _ => Keeps.fail
  | release => exact hstable.keeps_guard fun _ => fileObjectGuardRelease_keeps
  | verify =>
    refine Keeps.refuse.bind fun _ => (hstable.keeps_guard fun _ => fileObjectGuardLookup_keeps).bind fun _ => ?_
    exact Keeps.draw.bind fun _ => Keeps.refuse
  | mutationBegin =>
    exact normalizedKeys_keeps.bind fun keys => Keeps.refuse.bind fun _ => mutationBeginRequest_keeps hX
  | mutationEnd outcome => exact mutationEndRequest_keeps hX

theorem vfsCancelUndelivered_keeps {operation : FileObjectOperation} {client : FileObjectOwner} :
    Keeps (RepairHolds latest count X) (vfsCancelUndelivered operation token service client) := by
  have hstable := holds_stable latest count hX
  refine vfsOperation_keeps hX ?_
  cases operation with
  | pin => exact hstable.keeps_guard fun _ => fileObjectGuardRelease_keeps
  | mutationBegin => exact hstable.keeps_guard fun _ => fileObjectGuardCancelUndelivered_keeps
  | snapshot => exact Keeps.fail
  | release => exact Keeps.fail
  | mutationEnd outcome => exact Keeps.fail
  | verify => exact Keeps.fail

theorem pollSlot_keeps {slot : Option (Fin fileObjectGuardCapacity)} :
    Keeps (RepairHolds latest count X) (pollSlot slot) := by
  have hstable := holds_stable latest count hX
  have howner : ∀ owner, Keeps (RepairHolds latest count X) (pollOwner owner) := fun owner =>
    Keeps.draw.bind fun _ => Keeps.ite (fun _ => hstable.keeps_guard fun _ => fileObjectGuardCleanup_keeps) fun _ =>
      Keeps.pure
  exact (hstable.keeps_guard fun _ => fileObjectGuardOwnerAt_keeps).bind fun _ => (howner _).bind fun _ => howner _

theorem vfsObjectGuardPoll_keeps {cursor : Fin fileObjectGuardCapacity} :
    Keeps (RepairHolds latest count X) (vfsObjectGuardPoll nowMs cursor) := by
  have hstable := holds_stable latest count hX
  have hexpire : Keeps (RepairHolds latest count X) poolExpire := Keeps.draw.bind fun _ => Keeps.forEach fun _ _ =>
    hstable.keeps_pool fun _ => storageRequestRecoveryRefence_moves
  refine vfsOperation_keeps hX (hexpire.outcome.bind fun _ => ?_)
  refine (hstable.keeps_pool fun _ => mutationFencesRead_moves).outcome.bind fun fences => ?_
  refine (hstable.keeps_guard fun _ => fileObjectGuardMergeFences_keeps).outcome.bind fun merged => ?_
  refine Keeps.ofExcept.bind fun _ => Keeps.ofExcept.bind fun _ => ?_
  refine (hstable.keeps_guard fun _ => fileObjectGuardPoll_keeps).bind fun _ => ?_
  exact (pollSlot_keeps hX).bind fun _ => pollSlot_keeps hX

end

theorem legacyCall_keeps {M : FileObjectOwner → UInt32 → Nat → Prop} {g : FileObjectGuard} {call : LegacyCall} :
    Keeps (GuardRetains M g) call.guard := by
  cases call with
  | enter nowMs => exact fileObjectGuardLegacyEnter_keeps
  | canOpen resource nowMs => exact fileObjectGuardCanOpen_keeps
  | keyBusy key nowMs => exact fileObjectGuardKeyBusy_keeps
  | count resource nowMs => exact guardCount_keeps.bind fun _ => Keeps.pure
  | detachReady resource nowMs => exact fileObjectGuardDetachReady_keeps
  | revokeMedia resource => exact fileObjectGuardRevokeMedia_keeps
  | mutationAuthorized owner resource nowMs => exact fileObjectGuardMutationAuthorized_keeps
  | fenced => exact fileObjectGuardFenced_keeps.bind fun _ => Keeps.pure

theorem repairExpiredAny_keeps {resources : List Nat} :
    Keeps (RepairHolds latest count fun _ => True) (repairExpiredAny owner nowMs resources) := by
  induction resources with
  | nil => exact Keeps.pure
  | cons resource rest ih =>
    refine (holds_stable _ _ anyGuard_stable).keeps_read.outcome.bind fun record => ?_
    split
    · exact Keeps.pure
    · exact ih
    · exact ih.bind fun _ => Keeps.pure

theorem storageJournalRepair_keeps {q : StorageJournalRequest} :
    Keeps (RepairInv latest count) (storageJournalRepair q owner) := by
  have hinv : RepairStable (RepairInv latest count) := repairInv_stable
  refine (hinv.keeps_guard fun _ => fileObjectGuardContext_keeps).bind fun context => Keeps.ite (fun _ => ?_) fun _ =>
    Keeps.pure
  have hrecord : Keeps (RepairInv latest count) (vfsRepairRecordRead q.resource) :=
    Keeps.of_moves (fun _ => vfsRepairRecordRead_moves) GuardMove.refl hinv.guard
  refine Keeps.bind (hrecord.bind fun r => Keeps.draw.bind fun now => Keeps.refuse.bind fun _ => ?_) fun _ => Keeps.pure
  refine (hinv.keeps_service fun _ => serviceAuthorized_moves).bind fun authorized => Keeps.draw.bind fun expected => ?_
  exact Keeps.refuse.bind fun _ => Keeps.ofExcept

end Others

/-- What happens besides repair requests. Other commands of the storage service and calls of the
pool leave any control record and any pool behind. -/
inductive VfsEvent
  | repairExpired (owner : FileObjectOwner) (nowMs : UInt64)
  | journalRepair (q : StorageJournalRequest) (owner : FileObjectOwner)
  | journalIo (q : StorageJournalRequest) (owner : FileObjectOwner)
  | guardRequest (request : FileObjectGuardRequest) (service : FileObjectOwner) (pin handle : UInt32)
  | cancelUndelivered (operation : FileObjectOperation) (token : UInt32) (service client : FileObjectOwner)
  | processCleanup (owner : FileObjectOwner)
  | poll (nowMs : UInt64) (cursor : Fin fileObjectGuardCapacity)
  | legacy (call : LegacyCall)
  | mediaChanged (resource : Nat)
  | mediaFailure (resource : Nat) (writeUncertain : Bool)
  | serviceReady
  | serviceControl (control : StorageServiceControl) (failed writesFenced : Bool)
  | requestPool (pool : RequestPool)

def VfsEvent.perform : VfsEvent → Vfs Unit
  | .repairExpired owner nowMs => do
    let _ ← vfsRepairExpired owner nowMs
    pure ()
  | .journalRepair q owner => do
    let _ ← storageJournalRepair q owner
    pure ()
  | .journalIo q owner => storageJournalIo q owner
  | .guardRequest request service pin handle => vfsGuardRequest request service pin handle
  | .cancelUndelivered operation token service client => vfsCancelUndelivered operation token service client
  | .processCleanup owner => vfsProcessCleanup owner
  | .poll nowMs cursor => vfsObjectGuardPoll nowMs cursor
  | .legacy call => vfsOperation none (onGuard call.guard)
  | .mediaChanged resource => fileObjectGuardMediaChanged resource
  | .mediaFailure resource writeUncertain => do
    let _ ← reportMediaFailure resource writeUncertain
    pure ()
  | .serviceReady => modify fun s => { s with initialized := true }
  | .serviceControl control failed writesFenced => modify fun s =>
    { s with control := control, controlFailed := failed, writesFenced := writesFenced }
  | .requestPool pool => modify fun s => { s with pool := pool }

/-- The answer a repair request was given. -/
structure RepairReply where
  request : FileRepairRequest
  owner : FileObjectOwner
  result : Except Errno FileRepairRequest

def RepairReply.begun (reply : RepairReply) : Option BegunRepair :=
  match reply.result with
  | .ok out => if reply.request.operation = reistFileRepairBegin then
      some ⟨reply.request.resource, reply.owner, out.token⟩
    else none
  | .error _ => none

def begunRepairs (replies : List RepairReply) : List BegunRepair := replies.filterMap RepairReply.begun

def timesBegun (replies : List RepairReply) (resource : Nat) : Nat :=
  (begunRepairs replies).countP fun b => b.resource == resource

/-- The VFS before its first request: no record is saved, the guard holds no repair. -/
structure VfsRepairState.Started (s : VfsRepairState) : Prop where
  records : s.records = fun _ => none
  idle : s.guard.control.active = false

/-- The states a run reaches, with the repair requests it has answered. Each call draws its own answers. -/
inductive VfsReachable : VfsRepairState → List RepairReply → Prop
  | start {s : VfsRepairState} (h : s.Started) : VfsReachable s []
  | repair {s : VfsRepairState} {replies : List RepairReply} (w : VfsAnswers) (q : FileRepairRequest)
      (owner : FileObjectOwner) (h : VfsReachable s replies) :
      VfsReachable (vfsFileRepairRequest q owner w 0 s).2.2
        (replies ++ [⟨q, owner, (vfsFileRepairRequest q owner w 0 s).1⟩])
  | event {s : VfsRepairState} {replies : List RepairReply} (w : VfsAnswers) (e : VfsEvent)
      (h : VfsReachable s replies) : VfsReachable (e.perform w 0 s).2.2 replies

section Runs

variable {latest : Option BegunRepair} {count : Nat → Nat}

theorem vfsEvent_keeps {e : VfsEvent} : Keeps (RepairInv latest count) e.perform := by
  have hinv : RepairStable (RepairInv latest count) := repairInv_stable
  cases e with
  | repairExpired owner nowMs =>
    exact (keeps_repairInv (vfsOperation_keeps anyGuard_stable repairExpiredAny_keeps)).bind fun _ => Keeps.pure
  | journalRepair q owner => exact storageJournalRepair_keeps.bind fun _ => Keeps.pure
  | journalIo q owner => exact keeps_repairInv (storageJournalIo_keeps anyGuard_stable)
  | guardRequest request service pin handle =>
    exact keeps_repairInv (vfsOperation_keeps anyGuard_stable (guardRequestLocked_keeps anyGuard_stable))
  | cancelUndelivered operation token service client =>
    exact keeps_repairInv (vfsCancelUndelivered_keeps anyGuard_stable)
  | processCleanup owner =>
    refine keeps_repairInv (vfsOperation_keeps anyGuard_stable ?_)
    exact (holds_stable _ _ anyGuard_stable).keeps_guard fun _ => fileObjectGuardCleanup_keeps
  | poll nowMs cursor => exact keeps_repairInv (vfsObjectGuardPoll_keeps anyGuard_stable)
  | legacy call =>
    refine keeps_repairInv (vfsOperation_keeps anyGuard_stable ?_)
    exact (holds_stable _ _ anyGuard_stable).keeps_guard fun _ => legacyCall_keeps
  | mediaChanged resource => exact hinv.keeps_service fun _ => fileObjectGuardMediaChanged_moves
  | mediaFailure resource writeUncertain =>
    exact (hinv.keeps_service fun _ => reportMediaFailure_moves).bind fun _ => Keeps.pure
  | serviceReady =>
    refine Keeps.modify fun s h => ⟨⟨h.fenced, fun k r hr ht => ?_, h.attempts, h.bounded⟩, h.reserved⟩
    exact ⟨(h.tokens k r hr ht).1, rfl⟩
  | serviceControl control failed writesFenced =>
    exact Keeps.modify fun s h => hinv.service s _ ⟨rfl, rfl, rfl, rfl, rfl⟩ h
  | requestPool pool => exact Keeps.modify fun s h => hinv.pool s _ ⟨rfl, rfl, rfl, rfl, rfl, rfl, rfl⟩ h

variable {replies : List RepairReply} {q : FileRepairRequest} {owner : FileObjectOwner}
  {s : VfsRepairState}

theorem begunRepairs_append {reply : RepairReply} :
    begunRepairs (replies ++ [reply]) = begunRepairs replies ++ reply.begun.toList := by
  unfold begunRepairs
  rw [List.filterMap_append]
  cases hb : reply.begun <;> simp [hb]

theorem begunRepairs_error {e : Errno} :
    begunRepairs (replies ++ [⟨q, owner, .error e⟩]) = begunRepairs replies := by
  rw [begunRepairs_append]
  exact List.append_nil _

theorem repairDone_replies {out : FileRepairRequest}
    (h : RepairDone (begunRepairs replies).getLast? (timesBegun replies) q owner out s) :
    RepairInv (begunRepairs (replies ++ [⟨q, owner, .ok out⟩])).getLast?
      (timesBegun (replies ++ [⟨q, owner, .ok out⟩])) s := by
  have hinv := h.inv
  unfold latestAfter countAfter at hinv
  by_cases hbegin : q.operation = reistFileRepairBegin
  · rw [if_pos hbegin, if_pos hbegin] at hinv
    have hbegun : RepairReply.begun ⟨q, owner, .ok out⟩ = some ⟨q.resource, owner, out.token⟩ := if_pos hbegin
    have hlatest : (begunRepairs (replies ++ [⟨q, owner, .ok out⟩])).getLast? = some ⟨q.resource, owner, out.token⟩ := by
      rw [begunRepairs_append, hbegun]
      simp
    have hcount : timesBegun (replies ++ [⟨q, owner, .ok out⟩]) = begunOnce (timesBegun replies) q.resource := by
      funext k
      unfold timesBegun begunOnce
      rw [begunRepairs_append, hbegun]
      by_cases hk : k = q.resource
      · subst hk
        simp
      · simp [Function.update_of_ne hk, Ne.symm hk]
    rw [hlatest, hcount]
    exact hinv
  · rw [if_neg hbegin, if_neg hbegin] at hinv
    have hbegun : RepairReply.begun ⟨q, owner, .ok out⟩ = none := if_neg hbegin
    have hsame : begunRepairs (replies ++ [⟨q, owner, .ok out⟩]) = begunRepairs replies := by
      rw [begunRepairs_append, hbegun]
      exact List.append_nil _
    unfold timesBegun
    rw [hsame]
    exact hinv

theorem vfsReachable_inv (h : VfsReachable s replies) :
    RepairInv (begunRepairs replies).getLast? (timesBegun replies) s := by
  induction h with
  | start hs =>
    refine ⟨⟨fun k r hr => ?_, fun k r hr => ?_, fun k => Nat.zero_le _, fun k r hr => ?_⟩, fun _ hactive => ?_⟩
    · rw [hs.records] at hr
      cases hr
    · rw [hs.records] at hr
      cases hr
    · rw [hs.records] at hr
      cases hr
    · rw [hs.idle] at hactive
      cases hactive
  | @repair s replies w q owner _ ih =>
    have hdone : Triple (RepairInv (begunRepairs replies).getLast? (timesBegun replies))
        (vfsFileRepairRequest q owner)
        (RepairDone (begunRepairs replies).getLast? (timesBegun replies) q owner)
        (fun _ => RepairInv (begunRepairs replies).getLast? (timesBegun replies)) := vfsFileRepairRequest_done
    have hends := hdone w 0 s ih
    rcases hr : vfsFileRepairRequest q owner w 0 s with ⟨e | out, n, s'⟩
    · rw [hr] at hends
      unfold timesBegun
      rw [begunRepairs_error]
      exact hends
    · rw [hr] at hends
      exact repairDone_replies hends
  | event w e _ ih => exact vfsEvent_keeps.after ih

/-- A successful commit clears every layer and ends the repair begun last, with its owner and token;
a begin, commit or abort that fails after it took its reservation or agreed with the record, and a
successful abort, leave every layer fenced; no resource is begun more than three times. -/
theorem vfsFileRepairRequest_all_or_none {s : VfsRepairState} {replies : List RepairReply}
    (h : VfsReachable s replies) (w : VfsAnswers) (q : FileRepairRequest) (owner : FileObjectOwner) :
    (∀ out, (vfsFileRepairRequest q owner w 0 s).1 = .ok out → q.operation = reistFileRepairCommit →
      ClearedEverywhere q.resource (vfsFileRepairRequest q owner w 0 s).2.2 ∧
        (begunRepairs replies).getLast? = some ⟨q.resource, owner, q.token⟩) ∧
    (∀ e entry, (vfsFileRepairRequest q owner w 0 s).1 = .error e → (fileRepairEntry q owner w 0 s).1 = .ok entry →
      FencedEverywhere q.resource (vfsFileRepairRequest q owner w 0 s).2.2) ∧
    (∀ out, (vfsFileRepairRequest q owner w 0 s).1 = .ok out → q.operation = reistFileRepairAbort →
      FencedEverywhere q.resource (vfsFileRepairRequest q owner w 0 s).2.2) ∧
    ∀ resource, timesBegun replies resource ≤ 3 := by
  have hinv := vfsReachable_inv h
  have hdone : Triple (RepairInv (begunRepairs replies).getLast? (timesBegun replies)) (vfsFileRepairRequest q owner)
      (RepairDone (begunRepairs replies).getLast? (timesBegun replies) q owner)
      (fun _ => RepairInv (begunRepairs replies).getLast? (timesBegun replies)) := vfsFileRepairRequest_done
  have hends := hdone w 0 s hinv
  refine ⟨fun out hok hcommit => ?_, fun e entry herr hentry => ?_, fun out hok habort => ?_, fun k => ?_⟩
  · rw [hok] at hends
    exact ⟨(hends.commit hcommit).cleared, hends.token hcommit⟩
  · rcases hrun : fileRepairEntry q owner w 0 s with ⟨r, n', s'⟩
    rw [hrun] at hentry
    cases hentry
    have hfenced := vfsFileRepairRequest_fences hinv hrun
    rw [herr] at hfenced
    exact hfenced
  · rw [hok] at hends
    exact hends.abort habort
  · refine (hinv.attempts k).trans ?_
    cases hr : s.records k with
    | none => exact Nat.zero_le 3
    | some r => exact hinv.bounded k r hr

end Runs

def runEvents (w : VfsAnswers) (events : List VfsEvent) (s : VfsRepairState) : VfsRepairState :=
  events.foldl (fun s e => (e.perform w 0 s).2.2) s

theorem runEvents_reachable {w : VfsAnswers} {events : List VfsEvent} {s : VfsRepairState}
    {replies : List RepairReply} (h : VfsReachable s replies) : VfsReachable (runEvents w events s) replies := by
  induction events generalizing s with
  | nil => exact h
  | cons e rest ih => exact ih (VfsReachable.event w e h)

/-- A kernel that grants everything, over one journaled volume. -/
def grantingAnswers : VfsAnswers where
  guard := ⟨fun _ => true, fun _ => true⟩
  mutexFree _ := true
  nowMs _ := 10
  ownerLive _ := true
  ownerReaped _ := true
  openNodes _ := false
  recordStored _ := true
  poolStored _ := true
  controlStored _ := true
  administrativelyEnabled _ := true
  identityAlive _ := true
  drivePresent _ := true
  driveCount _ := 4
  driveKind _ := .ata
  samePhysical _ := 0
  expectedFingerprint _ := some 7
  mediaIdentityMatches _ := true
  mediaFailures _ := []
  lifecycleFree _ := true
  restored _ := true
  verdict _ := .ok ()
  journalCommands _ := [true]
  extent _ := some (100, 1000)
  journalGeometry _ := some (32, 6)
  normalized _ := .ok 0
  confirmed _ := true
  expired _ := []

def repairService : FileObjectOwner := ⟨1, 1⟩

def servingControl : StorageServiceControl :=
  { pid := 1, generation := 1, launchCount := 1, healthy := 1, quarantinedResources := 0, readOnlyResources := 0,
    recoveringResources := 0, probeCursor := 0, probeAttempts := 0, postReadyCpuAffinityMask := 0,
    adminDownResources := 0, adminTransitionResources := 0, adminFailedResources := 0, retiring := 0,
    startDeadlineMs := 0, nextProbeMs := 0 }

def readyVfs : VfsRepairState where
  guard :=
    { poisoned := false
      control := ⟨1, 0, noOwner, 0, 0, false, 0, .ordinary, false, false, 0, 0⟩
      pins := fun _ => ⟨emptyKey, noOwner, noOwner, 0, 0, false⟩
      media := fun _ => 1 }
  records _ := none
  repairPoisoned := false
  pendingMedia := 0
  reported := 0
  pool := ⟨0, false, true, repairService, []⟩
  control := servingControl
  initialized := true
  controlFailed := false
  writesFenced := false

def volumeKey : FileObjectKey :=
  ⟨reistFileObjectFat32, 0, 2, 0, #v[65, 65, 65, 65, 65, 65, 65, 65, 65, 65, 65, 0], 0⟩

/-- A mutation saves the record of its volume; then the medium fails and is revoked. -/
def revokedVolume : VfsRepairState :=
  runEvents grantingAnswers
    [.guardRequest ⟨.mutationBegin, reistFileObjectExclusive ||| reistFileObjectExternalJournal, volumeKey, none, 1, 20,
      0, repairService⟩ repairService 0 0, .mediaFailure 0 true, .poll 10 ⟨0, by decide⟩] readyVfs

def repairRequest (operation token : UInt32) : FileRepairRequest :=
  { version := 3, structSize := 64, operation := operation, resource := 0, token := token, generation := 2,
    fingerprint := 7, flags := 0, deadlineMs := 20, firstSector := 100, sectorCount := 1000, reservedSectors := 32,
    backupSector := 6, reserved0 := 0, reserved1 := 0 }

def beganReply : RepairReply :=
  ⟨repairRequest reistFileRepairBegin 0, repairService,
    (vfsFileRepairRequest (repairRequest reistFileRepairBegin 0) repairService grantingAnswers 0 revokedVolume).1⟩

def activeVolume : VfsRepairState :=
  (vfsFileRepairRequest (repairRequest reistFileRepairBegin 0) repairService grantingAnswers 0 revokedVolume).2.2

def writtenVolume : VfsRepairState :=
  runEvents grantingAnswers [.journalIo ⟨1, 32, 2, 2, 0, 200, 1, 0⟩ repairService,
    .journalIo ⟨1, 32, 3, 2, 0, 0, 0, 0⟩ repairService] activeVolume

theorem revokedVolume_reachable : VfsReachable revokedVolume [] :=
  runEvents_reachable (VfsReachable.start ⟨rfl, rfl⟩)

theorem activeVolume_reachable : VfsReachable activeVolume [beganReply] :=
  VfsReachable.repair grantingAnswers (repairRequest reistFileRepairBegin 0) repairService revokedVolume_reachable

theorem writtenVolume_reachable : VfsReachable writtenVolume [beganReply] :=
  runEvents_reachable activeVolume_reachable

theorem vfsFileRepairRequest_commits :
    ClearedEverywhere 0 (vfsFileRepairRequest (repairRequest reistFileRepairCommit 2) repairService grantingAnswers 0
      writtenVolume).2.2 := by
  have hcommitted : (vfsFileRepairRequest (repairRequest reistFileRepairCommit 2) repairService grantingAnswers 0
      writtenVolume).1 = .ok (repairRequest reistFileRepairCommit 2) := by decide +kernel
  have hcleared := (vfsFileRepairRequest_all_or_none writtenVolume_reachable grantingAnswers
    (repairRequest reistFileRepairCommit 2) repairService).1 (repairRequest reistFileRepairCommit 2) hcommitted rfl
  exact hcleared.1

/-- The kernel of a volume whose repair record cannot be written. -/
def unstoredAnswers : VfsAnswers := { grantingAnswers with recordStored := fun _ => false }

/-- A commit with a foreign token leaves the repair under way; a begin whose record cannot be
written fails after its reservation without a failed record. -/
theorem vfsFileRepairRequest_fails_unfenced :
    (VfsReachable activeVolume [beganReply] ∧ activeVolume.guard.control.active = true ∧
      (vfsFileRepairRequest (repairRequest reistFileRepairCommit 9) repairService grantingAnswers 0 activeVolume).1 =
        .error .estale ∧
      ((vfsFileRepairRequest (repairRequest reistFileRepairCommit 9) repairService grantingAnswers 0
        activeVolume).2.2.records 0).map VfsRepairRecord.state = some .active) ∧
    VfsReachable revokedVolume [] ∧
      (fileRepairEntry (repairRequest reistFileRepairBegin 0) repairService unstoredAnswers 0
        revokedVolume).2.2.guard.control.active = true ∧
      (vfsFileRepairRequest (repairRequest reistFileRepairBegin 0) repairService unstoredAnswers 0 revokedVolume).1 =
        .error .eio ∧
      ((vfsFileRepairRequest (repairRequest reistFileRepairBegin 0) repairService unstoredAnswers 0
        revokedVolume).2.2.records 0).map VfsRepairRecord.state = some .revoked := by
  refine ⟨⟨activeVolume_reachable, ?_, ?_, ?_⟩, revokedVolume_reachable, ?_, ?_, ?_⟩
  · decide +kernel
  · decide +kernel
  · decide +kernel
  · decide +kernel
  · decide +kernel
  · decide +kernel

end ReistOs
