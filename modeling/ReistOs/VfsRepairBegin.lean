import ReistOs.VfsRepairCommit

/-! A repair request from entry to reply: what it finds when it takes a reservation or matches the
record, and what it leaves when it succeeds or fails. -/

namespace ReistOs

open Attempt

section Begin

variable {latest : Option BegunRepair} {count : Nat → Nat} {q : FileRepairRequest} {owner : FileObjectOwner}
  {r : VfsRepairRecord} {token : UInt32} {now : UInt64}

/-- The record of a resource that a repair may begin on. -/
structure Repairable (latest : Option BegunRepair) (count : Nat → Nat) (resource : Nat) (r : VfsRepairRecord)
    (s : VfsRepairState) : Prop where
  inv : RepairInv latest count s
  record : s.records resource = some r
  state : r.state = .revoked ∨ r.state = .failed
  attempts : ¬ 3 ≤ r.attempts

theorem repairable_stable {resource : Nat} : RepairStable (Repairable latest count resource r) := by
  refine ⟨fun s s' hm h => ⟨repairInv_stable.service s s' hm h.inv, ?_, h.state, h.attempts⟩,
    fun s s' hm h => ⟨repairInv_stable.pool s s' hm h.inv, ?_, h.state, h.attempts⟩,
    fun s s' hm h => ⟨repairInv_stable.guard s s' hm h.inv, ?_, h.state, h.attempts⟩⟩
  · rw [hm.records]
    exact h.record
  · rw [hm.records]
    exact h.record
  · rw [hm.records]
    exact h.record

/-- A begin holds the guard's reservation; its record is not written yet. -/
structure Reserving (count : Nat → Nat) (resource : Nat) (owner : FileObjectOwner) (r : VfsRepairRecord)
    (token : UInt32) (s : VfsRepairState) : Prop where
  base : RepairBase count s
  record : s.records resource = some r
  attempts : ¬ 3 ≤ r.attempts
  reserved : s.guard.Reserved owner token resource
  attempted : s.guard.control.attempted = false
  fence : Names s.guard.control.fenced resource
  token : token ≠ 0
  known : resource < maxDrives ∧ s.initialized = true

theorem fileRepairReserve_reserves :
    Triple (Repairable latest count q.resource r) (fileRepairReserve q owner r now)
      (fun token => Reserving count q.resource owner r token) (fun _ => RepairInv latest count) := by
  have hstable : RepairStable (Repairable latest count q.resource r) := repairable_stable
  refine Triple.bind (Keeps.refuse.triple fun _ _ h => h.inv) fun _ => ?_
  refine Triple.bind ((repairCheck_known hstable.service).errors
    fun _ _ h => h.inv) fun current => ?_
  refine Triple.bind (Triple.refuse (Q := fun _ s => Repairable latest count q.resource r s ∧
    (q.resource < maxDrives ∧ s.initialized = true)) (fun _ h _ => h.1.inv)
    fun s h hn => ⟨h.1, h.2 (by simpa using hn)⟩) fun _ => Triple.drawn fun now => ?_
  have hknown : RepairStable fun s => Repairable latest count q.resource r s ∧
      (q.resource < maxDrives ∧ s.initialized = true) := by
    refine ⟨fun s s' hm h => ⟨hstable.service s s' hm h.1, ?_⟩, fun s s' hm h => ⟨hstable.pool s s' hm h.1, ?_⟩,
      fun s s' hm h => ⟨hstable.guard s s' hm h.1, ?_⟩⟩
    · rw [hm.initialized]
      exact h.2
    · rw [hm.initialized]
      exact h.2
    · rw [hm.initialized]
      exact h.2
  refine Triple.bind ((hknown.keeps_guard fun _ => fileObjectGuardSnapshot_keeps).triple fun _ _ h => h.1.inv)
    fun epoch => Triple.drawn fun now => Triple.zoom fun s hs => ?_
  have hmove : ∀ g, GuardRetains unmarked s.guard g → RepairInv latest count { s with guard := g } := fun g hg =>
    repairInv_stable.guard s _ ⟨hg, rfl, fun hp => hp, rfl, rfl, rfl, rfl, rfl⟩ hs.1.inv
  refine fileObjectGuardRepairBegin_begun.weaken
    (fun g hg => (hg ▸ GuardRetains.refl : GuardRetains unmarked s.guard g)) (fun token g hg => ?_) fun _ g hg => hmove g hg
  have hbegun := hg.1
  exact ⟨hs.1.inv.toRepairBase.moved rfl rfl hbegun.fenced, hs.1.record, hs.1.attempts, hbegun.reserved,
    hbegun.attempted, hbegun.fence, hbegun.token, hs.2⟩

theorem attempts_succ (h : ¬ 3 ≤ r.attempts) : (r.attempts + 1).toNat = r.attempts.toNat + 1 ∧ r.attempts.toNat < 3 := by
  have hlt : r.attempts.toNat < 3 := by
    have := UInt32.lt_iff_toNat_lt.mp (UInt32.not_le.mp h)
    simpa using this
  refine ⟨?_, hlt⟩
  rw [UInt32.toNat_add]
  have hone : (1 : UInt32).toNat = 1 := rfl
  rw [hone]
  omega

def begunOnce (count : Nat → Nat) (resource : Nat) : Nat → Nat :=
  Function.update count resource (count resource + 1)

variable {s : VfsRepairState}

theorem Reserving.count_le (h : Reserving count q.resource owner r token s) :
    count q.resource ≤ r.attempts.toNat := by
  have hcount := h.base.attempts q.resource
  rw [h.record] at hcount
  exact hcount

theorem Reserving.failing (h : Reserving count q.resource owner r token s) :
    Failing latest count q.resource (begunRecord q r owner token) s := by
  obtain ⟨hsucc, hlt⟩ := attempts_succ h.attempts
  have hcount := h.count_le
  refine ⟨h.base, ⟨h.base.rewritten (fun _ => h.fence) (fun _ => h.known) ?_ ?_, fun _ => ?_⟩, h.known.2⟩
  · show count q.resource ≤ (r.attempts + 1).toNat
    omega
  · show (r.attempts + 1).toNat ≤ 3
    omega
  · refine RepairReserved.rewritten (fun hne => absurd h.reserved.resource hne) fun _ _ _ => ?_
    refine ⟨h.reserved.generation.symm, h.reserved.owner.symm, Or.inr rfl, fun hw => ?_⟩
    rcases hw with hw | hw
    · cases hw
    · rw [h.attempted] at hw
      cases hw

/-- A begun repair, which may still be given up before its token is handed over. -/
structure Starting (latest : Option BegunRepair) (count : Nat → Nat) (q : FileRepairRequest) (owner : FileObjectOwner)
    (r : VfsRepairRecord) (token : UInt32) (s : VfsRepairState) : Prop where
  failing : Failing latest count q.resource (begunRecord q r owner token) s
  begun : RepairInv (some ⟨q.resource, owner, token⟩) (begunOnce count q.resource) s

theorem starting_stable : RepairStable (Starting latest count q owner r token) := by
  have hinv : RepairStable (RepairInv (some ⟨q.resource, owner, token⟩) (begunOnce count q.resource)) :=
    repairInv_stable
  refine ⟨fun s s' hm h => ⟨failing_stable.service s s' hm h.failing, hinv.service s s' hm h.begun⟩,
    fun s s' hm h => ⟨failing_stable.pool s s' hm h.failing, hinv.pool s s' hm h.begun⟩,
    fun s s' hm h => ⟨failing_stable.guard s s' hm h.failing, hinv.guard s s' hm h.begun⟩⟩

theorem begunOnce_le (h : Reserving count q.resource owner r token s) (k : Nat) :
    begunOnce count q.resource k ≤
      recordAttempts ((s.withRecord q.resource (begunRecord q r owner token)).records k) := by
  obtain ⟨hsucc, -⟩ := attempts_succ h.attempts
  have hcount := h.count_le
  unfold begunOnce
  by_cases hk : k = q.resource
  · rw [hk, Function.update_self, withRecord_self]
    show count q.resource + 1 ≤ (r.attempts + 1).toNat
    omega
  · rw [Function.update_of_ne hk, withRecord_other s hk]
    exact h.base.attempts k

theorem Reserving.starting (h : Reserving count q.resource owner r token s) :
    Starting latest count q owner r token (s.withRecord q.resource (begunRecord q r owner token)) := by
  have hfailing : Failing latest count q.resource (begunRecord q r owner token) s := h.failing
  have hself := withRecord_self s q.resource { begunRecord q r owner token with state := .failed }
  have hcount := hfailing.failed.attempts q.resource
  rw [hself] at hcount
  have hbound := hfailing.failed.bounded q.resource _ hself
  have hbase : RepairBase count (s.withRecord q.resource (begunRecord q r owner token)) :=
    h.base.rewritten (fun _ => h.fence) (fun _ => h.known) hcount hbound
  refine ⟨⟨hbase, ?_, h.known.2⟩, ⟨⟨hbase.fenced, hbase.tokens, begunOnce_le h, hbase.bounded⟩, fun _ => ?_⟩⟩
  · rw [withRecord_twice]
    exact hfailing.failed
  · refine RepairReserved.rewritten (fun hne => absurd h.reserved.resource hne) fun _ _ _ => ?_
    refine ⟨h.reserved.generation.symm, h.reserved.owner.symm, Or.inl rfl, fun _ => ?_⟩
    rw [h.reserved.resource, h.reserved.owner, h.reserved.generation]

theorem fileRepairHandOver_starts :
    Triple (Reserving count q.resource owner r token)
      (fileRepairHandOver q.resource (begunRecord q r owner token))
      (fun _ => Starting latest count q owner r token)
      (fun _ => Failing latest count q.resource (begunRecord q r owner token)) := by
  have hstable : RepairStable (Starting latest count q owner r token) := starting_stable
  refine Triple.bind (Q := fun _ => Starting latest count q owner r token)
    ((vfsRepairWrite_over (fun _ h => h.failing) failing_stable.guard).ends
      (fun _ s h => ?_) fun _ _ h => h.1) fun _ => ?_
  · obtain ⟨s0, hreserving, rfl, -⟩ := h
    exact hreserving.starting
  refine Triple.bind ((hstable.keeps_service fun _ => deviceCall_moves).triple fun _ _ h => h.failing) fun _ => ?_
  refine Triple.drawn fun result => ?_
  refine Triple.bind (Keeps.ofExcept.triple fun _ _ h => h.failing) fun _ => Triple.bind (Triple.draw fun _ _ h => h)
    fun now => Keeps.refuse.triple fun _ _ h => h.failing

theorem fileRepairStart_done :
    Triple (Reserving count q.resource owner r token) (fileRepairStart q owner r token)
      (fun out s => RepairInv (some ⟨q.resource, owner, out.token⟩) (begunOnce count q.resource) s)
      (fun _ s => RepairInv latest count s ∧ FencedEverywhere q.resource s) := by
  refine Triple.start fun s0 h0 => ?_
  have hr : q.resource < maxDrives := h0.known.1
  have hout : (vfsRepairOutput q (begunRecord q r owner token)).token = token := rfl
  have hstarts : Triple (Reserving count q.resource owner r token)
      (fileRepairHandOver q.resource (begunRecord q r owner token)) (fun _ => Starting latest count q owner r token)
      (fun _ => Failing latest count q.resource (begunRecord q r owner token)) := fileRepairHandOver_starts
  refine Triple.pre (P := Reserving count q.resource owner r token) ?_ (fun s hs => hs ▸ h0)
  refine Triple.bind hstarts.outcome_ends fun result => ?_
  cases result with
  | ok _ => exact Triple.pure fun s hs => hout.symm ▸ hs.begun
  | error e =>
    exact (fileRepairFail_fences hr).ends (fun _ _ h => by cases h.2) fun _ _ h => h

end Begin

section Admission

variable {latest : Option BegunRepair} {count : Nat → Nat} {q : FileRepairRequest} {owner : FileObjectOwner}
  {r : VfsRepairRecord} {now : UInt64}

theorem anyGuard_stable : GuardStable fun _ => True := fun _ _ _ _ _ => trivial

theorem keeps_repairInv {α : Type} {x : Vfs α} (hx : Keeps (RepairHolds latest count fun _ => True) x) :
    Keeps (RepairInv latest count) x :=
  hx.weaken (fun _ h => ⟨h, trivial⟩) (fun _ _ h => h.1) fun _ _ h => h.1

def Recorded (latest : Option BegunRepair) (count : Nat → Nat) (resource : Nat) (r : VfsRepairRecord)
    (s : VfsRepairState) : Prop := RepairInv latest count s ∧ s.records resource = some r

theorem recorded_stable {resource : Nat} : RepairStable (Recorded latest count resource r) :=
  repairInv_stable.and (recordStable (some r))

theorem retireDeadRepair_recorded :
    Triple (Recorded latest count q.resource r) (retireDeadRepair q r)
      (fun r' => Recorded latest count q.resource r') (fun _ => RepairInv latest count) := by
  have hinv : RepairStable (RepairInv latest count) := repairInv_stable
  refine Triple.ite (fun _ => Triple.pre ?_ (fun _ h => h.1)) fun _ => Triple.pure fun _ hs => hs
  refine Triple.bind Keeps.refuse fun _ => Triple.drawn fun reaped => ?_
  refine Triple.bind Keeps.refuse fun _ => ?_
  refine Triple.bind (hinv.keeps_guard fun _ => fileObjectGuardCleanup_keeps) fun _ => ?_
  refine Triple.bind (keeps_repairInv (vfsRepairRevoke_keeps anyGuard_stable)) fun _ => ?_
  exact (vfsRepairRecordRead_spec hinv.guard).post fun _ _ h => ⟨h.1, h.2.1⟩

theorem fileRepairAdmit_repairable :
    Triple (Recorded latest count q.resource r) (fileRepairAdmit q owner r)
      (fun r' => Repairable latest count q.resource r') (fun _ => RepairInv latest count) := by
  have hstable : ∀ r, RepairStable (Recorded latest count q.resource r) := fun _ => recorded_stable
  refine Triple.bind (((hstable r).keeps_guard fun _ => fileObjectGuardFenced_keeps).triple fun _ _ h => h.1)
    fun fences => Triple.bind (Keeps.refuse.triple fun _ _ h => h.1) fun _ => ?_
  refine Triple.bind retireDeadRepair_recorded fun r' => ?_
  refine Triple.learn (Triple.refuse (Q := fun _ s => Recorded latest count q.resource r' s ∧
    (r'.state = .revoked ∨ r'.state = .failed)) (fun _ h _ => h.1) fun s h hn => ⟨h, ?_⟩) fun _ hstate => Triple.drawn fun reaped => ?_
  · by_contra hother
    exact hn (Or.inr (not_or.mp hother))
  refine Triple.learn (Triple.refuse (Q := fun _ s => Recorded latest count q.resource r' s ∧ ¬ 3 ≤ r'.attempts)
    (fun _ h _ => h.1) fun s h hn => ⟨h, fun ha => hn (Or.inl ha)⟩) fun _ hattempts => Triple.drawn fun opened => ?_
  refine Triple.bind (Keeps.refuse.triple fun _ _ h => h.1) fun _ => ?_
  refine Triple.bind (((hstable r').keeps_pool fun _ => mutationRecovery_moves).triple fun _ _ h => h.1) fun _ => ?_
  exact Triple.pure fun s h => ⟨h.1, h.2, hstate, hattempts⟩

/-- A commit or an abort that names the repair it ends. -/
structure RepairClosing (latest : Option BegunRepair) (count : Nat → Nat) (q : FileRepairRequest) (owner : FileObjectOwner)
    (r : VfsRepairRecord) (s : VfsRepairState) : Prop where
  inv : RepairInv latest count s
  record : s.records q.resource = some r
  healthy : s.repairPoisoned = false
  agrees : fileRepairMismatch q owner r = false

theorem RepairClosing.failing {s : VfsRepairState} (h : RepairClosing latest count q owner r s) :
    Failing latest count q.resource r s := by
  obtain ⟨htoken, hnonzero, -, hstate⟩ := fileRepairMismatch_false h.agrees
  exact h.inv.failing h.record hstate (htoken ▸ hnonzero)

theorem fileRepairClose_done :
    Triple (RepairClosing latest count q owner r) (fileRepairClose q owner r now)
      (fun _ s => if q.operation = reistFileRepairCommit then Committed latest count q.resource owner q.token s
        else RepairInv latest count s ∧ FencedEverywhere q.resource s)
      (fun _ s => RepairInv latest count s ∧ FencedEverywhere q.resource s) := by
  refine Triple.start fun s0 h0 => ?_
  obtain ⟨htoken, hnonzero, -, -⟩ := fileRepairMismatch_false h0.agrees
  have hr : q.resource < maxDrives := (h0.inv.tokens q.resource r h0.record (htoken ▸ hnonzero)).1
  have hr32 : q.resource < 32 := lt_trans hr (by decide)
  refine Triple.ite (fun hcommit => ?_) fun habort => ?_
  · refine Triple.bind (fileRepairCommit_done hr32 h0.inv h0.healthy h0.failing).outcome_ends fun result => ?_
    cases result with
    | ok _ =>
      refine Triple.pure fun s hs => ?_
      rw [if_pos hcommit, ← htoken]
      exact hs
    | error e => exact (fileRepairFail_fences hr).ends (fun _ _ h => by cases h.2) fun _ _ h => h
  · refine (fileRepairFail_fences hr).weaken (fun s hs => hs ▸ h0.failing) (fun _ s h => ?_) fun _ _ h => h
    rw [if_neg habort]
    exact h.1

end Admission

section Publication

variable {resource : Nat}

theorem fencedEverywhere_guard : GuardClosed (FencedEverywhere resource) := by
  intro s s' hm h
  refine ⟨hm.guard.fenced resource h.guard, ?_, ?_, ?_⟩
  · unfold PoolFenced
    rw [hm.pool]
    exact h.pool
  · unfold Quarantined
    rw [hm.control, hm.controlFailed, hm.writesFenced]
    exact h.service
  · rw [hm.records]
    exact h.record.imp_left hm.repairPoisoned

theorem publishFence_fenced {mask : UInt32} {k : Nat} : Keeps (FencedEverywhere resource) (publishFence mask k) := by
  have hreport : Keeps (FencedEverywhere resource) (reportMediaFailure k true) := by
    refine reportMediaFailure_keeps (fun s m h => ⟨h.guard, h.pool, h.service, h.record⟩)
      (fun s h => ⟨h.guard, h.pool, ⟨h.service.1, rfl⟩, h.record⟩)
      (fun s h => ⟨h.guard, h.pool, ⟨Or.inl rfl, h.service.2⟩, h.record⟩)
      (fun s now h => ⟨h.guard, h.pool, ⟨h.service.1.imp_right fun hq => ?_, h.service.2⟩, h.record⟩)
    exact quarantinedControl_names hq.1 hq.2
  refine Keeps.get.bind fun s => Keeps.draw.bind fun present => Keeps.ite (fun _ => ?_) fun _ => Keeps.pure
  refine hreport.bind fun told => Keeps.ite (fun _ => Keeps.modify fun s h => ?_) fun _ => Keeps.pure
  exact ⟨h.guard, h.pool, h.service, h.record⟩

theorem guardPublishFences_fenced : Keeps (FencedEverywhere resource) guardPublishFences := by
  have hloop : ∀ mask, Keeps (FencedEverywhere resource)
      (Attempt.forEach (publishFence mask) (List.range fileObjectGuardResources)) := fun mask =>
    Keeps.forEach fun _ _ => publishFence_fenced
  refine (fencedEverywhere_guard.keeps fun _ => fileObjectGuardFenced_keeps).outcome.bind fun fences => ?_
  split
  · exact Keeps.pure
  · exact hloop _
  · exact Keeps.bind (Keeps.modify fun s h => ⟨h.guard, h.pool, h.service, h.record⟩) fun _ => hloop _

/-- All layers are clear and the guard's control record reads. -/
structure Cleared (resource : Nat) (s : VfsRepairState) : Prop where
  cleared : ClearedEverywhere resource s
  valid : guardControlValid s.guard.control = true

theorem publishFence_cleared {mask : UInt32} {k : Nat} (hk : k < 32) (hmask : ¬ Names mask resource) :
    Keeps (Cleared resource) (publishFence mask k) := by
  refine Keeps.get.bind fun s => Keeps.draw.bind fun present => Keeps.ite (fun hnamed => ?_) fun _ => Keeps.pure
  have hne : resource ≠ k := by
    rintro rfl
    exact hmask hnamed.1
  have hreport : Keeps (Cleared resource) (reportMediaFailure k true) := by
    refine reportMediaFailure_keeps (fun s m h => ⟨⟨h.1.1, h.1.2, h.1.3, h.1.4, h.1.5⟩, h.2⟩)
      (fun s h => ⟨⟨h.1.1, h.1.2, h.1.3, h.1.4, h.1.5⟩, h.2⟩) (fun s h => ⟨⟨h.1.1, h.1.2, h.1.3, h.1.4, h.1.5⟩, h.2⟩)
      (fun s now h => ?_)
    obtain ⟨hq, hr⟩ := quarantinedControl_other (u := true) hk hne h.1.quarantined h.1.readOnly
    exact ⟨⟨h.1.guard, h.1.pool, hq, hr, h.1.record⟩, h.2⟩
  refine hreport.bind fun told => Keeps.ite (fun _ => Keeps.modify fun s h => ?_) fun _ => Keeps.pure
  exact ⟨⟨h.1.1, h.1.2, h.1.3, h.1.4, h.1.5⟩, h.2⟩

theorem fileObjectGuardFenced_healthy {g0 : FileObjectGuard} (hp : g0.poisoned = false)
    (hv : guardControlValid g0.control = true) :
    Triple (fun g => g = g0) fileObjectGuardFenced (fun mask g => g = g0 ∧ mask = g0.control.fenced)
      (fun e g => g = g0 ∧ e = .ebusy) := by
  have hlock : Triple (fun g => g = g0) guardLock (fun _ g => g = g0) (fun e g => g = g0 ∧ e = .ebusy) :=
    Triple.drawn fun free => Triple.refuse (fun _ h _ => ⟨h, rfl⟩) fun _ h _ => h
  refine Triple.bind hlock fun _ => ?_
  intro w n g hg
  subst hg
  have hread : (guardControlRead w n g : Except Errno GuardControl × Nat × FileObjectGuard) =
      (.ok g.control, n, g) := by
    show (Attempt.bind Attempt.get (fun g => if g.poisoned then guardPoison else
      guardRead FileObjectGuard.control guardControlValid) w n g) = _
    unfold Attempt.bind Attempt.get
    dsimp only
    rw [hp, if_neg Bool.false_ne_true]
    show (Attempt.bind Attempt.get (fun g => if guardControlValid g.control then Pure.pure g.control
      else guardPoison) w n g) = _
    unfold Attempt.bind Attempt.get
    dsimp only
    rw [if_pos hv]
    rfl
  show Ends _ _ (Attempt.bind guardControlRead _ w n g).1 (Attempt.bind guardControlRead _ w n g).2.2
  unfold Attempt.bind
  rw [hread]
  exact ⟨rfl, rfl⟩

theorem guardPublishFences_cleared : Keeps (Cleared resource) guardPublishFences := by
  have hloop : ∀ mask, ¬ Names mask resource → Keeps (Cleared resource)
      (Attempt.forEach (publishFence mask) (List.range fileObjectGuardResources)) := fun mask hmask =>
    Keeps.forEach fun k hk => publishFence_cleared (List.mem_range.mp hk) hmask
  have hfences : Triple (Cleared resource) (onGuard fileObjectGuardFenced)
      (fun mask s => Cleared resource s ∧ ¬ Names mask resource) (fun e s => Cleared resource s ∧ e = .ebusy) := by
    refine Triple.zoom fun s hs => ?_
    refine (fileObjectGuardFenced_healthy hs.cleared.guard.1 hs.valid).ends (fun mask g h => ?_)
      fun _ g h => ⟨h.1 ▸ hs, h.2⟩
    obtain ⟨rfl, rfl⟩ := h
    exact ⟨hs, hs.cleared.guard.2⟩
  refine Triple.bind hfences.outcome_ends fun fences => ?_
  split
  · exact Triple.pure fun _ h => h.1
  next e hbusy => exact Triple.start fun s hs => absurd hs.2 hbusy
  next mask =>
    refine Triple.fact fun hmask => Keeps.bind (Keeps.modify fun s h => ?_) fun _ => hloop _ hmask
    exact ⟨⟨h.1.1, h.1.2, h.1.3, h.1.4, h.1.5⟩, h.2⟩

end Publication

section Request

variable {latest : Option BegunRepair} {count : Nat → Nat} {q : FileRepairRequest} {owner : FileObjectOwner}
  {r : VfsRepairRecord} {now : UInt64}

def latestAfter (latest : Option BegunRepair) (q : FileRepairRequest) (owner : FileObjectOwner)
    (out : FileRepairRequest) : Option BegunRepair :=
  if q.operation = reistFileRepairBegin then some ⟨q.resource, owner, out.token⟩ else latest

def countAfter (count : Nat → Nat) (q : FileRepairRequest) : Nat → Nat :=
  if q.operation = reistFileRepairBegin then begunOnce count q.resource else count

structure RepairDone (latest : Option BegunRepair) (count : Nat → Nat) (q : FileRepairRequest)
    (owner : FileObjectOwner) (out : FileRepairRequest) (s : VfsRepairState) : Prop where
  inv : RepairInv (latestAfter latest q owner out) (countAfter count q) s
  commit : q.operation = reistFileRepairCommit → Cleared q.resource s
  token : q.operation = reistFileRepairCommit → latest = some ⟨q.resource, owner, q.token⟩
  abort : q.operation = reistFileRepairAbort → FencedEverywhere q.resource s

variable {out : FileRepairRequest} {s : VfsRepairState}

theorem repairDone_idle (h : RepairInv latest count s) (hbegin : q.operation ≠ reistFileRepairBegin)
    (hcommit : q.operation ≠ reistFileRepairCommit) (habort : q.operation ≠ reistFileRepairAbort) :
    RepairDone latest count q owner out s := by
  refine ⟨?_, fun h => absurd h hcommit, fun h => absurd h hcommit, fun h => absurd h habort⟩
  unfold latestAfter countAfter
  rw [if_neg hbegin, if_neg hbegin]
  exact h

theorem repairDone_begun (hbegin : q.operation = reistFileRepairBegin)
    (h : RepairInv (some ⟨q.resource, owner, out.token⟩) (begunOnce count q.resource) s) :
    RepairDone latest count q owner out s := by
  have hcommit : q.operation ≠ reistFileRepairCommit := fun h => absurd (hbegin.symm.trans h) (by decide)
  have habort : q.operation ≠ reistFileRepairAbort := fun h => absurd (hbegin.symm.trans h) (by decide)
  refine ⟨?_, fun h => absurd h hcommit, fun h => absurd h hcommit, fun h => absurd h habort⟩
  unfold latestAfter countAfter
  rw [if_pos hbegin, if_pos hbegin]
  exact h

theorem repairDone_closed (hbegin : q.operation ≠ reistFileRepairBegin)
    (h : if q.operation = reistFileRepairCommit then Committed latest count q.resource owner q.token s
      else RepairInv latest count s ∧ FencedEverywhere q.resource s) :
    RepairDone latest count q owner out s := by
  have hlatest : latestAfter latest q owner out = latest := if_neg hbegin
  have hcount : countAfter count q = count := if_neg hbegin
  by_cases hcommit : q.operation = reistFileRepairCommit
  · rw [if_pos hcommit] at h
    refine ⟨by rw [hlatest, hcount]; exact h.inv, fun _ => ⟨h.cleared, h.valid⟩, fun _ => h.latest, fun ha => ?_⟩
    exact absurd (hcommit.symm.trans ha) (by decide)
  · rw [if_neg hcommit] at h
    exact ⟨by rw [hlatest, hcount]; exact h.1, fun hc => absurd hc hcommit, fun hc => absurd hc hcommit, fun _ => h.2⟩

theorem fileRepairOn_done :
    Triple (fun s => Recorded latest count q.resource r s ∧ s.repairPoisoned = false) (fileRepairOn q owner r now)
      (RepairDone latest count q owner) (fun _ => RepairInv latest count) := by
  refine Triple.ite (fun hquery => ?_) fun hquery => Triple.ite (fun hbegin => ?_) fun hbegin => ?_
  · refine Triple.bind (fileRepairAdmit_repairable.pre fun _ h => h.1) fun r' => ?_
    refine Triple.bind (Keeps.refuse.triple fun _ _ h => h.inv) fun _ => Triple.pure fun s hs => ?_
    apply repairDone_idle hs.inv
    · rw [hquery]
      decide
    · rw [hquery]
      decide
    · rw [hquery]
      decide
  · refine Triple.bind (fileRepairAdmit_repairable.pre fun _ h => h.1) fun r' => ?_
    refine Triple.bind fileRepairReserve_reserves fun token => ?_
    exact fileRepairStart_done.ends (fun _ _ h => repairDone_begun hbegin h) fun _ _ h => h.1
  · refine Triple.bind (Triple.refuse (Q := fun _ s => RepairClosing latest count q owner r s) (fun _ h _ => h.1.1)
      fun s h hn => ⟨h.1.1, h.1.2, h.2, by simpa using hn⟩) fun _ => ?_
    exact fileRepairClose_done.ends (fun _ _ h => repairDone_closed hbegin h) fun _ _ h => h.1

theorem guardPublishFences_done :
    Keeps (RepairDone latest count q owner out) guardPublishFences := by
  have hinv : Keeps (RepairInv (latestAfter latest q owner out) (countAfter count q)) guardPublishFences :=
    guardPublishFences_keeps repairInv_stable
  have hcommit : Keeps (fun s => q.operation = reistFileRepairCommit → Cleared q.resource s) guardPublishFences :=
    Keeps.under fun _ => guardPublishFences_cleared
  have habort : Keeps (fun s => q.operation = reistFileRepairAbort → FencedEverywhere q.resource s)
      guardPublishFences := Keeps.under fun _ => guardPublishFences_fenced
  refine Triple.pre (Triple.fact (p := q.operation = reistFileRepairCommit →
    latest = some ⟨q.resource, owner, q.token⟩) fun htoken => (hinv.and (hcommit.and habort)).weaken
      (fun _ h => h) (fun _ _ h => ?_) fun _ _ h => ?_) (fun s h => ⟨⟨h.inv, h.commit, h.abort⟩, h.token⟩)
  · exact ⟨h.1, h.2.1, htoken, h.2.2⟩
  · exact ⟨h.1, h.2.1, htoken, h.2.2⟩

theorem vfsOperation_done {α : Type} {x : Vfs α} {P : VfsRepairState → Prop} {Q : α → VfsRepairState → Prop}
    {E : VfsRepairState → Prop} (hx : Triple P x Q fun _ => E) (hQ : ∀ a, Keeps (Q a) guardPublishFences)
    (hE : Keeps E guardPublishFences) : Triple P (do
      let result ← x.outcome
      vfsOperationEnd
      Attempt.ofExcept result) Q (fun _ => E) := by
  refine Triple.bind hx.outcome_ends fun result => ?_
  cases result with
  | ok a => exact Triple.bind (vfsOperationEnd_keeps (hQ a)) fun _ => Triple.pure fun _ hs => hs
  | error e => exact Triple.bind (vfsOperationEnd_keeps hE) fun _ => Triple.fail fun _ h => h

theorem vfsFileRepairRequest_done :
    Triple (RepairInv latest count) (vfsFileRepairRequest q owner) (RepairDone latest count q owner)
      (fun _ => RepairInv latest count) := by
  have hinv : RepairStable (RepairInv latest count) := repairInv_stable
  refine Triple.bind Keeps.refuse fun _ => Triple.drawn fun live => ?_
  refine Triple.bind Keeps.refuse fun _ => ?_
  refine Triple.bind (keeps_repairInv (vfsOperationBegin_keeps anyGuard_stable)) fun _ => ?_
  refine vfsOperation_done ?_ (fun _ => guardPublishFences_done) (guardPublishFences_keeps hinv)
  refine Triple.bind (vfsRepairRecordRead_spec hinv.guard) fun r => Triple.drawn fun now => ?_
  exact fileRepairOn_done.pre fun s h => ⟨⟨h.1, h.2.1⟩, h.2.2.1⟩

end Request

variable {latest : Option BegunRepair} {count : Nat → Nat} {q : FileRepairRequest} {owner : FileObjectOwner}

/-- How a request came to answer for its resource: a begin with the token of its reservation, else
with the time it agreed with the record. -/
inductive RepairEntry
  | began (r : VfsRepairRecord) (token : UInt32)
  | agreed (r : VfsRepairRecord) (now : UInt64)

/-- A request up to the step from which it answers for its resource. -/
def fileRepairEntry (q : FileRepairRequest) (owner : FileObjectOwner) : Vfs RepairEntry := do
  refuse (fileRepairInvalid q) .einval
  let live ← draw VfsAnswers.ownerLive
  refuse (!live) .eacces
  vfsOperationBegin none
  let r ← vfsRepairRecordRead q.resource
  let now ← vfsNow
  refuse (q.operation = reistFileRepairQuery) .enoent
  if q.operation = reistFileRepairBegin then do
    let r ← fileRepairAdmit q owner r
    let token ← fileRepairReserve q owner r now
    pure (.began r token)
  else do
    refuse (fileRepairMismatch q owner r) .estale
    pure (.agreed r now)

def fileRepairEntered (q : FileRepairRequest) (owner : FileObjectOwner) : RepairEntry → Vfs FileRepairRequest
  | .began r token => fileRepairStart q owner r token
  | .agreed r now => fileRepairClose q owner r now

/-- What a request has found when it answers for its resource. -/
def Entered (latest : Option BegunRepair) (count : Nat → Nat) (q : FileRepairRequest) (owner : FileObjectOwner) :
    RepairEntry → VfsRepairState → Prop
  | .began r token, s => Reserving count q.resource owner r token s
  | .agreed r _, s => RepairClosing latest count q owner r s

theorem fileRepairEntry_enters :
    Triple (RepairInv latest count) (fileRepairEntry q owner) (Entered latest count q owner)
      (fun _ => RepairInv latest count) := by
  have hinv : RepairStable (RepairInv latest count) := repairInv_stable
  refine Triple.bind Keeps.refuse fun _ => Triple.drawn fun live => ?_
  refine Triple.bind Keeps.refuse fun _ => ?_
  refine Triple.bind (keeps_repairInv (vfsOperationBegin_keeps anyGuard_stable)) fun _ => ?_
  refine Triple.bind (vfsRepairRecordRead_spec hinv.guard) fun r => Triple.drawn fun now => ?_
  refine Triple.bind (Keeps.refuse.triple fun _ _ h => h.1) fun _ => Triple.ite (fun _ => ?_) fun _ => ?_
  · refine Triple.bind (fileRepairAdmit_repairable.pre fun _ h => ⟨h.1, h.2.1⟩) fun r' => ?_
    exact Triple.bind fileRepairReserve_reserves fun token => Triple.pure fun _ hs => hs
  · refine Triple.bind (Triple.refuse (Q := fun _ s => RepairClosing latest count q owner r s) (fun _ h _ => h.1)
      fun s h hn => ⟨h.1, h.2.1, h.2.2.1, by simpa using hn⟩) fun _ => Triple.pure fun _ hs => hs

variable {w : VfsAnswers} {n n' : Nat} {s s' : VfsRepairState}

theorem vfsFileRepairRequest_entered {entry : RepairEntry}
    (h : fileRepairEntry q owner w n s = (.ok entry, n', s')) :
    vfsFileRepairRequest q owner w n s = (do
      let result ← (fileRepairEntered q owner entry).outcome
      vfsOperationEnd
      Attempt.ofExcept result : Vfs FileRepairRequest) w n' s' := by
  obtain ⟨_, n1, s1, h1, h⟩ := bind_ok h
  obtain ⟨live, n2, s2, h2, h⟩ := bind_ok h
  obtain ⟨_, n3, s3, h3, h⟩ := bind_ok h
  obtain ⟨_, n4, s4, h4, h⟩ := bind_ok h
  refine (bind_run h1).trans ((bind_run h2).trans ((bind_run h3).trans ((bind_run h4).trans ?_)))
  have hlocked : fileRepairLocked q owner w n4 s4 = fileRepairEntered q owner entry w n' s' := by
    obtain ⟨r, n5, s5, h5, h⟩ := bind_ok h
    obtain ⟨now, n6, s6, h6, h⟩ := bind_ok h
    obtain ⟨_, n7, s7, h7, hrest⟩ := bind_ok h
    obtain ⟨hquery, rfl, rfl⟩ := refuse_ok h7
    refine (bind_run h5).trans ((bind_run h6).trans ?_)
    unfold fileRepairOn
    rw [if_neg hquery]
    by_cases hbegin : q.operation = reistFileRepairBegin
    · rw [if_pos hbegin] at hrest ⊢
      obtain ⟨r', n8, s8, h8, hrest⟩ := bind_ok hrest
      obtain ⟨token, n9, s9, h9, hrest⟩ := bind_ok hrest
      cases hrest
      exact (bind_run h8).trans (bind_run h9)
    · rw [if_neg hbegin] at hrest ⊢
      obtain ⟨_, n8, s8, h8, hrest⟩ := bind_ok hrest
      cases hrest
      exact bind_run h8
  have houtcome : (fileRepairLocked q owner).outcome w n4 s4 = (fileRepairEntered q owner entry).outcome w n' s' :=
    outcome_run hlocked
  show Attempt.bind _ _ w n4 s4 = Attempt.bind _ _ w n' s'
  unfold Attempt.bind
  rw [houtcome]

theorem vfsFileRepairRequest_fences {entry : RepairEntry} (hinv : RepairInv latest count s)
    (h : fileRepairEntry q owner w n s = (.ok entry, n', s')) :
    Ends (fun _ _ => True) (fun _ => FencedEverywhere q.resource) (vfsFileRepairRequest q owner w n s).1
      (vfsFileRepairRequest q owner w n s).2.2 := by
  have hentered : Entered latest count q owner entry s' := by
    have henters : Triple (RepairInv latest count) (fileRepairEntry q owner) (Entered latest count q owner)
        (fun _ => RepairInv latest count) := fileRepairEntry_enters
    have hends := henters w n s hinv
    rw [h] at hends
    exact hends
  rw [vfsFileRepairRequest_entered h]
  have hrest : Triple (Entered latest count q owner entry) (fileRepairEntered q owner entry)
      (fun _ _ => True) (fun _ => FencedEverywhere q.resource) := by
    cases entry with
    | began r token =>
      have hstart : Triple (Reserving count q.resource owner r token) (fileRepairStart q owner r token)
          (fun out s => RepairInv (some ⟨q.resource, owner, out.token⟩) (begunOnce count q.resource) s)
          (fun _ s => RepairInv latest count s ∧ FencedEverywhere q.resource s) := fileRepairStart_done
      exact hstart.ends (fun _ _ _ => trivial) fun _ _ h => h.2
    | agreed r now => exact fileRepairClose_done.ends (fun _ _ _ => trivial) fun _ _ h => h.2
  exact vfsOperation_done hrest (fun _ => guardPublishFences_keeps ⟨fun _ _ _ h => h, fun _ _ _ h => h,
    fun _ _ _ h => h⟩) guardPublishFences_fenced w n' s' hentered

end ReistOs
