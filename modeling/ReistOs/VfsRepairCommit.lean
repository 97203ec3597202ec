import ReistOs.VfsRepairLayers

/-! One repair request: a commit that succeeds has cleared every layer, a begin, commit or abort
that is given up leaves every layer fenced. -/

namespace ReistOs

open Attempt

section Failure

variable {latest : Option BegunRepair} {count : Nat → Nat} {q : FileRepairRequest} {owner : FileObjectOwner}
  {r : VfsRepairRecord} {s : VfsRepairState}

/-- The state is sound, and will be once the record of the resource says that its repair failed. -/
structure Failing (latest : Option BegunRepair) (count : Nat → Nat) (resource : Nat) (r : VfsRepairRecord)
    (s : VfsRepairState) : Prop where
  base : RepairBase count s
  failed : RepairInv latest count (s.withRecord resource { r with state := .failed })
  initialized : s.initialized = true

theorem repairBase_stable : RepairStable (RepairBase count) := by
  refine ⟨fun s s' hm h => h.moved hm.records hm.initialized ?_, fun s s' hm h => h.moved hm.records hm.initialized ?_,
    fun s s' hm h => h.moved hm.records hm.initialized hm.guard.fenced⟩
  · rw [hm.guard]
    exact fun k hk => hk
  · rw [hm.guard]
    exact fun k hk => hk

theorem failing_stable {resource : Nat} : RepairStable (Failing latest count resource r) := by
  have hinv : RepairStable (RepairInv latest count) := repairInv_stable
  refine ⟨fun s s' hm h => ⟨repairBase_stable.service s s' hm h.base, ?_, hm.initialized.trans h.initialized⟩,
    fun s s' hm h => ⟨repairBase_stable.pool s s' hm h.base, ?_, hm.initialized.trans h.initialized⟩,
    fun s s' hm h => ⟨repairBase_stable.guard s s' hm h.base, ?_, hm.initialized.trans h.initialized⟩⟩
  · exact repairInv_stable.service _ _ hm.withRecord h.failed
  · exact repairInv_stable.pool _ _ hm.withRecord h.failed
  · exact repairInv_stable.guard _ _ hm.withRecord h.failed

theorem fileRepairFail_fences {result : Option Errno} (hr : q.resource < maxDrives) :
    Triple (Failing latest count q.resource r) (fileRepairFail q r owner result)
      (fun _ s => (RepairInv latest count s ∧ FencedEverywhere q.resource s) ∧ result = none)
      (fun _ s => RepairInv latest count s ∧ FencedEverywhere q.resource s) := by
  have hr32 : q.resource < 32 := lt_trans hr (by decide)
  have hpool : GuardClosed fun s => Failing latest count q.resource r s ∧ PoolFenced q.resource s := fun s s' hm h =>
    ⟨failing_stable.guard s s' hm h.1, by unfold PoolFenced; rw [hm.pool]; exact h.2⟩
  have hservice : ∀ s s', ServiceMove s s' → (Failing latest count q.resource r s ∧ PoolFenced q.resource s) →
      (Failing latest count q.resource r s' ∧ PoolFenced q.resource s') := fun s s' hm h =>
    ⟨failing_stable.service s s' hm h.1, by unfold PoolFenced; rw [hm.pool]; exact h.2⟩
  refine Triple.bind (Triple.outcome (Q := fun _ s => Failing latest count q.resource r s ∧ PoolFenced q.resource s)
    (storageRequestRecoveryRefence_fences failing_stable.pool hr32)) fun _ => ?_
  refine Triple.bind (hpool.keeps fun _ => fileObjectGuardMergeFences_keeps).ignored fun _ => ?_
  refine Triple.drawn fun now => ?_
  refine Triple.bind (hpool.keeps fun _ => fileObjectGuardRepairFinish_keeps).ignored fun _ => ?_
  refine Triple.bind ((reportMediaFailure_quarantines hservice hr fun s hs => hs.1.initialized).weaken
    (fun _ h => h) (fun _ _ h => h) fun _ _ h => h.elim) fun _ => ?_
  have hlayers : GuardClosed fun s => (Failing latest count q.resource r s ∧ PoolFenced q.resource s) ∧
      Quarantined q.resource s := by
    refine fun s s' hm h => ⟨hpool s s' hm h.1, ?_⟩
    unfold Quarantined
    rw [hm.control, hm.controlFailed, hm.writesFenced]
    exact h.2
  have hwrite : Triple (fun s => (Failing latest count q.resource r s ∧ PoolFenced q.resource s) ∧
      Quarantined q.resource s) (vfsRepairWrite q.resource { r with state := .failed })
      (fun _ s => RepairInv latest count s ∧ FencedEverywhere q.resource s)
      (fun _ s => RepairInv latest count s ∧ FencedEverywhere q.resource s) := by
    refine (vfsRepairWrite_spec hlayers).ends (fun _ s h => ?_) fun _ s h => ?_
    · obtain ⟨s0, ⟨⟨hfailing, hpooled⟩, hquarantined⟩, rfl, -⟩ := h
      have hfence : Names s0.guard.control.fenced q.resource :=
        hfailing.failed.fenced q.resource _ (withRecord_self _ _ _) (Or.inr rfl)
      exact ⟨hfailing.failed, hfence, hpooled, hquarantined, Or.inr ⟨_, withRecord_self _ _ _, rfl⟩⟩
    · obtain ⟨⟨⟨hfailing, hpooled⟩, hquarantined⟩, hpoisoned⟩ := h
      have hfence : Names s.guard.control.fenced q.resource :=
        hfailing.failed.fenced q.resource _ (withRecord_self _ _ _) (Or.inr rfl)
      refine ⟨⟨hfailing.base, fun hp => ?_⟩, hfence, hpooled, hquarantined, Or.inl hpoisoned⟩
      rw [hpoisoned] at hp
      cases hp
  refine Triple.bind (Triple.outcome (Q := fun _ s => RepairInv latest count s ∧ FencedEverywhere q.resource s) hwrite)
    fun written => ?_
  split
  · exact Triple.fail fun _ h => h
  · exact Triple.fail fun _ h => h
  · exact Triple.pure fun _ h => ⟨h, rfl⟩

end Failure

variable {latest : Option BegunRepair} {count : Nat → Nat} {q : FileRepairRequest} {owner : FileObjectOwner}
  {r : VfsRepairRecord} {now : UInt64}

theorem fileRepairMismatch_false (h : fileRepairMismatch q owner r = false) :
    r.token = q.token ∧ q.token ≠ 0 ∧ r.owner = owner ∧ (r.state = .active ∨ r.state = .failed) := by
  unfold fileRepairMismatch at h
  simp only [Bool.or_eq_false_iff, Bool.and_eq_false_iff, bne_eq_false_iff_eq, beq_eq_false_iff_ne] at h
  exact ⟨h.1.1.1.2, h.1.1.1.1.2, h.1.1.2, h.2⟩

variable {s s0 : VfsRepairState} {g g1 : FileObjectGuard} {token : UInt32} {resource : Nat}

theorem RepairInv.failing (h : RepairInv latest count s) (hr : s.records q.resource = some r)
    (hstate : r.state = .active ∨ r.state = .failed) (htoken : r.token ≠ 0) :
    Failing latest count q.resource r s :=
  ⟨h.toRepairBase, h.succeeded hr rfl rfl rfl (by simp) ⟨fun _ => hstate, fun _ => rfl⟩,
    (h.tokens q.resource r hr htoken).2⟩

theorem fileObjectGuardJournalIo_checked {nowMs : UInt64} :
    Triple (GuardRetains unmarked g) (fileObjectGuardJournalIo owner token resource .check nowMs)
      (fun _ g' => GuardRetains unmarked g g' ∧ g'.Reserved owner token resource) (fun _ => GuardRetains unmarked g) :=
  guardJournalIo_marks.weaken (fun _ h => ⟨h, nofun⟩) (fun _ _ h => ⟨h.1, h.2.1⟩) fun _ _ h => h

/-- What a successful commit leaves under the VFS mutex. -/
structure Committed (latest : Option BegunRepair) (count : Nat → Nat) (resource : Nat) (owner : FileObjectOwner)
    (token : UInt32) (s : VfsRepairState) : Prop where
  inv : RepairInv latest count s
  cleared : ClearedEverywhere resource s
  valid : guardControlValid s.guard.control = true
  latest : latest = some ⟨resource, owner, token⟩

theorem Failing.verified (h : Failing latest count resource r s) :
    Failing latest count resource r (s.withRecord resource { r with state := .verified }) := by
  have hself := withRecord_self s resource { r with state := .failed }
  have hcount := h.failed.attempts resource
  rw [hself] at hcount
  have hbound := h.failed.bounded resource _ hself
  refine ⟨h.base.rewritten (fun hs => absurd hs (by simp)) (fun ht => ?_) hcount ?_, ?_, h.initialized⟩
  · exact h.failed.tokens resource _ hself ht
  · exact hbound
  · rw [withRecord_twice]
    exact h.failed

theorem committed_latest {g' : FileObjectGuard} (hinv : RepairInv latest count s0)
    (hhealthy : s0.repairPoisoned = false) (hstart : GuardRetains unmarked s0.guard g)
    (hfirst : GuardRetains unmarked g1 g) (hreserved : g1.Reserved owner token resource)
    (hverified : g.Verified g' owner token g.control.resource) :
    g.control.resource = resource ∧ latest = some ⟨resource, owner, token⟩ := by
  have hplace := hfirst.repair hverified.reserved.active hverified.repair
  have hc := hstart.repair hverified.reserved.active hverified.repair
  have hresource : g.control.resource = resource := hplace.resource.trans hreserved.resource
  obtain ⟨_, -, -, -, -, hlatest⟩ := hinv.reserved hhealthy hc.active hc.repair
  have hattempted := (hc.attempted hverified.attempted).resolve_right id
  refine ⟨hresource, ?_⟩
  rw [hlatest (Or.inr hattempted), ← hc.resource, ← hc.owner, ← hc.generation, hresource, hverified.reserved.owner,
    hverified.reserved.generation]

/-- The layers a commit has still to see cleared, and what it knows of the guard. -/
structure Committing (latest : Option BegunRepair) (count : Nat → Nat) (resource : Nat) (r : VfsRepairRecord)
    (g₀ g₁ : FileObjectGuard) (s : VfsRepairState) : Prop where
  failing : Failing latest count resource r s
  start : GuardRetains unmarked g₀ s.guard
  first : GuardRetains unmarked g₁ s.guard

theorem committing_stable {g0 : FileObjectGuard} :
    RepairStable (Committing latest count resource r g0 g1) := by
  refine ⟨fun s s' hm h => ⟨failing_stable.service s s' hm h.failing, ?_, ?_⟩,
    fun s s' hm h => ⟨failing_stable.pool s s' hm h.failing, ?_, ?_⟩,
    fun s s' hm h => ⟨failing_stable.guard s s' hm h.failing, h.start.trans hm.guard, h.first.trans hm.guard⟩⟩
  · exact (retainsStable g0).service s s' hm h.start
  · exact (retainsStable g1).service s s' hm h.first
  · exact (retainsStable g0).pool s s' hm h.start
  · exact (retainsStable g1).pool s s' hm h.first

theorem commitFinish_done (hr : q.resource < 32) (hinv : RepairInv latest count s0)
    (hhealthy : s0.repairPoisoned = false) (hreserved : g1.Reserved owner r.token q.resource) :
    Triple (fun s => (Committing latest count q.resource r s0.guard g1 s ∧ ¬ PoolFenced q.resource s ∧
        ¬ Names s.control.quarantinedResources q.resource ∧ ¬ Names s.control.readOnlyResources q.resource) ∧
        s.records q.resource = some { r with state := .verified })
      (onGuard (fileObjectGuardRepairFinish r.token owner true now))
      (fun _ => Committed latest count q.resource owner r.token) (fun _ => Failing latest count q.resource r) := by
  refine Triple.zoom fun s hs => ?_
  obtain ⟨⟨hcommitting, hpool, hquarantined, hreadOnly⟩, hrecord⟩ := hs
  refine fileObjectGuardRepairFinish_verified.weaken
    (fun g hg => (hg ▸ GuardRetains.refl : GuardRetains unmarked s.guard g)) (fun _ g' hg' => ?_) fun _ g' hg' => ?_
  · obtain ⟨g, hretains, hverified⟩ := hg'
    obtain ⟨hresource, hlatest⟩ := committed_latest hinv hhealthy (hcommitting.start.trans hretains)
      (hcommitting.first.trans hretains) hreserved hverified
    have hfenced : g'.control.fenced = g.control.fenced &&& ~~~resourceBit q.resource := hresource ▸ hverified.fenced
    have hbase : RepairBase count s := hcommitting.failing.base
    refine ⟨⟨⟨?_, hbase.tokens, hbase.attempts, hbase.bounded⟩, ?_⟩, ?_, hverified.valid, hlatest⟩
    · intro k r' hr' hstate
      have hk : k ≠ q.resource := by
        rintro rfl
        have heq : r' = { r with state := .verified } := Option.some.inj (hr'.symm.trans hrecord)
        rw [heq] at hstate
        simp at hstate
      show Names g'.control.fenced k
      rw [hfenced]
      exact names_kept hr hk (hretains.fenced k (hbase.fenced k r' hr' hstate))
    · intro _ hactive
      exact absurd hactive (by rw [hverified.idle]; simp)
    · refine ⟨⟨hverified.healthy, ?_⟩, hpool, hquarantined, hreadOnly, _, hrecord, rfl⟩
      show ¬ Names g'.control.fenced q.resource
      rw [hfenced]
      exact not_names_cleared hr
  · exact failing_stable.guard s _ ⟨hg', rfl, fun hp => hp, rfl, rfl, rfl, rfl, rfl⟩ hcommitting.failing

theorem fileRepairCommit_done (hr : q.resource < 32) (hinv : RepairInv latest count s0)
    (hhealthy : s0.repairPoisoned = false) (hfailing : Failing latest count q.resource r s0) :
    Triple (· = s0) (fileRepairCommit q owner r now)
      (fun _ => Committed latest count q.resource owner r.token) (fun _ => Failing latest count q.resource r) := by
  have hstart : RepairStable fun s => Failing latest count q.resource r s ∧ GuardRetains unmarked s0.guard s.guard :=
    failing_stable.and (retainsStable s0.guard)
  refine Triple.bind (((onGuard_shows hstart fun _ => fileObjectGuardJournalIo_checked).weaken
    (fun s hs => ?_) (fun _ _ h => h) fun _ _ h => h.1)) fun p => Triple.start fun s1 h1 => ?_
  · rw [hs]
    exact ⟨hfailing, GuardRetains.refl⟩
  obtain ⟨⟨hfailing1, hretains1⟩, hreserved⟩ := h1
  have hcommitting : Committing latest count q.resource r s0.guard s1.guard s1 :=
    ⟨hfailing1, hretains1, GuardRetains.refl⟩
  refine Triple.pre ?_ (fun s hs => (hs ▸ hcommitting : Committing latest count q.resource r s0.guard s1.guard s))
  have hstable : RepairStable (Committing latest count q.resource r s0.guard s1.guard) := committing_stable
  refine Triple.bind ((hstable.keeps_guard fun _ => fileObjectGuardContext_keeps).triple fun _ _ h => h.failing)
    fun context => ?_
  refine Triple.bind (Keeps.refuse.triple fun _ _ h => h.failing) fun _ => ?_
  refine Triple.bind ((hstable.keeps_service fun _ => repairCheck_moves).triple fun _ _ h => h.failing) fun current => ?_
  refine Triple.bind (Keeps.refuse.triple fun _ _ h => h.failing) fun _ => ?_
  refine Triple.bind ((storageRequestRecoveryClear_clears hstable.pool hr).errors
    fun _ _ h => h.failing) fun _ => ?_
  have hcleared : ∀ s s', ServiceMove s s' →
      (Committing latest count q.resource r s0.guard s1.guard s ∧ ¬ PoolFenced q.resource s) →
      (Committing latest count q.resource r s0.guard s1.guard s' ∧ ¬ PoolFenced q.resource s') := fun s s' hm h =>
    ⟨hstable.service s s' hm h.1, by unfold PoolFenced; rw [hm.pool]; exact h.2⟩
  refine Triple.bind ((repairPublish_clears hcleared hr).errors
    fun _ _ h => h.1.failing) fun published => ?_
  refine Triple.bind (Triple.refuse (Q := fun _ s => Committing latest count q.resource r s0.guard s1.guard s ∧
    ¬ PoolFenced q.resource s ∧ ¬ Names s.control.quarantinedResources q.resource ∧
    ¬ Names s.control.readOnlyResources q.resource) (fun _ h _ => h.1.1.failing)
    fun s h hn => ⟨h.1.1, h.1.2, h.2 (by simpa using hn)⟩) fun _ => ?_
  have hguard : GuardClosed fun s => Committing latest count q.resource r s0.guard s1.guard s ∧
      ¬ PoolFenced q.resource s ∧ ¬ Names s.control.quarantinedResources q.resource ∧
      ¬ Names s.control.readOnlyResources q.resource := fun s s' hm h =>
    ⟨hstable.guard s s' hm h.1, by unfold PoolFenced; rw [hm.pool, hm.control]; exact h.2⟩
  refine Triple.bind ((vfsRepairWrite_spec hguard).ends (fun _ s h => ?_) fun _ _ h => h.1.1.failing)
    fun _ => Triple.drawn fun now => commitFinish_done hr hinv hhealthy hreserved
  obtain ⟨s', ⟨hcommit, hrest⟩, rfl, -⟩ := h
  exact ⟨⟨⟨hcommit.failing.verified, hcommit.start, hcommit.first⟩, hrest⟩, withRecord_self _ _ _⟩

end ReistOs
