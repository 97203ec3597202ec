import ReistOs.VfsRepairMoves

/-! What the records of a repair and the guard's reservation have to do with each other, and that
the requests of all parties keep it. -/

namespace ReistOs

open Attempt

/-- A repair that was begun: its resource, its owner and the token it was given. -/
structure BegunRepair where
  resource : Nat
  owner : FileObjectOwner
  token : UInt32
  deriving DecidableEq

def recordAttempts (record : Option VfsRepairRecord) : Nat := (record.map fun r => r.attempts.toNat).getD 0

/-- A repair under way or failed is fenced, tokens are only those of known media, and every begun
repair is counted in its record. -/
structure RepairBase (count : Nat → Nat) (s : VfsRepairState) : Prop where
  fenced : ∀ k r, s.records k = some r → r.state = .active ∨ r.state = .failed → Names s.guard.control.fenced k
  tokens : ∀ k r, s.records k = some r → r.token ≠ 0 → k < maxDrives ∧ s.initialized = true
  attempts : ∀ k, count k ≤ recordAttempts (s.records k)
  bounded : ∀ k r, s.records k = some r → r.attempts.toNat ≤ 3

/-- A repair reservation belongs to the record of its resource; unless the repair failed before
its first write, it is the latest that was begun. -/
def RepairReserved (latest : Option BegunRepair) (s : VfsRepairState) : Prop :=
  s.guard.control.active = true → s.guard.control.mode = .repair →
    ∃ r, s.records s.guard.control.resource = some r ∧ r.token = s.guard.control.generation ∧
      r.owner = s.guard.control.owner ∧ (r.state = .active ∨ r.state = .failed) ∧
      (r.state = .active ∨ s.guard.control.attempted = true →
        latest = some ⟨s.guard.control.resource, s.guard.control.owner, s.guard.control.generation⟩)

structure RepairInv (latest : Option BegunRepair) (count : Nat → Nat) (s : VfsRepairState) : Prop
    extends RepairBase count s where
  reserved : s.repairPoisoned = false → RepairReserved latest s

def VfsRepairState.withRecord (s : VfsRepairState) (resource : Nat) (r : VfsRepairRecord) : VfsRepairState :=
  { s with records := Function.update s.records resource (some r) }

@[simp] theorem withRecord_self (s : VfsRepairState) (k : Nat) (r : VfsRepairRecord) :
    (s.withRecord k r).records k = some r := by
  exact Function.update_self ..

theorem withRecord_other (s : VfsRepairState) {j k : Nat} (hj : j ≠ k) (r : VfsRepairRecord) :
    (s.withRecord k r).records j = s.records j := by
  exact Function.update_of_ne hj ..

theorem withRecord_twice (s : VfsRepairState) (k : Nat) (r r' : VfsRepairRecord) :
    (s.withRecord k r).withRecord k r' = s.withRecord k r' := by
  unfold VfsRepairState.withRecord
  rw [Function.update_idem]

structure RepairStable (P : VfsRepairState → Prop) : Prop where
  service : ∀ s s', ServiceMove s s' → P s → P s'
  pool : ∀ s s', PoolMove s s' → P s → P s'
  guard : ∀ s s', GuardMove s s' → P s → P s'

def GuardClosed (P : VfsRepairState → Prop) : Prop := ∀ s s', GuardMove s s' → P s → P s'

section Stable

variable {latest : Option BegunRepair} {count : Nat → Nat} {s s' : VfsRepairState} {P Q : VfsRepairState → Prop}
  {k : Nat} {r : VfsRepairRecord}

theorem RepairStable.and (hP : RepairStable P) (hQ : RepairStable Q) : RepairStable fun s => P s ∧ Q s :=
  ⟨fun s s' hm h => ⟨hP.service s s' hm h.1, hQ.service s s' hm h.2⟩,
    fun s s' hm h => ⟨hP.pool s s' hm h.1, hQ.pool s s' hm h.2⟩,
    fun s s' hm h => ⟨hP.guard s s' hm h.1, hQ.guard s s' hm h.2⟩⟩

theorem RepairBase.moved (h : RepairBase count s) (hrecords : s'.records = s.records)
    (hinit : s'.initialized = s.initialized)
    (hfences : ∀ k, Names s.guard.control.fenced k → Names s'.guard.control.fenced k) : RepairBase count s' := by
  refine ⟨fun k r hr hstate => hfences k ?_, fun k r hr htoken => ?_, fun k => ?_, fun k r hr => ?_⟩
  · exact h.fenced k r (hrecords ▸ hr) hstate
  · rw [hinit]
    exact h.tokens k r (hrecords ▸ hr) htoken
  · rw [hrecords]
    exact h.attempts k
  · exact h.bounded k r (hrecords ▸ hr)

theorem RepairReserved.moved (h : RepairReserved latest s) (hrecords : s'.records = s.records)
    (hguard : GuardRetains unmarked s.guard s'.guard) : RepairReserved latest s' := by
  intro hactive hrepair
  have hc := hguard.repair hactive hrepair
  obtain ⟨r, hr, htoken, howner, hstate, hlatest⟩ := h hc.active hc.repair
  rw [hrecords, hc.resource, hc.owner, hc.generation]
  refine ⟨r, hr, htoken, howner, hstate, fun hactive => hlatest (hactive.imp_right fun hw => ?_)⟩
  exact (hc.attempted hw).resolve_right id

theorem repairInv_stable : RepairStable (RepairInv latest count) := by
  refine ⟨fun s s' hm h => ?_, fun s s' hm h => ?_, fun s s' hm h => ?_⟩
  · refine ⟨h.toRepairBase.moved hm.records hm.initialized fun k hk => by rw [hm.guard]; exact hk, fun hp => ?_⟩
    rw [hm.repairPoisoned] at hp
    exact (h.reserved hp).moved hm.records (hm.guard ▸ GuardRetains.refl)
  · refine ⟨h.toRepairBase.moved hm.records hm.initialized fun k hk => by rw [hm.guard]; exact hk, fun hp => ?_⟩
    rw [hm.repairPoisoned] at hp
    exact (h.reserved hp).moved hm.records (hm.guard ▸ GuardRetains.refl)
  · refine ⟨h.toRepairBase.moved hm.records hm.initialized hm.guard.fenced, fun hp => ?_⟩
    have hp0 : s.repairPoisoned = false := by
      by_contra hn
      rw [hm.repairPoisoned (by simpa using hn)] at hp
      cases hp
    exact (h.reserved hp0).moved hm.records hm.guard

theorem ServiceMove.withRecord (h : ServiceMove s s') : ServiceMove (s.withRecord k r) (s'.withRecord k r) :=
  ⟨h.guard, by unfold VfsRepairState.withRecord; rw [h.records], h.repairPoisoned, h.pool, h.initialized⟩

theorem PoolMove.withRecord (h : PoolMove s s') : PoolMove (s.withRecord k r) (s'.withRecord k r) :=
  ⟨h.guard, by unfold VfsRepairState.withRecord; rw [h.records], h.repairPoisoned, h.control, h.controlFailed,
    h.writesFenced, h.initialized⟩

theorem GuardMove.withRecord (h : GuardMove s s') : GuardMove (s.withRecord k r) (s'.withRecord k r) :=
  ⟨h.guard, by unfold VfsRepairState.withRecord; rw [h.records], h.repairPoisoned, h.pool, h.control,
    h.controlFailed, h.writesFenced, h.initialized⟩

theorem recordStable (o : Option VfsRepairRecord) : RepairStable fun s => s.records k = o :=
  ⟨fun _ _ hm h => by rw [hm.records]; exact h, fun _ _ hm h => by rw [hm.records]; exact h,
    fun _ _ hm h => by rw [hm.records]; exact h⟩

theorem retainsStable (g : FileObjectGuard) : RepairStable fun s => GuardRetains unmarked g s.guard :=
  ⟨fun _ _ hm h => by rw [hm.guard]; exact h, fun _ _ hm h => by rw [hm.guard]; exact h,
    fun _ _ hm h => h.trans hm.guard⟩

end Stable

section Steps

variable {P : VfsRepairState → Prop} {α : Type} {resource : Nat} {owner : FileObjectOwner}

theorem RepairStable.keeps_service (hP : RepairStable P) {x : Vfs α} (hx : ∀ s, Keeps (ServiceMove s) x) :
    Keeps P x := Keeps.of_moves hx ServiceMove.refl hP.service

theorem RepairStable.keeps_pool (hP : RepairStable P) {x : Vfs α} (hx : ∀ s, Keeps (PoolMove s) x) : Keeps P x :=
  Keeps.of_moves hx PoolMove.refl hP.pool

theorem RepairStable.keeps_guard (hP : RepairStable P) {x : Guard α} (hx : ∀ g, Keeps (GuardRetains unmarked g) x) :
    Keeps P (onGuard x) := Keeps.of_moves (fun _ => onGuard_moves hx) GuardMove.refl hP.guard

theorem RepairStable.keeps_read (hP : RepairStable P) : Keeps P (vfsRepairRead resource) :=
  Keeps.of_moves (fun _ => vfsRepairRead_moves) GuardMove.refl hP.guard

theorem GuardClosed.keeps (hP : GuardClosed P) {x : Guard α} (hx : ∀ g, Keeps (GuardRetains unmarked g) x) :
    Keeps P (onGuard x) := Keeps.of_moves (fun _ => onGuard_moves hx) GuardMove.refl hP

theorem vfsRepairPoison_poisons (hP : GuardClosed P) {Q : α → VfsRepairState → Prop} :
    Triple P (vfsRepairPoison : Vfs α) Q (fun _ s => P s ∧ s.repairPoisoned = true) := by
  have hpoison : GuardClosed fun s => P s ∧ s.repairPoisoned = true := fun s s' hm h =>
    ⟨hP s s' hm h.1, hm.repairPoisoned h.2⟩
  have hset : Triple P (Attempt.modify fun s => { s with repairPoisoned := true } : Vfs Unit)
      (fun _ s => P s ∧ s.repairPoisoned = true) (fun _ s => P s ∧ s.repairPoisoned = true) :=
    Triple.modify fun s hs => ⟨hP s _ ⟨GuardRetains.refl, rfl, fun _ => rfl, rfl, rfl, rfl, rfl, rfl⟩ hs, rfl⟩
  refine Triple.bind hset fun _ => Triple.bind (hpoison.keeps fun g => fileObjectGuardMergeFences_keeps).outcome
    fun _ => Triple.fail fun _ hs => hs

theorem vfsRepairRead_spec (hP : GuardClosed P) :
    Triple P (vfsRepairRead resource)
      (fun o s => P s ∧ s.records resource = o ∧ s.repairPoisoned = false ∧
        ∀ r, o = some r → vfsRepairValid r = true) (fun _ => P) := by
  refine Triple.bind Keeps.refuse fun _ => ?_
  refine Triple.bind (Triple.get (Q := fun s1 s => P s ∧ s = s1) fun s hs => ⟨hs, rfl⟩) fun s1 => ?_
  refine Triple.learn (Triple.refuse (Q := fun _ s => (P s ∧ s = s1) ∧ s1.repairPoisoned = false)
    (fun _ h _ => h.1) fun _ h hn => ⟨h, by simpa using hn⟩) fun _ hhealthy => ?_
  split
  next hnone =>
    refine Triple.pure fun s hs => ⟨hs.1, hs.2 ▸ hnone, hs.2 ▸ hhealthy, fun r hr => by cases hr⟩
  next r hr =>
    refine Triple.ite (fun hok => Triple.pure fun s hs => ?_) fun _ =>
      (vfsRepairPoison_poisons hP).weaken (fun _ h => h.1) (fun _ _ h => h) fun _ _ h => h.1
    exact ⟨hs.1, hs.2 ▸ hr, hs.2 ▸ hhealthy, fun r' hr' => Option.some.inj hr' ▸ hok⟩

theorem vfsRepairRecordRead_spec (hP : GuardClosed P) :
    Triple P (vfsRepairRecordRead resource)
      (fun r s => P s ∧ s.records resource = some r ∧ s.repairPoisoned = false ∧ vfsRepairValid r = true)
      (fun _ => P) := by
  refine Triple.bind (vfsRepairRead_spec hP) fun o => ?_
  cases o with
  | none => exact Triple.fail fun _ h => h.1
  | some r => exact Triple.pure fun s h => ⟨h.1, h.2.1, h.2.2.1, h.2.2.2 r rfl⟩

theorem vfsRepairWrite_over {P' : VfsRepairState → Prop} (hP : ∀ s, P s → P' s) (hP' : GuardClosed P')
    {r : VfsRepairRecord} :
    Triple P (vfsRepairWrite resource r)
      (fun _ s => ∃ s0, P s0 ∧ s = s0.withRecord resource r ∧ s0.repairPoisoned = false)
      (fun _ s => P' s ∧ s.repairPoisoned = true) := by
  refine Triple.bind (Triple.get (Q := fun s1 s => P s ∧ s = s1) fun s hs => ⟨hs, rfl⟩) fun s1 => ?_
  refine Triple.bind (Triple.draw (Q := fun _ s => P s ∧ s = s1) fun _ s hs => hs) fun stored => ?_
  refine Triple.ite (fun _ => (vfsRepairPoison_poisons hP').pre fun s h => hP s h.1) fun hn => ?_
  refine Triple.modify fun s hs => ⟨s, hs.1, rfl, ?_⟩
  rw [hs.2]
  by_contra hpoisoned
  exact hn (Or.inl (by simpa using hpoisoned))

theorem vfsRepairWrite_spec (hP : GuardClosed P) {r : VfsRepairRecord} :
    Triple P (vfsRepairWrite resource r)
      (fun _ s => ∃ s0, P s0 ∧ s = s0.withRecord resource r ∧ s0.repairPoisoned = false)
      (fun _ s => P s ∧ s.repairPoisoned = true) := vfsRepairWrite_over (fun _ h => h) hP

end Steps

section Rewritten

variable {latest : Option BegunRepair} {count : Nat → Nat} {s : VfsRepairState} {k : Nat} {r r' : VfsRepairRecord}

theorem RepairBase.rewritten (h : RepairBase count s)
    (hfenced : r'.state = .active ∨ r'.state = .failed → Names s.guard.control.fenced k)
    (htoken : r'.token ≠ 0 → k < maxDrives ∧ s.initialized = true)
    (hattempts : count k ≤ r'.attempts.toNat) (hbound : r'.attempts.toNat ≤ 3) :
    RepairBase count (s.withRecord k r') := by
  have hget : ∀ j r, (s.withRecord k r').records j = some r → (j = k ∧ r = r') ∨ s.records j = some r := by
    intro j r hr
    by_cases hj : j = k
    · subst hj
      rw [withRecord_self] at hr
      exact Or.inl ⟨rfl, (Option.some.inj hr).symm⟩
    · rw [withRecord_other s hj] at hr
      exact Or.inr hr
  refine ⟨fun j r hr hstate => ?_, fun j r hr ht => ?_, fun j => ?_, fun j r hr => ?_⟩
  · rcases hget j r hr with ⟨rfl, rfl⟩ | hr
    · exact hfenced hstate
    · exact h.fenced j r hr hstate
  · rcases hget j r hr with ⟨rfl, rfl⟩ | hr
    · exact htoken ht
    · exact h.tokens j r hr ht
  · by_cases hj : j = k
    · subst hj
      rw [withRecord_self]
      exact hattempts
    · rw [withRecord_other s hj]
      exact h.attempts j
  · rcases hget j r hr with ⟨rfl, rfl⟩ | hr
    · exact hbound
    · exact h.bounded j r hr

theorem RepairReserved.rewritten
    (hother : s.guard.control.resource ≠ k → RepairReserved latest s)
    (hown : s.guard.control.active = true → s.guard.control.mode = .repair → s.guard.control.resource = k →
      r'.token = s.guard.control.generation ∧ r'.owner = s.guard.control.owner ∧
      (r'.state = .active ∨ r'.state = .failed) ∧
      (r'.state = .active ∨ s.guard.control.attempted = true →
        latest = some ⟨s.guard.control.resource, s.guard.control.owner, s.guard.control.generation⟩)) :
    RepairReserved latest (s.withRecord k r') := by
  intro hactive hrepair
  show ∃ r, (s.withRecord k r').records s.guard.control.resource = some r ∧ _
  by_cases hk : s.guard.control.resource = k
  · exact ⟨r', by rw [hk]; exact withRecord_self s k r', hown hactive hrepair hk⟩
  · obtain ⟨r, hr, hrest⟩ := hother hk hactive hrepair
    exact ⟨r, by rw [withRecord_other s hk]; exact hr, hrest⟩

theorem RepairInv.succeeded (h : RepairInv latest count s) (hr : s.records k = some r)
    (htoken : r'.token = r.token) (howner : r'.owner = r.owner) (hattempts : r'.attempts = r.attempts)
    (hstate : r'.state ≠ .active)
    (hfailed : r'.state = .failed ↔ r.state = .active ∨ r.state = .failed) :
    RepairInv latest count (s.withRecord k r') := by
  have hrepair : r'.state = .active ∨ r'.state = .failed → r.state = .active ∨ r.state = .failed :=
    fun hs => hfailed.mp (hs.resolve_left hstate)
  have hcount := h.attempts k
  rw [hr] at hcount
  refine ⟨h.toRepairBase.rewritten (fun hs => h.fenced k r hr (hrepair hs)) ?_ ?_ ?_, fun hp => ?_⟩
  · rw [htoken]
    exact h.tokens k r hr
  · rw [hattempts]
    exact hcount
  · rw [hattempts]
    exact h.bounded k r hr
  · refine RepairReserved.rewritten (fun _ => h.reserved hp) fun hactive hmode hk => ?_
    obtain ⟨r1, hr1, htoken1, howner1, hstate1, hlatest1⟩ := h.reserved hp hactive hmode
    rw [hk, hr] at hr1
    obtain rfl : r = r1 := Option.some.inj hr1
    refine ⟨htoken.trans htoken1, howner.trans howner1, Or.inr (hfailed.mpr hstate1), fun hw => ?_⟩
    exact hlatest1 (Or.inr (hw.resolve_left hstate))

end Rewritten

/-- What every call of the guard keeps, whether or not it marks a journal write. -/
def GuardStable (X : FileObjectGuard → Prop) : Prop := ∀ M g g', GuardRetains M g g' → X g → X g'

def RepairHolds (latest : Option BegunRepair) (count : Nat → Nat) (X : FileObjectGuard → Prop)
    (s : VfsRepairState) : Prop := RepairInv latest count s ∧ X s.guard

section Keeps

variable {latest : Option BegunRepair} {count : Nat → Nat} {X : FileObjectGuard → Prop} {resource : Nat}
  {owner : FileObjectOwner}

theorem guardStable (hX : GuardStable X) : RepairStable fun s => X s.guard :=
  ⟨fun _ _ hm h => by rw [hm.guard]; exact h, fun _ _ hm h => by rw [hm.guard]; exact h,
    fun _ _ hm h => hX _ _ _ hm.guard h⟩

theorem holds_stable (latest : Option BegunRepair) (count : Nat → Nat) (hX : GuardStable X) :
    RepairStable (RepairHolds latest count X) :=
  repairInv_stable.and (guardStable hX)

theorem vfsRepairRevoke_keeps (hX : GuardStable X) :
    Keeps (RepairHolds latest count X) (vfsRepairRevoke resource) := by
  have hstable := holds_stable latest count hX
  refine Triple.bind (vfsRepairRead_spec hstable.guard) fun o => ?_
  cases o with
  | none => exact Triple.pure fun _ h => h.1
  | some r =>
    refine Triple.ite (fun _ => Triple.pure fun _ h => h.1) fun hstate => Triple.ite (fun _ => ?_) fun _ => ?_
    · exact (vfsRepairPoison_poisons hstable.guard).weaken (fun _ h => h.1) (fun _ _ h => h) fun _ _ h => h.1
    · refine ((vfsRepairWrite_spec (hstable.and (recordStable (some r))).guard).weaken
        (fun s h => ⟨h.1, h.2.1⟩) (fun _ s h => ?_) fun _ _ h => h.1.1)
      obtain ⟨s0, ⟨hinv, hr⟩, rfl, -⟩ := h
      have hrevoked : r.state ≠ .revoked ∧ r.state ≠ .failed := not_or.mp hstate
      refine ⟨hinv.1.succeeded hr rfl rfl rfl ?_ ?_, hinv.2⟩
      · unfold VfsRepairRecord.revoked
        dsimp only
        split <;> decide
      · unfold VfsRepairRecord.revoked
        split
        next ha => simp [ha]
        next ha => simp [ha, hrevoked.2]

theorem vfsRepairRemember_keeps {required : Bool} (hX : GuardStable X) :
    Keeps (RepairHolds latest count X) (vfsRepairRemember resource owner required) := by
  have hstable := holds_stable latest count hX
  refine Keeps.draw.bind fun external => Keeps.ite (fun _ => ?_) fun _ => Keeps.refuse
  refine Keeps.draw.bind fun extent => Keeps.draw.bind fun geometry => Keeps.draw.bind fun fingerprint => ?_
  refine Keeps.draw.bind fun fits => ?_
  split
  next extent geometry fingerprint =>
    refine Keeps.refuse.bind fun _ => Triple.bind (vfsRepairRead_spec hstable.guard) fun old => ?_
    refine Triple.learn (Triple.refuse (Q := fun _ s => (RepairHolds latest count X s ∧ s.records resource = old) ∧
      rememberRefused old (rememberedRecord old extent geometry fingerprint owner) = false)
      (fun _ h _ => h.1) fun _ h hn => ⟨⟨h.1, h.2.1⟩, by simpa using hn⟩) fun _ hold => ?_
    refine (vfsRepairWrite_spec (hstable.and (recordStable old)).guard).ends
      (fun _ s h => ?_) fun _ _ h => h.1.1
    obtain ⟨s0, ⟨⟨hinv, hx⟩, hr⟩, rfl, -⟩ := h
    have hidle : ∀ r, old = some r → ¬ (r.state = .active ∨ r.state = .failed) := by
      intro r hr hstate
      subst hr
      unfold rememberRefused at hold
      rcases hstate with hstate | hstate <;> simp [hstate] at hold
    have hcount : count resource ≤ (rememberedRecord old extent geometry fingerprint owner).attempts.toNat := by
      have hc := hinv.attempts resource
      rw [hr] at hc
      cases old with
      | none => exact hc
      | some r => exact hc
    have hbound : (rememberedRecord old extent geometry fingerprint owner).attempts.toNat ≤ 3 := by
      cases old with
      | none => exact Nat.zero_le 3
      | some r => exact hinv.bounded resource r hr
    refine ⟨⟨hinv.toRepairBase.rewritten (fun hs => absurd hs (by simp [rememberedRecord]))
      (fun ht => absurd rfl ht) hcount hbound, fun hp => ?_⟩, hx⟩
    refine RepairReserved.rewritten (fun _ => hinv.reserved hp) fun hactive hmode hk => ?_
    obtain ⟨r, hr1, -, -, hstate, -⟩ := hinv.reserved hp hactive hmode
    rw [hk, hr] at hr1
    exact absurd hstate (hidle r hr1)
  next => exact Keeps.fail

variable {P : VfsRepairState → Prop} {deadlineMs : Option UInt64}

theorem pendingMedia_keeps (hP : RepairStable P) {mask : VfsRepairState → UInt32} :
    Keeps P (Attempt.modify fun s => { s with pendingMedia := mask s } : Vfs Unit) :=
  Keeps.modify fun s hs => hP.service s _ ⟨rfl, rfl, rfl, rfl, rfl⟩ hs

theorem vfsGuardApplyMediaChanges_keeps (hX : GuardStable X) :
    Keeps (RepairHolds latest count X) vfsGuardApplyMediaChanges := by
  have hstable := holds_stable latest count hX
  refine Keeps.get.bind fun s => Keeps.refuse.bind fun _ => ?_
  refine (hstable.keeps_pool fun _ => mutationFencesRead_moves).outcome.bind fun fences => ?_
  refine (hstable.keeps_guard fun _ => fileObjectGuardMergeFences_keeps).bind fun _ => ?_
  refine Keeps.bind ?_ fun _ => Keeps.forEach fun resource _ => ?_
  · cases fences with
    | ok mask => exact Keeps.pure
    | error e => exact Keeps.fail
  · refine Keeps.get.bind fun s => Keeps.ite (fun _ => ?_) fun _ => Keeps.pure
    refine (hstable.keeps_guard fun _ => fileObjectGuardRevokeMedia_keeps).bind fun _ => ?_
    exact (vfsRepairRevoke_keeps hX).bind fun _ => pendingMedia_keeps hstable

theorem guardPublishFences_keeps (hP : RepairStable P) :
    Keeps P guardPublishFences := by
  have hloop : ∀ mask, Keeps P (Attempt.forEach (publishFence mask) (List.range fileObjectGuardResources)) :=
    fun mask => Keeps.forEach fun _ _ => hP.keeps_service fun _ => publishFence_moves
  refine (hP.keeps_guard fun _ => fileObjectGuardFenced_keeps).outcome.bind fun fences => ?_
  split
  · exact Keeps.pure
  · exact hloop _
  · exact Keeps.bind (Keeps.modify fun s hs => hP.service s _ ⟨rfl, rfl, rfl, rfl, rfl⟩ hs) fun _ => hloop _

theorem vfsOperationEnd_keeps {E : Errno → VfsRepairState → Prop} (h : Keeps P guardPublishFences) :
    Triple P vfsOperationEnd (fun _ => P) E :=
  Triple.bind h.ignored fun _ => Triple.ret

theorem vfsOperationBegin_keeps (hX : GuardStable X) :
    Keeps (RepairHolds latest count X) (vfsOperationBegin deadlineMs) := by
  refine Keeps.draw.bind fun _ => Keeps.refuse.bind fun _ => Keeps.draw.bind fun _ => Keeps.refuse.bind fun _ => ?_
  refine Keeps.draw.bind fun _ => ?_
  refine (Keeps.ite (fun _ => Keeps.fail) fun _ => vfsGuardApplyMediaChanges_keeps hX).outcome.bind fun applied => ?_
  cases applied with
  | ok _ => exact Keeps.pure
  | error e =>
    exact Triple.bind (vfsOperationEnd_keeps (guardPublishFences_keeps (holds_stable _ _ hX))) fun _ => Keeps.fail

theorem vfsOperation_keeps {α : Type} {x : Vfs α} (hX : GuardStable X)
    (hx : Keeps (RepairHolds latest count X) x) :
    Keeps (RepairHolds latest count X) (vfsOperation deadlineMs x) :=
  (vfsOperationBegin_keeps hX).bind fun _ => hx.outcome.bind fun _ =>
    Triple.bind (vfsOperationEnd_keeps (guardPublishFences_keeps (holds_stable _ _ hX))) fun _ => Keeps.ofExcept

end Keeps

variable {latest : Option BegunRepair} {count : Nat → Nat} {X : FileObjectGuard → Prop}
  {q : StorageJournalRequest} {owner : FileObjectOwner}

def latestMarks (latest : Option BegunRepair) : FileObjectOwner → UInt32 → Nat → Prop :=
  fun owner token resource => latest = some ⟨resource, owner, token⟩

/-- A repair under the guard's reservation may be written to. -/
def Markable (latest : Option BegunRepair) (q : StorageJournalRequest) (owner : FileObjectOwner)
    (g : FileObjectGuard) : Prop :=
  g.control.active = true → g.control.mode = .repair → latest = some ⟨q.resource, owner, q.token⟩

variable {s : VfsRepairState} {g : FileObjectGuard} {Y : FileObjectGuard → Prop} {token : UInt32}

theorem RepairHolds.marked (hX : GuardStable X) (h : RepairHolds latest count X s)
    (hg : GuardRetains (latestMarks latest) s.guard g) :
    RepairHolds latest count X { s with guard := g } := by
  refine ⟨⟨h.1.toRepairBase.moved rfl rfl hg.fenced, fun hp hactive hrepair => ?_⟩, hX _ _ _ hg h.2⟩
  have hc := hg.repair hactive hrepair
  obtain ⟨r, hr, htoken, howner, hstate, hlatest⟩ := h.1.reserved hp hc.active hc.repair
  show ∃ r, s.records g.control.resource = some r ∧ r.token = g.control.generation ∧ r.owner = g.control.owner ∧
    (r.state = .active ∨ r.state = .failed) ∧ (r.state = .active ∨ g.control.attempted = true →
      latest = some ⟨g.control.resource, g.control.owner, g.control.generation⟩)
  rw [hc.resource, hc.owner, hc.generation]
  refine ⟨r, hr, htoken, howner, hstate, fun hw => ?_⟩
  rcases hw with hw | hw
  · exact hlatest (Or.inl hw)
  · exact (hc.attempted hw).elim (fun hold => hlatest (Or.inr hold)) id

/-- The reservation a journal request speaks of is on the resource it names. -/
def Located (q : StorageJournalRequest) (g : FileObjectGuard) : Prop :=
  g.control.active = true → g.control.mode = .repair → g.control.generation = q.token →
    g.control.resource = q.resource

theorem located_stable : GuardStable (Located q) := by
  intro M g g' hg h hactive hrepair htoken
  have hc := hg.repair hactive hrepair
  rw [hc.resource]
  exact h hc.active hc.repair (hc.generation ▸ htoken)

theorem GuardStable.and {X : FileObjectGuard → Prop} (hX : GuardStable X) (hY : GuardStable Y) :
    GuardStable fun g => X g ∧ Y g := fun M g g' hg h => ⟨hX M g g' hg h.1, hY M g g' hg h.2⟩

theorem RepairHolds.left (h : RepairHolds latest count (fun g => X g ∧ Y g) s) :
    RepairHolds latest count X s := ⟨h.1, h.2.1⟩

theorem onGuard_shows {α : Type} {P : VfsRepairState → Prop} (hP : RepairStable P) {x : Guard α}
    {Q : α → FileObjectGuard → Prop}
    (hx : ∀ g, Triple (GuardRetains unmarked g) x (fun a g' => GuardRetains unmarked g g' ∧ Q a g')
      (fun _ => GuardRetains unmarked g)) :
    Triple P (onGuard x) (fun a s => P s ∧ Q a s.guard) (fun _ => P) := by
  have hmove : ∀ s g, P s → GuardRetains unmarked s.guard g → P { s with guard := g } := fun s g h hg =>
    hP.guard s _ ⟨hg, rfl, fun hp => hp, rfl, rfl, rfl, rfl, rfl⟩ h
  refine Triple.zoom fun s hs => ?_
  exact (hx s.guard).weaken (fun g hg => hg ▸ GuardRetains.refl) (fun _ g hg => ⟨hmove s g hs hg.1, hg.2⟩)
    fun _ g hg => hmove s g hs hg

theorem fileObjectGuardJournalProbe_reserved {resource : Nat} {nowMs : UInt64} :
    Triple (GuardRetains unmarked g) (fileObjectGuardJournalProbe owner token resource nowMs)
      (fun context g' => GuardRetains unmarked g g' ∧ g'.Reserved owner token resource ∧ context = g'.control.context)
      (fun _ => GuardRetains unmarked g) :=
  Triple.bind (guardJournalIo_marks.pre fun _ h => ⟨h, nofun⟩) fun _ =>
    Triple.pure fun _ hs => hs

theorem vfsRepairAccess_markable (hX : GuardStable X) {g1 : FileObjectGuard}
    (hg1 : g1.Reserved owner q.token q.resource) :
    Triple (fun s => RepairHolds latest count X s ∧ GuardRetains unmarked g1 s.guard) (vfsRepairAccess q owner)
      (fun _ s => RepairHolds latest count X s ∧ Markable latest q owner s.guard)
      (fun _ => RepairHolds latest count X) := by
  have hstable : RepairStable fun s => RepairHolds latest count X s ∧ GuardRetains unmarked g1 s.guard :=
    (holds_stable _ _ hX).and (retainsStable g1)
  refine Triple.bind ((vfsRepairRecordRead_spec hstable.guard).errors fun _ _ h => h.1)
    fun r => Triple.drawn fun now => ?_
  refine Triple.learn (Triple.refuse (Q := fun _ s => ((RepairHolds latest count X s ∧ GuardRetains unmarked g1 s.guard) ∧
    s.records q.resource = some r ∧ s.repairPoisoned = false) ∧ r.state = .active) (fun _ h _ => h.1.1)
    fun s h hn => ⟨⟨h.1, h.2.1, h.2.2.1⟩, not_not.mp fun ha => hn (Or.inl ha)⟩) fun _ hactive => ?_
  have hservice : ∀ s s' : VfsRepairState, ServiceMove s s' →
      ((RepairHolds latest count X s ∧ GuardRetains unmarked g1 s.guard) ∧ s.records q.resource = some r ∧
        s.repairPoisoned = false) →
      ((RepairHolds latest count X s' ∧ GuardRetains unmarked g1 s'.guard) ∧ s'.records q.resource = some r ∧
        s'.repairPoisoned = false) := fun s s' hm h =>
    ⟨hstable.service s s' hm h.1, by rw [hm.records]; exact h.2.1, by rw [hm.repairPoisoned]; exact h.2.2⟩
  refine Triple.bind ((Keeps.of_moves (fun _ => serviceAuthorized_moves) ServiceMove.refl hservice).triple
    fun _ _ h => h.1.1) fun authorized => Triple.drawn fun expected => ?_
  refine Triple.bind (Keeps.refuse.triple fun _ _ h => h.1.1) fun _ => ?_
  refine Triple.ofExcept (fun _ s _ h => ⟨h.1.1, fun ha hm => ?_⟩) fun _ _ _ h => h.1.1
  have hc := h.1.2.repair ha hm
  obtain ⟨r1, hr1, -, -, -, hlatest⟩ := h.1.1.1.reserved h.2.2 ha hm
  rw [hc.resource, hg1.resource, h.2.1] at hr1
  obtain rfl : r = r1 := Option.some.inj hr1
  rw [hlatest (Or.inl hactive), hc.resource, hc.owner, hc.generation, hg1.resource, hg1.owner, hg1.generation]

theorem journalAuthorizeContext_markable (hX : GuardStable X) :
    Triple (RepairHolds latest count X) (journalAuthorizeContext q owner)
      (fun _ s => RepairHolds latest count (fun g => X g ∧ Located q g) s ∧ Markable latest q owner s.guard)
      (fun _ => RepairHolds latest count X) := by
  have hstable := holds_stable latest count hX
  have hboth : GuardStable fun g => X g ∧ Located q g := hX.and located_stable
  refine Triple.bind Keeps.refuse fun _ => Triple.drawn fun _ => ?_
  refine Triple.bind Keeps.refuse fun _ => ?_
  refine Triple.bind (vfsGuardApplyMediaChanges_keeps hX) fun _ => Triple.drawn fun now => ?_
  refine Triple.bind (onGuard_shows hstable fun _ => fileObjectGuardJournalProbe_reserved) fun context => ?_
  refine Triple.start fun s1 h1 => ?_
  obtain ⟨hfirst, hreserved, hcontext⟩ := h1
  have hholds : RepairHolds latest count (fun g => X g ∧ Located q g) s1 :=
    ⟨hfirst.1, hfirst.2, fun _ _ _ => hreserved.resource⟩
  have hrest : Triple (· = s1) (if context.repair then vfsRepairAccess q owner
      else if context.request ≠ 0 then do
        let allowed ← draw VfsAnswers.verdict
        ofExcept allowed
      else pure ()) (fun _ s => RepairHolds latest count (fun g => X g ∧ Located q g) s ∧
        Markable latest q owner s.guard) (fun _ => RepairHolds latest count X) := by
    refine Triple.ite (fun _ => ?_) fun hordinary => ?_
    · refine (vfsRepairAccess_markable hboth hreserved).weaken (fun s hs => ?_) (fun _ _ h => h) fun _ _ h => h.left
      rw [hs]
      exact ⟨hholds, GuardRetains.refl⟩
    · have hmark : Markable latest q owner s1.guard := by
        intro _ hrepair
        rw [hcontext] at hordinary
        exact absurd (by simp [GuardControl.context, hrepair]) hordinary
      refine Triple.ite (fun _ => ?_) fun _ => Triple.pure fun s hs => hs ▸ ⟨hholds, hmark⟩
      refine Triple.bind (Triple.draw fun _ s hs => hs) fun allowed => ?_
      exact Triple.ofExcept (fun _ s _ hs => hs ▸ ⟨hholds, hmark⟩) fun _ s _ hs => hs ▸ hfirst
  exact Triple.bind hrest fun _ => Triple.ret

theorem journalAuthorized_keeps (hX : GuardStable X) {effect : Bool} :
    Keeps (RepairHolds latest count X) (journalAuthorized q owner effect) := by
  refine Triple.bind (journalAuthorizeContext_markable hX) fun context => ?_
  refine Triple.ite (fun _ => Triple.pure fun _ h => h.1.left) fun _ => ?_
  refine Triple.drawn fun now => Triple.bind (Q := fun _ => RepairHolds latest count X)
    (Triple.zoom fun s hs => ?_) fun _ => Triple.ret
  have hmarks : Triple (fun g => g = s.guard) (fileObjectGuardJournalIo owner q.token q.resource .write now)
      (fun p g => GuardRetains (latestMarks latest) s.guard g ∧ g.Reserved owner q.token q.resource ∧ p.2 = g.control.context)
      (fun _ => GuardRetains (latestMarks latest) s.guard) := by
    refine guardJournalIo_marks.pre fun g hg => ?_
    rw [hg]
    exact ⟨GuardRetains.refl, fun _ ha hm => hs.2 ha hm⟩
  exact hmarks.ends (fun _ g hg => hs.1.left.marked hX hg.1) fun _ g hg => hs.1.left.marked hX hg

theorem journalIoComplete_keeps (hX : GuardStable X) :
    Keeps (RepairHolds latest count X) (journalIoComplete q owner) := by
  refine (journalAuthorized_keeps hX).bind fun _ => Keeps.guard fun _ => Keeps.draw.bind fun _ => ?_
  exact ((holds_stable _ _ hX).keeps_guard fun _ => guardJournalIo_keeps (by decide)).bind fun _ => Keeps.pure

theorem journalDevice_keeps (hX : GuardStable X) : Keeps (RepairHolds latest count X) (journalDevice q owner) := by
  refine Keeps.draw.bind fun commands => ((holds_stable _ _ hX).keeps_service fun _ => deviceCall_moves).bind fun _ => ?_
  refine (Keeps.forEach fun effect _ => journalAuthorized_keeps hX).bind fun _ => Keeps.draw.bind fun result => ?_
  exact Keeps.ofExcept.bind fun _ => journalIoComplete_keeps hX

theorem fileObjectGuardContext_shows :
    Triple (GuardRetains unmarked g) (fileObjectGuardContext owner token)
      (fun context g' => GuardRetains unmarked g g' ∧ g'.Reserved owner token g'.control.resource ∧
        context = g'.control.context) (fun _ => GuardRetains unmarked g) := fileObjectGuardContext_reserved

theorem RepairStable.record_of (s1 : VfsRepairState) {k : Nat} : RepairStable fun s =>
    s.records k = s1.records k ∧ (s.repairPoisoned = false → s1.repairPoisoned = false) := by
  refine ⟨fun s s' hm h => ?_, fun s s' hm h => ?_, fun s s' hm h => ⟨by rw [hm.records]; exact h.1, fun hp => h.2 ?_⟩⟩
  · rw [hm.records, hm.repairPoisoned]
    exact h
  · rw [hm.records, hm.repairPoisoned]
    exact h
  · by_contra hn
    rw [hm.repairPoisoned (by simpa using hn)] at hp
    cases hp

theorem journalAbort_keeps (hX : GuardStable X) :
    Keeps (RepairHolds latest count fun g => X g ∧ Located q g) (journalAbort q owner) := by
  have hstable : RepairStable (RepairHolds latest count fun g => X g ∧ Located q g) :=
    holds_stable _ _ (hX.and located_stable)
  refine Triple.bind (onGuard_shows hstable fun _ => fileObjectGuardContext_shows) fun context => ?_
  refine Triple.ite (fun hrepair => Triple.start fun s1 h1 => ?_) fun _ => ?_
  · obtain ⟨hholds, hreserved, hcontext⟩ := h1
    have hmode : s1.guard.control.mode = .repair := by
      rw [hcontext] at hrepair
      simpa [GuardControl.context] using hrepair
    have hplace : s1.guard.control.resource = q.resource :=
      hholds.2.2 hreserved.active hmode hreserved.generation
    refine Triple.bind ((vfsRepairRecordRead_spec (hstable.and (RepairStable.record_of s1 (k := q.resource))).guard).weaken
      (fun s hs => ?_) (fun _ _ h => h) fun _ _ h => h.1) fun r => ?_
    · rw [hs]
      exact ⟨hholds, rfl, fun h => h⟩
    have hwrite : Triple (fun s => (RepairHolds latest count (fun g => X g ∧ Located q g) s ∧
        s.records q.resource = s1.records q.resource ∧ (s.repairPoisoned = false → s1.repairPoisoned = false)) ∧
        s.records q.resource = some r ∧ s.repairPoisoned = false ∧ vfsRepairValid r = true)
        (vfsRepairWrite q.resource { r with state := .failed })
        (fun _ => RepairHolds latest count fun g => X g ∧ Located q g)
        (fun _ => RepairHolds latest count fun g => X g ∧ Located q g) := by
      refine Triple.start fun s2 h2 => ?_
      obtain ⟨⟨hholds2, hsame, hhealthy⟩, hr, hp, -⟩ := h2
      obtain ⟨r1, hr1, -, -, hstate, -⟩ := hholds.1.reserved (hhealthy hp) hreserved.active hmode
      rw [hplace, ← hsame, hr] at hr1
      obtain rfl : r = r1 := Option.some.inj hr1
      refine (vfsRepairWrite_spec (hstable.and (recordStable (k := q.resource) (some r))).guard).weaken
        (fun s hs => ?_) (fun _ s h => ?_) fun _ _ h => h.1.1
      · rw [hs]
        exact ⟨hholds2, hr⟩
      · obtain ⟨s0, ⟨hinv, hr0⟩, rfl, -⟩ := h
        exact ⟨hinv.1.succeeded hr0 rfl rfl rfl (by simp) ⟨fun _ => hstate, fun _ => rfl⟩, hinv.2⟩
    refine Triple.bind (Triple.outcome (Q := fun _ => RepairHolds latest count fun g => X g ∧ Located q g) hwrite)
      fun written => Triple.drawn fun now => ?_
    refine Triple.bind (hstable.keeps_guard fun _ => fileObjectGuardRepairFinish_keeps).outcome fun _ => ?_
    exact Triple.bind (Keeps.ofExcept.post fun _ _ h => h) fun _ => Triple.ret
  · refine Triple.pre ?_ (fun _ h => h.1)
    refine Triple.ite (fun _ => ?_) fun _ => Triple.drawn fun now => ?_
    · exact (hstable.keeps_guard fun _ => fileObjectGuardCancelUndelivered_keeps).bind fun _ => Keeps.pure
    · exact (hstable.keeps_guard fun _ => fileObjectGuardEnd_keeps).bind fun _ => Keeps.pure

theorem storageJournalIo_keeps (hX : GuardStable X) :
    Keeps (RepairHolds latest count X) (storageJournalIo q owner) := by
  have hstable := holds_stable latest count hX
  refine (hstable.keeps_service fun _ => serviceAuthorized_moves).bind fun _ => Keeps.refuse.bind fun _ => ?_
  refine Keeps.refuse.bind fun _ => Keeps.draw.bind fun _ => Keeps.refuse.bind fun _ => Keeps.draw.bind fun _ => ?_
  refine (hstable.keeps_guard fun _ => guardJournalIo_keeps (by decide)).bind fun _ => vfsOperation_keeps hX ?_
  have htransfer : Keeps (RepairHolds latest count fun g => X g ∧ Located q g) (journalTransfer q owner) := by
    have hboth : GuardStable fun g => X g ∧ Located q g := hX.and located_stable
    refine (journalDevice_keeps hboth).outcome.bind fun result => ?_
    cases result with
    | ok _ => exact Keeps.pure
    | error e =>
      refine (journalAbort_keeps hX).outcome.bind fun aborted => Keeps.bind ?_ fun _ => Keeps.fail
      split
      · exact Keeps.pure
      · exact ((holds_stable _ _ hboth).keeps_service fun _ => reportMediaFailure_moves).bind fun _ => Keeps.pure
  have hbegin : Triple (RepairHolds latest count X) (journalIoBegin q owner)
      (fun _ => RepairHolds latest count fun g => X g ∧ Located q g) (fun _ => RepairHolds latest count X) := by
    refine Triple.bind (journalAuthorizeContext_markable hX) fun context => Triple.pre ?_ (fun _ h => h.1)
    have hmount : Keeps (RepairHolds latest count fun g => X g ∧ Located q g)
        (if context.repair then pure () else do
          let mounted ← draw VfsAnswers.verdict
          ofExcept mounted) := Keeps.guard fun _ => Keeps.draw.bind fun _ => Keeps.ofExcept
    refine Triple.bind (hmount.triple fun _ _ h => h.left) fun _ => Triple.drawn fun _ => ?_
    exact Triple.bind (Keeps.refuse.triple fun _ _ h => h.left) fun _ => Triple.ret
  refine Triple.bind hbegin fun context => Triple.drawn fun _ => ?_
  refine Triple.bind (Keeps.refuse.triple fun _ _ h => h.left) fun _ => Triple.drawn fun _ => ?_
  refine Triple.bind (Keeps.refuse.triple fun _ _ h => h.left) fun _ => ?_
  exact htransfer.ends (fun _ _ h => h.left) fun _ _ h => h.left

end ReistOs
