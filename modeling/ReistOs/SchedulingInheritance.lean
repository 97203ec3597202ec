import ReistOs.SchedulingPolicy

/-! The effective classes that `kernel/sched/scheduler.c` derives from its task table. -/

namespace ReistOs.Scheduling

open Relation

inductive TaskStatus where
  | ready | running | sleeping | finished | waiting | reaping | handoff | prepared
  | terminationPending | terminating
  deriving DecidableEq

structure Process where
  pid : Int
  generation : UInt32
  deriving DecidableEq

structure Task where
  status : TaskStatus
  process : Option Process
  processGeneration : UInt32
  schedulingClass : Nat
  effectiveSchedulingClass : Nat := classAmbient
  budgetRemaining : Nat := schedulerPolicyBudget classAmbient
  blockedOwnerTask : Int := -1
  blockedOwnerGeneration : UInt32 := 0

def Task.runnable (task : Task) : Bool := task.status = .ready || task.status = .running

def Task.blocked (task : Task) : Bool := task.status = .waiting || task.status = .sleeping

def Task.baseClass (task : Task) : Nat := validClass task.schedulingClass

variable (tasks : Nat → Task) (numTasks : Nat)

/-- The entry of `owners` for one task. -/
def inheritanceOwner (index : Nat) : Int :=
  let owner := (tasks index).blockedOwnerTask
  if (tasks index).blocked ∧ 0 ≤ owner ∧ owner < numTasks ∧
      (tasks owner.toNat).processGeneration = (tasks index).blockedOwnerGeneration ∧
      (tasks owner.toNat).runnable then owner
  else -1

def refreshEffectiveClassesLocked (index : Nat) : Task :=
  let effective := schedulerPolicyInherit (inheritanceOwner tasks numTasks) numTasks (fun _ => 0)
    (fun i => (tasks i).schedulingClass) index
  if index < numTasks ∧ (tasks index).effectiveSchedulingClass ≠ effective then
    { tasks index with
      effectiveSchedulingClass := effective
      budgetRemaining := schedulerPolicyBudget effective }
  else tasks index

def schedulerSetWaitOwnerLocked (currentTask pid : Int) (generation : UInt32) :
    Option (Nat → Task) :=
  if pid ≤ 0 ∨ generation = 0 ∨ currentTask < 0 ∨ numTasks ≤ currentTask then none
  else
    let accepted := (List.range numTasks).find? fun (owner : Nat) =>
      owner ≠ currentTask ∧ (tasks owner).process = some ⟨pid, generation⟩ ∧
        (tasks owner).processGeneration = generation ∧ (tasks owner).runnable
    accepted.map fun owner => Function.update tasks currentTask.toNat
      { tasks currentTask.toNat with
        blockedOwnerTask := owner
        blockedOwnerGeneration := generation }

/-- A blocking call: the owner is recorded, then `wait_queue_block_until_task_locked` blocks. -/
def waitForOwner (currentTask pid : Int) (generation : UInt32) : Option (Nat → Task) :=
  (schedulerSetWaitOwnerLocked tasks numTasks currentTask pid generation).map fun owned =>
    Function.update owned currentTask.toNat
      { owned currentTask.toNat with
        status := .waiting }

def WaitsFor (waiter owner : Nat) : Prop :=
  (tasks waiter).blocked ∧ (tasks waiter).blockedOwnerTask = owner ∧ owner < numTasks ∧
    (tasks owner).processGeneration = (tasks waiter).blockedOwnerGeneration

/-- A runnable task has the greatest base class of all tasks that wait for it, through any number
of owners, itself among them. -/
def InheritsTransitively : Prop :=
  ∀ i < numTasks, (tasks i).runnable →
    IsGreatest {c | ∃ j < numTasks, ReflTransGen (WaitsFor tasks numTasks) j i ∧
        c = (tasks j).baseClass}
      (refreshEffectiveClassesLocked tasks numTasks i).effectiveSchedulingClass

/-- No waiter behind another waiter has a greater class than the end of the chain and all that
wait for it directly. -/
def DirectWaitersLead : Prop :=
  ∀ i < numTasks, (tasks i).runnable →
    ∀ j < numTasks, ReflTransGen (WaitsFor tasks numTasks) j i →
      ∃ k < numTasks, (k = i ∨ WaitsFor tasks numTasks k i) ∧
        (tasks j).baseClass ≤ (tasks k).baseClass

variable {tasks} {numTasks} {i j waiter owner : Nat}

theorem not_blocked_of_runnable (h : (tasks i).runnable) : ¬ (tasks i).blocked := by
  intro hb
  unfold Task.runnable at h
  unfold Task.blocked at hb
  cases hs : (tasks i).status <;> simp [hs] at h hb

theorem refresh_effective (hi : i < numTasks) :
    (refreshEffectiveClassesLocked tasks numTasks i).effectiveSchedulingClass =
      schedulerPolicyInherit (inheritanceOwner tasks numTasks) numTasks (fun _ => 0)
        (fun i => (tasks i).schedulingClass) i := by
  unfold refreshEffectiveClassesLocked
  dsimp only
  split
  next => rfl
  next hsame =>
    by_contra hne
    exact hsame ⟨hi, hne⟩

theorem inheritanceOwner_eq :
    inheritanceOwner tasks numTasks waiter = owner ↔
      WaitsFor tasks numTasks waiter owner ∧ (tasks owner).runnable := by
  unfold inheritanceOwner WaitsFor
  dsimp only
  constructor
  · intro h
    split at h
    next hkept =>
      obtain ⟨hb, hpos, hlt, hgen, hrun⟩ := hkept
      rw [h, Int.toNat_natCast] at hgen hrun
      exact ⟨⟨hb, h, by omega, hgen⟩, hrun⟩
    next => omega
  · rintro ⟨⟨hb, howner, hlt, hgen⟩, hrun⟩
    rw [howner, Int.toNat_natCast, if_pos ⟨hb, by omega, by omega, hgen, hrun⟩]

theorem blockedOn_iff :
    BlockedOn (inheritanceOwner tasks numTasks) numTasks waiter owner ↔
      WaitsFor tasks numTasks waiter owner ∧ (tasks owner).runnable := by
  rw [BlockedOn, ownerOf_eq_some, inheritanceOwner_eq]
  constructor
  · exact fun h => h.1
  · intro h
    have hne : owner ≠ waiter := by
      intro he
      rw [he] at h
      exact not_blocked_of_runnable h.2 h.1.1
    exact ⟨h, h.1.2.2.1, hne⟩

theorem reach_runnable (hrun : (tasks i).runnable)
    (h : ReflTransGen (BlockedOn (inheritanceOwner tasks numTasks) numTasks) j i) :
    j = i ∨ WaitsFor tasks numTasks j i := by
  obtain rfl | ⟨k, hedge, hrest⟩ := h.cases_head
  · exact Or.inl rfl
  obtain ⟨hwaits, hk⟩ := blockedOn_iff.mp hedge
  obtain rfl | ⟨l, hnext, -⟩ := hrest.cases_head
  · exact Or.inr hwaits
  exact absurd (blockedOn_iff.mp hnext).1.1 (not_blocked_of_runnable hk)

theorem refresh_attained (hcount : numTasks ≤ maxCandidates) (hi : i < numTasks)
    (hrun : (tasks i).runnable) :
    ∃ k < numTasks, (k = i ∨ WaitsFor tasks numTasks k i) ∧
      (refreshEffectiveClassesLocked tasks numTasks i).effectiveSchedulingClass =
        (tasks k).baseClass := by
  rw [refresh_effective hi]
  obtain ⟨k, hk, hreach, he⟩ := inherit_own hcount _ _ hi
  exact ⟨k, hk, reach_runnable hrun hreach, he⟩

/-- Three processes on two processors, the first of the safety class. -/
def startedTasks (index : Nat) : Task :=
  { status := if index = 2 then .ready else .running
    process := some ⟨index + 1, 1⟩
    processGeneration := 1
    schedulingClass := if index = 0 then classSafety else classAmbient }

end ReistOs.Scheduling
