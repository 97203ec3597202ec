import ReistOs.SchedulingPolicy

/-! The selection over the class cycle of `kernel/sched/scheduling_policy.c`. -/

namespace ReistOs.Scheduling

structure SchedulerCandidate where
  runnable : Bool
  schedulingClass : Nat

/-- The position in the cycle and the task that each class selected last. -/
structure CycleCursors where
  classCursors : Nat → Int8
  cycleCursor : UInt8

def cycle : List Nat := [classSafety, classSafety, classService, classAmbient]

def cyclePosition (start classStep : Nat) : Nat := (start + classStep) % cycle.length

def classAt (start classStep : Nat) : Nat := cycle.getD (cyclePosition start classStep) 0

section Selection

variable (candidates : Nat → SchedulerCandidate) (count : Nat) (s : CycleCursors)

def startPosition : Nat :=
  if cycle.length ≤ s.cycleCursor.toNat then 0 else s.cycleCursor.toNat

def cursorOf (schedulingClass : Nat) : Int :=
  let after := (s.classCursors schedulingClass).toInt
  if after < -1 ∨ count ≤ after then -1 else after

def taskIndex (after : Int) (taskStep : Nat) : Nat :=
  if after < 0 then taskStep - 1 else (after.toNat + taskStep) % count

def taskStepOf (schedulingClass : Nat) : Option Nat :=
  (List.range' 1 count).find? fun taskStep =>
    let candidate := candidates (taskIndex count (cursorOf count s schedulingClass) taskStep)
    candidate.runnable && candidate.schedulingClass == schedulingClass

def schedulerPolicySelectCycle : Option Nat × CycleCursors :=
  if count = 0 ∨ maxCandidates < count then (none, s)
  else
    let start := startPosition s
    let found := (List.range cycle.length).find? fun classStep =>
      (taskStepOf candidates count s (classAt start classStep)).isSome
    let selected := found.bind fun classStep =>
      (taskStepOf candidates count s (classAt start classStep)).map fun taskStep =>
        (classStep, taskIndex count (cursorOf count s (classAt start classStep)) taskStep)
    match selected with
    | none => (none, { s with cycleCursor := UInt8.ofNat start })
    | some (classStep, index) =>
      (some index,
        { classCursors :=
            Function.update s.classCursors (classAt start classStep) (Int8.ofNat index)
          cycleCursor := UInt8.ofNat ((cyclePosition start classStep + 1) % cycle.length) })

end Selection

section Distances

variable {candidates : Nat → SchedulerCandidate} {count : Nat} {s : CycleCursors}
  {schedulingClass task : Nat}

def roundDistance (count : Nat) (after : Int) (task : Nat) : Nat :=
  if after < task then (task - after).toNat else (task + count - after).toNat

def classDistance (start schedulingClass : Nat) : Nat :=
  (List.range cycle.length).findIdx fun classStep => classAt start classStep == schedulingClass

def callsLeft (count : Nat) (s : CycleCursors) (schedulingClass task : Nat) : Nat :=
  4 * (roundDistance count (cursorOf count s schedulingClass) task - 1) +
    classDistance (startPosition s) schedulingClass

theorem cursorOf_bounds (h : 0 < count) (schedulingClass : Nat) :
    -1 ≤ cursorOf count s schedulingClass ∧ cursorOf count s schedulingClass < count := by
  unfold cursorOf
  dsimp only
  split <;> omega

variable {after : Int} {taskStep : Nat}

theorem taskIndex_eq (hlow : -1 ≤ after) (hhigh : after < count)
    (hpos : 0 < taskStep) (hstep : taskStep ≤ count) :
    (taskIndex count after taskStep : Int) =
      if after + taskStep < count then after + taskStep else after + taskStep - count := by
  unfold taskIndex
  split
  next =>
    split <;> omega
  next hafter =>
    by_cases hwrap : after.toNat + taskStep < count
    · rw [Nat.mod_eq_of_lt hwrap, if_pos (by omega)]
      omega
    · rw [Nat.mod_eq_sub_mod (by omega), Nat.mod_eq_of_lt (by omega), if_neg (by omega)]
      omega

theorem roundDistance_bounds (hlow : -1 ≤ after) (hhigh : after < count) (ht : task < count) :
    0 < roundDistance count after task ∧ roundDistance count after task ≤ count := by
  unfold roundDistance
  split <;> omega

theorem taskIndex_roundDistance (hlow : -1 ≤ after) (hhigh : after < count)
    (ht : task < count) : taskIndex count after (roundDistance count after task) = task := by
  have hb := roundDistance_bounds hlow hhigh ht
  have he := taskIndex_eq hlow hhigh hb.1 hb.2
  have hd : (roundDistance count after task : Int) =
      if after < task then task - after else task + count - after := by
    unfold roundDistance
    split <;> omega
  rw [hd] at he
  split at he <;> split at he <;> omega

theorem taskStepOf_runnable (ht : task < count)
    (hrun : candidates task = ⟨true, schedulingClass⟩) :
    ∃ taskStep, taskStepOf candidates count s schedulingClass = some taskStep ∧ 0 < taskStep ∧
      taskStep ≤ roundDistance count (cursorOf count s schedulingClass) task := by
  obtain ⟨hlow, hhigh⟩ := cursorOf_bounds (s := s) (by omega : 0 < count) schedulingClass
  have hb := roundDistance_bounds hlow hhigh ht
  have hindex := taskIndex_roundDistance hlow hhigh ht
  cases hfound : taskStepOf candidates count s schedulingClass with
  | none =>
    have hnone := List.find?_range'_eq_none.mp hfound _ hb.1 (by omega)
    simp [hindex, hrun] at hnone
  | some taskStep =>
    obtain ⟨-, hmem, hfirst⟩ := List.find?_range'_eq_some.mp hfound
    refine ⟨taskStep, rfl, (List.mem_range'_1.mp hmem).1, ?_⟩
    by_contra hlate
    have hearlier := hfirst _ hb.1 (by omega)
    simp [hindex, hrun] at hearlier

theorem taskStepOf_runs (h : taskStepOf candidates count s schedulingClass = some taskStep) :
    (candidates (taskIndex count (cursorOf count s schedulingClass) taskStep)).runnable = true := by
  have hfound := (List.find?_range'_eq_some.mp h).1
  simp only [Bool.and_eq_true] at hfound
  exact hfound.1

theorem roundDistance_taskIndex (hlow : -1 ≤ after) (hhigh : after < count)
    (ht : task < count) (hpos : 0 < taskStep)
    (hstep : taskStep < roundDistance count after task) :
    roundDistance count (taskIndex count after taskStep) task =
      roundDistance count after task - taskStep := by
  have hb := roundDistance_bounds hlow hhigh ht
  have he := taskIndex_eq hlow hhigh hpos (by omega : taskStep ≤ count)
  rw [he]
  unfold roundDistance at hstep ⊢
  split at hstep <;> split <;> split <;> omega

theorem classDistance_spec : ∀ start < 4, ∀ c < classCount,
    classDistance start c < 4 ∧ classAt start (classDistance start c) = c ∧
    ∀ classStep < classDistance start c, classAt start classStep ≠ c ∧
      classDistance ((cyclePosition start classStep + 1) % 4) c < classDistance start c := by
  decide

theorem startPosition_lt (s : CycleCursors) : startPosition s < 4 := by
  unfold startPosition
  split
  next => decide
  next h => exact not_le.mp h

theorem startPosition_ofNat (classCursors : Nat → Int8) (position : Nat) :
    startPosition ⟨classCursors, UInt8.ofNat (position % 4)⟩ = position % 4 := by
  have hlt : position % 4 < 4 := Nat.mod_lt _ (by decide)
  have hnarrow : (UInt8.ofNat (position % 4)).toNat = position % 4 := by
    rw [UInt8.toNat_ofNat']
    omega
  simp only [startPosition, hnarrow]
  exact if_neg (not_le.mpr hlt)

theorem cursorOf_update (hcount : count ≤ maxCandidates) {index : Nat} (hindex : index < count)
    (classCursors : Nat → Int8) (cycleCursor : UInt8) (schedulingClass : Nat) :
    cursorOf count ⟨Function.update classCursors schedulingClass (Int8.ofNat index), cycleCursor⟩
      schedulingClass = index := by
  have hnarrow : (Int8.ofNat index).toInt = index :=
    Int8.toInt_ofNat_of_lt (by unfold maxCandidates at hcount; omega)
  simp only [cursorOf, Function.update_self, hnarrow]
  exact if_neg (by omega)

theorem schedulerPolicySelectCycle_eq (hpos : 0 < count) (hcount : count ≤ maxCandidates)
    {classStep taskStep selected : Nat}
    (hfound : (List.range cycle.length).find? (fun classStep =>
      (taskStepOf candidates count s (classAt (startPosition s) classStep)).isSome) =
        some classStep)
    (hclass : classAt (startPosition s) classStep = selected)
    (hstep : taskStepOf candidates count s selected = some taskStep) :
    schedulerPolicySelectCycle candidates count s =
      (some (taskIndex count (cursorOf count s selected) taskStep),
        ⟨Function.update s.classCursors selected
            (Int8.ofNat (taskIndex count (cursorOf count s selected) taskStep)),
          UInt8.ofNat ((cyclePosition (startPosition s) classStep + 1) % 4)⟩) := by
  subst hclass
  rw [schedulerPolicySelectCycle, if_neg (by omega)]
  simp only [hfound, Option.bind_some, hstep, Option.map_some]
  rfl

/-- A call that passes over a runnable task brings the cycle nearer to its class, or the cursor of
the class to the task. -/
theorem schedulerPolicySelectCycle_step (hcount : count ≤ maxCandidates) (ht : task < count)
    (hclass : schedulingClass < classCount) (hrun : candidates task = ⟨true, schedulingClass⟩) :
    ∃ index, (schedulerPolicySelectCycle candidates count s).1 = some index ∧
      (candidates index).runnable = true ∧ (index = task ∨ callsLeft count (schedulerPolicySelectCycle candidates count s).2
        schedulingClass task < callsLeft count s schedulingClass task) := by
  obtain ⟨hdistance, hat, hbefore⟩ := classDistance_spec _ (startPosition_lt s) _ hclass
  obtain ⟨own, hown, hpos, hle⟩ := taskStepOf_runnable (s := s) ht hrun
  cases hfound : (List.range cycle.length).find? fun classStep =>
      (taskStepOf candidates count s (classAt (startPosition s) classStep)).isSome with
  | none =>
    have hnone := List.find?_range_eq_none.mp hfound _ hdistance
    simp [hat, hown] at hnone
  | some classStep =>
    obtain ⟨hsome, -, hfirst⟩ := List.find?_range_eq_some.mp hfound
    obtain ⟨taskStep, hstep⟩ := Option.isSome_iff_exists.mp hsome
    have hreached : classStep ≤ classDistance (startPosition s) schedulingClass := by
      by_contra hlate
      have hearlier := hfirst _ (not_le.mp hlate)
      simp [hat, hown] at hearlier
    rcases Nat.lt_or_eq_of_le hreached with hother | rfl
    · -- another class: the cursor of this one stays
      obtain ⟨hne, hnearer⟩ := hbefore classStep hother
      rw [schedulerPolicySelectCycle_eq (by omega) hcount hfound rfl hstep]
      refine ⟨_, rfl, taskStepOf_runs hstep, .inr ?_⟩
      simp only [callsLeft, startPosition_ofNat, cursorOf, Function.update_of_ne hne.symm]
      omega
    · rw [schedulerPolicySelectCycle_eq (by omega) hcount hfound hat hown]
      obtain ⟨hlow, hhigh⟩ := cursorOf_bounds (s := s) (by omega : 0 < count) schedulingClass
      refine ⟨_, rfl, taskStepOf_runs hown, ?_⟩
      rcases Nat.lt_or_eq_of_le hle with hnear | rfl
      · have hround := roundDistance_bounds hlow hhigh ht
        have hin := taskIndex_eq hlow hhigh hpos (hle.trans hround.2)
        have hnext := (classDistance_spec _ (Nat.mod_lt (cyclePosition (startPosition s)
          (classDistance (startPosition s) schedulingClass) + 1) (by decide : 0 < 4)) _ hclass).1
        simp only [callsLeft, startPosition_ofNat]
        rw [cursorOf_update hcount (by split at hin <;> omega),
          roundDistance_taskIndex hlow hhigh ht hpos hnear]
        exact .inr (by omega)
      · exact .inl (taskIndex_roundDistance hlow hhigh ht)

end Distances

variable (candidates : Nat → Nat → SchedulerCandidate) (count : Nat) (s : CycleCursors)

/-- The cursors before the `k`-th of a run of calls, each with candidates of its own. -/
def cursorsAt : Nat → CycleCursors
  | 0 => s
  | k + 1 => (schedulerPolicySelectCycle (candidates k) count (cursorsAt k)).2

def selectedAt (k : Nat) : Option Nat :=
  (schedulerPolicySelectCycle (candidates k) count (cursorsAt candidates count s k)).1

variable {candidates} {count} {s} {task schedulingClass : Nat}

theorem callsLeft_cursorsAt (hcount : count ≤ maxCandidates) (ht : task < count)
    (hclass : schedulingClass < classCount) {n : Nat}
    (hrun : ∀ k < n, candidates k task = ⟨true, schedulingClass⟩)
    (hnever : ∀ k < n, selectedAt candidates count s k ≠ some task) :
    callsLeft count (cursorsAt candidates count s n) schedulingClass task + n ≤
      callsLeft count s schedulingClass task := by
  induction n with
  | zero => exact le_rfl
  | succ n ih =>
    have hprev := ih (fun k hk => hrun k (by omega)) fun k hk => hnever k (by omega)
    obtain ⟨index, hindex, -, hstep⟩ := schedulerPolicySelectCycle_step
      (s := cursorsAt candidates count s n) hcount ht hclass (hrun n (by omega))
    have hless := hstep.resolve_left fun he => hnever n (by omega) (by rw [selectedAt, hindex, he])
    rw [cursorsAt]
    omega

/-- No starvation: a runnable task of a valid class waits fewer than `4 * count` calls, and while
there is one every call selects a runnable task. -/
theorem selectedAt_fair (candidates : Nat → Nat → SchedulerCandidate) (s : CycleCursors)
    (hcount : count ≤ maxCandidates) (ht : task < count) (hclass : schedulingClass < classCount) :
    ((∀ k < 4 * count, candidates k task = ⟨true, schedulingClass⟩) →
      ∃ k < 4 * count, selectedAt candidates count s k = some task) ∧
    ∀ k, candidates k task = ⟨true, schedulingClass⟩ →
      ∃ index, selectedAt candidates count s k = some index ∧
        (candidates k index).runnable = true := by
  constructor
  · intro hrun
    by_contra hnever
    push Not at hnever
    have hrest := callsLeft_cursorsAt hcount ht hclass hrun hnever
    have hdistance := (classDistance_spec _ (startPosition_lt s) _ hclass).1
    obtain ⟨hlow, hhigh⟩ := cursorOf_bounds (s := s) (by omega : 0 < count) schedulingClass
    have hround := roundDistance_bounds hlow hhigh ht
    rw [callsLeft, callsLeft] at hrest
    omega
  · intro k hrun
    obtain ⟨index, hindex, hruns, -⟩ := schedulerPolicySelectCycle_step
      (s := cursorsAt candidates count s k) hcount ht hclass hrun
    exact ⟨index, hindex, hruns⟩

/-- Two ambient tasks, the other one first at the cursor. -/
theorem second_task_selected :
    ∃ k < 4 * 2, selectedAt (fun _ _ => ⟨true, 0⟩) 2 ⟨fun _ => -1, 9⟩ k = some 1 :=
  (selectedAt_fair (fun _ _ => ⟨true, 0⟩) _ (by decide) (by decide) (by decide)).1 fun _ _ => rfl

/-- The cycle has no place for a class that is not one of the three. -/
theorem invalid_class_starves :
    ¬∀ (count : Nat) (s : CycleCursors) (candidates : Nat → Nat → SchedulerCandidate)
      (task schedulingClass : Nat), task < count →
      (∀ k, candidates k task = ⟨true, schedulingClass⟩) →
      ∃ k < 4 * count, selectedAt candidates count s k = some task := by
  intro hclaim
  obtain ⟨k, hk, hselected⟩ := hclaim 1 ⟨fun _ => -1, 0⟩ (fun _ _ => ⟨true, 3⟩) 0 3
    (by decide) fun _ => rfl
  have hnever : ∀ k < 4 * 1,
      selectedAt (fun _ _ => ⟨true, 3⟩) 1 ⟨fun _ => -1, 0⟩ k ≠ some 0 := by decide
  exact hnever k hk hselected

end ReistOs.Scheduling
