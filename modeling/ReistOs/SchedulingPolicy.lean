import Mathlib.Tactic

/-! Priority inheritance of `kernel/sched/scheduling_policy.c`. A class is the number in its
`uint8_t`, an owner the number in its `int8_t`. -/

namespace ReistOs.Scheduling

open Relation

def classAmbient : Nat := 0
def classService : Nat := 1
def classSafety : Nat := 2
def classCount : Nat := 3
/-- `SCHEDULER_POLICY_MAX_CANDIDATES` -/
def maxCandidates : Nat := 32

def schedulerPolicyBudget (schedulingClass : Nat) : Nat :=
  if schedulingClass = classAmbient then 1
  else if schedulingClass = classService then 1
  else if schedulingClass = classSafety then 2
  else 0

def validClass (baseClass : Nat) : Nat :=
  if schedulerPolicyBudget baseClass ≠ 0 then baseClass else classAmbient

section Orbits

variable {f : Nat → Nat} {n : Nat}

theorem iterate_bounded (hf : ∀ x < n, f x < n) {x : Nat} (hx : x < n) (k : Nat) :
    ∃ m ≤ n, f^[m] x = f^[k] x := by
  induction k using Nat.strong_induction_on with
  | _ k ih =>
    by_cases hk : k ≤ n
    · exact ⟨k, hk, rfl⟩
    have hbelow : ∀ m, f^[m] x < n := fun m => Function.Iterate.rec (· < n) hx hf m
    obtain ⟨a, ha, b, hb, hne, hab⟩ := Finset.exists_ne_map_eq_of_card_lt_of_maps_to
      (show (Finset.range n).card < (Finset.range (n + 1)).card by simp)
      (f := fun m => f^[m] x) (fun m _ => by simpa using hbelow m)
    -- the orbit between the two equal values is a loop that `k` goes round once too often
    wlog hlt : a < b generalizing a b
    · exact this b hb a ha hne.symm hab.symm (by omega)
    simp only [Finset.mem_range] at hb
    obtain ⟨m, hm, he⟩ := ih (k - b + a) (by omega)
    refine ⟨m, hm, ?_⟩
    rw [he, Function.iterate_add_apply, hab, ← Function.iterate_add_apply]
    congr 1
    omega

end Orbits

variable (blockedOwners : Nat → Int) (count : Nat)

/-- The owner that both loops accept: one in range and not the waiter itself. -/
def ownerOf (waiter : Nat) : Option Nat :=
  let owner := blockedOwners waiter
  if owner < 0 ∨ count ≤ owner ∨ owner = waiter then none else some owner.toNat

def relax (effectiveClasses : Nat → Nat) (waiter : Nat) : Nat → Nat :=
  match ownerOf blockedOwners count waiter with
  | none => effectiveClasses
  | some owner =>
    if effectiveClasses waiter > effectiveClasses owner then
      Function.update effectiveClasses owner (effectiveClasses waiter)
    else effectiveClasses

def inheritPass (effectiveClasses : Nat → Nat) : Nat → Nat :=
  (List.range count).foldl (relax blockedOwners count) effectiveClasses

def schedulerPolicyInherit (effectiveClasses baseClasses : Nat → Nat) : Nat → Nat :=
  if count = 0 ∨ maxCandidates < count then effectiveClasses
  else
    let own := fun i => if i < count then validClass (baseClasses i) else effectiveClasses i
    let hasValidOwner := (List.range count).any fun i => (ownerOf blockedOwners count i).isSome
    if hasValidOwner then (inheritPass blockedOwners count)^[count] own else own

def BlockedOn (waiter owner : Nat) : Prop := ownerOf blockedOwners count waiter = some owner

def ownerOrSelf (task : Nat) : Nat := (ownerOf blockedOwners count task).getD task

variable {blockedOwners} {count} {effective own : Nat → Nat} {waiter owner task i : Nat}

theorem ownerOf_eq_some :
    ownerOf blockedOwners count waiter = some owner ↔
      blockedOwners waiter = owner ∧ owner < count ∧ owner ≠ waiter := by
  simp only [ownerOf]
  split
  next => simp; omega
  next =>
    simp only [Option.some.injEq]
    omega

theorem ownerOf_lt (h : ownerOf blockedOwners count waiter = some owner) : owner < count :=
  (ownerOf_eq_some.mp h).2.1

theorem ownerOrSelf_lt (h : task < count) : ownerOrSelf blockedOwners count task < count := by
  unfold ownerOrSelf
  cases ho : ownerOf blockedOwners count task with
  | none => exact h
  | some owner => exact ownerOf_lt ho

theorem relax_le (effective : Nat → Nat) (waiter i : Nat) :
    effective i ≤ relax blockedOwners count effective waiter i := by
  cases ho : ownerOf blockedOwners count waiter with
  | none => simp only [relax, ho, le_rfl]
  | some owner =>
    simp only [relax, ho]
    split
    next hraise =>
      by_cases hi : i = owner
      · subst hi
        simpa using hraise.le
      · simp [hi]
    next => exact le_rfl

theorem relax_owner (h : ownerOf blockedOwners count waiter = some owner) :
    effective waiter ≤ relax blockedOwners count effective waiter owner := by
  simp only [relax, h]
  split
  next => simp
  next hkept => exact not_lt.mp hkept

theorem inheritPass_le (effective : Nat → Nat) (i : Nat) :
    effective i ≤ inheritPass blockedOwners count effective i :=
  List.foldlRecOn (motive := fun e => effective i ≤ e i) _ _ le_rfl
    fun e he waiter _ => he.trans (relax_le e waiter i)

theorem inheritPass_owner (ht : task < count) :
    effective task ≤
      inheritPass blockedOwners count effective (ownerOrSelf blockedOwners count task) := by
  unfold ownerOrSelf
  cases ho : ownerOf blockedOwners count task with
  | none => exact inheritPass_le effective task
  | some owner =>
    obtain ⟨before, after, hsplit⟩ := List.append_of_mem (List.mem_range.mpr ht)
    simp only [inheritPass, hsplit, List.foldl_append, List.foldl_cons, Option.getD_some]
    have hbefore : effective task ≤ before.foldl (relax blockedOwners count) effective task :=
      List.foldlRecOn (motive := fun e => effective task ≤ e task) _ _ le_rfl
        fun e he w _ => he.trans (relax_le e w task)
    have hraised := hbefore.trans (relax_owner ho)
    exact List.foldlRecOn (motive := fun e => effective task ≤ e owner) _ _ hraised
      fun e he w _ => he.trans (relax_le e w owner)

theorem iterate_inheritPass (ht : task < count) (k : Nat) :
    effective task ≤ (inheritPass blockedOwners count)^[k] effective
      ((ownerOrSelf blockedOwners count)^[k] task) := by
  induction k with
  | zero => exact le_rfl
  | succ k ih =>
    rw [Function.iterate_succ_apply', Function.iterate_succ_apply']
    exact ih.trans (inheritPass_owner
      (Function.Iterate.rec (· < count) ht (fun _ => ownerOrSelf_lt) k))

theorem iterate_of_reach (h : ReflTransGen (BlockedOn blockedOwners count) task i) :
    ∃ k, (ownerOrSelf blockedOwners count)^[k] task = i := by
  induction h with
  | refl => exact ⟨0, rfl⟩
  | tail _ hedge ih =>
    obtain ⟨k, rfl⟩ := ih
    refine ⟨k + 1, ?_⟩
    rw [BlockedOn] at hedge
    simp [Function.iterate_succ_apply', ownerOrSelf, hedge]

/-- Every task holds the own class of a task that reaches it. -/
def Inherited (blockedOwners : Nat → Int) (count : Nat) (own effective : Nat → Nat) : Prop :=
  ∀ i < count, ∃ j < count, ReflTransGen (BlockedOn blockedOwners count) j i ∧ effective i = own j

theorem relax_inherited (h : Inherited blockedOwners count own effective) (hw : waiter < count) :
    Inherited blockedOwners count own (relax blockedOwners count effective waiter) := by
  unfold relax
  split
  next => exact h
  next owner howner =>
    split
    next =>
      intro i hi
      by_cases hio : i = owner
      · subst hio
        obtain ⟨j, hj, hreach, he⟩ := h waiter hw
        exact ⟨j, hj, hreach.tail howner, by simpa using he⟩
      · simpa [hio] using h i hi
    next => exact h

theorem inheritPass_inherited (h : Inherited blockedOwners count own effective) :
    Inherited blockedOwners count own (inheritPass blockedOwners count effective) :=
  List.foldlRecOn _ _ h fun _ he _ hw => relax_inherited he (List.mem_range.mp hw)

theorem schedulerPolicyInherit_eq (hpos : 0 < count) (hcount : count ≤ maxCandidates)
    (effective base : Nat → Nat) :
    schedulerPolicyInherit blockedOwners count effective base =
      (inheritPass blockedOwners count)^[count]
        fun i => if i < count then validClass (base i) else effective i := by
  rw [schedulerPolicyInherit, if_neg (by omega)]
  dsimp only
  split
  next => rfl
  next hnone =>
    symm
    apply Function.iterate_fixed
    have hno : ∀ i ∈ List.range count, ownerOf blockedOwners count i = none := by
      simpa using hnone
    apply List.foldlRecOn (motive := fun e => e = _) _ _ rfl
    intro e he waiter hw
    simp only [relax, hno waiter hw, he]

theorem inherit_own (hcount : count ≤ maxCandidates) (effective base : Nat → Nat) (hi : i < count) :
    ∃ j < count, ReflTransGen (BlockedOn blockedOwners count) j i ∧
      schedulerPolicyInherit blockedOwners count effective base i = validClass (base j) := by
  rw [schedulerPolicyInherit_eq (by omega) hcount]
  set own : Nat → Nat := fun i => if i < count then validClass (base i) else effective i with hown
  have hinherited : Inherited blockedOwners count own
      ((inheritPass blockedOwners count)^[count] own) :=
    Function.Iterate.rec (Inherited blockedOwners count own) (fun j hj => ⟨j, hj, .refl, rfl⟩)
      (fun _ => inheritPass_inherited) count
  obtain ⟨j, hj, hreach, he⟩ := hinherited i hi
  exact ⟨j, hj, hreach, he.trans (by simp [hown, hj])⟩

theorem inherit_bound (hcount : count ≤ maxCandidates) (effective base : Nat → Nat)
    (hj : task < count) (hreach : ReflTransGen (BlockedOn blockedOwners count) task i) :
    validClass (base task) ≤ schedulerPolicyInherit blockedOwners count effective base i := by
  rw [schedulerPolicyInherit_eq (by omega) hcount]
  set own : Nat → Nat := fun i => if i < count then validClass (base i) else effective i with hown
  have hvalid : own task = validClass (base task) := by simp [hown, hj]
  obtain ⟨k, hk⟩ := iterate_of_reach hreach
  obtain ⟨m, hm, he⟩ := iterate_bounded (fun _ => ownerOrSelf_lt) hj k
  have hbound : own task ≤ (inheritPass blockedOwners count)^[m] own
      ((ownerOrSelf blockedOwners count)^[m] task) := iterate_inheritPass hj m
  rw [he, hk, hvalid] at hbound
  -- the passes after the `m`-th lower nothing
  obtain ⟨rest, rfl⟩ := Nat.exists_eq_add_of_le' hm
  rw [Function.iterate_add_apply]
  exact Function.Iterate.rec (fun e : Nat → Nat => validClass (base task) ≤ e i) hbound
    (fun e hle => hle.trans (inheritPass_le e i)) rest

/-- A task ends with the greatest valid class among the tasks that reach it over the edges, itself
among them. -/
theorem schedulerPolicyInherit_isGreatest (hcount : count ≤ maxCandidates)
    (effective base : Nat → Nat) (hi : i < count) :
    IsGreatest {c | ∃ j < count, ReflTransGen (BlockedOn blockedOwners count) j i ∧
        c = validClass (base j)}
      (schedulerPolicyInherit blockedOwners count effective base i) := by
  constructor
  · exact inherit_own hcount effective base hi
  · rintro c ⟨j, hj, hreach, rfl⟩
    exact inherit_bound hcount effective base hj hreach

/-- Two waiters in a row, the first of the safety class. -/
theorem chain_inherits :
    IsGreatest {c | ∃ j < 3, ReflTransGen (BlockedOn ([1, 2, -1].getD · 0) 3) j 2 ∧
        c = validClass ([2, 0, 0].getD j 0)}
      (schedulerPolicyInherit ([1, 2, -1].getD · 0) 3 (fun _ => 0) ([2, 0, 0].getD · 0) 2) :=
  schedulerPolicyInherit_isGreatest (by decide) _ _ (by decide)

/-- A second round of inheritance changes nothing, and higher classes or further edges lower no task. -/
theorem schedulerPolicyInherit_closure (hcount : count ≤ maxCandidates) (effective : Nat → Nat)
    (hi : i < count) :
    let inherit := fun owners => schedulerPolicyInherit owners count effective
    (∀ owners base, inherit owners (inherit owners base) i = inherit owners base i) ∧
    ∀ owners owners' base base', BlockedOn owners count ≤ BlockedOn owners' count →
      (∀ j < count, validClass (base j) ≤ validClass (base' j)) →
      inherit owners base i ≤ inherit owners' base' i := by
  have hvalid : ∀ c, validClass (validClass c) = validClass c := by
    intro c
    unfold validClass
    by_cases hc : schedulerPolicyBudget c ≠ 0
    · simp only [if_pos hc]
    · simp only [if_neg hc, ite_self]
  dsimp only
  refine ⟨fun owners base => le_antisymm ?_ ?_, fun owners owners' base base' hedges hbase => ?_⟩
  · obtain ⟨j, hj, hreach, he⟩ := inherit_own hcount effective
      (schedulerPolicyInherit owners count effective base) hi
    obtain ⟨k, hk, hreach', he'⟩ := inherit_own hcount effective base hj
    rw [he, he', hvalid]
    exact inherit_bound hcount _ _ hk (hreach'.trans hreach)
  · obtain ⟨j, -, -, he⟩ := @inherit_own owners count i hcount effective base hi
    refine le_of_eq_of_le ?_ (inherit_bound hcount _ _ hi .refl)
    rw [he, hvalid]
  · obtain ⟨j, hj, hreach, he⟩ := inherit_own hcount effective base hi
    rw [he]
    exact (hbase j hj).trans (inherit_bound hcount _ _ hj (ReflTransGen.mono hedges _ _ hreach))

/-- All wait for the third task. -/
theorem third_closure : schedulerPolicyInherit (fun _ => 2) 3 id (schedulerPolicyInherit (fun _ => 2) 3 id id) 2 =
    schedulerPolicyInherit (fun _ => 2) 3 id id 2 :=
  (schedulerPolicyInherit_closure (by decide) _ (by decide)).1 _ _

end ReistOs.Scheduling
