import ReistOs.StorageServiceTasks

/-! No task writes a control record that lacks a bit of the record it was derived from,
except to clear the bits it is meant to clear. -/

namespace ReistOs

open SharedRecord

/-- What a write may do to the bits of the record it derives from. -/
abbrev Retained : StoragePurpose → StorageServiceControl → StorageServiceControl → Prop :=
  Retains StorageServiceControl.Has StoragePurpose.Clears

abbrev KeepsBits {α : Type} (post : α → Prop) (p : Service α) : Prop := Keeps Retained post p

abbrev CarriesBits (c : ControlCopy) : Prop := Carries StorageServiceControl.Has c

section Rules

variable {α β : Type} {post : β → Prop}

theorem keepsBits_fetch {f : Option ControlCopy → Service β} (hn : KeepsBits post (f none))
    (hs : ∀ c, CarriesBits c → KeepsBits post (f (some c))) : KeepsBits post (Prog.fetch >>= f) := by
  refine Keeps.seq keeps_fetch fun r hr => ?_
  cases r with
  | none => exact hn
  | some c => exact hs c (hr c rfl)

variable {c : ControlCopy} {f : Bool × ControlCopy → Service β} {x : Service α}

theorem keepsBits_reread (h : CarriesBits c) (hf : ∀ r, CarriesBits r.2 → KeepsBits post (f r)) :
    KeepsBits post (Prog.reread c >>= f) :=
  Keeps.seq (keeps_reread h) hf

theorem keepsBits_storeSet (h : CarriesBits c) (p : StoragePurpose) {v : StorageServiceControl}
    (hv : ∀ b, c.value.Has b → v.Has b) (hf : ∀ r, CarriesBits r.2 → KeepsBits post (f r)) :
    KeepsBits post (Prog.store p (c.set v) >>= f) := by
  have hset : CarriesBits (c.set v) := fun b hb => hv b (h b hb)
  exact Keeps.seq (keeps_store (hset.retains p) hset) hf

theorem keepsBits_ite {c : Prop} {_ : Decidable c} {x y : Service β} (hx : c → KeepsBits post x)
    (hy : ¬ c → KeepsBits post y) : KeepsBits post (if c then x else y) := by
  split
  next h => exact hx h
  next h => exact hy h

/-- A task that stops at `c` writes nothing there. -/
theorem keepsBits_stop {c : Prop} {_ : Decidable c} {a : β} {y : Service β}
    (hy : ¬ c → KeepsBits (fun _ => True) y) : KeepsBits (fun _ => True) (if c then pure a else y) :=
  keepsBits_ite (fun _ => trivial) hy

theorem keepsBits_ask {q : ServiceQuery} {f : q.Answer → Service β} (h : ∀ a, KeepsBits post (f a)) :
    KeepsBits post (ask q >>= f) := h

theorem keepsBits_call (h : KeepsBits (fun _ => True) x) {f : α → Service β}
    (hf : ∀ a, KeepsBits post (f a)) : KeepsBits post (x >>= f) := Keeps.seq h fun a _ => hf a

theorem keepsBits_clear {p : StoragePurpose} (h : Retained p c.base c.value)
    (hf : ∀ r, KeepsBits post (f r)) :
    KeepsBits post (Prog.store p c >>= f) := by
  have hstore : KeepsBits (fun _ => True) (Prog.store p c) := ⟨h, fun _ => trivial⟩
  exact keepsBits_call hstore hf

theorem keepsBits_ignore (h : KeepsBits (fun _ => True) x) :
    KeepsBits (fun _ => True) (ignore x) := Keeps.bind h fun _ _ => trivial

theorem keepsBits_pure {a : β} (h : post a) : KeepsBits post (pure a) := h

theorem keepsBits_fenceAll : KeepsBits (fun _ => True) fenceAll := fun _ _ => trivial

theorem keepsBits_fenceIf (unsafeState : Bool) : KeepsBits (fun _ => True) (fenceIf unsafeState) := by
  cases unsafeState with
  | false => exact trivial
  | true => exact keepsBits_fenceAll

theorem keepsBits_lifecycleFail : KeepsBits (fun _ => True) lifecycleFail := fun _ _ _ _ => trivial

theorem keepsBits_lifecycleEnter : KeepsBits (fun _ => True) lifecycleEnter := by
  intro failed
  cases failed with
  | false => exact fun _ => trivial
  | true => exact trivial

end Rules

section Values

variable {c v : StorageServiceControl} {control : ControlCopy}

variable {b : StorageBit} {p : StoragePurpose}

theorem has_of_masks (hq : v.quarantinedResources = c.quarantinedResources)
    (hr : v.readOnlyResources = c.readOnlyResources)
    (hd : v.adminDownResources = c.adminDownResources)
    (hf : v.adminFailedResources = c.adminFailedResources) (h : c.Has b) : v.Has b := by
  cases b <;> simp only [StorageServiceControl.Has, hq, hr, hd, hf] at h ⊢ <;> exact h

theorem quarantinedControl_has (resource : Nat) (writeUncertain : Bool) (nowMs : UInt64)
    (h : c.Has b) : (quarantinedControl c resource writeUncertain nowMs).Has b := by
  cases b with
  | quarantined r => exact names_or.mpr (Or.inl h)
  | readOnly r =>
    cases writeUncertain with
    | true => exact names_or.mpr (Or.inl h)
    | false => exact h
  | adminDown r => exact h
  | adminFailed r => exact h

theorem failedControl_has (resourceMask : UInt32) (h : c.Has b) :
    (failedControl c resourceMask).Has b := by
  cases b with
  | quarantined r => exact h
  | readOnly r => exact h
  | adminDown r => exact names_or.mpr (Or.inl h)
  | adminFailed r => exact names_or.mpr (Or.inl h)

theorem retiringControl_has (deadlineMs : UInt64) (h : c.Has b) :
    (retiringControl c deadlineMs).Has b := by
  unfold retiringControl
  split
  next => exact has_of_masks rfl rfl rfl rfl h
  next =>
    split
    next => exact has_of_masks rfl rfl rfl rfl h
    next => exact h

theorem finishedControl_retained (resourceMask : UInt32) (mode : AdminMode) :
    Retained (.adminFinished resourceMask) c (finishedControl c resourceMask mode) := by
  intro b hb
  cases b with
  | quarantined r => cases mode <;> exact Or.inl hb
  | readOnly r => cases mode <;> exact Or.inl hb
  | adminDown r =>
    by_cases hm : Names resourceMask r
    · exact Or.inr hm
    · cases mode with
      | online => exact Or.inl hb
      | down => exact Or.inl (names_or.mpr (Or.inl hb))
      | up => exact Or.inl (names_and_not hb hm)
  | adminFailed r =>
    by_cases hm : Names resourceMask r
    · exact Or.inr hm
    · cases mode with
      | online => exact Or.inl hb
      | down => exact Or.inl (names_and_not hb hm)
      | up => exact Or.inl (names_and_not hb hm)

theorem repairedControl_retained {resource : Nat} (hr : resource < maxDrives)
    (hp : p = .repaired resource ∨ p = .reintegrated resource) :
    Retained p c (repairedControl c resource) := by
  intro b hb
  have hcl : ∀ r, r = resource → p.Clears (.quarantined r) ∧ p.Clears (.readOnly r) := by
    rintro r rfl
    rcases hp with rfl | rfl <;> exact ⟨rfl, rfl⟩
  cases b with
  | quarantined r =>
    by_cases he : r = resource
    · exact Or.inr (hcl r he).1
    · exact Or.inl (names_and_not hb fun h => he ((names_bit (hr.trans (by decide))).mp h))
  | readOnly r =>
    by_cases he : r = resource
    · exact Or.inr (hcl r he).2
    · exact Or.inl (names_and_not hb fun h => he ((names_bit (hr.trans (by decide))).mp h))
  | adminDown r => exact Or.inl hb
  | adminFailed r => exact Or.inl hb

theorem probedControl_has (resource : Nat) (recovered : Bool) (nowMs : UInt64) (h : c.Has b) :
    (probedControl c resource recovered nowMs).Has b := by
  unfold probedControl
  dsimp only
  split <;> exact has_of_masks rfl rfl rfl rfl h

theorem degradedControl_has (h : c.Has b) : (degradedControl c).Has b := by
  unfold degradedControl
  split
  next => exact has_of_masks rfl rfl rfl rfl h
  next => exact h

theorem Carries.retained_of (h : CarriesBits control) (hv : Retained p control.value v) :
    Retained p (control.set v).base (control.set v).value :=
  fun b hb => hv b (h b hb)

end Values

variable {control : ControlCopy}

theorem keepsBits_announce (resource : Nat) (first : Bool) :
    KeepsBits (fun _ => True) (announceQuarantine resource first) := by
  cases first with
  | false => exact trivial
  | true => exact fun _ _ => trivial

theorem keepsBits_report (resource : Nat) (writeUncertain : Bool) :
    KeepsBits (fun _ => True) (storageServiceReportMediaFailure resource writeUncertain) := by
  refine keepsBits_ask fun initialized => ?_
  split
  next => exact keepsBits_call keepsBits_fenceAll fun _ => trivial
  next =>
    refine keepsBits_fetch (keepsBits_call keepsBits_fenceAll fun _ => trivial) fun c hc => ?_
    refine keepsBits_ask fun nowMs => ?_
    refine keepsBits_storeSet hc _ (fun b hb => quarantinedControl_has _ _ _ hb) fun r _ => ?_
    split
    next => exact keepsBits_call keepsBits_fenceAll fun _ => trivial
    next => exact keepsBits_call (keepsBits_fenceIf _) fun _ => keepsBits_call (keepsBits_announce _ _) fun _ => trivial

theorem keepsBits_reportFailures (failures : List (Nat × Bool)) :
    KeepsBits (fun _ => True) (reportFailures failures) := by
  refine Keeps.forEach (fun f => ?_) failures
  exact keepsBits_ignore (keepsBits_report f.1 f.2)

theorem keepsBits_callLayer (q : ServiceQuery) : KeepsBits (fun _ => True) (call q) :=
  keepsBits_ask fun failures => keepsBits_call (keepsBits_reportFailures failures) fun _ _ => trivial

theorem keepsBits_guardCall {α : Type} (busy : α) {q : Service α} (h : KeepsBits (fun _ => True) q) :
    KeepsBits (fun _ => True) (vfsGuardCall busy q) := by
  refine keepsBits_ask fun entered => keepsBits_call ?_ fun result => ?_
  · split
    next => exact h
    next => exact trivial
  · exact keepsBits_call (keepsBits_ask fun resources => keepsBits_reportFailures _) fun _ => trivial

theorem keepsBits_guardPoll (nowMs : UInt64) :
    KeepsBits (fun _ => True) (vfsFileObjectGuardPoll nowMs) :=
  keepsBits_guardCall (-16 : Int) (q := ask (.guardPoll nowMs)) fun _ => trivial

theorem keepsBits_guardFenced : KeepsBits (fun _ => True) vfsFileObjectGuardFenced :=
  keepsBits_guardCall none fun _ => trivial

theorem keepsBits_retirementBegin (h : CarriesBits control) (nowMs limitMs : UInt64)
    (explicitRetry : Bool) :
    KeepsBits (fun r => CarriesBits r.2) (retirementBegin control nowMs limitMs explicitRetry) := by
  unfold retirementBegin
  split
  next => exact h
  next =>
    split
    next => exact h
    next =>
      refine keepsBits_storeSet h _ (fun b hb => retiringControl_has _ hb) fun r hr => ?_
      split
      next => exact keepsBits_call keepsBits_lifecycleFail fun _ => hr
      next => exact fun _ => hr

theorem keepsBits_retirementStep (h : CarriesBits control) (nowMs : UInt64) :
    KeepsBits (fun r => CarriesBits r.2) (retirementStep control nowMs) := by
  unfold retirementStep
  split
  next => exact h
  next =>
    split
    next => exact h
    next =>
      refine keepsBits_ask fun alive => ?_
      split
      next =>
        refine keepsBits_reread h fun r hr => ?_
        split
        next => exact keepsBits_call keepsBits_lifecycleFail fun _ => hr
        next =>
          refine keepsBits_storeSet hr _ (fun b hb => has_of_masks rfl rfl rfl rfl hb) fun r' hr' => ?_
          split
          next => exact keepsBits_call keepsBits_lifecycleFail fun _ => hr'
          next => exact hr'
      next =>
        split
        next =>
          refine keepsBits_call keepsBits_fenceAll fun _ => ?_
          refine keepsBits_storeSet h _ (fun b hb => has_of_masks rfl rfl rfl rfl hb) fun r hr => ?_
          split
          next => exact keepsBits_call keepsBits_lifecycleFail fun _ => hr
          next => exact hr
        next =>
          refine keepsBits_ask fun pinned => ?_
          split
          next => exact h
          next => exact fun _ => h

theorem keepsBits_publishService (h : CarriesBits control) (pid : Int) (generation : UInt32)
    (nowMs : UInt64) :
    KeepsBits (fun r => CarriesBits r.2) (publishService control pid generation nowMs) := by
  refine keepsBits_reread h fun r hr => ?_
  split
  next => exact keepsBits_call keepsBits_lifecycleFail fun _ _ => hr
  next =>
    refine keepsBits_storeSet hr _ (fun b hb => has_of_masks rfl rfl rfl rfl hb) fun r' hr' => ?_
    split
    next => exact keepsBits_call keepsBits_lifecycleFail fun _ _ => hr'
    next =>
      refine keepsBits_ask fun started => ?_
      split
      next =>
        refine Keeps.seq (keepsBits_retirementBegin hr' _ _ _) fun r'' hr'' => ?_
        exact keepsBits_call (keepsBits_fenceIf _) fun _ => hr''
      next => exact hr'

theorem keepsBits_spawnService (h : CarriesBits control) (nowMs : UInt64) :
    KeepsBits (fun r => CarriesBits r.2) (spawnService control nowMs) := by
  unfold spawnService
  split
  next => exact h
  next =>
    refine keepsBits_call (keepsBits_callLayer .spawnPrepared) fun pid => ?_
    split
    next =>
      refine keepsBits_reread h fun r hr => ?_
      refine keepsBits_call ?_ fun _ => hr
      split
      next => exact keepsBits_lifecycleFail
      next => exact trivial
    next =>
      refine keepsBits_ask fun identity => ?_
      cases identity with
      | none => exact keepsBits_call keepsBits_lifecycleFail fun _ => h
      | some generation => exact keepsBits_publishService h _ _ _

theorem keepsBits_startLocked (nowMs : UInt64) :
    KeepsBits (fun _ => True) (storageStartLocked nowMs) := by
  refine keepsBits_ask fun initialized => keepsBits_ask fun enabled => keepsBits_ask fun starting =>
    keepsBits_ask fun started => ?_
  refine keepsBits_stop fun _ => ?_
  refine keepsBits_ask fun ready => ?_
  refine keepsBits_stop fun _ => ?_
  refine keepsBits_ask fun _ => keepsBits_fetch (fun _ _ => trivial) fun c hc => ?_
  refine keepsBits_call ?_ fun r => fun _ _ => trivial
  split
  next => exact (keepsBits_spawnService hc nowMs).mono fun _ _ => trivial
  next => exact trivial

theorem keepsBits_retireLoop (sleeps : Nat) (h : CarriesBits control) :
    KeepsBits (fun r => ∀ c ∈ r, CarriesBits c) (retireLoop sleeps control) := by
  induction sleeps generalizing control with
  | zero =>
    refine keepsBits_ask fun nowMs => Keeps.seq (keepsBits_retirementStep h nowMs) fun r hr => ?_
    split
    next => exact fun c hc => absurd hc (by simp)
    next =>
      split
      next => exact fun c hc => Option.mem_some_iff.mp hc ▸ hr
      next => exact fun c hc => absurd hc (by simp)
  | succ sleeps ih =>
    refine keepsBits_ask fun nowMs => Keeps.seq (keepsBits_retirementStep h nowMs) fun r hr => ?_
    split
    next => exact fun c hc => absurd hc (by simp)
    next =>
      split
      next => exact fun c hc => Option.mem_some_iff.mp hc ▸ hr
      next =>
        refine keepsBits_reread hr fun r' hr' => ?_
        split
        next => exact fun c hc => absurd hc (by simp)
        next => exact ih hr'

theorem keepsBits_componentReady : KeepsBits (fun _ => True) storageServiceComponentReady := by
  refine keepsBits_ask fun initialized => keepsBits_ask fun enabled => keepsBits_ask fun started => ?_
  refine keepsBits_stop fun _ => ?_
  refine keepsBits_fetch trivial fun c _ => ?_
  exact keepsBits_stop fun _ _ => trivial

theorem keepsBits_retireService (h : CarriesBits control) (deadlineMs : UInt64) :
    KeepsBits (fun r => ∀ c ∈ r, CarriesBits c) (retireService control deadlineMs) := by
  unfold retireService
  split
  next =>
    refine keepsBits_ask fun nowMs => Keeps.seq (keepsBits_retirementBegin h _ _ _) fun r hr => ?_
    split
    next => exact fun c hc => absurd hc (by simp)
    next => exact keepsBits_ask fun sleeps => keepsBits_retireLoop sleeps hr
  next => exact fun c hc => Option.mem_some_iff.mp hc ▸ h

theorem keepsBits_downLocked (deadlineMs : UInt64) :
    KeepsBits (fun _ => True) (storageDownLocked deadlineMs) := by
  refine keepsBits_ask fun initialized => ?_
  refine keepsBits_stop fun _ => ?_
  refine keepsBits_ask fun _ => keepsBits_fetch trivial fun c hc => ?_
  refine Keeps.seq (keepsBits_retireService hc deadlineMs) fun r hr => ?_
  cases r with
  | none => exact trivial
  | some control =>
    refine keepsBits_storeSet (hr control rfl) _ (fun b hb => has_of_masks rfl rfl rfl rfl hb) fun r' _ => ?_
    refine keepsBits_stop fun _ => ?_
    exact keepsBits_ask fun _ => keepsBits_ask fun _ =>
      keepsBits_call keepsBits_componentReady fun _ => trivial

theorem keepsBits_awaitReady (sleeps : Nat) : KeepsBits (fun _ => True) (awaitReady sleeps) := by
  induction sleeps with
  | zero => exact trivial
  | succ sleeps ih =>
    refine keepsBits_call keepsBits_componentReady fun ready => ?_
    refine keepsBits_stop fun _ => ?_
    exact ih

theorem keepsBits_startAndAwait : KeepsBits (fun _ => True) startAndAwait := by
  refine keepsBits_ask fun nowMs => keepsBits_call (keepsBits_startLocked _) fun started => ?_
  split
  next =>
    exact keepsBits_ask fun sleeps => keepsBits_call (keepsBits_awaitReady sleeps) fun _ =>
      keepsBits_componentReady
  next => exact trivial

theorem keepsBits_upLocked (deadlineMs : UInt64) :
    KeepsBits (fun _ => True) (storageUpLocked deadlineMs) := by
  refine keepsBits_call keepsBits_componentReady fun ready => ?_
  refine keepsBits_stop fun _ => ?_
  refine keepsBits_call (keepsBits_downLocked _) fun down => ?_
  refine keepsBits_stop fun _ => ?_
  refine keepsBits_fetch trivial fun c hc => ?_
  refine keepsBits_storeSet hc _ (fun b hb => has_of_masks rfl rfl rfl rfl hb) fun r _ => ?_
  refine keepsBits_stop fun _ => ?_
  refine keepsBits_ask fun _ => keepsBits_call keepsBits_startAndAwait fun result => ?_
  refine keepsBits_stop fun _ => ?_
  exact keepsBits_call (keepsBits_downLocked _) fun down =>
    keepsBits_call (keepsBits_fenceIf _) fun _ => trivial

theorem captureAll_has (resources : List Nat) (c : StorageServiceControl) :
    KeepsBits (fun v => ∀ b, c.Has b → v.Has b) (captureAll resources c) := by
  induction resources generalizing c with
  | nil => exact fun _ h => h
  | cons resource rest ih =>
    refine keepsBits_call (keepsBits_callLayer _) fun captured => ?_
    split
    next => exact ih c
    next =>
      refine (ih _).mono fun v hv b hb => hv b ?_
      cases b with
      | quarantined r => exact names_or.mpr (Or.inl hb)
      | readOnly r => exact names_or.mpr (Or.inl hb)
      | adminDown r => exact hb
      | adminFailed r => exact hb

theorem keepsBits_inventory : KeepsBits (fun _ => True) storageServiceInventoryMedia := by
  refine keepsBits_ask fun initialized => keepsBits_ask fun driveCount => ?_
  refine keepsBits_stop fun _ => ?_
  refine keepsBits_fetch trivial fun c hc => ?_
  refine Keeps.seq (captureAll_has _ c.value) fun v hv => keepsBits_ask fun nowMs => ?_
  exact keepsBits_storeSet hc _ (fun b hb => has_of_masks rfl rfl rfl rfl (hv b hb)) fun _ _ => trivial

theorem keepsBits_bind (pid : Int) (generation : UInt32) :
    KeepsBits (fun _ => True) (storageServiceBind pid generation) := by
  refine keepsBits_ask fun initialized => keepsBits_ask fun enabled => ?_
  refine keepsBits_stop fun _ => ?_
  refine keepsBits_fetch trivial fun c hc => keepsBits_ask fun nowMs => keepsBits_ask fun alive => ?_
  refine keepsBits_stop fun _ => keepsBits_ask fun result => ?_
  refine keepsBits_stop fun _ => ?_
  refine keepsBits_storeSet hc _ (fun b hb => has_of_masks rfl rfl rfl rfl hb) fun r _ => ?_
  refine keepsBits_ite (fun _ _ => trivial) fun _ => ?_
  exact keepsBits_ite (fun _ _ => trivial) fun _ => trivial

theorem keepsBits_affinity (cpuAffinityMask : UInt32) :
    KeepsBits (fun _ => True) (storageServiceSetCurrentAffinity cpuAffinityMask) := by
  refine keepsBits_stop fun _ => keepsBits_fetch trivial fun c hc => ?_
  refine keepsBits_ask fun alive => keepsBits_stop fun _ => ?_
  refine keepsBits_storeSet hc _ (fun b hb => has_of_masks rfl rfl rfl rfl hb) fun r _ => ?_
  exact keepsBits_stop fun _ _ => trivial

theorem keepsBits_maskValid (resourceMask : UInt32) :
    KeepsBits (fun _ => True) (adminResourceMaskValid resourceMask) := fun _ _ => trivial

theorem keepsBits_adminBegin (resourceMask : UInt32) (requireDown : Bool) :
    KeepsBits (fun _ => True) (storageServiceAdminBegin resourceMask requireDown) := by
  refine keepsBits_call (keepsBits_maskValid _) fun valid => keepsBits_stop fun _ => ?_
  refine keepsBits_fetch trivial fun c hc => keepsBits_stop fun _ => ?_
  exact keepsBits_storeSet hc _ (fun b hb => has_of_masks rfl rfl rfl rfl hb) fun _ _ => trivial

theorem keepsBits_adminFinish (resourceMask : UInt32) (mode : AdminMode) :
    KeepsBits (fun _ => True) (storageServiceAdminFinish resourceMask mode) := by
  refine keepsBits_call (keepsBits_maskValid _) fun valid => keepsBits_stop fun _ => ?_
  refine keepsBits_fetch trivial fun c hc => keepsBits_stop fun _ => ?_
  refine keepsBits_stop fun _ => ?_
  exact keepsBits_clear (Carries.retained_of hc (finishedControl_retained _ _)) fun _ => trivial

theorem keepsBits_adminFail (resourceMask : UInt32) :
    KeepsBits (fun _ => True) (storageServiceAdminFail resourceMask) := by
  refine keepsBits_call (keepsBits_maskValid _) fun valid => keepsBits_stop fun _ => ?_
  refine keepsBits_fetch trivial fun c hc => ?_
  exact keepsBits_storeSet hc _ (fun b hb => failedControl_has _ hb) fun _ _ => trivial

theorem keepsBits_authorized (pid : Int) (generation : UInt32) :
    KeepsBits (fun _ => True) (storageServiceAuthorized pid generation) := by
  refine keepsBits_ask fun initialized => keepsBits_ask fun enabled => ?_
  refine keepsBits_stop fun _ => keepsBits_fetch trivial fun c _ => ?_
  exact keepsBits_stop fun _ _ => trivial

theorem keepsBits_repairIdentity (resource : Nat) (pid : Int) (generation fingerprint : UInt32) :
    KeepsBits (fun ok => ok = true → resource < maxDrives)
      (repairIdentityCurrent resource pid generation fingerprint) := by
  refine keepsBits_ask fun driveCount => ?_
  refine keepsBits_ite (fun _ h => absurd h (by simp)) fun hn => ?_
  have hr : resource < maxDrives := Nat.lt_of_not_le fun h => hn (Or.inl h)
  refine keepsBits_call (keepsBits_authorized _ _) fun authorized => ?_
  refine keepsBits_ite (fun _ h => absurd h (by simp)) fun _ => ?_
  refine keepsBits_fetch (keepsBits_ask fun expected => keepsBits_ask fun kind => fun _ => hr)
    fun c _ => keepsBits_ask fun expected => keepsBits_ask fun kind => ?_
  split
  next => exact fun _ => hr
  next => exact fun _ => hr

theorem keepsBits_restoreIfAlone (c : StorageServiceControl) (resource : Nat) :
    KeepsBits (fun _ => True) (restoreIfAlone c resource) := by
  refine keepsBits_ite (fun _ => ?_) fun _ => trivial
  refine keepsBits_call (keepsBits_callLayer _) fun writes => ?_
  exact keepsBits_ite (fun _ => keepsBits_callLayer .restoreMutations) fun _ => trivial

theorem keepsBits_repairLocked (resource : Nat) (pid : Int) (generation fingerprint : UInt32) :
    KeepsBits (fun _ => True) (repairPublishLocked resource pid generation fingerprint) := by
  refine Keeps.seq (keepsBits_repairIdentity _ _ _ _) fun current hcurrent => ?_
  refine keepsBits_stop fun hn => keepsBits_fetch trivial fun c hc => ?_
  have hr : resource < maxDrives := hcurrent (by simpa using hn)
  refine keepsBits_call (keepsBits_restoreIfAlone _ _) fun restored => ?_
  refine keepsBits_stop fun _ => ?_
  exact keepsBits_clear (Carries.retained_of hc (repairedControl_retained hr (Or.inl rfl))) fun _ => trivial

theorem probeCandidate_lt {c : StorageServiceControl} {objectFences : UInt32} {resource : Nat}
    (h : probeCandidate c objectFences = some resource) : resource < maxDrives := by
  obtain ⟨count, -, rfl⟩ := List.mem_map.mp (List.mem_of_find?_eq_some h)
  exact Nat.mod_lt _ (by decide)

theorem keepsBits_recoverWrites (c : StorageServiceControl) (resource : Nat) :
    KeepsBits (fun _ => True) (recoverWrites c resource) := by
  refine keepsBits_stop fun _ => keepsBits_call (keepsBits_callLayer _) fun journal => ?_
  refine keepsBits_stop fun _ => keepsBits_call (keepsBits_callLayer _) fun tested => ?_
  refine keepsBits_stop fun _ => keepsBits_call (keepsBits_callLayer _) fun writes => ?_
  exact keepsBits_stop fun _ => keepsBits_callLayer .restoreMutations

theorem keepsBits_finishProbe (h : CarriesBits control) {resource : Nat} (hr : resource < maxDrives)
    (recovered : Bool) (nowMs : UInt64) :
    KeepsBits (fun _ => True) (finishProbe control resource recovered nowMs) := by
  refine keepsBits_clear (Carries.retained_of h fun b hb => ?_) fun _ => keepsBits_fenceIf _
  cases recovered with
  | false => exact Or.inl (probedControl_has _ _ _ hb)
  | true =>
    rcases repairedControl_retained hr (Or.inr rfl) b hb with hv | hcl
    · exact Or.inl (probedControl_has _ _ _ (has_of_masks rfl rfl rfl rfl hv))
    · exact Or.inr hcl

theorem keepsBits_reintegrate (h : CarriesBits control) {resource : Nat} (hr : resource < maxDrives)
    (matched : Bool) (nowMs : UInt64) :
    KeepsBits (fun _ => True) (reintegrate control resource matched nowMs) := by
  refine keepsBits_storeSet h _ (fun b hb => has_of_masks rfl rfl rfl rfl hb) fun r hc => ?_
  refine keepsBits_ite (fun _ => keepsBits_fenceAll) fun _ => ?_
  refine keepsBits_ite (fun _ => keepsBits_finishProbe hc hr _ _) fun _ => ?_
  refine keepsBits_ite (fun _ => keepsBits_finishProbe hc hr _ _) fun _ => ?_
  refine keepsBits_call (keepsBits_recoverWrites _ _) fun recovered => ?_
  exact keepsBits_call (keepsBits_fenceIf _) fun _ => keepsBits_finishProbe hc hr _ _

theorem keepsBits_pollReintegration (nowMs : UInt64) :
    KeepsBits (fun _ => True) (pollMediaReintegration nowMs) := by
  refine keepsBits_call keepsBits_guardFenced fun fences => ?_
  cases fences with
  | none => exact trivial
  | some objectFences =>
    refine keepsBits_fetch keepsBits_fenceAll fun c hc => keepsBits_stop fun _ => ?_
    cases hp : probeCandidate c.value objectFences with
    | none => exact keepsBits_fenceAll
    | some resource =>
      refine keepsBits_call (keepsBits_callLayer _) fun matched => keepsBits_reread hc fun r hr => ?_
      exact keepsBits_stop fun _ =>
        keepsBits_reintegrate hr (probeCandidate_lt hp) matched nowMs

theorem keepsBits_pollRestart (h : CarriesBits control) (nowMs : UInt64) :
    KeepsBits (fun _ => True) (pollRestart control nowMs) := by
  refine Keeps.seq (keepsBits_ite (fun _ => keepsBits_pure h) fun _ => keepsBits_spawnService h nowMs)
    fun r hr => keepsBits_stop fun _ => keepsBits_call keepsBits_fenceAll fun _ => ?_
  refine keepsBits_storeSet hr _ (fun b hb => degradedControl_has hb) fun _ _ => ?_
  exact keepsBits_ite (fun _ _ => trivial) fun _ => trivial

theorem keepsBits_pollRetire (h : CarriesBits control) (nowMs : UInt64) :
    KeepsBits (fun _ => True) (pollRetire control nowMs) := by
  refine Keeps.seq (keepsBits_ite (fun _ => keepsBits_retirementBegin h _ _ _) fun _ => keepsBits_pure h)
    fun r hr => keepsBits_stop fun _ => ?_
  refine Keeps.seq (keepsBits_retirementStep hr nowMs) fun r' hr' => ?_
  exact keepsBits_stop fun _ => keepsBits_pollRestart hr' nowMs

theorem keepsBits_pollLifecycle (h : CarriesBits control) (nowMs : UInt64) :
    KeepsBits (fun _ => True) (pollLifecycle control nowMs) := by
  refine keepsBits_stop fun _ => ?_
  refine keepsBits_ite (fun _ => keepsBits_pollRestart h nowMs) fun _ => keepsBits_ask fun alive => ?_
  exact keepsBits_stop fun _ => keepsBits_pollRetire h nowMs

theorem keepsBits_pollService (nowMs : UInt64) : KeepsBits (fun _ => True) (pollService nowMs) := by
  refine keepsBits_fetch keepsBits_fenceAll fun c hc => keepsBits_call keepsBits_guardFenced fun fences => ?_
  cases fences with
  | none => exact trivial
  | some objectFences =>
    refine keepsBits_ask fun observed => keepsBits_ask fun _ => ?_
    have hexpired : ∀ observed : UInt32, KeepsBits (fun _ => True)
        (if objectFences &&& ~~~observed ≠ 0 then pure true
        else if c.value.retiring ≠ 0 then pure false
        else vfsFileRepairExpired c.value.pid c.value.generation nowMs) := fun observed =>
      keepsBits_stop fun _ => keepsBits_stop fun _ =>
        keepsBits_guardCall false fun _ => trivial
    refine keepsBits_call (hexpired _) fun expired => ?_
    refine keepsBits_ite (fun _ => keepsBits_pollLifecycle hc nowMs) fun _ => ?_
    refine Keeps.seq (keepsBits_retirementBegin hc _ _ _) fun r hr => ?_
    exact keepsBits_stop fun _ => keepsBits_ask fun _ => keepsBits_pollLifecycle hr nowMs

theorem keepsBits_pollLocked (nowMs : UInt64) : KeepsBits (fun _ => True) (pollLocked nowMs) := by
  refine keepsBits_call (keepsBits_guardPoll nowMs) fun polled => ?_
  refine keepsBits_stop fun _ => keepsBits_ask fun _ => ?_
  refine keepsBits_call (keepsBits_pollReintegration nowMs) fun _ => ?_
  refine keepsBits_ask fun enabled => keepsBits_ask fun started => keepsBits_ask fun starting => ?_
  exact keepsBits_stop fun _ => keepsBits_pollService nowMs

theorem keepsBits_locked {α : Type} {x : Service α} (h : KeepsBits (fun _ => True) x) (refused : α) :
    KeepsBits (fun _ => True) (do
      let entered ← lifecycleEnter
      if !entered then pure refused
      else
        let result ← x
        Prog.leave
        pure result) :=
  keepsBits_call keepsBits_lifecycleEnter fun _ => keepsBits_stop fun _ =>
    keepsBits_call h fun _ => trivial

theorem storageEntry_keepsBits (e : StorageEntry) : KeepsBits (fun _ => True) e.program := by
  cases e with
  | poll nowMs =>
    refine keepsBits_ask fun initialized => keepsBits_stop fun _ => ?_
    refine keepsBits_call keepsBits_lifecycleEnter fun _ => keepsBits_stop fun _ => ?_
    exact keepsBits_call (keepsBits_pollLocked nowMs) fun _ => trivial
  | reportMediaFailure resource writeUncertain =>
    exact keepsBits_ignore (keepsBits_report resource writeUncertain)
  | inventoryMedia => exact keepsBits_ignore keepsBits_inventory
  | start nowMs => exact keepsBits_ignore (keepsBits_locked (keepsBits_startLocked nowMs) false)
  | bind pid generation => exact keepsBits_ignore (keepsBits_bind pid generation)
  | setCurrentAffinity mask => exact keepsBits_ignore (keepsBits_affinity mask)
  | adminBegin mask requireDown => exact keepsBits_ignore (keepsBits_adminBegin mask requireDown)
  | adminFinish mask mode => exact keepsBits_ignore (keepsBits_adminFinish mask mode)
  | adminFail mask => exact keepsBits_ignore (keepsBits_adminFail mask)
  | repairPublish resource pid generation fingerprint =>
    refine keepsBits_ignore (keepsBits_call keepsBits_lifecycleEnter fun _ => ?_)
    refine keepsBits_stop fun _ => ?_
    refine keepsBits_call (keepsBits_repairLocked resource pid generation fingerprint) fun ok => ?_
    exact keepsBits_call (keepsBits_fenceIf _) fun _ => trivial
  | componentDown deadlineMs =>
    exact keepsBits_ignore (keepsBits_locked (keepsBits_downLocked deadlineMs) false)
  | componentUp deadlineMs =>
    refine keepsBits_ignore (keepsBits_ask fun initialized => keepsBits_ask fun nowMs => ?_)
    refine keepsBits_stop fun _ => ?_
    exact keepsBits_locked (keepsBits_upLocked deadlineMs) false

end ReistOs
