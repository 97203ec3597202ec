import ReistOs.VfsRepairInvariant

/-! The four layers of a repair: what it means that all are fenced or clear, and what the steps of a
commit and of its failure path leave of them. -/

namespace ReistOs

open Attempt

/-- The pool fences a resource, all resources when it is poisoned. -/
def PoolFenced (resource : Nat) (s : VfsRepairState) : Prop :=
  s.pool.poisoned = true ∨ Names s.pool.fences resource

/-- The service withholds a resource, unless its control record is lost; then it stops all writes. -/
def Quarantined (resource : Nat) (s : VfsRepairState) : Prop :=
  (s.controlFailed = true ∨
    (Names s.control.quarantinedResources resource ∧ Names s.control.readOnlyResources resource)) ∧
  s.writesFenced = true

/-- Every layer withholds the resource; a record that cannot be written poisons its layer. -/
structure FencedEverywhere (resource : Nat) (s : VfsRepairState) : Prop where
  guard : Names s.guard.control.fenced resource
  pool : PoolFenced resource s
  service : Quarantined resource s
  record : s.repairPoisoned = true ∨ ∃ r, s.records resource = some r ∧ r.state = .failed

structure ClearedEverywhere (resource : Nat) (s : VfsRepairState) : Prop where
  guard : s.guard.poisoned = false ∧ ¬ Names s.guard.control.fenced resource
  pool : ¬ PoolFenced resource s
  quarantined : ¬ Names s.control.quarantinedResources resource
  readOnly : ¬ Names s.control.readOnlyResources resource
  record : ∃ r, s.records resource = some r ∧ r.state = .verified

section Pool

variable {P : VfsRepairState → Prop} {resource : Nat} {owner : FileObjectOwner}

theorem mutationFencesRead_spec :
    Triple P mutationFencesRead
      (fun mask s => (P s ∧ s.pool.poisoned = false) ∧ mask = if s.pool.initialized then s.pool.fences else 0)
      (fun _ s => P s ∧ s.pool.poisoned = true) := by
  refine Triple.bind (Triple.get (Q := fun s1 s => P s ∧ s = s1) fun s hs => ⟨hs, rfl⟩) fun s1 => ?_
  refine Triple.ite (fun hp => Triple.fail fun s hs => ⟨hs.1, hs.2 ▸ hp⟩) fun hp => ?_
  have hhealthy : s1.pool.poisoned = false := by simpa using hp
  refine Triple.ite (fun hi => Triple.pure fun s hs => ?_) fun hi => Triple.pure fun s hs => ?_
  · rw [hs.2]
    exact ⟨⟨hs.2 ▸ hs.1, hhealthy⟩, by simp at hi; simp [hi]⟩
  · rw [hs.2]
    exact ⟨⟨hs.2 ▸ hs.1, hhealthy⟩, by simp at hi; simp [hi]⟩

theorem mutationFencesWrite_spec (hP : ∀ s s', PoolMove s s' → P s → P s') {mask : UInt32} {b : Bool} :
    Triple (fun s => P s ∧ s.pool.poisoned = b) (mutationFencesWrite mask)
      (fun _ s => P s ∧ s.pool.poisoned = b ∧ s.pool.fences = mask) (fun _ s => P s ∧ s.pool.poisoned = true) := by
  refine Triple.bind (Triple.get (Q := fun _ s => P s ∧ s.pool.poisoned = b) fun _ h => h) fun s1 => ?_
  refine Triple.drawn fun stored => ?_
  refine Triple.ite (fun _ => Triple.modify fun s hs => ⟨?_, hs.2, rfl⟩) fun _ => ?_
  · exact hP s _ ⟨rfl, rfl, rfl, rfl, rfl, rfl, rfl⟩ hs.1
  · refine Triple.bind (Q := fun _ s => P s ∧ s.pool.poisoned = true) (Triple.modify fun s hs => ⟨?_, rfl⟩)
      fun _ => Triple.fail fun _ h => h
    exact hP s _ ⟨rfl, rfl, rfl, rfl, rfl, rfl, rfl⟩ hs.1

theorem not_names_zero (r : Nat) : ¬ Names 0 r := by
  unfold Names
  simp

theorem storageRequestRecoveryRefence_fences (hP : ∀ s s', PoolMove s s' → P s → P s') (hr : resource < 32) :
    Triple P (storageRequestRecoveryRefence resource) (fun _ s => P s ∧ PoolFenced resource s)
      (fun _ s => P s ∧ PoolFenced resource s) := by
  refine Triple.bind (Triple.refuse (Q := fun _ => P) (fun s _ h => absurd hr (not_lt.mpr h)) fun _ h _ => h) fun _ => ?_
  refine Triple.bind (mutationFencesRead_spec.errors
    fun _ s h => ⟨h.1, Or.inl h.2⟩) fun mask => ?_
  refine Triple.ite (fun hmask => Triple.pure fun s hs => ⟨hs.1.1, Or.inr ?_⟩) fun _ => ?_
  · rw [hs.2] at hmask
    split at hmask
    · exact hmask
    · exact absurd hmask (not_names_zero resource)
  · refine (mutationFencesWrite_spec hP).weaken (fun s hs => hs.1) (fun _ s hs => ⟨hs.1, Or.inr ?_⟩)
      fun _ s hs => ⟨hs.1, Or.inl hs.2⟩
    rw [hs.2.2]
    exact names_or.mpr (Or.inr ((names_bit hr).mpr rfl))

theorem storageRequestRecoveryClear_clears (hP : ∀ s s', PoolMove s s' → P s → P s') (hr : resource < 32) :
    Triple P (storageRequestRecoveryClear owner resource) (fun _ s => P s ∧ ¬ PoolFenced resource s)
      (fun _ => P) := by
  refine Triple.bind Keeps.refuse fun _ => ?_
  refine Triple.bind (mutationFencesRead_spec.errors fun _ s h => h.1) fun mask => ?_
  refine Triple.bind (Triple.get (Q := fun s1 s => ((P s ∧ s.pool.poisoned = false) ∧
    mask = if s.pool.initialized then s.pool.fences else 0) ∧ s = s1) fun s hs => ⟨hs, rfl⟩) fun s1 => ?_
  refine Triple.bind (Triple.refuse (Q := fun _ s => (P s ∧ s.pool.poisoned = false) ∧ mask = s.pool.fences)
    (fun _ h _ => h.1.1.1) fun s h hn => ⟨h.1.1, ?_⟩) fun _ => ?_
  · have hinit : s.pool.initialized = true := by
      rw [h.2]
      simpa using hn
    rw [h.1.2, if_pos hinit]
  refine Triple.bind (Keeps.refuse.triple fun _ _ h => h.1.1) fun _ => ?_
  refine Triple.bind (Keeps.refuse.triple fun _ _ h => h.1.1) fun _ => ?_
  refine Triple.ite (fun _ => ?_) fun hmask => Triple.pure fun s hs => ⟨hs.1.1, ?_⟩
  · refine (mutationFencesWrite_spec hP).weaken (fun s hs => hs.1) (fun _ s hs => ⟨hs.1, ?_⟩) fun _ _ h => h.1
    rintro (hp | hf)
    · rw [hs.2.1] at hp
      cases hp
    · rw [hs.2.2] at hf
      exact not_names_cleared hr hf
  · rintro (hp | hf)
    · rw [hs.1.2] at hp
      cases hp
    · exact hmask ⟨rfl, hs.2 ▸ hf⟩

end Pool

variable {P : VfsRepairState → Prop} {resource other : Nat} {owner : FileObjectOwner} {fingerprint : UInt32}

variable {c : StorageServiceControl} {u : Bool} {now : UInt64}

theorem quarantinedControl_names (hq : Names c.quarantinedResources resource)
    (hr : Names c.readOnlyResources resource) :
    Names (quarantinedControl c other u now).quarantinedResources resource ∧
      Names (quarantinedControl c other u now).readOnlyResources resource := by
  unfold quarantinedControl
  refine ⟨names_or.mpr (Or.inl hq), ?_⟩
  split
  · exact names_or.mpr (Or.inl hr)
  · exact hr

theorem quarantinedControl_own (hr : resource < 32) :
    Names (quarantinedControl c resource true now).quarantinedResources resource ∧
      Names (quarantinedControl c resource true now).readOnlyResources resource :=
  ⟨names_or.mpr (Or.inr ((names_bit hr).mpr rfl)), names_or.mpr (Or.inr ((names_bit hr).mpr rfl))⟩

theorem quarantinedControl_other (ho : other < 32) (hne : resource ≠ other)
    (hq : ¬ Names c.quarantinedResources resource) (hr : ¬ Names c.readOnlyResources resource) :
    ¬ Names (quarantinedControl c other u now).quarantinedResources resource ∧
      ¬ Names (quarantinedControl c other u now).readOnlyResources resource := by
  have hbit : ¬ Names (resourceBit other) resource := fun h => hne ((names_bit ho).mp h)
  unfold quarantinedControl
  refine ⟨fun h => (names_or.mp h).elim hq hbit, ?_⟩
  split
  · exact fun h => (names_or.mp h).elim hr hbit
  · exact hr

theorem reportMediaFailure_keeps {R : VfsRepairState → Prop}
    (hpending : ∀ s m, R s → R { s with pendingMedia := m })
    (hfence : ∀ s, R s → R { s with writesFenced := true })
    (hlost : ∀ s, R s → R { s with controlFailed := true })
    (hwrite : ∀ s now, R s → R { s with control := quarantinedControl s.control other u now }) :
    Keeps R (reportMediaFailure other u) := by
  have hfences : Keeps R fenceWrites := Keeps.modify hfence
  have hlosts : Keeps R storageControlLost := Keeps.modify hlost
  have hchanged : Keeps R (fileObjectGuardMediaChanged other) :=
    Keeps.guard fun _ => Keeps.draw.bind fun _ => Keeps.modify fun s hs => hpending s _ hs
  refine Keeps.get.bind fun s => Keeps.ite (fun _ => hfences.bind fun _ => Keeps.pure) fun _ => ?_
  have hread : Triple R storageControlRead (fun o s => R s ∧ ∀ c, o = some c → s.control = c) (fun _ => R) := by
    refine Triple.bind (Triple.get (Q := fun s1 s => R s ∧ s = s1) fun s hs => ⟨hs, rfl⟩) fun s1 => ?_
    refine Triple.ite (fun _ => Triple.pure fun s hs => ⟨hs.1, fun c hc => ?_⟩) fun _ => ?_
    · rw [hs.2]
      exact Option.some.inj hc
    · refine Triple.bind (hlosts.pre fun _ h => h.1) fun _ => Triple.pure fun s hs => ⟨hs, fun c hc => by cases hc⟩
  refine Triple.bind hread fun o => ?_
  cases o with
  | none => exact Triple.pre (hfences.bind fun _ => Keeps.pure) fun _ h => h.1
  | some c =>
    refine Triple.bind (Triple.draw (Q := fun _ s => R s ∧ s.control = c) fun _ s hs => ⟨hs.1, hs.2 c rfl⟩) fun now => ?_
    have hstore : Triple (fun s => R s ∧ s.control = c) (storageControlWrite (quarantinedControl c other u now))
        (fun _ => R) (fun _ => R) := by
      refine Triple.drawn fun stored => Triple.ite (fun _ => ?_) fun _ => ?_
      · refine Triple.bind (Triple.modify (Q := fun _ => R) fun s hs => ?_) fun _ => Triple.ret
        rw [← hs.2]
        exact hwrite s now hs.1
      · exact Triple.bind (hlosts.pre fun _ h => h.1) fun _ => Triple.ret
    refine Triple.bind hstore fun stored => ?_
    refine (Keeps.ite (fun _ => hfences) fun _ => Keeps.pure).bind fun _ => ?_
    exact (Keeps.ite (fun _ => Keeps.ite (fun _ => hchanged) fun _ => Keeps.pure) fun _ => Keeps.pure).bind fun _ =>
      Keeps.pure

variable (hP : ∀ s s', ServiceMove s s' → P s → P s')
include hP

theorem storageControlWrite_spec {control : StorageServiceControl} :
    Triple P (storageControlWrite control)
      (fun stored s => P s ∧ ((stored = true ∧ s.control = control) ∨ (stored = false ∧ s.controlFailed = true)))
      (fun _ _ => False) := by
  refine Triple.drawn fun stored => Triple.ite (fun _ => ?_) fun _ => ?_
  · refine Triple.bind (Triple.modify (Q := fun _ s => P s ∧ s.control = control) fun s hs => ⟨?_, rfl⟩) fun _ =>
      Triple.pure fun s hs => ⟨hs.1, Or.inl ⟨rfl, hs.2⟩⟩
    exact hP s _ ⟨rfl, rfl, rfl, rfl, rfl⟩ hs
  · refine Triple.bind (Triple.modify (Q := fun _ s => P s ∧ s.controlFailed = true) fun s hs => ⟨?_, rfl⟩) fun _ =>
      Triple.pure fun s hs => ⟨hs.1, Or.inr ⟨rfl, hs.2⟩⟩
    exact hP s _ ⟨rfl, rfl, rfl, rfl, rfl⟩ hs

theorem reportMediaFailure_quarantines (hr : resource < maxDrives)
    (hinit : ∀ s, P s → s.initialized = true) :
    Triple P (reportMediaFailure resource true) (fun _ s => P s ∧ Quarantined resource s) (fun _ _ => False) := by
  have hr32 : resource < 32 := lt_trans hr (by decide)
  have hfence : ∀ B : VfsRepairState → Prop, (∀ s s', ServiceMove s s' → s'.control = s.control →
      s'.controlFailed = s.controlFailed → B s → B s') →
      Triple B fenceWrites (fun _ s => B s ∧ s.writesFenced = true) (fun _ _ => False) := fun B hB =>
    Triple.modify fun s hs => ⟨hB s _ ⟨rfl, rfl, rfl, rfl, rfl⟩ rfl rfl hs, rfl⟩
  refine Triple.bind (Triple.get (Q := fun s1 s => P s ∧ s = s1) fun s hs => ⟨hs, rfl⟩) fun s1 => ?_
  refine Triple.ite (fun hbad => fun w n s hs => ?_) fun _ => ?_
  · have hini := hinit s hs.1
    rw [hs.2] at hini
    rcases hbad with hbad | hbad
    · exact absurd hr (not_lt.mpr hbad)
    · rw [hini] at hbad
      cases hbad
  have hread : Triple (fun s => P s ∧ s = s1) storageControlRead
      (fun o s => P s ∧ (o = none → s.controlFailed = true)) (fun _ _ => False) := by
    refine Triple.bind (Triple.get (Q := fun _ => P) fun s hs => hs.1) fun s2 => ?_
    refine Triple.ite (fun _ => Triple.pure fun s hs => ⟨hs, nofun⟩) fun _ => ?_
    refine Triple.bind (Triple.modify (Q := fun _ s => P s ∧ s.controlFailed = true) fun s hs => ⟨?_, rfl⟩) fun _ =>
      Triple.pure fun s hs => ⟨hs.1, fun _ => hs.2⟩
    exact hP s _ ⟨rfl, rfl, rfl, rfl, rfl⟩ hs
  refine Triple.bind hread fun o => ?_
  cases o with
  | none =>
    refine Triple.bind (Triple.pre (hfence (fun s => P s ∧ s.controlFailed = true) fun s s' hm _ hf h =>
      ⟨hP s s' hm h.1, hf.trans h.2⟩) fun s hs => ⟨hs.1, hs.2 rfl⟩) fun _ => ?_
    exact Triple.pure fun s hs => ⟨hs.1.1, Or.inl hs.1.2, hs.2⟩
  | some c =>
    refine Triple.bind (Triple.draw fun _ s hs => hs.1) fun now => Triple.bind (storageControlWrite_spec hP) fun stored => ?_
    have hbits : ∀ s, (P s ∧ ((stored = true ∧ s.control = quarantinedControl c resource true now) ∨
        (stored = false ∧ s.controlFailed = true))) → P s ∧ (s.controlFailed = true ∨
        (Names s.control.quarantinedResources resource ∧ Names s.control.readOnlyResources resource)) := by
      rintro s ⟨hs, ⟨-, hc⟩ | ⟨-, hc⟩⟩
      · rw [hc]
        exact ⟨hs, Or.inr (quarantinedControl_own hr32)⟩
      · exact ⟨hs, Or.inl hc⟩
    refine Triple.bind (Triple.pre (Triple.ite (fun _ => hfence (fun s => P s ∧ (s.controlFailed = true ∨
      (Names s.control.quarantinedResources resource ∧ Names s.control.readOnlyResources resource)))
      fun s s' hm hc hf h => ⟨hP s s' hm h.1, by rw [hc, hf]; exact h.2⟩) fun hn => absurd (Or.inr rfl) hn) hbits) fun _ => ?_
    have hannounced : Triple (fun s => (P s ∧ (s.controlFailed = true ∨
        (Names s.control.quarantinedResources resource ∧ Names s.control.readOnlyResources resource))) ∧
        s.writesFenced = true) (if stored then quarantineAnnounced c resource else pure ())
        (fun _ s => P s ∧ Quarantined resource s) (fun _ _ => False) := by
      refine Triple.pre (Triple.ite (fun _ => Triple.ite (fun _ => ?_) fun _ => ?_) fun _ => ?_)
        fun s hs => (⟨hs.1.1, hs.1.2, hs.2⟩ : P s ∧ Quarantined resource s)
      · refine Triple.ite (fun _ => Triple.ret) fun _ => Triple.bind (Triple.draw fun _ _ h => h)
          fun others => Triple.modify fun s hs => ⟨?_, hs.2⟩
        exact hP s _ ⟨rfl, rfl, rfl, rfl, rfl⟩ hs.1
      · exact Triple.ret
      · exact Triple.ret
    exact Triple.bind hannounced fun _ => Triple.ret

theorem serviceAuthorized_initialized :
    Triple P (serviceAuthorized owner) (fun ok s => P s ∧ (ok = true → s.initialized = true)) (fun _ => P) := by
  refine Triple.bind (Triple.get (Q := fun s1 s => P s ∧ s.initialized = s1.initialized) fun s hs => ⟨hs, rfl⟩) fun s1 => ?_
  have hkeep : ∀ s s', ServiceMove s s' → (P s ∧ s.initialized = s1.initialized) →
      (P s' ∧ s'.initialized = s1.initialized) := fun s s' hm h => ⟨hP s s' hm h.1, hm.initialized.trans h.2⟩
  refine Triple.drawn fun enabled => ?_
  refine Triple.bind ((Keeps.of_moves (fun _ => storageControlRead_moves) ServiceMove.refl hkeep).triple
    fun _ _ h => h.1) fun o => Triple.drawn fun alive => ?_
  cases o with
  | none => exact Triple.pure fun s hs => ⟨hs.1, nofun⟩
  | some c =>
    refine Triple.pure fun s hs => ⟨hs.1, fun h => ?_⟩
    simp only [Bool.and_eq_true] at h
    rw [hs.2]
    exact h.1.1.1.1.1.1

theorem repairIdentity_known :
    Triple P (repairIdentity resource owner fingerprint)
      (fun ok s => P s ∧ (ok = true → resource < maxDrives ∧ s.initialized = true)) (fun _ => P) := by
  refine Triple.drawn fun driveCount => ?_
  refine Triple.bind (serviceAuthorized_initialized hP) fun authorized => ?_
  have hkeep : ∀ s s', ServiceMove s s' → (P s ∧ (authorized = true → s.initialized = true)) →
      (P s' ∧ (authorized = true → s'.initialized = true)) := fun s s' hm h =>
    ⟨hP s s' hm h.1, fun ha => hm.initialized.trans (h.2 ha)⟩
  refine Triple.bind ((Keeps.of_moves (fun _ => storageControlRead_moves) ServiceMove.refl hkeep).triple
    fun _ _ h => h.1) fun o => ?_
  refine Triple.drawn fun expected => Triple.drawn fun kind => ?_
  split
  · refine Triple.pure fun s hs => ⟨hs.1, fun h => ?_⟩
    simp only [Bool.and_eq_true] at h
    exact ⟨by simpa using h.1.1.1.1.1.1.1, hs.2 h.1.1.1.1.2⟩
  · exact Triple.pure fun s hs => ⟨hs.1, nofun⟩

theorem repairCheck_known :
    Triple P (repairCheck resource owner fingerprint)
      (fun ok s => P s ∧ (ok = true → resource < maxDrives ∧ s.initialized = true)) (fun _ => P) := by
  refine Triple.bind (repairIdentity_known hP) fun before => Triple.ite (fun _ => ?_) fun hb =>
    Triple.pure fun s hs => ⟨hs.1, nofun⟩
  refine Triple.pre ?_ (fun s hs => hs.1)
  refine Triple.bind (Keeps.of_moves (fun _ => deviceCall_moves) ServiceMove.refl hP) fun _ => ?_
  refine Triple.drawn fun matched => Triple.bind (repairIdentity_known hP) fun after => ?_
  refine Triple.pure fun s hs => ⟨hs.1, fun h => ?_⟩
  rw [Bool.and_eq_true] at h
  exact hs.2 h.2

theorem repairPublish_clears (hr : resource < 32) :
    Triple P (repairPublish resource owner fingerprint)
      (fun ok s => P s ∧ (ok = true → ¬ Names s.control.quarantinedResources resource ∧
        ¬ Names s.control.readOnlyResources resource)) (fun _ => P) := by
  have hpublished : Triple P (repairPublished resource owner fingerprint)
      (fun ok s => P s ∧ (ok = true → ¬ Names s.control.quarantinedResources resource ∧
        ¬ Names s.control.readOnlyResources resource)) (fun _ => P) := by
    refine Triple.bind (Keeps.of_moves (fun _ => repairIdentity_moves) ServiceMove.refl hP) fun current => ?_
    refine Triple.bind (Keeps.of_moves (fun _ => storageControlRead_moves) ServiceMove.refl hP) fun o => ?_
    split
    next c =>
      refine Triple.bind (Keeps.of_moves (fun _ => restoreWritesIfAlone_moves) ServiceMove.refl hP) fun restored => ?_
      refine Triple.ite (fun _ => ?_) fun _ => Triple.pure fun s hs => ⟨hs, nofun⟩
      refine (storageControlWrite_spec hP).ends (fun ok s hs => ⟨hs.1, fun hok => ?_⟩)
        fun _ _ h => h.elim
      rcases hs.2 with ⟨-, hc⟩ | ⟨hno, -⟩
      · rw [hc]
        exact ⟨not_names_cleared hr, not_names_cleared hr⟩
      · rw [hok] at hno
        cases hno
    next => exact Triple.pure fun s hs => ⟨hs, nofun⟩
  refine Triple.drawn fun entered => Triple.ite (fun _ => ?_) fun _ =>
    Triple.pure fun s hs => ⟨hs, nofun⟩
  refine Triple.bind hpublished fun ok => Triple.bind (Q := fun _ s => P s ∧ (ok = true →
    ¬ Names s.control.quarantinedResources resource ∧ ¬ Names s.control.readOnlyResources resource)) ?_ fun _ =>
      Triple.pure fun _ hs => hs
  refine Triple.ite (fun _ => Triple.ret) fun hn => Triple.modify fun s hs => ⟨?_, fun h => absurd h hn⟩
  exact hP s _ ⟨rfl, rfl, rfl, rfl, rfl⟩ hs.1

end ReistOs
