import ReistOs.StorageMaintenanceLeases

/-! Runs of the lease calls: exclusive, usable until the deadline, and never valid again
after their end. -/

namespace ReistOs

open LeaseCall

section Step

variable {m : StorageMaintenance}

theorem leaseCall_change (hm : m.Sound) (nowMs : UInt64) (call : LeaseCall) {slot : UInt32}
    (hs : slot < storageMaintenanceMaxResources) :
    LeaseChange nowMs slot (m.leaseObjects slot) call ((call.run nowMs m).2.leaseObjects slot) := by
  cases call with
  | init =>
    unfold run storageMaintenanceInit
    rw [if_pos hm.ready]
    exact .same _
  | acquire pid generation resource fingerprint =>
    simp only [run]
    obtain ⟨e, he⟩ | ⟨-, -, -, -, hfree, hroom, he⟩ := acquire_cases hm pid
      generation resource fingerprint nowMs
    · rw [he]
      exact .same _
    · rw [he]
      dsimp only
      by_cases hk : slot = resource
      · subst hk
        rw [Function.update_self]
        exact .acquired _ _ _ hfree hroom
      · rw [Function.update_of_ne hk]
        exact .same _
  | renew pid generation token fingerprint =>
    simp only [run]
    obtain ⟨-, he⟩ | ⟨k, -, s, hk, ha, hd, rfl, rfl, rfl, hx, he⟩ := renew_cases hm pid
      generation token fingerprint nowMs
    · rw [he]
      exact .same _
    · rw [he]
      dsimp only
      by_cases hks : slot = k
      · subst hks
        rw [Function.update_self, hk]
        exact .renewed _ ha hd hx
      · rw [Function.update_of_ne hks]
        exact .same _
  | release pid generation token =>
    simp only [run]
    obtain ⟨he, -⟩ | ⟨k, -, s, hk, ha, hd, rfl, rfl, he⟩ := release_cases hm pid
      generation token
    · rw [he]
      exact .same _
    · rw [he]
      dsimp only
      by_cases hks : slot = k
      · subst hks
        rw [Function.update_self, hk]
        exact .released _ ha hd
      · rw [Function.update_of_ne hks]
        exact .same _
  | valid pid generation token fingerprint => exact .same _
  | processCleanup pid generation =>
    simp only [run]
    obtain he | ⟨-, he⟩ := processCleanup_cases hm pid generation
    · rw [he]
      exact .same _
    · rw [he slot hs]
      unfold cleanedLease
      split
      next => exact .same _
      next h =>
        push Not at h
        obtain ⟨ha, rfl, rfl⟩ := h
        exact .cleaned ha

theorem leaseCall_sound (hm : m.Sound) (nowMs : UInt64) (call : LeaseCall) : (call.run nowMs m).2.Sound := by
  cases call with
  | init =>
    simp only [run, storageMaintenanceInit]
    rw [if_pos hm.ready]
    exact hm
  | acquire pid generation resource fingerprint =>
    simp only [run]
    obtain ⟨e, he⟩ | ⟨hp, hg, hf, -, -, hroom, he⟩ := acquire_cases hm pid
      generation resource fingerprint nowMs
    · rw [he]
      exact hm
    · rw [he]
      exact hm.set (leaseStateValid_acquired hp hg hf hroom)
  | renew pid generation token fingerprint =>
    simp only [run]
    obtain ⟨-, he⟩ | ⟨k, hk, s, rfl, ha, -, -, -, -, -, he⟩ := renew_cases hm pid
      generation token fingerprint nowMs
    · rw [he]
      exact hm
    · rw [he]
      exact hm.set (leaseStateValid_renewed (hm.valid k hk) ha)
  | release pid generation token =>
    simp only [run]
    obtain ⟨he, -⟩ | ⟨k, hk, s, rfl, -, -, -, -, he⟩ := release_cases hm pid
      generation token
    · rw [he]
      exact hm
    · rw [he]
      obtain ⟨h0, hg⟩ := leaseStateValid_parts (hm.valid k hk)
      exact hm.set (leaseStateValid_free h0 hg)
  | valid pid generation token fingerprint => exact hm
  | processCleanup pid generation =>
    simp only [run]
    obtain he | ⟨hs, -⟩ := processCleanup_cases hm pid generation
    · rw [he]
      exact hm
    · exact hs

theorem leaseCall_token (hm : m.Sound) {nowMs : UInt64} {call : LeaseCall} {token : UInt32}
    (h : (call.run nowMs m).1 = some token) : ∃ slot < storageMaintenanceMaxResources,
      (m.leaseObjects slot).tokenGeneration < storageMaintenanceTokenGenerationMax ∧
      token = makeToken slot ((m.leaseObjects slot).tokenGeneration + 1) ∧
      ((call.run nowMs m).2.leaseObjects slot).tokenGeneration =
        (m.leaseObjects slot).tokenGeneration + 1 := by
  cases call with
  | acquire pid generation resource fingerprint =>
    simp only [run] at h ⊢
    obtain ⟨e, he⟩ | ⟨-, -, -, hr, -, hroom, he⟩ := acquire_cases hm pid
      generation resource fingerprint nowMs
    · rw [he] at h
      exact absurd h (by simp [Except.toOption])
    · rw [he] at h ⊢
      refine ⟨resource, hr, hroom, ?_, ?_⟩
      · simpa [Except.toOption, eq_comm] using h
      · simp
  | _ => exact absurd h (by simp [run])

theorem LeaseChange.generation_le {nowMs : UInt64} {slot : UInt32} {s s' : StorageMaintenanceState} {call : LeaseCall}
    (h : LeaseChange nowMs slot s call s') : s.tokenGeneration.toNat ≤ s'.tokenGeneration.toNat := by
  cases h with
  | same => exact Nat.le_refl _
  | renewed => exact Nat.le_refl _
  | released => exact Nat.le_refl _
  | cleaned => exact Nat.le_refl _
  | acquired _ _ _ _ hroom =>
    rw [generation_succ hroom]
    omega

end Step

def storageMaintenanceStart : StorageMaintenance := storageMaintenanceInit ⟨false, fun _ => freeLease 0⟩

theorem storageMaintenanceStart_sound : storageMaintenanceStart.Sound := by
  refine ⟨rfl, fun slot hs => ?_⟩
  have hstart : storageMaintenanceStart.leaseObjects slot = freeLease 1 := if_pos hs
  rw [hstart]
  decide

section Runs

variable {m : StorageMaintenance}

theorem runLeases_sound (hm : m.Sound) (calls : List (UInt64 × LeaseCall)) :
    (runLeases m calls).2.Sound := by
  induction calls generalizing m with
  | nil => exact hm
  | cons c calls ih => exact ih (leaseCall_sound hm c.1 c.2)

theorem runLeases_keeps {slot : UInt32} (hs : slot < storageMaintenanceMaxResources)
    {P : StorageMaintenanceState → Prop} (calls : List (UInt64 × LeaseCall))
    (hstep : ∀ c ∈ calls, ∀ s s', LeaseChange c.1 slot s c.2 s' → P s → P s') (hm : m.Sound)
    (h : P (m.leaseObjects slot)) : P ((runLeases m calls).2.leaseObjects slot) := by
  induction calls generalizing m with
  | nil => exact h
  | cons c calls ih =>
    have hc := hstep c List.mem_cons_self _ _ (leaseCall_change hm c.1 c.2 hs) h
    exact ih (fun d hd => hstep d (List.mem_cons_of_mem _ hd)) (leaseCall_sound hm c.1 c.2) hc

theorem runLeases_tokens (hm : m.Sound) (calls : List (UInt64 × LeaseCall)) {token : UInt32}
    (ht : token ∈ (runLeases m calls).1) : ∃ slot < storageMaintenanceMaxResources, ∃ generation,
      token = makeToken slot generation ∧ generation ≤ storageMaintenanceTokenGenerationMax ∧
      (m.leaseObjects slot).tokenGeneration.toNat < generation.toNat ∧
      generation.toNat ≤ ((runLeases m calls).2.leaseObjects slot).tokenGeneration.toNat := by
  induction calls generalizing m with
  | nil => exact absurd ht (by simp [runLeases])
  | cons c calls ih =>
    have hsound := leaseCall_sound hm c.1 c.2
    simp only [runLeases, List.mem_append, Option.mem_toList] at ht ⊢
    rcases ht with ht | ht
    · obtain ⟨slot, hs, hroom, rfl, hgen⟩ := leaseCall_token hm ht
      have hlater := runLeases_keeps hs (P := fun s =>
        ((m.leaseObjects slot).tokenGeneration + 1).toNat ≤ s.tokenGeneration.toNat) calls
        (fun d _ s s' hch h => h.trans hch.generation_le) hsound (by rw [hgen])
      have hsucc := generation_succ hroom
      refine ⟨slot, hs, _, rfl, ?_, by omega, hlater⟩
      change ((m.leaseObjects slot).tokenGeneration + 1).toNat ≤ 134217727
      have : (m.leaseObjects slot).tokenGeneration.toNat < 134217727 := hroom
      omega
    · obtain ⟨slot, hs, generation, rfl, hmax, hlt, hle⟩ := ih hsound ht
      have hmono := (leaseCall_change hm c.1 c.2 hs).generation_le
      exact ⟨slot, hs, generation, rfl, hmax, by omega, hle⟩

theorem runLeases_nodup (hm : m.Sound) (calls : List (UInt64 × LeaseCall)) :
    (runLeases m calls).1.Nodup := by
  induction calls generalizing m with
  | nil => exact List.nodup_nil
  | cons c calls ih =>
    have hsound := leaseCall_sound hm c.1 c.2
    simp only [runLeases]
    rw [List.nodup_append]
    have hone : (c.2.run c.1 m).1.toList.Nodup := by
      cases (c.2.run c.1 m).1 <;> simp
    refine ⟨hone, ih hsound, fun token ht later hl he => ?_⟩
    subst he
    obtain ⟨slot, hs, hroom, ht', hgen⟩ := leaseCall_token hm (Option.mem_toList.mp ht)
    obtain ⟨slot', hs', generation, hl', hmax, hlt, -⟩ := runLeases_tokens hsound calls hl
    have hroom' : (m.leaseObjects slot).tokenGeneration + 1 ≤ storageMaintenanceTokenGenerationMax := by
      have hsucc := generation_succ hroom
      have hlt' : (m.leaseObjects slot).tokenGeneration.toNat < 134217727 := hroom
      change ((m.leaseObjects slot).tokenGeneration + 1).toNat ≤ 134217727
      omega
    obtain ⟨rfl, rfl⟩ := makeToken_injective hs hs' hroom' hmax (ht'.symm.trans hl')
    rw [hgen] at hlt
    exact absurd hlt (Nat.lt_irrefl _)

end Runs

/-- Two tokens that are valid for one slot are the same token of the same owner. -/
def LeaseExclusive (m : StorageMaintenance) : Prop :=
  ∀ pid pid' processGeneration processGeneration' token token' mediaFingerprint mediaFingerprint'
    slot generation generation' (nowMs nowMs' : UInt64),
    decodeToken token = some (slot, generation) → decodeToken token' = some (slot, generation') →
    storageMaintenanceValid pid processGeneration token mediaFingerprint nowMs m = true →
    storageMaintenanceValid pid' processGeneration' token' mediaFingerprint' nowMs' m = true →
    token = token' ∧ pid = pid' ∧ processGeneration = processGeneration' ∧
      mediaFingerprint = mediaFingerprint'

/-- Until its deadline the owner's token stays valid and can be renewed and released, whatever is
called, unless it is released or its owner cleaned up. -/
def UsableUntilDeadline (m : StorageMaintenance) (nowMs : UInt64) (pid : Int)
    (processGeneration token mediaFingerprint : UInt32) : Prop :=
  ∀ (calls : List (UInt64 × LeaseCall)) (laterMs : UInt64),
    (∀ c ∈ calls, nowMs ≤ c.1 ∧ c.1 ≤ laterMs ∧ c.2 ≠ .release pid processGeneration token ∧
      c.2 ≠ .processCleanup pid processGeneration) →
    nowMs ≤ laterMs → laterMs < leaseDeadline nowMs →
    storageMaintenanceValid pid processGeneration token mediaFingerprint laterMs
      (runLeases m calls).2 = true ∧
    (storageMaintenanceRenew pid processGeneration token mediaFingerprint laterMs
      (runLeases m calls).2).1 = 0 ∧
    (storageMaintenanceRelease pid processGeneration token (runLeases m calls).2).1 = 0

/-- The call releases the token, cleans its holder up or replaces it by a newer one. -/
def LeaseCall.Ends (nowMs : UInt64) (m : StorageMaintenance) (token : UInt32) : LeaseCall → Prop
  | .acquire pid processGeneration resource mediaFingerprint =>
    (∃ new, (storageMaintenanceAcquire pid processGeneration resource mediaFingerprint nowMs m).1 =
      .ok new) ∧ ∃ generation, decodeToken token = some (resource, generation)
  | .release pid processGeneration token' =>
    token' = token ∧ (storageMaintenanceRelease pid processGeneration token m).1 = 0
  | .processCleanup pid processGeneration =>
    ∃ mediaFingerprint beforeMs,
      storageMaintenanceValid pid processGeneration token mediaFingerprint beforeMs m = true
  | _ => False

section Validity

variable {m : StorageMaintenance} {nowMs : UInt64} {pid : Int}
  {processGeneration token mediaFingerprint : UInt32}

theorem storageMaintenanceValid_iff (hm : m.Sound) :
    storageMaintenanceValid pid processGeneration token mediaFingerprint nowMs m = true ↔
      ∃ slot < storageMaintenanceMaxResources, ∃ s, m.leaseObjects slot = s ∧ s.active ≠ 0 ∧
        decodeToken token = some (slot, s.tokenGeneration) ∧ s.pid = pid ∧
        s.processGeneration = processGeneration ∧ s.mediaFingerprint = mediaFingerprint ∧
        deadlineExpired s.deadlineMs nowMs = false := by
  unfold storageMaintenanceValid
  rw [if_neg (by simp [hm.ready])]
  split
  next hdec =>
    refine ⟨fun h => absurd h (by simp), ?_⟩
    rintro ⟨slot, -, s, -, -, hd, -⟩
    exact absurd (hdec.symm.trans hd) (by simp)
  next slot generation hdec =>
    have hs := decodeToken_lt hdec
    rw [hm.read hs]
    simp only [Bool.and_eq_true, bne_iff_ne, beq_iff_eq, Bool.not_eq_true']
    constructor
    · rintro ⟨⟨⟨⟨⟨ha, rfl⟩, hp⟩, hg⟩, hf⟩, hx⟩
      exact ⟨slot, hs, _, rfl, ha, hdec, hp, hg, hf, hx⟩
    · rintro ⟨k, -, s, rfl, ha, hd, hp, hg, hf, hx⟩
      cases hdec.symm.trans hd
      exact ⟨⟨⟨⟨⟨ha, rfl⟩, hp⟩, hg⟩, hf⟩, hx⟩

theorem sound_leaseExclusive (hm : m.Sound) : LeaseExclusive m := by
  intro pid pid' g g' token token' f f' slot generation generation' nowMs nowMs' hd hd' hv hv'
  obtain ⟨k, -, s, hk, -, hdec, hp, hg, hf, -⟩ := (storageMaintenanceValid_iff hm).mp hv
  obtain ⟨k', -, s', hk', -, hdec', hp', hg', hf', -⟩ := (storageMaintenanceValid_iff hm).mp hv'
  cases hd.symm.trans hdec
  cases hd'.symm.trans hdec'
  subst hk
  subst hk'
  exact ⟨decodeToken_injective hdec hdec', hp.symm.trans hp', hg.symm.trans hg', hf.symm.trans hf'⟩

variable {slot : UInt32} {call : LeaseCall}

theorem heldLease_usable (hm : m.Sound) (hs : slot < storageMaintenanceMaxResources)
    (held : (m.leaseObjects slot).active ≠ 0)
    (named : decodeToken token = some (slot, (m.leaseObjects slot).tokenGeneration))
    (hp : 0 < (m.leaseObjects slot).pid) (hg : (m.leaseObjects slot).processGeneration ≠ 0)
    (hf : (m.leaseObjects slot).mediaFingerprint ≠ 0)
    (live : deadlineExpired (m.leaseObjects slot).deadlineMs nowMs = false) :
    storageMaintenanceValid (m.leaseObjects slot).pid (m.leaseObjects slot).processGeneration token
      (m.leaseObjects slot).mediaFingerprint nowMs m = true ∧
    (storageMaintenanceRenew (m.leaseObjects slot).pid (m.leaseObjects slot).processGeneration token
      (m.leaseObjects slot).mediaFingerprint nowMs m).1 = 0 ∧
    (storageMaintenanceRelease (m.leaseObjects slot).pid (m.leaseObjects slot).processGeneration token
      m).1 = 0 := by
  refine ⟨(storageMaintenanceValid_iff hm).mpr ⟨slot, hs, _, rfl, held, named, rfl, rfl, rfl, live⟩, ?_, ?_⟩
  · unfold storageMaintenanceRenew
    rw [if_neg (by simp [hm.ready, hp, hg, hf]), named]
    dsimp only
    rw [hm.read hs]
    simp [held, live, hm.update hs]
  · unfold storageMaintenanceRelease
    rw [if_neg (by simp [hm.ready]), named]
    dsimp only
    rw [hm.read hs]
    simp [held, hm.update hs]

variable {deadlineMs : UInt64} {s s' : StorageMaintenanceState}

theorem notExpired {laterMs : UInt64} (h : laterMs < deadlineMs) :
    deadlineExpired deadlineMs laterMs = false := by
  have hlt : laterMs.toNat < deadlineMs.toNat := h
  have hne : deadlineMs ≠ 0 := by
    rintro rfl
    exact absurd hlt (Nat.not_lt_zero _)
  have hle : ¬ deadlineMs ≤ laterMs := fun hle => by
    have : deadlineMs.toNat ≤ laterMs.toNat := hle
    omega
  simp [deadlineExpired, hne, hle]

theorem heldLease_kept {timeMs : UInt64}
    (hch : LeaseChange timeMs slot s call s') (held : s.active ≠ 0)
    (named : decodeToken token = some (slot, s.tokenGeneration)) (hlive : deadlineMs ≤ s.deadlineMs)
    (hlater : timeMs < deadlineMs) (hrenew : deadlineMs ≤ leaseDeadline timeMs)
    (hrelease : call ≠ .release s.pid s.processGeneration token)
    (hcleanup : call ≠ .processCleanup s.pid s.processGeneration) :
    s'.active ≠ 0 ∧ s'.tokenGeneration = s.tokenGeneration ∧ s'.pid = s.pid ∧
      s'.processGeneration = s.processGeneration ∧ s'.mediaFingerprint = s.mediaFingerprint ∧
      deadlineMs ≤ s'.deadlineMs := by
  cases hch with
  | same => exact ⟨held, rfl, rfl, rfl, rfl, hlive⟩
  | renewed =>
    refine ⟨held, rfl, rfl, rfl, rfl, ?_⟩
    dsimp only
    exact hrenew
  | released token' _ named' =>
    have htoken := decodeToken_injective named' named
    subst htoken
    exact absurd rfl hrelease
  | cleaned => exact absurd rfl hcleanup
  | acquired pid generation fingerprint free room =>
    have hx : deadlineExpired s.deadlineMs timeMs = false := notExpired (by
      have h1 : timeMs.toNat < deadlineMs.toNat := hlater
      have h2 : deadlineMs.toNat ≤ s.deadlineMs.toNat := hlive
      change timeMs.toNat < s.deadlineMs.toNat
      omega)
    rcases free with ha | ha
    · exact absurd ha held
    · exact absurd (ha.symm.trans hx) (by simp)

theorem heldLease_usableUntilDeadline (hm : m.Sound)
    (hs : slot < storageMaintenanceMaxResources) (hslot : m.leaseObjects slot = s)
    (held : s.active ≠ 0) (named : decodeToken token = some (slot, s.tokenGeneration))
    (hdeadline : leaseDeadline nowMs ≤ s.deadlineMs) :
    UsableUntilDeadline m nowMs s.pid s.processGeneration token s.mediaFingerprint := by
  intro calls laterMs hcalls hnow hlater
  have hkept := runLeases_keeps (m := m) hs
    (P := fun t => t.active ≠ 0 ∧ t.tokenGeneration = s.tokenGeneration ∧ t.pid = s.pid ∧
      t.processGeneration = s.processGeneration ∧ t.mediaFingerprint = s.mediaFingerprint ∧
      leaseDeadline nowMs ≤ t.deadlineMs) calls
    (fun c hc t t' hch ht => by
      obtain ⟨ha, htg, htp, htpg, htf, hd⟩ := ht
      obtain ⟨hfrom, hto, hrelease, hcleanup⟩ := hcalls c hc
      have hto' : c.1 < leaseDeadline nowMs := by
        have h1 : c.1.toNat ≤ laterMs.toNat := hto
        have h2 : laterMs.toNat < (leaseDeadline nowMs).toNat := hlater
        change c.1.toNat < (leaseDeadline nowMs).toNat
        omega
      obtain ⟨ha', htg', htp', htpg', htf', hd'⟩ := heldLease_kept hch ha (by rw [htg]; exact named) hd
        hto' (leaseDeadline_mono hfrom) (by rw [htp, htpg]; exact hrelease)
        (by rw [htp, htpg]; exact hcleanup)
      exact ⟨ha', htg'.trans htg, htp'.trans htp, htpg'.trans htpg, htf'.trans htf, hd'⟩)
    hm (by rw [hslot]; exact ⟨held, rfl, rfl, rfl, rfl, hdeadline⟩)
  obtain ⟨ha, htg, htp, htpg, htf, hd⟩ := hkept
  have hend := runLeases_sound hm calls
  obtain ⟨hpid, hgen, hfp⟩ := leaseStateValid_owner (hend.valid slot hs) ha
  have hlive : deadlineExpired ((runLeases m calls).2.leaseObjects slot).deadlineMs laterMs = false :=
    notExpired (by
      have h1 : laterMs.toNat < (leaseDeadline nowMs).toNat := hlater
      have h2 : (leaseDeadline nowMs).toNat ≤
        ((runLeases m calls).2.leaseObjects slot).deadlineMs.toNat := hd
      change laterMs.toNat < ((runLeases m calls).2.leaseObjects slot).deadlineMs.toNat
      omega)
  have husable := heldLease_usable hend hs ha (by rw [htg]; exact named) hpid hgen hfp hlive
  rwa [htp, htpg, htf] at husable

/-- The token names a lease that has ended, or one its slot has left behind. -/
def LeaseDead (token slot : UInt32) (s : StorageMaintenanceState) : Prop :=
  ∀ generation, decodeToken token = some (slot, generation) →
    generation.toNat < s.tokenGeneration.toNat ∨ generation = s.tokenGeneration ∧ s.active = 0

theorem leaseDead_kept (hch : LeaseChange nowMs slot s call s')
    (h : LeaseDead token slot s) : LeaseDead token slot s' := by
  intro generation hd
  have hdead := h generation hd
  cases hch with
  | same => exact hdead
  | renewed _ held =>
    rcases hdead with hlt | ⟨-, ha⟩
    · exact Or.inl hlt
    · exact absurd ha held
  | released => exact hdead.imp_right fun he => ⟨he.1, rfl⟩
  | cleaned => exact hdead.imp_right fun he => ⟨he.1, rfl⟩
  | acquired _ _ _ _ room =>
    have hsucc := generation_succ room
    refine Or.inl ?_
    change generation.toNat < (s.tokenGeneration + 1).toNat
    rcases hdead with hlt | ⟨rfl, -⟩ <;> omega

theorem leaseDead_never (hm : m.Sound)
    (hdead : ∀ slot < storageMaintenanceMaxResources, LeaseDead token slot (m.leaseObjects slot))
    (calls : List (UInt64 × LeaseCall)) :
    storageMaintenanceValid pid processGeneration token mediaFingerprint nowMs (runLeases m calls).2 =
      false := by
  by_contra hv
  obtain ⟨slot, hs, s, hslot, ha, hd, -⟩ := (storageMaintenanceValid_iff (runLeases_sound hm calls)).mp
    (Bool.eq_true_of_not_eq_false hv)
  have hend := runLeases_keeps hs (P := LeaseDead token slot) calls
    (fun _ _ _ _ hch h => leaseDead_kept hch h) hm (hdead slot hs)
  rw [hslot] at hend
  rcases hend _ hd with hlt | ⟨-, ha'⟩
  · exact absurd hlt (Nat.lt_irrefl _)
  · exact ha ha'

theorem leaseCall_dead (hm : m.Sound) (hends : call.Ends nowMs m token)
    (hold : ∀ slot generation, decodeToken token = some (slot, generation) →
      generation.toNat ≤ (m.leaseObjects slot).tokenGeneration.toNat)
    (hs : slot < storageMaintenanceMaxResources) :
    LeaseDead token slot ((call.run nowMs m).2.leaseObjects slot) := by
  intro generation hd
  have hle := hold slot generation hd
  cases call with
  | acquire pid g resource fingerprint =>
    obtain ⟨⟨new, hnew⟩, generation', hd'⟩ := hends
    cases hd.symm.trans hd'
    simp only [run]
    obtain ⟨e, he⟩ | ⟨-, -, -, -, -, room, he⟩ := acquire_cases hm pid g slot fingerprint nowMs
    · rw [he] at hnew
      cases hnew
    · rw [he]
      dsimp only
      rw [Function.update_self]
      have hsucc := generation_succ room
      exact Or.inl (Nat.lt_of_le_of_lt hle (hsucc ▸ Nat.lt_succ_self _))
  | release pid g token' =>
    obtain ⟨rfl, hzero⟩ := hends
    simp only [run]
    obtain ⟨he, hfree⟩ | ⟨k, -, s, rfl, -, hdec, -, -, he⟩ := release_cases hm pid g token'
    · rw [he]
      have ha := hfree hzero slot generation hd
      rcases Nat.lt_or_eq_of_le hle with hlt | heq
      · exact Or.inl hlt
      · exact Or.inr ⟨UInt32.toNat_inj.mp heq, ha⟩
    · rw [he]
      dsimp only
      cases hd.symm.trans hdec
      rw [Function.update_self]
      exact Or.inr ⟨rfl, rfl⟩
  | processCleanup pid g =>
    obtain ⟨fingerprint, beforeMs, hv⟩ := hends
    obtain ⟨k, hk, s, rfl, ha, hdec, hp, hg, -, -⟩ := (storageMaintenanceValid_iff hm).mp hv
    obtain ⟨hpid, hgen, -⟩ := leaseStateValid_owner (hm.valid k hk) ha
    rw [hp] at hpid
    rw [hg] at hgen
    cases hd.symm.trans hdec
    simp only [run]
    have hclean := processCleanup_leases hm hpid hgen hs
    rw [hclean, cleanedLease, if_neg (by simp [ha, hp, hg])]
    exact Or.inr ⟨rfl, rfl⟩
  | _ => exact absurd hends id

theorem renew_usable (hm : m.Sound)
    (h : (storageMaintenanceRenew pid processGeneration token mediaFingerprint nowMs m).1 = 0) :
    UsableUntilDeadline (storageMaintenanceRenew pid processGeneration token mediaFingerprint nowMs m).2
      nowMs pid processGeneration token mediaFingerprint := by
  obtain ⟨hne, -⟩ | ⟨slot, hs, s, rfl, ha, hd, rfl, rfl, rfl, -, he⟩ := renew_cases hm pid
    processGeneration token mediaFingerprint nowMs
  · exact absurd h hne
  · rw [he]
    obtain ⟨s, hdef⟩ : ∃ s, s = { m.leaseObjects slot with deadlineMs := leaseDeadline nowMs } := ⟨_, rfl⟩
    have hvalid : leaseStateValid s = true := by
      rw [hdef]
      exact leaseStateValid_renewed (hm.valid slot hs) ha
    have hset : StorageMaintenance.Sound
        { m with leaseObjects := Function.update m.leaseObjects slot s } := hm.set hvalid
    have hnamed : decodeToken token = some (slot, s.tokenGeneration) := by
      rw [hdef]
      exact hd
    have hdeadline : leaseDeadline nowMs ≤ s.deadlineMs := by
      rw [hdef]
      dsimp only
      exact UInt64.le_refl _
    have husable := heldLease_usableUntilDeadline hset hs (Function.update_self ..)
      (by rw [hdef]; exact ha) hnamed hdeadline
    rw [hdef] at husable
    exact husable

theorem before_leaseDeadline (h : nowMs ≠ 0xFFFFFFFFFFFFFFFF) : nowMs < leaseDeadline nowMs := by
  have hval := leaseDeadline_toNat nowMs
  have hlt := nowMs.toNat_lt
  have hne : nowMs.toNat ≠ 18446744073709551615 := fun he => h (UInt64.toNat_inj.mp he)
  change nowMs.toNat < (leaseDeadline nowMs).toNat
  omega

/-- The token of an acquisition is usable for every resource but the last, whose tokens have no slot
bits. At the end of the clock the deadline is the present. -/
theorem acquire_usable_iff (hm : m.Sound) {resource : UInt32} {m' : StorageMaintenance}
    (h : storageMaintenanceAcquire pid processGeneration resource mediaFingerprint nowMs m =
      (.ok token, m')) :
    UsableUntilDeadline m' nowMs pid processGeneration token mediaFingerprint ↔
      resource ≠ 31 ∨ nowMs = 0xFFFFFFFFFFFFFFFF := by
  obtain ⟨e, he⟩ | ⟨hp, hg, hf, hr, -, room, he⟩ := acquire_cases hm pid
    processGeneration resource mediaFingerprint nowMs
  · rw [h] at he
    exact absurd (congrArg Prod.fst he) (by simp)
  rw [h, Prod.mk.injEq, Except.ok.injEq] at he
  obtain ⟨rfl, rfl⟩ := he
  have hvalid : leaseStateValid ⟨1, pid, processGeneration, mediaFingerprint,
      (m.leaseObjects resource).tokenGeneration + 1, leaseDeadline nowMs⟩ = true :=
    leaseStateValid_acquired hp hg hf room
  have hsound : StorageMaintenance.Sound ⟨m.initialized, Function.update m.leaseObjects resource
      ⟨1, pid, processGeneration, mediaFingerprint, (m.leaseObjects resource).tokenGeneration + 1,
        leaseDeadline nowMs⟩⟩ := hm.set hvalid
  obtain ⟨h0, hmax⟩ := leaseStateValid_parts hvalid
  have hdecode := decodeToken_makeToken hr h0 hmax
  constructor
  · intro husable
    by_contra hn
    push Not at hn
    obtain ⟨rfl, hnow⟩ := hn
    obtain ⟨hv, -⟩ := husable [] nowMs (by simp) (UInt64.le_refl _) (before_leaseDeadline hnow)
    obtain ⟨slot, -, s, -, -, hd, -⟩ := (storageMaintenanceValid_iff hsound).mp hv
    rw [if_pos rfl] at hdecode
    exact absurd (hdecode.symm.trans hd) (by simp)
  · rintro (hne | rfl)
    · rw [if_neg hne] at hdecode
      refine heldLease_usableUntilDeadline hsound hr (Function.update_self ..) (by simp) hdecode ?_
      dsimp only
      exact UInt64.le_refl _
    · intro calls laterMs _ hfrom hto
      have h1 : (18446744073709551615 : Nat) ≤ laterMs.toNat := hfrom
      have h2 : laterMs.toNat < 18446744073709551615 := hto
      omega

end Validity

/-- In every run the leases are exclusive, no token is handed out twice or valid once it ended, and
an acquired one is usable until its deadline but for the last resource. -/
theorem storageMaintenance_leases (calls : List (UInt64 × LeaseCall)) :
    LeaseExclusive (runLeases storageMaintenanceStart calls).2 ∧
    (runLeases storageMaintenanceStart calls).1.Nodup ∧
    (∀ token ∈ (runLeases storageMaintenanceStart calls).1, ∀ nowMs (call : LeaseCall),
      call.Ends nowMs (runLeases storageMaintenanceStart calls).2 token →
      ∀ later pid processGeneration mediaFingerprint laterMs,
        storageMaintenanceValid pid processGeneration token mediaFingerprint laterMs
          (runLeases (call.run nowMs (runLeases storageMaintenanceStart calls).2).2 later).2 = false) ∧
    (∀ pid processGeneration token mediaFingerprint nowMs,
      (storageMaintenanceRenew pid processGeneration token mediaFingerprint nowMs
        (runLeases storageMaintenanceStart calls).2).1 = 0 →
      UsableUntilDeadline (storageMaintenanceRenew pid processGeneration token mediaFingerprint nowMs
        (runLeases storageMaintenanceStart calls).2).2 nowMs pid processGeneration token mediaFingerprint) ∧
    ∀ pid processGeneration resource mediaFingerprint nowMs token m,
      storageMaintenanceAcquire pid processGeneration resource mediaFingerprint nowMs
        (runLeases storageMaintenanceStart calls).2 = (.ok token, m) →
      (UsableUntilDeadline m nowMs pid processGeneration token mediaFingerprint ↔
        resource ≠ 31 ∨ nowMs = 0xFFFFFFFFFFFFFFFF) := by
  have hm := runLeases_sound storageMaintenanceStart_sound calls
  refine ⟨sound_leaseExclusive hm, runLeases_nodup storageMaintenanceStart_sound calls, ?_,
    fun _ _ _ _ _ h => renew_usable hm h, fun _ _ _ _ _ _ _ h => acquire_usable_iff hm h⟩
  intro token ht nowMs call hends later pid processGeneration mediaFingerprint laterMs
  obtain ⟨slot, hs, generation, rfl, hmax, hpos, hle⟩ := runLeases_tokens storageMaintenanceStart_sound
    calls ht
  have hold : ∀ k g, decodeToken (makeToken slot generation) = some (k, g) →
      g.toNat ≤ ((runLeases storageMaintenanceStart calls).2.leaseObjects k).tokenGeneration.toNat := by
    intro k g hd
    have hne : generation ≠ 0 := by
      rintro rfl
      exact absurd hpos (Nat.not_lt_zero _)
    rw [decodeToken_makeToken hs hne hmax] at hd
    split at hd
    next => cases hd
    next =>
      cases hd
      exact hle
  exact leaseDead_never (leaseCall_sound hm nowMs call) (fun k hk => leaseCall_dead hm hends hold hk) later

theorem storageMaintenance_leases_acquired :
    ∃ token m, storageMaintenanceAcquire 1 1 30 7 0
        (runLeases storageMaintenanceStart [(0, .acquire 1 1 0 7)]).2 = (.ok token, m) ∧
      UsableUntilDeadline m 0 1 1 token 7 ∧
      ∀ later, storageMaintenanceValid 1 1 65 7 1
        (runLeases (LeaseCall.run 1 (runLeases storageMaintenanceStart [(0, .acquire 1 1 0 7)]).2
          (.release 1 1 65)).2 later).2 = false := by
  obtain ⟨-, -, hended, -, husable⟩ := storageMaintenance_leases [(0, .acquire 1 1 0 7)]
  refine ⟨_, _, rfl, (husable 1 1 30 7 0 _ _ rfl).mpr (Or.inl (by decide)), fun later => ?_⟩
  exact hended 65 (by decide) 1 (.release 1 1 65) ⟨rfl, by decide⟩ later 1 1 7 1

/-- The last resource is leased out with a token that nobody can use. -/
theorem lastLease_unusable :
    ∃ token m, storageMaintenanceAcquire 1 1 31 7 0 storageMaintenanceStart = (.ok token, m) ∧
      storageMaintenanceValid 1 1 token 7 0 m = false ∧
      (storageMaintenanceRenew 1 1 token 7 0 m).1 = storageEinval ∧
      (storageMaintenanceRelease 1 1 token m).1 = storageEinval :=
  ⟨_, _, rfl, by decide, by decide, by decide⟩

end ReistOs
