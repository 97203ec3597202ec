import ReistOs.StorageMaintenance

/-! What one call does to one lease, and what runs make of the tokens handed out. -/

namespace ReistOs

section Tokens

variable {generation token : UInt32}

variable {slot : UInt32}

theorem makeToken_toNat (hs : slot < storageMaintenanceMaxResources)
    (hg : generation ≤ storageMaintenanceTokenGenerationMax) :
    (makeToken slot generation).toNat = generation.toNat * 32 + (slot.toNat + 1) % 32 := by
  have hs' : slot.toNat < 32 := hs
  have hg' : generation.toNat ≤ 134217727 := hg
  have hmask : ((slot + 1) &&& 0x1F).toNat = (slot.toNat + 1) % 32 := by
    rw [UInt32.toNat_and]
    change (slot.toNat + 1) % 4294967296 &&& 2 ^ 5 - 1 = _
    rw [Nat.and_two_pow_sub_one_eq_mod]
    omega
  have hshift : (generation <<< 5).toNat = generation.toNat <<< 5 := by
    rw [UInt32.toNat_shiftLeft]
    change generation.toNat <<< 5 % 4294967296 = _
    rw [Nat.shiftLeft_eq]
    omega
  unfold makeToken
  rw [UInt32.toNat_or, hshift, hmask, ← Nat.shiftLeft_add_eq_or_of_lt (Nat.mod_lt _ (by decide)),
    Nat.shiftLeft_eq]

theorem token_and_slotMask (token : UInt32) :
    (token &&& storageMaintenanceTokenSlotMask).toNat = token.toNat % 32 := by
  rw [UInt32.toNat_and]
  exact Nat.and_two_pow_sub_one_eq_mod token.toNat 5

theorem token_shiftRight (token : UInt32) : (token >>> 5).toNat = token.toNat / 32 := by
  rw [UInt32.toNat_shiftRight]
  exact Nat.shiftRight_eq_div_pow token.toNat 5

theorem decodeToken_some (h : decodeToken token = some (slot, generation)) :
    slot.toNat < 31 ∧ token.toNat = generation.toNat * 32 + (slot.toNat + 1) := by
  have hmask := token_and_slotMask token
  have hshift := token_shiftRight token
  unfold decodeToken at h
  split at h
  next => cases h
  next =>
    dsimp only at h
    split at h
    next => cases h
    next hn =>
      simp only [Option.some.injEq, Prod.mk.injEq] at h
      obtain ⟨rfl, rfl⟩ := h
      have hne : (token &&& storageMaintenanceTokenSlotMask).toNat ≠ 0 := fun he =>
        hn (Or.inl (UInt32.toNat_inj.mp he))
      have hsub : ((token &&& storageMaintenanceTokenSlotMask) - 1).toNat = token.toNat % 32 - 1 := by
        have hle : (1 : UInt32) ≤ token &&& storageMaintenanceTokenSlotMask := by
          change 1 ≤ (token &&& storageMaintenanceTokenSlotMask).toNat
          omega
        rw [UInt32.toNat_sub_of_le _ _ hle, hmask]
        rfl
      rw [hsub, hshift]
      omega

theorem decodeToken_lt (h : decodeToken token = some (slot, generation)) :
    slot < storageMaintenanceMaxResources := by
  change slot.toNat < 32
  have := (decodeToken_some h).1
  omega

theorem decodeToken_makeToken (hs : slot < storageMaintenanceMaxResources)
    (h0 : generation ≠ 0) (hg : generation ≤ storageMaintenanceTokenGenerationMax) :
    decodeToken (makeToken slot generation) = if slot = 31 then none else some (slot, generation) := by
  have ht := makeToken_toNat hs hg
  have hmask := token_and_slotMask (makeToken slot generation)
  have hshift := token_shiftRight (makeToken slot generation)
  have hs' : slot.toNat < 32 := hs
  have hg' : generation.toNat ≤ 134217727 := hg
  have hpos : generation.toNat ≠ 0 := fun he => h0 (UInt32.toNat_inj.mp he)
  have hgen : makeToken slot generation >>> 5 = generation := UInt32.toNat_inj.mp (by omega)
  unfold decodeToken
  rw [if_neg (fun he => by rw [he] at ht; change 0 = _ at ht; omega)]
  rw [hgen]
  by_cases hl : slot = 31
  · rw [if_pos hl, if_pos]
    refine Or.inl (UInt32.toNat_inj.mp ?_)
    rw [hmask, ht, hl]
    change (_ + 0) % 32 = 0
    omega
  · have hlt : slot.toNat < 31 := by
      have : slot.toNat ≠ 31 := fun he => hl (UInt32.toNat_inj.mp he)
      omega
    have hslot : makeToken slot generation &&& storageMaintenanceTokenSlotMask = slot + 1 := by
      refine UInt32.toNat_inj.mp ?_
      rw [hmask, ht, UInt32.toNat_add]
      change _ = (slot.toNat + 1) % 4294967296
      omega
    have hadd : (slot + 1).toNat = slot.toNat + 1 := by
      rw [UInt32.toNat_add]
      change (slot.toNat + 1) % 4294967296 = _
      omega
    rw [if_neg hl, hslot, if_neg]
    · rw [UInt32.add_sub_cancel]
    · rintro (he | he | he | he)
      · have := congrArg UInt32.toNat he
        change _ = 0 at this
        omega
      · have : 32 < (slot + 1).toNat := he
        omega
      · exact h0 he
      · exact absurd hg (UInt32.not_le.mpr he)

theorem makeToken_injective {slot slot' generation' : UInt32}
    (hs : slot < storageMaintenanceMaxResources) (hs' : slot' < storageMaintenanceMaxResources)
    (hg : generation ≤ storageMaintenanceTokenGenerationMax)
    (hg' : generation' ≤ storageMaintenanceTokenGenerationMax)
    (h : makeToken slot generation = makeToken slot' generation') :
    slot = slot' ∧ generation = generation' := by
  have ht := congrArg UInt32.toNat h
  rw [makeToken_toNat hs hg, makeToken_toNat hs' hg'] at ht
  have h1 : slot.toNat < 32 := hs
  have h2 : slot'.toNat < 32 := hs'
  exact ⟨UInt32.toNat_inj.mp (by omega), UInt32.toNat_inj.mp (by omega)⟩

theorem decodeToken_injective {token' slot : UInt32}
    (h : decodeToken token = some (slot, generation))
    (h' : decodeToken token' = some (slot, generation)) : token = token' :=
  UInt32.toNat_inj.mp ((decodeToken_some h).2.trans (decodeToken_some h').2.symm)

end Tokens

/-- After a successful init, while every lease record is valid. -/
structure StorageMaintenance.Sound (m : StorageMaintenance) : Prop where
  ready : m.initialized = true
  valid : ∀ slot < storageMaintenanceMaxResources, leaseStateValid (m.leaseObjects slot) = true

/-- What a call does to the lease of one slot. -/
inductive LeaseChange (nowMs : UInt64) (slot : UInt32) (s : StorageMaintenanceState) :
    LeaseCall → StorageMaintenanceState → Prop
  | same (call : LeaseCall) : LeaseChange nowMs slot s call s
  | renewed (token : UInt32) (held : s.active ≠ 0)
      (named : decodeToken token = some (slot, s.tokenGeneration))
      (live : deadlineExpired s.deadlineMs nowMs = false) :
      LeaseChange nowMs slot s (.renew s.pid s.processGeneration token s.mediaFingerprint)
        { s with deadlineMs := leaseDeadline nowMs }
  | released (token : UInt32) (held : s.active ≠ 0)
      (named : decodeToken token = some (slot, s.tokenGeneration)) :
      LeaseChange nowMs slot s (.release s.pid s.processGeneration token) (freeLease s.tokenGeneration)
  | cleaned (held : s.active ≠ 0) :
      LeaseChange nowMs slot s (.processCleanup s.pid s.processGeneration) (freeLease s.tokenGeneration)
  | acquired (pid : Int) (processGeneration mediaFingerprint : UInt32)
      (free : s.active = 0 ∨ deadlineExpired s.deadlineMs nowMs = true)
      (room : s.tokenGeneration < storageMaintenanceTokenGenerationMax) :
      LeaseChange nowMs slot s (.acquire pid processGeneration slot mediaFingerprint)
        ⟨1, pid, processGeneration, mediaFingerprint, s.tokenGeneration + 1, leaseDeadline nowMs⟩

section Validity

variable {s : StorageMaintenanceState} {nowMs : UInt64}

theorem leaseDeadline_toNat (nowMs : UInt64) :
    (leaseDeadline nowMs).toNat = min 18446744073709551615 (nowMs.toNat + 15000) := by
  have hlt := nowMs.toNat_lt
  have hle : nowMs ≤ 0xFFFFFFFFFFFFFFFF := by
    change nowMs.toNat ≤ 18446744073709551615
    omega
  have hsub : (0xFFFFFFFFFFFFFFFF - nowMs).toNat = 18446744073709551615 - nowMs.toNat :=
    UInt64.toNat_sub_of_le _ _ hle
  unfold leaseDeadline storageMaintenanceLeaseMs
  split
  next h =>
    have : (0xFFFFFFFFFFFFFFFF - nowMs).toNat < 15000 := h
    change 18446744073709551615 = _
    omega
  next h =>
    have : ¬ (0xFFFFFFFFFFFFFFFF - nowMs).toNat < 15000 := h
    rw [UInt64.toNat_add]
    change (nowMs.toNat + 15000) % 18446744073709551616 = _
    omega

theorem leaseDeadline_ne_zero (nowMs : UInt64) : leaseDeadline nowMs ≠ 0 := by
  intro h
  have hval := leaseDeadline_toNat nowMs
  rw [h] at hval
  change 0 = _ at hval
  omega

theorem leaseDeadline_mono {nowMs laterMs : UInt64} (h : nowMs ≤ laterMs) :
    leaseDeadline nowMs ≤ leaseDeadline laterMs := by
  have hle : nowMs.toNat ≤ laterMs.toNat := h
  change (leaseDeadline nowMs).toNat ≤ (leaseDeadline laterMs).toNat
  rw [leaseDeadline_toNat, leaseDeadline_toNat]
  omega

theorem leaseStateValid_parts (h : leaseStateValid s = true) :
    s.tokenGeneration ≠ 0 ∧ s.tokenGeneration ≤ storageMaintenanceTokenGenerationMax := by
  unfold leaseStateValid at h
  split at h
  next => cases h
  next hn =>
    push Not at hn
    exact ⟨hn.2.1, UInt32.not_lt.mp hn.2.2⟩

theorem leaseStateValid_owner (h : leaseStateValid s = true) (held : s.active ≠ 0) :
    0 < s.pid ∧ s.processGeneration ≠ 0 ∧ s.mediaFingerprint ≠ 0 := by
  unfold leaseStateValid at h
  split at h
  next => cases h
  next =>
    simp only [Bool.and_eq_true, decide_eq_true_eq, bne_iff_ne] at h
    exact ⟨h.1.1.1, h.1.1.2, h.1.2⟩

theorem leaseStateValid_free {generation : UInt32} (h0 : generation ≠ 0)
    (hg : generation ≤ storageMaintenanceTokenGenerationMax) :
    leaseStateValid (freeLease generation) = true := by
  unfold leaseStateValid freeLease
  simp [h0, UInt32.not_lt.mpr hg]

theorem leaseStateValid_renewed (h : leaseStateValid s = true) (held : s.active ≠ 0) :
    leaseStateValid { s with deadlineMs := leaseDeadline nowMs } = true := by
  unfold leaseStateValid at h ⊢
  by_cases hn : 1 < s.active ∨ s.tokenGeneration = 0 ∨
      storageMaintenanceTokenGenerationMax < s.tokenGeneration
  · rw [if_pos hn] at h
    cases h
  · rw [if_neg hn, if_neg held] at h
    rw [if_neg hn, if_neg held]
    simp only [Bool.and_eq_true] at h ⊢
    exact ⟨h.1, by simpa using leaseDeadline_ne_zero nowMs⟩

theorem generation_succ (room : s.tokenGeneration < storageMaintenanceTokenGenerationMax) :
    (s.tokenGeneration + 1).toNat = s.tokenGeneration.toNat + 1 := by
  have hroom : s.tokenGeneration.toNat < 134217727 := room
  rw [UInt32.toNat_add]
  change (s.tokenGeneration.toNat + 1) % 4294967296 = _
  omega

theorem leaseStateValid_acquired {pid : Int}
    {processGeneration mediaFingerprint : UInt32} (hp : 0 < pid) (hg : processGeneration ≠ 0)
    (hf : mediaFingerprint ≠ 0) (room : s.tokenGeneration < storageMaintenanceTokenGenerationMax) :
    leaseStateValid ⟨1, pid, processGeneration, mediaFingerprint, s.tokenGeneration + 1,
      leaseDeadline nowMs⟩ = true := by
  have hroom : s.tokenGeneration.toNat < 134217727 := room
  have hadd := generation_succ room
  have hne : s.tokenGeneration + 1 ≠ 0 := fun he => by
    have := congrArg UInt32.toNat he
    rw [hadd] at this
    exact absurd this (by change _ ≠ 0; omega)
  have hle : ¬ storageMaintenanceTokenGenerationMax < s.tokenGeneration + 1 := fun hlt => by
    have : 134217727 < (s.tokenGeneration + 1).toNat := hlt
    omega
  unfold leaseStateValid
  simp [hp, hg, hf, hne, hle, leaseDeadline_ne_zero]

end Validity

variable {m : StorageMaintenance}

variable {slot : UInt32}

theorem StorageMaintenance.Sound.read (hm : m.Sound)
    (hs : slot < storageMaintenanceMaxResources) : m.read slot = some (m.leaseObjects slot) := by
  unfold StorageMaintenance.read
  rw [if_pos (hm.valid slot hs)]

theorem StorageMaintenance.Sound.set (hm : m.Sound) {s : StorageMaintenanceState}
    (hv : leaseStateValid s = true) :
    StorageMaintenance.Sound { m with leaseObjects := Function.update m.leaseObjects slot s } := by
  refine ⟨hm.ready, fun k hk => ?_⟩
  by_cases he : k = slot
  · subst he
    simpa using hv
  · simpa [Function.update_of_ne he] using hm.valid k hk

theorem StorageMaintenance.Sound.update (hm : m.Sound)
    (hs : slot < storageMaintenanceMaxResources) (s : StorageMaintenanceState) :
    m.update slot s = (true, { m with leaseObjects := Function.update m.leaseObjects slot s }) := by
  unfold StorageMaintenance.update
  rw [if_pos (hm.valid slot hs)]

theorem acquire_cases (hm : m.Sound) (pid : Int) (processGeneration resource mediaFingerprint : UInt32)
    (nowMs : UInt64) :
    (∃ e, storageMaintenanceAcquire pid processGeneration resource mediaFingerprint nowMs m = (.error e, m)) ∨
    (0 < pid ∧ processGeneration ≠ 0 ∧ mediaFingerprint ≠ 0 ∧ resource < storageMaintenanceMaxResources ∧
      ((m.leaseObjects resource).active = 0 ∨ deadlineExpired (m.leaseObjects resource).deadlineMs nowMs = true) ∧
      (m.leaseObjects resource).tokenGeneration < storageMaintenanceTokenGenerationMax ∧
      storageMaintenanceAcquire pid processGeneration resource mediaFingerprint nowMs m =
        (.ok (makeToken resource ((m.leaseObjects resource).tokenGeneration + 1)),
          { m with leaseObjects := Function.update m.leaseObjects resource ⟨1, pid, processGeneration,
            mediaFingerprint, (m.leaseObjects resource).tokenGeneration + 1, leaseDeadline nowMs⟩ })) := by
  unfold storageMaintenanceAcquire
  split
  next => exact Or.inl ⟨_, rfl⟩
  next hargs =>
    push Not at hargs
    obtain ⟨-, hp, hg, hr, hf⟩ := hargs
    have hr' := UInt32.not_le.mp hr
    rw [hm.read hr']
    dsimp only
    split
    next => exact Or.inl ⟨_, rfl⟩
    next hbusy =>
      split
      next => exact Or.inl ⟨_, rfl⟩
      next hmax =>
        have hgen := (leaseStateValid_parts (hm.valid resource hr')).2
        have hroom := UInt32.lt_of_le_of_ne hgen hmax
        rw [hm.update hr']
        refine Or.inr ⟨hp, hg, hf, hr', ?_, hroom, rfl⟩
        by_cases ha : (m.leaseObjects resource).active = 0
        · exact Or.inl ha
        · exact Or.inr (by simpa [ha] using hbusy)

theorem renew_cases (hm : m.Sound) (pid : Int) (processGeneration token mediaFingerprint : UInt32)
    (nowMs : UInt64) :
    ((storageMaintenanceRenew pid processGeneration token mediaFingerprint nowMs m).1 ≠ 0 ∧
      (storageMaintenanceRenew pid processGeneration token mediaFingerprint nowMs m).2 = m) ∨
    ∃ slot < storageMaintenanceMaxResources, ∃ s, m.leaseObjects slot = s ∧ s.active ≠ 0 ∧
      decodeToken token = some (slot, s.tokenGeneration) ∧ s.pid = pid ∧
      s.processGeneration = processGeneration ∧ s.mediaFingerprint = mediaFingerprint ∧
      deadlineExpired s.deadlineMs nowMs = false ∧
      storageMaintenanceRenew pid processGeneration token mediaFingerprint nowMs m =
        (0, { m with leaseObjects :=
          Function.update m.leaseObjects slot { s with deadlineMs := leaseDeadline nowMs } }) := by
  unfold storageMaintenanceRenew
  split
  next => exact Or.inl ⟨by simp [storageEinval], rfl⟩
  next =>
    split
    next => exact Or.inl ⟨by simp [storageEinval], rfl⟩
    next slot generation hdec =>
      have hs := decodeToken_lt hdec
      rw [hm.read hs]
      dsimp only
      split
      next => exact Or.inl ⟨by simp [storageEacces], rfl⟩
      next hown =>
        split
        next => exact Or.inl ⟨by simp [storageEtimedout], rfl⟩
        next hexp =>
          push Not at hown
          obtain ⟨ha, rfl, hp, hg, hf⟩ := hown
          rw [hm.update hs]
          exact Or.inr ⟨slot, hs, _, rfl, ha, hdec, hp, hg, hf, by simpa using hexp, rfl⟩

theorem release_cases (hm : m.Sound) (pid : Int) (processGeneration token : UInt32) :
    (storageMaintenanceRelease pid processGeneration token m).2 = m ∧
      ((storageMaintenanceRelease pid processGeneration token m).1 = 0 →
        ∀ slot generation, decodeToken token = some (slot, generation) →
          (m.leaseObjects slot).active = 0) ∨
    ∃ slot < storageMaintenanceMaxResources, ∃ s, m.leaseObjects slot = s ∧ s.active ≠ 0 ∧
      decodeToken token = some (slot, s.tokenGeneration) ∧ s.pid = pid ∧
      s.processGeneration = processGeneration ∧
      storageMaintenanceRelease pid processGeneration token m =
        (0, { m with leaseObjects := Function.update m.leaseObjects slot (freeLease s.tokenGeneration) }) := by
  unfold storageMaintenanceRelease
  split
  next => exact Or.inl ⟨rfl, fun h => absurd h (by simp [storageEinval])⟩
  next =>
    split
    next => exact Or.inl ⟨rfl, fun h => absurd h (by simp [storageEinval])⟩
    next slot generation hdec =>
      have hs := decodeToken_lt hdec
      rw [hm.read hs]
      dsimp only
      split
      next ha =>
        refine Or.inl ⟨rfl, fun _ slot' generation' hdec' => ?_⟩
        cases hdec.symm.trans hdec'
        exact ha
      next ha =>
        split
        next => exact Or.inl ⟨rfl, fun h => absurd h (by simp [storageEacces])⟩
        next hown =>
          push Not at hown
          obtain ⟨rfl, hp, hg⟩ := hown
          rw [hm.update hs]
          exact Or.inr ⟨slot, hs, _, rfl, ha, hdec, hp, hg, rfl⟩

def cleanedLease (pid : Int) (processGeneration : UInt32) (s : StorageMaintenanceState) :
    StorageMaintenanceState :=
  if s.active = 0 ∨ s.pid ≠ pid ∨ s.processGeneration ≠ processGeneration then s
  else freeLease s.tokenGeneration

theorem cleanupLease_spec (pid : Int) (processGeneration : UInt32) (hs : slot < storageMaintenanceMaxResources)
    (r : UInt32 × StorageMaintenance) (hm : r.2.Sound) :
    (cleanupLease pid processGeneration slot r).2.Sound ∧
      (cleanupLease pid processGeneration slot r).2.leaseObjects =
        Function.update r.2.leaseObjects slot (cleanedLease pid processGeneration (r.2.leaseObjects slot)) := by
  unfold cleanupLease cleanedLease
  rw [hm.read hs]
  dsimp only
  split
  next => exact ⟨hm, (Function.update_eq_self slot _).symm⟩
  next =>
    obtain ⟨h0, hmax⟩ := leaseStateValid_parts (hm.valid slot hs)
    rw [hm.update hs]
    exact ⟨hm.set (leaseStateValid_free h0 hmax), rfl⟩

theorem cleanedLease_idem (pid : Int) (processGeneration : UInt32) (s : StorageMaintenanceState) :
    cleanedLease pid processGeneration (cleanedLease pid processGeneration s) =
      cleanedLease pid processGeneration s := by
  by_cases h : s.active = 0 ∨ s.pid ≠ pid ∨ s.processGeneration ≠ processGeneration
  · simp only [cleanedLease, if_pos h]
  · simp [cleanedLease, if_neg h, freeLease]

theorem cleanupLoop_spec (pid : Int) (processGeneration : UInt32) (slots : List UInt32) (r : UInt32 × StorageMaintenance) (hm : r.2.Sound)
    (hs : ∀ slot ∈ slots, slot < storageMaintenanceMaxResources) :
    (slots.foldl (fun r slot => cleanupLease pid processGeneration slot r) r).2.Sound ∧
      ∀ k, (slots.foldl (fun r slot => cleanupLease pid processGeneration slot r) r).2.leaseObjects k =
        if k ∈ slots then cleanedLease pid processGeneration (r.2.leaseObjects k)
        else r.2.leaseObjects k := by
  induction slots generalizing r with
  | nil => exact ⟨hm, fun k => by simp⟩
  | cons slot slots ih =>
    obtain ⟨hsound, hobj⟩ := cleanupLease_spec pid processGeneration
      (hs slot List.mem_cons_self) r hm
    obtain ⟨hsound', hobj'⟩ := ih (cleanupLease pid processGeneration slot r) hsound
      fun k hk => hs k (List.mem_cons_of_mem _ hk)
    refine ⟨hsound', fun k => ?_⟩
    rw [List.foldl_cons, hobj' k, hobj]
    by_cases hk : k = slot
    · subst hk
      simp [cleanedLease_idem]
    · simp [hk]

theorem mem_slots {k : UInt32} : k ∈ (List.range storageMaintenanceMaxResources.toNat).map UInt32.ofNat ↔
    k < storageMaintenanceMaxResources := by
  rw [List.mem_map]
  refine ⟨?_, fun h => ⟨k.toNat, List.mem_range.mpr h, UInt32.ofNat_toNat⟩⟩
  rintro ⟨n, hn, rfl⟩
  have hn' : n < 32 := List.mem_range.mp hn
  change (UInt32.ofNat n).toNat < 32
  rw [UInt32.toNat_ofNat_of_lt' (by change n < 4294967296; omega)]
  exact hn'

theorem processCleanup_leases (hm : m.Sound) {pid : Int} {processGeneration : UInt32} (hp : 0 < pid) (hg : processGeneration ≠ 0) {k : UInt32}
    (hk : k < storageMaintenanceMaxResources) :
    (storageMaintenanceProcessCleanup pid processGeneration m).2.leaseObjects k =
      cleanedLease pid processGeneration (m.leaseObjects k) := by
  unfold storageMaintenanceProcessCleanup
  rw [if_neg (by simp [hm.ready, hp, hg])]
  obtain ⟨-, hobj⟩ := cleanupLoop_spec pid processGeneration
    ((List.range storageMaintenanceMaxResources.toNat).map UInt32.ofNat) (0, m) hm
    fun k hk => mem_slots.mp hk
  rw [hobj k, if_pos (mem_slots.mpr hk)]

theorem processCleanup_cases (hm : m.Sound) (pid : Int) (processGeneration : UInt32) :
    (storageMaintenanceProcessCleanup pid processGeneration m).2 = m ∨
    (storageMaintenanceProcessCleanup pid processGeneration m).2.Sound ∧
      ∀ k < storageMaintenanceMaxResources,
        (storageMaintenanceProcessCleanup pid processGeneration m).2.leaseObjects k =
          cleanedLease pid processGeneration (m.leaseObjects k) := by
  by_cases hargs : 0 < pid ∧ processGeneration ≠ 0
  · refine Or.inr ⟨?_, fun k hk => processCleanup_leases hm hargs.1 hargs.2 hk⟩
    unfold storageMaintenanceProcessCleanup
    rw [if_neg (by simp [hm.ready, hargs])]
    exact (cleanupLoop_spec pid processGeneration
      ((List.range storageMaintenanceMaxResources.toNat).map UInt32.ofNat) (0, m) hm
      fun k hk => mem_slots.mp hk).1
  · refine Or.inl ?_
    unfold storageMaintenanceProcessCleanup
    rw [if_pos]
    by_cases hp : 0 < pid
    · exact Or.inr (Or.inr (by_contra fun hg => hargs ⟨hp, hg⟩))
    · exact Or.inr (Or.inl (not_lt.mp hp))

end ReistOs
