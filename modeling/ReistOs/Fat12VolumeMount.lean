import ReistOs.Fat12VolumeWrites

/-! What a mount finds and leaves. -/

namespace ReistOs

open WriteBack Fat12BootSector

section Recover

variable {j : Fat12Journal} {w : Fat12World}

structure Healthy (w : Fat12World) : Prop where
  fates : w.fates = []
  readFates : w.readFates = []

theorem Healthy.of_wrote {w' : Fat12World} {ws : List (Nat × Sector)} (h : Healthy w)
    (hw : w.Wrote ws w') : Healthy w' := ⟨hw.fates.trans h.fates, hw.readFates.trans h.readFates⟩

theorem writeVerified_keeps (h : Healthy w) (a : Nat) (x : Sector) : Healthy (writeVerified a x w).2 :=
  h.of_wrote (writeVerified_healthy h.fates h.readFates a x).2

theorem restoreEntry_keeps (h : Healthy w) (i : Nat) : Healthy (restoreEntry j i w).2 := by
  unfold restoreEntry
  rw [World.read_of_readFates h.readFates]
  dsimp only
  rw [World.read_of_readFates h.readFates]
  dsimp only
  split
  next => exact h
  next => exact writeVerified_keeps h _ _

theorem restoreEntries_keeps (h : Healthy w) (i k : Nat) : Healthy (restoreEntries j i k w).2 := by
  induction k generalizing i w with
  | zero => exact h
  | succ k ih =>
    unfold restoreEntries andThen
    split
    next => exact ih (restoreEntry_keeps h i) (i + 1)
    next => exact restoreEntry_keeps h i

theorem fat12JournalCommit_active (h : (fat12JournalCommit j w).1 = true) :
    j.header.state = fat12JournalActive := by
  by_contra hs
  unfold fat12JournalCommit at h
  rw [if_pos hs] at h
  cases h

theorem loaded_header (j : Fat12Journal) (h : Fat12JournalHeader) (d : Floppy) :
    loaded { j with header := h } d = loaded j d := rfl

theorem fat12JournalRecover_ok (hj : Formatted j) (hw : Healthy w)
    (hok : (fat12JournalRecover j w).1 = true) :
    ∃ h, (fat12JournalRecover j w).2.1 = { j with header := h } ∧
      loaded j (fat12JournalRecover j w).2.2.medium.view = some h ∧ h.state = fat12JournalClean ∧
      Healthy (fat12JournalRecover j w).2.2 := by
  unfold fat12JournalRecover at hok ⊢
  rw [fat12JournalLoad_eq hj.fingerprint hw.readFates] at hok ⊢
  rcases hl : loaded j w.medium.view with _ | h
  · simp [hl] at hok
  · simp only [hl, Bool.not_true, Bool.false_eq_true, if_false] at hok ⊢
    by_cases hc : h.state = fat12JournalClean
    · simp only [hc, if_true]
      exact ⟨h, rfl, hl, hc, hw⟩
    · let k : Fat12Journal := { j with header := h }
      let r := restoreEntries k 0 k.header.entryCount.toNat w
      have hr : Healthy r.2 := restoreEntries_keeps hw 0 _
      rw [if_neg hc] at hok ⊢
      by_cases hres : r.1 = true
      · have hcommit : (fat12JournalCommit k r.2).1 = true := by
          rw [if_pos hres] at hok
          exact hok
        obtain ⟨-, hjc, hwc⟩ := fat12JournalCommit_healthy hr.fates hr.readFates
          (fat12JournalCommit_active hcommit) rfl
        rw [if_pos hres]
        refine ⟨_, hjc, ?_, rfl, hr.of_wrote hwc⟩
        rw [hwc.view]
        exact headerPair_loaded [] hj cleanHeader_valid
      · rw [if_neg hres] at hok
        cases hok

theorem fat12JournalRecover_header (hj : Formatted j) (hr : w.readFates = [])
    {h g : Fat12JournalHeader} (hl : loaded j w.medium.view = some g) :
    fat12JournalRecover { j with header := h } w = fat12JournalRecover j w := by
  unfold fat12JournalRecover
  rw [fat12JournalLoad_eq hj.fingerprint hr,
    fat12JournalLoad_eq (j := { j with header := h }) hj.fingerprint hr, loaded_header, hl]

end Recover

variable {f : Fat12} {w : Fat12World} {j : Fat12Journal} {t : Fat12RemapTable}

/-- The areas of a REIST12 volume in memory. -/
structure VolumeLayout (b : Fat12BootSector) (j : Fat12Journal) (t : Fat12RemapTable) : Prop where
  reist : b.IsReist12
  room : fat12MinReistReservedSectors ≤ b.reservedSectors.toNat
  volume : b.volumeId ≠ 0
  journal : fat12JournalFormat b.journalBase (b.journalBase + 1) (b.journalBase + 2) b.volumeId = some j
  remap : fat12RemapFormat b.remapBase (b.remapBase + 1) (b.remapBase + 2) b.volumeId = some t

variable {p m s a : Nat} {fingerprint : UInt32}

theorem fat12RemapFormat_some (h : fat12RemapFormat p m s fingerprint = some t) :
    t.primarySector = p ∧ t.mirrorSector = m ∧
      t.tableSector = s ∧ t.mediaFingerprint = fingerprint ∧ fingerprint ≠ 0 := by
  unfold fat12RemapFormat at h
  split at h
  next => simp at h
  next hn =>
    cases Option.some.inj h
    exact ⟨rfl, rfl, rfl, rfl, fun he => hn (Or.inl he)⟩

theorem fat12JournalFormat_some (h : fat12JournalFormat p m s fingerprint = some j) :
    j.primaryHeaderSector = p ∧
      j.mirrorHeaderSector = m ∧ j.dataStartSector = s ∧ j.mediaFingerprint = fingerprint := by
  unfold fat12JournalFormat at h
  split at h
  next => simp at h
  next =>
    cases Option.some.inj h
    exact ⟨rfl, rfl, rfl, rfl⟩

variable {b : Fat12BootSector}

theorem VolumeLayout.reserved_lt (h : VolumeLayout b j t) (ha : j.Reserved a) :
    a < b.remapBase := by
  obtain ⟨hp, hm, hs, -⟩ := fat12JournalFormat_some h.journal
  have hroom := h.room
  unfold Fat12Journal.Reserved at ha
  simp only [hp, hm, hs, journalBase, remapBase,
    replicaBase, fat12MinReistReservedSectors, fat12SafetyReservedSectors,
    fat12JournalMaxEntries, fat12RemapSpareCount, fat12ReplicaReservedSectors] at *
  omega

theorem VolumeLayout.not_reserved_spare (h : VolumeLayout b j t) (ha : b.Spare a) :
    ¬ j.Reserved a := by
  intro hr
  have := h.reserved_lt hr
  simp only [Fat12BootSector.Spare, remapBase] at ha this
  omega

theorem prepareJournal_eq (hr : w.readFates = [])
    (hj : fat12JournalFormat f.bootSector.journalBase (f.bootSector.journalBase + 1)
      (f.bootSector.journalBase + 2) f.bootSector.volumeId = some j) :
    prepareJournal f w = ((fat12JournalRecover j w).1, f.setJournal (fat12JournalRecover j w).2.1,
      (fat12JournalRecover j w).2.2) := by
  have hfmt := formatted_of_format hj
  unfold prepareJournal
  simp only [hj]
  rw [World.read_of_readFates hr]
  rw [World.read_of_readFates hr, if_neg (by simp), fat12JournalLoad_eq hfmt.fingerprint hr]
  rcases hl : loaded j w.medium.view with _ | h
  · have hnone : fat12JournalRecover j w = (false, j, w) := by
      unfold fat12JournalRecover
      rw [fat12JournalLoad_eq hfmt.fingerprint hr, hl]
      rfl
    rw [hnone]
    rfl
  · dsimp only
    rw [if_pos rfl, fat12JournalRecover_header hfmt hr hl]
    rfl

def Fat12.setRemap (f : Fat12) (t : Fat12RemapTable) : Fat12 := { f with remap := t }

theorem prepareRemap_eq (hr : w.readFates = [])
    (ht : fat12RemapFormat f.bootSector.remapBase (f.bootSector.remapBase + 1)
      (f.bootSector.remapBase + 2) f.bootSector.volumeId = some t) :
    prepareRemap f w = ((loadedRemap t w.medium.view).1,
      f.setRemap (loadedRemap t w.medium.view).2, w) := by
  unfold prepareRemap
  simp only [ht]
  obtain ⟨-, -, -, hfp, hne⟩ := fat12RemapFormat_some ht
  rw [fat12RemapLoad_eq (hfp ▸ hne) hr]
  rfl

theorem fat12JournalPrepare_eq (hw : Healthy w) (hl : VolumeLayout f.bootSector j t) :
    fat12JournalPrepare f w =
      let r := fat12JournalRecover j w
      if r.1 then
        let remap := loadedRemap t r.2.2.medium.view
        if remap.1 then enableVolume ((f.setJournal r.2.1).setRemap remap.2) r.2.2
        else (false, (f.setJournal r.2.1).setRemap remap.2, r.2.2)
      else (false, f.setJournal r.2.1, r.2.2) := by
  unfold fat12JournalPrepare
  rw [if_neg (not_not.mpr hl.reist), if_neg (by
    rintro (h | h)
    · exact absurd hl.room (Nat.not_le.mpr h)
    · exact hl.volume h), prepareJournal_eq hw.readFates hl.journal]
  by_cases hok : (fat12JournalRecover j w).1 = true
  · obtain ⟨-, -, -, -, hw'⟩ := fat12JournalRecover_ok (formatted_of_format hl.journal) hw hok
    rw [if_pos hok, if_pos hok, prepareRemap_eq (f := f.setJournal (fat12JournalRecover j w).2.1)
      hw'.readFates hl.remap]
    by_cases hrm : (loadedRemap t (fat12JournalRecover j w).2.2.medium.view).1 = true
    · rw [if_pos hrm, if_pos hrm]
    · rw [if_neg hrm, if_neg hrm]
      simp [hrm]
  · rw [if_neg hok, if_neg hok]
    simp [hok]

structure Mounted (j : Fat12Journal) (t : Fat12RemapTable) (f : Fat12) (w : Fat12World) : Prop where
  healthy : Healthy w
  loaded : ∃ h, loaded j w.medium.view = some h ∧ h.state = fat12JournalClean ∧
    f.journal = { j with header := h } ∧ f.journalSequence = h.sequence
  remap : loadedRemap t w.medium.view = (true, f.remap)
  enabled : f.remapEnabled = true

theorem enableVolume_of_replicas (h : (initReplicas f).isSome = true) :
    (enableVolume f w).1 = true ∧ (enableVolume f w).2.2 = w ∧
      (enableVolume f w).2.1.bootSector = f.bootSector ∧ (enableVolume f w).2.1.journal = f.journal ∧
      (enableVolume f w).2.1.remap = f.remap ∧ (enableVolume f w).2.1.remapEnabled = true ∧
      (enableVolume f w).2.1.journalSequence = f.journal.header.sequence := by
  obtain ⟨rs, hrs⟩ := Option.isSome_iff_exists.mp h
  simp [enableVolume, hrs]

theorem fat12JournalPrepare_layout (hreist : f.bootSector.IsReist12)
    (hok : (fat12JournalPrepare f w).1 = true) : ∃ j t, VolumeLayout f.bootSector j t := by
  unfold fat12JournalPrepare at hok
  rw [if_neg (not_not.mpr hreist)] at hok
  split at hok
  next => simp at hok
  next hn =>
    simp only [not_or, Nat.not_lt] at hn
    obtain ⟨j, hj⟩ : ∃ j, fat12JournalFormat f.bootSector.journalBase (f.bootSector.journalBase + 1)
        (f.bootSector.journalBase + 2) f.bootSector.volumeId = some j := by
      unfold fat12JournalFormat
      rw [if_neg ?_]
      · exact ⟨_, rfl⟩
      · have := f.bootSector.reservedSectors.toNat_lt
        simp only [hn.2, false_or, journalBase, remapBase,
          replicaBase, fat12JournalMaxEntries]
        omega
    obtain ⟨t, ht⟩ : ∃ t, fat12RemapFormat f.bootSector.remapBase (f.bootSector.remapBase + 1)
        (f.bootSector.remapBase + 2) f.bootSector.volumeId = some t := by
      unfold fat12RemapFormat
      rw [if_neg ?_]
      · exact ⟨_, rfl⟩
      · simp only [hn.2, false_or]
        omega
    exact ⟨j, t, hreist, hn.1, hn.2, hj, ht⟩

theorem initReplicas_isSome (hv : f.bootSector.volumeId ≠ 0) : (initReplicas f).isSome = true := by
  have := f.bootSector.reservedSectors.toNat_lt
  have hslot : ∀ slot, slot < 3 → (fat12ReplicaInit (f.bootSector.replicaBase + slot * fat12ReplicaSlotSectors)
      (f.bootSector.replicaBase + slot * fat12ReplicaSlotSectors + 1 + fat12ReplicaDataSectors)
      f.bootSector.volumeId) = some ⟨f.bootSector.replicaBase + slot * fat12ReplicaSlotSectors,
      f.bootSector.replicaBase + slot * fat12ReplicaSlotSectors + 1 + fat12ReplicaDataSectors,
      f.bootSector.volumeId⟩ := by
    intro slot hs
    unfold fat12ReplicaInit
    rw [if_neg ?_]
    simp only [hv, false_or, replicaBase, fat12ReplicaSlotSectors, fat12ReplicaDataSectors]
    omega
  unfold initReplicas
  simp only [fat12ReplicaFileCount, show List.range 3 = [0, 1, 2] from rfl, List.mapM_cons, List.mapM_nil]
  rw [hslot 0 (by omega), hslot 1 (by omega), hslot 2 (by omega)]
  rfl

theorem fat12JournalPrepare_mounted (hw : Healthy w) (hl : VolumeLayout f.bootSector j t)
    (hrec : (fat12JournalRecover j w).1 = true)
    (hremap : (loadedRemap t (fat12JournalRecover j w).2.2.medium.view).1 = true) :
    (fat12JournalPrepare f w).1 = true ∧
      (fat12JournalPrepare f w).2.2 = (fat12JournalRecover j w).2.2 ∧
      (fat12JournalPrepare f w).2.1.bootSector = f.bootSector ∧
      Mounted j t (fat12JournalPrepare f w).2.1 (fat12JournalPrepare f w).2.2 := by
  obtain ⟨h, hjh, hlh, hc, hw'⟩ := fat12JournalRecover_ok (formatted_of_format hl.journal) hw hrec
  rw [fat12JournalPrepare_eq hw hl]
  rw [if_pos hrec, if_pos hremap]
  obtain ⟨h1, h2, h3, h4, h5, h6, h7⟩ := enableVolume_of_replicas
    (f := (f.setJournal (fat12JournalRecover j w).2.1).setRemap
      (loadedRemap t (fat12JournalRecover j w).2.2.medium.view).2)
    (w := (fat12JournalRecover j w).2.2) (initReplicas_isSome hl.volume)
  refine ⟨h1, h2, h3, ?_, ⟨h, ?_, hc, ?_, ?_⟩, ?_, h6⟩
  · rw [h2]
    exact hw'
  · rw [h2]
    exact hlh
  · rw [h4]
    exact hjh
  · rw [h7]
    exact congrArg (fun k : Fat12Journal => k.header.sequence) hjh
  · rw [h2, h5]
    exact Prod.ext hremap rfl

theorem fat12JournalPrepare_parts (hw : Healthy w) (hl : VolumeLayout f.bootSector j t)
    (hok : (fat12JournalPrepare f w).1 = true) : (fat12JournalRecover j w).1 = true ∧
      (loadedRemap t (fat12JournalRecover j w).2.2.medium.view).1 = true := by
  rw [fat12JournalPrepare_eq hw hl] at hok
  dsimp only at hok
  split at hok
  next hrec =>
    split at hok
    next hremap => exact ⟨hrec, hremap⟩
    next => simp at hok
  next => simp at hok

end ReistOs
