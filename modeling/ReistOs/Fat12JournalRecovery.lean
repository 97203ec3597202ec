import ReistOs.Fat12Journal

/-! What loading and recovery make of the header copies and the undo area. -/

namespace ReistOs

open WriteBack Fat12JournalHeader

def powerOn (d : Floppy) : Fat12World := ⟨⟨d, []⟩, [], [], []⟩

/-- What `fat12_journal_format` guarantees. -/
structure Formatted (j : Fat12Journal) : Prop where
  fingerprint : j.mediaFingerprint ≠ 0
  distinct : j.primaryHeaderSector ≠ j.mirrorHeaderSector
  primary_lt : j.primaryHeaderSector < j.dataStartSector
  mirror_lt : j.mirrorHeaderSector < j.dataStartSector

theorem formatted_of_format {p m s : Nat} {fingerprint : UInt32} {j : Fat12Journal}
    (h : fat12JournalFormat p m s fingerprint = some j) : Formatted j := by
  unfold fat12JournalFormat at h
  split at h
  next => simp at h
  next hok =>
    cases Option.some.inj h
    simp only [not_or, Nat.not_le] at hok
    obtain ⟨hf, hd, hs, -⟩ := hok
    exact ⟨hf, hd, by dsimp only; omega, by dsimp only; omega⟩

section Headers

variable {j : Fat12Journal} {q : UInt64} {n : UInt32}

def activeHeader (j : Fat12Journal) (q : UInt64) (n : UInt32) : Fat12JournalHeader :=
  prepareHeader j.mediaFingerprint q fat12JournalActive n

def cleanHeader (j : Fat12Journal) (q : UInt64) : Fat12JournalHeader :=
  prepareHeader j.mediaFingerprint q fat12JournalClean 0

theorem headerValid_prepareHeader (fingerprint : UInt32) (q : UInt64) {state n : UInt32}
    (hs : state ≤ fat12JournalActive) (hn : n.toNat ≤ fat12JournalMaxEntries) :
    headerValid (prepareHeader fingerprint q state n) fingerprint = true := by
  simp only [headerValid, prepareHeader, beq_self_eq_true, Bool.true_and, hs, hn, decide_true]
  exact beq_iff_eq.mpr rfl

theorem activeHeader_valid (hn : n.toNat ≤ fat12JournalMaxEntries) :
    headerValid (activeHeader j q n) j.mediaFingerprint = true :=
  headerValid_prepareHeader _ _ (by decide) hn

theorem cleanHeader_valid : headerValid (cleanHeader j q) j.mediaFingerprint = true :=
  headerValid_prepareHeader _ _ (by decide) (by decide)

theorem activeHeader_ne_cleanHeader : activeHeader j q n ≠ cleanHeader j q := by
  intro h
  have hs : fat12JournalActive = fat12JournalClean := congrArg state h
  cases hs

def loaded (j : Fat12Journal) (d : Floppy) : Option Fat12JournalHeader :=
  selectHeader (validHeader j (some (d j.primaryHeaderSector)))
    (validHeader j (some (d j.mirrorHeaderSector)))

variable {h f s : Fat12JournalHeader} {d : Floppy}

theorem validHeader_of_valid {s : Sector} (hs : decode s = h)
    (hv : headerValid h j.mediaFingerprint = true) :
    validHeader j (some s) = some h := by
  simp [validHeader, Option.filter, hs, hv]

theorem loaded_equal (hv : headerValid h j.mediaFingerprint = true)
    (hp : decode (d j.primaryHeaderSector) = h)
    (hm : decode (d j.mirrorHeaderSector) = h) : loaded j d = some h := by
  unfold loaded
  rw [validHeader_of_valid hp hv, validHeader_of_valid hm hv]
  simp [selectHeader]

theorem loaded_torn (hf : headerValid f j.mediaFingerprint = true)
    (hs : headerValid s j.mediaFingerprint = true)
    (hp : decode (d j.primaryHeaderSector) = f)
    (hm : decode (d j.mirrorHeaderSector) = s) (hq : f.sequence = s.sequence)
    (hne : f ≠ s) : loaded j d = none := by
  unfold loaded
  rw [validHeader_of_valid hp hf, validHeader_of_valid hm hs]
  simp [selectHeader, hq, hne]

theorem loaded_newer (hf : headerValid f j.mediaFingerprint = true)
    (hp : decode (d j.primaryHeaderSector) = f)
    (hm : ∀ s, validHeader j (some (d j.mirrorHeaderSector)) = some s → s.sequence < f.sequence) :
    loaded j d = some f := by
  unfold loaded
  rw [validHeader_of_valid hp hf]
  rcases hs : validHeader j (some (d j.mirrorHeaderSector)) with _ | s
  · rfl
  · have hlt := hm s hs
    have hne : f.sequence ≠ s.sequence := fun he => by
      rw [he] at hlt
      exact absurd hlt (UInt64.lt_irrefl _)
    simp [selectHeader, hne, UInt64.le_of_lt hlt]

theorem loaded_max (hl : loaded j d = some h)
    (hs : validHeader j (some (d j.mirrorHeaderSector)) = some s) : s.sequence ≤ h.sequence := by
  unfold loaded at hl
  rw [hs] at hl
  rcases hf : validHeader j (some (d j.primaryHeaderSector)) with _ | f
  · rw [hf] at hl
    cases Option.some.inj hl
    exact UInt64.le_refl _
  · rw [hf] at hl
    unfold selectHeader at hl
    dsimp only at hl
    split at hl
    next => simp at hl
    next =>
      split at hl
      next hle => cases Option.some.inj hl; exact hle
      next => cases Option.some.inj hl; exact UInt64.le_refl _

end Headers

section Healthy

variable {j : Fat12Journal} {w : Fat12World} {q : UInt64}

theorem fat12JournalLoad_eq (hfp : j.mediaFingerprint ≠ 0) (hr : w.readFates = []) :
    fat12JournalLoad j w = match loaded j w.medium.view with
      | none => (false, j, w)
      | some h => (true, { j with header := h }, w) := by
  unfold fat12JournalLoad
  simp only [if_neg hfp, World.read_of_readFates hr]
  cases hl : loaded j w.medium.view with
  | none => simp only [show selectHeader _ _ = none from hl]
  | some h => simp only [show selectHeader _ _ = some h from hl]

theorem writeVerified_healthy (hf : w.fates = []) (hr : w.readFates = []) (a : Nat) (x : Sector) :
    (writeVerified a x w).1 = true ∧ w.Wrote [(a, x)] (writeVerified a x w).2 := by
  obtain ⟨hok, hw⟩ := World.write_healthy hf a x
  unfold writeVerified
  simp only [andThen, hok, if_true]
  rw [World.read_of_readFates (hw.readFates.trans hr), hw.view]
  simp [hw]

theorem storeUndo_healthy (hf : w.fates = []) (hr : w.readFates = []) (index : Nat) (old : Sector)
    (entry : Fat12JournalEntry) : (storeUndo j index old entry w).1 = true ∧
      w.Wrote [(j.oldSector index, old), (j.metadataSector index, entry.encode)]
        (storeUndo j index old entry w).2 := by
  obtain ⟨hok, hw⟩ := writeVerified_healthy hf hr (j.oldSector index) old
  obtain ⟨hok', hw'⟩ := writeVerified_healthy (hw.fates.trans hf) (hw.readFates.trans hr)
    (j.metadataSector index) entry.encode
  unfold storeUndo
  simp only [andThen, hok, if_true]
  exact ⟨hok', hw.trans hw'⟩

theorem writeHeader_healthy (hf : w.fates = []) (hr : w.readFates = []) :
    (writeHeader j w).1 = true ∧ w.Wrote [(j.primaryHeaderSector, j.header.encode),
      (j.mirrorHeaderSector, j.header.encode)] (writeHeader j w).2 := by
  obtain ⟨hok, hw⟩ := writeVerified_healthy hf hr j.primaryHeaderSector j.header.encode
  obtain ⟨hok', hw'⟩ := writeVerified_healthy (hw.fates.trans hf) (hw.readFates.trans hr)
    j.mirrorHeaderSector j.header.encode
  unfold writeHeader
  simp only [andThen, hok, if_true]
  exact ⟨hok', hw.trans hw'⟩

def UndoStored (j : Fat12Journal) (q : UInt64) (d : Floppy) (i : Nat) (u : UInt32 × Sector) : Prop :=
  d (j.oldSector i) = u.2 ∧
    Fat12JournalEntry.decode (d (j.metadataSector i)) = newEntry u.1 u.2 q

def restores (us : List (UInt32 × Sector)) : List (Nat × Sector) :=
  us.map fun u => (u.1.toNat, u.2)

theorem restoreEntry_healthy (hf : w.fates = []) (hr : w.readFates = []) {i : Nat}
    {u : UInt32 × Sector} (hu : UndoStored j q w.medium.view i u) (hq : j.header.sequence = q)
    (hout : ¬ j.Reserved u.1.toNat) : (restoreEntry j i w).1 = true ∧
      w.Wrote [(u.1.toNat, u.2)] (restoreEntry j i w).2 := by
  have hp : u.1.toNat ≠ j.primaryHeaderSector := fun h => hout (Or.inl h)
  have hm : u.1.toNat ≠ j.mirrorHeaderSector := fun h => hout (Or.inr (Or.inl h))
  unfold restoreEntry
  rw [World.read_of_readFates hr]
  dsimp only
  rw [World.read_of_readFates hr]
  dsimp only
  rw [hu.1, hu.2, if_neg (by simp [newEntry, hp, hm, hq, Fat12JournalEntry.checksum])]
  exact writeVerified_healthy hf hr _ _

theorem mem_undo_reserved {i : Nat} (hi : i < fat12JournalMaxEntries) :
    j.Reserved (j.oldSector i) ∧ j.Reserved (j.metadataSector i) := by
  simp only [Fat12Journal.Reserved, Fat12Journal.oldSector, Fat12Journal.metadataSector]
  omega

theorem restoreEntries_healthy {us : List (UInt32 × Sector)} (hq : j.header.sequence = q)
    (hfit : us.length ≤ fat12JournalMaxEntries) (hout : ∀ u ∈ us, ¬ j.Reserved u.1.toNat)
    (k i : Nat) (hk : i + k = us.length) (w : Fat12World) (hf : w.fates = []) (hr : w.readFates = [])
    (hu : ∀ n u, us[n]? = some u → UndoStored j q w.medium.view n u) :
    (restoreEntries j i k w).1 = true ∧
      w.Wrote (restores (us.drop i)) (restoreEntries j i k w).2 := by
  induction k generalizing i w with
  | zero =>
    rw [List.drop_of_length_le (by omega)]
    exact ⟨rfl, World.Wrote.refl w⟩
  | succ k ih =>
    have hi : i < us.length := by omega
    have hmem := List.getElem_mem hi
    obtain ⟨hok, hw⟩ := restoreEntry_healthy hf hr (hu i _ (List.getElem?_eq_getElem hi)) hq
      (hout _ hmem)
    -- the target is no journal sector, so later entries are still intact
    have hu' : ∀ n u, us[n]? = some u →
        UndoStored j q (restoreEntry j i w).2.medium.view n u := by
      intro n u hn
      have hlt : n < fat12JournalMaxEntries :=
        Nat.lt_of_lt_of_le (List.getElem?_eq_some_iff.mp hn).1 hfit
      obtain ⟨hro, hrm⟩ := mem_undo_reserved (j := j) hlt
      have hkeep : ∀ a, j.Reserved a →
          (restoreEntry j i w).2.medium.view a = w.medium.view a := by
        intro a ha
        rw [hw.view]
        refine applyWrites_of_not_mem _ fun p hp he => hout _ hmem ?_
        rw [List.mem_singleton.mp hp] at he
        rwa [← he] at ha
      obtain ⟨h1, h2⟩ := hu n u hn
      exact ⟨(hkeep _ hro).trans h1, (congrArg _ (hkeep _ hrm)).trans h2⟩
    obtain ⟨hok', hw'⟩ := ih (i + 1) (by omega) _ (hw.fates.trans hf) (hw.readFates.trans hr) hu'
    unfold restoreEntries
    simp only [andThen, hok, if_true]
    refine ⟨hok', ?_⟩
    rw [List.drop_eq_getElem_cons hi]
    exact hw.trans hw'

theorem fat12JournalCommit_healthy (hf : w.fates = []) (hr : w.readFates = [])
    (ha : j.header.state = fat12JournalActive) (hq : j.header.sequence = q) :
    (fat12JournalCommit j w).1 = true ∧
      (fat12JournalCommit j w).2.1 = { j with header := cleanHeader j q } ∧
      w.Wrote [(j.primaryHeaderSector, (cleanHeader j q).encode),
        (j.mirrorHeaderSector, (cleanHeader j q).encode)] (fat12JournalCommit j w).2.2 := by
  obtain ⟨hok, hw⟩ := writeHeader_healthy (j := { j with header := cleanHeader j q }) hf hr
  unfold fat12JournalCommit
  rw [if_neg (by simp [ha]), hq]
  rw [show prepareHeader j.mediaFingerprint q fat12JournalClean 0 = cleanHeader j q from rfl, if_pos hok]
  exact ⟨rfl, rfl, hw⟩

end Healthy

variable {j : Fat12Journal} {d : Floppy} {q : UInt64}

theorem recover_unloadable (hj : Formatted j) (h : loaded j d = none) :
    (fat12JournalRecover j (powerOn d)).1 = false := by
  unfold fat12JournalRecover
  rw [fat12JournalLoad_eq hj.fingerprint rfl, show loaded j (powerOn d).medium.view = none from h]
  rfl

theorem recover_clean (hj : Formatted j) {h : Fat12JournalHeader} (hl : loaded j d = some h)
    (hc : h.state = fat12JournalClean) :
    fat12JournalRecover j (powerOn d) = (true, { j with header := h }, powerOn d) := by
  unfold fat12JournalRecover
  rw [fat12JournalLoad_eq hj.fingerprint rfl, show loaded j (powerOn d).medium.view = some h from hl]
  simp [hc]

theorem recover_active (hj : Formatted j) {us : List (UInt32 × Sector)}
    (hl : loaded j d = some (activeHeader j q (UInt32.ofNat us.length)))
    (hfit : us.length ≤ fat12JournalMaxEntries) (hout : ∀ u ∈ us, ¬ j.Reserved u.1.toNat)
    (hu : ∀ n u, us[n]? = some u → UndoStored j q d n u) :
    (fat12JournalRecover j (powerOn d)).1 = true ∧
      (powerOn d).Wrote (restores us ++ [(j.primaryHeaderSector, (cleanHeader j q).encode),
        (j.mirrorHeaderSector, (cleanHeader j q).encode)]) (fat12JournalRecover j (powerOn d)).2.2 := by
  let k : Fat12Journal := { j with header := activeHeader j q (UInt32.ofNat us.length) }
  have hn : k.header.entryCount.toNat = us.length := by
    have h64 : us.length ≤ 64 := hfit
    exact UInt32.toNat_ofNat_of_lt' (Nat.lt_of_le_of_lt h64 (by decide))
  obtain ⟨hok, hw⟩ := restoreEntries_healthy (j := k) rfl hfit hout us.length 0 (by omega)
    (powerOn d) rfl rfl hu
  obtain ⟨hok', -, hw'⟩ := fat12JournalCommit_healthy (j := k) (q := q)
    (w := (restoreEntries k 0 us.length (powerOn d)).2) (hw.fates.trans rfl) (hw.readFates.trans rfl)
    rfl rfl
  have heq : fat12JournalRecover j (powerOn d) =
      fat12JournalCommit k (restoreEntries k 0 us.length (powerOn d)).2 := by
    unfold fat12JournalRecover
    rw [fat12JournalLoad_eq hj.fingerprint rfl, show loaded j (powerOn d).medium.view = _ from hl]
    have hs : ¬ (activeHeader j q (UInt32.ofNat us.length)).state = fat12JournalClean := by
      change ¬ fat12JournalActive = fat12JournalClean
      decide
    rw [if_neg (by simp), if_neg hs]
    rw [hn, if_pos hok]
  rw [heq]
  exact ⟨hok', hw.trans hw'⟩

end ReistOs
