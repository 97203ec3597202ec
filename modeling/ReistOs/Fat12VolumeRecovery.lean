import ReistOs.Fat12JournalAtomicity
import ReistOs.Fat12VolumeMount

/-! Which crashed transactions a mount undoes on a volume with remapped sectors. -/

namespace ReistOs

open WriteBack LittleEndian Fat12RemapEntry

section Fits

variable {j : Fat12Journal} {physical : UInt32 → Nat} {q : UInt64} {us : List (UInt32 × Sector)}
  {e : Nat → Fat12JournalEntry} {w : Fat12World} {t : UInt32} {x : Sector}

/-- The journal in memory knows the targets recorded so far. -/
structure Knows (us : List (UInt32 × Sector)) (e : Nat → Fat12JournalEntry) : Prop where
  fits : us.length ≤ fat12JournalMaxEntries
  entries : ∀ n u, us[n]? = some u → (e n).targetSector = u.1

theorem fat12JournalRecord_outside {old : Sector}
    (h : (fat12JournalRecord j t old w).1 = true) : ¬ j.Reserved t.toNat := by
  intro ht
  unfold fat12JournalRecord at h
  rw [if_pos (Or.inr ht)] at h
  cases h

theorem record_room {old : Sector} (hk : Knows us e) (hnew : t ∉ us.map Prod.fst)
    (h : (fat12JournalRecord (running j q us e) t old w).1 = true) :
    us.length < fat12JournalMaxEntries := by
  by_contra hfull
  have hcount : (running j q us e).header.entryCount.toNat = us.length := ofNat_toNat_le hk.fits
  have hany : ¬ ((List.range us.length).any fun i =>
      ((running j q us e).entries i).targetSector == t) = true := by
    intro hany
    obtain ⟨n, hn, he⟩ := List.any_eq_true.mp hany
    have hlt := List.mem_range.mp hn
    refine hnew (List.mem_map.mpr ⟨us[n], List.getElem_mem hlt, ?_⟩)
    rw [← hk.entries n _ (List.getElem?_eq_getElem hlt)]
    exact beq_iff_eq.mp he
  unfold fat12JournalRecord at h
  rw [if_neg fun hs => hs.elim (fun hs => hs rfl) (fat12JournalRecord_outside h), hcount, if_neg hany,
    if_pos (Nat.le_of_not_lt hfull)] at h
  cases h

theorem recordAndWrite_fits (hw : Healthy w) (hk : Knows us e)
    (hok : (recordAndWrite (running j q us e) physical t x w).1 = true) :
    ¬ j.Reserved t.toNat ∧ ∃ us' e', us'.map Prod.fst = firstTargets (us.map Prod.fst) [(t, x)] ∧
      Knows us' e' ∧ (recordAndWrite (running j q us e) physical t x w).2.1 = running j q us' e' ∧
      Healthy (recordAndWrite (running j q us e) physical t x w).2.2 := by
  unfold recordAndWrite at hok ⊢
  rw [World.read_of_readFates hw.readFates] at hok ⊢
  dsimp only at hok ⊢
  by_cases hrec : (fat12JournalRecord (running j q us e) t (w.medium.view (physical t)) w).1 = true
  · have hout : ¬ j.Reserved t.toNat := fat12JournalRecord_outside (j := running j q us e) hrec
    rw [if_pos hrec]
    by_cases hknown : t ∈ us.map Prod.fst
    · rw [record_known hout hk.entries hk.fits hknown]
      exact ⟨hout, us, e, by simp [firstTargets, hknown], hk, rfl, writeVerified_keeps hw _ _⟩
    · have hroom := record_room hk hknown hrec
      obtain ⟨-, hj, hwr⟩ := record_new hw.fates hw.readFates hout hk.entries hroom hknown
        (w.medium.view (physical t))
      refine ⟨hout, _, _, ?_, ⟨?_, fun n u hn => ?_⟩, hj, writeVerified_keeps (hw.of_wrote hwr) _ _⟩
      · simp [firstTargets, hknown]
      · rw [List.length_append]
        exact hroom
      · rcases getElem_concat_cases hn with hn | ⟨rfl, rfl⟩
        · have hlt := (List.getElem?_eq_some_iff.mp hn).1
          rw [Function.update_of_ne (by omega)]
          exact hk.entries n u hn
        · rw [Function.update_self]
          rfl
  · rw [if_neg hrec] at hok
    exact absurd hok hrec

theorem recordAndWrite_new (hw : Healthy w) (hk : Knows us e) (hout : ¬ j.Reserved t.toNat)
    (hroom : us.length < fat12JournalMaxEntries) (hnew : t ∉ us.map Prod.fst) :
    (recordAndWrite (running j q us e) physical t x w).1 = true := by
  obtain ⟨hok, -, hwr⟩ := record_new (j := j) (q := q) hw.fates hw.readFates hout hk.entries hroom hnew
    (w.medium.view (physical t))
  unfold recordAndWrite
  rw [World.read_of_readFates hw.readFates]
  dsimp only
  rw [if_pos hok]
  exact (writeVerified_healthy (hw.of_wrote hwr).fates (hw.of_wrote hwr).readFates _ _).1

theorem recordAndWriteAll_fits (ps : List (UInt32 × Sector)) (hw : Healthy w) (hk : Knows us e)
    (hok : (recordAndWriteAll physical ps (running j q us e) w).1 = true) :
    (∀ p ∈ ps, ¬ j.Reserved p.1.toNat) ∧
      (firstTargets (us.map Prod.fst) ps).length ≤ fat12JournalMaxEntries := by
  induction ps generalizing us e w with
  | nil =>
    refine ⟨by simp, ?_⟩
    rw [firstTargets, List.length_map]
    exact hk.fits
  | cons p ps ih =>
    unfold recordAndWriteAll at hok
    by_cases h : (recordAndWrite (running j q us e) physical p.1 p.2 w).1 = true
    · obtain ⟨hout, us', e', hus, hk', hj, hw'⟩ := recordAndWrite_fits hw hk h
      simp only [h, if_true, hj] at hok
      obtain ⟨hrest, hlen⟩ := ih hw' hk' hok
      refine ⟨?_, ?_⟩
      · rintro r hr
        rcases List.mem_cons.mp hr with rfl | hr
        · exact hout
        · exact hrest r hr
      · rw [hus] at hlen
        exact hlen
    · simp [h] at hok

theorem fat12Transaction_fits (hj : Formatted j) {h : Fat12JournalHeader}
    (hl : loaded j w.medium.view = some h) (hc : h.state = fat12JournalClean) (hq : h.sequence < q)
    (hw : Healthy w) (e0 : Nat → Fat12JournalEntry) {ps : List (UInt32 × Sector)}
    (hok : (fat12Transaction { j with header := h, entries := e0 } physical q ps w).1 = true) :
    (∀ p ∈ ps, ¬ j.Reserved p.1.toNat) ∧ (firstTargets [] ps).length ≤ fat12JournalMaxEntries := by
  obtain ⟨hb, us, e, vs, hj', hwr, -, hus, -⟩ := fat12JournalBegin_stretch physical []
    hj hl hc hq hw.fates hw.readFates e0
  obtain rfl : us = [] := List.map_eq_nil_iff.mp hus
  unfold fat12Transaction at hok
  rw [if_pos hb, hj'] at hok
  exact recordAndWriteAll_fits ps (hw.of_wrote hwr) ⟨Nat.zero_le _, by simp⟩ hok

end Fits

section Volume

variable {f : Fat12} {w : Fat12World} {j : Fat12Journal} {t : Fat12RemapTable} {s : UInt32}

theorem fat12RemapSector_cases (f : Fat12) (s : UInt32) :
    fat12RemapSector f s = s ∨ f.remap.IsBad s ∧ f.remap.IsReplacement (fat12RemapSector f s) := by
  unfold fat12RemapSector
  split
  next =>
    rcases h : fat12RemapLookup f.remap s with _ | r
    · exact Or.inl rfl
    · exact Or.inr (fat12RemapLookup_some h)
  next => exact Or.inl rfl

theorem physicalSector_of_not_bad (h : ¬ f.remap.IsBad s) : physicalSector f s = s.toNat := by
  rcases fat12RemapSector_cases f s with he | he
  · exact congrArg UInt32.toNat he
  · exact absurd he.1 h

theorem physicalSector_not_reserved {b : Fat12BootSector} (hl : VolumeLayout b j t)
    (hspare : ∀ r, f.remap.IsReplacement r → b.Spare r.toNat) (hs : ¬ j.Reserved s.toNat) :
    ¬ j.Reserved (physicalSector f s) := by
  unfold physicalSector
  rcases fat12RemapSector_cases f s with he | he
  · rw [he]
    exact hs
  · exact hl.not_reserved_spare (hspare _ he.2)

/-- Remounting shows every logical sector outside the journal as before, and nothing was restored
into a defective or a replacement sector. -/
def Fat12Undone (f : Fat12) (w : Fat12World) (f' : Fat12) (image : Floppy) : Prop :=
  let m := fat12JournalPrepare f' (powerOn image)
  m.1 = true ∧
  (∀ s : UInt32, ¬ f.journal.Reserved s.toNat →
    (fat12ReadLogicalSectors m.2.1 s 1 m.2.2).1 = (fat12ReadLogicalSectors f s 1 w).1) ∧
  ∀ p ∈ writesOf m.2.2.log, ¬ f.journal.Reserved p.1 →
    ∀ s : UInt32, s.toNat = p.1 → ¬ f.remap.IsBad s ∧ ¬ f.remap.IsReplacement s

theorem physicalSector_congr {g : Fat12} (he : f.remapEnabled = g.remapEnabled)
    (hr : f.remap = g.remap) : physicalSector f = physicalSector g := by
  funext s
  simp [physicalSector, fat12RemapSector, he, hr]

theorem Mounted.reads_eq {g : Fat12} {v : Fat12World} (hl : VolumeLayout f.bootSector j t)
    (hf : Mounted j t f w) (hg : Mounted j t g v) (hb : g.bootSector = f.bootSector)
    (hspare : ∀ r, f.remap.IsReplacement r → f.bootSector.Spare r.toNat)
    (hv : ∀ a, ¬ j.Reserved a → v.medium.view a = w.medium.view a) (hs : ¬ j.Reserved s.toNat) :
    (fat12ReadLogicalSectors g s 1 v).1 = (fat12ReadLogicalSectors f s 1 w).1 := by
  obtain ⟨hp, hm, hts, -, -⟩ := fat12RemapFormat_some hl.remap
  have hout : ∀ a, f.bootSector.remapBase ≤ a → v.medium.view a = w.medium.view a := fun a ha =>
    hv a fun hr => absurd (hl.reserved_lt hr) (Nat.not_lt.mpr ha)
  have hremap : g.remap = f.remap := by
    have hsame := loadedRemap_congr (t := t) (d := v.medium.view) (e := w.medium.view)
      (hout _ (by omega)) (hout _ (by omega)) (hout _ (by omega))
    rw [hf.remap, hg.remap] at hsame
    exact congrArg Prod.snd hsame
  have hphys : physicalSector g = physicalSector f :=
    physicalSector_congr (hg.enabled.trans hf.enabled.symm) hremap
  rw [fat12ReadLogicalSectors_single hg.enabled, fat12ReadLogicalSectors_single hf.enabled, hb, hphys,
    World.read_of_readFates hg.healthy.readFates, World.read_of_readFates hf.healthy.readFates]
  rw [hv _ (physicalSector_not_reserved hl hspare hs)]
  split <;> rfl

theorem powerOn_healthy (d : Floppy) : Healthy (powerOn d) := ⟨rfl, rfl⟩

variable {ws : List (Nat × Sector)} {q : UInt64} {targets : List UInt32} {f' : Fat12}

theorem undone_of_restored (hl : VolumeLayout f.bootSector j t) (hf : Mounted j t f w)
    (hb : f'.bootSector = f.bootSector)
    (hspare : ∀ r, f.remap.IsReplacement r → f.bootSector.Spare r.toNat) {d : Floppy}
    (hrec : (fat12JournalRecover j (powerOn d)).1 = true)
    (hview : ∀ a, ¬ j.Reserved a →
      (fat12JournalRecover j (powerOn d)).2.2.medium.view a = w.medium.view a)
    (hlog : ∀ p ∈ writesOf (fat12JournalRecover j (powerOn d)).2.2.log, ¬ j.Reserved p.1 →
      ∀ s : UInt32, s.toNat = p.1 → ¬ f.remap.IsBad s ∧ ¬ f.remap.IsReplacement s) :
    Fat12Undone f w f' d := by
  have hl' : VolumeLayout f'.bootSector j t := hb ▸ hl
  obtain ⟨hp, hm, hts, -, -⟩ := fat12RemapFormat_some hl.remap
  have hout : ∀ a, f.bootSector.remapBase ≤ a →
      (fat12JournalRecover j (powerOn d)).2.2.medium.view a = w.medium.view a := fun a ha =>
    hview a fun hr => absurd (hl.reserved_lt hr) (Nat.not_lt.mpr ha)
  have hremap : (loadedRemap t (fat12JournalRecover j (powerOn d)).2.2.medium.view).1 = true := by
    rw [loadedRemap_congr (e := w.medium.view) (hout _ (by omega)) (hout _ (by omega))
      (hout _ (by omega)), hf.remap]
  obtain ⟨hok, hw', hb', hm'⟩ := fat12JournalPrepare_mounted (powerOn_healthy d) hl' hrec hremap
  obtain ⟨h, -, -, hj, -⟩ := hf.loaded
  refine ⟨hok, fun s hs => ?_, ?_⟩
  · rw [hj] at hs
    refine Mounted.reads_eq hl hf hm' (hb'.trans hb) hspare (fun a ha => ?_) hs
    rw [hw']
    exact hview a ha
  · rw [hw', hj]
    exact hlog

theorem restores_mem {us : List (UInt32 × Sector)} {p : Nat × Sector} :
    p ∈ restores us ↔ ∃ u ∈ us, u.1.toNat = p.1 ∧ u.2 = p.2 := by
  simp [restores, Prod.ext_iff]

/-- An image inside a transaction can be undone exactly if it is not between two header copies and
recovery restores no sector of the remap. -/
theorem PointOf.undone_iff (hl : VolumeLayout f.bootSector j t) (hf : Mounted j t f w)
    (hb : f'.bootSector = f.bootSector)
    (hspare : ∀ r, f.remap.IsReplacement r → f.bootSector.Spare r.toNat)
    (hp : PointOf j (physicalSector f) w.medium.view q targets ws) :
    Fat12Undone f w f' (applyWrites ws w.medium.view) ↔
      ¬ HeaderGap j ws ∧ ∀ s ∈ targets.take (published j ws),
        ¬ f.remap.IsBad s ∧ ¬ f.remap.IsReplacement s := by
  have hj := formatted_of_format hl.journal
  have hl' : VolumeLayout f'.bootSector j t := hb ▸ hl
  obtain ⟨h, hlh, hc, hjh, -⟩ := hf.loaded
  cases hp with
  | torn hgap hnone =>
    refine iff_of_false (fun hu => ?_) fun hn => hn.1 hgap
    have hrec := (fat12JournalPrepare_parts (powerOn_healthy _) hl' hu.1).1
    rw [recover_unloadable hj hnone] at hrec
    cases hrec
  | idle hnil =>
    subst hnil
    refine iff_of_true ?_ ⟨not_headerGap_nil, by simp [published, mirrorWrites]⟩
    have hrc := recover_clean (d := applyWrites [] w.medium.view) hj hlh hc
    refine undone_of_restored hl hf hb hspare ?_ (fun a _ => ?_) ?_
    · rw [hrc]
    · rw [hrc]
      rfl
    · rw [hrc]
      simp [powerOn, writesOf]
  | opened us hpre ho =>
    have htake : targets.take (published j ws) = us.map Prod.fst := by
      rw [ho.published]
      obtain ⟨rest, rfl⟩ := hpre
      rw [List.take_append_of_le_length (by simp), List.take_of_length_le (by simp)]
    obtain ⟨hrec, hwrote⟩ := ho.recover hj
    obtain ⟨⟨es, hx, hes⟩, -⟩ := hwrote
    have hlog : writesOf (fat12JournalRecover j (powerOn (applyWrites ws w.medium.view))).2.2.log =
        restores us ++ headerPair j (cleanHeader j q) := by
      rw [hx.log, ← hes]
      rfl
    rw [htake]
    refine ⟨fun hu => ⟨ho.nogap, fun s hs => ?_⟩, fun hn => ?_⟩
    · obtain ⟨u, hu', rfl⟩ := List.mem_map.mp hs
      obtain ⟨hok, -, hlast⟩ := hu
      obtain ⟨hr1, hr2⟩ := fat12JournalPrepare_parts (powerOn_healthy _) hl' hok
      obtain ⟨-, hw', -⟩ := fat12JournalPrepare_mounted (powerOn_healthy _) hl' hr1 hr2
      rw [hw', hjh] at hlast
      refine hlast (u.1.toNat, u.2) ?_ (ho.outside u hu') u.1 rfl
      rw [hlog]
      exact List.mem_append_left _ (restores_mem.mpr ⟨u, hu', rfl, rfl⟩)
    · have hid : ∀ u ∈ us, physicalSector f u.1 = u.1.toNat := fun u hu =>
        physicalSector_of_not_bad (hn.2 u.1 (List.mem_map_of_mem hu)).1
      refine undone_of_restored hl hf hb hspare hrec (fun a ha => ho.recover_view hj hid ha) ?_
      rw [hlog]
      intro p hp hres s hs
      rcases List.mem_append.mp hp with hp | hp
      · obtain ⟨u, hu, he, -⟩ := restores_mem.mp hp
        have heq : s = u.1 := UInt32.toNat_inj.mp (hs.trans he.symm)
        exact heq ▸ hn.2 u.1 (List.mem_map_of_mem hu)
      · refine absurd ?_ hres
        simp only [headerPair, List.mem_cons, List.not_mem_nil, or_false] at hp
        rcases hp with rfl | rfl
        · exact Or.inl rfl
        · exact Or.inr (Or.inl rfl)

def Fat12.withFat (f : Fat12) : Fat12 := { f with fat := true }

theorem Mounted.withFat (h : Mounted j t f w) : Mounted j t f.withFat w :=
  ⟨h.healthy, h.loaded, h.remap, h.enabled⟩

theorem journaledWrites_points (hl : VolumeLayout f.bootSector j t) (hf : Mounted j t f w)
    (hspare : ∀ r, f.remap.IsReplacement r → f.bootSector.Spare r.toNat) {maximum : Nat}
    {qs : List (UInt32 × List Sector)} (hok : (journaledWrites f maximum qs w).1 = true) :
    ∃ q us e vs, w.Wrote vs (journaledWrites f maximum qs w).2.2 ∧
      Running j (physicalSector f) w.medium.view q us (requestWrites qs) vs e ∧
      us.map Prod.fst = firstTargets [] (requestWrites qs) ∧
      ∀ before, before <+: vs → PointOf j (physicalSector f) w.medium.view q
        (firstTargets [] (requestWrites qs)) before := by
  have hj := formatted_of_format hl.journal
  obtain ⟨h, hlh, hc, hjh, hseq⟩ := hf.loaded
  obtain ⟨hmax, htok, hworld⟩ := journaledWrites_of_ok hf.enabled hok
  rw [hworld]
  rw [hseq] at hmax
  rw [hjh, hseq] at htok ⊢
  obtain ⟨hout, hroom⟩ := fat12Transaction_fits hj hlh hc (UInt64.lt_add_one hmax) hf.healthy j.entries htok
  obtain ⟨-, us, e, vs, -, hw, hrun, hus, hpts⟩ := fat12Transaction_stretch
    hj hlh hc (UInt64.lt_add_one hmax) hf.healthy.fates hf.healthy.readFates j.entries
    (fun p hp => ⟨hout p hp, physicalSector_not_reserved hl hspare (hout p hp)⟩) hroom
  exact ⟨_, us, e, vs, hw, hrun, hus, hpts⟩

end Volume

section Success

variable {f : Fat12} {w : Fat12World} {s : UInt32} {x : Sector}

theorem writeLogicalSector_ok (he : f.remapEnabled = true) (hr : w.readFates = [])
    (hs : s.toNat < f.bootSector.total)
    (hok : (recordAndWrite f.journal (physicalSector f) s x w).1 = true) :
    (writeLogicalSector f s x w).1 = true := by
  unfold recordAndWrite at hok
  unfold writeLogicalSector
  rw [fat12ReadLogicalSectors_single he, if_neg (Nat.not_le.mpr hs)]
  rw [World.read_of_readFates hr] at hok ⊢
  dsimp only at hok
  simp only [Option.map_some]
  split at hok
  next hrec =>
    rw [if_pos hrec]
    exact hok
  next hrec => exact absurd hok hrec

theorem fat12WriteLogicalSectors_ok (hsup : fat12WriteSupported f = true)
    (ha : f.transactionActive = true) (hs : s.toNat < f.bootSector.total)
    (hok : (writeLogicalSector f s x w).1 = true) : (fat12WriteLogicalSectors f s [x] w).1 = true := by
  unfold fat12WriteLogicalSectors
  rw [if_neg ?_, if_pos ha]
  · simp [writeSectorLoop, hok]
  · simp only [hsup, Bool.not_true, Bool.false_eq_true, false_or, List.cons_ne_nil,
      List.length_singleton, fat12JournalMaxEntries]
    omega

def Fat12.recording (f : Fat12) (j : Fat12Journal) : Fat12 :=
  { f with journalSequence := f.journalSequence + 1, journal := j, transactionActive := true }

theorem fat12TransactionBegin_ok (hsup : fat12WriteSupported f = true)
    (ha : f.transactionActive = false) (hq : f.journalSequence ≠ 0xFFFFFFFFFFFFFFFF)
    (hok : (fat12JournalBegin f.journal (f.journalSequence + 1) w).1 = true) :
    fat12TransactionBegin f 1 w =
      (true, f.recording (fat12JournalBegin f.journal (f.journalSequence + 1) w).2.1,
        (fat12JournalBegin f.journal (f.journalSequence + 1) w).2.2) := by
  unfold fat12TransactionBegin
  rw [if_neg ?_]
  · dsimp only
    rw [if_pos hok]
    rfl
  · simp [hsup, ha, hq, fat12JournalMaxEntries]

theorem journaledWrites_ok {j : Fat12Journal} (hj : Formatted j) {h : Fat12JournalHeader}
    (hw : Healthy w) (hl : loaded j w.medium.view = some h) (hc : h.state = fat12JournalClean)
    (hjh : f.journal = { j with header := h }) (hlt : h.sequence < f.journalSequence + 1)
    (hsup : fat12WriteSupported f = true) (ha : f.transactionActive = false)
    (hq : f.journalSequence ≠ 0xFFFFFFFFFFFFFFFF)
    (hsup' : ∀ e, fat12WriteSupported (f.recording (running j (f.journalSequence + 1) [] e)) = true)
    (hs : s.toNat < f.bootSector.total) (hout : ¬ j.Reserved s.toNat) (he : f.remapEnabled = true) :
    (journaledWrites f 1 [(s, [x])] w).1 = true := by
  obtain ⟨hb, us, e, vs, hj', hwr, -, hus, -⟩ := fat12JournalBegin_stretch
    (physicalSector f) [] hj hl hc hlt hw.fates hw.readFates j.entries
  obtain rfl : us = [] := List.map_eq_nil_iff.mp hus
  have hh := hw.of_wrote hwr
  rw [← hjh] at hb hj' hh
  let v := (fat12JournalBegin f.journal (f.journalSequence + 1) w).2.2
  let g := f.recording (running j (f.journalSequence + 1) [] e)
  have hrec : (recordAndWrite g.journal (physicalSector g) s x v).1 = true :=
    recordAndWrite_new hh ⟨Nat.zero_le _, by simp⟩ hout (by decide) (by simp)
  have hcall : (fat12WriteLogicalSectors g s [x] v).1 = true :=
    fat12WriteLogicalSectors_ok (hsup' e) rfl hs (writeLogicalSector_ok he hh.readFates hs hrec)
  unfold journaledWrites
  rw [fat12TransactionBegin_ok hsup ha hq hb, hj']
  rw [if_pos rfl]
  unfold writeRequests
  rw [if_pos hcall]
  rfl

end Success

def defectBoot : Fat12BootSector := ⟨196, 2880, 0, 7, reist12 ++ [0x20]⟩

def defectEntry : Fat12RemapEntry := ⟨200, 134, 2⟩

def defectHeader : Fat12RemapHeader :=
  let h := prepareRemapHeader 7 2 1
  { h with crc32 := tableCrc h (Fat12RemapEntry.decode defectEntry.encode) }

def defectFloppy : Floppy := fun a =>
  if a = 1 ∨ a = 2 then (prepareHeader 7 1 fat12JournalClean 0).encode
  else if a = 131 ∨ a = 132 then defectHeader.encode
  else if a = 133 then defectEntry.encode
  else LittleEndian.zero

def emptyRemap : Fat12RemapTable :=
  let h := prepareRemapHeader 7 1 0
  ⟨131, 132, 133, 7, { h with crc32 := tableCrc h fun _ => emptyRemapEntry }, fun _ => emptyRemapEntry⟩

def defectRemap : Fat12RemapTable :=
  let kept := fun i => if i < 1 then Fat12RemapEntry.decode defectEntry.encode i else emptyRemapEntry
  { emptyRemap with header := defectHeader, entries := kept }

def unmounted : Fat12 :=
  ⟨defectBoot, false, false, blankJournal, false, emptyRemap, false, [], false, false, 1⟩

def defectMounted : Fat12 :=
  { unmounted with
    journalEnabled := true
    remapEnabled := true
    remap := defectRemap
    replicaEnabled := true
    replicas := [⟨142, 151, 7⟩, ⟨160, 169, 7⟩, ⟨178, 187, 7⟩] }

theorem defectBoot_layout : VolumeLayout defectBoot blankJournal emptyRemap where
  reist := by decide
  room := by decide
  volume := by decide
  journal := blankJournal_format
  remap := by
    unfold fat12RemapFormat
    rw [if_neg (by decide)]
    rfl

theorem defectEntry_decode : Fat12RemapEntry.decode defectEntry.encode 0 = defectEntry := by
  unfold decode encode get32 get64
    put32 put64
  simp (disch := omega) only [get_put_of_disjoint, get_put, Nat.mul_zero,
    Nat.zero_add, ofNat32_mod, ofNat64_mod]

theorem defectFloppy_remap : loadedRemap emptyRemap defectFloppy = (true, defectRemap) := by
  have hshape : shapedHeader emptyRemap (some defectHeader.encode) = some defectHeader := by
    simp only [shapedHeader, Option.map_some, Fat12RemapHeader.decode_encode]
    rfl
  have hvalid : entriesValid (decode defectEntry.encode) defectHeader = true := by
    have hcount : List.range defectHeader.entryCount.toNat = [0] := rfl
    unfold entriesValid
    simp only [hcount, List.all_cons, List.all_nil, defectEntry_decode, Bool.and_true]
    exact Bool.and_eq_true_iff.mpr ⟨by decide, beq_iff_eq.mpr rfl⟩
  have hadopt : adoptRemap emptyRemap (some defectHeader) (some defectHeader) defectEntry.encode =
      (true, defectRemap) := by
    simp only [adoptRemap, Option.filter_some, hvalid, if_true, selectRemapHeader]
    rw [if_neg (by simp), if_pos (UInt64.le_refl _)]
    rfl
  have hp : defectFloppy emptyRemap.primarySector = defectHeader.encode := rfl
  have hm : defectFloppy emptyRemap.mirrorSector = defectHeader.encode := rfl
  have ht : defectFloppy emptyRemap.tableSector = defectEntry.encode := rfl
  unfold loadedRemap
  rw [hp, hm, hshape, ht, ← hadopt]
  rfl

theorem defectFloppy_loaded : loaded blankJournal defectFloppy =
    some (prepareHeader 7 1 fat12JournalClean 0) :=
  loaded_equal (headerValid_prepareHeader 7 1 (by decide) (by decide))
    (Fat12JournalHeader.decode_encode _) (Fat12JournalHeader.decode_encode _)

theorem unmounted_prepare : fat12JournalPrepare unmounted (powerOn defectFloppy) =
    (true, defectMounted, powerOn defectFloppy) := by
  have hrec := recover_clean (formatted_of_format blankJournal_format) defectFloppy_loaded rfl
  have hview : (powerOn defectFloppy).medium.view = defectFloppy := rfl
  rw [fat12JournalPrepare_eq (powerOn_healthy _) defectBoot_layout, hrec]
  rw [if_pos rfl, hview, defectFloppy_remap]
  rfl

theorem defectRemap_used : defectRemap.used = [defectEntry] := by
  change [decode defectEntry.encode 0] = _
  rw [defectEntry_decode]

theorem defectRemap_isReplacement {r : UInt32} (h : defectRemap.IsReplacement r) : r = 134 := by
  obtain ⟨e, he, rfl⟩ := h
  rw [defectRemap_used] at he
  rw [List.mem_singleton.mp he]
  rfl

theorem defectMounted_writes : (journaledWrites defectMounted.withFat 1 [(200, [oneSector 1])]
    (powerOn defectFloppy)).1 = true :=
  journaledWrites_ok (formatted_of_format blankJournal_format) (powerOn_healthy _)
    defectFloppy_loaded rfl rfl (by decide) rfl rfl (by decide) (fun _ => rfl) (by decide) (by decide) rfl

theorem defectMounted_mounted : Mounted blankJournal emptyRemap defectMounted.withFat (powerOn defectFloppy) :=
  ⟨powerOn_healthy _, ⟨_, defectFloppy_loaded, rfl, rfl, rfl⟩, defectFloppy_remap, rfl⟩

end ReistOs
