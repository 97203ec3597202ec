import ReistOs.Fat12JournalCrash

/-! Which crash points of a FAT12 journal transaction recovery can handle. -/

namespace ReistOs

open WriteBack

/-- Recovery of the image succeeds and leaves the old content, or, once the commit is
durable, the new one. -/
def Fat12Recovered (j : Fat12Journal) (image old new : Floppy) (committed : Prop) : Prop :=
  (fat12JournalRecover j (powerOn image)).1 = true ∧
  ((∀ a, ¬ j.Reserved a → (fat12JournalRecover j (powerOn image)).2.2.medium.view a = old a) ∨
    committed ∧
      ∀ a, ¬ j.Reserved a → (fat12JournalRecover j (powerOn image)).2.2.medium.view a = new a)

section Recovery

variable {j : Fat12Journal} {physical : UInt32 → Nat} {d0 : Floppy} {q : UInt64}
  {us : List (UInt32 × Sector)} {ws : List (Nat × Sector)}

theorem OpenAt.recover (hj : Formatted j) (h : OpenAt j physical d0 q us ws) :
    (fat12JournalRecover j (powerOn (applyWrites ws d0))).1 = true ∧
      (powerOn (applyWrites ws d0)).Wrote (restores us ++ headerPair j (cleanHeader j q))
        (fat12JournalRecover j (powerOn (applyWrites ws d0))).2.2 :=
  recover_active hj h.loaded h.fits h.outside h.undo

theorem OpenAt.recover_view (hj : Formatted j) (h : OpenAt j physical d0 q us ws)
    (hid : ∀ u ∈ us, physical u.1 = u.1.toNat) {a : Nat} (ha : ¬ j.Reserved a) :
    (fat12JournalRecover j (powerOn (applyWrites ws d0))).2.2.medium.view a = d0 a := by
  rw [(h.recover hj).2.view, headerPair_outside _ (fun he => ha (Or.inl he))
    fun he => ha (Or.inr (Or.inl he))]
  by_cases hm : ∃ u ∈ us, u.1.toNat = a
  · obtain ⟨u, hu, rfl⟩ := hm
    refine applyWrites_of_mem (x := d0 u.1.toNat) _ ?_ fun y hy => ?_
    · rw [← h.old hid u hu]
      exact List.mem_map_of_mem hu
    · obtain ⟨v, hv, he⟩ := List.mem_map.mp hy
      simp only [Prod.mk.injEq] at he
      rw [← he.2, h.old hid v hv, he.1]
  · have hno : ∀ u ∈ us, u.1.toNat ≠ a := fun u hu he => hm ⟨u, hu, he⟩
    rw [applyWrites_of_not_mem _ fun p hp => ?_]
    · exact h.frame hid a ha hno
    · obtain ⟨u, hu, rfl⟩ := List.mem_map.mp hp
      exact hno u hu

theorem not_headerGap_nil : ¬ HeaderGap j [] := by
  rintro ⟨before, x, -, he⟩
  simp at he

theorem PointOf.recovered_iff (hj : Formatted j) {h : Fat12JournalHeader} (hl : loaded j d0 = some h)
    (hc : h.state = fat12JournalClean) {targets : List UInt32} {new : Floppy} {committed : Prop}
    (hp : PointOf j UInt32.toNat d0 q targets ws) :
    Fat12Recovered j (applyWrites ws d0) d0 new committed ↔ ¬ HeaderGap j ws := by
  cases hp with
  | torn hgap hnone =>
    refine iff_of_false (fun hr => ?_) (fun hn => hn hgap)
    rw [Fat12Recovered, recover_unloadable hj hnone] at hr
    exact absurd hr.1 (by simp)
  | idle hnil =>
    subst hnil
    refine iff_of_true ?_ not_headerGap_nil
    rw [applyWrites_nil, Fat12Recovered, recover_clean hj hl hc]
    exact ⟨rfl, Or.inl fun a _ => rfl⟩
  | opened us _ ho =>
    refine iff_of_true ⟨(ho.recover hj).1, Or.inl fun a ha => ?_⟩ ho.nogap
    exact ho.recover_view hj (fun _ _ => rfl) ha

theorem ClosedAt.recovered (hj : Formatted j) {new : Floppy} (h : ClosedAt j d0 q new ws) :
    Fat12Recovered j (applyWrites ws d0) d0 new
      ((j.primaryHeaderSector, (cleanHeader j q).encode) ∈ ws) := by
  rw [Fat12Recovered, recover_clean hj h.loaded rfl]
  exact ⟨rfl, Or.inr ⟨h.durable, h.content⟩⟩

end Recovery

variable {p m s : Nat} {fingerprint : UInt32} {j : Fat12Journal} {w : Fat12World} {q : UInt64}
  {ws : List (UInt32 × Sector)}

theorem loaded_of_load (hj : Formatted j) (hr : w.readFates = []) (h : (fat12JournalLoad j w).1 = true) :
    loaded j w.medium.view = some (fat12JournalLoad j w).2.1.header ∧
      (fat12JournalLoad j w).2.1 = { j with header := (fat12JournalLoad j w).2.1.header } := by
  rw [fat12JournalLoad_eq hj.fingerprint hr] at h ⊢
  split at h
  next => simp at h
  next f hf => rw [hf]; exact ⟨rfl, rfl⟩

/-- On a CLEAN journal recovery works after a crash between any two sector writes, if and only if
they are not the primary and the mirror header of a record or of the commit. -/
theorem fat12Session_recovered_iff (hfmt : fat12JournalFormat p m s fingerprint = some j)
    (hf : w.fates = []) (hr : w.readFates = []) (hload : (fat12JournalLoad j w).1 = true)
    (hclean : (fat12JournalLoad j w).2.1.header.state = fat12JournalClean)
    (hq : (fat12JournalLoad j w).2.1.header.sequence < q)
    (ht : ∀ u ∈ ws, ¬ j.Reserved u.1.toNat)
    (hroom : (firstTargets [] ws).length ≤ fat12JournalMaxEntries) :
    let out := fat12Session (fat12JournalLoad j w).2.1 UInt32.toNat q ws w
    out.1 = true ∧ ∃ es, w.Extends es out.2.2 ∧ ∀ before, before <+: es →
      (Fat12Recovered j (w.medium.run before).view w.medium.view
          (applyWrites (ws.map fun u => (u.1.toNat, u.2)) w.medium.view)
          ((j.primaryHeaderSector, (cleanHeader j q).encode) ∈ writesOf before) ↔
        ¬ HeaderGap j (writesOf before)) := by
  have hj := formatted_of_format hfmt
  obtain ⟨hl, hj'⟩ := loaded_of_load hj hr hload
  intro out
  obtain ⟨hok, vs, -, ⟨⟨es, hx, hes⟩, -⟩, hpts⟩ := fat12Session_points UInt32.toNat hj hl
    hclean hq hf hr j.entries _ (fun u hu => ⟨ht u hu, ht u hu⟩) hroom
  rw [← hj'] at hok hx
  refine ⟨hok, es, hx, fun before hb => ?_⟩
  rw [Medium.view_run]
  rcases hpts _ (hes ▸ writesOf_prefix hb) with hp | hp
  · exact hp.recovered_iff hj hl hclean
  · exact iff_of_true (hp.recovered hj) hp.nogap

def blankFloppy : Floppy := fun a =>
  if a = 1 ∨ a = 2 then (prepareHeader 7 1 fat12JournalClean 0).encode else LittleEndian.zero

def blankJournal : Fat12Journal :=
  ⟨1, 2, 3, 7, prepareHeader 7 1 fat12JournalClean 0, fun _ => emptyEntry⟩

theorem blankJournal_format : fat12JournalFormat 1 2 3 7 = some blankJournal := by
  unfold fat12JournalFormat
  rw [if_neg (by decide)]
  rfl

theorem blankFloppy_loaded : loaded blankJournal blankFloppy =
    some (prepareHeader 7 1 fat12JournalClean 0) :=
  loaded_equal (headerValid_prepareHeader 7 1 (by decide) (by decide))
    (Fat12JournalHeader.decode_encode _) (Fat12JournalHeader.decode_encode _)

theorem blankFloppy_load : fat12JournalLoad blankJournal (powerOn blankFloppy) =
    (true, blankJournal, powerOn blankFloppy) := by
  rw [fat12JournalLoad_eq (by decide) rfl,
    show loaded blankJournal (powerOn blankFloppy).medium.view = _ from blankFloppy_loaded]
  rfl

def oneSector (x : UInt8) : Sector := Vector.replicate 512 x

theorem fat12Session_recovered_iff_blank :
    let out := fat12Session (fat12JournalLoad blankJournal (powerOn blankFloppy)).2.1 UInt32.toNat 2
      [(200, oneSector 1)] (powerOn blankFloppy)
    out.1 = true ∧ ∃ es, (powerOn blankFloppy).Extends es out.2.2 ∧ ∀ before, before <+: es →
      (Fat12Recovered blankJournal ((powerOn blankFloppy).medium.run before).view
          (powerOn blankFloppy).medium.view
          (applyWrites ([(200, oneSector 1)].map fun u : UInt32 × Sector => (u.1.toNat, u.2))
            (powerOn blankFloppy).medium.view)
          ((blankJournal.primaryHeaderSector, (cleanHeader blankJournal 2).encode) ∈ writesOf before) ↔
        ¬ HeaderGap blankJournal (writesOf before)) := by
  refine fat12Session_recovered_iff blankJournal_format rfl rfl ?_ ?_ ?_ ?_ ?_
  · rw [blankFloppy_load]
  · rw [blankFloppy_load]
    rfl
  · rw [blankFloppy_load]
    decide
  · intro u hu
    rw [List.mem_singleton.mp hu]
    decide
  · decide

/-- The power fails between the two CLEAN headers of a commit, and the floppy can no
longer be mounted. -/
theorem commit_unloadable : ¬ ∀ before : List (Event Nat Sector),
    (∃ es, (powerOn blankFloppy).Extends es (fat12Session blankJournal UInt32.toNat 2
        [(200, oneSector 1)] (powerOn blankFloppy)).2.2 ∧ before <+: es) →
      Fat12Recovered blankJournal ((powerOn blankFloppy).medium.run before).view blankFloppy
        (applyWrites [(200, oneSector 1)] blankFloppy)
        ((blankJournal.primaryHeaderSector, (cleanHeader blankJournal 2).encode) ∈ writesOf before) := by
  intro h
  have hj := formatted_of_format blankJournal_format
  obtain ⟨-, vs, hne, ⟨⟨es, hx, hes⟩, -⟩, hpts⟩ := fat12Session_points UInt32.toNat
    (w := powerOn blankFloppy) (q := 2) hj blankFloppy_loaded rfl
    (by decide) rfl rfl blankJournal.entries [(200, oneSector 1)] (fun u hu => by
      rw [List.mem_singleton.mp hu]
      exact ⟨by decide, by decide⟩) (by decide)
  let f := (cleanHeader blankJournal 2).encode
  have hpre : vs ++ [(blankJournal.primaryHeaderSector, f)] <+: writesOf es := by
    rw [hes]
    exact (List.prefix_append_right_inj vs).mpr ⟨[(blankJournal.mirrorHeaderSector, f)], rfl⟩
  obtain ⟨before, hb, hw⟩ := exists_prefix_of_writesOf hpre
  have hrec := h before ⟨es, hx, hb⟩
  rw [Medium.view_run, hw] at hrec
  have hgap : HeaderGap blankJournal (vs ++ [(blankJournal.primaryHeaderSector, f)]) :=
    ⟨vs, f, hne, rfl⟩
  rcases hpts _ (hes ▸ hpre) with hp | hp
  · exact (hp.recovered_iff hj blankFloppy_loaded rfl).mp hrec hgap
  · exact hp.nogap hgap

end ReistOs
