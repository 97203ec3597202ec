import ReistOs.Fat12JournalSession

/-! Recovery of a floppy after power is lost anywhere in a journaled transaction. -/

namespace ReistOs

open WriteBack

/-- The distinct targets of a list of writes in the order of their first occurrence. -/
def firstTargets (known : List UInt32) : List (UInt32 × Sector) → List UInt32
  | [] => known
  | p :: ps => firstTargets (if p.1 ∈ known then known else known ++ [p.1]) ps

theorem firstTargets_prefix (known : List UInt32) (ps : List (UInt32 × Sector)) :
    known <+: firstTargets known ps := by
  induction ps generalizing known with
  | nil => exact List.prefix_refl known
  | cons p ps ih =>
    refine List.IsPrefix.trans ?_ (ih _)
    split
    next => exact List.prefix_refl known
    next => exact List.prefix_append known [p.1]

variable {j : Fat12Journal} {physical : UInt32 → Nat} {d0 : Floppy} {q : UInt64}
  {us done : List (UInt32 × Sector)} {ws : List (Nat × Sector)} {e : Nat → Fat12JournalEntry}
  {w : Fat12World} {targets : List UInt32}

/-- A stretch of a fault-free transaction: what it wrote, where it left the journal, and
what every image on the way looks like. -/
def Stretch (j : Fat12Journal) (physical : UInt32 → Nat) (d₀ : Floppy) (q : UInt64)
    (targets : List UInt32) (ws : List (Nat × Sector)) (w : Fat12World)
    (known : List UInt32) (done : List (UInt32 × Sector)) (out : Bool × Fat12Journal × Fat12World) :
    Prop :=
  out.1 = true ∧ ∃ us e vs, out.2.1 = running j q us e ∧ w.Wrote vs out.2.2 ∧
    Running j physical d₀ q us done (ws ++ vs) e ∧ us.map Prod.fst = known ∧
    ∀ before, before <+: vs → PointOf j physical d₀ q targets (ws ++ before)

theorem recordAndWrite_stretch (hj : Formatted j) (h : Running j physical d0 q us done ws e)
    (hf : w.fates = []) (hr : w.readFates = []) (hv : w.medium.view = applyWrites ws d0)
    {t : UInt32} (ht : ¬ j.Reserved t.toNat) (hp : ¬ j.Reserved (physical t)) (x : Sector)
    (hroom : (firstTargets (us.map Prod.fst) [(t, x)]).length ≤ fat12JournalMaxEntries)
    (hts : firstTargets (us.map Prod.fst) [(t, x)] <+: targets) :
    Stretch j physical d0 q targets ws w (firstTargets (us.map Prod.fst) [(t, x)])
      (done ++ [(t, x)]) (recordAndWrite (running j q us e) physical t x w) := by
  unfold recordAndWrite
  rw [World.read_of_readFates hr]
  simp only [firstTargets] at hroom hts ⊢
  by_cases hk : t ∈ us.map Prod.fst
  · rw [if_pos hk] at hroom hts ⊢
    rw [record_known (w := w) ht h.entries h.fits hk]
    obtain ⟨hok, hw⟩ := writeVerified_healthy hf hr (physical t) x
    have h' := h.write (x := x) hk hp
    rw [if_pos rfl]
    refine ⟨hok, us, e, _, rfl, hw, h', rfl, fun before hb => ?_⟩
    have hcases : before = [] ∨ before = [(physical t, x)] := by
      simp only [List.prefix_cons_iff, List.prefix_nil] at hb
      grind
    rcases hcases with rfl | rfl
    · rw [List.append_nil]
      exact .opened us hts h.toOpenAt
    · exact .opened us hts h'.toOpenAt
  · rw [if_neg hk] at hroom hts ⊢
    have hlen : us.length < fat12JournalMaxEntries := by
      simp only [List.length_append, List.length_map, List.length_singleton] at hroom
      omega
    obtain ⟨hok, hj', hw⟩ := record_new hf hr ht h.entries hlen hk (w.medium.view (physical t))
    have hold : w.medium.view (physical t) = applyWrites ws d0 (physical t) := by rw [hv]
    obtain ⟨hrun, hpts⟩ := h.record hj hlen hk ht hold targets ((List.prefix_append _ _).trans hts)
    obtain ⟨hok', hw'⟩ := writeVerified_healthy (hw.fates.trans hf) (hw.readFates.trans hr) (physical t) x
    have hmem : t ∈ (us ++ [(t, w.medium.view (physical t))]).map Prod.fst := by simp
    have hrun' := hrun.write (x := x) hmem hp
    have hts' : (us ++ [(t, w.medium.view (physical t))]).map Prod.fst <+: targets := by simpa using hts
    rw [if_pos hok]
    refine ⟨hok', _, _, _, hj', hw.trans hw', ?_, by simp, fun before hb => ?_⟩
    · rw [← List.append_assoc]
      exact hrun'
    · rcases prefix_append_cases hb with hb | ⟨rest, hrest, rfl⟩
      · by_cases hfull : before = recordWrites j q us.length t (w.medium.view (physical t))
        · rw [hfull]
          exact .opened _ hts' hrun.toOpenAt
        · exact hpts before hb hfull
      · have hcases : rest = [] ∨ rest = [(physical t, x)] := by
          simp only [List.prefix_cons_iff, List.prefix_nil] at hrest
          grind
        rcases hcases with rfl | rfl
        · rw [List.append_nil]
          exact .opened _ hts' hrun.toOpenAt
        · rw [← List.append_assoc]
          exact .opened _ hts' hrun'.toOpenAt

theorem Stretch.append {known known' : List UInt32} {done' : List (UInt32 × Sector)}
    {out : Bool × Fat12Journal × Fat12World} {next : Fat12Journal → Fat12World → Bool × Fat12Journal × Fat12World}
    (h : Stretch j physical d0 q targets ws w known done out) (hf : w.fates = [])
    (hr : w.readFates = []) (hv : w.medium.view = applyWrites ws d0)
    (hn : ∀ us e vs w', us.map Prod.fst = known → Running j physical d0 q us done (ws ++ vs) e →
      w'.fates = [] → w'.readFates = [] → w'.medium.view = applyWrites (ws ++ vs) d0 →
      Stretch j physical d0 q targets (ws ++ vs) w' known' done' (next (running j q us e) w')) :
    Stretch j physical d0 q targets ws w known' done'
      (if out.1 then next out.2.1 out.2.2 else out) := by
  obtain ⟨hok, us, e, vs, hj', hw, hrun, hknown, hpts⟩ := h
  have hv' : out.2.2.medium.view = applyWrites (ws ++ vs) d0 := by
    rw [hw.view, hv, applyWrites_append]
  obtain ⟨hok', us', e', vs', hj'', hw', hrun', hknown', hpts'⟩ := hn us e vs out.2.2 hknown hrun
    (hw.fates.trans hf) (hw.readFates.trans hr) hv'
  rw [if_pos hok, hj']
  refine ⟨hok', us', e', vs ++ vs', hj'', hw.trans hw', ?_, hknown', fun before hb => ?_⟩
  · rw [← List.append_assoc]
    exact hrun'
  · rcases prefix_append_cases hb with hb | ⟨rest, hrest, rfl⟩
    · exact hpts before hb
    · rw [← List.append_assoc]
      exact hpts' rest hrest

theorem recordAndWriteAll_stretch (targets : List UInt32) (hj : Formatted j)
    (ps : List (UInt32 × Sector))
    (ht : ∀ p ∈ ps, ¬ j.Reserved p.1.toNat ∧ ¬ j.Reserved (physical p.1))
    (us done : List (UInt32 × Sector)) (ws : List (Nat × Sector)) (e : Nat → Fat12JournalEntry)
    (w : Fat12World) (h : Running j physical d0 q us done ws e) (hf : w.fates = [])
    (hr : w.readFates = []) (hv : w.medium.view = applyWrites ws d0)
    (hroom : (firstTargets (us.map Prod.fst) ps).length ≤ fat12JournalMaxEntries)
    (hts : firstTargets (us.map Prod.fst) ps <+: targets) :
    Stretch j physical d0 q targets ws w (firstTargets (us.map Prod.fst) ps) (done ++ ps)
      (recordAndWriteAll physical ps (running j q us e) w) := by
  induction ps generalizing us done ws e w with
  | nil =>
    refine ⟨rfl, us, e, [], rfl, World.Wrote.refl w, by simpa using h, rfl, fun before hb => ?_⟩
    rw [List.prefix_nil.mp hb, List.append_nil]
    exact .opened us hts h.toOpenAt
  | cons p ps ih =>
    have hfirst : firstTargets (us.map Prod.fst) (p :: ps) =
        firstTargets (firstTargets (us.map Prod.fst) [p]) ps := rfl
    rw [hfirst] at hroom hts ⊢
    have hpre := firstTargets_prefix (firstTargets (us.map Prod.fst) [p]) ps
    have hstep := recordAndWrite_stretch (x := p.2) (t := p.1) hj h hf hr hv
      (ht p List.mem_cons_self).1 (ht p List.mem_cons_self).2 (Nat.le_trans hpre.length_le hroom)
      (hpre.trans hts)
    refine hstep.append hf hr hv fun us' e' vs w' hk hrun hf' hr' hv' => ?_
    have hih := ih (fun p hp => ht p (List.mem_cons_of_mem _ hp)) us' (done ++ [p]) (ws ++ vs) e' w'
      hrun hf' hr' hv' (by rw [hk]; exact hroom) (by rw [hk]; exact hts)
    rw [hk, List.append_assoc] at hih
    exact hih

variable {h : Fat12JournalHeader}

/-- `begin` on a CLEAN journal: the primary copy is newer than whatever the mirror holds. -/
theorem fat12JournalBegin_stretch (physical : UInt32 → Nat) (targets : List UInt32)
    (hj : Formatted j) (hl : loaded j d0 = some h) (hc : h.state = fat12JournalClean)
    (hq : h.sequence < q) (hf : w.fates = []) (hr : w.readFates = []) (e0 : Nat → Fat12JournalEntry) :
    Stretch j physical d0 q targets [] w [] []
      (fat12JournalBegin { j with header := h, entries := e0 } q w) := by
  let k := running j q [] fun _ => emptyEntry
  obtain ⟨hok, hw⟩ := writeHeader_healthy (j := k) hf hr
  have hvalid : headerValid (activeHeader j q (UInt32.ofNat 0)) j.mediaFingerprint = true :=
    activeHeader_valid (by decide)
  have heq : fat12JournalBegin { j with header := h, entries := e0 } q w =
      ((writeHeader k w).1, k, (writeHeader k w).2) := by
    refine if_neg ?_
    rintro (hfp | hs | hs)
    · exact hj.fingerprint hfp
    · exact absurd (hc.symm.trans hs) (by decide)
    · exact absurd hq (UInt64.not_lt.mpr hs)
  have ho : OpenAt j physical d0 q [] [(j.primaryHeaderSector, (activeHeader j q (UInt32.ofNat 0)).encode)] := by
    refine ⟨?_, by simp, by decide, by simp, ?_, ?_, by simp, fun _ a ha _ => ?_⟩
    · rw [← List.nil_append [(_, _)], applyWrites_snoc]
      refine loaded_newer hvalid (by rw [Function.update_self, Fat12JournalHeader.decode_encode]; rfl)
        fun s hs => ?_
      rw [Function.update_of_ne hj.distinct.symm] at hs
      exact UInt64.lt_of_le_of_lt (loaded_max hl hs) hq
    · rintro ⟨before, x, hne, he⟩
      have hlen := congrArg List.length he
      simp only [List.length_append, List.length_singleton] at hlen
      exact hne (List.length_eq_zero_iff.mp (by omega))
    · rw [published, ← List.nil_append [(_, _)], mirrorWrites_snoc, if_neg hj.distinct]
      rfl
    · exact applyWrites_of_not_mem _ fun p hp he => ha (Or.inl (by
        rw [← he, List.mem_singleton.mp hp]))
  have hrun : Running j physical d0 q [] [] (headerPair j (activeHeader j q (UInt32.ofNat 0))) fun _ => emptyEntry := by
    have hpair := headerPair_headers [] d0 hj (activeHeader j q (UInt32.ofNat 0))
    have hmw := mirrorWrites_headerPair [] hj (activeHeader j q (UInt32.ofNat 0))
    have hout : ∀ a, ¬ j.Reserved a → applyWrites ([] ++ headerPair j (activeHeader j q (UInt32.ofNat 0))) d0 a = d0 a :=
      fun a ha => headerPair_outside _ (fun he => ha (Or.inl he)) fun he => ha (Or.inr (Or.inl he))
    exact ⟨⟨headerPair_loaded [] hj hvalid, by simp, by decide, by simp,
      headerPair_nogap [] hj _, by rw [published]; exact congrArg (· - 1) hmw, by simp,
      fun _ a ha _ => hout a ha⟩, hpair.1, hpair.2, by simp [headerPair], hmw, hout, by simp⟩
  rw [heq]
  refine ⟨hok, [], _, _, rfl, hw, hrun, rfl, fun before hb => ?_⟩
  rcases prefix_headerPair_cases (f := activeHeader j q (UInt32.ofNat 0)) hb with rfl | rfl | rfl
  · exact .idle rfl
  · exact .opened [] List.nil_prefix ho
  · exact .opened [] List.nil_prefix hrun.toOpenAt

theorem fat12Transaction_stretch (hj : Formatted j) (hl : loaded j w.medium.view = some h)
    (hc : h.state = fat12JournalClean) (hq : h.sequence < q) (hf : w.fates = [])
    (hr : w.readFates = []) (e0 : Nat → Fat12JournalEntry) {ps : List (UInt32 × Sector)}
    (ht : ∀ p ∈ ps, ¬ j.Reserved p.1.toNat ∧ ¬ j.Reserved (physical p.1))
    (hroom : (firstTargets [] ps).length ≤ fat12JournalMaxEntries) :
    Stretch j physical w.medium.view q (firstTargets [] ps) [] w (firstTargets [] ps) ps
      (fat12Transaction { j with header := h, entries := e0 } physical q ps w) := by
  have hb := fat12JournalBegin_stretch physical (firstTargets [] ps) hj hl hc hq hf hr e0
  refine hb.append hf hr rfl fun us e vs w' hk hrun hf' hr' hv' => ?_
  have := recordAndWriteAll_stretch (firstTargets [] ps) hj ps ht us [] _ e w'
    hrun hf' hr' hv' (by rw [hk]; exact hroom) (hk ▸ List.prefix_refl _)
  rw [hk] at this
  exact this

theorem fat12Session_points (physical : UInt32 → Nat) (hj : Formatted j)
    (hl : loaded j w.medium.view = some h) (hc : h.state = fat12JournalClean) (hq : h.sequence < q)
    (hf : w.fates = []) (hr : w.readFates = []) (e0 : Nat → Fat12JournalEntry)
    (ps : List (UInt32 × Sector))
    (ht : ∀ p ∈ ps, ¬ j.Reserved p.1.toNat ∧ ¬ j.Reserved (physical p.1))
    (hroom : (firstTargets [] ps).length ≤ fat12JournalMaxEntries) :
    (fat12Session { j with header := h, entries := e0 } physical q ps w).1 = true ∧
    ∃ vs, vs ≠ [] ∧ w.Wrote (vs ++ headerPair j (cleanHeader j q))
        (fat12Session { j with header := h, entries := e0 } physical q ps w).2.2 ∧
      ∀ before, before <+: vs ++ headerPair j (cleanHeader j q) →
        PointOf j physical w.medium.view q (firstTargets [] ps) before ∨
          ClosedAt j w.medium.view q
            (applyWrites (ps.map fun p => (physical p.1, p.2)) w.medium.view) before := by
  obtain ⟨hok, us, e, vs, hj', hw, hrun, hknown, hpts⟩ := fat12Transaction_stretch hj hl hc hq hf hr e0 ht hroom
  rw [List.nil_append] at hrun
  obtain ⟨hok', -, hw'⟩ := fat12JournalCommit_healthy (j := running j q us e) (q := q)
    (hw.fates.trans hf) (hw.readFates.trans hr) rfl rfl
  have heq : fat12Session { j with header := h, entries := e0 } physical q ps w =
      fat12JournalCommit (running j q us e)
        (fat12Transaction { j with header := h, entries := e0 } physical q ps w).2.2 := by
    unfold fat12Session
    rw [if_pos hok, hj']
  rw [heq]
  refine ⟨hok', vs, hrun.nonempty, hw.trans hw', fun before hb => ?_⟩
  have htargets : us.map Prod.fst <+: firstTargets [] ps := hknown ▸ List.prefix_refl _
  rcases prefix_append_cases hb with hb | ⟨rest, hrest, rfl⟩
  · exact Or.inl (hpts before hb)
  · rcases prefix_headerPair_cases hrest with rfl | rfl | rfl
    · rw [List.append_nil]
      exact Or.inl (.opened us htargets hrun.toOpenAt)
    · refine Or.inl ?_
      exact torn_of_mirror _ _ hj hrun.nonempty hrun.mirror cleanHeader_valid
        (activeHeader_valid (by rw [ofNat_toNat_le hrun.fits]; exact hrun.fits)) rfl
        activeHeader_ne_cleanHeader.symm
    · refine Or.inr ⟨by simp [headerPair], headerPair_nogap _ hj _,
        headerPair_loaded _ hj cleanHeader_valid, fun a ha => ?_⟩
      rw [headerPair_outside _ (fun he => ha (Or.inl he)) fun he => ha (Or.inr (Or.inl he))]
      exact hrun.content a ha

end ReistOs
