import ReistOs.AtaJournalRecovery
import ReistOs.AtaJournalStaging

/-! Crash atomicity of one transaction. -/

namespace ReistOs

open WriteBack

/-- The drive after power is back, with the contents that were left. -/
def reboot (d : Disk) : DiskWorld := ⟨⟨d, []⟩, [], [], []⟩

/-- The writes of a caller inside a transaction, whatever each of them reports. -/
def writeAll (t : AtaJournalTransport) (g : JournalGeometry) :
    List (Nat × Sector) → AtaUndoJournal → DiskWorld → AtaUndoJournal × DiskWorld
  | [], j, w => (j, w)
  | p :: ps, j, w =>
    let r := ataUndoJournalWriteSector t j (g.addr p.1) p.2 w
    writeAll t g ps r.2.1 r.2.2

def written (g : JournalGeometry) (ws : List (Nat × Sector)) (d : Disk) : Disk :=
  applyWrites (ws.map fun p => (g.addr p.1, p.2)) d

def SameOutside (g : JournalGeometry) (d e : Disk) : Prop := ∀ a, ¬ g.JournalArea a → d a = e a

def Recovers (g : JournalGeometry) (d : Disk) (P : Disk → Prop) : Prop :=
  ∀ t j, AtaJournalTransport.transportReady t = true → (j.transactionDepth = 0 ∨ j.entries = []) →
    (attach t j g (reboot d)).1 = true ∧ P (attach t j g (reboot d)).2.2.medium.view

section Images

variable {g : JournalGeometry} {T : JournalTransaction g} {c : AtaJournalRecord} {d content : Disk}

theorem Armable.sameOutside {clean : Sector → Prop} {m : Medium SectorAddr Sector}
    (h : Armable clean T m) : SameOutside g m.view T.before := fun a ha => (h.view a).2.2 ha

theorem recovers_armable (hc : CleanRecord c) (h : Armable (fun r => r = c) T ⟨d, []⟩) :
    Recovers g d fun v => SameOutside g v T.before := by
  intro t j ready hfree
  have ha : Armable CleanRecord T ⟨d, []⟩ := Medium.Within.mono h fun _ _ hx =>
    hx.mono (fun r hr => hr.imp_left fun he => by rw [he]; exact hc) fun _ _ _ => id
  have hsel : (selected g (reboot d).medium.view).isSome = true :=
    selected_isSome hc fun a hh => (Medium.Within.view h a).1 hh
  have hok : (attachCommand t j g (reboot d)).1 = true :=
    attach_healthy ready rfl rfl hfree ha.recoverable hsel
  exact ⟨hok, ((attach_armable ready).result (w := reboot d) rfl ha hok).sameOutside⟩

theorem recovers_quiet (hc : CleanRecord c) (h : Quiet g (fun r => r = c) content ⟨d, []⟩) :
    Recovers g d fun v => SameOutside g v content :=
  recovers_armable (T := ⟨0, [], content, Staged.nil g content⟩) hc (h.armable rfl)

theorem recovers_armed (hne : T.entries ≠ []) (h : Armed T ⟨d, []⟩) :
    Recovers g d fun v => SameOutside g v T.before := by
  intro t j ready hfree
  have hsel : (selected g (reboot d).medium.view).isSome = true := by
    obtain ⟨a, ha, hx⟩ := h.2
    obtain ⟨b, hb⟩ := selected_active (fun a hh => (h.1.view a).1 hh)
      ⟨a, ha, hx _ (Medium.holds_view _ a)⟩
    exact Option.isSome_of_eq_some hb
  have hok : (attachCommand t j g (reboot d)).1 = true :=
    attach_healthy ready rfl rfl hfree h.recoverable hsel
  exact ⟨hok, ((attach_armed ready hne).result (w := reboot d) rfl h hok).sameOutside⟩

theorem recovers_clearing (hne : T.entries ≠ []) (h : Clearing T ⟨d, []⟩) :
    Recovers g d fun v => SameOutside g v T.before ∨ SameOutside g v T.after := by
  intro t j ready hfree
  have hsel : (selected g (reboot d).medium.view).isSome = true := by
    by_cases ha : ∃ a ∈ g.headers, d a = T.active
    · obtain ⟨b, hb⟩ := selected_active (fun a hh => (h.1.view a).1 hh) ha
      exact Option.isSome_of_eq_some hb
    · have hclean : ∀ a ∈ g.headers, d a = T.clean := fun a hh =>
        ((h.1.view a).1 hh).resolve_left fun hx => ha ⟨a, hh, hx⟩
      exact Option.isSome_of_eq_some (selected_equal T.clean_valid hclean)
  have hok : (attachCommand t j g (reboot d)).1 = true :=
    attach_healthy ready rfl rfl hfree h.recoverable hsel
  refine ⟨hok, ?_⟩
  rcases (attach_clearing ready hne).result (w := reboot d) rfl h hok with hpost | hpost
  · exact Or.inr fun a ha => (hpost.1.view a).2.2 ha
  · exact Or.inl hpost.sameOutside

theorem recovers_publishing (hc : CleanRecord c) (hne : T.entries ≠ [])
    {m : Medium SectorAddr Sector} (h : Publishing (fun r => r = c) T m) (hd : m.CrashImage d) :
    Recovers g d fun v => SameOutside g v T.before ∨ SameOutside g v T.after := by
  have left : ∀ {P Q : Disk → Prop}, Recovers g d P → Recovers g d fun v => P v ∨ Q v :=
    fun hr t j ready hfree => ⟨(hr t j ready hfree).1, Or.inl (hr t j ready hfree).2⟩
  rcases h with h | h | h | h
  · exact left (recovers_quiet hc (h.crash hd))
  · exact left (recovers_armable hc (h.crash hd))
  · exact left (recovers_armed hne (h.crash hd))
  · exact recovers_clearing hne (h.crash hd)

end Images

section Caller

variable {t : AtaJournalTransport} {g : JournalGeometry} {w : DiskWorld}

theorem writeAll_spec (ready : t.transportReady = true) (hr : w.readFates = []) {room : List Nat}
    (hroom : room.length ≤ ataJournalMaxEntries) (ws : List (Nat × Sector)) (j : AtaUndoJournal)
    (ha : AttachedTo g j) (hd : j.transactionDepth ≠ 0) (hs : Staged g w.medium.view j.entries)
    (ht : ∀ p ∈ ws, g.IsTarget p.1) (hin : ∀ e ∈ j.entries, e.targetLba ∈ room)
    (hws : ∀ p ∈ ws, p.1 ∈ room) :
    (writeAll t g ws j w).2 = w ∧ AttachedTo g (writeAll t g ws j w).1 ∧
    (writeAll t g ws j w).1.transactionDepth = j.transactionDepth ∧
    Staged g w.medium.view (writeAll t g ws j w).1.entries ∧
    ∀ d, applyWrites (slotWrites g (writeAll t g ws j w).1.entries) d =
      written g ws (applyWrites (slotWrites g j.entries) d) := by
  induction ws generalizing j with
  | nil => exact ⟨rfl, ha, rfl, hs, fun d => rfl⟩
  | cons p ps ih =>
    have htp := ht p List.mem_cons_self
    have hsp := writeSector_staged (w := w) p.2 ready ha hd htp
    obtain ⟨hw, hst⟩ := stage_spec p.2 ready hr ha hs htp
    rw [← hsp] at hw hst
    have hin' : ∀ e ∈ (ataUndoJournalWriteSector t j (g.addr p.1) p.2 w).2.1.entries,
        e.targetLba ∈ room := by
      intro e he
      rcases hst.targets e he with hx | ⟨f, hf, hx⟩
      · rw [hx]; exact hws p List.mem_cons_self
      · rw [← hx]; exact hin f hf
    -- a full table would need 21 distinct targets
    have hfree : j.entries.length < ataJournalMaxEntries ∨ ∃ f ∈ j.entries, f.targetLba = p.1 := by
      by_cases hm : ∃ f ∈ j.entries, f.targetLba = p.1
      · exact Or.inr hm
      · have hnd : (p.1 :: j.entries.map AtaJournalEntry.targetLba).Nodup := by
          refine List.nodup_cons.mpr ⟨fun hx => hm ?_, hs.distinct⟩
          obtain ⟨f, hf, he⟩ := List.mem_map.mp hx
          exact ⟨f, hf, he⟩
        have hsub : (p.1 :: j.entries.map AtaJournalEntry.targetLba) ⊆ room := by
          refine List.cons_subset.mpr ⟨hws p List.mem_cons_self, fun x hx => ?_⟩
          obtain ⟨f, hf, rfl⟩ := List.mem_map.mp hx
          exact hin f hf
        have hlen := (List.subperm_of_subset hnd hsub).length_le
        simp only [List.length_cons, List.length_map] at hlen
        exact Or.inl (by omega)
    unfold writeAll
    dsimp only
    rw [hw]
    obtain ⟨h1, h2, h3, h4, h5⟩ := ih _ hst.attached (by rw [hst.depth]; exact hd) hst.staged
      (fun q hq => ht q (List.mem_cons_of_mem _ hq)) hin'
      (fun q hq => hws q (List.mem_cons_of_mem _ hq))
    refine ⟨h1, h2, h3.trans hst.depth, h4, fun d => ?_⟩
    rw [h5 d, hst.pending hfree d]
    rfl

end Caller

variable {t : AtaJournalTransport} {g : JournalGeometry} {j : AtaUndoJournal} {w : DiskWorld}
  {c : AtaJournalRecord} {ws : List (Nat × Sector)}

theorem begin_outermost (hd : j.transactionDepth = 0) : (ataUndoJournalTransactionBegin j).2 =
    { j with transactionDepth := 1, entries := [] } := by
  unfold ataUndoJournalTransactionBegin
  rw [if_neg (by simp [hd, uint32Max])]
  simp [hd]

theorem transactionEnd_empty (he : j.entries = []) (hd : j.transactionDepth = 1) (commit : Bool) :
    ataUndoJournalTransactionEnd t j commit w =
      (true, { j with transactionDepth := 0, entries := [] }, w) := by
  simp [ataUndoJournalTransactionEnd, transactionEnd, hd, he]

theorem transactionEnd_commit (ha : AttachedTo g j) (hne : j.entries ≠ [])
    (hd : j.transactionDepth = 1) : ataUndoJournalTransactionEnd t j true w =
      ((commitEntries t { j with transactionDepth := 0 } true w).1,
        { j with transactionDepth := 0, entries := [] },
        (commitEntries t { j with transactionDepth := 0 } true w).2) := by
  simp [ataUndoJournalTransactionEnd, transactionEnd, hd, hne, ha.enabled]

def JournalTransaction.ofSlots (j : AtaUndoJournal) (content : Disk)
    (hs : Staged g content j.entries) : JournalTransaction g := ⟨j.sequence, j.entries, content, hs⟩

theorem publishes_ofSlots (ha : AttachedTo g j) {content : Disk} (hs : Staged g content j.entries)
    (hne : j.entries ≠ []) : Publishes { j with transactionDepth := 0 }
      (JournalTransaction.ofSlots j content hs) :=
  ⟨ha.with_depth _ _, rfl, rfl, hne⟩

/-- A crash anywhere in the end of a transaction recovers to its old or its new content,
and after the end it recovers to the new one. -/
theorem transactionEnd_crash_atomic (ready : t.transportReady = true) (hf : w.fates = [])
    (hr : w.readFates = []) (ha : AttachedTo g j) (hd : j.transactionDepth = 0)
    (hcache : w.medium.cache = []) (hc : CleanRecord c) (hh : ∀ h ∈ g.headers, w.medium.view h = c)
    (ht : ∀ p ∈ ws, g.IsTarget p.1) (hn : (ws.map Prod.fst).dedup.length ≤ ataJournalMaxEntries) :
    let s := writeAll t g ws (ataUndoJournalTransactionBegin j).2 w
    let e := ataUndoJournalTransactionEnd t s.1 true s.2
    ∃ es, s.2.Extends es e.2.2 ∧
      (∀ d, s.2.medium.CrashDuring es d → Recovers g d fun v =>
        SameOutside g v w.medium.view ∨ SameOutside g v (written g ws w.medium.view)) ∧
      e.1 = true ∧
      ∀ d, e.2.2.medium.CrashImage d → Recovers g d fun v =>
        SameOutside g v (written g ws w.medium.view) := by
  rw [begin_outermost hd]
  intro s e
  have hroom : ∀ p ∈ ws, p.1 ∈ (ws.map Prod.fst).dedup := fun p hp =>
    List.mem_dedup.mpr (List.mem_map_of_mem hp)
  obtain ⟨hw, ha', hd', hs', hpend⟩ : s.2 = w ∧ AttachedTo g s.1 ∧ s.1.transactionDepth = 1 ∧
      Staged g w.medium.view s.1.entries ∧
      ∀ d, applyWrites (slotWrites g s.1.entries) d = written g ws d :=
    writeAll_spec ready hr hn ws _ (ha.with_depth [] 1) (by simp) (Staged.nil g _) ht (by simp) hroom
  have hquiet : Quiet g (fun r => r = c) w.medium.view w.medium :=
    Medium.within_of_settled hcache fun a => ⟨hh a, by simp, fun _ => rfl⟩
  by_cases hne : s.1.entries = []
  · -- nothing was written
    have hsame : written g ws w.medium.view = w.medium.view := by
      rw [← hpend, hne]; rfl
    have he : e = (true, { s.1 with transactionDepth := 0, entries := [] }, s.2) :=
      transactionEnd_empty hne hd' true
    rw [he, hw, hsame]
    refine ⟨[], World.Extends.refl w, ?_, rfl, fun d hdi => recovers_quiet hc (hquiet.crash hdi)⟩
    rintro d ⟨before, hb, hdi⟩ t' j' ready' hfree
    rw [List.prefix_nil.mp hb] at hdi
    obtain ⟨hok, hv⟩ := recovers_quiet hc (hquiet.crash hdi) t' j' ready' hfree
    exact ⟨hok, Or.inl hv⟩
  · let T := JournalTransaction.ofSlots s.1 w.medium.view hs'
    have hp : Publishes { s.1 with transactionDepth := 0 } T := publishes_ofSlots ha' hs' hne
    have he : e = _ := transactionEnd_commit (t := t) (w := s.2) ha' hne hd'
    have hnew : T.after = written g ws w.medium.view := hpend w.medium.view
    have hok := (commitEntries_healthy ready hp true w hf).1
    obtain ⟨es, hx, hcrash, hpost⟩ := commitEntries_triple ready hp (fun r => r = c) true w hr hquiet
    rw [he, hw, ← hnew]
    refine ⟨es, hx, ?_, hok, fun d hdi => ?_⟩
    · rintro d ⟨before, hb, hdi⟩
      exact recovers_publishing hc hne (hcrash before hb) hdi
    · rw [hx.medium] at hdi
      exact recovers_quiet T.clean_cleanRecord ((hpost hok).crash hdi)

def mirroredVolume : JournalGeometry where
  base := 0
  isMaster := true
  partitionLba := 0
  volumeSectors := 64
  reservedSectors := 32
  reserved_le := by decide
  end_le := by decide
  extent := by decide

def deferredTransport : AtaJournalTransport where
  read := true
  write := true
  commitWrite := true
  writeDeferred := true
  writeSectorsDeferred := true
  flush := true
  commitBegin := true
  commitWriteDeferred := true
  commitWriteSectorsDeferred := true
  commitEnd := true

def filled (x : UInt8) : Sector := Vector.replicate 512 x

def freshDisk : Disk := fun a =>
  if a.lba = 8 ∨ a.lba = 31 then ataUndoJournalMakeClean 0 else filled 0

theorem freshDisk_headers : ∀ h ∈ mirroredVolume.headers, freshDisk h = ataUndoJournalMakeClean 0 := by
  intro h hh
  rcases mirroredVolume.mem_headers.mp hh with rfl | ⟨-, rfl⟩
  · rfl
  · rfl

theorem makeClean_cleanRecord (sequence : UInt32) : CleanRecord (ataUndoJournalMakeClean sequence) :=
  ⟨makeClean_valid sequence, (makeClean_sealed sequence).state⟩

def freshJournal : AtaUndoJournal :=
  { attaching ataUndoJournalInit mirroredVolume with enabled := true }

theorem freshJournal_attached : AttachedTo mirroredVolume freshJournal :=
  ⟨(attaching_installed _ _).enable true, rfl⟩

theorem transactionEnd_crash_atomic_fresh :
    let s := writeAll deferredTransport mirroredVolume [(40, filled 1), (41, filled 1)]
      (ataUndoJournalTransactionBegin freshJournal).2 (reboot freshDisk)
    let e := ataUndoJournalTransactionEnd deferredTransport s.1 true s.2
    ∃ es, s.2.Extends es e.2.2 ∧
      (∀ d, s.2.medium.CrashDuring es d → Recovers mirroredVolume d fun v =>
        SameOutside mirroredVolume v freshDisk ∨ SameOutside mirroredVolume v
          (written mirroredVolume [(40, filled 1), (41, filled 1)] freshDisk)) ∧
      e.1 = true ∧
      ∀ d, e.2.2.medium.CrashImage d → Recovers mirroredVolume d fun v =>
        SameOutside mirroredVolume v
          (written mirroredVolume [(40, filled 1), (41, filled 1)] freshDisk) := by
  refine transactionEnd_crash_atomic (w := reboot freshDisk) rfl rfl rfl freshJournal_attached rfl rfl
    (makeClean_cleanRecord 0) freshDisk_headers ?_ (by decide)
  rintro p hp
  have hlba : p.1 = 40 ∨ p.1 = 41 := by
    rcases List.mem_cons.mp hp with rfl | hp
    · exact Or.inl rfl
    · rw [List.mem_singleton.mp hp]; exact Or.inr rfl
  rcases hlba with h | h <;> rw [h] <;> exact ⟨by decide, by decide, by decide, by decide⟩

theorem readSector_pending (ready : t.transportReady = true) (hr : w.readFates = [])
    (ha : AttachedTo g j) (hd : j.transactionDepth ≠ 0) (hs : Staged g w.medium.view j.entries)
    (a : SectorAddr) : ataUndoJournalReadSector t j a w =
      (some (applyWrites (slotWrites g j.entries) w.medium.view a), w) := by
  have hread : readSector t w a = (some (w.medium.view a), w) := by
    rw [readSector, if_pos ready, World.read_of_readFates hr]
  unfold ataUndoJournalReadSector
  rw [if_neg (by simp [ready])]
  split
  next hdrive =>
    have haddr : g.addr a.lba = a := by
      simp only [Bool.and_eq_true, beq_iff_eq] at hdrive
      rw [← ha.addr, AtaUndoJournal.addr, ← hdrive.1.2, ← hdrive.2]
    split
    next e he =>
      have hlba : e.targetLba = a.lba := by simpa using List.find?_some he
      rw [← haddr, ← hlba, hs.slotWrites_of_mem (List.mem_of_find?_eq_some he)]
    next hnone =>
      rw [hread, slotWrites_of_not_mem]
      rintro e he rfl
      exact List.find?_eq_none.mp hnone e he (beq_iff_eq.mpr rfl)
  next hother =>
    rw [hread, slotWrites_of_not_mem]
    rintro e - rfl
    apply hother
    simp [ha.enabled, hd, ← ha.addr, AtaUndoJournal.addr]

/-- Inside a transaction every read sees the writes made so far while the drive stays as it was, and
an end without commit forgets them. -/
theorem transaction_isolated (ready : t.transportReady = true) (hr : w.readFates = [])
    (ha : AttachedTo g j) (hd : j.transactionDepth = 0) (ht : ∀ p ∈ ws, g.IsTarget p.1)
    (hn : (ws.map Prod.fst).dedup.length ≤ ataJournalMaxEntries) :
    let s := writeAll t g ws (ataUndoJournalTransactionBegin j).2 w
    s.2 = w ∧
    (∀ a, ataUndoJournalReadSector t s.1 a w = (some (written g ws w.medium.view a), w)) ∧
    ataUndoJournalTransactionEnd t s.1 false w =
      (true, { s.1 with transactionDepth := 0, entries := [] }, w) := by
  rw [begin_outermost hd]
  intro s
  obtain ⟨hw, ha', hd', hs', hpend⟩ := writeAll_spec ready hr hn ws _ (ha.with_depth [] 1) (by simp)
    (Staged.nil g _) ht (by simp) fun p hp => List.mem_dedup.mpr (List.mem_map_of_mem hp)
  refine ⟨hw, fun a => ?_, ?_⟩
  · rw [readSector_pending ready hr ha' (by rw [hd']; simp) hs', hpend]
    rfl
  · simp [ataUndoJournalTransactionEnd, transactionEnd, s, hd']

theorem transaction_isolated_fresh :
    let ws := [(40, filled 1), (40, filled 2)]
    let s := writeAll deferredTransport mirroredVolume ws
      (ataUndoJournalTransactionBegin freshJournal).2 (reboot freshDisk)
    ∀ a, ataUndoJournalReadSector deferredTransport s.1 a (reboot freshDisk) =
      (some (written mirroredVolume ws freshDisk a), reboot freshDisk) := by
  refine (transaction_isolated (w := reboot freshDisk) rfl rfl freshJournal_attached rfl ?_
    (by decide)).2.1
  simp only [List.mem_cons, List.not_mem_nil, or_false]
  rintro p (rfl | rfl) <;> exact ⟨by decide, by decide, by decide, by decide⟩

end ReistOs
