import ReistOs.AtaJournalAttach

/-! Recovery from each phase of a transaction. -/

namespace ReistOs

open WriteBack JournalTransaction

section Crash

variable {g : JournalGeometry} {T : JournalTransaction g} {clean : Sector → Prop}
  {m : Medium SectorAddr Sector} {d : Disk}

/-! Every phase survives a loss of power. -/

theorem Quiet.crash {content : Disk} (h : Quiet g clean content m) (hd : m.CrashImage d) :
    Quiet g clean content ⟨d, []⟩ := Medium.Within.crash h hd

theorem Armable.crash (h : Armable clean T m) (hd : m.CrashImage d) : Armable clean T ⟨d, []⟩ :=
  Medium.Within.crash h hd

theorem Armed.crash (h : Armed T m) (hd : m.CrashImage d) : Armed T ⟨d, []⟩ := by
  obtain ⟨hw, a, ha, hx⟩ := h
  refine ⟨hw.crash hd, a, ha, fun x hx' => ?_⟩
  rw [(Medium.holds_of_cache_nil rfl).mp hx']
  exact hx _ (hd.holds a)

theorem Clearing.crash (h : Clearing T m) (hd : m.CrashImage d) : Clearing T ⟨d, []⟩ := by
  refine ⟨h.1.crash hd, fun a _ hv x hx => ?_⟩
  rw [(Medium.holds_of_cache_nil rfl).mp hx]
  exact hv

theorem Quiet.armable (h : Quiet g clean T.before m) (hT : T.entries = []) : Armable clean T m := by
  unfold Armable
  rw [hT]
  exact Medium.Within.mono h fun _ _ hx => hx.mono (fun _ => Or.inl) fun _ _ _ => id

end Crash

section Admission

variable {t : AtaJournalTransport} {g : JournalGeometry} {T : JournalTransaction g}
  {k : AtaUndoJournal} {w : DiskWorld}

variable {lba i : Nat}

theorem JournalGeometry.IsTarget.lt (h : g.IsTarget lba) : lba < 2 ^ 32 := by
  have he := g.end_le
  have hl := h.lt_end
  simp only [uint32Max] at he
  omega

theorem recoveryTargetValid_of_isTarget (hk : InstalledOn g k) (h : g.IsTarget lba) :
    recoveryTargetValid k lba = true := by
  have hs := h.start_le
  have hl := h.lt_end
  have hj := h.not_journal
  have hm := h.ne_mirror
  simp only [recoveryTargetValid, hk.volumeStartLba, hk.volumeEndLba, hk.headerLba, hk.dataLba,
    hk.mirrorLba]
  grind

theorem active_entry (hi : i < T.entries.length) :
    (T.active.targetLba i).toNat = T.entries[i].targetLba ∧
      T.active.dataCrc32 i = T.entries[i].undoData.crc32 := by
  have hfit : (T.entries.map fun e => (UInt32.ofNat e.targetLba, e.dataCrc32)).length ≤
      ataJournalMaxEntries := by simpa using T.staged.fits
  have h := activeRecord_entry T.sequence hfit (i := i) (by simpa using hi)
  rw [active, h.1, h.2]
  simp only [List.getElem_map]
  exact ⟨UInt32.toNat_ofNat_of_lt' (T.staged.target _ (List.getElem_mem hi)).lt,
    T.staged.crc _ (List.getElem_mem hi)⟩

theorem active_entryCount : T.active.entryCount.toNat = T.entries.length := by
  have hfit : T.entries.length ≤ 20 := T.staged.fits
  rw [T.active_sealed.entryCount]
  exact UInt32.toNat_ofNat_of_lt' (Nat.lt_of_le_of_lt hfit (by decide))

theorem active_prior_ne (hi : i < T.entries.length) :
    ((List.range i).all fun prior =>
      (T.active.targetLba prior).toNat != T.entries[i].targetLba) = true := by
  rw [List.all_eq_true]
  intro prior hp
  have hlt := List.mem_range.mp hp
  have hpl : prior < T.entries.length := Nat.lt_trans hlt hi
  rw [(active_entry hpl).1, bne_iff_ne]
  intro he
  have hmap : (T.entries.map AtaJournalEntry.targetLba)[prior]? =
      (T.entries.map AtaJournalEntry.targetLba)[i]? := by
    simp [hpl, hi, he]
  have hidx : prior = i := (List.getElem?_inj (by simpa using hpl) T.staged.distinct).mp hmap
  omega

theorem admitEntries_active (ready : t.transportReady = true) (hr : w.readFates = [])
    (hk : InstalledOn g k)
    (hundo : ∀ i e, T.entries[i]? = some e → w.medium.view (g.undoAddr i) = e.undoData)
    (n i : Nat) (hn : i + n = T.entries.length) :
    admitEntries t k T.active i n w =
      (some ((T.entries.drop i).map fun e => (g.addr e.targetLba, e.undoData)), w) := by
  induction n generalizing i with
  | zero => rw [List.drop_of_length_le (by omega)]; rfl
  | succ n ih =>
    have hi : i < T.entries.length := by omega
    have hv := recoveryTargetValid_of_isTarget hk (T.staged.target _ (List.getElem_mem hi))
    have hu : w.medium.view (g.addr (g.dataLba + i)) = T.entries[i].undoData :=
      hundo i _ (List.getElem?_eq_getElem hi)
    have hread : readSector t w (k.addr (k.dataLba + i)) = (some T.entries[i].undoData, w) := by
      rw [readSector, if_pos ready, hk.addr, hk.dataLba, World.read_of_readFates hr, hu]
    unfold admitEntries
    simp only [active_prior_ne hi, active_entry hi, hv, Bool.and_self, if_true, hread,
      beq_self_eq_true, ih (i + 1) (by omega)]
    rw [List.drop_eq_getElem_cons hi, hk.addr, List.map_cons]

end Admission

variable {t : AtaJournalTransport} {g : JournalGeometry} {T : JournalTransaction g}
  {j k : AtaUndoJournal} {w : DiskWorld}

/-- `ata_undo_journal_attach` on the volume. -/
def attach (t : AtaJournalTransport) (j : AtaUndoJournal) (g : JournalGeometry) (w : DiskWorld) :
    Bool × AtaUndoJournal × DiskWorld :=
  ataUndoJournalAttach t j g.base g.isMaster g.partitionLba g.volumeSectors g.reservedSectors w

def attachCommand (t : AtaJournalTransport) (j : AtaUndoJournal) (g : JournalGeometry) :
    Command SectorAddr Sector :=
  fun w => ((attach t j g w).1, (attach t j g w).2.2)

def attaching (j : AtaUndoJournal) (g : JournalGeometry) : AtaUndoJournal :=
  AtaUndoJournal.install { j with enabled := false } g.base g.isMaster g.partitionLba
    g.volumeSectors g.reservedSectors

def resumed (j : AtaUndoJournal) (g : JournalGeometry) (r : AtaJournalRecord) : AtaUndoJournal :=
  { attaching j g with sequence := recordSequence r }

def restore (t : AtaJournalTransport) (k : AtaUndoJournal) (undo : List (SectorAddr × Sector))
    (repair : Bool) : Command SectorAddr Sector := fun w =>
  andThen (sendEach (writeSector t) undo.reverse w)
    (if repair then clearJournal t k false else Prod.mk true)

theorem attaching_installed (j : AtaUndoJournal) (g : JournalGeometry) :
    InstalledOn g (attaching j g) := ⟨rfl, rfl, rfl, rfl, rfl, rfl, rfl⟩

theorem resumed_installed (j : AtaUndoJournal) (g : JournalGeometry) (r : AtaJournalRecord) :
    InstalledOn g (resumed j g r) := ⟨rfl, rfl, rfl, rfl, rfl, rfl, rfl⟩

variable {r : AtaJournalRecord} {b : Bool} {undo : List (SectorAddr × Sector)}
  {m : Medium SectorAddr Sector}

theorem recoverV2_admitted (h : admitEntries t k r 0 r.entryCount.toNat w = (some undo, w)) :
    recoverV2 t k r b w = restore t k undo (r.state == ataJournalActive || b) w := by
  unfold recoverV2 restore
  rw [h]
  dsimp only
  split <;> rfl

section

variable (ready : t.transportReady = true)
include ready

theorem attach_busy (hb : j.transactionDepth ≠ 0 ∧ j.entries ≠ []) :
    attach t j g w = (false, j, w) := by
  simp [attach, ataUndoJournalAttach, ready, hb]

theorem readHeaders_eq (hr : w.readFates = []) (hk : InstalledOn g k) :
    readHeaders t k w = (some (w.medium.view (g.addr g.headerLba)),
      if g.mirrorLba = 0 then none else some (w.medium.view (g.addr g.mirrorLba)), w) := by
  have hread : ∀ a, readSector t w a = (some (w.medium.view a), w) := by
    intro a
    rw [readSector, if_pos ready, World.read_of_readFates hr]
  unfold readHeaders
  simp only [hk.addr, hk.headerLba, hk.mirrorLba, hread]
  split
  next => rfl
  next => rfl

theorem attach_eq (hr : w.readFates = []) (hfree : ¬ (j.transactionDepth ≠ 0 ∧ j.entries ≠ []))
    (hv : ∀ h ∈ g.headers, recordValid (w.medium.view h) = true) :
    attach t j g w = match selected g w.medium.view with
      | none => (false, attaching j g, w)
      | some (r, b) => recoverRecord t (attaching j g) r b w := by
  have h1 := g.reserved_le
  have h2 := g.end_le
  have h3 : 9 + 20 ≤ g.reservedSectors := g.extent
  have hV : ¬ (g.volumeSectors = 0 ∨ g.volumeSectors < g.reservedSectors ∨
      uint32Max - g.partitionLba < g.volumeSectors) := by omega
  have hR : ¬ g.reservedSectors ≤ ataJournalHeaderOffset := by
    simp only [ataJournalHeaderOffset]; omega
  have hE : ¬ g.reservedSectors < ataJournalDataOffset + ataJournalMaxEntries :=
    Nat.not_lt.mpr g.extent
  have hk : InstalledOn g (attaching j g) := attaching_installed j g
  have hmark : marked (some (w.medium.view (g.addr g.headerLba))) = true := by
    simp [marked, magic_of_recordValid (hv _ g.primary_mem_headers)]
  unfold attach ataUndoJournalAttach
  rw [if_neg (by simp [ready]), if_neg hfree, if_neg hV, if_neg hR]
  change attachHeaders t { j with enabled := false } (attaching j g) g.reservedSectors
    (readHeaders t (attaching j g) w).1 (readHeaders t (attaching j g) w).2.1
    (readHeaders t (attaching j g) w).2.2 = _
  rw [readHeaders_eq ready hr hk]
  unfold attachHeaders
  rw [hmark, if_neg (by simp), if_neg hE, hk.mirrorLba]
  rfl

theorem emits_clear (hk : InstalledOn g k) (w : DiskWorld) :
    Emits w (g.headers.map fun a => (a, ataUndoJournalMakeClean k.sequence))
      (clearJournal t k false w) := by
  unfold clearJournal writeRecord
  rw [hk.headerAddrs]
  exact emits_sendEach (emits_recordWriter ready (by simp)) _ w

theorem clear_triple (hk : InstalledOn g k) :
    CrashTriple (Armable CleanRecord T) (Armable CleanRecord T) (Armable CleanRecord T)
      (clearJournal t k false) := by
  refine CrashTriple.of_emits (emits_clear ready hk) (fun _ h => h) ?_ (fun _ hm => hm.flush)
    fun _ _ _ h _ => h
  rintro m ⟨a, x⟩ hmem hm
  obtain ⟨b, hb, he⟩ := List.mem_map.mp hmem
  cases he
  have hx : CleanRecord (ataUndoJournalMakeClean k.sequence) :=
    ⟨makeClean_valid _, (makeClean_sealed _).state⟩
  exact hm.write (Layout.of_header T.staged.fits hb (Or.inl hx))

theorem repair_triple (hk : InstalledOn g k) (repair : Bool) :
    CrashTriple (Armable CleanRecord T) (Armable CleanRecord T) (Armable CleanRecord T)
      (if repair then clearJournal t k false else Prod.mk true) := by
  split
  next => exact clear_triple ready hk
  next => exact CrashTriple.idle (fun _ h => h) fun _ _ h => h

theorem restore_triple (hk : InstalledOn g k)
    (hu : ∀ p ∈ undo, ¬ g.JournalArea p.1 ∧ p.2 = T.before p.1) (repair : Bool) :
    CrashTriple (Armable CleanRecord T) (Armable CleanRecord T) (Armable CleanRecord T)
      (restore t k undo repair) := by
  have hsend : CrashTriple (Armable CleanRecord T) (Armable CleanRecord T) (Armable CleanRecord T)
      (sendEach (writeSector t) undo.reverse) := by
    refine CrashTriple.of_emits (emits_sendEach (emits_writeSector ready) undo.reverse)
      (fun _ h => h) ?_ (fun _ hm => hm.flush) fun _ _ _ h _ => h
    intro m p hp hm
    obtain ⟨hout, hx⟩ := hu p (List.mem_reverse.mp hp)
    exact hm.write (Layout.of_data T.staged.fits hout hx)
  exact hsend.seq (repair_triple ready hk repair)

end

theorem restoreWrites_undo : ∀ p ∈ T.restoreWrites, ¬ g.JournalArea p.1 ∧ p.2 = T.before p.1 := by
  rintro ⟨a, x⟩ hp
  obtain ⟨e, he, rfl, rfl⟩ := T.mem_restoreWrites.mp hp
  exact ⟨(T.staged.target e he).outside, T.staged.undo e he⟩

theorem unapply_triple (ready : t.transportReady = true) (hne : T.entries ≠ []) :
    CrashTriple (Armed T) (Armed T) (Armable CleanRecord T)
      (sendEach (writeSector t) T.restoreWrites.reverse) := by
  have hne' : T.restoreWrites.reverse ≠ [] := by simpa [restoreWrites] using hne
  refine CrashTriple.of_emits_settled (emits_sendEach (emits_writeSector ready) _)
    (settled_sendEach (settled_writeSector ready) hne') (fun _ h => h) ?_ ?_ ?_
  · rintro m ⟨a, x⟩ hp ⟨hw, h, hh, hd⟩
    obtain ⟨hout, hx⟩ := restoreWrites_undo (T := T) (a, x) (List.mem_reverse.mp hp)
    refine ⟨hw.write (Layout.of_data T.staged.fits hout (Or.inl hx)), h, hh, fun y hy => ?_⟩
    rcases (Medium.holds_step_write m).mp hy with hy | ⟨rfl, -⟩
    · exact hd y hy
    · exact absurd (g.headers_journalArea hh) hout
  · rintro m ⟨hw, h, hh, hd⟩
    refine ⟨hw.flush, h, hh, fun y hy => ?_⟩
    rw [(Medium.holds_step_flush m).mp hy]
    exact hd _ (m.holds_view h)
  · rintro m m' ⟨hm, -⟩ ⟨hm', -⟩ hv hc
    refine Medium.within_of_settled hc fun a => ⟨fun ha => ?_, (hm'.view a).2.1, fun ha => ?_⟩
    · rcases (hm'.view a).1 ha with h | h
      · exact Or.inr h
      · rw [h]
        exact Or.inl T.clean_cleanRecord
    · rw [hv]
      exact T.applyWrites_restore ((hm.view a).2.2 ha)

def recovered (t : AtaJournalTransport) (k : AtaUndoJournal) (undo : List (SectorAddr × Sector))
    (repair : Bool) (w : DiskWorld) : Bool × AtaUndoJournal × DiskWorld :=
  ((restore t k undo repair w).1, { k with enabled := (restore t k undo repair w).1 },
    (restore t k undo repair w).2)

theorem recoverRecord_admitted (hv : AtaJournalRecord.version r = ataJournalVersion)
    (h : admitEntries t (resumed j g r) r 0 r.entryCount.toNat w = (some undo, w)) :
    recoverRecord t (attaching j g) r b w =
      recovered t (resumed j g r) undo (r.state == ataJournalActive || b) w := by
  unfold recoverRecord
  dsimp only
  rw [if_neg (by simp [hv, ataJournalVersion])]
  unfold recovered
  rw [← recoverV2_admitted h]
  rfl

theorem recoverRecord_active (ready : t.transportReady = true) (hr : w.readFates = [])
    (hundo : ∀ i e, T.entries[i]? = some e → w.medium.view (g.undoAddr i) = e.undoData) (b : Bool) :
    recoverRecord t (attaching j g) T.active b w =
      recovered t (resumed j g T.active) T.restoreWrites true w := by
  rw [recoverRecord_admitted T.active_sealed.version,
    T.active_sealed.state]
  · rfl
  · rw [active_entryCount, admitEntries_active ready hr (resumed_installed j g _) hundo _ 0 (by omega)]
    rfl

theorem recoverRecord_clean (hr : CleanRecord r) (b : Bool) :
    recoverRecord t (attaching j g) r b w = recovered t (resumed j g r) [] b w := by
  have hc : AtaJournalRecord.entryCount r = 0 := by
    have h := hr.1
    simp only [recordValid, Bool.and_eq_true, Bool.or_eq_true, beq_iff_eq, hr.2] at h
    rcases h.1.2 with h | h
    · exact absurd h.symm active_ne_clean_state
    · exact h
  rw [recoverRecord_admitted (version_of_recordValid hr.1), hr.2]
  · cases b <;> rfl
  · rw [hc]; rfl

/-- What recovery may find: CLEAN copies, copies of one ACTIVE record, and its undo data. -/
def Recoverable (T : JournalTransaction g) (v : Disk) : Prop :=
  (∀ h ∈ g.headers, CleanRecord (v h) ∨ v h = T.active) ∧
  ∀ i e, T.entries[i]? = some e → v (g.undoAddr i) = e.undoData

/-- Everything `ata_undo_journal_attach` can do on such a volume. -/
inductive AttachOutcome (t : AtaJournalTransport) (j : AtaUndoJournal) (T : JournalTransaction g)
    (w : DiskWorld) : Bool × AtaUndoJournal × DiskWorld → Prop
  | busy : j.transactionDepth ≠ 0 → j.entries ≠ [] → AttachOutcome t j T w (false, j, w)
  | ambiguous : selected g w.medium.view = none → AttachOutcome t j T w (false, attaching j g, w)
  | clean (r : AtaJournalRecord) (b : Bool) : selected g w.medium.view = some (r, b) →
      CleanRecord r → AttachOutcome t j T w (recovered t (resumed j g r) [] b w)
  | active (b : Bool) : selected g w.medium.view = some (T.active, b) →
      AttachOutcome t j T w (recovered t (resumed j g T.active) T.restoreWrites true w)

section

variable (ready : t.transportReady = true) (hr : w.readFates = [])
include ready hr

theorem attach_outcome (h : Recoverable T w.medium.view) :
    AttachOutcome t j T w (attach t j g w) := by
  by_cases hb : j.transactionDepth ≠ 0 ∧ j.entries ≠ []
  · rw [attach_busy ready hb]
    exact .busy hb.1 hb.2
  · have hv : ∀ a ∈ g.headers, recordValid (w.medium.view a) = true := by
      intro a ha
      rcases h.1 a ha with hc | hc
      · exact hc.1
      · rw [hc]; exact T.active_valid
    rw [attach_eq ready hr hb hv]
    rcases hs : selected g w.medium.view with _ | ⟨r, b⟩
    · exact .ambiguous hs
    · obtain ⟨a, ha, rfl⟩ := selected_mem hv hs
      rcases h.1 a ha with hc | hc
      · dsimp only
        rw [recoverRecord_clean hc]
        exact .clean _ b hs hc
      · rw [hc] at hs ⊢
        dsimp only
        rw [recoverRecord_active ready hr h.2]
        exact .active b hs

theorem attach_attached (h : Recoverable T w.medium.view) :
    attach t j g w = (false, j, w) ∨
      (attach t j g w).2.1.entries = [] ∧ InstalledOn g (attach t j g w).2.1 ∧
        (attach t j g w).2.1.enabled = (attach t j g w).1 := by
  have hout := attach_outcome (j := j) ready hr h
  generalize attach t j g w = out at hout
  cases hout with
  | busy => exact Or.inl rfl
  | ambiguous => exact Or.inr ⟨rfl, attaching_installed j g, rfl⟩
  | clean r b => exact Or.inr ⟨rfl, (resumed_installed j g r).enable _, rfl⟩
  | active b => exact Or.inr ⟨rfl, (resumed_installed j g _).enable _, rfl⟩

theorem attach_clean (hfree : ¬ (j.transactionDepth ≠ 0 ∧ j.entries ≠ [])) {c : AtaJournalRecord}
    (hc : CleanRecord c) (hv : ∀ h ∈ g.headers, w.medium.view h = c) :
    attach t j g w = (true, { resumed j g c with enabled := true }, w) := by
  rw [attach_eq ready hr hfree fun h hh => by rw [hv h hh]; exact hc.1, selected_equal hc.1 hv]
  dsimp only
  rw [recoverRecord_clean hc]
  rfl

end

theorem Armable.recoverable (h : Armable CleanRecord T m) :
    Recoverable T m.view := ⟨fun a ha => (h.view a).1 ha, fun i e hi => (h.view _).2.1 i e hi rfl⟩

theorem Armed.recoverable (h : Armed T m) :
    Recoverable T m.view := by
  refine ⟨fun a ha => ?_, fun i e hi => (h.1.view _).2.1 i e hi rfl⟩
  rcases (h.1.view a).1 ha with hx | hx
  · exact Or.inr hx
  · rw [hx]; exact Or.inl T.clean_cleanRecord

theorem Clearing.recoverable (h : Clearing T m) :
    Recoverable T m.view := by
  refine ⟨fun a ha => ?_, fun i e hi => (h.1.view _).2.1 i e hi rfl⟩
  rcases (h.1.view a).1 ha with hx | hx
  · exact Or.inr hx
  · rw [hx]; exact Or.inl T.clean_cleanRecord

theorem attach_armable (ready : t.transportReady = true) :
    CrashTriple (Armable CleanRecord T) (Armable CleanRecord T) (Armable CleanRecord T)
      (attachCommand t j g) := by
  intro w hr hm
  have hidle : CrashTriple (Armable CleanRecord T) (Armable CleanRecord T) (Armable CleanRecord T)
      (Prod.mk false) := .idle (fun _ h => h) (by simp)
  have idle := hidle w hr hm
  have hout := attach_outcome (j := j) ready hr hm.recoverable
  unfold attachCommand
  generalize attach t j g w = out at hout
  cases hout with
  | busy => exact idle
  | ambiguous => exact idle
  | clean r b => exact restore_triple ready (resumed_installed j g r) (by simp) b w hr hm
  | active b => exact restore_triple ready (resumed_installed j g _) restoreWrites_undo true w hr hm

theorem attach_armed (ready : t.transportReady = true) (hne : T.entries ≠ []) :
    CrashTriple (Armed T) (fun m => Armed T m ∨ Armable CleanRecord T m) (Armable CleanRecord T)
      (attachCommand t j g) := by
  intro w hr hm
  have hidle : CrashTriple (Armed T) (fun m => Armed T m ∨ Armable CleanRecord T m)
      (Armable CleanRecord T) (Prod.mk false) := .idle (fun _ h => Or.inl h) (by simp)
  have idle := hidle w hr hm
  have hsel : ∃ b, selected g w.medium.view = some (T.active, b) := by
    obtain ⟨a, ha, hx⟩ := hm.2
    exact selected_active (fun h hh => (hm.1.view h).1 hh) ⟨a, ha, hx _ (w.medium.holds_view a)⟩
  obtain ⟨b, hsel⟩ := hsel
  have hundo := (unapply_triple (T := T) ready hne).weaken (fun _ h => h)
    (fun m h => (Or.inl h : Armed T m ∨ Armable CleanRecord T m)) (fun _ h => h)
  have hclear := (repair_triple (T := T) ready (resumed_installed j g T.active) true).weaken
    (fun _ h => h) (fun m h => (Or.inr h : Armed T m ∨ Armable CleanRecord T m)) (fun _ h => h)
  have hout := attach_outcome (j := j) ready hr hm.recoverable
  unfold attachCommand
  generalize attach t j g w = out at hout
  cases hout with
  | busy => exact idle
  | ambiguous => exact idle
  | clean r b' hs hc =>
    have he : T.active = r := congrArg Prod.fst (Option.some.inj (hsel.symm.trans hs))
    rw [← he] at hc
    exact absurd (T.active_sealed.state.symm.trans hc.2) active_ne_clean_state
  | active b' => exact hundo.seq hclear w hr hm

theorem attach_clearing (ready : t.transportReady = true) (hne : T.entries ≠ []) :
    CrashTriple (Clearing T) (fun m => Clearing T m ∨ Armed T m ∨ Armable CleanRecord T m)
      (fun m => Clearing T m ∨ Armable CleanRecord T m) (attachCommand t j g) := by
  intro w hr hm
  have hidle : ∀ r, CrashTriple (Clearing T)
      (fun m => Clearing T m ∨ Armed T m ∨ Armable CleanRecord T m)
      (fun m => Clearing T m ∨ Armable CleanRecord T m) (Prod.mk r) := fun r =>
    .idle (fun _ h => Or.inl h) fun _ _ h => Or.inl h
  have idle := fun r => hidle r w hr hm
  by_cases ha : ∃ h ∈ g.headers, w.medium.view h = T.active
  · obtain ⟨h, hh, hv⟩ := ha
    have harmed : Armed T w.medium :=
      ⟨hm.1.mono fun _ _ hx => hx.mono (fun _ => id) fun _ _ _ => Or.inr, h, hh, hm.2 h hh hv⟩
    exact (attach_armed (j := j) ready hne).weaken (fun _ h => h)
      (fun m h => (Or.inr h : Clearing T m ∨ Armed T m ∨ Armable CleanRecord T m))
      (fun m h => (Or.inr h : Clearing T m ∨ Armable CleanRecord T m)) w hr harmed
  · have hclean : ∀ h ∈ g.headers, w.medium.view h = T.clean := by
      intro h hh
      rcases (hm.1.view h).1 hh with hx | hx
      · exact absurd ⟨h, hh, hx⟩ ha
      · exact hx
    have hsel := selected_equal T.clean_valid hclean
    have hout := attach_outcome (j := j) ready hr hm.recoverable
    unfold attachCommand
    generalize attach t j g w = out at hout
    cases hout with
    | busy => exact idle false
    | ambiguous => exact idle false
    | clean r b hs =>
      have hb : false = b := congrArg Prod.snd (Option.some.inj (hsel.symm.trans hs))
      subst hb
      exact idle true
    | active b hs =>
      have he := congrArg Prod.fst (Option.some.inj (hsel.symm.trans hs))
      exact absurd he T.clean_ne_active

theorem attach_healthy (ready : t.transportReady = true) (hw : w.fates = []) (hr : w.readFates = [])
    (hfree : j.transactionDepth = 0 ∨ j.entries = []) (h : Recoverable T w.medium.view)
    (hs : (selected g w.medium.view).isSome = true) : (attach t j g w).1 = true := by
  have hrestore : ∀ r undo repair, (restore t (resumed j g r) undo repair w).1 = true := by
    intro r undo repair
    refine ((Healthy.of_emits (emits_sendEach (emits_writeSector ready) undo.reverse)).seq ?_ w hw).1
    split
    next => exact Healthy.of_emits (emits_clear ready (resumed_installed j g r))
    next => exact fun w' hw' => ⟨rfl, hw'⟩
  have hout := attach_outcome (j := j) ready hr h
  generalize attach t j g w = out at hout
  cases hout with
  | busy hd he => rcases hfree with hf | hf <;> contradiction
  | ambiguous hn => rw [hn] at hs; simp at hs
  | clean r b => exact hrestore r [] b
  | active b => exact hrestore T.active T.restoreWrites true

end ReistOs
