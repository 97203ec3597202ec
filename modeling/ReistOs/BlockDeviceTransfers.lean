import ReistOs.BlockDeviceAccess

/-! A transfer of several sectors against the transfers of its sectors one by one. -/

namespace ReistOs

open WriteBack BlockState World AtaUndoJournal

/-- A physical disk that serves the requests of its partitions. -/
structure Serving (drives : List Drive) (parent : Drive) (s : BlockState) : Prop where
  own : OwnBase drives parent
  channel : parent.base ∈ s.channels
  lba48 : parent.lba48Supported = true ∨ parent.sectors.toNat ≤ ataLba28Limit.toNat

structure DeviceHealthy (s : BlockState) : Prop where
  fates : s.disk.fates = []
  readFates : s.disk.readFates = []

/-- What a successful read leaves: only the list of accesses grows. -/
def BlockState.access (s : BlockState) (as : List SectorAddr) : BlockState :=
  { s with accessed := s.accessed ++ as }

section Shift

variable {off : UInt32} {hi : Nat}

theorem readEach_shift {read read' : UInt32 → BlockState → BlockResult Sector}
    (h : ∀ a : UInt32, a.toNat < hi → read a = read' (off + a)) (n : Nat) {a : UInt32}
    (hhi : a.toNat + n ≤ hi) (s : BlockState) :
    readSectorsEach read a n s = readSectorsEach read' (off + a) n s := by
  induction n generalizing a s with
  | zero => rfl
  | succ n ih =>
    have hnext := toNat_next_le a
    unfold readSectorsEach
    rw [h a (by omega)]
    simp only [ih (a := a + 1) (by omega), UInt32.add_assoc]

theorem writeEach_shift {write write' : UInt32 → Sector → BlockState → BlockResult Unit}
    (h : ∀ a : UInt32, a.toNat < hi → write a = write' (off + a)) (data : List Sector) {a : UInt32}
    (hhi : a.toNat + data.length ≤ hi) (s : BlockState) :
    writeSectorsEach write a data s = writeSectorsEach write' (off + a) data s := by
  induction data generalizing a s with
  | nil => rfl
  | cons x data ih =>
    rw [List.length_cons] at hhi
    have hnext := toNat_next_le a
    unfold writeSectorsEach
    rw [h a (by omega)]
    simp only [ih (a := a + 1) (by omega), UInt32.add_assoc]

end Shift

section Read

variable {drives : List Drive} {parent : Drive} {s : BlockState}

theorem readSector_healthy (h : DeviceHealthy s) (a : SectorAddr) :
    s.readSector a = (.ok (s.disk.medium.view a), s.access [a]) := by
  unfold BlockState.readSector
  rw [read_of_readFates h.readFates]
  rfl

theorem readCommand_healthy (h : DeviceHealthy s) (as : List SectorAddr) :
    s.readCommand as = (.ok (as.map s.disk.medium.view), s.access as) := by
  have hr := h.readFates
  have hs : s.disk = { s.disk with readFates := s.disk.readFates.tail } := by rw [hr, List.tail_nil, ← hr]
  unfold readCommand access
  rw [← hs, hr]
  rfl

variable {lba : UInt32}

theorem sectorRefused_false (h : Serving drives parent s) (hlba : lba.toNat < parent.sectors.toNat) :
    ataSectorRefused drives s.channels parent.base lba parent.isMaster = false := by
  have hcap : (decide (ataLba28Limit ≤ lba) && !parent.lba48Supported) = false := by
    rcases h.lba48 with h48 | hfit
    · simp [h48]
    · have hlt : ¬ ataLba28Limit.toNat ≤ lba.toNat := by omega
      have hnot : ¬ ataLba28Limit ≤ lba := hlt
      simp [hnot]
  have hin : ¬ parent.sectors.toNat ≤ lba.toNat := by omega
  have hnot : ¬ parent.sectors ≤ lba := hin
  unfold ataSectorRefused
  rw [h.own.resource]
  simp [hcap, hnot, h.channel]

theorem sectorRangeValid_of_lt (hlba : lba.toNat < parent.sectors.toNat) :
    blockDeviceSectorRangeValid parent lba = true := by
  have hne : parent.sectors ≠ 0 := by
    rintro he
    rw [he] at hlba
    exact absurd hlba (Nat.not_lt_zero _)
  have hlt : lba < parent.sectors := hlba
  simp [blockDeviceSectorRangeValid, hne, hlt]

theorem deviceReadSector_healthy (htype : parent.type = .ata ∨ parent.type = .ahci)
    (h : parent.type = .ata → Serving drives parent s) (hs : DeviceHealthy s)
    (hlba : lba.toNat < parent.sectors.toNat) :
    deviceReadSector drives parent lba s =
      (.ok (s.disk.medium.view ⟨parent.base, parent.isMaster, lba.toNat⟩),
        s.access [⟨parent.base, parent.isMaster, lba.toNat⟩]) := by
  unfold deviceReadSector
  rw [sectorRangeValid_of_lt hlba]
  rcases htype with ht | ht
  · have hserve := h ht
    rw [ht]
    unfold ataReadSectorFresh
    rw [hserve.own.noPartition, hserve.own.noAhci]
    unfold ataReadSectorImpl
    rw [sectorRefused_false hserve hlba]
    exact readSector_healthy hs _
  · have hnot : ¬ parent.sectors ≤ lba := fun hle => by
      have hle' : parent.sectors.toNat ≤ lba.toNat := hle
      omega
    rw [ht]
    unfold ahciReadSector
    rw [if_neg hnot]
    exact readSector_healthy hs _

theorem readEach_healthy (htype : parent.type = .ata ∨ parent.type = .ahci) (n : Nat)
    {s : BlockState} (h : parent.type = .ata → Serving drives parent s) (hs : DeviceHealthy s)
    (hn : lba.toNat + n ≤ parent.sectors.toNat) :
    readSectorsEach (deviceReadSector drives parent) lba n s =
      (.ok ((sectorSpan parent.base parent.isMaster lba.toNat n).map s.disk.medium.view),
        s.access (sectorSpan parent.base parent.isMaster lba.toNat n)) := by
  induction n generalizing lba s with
  | zero => simp [readSectorsEach, sectorSpan, access]
  | succ n ih =>
    have hbound := parent.sectors.toNat_lt
    unfold readSectorsEach
    rw [deviceReadSector_healthy htype h hs (by omega)]
    dsimp only
    rw [sectorSpan_succ, List.map_cons]
    have hnext := toNat_next_le lba
    have hserve : parent.type = .ata →
        Serving drives parent (s.access [⟨parent.base, parent.isMaster, lba.toNat⟩]) :=
      fun ht => ⟨(h ht).own, (h ht).channel, (h ht).lba48⟩
    rw [ih hserve ⟨hs.fates, hs.readFates⟩ (by omega), sectorSpan_next (by omega)]
    simp [access]

theorem ataReadSectors_healthy (h : Serving drives parent s) (hs : DeviceHealthy s) {count : Nat}
    (hvalid : blockDeviceRangeValid parent lba count = true)
    (hview : ataJournalRangeHasPending s.journal parent.base lba count parent.isMaster = false) :
    ataReadSectors drives parent.base lba count parent.isMaster s =
      (.ok ((sectorSpan parent.base parent.isMaster lba.toNat count).map s.disk.medium.view),
        s.access (sectorSpan parent.base parent.isMaster lba.toNat count)) := by
  obtain ⟨hne, hmax, hin⟩ := rangeValid_le hvalid
  have h20 : ataPioMaxSectors = 20 := rfl
  have h128 : ataPioMaxReadSectors = 128 := rfl
  have hlt : lba.toNat < parent.sectors.toNat := by omega
  have hnot : ¬ parent.sectors ≤ lba := by
    intro hle
    have hle' : parent.sectors.toNat ≤ lba.toNat := hle
    omega
  have hroom : ¬ (parent.sectors - lba).toNat < count := by
    rw [UInt32.toNat_sub_of_le _ _ (UInt32.le_of_lt hlt)]
    omega
  have hcap : ¬ (ataLba28Limit.toNat ≤ lba.toNat + count - 1 ∧ (!parent.lba48Supported) = true) := by
    rintro ⟨hle, hno⟩
    rcases h.lba48 with h48 | hfit
    · rw [h48] at hno
      cases hno
    · omega
  unfold ataReadSectors
  rw [h.own.noPartition, h.own.noAhci, h.own.resource]
  dsimp only
  rw [if_neg (by
    rintro (h0 | h1 | h2 | h3 | ⟨h4, -⟩)
    · exact hne h0
    · omega
    · exact hnot h2
    · exact hroom h3
    · omega)]
  unfold ataReadView
  rw [hview]
  change ataReadSectorsPio drives parent.base lba count parent.isMaster s = _
  unfold ataReadSectorsPio
  rw [h.own.resource]
  dsimp only
  rw [if_neg (by
    rintro (h0 | h1 | h2 | h3)
    · exact hne h0
    · omega
    · exact hnot h2
    · exact hroom h3), if_neg hcap]
  exact readCommand_healthy hs _

end Read

variable {drives : List Drive} {parent : Drive}

def Unjournaled (j : AtaUndoJournal) (parent : Drive) (lba count : Nat) : Prop :=
  ∀ a ∈ sectorSpan parent.base parent.isMaster lba count, j.bypasses a = true

/-- The open transaction has room for the range, which lies in the attached volume. -/
structure Staging (j : AtaUndoJournal) (parent : Drive) (lba count : Nat) : Prop where
  depth : j.transactionDepth ≠ 0
  deeper : j.transactionDepth ≠ uint32Max
  room : j.entries.length + count ≤ ataJournalMaxEntries
  sequence : j.entries = [] → j.sequence + 1 ≠ 0
  inVolume : ∀ a ∈ sectorSpan parent.base parent.isMaster lba count,
    j.bypasses a = false ∧ j.reserved a.lba = false

theorem transportReady_ata : ataJournalTransport.transportReady = true := rfl

variable {lba : UInt32} {s : BlockState}

theorem transportRefused_false (h : Serving drives parent s)
    (hlba : lba.toNat < parent.sectors.toNat) :
    ataTransportRefused drives s.channels parent.base lba parent.isMaster = false := by
  unfold ataTransportRefused
  rw [h.own.noAhci]
  exact sectorRefused_false h hlba

theorem deviceWriteSector_ata (h : Serving drives parent s) (ht : parent.type = .ata)
    (hlba : lba.toNat < parent.sectors.toNat) (x : Sector) :
    deviceWriteSector drives parent lba x s =
      s.storageWrite (ataWriteSectorJournaled drives parent.base lba x parent.isMaster) := by
  unfold deviceWriteSector
  rw [sectorRangeValid_of_lt hlba, ht]
  exact ataWriteSector_own h.own lba x s

theorem storageWrite_ok {s' : BlockState} {op : BlockState → BlockResult Unit}
    (hopen : s.fenced = false) (hop : op s = (.ok (), s')) : s.storageWrite op = (.ok (), s') := by
  unfold storageWrite
  rw [hopen, hop]
  rfl

theorem storageWrite_fenced (hfenced : s.fenced = true) (op : BlockState → BlockResult Unit) :
    s.storageWrite op = (.error blockDeviceIo, s) := by
  unfold storageWrite
  rw [hfenced]
  rfl

section Bypass

variable {lba : UInt32} {s : BlockState}

theorem journaled_bypass (h : Serving drives parent s) (hs : DeviceHealthy s)
    (hlba : lba.toNat < parent.sectors.toNat)
    (hb : s.journal.bypasses ⟨parent.base, parent.isMaster, lba.toNat⟩ = true) (x : Sector) :
    ataWriteSectorJournaled drives parent.base lba x parent.isMaster s =
      (.ok (), { s with
        disk := (s.disk.write ⟨parent.base, parent.isMaster, lba.toNat⟩ x).2
        accessed := s.accessed ++ [⟨parent.base, parent.isMaster, lba.toNat⟩] }) := by
  have hw := (write_healthy hs.fates (⟨parent.base, parent.isMaster, lba.toNat⟩ : SectorAddr) x).1
  unfold ataWriteSectorJournaled
  rw [transportRefused_false h hlba]
  unfold ataUndoJournalWriteSector
  rw [transportReady_ata, hb]
  dsimp only [Bool.not_true, Bool.false_eq_true, if_false, if_true]
  unfold writeSector
  simp only [transportReady_ata, Bool.not_true, Bool.false_eq_true, if_false, if_true, hw]

theorem settled_write (w : DiskWorld) (a : SectorAddr) (x : Sector) (h : w.fates = []) :
    (w.write a x).2.medium.cache = [] := by
  have hs : Settled (w.write a x) := settled_send ⟨[.write a x], rfl⟩
  exact hs (write_healthy h a x).1

theorem writeEach_bypass {write : UInt32 → Sector → BlockState → BlockResult Unit}
    (hwrite : ∀ (lba : UInt32) x s s', s.fenced = false → Serving drives parent s →
      lba.toNat < parent.sectors.toNat →
      ataWriteSectorJournaled drives parent.base lba x parent.isMaster s = (.ok (), s') →
      write lba x s = (.ok (), s')) (data : List Sector) (hopen : s.fenced = false)
    (h : Serving drives parent s) (hs : DeviceHealthy s)
    (hn : lba.toNat + data.length ≤ parent.sectors.toNat)
    (hb : Unjournaled s.journal parent lba.toNat data.length) :
    ∃ w, writeSectorsEach write lba data s = (.ok (), { s with
        disk := w
        accessed := s.accessed ++ sectorSpan parent.base parent.isMaster lba.toNat data.length }) ∧
      s.disk.Wrote ((sectorSpan parent.base parent.isMaster lba.toNat data.length).zip data) w ∧
      (data ≠ [] → w.medium.cache = []) := by
  induction data generalizing lba s with
  | nil => exact ⟨s.disk, by simp [writeSectorsEach, sectorSpan], World.Wrote.refl _, by simp⟩
  | cons x data ih =>
    simp only [List.length_cons] at hn hb ⊢
    have hbound := parent.sectors.toNat_lt
    have hfirst := hb ⟨parent.base, parent.isMaster, lba.toNat⟩
      ((mem_sectorSpan parent.base parent.isMaster).mpr ⟨rfl, rfl, Nat.le_refl _, by dsimp only; omega⟩)
    have hone := hwrite lba x s _ hopen h (by omega) (journaled_bypass h hs (by omega) hfirst x)
    obtain ⟨-, hwrote⟩ := write_healthy hs.fates (⟨parent.base, parent.isMaster, lba.toNat⟩ : SectorAddr) x
    have hcache := settled_write s.disk ⟨parent.base, parent.isMaster, lba.toNat⟩ x hs.fates
    generalize hw : (s.disk.write ⟨parent.base, parent.isMaster, lba.toNat⟩ x).2 = w1 at hone hwrote hcache
    unfold writeSectorsEach
    rw [hone, sectorSpan_succ]
    dsimp only
    by_cases hz : data.length = 0
    · rw [List.length_eq_zero_iff.mp hz]
      exact ⟨w1, by simp [writeSectorsEach, sectorSpan], by simpa [sectorSpan] using hwrote, fun _ => hcache⟩
    · have hsucc : (lba + 1).toNat = lba.toNat + 1 := toNat_succ (by omega : lba.toNat + (data.length + 1) ≤ _) hz
      have hrest := @ih (lba + 1) { s with
          disk := w1
          accessed := s.accessed ++ [⟨parent.base, parent.isMaster, lba.toNat⟩] } hopen
        ⟨h.own, h.channel, h.lba48⟩ ⟨hwrote.fates.trans hs.fates, hwrote.readFates.trans hs.readFates⟩
        (by omega) (fun a ha => hb a (by
          rw [hsucc] at ha
          rw [sectorSpan_succ]
          exact List.mem_cons_of_mem _ ha))
      obtain ⟨w, he, hw', hc⟩ := hrest
      rw [hsucc] at he hw'
      refine ⟨w, ?_, hwrote.trans hw', fun _ => hc (by rintro rfl; exact hz rfl)⟩
      rw [he]
      simp

theorem mem_zip_span {base : UInt16} {isMaster : Bool} {data : List Sector} {lba : Nat} {a : SectorAddr}
    {x : Sector} (h : (a, x) ∈ (sectorSpan base isMaster lba data.length).zip data) :
    lba ≤ a.lba ∧ data[a.lba - lba]? = some x := by
  induction data generalizing lba with
  | nil => simp at h
  | cons y data ih =>
    rw [List.length_cons, sectorSpan_succ, List.zip_cons_cons] at h
    rcases List.mem_cons.mp h with he | hm
    · obtain ⟨rfl, rfl⟩ := Prod.mk.inj he
      simp
    · obtain ⟨hle, hx⟩ := ih hm
      refine ⟨by omega, ?_⟩
      rw [show a.lba - lba = a.lba - (lba + 1) + 1 by omega]
      simpa using hx

theorem sendEach_verify {ws : List (SectorAddr × Sector)} {w : DiskWorld} (hr : w.readFates = [])
    (h : ∀ p ∈ ws, w.medium.view p.1 = p.2) : sendEach verifySector ws w = (true, w) := by
  induction ws with
  | nil => rfl
  | cons p ws ih =>
    have hp := h p List.mem_cons_self
    unfold sendEach verifySector
    rw [read_of_readFates hr, hp]
    simp only [decide_true, andThen, if_true]
    exact ih fun q hq => h q (List.mem_cons_of_mem _ hq)

theorem writeSectorsPio_healthy (h : Serving drives parent s) (hs : DeviceHealthy s)
    {data : List Sector} (hne : data ≠ []) (hn : lba.toNat + data.length ≤ parent.sectors.toNat) :
    ∃ w, ataWriteSectorsPio parent parent.base lba data parent.isMaster s = (.ok (), { s with
        disk := w
        accessed := s.accessed ++ sectorSpan parent.base parent.isMaster lba.toNat data.length }) ∧
      s.disk.Wrote ((sectorSpan parent.base parent.isMaster lba.toNat data.length).zip data) w ∧
      w.medium.cache = [] := by
  have hcap : ¬ (ataLba28Limit.toNat ≤ lba.toNat + data.length - 1 ∧ (!parent.lba48Supported) = true) := by
    rintro ⟨hle, hno⟩
    have hpos : 0 < data.length := List.length_pos_iff.mpr hne
    rcases h.lba48 with h48 | hfit
    · rw [h48] at hno
      cases hno
    · omega
  unfold ataWriteSectorsPio
  rw [if_neg hcap]
  generalize hws : (sectorSpan parent.base parent.isMaster lba.toNat data.length).zip data = ws
  have hsend : Emits s.disk ws (s.disk.writeDeferred ws) := by
    have he := emits_send s.disk (ws.map fun p => Event.write p.1 p.2)
    rwa [writesOf_map_write] at he
  have hflush : ∀ w : DiskWorld, Emits w [] w.flush := fun w => emits_send w [.flush]
  have hboth := hsend.andThen hflush
  rw [List.append_nil] at hboth
  obtain ⟨hok, hfates⟩ := hboth.healthy hs.fates
  obtain ⟨es, hx, -, hall⟩ := hboth.events
  have hwrote : s.disk.Wrote ws (andThen (s.disk.writeDeferred ws) flush).2 :=
    ⟨⟨es, hx, hall hok⟩, hfates.trans hs.fates.symm⟩
  have hsettled : Settled (andThen (s.disk.writeDeferred ws) flush) :=
    Settled.andThen fun w => settled_send ⟨[], rfl⟩
  have hcache := hsettled hok
  have hview : ∀ p ∈ ws, (andThen (s.disk.writeDeferred ws) flush).2.medium.view p.1 = p.2 := by
    intro p hp
    rw [hwrote.view]
    refine applyWrites_of_mem _ hp fun y hy => ?_
    subst hws
    have hx := (mem_zip_span hp).2
    have hy := (mem_zip_span hy).2
    exact Option.some.inj (hy.symm.trans hx)
  have hverify := sendEach_verify (hwrote.readFates.trans hs.readFates) hview
  have hthen : andThen (andThen (s.disk.writeDeferred ws) flush) (sendEach verifySector ws) =
      (true, (andThen (s.disk.writeDeferred ws) flush).2) := (if_pos hok).trans hverify
  refine ⟨_, ?_, hwrote, hcache⟩
  dsimp only
  rw [hws, hthen]
  rfl

end Bypass

section Staged

variable {j : AtaUndoJournal} {n count : Nat}

theorem stage_ready {lba : Nat} {w : DiskWorld} (hr : w.readFates = [])
    (hroom : j.entries.length + (n + 1) ≤ ataJournalMaxEntries)
    (hseq : j.entries = [] → j.sequence + 1 ≠ 0) (x : Sector) :
    ∃ es seq, es.length + n ≤ ataJournalMaxEntries ∧ es ≠ [] ∧ ∀ d,
      stage ataJournalTransport { j with transactionDepth := d } lba x w =
        (true, { j with
          entries := es
          sequence := seq
          transactionDepth := d }, w) := by
  unfold stage
  dsimp only
  split
  next i hi =>
    refine ⟨j.entries.modify i fun e => { e with pendingData := x }, j.sequence, ?_, ?_, fun d => rfl⟩
    · rw [List.length_modify]
      omega
    · intro he
      have hz := congrArg List.length he
      rw [List.length_modify] at hz
      rw [List.length_eq_zero_iff.mp hz] at hi
      simp at hi
  next =>
    have hfull : ¬ ataJournalMaxEntries ≤ j.entries.length := by omega
    let e : AtaJournalEntry := ⟨lba, (w.medium.view (j.addr lba)).crc32, w.medium.view (j.addr lba), x⟩
    refine ⟨j.entries ++ [e], if j.entries.isEmpty then j.sequence + 1 else j.sequence, ?_, by simp, fun d => ?_⟩
    · rw [List.length_append, List.length_singleton]
      omega
    · rw [if_neg hfull]
      unfold stageNew readSector
      rw [transportReady_ata, if_pos rfl, read_of_readFates hr]
      by_cases hempty : j.entries = []
      · have hnz := hseq hempty
        simp [hempty, hnz, e, addr]
      · have hf : j.entries.isEmpty = false := by simpa using hempty
        simp [hf, e, addr]

variable {lba : UInt32} {s : BlockState}

def BlockState.staged (s : BlockState) (es : List AtaJournalEntry) (seq : UInt32)
    (as : List SectorAddr) : BlockState :=
  { s with
    journal := { s.journal with
      entries := es
      sequence := seq }
    accessed := s.accessed ++ as }

def BlockState.atDepth (s : BlockState) (d : Nat) : BlockState :=
  { s with journal := { s.journal with transactionDepth := d } }

theorem journaled_staged (h : Serving drives parent s) (hs : DeviceHealthy s)
    (hlba : lba.toNat < parent.sectors.toNat)
    (hb : s.journal.bypasses ⟨parent.base, parent.isMaster, lba.toNat⟩ = false)
    (hres : s.journal.reserved lba.toNat = false)
    (hroom : s.journal.entries.length + (n + 1) ≤ ataJournalMaxEntries)
    (hseq : s.journal.entries = [] → s.journal.sequence + 1 ≠ 0) (x : Sector) :
    ∃ es seq, es.length + n ≤ ataJournalMaxEntries ∧ es ≠ [] ∧ ∀ d, d ≠ 0 →
      ataWriteSectorJournaled drives parent.base lba x parent.isMaster (s.atDepth d) =
        (.ok (), (s.staged es seq [⟨parent.base, parent.isMaster, lba.toNat⟩]).atDepth d) := by
  obtain ⟨es, seq, hlen, hne, hstage⟩ := @stage_ready s.journal n lba.toNat s.disk hs.readFates hroom hseq x
  refine ⟨es, seq, hlen, hne, fun d hd => ?_⟩
  have hb' : ({ s.journal with transactionDepth := d } : AtaUndoJournal).bypasses
      ⟨parent.base, parent.isMaster, lba.toNat⟩ = false := hb
  have hres' : ({ s.journal with transactionDepth := d } : AtaUndoJournal).reserved lba.toNat = false := hres
  unfold ataWriteSectorJournaled atDepth
  rw [transportRefused_false h hlba]
  unfold ataUndoJournalWriteSector
  rw [transportReady_ata, hb']
  dsimp only [Bool.not_true, Bool.false_eq_true, if_false]
  rw [hres']
  simp only [Bool.not_true, Bool.false_eq_true, if_false, hd, hstage d, if_true]
  rfl

variable {lba : UInt32} {write : UInt32 → Sector → BlockState → BlockResult Unit}

theorem writeEach_staged
    (hwrite : ∀ (lba : UInt32) x s s', s.fenced = false → Serving drives parent s →
      lba.toNat < parent.sectors.toNat →
      ataWriteSectorJournaled drives parent.base lba x parent.isMaster s = (.ok (), s') →
      write lba x s = (.ok (), s'))
    (data : List Sector) {s : BlockState} (hopen : s.fenced = false)
    (h : Serving drives parent s) (hs : DeviceHealthy s)
    (hn : lba.toNat + data.length ≤ parent.sectors.toNat)
    (hroom : s.journal.entries.length + data.length ≤ ataJournalMaxEntries)
    (hseq : s.journal.entries = [] → s.journal.sequence + 1 ≠ 0)
    (hin : ∀ a ∈ sectorSpan parent.base parent.isMaster lba.toNat data.length,
      s.journal.bypasses a = false ∧ s.journal.reserved a.lba = false) :
    ∃ es seq, ∀ d, d ≠ 0 →
      writeSectorsEach (fun lba x => ataWriteSectorJournaled drives parent.base lba x parent.isMaster) lba data
        (s.atDepth d) =
        (.ok (), (s.staged es seq (sectorSpan parent.base parent.isMaster lba.toNat data.length)).atDepth d) ∧
      writeSectorsEach write lba data (s.atDepth d) =
        (.ok (), (s.staged es seq (sectorSpan parent.base parent.isMaster lba.toNat data.length)).atDepth d) := by
  induction data generalizing lba s with
  | nil => exact ⟨s.journal.entries, s.journal.sequence, fun d _ => by
      simp [writeSectorsEach, sectorSpan, staged, atDepth]⟩
  | cons x data ih =>
    simp only [List.length_cons] at hn hroom hin ⊢
    have hbound := parent.sectors.toNat_lt
    obtain ⟨hb, hres⟩ := hin ⟨parent.base, parent.isMaster, lba.toNat⟩
      ((mem_sectorSpan parent.base parent.isMaster).mpr ⟨rfl, rfl, Nat.le_refl _, by dsimp only; omega⟩)
    obtain ⟨es, seq, hlen, hne, hone⟩ := journaled_staged h hs (by omega) hb hres hroom hseq x
    have hserve : ∀ d, Serving drives parent (s.atDepth d) := fun _ => ⟨h.own, h.channel, h.lba48⟩
    rw [sectorSpan_succ]
    have hnext := toNat_next_le lba
    have hspan : sectorSpan parent.base parent.isMaster (lba + 1).toNat data.length = _ :=
      sectorSpan_next (by omega)
    have hrest := @ih (lba + 1) (s.staged es seq [⟨parent.base, parent.isMaster, lba.toNat⟩]) hopen
      ⟨h.own, h.channel, h.lba48⟩ ⟨hs.fates, hs.readFates⟩ (by omega) hlen
      (fun he => absurd he hne) (fun a ha => hin a (by
        rw [hspan] at ha
        rw [sectorSpan_succ]
        exact List.mem_cons_of_mem _ ha))
    rw [hspan] at hrest
    obtain ⟨fs, seq', hloop⟩ := hrest
    refine ⟨fs, seq', fun d hd => ?_⟩
    have hone' := hwrite lba x (s.atDepth d) _ hopen (hserve d) (by omega) (hone d hd)
    obtain ⟨hrest, hrest'⟩ := hloop d hd
    simp only [writeSectorsEach, hone d hd, hone', hrest, hrest']
    simp [staged, atDepth]

theorem bypasses_false {a : SectorAddr} (h : j.bypasses a = false) :
    j.enabled = true ∧ a.base = j.base ∧ a.isMaster = j.isMaster ∧ j.volumeStartLba ≤ a.lba ∧
      a.lba < j.volumeEndLba := by
  unfold bypasses at h
  simp only [Bool.or_eq_false_iff, Bool.not_eq_false', bne_eq_false_iff_eq, decide_eq_false_iff_not,
    Nat.not_lt, Nat.not_le] at h
  obtain ⟨⟨⟨⟨he, hb⟩, hm⟩, hlo⟩, hhi⟩ := h
  exact ⟨he, hb, hm, hlo, hhi⟩

theorem rangeJournaled_of_staging (hpos : count ≠ 0) (h : Staging j parent lba.toNat count) :
    ataRangeJournaled j parent.base lba count parent.isMaster = true := by
  have hmem : ∀ i, lba.toNat ≤ i → i < lba.toNat + count →
      (⟨parent.base, parent.isMaster, i⟩ : SectorAddr) ∈
        sectorSpan parent.base parent.isMaster lba.toNat count := fun i h1 h2 =>
    (mem_sectorSpan parent.base parent.isMaster).mpr ⟨rfl, rfl, h1, h2⟩
  obtain ⟨he, hb, hm, hlo, hhi⟩ := bypasses_false (h.inVolume _ (hmem lba.toNat (Nat.le_refl _) (by omega))).1
  obtain ⟨-, -, -, -, hend⟩ := bypasses_false
    (h.inVolume _ (hmem (lba.toNat + count - 1) (by omega) (by omega))).1
  dsimp only at hb hm hlo hhi hend
  have hfit : count ≤ j.volumeEndLba - lba.toNat := by omega
  simp [ataRangeJournaled, he, hb, hm, hlo, hhi, hfit]

theorem rangeJournaled_of_unjournaled (hpos : count ≠ 0)
    (h : Unjournaled j parent lba.toNat count) :
    ataRangeJournaled j parent.base lba count parent.isMaster = false := by
  have hb := h ⟨parent.base, parent.isMaster, lba.toNat⟩
    ((mem_sectorSpan parent.base parent.isMaster).mpr ⟨rfl, rfl, Nat.le_refl _, by dsimp only; omega⟩)
  unfold bypasses at hb
  unfold ataRangeJournaled
  simp only [Bool.or_eq_true, Bool.not_eq_true', bne_iff_ne, decide_eq_true_eq] at hb
  rcases hb with (((he | hbase) | hmaster) | hlo) | hhi
  · simp [he]
  · simp [hbase]
  · simp [hmaster]
  · simp [Nat.not_le.mpr hlo]
  · simp [Nat.not_lt.mpr hhi]

theorem writeTransaction_staged {data : List Sector} {es : List AtaJournalEntry} {seq : UInt32}
    {as : List SectorAddr}
    (hdepth : s.journal.transactionDepth ≠ 0) (hdeeper : s.journal.transactionDepth ≠ uint32Max)
    (hloop : ∀ d, d ≠ 0 → writeSectorsEach write lba data (s.atDepth d) = (.ok (), (s.staged es seq as).atDepth d)) :
    ataWriteTransaction write lba data s = (.ok (), s.staged es seq as) := by
  have hbegin : ataUndoJournalTransactionBegin s.journal =
      (true, { s.journal with transactionDepth := s.journal.transactionDepth + 1 }) := by
    unfold ataUndoJournalTransactionBegin
    rw [if_neg hdeeper, if_neg hdepth]
  have hbody := hloop (s.journal.transactionDepth + 1) (by omega)
  unfold ataWriteTransaction
  rw [hbegin]
  simp only [if_true]
  change ataTransactionFinish (writeSectorsEach write lba data (s.atDepth (s.journal.transactionDepth + 1))) = _
  rw [hbody]
  have hend : ataTransactionEndAdmitted true ((s.staged es seq as).atDepth (s.journal.transactionDepth + 1)) =
      (true, s.staged es seq as) := by
    unfold ataTransactionEndAdmitted ataUndoJournalTransactionEnd transactionEnd
    have hone : (s.journal.transactionDepth + 1 == 1) = false := by simpa using hdepth
    simp only [atDepth, staged, hone, Bool.and_false, Bool.false_and,
      Bool.false_eq_true, if_false, Nat.add_one_ne_zero, Nat.add_sub_cancel, ne_eq, hdepth,
      not_false_eq_true, if_true]
  unfold ataTransactionFinish
  dsimp only
  rw [hend]
  rfl

end Staged

/-- Two transfers end alike: the same answer, the same disk contents, the same journal, the
same fences and the same accesses. -/
structure SameEffect (r r' : BlockResult Unit) : Prop where
  result : r.1 = r'.1
  medium : r.2.disk.medium = r'.2.disk.medium
  journal : r.2.journal = r'.2.journal
  fenced : r.2.fenced = r'.2.fenced
  ahciFenced : r.2.ahciFenced = r'.2.ahciFenced
  accessed : r.2.accessed = r'.2.accessed

theorem SameEffect.refl (r : BlockResult Unit) : SameEffect r r := ⟨rfl, rfl, rfl, rfl, rfl, rfl⟩

theorem medium_eq_of_settled {m m' : Medium SectorAddr Sector} (h : m.cache = []) (h' : m'.cache = [])
    (hv : m.view = m'.view) : m = m' := by
  obtain ⟨stable, cache⟩ := m
  obtain ⟨stable', cache'⟩ := m'
  subst h h'
  simpa [Medium.view] using hv

theorem ataWriteSectors_effect (h : Serving drives parent s) (hs : DeviceHealthy s)
    (ht : parent.type = .ata) {data : List Sector}
    (hvalid : blockDeviceRangeValid parent lba data.length = true)
    (hw : Unjournaled s.journal parent lba.toNat data.length ∨
      Staging s.journal parent lba.toNat data.length) :
    SameEffect (deviceWriteSectors drives parent lba data s)
        (writeSectorsEach (deviceWriteSector drives parent) lba data s) ∧
      ((deviceWriteSectors drives parent lba data s).1 = .ok () ∨
        deviceWriteSectors drives parent lba data s = (.error blockDeviceIo, s)) := by
  obtain ⟨hpos, hmax, hin⟩ := rangeValid_le hvalid
  have hne : data ≠ [] := fun he => hpos (by rw [he]; rfl)
  have hlt : lba.toNat < parent.sectors.toNat := by omega
  have hnot : ¬ parent.sectors ≤ lba := fun hle => by
    have hle' : parent.sectors.toNat ≤ lba.toNat := hle
    omega
  have hroom : ¬ (parent.sectors - lba).toNat < data.length := by
    rw [UInt32.toNat_sub_of_le _ _ (UInt32.le_of_lt hlt)]
    omega
  have hmulti : deviceWriteSectors drives parent lba data s =
      s.storageWrite (ataWriteRange drives parent parent.base lba data parent.isMaster) := by
    unfold deviceWriteSectors
    rw [hvalid, if_neg (by simp), if_pos ht]
    unfold ataWriteSectors
    rw [h.own.noPartition, h.own.noAhci, h.own.resource]
    dsimp only
    rw [if_neg (by
      rintro (h0 | h1 | h2 | h3)
      · exact hpos h0
      · omega
      · exact hnot h2
      · exact hroom h3)]
  have hadmit : ∀ (lba : UInt32) x s s', s.fenced = false → Serving drives parent s →
      lba.toNat < parent.sectors.toNat →
      ataWriteSectorJournaled drives parent.base lba x parent.isMaster s = (.ok (), s') →
      deviceWriteSector drives parent lba x s = (.ok (), s') := by
    intro lba x s s' hopen hserve hlba hok
    rw [deviceWriteSector_ata hserve ht hlba]
    exact storageWrite_ok hopen hok
  rw [hmulti]
  cases hf : s.fenced with
  | true =>
    rw [storageWrite_fenced hf]
    refine ⟨?_, Or.inr rfl⟩
    obtain ⟨x, rest, rfl⟩ := List.exists_cons_of_ne_nil hne
    unfold writeSectorsEach
    rw [deviceWriteSector_ata h ht hlt, storageWrite_fenced hf]
    exact SameEffect.refl _
  | false =>
    rcases hw with hw | hw
    · obtain ⟨w, hpio, hwrote, hcache⟩ := writeSectorsPio_healthy h hs hne hin
      obtain ⟨w', heach, hwrote', hcache'⟩ := writeEach_bypass hadmit data hf h hs hin hw
      have hrange : ataWriteRange drives parent parent.base lba data parent.isMaster s = _ :=
        (if_neg (by rw [rangeJournaled_of_unjournaled hpos hw]; simp)).trans hpio
      rw [storageWrite_ok hf hrange, heach]
      have hmedium := medium_eq_of_settled hcache (hcache' hne) (hwrote.view.trans hwrote'.view.symm)
      exact ⟨⟨rfl, hmedium, rfl, rfl, rfl, rfl⟩, Or.inl rfl⟩
    · obtain ⟨es, seq, hloop⟩ := writeEach_staged hadmit data hf h hs hin hw.room hw.sequence hw.inVolume
      have htrans := writeTransaction_staged hw.depth hw.deeper fun d hd => (hloop d hd).1
      have hrange : ataWriteRange drives parent parent.base lba data parent.isMaster s = _ :=
        (if_pos (rangeJournaled_of_staging hpos hw)).trans htrans
      have heach : writeSectorsEach (deviceWriteSector drives parent) lba data s = _ :=
        (hloop s.journal.transactionDepth hw.depth).2
      rw [storageWrite_ok hf hrange, heach]
      exact ⟨SameEffect.refl _, Or.inl rfl⟩

end ReistOs
