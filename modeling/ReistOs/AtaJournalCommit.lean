import ReistOs.AtaJournalPhases

namespace ReistOs

open WriteBack AtaJournalTransport

/-- The journal at the end of its transaction. -/
structure Publishes {g : JournalGeometry} (j : AtaUndoJournal) (T : JournalTransaction g) : Prop where
  attached : AttachedTo g j
  entries : j.entries = T.entries
  sequence : j.sequence = T.sequence
  nonempty : T.entries ≠ []

section Translation

variable {g : JournalGeometry} {j : AtaUndoJournal} {T : JournalTransaction g}

theorem InstalledOn.headerAddrs (h : InstalledOn g j) : j.headerAddrs = g.headers := by
  simp [AtaUndoJournal.headerAddrs, JournalGeometry.headers, h.addr, h.headerLba, h.mirrorLba]

theorem Publishes.undoWrites (h : Publishes j T) : j.undoWrites = T.undoWrites := by
  simp [AtaUndoJournal.undoWrites, JournalTransaction.undoWrites, JournalGeometry.undoAddr,
    h.attached.toInstalledOn.addr, h.attached.toInstalledOn.dataLba, h.entries]

theorem Publishes.targetWrites (h : Publishes j T) : j.targetWrites = T.targetWrites := by
  simp [AtaUndoJournal.targetWrites, JournalTransaction.targetWrites, h.attached.toInstalledOn.addr, h.entries]

theorem Publishes.active (h : Publishes j T) : j.active = T.active := by
  simp [AtaUndoJournal.active, JournalTransaction.active, h.entries, h.sequence]

end Translation

section Calls

variable {t : AtaJournalTransport}

theorem emits_writeDeferred (w : DiskWorld) (ws : List (SectorAddr × Sector)) :
    Emits w ws (w.writeDeferred ws) := by
  have h := emits_send w (ws.map fun p => Event.write p.1 p.2)
  rwa [writesOf_map_write] at h

section

variable (deferred : t.deferredTransportReady = true) (w : DiskWorld)
include deferred w

theorem emits_writeSectorDeferred (a : SectorAddr) (s : Sector) :
    Emits w [(a, s)] (writeSectorDeferred t w a s) := by
  rw [writeSectorDeferred, if_pos deferred]
  exact emits_writeDeferred w [(a, s)]

theorem emits_flushDeferred :
    Emits w [] (flushDeferred t w) := by
  rw [flushDeferred, if_pos deferred]
  exact emits_send w [.flush]

theorem settled_flushDeferred :
    Settled (flushDeferred t w) := by
  rw [flushDeferred, if_pos deferred]
  exact settled_send ⟨[], rfl⟩

end

variable {w : DiskWorld} {ws : List (SectorAddr × Sector)} {r : Bool × DiskWorld}

theorem emits_barrier (h : Emits w ws r) :
    Emits w ws (andThen r (barrier t t.deferredTransportReady)) := by
  rw [← List.append_nil ws]
  refine h.andThen fun w' => ?_
  unfold barrier
  split
  next hd => exact emits_flushDeferred hd w'
  next => exact Emits.done w'

theorem settled_barrier (h : t.deferredTransportReady = false → Settled r) :
    Settled (andThen r (barrier t t.deferredTransportReady)) := by
  cases hd : t.deferredTransportReady with
  | true => exact Settled.andThen fun w => settled_flushDeferred hd w
  | false => exact (h hd).andThen_done

theorem emits_commitEnd (h : Emits w ws r) : Emits w ws (commitEnd r.1 r.2) := by
  obtain ⟨⟨es, hx, hsub, hall⟩, hh⟩ := h
  obtain ⟨⟨fs, hx', hsub', -⟩, hh'⟩ := emits_send r.2 [.flush]
  have hfs : writesOf fs = [] := List.sublist_nil.mp hsub'
  refine ⟨⟨es ++ fs, hx.trans hx', ?_, ?_⟩, fun hw => ?_⟩
  · rw [writesOf_append, hfs, List.append_nil]
    exact hsub
  · intro hok
    rw [writesOf_append, hfs, List.append_nil]
    exact hall (by simp only [commitEnd, Bool.and_eq_true] at hok; exact hok.1)
  · obtain ⟨hok, hf⟩ := hh hw
    obtain ⟨hok', hf'⟩ := hh' hf
    exact ⟨by simp only [commitEnd, World.flush, hok, hok', Bool.and_self], hf'⟩

theorem settled_commitEnd (r : Bool) (w : DiskWorld) : Settled (commitEnd r w) := by
  intro hok
  simp only [commitEnd, Bool.and_eq_true] at hok
  exact settled_send ⟨[], rfl⟩ hok.2

variable (ready : t.transportReady = true)

include ready

theorem emits_writeSector (w : DiskWorld) (a : SectorAddr) (s : Sector) :
    Emits w [(a, s)] (writeSector t w a s) := by
  rw [writeSector, if_pos ready]
  exact emits_send w [.write a s, .flush]

theorem settled_writeSector (w : DiskWorld) (a : SectorAddr) (s : Sector) :
    Settled (writeSector t w a s) := by
  rw [writeSector, if_pos ready]
  exact settled_send ⟨[.write a s], rfl⟩

theorem emits_recordWriter {deferred : Bool} (hd : deferred = true → t.deferredTransportReady = true)
    (w : DiskWorld) (a : SectorAddr) (r : AtaJournalRecord) :
    Emits w [(a, r)] (recordWriter t deferred w a r) := by
  simp only [deferredTransportReady, transportReady,
    Bool.and_eq_true] at hd ready
  unfold recordWriter
  split
  next h =>
    rw [if_pos (hd h).1.2]
    exact emits_writeDeferred w [(a, r)]
  next =>
    rw [if_pos ready.2]
    exact emits_send w [.write a r, .flush]

theorem settled_recordWriter (w : DiskWorld) (a : SectorAddr) (r : AtaJournalRecord) :
    Settled (recordWriter t false w a r) := by
  have hw : t.write = true := by
    simp only [transportReady, Bool.and_eq_true] at ready
    exact ready.2
  simp only [recordWriter, Bool.false_eq_true, if_false, hw, if_true]
  exact settled_send ⟨[.write a r], rfl⟩

theorem emits_targetWriter (useCommitTransport : Bool) (w : DiskWorld) (a : SectorAddr) (s : Sector) :
    Emits w [(a, s)] (targetWriter t useCommitTransport w a s) := by
  unfold targetWriter
  split
  next => exact emits_send w [.write a s, .flush]
  next => exact emits_writeSector ready w a s

theorem settled_targetWriter (useCommitTransport : Bool) (w : DiskWorld) (a : SectorAddr)
    (s : Sector) : Settled (targetWriter t useCommitTransport w a s) := by
  unfold targetWriter
  split
  next => exact settled_send ⟨[.write a s], rfl⟩
  next => exact settled_writeSector ready w a s

end Calls

variable {t : AtaJournalTransport} {g : JournalGeometry} {j : AtaUndoJournal}
  {T : JournalTransaction g}

theorem emits_record (ready : t.transportReady = true) (ha : InstalledOn g j) (r : AtaJournalRecord)
    (w : DiskWorld) : Emits w (g.headers.map fun a => (a, r))
      (andThen (writeRecord t j r t.deferredTransportReady w) (barrier t t.deferredTransportReady)) := by
  refine emits_barrier ?_
  unfold writeRecord
  rw [ha.headerAddrs]
  exact emits_sendEach (emits_recordWriter ready id) _ w

theorem settled_record (ready : t.transportReady = true) (ha : InstalledOn g j) (r : AtaJournalRecord)
    (w : DiskWorld) : Settled
      (andThen (writeRecord t j r t.deferredTransportReady w) (barrier t t.deferredTransportReady)) := by
  refine settled_barrier fun hd => ?_
  unfold writeRecord
  rw [hd, ha.headerAddrs]
  exact settled_sendEach (settled_recordWriter ready) (by simp [g.headers_ne_nil]) w

theorem emits_undo (ready : t.transportReady = true) (hp : Publishes j T) (w : DiskWorld) :
    Emits w T.undoWrites
      (andThen (writeUndo t j t.deferredTransportReady w) (barrier t t.deferredTransportReady)) := by
  refine emits_barrier ?_
  unfold writeUndo
  rw [hp.undoWrites]
  split
  next => exact emits_writeDeferred w T.undoWrites
  next =>
    split
    next hd => exact emits_sendEach (emits_writeSectorDeferred hd) _ w
    next => exact emits_sendEach (emits_writeSector ready) _ w

theorem settled_undo (ready : t.transportReady = true) (hp : Publishes j T) (w : DiskWorld) :
    Settled (andThen (writeUndo t j t.deferredTransportReady w)
      (barrier t t.deferredTransportReady)) := by
  refine settled_barrier fun hd => ?_
  unfold writeUndo
  rw [hd, hp.undoWrites]
  refine settled_sendEach (settled_writeSector ready) ?_ w
  simpa [JournalTransaction.undoWrites] using hp.nonempty

theorem splitRun_append (es : List AtaJournalEntry) :
    (splitRun es).1 ++ (splitRun es).2 = es := by
  induction es with
  | nil => rfl
  | cons e es ih =>
    cases es with
    | nil => rfl
    | cons f es =>
      unfold splitRun
      split
      next => simpa using ih
      next => rfl

theorem runWrites_splitRun (e : AtaJournalEntry) (es : List AtaJournalEntry) :
    runWrites j e.targetLba (splitRun (e :: es)).1 =
      (splitRun (e :: es)).1.map fun e => (j.addr e.targetLba, e.pendingData) := by
  induction es generalizing e with
  | nil => simp [splitRun, runWrites]
  | cons f es ih =>
    unfold splitRun
    split
    next h =>
      have hf := ih f
      have shift : ∀ (run : List AtaJournalEntry) (k first : Nat),
          (run.zipIdx (k + 1)).map (fun p => (j.addr (first + p.2), p.1.pendingData)) =
            (run.zipIdx k).map (fun p => (j.addr (first + 1 + p.2), p.1.pendingData)) := by
        intro run
        induction run with
        | nil => intro k first; rfl
        | cons x run ih =>
          intro k first
          simp only [List.zipIdx_cons, List.map_cons, ih]
          rw [show first + (k + 1) = first + 1 + k by omega]
      unfold runWrites at hf ⊢
      simp only [List.zipIdx_cons, List.map_cons, Nat.add_zero, shift]
      rw [← h.2, hf]
    next => simp [runWrites]

theorem emits_commitRuns (es : List AtaJournalEntry) (w : DiskWorld) :
    Emits w (es.map fun e => (j.addr e.targetLba, e.pendingData)) (commitRuns j es w) := by
  induction es, w using commitRuns.induct with
  | case1 w => rw [commitRuns]; exact Emits.done w
  | case2 e es w ih =>
    rw [commitRuns]
    nth_rewrite 1 [← splitRun_append (e :: es)]
    rw [List.map_append, ← runWrites_splitRun]
    exact (emits_writeDeferred w _).andThen ih

theorem emits_commitTargets (ready : t.deferredCommitReady = true) (hp : Publishes j T)
    (w : DiskWorld) : Emits w T.targetWrites (commitTargetsDeferred t j w) := by
  unfold commitTargetsDeferred
  simp only [ready, Bool.not_true, Bool.false_eq_true, if_false]
  rw [← hp.targetWrites]
  split
  next => exact emits_sendEach (fun w a s => emits_writeDeferred w [(a, s)]) _ w
  next => exact emits_commitRuns j.entries w

theorem emits_targets (ready : t.transportReady = true) (hp : Publishes j T)
    (useCommitTransport : Bool) (w : DiskWorld) :
    Emits w T.targetWrites (writeTargets t j useCommitTransport t.deferredTransportReady w) := by
  unfold writeTargets
  rw [hp.targetWrites]
  split
  next hc =>
    have hd : t.deferredCommitReady = true := by simp only [Bool.and_eq_true] at hc; exact hc.2
    exact (emits_send w []).andThen fun w' => emits_commitEnd (emits_commitTargets hd hp w')
  next =>
    split
    next hc =>
      have hd : t.deferredTransportReady = true := by simp only [Bool.and_eq_true] at hc; exact hc.2
      have h := (emits_sendEach (emits_writeSectorDeferred hd) T.targetWrites w).andThen
        fun w' => emits_flushDeferred hd w'
      rwa [List.append_nil] at h
    next => exact emits_sendEach (emits_targetWriter ready useCommitTransport) _ w

theorem settled_targets (ready : t.transportReady = true) (hp : Publishes j T)
    (useCommitTransport : Bool) (w : DiskWorld) :
    Settled (writeTargets t j useCommitTransport t.deferredTransportReady w) := by
  unfold writeTargets
  rw [hp.targetWrites]
  split
  next => exact Settled.andThen fun w' => settled_commitEnd _ _
  next =>
    split
    next hc =>
      have hd : t.deferredTransportReady = true := by simp only [Bool.and_eq_true] at hc; exact hc.2
      exact Settled.andThen fun w' => settled_flushDeferred hd w'
    next =>
      refine settled_sendEach (settled_targetWriter ready useCommitTransport) ?_ w
      simpa [JournalTransaction.targetWrites] using hp.nonempty

end ReistOs
