import ReistOs.AtaJournalAtomicity

/-! Runs of the journal: transactions, failures, remounts and crashes in any order. -/

namespace ReistOs

open WriteBack AtaUndoJournal

/-- The sector writes of a transaction that reached its commit, and what it reported. -/
abbrev CommitRecord := List (SectorAddr × Sector) × Bool

inductive JournalOp where
  | start
  | write (lba : Nat) (buffer : Sector)
  | finish (commit : Bool)
  | attach

/-- The writes the end of a transaction hands to the commit phases. -/
def handedOver (g : JournalGeometry) (j : AtaUndoJournal) (commit : Bool) :
    List (SectorAddr × Sector) :=
  if commit ∧ j.enabled = true ∧ j.transactionDepth = 1 then slotWrites g j.entries else []

def committed (ws : List (SectorAddr × Sector)) (reported : Bool) : List CommitRecord :=
  if ws = [] then [] else [(ws, reported)]

namespace JournalOp

variable (t : AtaJournalTransport) (g : JournalGeometry)

def run (j : AtaUndoJournal) (w : DiskWorld) : JournalOp → Bool × AtaUndoJournal × DiskWorld
  | start => ((ataUndoJournalTransactionBegin j).1, (ataUndoJournalTransactionBegin j).2, w)
  | write lba buffer => ataUndoJournalWriteSector t j (g.addr lba) buffer w
  | finish commit => ataUndoJournalTransactionEnd t j commit w
  | attach => ReistOs.attach t j g w

/-- Writes go to the journaled volume; others are no part of any transaction. -/
def Admissible (j : AtaUndoJournal) : JournalOp → Prop
  | write lba _ => j.enabled = true ∧ g.partitionLba ≤ lba ∧ lba < g.partitionLba + g.volumeSectors
  | _ => True

/-- The writes that the operation hands to the commit phases. -/
def handed (j : AtaUndoJournal) (w : DiskWorld) : JournalOp → List (SectorAddr × Sector)
  | start => []
  | write lba buffer =>
    if j.transactionDepth = 0 ∧ j.reserved lba = false then
      let s := stage t (ataUndoJournalTransactionBegin j).2 lba buffer w
      handedOver g s.2.1 s.1
    else []
  | finish commit => handedOver g j commit
  | attach => []

def commits (j : AtaUndoJournal) (w : DiskWorld) (op : JournalOp) : Bool → List CommitRecord :=
  committed (op.handed t g j w)

end JournalOp

def NoActive (g : JournalGeometry) (m : Medium SectorAddr Sector) : Prop :=
  ∀ h ∈ g.headers, ∀ r, m.Holds h r → ¬ (recordValid r = true ∧ AtaJournalRecord.state r = ataJournalActive)

/-- The runs from a volume in which every commit starts from such a medium. -/
inductive JournalRun (t : AtaJournalTransport) (g : JournalGeometry)
    (startable : Medium SectorAddr Sector → Prop) (d : Disk) :
    List CommitRecord → AtaUndoJournal → DiskWorld → Prop
  | boot (fates : List Fate) :
    JournalRun t g startable d [] ataUndoJournalInit ⟨⟨d, []⟩, [], fates, []⟩
  | step {txs : List CommitRecord} {j : AtaUndoJournal} {w : DiskWorld} (op : JournalOp) :
    JournalRun t g startable d txs j w → op.Admissible g j →
    (op.handed t g j w ≠ [] → startable w.medium) →
    JournalRun t g startable d (txs ++ op.commits t g j w (op.run t g j w).1)
      (op.run t g j w).2.1 (op.run t g j w).2.2
  | crash {txs : List CommitRecord} {j : AtaUndoJournal} {w : DiskWorld} (op : JournalOp)
    (es : List (Event SectorAddr Sector)) (image : Disk) (fates : List Fate) :
    JournalRun t g startable d txs j w → op.Admissible g j →
    (op.handed t g j w ≠ [] → startable w.medium) →
    w.Extends es (op.run t g j w).2.2 → w.medium.CrashDuring es image →
    JournalRun t g startable d (txs ++ op.commits t g j w false) ataUndoJournalInit
      ⟨⟨image, []⟩, [], fates, []⟩

/-- Every transaction was applied as a whole or not at all, and applied if it reported
success. -/
inductive Explains : List CommitRecord → Disk → Disk → Prop
  | nil (d : Disk) : Explains [] d d
  | applied {txs : List CommitRecord} {d e : Disk} (ws : List (SectorAddr × Sector)) (ok : Bool) :
    Explains txs d e → Explains (txs ++ [(ws, ok)]) d (applyWrites ws e)
  | skipped {txs : List CommitRecord} {d e : Disk} (ws : List (SectorAddr × Sector)) :
    Explains txs d e → Explains (txs ++ [(ws, false)]) d e

theorem Explains.eq_of_nil {d e : Disk} (h : Explains [] d e) : e = d := by
  generalize hl : ([] : List CommitRecord) = l at h
  cases h with
  | nil => rfl
  | applied => simp at hl
  | skipped => simp at hl

theorem Explains.snoc_cases (txs : List CommitRecord) {ws : List (SectorAddr × Sector)} {ok : Bool}
    {d e : Disk} (h : Explains (txs ++ [(ws, ok)]) d e) :
    (∃ e', Explains txs d e' ∧ e = applyWrites ws e') ∨ ok = false ∧ Explains txs d e := by
  generalize hl : txs ++ [(ws, ok)] = l at h
  cases h with
  | nil => simp at hl
  | applied ws' ok' h =>
    obtain ⟨rfl, hx⟩ := List.append_inj' hl rfl
    cases hx
    exact Or.inl ⟨_, h, rfl⟩
  | skipped ws' h =>
    obtain ⟨rfl, hx⟩ := List.append_inj' hl rfl
    cases hx
    exact Or.inr ⟨rfl, h⟩

/-- A content that such a choice explains outside the journal area. -/
def Explained (g : JournalGeometry) (txs : List CommitRecord) (d e : Disk) : Prop :=
  ∃ e', Explains txs d e' ∧ SameOutside g e e'

section Phases

variable {g : JournalGeometry} {txs : List CommitRecord} {d e : Disk} {m : Medium SectorAddr Sector}

theorem SameOutside.trans {f : Disk} (h : SameOutside g d e) (h' : SameOutside g e f) :
    SameOutside g d f := fun a ha => (h a ha).trans (h' a ha)

theorem Explained.congr {e' : Disk} (h : Explained g txs d e) (he : SameOutside g e' e) :
    Explained g txs d e' := by
  obtain ⟨f, hf, hs⟩ := h
  exact ⟨f, hf, he.trans hs⟩

theorem Explained.skipped (h : Explained g txs d e) (ws : List (SectorAddr × Sector)) :
    Explained g (txs ++ [(ws, false)]) d e := by
  obtain ⟨f, hf, hs⟩ := h
  exact ⟨f, .skipped ws hf, hs⟩

theorem Explained.applied (h : Explained g txs d e) (ws : List (SectorAddr × Sector)) (ok : Bool) :
    Explained g (txs ++ [(ws, ok)]) d (applyWrites ws e) := by
  obtain ⟨f, hf, hs⟩ := h
  exact ⟨_, .applied ws ok hf, fun a ha => applyWrites_congr ws (hs a ha)⟩

/-- The medium between two operations: which contents recovery can still choose. -/
inductive RunPhase (g : JournalGeometry) (txs : List CommitRecord) (d : Disk)
    (m : Medium SectorAddr Sector) : Prop
  | armable (T : JournalTransaction g) :
    Explained g txs d T.before → Armable CleanRecord T m → RunPhase g txs d m
  | armed (T : JournalTransaction g) : T.entries ≠ [] → Explained g txs d T.before →
    Explained g txs d T.after → Armed T m → RunPhase g txs d m
  | clearing (T : JournalTransaction g) : T.entries ≠ [] → Explained g txs d T.before →
    Explained g txs d T.after → Clearing T m → RunPhase g txs d m

theorem RunPhase.of_quiet (he : Explained g txs d e) {clean : Sector → Prop}
    (hc : ∀ r, clean r → CleanRecord r) (h : Quiet g clean e m) : RunPhase g txs d m := by
  refine .armable ⟨0, [], e, Staged.nil g e⟩ he (Quiet.armable ?_ rfl)
  exact Medium.Within.mono h fun _ _ hx => hx.mono hc fun _ _ _ => id

theorem RunPhase.crash (h : RunPhase g txs d m) {image : Disk} (hi : m.CrashImage image) :
    RunPhase g txs d ⟨image, []⟩ := by
  cases h with
  | armable T hb ht => exact .armable T hb (ht.crash hi)
  | armed T hne hb ha ht => exact .armed T hne hb ha (ht.crash hi)
  | clearing T hne hb ha ht => exact .clearing T hne hb ha (ht.crash hi)

theorem RunPhase.quiet (h : RunPhase g txs d m) (hn : NoActive g m) :
    Quiet g CleanRecord m.view m ∧ Explained g txs d m.view := by
  have refute : ∀ (T : JournalTransaction g) (a : SectorAddr), a ∈ g.headers →
      ¬ m.Holds a T.active := fun T a ha hx => hn a ha _ hx ⟨T.active_valid, T.active_sealed.state⟩
  cases h with
  | armable T hb ht =>
    refine ⟨fun a x hx => ⟨fun ha => ?_, by simp, fun ha => ?_⟩, hb.congr ht.sameOutside⟩
    · rcases (ht a x hx).1 ha with hc | rfl
      · exact hc
      · exact absurd hx (refute T a ha)
    · exact ((ht a x hx).2.2 ha).trans ((ht.view a).2.2 ha).symm
  | armed T hne hb ha ht =>
    obtain ⟨a, hh, hx⟩ := ht.2
    have hv := m.holds_view a
    rw [hx _ hv] at hv
    exact absurd hv (refute T a hh)
  | clearing T hne hb ha ht =>
    refine ⟨fun a x hx => ⟨fun hh => ?_, by simp, fun hh => ?_⟩, ha.congr fun a hh => (ht.1.view a).2.2 hh⟩
    · rcases (ht.1 a x hx).1 hh with rfl | rfl
      · exact absurd hx (refute T a hh)
      · exact T.clean_cleanRecord
    · exact ((ht.1 a x hx).2.2 hh).trans ((ht.1.view a).2.2 hh).symm

theorem RunPhase.of_publishing {T : JournalTransaction g} (hne : T.entries ≠ [])
    (hb : Explained g txs d T.before) (h : Publishing CleanRecord T m) :
    RunPhase g (txs ++ [(T.targetWrites, false)]) d m := by
  have hskip := hb.skipped T.targetWrites
  have happly := hb.applied T.targetWrites false
  rcases h with h | h | h | h
  · exact .of_quiet hskip (fun _ => id) h
  · exact .armable T hskip h
  · exact .armed T hne hskip happly h
  · exact .clearing T hne hskip happly h

end Phases

/-- What holds between two operations of a run. -/
structure RunState (g : JournalGeometry) (txs : List CommitRecord) (d : Disk) (j : AtaUndoJournal)
    (w : DiskWorld) : Prop where
  reads : w.readFates = []
  journal : j.enabled = true → AttachedTo g j ∧ Staged g w.medium.view j.entries
  phase : RunPhase g txs d w.medium

def StepOf (g : JournalGeometry) (txs : List CommitRecord) (d : Disk) (w : DiskWorld)
    (commits : Bool → List CommitRecord) (out : Bool × AtaUndoJournal × DiskWorld) : Prop :=
  RunState g (txs ++ commits out.1) d out.2.1 out.2.2 ∧
  ∀ es before, w.Extends es out.2.2 → before <+: es →
    RunPhase g (txs ++ commits false) d (w.medium.run before)

section Step

variable {t : AtaJournalTransport} {g : JournalGeometry} {txs : List CommitRecord} {d : Disk}
  {j j' : AtaUndoJournal} {w : DiskWorld}

theorem stepOf_idle (h : RunState g txs d j w) (r : Bool)
    (hj : j'.enabled = true → AttachedTo g j' ∧ Staged g w.medium.view j'.entries) :
    StepOf g txs d w (fun _ => []) (r, j', w) := by
  refine ⟨⟨h.reads, hj, by simpa using h.phase⟩, fun es before hx hb => ?_⟩
  rw [hx.unique (World.Extends.refl w), List.prefix_nil] at hb
  rw [hb]
  simpa using h.phase

section

variable (ready : t.transportReady = true) (h : RunState g txs d j w)
include ready h

theorem stepOf_commit (hn : NoActive g w.medium) (ha : AttachedTo g j')
    (hs : Staged g w.medium.view j'.entries) (hne : j'.entries ≠ []) (useCommitTransport : Bool) :
    StepOf g txs d w (fun ok => [(slotWrites g j'.entries, ok)])
      ((commitEntries t { j' with transactionDepth := 0 } useCommitTransport w).1,
        { j' with transactionDepth := 0, entries := [] },
        (commitEntries t { j' with transactionDepth := 0 } useCommitTransport w).2) := by
  obtain ⟨hquiet, hexp⟩ := h.phase.quiet hn
  let T := JournalTransaction.ofSlots j' w.medium.view hs
  have hp : Publishes { j' with transactionDepth := 0 } T := publishes_ofSlots ha hs hne
  obtain ⟨es, hx, hcrash, hpost⟩ :=
    commitEntries_triple ready hp CleanRecord useCommitTransport w h.reads hquiet
  refine ⟨⟨hx.readFates.trans h.reads, fun _ => ⟨ha.with_depth [] 0, Staged.nil g _⟩, ?_⟩, ?_⟩
  · rw [hx.medium]
    cases hok : (commitEntries t { j' with transactionDepth := 0 } useCommitTransport w).1 with
    | true =>
      refine .of_quiet (hexp.applied T.targetWrites true) ?_ (hpost hok)
      rintro r rfl
      exact T.clean_cleanRecord
    | false => exact .of_publishing hne hexp (hcrash es (List.prefix_refl es))
  · intro fs before hx' hb
    rw [hx'.unique hx] at hb
    exact .of_publishing hne hexp (hcrash before hb)

theorem stepOf_recoverable {T : JournalTransaction g} (hrec : Recoverable T w.medium.view)
    (hes : ∃ es, w.Extends es (attach t j g w).2.2 ∧
      ∀ before, before <+: es → RunPhase g txs d (w.medium.run before)) :
    StepOf g txs d w (fun _ => []) (attach t j g w) := by
  obtain ⟨es, hx, hph⟩ := hes
  rcases attach_attached (j := j) ready h.reads hrec with hb | ⟨hempty, hinst, hen⟩
  · rw [hb]
    exact stepOf_idle h false h.journal
  · refine ⟨⟨hx.readFates.trans h.reads, fun he => ⟨⟨hinst, he⟩, ?_⟩, ?_⟩, ?_⟩
    · rw [hempty]
      exact Staged.nil g _
    · rw [hx.medium, List.append_nil]
      exact hph es (List.prefix_refl es)
    · intro fs before hx' hbefore
      rw [hx'.unique hx] at hbefore
      simpa using hph before hbefore

theorem stepOf_attach :
    StepOf g txs d w (fun _ => []) (attach t j g w) := by
  cases h.phase with
  | armable T hb ht =>
    obtain ⟨es, hx, hc, -⟩ := attach_armable (j := j) ready w h.reads ht
    exact stepOf_recoverable ready h ht.recoverable
      ⟨es, hx, fun before hp => .armable T hb (hc before hp)⟩
  | armed T hne hb ha ht =>
    obtain ⟨es, hx, hc, -⟩ := attach_armed (j := j) ready hne w h.reads ht
    refine stepOf_recoverable ready h ht.recoverable ⟨es, hx, fun before hp => ?_⟩
    rcases hc before hp with hm | hm
    · exact .armed T hne hb ha hm
    · exact .armable T hb hm
  | clearing T hne hb ha ht =>
    obtain ⟨es, hx, hc, -⟩ := attach_clearing (j := j) ready hne w h.reads ht
    refine stepOf_recoverable ready h ht.recoverable ⟨es, hx, fun before hp => ?_⟩
    rcases hc before hp with hm | hm | hm
    · exact .clearing T hne hb ha hm
    · exact .armed T hne hb ha hm
    · exact .armable T hb hm

theorem attach_explained (hok : (attach t j g w).1 = true) :
    Explained g txs d (attach t j g w).2.2.medium.view := by
  cases h.phase with
  | armable T hb ht =>
    have hm := (attach_armable (j := j) ready).result h.reads ht hok
    exact hb.congr hm.sameOutside
  | armed T hne hb ha ht =>
    have hm := (attach_armed (j := j) ready hne).result h.reads ht hok
    exact hb.congr hm.sameOutside
  | clearing T hne hb ha ht =>
    rcases (attach_clearing (j := j) ready hne).result h.reads ht hok with hm | hm
    · exact ha.congr fun a hh => (hm.1.view a).2.2 hh
    · exact hb.congr hm.sameOutside

end

theorem begin_journal (h : RunState g txs d j w) :
    (ataUndoJournalTransactionBegin j).2.enabled = true →
      AttachedTo g (ataUndoJournalTransactionBegin j).2 ∧
        Staged g w.medium.view (ataUndoJournalTransactionBegin j).2.entries := by
  unfold ataUndoJournalTransactionBegin
  split
  next => exact h.journal
  next =>
    intro he
    obtain ⟨ha, hs⟩ := h.journal he
    refine ⟨ha.with_depth _ _, ?_⟩
    split
    next => exact Staged.nil g _
    next => exact hs

section

variable (ready : t.transportReady = true) (h : RunState g txs d j w)
include ready h

theorem stepOf_transactionEnd
    (hj : j'.enabled = true → AttachedTo g j' ∧ Staged g w.medium.view j'.entries)
    (commit useCommitTransport : Bool) (hn : handedOver g j' commit ≠ [] → NoActive g w.medium) :
    StepOf g txs d w (committed (handedOver g j' commit))
      (transactionEnd t j' commit useCommitTransport w) := by
  have idle : ∀ r j'', (j''.enabled = true → AttachedTo g j'' ∧ Staged g w.medium.view j''.entries) →
      handedOver g j' commit = [] →
      StepOf g txs d w (committed (handedOver g j' commit)) (r, j'', w) := by
    intro r j'' hj'' hnone
    rw [hnone]
    exact stepOf_idle h r hj''
  unfold transactionEnd
  split
  next hd0 => exact idle _ _ hj (by simp [handedOver, hd0])
  next hd0 =>
    split
    next hd1 =>
      refine idle _ _ (fun he => ⟨(hj he).1.with_depth _ _, (hj he).2⟩) (if_neg ?_)
      omega
    next hd1 =>
      have hd : j'.transactionDepth = 1 := by omega
      split
      next hskip =>
        refine idle _ _ (fun he => ⟨(hj he).1.with_depth _ _, Staged.nil g _⟩) ?_
        simp only [Bool.or_eq_true, Bool.not_eq_true', List.isEmpty_iff] at hskip
        rcases hskip with (hs | hs) | hs <;> simp [handedOver, hs, slotWrites]
      next hskip =>
        simp only [Bool.or_eq_true, Bool.not_eq_true', List.isEmpty_iff, not_or,
          Bool.not_eq_false] at hskip
        obtain ⟨⟨he, hne⟩, hc⟩ := hskip
        have hover : handedOver g j' commit = slotWrites g j'.entries := if_pos ⟨hc, he, hd⟩
        have hws : slotWrites g j'.entries ≠ [] := by simpa [slotWrites] using hne
        rw [hover] at hn ⊢
        have hcom : committed (slotWrites g j'.entries) =
            fun ok => [(slotWrites g j'.entries, ok)] := by
          funext ok
          exact if_neg hws
        rw [hcom]
        exact stepOf_commit ready h (hn hws) (hj he).1 (hj he).2 hne useCommitTransport

theorem step_finish (commit : Bool)
    (hn : (JournalOp.finish commit).handed t g j w ≠ [] → NoActive g w.medium) :
    StepOf g txs d w ((JournalOp.finish commit).commits t g j w)
      ((JournalOp.finish commit).run t g j w) :=
  stepOf_transactionEnd ready h h.journal commit true hn

theorem step_write {lba : Nat} (buffer : Sector)
    (hadm : (JournalOp.write lba buffer).Admissible g j)
    (hn : (JournalOp.write lba buffer).handed t g j w ≠ [] → NoActive g w.medium) :
    StepOf g txs d w ((JournalOp.write lba buffer).commits t g j w)
      ((JournalOp.write lba buffer).run t g j w) := by
  obtain ⟨he, hlo, hhi⟩ := hadm
  obtain ⟨ha, hs⟩ := h.journal he
  have hb : j.bypasses (g.addr lba) = false := by
    simp only [bypasses, JournalGeometry.addr, he, ha.base, ha.isMaster,
      ha.volumeStartLba, ha.volumeEndLba]
    grind
  unfold JournalOp.commits JournalOp.handed at *
  unfold JournalOp.run ataUndoJournalWriteSector
  simp only [ready, Bool.not_true, Bool.false_eq_true, if_false, hb]
  rw [show (g.addr lba).lba = lba from rfl]
  by_cases hres : j.reserved lba = true
  · simp only [hres, if_true, Bool.true_eq_false, and_false, if_false]
    exact stepOf_idle h false h.journal
  have hres' : j.reserved lba = false := by simpa using hres
  have ht : g.IsTarget lba := by
    simp only [reserved, ha.headerLba, ha.dataLba, ha.mirrorLba] at hres'
    constructor <;> grind
  by_cases hd : j.transactionDepth = 0
  · obtain ⟨ha1, hs1⟩ := begin_journal h (by rw [begin_outermost hd]; exact he)
    obtain ⟨hw, hst⟩ := stage_spec buffer ready h.reads ha1 hs1 ht
    simp only [hres', hd, and_self, if_true, Bool.false_eq_true, if_false] at hn ⊢
    rw [hw]
    have hstep := stepOf_transactionEnd ready h (fun _ => ⟨hst.attached, hst.staged⟩) _ false hn
    refine ⟨?_, hstep.2⟩
    cases hok : (stage t (ataUndoJournalTransactionBegin j).2 lba buffer w).1 with
    | true =>
      rw [hok] at hstep
      simpa using hstep.1
    | false =>
      rw [hok] at hstep
      simpa [committed, handedOver] using hstep.1
  · obtain ⟨hw, hst⟩ := stage_spec buffer ready h.reads ha hs ht
    simp only [hres', hd, false_and, if_false, Bool.false_eq_true]
    have hout : stage t j lba buffer w = ((stage t j lba buffer w).1, (stage t j lba buffer w).2.1, w) :=
      Prod.ext rfl (Prod.ext rfl hw)
    rw [hout]
    exact stepOf_idle h _ fun _ => ⟨hst.attached, hst.staged⟩

theorem step_run (op : JournalOp) (hadm : op.Admissible g j)
    (hn : op.handed t g j w ≠ [] → NoActive g w.medium) :
    StepOf g txs d w (op.commits t g j w) (op.run t g j w) := by
  cases op with
  | start => exact stepOf_idle h _ (begin_journal h)
  | write lba buffer => exact step_write ready h buffer hadm hn
  | finish commit => exact step_finish ready h commit hn
  | attach => exact stepOf_attach ready h

end

end Step

variable {t : AtaJournalTransport} {g : JournalGeometry} {d : Disk} {txs : List CommitRecord}
  {j : AtaUndoJournal} {w : DiskWorld}

theorem journalRun_state (ready : t.transportReady = true) (hd : ∀ h ∈ g.headers, CleanRecord (d h))
    (hrun : JournalRun t g (NoActive g) d txs j w) : RunState g txs d j w := by
  induction hrun with
  | boot fates =>
    refine ⟨rfl, fun h => absurd h (by decide), ?_⟩
    refine .of_quiet (e := d) ⟨d, .nil d, fun _ _ => rfl⟩ (fun _ => id) ?_
    exact Medium.within_of_settled rfl fun a => ⟨hd a, by simp, fun _ => rfl⟩
  | step op _ hadm hn ih => exact (step_run ready ih op hadm hn).1
  | crash op es image fates _ hadm hn hx hcrash ih =>
    obtain ⟨before, hb, hi⟩ := hcrash
    refine ⟨rfl, fun h => absurd h (by decide), ?_⟩
    exact ((step_run ready ih op hadm hn).2 es before hx hb).crash hi

/-- Where every commit starts without an ACTIVE record, each successful recovery leaves every
transaction applied as a whole or not at all. -/
theorem journalRun_explained (ready : t.transportReady = true)
    (hd : ∀ h ∈ g.headers, CleanRecord (d h)) (hrun : JournalRun t g (NoActive g) d txs j w)
    (hok : (attach t j g w).1 = true) : Explained g txs d (attach t j g w).2.2.medium.view :=
  attach_explained ready (journalRun_state ready hd hrun) hok

def syncTransport : AtaJournalTransport where
  read := true
  write := true
  commitWrite := false
  writeDeferred := false
  writeSectorsDeferred := false
  flush := false
  commitBegin := false
  commitWriteDeferred := false
  commitWriteSectorsDeferred := false
  commitEnd := false

/-- The state after a list of operations, with the history it adds. -/
def runOps (t : AtaJournalTransport) (g : JournalGeometry) :
    List JournalOp → List CommitRecord × AtaUndoJournal × DiskWorld →
      List CommitRecord × AtaUndoJournal × DiskWorld
  | [], s => s
  | op :: ops, s =>
    let out := op.run t g s.2.1 s.2.2
    runOps t g ops (s.1 ++ op.commits t g s.2.1 s.2.2 out.1, out.2.1, out.2.2)

/-- Every operation of the list is admissible where it is called. -/
def Allowed (t : AtaJournalTransport) (g : JournalGeometry) (startable : Medium SectorAddr Sector → Prop) :
    List JournalOp → List CommitRecord × AtaUndoJournal × DiskWorld → Prop
  | [], _ => True
  | op :: ops, s =>
    let out := op.run t g s.2.1 s.2.2
    op.Admissible g s.2.1 ∧ (op.handed t g s.2.1 s.2.2 ≠ [] → startable s.2.2.medium) ∧
      Allowed t g startable ops (s.1 ++ op.commits t g s.2.1 s.2.2 out.1, out.2.1, out.2.2)

theorem JournalRun.runOps {startable : Medium SectorAddr Sector → Prop} (ops : List JournalOp)
    (s : List CommitRecord × AtaUndoJournal × DiskWorld)
    (h : JournalRun t g startable d s.1 s.2.1 s.2.2) (ha : Allowed t g startable ops s) :
    JournalRun t g startable d (ReistOs.runOps t g ops s).1 (ReistOs.runOps t g ops s).2.1
      (ReistOs.runOps t g ops s).2.2 := by
  induction ops generalizing s with
  | nil => exact h
  | cons op ops ih => exact ih _ (h.step op ha.1 ha.2.1) ha.2.2

theorem freshJournal_run (startable : Medium SectorAddr Sector → Prop) (fates : List Fate) :
    JournalRun syncTransport mirroredVolume startable freshDisk [] freshJournal
      ⟨⟨freshDisk, []⟩, [], fates, []⟩ := by
  have hboot : JournalRun syncTransport mirroredVolume startable freshDisk [] ataUndoJournalInit
      ⟨⟨freshDisk, []⟩, [], fates, []⟩ := .boot fates
  have h := hboot.step .attach trivial fun h => absurd rfl h
  have hs : resumed ataUndoJournalInit mirroredVolume (ataUndoJournalMakeClean 0) =
      attaching ataUndoJournalInit mirroredVolume := by
    simp [resumed, recordSequence, (makeClean_sealed 0).version, (makeClean_sealed 0).sequence,
      ataJournalVersion, attaching, install, ataUndoJournalInit]
  have ha : attach syncTransport ataUndoJournalInit mirroredVolume ⟨⟨freshDisk, []⟩, [], fates, []⟩ =
      (true, freshJournal, ⟨⟨freshDisk, []⟩, [], fates, []⟩) := by
    rw [attach_clean rfl rfl (by simp [ataUndoJournalInit]) (makeClean_cleanRecord 0) freshDisk_headers,
      hs]
    rfl
  simpa [JournalOp.run, ha, JournalOp.commits, JournalOp.handed, committed] using h

theorem headers_of_log {w : DiskWorld} {c : AtaJournalRecord} (n : Nat) (hlog : w.log.drop n =
    [.write (mirroredVolume.addr 8) c, .flush, .write (mirroredVolume.addr 31) c, .flush]) :
    ∀ h ∈ mirroredVolume.headers, w.medium.view h = c := by
  have hv : w.medium.view = Function.update (Function.update (w.origin.run (w.log.take n)).view
      (mirroredVolume.addr 8) c) (mirroredVolume.addr 31) c := by
    have hsplit := (List.take_append_drop n w.log).symm
    rw [hlog] at hsplit
    unfold World.medium
    nth_rewrite 1 [hsplit]
    rw [Medium.run_append]
    simp [Medium.view_step_write]
  intro h hh
  rw [hv]
  rcases mirroredVolume.mem_headers.mp hh with rfl | ⟨-, rfl⟩
  · rw [Function.update_of_ne (by decide)]
    exact Function.update_self ..
  · exact Function.update_self ..

def keptRun : List CommitRecord × AtaUndoJournal × DiskWorld :=
  runOps syncTransport mirroredVolume
    [.start, .write 40 (filled 1), .write 41 (filled 1), .finish true]
    ([], freshJournal, reboot freshDisk)

theorem freshDisk_noActive : NoActive mirroredVolume ⟨freshDisk, []⟩ := by
  intro a ha r hr hx
  rw [(Medium.holds_of_cache_nil rfl).mp hr] at hx
  change recordValid (freshDisk a) = true ∧ AtaJournalRecord.state (freshDisk a) = _ at hx
  rw [freshDisk_headers a ha] at hx
  exact absurd (hx.2.symm.trans (makeClean_cleanRecord 0).2) active_ne_clean_state

theorem keptRun_run : JournalRun syncTransport mirroredVolume (NoActive mirroredVolume) freshDisk
    keptRun.1 keptRun.2.1 keptRun.2.2 := by
  refine (freshJournal_run (NoActive mirroredVolume) []).runOps _ ([], _, _) ?_
  refine ⟨trivial, fun h => absurd rfl h, ⟨rfl, by decide, by decide⟩, fun h => absurd rfl h,
    ⟨rfl, by decide, by decide⟩, fun h => absurd rfl h, trivial, fun _ => freshDisk_noActive, trivial⟩

theorem journalRun_explained_kept : Explained mirroredVolume
    [([(mirroredVolume.addr 40, filled 1), (mirroredVolume.addr 41, filled 1)], true)] freshDisk
    (attach syncTransport keptRun.2.1 mirroredVolume keptRun.2.2).2.2.medium.view := by
  refine journalRun_explained rfl (fun a ha => ?_) keptRun_run ?_
  · rw [freshDisk_headers a ha]
    exact makeClean_cleanRecord 0
  · have hh : ∀ h ∈ mirroredVolume.headers, keptRun.2.2.medium.view h = ataUndoJournalMakeClean 1 :=
      headers_of_log 12 rfl
    rw [attach_clean rfl rfl (fun hb => hb.1 rfl) (makeClean_cleanRecord 1) hh]

/-! A commit that fails between two targets leaves the journal enabled, and the next
commit replaces the only record that could undo it. -/

/-- Undo data, both headers and the first target are written; the second target fails. -/
def failsAtSecondTarget : List Fate :=
  [⟨true, fun _ => true⟩, ⟨true, fun _ => true⟩, ⟨true, fun _ => true⟩, ⟨true, fun _ => true⟩,
    ⟨true, fun _ => true⟩, ⟨false, fun _ => false⟩]

/-- Two transactions; the first one fails while its targets are being written. -/
def tornRun : List CommitRecord × AtaUndoJournal × DiskWorld :=
  runOps syncTransport mirroredVolume
    [.start, .write 40 (filled 1), .write 41 (filled 1), .finish true,
      .start, .write 42 (filled 1), .finish true]
    ([], freshJournal, ⟨⟨freshDisk, []⟩, [], failsAtSecondTarget, []⟩)

theorem tornRun_run : JournalRun syncTransport mirroredVolume (fun _ => True) freshDisk
    tornRun.1 tornRun.2.1 tornRun.2.2 := by
  refine (freshJournal_run (fun _ => True) failsAtSecondTarget).runOps _ ([], _, _) ?_
  refine ⟨trivial, fun _ => trivial, ⟨rfl, by decide, by decide⟩, fun _ => trivial,
    ⟨rfl, by decide, by decide⟩, fun _ => trivial, trivial, fun _ => trivial, trivial,
    fun _ => trivial, ⟨rfl, by decide, by decide⟩, fun _ => trivial, trivial, fun _ => trivial, trivial⟩

theorem tornRun_history : tornRun.1 =
    [([(mirroredVolume.addr 40, filled 1), (mirroredVolume.addr 41, filled 1)], false),
      ([(mirroredVolume.addr 42, filled 1)], true)] := rfl

theorem tornRun_view :
    tornRun.2.2.medium.view (mirroredVolume.addr 40) = filled 1 ∧
    tornRun.2.2.medium.view (mirroredVolume.addr 41) = filled 0 := ⟨rfl, rfl⟩

theorem tornRun_headers :
    ∀ h ∈ mirroredVolume.headers, tornRun.2.2.medium.view h = ataUndoJournalMakeClean 2 :=
  headers_of_log 18 rfl

theorem filled_ne : filled 1 ≠ filled 0 := by
  intro h
  have h0 := congrArg (fun s : Sector => s[0]) h
  simp [filled] at h0

theorem tornRun_not_explained (v : Disk) (h40 : v (mirroredVolume.addr 40) = filled 1)
    (h41 : v (mirroredVolume.addr 41) = filled 0) :
    ¬ Explained mirroredVolume tornRun.1 freshDisk v := by
  rintro ⟨e, he, hs⟩
  have h40' : e (mirroredVolume.addr 40) = filled 1 := (hs _ (by decide)).symm.trans h40
  have h41' : e (mirroredVolume.addr 41) = filled 0 := (hs _ (by decide)).symm.trans h41
  rw [tornRun_history] at he
  rcases Explains.snoc_cases [_] he with ⟨e1, he1, rfl⟩ | ⟨hf, -⟩
  · rcases Explains.snoc_cases [] he1 with ⟨e0, he0, rfl⟩ | ⟨-, he0⟩
    · exact filled_ne h41'
    · rw [he0.eq_of_nil] at h40'
      exact filled_ne h40'.symm
  · cases hf

/-- Recovery after the later commit leaves the earlier transaction half applied. -/
theorem failed_commit_not_undone :
    ¬ ∀ (t : AtaJournalTransport) (g : JournalGeometry) (d : Disk) (txs : List CommitRecord)
      (j : AtaUndoJournal) (w : DiskWorld), t.transportReady = true →
      (∀ h ∈ g.headers, CleanRecord (d h)) → JournalRun t g (fun _ => True) d txs j w →
      (attach t j g w).1 = true → Explained g txs d (attach t j g w).2.2.medium.view := by
  intro h
  have hd : ∀ a ∈ mirroredVolume.headers, CleanRecord (freshDisk a) := fun a ha => by
    rw [freshDisk_headers a ha]; exact makeClean_cleanRecord 0
  -- power is lost after the second transaction, when everything is stable
  have hcrash := tornRun_run.crash .start [] tornRun.2.2.medium.view [] trivial (fun _ => trivial)
    (World.Extends.refl _) ⟨[], List.prefix_refl _, Medium.crashImage_view _⟩
  have ha : attach syncTransport ataUndoJournalInit mirroredVolume (reboot tornRun.2.2.medium.view) =
      (true, _, reboot tornRun.2.2.medium.view) :=
    attach_clean rfl rfl (by simp [ataUndoJournalInit]) (makeClean_cleanRecord _) tornRun_headers
  have hx := h _ _ _ _ _ _ rfl hd hcrash (by change (attach _ _ _ (reboot _)).1 = true; rw [ha])
  change Explained mirroredVolume (tornRun.1 ++ []) freshDisk
    (attach _ _ _ (reboot tornRun.2.2.medium.view)).2.2.medium.view at hx
  rw [ha, List.append_nil] at hx
  exact tornRun_not_explained _ tornRun_view.1 tornRun_view.2 hx

end ReistOs
