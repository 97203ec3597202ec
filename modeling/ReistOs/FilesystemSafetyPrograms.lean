import ReistOs.FilesystemSafety

/-! What the actions of mutations, fences and restorations do, and what the programs return. -/

namespace ReistOs

open SharedState SafetyAction Uses Guards Returns

/-- The end of a mutation reads a record it refuses, or none. -/
def EndRefused (s : FilesystemSafety) : Prop :=
  s.filesystemIntegrityFailed = true ∨ s.filesystemControl.readOnly ≠ 0 ∨
    s.filesystemControl.mutationActive = 0

def Forced (s : FilesystemSafety) : Prop := s.filesystemForceReadOnly = true

def Supervised (s : FilesystemSafety) : Prop := s.filesystemSupervised = true

def NothingToCommit (j : AtaUndoJournal) : Prop :=
  j.enabled = false ∨ j.entries = [] ∨ j.transactionDepth ≠ 1

section Actions

variable {t : AtaJournalTransport}

variable {ok : Bool} {s : FilesystemSafety}

theorem controlRead_refused (h : EndRefused s) :
    EndRefused (s.controlRead ok).2 := by
  unfold FilesystemSafety.controlRead
  split
  next => exact Or.inl rfl
  next => exact h

theorem controlRead_none (h : (s.controlRead ok).1 = none) :
    (s.controlRead ok).2.filesystemIntegrityFailed = true := by
  unfold FilesystemSafety.controlRead at h ⊢
  split
  next => rfl
  next hn =>
    rw [if_neg hn] at h
    cases h

theorem controlRead_some {state : FilesystemControl} (h : (s.controlRead ok).1 = some state) :
    s.filesystemIntegrityFailed = false ∧ state = s.filesystemControl := by
  unfold FilesystemSafety.controlRead at h
  split at h
  next => cases h
  next hn =>
    simp only [Bool.or_eq_true, not_or, Bool.not_eq_true] at hn
    exact ⟨hn.1, (Option.some.inj h).symm⟩

theorem controlWrite_refused {state : FilesystemControl} (s : FilesystemSafety)
    (h : state.readOnly ≠ 0 ∨ state.mutationActive = 0) :
    EndRefused (s.controlWrite ok state).2 := by
  unfold FilesystemSafety.controlWrite
  split
  next => exact Or.inl rfl
  next => exact Or.inr h

theorem journalEnd_fields (ok commit : Bool) (s : FilesystemSafety) :
    (s.journalEnd t ok commit).2.filesystemControl = s.filesystemControl ∧
      (s.journalEnd t ok commit).2.filesystemIntegrityFailed = s.filesystemIntegrityFailed ∧
      (s.journalEnd t ok commit).2.filesystemForceReadOnly = s.filesystemForceReadOnly ∧
      (s.journalEnd t ok commit).2.filesystemSupervised = s.filesystemSupervised := by
  cases ok <;> exact ⟨rfl, rfl, rfl, rfl⟩

theorem run_refused (act : SafetyAction) (hw : ∀ state, act = .controlWrite state →
    state.readOnly ≠ 0 ∨ state.mutationActive = 0) (ok : Bool) (s : FilesystemSafety)
    (h : EndRefused s) : EndRefused (act.run t ok s).2 := by
  cases act with
  | controlRead => exact controlRead_refused h
  | controlWrite state => exact controlWrite_refused s (hw state rfl)
  | journalEnd commit =>
    obtain ⟨hc, hi, -, -⟩ := journalEnd_fields (t := t) ok commit s
    unfold EndRefused
    simp only [run]
    rw [hc, hi]
    exact h
  | _ => exact h

theorem run_supervised (act : SafetyAction) (ok : Bool) (s : FilesystemSafety) (h : Supervised s) :
    Supervised (act.run t ok s).2 := by
  cases act with
  | controlRead =>
    simp only [run, FilesystemSafety.controlRead]
    split <;> exact h
  | controlWrite state =>
    simp only [run, FilesystemSafety.controlWrite]
    split <;> exact h
  | journalEnd commit => exact (journalEnd_fields (t := t) ok commit s).2.2.2.trans h
  | _ => exact h

theorem run_forced (act : SafetyAction) (hf : act ≠ .storeForceReadOnly false) (ok : Bool)
    (s : FilesystemSafety) (h : Forced s) : Forced (act.run t ok s).2 := by
  cases act with
  | storeForceReadOnly value =>
    cases value with
    | false => exact absurd rfl hf
    | true => rfl
  | controlRead =>
    simp only [run, FilesystemSafety.controlRead]
    split <;> exact h
  | controlWrite state =>
    simp only [run, FilesystemSafety.controlWrite]
    split <;> exact h
  | journalEnd commit => exact (journalEnd_fields (t := t) ok commit s).2.2.1.trans h
  | _ => exact h

def SafetyAction.isJournal : SafetyAction → Bool
  | .journalBegin => true
  | .journalEnd _ => true
  | _ => false

theorem run_offline (act : SafetyAction) (hj : act.isJournal = false) (ok : Bool) (s : FilesystemSafety) :
    (act.run t ok s).2.journal = s.journal ∧ (act.run t ok s).2.disk = s.disk := by
  cases act with
  | controlRead =>
    simp only [run, FilesystemSafety.controlRead]
    split <;> exact ⟨rfl, rfl⟩
  | controlWrite state =>
    simp only [run, FilesystemSafety.controlWrite]
    split <;> exact ⟨rfl, rfl⟩
  | journalBegin => cases hj
  | journalEnd commit => cases hj
  | _ => exact ⟨rfl, rfl⟩

theorem transactionEnd_discards (j : AtaUndoJournal) (w : DiskWorld) :
    (ataUndoJournalTransactionEnd t j false w).2.2 = w := by
  unfold ataUndoJournalTransactionEnd transactionEnd
  split
  next => rfl
  next =>
    split
    next => rfl
    next => simp

theorem transactionEnd_nothing {j : AtaUndoJournal} (h : NothingToCommit j) (commit : Bool)
    (w : DiskWorld) : (ataUndoJournalTransactionEnd t j commit w).2.2 = w := by
  unfold ataUndoJournalTransactionEnd transactionEnd
  split
  next => rfl
  next h0 =>
    split
    next => rfl
    next h1 =>
      rcases h with he | he | he
      · simp [he]
      · simp [he]
      · exact absurd (by omega) he

theorem journalEnd_disk {commit : Bool} (h : commit = false ∨ NothingToCommit s.journal) (ok : Bool) :
    (s.journalEnd t ok commit).2.disk = s.disk := by
  cases ok with
  | false => rfl
  | true =>
    rcases h with rfl | h
    · exact transactionEnd_discards s.journal s.disk
    · exact transactionEnd_nothing h commit s.disk

end Actions

variable {t : AtaJournalTransport} {sort : SafetyAction → Prop}

theorem filesystemFenceMutations_uses (hf : sort (.storeForceReadOnly true)) (hr : sort .controlRead)
    (hw : ∀ state : FilesystemControl, state.readOnly ≠ 0 → sort (.controlWrite state)) :
    Uses sort filesystemFenceMutations := by
  refine perform_bind hf fun _ => perform_bind hr fun r => ?_
  cases r with
  | none => exact trivial
  | some state => exact perform_bind (hw _ (by simp)) fun _ => trivial

/-- The actions that are no journal end, do not take the flag back and write no record that an
end accepts. -/
def Closing (act : SafetyAction) : Prop :=
  act ≠ .storeForceReadOnly false ∧
    ∀ state, act = .controlWrite state → state.readOnly ≠ 0 ∨ state.mutationActive = 0

theorem fenceMutations_closing : Uses (fun act => Closing act ∧ act.isJournal = false)
    filesystemFenceMutations := by
  refine filesystemFenceMutations_uses ?_ ?_ fun state hs => ?_
  · simp [Closing, isJournal]
  · simp [Closing, isJournal]
  · simp [Closing, isJournal, hs]

theorem fenced_closing : Uses (fun act => Closing act ∧ act.isJournal = false) fenced :=
  fenceMutations_closing.bind fun _ => trivial

theorem mutationEndControl_closing :
    Uses (fun act => Closing act ∧ act.isJournal = false) mutationEndControl := by
  refine perform_bind (by simp [Closing, isJournal]) fun r => ?_
  cases r with
  | none => exact trivial
  | some state =>
    dsimp only
    split
    next => exact trivial
    next =>
      refine perform_bind (by simp [Closing, isJournal])
        (Bool.forall_bool.mpr ⟨fenced_closing, ?_⟩)
      refine perform_bind (by simp [Closing, isJournal])
        (Bool.forall_bool.mpr ⟨fenced_closing, ?_⟩)
      exact perform_bind (by simp [Closing, isJournal]) fun _ => trivial

theorem mutationEnd_closing (commit : Bool) : Uses Closing (filesystemMutationEnd commit) := by
  refine perform_bind (by simp [Closing]) fun r => ?_
  cases r with
  | false => exact perform_bind (by simp [Closing]) fun _ => trivial
  | true =>
    refine perform_bind (by simp [Closing]) fun r => ?_
    cases r with
    | false => exact fenced_closing.mono fun _ h => h.1
    | true => exact mutationEndControl_closing.mono fun _ h => h.1

theorem mutationFinish_closing (io : Bool) : Uses Closing (vfsMutationFinish io) := by
  have hend := mutationEnd_closing !io
  cases io with
  | false => exact hend
  | true => exact (fenceMutations_closing.mono fun _ h => h.1).bind fun _ => hend

theorem mutationFinish_false (io : Bool) : Returns (run t)
    (fun s => Supervised s ∧ EndRefused s) (fun result => result = false) (vfsMutationFinish io) := by
  have hfenced : Returns (run t) (fun s => Supervised s ∧ EndRefused s)
      (fun result => result = false) fenced := Returns.bind fun _ => rfl
  have hend : Returns (run t) (fun s => Supervised s ∧ EndRefused s)
      (fun result => result = false) (filesystemMutationEnd !io) := by
    refine perform_bind fun _ s hs => ?_
    have hsup : s.filesystemSupervised = true := hs.1
    simp only [run, hsup]
    refine perform_bind fun _ s _ => ?_
    split
    next => exact hfenced
    next =>
      refine perform_bind fun ok s hs => ?_
      split
      next => rfl
      next state hr =>
        obtain ⟨hi, rfl⟩ := controlRead_some hr
        rcases hs.2 with he | he
        · exact absurd (he.symm.trans hi) (by simp)
        · rw [if_pos he]
          rfl
  cases io with
  | false => exact hend
  | true => exact Returns.bind fun _ => hend

theorem mutationBegin_false (nowMs : UInt64) : Returns (run t)
    (fun s => Supervised s ∧ Forced s) (fun result => result = false) (filesystemMutationBegin nowMs) := by
  refine perform_bind fun _ s hs => ?_
  have hsup : s.filesystemSupervised = true := hs.1
  simp only [run, hsup]
  refine perform_bind fun _ s hs => ?_
  have hforced : s.filesystemForceReadOnly = true := hs.2
  simp only [run, hforced]
  exact rfl

theorem fenceMutations_reaches : Reaches (run t) EndRefused filesystemFenceMutations := by
  refine fun _ s => Or.inr fun ok s => ?_
  rcases hr : (s.controlRead ok).1 with _ | state
  · exact Or.inl (Or.inl (controlRead_none hr))
  · refine Or.inr ?_
    simp only [run, hr]
    exact fun ok s => Or.inl (controlWrite_refused s (Or.inl (by simp)))

theorem closing_refused {act : SafetyAction} (h : Closing act) (ok : Bool) (s : FilesystemSafety)
    (hs : EndRefused s) : EndRefused (act.run t ok s).2 := run_refused act h.2 ok s hs

theorem closing_forced {act : SafetyAction} (h : Closing act) (ok : Bool) (s : FilesystemSafety)
    (hs : Forced s) : Forced (act.run t ok s).2 := run_forced act h.1 ok s hs

def Offline (t : AtaJournalTransport) {α : Type} (p : SafetyProg α) : Prop :=
  ∀ j d, Guards (SafetyAction.run t) (fun s => s.journal = j ∧ s.disk = d) (fun _ => False) p

theorem Uses.offline {α : Type} {p : SafetyProg α} (h : Uses (fun act => act.isJournal = false) p) :
    Offline t p := by
  intro j d
  refine h.guards fun act hj ok s hs => ?_
  obtain ⟨hjournal, hdisk⟩ := run_offline (t := t) act hj ok s
  exact ⟨hjournal.trans hs.1, hdisk.trans hs.2⟩

theorem fenceMutations_offline : Offline t filesystemFenceMutations :=
  Uses.offline (fenceMutations_closing.mono fun _ h => h.2)

/-- Tasks that neither reopen the record nor take the flag back. -/
def KeepsFence (t : AtaJournalTransport) {α : Type} (excused : α → Prop) (p : SafetyProg α) : Prop :=
  Guards (SafetyAction.run t) EndRefused (fun _ => False) p ∧ Guards (SafetyAction.run t) Forced excused p

theorem fenceMutations_keepsFence : KeepsFence t (fun _ => False) filesystemFenceMutations :=
  ⟨fenceMutations_closing.guards fun _ h => closing_refused h.1,
    fenceMutations_closing.guards fun _ h => closing_forced h.1⟩

theorem mutationFinish_keepsFence (io : Bool) : KeepsFence t (fun _ => False) (vfsMutationFinish io) :=
  ⟨(mutationFinish_closing io).guards fun _ h => closing_refused h,
    (mutationFinish_closing io).guards fun _ h => closing_forced h⟩

theorem fenced_guards : Guards (run t) Forced (fun result => result = true) fenced :=
  fenced_closing.guards fun _ h => closing_forced h.1

theorem restoreMutations_uses : Uses (fun act => act.isJournal = false ∧
    ∀ state, act = .controlWrite state → state.readOnly ≠ 0 ∨ state.mutationActive = 0)
    filesystemRestoreMutationsAfterRecovery := by
  have hfenced : Uses (fun act => act.isJournal = false ∧ ∀ state, act = .controlWrite state →
      state.readOnly ≠ 0 ∨ state.mutationActive = 0) fenced :=
    fenced_closing.mono fun act h => ⟨h.2, h.1.2⟩
  refine perform_bind (by simp [isJournal])
    (Bool.forall_bool.mpr ⟨trivial, ?_⟩)
  refine perform_bind (by simp [isJournal])
    (Bool.forall_bool.mpr ⟨?_, trivial⟩)
  refine perform_bind (by simp [isJournal]) fun r => ?_
  cases r with
  | none => exact trivial
  | some state =>
    refine perform_bind (by simp [isJournal])
      (Bool.forall_bool.mpr ⟨hfenced, ?_⟩)
    refine perform_bind (by simp [isJournal])
      (Bool.forall_bool.mpr ⟨hfenced, ?_⟩)
    exact Uses.perform_bind (by simp [isJournal]) fun _ => trivial

theorem restoreMutations_offline : Offline t filesystemRestoreMutationsAfterRecovery :=
  Uses.offline (restoreMutations_uses.mono fun _ h => h.1)

theorem restoreMutations_keepsFence : KeepsFence t (fun result => result = true)
    filesystemRestoreMutationsAfterRecovery := by
  constructor
  · exact restoreMutations_uses.guards fun act h ok s hs => run_refused act h.2 ok s hs
  · refine perform_bind (run_forced _ (by simp)) (Bool.forall_bool.mpr ⟨trivial, ?_⟩)
    refine perform_bind (run_forced _ (by simp)) (Bool.forall_bool.mpr ⟨?_, trivial⟩)
    refine perform_bind (run_forced _ (by simp)) fun r => ?_
    cases r with
    | none => exact trivial
    | some state =>
      refine perform_bind (run_forced _ (by simp)) (Bool.forall_bool.mpr ⟨fenced_guards, ?_⟩)
      refine perform_bind (run_forced _ (by simp)) (Bool.forall_bool.mpr ⟨fenced_guards, ?_⟩)
      exact ⟨Or.inr fun _ => ⟨true, rfl, rfl⟩, fun _ => trivial⟩

theorem mutationBegin_guards (nowMs : UInt64) :
    Guards (run t) Forced (fun _ => False) (filesystemMutationBegin nowMs) := by
  have hfenced : Guards (run t) Forced (fun _ => False) fenced :=
    fenced_closing.guards fun _ h => closing_forced h.1
  refine perform_bind (run_forced _ (by simp)) (Bool.forall_bool.mpr ⟨?_, ?_⟩)
  · refine perform_bind (run_forced _ (by simp)) fun _ => ?_
    exact perform_bind (run_forced _ (by simp)) fun _ => trivial
  refine perform_bind (run_forced _ (by simp)) (Bool.forall_bool.mpr ⟨?_, trivial⟩)
  refine perform_bind (run_forced _ (by simp)) fun r => ?_
  cases r with
  | none => exact trivial
  | some state =>
    dsimp only
    split
    next => exact trivial
    next =>
      split
      next => exact hfenced
      next =>
        refine perform_bind (run_forced _ (by simp)) (Bool.forall_bool.mpr ⟨hfenced, ?_⟩)
        refine perform_bind (run_forced _ (by simp)) (Bool.forall_bool.mpr ⟨hfenced, ?_⟩)
        exact perform_bind (run_forced _ (by simp))
          (Bool.forall_bool.mpr ⟨hfenced, trivial⟩)

theorem mutationFinish_disk (io : Bool) (d : DiskWorld) : GuardsVia (run t)
    (fun s => s.disk = d ∧ (io = true ∨ NothingToCommit s.journal)) (fun s => s.disk = d)
    (vfsMutationFinish io) := by
  have hkeep : ∀ act : SafetyAction, act.isJournal = false → ∀ ok s, s.disk = d →
      (act.run t ok s).2.disk = d := fun act hj ok s hs => (run_offline act hj ok s).2.trans hs
  have hend : GuardsVia (run t)
      (fun s => s.disk = d ∧ (io = true ∨ NothingToCommit s.journal)) (fun s => s.disk = d)
      (filesystemMutationEnd !io) := by
    refine GuardsVia.perform_bind (fun _ _ hs => hs) fun r => ?_
    cases r with
    | false => exact GuardsVia.perform_bind (fun _ _ hs => hs) fun _ => trivial
    | true =>
      refine GuardsVia.perform_via (fun ok s hs => ?_) fun r => ?_
      · have hcommit : (!io) = false ∨ NothingToCommit s.journal := by
          rcases hs.2 with hio | hn
          · exact Or.inl (by rw [hio]; rfl)
          · exact Or.inr hn
        exact (journalEnd_disk hcommit ok).trans hs.1
      · cases r with
        | false => exact fenced_closing.guards fun act h => hkeep act h.2
        | true => exact mutationEndControl_closing.guards fun act h => hkeep act h.2
  cases io with
  | false => exact hend
  | true =>
    refine GuardsVia.bind (fenceMutations_closing.guards fun act h ok s hs => ?_) fun _ => hend
    exact ⟨hkeep act h.2 ok s hs.1, Or.inl rfl⟩

end ReistOs
