import ReistOs.AtaJournal
import ReistOs.SharedState

/-! Supervised file system mutations of `kernel/init/filesystem_safety.c`, and the VFS calls
around them in `fs/vfs/vfs.c`. -/

namespace ReistOs

open SharedState

def filesystemMutationDeadlineMs : UInt64 := 15000

structure FilesystemControl where
  progressMarker : UInt64
  mutationDeadlineMs : UInt64
  readOnly : UInt32
  mutationActive : UInt32
  deriving DecidableEq

def filesystemControlValid (state : FilesystemControl) : Bool :=
  state.progressMarker != 0 && state.readOnly ≤ 1 && state.mutationActive ≤ 1 &&
    ((state.mutationActive == 0 && state.mutationDeadlineMs == 0) ||
      (state.mutationActive != 0 && state.mutationDeadlineMs != 0))

/-- The module's variables, with the journal and the disk behind it. -/
structure FilesystemSafety where
  filesystemControl : FilesystemControl
  filesystemIntegrityFailed : Bool
  filesystemForceReadOnly : Bool
  filesystemSupervised : Bool
  journal : AtaUndoJournal
  disk : DiskWorld

/-- The actions on the shared variables, on the supervisor and on the journal. -/
inductive SafetyAction
  | loadSupervised
  | loadIntegrityFailed
  | loadForceReadOnly
  | storeForceReadOnly (value : Bool)
  | controlRead
  | controlWrite (state : FilesystemControl)
  | supervisorReport
  | journalBegin
  | journalEnd (commit : Bool)

def SafetyAction.Answer : SafetyAction → Type
  | .storeForceReadOnly _ => Unit
  | .controlRead => Option FilesystemControl
  | _ => Bool

namespace FilesystemSafety

/-- `filesystem_control_read`; `intact` says that a copy of the object passes its checks. -/
def controlRead (intact : Bool) (s : FilesystemSafety) : Option FilesystemControl × FilesystemSafety :=
  if s.filesystemIntegrityFailed || !(intact && filesystemControlValid s.filesystemControl) then
    (none, { s with filesystemIntegrityFailed := true })
  else (some s.filesystemControl, s)

/-- `filesystem_control_write` -/
def controlWrite (intact : Bool) (state : FilesystemControl) (s : FilesystemSafety) :
    Bool × FilesystemSafety :=
  if s.filesystemIntegrityFailed || !(intact && filesystemControlValid s.filesystemControl) then
    (false, { s with filesystemIntegrityFailed := true })
  else (true, { s with filesystemControl := state })

def journalBegin (s : FilesystemSafety) : Bool × FilesystemSafety :=
  ((ataUndoJournalTransactionBegin s.journal).1,
    { s with journal := (ataUndoJournalTransactionBegin s.journal).2 })

/-- `ata_journal_transaction_end`; without the ATA mutex nothing happens. -/
def journalEnd (t : AtaJournalTransport) (locked commit : Bool) (s : FilesystemSafety) :
    Bool × FilesystemSafety :=
  if locked then
    let r := ataUndoJournalTransactionEnd t s.journal commit s.disk
    (r.1, { s with journal := r.2.1, disk := r.2.2 })
  else (false, s)

/-- A sector write below a mutation, when the storage layer admits it. -/
def writeSector (t : AtaJournalTransport) (admitted : Bool) (a : SectorAddr) (buffer : Sector)
    (s : FilesystemSafety) : FilesystemSafety :=
  if admitted then
    let r := ataUndoJournalWriteSector t s.journal a buffer s.disk
    { s with journal := r.2.1, disk := r.2.2 }
  else s

end FilesystemSafety

/-- What an action answers and does; `ok` is the part the environment decides. -/
def SafetyAction.run (t : AtaJournalTransport) : (act : SafetyAction) → Bool → FilesystemSafety →
    act.Answer × FilesystemSafety
  | .loadSupervised, _, s => (s.filesystemSupervised, s)
  | .loadIntegrityFailed, _, s => (s.filesystemIntegrityFailed, s)
  | .loadForceReadOnly, _, s => (s.filesystemForceReadOnly, s)
  | .storeForceReadOnly value, _, s => ((), { s with filesystemForceReadOnly := value })
  | .controlRead, ok, s => s.controlRead ok
  | .controlWrite state, ok, s => s.controlWrite ok state
  | .supervisorReport, ok, s => (ok, s)
  | .journalBegin, _, s => s.journalBegin
  | .journalEnd commit, ok, s => s.journalEnd t ok commit

abbrev SafetyProg := Prog SafetyAction SafetyAction.Answer

abbrev filesystemSupervised : SafetyProg Bool := Prog.perform SafetyAction.loadSupervised
abbrev filesystemIntegrityFailed : SafetyProg Bool := Prog.perform SafetyAction.loadIntegrityFailed
abbrev filesystemForceReadOnly : SafetyProg Bool := Prog.perform SafetyAction.loadForceReadOnly
abbrev setFilesystemForceReadOnly (value : Bool) : SafetyProg Unit :=
  Prog.perform (SafetyAction.storeForceReadOnly value)
abbrev filesystemControlRead : SafetyProg (Option FilesystemControl) := Prog.perform SafetyAction.controlRead
abbrev filesystemControlWrite (state : FilesystemControl) : SafetyProg Bool :=
  Prog.perform (SafetyAction.controlWrite state)
abbrev supervisorReport : SafetyProg Bool := Prog.perform SafetyAction.supervisorReport
abbrev ataJournalTransactionBegin : SafetyProg Bool := Prog.perform SafetyAction.journalBegin
abbrev ataJournalTransactionEnd (commit : Bool) : SafetyProg Bool := Prog.perform (SafetyAction.journalEnd commit)

def filesystemFenceMutations : SafetyProg Unit := do
  setFilesystemForceReadOnly true
  match ← filesystemControlRead with
  | none => pure ()
  | some state =>
    let _ ← filesystemControlWrite { state with readOnly := 1 }
    pure ()

def fenced : SafetyProg Bool := do
  filesystemFenceMutations
  pure false

def FilesystemControl.begun (state : FilesystemControl) (nowMs : UInt64) : FilesystemControl :=
  { state with
    progressMarker := state.progressMarker + 1
    mutationActive := 1
    mutationDeadlineMs := if 0xFFFFFFFFFFFFFFFF - nowMs < filesystemMutationDeadlineMs then
      0xFFFFFFFFFFFFFFFF else nowMs + filesystemMutationDeadlineMs }

def filesystemMutationBegin (nowMs : UInt64) : SafetyProg Bool := do
  if !(← filesystemSupervised) then
    let failed ← filesystemIntegrityFailed
    let forced ← filesystemForceReadOnly
    pure (!failed && !forced)
  else if ← filesystemForceReadOnly then pure false
  else
    match ← filesystemControlRead with
    | none => pure false
    | some state =>
      if state.readOnly ≠ 0 ∨ state.mutationActive ≠ 0 then pure false
      else if state.progressMarker + 1 = 0 then fenced
      else if !(← filesystemControlWrite (state.begun nowMs)) then fenced
      else if !(← supervisorReport) then fenced
      else if !(← ataJournalTransactionBegin) then fenced
      else pure true

/-- `filesystem_mutation_end` after the end of the journal transaction. -/
def mutationEndControl : SafetyProg Bool := do
  match ← filesystemControlRead with
  | none => pure false
  | some state =>
    if state.readOnly ≠ 0 ∨ state.mutationActive = 0 then pure false
    else if !(← filesystemControlWrite { state with mutationActive := 0, mutationDeadlineMs := 0 }) then
      fenced
    else if !(← supervisorReport) then fenced
    else
      let failed ← filesystemIntegrityFailed
      pure !failed

def filesystemMutationEnd (commit : Bool) : SafetyProg Bool := do
  if !(← filesystemSupervised) then
    let failed ← filesystemIntegrityFailed
    pure !failed
  else if !(← ataJournalTransactionEnd commit) then fenced
  else mutationEndControl

def filesystemRestoreMutationsAfterRecovery : SafetyProg Bool := do
  if !(← filesystemSupervised) then pure false
  else if ← filesystemIntegrityFailed then pure false
  else
    match ← filesystemControlRead with
    | none => pure false
    | some state =>
      if !(← filesystemControlWrite
          { state with readOnly := 0, mutationActive := 0, mutationDeadlineMs := 0 }) then fenced
      else if !(← supervisorReport) then fenced
      else
        setFilesystemForceReadOnly false
        pure true

/-- The part of `vfs_mutation_finish` for an armed mutation; `io` says that it failed with
`VFS_ERR_IO`. -/
def vfsMutationFinish (io : Bool) : SafetyProg Bool := do
  if io then
    filesystemFenceMutations
    filesystemMutationEnd !io
  else filesystemMutationEnd !io

/-- A VFS call that mutates, from `vfs_mutation_begin` to the return of `vfs_mutation_finish`. -/
inductive Mutation
  | beginning (p : SafetyProg Bool)
  | refused
  | running
  | finishing (p : SafetyProg Bool)
  | ended (result : Bool)

/-- The calls under way; mutations run under `vfs_operation_mutex`, the fences of other tasks
and the restorations do not. -/
structure FilesystemSystem where
  safety : FilesystemSafety
  vfsOperationMutex : Option Nat
  mutations : List Mutation
  fences : List (SafetyProg Unit)
  restores : List (SafetyProg Bool)

inductive FilesystemMove
  | mutationBegin (nowMs : UInt64)
  | mutationWrite (i : Nat) (admitted : Bool) (a : SectorAddr) (buffer : Sector)
  | mutationFinish (i : Nat) (io : Bool)
  | mutationStep (i : Nat) (ok : Bool)
  | fence
  | fenceStep (i : Nat) (ok : Bool)
  | restore
  | restoreStep (i : Nat) (ok : Bool)

section Moves

variable (t : AtaJournalTransport)

def Mutation.begun : SafetyProg Bool → Mutation
  | .done true => .running
  | .done false => .refused
  | p => .beginning p

def Mutation.finished : SafetyProg Bool → Mutation
  | .done result => .ended result
  | p => .finishing p

def Mutation.over : Mutation → Bool
  | .refused => true
  | .ended _ => true
  | _ => false

def FilesystemSystem.update (s : FilesystemSystem) (i : Nat) (m : Mutation) (safety : FilesystemSafety) :
    FilesystemSystem :=
  { s with
    safety := safety
    vfsOperationMutex := if m.over then none else s.vfsOperationMutex
    mutations := s.mutations.set i m }

def FilesystemSystem.stepMutation (s : FilesystemSystem) (i : Nat) (ok : Bool) : FilesystemSystem :=
  match s.mutations[i]? with
  | some (.beginning p) =>
    let r := advance (SafetyAction.run t) ok s.safety p
    s.update i (.begun r.1) r.2
  | some (.finishing p) =>
    let r := advance (SafetyAction.run t) ok s.safety p
    s.update i (.finished r.1) r.2
  | _ => s

def FilesystemSystem.move (s : FilesystemSystem) : FilesystemMove → FilesystemSystem
  | .mutationBegin nowMs =>
    if s.vfsOperationMutex.isSome then s
    else { s with
      vfsOperationMutex := some s.mutations.length
      mutations := s.mutations ++ [.beginning (filesystemMutationBegin nowMs)] }
  | .mutationWrite i admitted a buffer =>
    match s.mutations[i]? with
    | some .running => { s with safety := s.safety.writeSector t admitted a buffer }
    | _ => s
  | .mutationFinish i io =>
    match s.mutations[i]? with
    | some .running => { s with mutations := s.mutations.set i (.finishing (vfsMutationFinish io)) }
    | _ => s
  | .mutationStep i ok => s.stepMutation t i ok
  | .fence => { s with fences := s.fences ++ [filesystemFenceMutations] }
  | .fenceStep i ok =>
    match s.fences[i]? with
    | some p =>
      let r := advance (SafetyAction.run t) ok s.safety p
      { s with safety := r.2, fences := s.fences.set i r.1 }
    | none => s
  | .restore => { s with restores := s.restores ++ [filesystemRestoreMutationsAfterRecovery] }
  | .restoreStep i ok =>
    match s.restores[i]? with
    | some p =>
      let r := advance (SafetyAction.run t) ok s.safety p
      { s with safety := r.2, restores := s.restores.set i r.1 }
    | none => s

def FilesystemSystem.run (s : FilesystemSystem) (moves : List FilesystemMove) : FilesystemSystem :=
  moves.foldl (·.move t ·) s

end Moves

/-- After `filesystem_safety_init`, with the journal as it was attached and no call under way. -/
def filesystemSafetyStart (journal : AtaUndoJournal) (disk : DiskWorld) : FilesystemSystem where
  safety := ⟨⟨1, 0, 0, 0⟩, false, false, true, journal, disk⟩
  vfsOperationMutex := none
  mutations := []
  fences := []
  restores := []

end ReistOs
