import ReistOs.HolderStack

namespace ReistOs

open HolderStack

def terminalInputDepth : Nat := 8
def maxPrograms : Nat := 256
def supervisedProcessReserve : Nat := 1
def intMax : Int := 0x7fffffff
def inputQueueSize : Nat := 256

structure TerminalIdentity where
  pid : Int
  generation : UInt32
deriving DecidableEq

inductive ProcessDomainKind
  | compatibility
  | probe
  | storage
  | admin
  | componentAdmin
  | driver
  | audioService
  | maintenance
  | compositor
  | script
deriving DecidableEq

structure Process where
  pid : Int
  generation : UInt32
  parentPid : Int
  parentGeneration : UInt32
  imagePath : String
  isRunning : Bool
  hasExited : Bool
  terminating : Bool
  usesSharedProgramImage : Bool
  kind : ProcessDomainKind
deriving DecidableEq

def Process.identity (p : Process) : TerminalIdentity := ⟨p.pid, p.generation⟩

/-- A process that requests are taken from and input may be transferred to. -/
def Process.live (p : Process) : Bool := p.isRunning && !p.terminating && !p.hasExited

/-! The mediator. -/

structure TerminalInput where
  foreground : List TerminalIdentity
  consoleAttached : Bool
  inputQueue : List UInt8
deriving DecidableEq

structure TerminalInputRequest where
  version : UInt32
  structSize : UInt32
  operation : UInt32
  reserved : UInt32
  targetPid : Int
  targetGeneration : UInt32
deriving DecidableEq

def reistTerminalInputVersion : UInt32 := 1
def terminalInputRequestSize : UInt32 := 24
def reistTerminalAttachConsole : UInt32 := 1
def reistTerminalTransfer : UInt32 := 2
def reistTerminalRelease : UInt32 := 3
def reistTerminalAcquireService : UInt32 := 4
def reistTerminalCheck : UInt32 := 5

def shellImagePath : String := "/bin/shell.prg"

namespace TerminalInput

variable (s : TerminalInput)

def admitted (pid : Int) (generation : UInt32) : Bool :=
  match s.foreground.getLast? with
  | none => pid == 0 && generation == 0
  | some owner => pid == owner.pid && generation == owner.generation

def foregroundIndex (p : TerminalIdentity) : Option Nat := s.foreground.idxOf? p

def current (index : Option Nat) : Bool :=
  match index with
  | some i => i + 1 == s.foreground.length
  | none => false

/-- `index + 1`, where the index of an absent caller is -1. -/
def indexAfter (index : Option Nat) : Nat := index.elim 0 (· + 1)

/-- `kb_input_owner_changed_locked`: what was typed for one owner is not read by the next. -/
def ownerChanged : TerminalInput := { s with inputQueue := [] }

def attachConsole (caller : Process) : Int × TerminalInput :=
  if s.consoleAttached ∧ s.foregroundIndex caller.identity = some 0 then (0, s)
  else if caller.parentPid ≠ 0 ∨ caller.imagePath ≠ shellImagePath then (-13, s)
  else if s.foreground.length ≠ 0 then (-16, s)
  else (0, { s with foreground := [caller.identity], consoleAttached := true }.ownerChanged)

def transfer (caller target : Process) : Int × TerminalInput :=
  let index := s.foregroundIndex caller.identity
  let child := target.parentPid == caller.pid && target.parentGeneration == caller.generation
  let service := s.consoleAttached && index == some 0 && target.kind == .compositor
  if !child && !service then (-13, s)
  else match s.foregroundIndex target.identity with
  | some targetIndex =>
    if targetIndex = indexAfter index ∧ targetIndex + 1 = s.foreground.length then (0, s)
    else (-16, s)
  | none =>
    if !s.current index then (-13, s)
    else if s.foreground.length = terminalInputDepth then (-28, s)
    else (0, { s with foreground := s.foreground ++ [target.identity] }.ownerChanged)

def release (caller : Process) : Int × TerminalInput :=
  match s.foregroundIndex caller.identity with
  | none => (0, s)
  | some index =>
    if !s.current (some index) || (s.consoleAttached && index == 0) then (-13, s)
    else (0, { s with foreground := s.foreground.dropLast }.ownerChanged)

def acquireService (caller : Process) : Int × TerminalInput :=
  if caller.kind ≠ .compositor then (-13, s)
  else if s.current (s.foregroundIndex caller.identity) then (0, s)
  else if !s.consoleAttached || s.foreground.length != 1 then (-16, s)
  else (0, { s with foreground := s.foreground ++ [caller.identity] }.ownerChanged)

def check (caller : Process) : Int × TerminalInput :=
  if s.current (s.foregroundIndex caller.identity) then (0, s) else (-11, s)

/-- `terminal_input_control_locked` for a caller that exists. -/
def control (caller : Process) (target : Option Process) (request : TerminalInputRequest) :
    Int × TerminalInput :=
  if request.version ≠ reistTerminalInputVersion ∨
      request.structSize ≠ terminalInputRequestSize ∨ request.reserved ≠ 0 ∨
      request.operation < reistTerminalAttachConsole ∨
      reistTerminalCheck < request.operation then (-22, s)
  else if request.operation = reistTerminalTransfer then
    match target with
    | none => (-116, s)
    | some target =>
      if request.targetPid ≠ target.pid ∨ request.targetGeneration ≠ target.generation then
        (-116, s)
      else s.transfer caller target
  else if request.targetPid ≠ 0 ∨ request.targetGeneration ≠ 0 then (-22, s)
  else if request.operation = reistTerminalAttachConsole then s.attachConsole caller
  else if request.operation = reistTerminalRelease then s.release caller
  else if request.operation = reistTerminalAcquireService then s.acquireService caller
  else s.check caller

def processCleanup (p : TerminalIdentity) : TerminalInput :=
  match s.foregroundIndex p with
  | none => s
  | some index =>
    { s with
      foreground := s.foreground.take index
      consoleAttached := if index = 0 then false else s.consoleAttached }.ownerChanged

/-! The keyboard queue under the same lock. -/

def pushSequence (sequence : List UInt8) : Bool × TerminalInput :=
  if sequence.length = 0 ∨ inputQueueSize ≤ sequence.length then (false, s)
  else if inputQueueSize ≤ s.inputQueue.length + sequence.length then (false, s)
  else (true, { s with inputQueue := s.inputQueue ++ sequence })

def pop (pid : Int) (generation : UInt32) : UInt8 × TerminalInput :=
  if !s.admitted pid generation then (0, s)
  else match s.inputQueue with
  | [] => (0, s)
  | ch :: rest => (ch, { s with inputQueue := rest })

end TerminalInput

/-! The process table, as far as the mediator depends on it. -/

abbrev ProcessSlot := Fin maxPrograms

structure TerminalSystem where
  processes : ProcessSlot → Process
  nextPid : Int
  input : TerminalInput

namespace TerminalSystem

variable (s : TerminalSystem)

def setProcess (i : ProcessSlot) (p : Process) : TerminalSystem :=
  { s with processes := Function.update s.processes i p }

def scan (found : Process → Bool) : Option ProcessSlot :=
  (List.finRange maxPrograms).find? fun i => found (s.processes i)

def processTerminalInput (caller : Option ProcessSlot) (request : TerminalInputRequest) :
    Int × TerminalSystem :=
  match caller with
  | none => (-22, s)
  | some caller =>
    if !(s.processes caller).live then (-3, s)
    else
      let target := if request.operation = reistTerminalTransfer then
          s.scan fun p => p.live && p.pid == request.targetPid &&
            p.generation == request.targetGeneration
        else none
      let (result, input) :=
        s.input.control (s.processes caller) (target.map s.processes) request
      (result, { s with input })

def terminalInputProcessCleanup (p : TerminalIdentity) : TerminalSystem :=
  { s with input := s.input.processCleanup p }

/-- Cleanup in front of `terminating`, in one critical section. -/
def fenceExit (i : ProcessSlot) : TerminalSystem :=
  (s.terminalInputProcessCleanup (s.processes i).identity).setProcess i
    { s.processes i with terminating := true }

def processBeginExit (i : ProcessSlot) (generation : UInt32) : Bool × TerminalSystem :=
  let process := s.processes i
  if generation = 0 then (false, s)
  else if process.isRunning && !process.terminating && process.generation == generation then
    (true, s.fenceExit i)
  else (false, s)

/-- `process_terminate_generation` for another task than the current one; `reserved` is the
answer of `scheduler_reserve_termination_locked`. -/
def processTerminateGeneration (pid : Int) (generation : UInt32) (reserved : Bool) :
    Int × TerminalSystem :=
  if pid ≤ 0 then (-1, s)
  else match s.scan fun p => p.isRunning && !p.terminating && p.pid == pid &&
      (generation == 0 || p.generation == generation) with
  | none => (-1, s)
  | some i => if !reserved then (-1, s) else (0, s.fenceExit i)

/-- The last critical section of `task_exit_status` and `scheduler_terminate_task`, which
a task reaches only after its exit has begun. -/
def processExited (i : ProcessSlot) : TerminalSystem :=
  let process := s.processes i
  if process.isRunning && process.terminating then
    s.setProcess i { process with hasExited := true, isRunning := false, terminating := false }
  else s

def processWaitStatus (parent : ProcessSlot) (pid : Int) : Int × TerminalSystem :=
  if pid ≤ 0 then (-1, s)
  else match s.scan fun p => p.pid == pid && p.parentPid == (s.processes parent).pid with
  | none => (-1, s)
  | some i =>
    let child := s.processes i
    if child.isRunning then (0, s)
    else if !child.hasExited then (-1, s)
    else (1, s.setProcess i { child with hasExited := false, parentPid := 0 })

def orphaned (parentPid : Int) (p : Process) : Process :=
  if p.parentPid = parentPid then
    { p with parentPid := 0, hasExited := p.hasExited && p.isRunning }
  else p

def processOrphanChildren (parentPid : Int) : TerminalSystem :=
  if parentPid ≤ 0 then s
  else { s with processes := fun i => orphaned parentPid (s.processes i) }

def releaseProcessSlot (i : ProcessSlot) : TerminalSystem :=
  let process := s.processes i
  (s.terminalInputProcessCleanup process.identity).setProcess i
    { process with isRunning := false, terminating := false, usesSharedProgramImage := false }

def pidInUse (pid : Int) : Bool :=
  (s.scan fun p => (p.isRunning || p.hasExited) && p.pid == pid).isSome

def allocatePid : Nat → Int → Option Int × Int
  | 0, nextPid => (none, nextPid)
  | attempts + 1, nextPid =>
    let following := if nextPid = intMax then 1 else nextPid + 1
    if s.pidInUse nextPid then allocatePid attempts following else (some nextPid, following)

def slotFree (p : Process) : Bool :=
  !p.isRunning && !(p.hasExited && decide (0 < p.parentPid)) && p.generation != 0xffffffff

def claimedProcess (p : Process) (pid : Int) (sharedImage : Bool) (parentPid : Int)
    (parentGeneration : UInt32) (kind : ProcessDomainKind) : Process :=
  { p with
    pid := pid
    generation := p.generation + 1
    parentPid := parentPid
    parentGeneration := parentGeneration
    hasExited := false
    terminating := false
    usesSharedProgramImage := sharedImage
    kind := kind
    imagePath := ""
    isRunning := true }

def claimProcessSlot (sharedImage : Bool) (parentPid : Int) (parentGeneration : UInt32)
    (supervised : Bool) (kind : ProcessDomainKind) : Int × TerminalSystem :=
  let freeSlots := (List.finRange maxPrograms).countP fun i => slotFree (s.processes i)
  if sharedImage && (s.scan fun p => p.isRunning && p.usesSharedProgramImage).isSome then (-2, s)
  else if freeSlots = 0 ∨ (!supervised ∧ freeSlots ≤ supervisedProcessReserve) then (-1, s)
  else match s.scan slotFree with
  | none => (-1, s)
  | some i =>
    match s.allocatePid (maxPrograms + 1) s.nextPid with
    | (none, nextPid) => (-1, { s with nextPid := nextPid })
    | (some pid, nextPid) =>
      ((i : Nat), { s with nextPid := nextPid }.setProcess i
        (claimedProcess (s.processes i) pid sharedImage parentPid parentGeneration kind))

/-- `create_process_for_file_args_owned` names the image after the slot was claimed. -/
def setImagePath (i : ProcessSlot) (path : String) : TerminalSystem :=
  s.setProcess i { s.processes i with imagePath := path }

/-- `process_restrict_script`; `allowed` is its answer to the profile checks. -/
def processRestrictScript (i : ProcessSlot) (allowed : Bool) : Int × TerminalSystem :=
  let process := s.processes i
  if !process.live || process.generation == 0 || !allowed ||
      (process.kind != .compatibility && process.kind != .script) then (-13, s)
  else (0, s.setProcess i { process with kind := .script })

def inputQueuePushSequence (sequence : List UInt8) : Bool × TerminalSystem :=
  let (pushed, input) := s.input.pushSequence sequence
  (pushed, { s with input })

def inputQueuePop (reader : Option ProcessSlot) : UInt8 × TerminalSystem :=
  let (ch, input) := match reader with
    | none => s.input.pop 0 0
    | some i => s.input.pop (s.processes i).pid (s.processes i).generation
  (ch, { s with input })

end TerminalSystem

/-- One critical section of any task, at any time. -/
inductive TerminalEvent
  | request (caller : Option ProcessSlot) (request : TerminalInputRequest)
  | beginExit (i : ProcessSlot) (generation : UInt32)
  | terminate (pid : Int) (generation : UInt32) (reserved : Bool)
  | exited (i : ProcessSlot)
  | waitStatus (parent : ProcessSlot) (pid : Int)
  | orphanChildren (parentPid : Int)
  | releaseSlot (i : ProcessSlot)
  | claimSlot (sharedImage : Bool) (parentPid : Int) (parentGeneration : UInt32)
      (supervised : Bool) (kind : ProcessDomainKind)
  | setImagePath (i : ProcessSlot) (path : String)
  | restrictScript (i : ProcessSlot) (allowed : Bool)
  | pushSequence (sequence : List UInt8)
  | pop (reader : Option ProcessSlot)

def TerminalSystem.step (s : TerminalSystem) : TerminalEvent → TerminalSystem
  | .request caller request => (s.processTerminalInput caller request).2
  | .beginExit i generation => (s.processBeginExit i generation).2
  | .terminate pid generation reserved => (s.processTerminateGeneration pid generation reserved).2
  | .exited i => s.processExited i
  | .waitStatus parent pid => (s.processWaitStatus parent pid).2
  | .orphanChildren parentPid => s.processOrphanChildren parentPid
  | .releaseSlot i => s.releaseProcessSlot i
  | .claimSlot sharedImage parentPid parentGeneration supervised kind =>
    (s.claimProcessSlot sharedImage parentPid parentGeneration supervised kind).2
  | .setImagePath i path => s.setImagePath i path
  | .restrictScript i allowed => (s.processRestrictScript i allowed).2
  | .pushSequence sequence => (s.inputQueuePushSequence sequence).2
  | .pop reader => (s.inputQueuePop reader).2

def TerminalSystem.run (s : TerminalSystem) (events : List TerminalEvent) : TerminalSystem :=
  events.foldl TerminalSystem.step s

def emptyProcess : Process :=
  { pid := 0, generation := 0, parentPid := 0, parentGeneration := 0, imagePath := ""
    isRunning := false, hasExited := false, terminating := false
    usesSharedProgramImage := false, kind := .compatibility }

def terminalSystemStart : TerminalSystem :=
  { processes := fun _ => emptyProcess, nextPid := 1
    input := { foreground := [], consoleAttached := false, inputQueue := [] } }

end ReistOs
