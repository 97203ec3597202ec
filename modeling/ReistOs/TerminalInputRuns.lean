import ReistOs.TerminalInputAuthority

namespace ReistOs

open HolderStack

/-! What a request and a cleanup do to the stack. -/

section Control

variable {s : TerminalInput} {caller : Process} {targets : Option Process}
  {operation : UInt32} {out : Int × TerminalInput} {x : TerminalIdentity}

section

variable (h : ControlOutcome s caller targets operation out)
include h

theorem ControlOutcome.move (hs : s.foreground.Nodup) :
    Move terminalInputDepth s.foreground out.2.foreground := by
  cases h with
  | refused result hr => exact .keep
  | kept => exact .keep
  | granted p attached who grant fresh room console => exact .grant _ fresh room
  | released top above =>
    have hr := removeFrom_top hs top
    exact hr ▸ Move.remove caller.identity

theorem ControlOutcome.refusal (hr : out.1 ≠ 0) : out.2 = s := by
  cases h with
  | refused result hne => rfl
  | kept => exact absurd rfl hr
  | granted p attached who grant fresh room console => exact absurd rfl hr
  | released top above => exact absurd rfl hr

theorem ControlOutcome.removed (hx : x ∈ s.foreground) (hout : x ∉ out.2.foreground) :
    x = caller.identity := by
  cases h with
  | refused result hr => exact absurd hx hout
  | kept => exact absurd hx hout
  | granted p attached who grant fresh room console =>
    exact absurd (List.mem_append_left _ hx) hout
  | released top above =>
    obtain ⟨below, hbelow⟩ := List.getLast?_eq_some_iff.mp top
    rw [hbelow] at hx
    rcases List.mem_append.mp hx with hb | hb
    · exact absurd (by simpa [hbelow] using hb) hout
    · exact List.mem_singleton.mp hb

theorem ControlOutcome.put (hout : out.2.foreground = s.foreground ++ [x]) :
    ∃ p : Process, (p = caller ∨ targets = some p) ∧ x = p.identity ∧
      TerminalGrant s caller p operation := by
  have hlen : out.2.foreground.length = s.foreground.length + 1 := by
    rw [hout, List.length_append, List.length_singleton]
  cases h with
  | refused result hr => simp at hlen
  | kept => simp at hlen
  | granted p attached who grant fresh room console =>
    have hx : p.identity = x := by simpa using hout
    exact ⟨p, who, hx.symm, grant⟩
  | released top above =>
    simp only [List.length_dropLast] at hlen
    omega

theorem ControlOutcome.consoleKnown (hs : s.ConsoleKnown) : out.2.ConsoleKnown := by
  cases h with
  | refused result hr => exact hs
  | kept => exact hs
  | granted p attached who grant fresh room console =>
    have hattached : attached = true := by
      rcases console with h | ⟨h, hne⟩
      · exact h
      · rw [h]
        exact hs.mpr hne
    simp [TerminalInput.ConsoleKnown, hattached]
  | released top above =>
    have hne : s.foreground ≠ [] := List.ne_nil_of_mem top.mem
    have hattached := hs.mpr hne
    have hlen := above hattached
    have hrest : s.foreground.dropLast ≠ [] := by
      apply List.ne_nil_of_length_pos
      rw [List.length_dropLast]
      omega
    simp [TerminalInput.ConsoleKnown, hattached, hrest]

end

theorem processCleanup_foreground (s : TerminalInput) (p : TerminalIdentity) :
    (s.processCleanup p).foreground = removeFrom p s.foreground := by
  unfold TerminalInput.processCleanup
  split
  next h => exact (removeFrom_of_not_mem (TerminalInput.foregroundIndex_none h)).symm
  next index h => exact take_of_idxOf? h

theorem processCleanup_consoleKnown (hs : s.ConsoleKnown) (p : TerminalIdentity) :
    (s.processCleanup p).ConsoleKnown := by
  unfold TerminalInput.processCleanup
  split
  next => exact hs
  next index h =>
    have hne : s.foreground ≠ [] := List.ne_nil_of_mem (mem_of_idxOf? h)
    have hattached := hs.mpr hne
    by_cases hindex : index = 0
    · simp [TerminalInput.ConsoleKnown, TerminalInput.ownerChanged, hindex]
    · simp [TerminalInput.ConsoleKnown, TerminalInput.ownerChanged, hindex, hattached, hne]

end Control

/-! The table keeps every identity on the stack alive. -/

def Process.used (p : Process) : Prop := p.isRunning = true ∨ p.hasExited = true

theorem Process.live_running {p : Process} (h : p.live = true) : p.isRunning = true := by
  simp only [Process.live, Bool.and_eq_true] at h
  exact h.1.1

def TerminalSystem.Holds (s : TerminalSystem) (x : TerminalIdentity) : Prop :=
  ∃ i, (s.processes i).live = true ∧ (s.processes i).identity = x

structure TerminalSound (s : TerminalSystem) : Prop where
  stack : Sound terminalInputDepth s.Holds s.input.foreground
  console : s.input.ConsoleKnown
  pids : ∀ i j, (s.processes i).used → (s.processes j).used →
    (s.processes i).pid = (s.processes j).pid → i = j
  positive : ∀ i, (s.processes i).used → 0 < (s.processes i).pid
  next : 0 < s.nextPid

section Table

variable {s : TerminalSystem} {i j : ProcessSlot} {p : Process}

@[simp] theorem setProcess_self : (s.setProcess i p).processes i = p := by
  simp [TerminalSystem.setProcess]

theorem setProcess_other (h : j ≠ i) : (s.setProcess i p).processes j = s.processes j := by
  simp [TerminalSystem.setProcess, h]

variable {found : Process → Bool} {s' : TerminalSystem} {generation : UInt32} {x : TerminalIdentity}
  {caller : Option ProcessSlot}

theorem scan_spec (h : s.scan found = some i) :
    found (s.processes i) = true := by
  unfold TerminalSystem.scan at h
  have hfound := List.find?_some h
  exact hfound

theorem scan_none (h : s.scan found = none) (i : ProcessSlot) :
    found (s.processes i) = false := by
  have hi := List.find?_eq_none.mp h i (List.mem_finRange i)
  simpa using hi

theorem terminalSystemStart_sound : TerminalSound terminalSystemStart := by
  have hunused : ∀ i, ¬ (terminalSystemStart.processes i).used := by
    intro i
    simp [Process.used, terminalSystemStart, emptyProcess]
  have hstack : Sound terminalInputDepth terminalSystemStart.Holds
      terminalSystemStart.input.foreground :=
    ⟨List.nodup_nil, Nat.zero_le _, fun x hx => absurd hx List.not_mem_nil⟩
  have hconsole : terminalSystemStart.input.ConsoleKnown := by
    simp [TerminalInput.ConsoleKnown, terminalSystemStart]
  exact ⟨hstack, hconsole, fun i j hi => absurd hi (hunused i),
    fun i hi => absurd hi (hunused i), by decide⟩

theorem TerminalSound.setProcess (h : TerminalSound s)
    (hused : p.used → (s.processes i).used ∧ p.pid = (s.processes i).pid)
    (hlive : (s.processes i).identity ∈ s.input.foreground → (s.processes i).live = true →
      p.live = true ∧ p.identity = (s.processes i).identity) :
    TerminalSound (s.setProcess i p) := by
  have hslots : ∀ j, ((s.setProcess i p).processes j).used →
      (s.processes j).used ∧ ((s.setProcess i p).processes j).pid = (s.processes j).pid := by
    intro j hj
    by_cases hji : j = i
    · subst hji
      rw [setProcess_self] at hj ⊢
      exact hused hj
    · rw [setProcess_other hji] at hj ⊢
      exact ⟨hj, rfl⟩
  have hstack : Sound terminalInputDepth (s.setProcess i p).Holds s.input.foreground := by
    refine h.stack.mono fun x hx hholds => ?_
    obtain ⟨j, hj, hjx⟩ := hholds
    by_cases hji : j = i
    · subst hji
      obtain ⟨hl, he⟩ := hlive (hjx ▸ hx) hj
      exact ⟨j, by simpa using hl, by simpa [he] using hjx⟩
    · exact ⟨j, by rwa [setProcess_other hji], by rwa [setProcess_other hji]⟩
  refine ⟨hstack, h.console, ?_, ?_, h.next⟩
  · intro a b ha hb hab
    obtain ⟨ha', hpa⟩ := hslots a ha
    obtain ⟨hb', hpb⟩ := hslots b hb
    exact h.pids a b ha' hb' (by rw [← hpa, ← hpb, hab])
  · intro a ha
    obtain ⟨ha', hpa⟩ := hslots a ha
    rw [hpa]
    exact h.positive a ha'

theorem TerminalSound.setInput (h : TerminalSound s) {input : TerminalInput}
    (hstack : Sound terminalInputDepth s.Holds input.foreground)
    (hconsole : input.ConsoleKnown) : TerminalSound { s with input } :=
  ⟨hstack, hconsole, h.pids, h.positive, h.next⟩

theorem TerminalSound.cleanup (h : TerminalSound s) (x : TerminalIdentity) :
    TerminalSound (s.terminalInputProcessCleanup x) := by
  have hstack : Sound terminalInputDepth s.Holds (s.input.processCleanup x).foreground := by
    rw [processCleanup_foreground]
    exact h.stack.remove x
  exact h.setInput hstack (processCleanup_consoleKnown h.console x)

theorem TerminalSound.cleanedProcess (h : TerminalSound s)
    (hused : p.used → (s.processes i).used ∧ p.pid = (s.processes i).pid) :
    TerminalSound ((s.terminalInputProcessCleanup (s.processes i).identity).setProcess i p) := by
  have hc := h.cleanup (s.processes i).identity
  refine hc.setProcess hused fun hm => ?_
  have hgone : (s.processes i).identity ∈ removeFrom (s.processes i).identity
      s.input.foreground := by
    rw [← processCleanup_foreground]
    exact hm
  exact absurd rfl (mem_removeFrom hgone).2

theorem TerminalSound.fenceExit (h : TerminalSound s) (i : ProcessSlot) :
    TerminalSound (s.fenceExit i) :=
  h.cleanedProcess fun hu => ⟨hu, rfl⟩

theorem allocatePid_spec {attempts : Nat} {next following : Int} {pid : Option Int}
    (hnext : 0 < next) (h : s.allocatePid attempts next = (pid, following)) :
    0 < following ∧ ∀ q, pid = some q → 0 < q ∧ ∀ j, (s.processes j).used →
      (s.processes j).pid ≠ q := by
  induction attempts generalizing next with
  | zero =>
    cases h
    exact ⟨hnext, fun q hq => by simp at hq⟩
  | succ attempts ih =>
    unfold TerminalSystem.allocatePid at h
    dsimp only at h
    have hfollowing : (0 : Int) < if next = intMax then 1 else next + 1 := by
      split
      next => decide
      next => omega
    split at h
    next => exact ih hfollowing h
    next hfree =>
      cases h
      refine ⟨hfollowing, fun q hq => ?_⟩
      cases hq
      refine ⟨hnext, fun j hj hpid => ?_⟩
      have hnone : s.scan (fun p => (p.isRunning || p.hasExited) && p.pid == next) = none := by
        simpa [TerminalSystem.pidInUse] using hfree
      have hunused := scan_none hnone j
      rcases hj with hr | he
      · simp [hr, hpid] at hunused
      · simp [he, hpid] at hunused

theorem TerminalSound.withNext (h : TerminalSound s) {next : Int} (hn : 0 < next) :
    TerminalSound { s with nextPid := next } :=
  ⟨h.stack, h.console, h.pids, h.positive, hn⟩

theorem slotFree_not_running {p : Process} (h : TerminalSystem.slotFree p = true) :
    p.isRunning = false ∧ p.generation ≠ 0xffffffff := by
  simp only [TerminalSystem.slotFree, Bool.and_eq_true] at h
  exact ⟨by simpa using h.1.1, by simpa using h.2⟩

theorem TerminalSound.claimed (h : TerminalSound s) (hrun : (s.processes i).isRunning = false)
    (hpos : 0 < p.pid) (hfresh : ∀ j, (s.processes j).used → (s.processes j).pid ≠ p.pid) :
    TerminalSound (s.setProcess i p) := by
  have hstack : Sound terminalInputDepth (s.setProcess i p).Holds s.input.foreground := by
    refine h.stack.mono fun x hx hholds => ?_
    obtain ⟨j, hj, hjx⟩ := hholds
    have hji : j ≠ i := by
      intro e
      have hr := Process.live_running hj
      rw [e, hrun] at hr
      exact absurd hr (by decide)
    exact ⟨j, by rwa [setProcess_other hji], by rwa [setProcess_other hji]⟩
  refine ⟨hstack, h.console, ?_, ?_, h.next⟩
  · intro a b ha hb hab
    by_cases hai : a = i
    · by_cases hbi : b = i
      · rw [hai, hbi]
      · rw [hai, setProcess_self, setProcess_other hbi] at hab
        rw [setProcess_other hbi] at hb
        exact absurd hab.symm (hfresh b hb)
    · by_cases hbi : b = i
      · rw [hbi, setProcess_self, setProcess_other hai] at hab
        rw [setProcess_other hai] at ha
        exact absurd hab (hfresh a ha)
      · rw [setProcess_other hai] at ha hab
        rw [setProcess_other hbi] at hb hab
        exact h.pids a b ha hb hab
  · intro a ha
    by_cases hai : a = i
    · rw [hai, setProcess_self]
      exact hpos
    · rw [setProcess_other hai] at ha ⊢
      exact h.positive a ha

/-! Every event keeps the table sound, and no slot goes back to an earlier process. -/

def Process.Ages (p q : Process) : Prop :=
  p.generation < q.generation ∨ q.generation = p.generation ∧ (q.live = true → p.live = true)

theorem Process.Ages.refl (p : Process) : p.Ages p := .inr ⟨rfl, id⟩

structure TerminalKept (s s' : TerminalSystem) : Prop where
  sound : TerminalSound s'
  ages : ∀ i, (s.processes i).Ages (s'.processes i)

theorem TerminalKept.same (h : TerminalSound s) : TerminalKept s s :=
  ⟨h, fun i => .refl _⟩

theorem TerminalKept.set (hs : TerminalSound s')
    (hprocesses : s'.processes = Function.update s.processes i p) (hages : (s.processes i).Ages p) :
    TerminalKept s s' := by
  refine ⟨hs, fun j => ?_⟩
  rw [hprocesses]
  by_cases hji : j = i
  · rw [hji, Function.update_self]
    exact hages
  · rw [Function.update_of_ne hji]
    exact .refl _

theorem TerminalKept.input (hs : TerminalSound s') (hprocesses : s'.processes = s.processes) :
    TerminalKept s s' :=
  ⟨hs, fun i => hprocesses ▸ .refl _⟩

theorem fenceExit_kept (h : TerminalSound s) (i : ProcessSlot) :
    TerminalKept s (s.fenceExit i) := by
  have hages : (s.processes i).Ages { s.processes i with terminating := true } :=
    .inr ⟨rfl, fun hl => absurd hl (by simp [Process.live])⟩
  exact .set (h.fenceExit i) rfl hages

theorem processBeginExit_kept (h : TerminalSound s) (i : ProcessSlot) (generation : UInt32) :
    TerminalKept s (s.processBeginExit i generation).2 := by
  unfold TerminalSystem.processBeginExit
  dsimp only
  split
  next => exact .same h
  next =>
    split
    next => exact fenceExit_kept h i
    next => exact .same h

theorem processTerminateGeneration_kept (h : TerminalSound s) (pid : Int)
    (generation : UInt32) (reserved : Bool) :
    TerminalKept s (s.processTerminateGeneration pid generation reserved).2 := by
  unfold TerminalSystem.processTerminateGeneration
  split
  next => exact .same h
  next =>
    split
    next => exact .same h
    next i _ =>
      split
      next => exact .same h
      next => exact fenceExit_kept h i

theorem processExited_kept (h : TerminalSound s) (i : ProcessSlot) :
    TerminalKept s (s.processExited i) := by
  unfold TerminalSystem.processExited
  dsimp only
  split
  next hexit =>
    have hexit' : (s.processes i).isRunning = true ∧ (s.processes i).terminating = true := by
      simpa using hexit
    have hdead : (s.processes i).live = false := by simp [Process.live, hexit'.2]
    have hs := h.setProcess (i := i) (p := { s.processes i with
        hasExited := true, isRunning := false, terminating := false })
      (fun _ => ⟨.inl hexit'.1, rfl⟩)
      (fun _ hl => absurd hl (by simp [hdead]))
    exact .set hs rfl (.inr ⟨rfl, fun hl => absurd hl (by simp [Process.live])⟩)
  next => exact .same h

theorem processWaitStatus_kept (h : TerminalSound s) (parent : ProcessSlot) (pid : Int) :
    TerminalKept s (s.processWaitStatus parent pid).2 := by
  unfold TerminalSystem.processWaitStatus
  split
  next => exact .same h
  next =>
    split
    next => exact .same h
    next i _ =>
      dsimp only
      split
      next => exact .same h
      next hrun =>
        split
        next => exact .same h
        next =>
          have hdead : (s.processes i).live = false := by
            simp [Process.live, hrun]
          have hs := h.setProcess (i := i) (p := { s.processes i with
              hasExited := false, parentPid := 0 })
            (fun hu => by simp [Process.used, hrun] at hu)
            (fun _ hl => absurd hl (by simp [hdead]))
          exact .set hs rfl (.inr ⟨rfl, fun hl => absurd hl (by simp [Process.live, hrun])⟩)

theorem orphaned_live (parentPid : Int) (p : Process) :
    (TerminalSystem.orphaned parentPid p).live = p.live := by
  unfold TerminalSystem.orphaned
  split
  next => cases hr : p.isRunning <;> simp [Process.live, hr]
  next => rfl

theorem orphaned_identity (parentPid : Int) (p : Process) :
    (TerminalSystem.orphaned parentPid p).identity = p.identity := by
  unfold TerminalSystem.orphaned
  split <;> rfl

theorem orphaned_used (parentPid : Int) (p : Process)
    (h : (TerminalSystem.orphaned parentPid p).used) : p.used := by
  unfold TerminalSystem.orphaned at h
  split at h
  next =>
    rcases h with h | h
    · exact .inl h
    · have hboth : p.hasExited = true ∧ p.isRunning = true := by simpa using h
      exact .inr hboth.1
  next => exact h

theorem processOrphanChildren_kept (h : TerminalSound s) (parentPid : Int) :
    TerminalKept s (s.processOrphanChildren parentPid) := by
  unfold TerminalSystem.processOrphanChildren
  split
  next => exact .same h
  next =>
    have hpid : ∀ i, (TerminalSystem.orphaned parentPid (s.processes i)).pid =
        (s.processes i).pid := fun i =>
      congrArg TerminalIdentity.pid (orphaned_identity parentPid (s.processes i))
    have hgen : ∀ i, (TerminalSystem.orphaned parentPid (s.processes i)).generation =
        (s.processes i).generation := fun i =>
      congrArg TerminalIdentity.generation (orphaned_identity parentPid (s.processes i))
    have hstack : Sound terminalInputDepth (TerminalSystem.Holds
        { s with processes := fun i => TerminalSystem.orphaned parentPid (s.processes i) })
        s.input.foreground := by
      refine h.stack.mono fun x hx hholds => ?_
      obtain ⟨i, hi, hix⟩ := hholds
      exact ⟨i, by rwa [orphaned_live], by rwa [orphaned_identity]⟩
    refine ⟨⟨hstack, h.console, ?_, ?_, h.next⟩, ?_⟩
    · intro i j hi hj hij
      have hsame : (s.processes i).pid = (s.processes j).pid := by
        rw [← hpid i, ← hpid j]
        exact hij
      exact h.pids i j (orphaned_used _ _ hi) (orphaned_used _ _ hj) hsame
    · intro i hi
      have hp := h.positive i (orphaned_used _ _ hi)
      rw [← hpid i] at hp
      exact hp
    · intro i
      refine .inr ⟨hgen i, fun hl => ?_⟩
      rwa [orphaned_live] at hl

theorem releaseProcessSlot_kept (h : TerminalSound s) (i : ProcessSlot) :
    TerminalKept s (s.releaseProcessSlot i) := by
  have hs := h.cleanedProcess (i := i) (p := { s.processes i with
      isRunning := false, terminating := false, usesSharedProgramImage := false })
    (fun hu => ⟨by simpa [Process.used] using Or.inr hu, rfl⟩)
  exact .set hs rfl (.inr ⟨rfl, fun hl => absurd hl (by simp [Process.live])⟩)

theorem claimProcessSlot_kept (h : TerminalSound s) (sharedImage : Bool) (parentPid : Int)
    (parentGeneration : UInt32) (supervised : Bool) (kind : ProcessDomainKind) :
    TerminalKept s
      (s.claimProcessSlot sharedImage parentPid parentGeneration supervised kind).2 := by
  unfold TerminalSystem.claimProcessSlot
  dsimp only
  split
  next => exact .same h
  next =>
    split
    next => exact .same h
    next =>
      split
      next => exact .same h
      next i hi =>
        obtain ⟨hrun, hgen⟩ := slotFree_not_running (scan_spec hi)
        split
        next nextPid hp =>
          exact .input (h.withNext (allocatePid_spec h.next hp).1) rfl
        next pid nextPid hp =>
          obtain ⟨hnext, hpid⟩ := allocatePid_spec h.next hp
          obtain ⟨hpos, hfresh⟩ := hpid pid rfl
          have hs := (h.withNext hnext).claimed (i := i)
            (p := TerminalSystem.claimedProcess (s.processes i) pid sharedImage parentPid
              parentGeneration kind) hrun hpos hfresh
          refine .set hs rfl (.inl ?_)
          show (s.processes i).generation < (s.processes i).generation + 1
          rw [UInt32.lt_iff_toNat_lt, UInt32.toNat_add]
          have hmax : (s.processes i).generation.toNat ≠ 0xffffffff := by
            intro e
            exact hgen (UInt32.toNat_inj.mp e)
          have hlt := (s.processes i).generation.toNat_lt
          simp only [UInt32.reduceToNat]
          omega

theorem setImagePath_kept (h : TerminalSound s) (i : ProcessSlot) (path : String) :
    TerminalKept s (s.setImagePath i path) := by
  have hs := h.setProcess (i := i) (p := { s.processes i with imagePath := path })
    (fun hu => ⟨hu, rfl⟩) (fun _ hl => ⟨hl, rfl⟩)
  exact .set hs rfl (.inr ⟨rfl, id⟩)

theorem processRestrictScript_kept (h : TerminalSound s) (i : ProcessSlot) (allowed : Bool) :
    TerminalKept s (s.processRestrictScript i allowed).2 := by
  unfold TerminalSystem.processRestrictScript
  dsimp only
  split
  next => exact .same h
  next =>
    have hs := h.setProcess (i := i) (p := { s.processes i with kind := .script })
      (fun hu => ⟨hu, rfl⟩) (fun _ hl => ⟨hl, rfl⟩)
    exact .set hs rfl (.inr ⟨rfl, id⟩)

theorem processTerminalInput_cases (s : TerminalSystem) (caller : Option ProcessSlot)
    (request : TerminalInputRequest) :
    (∃ result, result ≠ 0 ∧ s.processTerminalInput caller request = (result, s)) ∨
    ∃ i targets, caller = some i ∧ (s.processes i).live = true ∧
      (∀ p, targets = some p → ∃ j, (s.processes j).live = true ∧ s.processes j = p) ∧
      s.processTerminalInput caller request =
        ((s.input.control (s.processes i) targets request).1,
          { s with input := (s.input.control (s.processes i) targets request).2 }) := by
  cases caller with
  | none => exact .inl ⟨-22, by decide, rfl⟩
  | some i =>
    by_cases hlive : (s.processes i).live = true
    · refine .inr ⟨i, _, rfl, hlive, ?_, by simp only [TerminalSystem.processTerminalInput, hlive]; rfl⟩
      intro p hp
      obtain ⟨j, hj, hjp⟩ := Option.map_eq_some_iff.mp hp
      split at hj
      next =>
        have hfound := scan_spec hj
        simp only [Bool.and_eq_true] at hfound
        exact ⟨j, hfound.1.1, hjp⟩
      next => simp at hj
    · exact .inl ⟨-3, by decide, by simp [TerminalSystem.processTerminalInput, hlive]⟩

theorem processTerminalInput_kept (h : TerminalSound s) (caller : Option ProcessSlot)
    (request : TerminalInputRequest) :
    TerminalKept s (s.processTerminalInput caller request).2 := by
  rcases processTerminalInput_cases s caller request with
    ⟨result, hr, he⟩ | ⟨i, targets, hc, hlive, htargets, he⟩
  · rw [he]
    exact .same h
  · rw [he]
    have hout : ControlOutcome s.input (s.processes i) targets _ _ :=
      TerminalInput.control_outcome h.stack.bounded request
    have hholds : ∀ x, (s.input.control (s.processes i) targets request).2.foreground =
        s.input.foreground ++ [x] → s.Holds x := by
      intro x hx
      obtain ⟨p, hp, hxp, -⟩ := hout.put hx
      rcases hp with hp | hp
      · exact ⟨i, hlive, by rw [hxp, hp]⟩
      · obtain ⟨j, hj, hjp⟩ := htargets p hp
        exact ⟨j, hj, by rw [hxp, hjp]⟩
    have hmove := hout.move h.stack.nodup
    have hstack := hmove.sound h.stack hholds
    exact .input (h.setInput hstack (hout.consoleKnown h.console)) rfl

theorem pushSequence_foreground (s : TerminalInput) (sequence : List UInt8) :
    (s.pushSequence sequence).2.foreground = s.foreground ∧
      (s.pushSequence sequence).2.consoleAttached = s.consoleAttached := by
  unfold TerminalInput.pushSequence
  split
  next => exact ⟨rfl, rfl⟩
  next => split <;> exact ⟨rfl, rfl⟩

theorem pop_foreground (s : TerminalInput) (pid : Int) (generation : UInt32) :
    (s.pop pid generation).2.foreground = s.foreground ∧
      (s.pop pid generation).2.consoleAttached = s.consoleAttached := by
  unfold TerminalInput.pop
  split
  next => exact ⟨rfl, rfl⟩
  next => split <;> exact ⟨rfl, rfl⟩

theorem inputQueuePop_input (s : TerminalSystem) (reader : Option ProcessSlot) :
    (s.inputQueuePop reader).2.input.foreground = s.input.foreground ∧
      (s.inputQueuePop reader).2.input.consoleAttached = s.input.consoleAttached := by
  cases reader with
  | none => exact pop_foreground s.input 0 0
  | some i => exact pop_foreground s.input _ _

theorem TerminalSound.sameStack (h : TerminalSound s) {input : TerminalInput}
    (hi : input.foreground = s.input.foreground ∧
      input.consoleAttached = s.input.consoleAttached) : TerminalSound { s with input } := by
  have hstack : Sound terminalInputDepth s.Holds input.foreground := by
    rw [hi.1]
    exact h.stack
  have hconsole : input.ConsoleKnown := by
    unfold TerminalInput.ConsoleKnown
    rw [hi.1, hi.2]
    exact h.console
  exact h.setInput hstack hconsole

theorem terminalStep_kept (h : TerminalSound s) (event : TerminalEvent) :
    TerminalKept s (s.step event) := by
  cases event with
  | request caller request => exact processTerminalInput_kept h caller request
  | beginExit i generation => exact processBeginExit_kept h i generation
  | terminate pid generation reserved =>
    exact processTerminateGeneration_kept h pid generation reserved
  | exited i => exact processExited_kept h i
  | waitStatus parent pid => exact processWaitStatus_kept h parent pid
  | orphanChildren parentPid => exact processOrphanChildren_kept h parentPid
  | releaseSlot i => exact releaseProcessSlot_kept h i
  | claimSlot sharedImage parentPid parentGeneration supervised kind =>
    exact claimProcessSlot_kept h sharedImage parentPid parentGeneration supervised kind
  | setImagePath i path => exact setImagePath_kept h i path
  | restrictScript i allowed => exact processRestrictScript_kept h i allowed
  | pushSequence sequence =>
    exact .input (h.sameStack (pushSequence_foreground s.input sequence)) rfl
  | pop reader => exact .input (h.sameStack (inputQueuePop_input s reader)) rfl

theorem terminalRun_sound (h : TerminalSound s) (events : List TerminalEvent) :
    TerminalSound (s.run events) := by
  induction events generalizing s with
  | nil => exact h
  | cons event events ih => exact ih (terminalStep_kept h event).sound

/-- The process that had this slot under this generation is gone. -/
def InstanceEnded (s : TerminalSystem) (i : ProcessSlot) (generation : UInt32) : Prop :=
  generation < (s.processes i).generation ∨
    generation = (s.processes i).generation ∧ (s.processes i).live = false

theorem InstanceEnded.step (h : InstanceEnded s i generation) (hs : TerminalSound s)
    (event : TerminalEvent) :
    InstanceEnded (s.step event) i generation := by
  rcases (terminalStep_kept hs event).ages i with hlater | ⟨hsame, hlive⟩
  · rcases h with h | ⟨h, -⟩
    · exact .inl (UInt32.lt_trans h hlater)
    · exact .inl (h ▸ hlater)
  · rcases h with h | ⟨h, hdead⟩
    · exact .inl (hsame ▸ h)
    · have hdead' : ((s.step event).processes i).live = false := by
        cases hl : ((s.step event).processes i).live with
        | false => rfl
        | true => exact absurd (hlive hl) (by simp [hdead])
      exact .inr ⟨h.trans hsame.symm, hdead'⟩

theorem InstanceEnded.run (h : InstanceEnded s i generation) (hs : TerminalSound s)
    (events : List TerminalEvent) :
    InstanceEnded (s.run events) i generation := by
  induction events generalizing s with
  | nil => exact h
  | cons event events ih =>
    exact ih (h.step hs event) (terminalStep_kept hs event).sound

theorem TerminalSound.holder (h : TerminalSound s) (hx : x ∈ s.input.foreground) :
    ∃ i, (s.processes i).live = true ∧ (s.processes i).identity = x ∧
      ∀ j, (s.processes j).used → (s.processes j).pid = x.pid → j = i := by
  obtain ⟨i, hi, hix⟩ := h.stack.live x hx
  refine ⟨i, hi, hix, fun j hj hjx => ?_⟩
  have hpid : (s.processes j).pid = (s.processes i).pid := by
    rw [hjx, ← hix]
    rfl
  exact h.pids j i hj (.inl (Process.live_running hi)) hpid

theorem admitted_iff (s : TerminalInput) (pid : Int) (generation : UInt32) :
    s.admitted pid generation = true ↔ OnTop s.foreground ⟨pid, generation⟩ ∨
      s.foreground = [] ∧ pid = 0 ∧ generation = 0 := by
  unfold TerminalInput.admitted OnTop
  split
  next h =>
    have hempty : s.foreground = [] := List.getLast?_eq_none_iff.mp h
    simp [hempty]
  next owner h =>
    have hne : s.foreground ≠ [] := List.ne_nil_of_mem (List.mem_of_getLast? h)
    have howner : owner = ⟨pid, generation⟩ ↔
        pid = owner.pid ∧ generation = owner.generation := by
      constructor
      · rintro rfl
        exact ⟨rfl, rfl⟩
      · rintro ⟨rfl, rfl⟩
        rfl
    simp [h, hne, howner]

theorem terminalInputProcessCleanup_foreground (s : TerminalSystem) (x : TerminalIdentity) :
    (s.terminalInputProcessCleanup x).input.foreground = removeFrom x s.input.foreground :=
  processCleanup_foreground s.input x

def Shrinks (s t : List TerminalIdentity) : Prop := t = s ∨ ∃ x, t = removeFrom x s

theorem Shrinks.move {a b : List TerminalIdentity} (h : Shrinks a b) :
    Move terminalInputDepth a b ∧ ∀ x, b ≠ a ++ [x] := by
  rcases h with rfl | ⟨x, rfl⟩
  · exact ⟨.keep, fun x hx => by simp at hx⟩
  · refine ⟨.remove x, fun y hy => ?_⟩
    have hlen := (isPrefix_removeFrom x a).length_le
    rw [hy, List.length_append, List.length_singleton] at hlen
    omega

theorem fenceExit_shrinks (s : TerminalSystem) (i : ProcessSlot) :
    Shrinks s.input.foreground (s.fenceExit i).input.foreground :=
  .inr ⟨_, terminalInputProcessCleanup_foreground s _⟩

theorem terminalStep_shrinks (s : TerminalSystem) (event : TerminalEvent)
    (h : ∀ caller request, event ≠ .request caller request) :
    Shrinks s.input.foreground (s.step event).input.foreground := by
  cases event with
  | request caller request => exact absurd rfl (h caller request)
  | beginExit i generation =>
    simp only [TerminalSystem.step, TerminalSystem.processBeginExit]
    split
    next => exact .inl rfl
    next =>
      split
      next => exact fenceExit_shrinks s i
      next => exact .inl rfl
  | terminate pid generation reserved =>
    simp only [TerminalSystem.step, TerminalSystem.processTerminateGeneration]
    split
    next => exact .inl rfl
    next =>
      split
      next => exact .inl rfl
      next i _ =>
        split
        next => exact .inl rfl
        next => exact fenceExit_shrinks s i
  | exited i =>
    simp only [TerminalSystem.step, TerminalSystem.processExited]
    split <;> exact .inl rfl
  | waitStatus parent pid =>
    simp only [TerminalSystem.step, TerminalSystem.processWaitStatus]
    split
    next => exact .inl rfl
    next =>
      split
      next => exact .inl rfl
      next => split <;> [exact .inl rfl; (split <;> exact .inl rfl)]
  | orphanChildren parentPid =>
    simp only [TerminalSystem.step, TerminalSystem.processOrphanChildren]
    split <;> exact .inl rfl
  | releaseSlot i => exact .inr ⟨_, terminalInputProcessCleanup_foreground s _⟩
  | claimSlot sharedImage parentPid parentGeneration supervised kind =>
    simp only [TerminalSystem.step, TerminalSystem.claimProcessSlot]
    split
    next => exact .inl rfl
    next =>
      split
      next => exact .inl rfl
      next =>
        split
        next => exact .inl rfl
        next => split <;> exact .inl rfl
  | setImagePath i path => exact .inl rfl
  | restrictScript i allowed =>
    simp only [TerminalSystem.step, TerminalSystem.processRestrictScript]
    split <;> exact .inl rfl
  | pushSequence sequence => exact .inl (pushSequence_foreground s.input sequence).1
  | pop reader => exact .inl (inputQueuePop_input s reader).1

theorem terminalStep_top (h : TerminalSound s) (event : TerminalEvent)
    (hx : OnTop (s.step event).input.foreground x) (hbefore : ¬ OnTop s.input.foreground x) :
    (∃ caller target request, event = .request (some caller) request ∧
      (s.processes caller).live = true ∧ (s.processes target).live = true ∧
      (s.processes target).identity = x ∧
      TerminalGrant s.input (s.processes caller) (s.processes target) request.operation) ∨
    (x ∈ s.input.foreground ∧ ∃ above, above ≠ [] ∧
      s.input.foreground = (s.step event).input.foreground ++ above) := by
  by_cases hreq : ∃ caller request, event = .request caller request
  · obtain ⟨caller, request, rfl⟩ := hreq
    rcases processTerminalInput_cases s caller request with
      ⟨result, hr, he⟩ | ⟨i, targets, rfl, hlive, htargets, he⟩
    · simp only [TerminalSystem.step, he] at hx
      exact absurd hx hbefore
    · simp only [TerminalSystem.step, he] at hx ⊢
      have hout : ControlOutcome s.input (s.processes i) targets _ _ :=
        TerminalInput.control_outcome h.stack.bounded request
      rcases (hout.move h.stack.nodup).top hx with htop | ⟨-, hput⟩ | huncovered
      · exact absurd htop hbefore
      · obtain ⟨p, hp, hxp, hgrant⟩ := hout.put hput
        have hslot : ∃ j, (s.processes j).live = true ∧ s.processes j = p := by
          rcases hp with hp | hp
          · exact ⟨i, hlive, hp.symm⟩
          · exact htargets p hp
        obtain ⟨j, hj, hjp⟩ := hslot
        exact .inl ⟨i, j, request, rfl, hlive, hj, by rw [hjp, hxp], by rwa [hjp]⟩
      · exact .inr huncovered
  · have hshrinks := terminalStep_shrinks s event fun caller request he =>
      hreq ⟨caller, request, he⟩
    obtain ⟨hmove, hput⟩ := hshrinks.move
    rcases hmove.top hx with htop | ⟨-, hgranted⟩ | huncovered
    · exact absurd htop hbefore
    · exact absurd hgranted (hput x)
    · exact .inr huncovered

variable {request : TerminalInputRequest}

theorem processTerminalInput_refusal (h : TerminalSound s)
    (hr : (s.processTerminalInput caller request).1 ≠ 0) :
    (s.processTerminalInput caller request).2 = s := by
  rcases processTerminalInput_cases s caller request with
    ⟨result, -, he⟩ | ⟨i, targets, -, -, -, he⟩
  · rw [he]
  · have hout : ControlOutcome s.input (s.processes i) targets _ _ :=
      TerminalInput.control_outcome h.stack.bounded request
    rw [he] at hr ⊢
    rw [hout.refusal hr]

theorem processTerminalInput_removed (h : TerminalSound s) (hx : x ∈ s.input.foreground)
    (hout : x ∉ (s.processTerminalInput caller request).2.input.foreground) :
    ∃ i, caller = some i ∧ x = (s.processes i).identity := by
  rcases processTerminalInput_cases s caller request with
    ⟨result, -, he⟩ | ⟨i, targets, hc, -, -, he⟩
  · rw [he] at hout
    exact absurd hx hout
  · have houtcome : ControlOutcome s.input (s.processes i) targets _ _ :=
      TerminalInput.control_outcome h.stack.bounded request
    rw [he] at hout
    exact ⟨i, hc, houtcome.removed hx hout⟩

theorem TerminalSound.admitted (h : TerminalSound s) {pid : Int}
    (ha : s.input.admitted pid generation = true) :
    (s.input.foreground = [] ∧ pid = 0 ∧ generation = 0) ∨
    OnTop s.input.foreground ⟨pid, generation⟩ ∧ pid ≠ 0 ∧ ∃ i, (s.processes i).live = true ∧
      (s.processes i).identity = ⟨pid, generation⟩ ∧
      ∀ j, (s.processes j).used → (s.processes j).pid = pid → j = i := by
  rcases (admitted_iff s.input pid generation).mp ha with htop | hkernel
  · obtain ⟨i, hi, hix, hunique⟩ := h.holder htop.mem
    have hpositive := h.positive i (.inl (Process.live_running hi))
    have hpid : (s.processes i).pid = pid := congrArg TerminalIdentity.pid hix
    exact .inr ⟨htop, by omega, i, hi, hix, hunique⟩
  · exact .inl hkernel

end Table

/-- Who has the keyboard, in every state of every run. -/
theorem terminalInput_authority (events : List TerminalEvent) :
    let s := terminalSystemStart.run events
    -- no instance twice, and at most the fixed depth
    s.input.foreground.Nodup ∧ s.input.foreground.length ≤ terminalInputDepth ∧
    -- the top instance alone is admitted, the kernel alone when there is none
    (∀ pid generation, s.input.admitted pid generation = true ↔
      OnTop s.input.foreground ⟨pid, generation⟩ ∨
        s.input.foreground = [] ∧ pid = 0 ∧ generation = 0) ∧
    -- what is admitted is one live process
    (∀ pid generation, s.input.admitted pid generation = true →
      (s.input.foreground = [] ∧ pid = 0 ∧ generation = 0) ∨
      pid ≠ 0 ∧ ∃ i, (s.processes i).live = true ∧
        (s.processes i).identity = ⟨pid, generation⟩ ∧
        ∀ j, (s.processes j).used → (s.processes j).pid = pid → j = i) ∧
    -- the ways to the top
    (∀ event x, OnTop (s.step event).input.foreground x → ¬ OnTop s.input.foreground x →
      (∃ caller target request, event = .request (some caller) request ∧
        (s.processes caller).live = true ∧ (s.processes target).live = true ∧
        (s.processes target).identity = x ∧
        TerminalGrant s.input (s.processes caller) (s.processes target) request.operation) ∨
      (x ∈ s.input.foreground ∧ ∃ above, above ≠ [] ∧
        s.input.foreground = (s.step event).input.foreground ++ above)) ∧
    -- a request removes nobody but its caller, and a failing one changes nothing
    (∀ caller request x, x ∈ s.input.foreground →
      x ∉ (s.processTerminalInput caller request).2.input.foreground →
      ∃ i, caller = some i ∧ x = (s.processes i).identity) ∧
    (∀ caller request, (s.processTerminalInput caller request).1 ≠ 0 →
      (s.processTerminalInput caller request).2 = s) ∧
    -- a cleanup removes its instance and everything above it
    (∀ x, x ∉ s.input.foreground →
      (s.terminalInputProcessCleanup x).input.foreground = s.input.foreground) ∧
    (∀ x ∈ s.input.foreground, ∃ above, s.input.foreground =
      (s.terminalInputProcessCleanup x).input.foreground ++ x :: above) ∧
    -- an instance that has ended is never admitted again
    (∀ i generation, InstanceEnded s i generation → ∀ later pid admitted,
      (s.run later).input.admitted pid admitted = true →
      ((s.run later).input.foreground = [] ∧ pid = 0 ∧ admitted = 0) ∨
      ∃ j, ((s.run later).processes j).live = true ∧
        ((s.run later).processes j).identity = ⟨pid, admitted⟩ ∧
        (j = i → ((s.run later).processes j).generation ≠ generation)) := by
  intro s
  have hs : TerminalSound s := terminalRun_sound terminalSystemStart_sound events
  refine ⟨hs.stack.nodup, hs.stack.bounded, admitted_iff s.input, ?_,
    fun event x => terminalStep_top hs event, ?_, ?_, ?_, ?_, ?_⟩
  · intro pid generation ha
    rcases hs.admitted ha with hkernel | ⟨-, hholder⟩
    · exact .inl hkernel
    · exact .inr hholder
  · intro caller request x hx hout
    exact processTerminalInput_removed hs hx hout
  · intro caller request hr
    exact processTerminalInput_refusal hs hr
  · intro x hx
    rw [terminalInputProcessCleanup_foreground, removeFrom_of_not_mem hx]
  · intro x hx
    obtain ⟨above, hsplit⟩ := removeFrom_split hx
    rw [terminalInputProcessCleanup_foreground]
    exact ⟨above, hsplit⟩
  · intro i generation hended later pid admitted ha
    have hlater := terminalRun_sound hs later
    rcases hlater.admitted ha with hkernel | ⟨-, -, j, hj, hjx, -⟩
    · exact .inl hkernel
    · refine .inr ⟨j, hj, hjx, fun hji hgeneration => ?_⟩
      subst hji
      rcases hended.run hs later with h | ⟨-, hdead⟩
      · rw [hgeneration] at h
        exact absurd h (UInt32.lt_irrefl _)
      · rw [hdead] at hj
        exact absurd hj (by decide)

end ReistOs
