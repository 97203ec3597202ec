import ReistOs.TerminalInput

namespace ReistOs

open HolderStack

/-- Who a request of `caller` may put on top. An orphaned shell counts as started without a parent,
since its parent_pid is cleared. -/
inductive TerminalGrant (s : TerminalInput) (caller target : Process) (operation : UInt32) :
    Prop
  | attach (op : operation = reistTerminalAttachConsole) (self : target = caller)
      (parentless : caller.parentPid = 0) (shell : caller.imagePath = shellImagePath)
      (empty : s.foreground = [])
  | child (op : operation = reistTerminalTransfer) (top : OnTop s.foreground caller.identity)
      (parent : target.parentPid = caller.pid ∧
        target.parentGeneration = caller.generation)
  | service (op : operation = reistTerminalTransfer) (attached : s.consoleAttached = true)
      (console : s.foreground = [caller.identity]) (compositor : target.kind = .compositor)
  | acquire (op : operation = reistTerminalAcquireService) (self : target = caller)
      (compositor : caller.kind = .compositor) (attached : s.consoleAttached = true)
      (console : ∃ console, s.foreground = [console])

/-- The console is attached exactly while the stack has a bottom. -/
def TerminalInput.ConsoleKnown (s : TerminalInput) : Prop :=
  s.consoleAttached = true ↔ s.foreground ≠ []

/-- All that a request of `caller` can come to. -/
inductive ControlOutcome (s : TerminalInput) (caller : Process) (target : Option Process)
    (operation : UInt32) : Int × TerminalInput → Prop
  | refused (result : Int) (h : result ≠ 0) : ControlOutcome s caller target operation (result, s)
  | kept : ControlOutcome s caller target operation (0, s)
  | granted (p : Process) (attached : Bool) (who : p = caller ∨ target = some p)
      (grant : TerminalGrant s caller p operation) (fresh : p.identity ∉ s.foreground)
      (room : s.foreground.length < terminalInputDepth)
      (console : attached = true ∨ attached = s.consoleAttached ∧ s.foreground ≠ []) :
      ControlOutcome s caller target operation
        (0, ⟨s.foreground ++ [p.identity], attached, []⟩)
  | released (top : OnTop s.foreground caller.identity)
      (above : s.consoleAttached = true → 1 < s.foreground.length) :
      ControlOutcome s caller target operation
        (0, ⟨s.foreground.dropLast, s.consoleAttached, []⟩)

namespace TerminalInput

variable {s : TerminalInput} {caller target : Process} {targets : Option Process}
  {operation : UInt32} {p : TerminalIdentity}

theorem current_some {index : Option Nat} (h : s.current index = true) :
    ∃ i, index = some i ∧ i + 1 = s.foreground.length := by
  cases index with
  | none => simp [current] at h
  | some i => exact ⟨i, rfl, by simpa [current] using h⟩

theorem current_top (h : s.current (s.foregroundIndex p) = true) : OnTop s.foreground p := by
  obtain ⟨i, hi, hl⟩ := current_some h
  exact top_of_idxOf? hi hl

theorem foregroundIndex_none (h : s.foregroundIndex p = none) : p ∉ s.foreground :=
  List.idxOf?_eq_none_iff.mp h

theorem foregroundIndex_zero (h : s.foregroundIndex p = some 0)
    (hl : s.foreground.length = 1) : s.foreground = [p] := by
  obtain ⟨q, hq⟩ := List.length_eq_one_iff.mp hl
  have hm : p ∈ s.foreground := mem_of_idxOf? h
  rw [hq, List.mem_singleton] at hm
  rw [hq, hm]

theorem attachConsole_outcome :
    ControlOutcome s caller targets reistTerminalAttachConsole (s.attachConsole caller) := by
  unfold attachConsole
  split
  next => exact .kept
  next =>
    split
    next => exact .refused (-13) (by decide)
    next hshell =>
      have hparent : caller.parentPid = 0 := by
        by_contra h
        exact hshell (.inl h)
      have himage : caller.imagePath = shellImagePath := by
        by_contra h
        exact hshell (.inr h)
      split
      next => exact .refused (-16) (by decide)
      next hlen =>
        have hempty : s.foreground = [] := List.eq_nil_of_length_eq_zero (not_not.mp hlen)
        have hfresh : caller.identity ∉ s.foreground := by simp [hempty]
        have hroom : s.foreground.length < terminalInputDepth := by
          simp [hempty, terminalInputDepth]
        have hgrant : TerminalGrant s caller caller reistTerminalAttachConsole :=
          .attach rfl rfl hparent himage hempty
        have hout : ControlOutcome s caller targets _ _ :=
          .granted caller true (.inl rfl) hgrant hfresh hroom (.inl rfl)
        simpa [hempty, ownerChanged] using hout

theorem transfer_outcome (hs : s.foreground.length ≤ terminalInputDepth) :
    ControlOutcome s caller (some target) reistTerminalTransfer (s.transfer caller target) := by
  unfold transfer
  dsimp only
  split
  next => exact .refused (-13) (by decide)
  next hallowed =>
    split
    next =>
      split
      next => exact .kept
      next => exact .refused (-16) (by decide)
    next hindex =>
      split
      next => exact .refused (-13) (by decide)
      next hcurrent =>
        have hcur : s.current (s.foregroundIndex caller.identity) = true := by
          simpa using hcurrent
        have htop := current_top hcur
        split
        next => exact .refused (-28) (by decide)
        next hfull =>
          have hroom : s.foreground.length < terminalInputDepth := by omega
          have hne : s.foreground ≠ [] := List.ne_nil_of_mem htop.mem
          have hfresh := foregroundIndex_none hindex
          have hgrant : TerminalGrant s caller target reistTerminalTransfer := by
            by_cases hchild : target.parentPid = caller.pid ∧
                target.parentGeneration = caller.generation
            · exact .child rfl htop hchild
            · have hchild' : (target.parentPid == caller.pid &&
                  target.parentGeneration == caller.generation) = false := by
                simpa using hchild
              have hservice : (s.consoleAttached = true ∧
                  s.foregroundIndex caller.identity = some 0) ∧ target.kind = .compositor := by
                simpa [hchild'] using hallowed
              obtain ⟨i, hi, hl⟩ := current_some hcur
              have hzero : i = 0 := Option.some.inj (hi.symm.trans hservice.1.2)
              have hone : s.foreground.length = 1 := by omega
              exact .service rfl hservice.1.1 (foregroundIndex_zero hservice.1.2 hone)
                hservice.2
          exact .granted target s.consoleAttached (.inr rfl) hgrant hfresh hroom
            (.inr ⟨rfl, hne⟩)

theorem release_outcome :
    ControlOutcome s caller targets reistTerminalRelease (s.release caller) := by
  unfold release
  split
  next => exact .kept
  next index hindex =>
    split
    next => exact .refused (-13) (by decide)
    next hcond =>
      have hcond' : s.current (some index) = true ∧
          (s.consoleAttached = true → index ≠ 0) := by simpa using hcond
      have hlen : index + 1 = s.foreground.length := by
        simpa [current] using hcond'.1
      have htop : OnTop s.foreground caller.identity := top_of_idxOf? hindex hlen
      refine .released htop fun hattached => ?_
      have hne := hcond'.2 hattached
      omega

theorem acquireService_outcome :
    ControlOutcome s caller targets reistTerminalAcquireService (s.acquireService caller) := by
  unfold acquireService
  split
  next => exact .refused (-13) (by decide)
  next hkind =>
    split
    next => exact .kept
    next hcurrent =>
      split
      next => exact .refused (-16) (by decide)
      next hconsole =>
        have hconsole' : s.consoleAttached = true ∧ s.foreground.length = 1 := by
          simpa using hconsole
        obtain ⟨hattached, hlen⟩ := hconsole'
        obtain ⟨console, hone⟩ := List.length_eq_one_iff.mp hlen
        have hfresh : caller.identity ∉ s.foreground := by
          intro hm
          have hself : console = caller.identity := by
            rw [hone, List.mem_singleton] at hm
            exact hm.symm
          have hcur : s.current (s.foregroundIndex caller.identity) = true := by
            simp [current, foregroundIndex, hone, hself]
          exact hcurrent hcur
        have hroom : s.foreground.length < terminalInputDepth := by
          rw [hlen]
          decide
        have hne : s.foreground ≠ [] := by simp [hone]
        have hgrant : TerminalGrant s caller caller reistTerminalAcquireService :=
          .acquire rfl rfl (not_not.mp hkind) hattached ⟨console, hone⟩
        exact .granted caller s.consoleAttached (.inl rfl) hgrant hfresh hroom
          (.inr ⟨rfl, hne⟩)

theorem check_outcome : ControlOutcome s caller targets operation (s.check caller) := by
  unfold check
  split
  next => exact .kept
  next => exact .refused (-11) (by decide)

theorem control_outcome (hs : s.foreground.length ≤ terminalInputDepth)
    (request : TerminalInputRequest) :
    ControlOutcome s caller targets request.operation (s.control caller targets request) := by
  unfold control
  split
  next => exact .refused (-22) (by decide)
  next =>
    split
    next hop =>
      rw [hop]
      cases targets with
      | none => exact .refused (-116) (by decide)
      | some target =>
        dsimp only
        split
        next => exact .refused (-116) (by decide)
        next => exact transfer_outcome hs
    next =>
      split
      next => exact .refused (-22) (by decide)
      next =>
        split
        next hop => exact hop ▸ attachConsole_outcome
        next =>
          split
          next hop => exact hop ▸ release_outcome
          next =>
            split
            next hop => exact hop ▸ acquireService_outcome
            next => exact check_outcome

end TerminalInput

end ReistOs
