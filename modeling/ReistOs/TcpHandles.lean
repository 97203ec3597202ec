import ReistOs.TcpSteps

/-! Handles of TCP sockets over whole runs. -/

namespace ReistOs

open TcpControlBlock

namespace TcpTable

variable {s : TcpTable} {event : TcpEvent} {slot : TcpSlot} {handle : UInt32}
  {controls : TcpSlot → TcpControlBlock} {events : List TcpEvent}

/-- The event takes `slot` for a new connection: tcp_socket_open finds it free, or a SYN opens a
child in it. -/
def Initializes (s : TcpTable) : TcpEvent → TcpSlot → Prop
  | .opened owner handleOut now, slot =>
    owner.pid > 0 ∧ owner.generation ≠ 0 ∧ handleOut = true ∧
      (s.sweepPassive now).freeSlot = some slot
  | .ingress (some segment) data address now _, slot =>
    ¬ ingressInvalid segment data address ∧
      (s.sweepPassive now).firstSlot (·.matchesTuple segment) = none ∧
      (∃ listener, (s.sweepPassive now).findListener segment.destinationPort = some listener ∧
        (s.sweepPassive now).pendingChildren listener <
          ((s.sweepPassive now).controls listener).backlog.toNat) ∧
      segment.masked tcpHandshakeFlags = tcpFlagSyn ∧ segment.length = 0 ∧
      (s.sweepPassive now).freeSlot = some slot
  | _, _ => False

/-- A block is not taken for a new connection in its last generation. -/
def KeepsGenerations (s : TcpTable) (event : TcpEvent) : Prop :=
  ∀ slot, s.Initializes event slot → (s.controls slot).generation < tcpLastGeneration

/-- The generation stays, and a block only comes alive in a generation it did not have. -/
def SameLife (c c' : TcpControlBlock) : Prop :=
  c'.generation = c.generation ∧ (c'.active = true → c.active = true)

theorem SameLife.refl (c : TcpControlBlock) : SameLife c c := ⟨rfl, id⟩

theorem sameLife_sweep (now : UInt64) :
    SameLife (s.controls slot) ((s.sweepPassive now).controls slot) := by
  refine ⟨sweepPassive_generation now, ?_⟩
  intro h
  rw [sweepPassive_active h] at h
  exact h

variable {c c' : TcpControlBlock} {generation : UInt32}

theorem SameLife.update {k : TcpSlot} (hall : ∀ slot, SameLife (s.controls slot) (controls slot))
    (hk : controls k = c) (h : SameLife c c') (slot : TcpSlot) :
    SameLife (s.controls slot) (Function.update controls k c' slot) := by
  by_cases he : slot = k
  · rw [he, Function.update_self]
    have hold := hall k
    rw [hk] at hold
    exact ⟨h.1.trans hold.1, fun ha => hold.2 (h.2 ha)⟩
  · rw [Function.update_of_ne he]
    exact hall slot

theorem SameLife.trans {c'' : TcpControlBlock} (h : SameLife c c') (h' : SameLife c' c'') :
    SameLife c c'' :=
  ⟨h'.1.trans h.1, fun ha => h.2 (h'.2 ha)⟩

theorem sameLife_takeSegment (c : TcpControlBlock) (segment : TcpSegment) (bytes : List UInt8) :
    SameLife c (c.takeSegment segment bytes) := by
  have hack : SameLife c (c.takeAck segment) := by
    unfold takeAck
    split
    · exact ⟨rfl, id⟩
    · exact .refl c
  have hdata : ∀ c : TcpControlBlock, SameLife c (c.takeData segment bytes) := by
    intro c
    unfold takeData
    split
    · exact ⟨rfl, id⟩
    · exact .refl c
  have hfin : ∀ c : TcpControlBlock, SameLife c (c.takeFin segment) := by
    intro c
    unfold takeFin
    split
    · exact ⟨rfl, id⟩
    · exact .refl c
  exact (hack.trans (hdata _)).trans (hfin _)

theorem sameLife_takes {segment : TcpSegment} {bytes : List UInt8} {now : UInt64}
    (h : c.Takes segment bytes now c') : SameLife c c' := by
  cases h with
  | reset => exact ⟨rfl, id⟩
  | active => exact ⟨rfl, id⟩
  | passive => exact ⟨rfl, id⟩
  | passiveData => exact ⟨rfl, id⟩
  | tail => exact sameLife_takeSegment c segment bytes

theorem step_life (h : TcpStep s event controls) (slot : TcpSlot) :
    SameLife (s.controls slot) (controls slot) ∨
      s.Initializes event slot ∧
        (controls slot).generation = tcpNextGeneration (s.controls slot).generation := by
  have hsame : ∀ k, SameLife (s.controls k) (s.controls k) := fun k => .refl _
  have hswept : ∀ now, ∀ k, SameLife (s.controls k) ((s.sweepPassive now).controls k) :=
    fun now k => sameLife_sweep now
  have hretired : ∀ c : TcpControlBlock, SameLife c c.retire := fun c => ⟨rfl, nofun⟩
  cases h with
  | idle => exact .inl (.refl _)
  | swept now hnow => exact .inl (hswept now slot)
  | @opened owner handleOut now k hpid hgeneration hout hfree =>
    by_cases he : slot = k
    · rw [he, Function.update_self]
      refine .inr ⟨⟨hpid, hgeneration, hout, hfree⟩, ?_⟩
      show tcpNextGeneration ((s.sweepPassive now).controls k).generation = _
      rw [sweepPassive_generation]
    · rw [Function.update_of_ne he]
      exact .inl (hswept now slot)
  | listen =>
    refine .inl (SameLife.update (hswept _) rfl ?_ slot)
    exact ⟨rfl, id⟩
  | accept =>
    refine .inl (SameLife.update (hswept _) rfl ?_ slot)
    exact ⟨rfl, id⟩
  | gaveUp | connect | send | receive | closeStart =>
    refine .inl (SameLife.update hsame rfl ?_ slot)
    exact ⟨rfl, id⟩
  | closeListener =>
    left
    unfold retireListener
    dsimp only
    split
    · exact hretired _
    · exact .refl _
  | closeNow => exact .inl (SameLife.update hsame rfl (hretired _) slot)
  | closeEnd => exact .inl (SameLife.update hsame rfl (hretired _) slot)
  | cleanup =>
    left
    unfold tcpSocketProcessCleanup
    dsimp only
    split
    · exact hretired _
    · exact .refl _
  | @passive segment data address now delivered listener k hvalid hnone hlistener hflags hlength
      hpending hfree =>
    by_cases he : slot = k
    · rw [he, Function.update_self]
      refine .inr ⟨⟨hvalid, hnone, ⟨listener, hlistener, hpending⟩, hflags, hlength, hfree⟩, ?_⟩
      show tcpNextGeneration ((s.sweepPassive now).controls k).generation = _
      rw [sweepPassive_generation]
    · rw [Function.update_of_ne he]
      exact .inl (hswept now slot)
  | matched _ _ htakes => exact .inl (SameLife.update (hswept _) rfl (sameLife_takes htakes) slot)
  | undone => exact .inl (SameLife.update hsame rfl (hretired _) slot)

theorem tcpNextGeneration_lt (h : generation < tcpLastGeneration) :
    generation < tcpNextGeneration generation := by
  have hlt : generation.toNat < 16777215 := UInt32.lt_iff_toNat_lt.mp h
  have hadd : (generation + 1).toNat = generation.toNat + 1 := by
    rw [UInt32.toNat_add]
    show (generation.toNat + 1) % 4294967296 = _
    omega
  have hwrap : ¬ (generation + 1 = 0 ∨ tcpLastGeneration < generation + 1) := by
    rintro (hzero | hmore)
    · have hnat := congrArg UInt32.toNat hzero
      rw [hadd] at hnat
      exact Nat.succ_ne_zero _ hnat
    · have hnat : 16777215 < (generation + 1).toNat := UInt32.lt_iff_toNat_lt.mp hmore
      omega
  unfold tcpNextGeneration
  rw [if_neg hwrap]
  apply UInt32.lt_iff_toNat_lt.mpr
  omega

theorem tcpNextGeneration_ne (generation : UInt32) : tcpNextGeneration generation ≠ generation := by
  have hlt := generation.toNat_lt
  have hadd : (generation + 1).toNat = (generation.toNat + 1) % 4294967296 := UInt32.toNat_add ..
  intro he
  unfold tcpNextGeneration at he
  dsimp only at he
  split at he
  next hwrap =>
    rw [← he] at hwrap
    rcases hwrap with h | h <;> exact absurd h (by decide)
  next =>
    have hnat := congrArg UInt32.toNat he
    rw [hadd] at hnat
    omega

/-- The connection in this generation of the slot has ended for good. -/
def Spent (s : TcpTable) (slot : TcpSlot) (generation : UInt32) : Prop :=
  generation < (s.controls slot).generation ∨
    (s.controls slot).generation = generation ∧ (s.controls slot).active = false

theorem generation_le_step (hkeeps : s.KeepsGenerations event) (slot : TcpSlot) :
    (s.controls slot).generation ≤ ((s.step event).controls slot).generation := by
  rcases step_life (s.step_spec event) slot with hsame | ⟨hinit, hgeneration⟩
  · exact UInt32.le_of_eq hsame.1.symm
  · rw [hgeneration]
    exact UInt32.le_of_lt (tcpNextGeneration_lt (hkeeps slot hinit))

theorem spent_step (hkeeps : s.KeepsGenerations event) (h : s.Spent slot generation) :
    (s.step event).Spent slot generation := by
  rcases step_life (s.step_spec event) slot with hsame | ⟨hinit, hgeneration⟩
  · rcases h with hlt | ⟨heq, hdead⟩
    · left
      rw [hsame.1]
      exact hlt
    · right
      refine ⟨hsame.1.trans heq, ?_⟩
      by_contra halive
      have hbefore := hsame.2 (Bool.not_eq_false _ ▸ halive)
      rw [hdead] at hbefore
      cases hbefore
  · have hmore := tcpNextGeneration_lt (hkeeps slot hinit)
    left
    rw [hgeneration]
    rcases h with hlt | ⟨heq, -⟩
    · exact UInt32.lt_trans hlt hmore
    · rw [← heq]
      exact hmore

theorem generation_le_run (hmeets : s.Meets KeepsGenerations events) (slot : TcpSlot) :
    (s.controls slot).generation ≤ ((s.run events).controls slot).generation := by
  let bound := (s.controls slot).generation
  have hrun : bound ≤ ((s.run events).controls slot).generation := by
    refine run_induction (motive := fun t => bound ≤ (t.controls slot).generation) ?_ hmeets
      (UInt32.le_refl _)
    intro t event hkeeps h
    exact UInt32.le_trans h (generation_le_step hkeeps slot)
  exact hrun

theorem spent_run (hmeets : s.Meets KeepsGenerations events) (h : s.Spent slot generation) :
    (s.run events).Spent slot generation :=
  run_induction (motive := fun t => t.Spent slot generation) (fun _ _ => spent_step) hmeets h

theorem Spent.unresolved (hlow : (handle &&& 0xff).toNat = slot + 1)
    (h : s.Spent slot (handle >>> 8)) (owner : NetOwner) : s.resolve owner handle = none := by
  cases hresolve : s.resolve owner handle with
  | none => rfl
  | some found =>
    obtain ⟨hfound, -, hactive, hgeneration, -⟩ := resolve_iff.mp hresolve
    have he : found = slot := Fin.ext (by omega)
    rw [he] at hactive hgeneration
    rcases h with hlt | ⟨-, hdead⟩
    · rw [hgeneration] at hlt
      exact absurd hlt (UInt32.lt_irrefl _)
    · rw [hdead] at hactive
      cases hactive

theorem spent_of_unresolved {owner : NetOwner} (hlow : (handle &&& 0xff).toNat = slot + 1)
    (hne : handle >>> 8 ≠ 0) (hreached : handle >>> 8 ≤ (s.controls slot).generation)
    (howner : (s.controls slot).owner = owner) (h : s.resolve owner handle = none) :
    s.Spent slot (handle >>> 8) := by
  rcases UInt32.lt_or_eq_of_le hreached with hlt | heq
  · exact .inl hlt
  · refine .inr ⟨heq.symm, ?_⟩
    by_contra hactive
    have hresolve : s.resolve owner handle = some slot :=
      resolve_iff.mpr ⟨hlow, hne, Bool.not_eq_false _ ▸ hactive, heq.symm, howner⟩
    rw [h] at hresolve
    cases hresolve

theorem tcpNextGeneration_le (generation : UInt32) :
    tcpNextGeneration generation ≤ tcpLastGeneration := by
  unfold tcpNextGeneration
  dsimp only
  split
  · decide
  next h => exact UInt32.not_lt.mp (not_or.mp h).2

/-- Where no block is taken for a new connection in its last generation, a handle that went bad
stays so for every process, and a new connection has a handle that was never good before. -/
theorem tcpHandles_neverReused (s : TcpTable) (earlier later : List TcpEvent)
    (hmeets : s.Meets KeepsGenerations (earlier ++ later)) :
    (∀ handle, (∃ owner, ((s.run earlier).resolve owner handle).isSome = true) →
      ∀ last, (s.run (earlier ++ later)).Meets KeepsGenerations last →
        (∀ owner, (s.run (earlier ++ later)).resolve owner handle = none) →
        ∀ owner, (s.run (earlier ++ later ++ last)).resolve owner handle = none) ∧
    (∀ event slot, (s.run (earlier ++ later)).KeepsGenerations event →
      ¬ SameLife ((s.run (earlier ++ later)).controls slot)
        ((s.run (earlier ++ later ++ [event])).controls slot) →
      ∀ owner, (s.run earlier).resolve owner
        (tcpMakeHandle slot ((s.run (earlier ++ later ++ [event])).controls slot).generation) =
          none) := by
  obtain ⟨-, hlater⟩ := meets_append.mp hmeets
  constructor
  · rintro handle ⟨owner, hgood⟩ last hlast hbad owner'
    obtain ⟨slot, hslot⟩ := Option.isSome_iff_exists.mp hgood
    obtain ⟨hlow, hne, -, hgeneration, -⟩ := resolve_iff.mp hslot
    have hreached : handle >>> 8 ≤ ((s.run (earlier ++ later)).controls slot).generation := by
      rw [← hgeneration, run_append]
      exact generation_le_run hlater slot
    have hspent := spent_of_unresolved hlow hne hreached rfl (hbad _)
    rw [run_append]
    exact (spent_run hlast hspent).unresolved hlow owner'
  · intro event slot hkeeps hnew owner
    have hold := generation_le_run hlater slot
    rw [← run_append] at hold
    rw [run_snoc] at hnew ⊢
    rcases step_life ((s.run (earlier ++ later)).step_spec event) slot with hsame | ⟨hinit, hgen⟩
    · exact absurd hsame hnew
    · have hmore := tcpNextGeneration_lt (hkeeps slot hinit)
      have hslot : (slot : Nat) < 255 := Nat.lt_of_lt_of_le slot.isLt (by decide)
      have hlast := tcpNextGeneration_le ((s.run (earlier ++ later)).controls slot).generation
      rw [hgen]
      cases hresolve : (s.run earlier).resolve owner (tcpMakeHandle slot (tcpNextGeneration
        ((s.run (earlier ++ later)).controls slot).generation)) with
      | none => rfl
      | some found =>
        obtain ⟨hfound, -, -, hgeneration, -⟩ := resolve_iff.mp hresolve
        rw [tcpMakeHandle, slotToken_low hslot hlast] at hfound
        rw [tcpMakeHandle, slotToken_high hslot hlast] at hgeneration
        have he : found = slot := Fin.ext (by omega)
        rw [he] at hgeneration
        rw [hgeneration] at hold
        exact absurd (UInt32.lt_of_le_of_lt hold hmore) (UInt32.lt_irrefl _)

def tcpReopener : NetOwner := ⟨7, 1⟩

def tcpOpening : List TcpEvent := [.opened tcpReopener true 0]

def tcpClosing : List TcpEvent := [.close tcpReopener (tcpMakeHandle 0 1) 0 0]

/-- A socket that is opened, closed and opened again. -/
theorem tcpHandles_neverReused_twice :
    (∀ owner, (tcpSocketInit.run (tcpOpening ++ tcpClosing ++ tcpOpening)).resolve owner
      (tcpMakeHandle 0 1) = none) ∧
    ∀ owner, (tcpSocketInit.run tcpOpening).resolve owner (tcpMakeHandle 0
      ((tcpSocketInit.run (tcpOpening ++ tcpClosing ++ tcpOpening)).controls 0).generation) =
        none := by
  have hstart : ∀ slot, (tcpSocketInit.controls slot).generation < tcpLastGeneration := by decide
  have hopen : ∀ slot, ((tcpSocketInit.run tcpOpening).controls slot).generation <
      tcpLastGeneration := by decide
  have hclosed : ∀ slot, ((tcpSocketInit.run (tcpOpening ++ tcpClosing)).controls slot).generation <
      tcpLastGeneration := by decide
  have hmeets : tcpSocketInit.Meets KeepsGenerations (tcpOpening ++ tcpClosing) :=
    ⟨fun slot _ => hstart slot, fun slot _ => hopen slot, trivial⟩
  obtain ⟨hdead, hnew⟩ := tcpHandles_neverReused tcpSocketInit tcpOpening tcpClosing hmeets
  have hnone : ((tcpSocketInit.run (tcpOpening ++ tcpClosing)).controls 0).active = false := by
    decide
  have hlow : (tcpMakeHandle 0 1 &&& 0xff).toNat = ((0 : TcpSlot) : Nat) + 1 := by decide
  constructor
  · apply hdead
    · exact ⟨tcpReopener, by decide⟩
    · exact ⟨fun slot _ => hclosed slot, trivial⟩
    · exact Spent.unresolved hlow (.inr ⟨rfl, hnone⟩)
  · apply hnew
    · exact fun slot _ => hclosed slot
    · intro hsame
      have halive : ((tcpSocketInit.run (tcpOpening ++ tcpClosing ++ tcpOpening)).controls
          0).active = true := by decide
      have hbefore := hsame.2 halive
      rw [hnone] at hbefore
      cases hbefore

/-! One process that opens and closes sockets, until the generations of the first slot are used
up. -/

def withFirst (c : TcpControlBlock) : TcpTable := tcpSocketInit.setControl 0 c

def openedFirst (generation : UInt32) : TcpTable :=
  withFirst { clearedControl generation with active := true, owner := tcpReopener }

/-- The socket is opened in this generation and closed again. -/
def tcpReopening (generation : Nat) : List TcpEvent :=
  [.opened tcpReopener true 0,
    .close tcpReopener (tcpMakeHandle 0 (UInt32.ofNat generation)) 0 0]

def tcpReopenings (start n : Nat) : List TcpEvent := (List.range' start n).flatMap tcpReopening

theorem sweepPassive_fresh (now : UInt64) (generation : UInt32) :
    (withFirst (clearedControl generation)).sweepPassive now =
      withFirst (clearedControl generation) := by
  have hcontrols : ((withFirst (clearedControl generation)).sweepPassive now).controls =
      (withFirst (clearedControl generation)).controls := by
    funext slot
    have hidle : ((withFirst (clearedControl generation)).controls slot).expired now = false := by
      by_cases he : slot = 0
      · rw [he]
        rfl
      · show ((tcpSocketInit.setControl 0 _).controls slot).expired now = false
        rw [setControl_other _ he]
        rfl
    unfold sweepPassive
    dsimp only
    rw [hidle]
    rfl
  show { withFirst (clearedControl generation) with
    controls := ((withFirst (clearedControl generation)).sweepPassive now).controls } = _
  rw [hcontrols]

theorem step_open (generation : UInt32) :
    (withFirst (clearedControl generation)).step (.opened tcpReopener true 0) =
      openedFirst (tcpNextGeneration generation) := by
  have hfree : (withFirst (clearedControl generation)).freeSlot = some 0 := by
    have hslots : List.finRange tcpSocketMaxSockets =
        0 :: (List.finRange tcpSocketMaxSockets).tail := by decide
    unfold freeSlot firstSlot
    rw [hslots]
    rfl
  have hargs : ¬ (tcpReopener.pid ≤ 0 ∨ tcpReopener.generation = 0 ∨ !true) := by decide
  show ((withFirst (clearedControl generation)).tcpSocketOpen tcpReopener true 0).table = _
  unfold tcpSocketOpen
  rw [if_neg hargs, sweepPassive_fresh]
  dsimp only
  rw [hfree]
  simp [withFirst, openedFirst, setControl, initialized, clearedControl]

theorem step_close (hne : generation ≠ 0) (hle : generation ≤ tcpLastGeneration) :
    (openedFirst generation).step (.close tcpReopener (tcpMakeHandle 0 generation) 0 0) =
      withFirst (clearedControl generation) := by
  have hlow : (tcpMakeHandle 0 generation &&& 0xff).toNat = 0 + 1 :=
    slotToken_low (by decide) hle
  have hhigh : tcpMakeHandle 0 generation >>> 8 = generation := slotToken_high (by decide) hle
  have hself : (openedFirst generation).controls 0 =
      { clearedControl generation with active := true, owner := tcpReopener } := by
    unfold openedFirst withFirst
    rw [setControl_self]
  have hresolve : (openedFirst generation).resolve tcpReopener (tcpMakeHandle 0 generation) =
      some 0 := by
    apply resolve_iff.mpr
    rw [hself, hhigh]
    exact ⟨hlow, hne, rfl, rfl, rfl⟩
  show ((openedFirst generation).tcpSocketClose tcpReopener _ 0 0).table = _
  unfold tcpSocketClose
  have htime : ¬ tcpSocketMaxTimeoutMs < 0 := by decide
  rw [if_neg htime, hresolve]
  dsimp only
  rw [hself]
  simp [openedFirst, withFirst, setControl, retire, clearedControl]

theorem run_tcpReopenings {start n : Nat} (h : start + n ≤ 16777216) (hn : 0 < start) :
    (withFirst (clearedControl (UInt32.ofNat (start - 1)))).run (tcpReopenings start n) =
      withFirst (clearedControl (UInt32.ofNat (start + n - 1))) := by
  induction n generalizing start with
  | zero => rfl
  | succ n ih =>
    have hprevious : (UInt32.ofNat (start - 1)).toNat = start - 1 := by
      rw [UInt32.toNat_ofNat']
      omega
    have hstart : (UInt32.ofNat start).toNat = start := by
      rw [UInt32.toNat_ofNat']
      omega
    have hnext : tcpNextGeneration (UInt32.ofNat (start - 1)) = UInt32.ofNat start := by
      have hadd : UInt32.ofNat (start - 1) + 1 = UInt32.ofNat start := by
        apply UInt32.toNat_inj.mp
        rw [UInt32.toNat_add, hprevious, hstart]
        show (start - 1 + 1) % 4294967296 = start
        omega
      have hin : ¬ (UInt32.ofNat start = 0 ∨ tcpLastGeneration < UInt32.ofNat start) := by
        rintro (hzero | hmore)
        · have hnat := congrArg UInt32.toNat hzero
          rw [hstart] at hnat
          exact absurd hnat (Nat.ne_of_gt hn)
        · have hnat : 16777215 < (UInt32.ofNat start).toNat := UInt32.lt_iff_toNat_lt.mp hmore
          omega
      unfold tcpNextGeneration
      rw [hadd, if_neg hin]
    have hne : UInt32.ofNat start ≠ 0 := by
      intro hzero
      have hnat := congrArg UInt32.toNat hzero
      rw [hstart] at hnat
      exact absurd hnat (Nat.ne_of_gt hn)
    have hle : UInt32.ofNat start ≤ tcpLastGeneration := by
      apply UInt32.le_iff_toNat_le.mpr
      rw [hstart]
      show start ≤ 16777215
      omega
    have hround : (withFirst (clearedControl (UInt32.ofNat (start - 1)))).run
        (tcpReopening start) = withFirst (clearedControl (UInt32.ofNat start)) := by
      show ((withFirst (clearedControl (UInt32.ofNat (start - 1)))).step _).step _ = _
      rw [step_open, hnext, step_close hne hle]
    have hrest : (withFirst (clearedControl (UInt32.ofNat (start + 1 - 1)))).run
        (tcpReopenings (start + 1) n) =
          withFirst (clearedControl (UInt32.ofNat (start + 1 + n - 1))) :=
      ih (by omega) (Nat.succ_pos start)
    have hsplit : tcpReopenings start (n + 1) = tcpReopening start ++ tcpReopenings (start + 1) n := by
      rw [tcpReopenings, List.range'_succ, List.flatMap_cons]
      rfl
    rw [hsplit, run_append, hround]
    have hsucc : start + 1 - 1 = start := by omega
    have hlast : start + 1 + n - 1 = start + (n + 1) - 1 := by omega
    rw [hsucc, hlast] at hrest
    exact hrest

/-- One process opens and closes a socket until the generations are used up: the first handle is
good again for the socket it opens then. -/
theorem tcpHandles_reused :
    ((tcpSocketInit.run tcpOpening).resolve tcpReopener (tcpMakeHandle 0 1)).isSome = true ∧
    (∀ owner, (tcpSocketInit.run (tcpOpening ++ tcpClosing)).resolve owner
      (tcpMakeHandle 0 1) = none) ∧
    ((tcpSocketInit.run (tcpOpening ++ tcpClosing ++
        (tcpReopenings 2 16777214 ++ tcpOpening))).resolve tcpReopener
      (tcpMakeHandle 0 1)).isSome = true := by
  have hinit : tcpSocketInit = withFirst (clearedControl 0) := by
    unfold withFirst setControl
    rw [show clearedControl 0 = tcpSocketInit.controls 0 from rfl, Function.update_eq_self]
  have hopening : ∀ generation, (withFirst (clearedControl generation)).run tcpOpening =
      openedFirst (tcpNextGeneration generation) := step_open
  have hone : tcpNextGeneration 0 = 1 := by decide
  have hwrapped : tcpNextGeneration (UInt32.ofNat (2 + 16777214 - 1)) = 1 := by decide
  have hopened : tcpSocketInit.run tcpOpening = openedFirst 1 := by
    rw [hinit, hopening, hone]
  have hclosed : tcpSocketInit.run (tcpOpening ++ tcpClosing) = withFirst (clearedControl 1) := by
    rw [run_append, hopened]
    exact step_close (by decide) (by decide)
  have hused : (withFirst (clearedControl (UInt32.ofNat (2 - 1)))).run
      (tcpReopenings 2 16777214) =
        withFirst (clearedControl (UInt32.ofNat (2 + 16777214 - 1))) :=
    run_tcpReopenings (by decide) (by decide)
  have hfirst : UInt32.ofNat (2 - 1) = 1 := by decide
  rw [hfirst] at hused
  have hgood : ((openedFirst 1).resolve tcpReopener (tcpMakeHandle 0 1)).isSome = true := by
    decide
  refine ⟨?_, ?_, ?_⟩
  · rw [hopened]
    exact hgood
  · rw [hclosed]
    intro owner
    have hlow : (tcpMakeHandle 0 1 &&& 0xff).toNat = ((0 : TcpSlot) : Nat) + 1 := by decide
    exact Spent.unresolved hlow (.inr ⟨rfl, rfl⟩) owner
  · rw [run_append, hclosed, run_append, hused, hopening, hwrapped]
    exact hgood

end TcpTable

end ReistOs
