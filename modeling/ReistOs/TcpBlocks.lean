import ReistOs.TcpSteps

/-! What one critical section can do to a single control block. -/

namespace ReistOs

def TcpControlBlock.opening (c : TcpControlBlock) (owner : NetOwner) (listener : TcpSlot)
    (segment : TcpSegment) (now : UInt64) (initial : UInt32) : TcpControlBlock :=
  { c.initialized owner with
    state := .synReceived
    remoteIp := segment.sourceIp
    remotePort := segment.sourcePort
    localPort := segment.destinationPort
    receiveNext := segment.sequence + 1
    peerWindow := segment.window
    listenerSlot := listener + 1
    passiveDeadline := tcpDeadlineAfter now tcpPassiveHandshakeMs
    sendUnacknowledged := initial
    sendNext := initial + 1 }

open TcpTable

/-- The block of `slot` after an event in the state `s`. -/
inductive TcpBlockStep (s : TcpTable) (event : TcpEvent) (slot : TcpSlot) :
    TcpControlBlock → Prop
  | same : TcpBlockStep s event slot (s.controls slot)
  | retired : TcpBlockStep s event slot (s.controls slot).retire
  | opened (owner : NetOwner) : TcpBlockStep s event slot ((s.controls slot).initialized owner)
  | child (owner : NetOwner) (listener : TcpSlot) (segment : TcpSegment) (now : UInt64)
      (initial : UInt32) :
      TcpBlockStep s event slot ((s.controls slot).opening owner listener segment now initial)
  | listening {port backlog : UInt16} :
      (s.controls slot).active = true → (s.controls slot).state = .closed →
      TcpBlockStep s event slot ((s.controls slot).listening port backlog)
  | handedOut :
      (s.controls slot).active = true → (s.controls slot).state = .established →
      TcpBlockStep s event slot (s.controls slot).handedOut
  | givenUp :
      (s.controls slot).active = true →
      TcpBlockStep s event slot (s.controls slot).givenUp
  | connecting {ip : UInt32} {port candidate : UInt16} {initial : UInt32} :
      (s.controls slot).active = true → (s.controls slot).state = .closed →
      TcpBlockStep s event slot ((s.controls slot).connecting ip port candidate initial)
  | sending {length : Nat} :
      (s.controls slot).active = true → (s.controls slot).state = .established →
      (s.controls slot).sendUnacknowledged = (s.controls slot).sendNext →
      0 < length → length ≤ tcpSocketMaxSegment.toNat →
      TcpBlockStep s event slot ((s.controls slot).sending length)
  | drained {owner : NetOwner} {handle : UInt32} {dataOut : Bool} {capacity : Nat}
      {timeoutMs : UInt32} {started now : UInt64} {waited : Int} {amount : Nat} :
      event = .receive owner handle dataOut capacity timeoutMs started now waited →
      (s.controls slot).active = true → amount ≤ (s.controls slot).receiveCount →
      TcpBlockStep s event slot ((s.controls slot).drained amount)
  | finishing :
      (s.controls slot).active = true →
      ((s.controls slot).state = .established ∨ (s.controls slot).state = .closeWait) →
      TcpBlockStep s event slot (s.controls slot).finishing
  | takes {segment : TcpSegment} {data : Option (Nat → UInt8)} {address : UInt32}
      {now : UInt64} {delivered : Bool} {control : TcpControlBlock} :
      event = .ingress (some segment) data address now delivered →
      ¬ ingressInvalid segment data address →
      (s.sweepPassive now).firstSlot (·.matchesTuple segment) = some slot →
      (s.controls slot).active = true →
      (s.controls slot).Takes segment (segment.bytes (data.getD fun _ => 0)) now control →
      TcpBlockStep s event slot control

namespace TcpTable

variable {s : TcpTable} {event : TcpEvent} {slot : TcpSlot}
  {controls : TcpSlot → TcpControlBlock}

theorem length_bytes (segment : TcpSegment) (data : Nat → UInt8) :
    (segment.bytes data).length = segment.length.toNat := by
  simp [TcpSegment.bytes]

variable {segment : TcpSegment} {c : TcpControlBlock} {listener : TcpSlot}

theorem firstSlot_matches (h : s.firstSlot (·.matchesTuple segment) = some slot) :
    (s.controls slot).matchesTuple segment = true :=
  firstSlot_some h

theorem matchesTuple_iff :
    c.matchesTuple segment = true ↔
      c.active = true ∧ c.remoteIp = segment.sourceIp ∧
        c.localPort = segment.destinationPort ∧ c.remotePort = segment.sourcePort := by
  unfold TcpControlBlock.matchesTuple
  simp [and_assoc]

theorem childOf_iff :
    c.childOf listener = true ↔
      c.active = true ∧ c.accepted = false ∧ c.listenerSlot = listener + 1 := by
  unfold TcpControlBlock.childOf
  simp [and_assoc]

theorem establishedChild_spec (h : s.establishedChild listener = some slot) :
    (s.controls slot).childOf listener = true ∧ (s.controls slot).state = .established := by
  have hfound := firstSlot_some h
  simpa using hfound

theorem sweepPassive_cases (now : UInt64) (slot : TcpSlot) :
    (s.sweepPassive now).controls slot = s.controls slot ∨
      (s.sweepPassive now).controls slot = (s.controls slot).retire := by
  unfold sweepPassive
  dsimp only
  split
  · exact .inr rfl
  · exact .inl rfl

theorem initialized_sweep (now : UInt64) (slot : TcpSlot) (owner : NetOwner) :
    ((s.sweepPassive now).controls slot).initialized owner = (s.controls slot).initialized owner := by
  rcases sweepPassive_cases now slot with he | he
  · rw [he]
  · rw [he]
    rfl

theorem blockStep_swept (now : UInt64) :
    TcpBlockStep s event slot ((s.sweepPassive now).controls slot) := by
  rcases sweepPassive_cases now slot with he | he
  · rw [he]
    exact .same
  · rw [he]
    exact .retired

theorem blockStep_update {k : TcpSlot} (hrest : TcpBlockStep s event slot (controls slot))
    (hk : slot = k → TcpBlockStep s event slot c) :
    TcpBlockStep s event slot (Function.update controls k c slot) := by
  by_cases he : slot = k
  · have hself : Function.update controls k c slot = c := by
      rw [he, Function.update_self]
    rw [hself]
    exact hk he
  · rw [Function.update_of_ne he]
    exact hrest

theorem blockStep (h : TcpStep s event controls) (slot : TcpSlot) :
    TcpBlockStep s event slot (controls slot) := by
  cases h with
  | idle => exact .same
  | swept now hnow => exact blockStep_swept now
  | opened hpid hgeneration hout hfree =>
    refine blockStep_update (blockStep_swept _) ?_
    rintro rfl
    rw [initialized_sweep]
    exact .opened _
  | listen hport hbacklog hmax hslot hclosed hfree =>
    refine blockStep_update (blockStep_swept _) ?_
    rintro rfl
    have hactive := resolve_active hslot
    have hkept := sweepPassive_active hactive
    rw [hkept] at hactive hclosed ⊢
    exact .listening hactive hclosed
  | accept hindex hlisten hchild =>
    refine blockStep_update (blockStep_swept _) ?_
    rintro rfl
    obtain ⟨hchild, hestablished⟩ := establishedChild_spec hchild
    have hactive := (childOf_iff.mp hchild).1
    have hkept := sweepPassive_active hactive
    rw [hkept] at hactive hestablished ⊢
    exact .handedOut hactive hestablished
  | gaveUp hslot hstate hack hlate =>
    refine blockStep_update .same ?_
    rintro rfl
    exact .givenUp (resolve_active hslot)
  | connect hip hport hslot hclosed hfree =>
    refine blockStep_update .same ?_
    rintro rfl
    exact .connecting (resolve_active hslot) hclosed
  | send hslot hestablished hacked hpos hmax =>
    refine blockStep_update .same ?_
    rintro rfl
    exact .sending (resolve_active hslot) hestablished hacked hpos hmax
  | receive hslot hamount hanswer =>
    refine blockStep_update .same ?_
    rintro rfl
    exact .drained rfl (resolve_active hslot) hamount
  | closeListener hslot hlisten =>
    unfold retireListener
    dsimp only
    split
    · exact .retired
    · exact .same
  | closeNow hslot hstate =>
    refine blockStep_update .same ?_
    rintro rfl
    exact .retired
  | closeStart hslot hstate =>
    refine blockStep_update .same ?_
    rintro rfl
    exact .finishing (resolve_active hslot) hstate
  | closeEnd hslot =>
    refine blockStep_update .same ?_
    rintro rfl
    exact .retired
  | cleanup =>
    unfold tcpSocketProcessCleanup
    dsimp only
    split
    · exact .retired
    · exact .same
  | @passive segment data address now delivered listener k =>
    refine blockStep_update (blockStep_swept _) ?_
    rintro rfl
    unfold passiveChild
    rw [initialized_sweep]
    exact .child _ listener segment now _
  | matched hvalid hslot htakes =>
    refine blockStep_update (blockStep_swept _) ?_
    rintro rfl
    have hactive := (matchesTuple_iff.mp (firstSlot_matches hslot)).1
    have hkept := sweepPassive_active hactive
    rw [hkept] at hactive htakes
    exact .takes rfl hvalid hslot hactive htakes
  | undone hslot hstate =>
    refine blockStep_update .same ?_
    rintro rfl
    exact .retired

end TcpTable

end ReistOs
