import ReistOs.TcpIngress

/-! What one critical section can do to the control blocks, with what it checked before. -/

namespace ReistOs

namespace TcpTable

variable {s : TcpTable} {owner : NetOwner} {handle : UInt32} {slot other : TcpSlot}

@[simp] theorem setControl_self (c : TcpControlBlock) : (s.setControl slot c).controls slot = c :=
  Function.update_self ..

theorem setControl_other (c : TcpControlBlock) (h : other ≠ slot) :
    (s.setControl slot c).controls other = s.controls other :=
  Function.update_of_ne h ..

variable {found : TcpControlBlock → Bool}

theorem firstSlot_some (h : s.firstSlot found = some slot) :
    found (s.controls slot) = true := by
  have hfound := List.find?_some h
  exact hfound

theorem firstSlot_none (h : s.firstSlot found = none) (slot : TcpSlot) :
    found (s.controls slot) = false := by
  have hnone := List.find?_eq_none.mp h slot (List.mem_finRange slot)
  simpa using hnone

theorem freeSlot_inactive (h : s.freeSlot = some slot) : (s.controls slot).active = false := by
  have hfound := firstSlot_some h
  simpa using hfound

@[simp] theorem sweepPassive_generation (now : UInt64) :
    ((s.sweepPassive now).controls slot).generation = (s.controls slot).generation := by
  unfold sweepPassive
  dsimp only
  split <;> rfl

theorem sweepPassive_active {now : UInt64}
    (h : ((s.sweepPassive now).controls slot).active = true) :
    (s.sweepPassive now).controls slot = s.controls slot := by
  unfold sweepPassive at h ⊢
  dsimp only at h ⊢
  split
  next he =>
    rw [if_pos he] at h
    cases h
  · rfl

theorem resolve_iff :
    s.resolve owner handle = some slot ↔
      (handle &&& 0xff).toNat = slot + 1 ∧ handle >>> 8 ≠ 0 ∧ (s.controls slot).active = true ∧
        (s.controls slot).generation = handle >>> 8 ∧ (s.controls slot).owner = owner := by
  unfold resolve
  simp only
  constructor
  · intro h
    split at h
    next hencoded =>
      split at h
      · cases h
      next hgeneration =>
        split at h
        · cases h
        next hcontrol =>
          have hslot := Option.some.inj h
          have hlow : (handle &&& 0xff).toNat = slot + 1 := by
            rw [← hslot]
            show _ = (handle &&& 0xff).toNat - 1 + 1
            omega
          rw [hslot] at hcontrol
          simp only [Bool.or_eq_true, Bool.not_eq_eq_eq_not, Bool.not_true, bne_iff_ne, ne_eq,
            not_or, Bool.not_eq_false, not_not] at hcontrol
          exact ⟨hlow, hgeneration, hcontrol.1.1, hcontrol.1.2, hcontrol.2⟩
    · cases h
  · rintro ⟨hlow, hne, hactive, hgeneration, howner⟩
    have hlt : (slot : Nat) < 4 := slot.isLt
    have hencoded : 0 < (handle &&& 0xff).toNat ∧
        (handle &&& 0xff).toNat ≤ tcpSocketMaxSockets := by
      rw [hlow]
      exact ⟨by omega, by show (slot : Nat) + 1 ≤ 4; omega⟩
    have hslot : (⟨(handle &&& 0xff).toNat - 1, by omega⟩ : TcpSlot) = slot := by
      apply Fin.ext
      show (handle &&& 0xff).toNat - 1 = slot
      omega
    rw [dif_pos hencoded, if_neg hne, hslot]
    simp [hactive, hgeneration, howner]

theorem resolve_active (h : s.resolve owner handle = some slot) :
    (s.controls slot).active = true :=
  (resolve_iff.mp h).2.2.1

/-! Ports for outgoing connections. -/

theorem exists_not_held {n : Nat} {β : Type} {candidates : Fin n → β} (held : Fin n → β)
    (slot : Fin n) (hinj : Function.Injective candidates) :
    ∃ i, ∀ other, other ≠ slot → held other ≠ candidates i := by
  by_contra hall
  push Not at hall
  choose holder hholder using hall
  have hmaps : ∀ i ∈ Finset.univ, holder i ∈ Finset.univ.erase slot := by
    intro i _
    exact Finset.mem_erase.mpr ⟨(hholder i).1, Finset.mem_univ _⟩
  have hcard : (Finset.univ.erase slot).card < (Finset.univ : Finset (Fin n)).card :=
    Finset.card_erase_lt_of_mem (Finset.mem_univ slot)
  obtain ⟨i, -, j, -, hne, heq⟩ := Finset.exists_ne_map_eq_of_card_lt_of_maps_to hcard hmaps
  have hsame : candidates i = candidates j := by
    rw [← (hholder i).2, ← (hholder j).2, heq]
  exact hne (hinj hsame)

/-- The candidate `k` places up in the range of ephemeral ports. -/
def ephemeral (k : Nat) : UInt16 := UInt16.ofNat (49152 + k % 8192)

theorem ephemeral_toNat (k : Nat) : (ephemeral k).toNat = 49152 + k % 8192 := by
  unfold ephemeral
  rw [UInt16.toNat_ofNat']
  omega

theorem nextCandidate_ephemeral (k : Nat) : nextCandidate (ephemeral k) = ephemeral (k + 1) := by
  have hk := ephemeral_toNat k
  have hnext := ephemeral_toNat (k + 1)
  have hlast : ephemeral k = 57343 ↔ k % 8192 = 8191 := by
    rw [← UInt16.toNat_inj, hk]
    show 49152 + k % 8192 = 57343 ↔ _
    omega
  unfold nextCandidate
  split
  next h =>
    have hmod := hlast.mp h
    apply UInt16.toNat_inj.mp
    rw [hnext]
    show 49152 = _
    omega
  next h =>
    have hmod : k % 8192 ≠ 8191 := fun he => h (hlast.mpr he)
    apply UInt16.toNat_inj.mp
    rw [UInt16.toNat_add, hk, hnext]
    show (49152 + k % 8192 + 1) % 65536 = _
    omega

theorem firstCandidate_ephemeral (slot : TcpSlot) (generation : UInt32) :
    ∃ k, firstCandidate slot generation = ephemeral k := by
  let offset : UInt32 := (UInt32.ofNat slot * 1021 + generation) % 8192
  have hoffset : offset.toNat < 8192 := by
    show ((UInt32.ofNat slot * 1021 + generation) % 8192).toNat < 8192
    rw [UInt32.toNat_mod]
    exact Nat.mod_lt _ (by decide)
  refine ⟨offset.toNat, ?_⟩
  apply UInt16.toNat_inj.mp
  rw [ephemeral_toNat]
  show (49152 + offset).toUInt16.toNat = _
  rw [UInt32.toNat_toUInt16, UInt32.toNat_add]
  show (49152 + offset.toNat) % 4294967296 % 65536 = _
  omega

theorem findPort_free {attempts k : Nat} (h : ∃ i, i < attempts ∧ ¬ s.portTaken slot (ephemeral (k + i))) :
    ∃ i, s.findPort slot attempts (ephemeral k) = (true, ephemeral (k + i)) ∧
      ¬ s.portTaken slot (ephemeral (k + i)) := by
  induction attempts generalizing k with
  | zero =>
    obtain ⟨i, hi, -⟩ := h
    omega
  | succ attempts ih =>
    obtain ⟨i, hi, hfree⟩ := h
    unfold findPort
    split
    next htaken =>
      have hi0 : i ≠ 0 := by
        intro he
        rw [he] at hfree
        exact hfree htaken
      have hshift : k + 1 + (i - 1) = k + i := by omega
      obtain ⟨j, hj, hjfree⟩ := ih (k := k + 1) ⟨i - 1, by omega, by rw [hshift]; exact hfree⟩
      refine ⟨j + 1, ?_, ?_⟩
      · rw [nextCandidate_ephemeral, hj, Nat.add_assoc, Nat.add_comm 1 j]
      · rw [Nat.add_comm j 1, ← Nat.add_assoc]
        exact hjfree
    next hfree0 => exact ⟨0, rfl, hfree0⟩

theorem findPort_available (s : TcpTable) (slot : TcpSlot) (generation : UInt32) :
    ∃ candidate, s.findPort slot tcpSocketMaxSockets (firstCandidate slot generation) =
      (true, candidate) ∧ ¬ s.portTaken slot candidate := by
  obtain ⟨k, hk⟩ := firstCandidate_ephemeral slot generation
  have hinj : Function.Injective fun i : TcpSlot => ephemeral (k + i) := by
    intro i j hij
    have hi := ephemeral_toNat (k + i)
    have hj := ephemeral_toNat (k + j)
    have hival : (i : Nat) < 4 := i.isLt
    have hjval : (j : Nat) < 4 := j.isLt
    have heq : (ephemeral (k + i)).toNat = (ephemeral (k + j)).toNat :=
      congrArg UInt16.toNat hij
    apply Fin.ext
    omega
  obtain ⟨i, hi⟩ := exists_not_held (fun other => (s.controls other).localPort) slot hinj
  have hfree : ¬ s.portTaken slot (ephemeral (k + i)) := by
    rintro ⟨other, hne, -, hport⟩
    exact hi other hne hport
  obtain ⟨j, hj, hjfree⟩ := findPort_free ⟨(i : Nat), i.isLt, hfree⟩
  refine ⟨ephemeral (k + j), ?_, hjfree⟩
  rw [hk]
  exact hj

end TcpTable

namespace TcpControlBlock

variable (c : TcpControlBlock)

def listening (port backlog : UInt16) : TcpControlBlock :=
  { c with localPort := port, backlog := backlog, state := .listen }

def handedOut : TcpControlBlock :=
  { c with accepted := true, listenerSlot := 0, passiveDeadline := 0 }

def givenUp : TcpControlBlock := { c with state := .closed }

def connecting (ip : UInt32) (port candidate : UInt16) (initial : UInt32) : TcpControlBlock :=
  { c with
    remoteIp := ip
    remotePort := port
    localPort := candidate
    sendUnacknowledged := initial
    sendNext := initial + 1
    peerWindow := tcpSocketMaxSegment
    state := .synSent }

def sending (length : Nat) : TcpControlBlock :=
  { c with sendNext := c.sendNext + UInt32.ofNat length }

/-- The block after `amount` bytes were read from it. -/
def drained (amount : Nat) : TcpControlBlock :=
  { c with
    receiveHead := RingBuffer.advance tcpSocketReceiveStorage c.receiveHead amount
    receiveCount := c.receiveCount - amount }

def finishing : TcpControlBlock :=
  { c with
    sendNext := c.sendNext + 1
    state := if c.state = .closeWait then .lastAck else .finWait1 }

/-- What a segment makes of the block whose tuple it has. -/
inductive Takes (segment : TcpSegment) (bytes : List UInt8) (now : UInt64) :
    TcpControlBlock → Prop
  | reset : segment.has tcpFlagRst = true → Takes segment bytes now c.givenUp
  | active : segment.has tcpFlagRst = false → c.state = .synSent → c.answersSyn segment →
      Takes segment bytes now (c.establishActive segment)
  | passive : segment.has tcpFlagRst = false → c.state = .synReceived →
      c.completesHandshake segment →
      Takes segment bytes now (c.establishPassive segment now)
  | passiveData : segment.has tcpFlagRst = false → c.state = .synReceived →
      c.completesHandshake segment → segment.length ≠ 0 →
      Takes segment bytes now ((c.establishPassive segment now).storeReceived bytes)
  | tail : segment.has tcpFlagRst = false → c.state ≠ .synSent → c.state ≠ .synReceived →
      ¬ c.refusesAck segment → Takes segment bytes now (c.takeSegment segment bytes)

end TcpControlBlock

open TcpTable

def TcpEvent.sweepTime : TcpEvent → Option UInt64
  | .opened _ _ now => some now
  | .listen _ _ _ _ now => some now
  | .accept _ _ _ _ _ now _ => some now
  | .ingress _ _ _ now _ => some now
  | _ => none

/-- The blocks after an event in the state `s`. -/
inductive TcpStep (s : TcpTable) : TcpEvent → (TcpSlot → TcpControlBlock) → Prop
  | idle {event : TcpEvent} : TcpStep s event s.controls
  | swept {event : TcpEvent} (now : UInt64) : event.sweepTime = some now →
      TcpStep s event (s.sweepPassive now).controls
  | opened {owner : NetOwner} {handleOut : Bool} {now : UInt64} {slot : TcpSlot} :
      owner.pid > 0 → owner.generation ≠ 0 → handleOut = true →
      (s.sweepPassive now).freeSlot = some slot →
      TcpStep s (.opened owner handleOut now)
        (Function.update (s.sweepPassive now).controls slot
          (((s.sweepPassive now).controls slot).initialized owner))
  | listen {owner : NetOwner} {handle : UInt32} {port backlog : UInt16} {now : UInt64}
      {slot : TcpSlot} :
      port ≠ 0 → backlog ≠ 0 → backlog ≤ tcpSocketMaxBacklog →
      (s.sweepPassive now).resolve owner handle = some slot →
      ((s.sweepPassive now).controls slot).state = .closed →
      ¬ (s.sweepPassive now).portListened slot port →
      TcpStep s (.listen owner handle port backlog now)
        (Function.update (s.sweepPassive now).controls slot
          (((s.sweepPassive now).controls slot).listening port backlog))
  | accept {owner : NetOwner} {listener : UInt32} {outs : Bool} {timeoutMs : UInt32}
      {started now : UInt64} {waited : Int} {index slot : TcpSlot} :
      (s.sweepPassive now).resolve owner listener = some index →
      ((s.sweepPassive now).controls index).state = .listen →
      (s.sweepPassive now).establishedChild index = some slot →
      TcpStep s (.accept owner listener outs timeoutMs started now waited)
        (Function.update (s.sweepPassive now).controls slot
          ((s.sweepPassive now).controls slot).handedOut)
  | gaveUp {wait : TcpAckWait} {now : UInt64} {delivered : Bool} {waited : Int}
      {slot : TcpSlot} :
      s.resolve wait.owner wait.handle = some slot → (s.controls slot).state ≠ .closed →
      (s.controls slot).sendUnacknowledged ≠ wait.expectedAck →
      (wait.deadline ≤ now ∨ tcpMaxRetries ≤ wait.retry) →
      TcpStep s (.waitForAck wait now delivered waited)
        (Function.update s.controls slot (s.controls slot).givenUp)
  | connect {owner : NetOwner} {handle ip : UInt32} {port : UInt16} {timeoutMs : UInt32}
      {clock started : UInt64} {slot : TcpSlot} {candidate : UInt16} {initial : UInt32} :
      ip ≠ 0 → port ≠ 0 → s.resolve owner handle = some slot →
      (s.controls slot).state = .closed → ¬ s.portTaken slot candidate →
      TcpStep s (.connect owner handle ip port timeoutMs clock started)
        (Function.update s.controls slot
          ((s.controls slot).connecting ip port candidate initial))
  | send {owner : NetOwner} {handle : UInt32} {data : Option (List UInt8)} {timeoutMs : UInt32}
      {started : UInt64} {slot : TcpSlot} {length : Nat} :
      s.resolve owner handle = some slot → (s.controls slot).state = .established →
      (s.controls slot).sendUnacknowledged = (s.controls slot).sendNext →
      0 < length → length ≤ tcpSocketMaxSegment.toNat →
      TcpStep s (.send owner handle data timeoutMs started)
        (Function.update s.controls slot ((s.controls slot).sending length))
  | receive {owner : NetOwner} {handle : UInt32} {dataOut : Bool} {capacity : Nat}
      {timeoutMs : UInt32} {started now : UInt64} {waited : Int} {slot : TcpSlot} {amount : Nat} :
      s.resolve owner handle = some slot → amount ≤ (s.controls slot).receiveCount →
      (s.perform (.receive owner handle dataOut capacity timeoutMs started now waited)).answer =
        .received (RingBuffer.contents tcpSocketReceiveStorage (s.controls slot).receiveBuffer
          (s.controls slot).receiveHead amount) →
      TcpStep s (.receive owner handle dataOut capacity timeoutMs started now waited)
        (Function.update s.controls slot ((s.controls slot).drained amount))
  | closeListener {owner : NetOwner} {handle : UInt32} {timeoutMs : UInt32} {started : UInt64}
      {slot : TcpSlot} :
      s.resolve owner handle = some slot → (s.controls slot).state = .listen →
      TcpStep s (.close owner handle timeoutMs started) (s.retireListener slot).controls
  | closeNow {owner : NetOwner} {handle : UInt32} {timeoutMs : UInt32} {started : UInt64}
      {slot : TcpSlot} :
      s.resolve owner handle = some slot → (s.controls slot).state ≠ .listen →
      TcpStep s (.close owner handle timeoutMs started)
        (Function.update s.controls slot (s.controls slot).retire)
  | closeStart {owner : NetOwner} {handle : UInt32} {timeoutMs : UInt32} {started : UInt64}
      {slot : TcpSlot} :
      s.resolve owner handle = some slot →
      ((s.controls slot).state = .established ∨ (s.controls slot).state = .closeWait) →
      TcpStep s (.close owner handle timeoutMs started)
        (Function.update s.controls slot (s.controls slot).finishing)
  | closeEnd {owner : NetOwner} {handle : UInt32} {result : Int} {slot : TcpSlot} :
      s.resolve owner handle = some slot →
      TcpStep s (.closeEnd owner handle result)
        (Function.update s.controls slot (s.controls slot).retire)
  | cleanup {owner : NetOwner} :
      TcpStep s (.cleanup owner) (s.tcpSocketProcessCleanup owner).table.controls
  | passive {segment : TcpSegment} {data : Option (Nat → UInt8)} {address : UInt32}
      {now : UInt64} {delivered : Bool} {listener slot : TcpSlot} :
      ¬ ingressInvalid segment data address →
      (s.sweepPassive now).firstSlot (·.matchesTuple segment) = none →
      (s.sweepPassive now).findListener segment.destinationPort = some listener →
      segment.masked tcpHandshakeFlags = tcpFlagSyn → segment.length = 0 →
      (s.sweepPassive now).pendingChildren listener <
        ((s.sweepPassive now).controls listener).backlog.toNat →
      (s.sweepPassive now).freeSlot = some slot →
      TcpStep s (.ingress (some segment) data address now delivered)
        (Function.update (s.sweepPassive now).controls slot
          ((s.sweepPassive now).passiveChild listener slot segment now))
  | matched {segment : TcpSegment} {data : Option (Nat → UInt8)} {address : UInt32}
      {now : UInt64} {delivered : Bool} {slot : TcpSlot} {control : TcpControlBlock} :
      ¬ ingressInvalid segment data address →
      (s.sweepPassive now).firstSlot (·.matchesTuple segment) = some slot →
      ((s.sweepPassive now).controls slot).Takes segment
        (segment.bytes (data.getD fun _ => 0)) now control →
      TcpStep s (.ingress (some segment) data address now delivered)
        (Function.update (s.sweepPassive now).controls slot control)
  | undone {owner : NetOwner} {handle : UInt32} {slot : TcpSlot} :
      s.resolve owner handle = some slot → (s.controls slot).state = .synReceived →
      TcpStep s (.ingressUndo owner handle)
        (Function.update s.controls slot (s.controls slot).retire)

namespace TcpTable

variable (s : TcpTable)

theorem open_spec (owner : NetOwner) (handleOut : Bool) (now : UInt64) :
    TcpStep s (.opened owner handleOut now) (s.step (.opened owner handleOut now)).controls := by
  show TcpStep s _ (s.tcpSocketOpen owner handleOut now).table.controls
  unfold tcpSocketOpen
  split
  · exact .idle
  next hargs =>
    simp only [not_or, Bool.not_eq_eq_eq_not, Bool.not_true, Bool.not_eq_false] at hargs
    dsimp only
    split
    · exact .swept now rfl
    next slot hfree => exact .opened (by omega) hargs.2.1 hargs.2.2 hfree

theorem listen_spec (owner : NetOwner) (handle : UInt32) (port backlog : UInt16) (now : UInt64) :
    TcpStep s (.listen owner handle port backlog now)
      (s.step (.listen owner handle port backlog now)).controls := by
  show TcpStep s _ (s.tcpSocketListen owner handle port backlog now).table.controls
  unfold tcpSocketListen
  split
  · exact .idle
  next hargs =>
    obtain ⟨hport, hbacklog, hmax⟩ := not_or.mp hargs |>.imp_right not_or.mp
    dsimp only
    split
    · exact .swept now rfl
    next slot hslot =>
      split
      · exact .swept now rfl
      next hclosed =>
        split
        · exact .swept now rfl
        next hfree =>
          exact .listen hport hbacklog (UInt16.not_lt.mp hmax) hslot (not_not.mp hclosed) hfree

theorem accept_spec (owner : NetOwner) (listener : UInt32) (outs : Bool) (timeoutMs : UInt32)
    (started now : UInt64) (waited : Int) :
    TcpStep s (.accept owner listener outs timeoutMs started now waited)
      (s.step (.accept owner listener outs timeoutMs started now waited)).controls := by
  show TcpStep s _ (s.tcpSocketAccept owner listener outs timeoutMs started now waited).table.controls
  unfold tcpSocketAccept
  split
  · exact .idle
  · dsimp only
    split
    · exact .swept now rfl
    next index hindex =>
      split
      · exact .swept now rfl
      next hlisten =>
        split
        next slot hslot => exact .accept hindex (not_not.mp hlisten) hslot
        · split
          · exact .swept now rfl
          · split
            · exact .swept now rfl
            · split <;> exact .swept now rfl

theorem waitForAck_spec (wait : TcpAckWait) (now : UInt64) (delivered : Bool) (waited : Int) :
    TcpStep s (.waitForAck wait now delivered waited)
      (s.step (.waitForAck wait now delivered waited)).controls := by
  show TcpStep s _ (s.waitForAck wait now delivered waited).table.controls
  unfold waitForAck
  split
  · exact .idle
  next slot hslot =>
    dsimp only
    split
    · exact .idle
    next hstate =>
      split
      · exact .idle
      next hack =>
        split
        next hlate => exact .gaveUp hslot hstate hack hlate
        · have hcounted : ∀ retry : UInt32,
              (if 1 < retry then { s with retransmissions := saturating s.retransmissions }
                else s : TcpTable).controls = s.controls := by
            intro retry
            split <;> rfl
          split
          · split
            · rw [hcounted]
              exact .idle
            · rw [hcounted]
              exact .idle
          · split <;> exact .idle

section

variable (owner : NetOwner)
include owner

theorem connect_spec (handle ip : UInt32) (port : UInt16) (timeoutMs : UInt32)
    (clock started : UInt64) :
    TcpStep s (.connect owner handle ip port timeoutMs clock started)
      (s.step (.connect owner handle ip port timeoutMs clock started)).controls := by
  show TcpStep s _ (s.tcpSocketConnect owner handle ip port timeoutMs clock started).table.controls
  unfold tcpSocketConnect
  split
  · exact .idle
  next hargs =>
    obtain ⟨hip, -, hport, -⟩ : ip ≠ 0 ∧ ip ≠ 0xffffffff ∧ port ≠ 0 ∧ _ := by
      simpa only [not_or] using hargs
    split
    · exact .idle
    next slot hslot =>
      dsimp only
      split
      · exact .idle
      next hclosed =>
        obtain ⟨candidate, hfound, hfree⟩ :=
          s.findPort_available slot (s.controls slot).generation
        rw [hfound]
        exact .connect hip hport hslot (not_not.mp hclosed) hfree

theorem connected_spec (handle : UInt32) :
    TcpStep s (.connected owner handle) (s.step (.connected owner handle)).controls := by
  show TcpStep s _ (s.tcpSocketConnected owner handle).table.controls
  unfold tcpSocketConnected
  split
  · exact .idle
  · split <;> exact .idle

theorem send_spec (handle : UInt32) (data : Option (List UInt8)) (timeoutMs : UInt32)
    (started : UInt64) :
    TcpStep s (.send owner handle data timeoutMs started)
      (s.step (.send owner handle data timeoutMs started)).controls := by
  show TcpStep s _ (s.tcpSocketSend owner handle data timeoutMs started).table.controls
  unfold tcpSocketSend
  split
  · exact .idle
  next bytes =>
    split
    · exact .idle
    next hargs =>
      simp only [not_or, not_lt] at hargs
      split
      · exact .idle
      next slot hslot =>
        dsimp only
        split
        · exact .idle
        next hestablished =>
          split
          · exact .idle
          next hacked =>
            split
            · exact .idle
            · exact .send hslot (not_not.mp hestablished) (not_not.mp hacked)
                (Nat.pos_of_ne_zero hargs.1) hargs.2.1

theorem receive_cases (handle : UInt32) (dataOut : Bool) (capacity : Nat) (timeoutMs : UInt32)
    (started now : UInt64) (waited : Int) :
    (∃ slot amount, s.resolve owner handle = some slot ∧
        amount ≤ (s.controls slot).receiveCount ∧
        (s.tcpSocketReceive owner handle dataOut capacity timeoutMs started now waited).answer =
          .received (RingBuffer.contents tcpSocketReceiveStorage
            (s.controls slot).receiveBuffer (s.controls slot).receiveHead amount) ∧
        (s.tcpSocketReceive owner handle dataOut capacity timeoutMs started now
          waited).table.controls =
          Function.update s.controls slot ((s.controls slot).drained amount)) ∨
      (s.tcpSocketReceive owner handle dataOut capacity timeoutMs started now waited).table = s ∧
        ∀ data, (s.tcpSocketReceive owner handle dataOut capacity timeoutMs started now
          waited).answer = .received data → data = [] := by
  unfold tcpSocketReceive
  split
  · exact .inr ⟨rfl, fun _ h => nomatch h⟩
  · dsimp only
    split
    · exact .inr ⟨rfl, fun _ h => nomatch h⟩
    next slot hslot =>
      split
      next hcount =>
        refine .inl ⟨slot, _, hslot, ?_, rfl, rfl⟩
        split <;> omega
      · split
        · exact .inr ⟨rfl, fun _ h => (TcpAnswer.received.inj h).symm⟩
        · split
          · exact .inr ⟨rfl, fun _ h => nomatch h⟩
          · split
            · exact .inr ⟨rfl, fun _ h => nomatch h⟩
            · split <;> exact .inr ⟨rfl, fun _ h => nomatch h⟩

theorem receive_spec (handle : UInt32) (dataOut : Bool) (capacity : Nat) (timeoutMs : UInt32)
    (started now : UInt64) (waited : Int) :
    TcpStep s (.receive owner handle dataOut capacity timeoutMs started now waited)
      (s.step (.receive owner handle dataOut capacity timeoutMs started now waited)).controls := by
  show TcpStep s _
    (s.tcpSocketReceive owner handle dataOut capacity timeoutMs started now waited).table.controls
  rcases s.receive_cases owner handle dataOut capacity timeoutMs started now waited with
    ⟨slot, amount, hslot, hamount, hanswer, htable⟩ | ⟨htable, -⟩
  · rw [htable]
    exact .receive hslot hamount hanswer
  · rw [htable]
    exact .idle

theorem close_spec (handle timeoutMs : UInt32) (started : UInt64) :
    TcpStep s (.close owner handle timeoutMs started)
      (s.step (.close owner handle timeoutMs started)).controls := by
  show TcpStep s _ (s.tcpSocketClose owner handle timeoutMs started).table.controls
  unfold tcpSocketClose
  split
  · exact .idle
  · split
    · exact .idle
    next slot hslot =>
      dsimp only
      split
      next hlisten => exact .closeListener hslot hlisten
      next hlisten =>
        split
        · exact .closeNow hslot hlisten
        · split
          · exact .closeNow hslot hlisten
          next hopen =>
            have hstates : (s.controls slot).state = .established ∨
                (s.controls slot).state = .closeWait := by
              by_contra hnone
              exact hopen (not_or.mp hnone)
            exact .closeStart hslot hstates

theorem closeWait_spec (handle : UInt32) (closeDeadline now : UInt64) (waited : Int) :
    TcpStep s (.closeWait owner handle closeDeadline now waited)
      (s.step (.closeWait owner handle closeDeadline now waited)).controls := by
  show TcpStep s _ (s.tcpSocketCloseWait owner handle closeDeadline now waited).table.controls
  unfold tcpSocketCloseWait
  split
  · exact .idle
  · split
    · exact .idle
    · split
      · exact .idle
      · split <;> exact .idle

theorem closeEnd_spec (handle : UInt32) (result : Int) :
    TcpStep s (.closeEnd owner handle result) (s.step (.closeEnd owner handle result)).controls := by
  show TcpStep s _ (s.tcpSocketCloseEnd owner handle result).table.controls
  unfold tcpSocketCloseEnd
  dsimp only
  split
  · exact .idle
  next slot hslot => exact .closeEnd hslot

end

variable {segment : TcpSegment} {address : UInt32} {now : UInt64} {delivered : Bool}

variable {data : Option (Nat → UInt8)}

theorem ingressPassive_spec (hvalid : ¬ ingressInvalid segment data address)
    (hnone : (s.sweepPassive now).firstSlot (·.matchesTuple segment) = none) :
    TcpStep s (.ingress (some segment) data address now delivered)
      ((s.sweepPassive now).ingressPassive segment now delivered).table.controls := by
  unfold ingressPassive
  split
  · exact .swept now rfl
  next listener hlistener =>
    split
    · exact .swept now rfl
    next hbare =>
      split
      · exact .swept now rfl
      next hbacklog =>
        split
        · exact .swept now rfl
        next slot hfree =>
          obtain ⟨hflags, hlength⟩ := not_or.mp hbare
          exact .passive hvalid hnone hlistener (not_not.mp hflags) (not_not.mp hlength)
            (Nat.lt_of_not_le hbacklog) hfree

theorem ingressMatched_spec {slot : TcpSlot} (hvalid : ¬ ingressInvalid segment data address)
    (hslot : (s.sweepPassive now).firstSlot (·.matchesTuple segment) = some slot) :
    TcpStep s (.ingress (some segment) data address now delivered)
      ((s.sweepPassive now).ingressMatched slot segment (segment.bytes (data.getD fun _ => 0)) now
        delivered).table.controls := by
  unfold ingressMatched
  dsimp only
  split
  next hrst => exact .matched hvalid hslot (.reset hrst)
  next hrst =>
    have hrst' : segment.has tcpFlagRst = false := Bool.eq_false_iff.mpr hrst
    split
    next hsent =>
      split
      next hanswer => exact .matched hvalid hslot (.active hrst' hsent hanswer)
      · exact .swept now rfl
    next hsent =>
      split
      next hreceived =>
        split
        · exact .swept now rfl
        · split
          next hcompletes =>
            split
            next hdata => exact .matched hvalid hslot (.passiveData hrst' hreceived hcompletes hdata)
            · exact .matched hvalid hslot (.passive hrst' hreceived hcompletes)
          · exact .swept now rfl
      next hreceived =>
        split
        · exact .swept now rfl
        next hack =>
          have hdropped : ∀ dropped : Prop, ∀ [Decidable dropped], ∀ c reply,
              (((if dropped then (s.sweepPassive now).drop else s.sweepPassive now).ingressReply slot
                c reply delivered).table.controls) =
                Function.update (s.sweepPassive now).controls slot c := by
            intro dropped _ c reply
            split <;> rfl
          rw [hdropped]
          exact .matched hvalid hslot (.tail hrst' hsent hreceived hack)

theorem ingress_spec (segment : Option TcpSegment) (data : Option (Nat → UInt8))
    (address : UInt32) (now : UInt64) (delivered : Bool) :
    TcpStep s (.ingress segment data address now delivered)
      (s.step (.ingress segment data address now delivered)).controls := by
  show TcpStep s _ (s.tcpSocketIngress segment data address now delivered).table.controls
  unfold tcpSocketIngress
  split
  · exact .idle
  next segment =>
    split
    · exact .idle
    next hvalid =>
      dsimp only
      split
      next hnone => exact s.ingressPassive_spec hvalid hnone
      next slot hslot => exact s.ingressMatched_spec hvalid hslot

theorem ingressUndo_spec (owner : NetOwner) (handle : UInt32) :
    TcpStep s (.ingressUndo owner handle) (s.step (.ingressUndo owner handle)).controls := by
  show TcpStep s _ (s.tcpSocketIngressUndo owner handle).table.controls
  unfold tcpSocketIngressUndo
  split
  · exact .idle
  next slot hslot =>
    split
    next hstate => exact .undone hslot hstate
    · exact .idle

/-- The inversion of the step function: every later proof about steps is a case analysis on
`TcpStep`. -/
theorem step_spec (event : TcpEvent) : TcpStep s event (s.step event).controls := by
  cases event with
  | opened owner handleOut now => exact s.open_spec owner handleOut now
  | listen owner handle port backlog now => exact s.listen_spec owner handle port backlog now
  | accept owner listener outs timeoutMs started now waited =>
    exact s.accept_spec owner listener outs timeoutMs started now waited
  | waitForAck wait now delivered waited => exact s.waitForAck_spec wait now delivered waited
  | connect owner handle ip port timeoutMs clock started =>
    exact s.connect_spec owner handle ip port timeoutMs clock started
  | connected owner handle => exact s.connected_spec owner handle
  | send owner handle data timeoutMs started => exact s.send_spec owner handle data timeoutMs started
  | receive owner handle dataOut capacity timeoutMs started now waited =>
    exact s.receive_spec owner handle dataOut capacity timeoutMs started now waited
  | close owner handle timeoutMs started => exact s.close_spec owner handle timeoutMs started
  | closeWait owner handle closeDeadline now waited =>
    exact s.closeWait_spec owner handle closeDeadline now waited
  | closeEnd owner handle result => exact s.closeEnd_spec owner handle result
  | cleanup owner => exact .cleanup
  | ingress segment data address now delivered =>
    exact s.ingress_spec segment data address now delivered
  | ingressUndo owner handle => exact s.ingressUndo_spec owner handle

/-! Runs. -/

variable {s} {condition : TcpTable → TcpEvent → Prop} {events later : List TcpEvent}

theorem run_append : s.run (events ++ later) = (s.run events).run later :=
  List.foldl_append ..

theorem run_snoc (event : TcpEvent) : s.run (events ++ [event]) = (s.run events).step event :=
  run_append

/-- Every step of the run meets the condition in the state it starts from. -/
def Meets (condition : TcpTable → TcpEvent → Prop) : TcpTable → List TcpEvent → Prop
  | _, [] => True
  | s, event :: events => condition s event ∧ Meets condition (s.step event) events

theorem meets_append :
    s.Meets condition (events ++ later) ↔
      s.Meets condition events ∧ (s.run events).Meets condition later := by
  induction events generalizing s with
  | nil => exact (Iff.of_eq (true_and _)).symm
  | cons event events ih =>
    show condition s event ∧ (s.step event).Meets condition (events ++ later) ↔ _
    rw [ih]
    exact and_assoc.symm

theorem run_induction {motive : TcpTable → Prop}
    (hstep : ∀ s event, condition s event → motive s → motive (s.step event))
    (hmeets : s.Meets condition events) (hstart : motive s) : motive (s.run events) := by
  induction events generalizing s with
  | nil => exact hstart
  | cons event events ih => exact ih hmeets.2 (hstep s event hmeets.1 hstart)

end TcpTable

end ReistOs
