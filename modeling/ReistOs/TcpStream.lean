import ReistOs.TcpClosing

/-! The bytes of the peer, from the segments through the ring of a block to the calls of
tcp_socket_receive. -/

namespace ReistOs

open TcpControlBlock RingBuffer

namespace TcpControlBlock

variable {c c' : TcpControlBlock} {segment : TcpSegment} {bytes : List UInt8}

def buffered (c : TcpControlBlock) : List UInt8 :=
  RingBuffer.contents tcpSocketReceiveStorage c.receiveBuffer c.receiveHead c.receiveCount

/-- The ring is in bounds, and nothing is stored before the handshake of a child is complete. -/
structure RingSound (c : TcpControlBlock) : Prop where
  head_lt : c.receiveHead < tcpSocketReceiveStorage
  count_le : c.receiveCount ≤ tcpSocketReceiveStorage
  handshake : c.state = .synReceived → c.receiveCount = 0

theorem RingSound.kept (h : c.RingSound) (hhead : c'.receiveHead = c.receiveHead)
    (hcount : c'.receiveCount = c.receiveCount)
    (hstate : c'.state = .synReceived → c.state = .synReceived) : c'.RingSound := by
  refine ⟨?_, ?_, ?_⟩
  · rw [hhead]
    exact h.head_lt
  · rw [hcount]
    exact h.count_le
  · intro hreceived
    rw [hcount]
    exact h.handshake (hstate hreceived)

theorem ringSound_empty (hhead : c.receiveHead = 0) (hcount : c.receiveCount = 0) :
    c.RingSound := by
  refine ⟨?_, ?_, fun _ => hcount⟩
  · rw [hhead]
    decide
  · rw [hcount]
    exact Nat.zero_le _

theorem RingSound.freeSpace (h : c.RingSound) :
    c.freeSpace = tcpSocketReceiveStorage - c.receiveCount := by
  have hcount : c.receiveCount ≤ 32768 := h.count_le
  show (32768 + 4294967296 - c.receiveCount) % 4294967296 = 32768 - c.receiveCount
  omega

theorem count_store (hroom : c.receiveCount + bytes.length ≤ tcpSocketReceiveStorage) :
    (c.storeReceived bytes).receiveCount = c.receiveCount + bytes.length := by
  have hroom' : c.receiveCount + bytes.length ≤ 32768 := hroom
  show (c.receiveCount + bytes.length) % 65536 = _
  omega

theorem RingSound.buffered_store (h : c.RingSound)
    (hroom : c.receiveCount + bytes.length ≤ tcpSocketReceiveStorage) :
    (c.storeReceived bytes).buffered = c.buffered ++ bytes := by
  unfold buffered
  rw [count_store hroom]
  exact contents_store h.head_lt hroom

theorem RingSound.store (h : c.RingSound) (hstate : c.state ≠ .synReceived)
    (hroom : c.receiveCount + bytes.length ≤ tcpSocketReceiveStorage) :
    (c.storeReceived bytes).RingSound := by
  refine ⟨h.head_lt, ?_, fun hreceived => absurd hreceived hstate⟩
  rw [count_store hroom]
  exact hroom

theorem RingSound.drained {amount : Nat} (h : c.RingSound) (hamount : amount ≤ c.receiveCount) :
    (c.drained amount).RingSound := by
  refine ⟨?_, ?_, ?_⟩
  · show advance _ _ _ < _
    rw [advance_eq h.head_lt]
    exact Nat.mod_lt _ (by decide)
  · exact (Nat.sub_le _ _).trans h.count_le
  · intro hreceived
    have hzero := h.handshake hreceived
    show c.receiveCount - amount = 0
    omega

theorem buffered_drained {amount : Nat} (hamount : amount ≤ c.receiveCount) :
    RingBuffer.contents tcpSocketReceiveStorage c.receiveBuffer c.receiveHead amount ++
      (c.drained amount).buffered = c.buffered :=
  (contents_front hamount).symm

theorem takeAck_ring (c : TcpControlBlock) (segment : TcpSegment) :
    (c.takeAck segment).receiveHead = c.receiveHead ∧
    (c.takeAck segment).receiveCount = c.receiveCount ∧
    (c.takeAck segment).receiveBuffer = c.receiveBuffer ∧
    (c.takeAck segment).receiveNext = c.receiveNext ∧
    ((c.takeAck segment).state = .synReceived → c.state = .synReceived) := by
  unfold takeAck acknowledgedState
  split
  · refine ⟨rfl, rfl, rfl, rfl, ?_⟩
    intro h
    split at h
    · split at h
      · cases h
      · split at h
        · cases h
        · exact h
    · exact h
  · exact ⟨rfl, rfl, rfl, rfl, id⟩

theorem takeAck_sound (h : c.RingSound) : (c.takeAck segment).RingSound := by
  obtain ⟨hhead, hcount, -, -, hstate⟩ := takeAck_ring c segment
  exact h.kept hhead hcount hstate

theorem takeFin_sound (h : c.RingSound) : (c.takeFin segment).RingSound := by
  unfold takeFin
  split
  · refine h.kept rfl rfl ?_
    intro hreceived
    split at hreceived <;> cases hreceived
  · exact h

variable (h : c.RingSound) (hlength : bytes.length = segment.length.toNat)
include h hlength

theorem RingSound.room (htakes : c.takesData segment) :
    c.receiveCount + bytes.length ≤ tcpSocketReceiveStorage := by
  have hcount := h.count_le
  have hfits := htakes.2.2
  rw [h.freeSpace] at hfits
  omega

theorem takeData_sound (hstate : c.state ≠ .synReceived) :
    (c.takeData segment bytes).RingSound := by
  unfold takeData
  split
  next htakes => exact h.store hstate (h.room hlength htakes)
  next => exact h

theorem takeSegment_sound (hstate : c.state ≠ .synReceived) :
    (c.takeSegment segment bytes).RingSound := by
  have hacked : (c.takeAck segment).state ≠ .synReceived :=
    fun he => hstate ((takeAck_ring _ _).2.2.2.2 he)
  exact takeFin_sound (takeData_sound (takeAck_sound h) hlength hacked)

end TcpControlBlock

namespace TcpTable

variable {s : TcpTable} {event : TcpEvent} {slot : TcpSlot} {c' : TcpControlBlock}

variable {segment : TcpSegment} {address timeoutMs : UInt32} {now : UInt64} {delivered : Bool}
  {waited : Int} {s' u : TcpTable} {owner : NetOwner}

variable {data : Option (Nat → UInt8)}

theorem valid_length (hvalid : ¬ ingressInvalid segment data address) :
    segment.length.toNat ≤ 512 := by
  have hle : ¬ tcpSocketMaxSegment < segment.length := by
    intro hlt
    exact hvalid (.inr (.inr (.inr (.inr (.inr (.inr (.inl hlt)))))))
  exact UInt16.le_iff_toNat_le.mp (UInt16.not_lt.mp hle)

theorem ringSound_step (h : (s.controls slot).RingSound) (hstep : TcpBlockStep s event slot c') :
    c'.RingSound := by
  cases hstep with
  | same => exact h
  | retired => exact ringSound_empty rfl rfl
  | opened owner => exact ringSound_empty rfl rfl
  | child owner listener segment now initial => exact ringSound_empty rfl rfl
  | listening hactive hclosed => exact h.kept rfl rfl nofun
  | handedOut hactive hestablished => exact h.kept rfl rfl id
  | givenUp hactive => exact h.kept rfl rfl nofun
  | connecting hactive hclosed => exact h.kept rfl rfl nofun
  | sending hactive hestablished hacked hpos hmax => exact h.kept rfl rfl id
  | drained hevent hactive hamount => exact h.drained hamount
  | finishing hactive hstate =>
    refine h.kept rfl rfl ?_
    show (if (s.controls slot).state = .closeWait then _ else _) = _ → _
    intro hreceived
    split at hreceived <;> cases hreceived
  | @takes segment data address now delivered control hevent hvalid hslot hactive htakes =>
    have hlength := length_bytes segment (data.getD fun _ => 0)
    cases htakes with
    | reset hrst => exact h.kept rfl rfl nofun
    | active hrst hsent hanswer => exact h.kept rfl rfl nofun
    | passive hrst hreceived hcompletes => exact h.kept rfl rfl nofun
    | passiveData hrst hreceived hcompletes hdata =>
      have hestablished : ((s.controls slot).establishPassive segment now).RingSound :=
        h.kept rfl rfl nofun
      refine hestablished.store nofun ?_
      have hzero : ((s.controls slot).establishPassive segment now).receiveCount = 0 :=
        h.handshake hreceived
      have hshort := valid_length hvalid
      rw [hzero, hlength]
      show 0 + segment.length.toNat ≤ 32768
      omega
    | tail hrst hsent hreceived hack =>
      exact takeSegment_sound h hlength hreceived

theorem ringSound_run {events : List TcpEvent} (h : ∀ slot, (s.controls slot).RingSound)
    (slot : TcpSlot) : ((s.run events).controls slot).RingSound := by
  induction events generalizing s with
  | nil => exact h slot
  | cons event events ih =>
    apply ih
    intro slot
    exact ringSound_step (h slot) (blockStep (s.step_spec event) slot)

theorem ringSound_init (slot : TcpSlot) : (tcpSocketInit.controls slot).RingSound :=
  ringSound_empty rfl rfl

/-! What is sent. -/

/-- A segment made from a block as it is before the step or after it. -/
def SentFrom (s s' : TcpTable) (w : TcpWireSegment) : Prop :=
  ∃ slot control sequence flags data,
    (control = s.controls slot ∨ control = s'.controls slot) ∧
      w = TcpControlBlock.wire control sequence flags data

/-- The events that may send a segment. -/
def sends : TcpEvent → Bool
  | .waitForAck .. | .receive .. | .close .. | .cleanup .. | .ingress .. => true
  | _ => false

theorem silent_sent {event : TcpEvent} (h : sends event = false) : (s.perform event).sent = [] := by
  cases event with
  | waitForAck | receive | close | cleanup | ingress => cases h
  | opened =>
    dsimp only [perform, tcpSocketOpen]
    split
    · rfl
    · split <;> rfl
  | listen =>
    dsimp only [perform, tcpSocketListen]
    split
    · rfl
    · split
      · rfl
      · split
        · rfl
        · split <;> rfl
  | accept =>
    dsimp only [perform, tcpSocketAccept]
    split
    · rfl
    · split
      · rfl
      · split
        · rfl
        · split
          · rfl
          · split
            · rfl
            · split
              · rfl
              · split <;> rfl
  | connect =>
    dsimp only [perform, tcpSocketConnect]
    split
    · rfl
    · split
      · rfl
      · split
        · rfl
        · split <;> rfl
  | connected =>
    dsimp only [perform, tcpSocketConnected]
    split
    · rfl
    · split <;> rfl
  | send =>
    dsimp only [perform, tcpSocketSend]
    split
    · rfl
    · split
      · rfl
      · split
        · rfl
        · split
          · rfl
          · split
            · rfl
            · split <;> rfl
  | closeWait =>
    dsimp only [perform, tcpSocketCloseWait]
    split
    · rfl
    · split
      · rfl
      · split
        · rfl
        · split <;> rfl
  | closeEnd =>
    dsimp only [perform, tcpSocketCloseEnd]
    split <;> rfl
  | ingressUndo =>
    dsimp only [perform, tcpSocketIngressUndo]
    split
    · rfl
    · split <;> rfl

variable {w : TcpWireSegment}

theorem waitForAck_sent {wait : TcpAckWait} (h : w ∈ (s.waitForAck wait now delivered waited).sent) :
    SentFrom s s' w := by
  unfold waitForAck at h
  split at h
  · cases h
  next slot hslot =>
    dsimp only at h
    split at h
    · cases h
    · split at h
      · cases h
      · split at h
        · cases h
        · split at h
          · have hw : w = (s.controls slot).wire wait.sequence wait.flags wait.data := by
              split at h <;> exact List.mem_singleton.mp h
            exact ⟨slot, _, _, _, _, .inl rfl, hw⟩
          · split at h <;> cases h

theorem receive_sent {handle : UInt32} {dataOut : Bool} {capacity : Nat} {started : UInt64}
    (h : w ∈ (s.tcpSocketReceive owner handle dataOut capacity timeoutMs started now waited).sent) :
    SentFrom s
      (s.tcpSocketReceive owner handle dataOut capacity timeoutMs started now waited).table w := by
  unfold tcpSocketReceive at h ⊢
  split at h
  · cases h
  next hargs =>
    rw [if_neg hargs]
    dsimp only at h ⊢
    split at h
    · cases h
    next slot hslot =>
      split at h
      next hcount =>
        rw [if_pos hcount]
        refine ⟨slot, _, _, _, _, .inr ?_, List.mem_singleton.mp h⟩
        exact (setControl_self _).symm
      · split at h
        · cases h
        · split at h
          · cases h
          · split at h
            · cases h
            · split at h <;> cases h

theorem close_sent {handle : UInt32} {started : UInt64}
    (h : w ∈ (s.tcpSocketClose owner handle timeoutMs started).sent) :
    SentFrom s s' w := by
  unfold tcpSocketClose at h
  split at h
  · cases h
  · split at h
    · cases h
    next slot hslot =>
      dsimp only at h
      split at h
      · cases h
      · split at h
        · split at h
          · exact ⟨slot, _, _, _, _, .inl rfl, List.mem_singleton.mp h⟩
          · cases h
        · split at h <;> cases h

theorem cleanup_sent (h : w ∈ (s.tcpSocketProcessCleanup owner).sent) : SentFrom s s' w := by
  obtain ⟨slot, -, hw⟩ := List.mem_map.mp h
  exact ⟨slot, _, _, _, _, .inl rfl, hw.symm⟩

theorem ingressReply_sent {control : TcpControlBlock} {reply : Bool}
    (h : w ∈ (u.ingressReply slot control reply delivered).sent) :
    SentFrom s (u.ingressReply slot control reply delivered).table w := by
  unfold ingressReply at h ⊢
  split at h
  · refine ⟨slot, _, _, _, _, .inr ?_, List.mem_singleton.mp h⟩
    exact (setControl_self _).symm
  · cases h

theorem ingressMatched_sent {bytes : List UInt8}
    (h : w ∈ (u.ingressMatched slot segment bytes now delivered).sent) :
    SentFrom s (u.ingressMatched slot segment bytes now delivered).table w := by
  unfold ingressMatched at h ⊢
  dsimp only at h ⊢
  split at h
  · cases h
  next hrst =>
    rw [if_neg hrst]
    split at h
    next hsent =>
      rw [if_pos hsent]
      split at h
      next hanswer =>
        rw [if_pos hanswer]
        exact ingressReply_sent h
      · cases h
    next hsent =>
      rw [if_neg hsent]
      split at h
      next hreceived =>
        rw [if_pos hreceived]
        split at h
        next hrepeats =>
          rw [if_pos hrepeats]
          exact ⟨slot, _, _, _, _, .inr rfl, List.mem_singleton.mp h⟩
        next hrepeats =>
          rw [if_neg hrepeats]
          split at h
          next hcompletes =>
            rw [if_pos hcompletes]
            split at h
            next hdata =>
              rw [if_pos hdata]
              exact ingressReply_sent h
            next hdata =>
              rw [if_neg hdata]
              exact ingressReply_sent h
          · cases h
      next hreceived =>
        rw [if_neg hreceived]
        split at h
        · cases h
        next hack =>
          rw [if_neg hack]
          exact ingressReply_sent h

theorem ingressPassive_sent (h : w ∈ (u.ingressPassive segment now delivered).sent) :
    SentFrom s (u.ingressPassive segment now delivered).table w := by
  unfold ingressPassive at h ⊢
  split at h
  · cases h
  next listener hlistener =>
    split at h
    · cases h
    next hbare =>
      rw [if_neg hbare]
      split at h
      · cases h
      next hbacklog =>
        rw [if_neg hbacklog]
        split at h
        · cases h
        next child hfree =>
          refine ⟨child, _, _, _, _, .inr ?_, List.mem_singleton.mp h⟩
          exact (setControl_self _).symm

theorem ingress_sent {segment : Option TcpSegment}
    (h : w ∈ (s.tcpSocketIngress segment data address now delivered).sent) :
    SentFrom s (s.tcpSocketIngress segment data address now delivered).table w := by
  unfold tcpSocketIngress at h ⊢
  split at h
  · cases h
  next segment =>
    split at h
    · cases h
    next hvalid =>
      dsimp only at h ⊢
      rw [if_neg hvalid]
      split at h
      · exact ingressPassive_sent h
      · exact ingressMatched_sent h

theorem sent_spec (event : TcpEvent) (h : w ∈ (s.perform event).sent) :
    SentFrom s (s.step event) w := by
  by_cases hsends : sends event = true
  · cases event with
    | waitForAck => exact waitForAck_sent h
    | receive => exact receive_sent h
    | close => exact close_sent h
    | cleanup => exact cleanup_sent h
    | ingress => exact ingress_sent h
    | _ => cases hsends
  · rw [silent_sent (by simpa using hsends)] at h
    cases h

end TcpTable

/-! One connection and the stream of its peer. -/

/-- The data is a part of the stream whose first byte has the sequence number `initial`, and a FIN
follows the last byte. -/
structure TcpSegment.CutFrom (segment : TcpSegment) (stream : List UInt8) (initial : UInt32)
    (bytes : List UInt8) : Prop where
  data : segment.length ≠ 0 → ∃ offset, offset + segment.length.toNat ≤ stream.length ∧
    segment.sequence = initial + UInt32.ofNat offset ∧
    bytes = (stream.drop offset).take segment.length.toNat
  fin : segment.has tcpFlagFin = true →
    segment.sequence + segment.length.toUInt32 = initial + UInt32.ofNat stream.length

/-- What was returned and what waits is what was there before and the stream up to the next
sequence number, which is one more after the FIN. -/
def TcpControlBlock.Flows (c : TcpControlBlock) (stale stream : List UInt8) (initial : UInt32)
    (returned : List UInt8) : Prop :=
  ∃ n, n ≤ stream.length ∧ returned ++ c.buffered = stale ++ stream.take n ∧
    (c.receiveNext = initial + UInt32.ofNat n ∨
      n = stream.length ∧ c.receiveNext = initial + UInt32.ofNat (n + 1))

namespace TcpControlBlock

variable {c c' : TcpControlBlock} {segment : TcpSegment} {bytes stale stream returned : List UInt8}
  {initial : UInt32} {now : UInt64}

theorem offset_inj {a b : Nat} (ha : a < 4294967296) (hb : b < 4294967296)
    (h : initial + UInt32.ofNat a = initial + UInt32.ofNat b) : a = b := by
  have hnat := congrArg UInt32.toNat ((UInt32.add_right_inj initial).mp h)
  rw [UInt32.toNat_ofNat', UInt32.toNat_ofNat'] at hnat
  omega

theorem offset_add (initial : UInt32) (a b : Nat) :
    initial + UInt32.ofNat a + UInt32.ofNat b = initial + UInt32.ofNat (a + b) := by
  rw [UInt32.add_assoc]
  congr 1
  apply UInt32.toNat_inj.mp
  rw [UInt32.toNat_add, UInt32.toNat_ofNat', UInt32.toNat_ofNat', UInt32.toNat_ofNat']
  omega

variable (h : c.Flows stale stream initial returned)
include h

theorem Flows.kept (hbuffered : c'.buffered = c.buffered) (hnext : c'.receiveNext = c.receiveNext) :
    c'.Flows stale stream initial returned := by
  obtain ⟨n, hn, hbytes, hat⟩ := h
  refine ⟨n, hn, ?_, ?_⟩
  · rw [hbuffered]
    exact hbytes
  · rw [hnext]
    exact hat

theorem Flows.store (hring : c.RingSound) (hshort : stream.length < 2147483648)
    (hcut : segment.CutFrom stream initial bytes) (hsome : segment.length ≠ 0)
    (hnext : segment.sequence = c.receiveNext) (hlength : bytes.length = segment.length.toNat)
    (hroom : c.receiveCount + bytes.length ≤ tcpSocketReceiveStorage) :
    (c.storeReceived bytes).Flows stale stream initial returned := by
  obtain ⟨n, hn, hbytes, hat⟩ := h
  obtain ⟨offset, hoffset, hsequence, hpart⟩ := hcut.data hsome
  have hpositive : 0 < segment.length.toNat := by
    apply Nat.pos_of_ne_zero
    intro hzero
    exact hsome (UInt16.toNat_inj.mp hzero)
  rw [hsequence] at hnext
  rcases hat with hat | ⟨hend, hat⟩
  · have heq : offset = n := offset_inj (by omega) (by omega) (hnext.trans hat)
    rw [heq] at hpart hoffset
    refine ⟨n + segment.length.toNat, hoffset, ?_, .inl ?_⟩
    · rw [hring.buffered_store hroom, ← List.append_assoc, hbytes, List.append_assoc, hpart,
        List.take_add]
    · show c.receiveNext + UInt32.ofNat bytes.length = _
      rw [hat, hlength, offset_add]
  · have heq : offset = n + 1 := offset_inj (by omega) (by omega) (hnext.trans hat)
    omega

theorem Flows.fin (hshort : stream.length < 2147483648)
    (hcut : segment.CutFrom stream initial bytes) :
    (c.takeFin segment).Flows stale stream initial returned := by
  unfold takeFin
  split
  next hfin =>
    obtain ⟨n, hn, hbytes, hat⟩ := h
    have hlast := (hcut.fin hfin.1).symm.trans hfin.2
    rcases hat with hat | ⟨hend, hat⟩
    · have heq : stream.length = n := offset_inj (by omega) (by omega) (hlast.trans hat)
      refine ⟨n, hn, hbytes, .inr ⟨heq.symm, ?_⟩⟩
      show c.receiveNext + 1 = _
      rw [hat]
      exact offset_add initial n 1
    · have heq : stream.length = n + 1 := offset_inj (by omega) (by omega) (hlast.trans hat)
      omega
  next => exact h

theorem Flows.takeSegment (hring : c.RingSound) (hshort : stream.length < 2147483648)
    (hcut : segment.CutFrom stream initial bytes) (hlength : bytes.length = segment.length.toNat) :
    (c.takeSegment segment bytes).Flows stale stream initial returned := by
  obtain ⟨hhead, hcount, hbuffer, hnext, -⟩ := takeAck_ring c segment
  have hbuffered : (c.takeAck segment).buffered = c.buffered := by
    unfold buffered
    rw [hhead, hcount, hbuffer]
  have hacked : (c.takeAck segment).Flows stale stream initial returned :=
    h.kept hbuffered hnext
  have hringAcked : (c.takeAck segment).RingSound := takeAck_sound hring
  refine Flows.fin ?_ hshort hcut
  unfold takeData
  split
  next htakes =>
    exact hacked.store hringAcked hshort hcut htakes.1 htakes.2.1 hlength
      (hringAcked.room hlength htakes)
  next => exact hacked

theorem Flows.drained {amount : Nat} (hamount : amount ≤ c.receiveCount) :
    (c.drained amount).Flows stale stream initial (returned ++
      RingBuffer.contents tcpSocketReceiveStorage c.receiveBuffer c.receiveHead amount) := by
  obtain ⟨n, hn, hbytes, hat⟩ := h
  refine ⟨n, hn, ?_, hat⟩
  rw [List.append_assoc, buffered_drained hamount]
  exact hbytes

theorem Flows.arrived (hshort : stream.length < 2147483648) :
    returned ++ c.buffered = stale ++ stream.take (c.receiveNext - initial).toNat := by
  obtain ⟨n, hn, hbytes, hat⟩ := h
  have hdistance : ∀ k, k < 4294967296 → (initial + UInt32.ofNat k - initial).toNat = k := by
    intro k hk
    have hsub : initial + UInt32.ofNat k - initial = UInt32.ofNat k := by
      rw [UInt32.add_comm, UInt32.add_sub_cancel]
    rw [hsub, UInt32.toNat_ofNat']
    omega
  rw [hbytes]
  rcases hat with hat | ⟨hend, hat⟩
  · rw [hat, hdistance n (by omega)]
  · rw [hat, hdistance (n + 1) (by omega), hend, List.take_length,
      List.take_of_length_le (Nat.le_succ _)]

end TcpControlBlock

namespace TcpTable

variable {s : TcpTable} {event : TcpEvent} {events : List TcpEvent} {k : TcpSlot}
  {stale stream taken : List UInt8} {initial : UInt32}

/-- The bytes that an event returns from the block `k`. -/
def returnedBy (s : TcpTable) (k : TcpSlot) : TcpEvent → List UInt8
  | .receive owner handle dataOut capacity timeoutMs started now waited =>
    if s.resolve owner handle = some k then
      match (s.tcpSocketReceive owner handle dataOut capacity timeoutMs started now
        waited).answer with
      | .received data => data
      | _ => []
    else []
  | _ => []

/-- The bytes that a run returns from the block `k`. -/
def returned (k : TcpSlot) : TcpTable → List TcpEvent → List UInt8
  | _, [] => []
  | s, event :: events => s.returnedBy k event ++ returned k (s.step event) events

/-- The block `k` goes on with the same connection: it is not retired, and no other connection
is made with it. -/
def Continues (k : TcpSlot) (s : TcpTable) (event : TcpEvent) : Prop :=
  ((s.step event).controls k).active = true ∧
    ((s.step event).controls k).generation = (s.controls k).generation ∧
    ((s.step event).controls k).state ≠ .synSent

/-- A segment for the block `k` is cut from the stream of its peer. -/
def Feeds (k : TcpSlot) (stream : List UInt8) (initial : UInt32) (s : TcpTable) :
    TcpEvent → Prop
  | .ingress (some segment) data address now _ =>
    ¬ ingressInvalid segment data address →
      (s.sweepPassive now).firstSlot (·.matchesTuple segment) = some k →
      segment.CutFrom stream initial (segment.bytes (data.getD fun _ => 0))
  | _ => True

def Opened (s : TcpTable) (k : TcpSlot) : Prop :=
  (s.controls k).state ≠ .synSent ∧ (s.controls k).state ≠ .synReceived

theorem takeSegment_opened {c : TcpControlBlock} {segment : TcpSegment} {bytes : List UInt8}
    (hreceived : c.state ≠ .synReceived) : (c.takeSegment segment bytes).state ≠ .synReceived := by
  have hacked : (c.takeAck segment).state ≠ .synReceived :=
    fun he => hreceived ((takeAck_ring _ _).2.2.2.2 he)
  unfold takeSegment takeFin
  split
  · dsimp only
    split <;> nofun
  · unfold takeData
    split <;> exact hacked

theorem flows_step_receive {owner : NetOwner} {handle : UInt32} {dataOut : Bool} {capacity : Nat}
    {timeoutMs : UInt32} {started now : UInt64} {waited : Int}
    (hopened : s.Opened k) (h : (s.controls k).Flows stale stream initial taken) :
    (s.step (.receive owner handle dataOut capacity timeoutMs started now waited)).Opened k ∧
      ((s.step (.receive owner handle dataOut capacity timeoutMs started now
        waited)).controls k).Flows stale stream initial (taken ++
          s.returnedBy k (.receive owner handle dataOut capacity timeoutMs started now waited)) := by
  unfold step perform returnedBy
  dsimp only
  rcases s.receive_cases owner handle dataOut capacity timeoutMs started now waited with
    ⟨slot, amount, hslot, hamount, hanswer, htable⟩ | ⟨htable, hnone⟩
  · rw [hanswer, hslot]
    unfold Opened
    rw [htable]
    by_cases he : slot = k
    · rw [← he] at hopened h ⊢
      rw [if_pos rfl, Function.update_self]
      exact ⟨hopened, h.drained hamount⟩
    · rw [if_neg (fun hsome => he (Option.some.inj hsome)), List.append_nil,
        Function.update_of_ne (Ne.symm he)]
      exact ⟨hopened, h⟩
  · have hempty : (if s.resolve owner handle = some k then
        (match (s.tcpSocketReceive owner handle dataOut capacity timeoutMs started now
          waited).answer with
        | .received data => data
        | _ => []) else []) = [] := by
      split
      · split
        next data hdata => exact hnone data hdata
        · rfl
      · rfl
    rw [hempty, List.append_nil, htable]
    exact ⟨hopened, h⟩

theorem flows_step (hshort : stream.length < 2147483648) (hcontinues : s.Continues k event)
    (hfeeds : s.Feeds k stream initial event) (hring : (s.controls k).RingSound)
    (hopened : s.Opened k) (h : (s.controls k).Flows stale stream initial taken) :
    (s.step event).Opened k ∧
      ((s.step event).controls k).Flows stale stream initial
        (taken ++ s.returnedBy k event) := by
  by_cases hreceive : ∃ owner handle dataOut capacity timeoutMs started now waited,
      event = .receive owner handle dataOut capacity timeoutMs started now waited
  · obtain ⟨owner, handle, dataOut, capacity, timeoutMs, started, now, waited, rfl⟩ := hreceive
    exact flows_step_receive hopened h
  · have hnothing : s.returnedBy k event = [] := by
      cases event <;> first | rfl | exact absurd ⟨_, _, _, _, _, _, _, _, rfl⟩ hreceive
    rw [hnothing, List.append_nil]
    obtain ⟨hactive, hgeneration, hsent⟩ := hcontinues
    have hstep := blockStep (s.step_spec event) k
    unfold Opened
    generalize (s.step event).controls k = control at hstep hactive hgeneration hsent ⊢
    cases hstep with
    | same => exact ⟨hopened, h⟩
    | retired => cases hactive
    | opened owner => exact absurd hgeneration (tcpNextGeneration_ne _)
    | child owner listener segment now initial =>
      exact absurd hgeneration (tcpNextGeneration_ne _)
    | listening _ hclosed => exact ⟨⟨nofun, nofun⟩, h.kept rfl rfl⟩
    | handedOut => exact ⟨hopened, h.kept rfl rfl⟩
    | givenUp => exact ⟨⟨nofun, nofun⟩, h.kept rfl rfl⟩
    | connecting => exact absurd rfl hsent
    | sending => exact ⟨hopened, h.kept rfl rfl⟩
    | drained hevent => exact absurd ⟨_, _, _, _, _, _, _, _, hevent⟩ hreceive
    | finishing _ hstate =>
      refine ⟨⟨hsent, ?_⟩, h.kept rfl rfl⟩
      show (if (s.controls k).state = .closeWait then _ else _) ≠ _
      split <;> nofun
    | @takes segment data address now delivered control hevent hvalid hslot hlive htakes =>
      subst hevent
      have hcut := hfeeds hvalid hslot
      cases htakes with
      | reset => exact ⟨⟨nofun, nofun⟩, h.kept rfl rfl⟩
      | active _ hwaits => exact absurd hwaits hopened.1
      | passive _ hwaits => exact absurd hwaits hopened.2
      | passiveData _ hwaits => exact absurd hwaits hopened.2
      | tail =>
        exact ⟨⟨hsent, takeSegment_opened hopened.2⟩,
          h.takeSegment hring hshort hcut (length_bytes segment _)⟩

theorem flows_run (hshort : stream.length < 2147483648)
    (hcontinues : s.Meets (Continues k) events)
    (hfeeds : s.Meets (Feeds k stream initial) events) (hring : (s.controls k).RingSound)
    (hopened : s.Opened k) (h : (s.controls k).Flows stale stream initial taken) :
    ((s.run events).controls k).Flows stale stream initial
      (taken ++ s.returned k events) := by
  induction events generalizing s taken with
  | nil =>
    rw [TcpTable.returned, List.append_nil]
    exact h
  | cons event events ih =>
    obtain ⟨hnext, hflows⟩ := flows_step hshort hcontinues.1 hfeeds.1 hring hopened h
    have hringNext := ringSound_step hring (blockStep (s.step_spec event) k)
    rw [TcpTable.returned, ← List.append_assoc]
    exact ih hcontinues.2 hfeeds.2 hringNext hnext hflows

/-- The event establishes the connection of the block `k`, and `initial` is the number of the
first byte the peer sends. -/
def Establishes (k : TcpSlot) (initial : UInt32) (s : TcpTable) (event : TcpEvent) : Prop :=
  ((s.controls k).state = .synSent ∧ initial = ((s.step event).controls k).receiveNext ∨
    (s.controls k).state = .synReceived ∧ initial = (s.controls k).receiveNext) ∧
  ((s.step event).controls k).state = .established

theorem flows_established (hshort : stream.length < 2147483648)
    (hfirst : Establishes k initial s event) (hfeeds : s.Feeds k stream initial event)
    (hring : (s.controls k).RingSound) :
    (s.step event).Opened k ∧
      ((s.step event).controls k).Flows (s.controls k).buffered stream initial [] := by
  obtain ⟨hbefore, hafter⟩ := hfirst
  have hopened : (s.step event).Opened k := by
    unfold Opened
    rw [hafter]
    exact ⟨nofun, nofun⟩
  refine ⟨hopened, ?_⟩
  have hstep := blockStep (s.step_spec event) k
  generalize (s.step event).controls k = control at hstep hbefore hafter ⊢
  have hunopened : (s.controls k).state ≠ .established := by
    intro he
    rcases hbefore with ⟨hb, -⟩ | ⟨hb, -⟩ <;> rw [hb] at he <;> cases he
  cases hstep with
  | same => exact absurd hafter hunopened
  | retired => cases hafter
  | opened => cases hafter
  | child => cases hafter
  | listening => cases hafter
  | handedOut => exact absurd hafter hunopened
  | givenUp => cases hafter
  | connecting => cases hafter
  | sending => exact absurd hafter hunopened
  | drained => exact absurd hafter hunopened
  | finishing _ hstate =>
    have hnew : (if (s.controls k).state = .closeWait then TcpState.lastAck else .finWait1) =
        .established := hafter
    split at hnew <;> cases hnew
  | @takes segment data address now delivered control hevent hvalid hslot hlive htakes =>
    subst hevent
    have hcut := hfeeds hvalid hslot
    have hlength := length_bytes segment (data.getD fun _ => 0)
    have hzero : ∀ next : UInt32, next = next + UInt32.ofNat 0 :=
      fun next => (UInt32.add_zero next).symm
    cases htakes with
    | reset => cases hafter
    | active _ hsent hanswer =>
      rcases hbefore with ⟨-, hinitial⟩ | ⟨hreceived, -⟩
      · rw [hinitial]
        exact ⟨0, Nat.zero_le _, (List.append_nil _).symm, .inl (hzero _)⟩
      · rw [hsent] at hreceived
        cases hreceived
    | passive _ hreceived hcompletes =>
      rcases hbefore with ⟨hsent, -⟩ | ⟨-, hinitial⟩
      · rw [hsent] at hreceived
        cases hreceived
      · rw [hinitial]
        exact ⟨0, Nat.zero_le _, (List.append_nil _).symm, .inl (hzero _)⟩
    | passiveData _ hreceived hcompletes hdata =>
      rcases hbefore with ⟨hsent, -⟩ | ⟨-, hinitial⟩
      · rw [hsent] at hreceived
        cases hreceived
      · have hstart : ((s.controls k).establishPassive segment now).Flows (s.controls k).buffered
            stream initial [] := by
          rw [hinitial]
          exact ⟨0, Nat.zero_le _, (List.append_nil _).symm, .inl (hzero _)⟩
        have hringStart : ((s.controls k).establishPassive segment now).RingSound :=
          hring.kept rfl rfl nofun
        have hempty : ((s.controls k).establishPassive segment now).receiveCount = 0 :=
          hring.handshake hreceived
        refine hstart.store hringStart hshort hcut hdata hcompletes.2.1 hlength ?_
        have hfits := valid_length hvalid
        rw [hempty, hlength]
        show 0 + segment.length.toNat ≤ 32768
        omega
    | tail _ hsent hreceived =>
      rcases hbefore with ⟨hb, -⟩ | ⟨hb, -⟩
      · exact absurd hb hsent
      · exact absurd hb hreceived

/-- What tcp_socket_receive returned and what still waits is the part of the peer's stream before
the next sequence number, if and only if nothing waited in the block when the connection was
established. The ring never overflows, and a window that is sent is the free space. -/
theorem tcpStream_prefix_iff (before events : List TcpEvent) (first : TcpEvent) (k : TcpSlot)
    (stream : List UInt8) (initial : UInt32) (hshort : stream.length < 2147483648)
    (hfirst : (tcpSocketInit.run before).Establishes k initial first)
    (hfeeds : (tcpSocketInit.run before).Meets (Feeds k stream initial) (first :: events))
    (hcontinues : ((tcpSocketInit.run before).step first).Meets (Continues k) events) :
    (((tcpSocketInit.run before).step first).returned k events ++
          ((tcpSocketInit.run (before ++ first :: events)).controls k).buffered =
        stream.take (((tcpSocketInit.run (before ++ first :: events)).controls k).receiveNext -
          initial).toNat ↔
      ((tcpSocketInit.run before).controls k).receiveCount = 0) ∧
    ((tcpSocketInit.run (before ++ first :: events)).controls k).receiveCount ≤
      tcpSocketReceiveStorage ∧
    ∀ event w, w ∈ ((tcpSocketInit.run (before ++ first :: events)).perform event).sent →
      ∃ slot control sequence flags data,
        (control = (tcpSocketInit.run (before ++ first :: events)).controls slot ∨
          control = ((tcpSocketInit.run (before ++ first :: events)).step event).controls slot) ∧
        w = control.wire sequence flags data ∧
        w.window + control.receiveCount = tcpSocketReceiveStorage := by
  have hrings : ∀ slot, ((tcpSocketInit.run before).controls slot).RingSound :=
    ringSound_run ringSound_init
  have hringsAfter : ∀ slot,
      ((tcpSocketInit.run (before ++ first :: events)).controls slot).RingSound :=
    ringSound_run ringSound_init
  obtain ⟨hopened, hstart⟩ := flows_established hshort hfirst hfeeds.1 (hrings k)
  have hringFirst := ringSound_step (hrings k) (blockStep ((tcpSocketInit.run before).step_spec
    first) k)
  have hflows := flows_run hshort hcontinues hfeeds.2 hringFirst hopened hstart
  rw [List.nil_append] at hflows
  have hsplit : ((tcpSocketInit.run before).step first).run events =
      tcpSocketInit.run (before ++ first :: events) := by
    rw [run_append]
    rfl
  rw [hsplit] at hflows
  refine ⟨?_, (hringsAfter k).count_le, ?_⟩
  · rw [hflows.arrived hshort, List.append_left_eq_self]
    unfold buffered
    rw [← List.length_eq_zero_iff, length_contents]
  · intro event w hw
    obtain ⟨slot, control, sequence, flags, data, hcontrol, hmade⟩ := sent_spec event hw
    refine ⟨slot, control, sequence, flags, data, hcontrol, hmade, ?_⟩
    have hcount : control.receiveCount ≤ 32768 := by
      rcases hcontrol with he | he
      · rw [he]
        exact (hringsAfter slot).count_le
      · rw [he]
        exact (ringSound_step (hringsAfter slot) (blockStep (step_spec _ event) slot)).count_le
    rw [hmade]
    show (32768 + 65536 - control.receiveCount) % 65536 + control.receiveCount = 32768
    omega

def tcpReads : List TcpEvent :=
  [tcpPeerSends 1001 458753 tcpFlagAck 3,
    .receive tcpClient (tcpMakeHandle 0 1) true 2 0 2 2 0]

theorem tcpStream_prefix_three :
    ((tcpSocketInit.run tcpConnects).returned 0 tcpReads ++
        ((tcpSocketInit.run (tcpConnects ++ tcpReads)).controls 0).buffered =
      [0, 0, 0].take (((tcpSocketInit.run (tcpConnects ++ tcpReads)).controls 0).receiveNext -
        1001).toNat) := by
  have hfeeds : (tcpSocketInit.run (tcpConnects.take 2)).Meets (Feeds 0 [0, 0, 0] 1001)
      (tcpPeerSends 1000 458753 (tcpFlagSyn ||| tcpFlagAck) 0 :: tcpReads) := by
    refine ⟨fun _ _ => ⟨fun h => absurd rfl h, fun h => ?_⟩,
      fun _ _ => ⟨fun _ => ⟨0, by decide, rfl, rfl⟩, fun h => ?_⟩, trivial, trivial⟩
    · cases h
    · cases h
  have hcontinues : (tcpSocketInit.run tcpConnects).Meets (Continues 0) tcpReads :=
    ⟨⟨by decide, by decide, by decide⟩, ⟨by decide, by decide, by decide⟩, trivial⟩
  have hfirst : (tcpSocketInit.run (tcpConnects.take 2)).Establishes 0 1001
      (tcpPeerSends 1000 458753 (tcpFlagSyn ||| tcpFlagAck) 0) := by
    unfold Establishes
    decide
  have hempty : ((tcpSocketInit.run (tcpConnects.take 2)).controls 0).receiveCount = 0 := by decide
  exact (tcpStream_prefix_iff (tcpConnects.take 2) tcpReads _ 0 [0, 0, 0] 1001 (by decide) hfirst
    hfeeds hcontinues).1.mpr hempty

/-- The peer sends three bytes and resets; the client connects again before it read them. The new
stream starts at 5001. -/
def tcpReconnects : List TcpEvent :=
  tcpConnects ++ [tcpPeerSends 1001 458753 tcpFlagAck 3, tcpPeerSends 1004 458753 tcpFlagRst 0,
    .connect tcpClient (tcpMakeHandle 0 1) 0x0a000002 80 2000 5 5]

/-- The new connection starts with the three bytes of the old one. -/
theorem tcpStream_stale :
    (tcpSocketInit.run tcpReconnects).Establishes 0 5001
      (tcpPeerSends 5000 458757 (tcpFlagSyn ||| tcpFlagAck) 0) ∧
    ((tcpSocketInit.run (tcpReconnects ++
      [tcpPeerSends 5000 458757 (tcpFlagSyn ||| tcpFlagAck) 0])).controls 0).receiveNext - 5001 =
        0 ∧
    ((tcpSocketInit.run (tcpReconnects ++
      [tcpPeerSends 5000 458757 (tcpFlagSyn ||| tcpFlagAck) 0])).controls 0).buffered =
        [0, 0, 0] := by
  unfold Establishes
  decide

end TcpTable

end ReistOs
