import ReistOs.TcpBlocks
import ReistOs.TcpHandles

/-! How TCP connections end: which states a block can be in, given which of the two FINs are out. -/

namespace ReistOs

open TcpControlBlock

/-! Sequence numbers within half the range of each other. -/

section Sequence

variable {una next ack : UInt32}

theorem sequenceBefore_iff (left right : UInt32) :
    sequenceBefore left right = true ↔ 2147483648 ≤ (left - right).toNat := by
  unfold sequenceBefore
  rw [decide_eq_true_iff, UInt32.le_iff_toNat_le]
  rfl

theorem sub_toNat (left right : UInt32) :
    (left - right).toNat = (4294967296 - right.toNat + left.toNat) % 4294967296 :=
  UInt32.toNat_sub ..

theorem outstanding_lt (hbound : (next - una).toNat < 2147483648)
    (hafter : ¬ sequenceAfter ack next = true) (hnew : sequenceAfter ack una = true) :
    (next - ack).toNat < (next - una).toNat ∨ (ack - una).toNat = 2147483648 := by
  unfold sequenceAfter at hafter hnew
  rw [sequenceBefore_iff, sub_toNat] at hafter hnew
  rw [sub_toNat] at hbound ⊢
  rw [sub_toNat, sub_toNat]
  have hnext := next.toNat_lt
  have huna := una.toNat_lt
  have hack := ack.toNat_lt
  omega

theorem taken_outstanding (hbound : (next - una).toNat < 2147483648)
    (hbefore : ¬ sequenceBefore ack una = true) (hafter : ¬ sequenceAfter ack next = true)
    (hnew : sequenceAfter ack una = true) : (next - ack).toNat < (next - una).toNat := by
  rcases outstanding_lt hbound hafter hnew with hlt | hhalf
  · exact hlt
  · rw [sequenceBefore_iff, hhalf] at hbefore
    exact absurd (Nat.le_refl _) hbefore

end Sequence

/-- Which ends of the connection in a block are closed: our FIN is on its way, the FIN of the
peer was accepted. -/
structure TcpEnds where
  own : Bool
  peer : Bool
deriving DecidableEq

def TcpEnds.allows (ends : TcpEnds) (state : TcpState) : Bool :=
  match ends.own, ends.peer with
  | false, false => state ∈ [.closed, .listen, .synSent, .synReceived, .established]
  | false, true => state ∈ [.closed, .closeWait]
  | true, false => state ∈ [.closed, .finWait1, .finWait2]
  | true, true => state ∈ [.closed, .lastAck, .timeWait]

/-- The block is used for something new: after open, a SYN, connect or listen. -/
def TcpControlBlock.restarts (c c' : TcpControlBlock) : Prop :=
  c'.generation ≠ c.generation ∨
    c.state = .closed ∧ (c'.state = .synSent ∨ c'.state = .listen)

instance (c c' : TcpControlBlock) : Decidable (c.restarts c') := by
  unfold TcpControlBlock.restarts
  infer_instance

/-- Our FIN goes out with the first section of tcp_socket_close; CLOSE_WAIT and TIME_WAIT are
entered only with a FIN of the peer. -/
def TcpEnds.after (ends : TcpEnds) (c c' : TcpControlBlock) : TcpEnds :=
  if c.restarts c' then ⟨false, false⟩
  else
    { own := ends.own || (c.state == .established && c'.state == .finWait1) ||
        (c.state == .closeWait && c'.state == .lastAck)
      peer := ends.peer ||
        (c'.state != c.state && (c'.state == .closeWait || c'.state == .timeWait)) }

def TcpTable.ends (s : TcpTable) (start : TcpSlot → TcpEnds) : List TcpEvent → TcpSlot → TcpEnds
  | [] => start
  | event :: events =>
    (s.step event).ends
      (fun slot => (start slot).after (s.controls slot) ((s.step event).controls slot)) events

namespace TcpControlBlock

/-- The segment reaches the common tail of tcp_socket_ingress. -/
structure Tail (c : TcpControlBlock) (segment : TcpSegment) : Prop where
  noReset : segment.has tcpFlagRst = false
  notSent : c.state ≠ .synSent
  notReceived : c.state ≠ .synReceived
  acknowledges : ¬ c.refusesAck segment

/-- The segment acknowledges everything that was sent, for the first time. -/
def acksAll (c : TcpControlBlock) (segment : TcpSegment) : Prop :=
  c.newAck segment ∧ segment.acknowledgement = c.sendNext

instance (c : TcpControlBlock) (segment : TcpSegment) : Decidable (c.acksAll segment) := by
  unfold acksAll
  infer_instance

/-- The segment carries a FIN, right after what was received or after data that is next. -/
def reachesFin (c : TcpControlBlock) (segment : TcpSegment) : Prop :=
  segment.has tcpFlagFin = true ∧
    (c.takesData segment ∨ segment.sequence + segment.length.toUInt32 = c.receiveNext)

instance (c : TcpControlBlock) (segment : TcpSegment) : Decidable (c.reachesFin segment) := by
  unfold reachesFin
  infer_instance

/-- What the tail must not meet: news for a closed block, data after the FIN of the peer, a FIN
in a state that does not expect one. -/
structure Orderly (c : TcpControlBlock) (segment : TcpSegment) : Prop where
  whenClosed : c.state = .closed →
    ¬ c.newAck segment ∧ ¬ c.takesData segment ∧ ¬ c.reachesFin segment
  afterFin : c.state = .closeWait ∨ c.state = .lastAck ∨ c.state = .timeWait →
    ¬ c.takesData segment
  atFin : c.reachesFin segment →
    c.state ∈ [TcpState.established, .closeWait, .finWait2] ∨
      c.state = .finWait1 ∧ c.acksAll segment

end TcpControlBlock

/-- Every segment is orderly for the block whose tuple it has. -/
def TcpTable.OrderlyStep (s : TcpTable) : TcpEvent → Prop
  | .ingress (some segment) data address now _ =>
    ¬ ingressInvalid segment data address → ∀ slot,
      (s.sweepPassive now).firstSlot (·.matchesTuple segment) = some slot →
      ((s.sweepPassive now).controls slot).Tail segment →
      ((s.sweepPassive now).controls slot).Orderly segment
  | _ => True

namespace TcpControlBlock

variable {c : TcpControlBlock} {segment : TcpSegment} {bytes : List UInt8}

/-- The state of the common tail: what an acknowledgement of everything and a FIN do to it. -/
def tailState (state : TcpState) (acked fin : Bool) : TcpState :=
  let state :=
    if acked then
      if state = .finWait1 then .finWait2 else if state = .lastAck then .closed else state
    else state
  if fin then if state = .finWait2 then .timeWait else .closeWait else state

@[simp] theorem takeData_state : (c.takeData segment bytes).state = c.state := by
  unfold takeData
  split <;> rfl

@[simp] theorem takeData_una :
    (c.takeData segment bytes).sendUnacknowledged = c.sendUnacknowledged := by
  unfold takeData
  split <;> rfl

@[simp] theorem takeData_next : (c.takeData segment bytes).sendNext = c.sendNext := by
  unfold takeData
  split <;> rfl

@[simp] theorem takeFin_una : (c.takeFin segment).sendUnacknowledged = c.sendUnacknowledged := by
  unfold takeFin
  split <;> rfl

@[simp] theorem takeFin_next : (c.takeFin segment).sendNext = c.sendNext := by
  unfold takeFin
  split <;> rfl

@[simp] theorem takeAck_next : (c.takeAck segment).sendNext = c.sendNext := by
  unfold takeAck
  split <;> rfl

theorem takesData_takeAck : (c.takeAck segment).takesData segment ↔ c.takesData segment := by
  unfold takeAck
  split <;> exact Iff.rfl

theorem receiveNext_takeAck : (c.takeAck segment).receiveNext = c.receiveNext := by
  unfold takeAck
  split <;> rfl

theorem takesFin_iff (hlength : bytes.length = segment.length.toNat) :
    ((c.takeAck segment).takeData segment bytes).takesFin segment ↔ c.reachesFin segment := by
  unfold takeData
  by_cases hdata : c.takesData segment
  · rw [if_pos (takesData_takeAck.mpr hdata)]
    have hnext : segment.sequence + segment.length.toUInt32 =
        (c.takeAck segment).receiveNext + UInt32.ofNat bytes.length := by
      rw [receiveNext_takeAck, hdata.2.1, hlength]
      congr 1
      apply UInt32.toNat_inj.mp
      have hlt := segment.length.toNat_lt
      rw [UInt16.toNat_toUInt32, UInt32.toNat_ofNat']
      omega
    exact ⟨fun h => ⟨h.1, .inl hdata⟩, fun h => ⟨h.1, hnext⟩⟩
  · rw [if_neg (mt takesData_takeAck.mp hdata)]
    constructor
    · rintro ⟨hflag, hat⟩
      rw [receiveNext_takeAck] at hat
      exact ⟨hflag, .inr hat⟩
    · rintro ⟨hflag, hnow | hat⟩
      · exact absurd hnow hdata
      · refine ⟨hflag, ?_⟩
        rw [receiveNext_takeAck]
        exact hat

theorem takeAck_state :
    (c.takeAck segment).state = tailState c.state (decide (c.acksAll segment)) false := by
  unfold takeAck tailState acksAll acknowledgedState
  by_cases hnew : c.newAck segment
  · by_cases hall : segment.acknowledgement = c.sendNext
    · simp [hnew, hall]
    · simp [hnew, hall]
  · simp [hnew]

theorem takeSegment_state (hlength : bytes.length = segment.length.toNat) :
    (c.takeSegment segment bytes).state =
      tailState c.state (decide (c.acksAll segment)) (decide (c.reachesFin segment)) := by
  unfold takeSegment takeFin
  split
  next hfin =>
    have hreaches := (takesFin_iff hlength).mp hfin
    simp only [hreaches, decide_true, takeData_state, takeAck_state]
    rfl
  next hfin =>
    have hreaches := mt (takesFin_iff hlength).mpr hfin
    simp only [hreaches, decide_false, takeData_state, takeAck_state]

theorem takeSegment_generation : (c.takeSegment segment bytes).generation = c.generation :=
  (TcpTable.sameLife_takeSegment c segment bytes).1

theorem takeSegment_una :
    (c.takeSegment segment bytes).sendUnacknowledged = (c.takeAck segment).sendUnacknowledged := by
  simp [takeSegment]

theorem takeSegment_next : (c.takeSegment segment bytes).sendNext = c.sendNext := by
  simp [takeSegment]

theorem takeSegment_closed (h : c.Orderly segment) (hlength : bytes.length = segment.length.toNat)
    (hclosed : c.state = .closed) : c.takeSegment segment bytes = c := by
  obtain ⟨hack, hdata, hfin⟩ := h.whenClosed hclosed
  have hnofin := mt (takesFin_iff hlength).mp hfin
  have hacked : c.takeAck segment = c := if_neg hack
  have hreceived : c.takeData segment bytes = c := if_neg hdata
  rw [hacked, hreceived] at hnofin
  unfold takeSegment
  rw [hacked, hreceived]
  exact if_neg hnofin

def SameReceived (c c' : TcpControlBlock) : Prop :=
  c'.receiveHead = c.receiveHead ∧ c'.receiveCount = c.receiveCount ∧
    c'.receiveBuffer = c.receiveBuffer

theorem takeSegment_received (h : ¬ c.takesData segment) :
    c.SameReceived (c.takeSegment segment bytes) := by
  have hack : c.SameReceived (c.takeAck segment) := by
    unfold takeAck
    split <;> exact ⟨rfl, rfl, rfl⟩
  have hdata : (c.takeAck segment).takeData segment bytes = c.takeAck segment :=
    if_neg (mt takesData_takeAck.mp h)
  unfold takeSegment
  rw [hdata]
  unfold takeFin
  split <;> exact hack

end TcpControlBlock

/-- What is kept of a block and the ends of its connection. -/
structure TcpEnds.Legal (ends : TcpEnds) (c : TcpControlBlock) : Prop where
  allowed : ends.allows c.state = true
  outstanding : (c.sendNext - c.sendUnacknowledged).toNat ≤ 513
  beforeFin : c.state = .established ∨ c.state = .closeWait ∨ c.state = .synSent ∨
    c.state = .synReceived → (c.sendNext - c.sendUnacknowledged).toNat ≤ 512
  finOut : c.state = .finWait1 ∨ c.state = .lastAck → c.sendUnacknowledged ≠ c.sendNext

namespace TcpEnds

variable {ends : TcpEnds} {c c' : TcpControlBlock} {segment : TcpSegment} {bytes : List UInt8}

theorem after_restart (h : c.restarts c') : ends.after c c' = ⟨false, false⟩ := if_pos h

theorem after_same (h : ¬ c.restarts c') (hstate : c'.state = c.state) :
    ends.after c c' = ends := by
  unfold after
  rw [if_neg h, hstate]
  obtain ⟨own, peer⟩ := ends
  cases c.state <;> cases own <;> cases peer <;> rfl

theorem Legal.kept (h : ends.Legal c) (hgeneration : c'.generation = c.generation)
    (hstate : c'.state = c.state) (huna : c'.sendUnacknowledged = c.sendUnacknowledged)
    (hnext : c'.sendNext = c.sendNext) : (ends.after c c').Legal c' := by
  have hgoes : ¬ c.restarts c' := by
    rintro (hne | ⟨hclosed, hnew⟩)
    · exact hne hgeneration
    · rw [hstate, hclosed] at hnew
      rcases hnew with hnew | hnew <;> cases hnew
  rw [after_same hgoes hstate]
  refine ⟨?_, ?_, ?_, ?_⟩
  · rw [hstate]
    exact h.allowed
  · rw [huna, hnext]
    exact h.outstanding
  · rw [hstate, huna, hnext]
    exact h.beforeFin
  · rw [hstate, huna, hnext]
    exact h.finOut

theorem legal_closed (hout : (c.sendNext - c.sendUnacknowledged).toNat ≤ 513)
    (hclosed : c.state = .closed) (ends : TcpEnds) : ends.Legal c := by
  refine ⟨?_, hout, ?_, ?_⟩
  · rw [hclosed]
    obtain ⟨own, peer⟩ := ends
    cases own <;> cases peer <;> rfl
  · rw [hclosed]
    rintro (h | h | h | h) <;> cases h
  · rw [hclosed]
    rintro (h | h) <;> cases h

theorem legal_restarted (hrestarts : c.restarts c') (hstate : (TcpEnds.mk false false).allows
    c'.state = true) (hout : (c'.sendNext - c'.sendUnacknowledged).toNat ≤ 513)
    (hfresh : c'.state = .listen ∨ (c'.sendNext - c'.sendUnacknowledged).toNat ≤ 512) :
    (ends.after c c').Legal c' := by
  rw [after_restart hrestarts]
  refine ⟨hstate, hout, ?_, ?_⟩
  · intro hopen
    rcases hfresh with hlisten | hless
    · rw [hlisten] at hopen
      rcases hopen with h | h | h | h <;> cases h
    · exact hless
  · rintro (h | h) <;> rw [h] at hstate <;> cases hstate

theorem succ_sub (una : UInt32) : (una + 1 - una).toNat = 1 := by
  have huna := una.toNat_lt
  rw [sub_toNat, UInt32.toNat_add]
  show (4294967296 - una.toNat + (una.toNat + 1) % 4294967296) % 4294967296 = 1
  omega

theorem Legal.listening {port backlog : UInt16} (h : ends.Legal c) (hclosed : c.state = .closed) :
    (ends.after c (c.listening port backlog)).Legal (c.listening port backlog) :=
  legal_restarted (.inr ⟨hclosed, .inr rfl⟩) rfl h.outstanding (.inl rfl)

theorem legal_connecting {ip initial : UInt32} {port candidate : UInt16}
    (hclosed : c.state = .closed) :
    (ends.after c (c.connecting ip port candidate initial)).Legal
      (c.connecting ip port candidate initial) := by
  have hone : ((c.connecting ip port candidate initial).sendNext -
      (c.connecting ip port candidate initial).sendUnacknowledged).toNat = 1 := succ_sub initial
  refine legal_restarted (.inr ⟨hclosed, .inl rfl⟩) rfl ?_ (.inr ?_) <;> rw [hone] <;> decide

theorem legal_opening (owner : NetOwner) (listener : TcpSlot) (segment : TcpSegment)
    (now : UInt64) (initial : UInt32) :
    (ends.after c (c.opening owner listener segment now initial)).Legal
      (c.opening owner listener segment now initial) := by
  have hone : ((c.opening owner listener segment now initial).sendNext -
      (c.opening owner listener segment now initial).sendUnacknowledged).toNat = 1 :=
    succ_sub initial
  refine legal_restarted (.inl (TcpTable.tcpNextGeneration_ne _)) rfl ?_ (.inr ?_) <;> rw [hone] <;> decide

theorem Legal.sending {length : Nat} (h : ends.Legal c) (hestablished : c.state = .established)
    (hacked : c.sendUnacknowledged = c.sendNext) (hmax : length ≤ 512) :
    (ends.after c (c.sending length)).Legal (c.sending length) := by
  have hstate : (c.sending length).state = c.state := rfl
  have hgoes : ¬ c.restarts (c.sending length) := by
    rintro (hne | ⟨hclosed, -⟩)
    · exact hne rfl
    · rw [hestablished] at hclosed
      cases hclosed
  have hlength : (c.sendNext + UInt32.ofNat length - c.sendNext).toNat = length := by
    have hnext := c.sendNext.toNat_lt
    rw [sub_toNat, UInt32.toNat_add, UInt32.toNat_ofNat']
    show (4294967296 - c.sendNext.toNat + (c.sendNext.toNat + length % 4294967296) % 4294967296) %
      4294967296 = length
    omega
  have hout : ((c.sending length).sendNext - (c.sending length).sendUnacknowledged).toNat =
      length := by
    show (c.sendNext + UInt32.ofNat length - c.sendUnacknowledged).toNat = length
    rw [hacked]
    exact hlength
  rw [after_same hgoes hstate]
  refine ⟨?_, ?_, ?_, ?_⟩
  · rw [hstate]
    exact h.allowed
  · rw [hout]
    omega
  · intro _
    rw [hout]
    exact hmax
  · rw [hstate, hestablished]
    rintro (h | h) <;> cases h

theorem Legal.finishing (h : ends.Legal c)
    (hstate : c.state = .established ∨ c.state = .closeWait) :
    (ends.after c c.finishing).Legal c.finishing := by
  have hless : (c.sendNext - c.sendUnacknowledged).toNat ≤ 512 := by
    apply h.beforeFin
    rcases hstate with hstate | hstate
    · exact .inl hstate
    · exact .inr (.inl hstate)
  have hout : (c.finishing.sendNext - c.finishing.sendUnacknowledged).toNat =
      (c.sendNext - c.sendUnacknowledged).toNat + 1 := by
    show (c.sendNext + 1 - c.sendUnacknowledged).toNat = _
    have hnext := c.sendNext.toNat_lt
    have huna := c.sendUnacknowledged.toNat_lt
    rw [sub_toNat] at hless
    rw [sub_toNat, sub_toNat, UInt32.toNat_add]
    show (4294967296 - c.sendUnacknowledged.toNat + (c.sendNext.toNat + 1) % 4294967296) %
      4294967296 = _
    omega
  have hne : c.finishing.sendUnacknowledged ≠ c.finishing.sendNext := by
    intro he
    rw [he, sub_toNat] at hout
    have hnext := c.finishing.sendNext.toNat_lt
    omega
  have hallowed := h.allowed
  have hgoes : ¬ c.restarts c.finishing := by
    rintro (hgeneration | ⟨hclosed, -⟩)
    · exact hgeneration rfl
    · rcases hstate with h | h <;> rw [h] at hclosed <;> cases hclosed
  refine ⟨?_, by omega, ?_, fun _ => hne⟩
  · obtain ⟨own, peer⟩ := ends
    unfold TcpEnds.after
    rw [if_neg hgoes]
    rcases hstate with hstate | hstate
    · have hnew : c.finishing.state = .finWait1 := by
        show (if c.state = .closeWait then _ else _) = _
        rw [hstate]
        rfl
      rw [hstate] at hallowed
      rw [hnew, hstate]
      cases own <;> cases peer <;> first | rfl | cases hallowed
    · have hnew : c.finishing.state = .lastAck := by
        show (if c.state = .closeWait then _ else _) = _
        rw [hstate]
        rfl
      rw [hstate] at hallowed
      rw [hnew, hstate]
      cases own <;> cases peer <;> first | rfl | cases hallowed
  · intro hopen
    have hsent : c.finishing.state = .finWait1 ∨ c.finishing.state = .lastAck := by
      show (if c.state = .closeWait then _ else _) = _ ∨ (if c.state = .closeWait then _ else _) = _
      split
      · exact .inr rfl
      · exact .inl rfl
    rcases hsent with hsent | hsent <;> rw [hsent] at hopen <;>
      rcases hopen with h | h | h | h <;> cases h

open TcpControlBlock in
/-- Where an orderly segment leads: every state with every pair of ends, with and without an
acknowledgement of everything and a FIN. -/
theorem tail_allowed (own peer acked fin : Bool) (state : TcpState)
    (hallowed : (TcpEnds.mk own peer).allows state = true)
    (hclosed : state = .closed → acked = false ∧ fin = false)
    (hfin : fin = true → state ∈ [TcpState.established, .closeWait, .finWait2] ∨
      state = .finWait1 ∧ acked = true)
    (hsent : state ≠ .synSent) (hreceived : state ≠ .synReceived) :
    (TcpEnds.mk
      (own || (state == .established && tailState state acked fin == .finWait1) ||
        (state == .closeWait && tailState state acked fin == .lastAck))
      (peer || (tailState state acked fin != state &&
        (tailState state acked fin == .closeWait || tailState state acked fin == .timeWait)))).allows
      (tailState state acked fin) = true := by
  revert hallowed hclosed hfin hsent hreceived
  cases state <;> cases own <;> cases peer <;> cases acked <;> cases fin <;> decide

open TcpControlBlock in
theorem tail_open (acked fin : Bool) (state : TcpState)
    (hfin : fin = true → state ∈ [TcpState.established, .closeWait, .finWait2] ∨
      state = .finWait1 ∧ acked = true)
    (hsent : state ≠ .synSent) (hreceived : state ≠ .synReceived)
    (hopen : tailState state acked fin = .established ∨ tailState state acked fin = .closeWait ∨
      tailState state acked fin = .synSent ∨ tailState state acked fin = .synReceived) :
    state = .established ∨ state = .closeWait := by
  revert hfin hsent hreceived hopen
  cases state <;> cases acked <;> cases fin <;> decide

open TcpControlBlock in
theorem tail_unacked (acked fin : Bool) (state : TcpState)
    (hout : tailState state acked fin = .finWait1 ∨ tailState state acked fin = .lastAck) :
    acked = false ∧ (state = .finWait1 ∨ state = .lastAck) := by
  revert hout
  cases state <;> cases acked <;> cases fin <;> decide

theorem takeAck_outstanding (htail : c.Tail segment)
    (hout : (c.sendNext - c.sendUnacknowledged).toNat ≤ 513) :
    (c.sendNext - (c.takeAck segment).sendUnacknowledged).toNat ≤
      (c.sendNext - c.sendUnacknowledged).toNat := by
  unfold takeAck
  split
  next hnew =>
    have hrefuses := htail.acknowledges
    have hbefore : ¬ sequenceBefore segment.acknowledgement c.sendUnacknowledged = true :=
      fun h => hrefuses ⟨hnew.1, .inl h⟩
    have hafter : ¬ sequenceAfter segment.acknowledgement c.sendNext = true :=
      fun h => hrefuses ⟨hnew.1, .inr h⟩
    have hlt : (c.sendNext - segment.acknowledgement).toNat <
        (c.sendNext - c.sendUnacknowledged).toNat :=
      taken_outstanding (by omega) hbefore hafter hnew.2
    exact Nat.le_of_lt hlt
  next => exact Nat.le_refl _

theorem Legal.takeSegment (h : ends.Legal c) (htail : c.Tail segment)
    (horderly : c.Orderly segment) (hlength : bytes.length = segment.length.toNat) :
    (ends.after c (c.takeSegment segment bytes)).Legal (c.takeSegment segment bytes) := by
  by_cases hclosed : c.state = .closed
  · rw [takeSegment_closed horderly hlength hclosed]
    exact h.kept rfl rfl rfl rfl
  have hgoes : ¬ c.restarts (c.takeSegment segment bytes) := by
    rintro (hne | ⟨hc, -⟩)
    · exact hne takeSegment_generation
    · exact hclosed hc
  have hout := takeAck_outstanding htail h.outstanding
  have hfin : decide (c.reachesFin segment) = true →
      c.state ∈ [TcpState.established, .closeWait, .finWait2] ∨
        c.state = .finWait1 ∧ decide (c.acksAll segment) = true := by
    intro hfin
    rcases horderly.atFin (of_decide_eq_true hfin) with hstate | ⟨hstate, hacks⟩
    · exact .inl hstate
    · exact .inr ⟨hstate, decide_eq_true hacks⟩
  refine ⟨?_, ?_, ?_, ?_⟩
  · obtain ⟨own, peer⟩ := ends
    have hlegal := tail_allowed own peer _ _ c.state h.allowed
      (fun hc => absurd hc hclosed) hfin htail.notSent htail.notReceived
    unfold TcpEnds.after
    rw [if_neg hgoes, takeSegment_state hlength]
    exact hlegal
  · rw [takeSegment_next, takeSegment_una]
    exact hout.trans h.outstanding
  · intro hopen
    rw [takeSegment_state hlength] at hopen
    have hbefore := tail_open _ _ c.state hfin htail.notSent htail.notReceived hopen
    rw [takeSegment_next, takeSegment_una]
    refine hout.trans (h.beforeFin ?_)
    rcases hbefore with hbefore | hbefore
    · exact .inl hbefore
    · exact .inr (.inl hbefore)
  · intro hsent
    rw [takeSegment_state hlength] at hsent
    obtain ⟨hunacked, hstate⟩ := tail_unacked _ _ c.state hsent
    have hne := h.finOut hstate
    rw [takeSegment_next, takeSegment_una]
    unfold takeAck
    split
    next hnew =>
      intro hall
      have hacked : c.acksAll segment := ⟨hnew, hall⟩
      exact absurd hacked (of_decide_eq_false hunacked)
    next => exact hne

theorem legal_established {ends : TcpEnds} (h : ends.Legal c)
    (hbefore : c.state = .synSent ∨ c.state = .synReceived)
    (hgeneration : c'.generation = c.generation) (hstate : c'.state = .established)
    (hacked : c'.sendUnacknowledged = c'.sendNext) : (ends.after c c').Legal c' := by
  have hgoes : ¬ c.restarts c' := by
    rintro (hne | ⟨hclosed, -⟩)
    · exact hne hgeneration
    · rcases hbefore with hb | hb <;> rw [hb] at hclosed <;> cases hclosed
  have hzero : (c'.sendNext - c'.sendUnacknowledged).toNat = 0 := by
    rw [hacked, UInt32.sub_self]
    rfl
  have hallowed := h.allowed
  refine ⟨?_, by omega, fun _ => by omega, ?_⟩
  · obtain ⟨own, peer⟩ := ends
    unfold TcpEnds.after
    rw [if_neg hgoes, hstate]
    rcases hbefore with hb | hb <;> rw [hb] at hallowed ⊢ <;>
      cases own <;> cases peer <;> first | rfl | cases hallowed
  · rw [hstate]
    rintro (h | h) <;> cases h

theorem Legal.givenUp (h : ends.Legal c) : (ends.after c c.givenUp).Legal c.givenUp :=
  legal_closed (c := c.givenUp) h.outstanding rfl _

theorem legal_retire (ends : TcpEnds) : (ends.after c c.retire).Legal c.retire :=
  legal_closed (by show ((0 : UInt32) - 0).toNat ≤ 513; decide) rfl _

theorem legal_initialized (owner : NetOwner) :
    (ends.after c (c.initialized owner)).Legal (c.initialized owner) :=
  legal_closed (by show ((0 : UInt32) - 0).toNat ≤ 513; decide) rfl _

end TcpEnds

namespace TcpTable

variable {s : TcpTable} {event : TcpEvent} {slot : TcpSlot} {ends : TcpEnds}
  {c' : TcpControlBlock}

theorem legal_step (horderly : s.OrderlyStep event) (h : ends.Legal (s.controls slot))
    (hstep : TcpBlockStep s event slot c') : (ends.after (s.controls slot) c').Legal c' := by
  cases hstep with
  | same => exact h.kept rfl rfl rfl rfl
  | retired => exact TcpEnds.legal_retire ends
  | opened owner => exact TcpEnds.legal_initialized owner
  | child owner listener segment now initial =>
    exact TcpEnds.legal_opening owner listener segment now initial
  | listening hactive hclosed => exact h.listening hclosed
  | handedOut hactive hestablished => exact h.kept rfl rfl rfl rfl
  | givenUp hactive => exact h.givenUp
  | connecting hactive hclosed => exact TcpEnds.legal_connecting hclosed
  | sending hactive hestablished hacked hpos hmax => exact h.sending hestablished hacked hmax
  | drained hevent hactive hamount => exact h.kept rfl rfl rfl rfl
  | finishing hactive hstate => exact h.finishing hstate
  | @takes segment data address now delivered control hevent hvalid hslot hactive htakes =>
    cases htakes with
    | reset hrst => exact h.givenUp
    | active hrst hsent hanswer =>
      exact TcpEnds.legal_established h (.inl hsent) rfl rfl hanswer.2.1
    | passive hrst hreceived hcompletes =>
      exact TcpEnds.legal_established h (.inr hreceived) rfl rfl hcompletes.2.2
    | passiveData hrst hreceived hcompletes hdata =>
      exact TcpEnds.legal_established h (.inr hreceived) rfl rfl hcompletes.2.2
    | tail hrst hsent hreceived hack =>
      subst hevent
      have htail : (s.controls slot).Tail segment := ⟨hrst, hsent, hreceived, hack⟩
      have hkept : (s.sweepPassive now).controls slot = s.controls slot :=
        sweepPassive_active (matchesTuple_iff.mp (firstSlot_matches hslot)).1
      have hsegment := horderly hvalid slot hslot
      rw [hkept] at hsegment
      exact h.takeSegment htail (hsegment htail) (length_bytes segment _)

theorem legal_run {events : List TcpEvent} {start : TcpSlot → TcpEnds}
    (hmeets : s.Meets OrderlyStep events) (h : ∀ slot, (start slot).Legal (s.controls slot))
    (slot : TcpSlot) : (s.ends start events slot).Legal ((s.run events).controls slot) := by
  induction events generalizing s start with
  | nil => exact h slot
  | cons event events ih =>
    apply ih hmeets.2
    intro slot
    exact legal_step hmeets.1 (h slot) (blockStep (s.step_spec event) slot)

variable {segment : Option TcpSegment} {address : UInt32} {now : UInt64} {delivered : Bool}

variable {data : Option (Nat → UInt8)}

theorem ingress_active {controls : TcpSlot → TcpControlBlock}
    (h : TcpStep s (.ingress segment data address now delivered) controls)
    (hactive : ((s.sweepPassive now).controls slot).active = true) :
    controls slot = s.controls slot ∨
      ∃ received, segment = some received ∧ ¬ ingressInvalid received data address ∧
        (s.sweepPassive now).firstSlot (·.matchesTuple received) = some slot ∧
        (s.controls slot).Takes received (received.bytes (data.getD fun _ => 0)) now
          (controls slot) := by
  have hkept := sweepPassive_active hactive
  cases h with
  | idle => exact .inl rfl
  | swept later hnow =>
    have htime : now = later := Option.some.inj hnow
    rw [← htime]
    exact .inl hkept
  | @passive received _ _ _ _ listener k hvalid hnone hlistener hflags hlength hpending hfree =>
    have hne : slot ≠ k := by
      intro he
      have hdead := freeSlot_inactive hfree
      rw [← he, hactive] at hdead
      cases hdead
    rw [Function.update_of_ne hne]
    exact .inl hkept
  | @matched received _ _ _ _ k control hvalid hslot htakes =>
    by_cases he : slot = k
    · rw [← he] at hslot htakes
      rw [hkept] at htakes
      rw [he, Function.update_self, ← he]
      exact .inr ⟨received, rfl, hvalid, hslot, htakes⟩
    · rw [Function.update_of_ne he]
      exact .inl hkept

theorem orderly_of_step {segment : TcpSegment}
    (horderly : s.OrderlyStep (.ingress (some segment) data address now delivered))
    (hvalid : ¬ ingressInvalid segment data address)
    (hslot : (s.sweepPassive now).firstSlot (·.matchesTuple segment) = some slot)
    (htail : (s.controls slot).Tail segment) :
    (s.controls slot).Orderly segment := by
  have hkept : (s.sweepPassive now).controls slot = s.controls slot :=
    sweepPassive_active (matchesTuple_iff.mp (firstSlot_matches hslot)).1
  have hsegment := horderly hvalid slot hslot
  rw [hkept] at hsegment
  exact hsegment htail

theorem ingress_closed (horderly : s.OrderlyStep (.ingress segment data address now delivered))
    (hactive : ((s.sweepPassive now).controls slot).active = true)
    (hclosed : (s.controls slot).state = .closed) :
    (s.step (.ingress segment data address now delivered)).controls slot = s.controls slot := by
  have hstep := s.step_spec (.ingress segment data address now delivered)
  rcases ingress_active hstep hactive with hsame | ⟨received, rfl, hvalid, hslot, htakes⟩
  · exact hsame
  · generalize (s.step (.ingress (some received) data address now delivered)).controls slot =
      control at htakes
    cases htakes with
    | reset =>
      show { s.controls slot with state := .closed } = s.controls slot
      rw [← hclosed]
    | active hrst hsent =>
      rw [hclosed] at hsent
      cases hsent
    | passive hrst hreceived =>
      rw [hclosed] at hreceived
      cases hreceived
    | passiveData hrst hreceived =>
      rw [hclosed] at hreceived
      cases hreceived
    | tail hrst hsent hreceived hack =>
      exact takeSegment_closed
        (orderly_of_step horderly hvalid hslot ⟨hrst, hsent, hreceived, hack⟩)
        (length_bytes received _) hclosed

theorem ingress_afterFin (horderly : s.OrderlyStep (.ingress segment data address now delivered))
    (hactive : ((s.sweepPassive now).controls slot).active = true)
    (h : ends.Legal (s.controls slot)) (hpeer : ends.peer = true) :
    (s.controls slot).SameReceived
      ((s.step (.ingress segment data address now delivered)).controls slot) := by
  have hstates : (s.controls slot).state = .closed ∨ (s.controls slot).state = .closeWait ∨
      (s.controls slot).state = .lastAck ∨ (s.controls slot).state = .timeWait := by
    have hallowed := h.allowed
    obtain ⟨own, peer⟩ := ends
    cases hpeer
    revert hallowed
    cases (s.controls slot).state <;> cases own <;> decide
  rcases hstates with hclosed | hfin
  · rw [ingress_closed horderly hactive hclosed]
    exact ⟨rfl, rfl, rfl⟩
  · have hstep := s.step_spec (.ingress segment data address now delivered)
    rcases ingress_active hstep hactive with hsame | ⟨received, rfl, hvalid, hslot, htakes⟩
    · rw [hsame]
      exact ⟨rfl, rfl, rfl⟩
    · generalize (s.step (.ingress (some received) data address now delivered)).controls slot =
        control at htakes
      cases htakes with
      | reset => exact ⟨rfl, rfl, rfl⟩
      | active => exact ⟨rfl, rfl, rfl⟩
      | passive => exact ⟨rfl, rfl, rfl⟩
      | passiveData hrst hreceived =>
        rw [hreceived] at hfin
        rcases hfin with h | h | h <;> cases h
      | tail hrst hsent hreceived hack =>
        have hsegment := orderly_of_step horderly hvalid hslot ⟨hrst, hsent, hreceived, hack⟩
        exact takeSegment_received (hsegment.afterFin hfin)

/-- The ends of the connections in all blocks after a run from the start. -/
def tcpEnds (events : List TcpEvent) : TcpSlot → TcpEnds :=
  tcpSocketInit.ends (fun _ => ⟨false, false⟩) events

/-- In a run of orderly segments a block whose close was started never is in CLOSE_WAIT, and with
both FINs out and all acknowledged it is in CLOSED or TIME_WAIT; no segment changes a closed block
or brings data after the FIN of the peer. -/
theorem tcpClosing_legal (events : List TcpEvent)
    (hmeets : tcpSocketInit.Meets OrderlyStep events) (slot : TcpSlot) :
    ((tcpEnds events slot).own = true →
      ((tcpSocketInit.run events).controls slot).state ≠ .closeWait ∧
      ((tcpEnds events slot).peer = true →
        ((tcpSocketInit.run events).controls slot).sendUnacknowledged =
          ((tcpSocketInit.run events).controls slot).sendNext →
        ((tcpSocketInit.run events).controls slot).state = .closed ∨
          ((tcpSocketInit.run events).controls slot).state = .timeWait)) ∧
    ∀ segment data address now delivered,
      (tcpSocketInit.run events).OrderlyStep (.ingress segment data address now delivered) →
      (((tcpSocketInit.run events).sweepPassive now).controls slot).active = true →
      (((tcpSocketInit.run events).controls slot).state = .closed →
        (tcpSocketInit.run (events ++ [.ingress segment data address now delivered])).controls slot =
          (tcpSocketInit.run events).controls slot) ∧
      ((tcpEnds events slot).peer = true →
        ((tcpSocketInit.run events).controls slot).SameReceived
          ((tcpSocketInit.run (events ++
            [.ingress segment data address now delivered])).controls slot)) := by
  have hstart : ∀ slot, (TcpEnds.mk false false).Legal (tcpSocketInit.controls slot) :=
    fun slot => TcpEnds.legal_closed (by show ((0 : UInt32) - 0).toNat ≤ 513; decide) rfl _
  have hlegal : (tcpEnds events slot).Legal ((tcpSocketInit.run events).controls slot) :=
    legal_run hmeets hstart slot
  constructor
  · intro hown
    have hallowed := hlegal.allowed
    have hfinOut := hlegal.finOut
    unfold TcpEnds.allows at hallowed
    rw [hown] at hallowed
    constructor
    · intro hstate
      rw [hstate] at hallowed
      cases hpeer : (tcpEnds events slot).peer <;> rw [hpeer] at hallowed <;> cases hallowed
    · intro hpeer hacked
      rw [hpeer] at hallowed
      have hstates : ((tcpSocketInit.run events).controls slot).state = .closed ∨
          ((tcpSocketInit.run events).controls slot).state = .lastAck ∨
          ((tcpSocketInit.run events).controls slot).state = .timeWait := by
        simpa using hallowed
      rcases hstates with hclosed | hlast | htime
      · exact .inl hclosed
      · exact absurd hacked (hfinOut (.inr hlast))
      · exact .inr htime
  · intro segment data address now delivered horderly hactive
    rw [run_snoc]
    exact ⟨fun hclosed => ingress_closed horderly hactive hclosed,
      fun hpeer => ingress_afterFin horderly hactive hlegal hpeer⟩

section Window

variable {segment : TcpSegment} {data : Option (Nat → UInt8)} {address : UInt32} {now : UInt64}
  {delivered : Bool}

theorem takeSegment_peerWindow (c : TcpControlBlock) (bytes : List UInt8) :
    (c.takeSegment segment bytes).peerWindow =
      if c.newAck segment then segment.window else c.peerWindow := by
  have hdata : ∀ c : TcpControlBlock, (c.takeData segment bytes).peerWindow = c.peerWindow := by
    intro c
    unfold takeData
    split <;> rfl
  have hfin : ∀ c : TcpControlBlock, (c.takeFin segment).peerWindow = c.peerWindow := by
    intro c
    unfold takeFin
    split <;> rfl
  unfold takeSegment
  rw [hfin, hdata]
  unfold takeAck
  split <;> rfl

theorem newAck_iff {c : TcpControlBlock} (hack : segment.has tcpFlagAck = true)
    (hnew : ¬ sequenceBefore segment.acknowledgement c.sendUnacknowledged = true) :
    c.newAck segment ↔ segment.acknowledgement ≠ c.sendUnacknowledged := by
  unfold newAck sequenceAfter
  rw [sequenceBefore_iff, sub_toNat] at hnew ⊢
  rw [← UInt32.toNat_inj.ne, and_iff_right hack]
  have huna := c.sendUnacknowledged.toNat_lt
  have hnext := segment.acknowledgement.toNat_lt
  omega

/-- The window of the peer follows the segments that acknowledge something new, and no others. -/
theorem tcpSocketIngress_peerWindow (s : TcpTable) (slot : TcpSlot)
    (hvalid : ¬ ingressInvalid segment data address)
    (hslot : (s.sweepPassive now).firstSlot (·.matchesTuple segment) = some slot)
    (hstate : (s.controls slot).state = .established) (hack : segment.has tcpFlagAck = true)
    (hreset : segment.has tcpFlagRst = false)
    (hlow : ¬ sequenceBefore segment.acknowledgement (s.controls slot).sendUnacknowledged = true)
    (hhigh : ¬ sequenceAfter segment.acknowledgement (s.controls slot).sendNext = true) :
    ((s.step (.ingress (some segment) data address now delivered)).controls slot).peerWindow =
        segment.window ↔
      segment.acknowledgement ≠ (s.controls slot).sendUnacknowledged ∨
        segment.window = (s.controls slot).peerWindow := by
  have hkept : (s.sweepPassive now).controls slot = s.controls slot :=
    sweepPassive_active (matchesTuple_iff.mp (firstSlot_matches hslot)).1
  have hafter : (s.step (.ingress (some segment) data address now delivered)).controls slot =
      (s.controls slot).takeSegment segment (segment.bytes (data.getD fun _ => 0)) := by
    show (TcpTable.tcpSocketIngress s (some segment) data address now delivered).table.controls slot = _
    unfold tcpSocketIngress
    dsimp only
    rw [if_neg hvalid, hslot]
    dsimp only
    unfold ingressMatched
    rw [hkept, if_neg (by simp [hreset]), if_neg (by simp [hstate]), if_neg (by simp [hstate]),
      if_neg (fun h => h.2.elim hlow hhigh)]
    exact Function.update_self ..
  rw [hafter, takeSegment_peerWindow, ← newAck_iff hack hlow]
  split
  next hnew => exact ⟨fun _ => .inl hnew, fun _ => rfl⟩
  next hold => exact ⟨fun h => .inr h.symm, fun h => (h.resolve_left hold).symm⟩

end Window

/-! Runs of one connection from 10.0.0.1 to port 80 of 10.0.0.2. -/

def tcpPeerSegment (sequence acknowledgement : UInt32) (flags : UInt8) (length : UInt16) :
    TcpSegment :=
  { version := tcpSocketAbiVersion
    structSize := tcpSocketSegmentSize
    sourceIp := 0x0a000002
    destinationIp := 0x0a000001
    sequence := sequence
    acknowledgement := acknowledgement
    sourcePort := 80
    destinationPort := 49153
    window := 4096
    length := length
    flags := flags
    reserved := [0, 0, 0] }

def tcpPeerSends (sequence acknowledgement : UInt32) (flags : UInt8) (length : UInt16) :
    TcpEvent :=
  .ingress (some (tcpPeerSegment sequence acknowledgement flags length)) (some fun _ => 0)
    0x0a000001 2 true

def tcpClient : NetOwner := ⟨7, 2⟩

/-- The client opens a socket and connects it; the stream of the peer starts at 1001. -/
def tcpConnects : List TcpEvent :=
  [.opened tcpClient true 1,
    .connect tcpClient (tcpMakeHandle 0 1) 0x0a000002 80 2000 1 1,
    tcpPeerSends 1000 458753 (tcpFlagSyn ||| tcpFlagAck) 0]

def tcpCloses : TcpEvent := .close tcpClient (tcpMakeHandle 0 1) 1000 2

def tcpClosesInOrder : List TcpEvent :=
  tcpConnects ++ [tcpCloses, tcpPeerSends 1001 458754 (tcpFlagFin ||| tcpFlagAck) 0]

theorem tcpClosing_legal_inOrder :
    ((tcpSocketInit.run tcpClosesInOrder).controls 0).state ≠ .closeWait := by
  have hopened : tcpSocketInit.Meets OrderlyStep (tcpConnects ++ [tcpCloses]) := by
    refine ⟨trivial, trivial, ?_, trivial, trivial⟩
    intro _ slot hslot htail
    have hfirst : ((tcpSocketInit.run (tcpConnects.take 2)).sweepPassive 2).firstSlot
        (·.matchesTuple (tcpPeerSegment 1000 458753 (tcpFlagSyn ||| tcpFlagAck) 0)) = some 0 := by
      decide
    have hzero : 0 = slot := Option.some.inj (hfirst.symm.trans hslot)
    have hsent : (((tcpSocketInit.run (tcpConnects.take 2)).sweepPassive 2).controls 0).state =
        .synSent := by decide
    rw [← hzero] at htail
    exact absurd hsent htail.notSent
  have hmeets : tcpSocketInit.Meets OrderlyStep tcpClosesInOrder := by
    have hsplit : tcpClosesInOrder = (tcpConnects ++ [tcpCloses]) ++
        [tcpPeerSends 1001 458754 (tcpFlagFin ||| tcpFlagAck) 0] := by
      rw [List.append_assoc]
      rfl
    rw [hsplit]
    refine meets_append.mpr ⟨hopened, ?_, trivial⟩
    intro _ slot hslot _
    have hfirst : ((tcpSocketInit.run (tcpConnects ++ [tcpCloses])).sweepPassive 2).firstSlot
        (·.matchesTuple (tcpPeerSegment 1001 458754 (tcpFlagFin ||| tcpFlagAck) 0)) = some 0 := by
      decide
    have hzero : 0 = slot := Option.some.inj (hfirst.symm.trans hslot)
    have hwaits : (((tcpSocketInit.run (tcpConnects ++ [tcpCloses])).sweepPassive 2).controls
        0).state = .finWait1 := by decide
    have hacks : (((tcpSocketInit.run (tcpConnects ++ [tcpCloses])).sweepPassive 2).controls
        0).acksAll (tcpPeerSegment 1001 458754 (tcpFlagFin ||| tcpFlagAck) 0) := by decide
    rw [← hzero]
    refine ⟨?_, ?_, ?_⟩
    · rw [hwaits]
      intro hclosed
      cases hclosed
    · rw [hwaits]
      rintro (h | h | h) <;> cases h
    · exact fun _ => .inr ⟨hwaits, hacks⟩
  have hown : (tcpEnds tcpClosesInOrder 0).own = true := by decide
  exact ((tcpClosing_legal tcpClosesInOrder hmeets 0).1 hown).1

/-- Both sides close at once: the FIN of the peer takes the block from FIN_WAIT_1 to CLOSE_WAIT,
where it stays. A FIN also takes a block out of CLOSED, and data is taken after it. -/
theorem tcpClosing_simultaneous :
    let closing := tcpConnects ++ [tcpCloses,
      tcpPeerSends 1001 458753 (tcpFlagFin ||| tcpFlagAck) 0, tcpPeerSends 1002 458754 tcpFlagAck 0]
    let reset := tcpConnects ++ [tcpPeerSends 1001 458753 tcpFlagRst 0]
    let finished := tcpConnects ++ [tcpPeerSends 1001 458753 (tcpFlagFin ||| tcpFlagAck) 0]
    (tcpEnds closing 0 = ⟨true, true⟩ ∧
      ((tcpSocketInit.run closing).controls 0).sendUnacknowledged =
        ((tcpSocketInit.run closing).controls 0).sendNext ∧
      ((tcpSocketInit.run closing).controls 0).state = .closeWait) ∧
    (((tcpSocketInit.run reset).controls 0).state = .closed ∧
      ((tcpSocketInit.run (reset ++
        [tcpPeerSends 1001 458753 (tcpFlagFin ||| tcpFlagAck) 0])).controls 0).state =
          .closeWait) ∧
    ((tcpEnds finished 0).peer = true ∧
      ((tcpSocketInit.run (finished ++ [tcpPeerSends 1002 458753 tcpFlagAck 3])).controls
        0).receiveCount = 3) := by
  decide

def tcpPeerAck (acknowledgement : UInt32) (window : UInt16) : TcpSegment :=
  { tcpPeerSegment 1001 acknowledgement tcpFlagAck 0 with window := window }

/-- One byte is sent and acknowledged, and the peer closes its window. -/
def tcpFills : List TcpEvent :=
  tcpConnects ++ [.send tcpClient (tcpMakeHandle 0 1) (some [1]) 1000 2,
    .ingress (some (tcpPeerAck 458754 0)) none 0x0a000001 2 true]

theorem tcpSocketIngress_peerWindow_closed :
    (((tcpSocketInit.run tcpFills).step
      (.ingress (some (tcpPeerAck 458754 0)) none 0x0a000001 2 true)).controls 0).peerWindow = 0 :=
  (tcpSocketIngress_peerWindow (tcpSocketInit.run tcpFills) 0 (by decide) (by decide) (by decide)
    (by decide) (by decide) (by decide) (by decide)).mpr (by decide)

/-- The peer opens its window again, and the next byte is refused all the same. -/
theorem tcpSocketIngress_windowUpdate :
    (¬ ∀ (events : List TcpEvent) (segment : TcpSegment) (data : Option (Nat → UInt8))
      (address : UInt32) (now : UInt64) (delivered : Bool) (slot : TcpSlot),
      ¬ ingressInvalid segment data address →
      ((tcpSocketInit.run events).sweepPassive now).firstSlot (·.matchesTuple segment) = some slot →
      ((tcpSocketInit.run events).controls slot).state = .established →
      segment.has tcpFlagAck = true → segment.has tcpFlagRst = false →
      ¬ ((tcpSocketInit.run events).controls slot).refusesAck segment →
      (((tcpSocketInit.run events).step (.ingress (some segment) data address now
        delivered)).controls slot).peerWindow = segment.window) ∧
    ((tcpSocketInit.run (tcpFills ++ [.ingress (some (tcpPeerAck 458754 512)) none 0x0a000001 2
      true])).controls 0).peerWindow = 0 := by
  refine ⟨fun hfollows => ?_, by decide⟩
  have hopen := hfollows tcpFills (tcpPeerAck 458754 512) none 0x0a000001 2 true 0 (by decide)
    (by decide) (by decide) (by decide) (by decide) (by decide)
  revert hopen
  decide

end TcpTable

end ReistOs
