import ReistOs.TcpSocket

/-! `tcp_socket_ingress`: what a segment does to the block it is for, and to the table. -/

namespace ReistOs

namespace TcpControlBlock

variable (c : TcpControlBlock) (segment : TcpSegment)

def answersSyn : Prop :=
  segment.masked (tcpFlagSyn ||| tcpFlagAck) = tcpFlagSyn ||| tcpFlagAck ∧
    segment.acknowledgement = c.sendNext ∧ segment.length = 0

instance : Decidable (c.answersSyn segment) := by unfold answersSyn; infer_instance

def establishActive : TcpControlBlock :=
  { c with
    sendUnacknowledged := segment.acknowledgement
    receiveNext := segment.sequence + 1
    peerWindow := segment.window
    state := .established }

def repeatsSyn : Prop :=
  segment.masked tcpHandshakeFlags = tcpFlagSyn ∧ segment.sequence + 1 = c.receiveNext ∧
    segment.length = 0

instance : Decidable (c.repeatsSyn segment) := by unfold repeatsSyn; infer_instance

def completesHandshake : Prop :=
  segment.masked tcpHandshakeFlags = tcpFlagAck ∧ segment.sequence = c.receiveNext ∧
    segment.acknowledgement = c.sendNext

instance : Decidable (c.completesHandshake segment) := by unfold completesHandshake; infer_instance

def establishPassive (now : UInt64) : TcpControlBlock :=
  { c with
    sendUnacknowledged := segment.acknowledgement
    peerWindow := segment.window
    state := .established
    passiveDeadline := tcpDeadlineAfter now tcpAcceptQueueMs }

/-- The acknowledgement is older than what is acknowledged, or for bytes never sent. -/
def refusesAck : Prop :=
  segment.has tcpFlagAck = true ∧
    (sequenceBefore segment.acknowledgement c.sendUnacknowledged = true ∨
      sequenceAfter segment.acknowledgement c.sendNext = true)

instance : Decidable (c.refusesAck segment) := by unfold refusesAck; infer_instance

/-- The acknowledgement is for bytes that were not acknowledged before. -/
def newAck : Prop :=
  segment.has tcpFlagAck = true ∧
    sequenceAfter segment.acknowledgement c.sendUnacknowledged = true

instance : Decidable (c.newAck segment) := by unfold newAck; infer_instance

def acknowledgedState : TcpState :=
  if c.state = .finWait1 then .finWait2 else if c.state = .lastAck then .closed else c.state

def takeAck : TcpControlBlock :=
  if c.newAck segment then
    let state :=
      if segment.acknowledgement = c.sendNext then c.acknowledgedState else c.state
    { c with
      sendUnacknowledged := segment.acknowledgement
      peerWindow := segment.window
      state := state }
  else c

/-- `TCP_SOCKET_RECEIVE_STORAGE - receive_count` in 32 bits. -/
def freeSpace : Nat := (tcpSocketReceiveStorage + 4294967296 - c.receiveCount) % 4294967296

/-- The data of the segment is the next in order and there is room for it. -/
def takesData : Prop :=
  segment.length ≠ 0 ∧ segment.sequence = c.receiveNext ∧ segment.length.toNat ≤ c.freeSpace

instance : Decidable (c.takesData segment) := by unfold takesData; infer_instance

def takeData (bytes : List UInt8) : TcpControlBlock :=
  if c.takesData segment then c.storeReceived bytes else c

/-- The segment ends the stream of the peer, right after what was received. -/
def takesFin : Prop :=
  segment.has tcpFlagFin = true ∧
    segment.sequence + segment.length.toUInt32 = c.receiveNext

instance : Decidable (c.takesFin segment) := by unfold takesFin; infer_instance

def takeFin : TcpControlBlock :=
  if c.takesFin segment then
    { c with
      receiveNext := c.receiveNext + 1
      state := if c.state = .finWait2 then .timeWait else .closeWait }
  else c

/-- The tail all other states share: acknowledgement, data, FIN. -/
def takeSegment (bytes : List UInt8) : TcpControlBlock :=
  ((c.takeAck segment).takeData segment bytes).takeFin segment

end TcpControlBlock

namespace TcpTable

variable (s : TcpTable)

def pendingChildren (listener : TcpSlot) : Nat :=
  ((List.finRange tcpSocketMaxSockets).filter fun slot =>
    (s.controls slot).childOf listener).length

def findListener (port : UInt16) : Option TcpSlot :=
  s.firstSlot fun control =>
    control.active && control.state == .listen && control.localPort == port

def passiveChild (listener child : TcpSlot) (segment : TcpSegment) (now : UInt64) :
    TcpControlBlock :=
  let control := (s.controls child).initialized (s.controls listener).owner
  let mixed := now.toUInt32 ^^^ segment.sourceIp ^^^ segment.sourcePort.toUInt32 <<< 16 ^^^
    control.generation
  let initial := if mixed = 0 then 1 else mixed
  { control with
    state := .synReceived
    remoteIp := segment.sourceIp
    remotePort := segment.sourcePort
    localPort := segment.destinationPort
    receiveNext := segment.sequence + 1
    peerWindow := segment.window
    listenerSlot := listener + 1
    passiveDeadline := tcpDeadlineAfter now tcpPassiveHandshakeMs
    sendUnacknowledged := initial
    sendNext := initial + 1 }

/-- No block has the segment's tuple: a bare SYN may open a child of a listener. -/
def ingressPassive (segment : TcpSegment) (now : UInt64) (delivered : Bool) : TcpOutcome :=
  match s.findListener segment.destinationPort with
  | none => ⟨.returned (-2), [], s⟩
  | some listener =>
    if segment.masked tcpHandshakeFlags ≠ tcpFlagSyn ∨ segment.length ≠ 0 then
      ⟨.returned (-84), [], s.drop⟩
    else if (s.controls listener).backlog.toNat ≤ s.pendingChildren listener then
      ⟨.returned (-105), [], s.drop⟩
    else
      match s.freeSlot with
      | none => ⟨.returned (-105), [], s.drop⟩
      | some slot =>
        let child := s.passiveChild listener slot segment now
        let answer :=
          if delivered then .returned 0
          else .undoes child.owner (tcpMakeHandle slot child.generation)
        ⟨answer, [child.wire child.sendUnacknowledged (tcpFlagSyn ||| tcpFlagAck) []],
          s.setControl slot child⟩

/-- The answer of a section that ends with the ACK `reply`, if any. -/
def ingressReply (slot : TcpSlot) (control : TcpControlBlock) (reply delivered : Bool) :
    TcpOutcome :=
  let sent := if reply then [control.wire control.sendNext tcpFlagAck []] else []
  ⟨.returned (if reply && !delivered then -11 else 0), sent, s.setControl slot control⟩

/-- The block of `slot` has the segment's tuple. -/
def ingressMatched (slot : TcpSlot) (segment : TcpSegment) (bytes : List UInt8) (now : UInt64)
    (delivered : Bool) : TcpOutcome :=
  let control := s.controls slot
  if segment.has tcpFlagRst then
    ⟨.returned 0, [], s.setControl slot { control with state := .closed }⟩
  else if control.state = .synSent then
    if control.answersSyn segment then
      s.ingressReply slot (control.establishActive segment) true delivered
    else ⟨.returned (-84), [], s.drop⟩
  else if control.state = .synReceived then
    if control.repeatsSyn segment then
      ⟨.returned (if delivered then 0 else -11),
        [control.wire control.sendUnacknowledged (tcpFlagSyn ||| tcpFlagAck) []], s⟩
    else if control.completesHandshake segment then
      let established := control.establishPassive segment now
      if segment.length ≠ 0 then
        s.ingressReply slot (established.storeReceived bytes) true delivered
      else s.ingressReply slot established false delivered
    else ⟨.returned (-84), [], s.drop⟩
  else if control.refusesAck segment then ⟨.returned (-84), [], s.drop⟩
  else
    let acknowledged := control.takeAck segment
    let dropped := segment.length ≠ 0 ∧ ¬ acknowledged.takesData segment
    let received := acknowledged.takeData segment bytes
    let reply := segment.length ≠ 0 ∨ received.takesFin segment
    let s := if dropped then s.drop else s
    s.ingressReply slot (control.takeSegment segment bytes) (decide reply) delivered

/-- The checks `tcp_socket_ingress` makes before it takes the lock. -/
def ingressInvalid (segment : TcpSegment) (data : Option (Nat → UInt8)) (address : UInt32) :
    Prop :=
  segment.version ≠ tcpSocketAbiVersion ∨ segment.structSize ≠ tcpSocketSegmentSize ∨
    segment.sourceIp = 0 ∨ segment.destinationIp ≠ address ∨ segment.sourcePort = 0 ∨
    segment.destinationPort = 0 ∨ tcpSocketMaxSegment < segment.length ∨
    (segment.length ≠ 0 ∧ data.isNone = true) ∨ (∃ b ∈ segment.reserved, b ≠ 0)

instance (segment : TcpSegment) (data : Option (Nat → UInt8)) (address : UInt32) :
    Decidable (ingressInvalid segment data address) := by
  unfold ingressInvalid
  infer_instance

/-- With the address of the network stack, up to the second section of a failed answer to a SYN; no
segment stands for a null pointer. -/
def tcpSocketIngress (segment : Option TcpSegment) (data : Option (Nat → UInt8))
    (address : UInt32) (now : UInt64) (delivered : Bool) : TcpOutcome :=
  match segment with
  | none => ⟨.returned (-22), [], s⟩
  | some segment =>
    if ingressInvalid segment data address then ⟨.returned (-22), [], s⟩
    else
      let bytes := segment.bytes (data.getD fun _ => 0)
      let s := s.sweepPassive now
      match s.firstSlot (·.matchesTuple segment) with
      | none => s.ingressPassive segment now delivered
      | some slot => s.ingressMatched slot segment bytes now delivered

/-- The second section, for the child whose SYN was not answered. -/
def tcpSocketIngressUndo (owner : NetOwner) (handle : UInt32) : TcpOutcome :=
  match s.resolve owner handle with
  | none => ⟨.returned (-11), [], s⟩
  | some slot =>
    if (s.controls slot).state = .synReceived then
      ⟨.returned (-11), [], s.setControl slot (s.controls slot).retire⟩
    else ⟨.returned (-11), [], s⟩

end TcpTable

/-- One critical section on the table, by any task. -/
inductive TcpEvent
  | opened (owner : NetOwner) (handleOut : Bool) (now : UInt64)
  | listen (owner : NetOwner) (handle : UInt32) (localPort backlog : UInt16) (now : UInt64)
  | accept (owner : NetOwner) (listener : UInt32) (outs : Bool) (timeoutMs : UInt32)
      (started now : UInt64) (waited : Int)
  | waitForAck (wait : TcpAckWait) (now : UInt64) (delivered : Bool) (waited : Int)
  | connect (owner : NetOwner) (handle destinationIp : UInt32) (destinationPort : UInt16)
      (timeoutMs : UInt32) (clock started : UInt64)
  | connected (owner : NetOwner) (handle : UInt32)
  | send (owner : NetOwner) (handle : UInt32) (data : Option (List UInt8)) (timeoutMs : UInt32)
      (started : UInt64)
  | receive (owner : NetOwner) (handle : UInt32) (dataOut : Bool) (capacity : Nat)
      (timeoutMs : UInt32) (started now : UInt64) (waited : Int)
  | close (owner : NetOwner) (handle : UInt32) (timeoutMs : UInt32) (started : UInt64)
  | closeWait (owner : NetOwner) (handle : UInt32) (closeDeadline now : UInt64) (waited : Int)
  | closeEnd (owner : NetOwner) (handle : UInt32) (result : Int)
  | cleanup (owner : NetOwner)
  | ingress (segment : Option TcpSegment) (data : Option (Nat → UInt8)) (address : UInt32)
      (now : UInt64) (delivered : Bool)
  | ingressUndo (owner : NetOwner) (handle : UInt32)

def TcpTable.perform (s : TcpTable) : TcpEvent → TcpOutcome
  | .opened owner handleOut now => s.tcpSocketOpen owner handleOut now
  | .listen owner handle localPort backlog now =>
    s.tcpSocketListen owner handle localPort backlog now
  | .accept owner listener outs timeoutMs started now waited =>
    s.tcpSocketAccept owner listener outs timeoutMs started now waited
  | .waitForAck wait now delivered waited => s.waitForAck wait now delivered waited
  | .connect owner handle destinationIp destinationPort timeoutMs clock started =>
    s.tcpSocketConnect owner handle destinationIp destinationPort timeoutMs clock started
  | .connected owner handle => s.tcpSocketConnected owner handle
  | .send owner handle data timeoutMs started => s.tcpSocketSend owner handle data timeoutMs started
  | .receive owner handle dataOut capacity timeoutMs started now waited =>
    s.tcpSocketReceive owner handle dataOut capacity timeoutMs started now waited
  | .close owner handle timeoutMs started => s.tcpSocketClose owner handle timeoutMs started
  | .closeWait owner handle closeDeadline now waited =>
    s.tcpSocketCloseWait owner handle closeDeadline now waited
  | .closeEnd owner handle result => s.tcpSocketCloseEnd owner handle result
  | .cleanup owner => s.tcpSocketProcessCleanup owner
  | .ingress segment data address now delivered =>
    s.tcpSocketIngress segment data address now delivered
  | .ingressUndo owner handle => s.tcpSocketIngressUndo owner handle

def TcpTable.step (s : TcpTable) (event : TcpEvent) : TcpTable := (s.perform event).table

def tcpSocketInit : TcpTable :=
  { controls := fun _ => clearedControl 0, droppedSegments := 0, retransmissions := 0 }

def TcpTable.run (s : TcpTable) (events : List TcpEvent) : TcpTable := events.foldl TcpTable.step s

end ReistOs
