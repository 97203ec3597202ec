import ReistOs.NetSocket
import ReistOs.RingBuffer
import ReistOs.SlotToken

/-! The fixed table of TCP control blocks of `drivers/net/tcp_socket.c`. A function that waits is
one pass of its loop, every definition one critical section of the table's lock, and what the clock,
the scheduler and the network stack answer a parameter. A wait may end at any time. -/

namespace ReistOs

def tcpSocketMaxSockets : Nat := 4
def tcpSocketAbiVersion : UInt32 := 1
def tcpSocketSegmentSize : UInt32 := 36
def tcpSocketMaxSegment : UInt16 := 512
def tcpSocketReceiveCapacity : Nat := 2048
def tcpSocketReceiveStorage : Nat := 32768
def tcpSocketMaxTimeoutMs : UInt32 := 30000
def tcpSocketMaxBacklog : UInt16 := 2
def tcpInitialRtoMs : UInt32 := 250
def tcpMaxRetries : UInt32 := 4
def tcpPassiveHandshakeMs : UInt32 := 5000
def tcpAcceptQueueMs : UInt32 := 30000
def tcpLastGeneration : UInt32 := 0x00ffffff

def tcpFlagFin : UInt8 := 0x01
def tcpFlagSyn : UInt8 := 0x02
def tcpFlagRst : UInt8 := 0x04
def tcpFlagPsh : UInt8 := 0x08
def tcpFlagAck : UInt8 := 0x10

abbrev TcpSlot := Fin tcpSocketMaxSockets

instance : NeZero tcpSocketMaxSockets := ⟨Nat.succ_ne_zero 3⟩

inductive TcpState
  | closed
  | listen
  | synSent
  | synReceived
  | established
  | finWait1
  | finWait2
  | closeWait
  | closing
  | lastAck
  | timeWait
deriving DecidableEq

structure TcpControlBlock where
  active : Bool
  generation : UInt32
  owner : NetOwner
  state : TcpState
  remoteIp : UInt32
  localPort : UInt16
  remotePort : UInt16
  sendUnacknowledged : UInt32
  sendNext : UInt32
  receiveNext : UInt32
  peerWindow : UInt16
  receiveHead : Nat
  receiveCount : Nat
  backlog : UInt16
  /-- zero for an independent socket, else one more than the index of the listener -/
  listenerSlot : Nat
  accepted : Bool
  passiveDeadline : UInt64
  receiveBuffer : Nat → UInt8

/-- `tcp_socket_segment_t`. -/
structure TcpSegment where
  version : UInt32
  structSize : UInt32
  sourceIp : UInt32
  destinationIp : UInt32
  sequence : UInt32
  acknowledgement : UInt32
  sourcePort : UInt16
  destinationPort : UInt16
  window : UInt16
  length : UInt16
  flags : UInt8
  reserved : List UInt8

/-- What is handed to `netstack_send_tcp_segment`. -/
structure TcpWireSegment where
  remoteIp : UInt32
  localPort : UInt16
  remotePort : UInt16
  sequence : UInt32
  acknowledgement : UInt32
  flags : UInt8
  window : Nat
  data : List UInt8
deriving DecidableEq

/-- The arguments and local variables of `wait_for_ack`. -/
structure TcpAckWait where
  owner : NetOwner
  handle : UInt32
  expectedAck : UInt32
  sequence : UInt32
  flags : UInt8
  data : List UInt8
  deadline : UInt64
  retry : UInt32
  rto : UInt32
  retryAt : UInt64

structure TcpTable where
  controls : TcpSlot → TcpControlBlock
  droppedSegments : UInt32
  retransmissions : UInt32

inductive TcpAnswer
  | returned (result : Int)
  | opened (handle : UInt32)
  | accepted (handle : UInt32) (peerIp : UInt32) (peerPort : UInt16)
  | received (data : List UInt8)
  /-- the call goes on with another section -/
  | continues
  | awaits (wait : TcpAckWait)
  /-- the answer to a SYN could not be sent -/
  | undoes (owner : NetOwner) (handle : UInt32)

structure TcpOutcome where
  answer : TcpAnswer
  sent : List TcpWireSegment
  table : TcpTable

def tcpDeadlineAfter (now : UInt64) (milliseconds : UInt32) : UInt64 :=
  let deadline := now + milliseconds.toUInt64
  if deadline < now then 0xffffffffffffffff else deadline

def sequenceBefore (left right : UInt32) : Bool := 0x80000000 ≤ left - right

def sequenceAfter (left right : UInt32) : Bool := sequenceBefore right left

def tcpMakeHandle (slot : TcpSlot) (generation : UInt32) : UInt32 := slotToken slot generation

def saturating (counter : UInt32) : UInt32 := if counter ≠ 0xffffffff then counter + 1 else counter

/-- The block after `memset`, with this generation. -/
def clearedControl (generation : UInt32) : TcpControlBlock :=
  { active := false
    generation := generation
    owner := ⟨0, 0⟩
    state := .closed
    remoteIp := 0
    localPort := 0
    remotePort := 0
    sendUnacknowledged := 0
    sendNext := 0
    receiveNext := 0
    peerWindow := 0
    receiveHead := 0
    receiveCount := 0
    backlog := 0
    listenerSlot := 0
    accepted := false
    passiveDeadline := 0
    receiveBuffer := fun _ => 0 }

def tcpNextGeneration (generation : UInt32) : UInt32 :=
  let generation := generation + 1
  if generation = 0 ∨ tcpLastGeneration < generation then 1 else generation

namespace TcpControlBlock

variable (c : TcpControlBlock)

def retire : TcpControlBlock := clearedControl c.generation

/-- `initialize_control_locked`. -/
def initialized (owner : NetOwner) : TcpControlBlock :=
  { clearedControl (tcpNextGeneration c.generation) with active := true, owner := owner }

/-- A child of the listener at `listener` that accept has not handed out. -/
def childOf (listener : TcpSlot) : Bool :=
  c.active && !c.accepted && c.listenerSlot == listener + 1

def expired (now : UInt64) : Bool :=
  c.active && !c.accepted && c.listenerSlot != 0 && c.passiveDeadline ≤ now

def matchesTuple (segment : TcpSegment) : Bool :=
  c.active && c.remoteIp == segment.sourceIp && c.localPort == segment.destinationPort &&
    c.remotePort == segment.sourcePort

/-- `wire_context` and `send_control`: what a block would send now. -/
def wire (sequence : UInt32) (flags : UInt8) (data : List UInt8) : TcpWireSegment :=
  { remoteIp := c.remoteIp
    localPort := c.localPort
    remotePort := c.remotePort
    sequence := sequence
    acknowledgement := c.receiveNext
    flags := flags
    window := (tcpSocketReceiveStorage + 65536 - c.receiveCount) % 65536
    data := data }

/-- The loop that copies the data of a segment into the ring. -/
def storeReceived (bytes : List UInt8) : TcpControlBlock :=
  let tail := (c.receiveHead + c.receiveCount) % tcpSocketReceiveStorage
  { c with
    receiveBuffer := RingBuffer.store tcpSocketReceiveStorage c.receiveBuffer tail bytes
    receiveCount := (c.receiveCount + bytes.length) % 65536
    receiveNext := c.receiveNext + UInt32.ofNat bytes.length }

end TcpControlBlock

/-- The flags of a segment that `mask` lets through. -/
def TcpSegment.masked (segment : TcpSegment) (mask : UInt8) : UInt8 := segment.flags &&& mask

def TcpSegment.has (segment : TcpSegment) (flag : UInt8) : Bool := segment.masked flag != 0

def tcpHandshakeFlags : UInt8 := tcpFlagSyn ||| tcpFlagAck ||| tcpFlagRst ||| tcpFlagFin

/-- The bytes at `data` that a segment carries. -/
def TcpSegment.bytes (segment : TcpSegment) (data : Nat → UInt8) : List UInt8 :=
  (List.range segment.length.toNat).map data

namespace TcpTable

variable (s : TcpTable)

def setControl (slot : TcpSlot) (control : TcpControlBlock) : TcpTable :=
  { s with controls := Function.update s.controls slot control }

def drop : TcpTable := { s with droppedSegments := saturating s.droppedSegments }

def resolve (owner : NetOwner) (handle : UInt32) : Option TcpSlot :=
  let encoded := (handle &&& 0xff).toNat
  let generation := handle >>> 8
  if h : 0 < encoded ∧ encoded ≤ tcpSocketMaxSockets then
    let slot : TcpSlot := ⟨encoded - 1, by omega⟩
    let control := s.controls slot
    if generation = 0 then none
    else if !control.active || control.generation != generation || control.owner != owner then
      none
    else some slot
  else none

/-- The first slot in table order for which the loop body does not continue. -/
def firstSlot (found : TcpControlBlock → Bool) : Option TcpSlot :=
  (List.finRange tcpSocketMaxSockets).find? fun slot => found (s.controls slot)

def freeSlot : Option TcpSlot := s.firstSlot (!·.active)

/-- `sweep_passive_locked`. -/
def sweepPassive (now : UInt64) : TcpTable :=
  { s with
    controls := fun slot =>
      if (s.controls slot).expired now then (s.controls slot).retire else s.controls slot }

def tcpSocketOpen (owner : NetOwner) (handleOut : Bool) (now : UInt64) : TcpOutcome :=
  if owner.pid ≤ 0 ∨ owner.generation = 0 ∨ !handleOut then ⟨.returned (-22), [], s⟩
  else
    let s := s.sweepPassive now
    match s.freeSlot with
    | none => ⟨.returned (-28), [], s⟩
    | some slot =>
      let control := (s.controls slot).initialized owner
      ⟨.opened (tcpMakeHandle slot control.generation), [], s.setControl slot control⟩

/-- Another block than `slot` listens on the port. -/
def portListened (slot : TcpSlot) (port : UInt16) : Prop :=
  ∃ other, other ≠ slot ∧ (s.controls other).active = true ∧
    (s.controls other).state = .listen ∧ (s.controls other).localPort = port

instance (slot : TcpSlot) (port : UInt16) : Decidable (s.portListened slot port) := by
  unfold portListened
  infer_instance

def tcpSocketListen (owner : NetOwner) (handle : UInt32) (localPort backlog : UInt16)
    (now : UInt64) : TcpOutcome :=
  if localPort = 0 ∨ backlog = 0 ∨ tcpSocketMaxBacklog < backlog then ⟨.returned (-22), [], s⟩
  else
    let s := s.sweepPassive now
    match s.resolve owner handle with
    | none => ⟨.returned (-9), [], s⟩
    | some slot =>
      let control := s.controls slot
      if control.state ≠ .closed then ⟨.returned (-106), [], s⟩
      else if s.portListened slot localPort then ⟨.returned (-98), [], s⟩
      else
        ⟨.returned 0, [], s.setControl slot
          { control with localPort := localPort, backlog := backlog, state := .listen }⟩

def establishedChild (listener : TcpSlot) : Option TcpSlot :=
  s.firstSlot fun control => control.childOf listener && control.state == .established

/-- A pass of `tcp_socket_accept` in a call begun at `started`. -/
def tcpSocketAccept (owner : NetOwner) (listener : UInt32) (outs : Bool) (timeoutMs : UInt32)
    (started now : UInt64) (waited : Int) : TcpOutcome :=
  if !outs ∨ tcpSocketMaxTimeoutMs < timeoutMs then ⟨.returned (-22), [], s⟩
  else
    let deadline := tcpDeadlineAfter started timeoutMs
    let s := s.sweepPassive now
    match s.resolve owner listener with
    | none => ⟨.returned (-9), [], s⟩
    | some index =>
      if (s.controls index).state ≠ .listen then ⟨.returned (-22), [], s⟩
      else
        match s.establishedChild index with
        | some slot =>
          let candidate := s.controls slot
          ⟨.accepted (tcpMakeHandle slot candidate.generation) candidate.remoteIp
              candidate.remotePort, [], s.setControl slot
            { candidate with accepted := true, listenerSlot := 0, passiveDeadline := 0 }⟩
        | none =>
          if timeoutMs = 0 then ⟨.returned (-11), [], s⟩
          else if deadline ≤ now then ⟨.returned (-110), [], s⟩
          else if waited ≠ 0 ∧ waited ≠ -110 then ⟨.returned (-11), [], s⟩
          else ⟨.continues, [], s⟩

/-- A pass of `wait_for_ack`; `delivered` is whether the segment could be sent. -/
def waitForAck (wait : TcpAckWait) (now : UInt64) (delivered : Bool) (waited : Int) :
    TcpOutcome :=
  match s.resolve wait.owner wait.handle with
  | none => ⟨.returned (-9), [], s⟩
  | some slot =>
    let control := s.controls slot
    if control.state = .closed then ⟨.returned (-104), [], s⟩
    else if control.sendUnacknowledged = wait.expectedAck then ⟨.returned 0, [], s⟩
    else if wait.deadline ≤ now ∨ tcpMaxRetries ≤ wait.retry then
      ⟨.returned (-110), [], s.setControl slot { control with state := .closed }⟩
    else if wait.retryAt ≤ now then
      let retry := wait.retry + 1
      let retryAt := tcpDeadlineAfter now wait.rto
      let next : TcpAckWait :=
        { wait with
          retry := retry
          retryAt := if wait.deadline < retryAt then wait.deadline else retryAt
          rto := if wait.rto < 2000 then wait.rto * 2 else wait.rto }
      let sent := [control.wire wait.sequence wait.flags wait.data]
      let s :=
        if 1 < retry then { s with retransmissions := saturating s.retransmissions } else s
      if !delivered ∧ retry = tcpMaxRetries then ⟨.returned (-113), sent, s⟩
      else ⟨.awaits next, sent, s⟩
    else if waited ≠ 0 ∧ waited ≠ -110 then ⟨.returned (-11), [], s⟩
    else ⟨.awaits wait, [], s⟩

/-- The local variables of `wait_for_ack` when it is called. -/
def beginAckWait (owner : NetOwner) (handle expectedAck sequence : UInt32) (flags : UInt8)
    (data : List UInt8) (timeoutMs : UInt32) (started : UInt64) : TcpAckWait :=
  { owner := owner
    handle := handle
    expectedAck := expectedAck
    sequence := sequence
    flags := flags
    data := data
    deadline := tcpDeadlineAfter started timeoutMs
    retry := 0
    rto := tcpInitialRtoMs
    retryAt := started }

/-- Another active block than `slot` has the local port. -/
def portTaken (slot : TcpSlot) (port : UInt16) : Prop :=
  ∃ other, other ≠ slot ∧ (s.controls other).active = true ∧ (s.controls other).localPort = port

instance (slot : TcpSlot) (port : UInt16) : Decidable (s.portTaken slot port) := by
  unfold portTaken
  infer_instance

def nextCandidate (candidate : UInt16) : UInt16 :=
  if candidate = 57343 then 49152 else candidate + 1

/-- The loop over candidates: whether one was available, and the last one. -/
def findPort (slot : TcpSlot) : Nat → UInt16 → Bool × UInt16
  | 0, candidate => (false, candidate)
  | attempts + 1, candidate =>
    if s.portTaken slot candidate then findPort slot attempts (nextCandidate candidate)
    else (true, candidate)

def firstCandidate (slot : TcpSlot) (generation : UInt32) : UInt16 :=
  (49152 + (UInt32.ofNat slot * 1021 + generation) % 8192).toUInt16

/-- The first section of `tcp_socket_connect`; `clock` gives the initial sequence number. -/
def tcpSocketConnect (owner : NetOwner) (handle destinationIp : UInt32)
    (destinationPort : UInt16) (timeoutMs : UInt32) (clock started : UInt64) : TcpOutcome :=
  if destinationIp = 0 ∨ destinationIp = 0xffffffff ∨ destinationPort = 0 ∨ timeoutMs = 0 ∨
      tcpSocketMaxTimeoutMs < timeoutMs then ⟨.returned (-22), [], s⟩
  else
    match s.resolve owner handle with
    | none => ⟨.returned (-9), [], s⟩
    | some slot =>
      let control := s.controls slot
      if control.state ≠ .closed then ⟨.returned (-106), [], s⟩
      else
        let (available, candidate) :=
          s.findPort slot tcpSocketMaxSockets (firstCandidate slot control.generation)
        let control :=
          { control with
            remoteIp := destinationIp, remotePort := destinationPort, localPort := candidate }
        if !available then ⟨.returned (-98), [], s.setControl slot control⟩
        else
          let pid := UInt32.ofInt owner.pid
          let mixed := clock.toUInt32 ^^^ pid <<< 16 ^^^ control.generation
          let initial := if mixed = 0 then 1 else mixed
          let control :=
            { control with
              sendUnacknowledged := initial
              sendNext := initial + 1
              peerWindow := tcpSocketMaxSegment
              state := .synSent }
          ⟨.awaits (beginAckWait owner handle (initial + 1) initial tcpFlagSyn [] timeoutMs
            started), [], s.setControl slot control⟩

/-- The last section of `tcp_socket_connect`. -/
def tcpSocketConnected (owner : NetOwner) (handle : UInt32) : TcpOutcome :=
  match s.resolve owner handle with
  | none => ⟨.returned (-9), [], s⟩
  | some slot =>
    if (s.controls slot).state ≠ .established then ⟨.returned (-104), [], s⟩
    else ⟨.returned 0, [], s⟩

/-- The first section of `tcp_socket_send`; no data stands for a null pointer. -/
def tcpSocketSend (owner : NetOwner) (handle : UInt32) (data : Option (List UInt8))
    (timeoutMs : UInt32) (started : UInt64) : TcpOutcome :=
  match data with
  | none => ⟨.returned (-22), [], s⟩
  | some data =>
    if data.length = 0 ∨ tcpSocketMaxSegment.toNat < data.length ∨ timeoutMs = 0 ∨
        tcpSocketMaxTimeoutMs < timeoutMs then ⟨.returned (-22), [], s⟩
    else
      match s.resolve owner handle with
      | none => ⟨.returned (-9), [], s⟩
      | some slot =>
        let control := s.controls slot
        if control.state ≠ .established then ⟨.returned (-107), [], s⟩
        else if control.sendUnacknowledged ≠ control.sendNext then ⟨.returned (-114), [], s⟩
        else if control.peerWindow.toNat < data.length then ⟨.returned (-11), [], s⟩
        else
          let expected := control.sendNext + UInt32.ofNat data.length
          ⟨.awaits (beginAckWait owner handle expected control.sendNext
              (tcpFlagAck ||| tcpFlagPsh) data timeoutMs started), [],
            s.setControl slot { control with sendNext := expected }⟩

/-- A pass of `tcp_socket_receive` in a call begun at `started`. -/
def tcpSocketReceive (owner : NetOwner) (handle : UInt32) (dataOut : Bool) (capacity : Nat)
    (timeoutMs : UInt32) (started now : UInt64) (waited : Int) : TcpOutcome :=
  if !dataOut ∨ capacity = 0 ∨ tcpSocketReceiveCapacity < capacity ∨
      tcpSocketMaxTimeoutMs < timeoutMs then ⟨.returned (-22), [], s⟩
  else
    let deadline := tcpDeadlineAfter started timeoutMs
    match s.resolve owner handle with
    | none => ⟨.returned (-9), [], s⟩
    | some slot =>
      let control := s.controls slot
      if control.receiveCount ≠ 0 then
        let amount := if control.receiveCount < capacity then control.receiveCount else capacity
        let data := RingBuffer.contents tcpSocketReceiveStorage control.receiveBuffer
          control.receiveHead amount
        let control :=
          { control with
            receiveHead :=
              RingBuffer.advance tcpSocketReceiveStorage control.receiveHead amount
            receiveCount := control.receiveCount - amount }
        ⟨.received data, [control.wire control.sendNext tcpFlagAck []], s.setControl slot control⟩
      else if control.state = .closeWait ∨ control.state = .closed then ⟨.received [], [], s⟩
      else if timeoutMs = 0 then ⟨.returned (-11), [], s⟩
      else if deadline ≤ now then ⟨.returned (-110), [], s⟩
      else if waited ≠ 0 ∧ waited ≠ -110 then ⟨.returned (-11), [], s⟩
      else ⟨.continues, [], s⟩

def retireListener (listener : TcpSlot) : TcpTable :=
  { s with
    controls := fun slot =>
      if (s.controls slot).childOf listener ∨ slot = listener then (s.controls slot).retire
      else s.controls slot }

/-- The first section of `tcp_socket_close`. -/
def tcpSocketClose (owner : NetOwner) (handle : UInt32) (timeoutMs : UInt32)
    (started : UInt64) : TcpOutcome :=
  if tcpSocketMaxTimeoutMs < timeoutMs then ⟨.returned (-22), [], s⟩
  else
    match s.resolve owner handle with
    | none => ⟨.returned (-9), [], s⟩
    | some slot =>
      let control := s.controls slot
      if control.state = .listen then ⟨.returned 0, [], s.retireListener slot⟩
      else if control.state = .closed ∨ timeoutMs = 0 then
        let sent :=
          if control.state ≠ .closed then
            [control.wire control.sendNext (tcpFlagRst ||| tcpFlagAck) []]
          else []
        ⟨.returned 0, sent, s.setControl slot control.retire⟩
      else if control.state ≠ .established ∧ control.state ≠ .closeWait then
        ⟨.returned 0, [], s.setControl slot control.retire⟩
      else
        let closeState := if control.state = .closeWait then .lastAck else .finWait1
        let expected := control.sendNext + 1
        ⟨.awaits (beginAckWait owner handle expected control.sendNext
            (tcpFlagFin ||| tcpFlagAck) [] timeoutMs started), [],
          s.setControl slot { control with sendNext := expected, state := closeState }⟩

/-- A pass of the loop in which an active close waits for the peer's FIN. -/
def tcpSocketCloseWait (owner : NetOwner) (handle : UInt32) (closeDeadline now : UInt64)
    (waited : Int) : TcpOutcome :=
  match s.resolve owner handle with
  | none => ⟨.returned (-9), [], s⟩
  | some slot =>
    if (s.controls slot).state = .timeWait ∨ (s.controls slot).state = .closed then
      ⟨.returned 0, [], s⟩
    else if closeDeadline ≤ now then ⟨.returned (-110), [], s⟩
    else if waited ≠ 0 ∧ waited ≠ -110 then ⟨.returned (-11), [], s⟩
    else ⟨.continues, [], s⟩

/-- The last section of `tcp_socket_close`, after a wait that came to `result`. -/
def tcpSocketCloseEnd (owner : NetOwner) (handle : UInt32) (result : Int) : TcpOutcome :=
  let answer := if result = -104 then 0 else result
  match s.resolve owner handle with
  | none => ⟨.returned answer, [], s⟩
  | some slot => ⟨.returned answer, [], s.setControl slot (s.controls slot).retire⟩

def tcpSocketProcessCleanup (owner : NetOwner) : TcpOutcome :=
  let owned := fun slot => (s.controls slot).active && (s.controls slot).owner == owner
  let reset := (List.finRange tcpSocketMaxSockets).filter fun slot =>
    owned slot && (s.controls slot).state != .closed
  let sent := reset.map fun slot =>
    (s.controls slot).wire (s.controls slot).sendNext (tcpFlagRst ||| tcpFlagAck) []
  ⟨.continues, sent,
    { s with
      controls := fun slot =>
        if owned slot then (s.controls slot).retire else s.controls slot }⟩

end TcpTable

end ReistOs
