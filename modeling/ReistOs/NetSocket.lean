import ReistOs.RingQueue

namespace ReistOs

def netSocketMaxSockets : Nat := 8
def netSocketQueueDepth : Nat := 4
def netSocketMaxDatagram : UInt32 := 512
def netSocketAbiVersion : UInt32 := 1
def netSocketDatagramSize : UInt32 := 20

abbrev NetSlot := Fin netSocketMaxSockets

/-- A process instance, as sockets name it. -/
structure NetOwner where
  pid : Int
  generation : UInt32
deriving DecidableEq

structure NetSocketDatagram where
  version : UInt32
  structSize : UInt32
  sourceIp : UInt32
  sourcePort : UInt16
  destinationPort : UInt16
  length : UInt32
deriving DecidableEq

structure QueuedDatagram where
  metadata : NetSocketDatagram
  data : List UInt8
deriving DecidableEq

instance : Inhabited QueuedDatagram := ⟨⟨⟨0, 0, 0, 0, 0, 0⟩, []⟩⟩

/-- What the device hands to `net_socket_ingress`; no data stands for a null pointer. -/
structure NetPacket where
  sourceIp : UInt32
  sourcePort : UInt16
  destinationPort : UInt16
  data : Option (List UInt8)
  length : UInt32

def NetPacket.queued (p : NetPacket) : QueuedDatagram :=
  { metadata :=
      { version := netSocketAbiVersion
        structSize := netSocketDatagramSize
        sourceIp := p.sourceIp
        sourcePort := p.sourcePort
        destinationPort := p.destinationPort
        length := p.length }
    data := (p.data.getD []).take p.length.toNat }

/-- The receive waiters are the calls of recvfrom that sleep on the socket. -/
structure UdpSocket where
  active : Bool
  generation : UInt32
  owner : NetOwner
  localPort : UInt16
  queue : RingQueue QueuedDatagram netSocketQueueDepth
  receiveWaiters : List Nat

/-- The socket after `memset`, with this generation. -/
def clearedSocket (generation : UInt32) : UdpSocket :=
  { active := false
    generation := generation
    owner := ⟨0, 0⟩
    localPort := 0
    queue := .empty (by decide)
    receiveWaiters := [] }

/-- Where a call of recvfrom stands between two critical sections. -/
inductive RecvPhase
  | running
  | blocked (slot : NetSlot)
  | woken (result : Int)

/-- The arguments and local variables of a call of recvfrom. -/
structure RecvCall where
  owner : NetOwner
  handle : UInt32
  capacity : UInt32
  timeoutMs : UInt32
  deadline : UInt64
  phase : RecvPhase

structure NetSockets where
  sockets : NetSlot → UdpSocket
  droppedDatagrams : UInt32
  calls : Nat → Option RecvCall

def makeHandle (slot : NetSlot) (generation : UInt32) : UInt32 :=
  generation <<< 8 ||| (UInt32.ofNat slot + 1)

def handleSlot (handle : UInt32) : Option NetSlot :=
  let encoded := (handle &&& 0xff).toNat
  if h : encoded - 1 < netSocketMaxSockets then
    if encoded = 0 then none else some ⟨encoded - 1, h⟩
  else none

namespace NetSockets

variable (s : NetSockets)

def resolve (owner : NetOwner) (handle : UInt32) : Option NetSlot :=
  match handleSlot handle with
  | none => none
  | some slot =>
    let socket := s.sockets slot
    if handle >>> 8 = 0 then none
    else if !socket.active || socket.generation != handle >>> 8 || socket.owner != owner then none
    else some slot

def setSocket (slot : NetSlot) (socket : UdpSocket) : NetSockets :=
  { s with sockets := Function.update s.sockets slot socket }

def setPhase (id : Nat) (phase : RecvPhase) : NetSockets :=
  { s with calls := Function.update s.calls id ((s.calls id).map ({ · with phase := phase })) }

def endCall (id : Nat) : NetSockets := { s with calls := Function.update s.calls id none }

/-- `wait_queue_wake_all_locked` on a list of sleeping calls. -/
def wakeAll (waiters : List Nat) : NetSockets :=
  waiters.foldl (fun s id => s.setPhase id (.woken 0)) s

def nextGeneration (generation : UInt32) : UInt32 :=
  let generation := generation + 1
  if generation = 0 ∨ 0x00ffffff < generation then 1 else generation

/-- The first slot in table order for which the loop body does not continue. -/
def firstSlot (found : UdpSocket → Bool) : Option NetSlot :=
  (List.finRange netSocketMaxSockets).find? fun slot => found (s.sockets slot)

/-- `net_socket_open`; on success the handle is the second component. -/
def netSocketOpen (owner : NetOwner) (handleOut : Bool) : Int × UInt32 × NetSockets :=
  if owner.pid ≤ 0 ∨ owner.generation = 0 ∨ !handleOut then (-22, 0, s)
  else match s.firstSlot (!·.active) with
  | none => (-28, 0, s)
  | some slot =>
    let generation := nextGeneration (s.sockets slot).generation
    (0, makeHandle slot generation,
      s.setSocket slot { clearedSocket generation with active := true, owner := owner })

def netSocketBind (owner : NetOwner) (handle : UInt32) (port : UInt16) : Int × NetSockets :=
  if port = 0 then (-22, s)
  else match s.resolve owner handle with
  | none => (-9, s)
  | some slot =>
    let socket := s.sockets slot
    if ∃ other, other ≠ slot ∧ (s.sockets other).active = true ∧
        (s.sockets other).localPort = port then (-98, s)
    else if socket.localPort ≠ 0 ∧ socket.localPort ≠ port then (-22, s)
    else (0, s.setSocket slot { socket with localPort := port })

/-- Waking the waiters and clearing the socket, in close and cleanup. -/
def closeSocket (slot : NetSlot) : NetSockets :=
  let socket := s.sockets slot
  (s.wakeAll socket.receiveWaiters).setSocket slot (clearedSocket socket.generation)

def netSocketClose (owner : NetOwner) (handle : UInt32) : Int × NetSockets :=
  match s.resolve owner handle with
  | none => (-9, s)
  | some slot => (0, s.closeSocket slot)

def netSocketProcessCleanup (owner : NetOwner) : NetSockets :=
  (List.finRange netSocketMaxSockets).foldl
    (fun s slot =>
      if (s.sockets slot).active && (s.sockets slot).owner == owner then s.closeSocket slot else s)
    s

def wakeOne (slot : NetSlot) : NetSockets :=
  let socket := s.sockets slot
  match socket.receiveWaiters with
  | [] => s
  | id :: rest =>
    (s.setPhase id (.woken 0)).setSocket slot { socket with receiveWaiters := rest }

def netSocketIngress (packet : NetPacket) : Int × NetSockets :=
  if packet.sourceIp = 0 ∨ packet.sourcePort = 0 ∨ packet.destinationPort = 0 ∨
      netSocketMaxDatagram < packet.length ∨ (packet.length ≠ 0 ∧ packet.data.isNone) then (-22, s)
  else match s.firstSlot fun socket =>
      socket.active && socket.localPort == packet.destinationPort with
  | none => (-2, s)
  | some slot =>
    let socket := s.sockets slot
    if room : socket.queue.count < netSocketQueueDepth then
      let queue := socket.queue.push packet.queued room
      (0, (s.setSocket slot { socket with queue := queue }).wakeOne slot)
    else
      let dropped := s.droppedDatagrams
      (-105, { s with droppedDatagrams := if dropped ≠ 0xffffffff then dropped + 1 else dropped })

/-- A call of recvfrom up to its loop; it fails on missing buffers. -/
def netSocketRecvfrom (id : Nat) (owner : NetOwner) (handle : UInt32) (datagramOut : Bool)
    (dataOut : Bool) (capacity timeoutMs : UInt32) (now : UInt64) : Int × NetSockets :=
  if !datagramOut ∨ (capacity ≠ 0 ∧ !dataOut) then (-22, s)
  else
    let deadline := now + timeoutMs.toUInt64
    let deadline := if deadline < now then 0xffffffffffffffff else deadline
    let call : RecvCall := ⟨owner, handle, capacity, timeoutMs, deadline, .running⟩
    (0, { s with calls := Function.update s.calls id (some call) })

/-- What one pass through the loop of a call comes to. -/
inductive RecvAnswer
  | returned (result : Int)
  | received (datagram : QueuedDatagram)
  | waits

/-- The critical section of one pass; `blocks` is whether the scheduler can suspend the
task. -/
def recvPass (id : Nat) (call : RecvCall) (now : UInt64) (blocks : Bool) :
    RecvAnswer × NetSockets :=
  match s.resolve call.owner call.handle with
  | none => (.returned (-9), s.endCall id)
  | some slot =>
    let socket := s.sockets slot
    if socket.queue.count = 0 then
      if call.timeoutMs = 0 then (.returned (-11), s.endCall id)
      else if call.deadline ≤ now then (.returned (-110), s.endCall id)
      else if !blocks then (.returned (-11), s.endCall id)
      else
        (.waits, (s.setPhase id (.blocked slot)).setSocket slot
          { socket with receiveWaiters := socket.receiveWaiters ++ [id] })
    else
      let queued := socket.queue.front
      if call.capacity < queued.metadata.length then (.returned (-90), s.endCall id)
      else
        (.received queued, (s.endCall id).setSocket slot { socket with queue := socket.queue.pop })

/-- The task of a call runs on: into the loop, or out of it after a failed wait. -/
def recvStep (id : Nat) (now : UInt64) (blocks : Bool) : RecvAnswer × NetSockets :=
  match s.calls id with
  | none => (.waits, s)
  | some call =>
    match call.phase with
    | .running => s.recvPass id call now blocks
    | .blocked _ => (.waits, s)
    | .woken result =>
      if result = -110 then (.returned (-110), s.endCall id)
      else if result ≠ 0 then (.returned (-11), s.endCall id)
      else s.recvPass id call now blocks

def leaveQueue (id : Nat) : NetSockets :=
  match s.calls id with
  | none => s
  | some call =>
    match call.phase with
    | .running => s
    | .woken _ => s
    | .blocked slot =>
      let socket := s.sockets slot
      s.setSocket slot { socket with receiveWaiters := socket.receiveWaiters.erase id }

/-- A wait that ends with `result`: at its deadline, or because it was cancelled. -/
def recvExpire (id : Nat) (result : Int) : NetSockets :=
  match s.calls id with
  | none => s
  | some call =>
    match call.phase with
    | .running => s
    | .woken _ => s
    | .blocked _ => (s.leaveQueue id).setPhase id (.woken result)

def recvKill (id : Nat) : NetSockets := (s.leaveQueue id).endCall id

end NetSockets

/-- One critical section on the socket table, by any task. -/
inductive NetEvent
  | opened (owner : NetOwner) (handleOut : Bool)
  | bind (owner : NetOwner) (handle : UInt32) (port : UInt16)
  | close (owner : NetOwner) (handle : UInt32)
  | cleanup (owner : NetOwner)
  | ingress (packet : NetPacket)
  | recvfrom (id : Nat) (owner : NetOwner) (handle : UInt32) (datagramOut dataOut : Bool)
      (capacity timeoutMs : UInt32) (now : UInt64)
  | recvStep (id : Nat) (now : UInt64) (blocks : Bool)
  | recvExpire (id : Nat) (result : Int)
  | recvKill (id : Nat)

/-- What the caller of an event sees of it. -/
inductive NetAnswer
  | result (result : Int)
  | handle (handle : UInt32)
  | received (owner : NetOwner) (handle : UInt32) (datagram : QueuedDatagram)
  | nothing

/-- What a pass of the call `id` shows to its caller. -/
def NetSockets.answered (s : NetSockets) (id : Nat) : NetSockets.RecvAnswer → NetAnswer
  | .returned result => .result result
  | .received datagram =>
    match s.calls id with
    | some call => .received call.owner call.handle datagram
    | none => .nothing
  | .waits => .nothing

def NetSockets.step (s : NetSockets) : NetEvent → NetAnswer × NetSockets
  | .opened owner handleOut =>
    let (result, handle, s') := s.netSocketOpen owner handleOut
    (if result = 0 then .handle handle else .result result, s')
  | .bind owner handle port =>
    let (result, s') := s.netSocketBind owner handle port
    (.result result, s')
  | .close owner handle =>
    let (result, s') := s.netSocketClose owner handle
    (.result result, s')
  | .cleanup owner => (.nothing, s.netSocketProcessCleanup owner)
  | .ingress packet =>
    let (result, s') := s.netSocketIngress packet
    (.result result, s')
  | .recvfrom id owner handle datagramOut dataOut capacity timeoutMs now =>
    -- an id names one call until that returns
    if (s.calls id).isSome then (.nothing, s)
    else
      let (result, s') :=
        s.netSocketRecvfrom id owner handle datagramOut dataOut capacity timeoutMs now
      (.result result, s')
  | .recvStep id now blocks =>
    let (answer, s') := s.recvStep id now blocks
    (s.answered id answer, s')
  | .recvExpire id result => (.nothing, s.recvExpire id result)
  | .recvKill id => (.nothing, s.recvKill id)

def netSocketInit : NetSockets :=
  { sockets := fun _ => clearedSocket 0, droppedDatagrams := 0, calls := fun _ => none }

end ReistOs
