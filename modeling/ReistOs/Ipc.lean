import ReistOs.Attempt
import ReistOs.SlotToken

/-! `kernel/ipc/ipc.c`: endpoints with bounded queues, and the capabilities of processes on them.
Every entry runs under one lock. A damaged protected record can neither be loaded nor sealed; an
intact one holds what the memory holds. -/

namespace ReistOs

open Attempt

inductive IpcError
  | ebadf
  | eagain
  | eacces
  | einval
  | enospc
  | emsgsize
  | epipe
  | eintegrity
  | etimedout
  deriving DecidableEq

def ipcMaxEndpoints : Nat := 16
def ipcMaxCapabilitiesPerProcess : Nat := 8
def ipcMaxCapabilityRecords : Nat := 64
def ipcQueueDepth : Nat := 4
def ipcMaxMessageSize : Nat := 128
def ipcMessageVersion : UInt32 := 1
def ipcBulkMaxMessageSize : Nat := 2048
def ipcBulkMessageVersion : UInt32 := 2
def ipcHandleGenerationMax : UInt32 := 0x00ffffff
def ipcRightSend : UInt32 := 1
def ipcRightReceive : UInt32 := 2
def ipcRightControl : UInt32 := 4
def ipcMaxPrograms : Nat := 256

abbrev IpcSlot := Fin ipcMaxEndpoints
abbrev IpcRecordSlot := Fin ipcMaxCapabilityRecords
abbrev IpcCell := Fin ipcQueueDepth

structure IpcIdentity where
  pid : Int
  generation : UInt32
  deriving DecidableEq

def IpcIdentity.none : IpcIdentity := ⟨0, 0⟩

def IpcIdentity.live (identity : IpcIdentity) : Bool := 0 < identity.pid && identity.generation != 0

structure IpcCapability where
  handle : UInt32
  rights : UInt32
  inUse : Bool
  deriving DecidableEq

def IpcCapability.empty : IpcCapability := ⟨0, 0, false⟩

/-- What `ipc.c` reads and writes of a process. -/
structure IpcProcess where
  identity : IpcIdentity
  isRunning : Bool
  ipcCapabilities : Fin ipcMaxCapabilitiesPerProcess → IpcCapability

abbrev IpcProcessSlot := Fin ipcMaxPrograms

/-- `ipc_message_t` and `ipc_bulk_message_t`, which differ in their capacity. -/
structure IpcPacket (capacity : Nat) where
  version : UInt32
  structSize : UInt32
  length : UInt32
  payload : Vector UInt8 capacity
  deriving DecidableEq

abbrev IpcMessage := IpcPacket ipcMaxMessageSize
abbrev IpcBulkMessage := IpcPacket ipcBulkMaxMessageSize

def messageValid (message : IpcMessage) : Bool :=
  message.version == ipcMessageVersion && message.structSize == 140 &&
    message.length.toNat ≤ ipcMaxMessageSize

def bulkMessageValid (message : IpcBulkMessage) : Bool :=
  message.version == ipcBulkMessageVersion && message.structSize == 2060 &&
    message.length.toNat ≤ ipcBulkMaxMessageSize

/-- The bytes up to the length of the message, and zeros behind them. -/
def IpcPacket.copied {capacity : Nat} (message : IpcPacket capacity) (room : Nat) : IpcPacket room :=
  { message with
    payload := Vector.ofFn fun i =>
      if i.val < message.length.toNat then message.payload[i.val]?.getD 0 else 0 }

/-- `ipc_protected_message_t` -/
structure IpcQueued where
  message : IpcMessage
  sender : IpcIdentity
  deriving DecidableEq

/-- `ipc_endpoint_t`; its queue is kept apart, under its own protection. -/
structure IpcEndpoint where
  active : Bool
  retired : Bool
  peerSeen : Bool
  generation : UInt32
  owner : IpcIdentity
  peerCapabilities : Nat
  head : Nat
  count : Nat
  bulkActive : Bool
  bulkMessage : IpcBulkMessage
  bulkSender : IpcIdentity
  deriving DecidableEq

def noBulk : IpcBulkMessage := ⟨0, 0, 0, Vector.replicate ipcBulkMaxMessageSize 0⟩

def IpcEndpoint.empty : IpcEndpoint :=
  ⟨false, false, false, 0, .none, 0, 0, 0, false, noBulk, .none⟩

structure IpcCapabilityRecord where
  active : Bool
  handle : UInt32
  holder : Option IpcProcessSlot
  holderIdentity : IpcIdentity
  rights : UInt32
  endpointSlot : IpcSlot
  deriving DecidableEq

def IpcCapabilityRecord.empty : IpcCapabilityRecord :=
  ⟨false, 0, none, .none, 0, ⟨0, by decide⟩⟩

/-- The tables of `ipc.c`, the processes, and which protected records are intact. -/
structure IpcState where
  endpoints : IpcSlot → IpcEndpoint
  messages : IpcSlot → IpcCell → IpcQueued
  records : IpcRecordSlot → IpcCapabilityRecord
  processes : IpcProcessSlot → IpcProcess
  endpointIntact : IpcSlot → Bool
  bulkIntact : IpcSlot → Bool
  messageIntact : IpcSlot → IpcCell → Bool
  recordIntact : IpcRecordSlot → Bool

abbrev Ipc := Attempt Unit IpcError IpcState

def IpcState.setEndpoint (s : IpcState) (slot : IpcSlot) (e : IpcEndpoint) : IpcState :=
  { s with endpoints := Function.update s.endpoints slot e }

def IpcState.setRecord (s : IpcState) (i : IpcRecordSlot) (r : IpcCapabilityRecord) : IpcState :=
  { s with records := Function.update s.records i r }

def IpcState.setCapability (s : IpcState) (p : IpcProcessSlot) (k : Fin ipcMaxCapabilitiesPerProcess)
    (c : IpcCapability) : IpcState :=
  { s with
    processes := Function.update s.processes p
      { s.processes p with
        ipcCapabilities := Function.update (s.processes p).ipcCapabilities k c } }

def IpcState.setMessage (s : IpcState) (slot : IpcSlot) (index : IpcCell) (value : IpcQueued) :
    IpcState :=
  { s with
    messages := Function.update s.messages slot (Function.update (s.messages slot) index value) }

def endpointMetadataValid (e : IpcEndpoint) : Bool :=
  e.generation ≤ ipcHandleGenerationMax && e.peerCapabilities ≤ ipcMaxCapabilityRecords &&
    e.head < ipcQueueDepth && e.count ≤ ipcQueueDepth &&
    (if e.active then e.generation != 0 && e.owner.live else !e.bulkActive)

def capabilityMetadataValid (r : IpcCapabilityRecord) : Bool :=
  !r.active || (r.handle != 0 && r.holder.isSome && r.holderIdentity.live && r.rights != 0 &&
    r.rights &&& ~~~(ipcRightSend ||| ipcRightReceive ||| ipcRightControl) == 0)

/-- Whether `seal_endpoint` takes the endpoint as it is. -/
def IpcState.sealsEndpoint (s : IpcState) (slot : IpcSlot) : Bool :=
  endpointMetadataValid (s.endpoints slot) && s.endpointIntact slot

def ipcMakeHandle (slot : IpcSlot) (generation : UInt32) : UInt32 := slotToken slot.val generation

def decodeHandle (handle : UInt32) : Option (IpcSlot × UInt32) :=
  let encodedSlot := (handle &&& 0xff).toNat
  if h : 1 ≤ encodedSlot ∧ encodedSlot ≤ ipcMaxEndpoints then
    if handle >>> 8 = 0 then none else some (⟨encodedSlot - 1, by omega⟩, handle >>> 8)
  else none

def processCapabilitySlot (process : IpcProcess) (handle : UInt32) :
    Option (Fin ipcMaxCapabilitiesPerProcess) :=
  (List.finRange ipcMaxCapabilitiesPerProcess).find? fun k =>
    (process.ipcCapabilities k).inUse && (process.ipcCapabilities k).handle == handle

def freeProcessCapabilitySlot (process : IpcProcess) : Option (Fin ipcMaxCapabilitiesPerProcess) :=
  (List.finRange ipcMaxCapabilitiesPerProcess).find? fun k => !(process.ipcCapabilities k).inUse

def recordSlots : List IpcRecordSlot := List.finRange ipcMaxCapabilityRecords

def IpcState.firstRecord (s : IpcState) (wanted : IpcCapabilityRecord → Bool) :
    Except IpcError (Option IpcRecordSlot) :=
  match recordSlots.find? fun i => !s.recordIntact i || wanted (s.records i) with
  | none => .ok none
  | some i => if s.recordIntact i then .ok (some i) else .error .eintegrity

def freeCapabilityRecord (s : IpcState) : Except IpcError (Option IpcRecordSlot) :=
  s.firstRecord fun r => !r.active

def capabilityRecordFor (s : IpcState) (p : IpcProcessSlot) (handle : UInt32) :
    Except IpcError (Option IpcRecordSlot) :=
  s.firstRecord fun r => r.active && r.handle == handle &&
    r.holderIdentity == (s.processes p).identity

def dropPeer (r : IpcCapabilityRecord) (s : IpcState) : IpcState :=
  let e := s.endpoints r.endpointSlot
  if r.rights &&& ipcRightControl = 0 ∧ e.active ∧ e.peerCapabilities ≠ 0 then
    s.setEndpoint r.endpointSlot { e with peerCapabilities := e.peerCapabilities - 1 }
  else s

/-- The holder of a record loses the capability, if it still is the same process. -/
def dropCapability (r : IpcCapabilityRecord) (s : IpcState) : IpcState :=
  match r.holder with
  | none => s
  | some p =>
    if (s.processes p).identity = r.holderIdentity then
      match processCapabilitySlot (s.processes p) r.handle with
      | none => s
      | some k => s.setCapability p k .empty
    else s

def clearCapabilityRecord (i : IpcRecordSlot) (s : IpcState) : IpcState :=
  let r := s.records i
  if !r.active then s
  else (dropCapability r (dropPeer r s)).setRecord i .empty

def sweepRecords (goes : IpcCapabilityRecord → Bool) (s : IpcState) : IpcState :=
  recordSlots.foldl (fun s i =>
    if s.recordIntact i && (s.records i).active && goes (s.records i) then clearCapabilityRecord i s
    else s) s

def IpcEndpoint.closed (e : IpcEndpoint) : IpcEndpoint :=
  { e with
    active := false
    count := 0
    head := 0
    peerCapabilities := 0
    bulkActive := false
    bulkMessage := noBulk
    bulkSender := .none }

def closeEndpoint (slot : IpcSlot) (s : IpcState) : IpcState :=
  s.setEndpoint slot (s.endpoints slot).closed

def quarantineEndpoint (slot : IpcSlot) (s : IpcState) : IpcState :=
  sweepRecords (fun r => r.endpointSlot == slot) (closeEndpoint slot s)

def revokeEndpoint (slot : IpcSlot) (s : IpcState) : IpcState :=
  sweepRecords (fun r => r.endpointSlot == slot &&
    r.handle == ipcMakeHandle slot (s.endpoints slot).generation) (closeEndpoint slot s)

def integrityLost {α : Type} (slot : IpcSlot) : Ipc α := do
  modify (quarantineEndpoint slot)
  fail .eintegrity

/-- `load_endpoint`, whose failure quarantines. -/
def endpointLoaded (slot : IpcSlot) : Ipc IpcEndpoint := do
  let s ← get
  if s.endpointIntact slot then pure (s.endpoints slot) else integrityLost slot

def resolveCapability (p : IpcProcessSlot) (handle requiredRights : UInt32) : Ipc IpcSlot := do
  let s ← get
  refuse (!(s.processes p).isRunning ∨ (processCapabilitySlot (s.processes p) handle).isNone) .ebadf
  match decodeHandle handle with
  | none => fail .ebadf
  | some (slot, generation) =>
    match capabilityRecordFor s p handle with
    | .error _ => integrityLost slot
    | .ok none => fail .ebadf
    | .ok (some i) => do
      refuse ((s.records i).endpointSlot ≠ slot) .ebadf
      refuse ((s.records i).rights &&& requiredRights ≠ requiredRights) .eacces
      let e ← endpointLoaded slot
      refuse (!e.active ∨ e.generation ≠ generation) .ebadf
      refuse (!e.owner.live) .ebadf
      pure slot

def installCapability (p : IpcProcessSlot) (handle : UInt32) (slot : IpcSlot) (rights : UInt32) :
    Ipc Unit := do
  let s ← get
  match freeProcessCapabilitySlot (s.processes p), freeCapabilityRecord s with
  | _, .error _ => fail .eintegrity
  | some k, .ok (some i) => do
    let record : IpcCapabilityRecord :=
      { active := true
        handle := handle
        holder := some p
        holderIdentity := (s.processes p).identity
        rights := rights
        endpointSlot := slot }
    if capabilityMetadataValid record then
      modify fun s => (s.setCapability p k ⟨handle, rights, true⟩).setRecord i record
    else do
      modify fun s => (s.setCapability p k .empty).setRecord i .empty
      fail .eintegrity
  | _, _ => fail .enospc

/-- The slot for a new endpoint; endpoints that are damaged are quarantined on the way. -/
def freeEndpoint : List IpcSlot → Ipc (Option IpcSlot)
  | [] => pure none
  | slot :: rest => do
    let s ← get
    let e := s.endpoints slot
    if !s.endpointIntact slot || !s.bulkIntact slot then do
      modify (quarantineEndpoint slot)
      freeEndpoint rest
    else if e.active || e.retired then freeEndpoint rest
    else if ipcHandleGenerationMax ≤ e.generation then do
      modify fun s => s.setEndpoint slot { e with retired := true }
      freeEndpoint rest
    else pure (some slot)

def endpointSlots : List IpcSlot := List.finRange ipcMaxEndpoints

def ipcCreate (owner : IpcProcessSlot) : Ipc UInt32 := do
  let s ← get
  refuse (!(s.processes owner).isRunning) .einval
  match freeCapabilityRecord s with
  | .error _ => fail .eintegrity
  | .ok record => do
    refuse ((freeProcessCapabilitySlot (s.processes owner)).isNone ∨ record.isNone) .enospc
    match ← freeEndpoint endpointSlots with
    | none => fail .enospc
    | some slot => do
      let s ← get
      let generation := (s.endpoints slot).generation + 1
      let created : IpcEndpoint :=
        { IpcEndpoint.empty with
          active := true
          generation := generation
          owner := (s.processes owner).identity }
      modify fun s => s.setEndpoint slot created
      let s ← get
      if !s.bulkIntact slot || !s.sealsEndpoint slot then do
        modify fun s => s.setEndpoint slot { created with active := false }
        fail .eintegrity
      else
        match ← (installCapability owner (ipcMakeHandle slot generation) slot
            (ipcRightSend ||| ipcRightReceive ||| ipcRightControl)).outcome with
        | .error e => do
          modify fun s => s.setEndpoint slot { s.endpoints slot with active := false }
          fail e
        | .ok _ => pure (ipcMakeHandle slot generation)

def ipcDelegate (source : IpcProcessSlot) (handle : UInt32) (target : IpcProcessSlot) (rights : UInt32) :
    Ipc Unit := do
  let s ← get
  refuse (source = target ∨ !(s.processes source).isRunning ∨ !(s.processes target).isRunning ∨
    rights = 0 ∨ (s.processes source).identity.generation = 0 ∨
    (s.processes target).identity.generation = 0 ∨ rights &&& ipcRightControl ≠ 0 ∨
    rights &&& ~~~(ipcRightSend ||| ipcRightReceive) ≠ 0) .einval
  let slot ← resolveCapability source handle rights
  let s ← get
  match capabilityRecordFor s source handle with
  | .error _ => integrityLost slot
  | .ok none => fail .eacces
  | .ok (some i) => do
    refuse (rights &&& (s.records i).rights ≠ rights) .eacces
    refuse ((s.endpoints slot).peerCapabilities ≠ 0 ∨
      (processCapabilitySlot (s.processes target) handle).isSome) .eacces
    refuse (freeProcessCapabilitySlot (s.processes target)).isNone .enospc
    match freeCapabilityRecord s with
    | .error _ => integrityLost slot
    | .ok none => fail .enospc
    | .ok (some _) => do
      installCapability target handle slot rights
      modify fun s => s.setEndpoint slot
        { s.endpoints slot with
          peerSeen := true
          peerCapabilities := 1 }
      let s ← get
      if s.sealsEndpoint slot then pure () else integrityLost slot

def ipcRelease (p : IpcProcessSlot) (handle : UInt32) : Ipc Unit := do
  refuse (handle = 0) .einval
  let slot ← resolveCapability p handle 0
  let s ← get
  refuse ((s.endpoints slot).owner = (s.processes p).identity) .eacces
  match capabilityRecordFor s p handle with
  | .error _ => integrityLost slot
  | .ok none => do
    modify (quarantineEndpoint slot)
    fail .ebadf
  | .ok (some i) => modify (clearCapabilityRecord i)

def ipcClose (p : IpcProcessSlot) (handle : UInt32) : Ipc Unit := do
  let slot ← resolveCapability p handle ipcRightControl
  let s ← get
  refuse ((s.endpoints slot).owner ≠ (s.processes p).identity) .eacces
  modify (revokeEndpoint slot)
  match processCapabilitySlot (s.processes p) handle with
  | none => pure ()
  | some k => modify fun s => s.setCapability p k .empty

def cleanupEndpoint (identity : IpcIdentity) (s : IpcState) (slot : IpcSlot) : IpcState :=
  if !s.endpointIntact slot then quarantineEndpoint slot s
  else if (s.endpoints slot).active ∧ (s.endpoints slot).owner = identity then revokeEndpoint slot s
  else s

def ipcProcessCleanup (identity : IpcIdentity) : Ipc Unit :=
  if !identity.live then pure ()
  else modify fun s => sweepRecords (fun r => r.holderIdentity == identity)
    (endpointSlots.foldl (cleanupEndpoint identity) s)

def loadMessage (slot : IpcSlot) (index : IpcCell) : Ipc IpcQueued := do
  let s ← get
  refuse (!s.messageIntact slot index) .eintegrity
  let value := s.messages slot index
  refuse (!messageValid value.message ∨ (value.sender ≠ .none ∧ !value.sender.live)) .eintegrity
  pure value

def sealMessage (slot : IpcSlot) (index : IpcCell) (value : IpcQueued) : Ipc Unit := do
  let s ← get
  refuse (!s.messageIntact slot index) .eintegrity
  modify fun s => s.setMessage slot index value

def IpcEndpoint.cellAt (e : IpcEndpoint) (offset : Nat) : IpcCell :=
  ⟨(e.head + offset) % ipcQueueDepth, Nat.mod_lt _ (by decide)⟩

def enqueueMessage (slot : IpcSlot) (message : IpcMessage) (sender : IpcIdentity) : Ipc Unit := do
  let s ← get
  let e := s.endpoints slot
  refuse (ipcQueueDepth ≤ e.count) .eagain
  sealMessage slot (e.cellAt e.count) ⟨message.copied ipcMaxMessageSize, sender⟩
  modify fun s => s.setEndpoint slot { e with count := e.count + 1 }
  let s ← get
  if s.sealsEndpoint slot then pure ()
  else do
    modify fun s => s.setEndpoint slot e
    fail .eintegrity

def enqueueBulk (slot : IpcSlot) (message : IpcBulkMessage) (sender : IpcIdentity) : Ipc Unit := do
  let s ← get
  let e := s.endpoints slot
  refuse (!s.bulkIntact slot) .eintegrity
  refuse e.bulkActive .eagain
  modify fun s => s.setEndpoint slot
    { e with
      bulkActive := true
      bulkMessage := message.copied ipcBulkMaxMessageSize
      bulkSender := sender }
  let s ← get
  if s.bulkIntact slot && s.sealsEndpoint slot then pure ()
  else do
    modify fun s => s.setEndpoint slot
      { e with
        bulkActive := false
        bulkMessage := noBulk
        bulkSender := .none }
    fail .eintegrity

def orQuarantine {α : Type} (slot : IpcSlot) (x : Ipc α) : Ipc α := do
  match ← x.outcome with
  | .ok a => pure a
  | .error .eintegrity => integrityLost slot
  | .error e => fail e

/-- The counterpart that a waiting process lends its priority to. -/
def counterpartIdentity (s : IpcState) (slot : IpcSlot) (identity : IpcIdentity)
    (requiredRight : UInt32) : List IpcRecordSlot → Option IpcIdentity →
    Except IpcError (Option IpcIdentity)
  | [], found => .ok found
  | i :: rest, found =>
    let r := s.records i
    if !s.recordIntact i then .error .eintegrity
    else if !r.active ∨ r.endpointSlot ≠ slot ∨ r.rights &&& requiredRight = 0 ∨
        r.holderIdentity = identity then
      counterpartIdentity s slot identity requiredRight rest found
    else
      match found with
      | none => counterpartIdentity s slot identity requiredRight rest (some r.holderIdentity)
      | some other =>
        if other ≠ r.holderIdentity then .error .eintegrity
        else counterpartIdentity s slot identity requiredRight rest found

/-- What the timeout of a call leaves it when it cannot go on. -/
inductive IpcPatience
  | none
  | expired
  | waits
  deriving DecidableEq

/-- One turn of a call under the lock: it is done, or waits for its next turn. -/
inductive IpcTurn (α : Type)
  | done (a : α)
  | waits

def waitTurn {α : Type} (slot : IpcSlot) (p : IpcProcessSlot) (requiredRight : UInt32)
    (patience : IpcPatience) : Ipc (IpcTurn α) :=
  match patience with
  | .none => fail .eagain
  | .expired => fail .etimedout
  | .waits => do
    let s ← get
    match counterpartIdentity s slot (s.processes p).identity requiredRight recordSlots none with
    | .error _ => integrityLost slot
    | .ok _ => pure .waits

def IpcEndpoint.peerGone (e : IpcEndpoint) : Bool := e.peerSeen && e.peerCapabilities == 0

/-- A turn of `ipc_send_timeout`; it tells the endpoint that has the message. -/
def ipcSendTimeout (sender : IpcProcessSlot) (handle : UInt32) (message : IpcMessage)
    (patience : IpcPatience) : Ipc (IpcTurn IpcSlot) := do
  refuse (ipcMaxMessageSize < message.length.toNat) .emsgsize
  refuse (!messageValid message) .einval
  let slot ← resolveCapability sender handle ipcRightSend
  let s ← get
  refuse (s.endpoints slot).peerGone .epipe
  if (s.endpoints slot).count < ipcQueueDepth then do
    orQuarantine slot (enqueueMessage slot message (s.processes sender).identity)
    pure (.done slot)
  else waitTurn slot sender ipcRightReceive patience

def ipcSendBulkTimeout (sender : IpcProcessSlot) (handle : UInt32) (message : IpcBulkMessage)
    (patience : IpcPatience) : Ipc (IpcTurn IpcSlot) := do
  refuse (ipcBulkMaxMessageSize < message.length.toNat) .emsgsize
  refuse (!bulkMessageValid message) .einval
  let slot ← resolveCapability sender handle ipcRightSend
  let s ← get
  (if s.bulkIntact slot then pure () else integrityLost slot)
  refuse (s.endpoints slot).peerGone .epipe
  if !(s.endpoints slot).bulkActive then do
    orQuarantine slot (enqueueBulk slot message (s.processes sender).identity)
    pure (.done slot)
  else waitTurn slot sender ipcRightReceive patience

/-- The only peer of an endpoint; a second one is a loss of integrity. -/
def peerRecord (s : IpcState) (slot : IpcSlot) :
    List IpcRecordSlot → Option IpcRecordSlot → Except IpcError (Option IpcRecordSlot)
  | [], peer => .ok peer
  | i :: rest, peer =>
    let r := s.records i
    if !s.recordIntact i then .error .eintegrity
    else if r.active ∧ r.endpointSlot = slot ∧ r.rights &&& ipcRightControl = 0 then
      if peer.isSome then .error .eintegrity else peerRecord s slot rest (some i)
    else peerRecord s slot rest peer

/-- The endpoint of an owner, as the trusted senders find it. -/
def ownedEndpoint (owner : IpcIdentity) (handle : UInt32) (message : IpcMessage) : Ipc IpcSlot := do
  refuse (!owner.live ∨ !messageValid message) .einval
  match decodeHandle handle with
  | none => fail .ebadf
  | some (slot, generation) => do
    let e ← endpointLoaded slot
    refuse (!e.active ∨ e.generation ≠ generation ∨ e.owner ≠ owner) .ebadf
    pure slot

def ipcSendExternalFromPeer (owner : IpcIdentity) (handle : UInt32) (message : IpcMessage) :
    Ipc IpcSlot := do
  let slot ← ownedEndpoint owner handle message
  let s ← get
  match peerRecord s slot recordSlots none with
  | .error _ => integrityLost slot
  | .ok none => fail .epipe
  | .ok (some i) =>
    match (s.records i).holder with
    | none => fail .epipe
    | some p => do
      refuse (!(s.processes p).isRunning ∨
        (s.processes p).identity ≠ (s.records i).holderIdentity) .epipe
      orQuarantine slot (enqueueMessage slot message (s.records i).holderIdentity)
      pure slot

def ipcSendKernelToOwner (owner : IpcIdentity) (handle : UInt32) (message : IpcMessage) :
    Ipc IpcSlot := do
  let slot ← ownedEndpoint owner handle message
  orQuarantine slot (enqueueMessage slot message .none)
  pure slot

def receivableOffset (slot : IpcSlot) (e : IpcEndpoint) (receiver : IpcIdentity) :
    List Nat → Ipc (Option Nat)
  | [] => pure none
  | offset :: rest => do
    let value ← loadMessage slot (e.cellAt offset)
    if value.sender ≠ receiver then pure (some offset)
    else receivableOffset slot e receiver rest

def shiftMessages (slot : IpcSlot) (e : IpcEndpoint) (offset : Nat) : Nat → Ipc Unit
  | 0 => pure ()
  | rest + 1 => do
    let shifted ← loadMessage slot (e.cellAt (offset + 1))
    sealMessage slot (e.cellAt offset) shifted
    shiftMessages slot e (offset + 1) rest

def removeMessage (slot : IpcSlot) (offset : Nat) : Ipc IpcMessage := do
  let s ← get
  let e := s.endpoints slot
  let taken ← loadMessage slot (e.cellAt offset)
  shiftMessages slot e offset (e.count - (offset + 1))
  modify fun s => s.setEndpoint slot
    { e with
      count := e.count - 1
      head := if e.count - 1 = 0 then 0 else e.head }
  let s ← get
  if s.sealsEndpoint slot then pure taken.message else fail .eintegrity

/-- The next message of the queue for a receiver, with its offset. -/
def takeMessage (slot : IpcSlot) (receiver : IpcIdentity) : Ipc (Option (Nat × IpcMessage)) := do
  let s ← get
  let e := s.endpoints slot
  match ← receivableOffset slot e receiver (List.range e.count) with
  | none => pure none
  | some offset => do
    let message ← removeMessage slot offset
    pure (some (offset, message))

/-- A turn of `ipc_receive_timeout`; it tells the endpoint and the offset of the message. -/
def ipcReceiveTimeout (receiver : IpcProcessSlot) (handle : UInt32) (buffer : IpcMessage)
    (patience : IpcPatience) : Ipc (IpcTurn (IpcSlot × Nat × IpcMessage)) := do
  refuse (!messageValid buffer) .einval
  let slot ← resolveCapability receiver handle ipcRightReceive
  let s ← get
  match ← orQuarantine slot (takeMessage slot (s.processes receiver).identity) with
  | some (offset, message) => pure (.done (slot, offset, message))
  | none => do
    refuse (s.endpoints slot).peerGone .epipe
    waitTurn slot receiver ipcRightSend patience

def removeBulk (slot : IpcSlot) : Ipc IpcBulkMessage := do
  let s ← get
  let e := s.endpoints slot
  refuse (!s.bulkIntact slot ∨ !e.bulkActive) .eintegrity
  modify fun s => s.setEndpoint slot
    { e with
      bulkActive := false
      bulkMessage := noBulk
      bulkSender := .none }
  let s ← get
  if s.sealsEndpoint slot then pure e.bulkMessage else fail .eintegrity

/-- A turn of `ipc_receive_bulk_timeout`; a message without an offset is the bulk message. -/
def ipcReceiveBulkTimeout (receiver : IpcProcessSlot) (handle : UInt32) (buffer : IpcBulkMessage)
    (patience : IpcPatience) : Ipc (IpcTurn (IpcSlot × Option Nat × IpcBulkMessage)) := do
  refuse (!bulkMessageValid buffer) .einval
  let slot ← resolveCapability receiver handle ipcRightReceive
  let s ← get
  match ← orQuarantine slot (takeMessage slot (s.processes receiver).identity) with
  | some (offset, small) => pure (.done (slot, some offset, small.copied ipcBulkMaxMessageSize))
  | none => do
    (if s.bulkIntact slot then pure () else integrityLost slot)
    if (s.endpoints slot).bulkActive ∧
        (s.endpoints slot).bulkSender ≠ (s.processes receiver).identity then do
      let message ← orQuarantine slot (removeBulk slot)
      pure (.done (slot, none, message))
    else do
      refuse (s.endpoints slot).peerGone .epipe
      waitTurn slot receiver ipcRightSend patience

end ReistOs
