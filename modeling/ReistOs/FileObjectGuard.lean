import ReistOs.Attempt
import ReistOs.StorageControl

/-! `kernel/init/file_object_guard.c`: file pins, the one mutation reservation and the sticky
fences. Every entry runs under one try-lock. -/

namespace ReistOs

open Attempt

/-- The error numbers of `include/reist/abi/syscall.h`. -/
inductive Errno
  | enoent
  | eio
  | eagain
  | eacces
  | ebusy
  | efault
  | enodev
  | einval
  | emfile
  | enospc
  | erofs
  | eoverflow
  | eintegrity
  | enotsup
  | etimedout
  | estale
  deriving DecidableEq

def fileObjectGuardCapacity : Nat := 16
def fileObjectGuardPerClient : Nat := 4
def fileObjectGuardResources : Nat := 32
def fileObjectGuardMaxMs : UInt64 := 5000
def fileObjectGuardGenerationMax : UInt32 := 0x00ffffff
def reistFileObjectFat12 : UInt32 := 1
def reistFileObjectFat32 : UInt32 := 2
def reistFileObjectExt2 : UInt32 := 3
def reistFileObjectExclusive : UInt32 := 1
def reistFileObjectExternalJournal : UInt32 := 2

structure FileObjectOwner where
  pid : Int
  generation : UInt32
  deriving DecidableEq

def noOwner : FileObjectOwner := ⟨0, 0⟩

/-- `reist_file_object_key_t` -/
structure FileObjectKey where
  kind : UInt32
  resource : Nat
  objectA : UInt32
  objectB : UInt32
  aliasName : Vector UInt8 12
  reserved : UInt32
  deriving DecidableEq

def emptyKey : FileObjectKey := ⟨0, 0, 0, 0, Vector.replicate 12 0, 0⟩

structure GuardPin where
  key : FileObjectKey
  service : FileObjectOwner
  client : FileObjectOwner
  generation : UInt32
  mediaGeneration : UInt32
  active : Bool
  deriving DecidableEq

/-- The values of `guard_control_t.mode`. -/
inductive GuardMode
  | ordinary
  | externalJournal
  | repair
  deriving DecidableEq

structure GuardControl where
  epoch : UInt64
  deadlineMs : UInt64
  owner : FileObjectOwner
  generation : UInt32
  resource : Nat
  active : Bool
  fenced : UInt32
  mode : GuardMode
  attempted : Bool
  pending : Bool
  borrowedPin : UInt32
  requestHandle : UInt32
  deriving DecidableEq

/-- `file_object_guard_t` after its initialisation. -/
structure FileObjectGuard where
  poisoned : Bool
  control : GuardControl
  pins : Fin fileObjectGuardCapacity → GuardPin
  media : Nat → UInt32

/-- What a call of the guard finds: whether the try-lock is free, and whether the publication of a
protected record succeeds. -/
structure GuardAnswers where
  lockFree : Nat → Bool
  stored : Nat → Bool

abbrev Guard := Attempt GuardAnswers Errno FileObjectGuard

def guardOwnerValid (owner : FileObjectOwner) : Bool := 0 < owner.pid && owner.generation != 0

def fileObjectGuardKeyValid (key : FileObjectKey) : Bool :=
  let aliases := key.aliasName.toList.any (· != 0)
  if fileObjectGuardResources ≤ key.resource ∨ key.reserved ≠ 0 then false
  else if key.kind = reistFileObjectFat12 then
    key.objectA != 0 && key.objectB ≤ 480 && key.objectB &&& 31 == 0 && !aliases
  else if key.kind = reistFileObjectFat32 then
    (key.aliasName.toList.take 11).all (· != 0) && 2 ≤ key.objectA && key.objectA < 0x0ffffff0 &&
      key.objectB == 0 && key.aliasName[0] != 0xe5 && key.aliasName[11] == 0
  else if key.kind = reistFileObjectExt2 then key.objectA != 0 && key.objectB == 0 && !aliases
  else false

def guardPinValid (pin : GuardPin) : Bool :=
  if fileObjectGuardGenerationMax < pin.generation then false
  else if pin.active then
    pin.generation != 0 && pin.mediaGeneration != 0 && guardOwnerValid pin.service &&
      guardOwnerValid pin.client && fileObjectGuardKeyValid pin.key
  else if pin.key ≠ emptyKey ∨ pin.mediaGeneration ≠ 0 then false
  else if pin.generation = 0 then pin.service == noOwner && pin.client == noOwner
  else guardOwnerValid pin.service && guardOwnerValid pin.client

def tokenSlot (token : UInt32) : Option (Fin fileObjectGuardCapacity) :=
  let selected := (token &&& 0xff).toNat
  if h : 1 ≤ selected ∧ selected ≤ fileObjectGuardCapacity then some ⟨selected - 1, by omega⟩ else none

def pinToken (slot : Fin fileObjectGuardCapacity) (pin : GuardPin) : UInt32 :=
  pin.generation <<< 8 ||| UInt32.ofNat (slot.val + 1)

def guardControlValid (control : GuardControl) : Bool :=
  control.epoch != 0 && (!control.pending || control.attempted) &&
  (control.mode != .repair || (control.resource < fileObjectGuardResources && control.borrowedPin == 0 &&
    control.requestHandle == 0 && decide (Names control.fenced control.resource))) &&
  (control.mode != .ordinary || (!control.attempted && !control.pending && control.borrowedPin == 0)) &&
  (control.borrowedPin == 0) == (control.requestHandle == 0) &&
  (control.borrowedPin == 0 || (control.borrowedPin >>> 8 != 0 && (tokenSlot control.borrowedPin).isSome)) &&
  (if control.active then
    guardOwnerValid control.owner && control.generation != 0 && control.deadlineMs != 0 &&
      control.resource < fileObjectGuardResources
  else
    control.deadlineMs == 0 && control.owner == noOwner && control.resource == 0 && control.mode == .ordinary &&
      !control.attempted && !control.pending && control.borrowedPin == 0 && control.requestHandle == 0)

section Records

variable {α : Type}

def guardPoison : Guard α := do
  modify fun g => { g with poisoned := true }
  fail .eio

def guardLock : Guard Unit := do
  let free ← draw GuardAnswers.lockFree
  refuse (!free) .ebusy

def guardRead (part : FileObjectGuard → α) (valid : α → Bool) : Guard α := do
  let g ← get
  if valid (part g) then pure (part g) else guardPoison

def guardWrite (put : FileObjectGuard → FileObjectGuard) : Guard Unit := do
  let stored ← draw GuardAnswers.stored
  if stored then modify put else guardPoison

def guardControlRead : Guard GuardControl := do
  let g ← get
  if g.poisoned then guardPoison else guardRead FileObjectGuard.control guardControlValid

def guardControlWrite (control : GuardControl) : Guard Unit :=
  guardWrite fun g => { g with control := control }

def guardPinRead (slot : Fin fileObjectGuardCapacity) : Guard GuardPin :=
  guardRead (fun g => g.pins slot) guardPinValid

def guardPinWrite (slot : Fin fileObjectGuardCapacity) (pin : GuardPin) : Guard Unit :=
  guardWrite fun g => { g with pins := Function.update g.pins slot pin }

def guardMediaRead (resource : Nat) : Guard UInt32 :=
  guardRead (fun g => g.media resource) fun generation => generation != 0

def guardMediaWrite (resource : Nat) (generation : UInt32) : Guard Unit :=
  guardWrite fun g => { g with media := Function.update g.media resource generation }

def guardEpochAdvance (control : GuardControl) : Guard GuardControl :=
  if control.epoch = 0xffffffffffffffff then guardPoison
  else pure { control with epoch := control.epoch + 1 }

/-- The reservation retired; an uncertain one leaves its resource fenced. -/
def GuardControl.retired (control : GuardControl) (uncertain : Bool) : GuardControl :=
  { control with
    fenced := if uncertain then control.fenced ||| resourceBit control.resource else control.fenced
    active := false
    deadlineMs := 0
    owner := noOwner
    resource := 0
    mode := .ordinary
    attempted := false
    pending := false
    borrowedPin := 0
    requestHandle := 0 }

def guardFinish (control : GuardControl) (uncertain : Bool) : Guard GuardControl := do
  let control ← guardEpochAdvance (control.retired uncertain)
  guardControlWrite control
  pure control

def guardExpire (control : GuardControl) (nowMs : UInt64) : Guard GuardControl :=
  if control.active ∧ control.deadlineMs ≤ nowMs then
    guardFinish control (control.requestHandle == 0 || control.attempted)
  else pure control

def guardSlots : List (Fin fileObjectGuardCapacity) := List.finRange fileObjectGuardCapacity

def guardScan (refusal : Fin fileObjectGuardCapacity → GuardPin → Option Errno) : Guard Unit :=
  Attempt.forEach (fun slot => do
    let pin ← guardPinRead slot
    match refusal slot pin with
    | some e => fail e
    | none => pure ()) guardSlots

end Records

def fileObjectGuardSnapshot (nowMs : UInt64) : Guard UInt64 := do
  guardLock
  let control ← guardControlRead
  let control ← guardExpire control nowMs
  refuse control.active .ebusy
  pure control.epoch

def guardAdmit (resource : Nat) (epoch nowMs : UInt64) : Guard GuardControl := do
  let control ← guardControlRead
  let control ← guardExpire control nowMs
  refuse (Names control.fenced resource) .eio
  refuse control.active .ebusy
  refuse (control.epoch ≠ epoch) .eagain
  pure control

def guardPinFree (pin : GuardPin) : Bool := !pin.active && pin.generation < fileObjectGuardGenerationMax

def fileObjectGuardPin (key : FileObjectKey) (service client : FileObjectOwner) (epoch nowMs : UInt64) :
    Guard UInt32 := do
  refuse (!fileObjectGuardKeyValid key ∨ !guardOwnerValid service ∨ !guardOwnerValid client ∨ epoch = 0) .einval
  guardLock
  let _ ← guardAdmit key.resource epoch nowMs
  guardScan fun _ _ => none
  let g ← get
  let owned := guardSlots.countP fun i => (g.pins i).active && (g.pins i).client == client
  refuse (fileObjectGuardPerClient ≤ owned) .emfile
  match guardSlots.find? fun i => guardPinFree (g.pins i) with
  | none => fail .enospc
  | some slot =>
    let media ← guardMediaRead key.resource
    let chosen : GuardPin :=
      { key := key, service := service, client := client, generation := (g.pins slot).generation + 1,
        mediaGeneration := media, active := true }
    guardPinWrite slot chosen
    pure (pinToken slot chosen)

def guardTokenRead (token : UInt32) (service client : FileObjectOwner) :
    Guard (Fin fileObjectGuardCapacity × GuardPin) :=
  match tokenSlot token with
  | none => fail .einval
  | some slot => do
    refuse (token >>> 8 = 0) .einval
    let pin ← guardPinRead slot
    refuse (pin.generation ≠ token >>> 8) .estale
    refuse (pin.service ≠ service ∨ pin.client ≠ client) .eacces
    pure (slot, pin)

def fileObjectGuardLookup (token : UInt32) (service client : FileObjectOwner) (nowMs : UInt64) :
    Guard FileObjectKey := do
  guardLock
  let control ← guardControlRead
  let control ← guardExpire control nowMs
  let (_, pin) ← guardTokenRead token service client
  refuse (!pin.active) .estale
  refuse (Names control.fenced pin.key.resource) .eio
  let media ← guardMediaRead pin.key.resource
  refuse (media ≠ pin.mediaGeneration) .estale
  pure pin.key

def guardPinClear (slot : Fin fileObjectGuardCapacity) (pin : GuardPin) : Guard Unit :=
  guardPinWrite slot { pin with key := emptyKey, active := false, mediaGeneration := 0 }

def fileObjectGuardRelease (token : UInt32) (service client : FileObjectOwner) : Guard Unit := do
  guardLock
  let control ← guardControlRead
  let (slot, pin) ← guardTokenRead token service client
  let _ ← (if control.active ∧ control.borrowedPin = token then guardFinish control true else pure control)
  if pin.active then guardPinClear slot pin else pure ()

def fileObjectGuardLegacyEnter (nowMs : UInt64) : Guard Unit := do
  guardLock
  let control ← guardControlRead
  let control ← guardExpire control nowMs
  refuse (control.fenced ≠ 0) .eio
  refuse control.active .ebusy
  let control ← guardEpochAdvance control
  guardControlWrite control

def fileObjectGuardCanOpen (resource : Nat) (nowMs : UInt64) : Guard Unit := do
  refuse (fileObjectGuardResources ≤ resource) .einval
  guardLock
  let control ← guardControlRead
  let control ← guardExpire control nowMs
  refuse (Names control.fenced resource) .eio
  refuse (control.active ∧ control.resource = resource) .ebusy

def fileObjectGuardKeyBusy (key : FileObjectKey) (nowMs : UInt64) : Guard Unit := do
  refuse (!fileObjectGuardKeyValid key) .einval
  guardLock
  let control ← guardControlRead
  let control ← guardExpire control nowMs
  refuse (Names control.fenced key.resource) .eio
  refuse control.active .ebusy
  guardScan fun _ pin => if pin.active ∧ pin.key = key then some .ebusy else none

/-- `guard_count`; `detach` counts on a fenced resource too. -/
def guardCount (resource : Nat) (nowMs : UInt64) (detach : Bool) : Guard Nat := do
  refuse (fileObjectGuardResources ≤ resource) .einval
  guardLock
  let control ← guardControlRead
  let control ← guardExpire control nowMs
  refuse (!detach ∧ Names control.fenced resource) .eio
  refuse (control.active ∧ control.resource = resource) .ebusy
  guardScan fun _ _ => none
  let g ← get
  pure (guardSlots.countP fun i => (g.pins i).active && (g.pins i).key.resource == resource)

def fileObjectGuardCount (resource : Nat) (nowMs : UInt64) : Guard Nat := guardCount resource nowMs false

def fileObjectGuardDetachReady (resource : Nat) (nowMs : UInt64) : Guard Unit := do
  let count ← guardCount resource nowMs true
  refuse (count ≠ 0) .ebusy

/-- What a reservation borrows from a claimed request: its pin, handle and client. -/
structure BorrowedPin where
  pin : UInt32
  handle : UInt32
  client : FileObjectOwner

def noBorrow : BorrowedPin := ⟨0, 0, noOwner⟩

/-- The borrowed pin of a reservation, which its own scan passes over. -/
def guardBorrowedSlot (key : FileObjectKey) (owner : FileObjectOwner) (borrow : BorrowedPin) :
    Guard (Option (Fin fileObjectGuardCapacity)) :=
  if borrow.pin = 0 then pure none
  else do
    let (slot, pin) ← guardTokenRead borrow.pin owner borrow.client
    refuse (!pin.active) .estale
    refuse (pin.key ≠ key) .eacces
    let media ← guardMediaRead key.resource
    refuse (pin.mediaGeneration ≠ media) .estale
    pure (some slot)

def guardBeginRefused (keys : List FileObjectKey) (flags : UInt32) : Bool :=
  match keys with
  | [] => true
  | key :: rest =>
    2 < keys.length || flags &&& ~~~(reistFileObjectExclusive ||| reistFileObjectExternalJournal) != 0 ||
    (flags &&& reistFileObjectExternalJournal != 0 &&
      (flags &&& reistFileObjectExclusive == 0 || !rest.isEmpty || key.kind != reistFileObjectFat32)) ||
    keys.any fun k => !fileObjectGuardKeyValid k || k.kind != key.kind || k.resource != key.resource

/-- `guard_begin` on its checked arguments. -/
def guardReserve (keys : List FileObjectKey) (key : FileObjectKey) (flags : UInt32) (owner : FileObjectOwner)
    (epoch nowMs deadlineMs : UInt64) (borrow : BorrowedPin) : Guard UInt32 := do
  let control ← guardAdmit key.resource epoch nowMs
  let ownedSlot ← guardBorrowedSlot key owner borrow
  guardScan fun slot pin =>
    if !pin.active ∨ some slot = ownedSlot then none
    else if flags &&& reistFileObjectExclusive ≠ 0 ∧ pin.key.resource = key.resource then some .ebusy
    else if pin.key ∈ keys then some .ebusy
    else none
  refuse (control.generation = 0xffffffff) .eoverflow
  let control ← guardEpochAdvance control
  guardControlWrite { control with
    owner := owner
    resource := key.resource
    deadlineMs := deadlineMs
    active := true
    mode := if flags &&& reistFileObjectExternalJournal ≠ 0 then .externalJournal else .ordinary
    borrowedPin := borrow.pin
    requestHandle := borrow.handle
    generation := control.generation + 1 }
  pure (control.generation + 1)

def guardBegin (keys : List FileObjectKey) (flags : UInt32) (owner : FileObjectOwner)
    (epoch nowMs deadlineMs : UInt64) (borrow : BorrowedPin) : Guard UInt32 := do
  refuse (!guardOwnerValid owner ∨ epoch = 0 ∨ deadlineMs ≤ nowMs ∨
    fileObjectGuardMaxMs < deadlineMs - nowMs ∨ guardBeginRefused keys flags) .einval
  guardLock
  match keys with
  | [] => fail .einval
  | key :: _ => guardReserve keys key flags owner epoch nowMs deadlineMs borrow

def fileObjectGuardBeginMode (keys : List FileObjectKey) (flags : UInt32) (owner : FileObjectOwner)
    (epoch nowMs deadlineMs : UInt64) : Guard UInt32 :=
  guardBegin keys flags owner epoch nowMs deadlineMs noBorrow

def fileObjectGuardBeginOwned (key : FileObjectKey) (service : FileObjectOwner) (borrow : BorrowedPin)
    (epoch nowMs deadlineMs : UInt64) : Guard UInt32 := do
  refuse (borrow.pin = 0 ∨ borrow.handle = 0 ∨ !guardOwnerValid borrow.client) .einval
  guardBegin [key] (reistFileObjectExclusive ||| reistFileObjectExternalJournal) service epoch nowMs
    deadlineMs borrow

def guardOwnedPinLive (control : GuardControl) : Guard Unit :=
  if control.borrowedPin = 0 then pure ()
  else match tokenSlot control.borrowedPin with
    | none => guardPoison
    | some slot => do
      let pin ← guardPinRead slot
      if !pin.active ∨ pin.generation ≠ control.borrowedPin >>> 8 ∨ pin.service ≠ control.owner ∨
          pin.key.resource ≠ control.resource ∨ pin.key.kind ≠ reistFileObjectFat32 then guardPoison
      else do
        let media ← guardMediaRead control.resource
        if media ≠ pin.mediaGeneration then guardPoison else pure ()

structure FileObjectMutationContext where
  deadlineMs : UInt64
  request : UInt32
  resource : Nat
  attempted : Bool
  repair : Bool
  pending : Bool

def GuardControl.context (control : GuardControl) : FileObjectMutationContext :=
  ⟨control.deadlineMs, control.requestHandle, control.resource, control.attempted,
    control.mode == .repair, control.pending⟩

def fileObjectGuardContext (owner : FileObjectOwner) (token : UInt32) : Guard FileObjectMutationContext := do
  refuse (token = 0 ∨ !guardOwnerValid owner) .einval
  guardLock
  let control ← guardControlRead
  refuse (!control.active ∨ control.generation ≠ token) .estale
  refuse (control.owner ≠ owner) .eacces
  guardOwnedPinLive control
  pure control.context

/-- The outcome of `MUTATION_END`. -/
inductive MutationOutcome
  | noEffect
  | durableCommit
  | unknown
  deriving DecidableEq

def fileObjectGuardEnd (token : UInt32) (owner : FileObjectOwner) (outcome : MutationOutcome) (nowMs : UInt64) :
    Guard Unit := do
  refuse (token = 0 ∨ !guardOwnerValid owner) .einval
  guardLock
  let control ← guardControlRead
  let control ← guardExpire control nowMs
  refuse (!control.active ∨ control.generation ≠ token) .estale
  refuse (control.owner ≠ owner) .eacces
  guardOwnedPinLive control
  refuse (control.mode ≠ .ordinary ∧ ((outcome = .noEffect ∧ control.attempted) ∨
    (outcome = .durableCommit ∧ control.pending))) .einval
  let _ ← guardFinish control (outcome == .unknown)
  pure ()

def fileObjectGuardMutationAuthorized (owner : FileObjectOwner) (resource : Nat) (nowMs : UInt64) :
    Guard Unit := do
  refuse (!guardOwnerValid owner ∨ fileObjectGuardResources ≤ resource) .einval
  guardLock
  let control ← guardControlRead
  let control ← guardExpire control nowMs
  refuse (Names control.fenced resource) .eio
  refuse (!control.active) .eacces
  refuse (control.resource ≠ resource ∨ control.owner ≠ owner) .ebusy
  refuse (control.mode ≠ .ordinary) .ebusy

def fileObjectGuardCancelUndelivered (token : UInt32) (service : FileObjectOwner) : Guard Unit := do
  refuse (token = 0 ∨ !guardOwnerValid service) .einval
  guardLock
  let control ← guardControlRead
  refuse (!control.active ∨ control.generation ≠ token) .estale
  refuse (control.owner ≠ service) .eacces
  refuse control.attempted .einval
  let _ ← guardFinish control false
  pure ()

/-- `FILE_OBJECT_JOURNAL_CHECK`, `WRITE` and `FLUSHED`. -/
inductive JournalMark
  | check
  | write
  | flushed
  deriving DecidableEq

def GuardControl.marked (control : GuardControl) : JournalMark → GuardControl
  | .check => control
  | .write => { control with attempted := true, pending := true }
  | .flushed => { control with pending := false }

/-- The probe of a journal request looks at the reservation before it may expire. -/
def guardProbe (control : GuardControl) (owner : FileObjectOwner) (token : UInt32) (nowMs : UInt64) :
    Guard Unit := do
  refuse (!control.active ∨ control.generation ≠ token) .estale
  refuse (control.owner ≠ owner) .eacces
  guardOwnedPinLive control
  refuse (control.requestHandle ≠ 0 ∧ control.deadlineMs ≤ nowMs) .etimedout

/-- `guard_journal_io`: whether a write was pending, and the reservation after the mark. -/
def guardJournalIo (owner : FileObjectOwner) (token : UInt32) (resource : Nat) (mark : JournalMark)
    (nowMs : UInt64) (probe : Bool) : Guard (Bool × FileObjectMutationContext) := do
  refuse (!guardOwnerValid owner ∨ token = 0 ∨ fileObjectGuardResources ≤ resource) .einval
  guardLock
  let control ← guardControlRead
  (if probe then guardProbe control owner token nowMs else pure ())
  let control ← guardExpire control nowMs
  refuse (Names control.fenced resource ∧ control.mode ≠ .repair) .eio
  refuse (!control.active ∨ control.generation ≠ token) .estale
  refuse (control.owner ≠ owner ∨ control.resource ≠ resource ∨ control.mode = .ordinary) .eacces
  (if probe then pure () else guardOwnedPinLive control)
  (if control.marked mark = control then pure () else guardControlWrite (control.marked mark))
  pure (control.pending, (control.marked mark).context)

def fileObjectGuardJournalIo (owner : FileObjectOwner) (token : UInt32) (resource : Nat) (mark : JournalMark)
    (nowMs : UInt64) : Guard (Bool × FileObjectMutationContext) :=
  guardJournalIo owner token resource mark nowMs false

def fileObjectGuardJournalProbe (owner : FileObjectOwner) (token : UInt32) (resource : Nat) (nowMs : UInt64) :
    Guard FileObjectMutationContext := do
  let (_, context) ← guardJournalIo owner token resource .check nowMs true
  pure context

/-- The pins of a dead owner, and the reservation that borrowed one of them. -/
def guardCleanupPins (owner : FileObjectOwner) :
    List (Fin fileObjectGuardCapacity) → GuardControl → Guard Unit
  | [], _ => pure ()
  | slot :: rest, control => do
    let pin ← guardPinRead slot
    if pin.active ∧ (pin.service = owner ∨ pin.client = owner) then do
      let control ← (if control.active ∧ control.borrowedPin = pinToken slot pin then guardFinish control true
        else pure control)
      guardPinClear slot pin
      guardCleanupPins owner rest control
    else guardCleanupPins owner rest control

def fileObjectGuardCleanup (owner : FileObjectOwner) : Guard Unit := do
  refuse (!guardOwnerValid owner) .einval
  guardLock
  let control ← guardControlRead
  let control ← (if control.active ∧ control.owner = owner then guardFinish control true else pure control)
  guardCleanupPins owner guardSlots control

/-- `file_object_guard_owner_at`; the slot behind the last pin is the reservation's owner. -/
def fileObjectGuardOwnerAt (slot : Option (Fin fileObjectGuardCapacity)) :
    Guard (FileObjectOwner × FileObjectOwner) := do
  guardLock
  let control ← guardControlRead
  match slot with
  | none => pure (if control.active then control.owner else noOwner, noOwner)
  | some i => do
    let pin ← guardPinRead i
    pure (if pin.active then (pin.service, pin.client) else (noOwner, noOwner))

def fileObjectGuardRevokeMedia (resource : Nat) : Guard Unit := do
  refuse (fileObjectGuardResources ≤ resource) .einval
  guardLock
  let control ← guardControlRead
  let control ← (if control.active ∧ control.resource = resource then guardFinish control true
    else pure control)
  let control ← guardEpochAdvance control
  guardControlWrite control
  let media ← guardMediaRead resource
  (if media = 0xffffffff then guardPoison else pure ())
  guardMediaWrite resource (media + 1)
  Attempt.forEach (fun slot => do
    let pin ← guardPinRead slot
    if pin.active ∧ pin.key.resource = resource then guardPinClear slot pin else pure ()) guardSlots

def fileObjectGuardMergeFences (mask : UInt32) : Guard Unit :=
  if mask = 0 then pure ()
  else do
    guardLock
    let control ← guardControlRead
    let merged := { control with fenced := control.fenced ||| mask }
    if mask &&& ~~~control.fenced = 0 then pure ()
    else if control.active ∧ Names mask control.resource then do
      let _ ← guardFinish merged true
      pure ()
    else guardControlWrite merged

def fileObjectGuardRepairBegin (resource : Nat) (owner : FileObjectOwner) (epoch nowMs deadlineMs : UInt64) :
    Guard UInt32 := do
  refuse (fileObjectGuardResources ≤ resource ∨ !guardOwnerValid owner ∨ epoch = 0 ∨ deadlineMs ≤ nowMs ∨
    fileObjectGuardMaxMs < deadlineMs - nowMs) .einval
  guardLock
  let control ← guardControlRead
  let control ← guardExpire control nowMs
  refuse (¬ Names control.fenced resource) .eacces
  refuse control.active .ebusy
  refuse (control.epoch ≠ epoch) .estale
  guardScan fun _ pin => if pin.active ∧ pin.key.resource = resource then some .ebusy else none
  refuse (control.generation = 0xffffffff) .eoverflow
  let control ← guardEpochAdvance control
  guardControlWrite { control with
    owner := owner
    resource := resource
    deadlineMs := deadlineMs
    active := true
    mode := .repair
    generation := control.generation + 1 }
  pure (control.generation + 1)

def fileObjectGuardRepairFinish (token : UInt32) (owner : FileObjectOwner) (verified : Bool) (nowMs : UInt64) :
    Guard Unit := do
  refuse (token = 0 ∨ !guardOwnerValid owner) .einval
  guardLock
  let control ← guardControlRead
  let control ← guardExpire control nowMs
  refuse (!control.active ∨ control.generation ≠ token) .estale
  refuse (control.owner ≠ owner ∨ control.mode ≠ .repair) .eacces
  refuse (verified ∧ (!control.attempted ∨ control.pending)) .einval
  let control := if verified then { control with fenced := control.fenced &&& ~~~resourceBit control.resource }
    else control
  let _ ← guardFinish control (!verified)
  pure ()

def fileObjectGuardPoll (nowMs : UInt64) : Guard Unit := do
  guardLock
  let control ← guardControlRead
  let _ ← guardExpire control nowMs
  pure ()

def fileObjectGuardFenced : Guard UInt32 := do
  guardLock
  let control ← guardControlRead
  pure control.fenced

end ReistOs
