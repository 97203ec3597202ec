import ReistOs.FileObjectGuardFences
import ReistOs.SlotToken

/-! What every call of `kernel/init/file_object_guard.c` does to the guard, one protected record at
a time. -/

namespace ReistOs

open Attempt Relation

def fileObjectGuardOwnedRequest (service : FileObjectOwner) (token : UInt32) (resource : Nat)
    (nowMs : UInt64) : Guard (UInt32 × UInt64) := do
  refuse (token = 0 ∨ !guardOwnerValid service ∨ fileObjectGuardResources ≤ resource) .einval
  guardLock
  let control ← guardControlRead
  let control ← guardExpire control nowMs
  refuse (Names control.fenced resource) .eio
  refuse (!control.active ∨ control.generation ≠ token) .estale
  refuse (control.owner ≠ service ∨ control.resource ≠ resource) .eacces
  guardOwnedPinLive control
  pure (control.requestHandle, control.deadlineMs)

def fileObjectGuardInit : FileObjectGuard :=
  { poisoned := false
    control := ⟨1, 0, noOwner, 0, 0, false, 0, .ordinary, false, false, 0, 0⟩
    pins := fun _ => ⟨emptyKey, noOwner, noOwner, 0, 0, false⟩
    media := fun _ => 1 }

inductive FileObjectGuardCall
  | snapshot (nowMs : UInt64)
  | pin (key : FileObjectKey) (service client : FileObjectOwner) (epoch nowMs : UInt64)
  | lookup (token : UInt32) (service client : FileObjectOwner) (nowMs : UInt64)
  | release (token : UInt32) (service client : FileObjectOwner)
  | legacyEnter (nowMs : UInt64)
  | canOpen (resource : Nat) (nowMs : UInt64)
  | keyBusy (key : FileObjectKey) (nowMs : UInt64)
  | count (resource : Nat) (nowMs : UInt64) (detach : Bool)
  | beginMode (keys : List FileObjectKey) (flags : UInt32) (owner : FileObjectOwner)
      (epoch nowMs deadlineMs : UInt64)
  | beginOwned (key : FileObjectKey) (service : FileObjectOwner) (borrow : BorrowedPin)
      (epoch nowMs deadlineMs : UInt64)
  | ownedRequest (service : FileObjectOwner) (token : UInt32) (resource : Nat) (nowMs : UInt64)
  | context (owner : FileObjectOwner) (token : UInt32)
  | mutationEnd (token : UInt32) (owner : FileObjectOwner) (outcome : MutationOutcome)
      (nowMs : UInt64)
  | mutationAuthorized (owner : FileObjectOwner) (resource : Nat) (nowMs : UInt64)
  | journalIo (owner : FileObjectOwner) (token : UInt32) (resource : Nat) (mark : JournalMark)
      (nowMs : UInt64)
  | journalProbe (owner : FileObjectOwner) (token : UInt32) (resource : Nat) (nowMs : UInt64)
  | cancelUndelivered (token : UInt32) (service : FileObjectOwner)
  | cleanup (owner : FileObjectOwner)
  | ownerAt (slot : Option (Fin fileObjectGuardCapacity))
  | revokeMedia (resource : Nat)
  | mergeFences (mask : UInt32)
  | repairBegin (resource : Nat) (owner : FileObjectOwner) (epoch nowMs deadlineMs : UInt64)
  | repairFinish (token : UInt32) (owner : FileObjectOwner) (verified : Bool) (nowMs : UInt64)
  | poll (nowMs : UInt64)
  | fenced

/-- The call; what it hands out is the token of a pin or of a reservation. -/
def FileObjectGuardCall.exec : FileObjectGuardCall → Guard UInt32
  | .snapshot nowMs => do let _ ← fileObjectGuardSnapshot nowMs; pure 0
  | .pin key service client epoch nowMs => fileObjectGuardPin key service client epoch nowMs
  | .lookup token service client nowMs => do
    let _ ← fileObjectGuardLookup token service client nowMs; pure 0
  | .release token service client => do fileObjectGuardRelease token service client; pure 0
  | .legacyEnter nowMs => do fileObjectGuardLegacyEnter nowMs; pure 0
  | .canOpen resource nowMs => do fileObjectGuardCanOpen resource nowMs; pure 0
  | .keyBusy key nowMs => do fileObjectGuardKeyBusy key nowMs; pure 0
  | .count resource nowMs detach => do let _ ← guardCount resource nowMs detach; pure 0
  | .beginMode keys flags owner epoch nowMs deadlineMs =>
    fileObjectGuardBeginMode keys flags owner epoch nowMs deadlineMs
  | .beginOwned key service borrow epoch nowMs deadlineMs =>
    fileObjectGuardBeginOwned key service borrow epoch nowMs deadlineMs
  | .ownedRequest service token resource nowMs => do
    let _ ← fileObjectGuardOwnedRequest service token resource nowMs; pure 0
  | .context owner token => do let _ ← fileObjectGuardContext owner token; pure 0
  | .mutationEnd token owner outcome nowMs => do
    fileObjectGuardEnd token owner outcome nowMs; pure 0
  | .mutationAuthorized owner resource nowMs => do
    fileObjectGuardMutationAuthorized owner resource nowMs; pure 0
  | .journalIo owner token resource mark nowMs => do
    let _ ← fileObjectGuardJournalIo owner token resource mark nowMs; pure 0
  | .journalProbe owner token resource nowMs => do
    let _ ← fileObjectGuardJournalProbe owner token resource nowMs; pure 0
  | .cancelUndelivered token service => do
    fileObjectGuardCancelUndelivered token service; pure 0
  | .cleanup owner => do fileObjectGuardCleanup owner; pure 0
  | .ownerAt slot => do let _ ← fileObjectGuardOwnerAt slot; pure 0
  | .revokeMedia resource => do fileObjectGuardRevokeMedia resource; pure 0
  | .mergeFences mask => do fileObjectGuardMergeFences mask; pure 0
  | .repairBegin resource owner epoch nowMs deadlineMs =>
    fileObjectGuardRepairBegin resource owner epoch nowMs deadlineMs
  | .repairFinish token owner verified nowMs => do
    fileObjectGuardRepairFinish token owner verified nowMs; pure 0
  | .poll nowMs => do fileObjectGuardPoll nowMs; pure 0
  | .fenced => fileObjectGuardFenced

namespace FileObjectGuardCall

/-- A checked end before the deadline, which reports that nothing or all was done. -/
def Ends (call : FileObjectGuardCall) (c : GuardControl) : Prop :=
  ∃ token owner outcome nowMs, call = .mutationEnd token owner outcome nowMs ∧
    outcome ≠ .unknown ∧ c.generation = token ∧ c.owner = owner ∧ nowMs < c.deadlineMs ∧
    ¬ (c.mode ≠ .ordinary ∧ ((outcome = .noEffect ∧ c.attempted) ∨
      (outcome = .durableCommit ∧ c.pending)))

def Verifies (call : FileObjectGuardCall) (c : GuardControl) : Prop :=
  ∃ token owner nowMs, call = .repairFinish token owner true nowMs ∧ c.mode = .repair ∧
    c.generation = token ∧ c.owner = owner ∧ nowMs < c.deadlineMs ∧ c.attempted = true ∧
    c.pending = false

def Opens : FileObjectGuardCall → Prop
  | .beginMode _ _ _ _ _ _ => True
  | .beginOwned _ _ _ _ _ _ => True
  | .repairBegin _ _ _ _ _ => True
  | _ => False

def Excludes : FileObjectGuardCall → Prop
  | .beginMode _ flags _ _ _ _ => flags &&& reistFileObjectExclusive ≠ 0
  | .beginOwned _ _ _ _ _ _ => True
  | .repairBegin _ _ _ _ _ => True
  | _ => False

end FileObjectGuardCall

def GuardPin.cleared (pin : GuardPin) : GuardPin :=
  { pin with
    key := emptyKey
    active := false
    mediaGeneration := 0 }

def GuardControl.HasEffect (c : GuardControl) : Prop := c.attempted = true ∨ c.pending = true

structure GuardControl.Retires (call : FileObjectGuardCall) (c c' : GuardControl) : Prop where
  active : c.active = true
  idle : c'.active = false
  valid : guardControlValid c' = true
  generation : c'.generation = c.generation
  fenced : ∀ r, Names c.fenced r → Names c'.fenced r ∨ (call.Verifies c ∧ r = c.resource)
  effect : c.HasEffect → Names c'.fenced c.resource ∨ call.Ends c ∨ call.Verifies c

/-- The reservation, or that there is none, goes on. -/
structure GuardControl.Carries (call : FileObjectGuardCall) (c c' : GuardControl) : Prop where
  valid : guardControlValid c' = true
  active : c'.active = c.active
  owner : c'.owner = c.owner
  generation : c'.generation = c.generation
  resource : c'.resource = c.resource
  borrowedPin : c'.borrowedPin = c.borrowedPin
  fenced : ∀ r, Names c.fenced r → Names c'.fenced r
  effect : c.HasEffect → c'.HasEffect
  ends : call.Ends c' → call.Ends c
  verifies : call.Verifies c' → call.Verifies c

namespace FileObjectGuard

/-- The pin that a reservation borrows is live. -/
structure Lends (g : FileObjectGuard) (c : GuardControl) (slot : Fin fileObjectGuardCapacity) :
    Prop where
  token : tokenSlot c.borrowedPin = some slot
  active : (g.pins slot).active = true
  generation : (g.pins slot).generation = c.borrowedPin >>> 8
  service : (g.pins slot).service = c.owner
  resource : (g.pins slot).key.resource = c.resource
  kind : (g.pins slot).key.kind = reistFileObjectFat32
  media : (g.pins slot).mediaGeneration = g.media c.resource

/-- No pin is live on the resource of a reservation but the one that it borrows. -/
def Alone (g : FileObjectGuard) (c : GuardControl) : Prop :=
  ∀ slot, (g.pins slot).active = true → (g.pins slot).key.resource = c.resource →
    pinToken slot (g.pins slot) = c.borrowedPin

structure Admits (call : FileObjectGuardCall) (g : FileObjectGuard) (c : GuardControl) : Prop where
  opens : call.Opens
  idle : g.control.active = false
  valid : guardControlValid c = true
  active : c.active = true
  room : g.control.generation ≠ 0xffffffff
  generation : c.generation = g.control.generation + 1
  fenced : c.fenced = g.control.fenced
  lends : c.borrowedPin ≠ 0 → ∃ slot, g.Lends c slot
  excludes : call.Excludes → g.Alone c

structure Pins (g : FileObjectGuard) (slot : Fin fileObjectGuardCapacity) (pin : GuardPin) :
    Prop where
  idle : g.control.active = false
  free : (g.pins slot).active = false
  room : (g.pins slot).generation < fileObjectGuardGenerationMax
  generation : pin.generation = (g.pins slot).generation + 1
  active : pin.active = true
  valid : guardPinValid pin = true

def clearPin (g : FileObjectGuard) (slot : Fin fileObjectGuardCapacity) : FileObjectGuard :=
  { g with pins := Function.update g.pins slot (g.pins slot).cleared }

/-- The publication of one protected record. -/
inductive Move (call : FileObjectGuardCall) (g : FileObjectGuard) : FileObjectGuard → Prop
  | poisoned : Move call g { g with poisoned := true }
  | retired (c : GuardControl) (h : g.control.Retires call c) : Move call g { g with control := c }
  | carried (c : GuardControl) (h : g.control.Carries call c) : Move call g { g with control := c }
  | admitted (c : GuardControl) (h : Admits call g c) : Move call g { g with control := c }
  | pinned (slot : Fin fileObjectGuardCapacity) (pin : GuardPin) (h : g.Pins slot pin) :
    Move call g { g with pins := Function.update g.pins slot pin }
  | cleared (slot : Fin fileObjectGuardCapacity) (hactive : (g.pins slot).active = true)
      (hvalid : guardPinValid (g.pins slot) = true)
      (hfree : g.control.active = true → g.control.borrowedPin ≠ pinToken slot (g.pins slot) ∨
        g.control.resource ≠ (g.pins slot).key.resource) : Move call g (g.clearPin slot)
  | revoked (resource : Nat) (hroom : g.media resource + 1 ≠ 0)
      (hfree : g.control.active = true → g.control.resource ≠ resource) :
    Move call g { g with media := Function.update g.media resource (g.media resource + 1) }

abbrev Reaches (call : FileObjectGuardCall) (g₀ g : FileObjectGuard) : Prop :=
  ReflTransGen (Move call) g₀ g

/-- The guard while a call works on a control record that it has read. -/
structure Held (call : FileObjectGuardCall) (g₀ : FileObjectGuard) (c : GuardControl)
    (g : FileObjectGuard) : Prop where
  reaches : g₀.Reaches call g
  control : g.control = c
  valid : guardControlValid c = true

end FileObjectGuard

open FileObjectGuard

section Records

variable {α : Type} {call : FileObjectGuardCall} {g0 : FileObjectGuard} {c c' : GuardControl}
  {P : FileObjectGuard → Prop} {Q : α → FileObjectGuard → Prop}

section

variable (hP : ∀ g, P g → g0.Reaches call g)
include hP

theorem guardPoison_reaches :
    Triple P (guardPoison : Guard α) Q (fun _ => g0.Reaches call) := by
  refine Triple.bind (Q := fun _ => g0.Reaches call) (Triple.modify fun g hg => ?_) fun _ =>
    Triple.fail fun _ h => h
  exact (hP g hg).tail .poisoned

theorem guardLock_reaches :
    Triple P guardLock (fun _ => P) (fun _ => g0.Reaches call) :=
  (keeps_guardLock (P := P)).errors fun _ g h => hP g h

theorem refuse_reaches {p : Prop} [Decidable p] {e : Errno} :
    Triple P (refuse p e : Guard Unit) (fun _ g => P g ∧ ¬ p) (fun _ => g0.Reaches call) :=
  Triple.refuse (fun g hg _ => hP g hg) fun _ hg hn => ⟨hg, hn⟩

theorem guardRead_reaches {part : FileObjectGuard → α} {valid : α → Bool} :
    Triple P (guardRead part valid) (fun a g => P g ∧ part g = a ∧ valid a = true)
      (fun _ => g0.Reaches call) := by
  refine Triple.bind (Triple.get (Q := fun g s => P s ∧ s = g) fun g hg => ⟨hg, rfl⟩) fun g => ?_
  refine Triple.ite (fun hvalid => Triple.pure ?_) fun _ =>
    guardPoison_reaches fun s hs => hP s hs.1
  rintro s ⟨hs, rfl⟩
  exact ⟨hs, rfl, hvalid⟩

theorem guardControlRead_reaches :
    Triple P guardControlRead (fun c g => P g ∧ g0.Held call c g) (fun _ => g0.Reaches call) := by
  refine Triple.bind (Triple.get (Q := fun _ => P) fun g hg => hg) fun g => ?_
  refine Triple.ite (fun _ => guardPoison_reaches hP) fun _ => ?_
  refine (guardRead_reaches hP).post fun c g h => ?_
  exact ⟨h.1, hP g h.1, h.2.1, h.2.2⟩

theorem guardWrite_reaches {put : FileObjectGuard → FileObjectGuard}
    (hput : ∀ g, P g → Move call g (put g)) :
    Triple P (guardWrite put) (fun _ s => ∃ g, P g ∧ g0.Reaches call s ∧ s = put g)
      (fun _ => g0.Reaches call) := by
  refine Triple.bind (Triple.draw (Q := fun _ => P) fun _ _ h => h) fun _ => ?_
  refine Triple.ite (fun _ => Triple.modify fun g hg => ?_) fun _ => guardPoison_reaches hP
  exact ⟨g, hg, (hP g hg).tail (hput g hg), rfl⟩

theorem guardEpochAdvance_reaches :
    Triple P (guardEpochAdvance c)
      (fun c' g => P g ∧ ∃ epoch ≠ 0, c' = { c with epoch := epoch })
      (fun _ => g0.Reaches call) := by
  refine Triple.ite (fun _ => guardPoison_reaches hP) fun he => Triple.pure fun g hg => ?_
  exact ⟨hg, _, epoch_succ_ne_zero he, rfl⟩

end

end Records

section Finish

variable {call : FileObjectGuardCall} {g0 : FileObjectGuard} {c c' : GuardControl}
  {P : FileObjectGuard → Prop}

theorem guardControlValid_active (hvalid : guardControlValid c = true) (hactive : c.active = true) :
    c.resource < fileObjectGuardResources := by
  have hrest := (Bool.and_eq_true _ _ ▸ hvalid).2
  rw [hactive, if_pos rfl] at hrest
  simp only [Bool.and_eq_true, decide_eq_true_eq] at hrest
  exact hrest.2

theorem guardControlValid_attempted (hvalid : guardControlValid c = true) (h : c.HasEffect) :
    c.attempted = true := by
  rcases h with h | h
  · exact h
  · unfold guardControlValid at hvalid
    simp only [Bool.and_eq_true, Bool.or_eq_true, Bool.not_eq_true'] at hvalid
    rcases hvalid.1.1.1.1.1.2 with hno | hyes
    · rw [h] at hno
      cases hno
    · exact hyes

theorem retires_retired {mask : UInt32} {u : Bool} {epoch : UInt64}
    (hvalid : guardControlValid c = true) (hactive : c.active = true) (hepoch : epoch ≠ 0)
    (hfenced : ∀ r, Names c.fenced r → Names mask r)
    (hu : u = false → c.attempted = true → call.Ends c) :
    c.Retires call { GuardControl.retired { c with fenced := mask } u with epoch := epoch } := by
  refine ⟨hactive, rfl, guardControlValid_retired hepoch, rfl, ?_, ?_⟩
  · intro r hr
    apply Or.inl
    cases u with
    | true => exact names_or.mpr (.inl (hfenced r hr))
    | false => exact hfenced r hr
  · intro heffect
    cases u with
    | true =>
      have hresource := guardControlValid_active hvalid hactive
      exact .inl (names_or.mpr (.inr ((names_bit hresource).mpr rfl)))
    | false => exact .inr (.inl (hu rfl (guardControlValid_attempted hvalid heffect)))

theorem guardControlWrite_reaches (hP : ∀ g, P g → g0.Reaches call g)
    (hmove : ∀ g, P g → Move call g { g with control := c' }) :
    Triple P (guardControlWrite c')
      (fun _ s => ∃ g, P g ∧ g0.Reaches call s ∧ s = { g with control := c' })
      (fun _ => g0.Reaches call) :=
  guardWrite_reaches hP hmove

theorem guardFinish_reaches {u : Bool} (hP : ∀ g, P g → g0.Held call c g)
    (hret : ∀ epoch, epoch ≠ 0 → c.Retires call { c'.retired u with epoch := epoch }) :
    Triple P (guardFinish c' u)
      (fun c'' s => (∃ g, P g ∧ s = { g with control := c'' }) ∧ g0.Held call c'' s ∧
        c''.active = false)
      (fun _ => g0.Reaches call) := by
  refine Triple.bind (guardEpochAdvance_reaches fun g hg => (hP g hg).reaches) fun c'' => ?_
  refine Triple.fact fun hc'' => ?_
  obtain ⟨epoch, hepoch, rfl⟩ := hc''
  have hretires := hret epoch hepoch
  refine Triple.bind (guardControlWrite_reaches (fun g hg => (hP g hg).reaches) ?_) fun _ => ?_
  · intro g hg
    exact .retired _ ((hP g hg).control ▸ hretires)
  · refine Triple.pure ?_
    rintro s ⟨g, hg, hreaches, rfl⟩
    exact ⟨⟨g, hg, rfl⟩, ⟨hreaches, rfl, hretires.valid⟩, hretires.idle⟩

theorem guardFinish_held {u : Bool} (hactive : c.active = true)
    (hu : u = false → c.attempted = true → call.Ends c) (hP : ∀ g, P g → g0.Held call c g) :
    Triple P (guardFinish c u)
      (fun c'' s => (∃ g, P g ∧ s = { g with control := c'' }) ∧ g0.Held call c'' s ∧
        c''.active = false)
      (fun _ => g0.Reaches call) := by
  intro w n g hg
  refine guardFinish_reaches hP ?_ w n g hg
  intro epoch hepoch
  exact retires_retired (hP g hg).valid hactive hepoch (fun _ h => h) hu

theorem guardExpire_held {nowMs : UInt64} :
    Triple (g0.Held call c) (guardExpire c nowMs)
      (fun c' g => g0.Held call c' g ∧
        (c'.active = true → c' = c ∧ nowMs < c.deadlineMs))
      (fun _ => g0.Reaches call) := by
  refine Triple.ite (fun hover => ?_) fun hon => Triple.pure fun g hg => ⟨hg, fun hactive => ?_⟩
  · refine (guardFinish_held hover.1 ?_ fun _ h => h).post fun c' g h => ⟨h.2.1, fun hactive => ?_⟩
    · intro hu hattempted
      rw [hattempted, Bool.or_true] at hu
      cases hu
    · rw [h.2.2] at hactive
      cases hactive
  · refine ⟨rfl, ?_⟩
    by_contra hlate
    exact hon ⟨hactive, UInt64.not_lt.mp hlate⟩

end Finish

section Tokens

variable {slot : Fin fileObjectGuardCapacity} {pin : GuardPin} {token : UInt32}

theorem tokenSlot_eq (h : tokenSlot token = some slot) :
    (token &&& 0xff).toNat = slot.val + 1 := by
  unfold tokenSlot at h
  dsimp only at h
  split at h
  next hin =>
    obtain rfl := Option.some.inj h
    dsimp only
    omega
  next => cases h

theorem pinToken_eq (hslot : tokenSlot token = some slot) (hgeneration : pin.generation = token >>> 8) :
    pinToken slot pin = token := by
  unfold pinToken
  rw [hgeneration]
  exact slotToken_of_low (tokenSlot_eq hslot)

end Tokens

variable {α : Type} {call : FileObjectGuardCall} {g0 : FileObjectGuard} {c c' : GuardControl}
  {P : FileObjectGuard → Prop} {slot : Fin fileObjectGuardCapacity} {pin : GuardPin}
  {token : UInt32} {service client : FileObjectOwner}

theorem guardPinRead_reaches (hP : ∀ g, P g → g0.Reaches call g) :
    Triple P (guardPinRead slot) (fun pin g => P g ∧ g.pins slot = pin ∧ guardPinValid pin = true)
      (fun _ => g0.Reaches call) :=
  guardRead_reaches hP

theorem guardMediaRead_reaches {resource : Nat} (hP : ∀ g, P g → g0.Reaches call g) :
    Triple P (guardMediaRead resource) (fun media g => P g ∧ g.media resource = media ∧ media ≠ 0)
      (fun _ => g0.Reaches call) :=
  (guardRead_reaches hP).post fun _ _ h => ⟨h.1, h.2.1, by simpa using h.2.2⟩

structure TokenNames (token : UInt32) (s c : FileObjectOwner) (g : FileObjectGuard)
    (i : Fin fileObjectGuardCapacity) (p : GuardPin) : Prop where
  slot : tokenSlot token = some i
  pin : g.pins i = p
  valid : guardPinValid p = true
  nonzero : token >>> 8 ≠ 0
  generation : p.generation = token >>> 8
  service : p.service = s
  client : p.client = c

theorem guardTokenRead_reaches (hP : ∀ g, P g → g0.Reaches call g) :
    Triple P (guardTokenRead token service client)
      (fun p g => P g ∧ TokenNames token service client g p.1 p.2) (fun _ => g0.Reaches call) := by
  unfold guardTokenRead
  cases hslot : tokenSlot token with
  | none => exact Triple.fail hP
  | some slot =>
    refine Triple.learn (refuse_reaches hP) fun _ hnonzero => ?_
    refine Triple.bind (guardPinRead_reaches hP) fun pin => ?_
    refine Triple.learn (refuse_reaches fun g hg => hP g hg.1) fun _ hgeneration => ?_
    refine Triple.learn (refuse_reaches fun g hg => hP g hg.1) fun _ howners => ?_
    refine Triple.pure fun g hg => ⟨hg.1, ?_⟩
    exact
      { slot := hslot
        pin := hg.2.1
        valid := hg.2.2
        nonzero := hnonzero
        generation := not_not.mp hgeneration
        service := not_not.mp fun h => howners (.inl h)
        client := not_not.mp fun h => howners (.inr h) }

theorem guardScan_reaches {refusal : Fin fileObjectGuardCapacity → GuardPin → Option Errno}
    (hP : ∀ g, P g → g0.Reaches call g) :
    Triple P (guardScan refusal) (fun _ g => P g ∧ ∀ slot, refusal slot (g.pins slot) = none)
      (fun _ => g0.Reaches call) := by
  refine (Triple.forEach_each (K := fun slot g => refusal slot (g.pins slot) = none)
    fun slot _ s0 hs0 => ?_).post fun _ g hg => ⟨hg.1, fun slot => hg.2 slot (List.mem_finRange slot)⟩
  have hP' : ∀ g, g = s0 → g0.Reaches call g := by
    rintro g rfl
    exact hP g hs0
  refine Triple.bind (guardPinRead_reaches hP') fun pin => ?_
  cases hrefusal : refusal slot pin with
  | some e => exact Triple.fail fun g hg => hP' g hg.1
  | none =>
    refine Triple.pure fun g hg => ?_
    obtain ⟨rfl, hpin, -⟩ := hg
    rw [← hpin] at hrefusal
    exact ⟨⟨hs0, hrefusal⟩, fun _ hc => hc⟩

theorem guardOwnedPinLive_reaches (hP : ∀ g, P g → g0.Reaches call g) :
    Triple P (guardOwnedPinLive c) (fun _ => P) (fun _ => g0.Reaches call) := by
  refine Triple.ite (fun _ => Triple.ret) fun _ => ?_
  split
  · exact guardPoison_reaches hP
  · refine Triple.bind (guardPinRead_reaches hP) fun pin => ?_
    refine Triple.ite (fun _ => guardPoison_reaches fun g hg => hP g hg.1) fun _ => ?_
    refine Triple.bind (guardMediaRead_reaches fun g hg => hP g hg.1) fun media => ?_
    refine Triple.ite (fun _ => guardPoison_reaches fun g hg => hP g hg.1.1) fun _ => ?_
    exact Triple.pure fun g hg => hg.1.1

theorem guardPinClear_reaches (hP : ∀ g, P g → g0.Held call c g) (hactive : pin.active = true)
    (hvalid : guardPinValid pin = true) (hpin : ∀ g, P g → g.pins slot = pin)
    (hfree : c.active = true → c.borrowedPin ≠ pinToken slot pin ∨ c.resource ≠ pin.key.resource) :
    Triple P (guardPinClear slot pin)
      (fun _ s => ∃ g, P g ∧ g0.Held call c s ∧ s = g.clearPin slot) (fun _ => g0.Reaches call) := by
  refine (guardWrite_reaches (fun g hg => (hP g hg).reaches) ?_).post ?_
  · intro g hg
    have hslot := hpin g hg
    subst hslot
    exact .cleared slot hactive hvalid ((hP g hg).control ▸ hfree)
  · rintro _ s ⟨g, hg, hreaches, rfl⟩
    have hslot := hpin g hg
    subst hslot
    exact ⟨g, hg, ⟨hreaches, (hP g hg).control, (hP g hg).valid⟩, rfl⟩

end ReistOs
