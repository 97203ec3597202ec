import ReistOs.CriticalRecord

/-! The IPv4 to MAC bindings of `drivers/net/arp_binding_cache.c`. Every slot is a protected cell;
the lock of the cache makes each call one step. -/

namespace ReistOs.Arp

open Critical

def supervisedArpCacheSize : Nat := 32
def supervisedArpObjectVersion : UInt32 := 1
def arpBindingEmpty : UInt32 := 0
def arpBindingValid : UInt32 := 1
def arpBindingExpired : UInt32 := 2

structure Mac where
  byte0 : UInt8
  byte1 : UInt8
  byte2 : UInt8
  byte3 : UInt8
  byte4 : UInt8
  byte5 : UInt8
  deriving DecidableEq

structure ArpBindingPayload where
  state : UInt32
  ip : UInt32
  mac : Mac
  reserved0 : UInt8
  reserved1 : UInt8
  transactionEpoch : UInt32
  sourcePid : Int32
  sourceGeneration : UInt32
  deadlineMs : UInt64
  deriving DecidableEq

def payloadWidths : List Nat := [4, 4, 1, 1, 1, 1, 1, 1, 1, 1, 4, 4, 4, 8]

def payloadFields (p : ArpBindingPayload) : List Nat :=
  [p.state.toNat, p.ip.toNat, p.mac.byte0.toNat, p.mac.byte1.toNat, p.mac.byte2.toNat,
    p.mac.byte3.toNat, p.mac.byte4.toNat, p.mac.byte5.toNat, p.reserved0.toNat, p.reserved1.toNat,
    p.transactionEpoch.toNat, p.sourcePid.toUInt32.toNat, p.sourceGeneration.toNat,
    p.deadlineMs.toNat]

def emptyPayload : ArpBindingPayload := ⟨0, 0, ⟨0, 0, 0, 0, 0, 0⟩, 0, 0, 0, 0, 0, 0⟩

def payloadOfFields : List Nat → ArpBindingPayload
  | [state, ip, byte0, byte1, byte2, byte3, byte4, byte5, reserved0, reserved1, transactionEpoch,
      sourcePid, sourceGeneration, deadlineMs] =>
    { state := .ofNat state
      ip := .ofNat ip
      mac := ⟨.ofNat byte0, .ofNat byte1, .ofNat byte2, .ofNat byte3, .ofNat byte4, .ofNat byte5⟩
      reserved0 := .ofNat reserved0
      reserved1 := .ofNat reserved1
      transactionEpoch := .ofNat transactionEpoch
      sourcePid := (UInt32.ofNat sourcePid).toInt32
      sourceGeneration := .ofNat sourceGeneration
      deadlineMs := .ofNat deadlineMs }
  | _ => emptyPayload

theorem payloadFields_fit (p : ArpBindingPayload) :
    Packed.Fits payloadWidths (payloadFields p) := by
  have h8 : ∀ x : UInt8, x.toNat < 256 ^ 1 := fun x => x.toNat_lt
  have h32 : ∀ x : UInt32, x.toNat < 256 ^ 4 := fun x => x.toNat_lt
  have h64 : ∀ x : UInt64, x.toNat < 256 ^ 8 := fun x => x.toNat_lt
  unfold Packed.Fits payloadWidths payloadFields
  simp only [List.forall₂_cons, h8, h32, h64, List.Forall₂.nil, and_self]

theorem payloadOfFields_payloadFields (p : ArpBindingPayload) :
    payloadOfFields (payloadFields p) = p := by
  simp [payloadOfFields, payloadFields]

def payloadLayout : RecordLayout ArpBindingPayload where
  version := supervisedArpObjectVersion
  size := 36
  bytes p := Packed.pack payloadWidths (payloadFields p)
  value bytes := payloadOfFields (Packed.unpack payloadWidths bytes)
  version_ne := by decide
  size_pos := by decide
  size_le := by decide
  length_bytes p := Packed.length_pack (payloadFields_fit p)
  value_bytes p := by
    rw [Packed.unpack_pack (payloadFields_fit p), payloadOfFields_payloadFields]

def macValid (mac : Mac) : Bool :=
  mac.byte0 &&& 1 == 0 &&
    mac.byte0 ||| mac.byte1 ||| mac.byte2 ||| mac.byte3 ||| mac.byte4 ||| mac.byte5 != 0

def payloadValid (p : ArpBindingPayload) : Bool :=
  if p.reserved0 ≠ 0 ∨ p.reserved1 ≠ 0 then false
  else if p.state = arpBindingEmpty then
    p.ip == 0 && p.transactionEpoch == 0 && p.sourcePid == 0 && p.sourceGeneration == 0 &&
      p.deadlineMs == 0
  else if p.state ≠ arpBindingValid ∧ p.state ≠ arpBindingExpired then false
  else
    p.ip != 0 && p.transactionEpoch != 0 && decide (0 < p.sourcePid) &&
      p.sourceGeneration != 0 && macValid p.mac

def bindingDeadline (nowMs : UInt64) (leaseMs : UInt32) : UInt64 :=
  if 0xFFFFFFFFFFFFFFFF - nowMs < leaseMs.toUInt64 then 0xFFFFFFFFFFFFFFFF
  else nowMs + leaseMs.toUInt64

/-- `supervised_arp_lookup_result_t`, with the address that a hit copies out -/
inductive SupervisedArpLookupResult
  | miss
  | hit (mac : Mac)
  | blocked
  | integrityFailure
  deriving DecidableEq

structure SupervisedArpScrubStats where
  scanned : Nat
  active : Nat
  expired : Nat
  newlyExpired : Nat
  corrected : Nat
  deriving DecidableEq

section Calls

variable {ω : Type} (store : RecordStore ω ArpBindingPayload)

/-- The first loop of a call: every slot is read, up to one that cannot be. -/
def readEntries : List ω → Option (List (ArpBindingPayload × ReadResult)) × List ω
  | [] => (some [], [])
  | cell :: cells =>
    match store.read cell with
    | (none, cell) => (none, cell :: cells)
    | (some entry, cell) =>
      let (entries, cells) := readEntries cells
      (entries.map (entry :: ·), cell :: cells)

def supervisedArpCacheInit : List ω → Int × List ω
  | [] => (0, [])
  | cell :: cells =>
    match store.init cell emptyPayload with
    | (false, cell) => (-1, cell :: cells)
    | (true, cell) =>
      let (result, cells) := supervisedArpCacheInit cells
      (result, cell :: cells)

/-- The slot of an address, and if it has none the first that was never used. -/
def selectSlot (ip : UInt32) :
    List ArpBindingPayload → Nat → Option Nat → Option Nat → Option Nat
  | [], _, selected, unused => selected.or unused
  | entry :: entries, i, selected, unused =>
    selectSlot ip entries (i + 1)
      (if entry.state ≠ arpBindingEmpty ∧ entry.ip = ip then some i else selected)
      (if entry.state = arpBindingEmpty ∧ unused = none then some i else unused)

def commitRefused (ip : UInt32) (mac : Option Mac) (transactionEpoch : UInt32) (sourcePid : Int32)
    (sourceGeneration leaseMs : UInt32) : Bool :=
  ip == 0 || mac.isNone || transactionEpoch == 0 || decide (sourcePid ≤ 0) ||
    sourceGeneration == 0 || leaseMs == 0 || !(mac.all macValid)

def committedPayload (ip : UInt32) (mac : Option Mac) (transactionEpoch : UInt32)
    (sourcePid : Int32) (sourceGeneration : UInt32) (nowMs : UInt64) (leaseMs : UInt32) :
    ArpBindingPayload :=
  { state := arpBindingValid
    ip := ip
    mac := mac.getD emptyPayload.mac
    reserved0 := 0
    reserved1 := 0
    transactionEpoch := transactionEpoch
    sourcePid := sourcePid
    sourceGeneration := sourceGeneration
    deadlineMs := bindingDeadline nowMs leaseMs }

def writeSlot (value : ArpBindingPayload) : Nat → List ω → Int × List ω
  | _, [] => (-2, [])
  | 0, cell :: cells =>
    match store.update cell value with
    | (true, cell) => (0, cell :: cells)
    | (false, cell) => (-2, cell :: cells)
  | slot + 1, cell :: cells =>
    let (result, cells) := writeSlot value slot cells
    (result, cell :: cells)

def supervisedArpCacheCommit (ip : UInt32) (mac : Option Mac) (transactionEpoch : UInt32)
    (sourcePid : Int32) (sourceGeneration : UInt32) (nowMs : UInt64) (leaseMs : UInt32)
    (cache : List ω) : Int × List ω :=
  if commitRefused ip mac transactionEpoch sourcePid sourceGeneration leaseMs then (-1, cache)
  else
    match readEntries store cache with
    | (none, cache) => (-2, cache)
    | (some entries, cache) =>
      match selectSlot ip (entries.map Prod.fst) 0 none none with
      | none => (-2, cache)
      | some slot =>
        writeSlot store (committedPayload ip mac transactionEpoch sourcePid sourceGeneration nowMs
          leaseMs) slot cache

def expired (entry : ArpBindingPayload) : ArpBindingPayload :=
  { entry with state := arpBindingExpired }

/-- The second loop of a revocation or a scrub: what is due expires, up to a slot that cannot be
written. Gives the number and the entries. -/
def expireEntries (due : ArpBindingPayload → Bool) :
    List ω → List ArpBindingPayload → Option (Nat × List ArpBindingPayload) × List ω
  | cell :: cells, entry :: entries =>
    if due entry then
      match store.update cell (expired entry) with
      | (false, cell) => (none, cell :: cells)
      | (true, cell) =>
        let (found, cells) := expireEntries due cells entries
        (found.map fun (count, entries) => (count + 1, expired entry :: entries), cell :: cells)
    else
      let (found, cells) := expireEntries due cells entries
      (found.map fun (count, entries) => (count, entry :: entries), cell :: cells)
  | cells, _ => (some (0, []), cells)

def revokeEntries (due : ArpBindingPayload → Bool) (cache : List ω) : Int × List ω :=
  match readEntries store cache with
  | (none, cache) => (-2, cache)
  | (some entries, cache) =>
    match expireEntries store due cache (entries.map Prod.fst) with
    | (none, cache) => (-2, cache)
    | (some (revoked, _), cache) => (revoked, cache)

def ownedBy (sourcePid : Int32) (sourceGeneration : UInt32) (entry : ArpBindingPayload) : Bool :=
  entry.state == arpBindingValid && entry.sourcePid == sourcePid &&
    entry.sourceGeneration == sourceGeneration

def supervisedArpCacheRevokeIdentity (sourcePid : Int32) (sourceGeneration : UInt32)
    (cache : List ω) : Int × List ω :=
  if sourcePid ≤ 0 ∨ sourceGeneration = 0 then (-1, cache)
  else revokeEntries store (ownedBy sourcePid sourceGeneration) cache

def boundTo (ip : UInt32) (entry : ArpBindingPayload) : Bool :=
  entry.state == arpBindingValid && entry.ip == ip

def supervisedArpCacheRevokeIp (ip : UInt32) (cache : List ω) : Int × List ω :=
  if ip = 0 ∨ ip = 0xFFFFFFFF then (-1, cache) else revokeEntries store (boundTo ip) cache

def overdue (nowMs : UInt64) (entry : ArpBindingPayload) : Bool :=
  entry.state == arpBindingValid && decide (entry.deadlineMs ≤ nowMs)

/-- `out` says that the caller gave a place for the figures. -/
def supervisedArpCacheScrub (nowMs : UInt64) (out : Bool) (cache : List ω) :
    Int × Option SupervisedArpScrubStats × List ω :=
  if ¬ out then (-1, none, cache)
  else
    match readEntries store cache with
    | (none, cache) => (-2, none, cache)
    | (some entries, cache) =>
      match expireEntries store (overdue nowMs) cache (entries.map Prod.fst) with
      | (none, cache) => (-2, none, cache)
      | (some (newlyExpired, after), cache) =>
        (0, some {
          scanned := entries.length
          active := after.countP (·.state == arpBindingValid)
          expired := after.countP (·.state == arpBindingExpired)
          newlyExpired := newlyExpired
          corrected := entries.countP fun (_, result) =>
            result == .corrected || result == .recovered }, cache)

def lookupFrom (ip : UInt32) (nowMs : UInt64) : List ω → SupervisedArpLookupResult × List ω
  | [] => (.miss, [])
  | cell :: cells =>
    match store.read cell with
    | (none, cell) => (.integrityFailure, cell :: cells)
    | (some (value, _), cell) =>
      if value.state = arpBindingEmpty ∨ value.ip ≠ ip then
        let (result, cells) := lookupFrom ip nowMs cells
        (result, cell :: cells)
      else if value.state = arpBindingExpired then (.blocked, cell :: cells)
      else if value.deadlineMs ≤ nowMs then
        match store.update cell (expired value) with
        | (false, cell) => (.integrityFailure, cell :: cells)
        | (true, cell) => (.blocked, cell :: cells)
      else (.hit value.mac, cell :: cells)

/-- `out` says that the caller gave a place for the address. -/
def supervisedArpCacheLookup (ip : UInt32) (nowMs : UInt64) (out : Bool) (cache : List ω) :
    SupervisedArpLookupResult × List ω :=
  if ip = 0 ∨ ¬ out then (.integrityFailure, cache) else lookupFrom store ip nowMs cache

def bindings (cache : List ω) : List (Option ArpBindingPayload) :=
  cache.map fun cell => (store.read cell).1.map Prod.fst

end Calls

inductive ArpCall
  | commit (ip : UInt32) (mac : Option Mac) (transactionEpoch : UInt32) (sourcePid : Int32)
      (sourceGeneration : UInt32) (nowMs : UInt64) (leaseMs : UInt32)
  | revokeIdentity (sourcePid : Int32) (sourceGeneration : UInt32)
  | revokeIp (ip : UInt32)
  | scrub (nowMs : UInt64) (out : Bool)
  | lookup (ip : UInt32) (nowMs : UInt64) (out : Bool)

inductive ArpReply
  | code (result : Int)
  | found (result : SupervisedArpLookupResult)

abbrev ArpHistory := List (ArpCall × ArpReply)

structure ArpRun (ω : Type) where
  cache : List ω
  history : ArpHistory

variable {ω : Type} (store : RecordStore ω ArpBindingPayload)

def ArpCall.perform (cache : List ω) : ArpCall → ArpReply × List ω
  | .commit ip mac transactionEpoch sourcePid sourceGeneration nowMs leaseMs =>
    let (result, cache) := supervisedArpCacheCommit store ip mac transactionEpoch sourcePid
      sourceGeneration nowMs leaseMs cache
    (.code result, cache)
  | .revokeIdentity sourcePid sourceGeneration =>
    let (result, cache) := supervisedArpCacheRevokeIdentity store sourcePid sourceGeneration cache
    (.code result, cache)
  | .revokeIp ip =>
    let (result, cache) := supervisedArpCacheRevokeIp store ip cache
    (.code result, cache)
  | .scrub nowMs out =>
    let (result, _, cache) := supervisedArpCacheScrub store nowMs out cache
    (.code result, cache)
  | .lookup ip nowMs out =>
    let (result, cache) := supervisedArpCacheLookup store ip nowMs out cache
    (.found result, cache)

def ArpRun.call (r : ArpRun ω) (call : ArpCall) : ArpRun ω :=
  let (reply, cache) := call.perform store r.cache
  ⟨cache, r.history ++ [(call, reply)]⟩

def ArpRun.boot (cells : List ω) : ArpRun ω := ⟨(supervisedArpCacheInit store cells).2, []⟩

/-- A call, or a fault in one copy of one slot. -/
inductive ArpStep
  | call (call : ArpCall)
  | fault (slot : Nat) (shadow : Bool) (copy : Copy)

abbrev guarded : RecordStore Object ArpBindingPayload := payloadLayout.store payloadValid

abbrev plain : RecordStore (Plain ArpBindingPayload) ArpBindingPayload := Plain.store

def ArpRun.step (r : ArpRun Object) : ArpStep → ArpRun Object
  | .call call => r.call guarded call
  | .fault slot shadow copy =>
    { r with cache := r.cache.modify slot (payloadLayout.strike payloadValid · shadow copy) }

/-- What supersedes a binding or takes it back: a later commit of its address, a revocation that
names it, or its expiry at a scrub or a lookup. -/
def Retracts (p : ArpBindingPayload) : ArpCall × ArpReply → Prop
  | (.commit ip _ _ _ _ _ _, .code result) => result = 0 ∧ ip = p.ip
  | (.revokeIdentity sourcePid sourceGeneration, .code result) =>
    0 ≤ result ∧ sourcePid = p.sourcePid ∧ sourceGeneration = p.sourceGeneration
  | (.revokeIp ip, .code result) => 0 ≤ result ∧ ip = p.ip
  | (.scrub nowMs _, .code result) => result = 0 ∧ p.deadlineMs ≤ nowMs
  | (.lookup ip _ _, .found result) => result = .blocked ∧ ip = p.ip
  | _ => False

/-- The binding is the one of the last successful commit of its address, and nothing has taken it
back since. -/
def ArpHistory.Stands (h : ArpHistory) (p : ArpBindingPayload) : Prop :=
  ∃ before after transactionEpoch nowMs leaseMs,
    h = before ++ (.commit p.ip (some p.mac) transactionEpoch p.sourcePid p.sourceGeneration nowMs
      leaseMs, .code 0) :: after ∧ p.deadlineMs = bindingDeadline nowMs leaseMs ∧
    ∀ event ∈ after, ¬ Retracts p event

def committedAddress : ArpCall × ArpReply → Option UInt32
  | (.commit ip _ _ _ _ _ _, .code result) => if result = 0 then some ip else none
  | _ => none

def ArpHistory.addresses (h : ArpHistory) : Finset UInt32 := (h.filterMap committedAddress).toFinset

end ReistOs.Arp
