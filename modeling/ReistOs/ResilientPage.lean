import ReistOs.CriticalFaults

namespace ReistOs.Pages

def pageSize : Nat := 4096

def pageCapacity : Nat := 4

def domainCount : UInt32 := 3

def bankCount : UInt32 := 2

def replicaCountMax : UInt32 := 2

abbrev Page := Fin 4096 → UInt8

def pageCrc32 (page : Page) : UInt32 := Crc32.crc32 (List.ofFn page)

inductive PageState where
  | healthy
  | degraded
  | rebuilding
  | failed
  deriving DecidableEq

def PageState.code : PageState → UInt32
  | healthy => 0
  | degraded => 1
  | rebuilding => 2
  | failed => 3

inductive PageResult where
  | ok
  | resultDegraded
  | resultRebuilt
  | errorArgument
  | errorStale
  | errorCapacity
  | errorCorrupt
  | errorFailed
  deriving DecidableEq

def PageResult.succeeded : PageResult → Bool
  | ok => true
  | resultDegraded => true
  | resultRebuilt => true
  | _ => false

structure Handle where
  slot : UInt32
  generation : UInt32
  deriving DecidableEq

structure Metadata where
  handleGeneration : UInt32
  dataGeneration : UInt32
  state : UInt32
  replicaCount : UInt32
  domain : Fin 2 → UInt32
  activeBank : Fin 2 → UInt32
  replicaCrc32 : Fin 2 → UInt32
  reserved : Fin 2 → UInt32
  deriving DecidableEq

def Metadata.words (metadata : Metadata) : List UInt32 :=
  [metadata.handleGeneration, metadata.dataGeneration, metadata.state, metadata.replicaCount,
    metadata.domain 0, metadata.domain 1, metadata.activeBank 0, metadata.activeBank 1,
    metadata.replicaCrc32 0, metadata.replicaCrc32 1, metadata.reserved 0, metadata.reserved 1]

def pair (first second : UInt32) : Fin 2 → UInt32 := fun i => if i = 0 then first else second

def Metadata.ofWords : List UInt32 → Option Metadata
  | [handle, data, state, count, domain0, domain1, bank0, bank1, crc0, crc1, reserved0,
      reserved1] =>
    some { handleGeneration := handle, dataGeneration := data, state := state
           replicaCount := count, domain := pair domain0 domain1, activeBank := pair bank0 bank1
           replicaCrc32 := pair crc0 crc1, reserved := pair reserved0 reserved1 }
  | _ => none

def wordBytes (w : UInt32) : List UInt8 := (List.range 4).map (Critical.wordByte w)

def wordOfBytes (a b c d : UInt8) : UInt32 :=
  UInt32.ofNat (a.toNat + 256 * b.toNat + 65536 * c.toNat + 16777216 * d.toNat)

def bytesWords : List UInt8 → List UInt32
  | a :: b :: c :: d :: rest => wordOfBytes a b c d :: bytesWords rest
  | _ => []

def Metadata.bytes (metadata : Metadata) : List UInt8 := metadata.words.flatMap wordBytes

def metadataLength : Nat := 48

def fieldsValid (metadata : Metadata) : Bool :=
  if metadata.handleGeneration = 0 ∨ metadata.dataGeneration = 0 ∨
      metadata.state > PageState.failed.code ∨ metadata.replicaCount > replicaCountMax ∨
      metadata.reserved 0 ≠ 0 ∨ metadata.reserved 1 ≠ 0 then false
  else if metadata.state = PageState.healthy.code ∧ metadata.replicaCount ≠ replicaCountMax then false
  else if (metadata.state = PageState.degraded.code ∨ metadata.state = PageState.rebuilding.code) ∧
      metadata.replicaCount ≠ 1 then false
  else if ∃ i : Fin 2, i.val < metadata.replicaCount.toNat ∧
      (metadata.domain i ≥ domainCount ∨ metadata.activeBank i ≥ bankCount) then false
  else if metadata.replicaCount = replicaCountMax ∧ metadata.domain 0 = metadata.domain 1 then false
  else true

def metadataValid (payload : List UInt8) : Bool :=
  if payload.length ≠ metadataLength then false
  else
    match Metadata.ofWords (bytesWords payload) with
    | none => false
    | some metadata => fieldsValid metadata

section State

structure Slot where
  active : Bool
  generation : UInt32
  metadata : Critical.Object

/-- The page storage by domain, slot and bank, and the pool's other statics. -/
structure Pool where
  storage : UInt32 → Nat → UInt32 → Page
  slots : Nat → Slot
  failedDomains : UInt32 → Bool
  nextHandleGeneration : UInt32

def zeroPage : Page := fun _ => 0

def zeroCopy : Critical.Copy := { words := fun _ => 0, ecc := fun _ => 0, crc32 := 0 }

def zeroObject : Critical.Object := { publicationLock := 0, primary := zeroCopy, shadow := zeroCopy }

def zeroSlot : Slot := { active := false, generation := 0, metadata := zeroObject }

def pagesInit : Pool :=
  { storage := fun _ _ _ => zeroPage, slots := fun _ => zeroSlot, failedDomains := fun _ => false
    nextHandleGeneration := 1 }

variable (pool : Pool) (slot : Nat)

def Pool.setSlot (value : Slot) : Pool :=
  { pool with slots := Function.update pool.slots slot value }

def Pool.setMetadata (object : Critical.Object) : Pool :=
  pool.setSlot slot { pool.slots slot with metadata := object }

def Pool.setPage (domain bank : UInt32) (page : Page) : Pool :=
  { pool with
    storage := fun d i b => if d = domain ∧ i = slot ∧ b = bank then page else pool.storage d i b }

/-- The storage of one slot cleared in every domain and bank. -/
def Pool.zeroStorage : Pool :=
  { pool with storage := fun d i b => if i = slot then zeroPage else pool.storage d i b }

end State

section Internals

variable (pool : Pool) (slot : Nat)

def metadataRead : Option Metadata × Pool :=
  match Critical.read (pool.slots slot).metadata 1 metadataLength (some metadataValid) with
  | (_, none, object) => (none, pool.setMetadata slot object)
  | (_, some payload, object) =>
    if payload.length ≠ metadataLength then (none, pool.setMetadata slot object)
    else (Metadata.ofWords (bytesWords payload), pool.setMetadata slot object)

/-- Whether the update was published, and the pool afterwards. -/
def metadataUpdate (metadata : Metadata) : Bool × Pool :=
  if !metadataValid metadata.bytes then (false, pool)
  else
    match Critical.update (pool.slots slot).metadata 1 metadata.bytes (some metadataValid) with
    | (result, object) => (result = 0, pool.setMetadata slot object)

def resolve (handle : Handle) : Except PageResult (Nat × Metadata) × Pool :=
  if pageCapacity ≤ handle.slot.toNat ∨ handle.generation = 0 then (.error .errorArgument, pool)
  else
    let slot := handle.slot.toNat
    if (pool.slots slot).active = false ∨ (pool.slots slot).generation ≠ handle.generation then
      (.error .errorStale, pool)
    else
      match metadataRead pool slot with
      | (none, pool) => (.error .errorCorrupt, pool)
      | (some metadata, pool) =>
        if metadata.handleGeneration ≠ handle.generation then (.error .errorStale, pool)
        else (.ok (slot, metadata), pool)

/-- A result, the metadata in hand, and the index of the replica to copy from. -/
structure Assessment where
  result : PageResult
  metadata : Metadata
  source : Fin 2

def markFailed (metadata : Metadata) (result : PageResult) : Assessment × Pool :=
  let metadata := { metadata with state := PageState.failed.code }
  match metadataUpdate pool slot metadata with
  | (false, pool) => ({ result := .errorCorrupt, metadata := metadata, source := 0 }, pool)
  | (true, pool) => ({ result := result, metadata := metadata, source := 0 }, pool)

def replicaPage (metadata : Metadata) (replica : Fin 2) : Page :=
  pool.storage (metadata.domain replica) slot (metadata.activeBank replica)

def replicaValid (metadata : Metadata) (replica : Fin 2) : Bool :=
  !pool.failedDomains (metadata.domain replica) &&
    pageCrc32 (replicaPage pool slot metadata replica) = metadata.replicaCrc32 replica

/-- The replicas that the metadata counts and that are sound, in their order. -/
def validReplicas (metadata : Metadata) : List (Fin 2) :=
  (List.finRange 2).filter fun replica =>
    replica.val < metadata.replicaCount.toNat && replicaValid pool slot metadata replica

def degrade (metadata : Metadata) (survivor : Fin 2) : Metadata :=
  { metadata with
    domain := pair (metadata.domain survivor) 0
    activeBank := pair (metadata.activeBank survivor) 0
    replicaCrc32 := pair (metadata.replicaCrc32 survivor) 0
    replicaCount := 1
    state := PageState.degraded.code }

def assess (metadata : Metadata) : Assessment × Pool :=
  if metadata.state = PageState.failed.code then
    ({ result := .errorFailed, metadata := metadata, source := 0 }, pool)
  else
    match validReplicas pool slot metadata with
    | [] => markFailed pool slot metadata .errorFailed
    | [survivor] =>
      let metadata := degrade metadata survivor
      match metadataUpdate pool slot metadata with
      | (false, pool) => ({ result := .errorCorrupt, metadata := metadata, source := 0 }, pool)
      | (true, pool) => ({ result := .resultDegraded, metadata := metadata, source := 0 }, pool)
    | first :: second :: _ =>
      if replicaPage pool slot metadata first ≠ replicaPage pool slot metadata second then
        markFailed pool slot metadata .errorCorrupt
      else if metadata.state ≠ PageState.healthy.code then
        let metadata := { metadata with state := PageState.healthy.code }
        match metadataUpdate pool slot metadata with
        | (false, pool) => ({ result := .errorCorrupt, metadata := metadata, source := 0 }, pool)
        | (true, pool) => ({ result := .ok, metadata := metadata, source := first }, pool)
      else ({ result := .ok, metadata := metadata, source := first }, pool)

def resolveAssess (handle : Handle) : Except PageResult (Nat × Assessment) × Pool :=
  match resolve pool handle with
  | (.error result, pool) => (.error result, pool)
  | (.ok (slot, metadata), pool) =>
    match assess pool slot metadata with
    | (assessment, pool) =>
      if assessment.result.succeeded then (.ok (slot, assessment), pool)
      else (.error assessment.result, pool)

end Internals

variable (pool : Pool)

/-- The loop over the slots: each active page drops what the failed domain held. -/
def assessSlots : List Nat → Pool → PageResult → PageResult × Pool
  | [], pool, aggregate => (aggregate, pool)
  | slot :: rest, pool, aggregate =>
    if (pool.slots slot).active = false then assessSlots rest pool aggregate
    else
      match metadataRead pool slot with
      | (none, pool) => assessSlots rest pool .errorCorrupt
      | (some metadata, pool) =>
        match assess pool slot metadata with
        | (assessment, pool) =>
          if assessment.result = .resultDegraded ∨ !assessment.result.succeeded then
            assessSlots rest pool .resultDegraded
          else assessSlots rest pool aggregate

def failDomain (domain : UInt32) : PageResult × Pool :=
  if domain ≥ domainCount then (.errorArgument, pool)
  else if pool.failedDomains domain then (.ok, pool)
  else
    let pool := { pool with failedDomains := Function.update pool.failedDomains domain true }
    assessSlots (List.range pageCapacity) pool .ok

/-- The domains that a new page is mirrored in: the first two that have not failed. -/
def createDomains : List UInt32 :=
  ([0, 1, 2].filter fun domain => !pool.failedDomains domain).take 2

def storeInitial (slot : Nat) (initial : Page) : List UInt32 → Pool → Pool
  | [], pool => pool
  | domain :: rest, pool => storeInitial slot initial rest (pool.setPage slot domain 0 initial)

def newMetadata (generation first second crcFirst crcSecond : UInt32) : Metadata :=
  { handleGeneration := generation, dataGeneration := 1, state := PageState.healthy.code
    replicaCount := 2, domain := pair first second, activeBank := pair 0 0
    replicaCrc32 := pair crcFirst crcSecond, reserved := pair 0 0 }

def create (initial : Page) : PageResult × Option Handle × Pool :=
  match (List.range pageCapacity).find? fun slot => !(pool.slots slot).active with
  | none => (.errorCapacity, none, pool)
  | some slot =>
    if pool.nextHandleGeneration = 0 ∨ pool.nextHandleGeneration = 0xFFFFFFFF then
      (.errorFailed, none, pool)
    else
      let generation := pool.nextHandleGeneration
      let pool := { pool with nextHandleGeneration := generation + 1 }
      let domains := createDomains pool
      let pool := storeInitial slot initial domains pool
      match domains with
      | [first, second] =>
        let metadata := newMetadata generation first second
          (pageCrc32 (pool.storage first slot 0)) (pageCrc32 (pool.storage second slot 0))
        let pool := pool.setSlot slot { pool.slots slot with generation := generation }
        match Critical.init (pool.slots slot).metadata 1 metadata.bytes with
        | (result, object) =>
          let pool := pool.setMetadata slot object
          if result ≠ 0 then
            (.errorCorrupt, none, pool.setSlot slot { pool.slots slot with generation := 0 })
          else
            (.ok, some { slot := UInt32.ofNat slot, generation := generation },
              pool.setSlot slot { pool.slots slot with active := true })
      | _ => (.errorFailed, none, pool.zeroStorage slot)

def destroy (handle : Handle) : PageResult × Pool :=
  match resolve pool handle with
  | (.error result, pool) => (result, pool)
  | (.ok (slot, _), pool) => (.ok, (pool.zeroStorage slot).setSlot slot zeroSlot)

structure ReadAnswer where
  result : PageResult
  bytes : Option Page
  state : Option UInt32

def read (handle : Handle) (capacity : Nat) : ReadAnswer × Pool :=
  if capacity < pageSize then ({ result := .errorArgument, bytes := none, state := none }, pool)
  else
    match resolveAssess pool handle with
    | (.error result, pool) =>
      ({ result := result, bytes := none
         state := if result = .errorFailed then some PageState.failed.code else none }, pool)
    | (.ok (slot, assessment), pool) =>
      ({ result := assessment.result
         bytes := some (replicaPage pool slot assessment.metadata assessment.source)
         state := some assessment.metadata.state }, pool)

def overwrite (page : Page) (offset : Nat) (bytes : List UInt8) : Page :=
  fun k => if offset ≤ k.val then bytes.getD (k.val - offset) (page k) else page k

/-- The loop over the replicas: each inactive bank gets the new bytes. -/
def prepare (slot : Nat) (metadata : Metadata) (source : Fin 2) (offset : Nat)
    (bytes : List UInt8) : List (Fin 2) → Metadata → Pool → Metadata × Pool
  | [], candidate, pool => (candidate, pool)
  | replica :: rest, candidate, pool =>
    let inactive := metadata.activeBank replica ^^^ 1
    let target := overwrite (replicaPage pool slot metadata source) offset bytes
    let candidate :=
      { candidate with
        activeBank := Function.update candidate.activeBank replica inactive
        replicaCrc32 := Function.update candidate.replicaCrc32 replica (pageCrc32 target) }
    prepare slot metadata source offset bytes rest candidate
      (pool.setPage slot (metadata.domain replica) inactive target)

def countedReplicas (metadata : Metadata) : List (Fin 2) :=
  (List.finRange 2).filter fun replica => replica.val < metadata.replicaCount.toNat

def write (handle : Handle) (offset : Nat) (bytes : List UInt8) : PageResult × Pool :=
  if bytes.length = 0 ∨ offset > pageSize ∨ bytes.length > pageSize - offset then
    (.errorArgument, pool)
  else
    match resolveAssess pool handle with
    | (.error result, pool) => (result, pool)
    | (.ok (slot, assessment), pool) =>
      let metadata := assessment.metadata
      if metadata.dataGeneration = 0xFFFFFFFF then (.errorFailed, pool)
      else
        let candidate := { metadata with dataGeneration := metadata.dataGeneration + 1 }
        match prepare slot metadata assessment.source offset bytes (countedReplicas metadata)
            candidate pool with
        | (candidate, pool) =>
          match metadataUpdate pool slot candidate with
          | (false, pool) => (.errorCorrupt, pool)
          | (true, pool) =>
            (if candidate.state = PageState.degraded.code then .resultDegraded else .ok, pool)

def scrub (handle : Handle) : (PageResult × UInt32) × Pool :=
  match resolveAssess pool handle with
  | (.error result, pool) => ((result, PageState.failed.code), pool)
  | (.ok (_, assessment), pool) => ((assessment.result, assessment.metadata.state), pool)

def replacementDomain (metadata : Metadata) : Option UInt32 :=
  [0, 1, 2].find? fun domain => !pool.failedDomains domain && domain ≠ metadata.domain 0

def rebuilt (metadata : Metadata) (replacement : UInt32) (target : Page) : Metadata :=
  { metadata with
    replicaCount := 2
    domain := Function.update metadata.domain 1 replacement
    activeBank := Function.update metadata.activeBank 1 0
    replicaCrc32 := Function.update metadata.replicaCrc32 1 (pageCrc32 target)
    state := PageState.healthy.code }

def rebuild (handle : Handle) : PageResult × Pool :=
  match resolveAssess pool handle with
  | (.error result, pool) => (result, pool)
  | (.ok (slot, assessment), pool) =>
    let metadata := assessment.metadata
    if metadata.state ≠ PageState.degraded.code ∨ metadata.replicaCount ≠ 1 then
      (.errorArgument, pool)
    else
      match replacementDomain pool metadata with
      | none => (.errorFailed, pool)
      | some replacement =>
        let metadata := { metadata with state := PageState.rebuilding.code }
        match metadataUpdate pool slot metadata with
        | (false, pool) => (.errorCorrupt, pool)
        | (true, pool) =>
          let target := replicaPage pool slot metadata assessment.source
          let pool := pool.setPage slot replacement 0 target
          match metadataUpdate pool slot (rebuilt metadata replacement target) with
          | (false, pool) => (.errorCorrupt, pool)
          | (true, pool) => (.resultRebuilt, pool)

end ReistOs.Pages
