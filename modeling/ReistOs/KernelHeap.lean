import ReistOs.FrameAllocator

/-! The kernel heap of `mm/kmalloc.c` over its frame allocator. The list of blocks is the one the
headers link, which are also written to memory. No sum exceeds 32 bits while every block ends below
that. -/

namespace ReistOs.KernelHeap

open Frames

def blockMagic : Nat := 0x4B484541
def heapGrowChunk : Nat := 0x40000

abbrev Memory := Nat → UInt8

/-- `memory_block` with its address; the link is the next block of the list. -/
structure Block where
  address : Nat
  size : Nat
  free : Bool
  deriving DecidableEq

def Block.payload (b : Block) : Nat := b.address + memoryBlockSize
def Block.stop (b : Block) : Nat := b.payload + b.size

/-- An arena is its first address and its size, so `heap_arena_count` and `heap_backing_bytes` are
the length and the sum of the arenas. -/
structure Heap where
  frames : FrameState
  blocks : List Block
  arenas : List (Nat × Nat)
  usedPayloadBytes : Nat
  usedHighWaterBytes : Nat
  allocationFailures : Nat
  memory : Memory

def word (value : Nat) : List UInt8 :=
  [UInt8.ofNat value, UInt8.ofNat (value / 2 ^ 8), UInt8.ofNat (value / 2 ^ 16),
    UInt8.ofNat (value / 2 ^ 24)]

def writeBytes (m : Memory) (address : Nat) (bytes : List UInt8) : Memory := fun x =>
  if address ≤ x ∧ x < address + bytes.length then bytes.getD (x - address) 0 else m x

/-- The headers of a list of blocks. A header that does not change is written as it is. -/
def writeHeaders : List Block → Memory → Memory
  | [], m => m
  | b :: bs, m =>
    writeHeaders bs (writeBytes m b.address
      (word b.size ++ word ((bs.head?.map Block.address).getD 0) ++ word blockMagic ++
        word (if b.free then 1 else 0)))

def Heap.relink (h : Heap) (blocks : List Block) : Heap :=
  { h with blocks := blocks, memory := writeHeaders blocks h.memory }

def heapUsageAdded (h : Heap) (amount : Nat) : Heap :=
  let used := if sizeMax - h.usedPayloadBytes < amount then sizeMax else h.usedPayloadBytes + amount
  { h with usedPayloadBytes := used, usedHighWaterBytes := max used h.usedHighWaterBytes }

/-- A release of more than the usage leaves none, as the subtraction does. -/
def heapUsageRemoved (h : Heap) (amount : Nat) : Heap :=
  { h with usedPayloadBytes := h.usedPayloadBytes - amount }

def blocksAreAdjacent (left right : Block) : Bool := left.stop == right.address

/-- The block cut to a size and the blocks behind it up to where it ended. -/
def splitBlock (b : Block) (size : Nat) : Block × List Block :=
  let remainder := b.size - size
  if remainder < memoryBlockSize + minAllocation then (b, [])
  else ({ b with size := size },
    [⟨b.address + memoryBlockSize + size, remainder - memoryBlockSize, true⟩])

def joinNext (b : Block) : List Block → List Block
  | [] => [b]
  | next :: rest =>
    if next.free && blocksAreAdjacent b next then
      { b with size := b.size + (memoryBlockSize + next.size) } :: rest
    else b :: next :: rest

/-- The blocks before, and the first of the others joined to the last of these. -/
def joinPrevious (before : List Block) : List Block → List Block
  | [] => before
  | b :: after =>
    match before.getLast? with
    | none => b :: after
    | some previous =>
      if previous.free && blocksAreAdjacent previous b then
        before.dropLast ++
          { previous with size := previous.size + (memoryBlockSize + b.size) } :: after
      else before ++ b :: after

def insertHeapBlock (b : Block) (blocks : List Block) : List Block :=
  joinPrevious (blocks.takeWhile fun a => decide (a.address < b.address))
    (joinNext b (blocks.dropWhile fun a => decide (a.address < b.address)))

def extendHeap (h : Heap) (requestedSize : Nat) : Bool × Heap :=
  if sizeMax - memoryBlockSize < requestedSize then (false, h)
  else
    let wanted := max (requestedSize + memoryBlockSize) heapGrowChunk
    if sizeMax - (frameSize - 1) < wanted then (false, h)
    else
      let arenaSize := alignUp wanted frameSize
      let run := reserveContiguousFrames h.frames (arenaSize / frameSize)
      let h := { h with frames := run.2 }
      if run.1 = 0 ∨ sizeMax - arenaSize < run.1 then (false, h)
      else
        let block : Block := ⟨run.1, arenaSize - memoryBlockSize, true⟩
        (true, { h with arenas := (run.1, arenaSize) :: h.arenas }.relink
          (insertHeapBlock block h.blocks))

/-- The first block with a property, with those before and behind it. -/
def breakAt (p : Block → Bool) : List Block → Option (List Block × Block × List Block)
  | [] => none
  | b :: bs =>
    if p b then some ([], b, bs) else (breakAt p bs).map fun (before, found, after) =>
      (b :: before, found, after)

/-- The search of `k_malloc` through the list. -/
def allocateBlock (h : Heap) (size : Nat) : Option (Nat × Heap) :=
  (breakAt (fun b => b.free && decide (size ≤ b.size)) h.blocks).map fun (before, b, after) =>
    let taken := { (splitBlock b size).1 with free := false }
    (taken.payload, heapUsageAdded
      (h.relink (before ++ taken :: ((splitBlock b size).2 ++ after))) taken.size)

def Heap.failed (h : Heap) : Heap :=
  { h with allocationFailures := min (h.allocationFailures + 1) uint64Max }

/-- Each attempt searches and, where there is no block, extends the heap for the next one. -/
def attempts : Nat → Heap → Nat → Nat × Heap
  | 0, h, _ => (0, h.failed)
  | n + 1, h, size =>
    match allocateBlock h size with
    | some result => result
    | none =>
      match extendHeap h size with
      | (true, h) => attempts n h size
      | (false, h) => (0, h.failed)

def kMalloc (h : Heap) (size : Nat) : Nat × Heap :=
  if size = 0 ∨ sizeMax - 15 < size then (0, h) else attempts 2 h (alignUp size 16)

def findAllocatedBlock (blocks : List Block) (ptr : Nat) :
    Option (List Block × Block × List Block) :=
  breakAt (fun b => b.payload == ptr) blocks

def kFree (h : Heap) (ptr : Nat) : Heap :=
  if ptr = 0 ∨ ptr % 16 ≠ 0 then h
  else
    match findAllocatedBlock h.blocks ptr with
    | none => h
    | some (before, b, after) =>
      if b.free then h
      else heapUsageRemoved
        (h.relink (joinPrevious before (joinNext { b with free := true } after))) b.size

/-- The next block, where the block can grow into it far enough. -/
def growsInto (b : Block) (alignedSize : Nat) : List Block → Option (Block × List Block)
  | [] => none
  | next :: rest =>
    if next.free && blocksAreAdjacent b next &&
        decide (alignedSize ≤ b.size + memoryBlockSize + next.size) then some (next, rest)
    else none

def kRealloc (h : Heap) (ptr newSize : Nat) : Nat × Heap :=
  if ptr = 0 then kMalloc h newSize
  else if newSize = 0 then (0, kFree h ptr)
  else if sizeMax - 15 < newSize then (0, h)
  else
    let alignedSize := alignUp newSize 16
    match findAllocatedBlock h.blocks ptr with
    | none => (0, h)
    | some (before, b, after) =>
      if b.free then (0, h)
      else if alignedSize ≤ b.size then (ptr, h)
      else
        match growsInto b alignedSize after with
        | some (next, rest) =>
          let joined := splitBlock { b with size := b.size + (memoryBlockSize + next.size) }
            alignedSize
          (ptr, heapUsageAdded (h.relink (before ++ joined.1 :: (joined.2 ++ rest)))
            (joined.1.size - b.size))
        | none =>
          match kMalloc h alignedSize with
          | (0, h) => (0, h)
          | (newPtr, h) =>
            let payload := (List.range b.size).map fun i => h.memory (ptr + i)
            (newPtr, kFree { h with memory := writeBytes h.memory newPtr payload } ptr)

def initialHeap (frames : FrameState) (heapBegin heapLimit : Nat) (memory : Memory) : Heap :=
  { frames := frames, blocks := [], arenas := [(heapBegin, heapLimit - heapBegin)],
    usedPayloadBytes := 0, usedHighWaterBytes := 0, allocationFailures := 0, memory := memory
    : Heap }.relink [⟨heapBegin, alignDown (heapLimit - heapBegin - memoryBlockSize) 16, true⟩]

def Heap.live (h : Heap) : List Block := h.blocks.filter fun b => !b.free

/-- A call of the heap, a store of a client into a payload that it holds, or a call of the frame
allocator in between. -/
inductive HeapCall
  | malloc (size : Nat)
  | free (ptr : Nat)
  | realloc (ptr newSize : Nat)
  | store (address : Nat) (value : UInt8)
  | frame (c : FrameCall)

def Heap.call (h : Heap) : HeapCall → Heap
  | .malloc size => (kMalloc h size).2
  | .free ptr => kFree h ptr
  | .realloc ptr newSize => (kRealloc h ptr newSize).2
  | .store address value =>
    if h.live.any fun b => decide (b.payload ≤ address) && decide (address < b.stop) then
      { h with memory := writeBytes h.memory address [value] }
    else h
  | .frame c => { h with frames := h.frames.call c }

end ReistOs.KernelHeap
