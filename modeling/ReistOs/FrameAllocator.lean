import Mathlib.Tactic

/-! Physical frames of `mm/kmalloc.c`. Addresses are bytes; `size_t` and `uintptr_t` have 32 bits. -/

namespace ReistOs.Frames

def frameSize : Nat := 4096
/-- `KERNEL_IDENTITY_LIMIT` -/
def physicalMemoryLimit : Nat := 0x40000000
def uint64Max : Nat := 0xFFFFFFFFFFFFFFFF
def sizeMax : Nat := 0xFFFFFFFF
/-- `sizeof(memory_block)` -/
def memoryBlockSize : Nat := 16
def minAllocation : Nat := 16
def initialHeapSize : Nat := 0x100000

def alignUp (value alignment : Nat) : Nat := (value + (alignment - 1)) % 2 ^ 32 / alignment * alignment
def alignDown (value alignment : Nat) : Nat := value / alignment * alignment

structure PhysicalRegion where
  base : Nat
  length : Nat

/-- `saturated_region_end` -/
def PhysicalRegion.stop (r : PhysicalRegion) : Nat :=
  if uint64Max - r.base < r.length then uint64Max else r.base + r.length

/-- The tables of regions and the symbol `_stack_end`. -/
structure MemoryMap where
  usable : List PhysicalRegion
  reserved : List PhysicalRegion
  stackEnd : Nat

/-- The frame allocator once memory is initialised. A bitmap has a cell for each bit of the packed
bytes below `frame_count`. -/
structure FrameState where
  map : MemoryMap
  frameBitmap : List Bool
  reservedBitmap : List Bool
  managedFrameCount : Nat
  reservedFrameCount : Nat
  allocatedFrameCount : Nat
  freeFrameCount : Nat
  highWaterCount : Nat
  allocationFailures : Nat
  searchHint : Nat

def addressIsUsable (map : MemoryMap) (address : Nat) : Bool :=
  if uint64Max - frameSize < address then false
  else map.usable.any fun r => decide (r.base ≤ address) && decide (address + frameSize ≤ r.stop)

section Bits

variable (s : FrameState) (frame : Nat)

def FrameState.frameCount : Nat := s.frameBitmap.length
def FrameState.testFrame : Bool := s.frameBitmap.getD frame true
def FrameState.testReserved : Bool := s.reservedBitmap.getD frame true
def FrameState.setFrame : FrameState := { s with frameBitmap := s.frameBitmap.set frame true }
def FrameState.clearFrame : FrameState := { s with frameBitmap := s.frameBitmap.set frame false }
def FrameState.setReserved : FrameState :=
  { s with reservedBitmap := s.reservedBitmap.set frame true }
def FrameState.usable : Bool := addressIsUsable s.map (frame * frameSize)

end Bits

/-- One turn of `reserve_frame_range`. -/
def reserveFrame (s : FrameState) (frame : Nat) : FrameState :=
  if !s.usable frame || s.testReserved frame then s
  else
    let s := if !s.testFrame frame then
        { s.setFrame frame with freeFrameCount := s.freeFrameCount - 1 }
      else { s with allocatedFrameCount := s.allocatedFrameCount - 1 }
    { s.setReserved frame with reservedFrameCount := s.reservedFrameCount + 1 }

def reserveFrameRange (s : FrameState) (r : PhysicalRegion) : FrameState :=
  if physicalMemoryLimit ≤ r.base ∨ r.length = 0 then s
  else
    let first := r.base / frameSize
    let last := min ((min r.stop physicalMemoryLimit + frameSize - 1) / frameSize) s.frameCount
    (List.range' first (last - first)).foldl reserveFrame s

def releaseFrame (s : FrameState) (frame : Nat) : FrameState :=
  if s.testFrame frame then
    { s.clearFrame frame with
      managedFrameCount := s.managedFrameCount + 1
      freeFrameCount := s.freeFrameCount + 1 }
  else s

def releaseRegion (s : FrameState) (r : PhysicalRegion) : FrameState :=
  if physicalMemoryLimit ≤ r.base then s
  else
    let first := (r.base + frameSize - 1) / frameSize
    let last := min (min r.stop physicalMemoryLimit / frameSize) s.frameCount
    (List.range' first (last - first)).foldl releaseFrame s

/-- The loop over the reserved regions in `find_heap_region`. -/
def clipToReserved (metadataStart metadataEnd : Nat) : List PhysicalRegion → Nat → Option Nat
  | [], stop => some stop
  | r :: rs, stop =>
    if r.base < metadataEnd ∧ metadataStart < r.stop then none
    else clipToReserved metadataStart metadataEnd rs
      (if metadataEnd ≤ r.base ∧ r.base < stop then alignDown r.base 16 else stop)

def findHeapRegion (map : MemoryMap) (metadataStart metadataEnd : Nat) : Option Nat :=
  match map.usable.find? fun r => decide (r.base ≤ metadataStart ∧ metadataEnd ≤ r.stop) with
  | none => none
  | some r =>
    match clipToReserved metadataStart metadataEnd map.reserved (min r.stop 0xFFFFFFFF) with
    | none => none
    | some stop => if metadataEnd < stop then some stop else none

def totalMemory (regions : List PhysicalRegion) : Nat :=
  min (regions.map PhysicalRegion.length).sum uint64Max

/-- The frames of a map with their counters, and the bounds of the initial heap. -/
def initializeMemorySystem (map : MemoryMap) : Option (FrameState × Nat × Nat) :=
  if map.usable.length = 0 ∨ totalMemory map.usable = 0 then none
  else
    let highest := min ((map.usable.map PhysicalRegion.stop).foldl max 0) physicalMemoryLimit
    let frameCount := (highest + frameSize - 1) / frameSize
    let bitmapSize := alignUp ((frameCount + 7) / 8) 16
    let bitmapStart := alignUp map.stackEnd 16
    if (sizeMax - bitmapStart) / 2 < bitmapSize then none
    else
      let bitmapEnd := alignUp (bitmapStart + bitmapSize * 2) 16
      if bitmapEnd < bitmapStart then none
      else
        match findHeapRegion map bitmapStart bitmapEnd with
        | none => none
        | some regionEnd =>
          if regionEnd - bitmapEnd ≤ memoryBlockSize + minAllocation then none
          else
            let used : FrameState := ⟨map, List.replicate frameCount true,
              List.replicate frameCount false, 0, 0, 0, 0, 0, 0, 1⟩
            let released := map.usable.foldl releaseRegion used
            let desired := if initialHeapSize ≤ sizeMax - bitmapEnd then bitmapEnd + initialHeapSize
              else sizeMax
            let heapLimit := alignDown (min desired regionEnd) frameSize
            if heapLimit ≤ bitmapEnd + memoryBlockSize + minAllocation then none
            else some (map.reserved.foldl reserveFrameRange
              (reserveFrameRange released ⟨0, heapLimit⟩), bitmapEnd, heapLimit)

def FrameState.failed (s : FrameState) : FrameState :=
  { s with allocationFailures := min (s.allocationFailures + 1) uint64Max }

def wrapHint (s : FrameState) (hint : Nat) : Nat := if s.frameCount ≤ hint then 1 else hint

def FrameState.take (s : FrameState) (frame : Nat) : FrameState :=
  { s.setFrame frame with
    freeFrameCount := s.freeFrameCount - 1
    allocatedFrameCount := s.allocatedFrameCount + 1
    highWaterCount := max (s.allocatedFrameCount + 1) s.highWaterCount
    searchHint := wrapHint s (frame + 1) }

def FrameState.firstFree (s : FrameState) (first stop : Nat) : Option Nat :=
  (List.range' first (stop - first)).find? fun frame => !s.testFrame frame

def allocateFrameFrom (s : FrameState) (minimumAddress : Nat) (userAdmission : Bool) :
    Nat × FrameState :=
  if userAdmission && decide (s.freeFrameCount ≤ s.managedFrameCount / 16) then (0, s.failed)
  else if sizeMax - (frameSize - 1) < minimumAddress then (0, s)
  else
    let aligned := alignUp minimumAddress frameSize / frameSize
    let first := if aligned = 0 then 1 else aligned
    let start := if s.searchHint < first ∨ s.frameCount ≤ s.searchHint then first else s.searchHint
    match s.firstFree start s.frameCount with
    | some frame => (frame * frameSize, s.take frame)
    | none =>
      match s.firstFree first start with
      | some frame => (frame * frameSize, s.take frame)
      | none => (0, s.failed)

def allocateFrame (s : FrameState) : Nat × FrameState := allocateFrameFrom s frameSize false
def allocateUserFrame (s : FrameState) : Nat × FrameState := allocateFrameFrom s frameSize true
def allocateFrameAtOrAbove (s : FrameState) (minimumAddress : Nat) : Nat × FrameState :=
  allocateFrameFrom s minimumAddress false

def freeFrame (s : FrameState) (addr : Nat) : FrameState :=
  let frame := addr / frameSize
  if addr % frameSize ≠ 0 ∨ addr = 0 then s
  else if decide (frame < s.frameCount) && s.usable frame && !s.testReserved frame &&
      s.testFrame frame then
    { s.clearFrame frame with
      allocatedFrameCount := s.allocatedFrameCount - 1
      freeFrameCount := s.freeFrameCount + 1
      searchHint := if frame < s.searchHint ∨ s.frameCount ≤ s.searchHint then frame
        else s.searchHint }
  else s

/-- The loop of `reserve_frame_run_locked` over the next frames. -/
def FrameState.runFrom (s : FrameState) (count : Nat) : Nat → Nat → Nat → Nat → Option Nat
  | 0, _, _, _ => none
  | remaining + 1, frame, runStart, runLength =>
    if !s.testFrame frame then
      let runStart := if runLength = 0 then frame else runStart
      if runLength + 1 = count then some runStart
      else s.runFrom count remaining (frame + 1) runStart (runLength + 1)
    else s.runFrom count remaining (frame + 1) runStart 0

def reserveFrameRunLocked (s : FrameState) (first stop count : Nat) : Option Nat :=
  s.runFrom count (stop - first) first 0 0

def FrameState.takeRun (s : FrameState) (runStart count : Nat) : FrameState :=
  let taken := (List.range' runStart count).foldl
    (fun s item => (s.setFrame item).setReserved item) s
  { taken with
    freeFrameCount := s.freeFrameCount - count
    reservedFrameCount := s.reservedFrameCount + count
    searchHint := wrapHint s (runStart + count) }

def reserveContiguousFrames (s : FrameState) (count : Nat) : Nat × FrameState :=
  if count = 0 ∨ s.frameCount < count then (0, s)
  else if s.freeFrameCount < count then (0, s.failed)
  else
    let start := if s.searchHint < 1 ∨ s.frameCount ≤ s.searchHint then 1 else s.searchHint
    match reserveFrameRunLocked s start s.frameCount count with
    | some runStart => (runStart * frameSize, s.takeRun runStart count)
    | none =>
      match if start ≠ 1 then reserveFrameRunLocked s 1 start count else none with
      | some runStart => (runStart * frameSize, s.takeRun runStart count)
      | none => (0, s.failed)

inductive FrameCall
  | allocate (minimumAddress : Nat) (userAdmission : Bool)
  | free (addr : Nat)
  | reserveRun (count : Nat)

def FrameState.call (s : FrameState) : FrameCall → FrameState
  | .allocate minimumAddress userAdmission => (allocateFrameFrom s minimumAddress userAdmission).2
  | .free addr => freeFrame s addr
  | .reserveRun count => (reserveContiguousFrames s count).2

end ReistOs.Frames
