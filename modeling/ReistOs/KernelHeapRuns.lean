import ReistOs.KernelHeapBlocks
import ReistOs.FrameAllocatorGuarantees
import Mathlib.Data.List.TakeWhile

namespace ReistOs.KernelHeap

open Frames Block

/-- The blocks tile the arenas, whose frames are never handed out, and the usage is counted. -/
structure HeapGood (h : Heap) : Prop where
  frames : FramesValid h.frames
  bound : h.frames.frameCount * frameSize ≤ physicalMemoryLimit
  laid : Laid h.blocks
  tiles : ∀ x, Covers h.blocks x ↔ ∃ a ∈ h.arenas, a.1 ≤ x ∧ x < a.1 + a.2
  pinned : ∀ a ∈ h.arenas, ∀ x, a.1 ≤ x → x < a.1 + a.2 → h.frames.Pinned (x / frameSize)
  used : h.usedPayloadBytes = (h.live.map Block.size).sum

def Kept (h h' : Heap) : Prop :=
  ∀ c ∈ h.live, ∀ i < c.size, h'.memory (c.payload + i) = h.memory (c.payload + i)

/-- The same allocations with the same bytes. -/
structure Same (h h' : Heap) : Prop where
  live : ∀ c, c ∈ h'.live ↔ c ∈ h.live
  kept : Kept h h'

/-- One more allocation, at a pointer and with room for a size. -/
def Allocated (h : Heap) (ptr size : Nat) (h' : Heap) : Prop :=
  ∃ b, b.payload = ptr ∧ size ≤ b.size ∧ b ∉ h.live ∧ (∀ c, c ∈ h'.live ↔ c ∈ h.live ∨ c = b) ∧
    Kept h h'

variable {h h' : Heap} {b c : Block} {before after : List Block} {ptr size x : Nat}

variable {blocks : List Block} {k : Heap} {value : Nat}

theorem writeHeaders_outside (m : Memory) (hout : ∀ b ∈ blocks, x < b.address ∨ b.payload ≤ x) :
    writeHeaders blocks m x = m x := by
  induction blocks generalizing m with
  | nil => rfl
  | cons b blocks ih =>
    rw [writeHeaders, ih _ fun c hc => hout c (List.mem_cons_of_mem _ hc)]
    have hb := hout b List.mem_cons_self
    unfold payload memoryBlockSize at hb
    unfold writeBytes
    rw [if_neg]
    simp only [List.length_append, word, List.length_cons, List.length_nil]
    omega

theorem headers_kept (hlaid : Laid blocks) (hc : c ∈ blocks) (m : Memory) {i : Nat}
    (hi : i < c.size) :
    writeHeaders blocks m (c.payload + i) = m (c.payload + i) := by
  apply writeHeaders_outside
  intro b hb
  by_cases hbc : b = c
  · rw [hbc]
    omega
  · have happart := hlaid.disjoint hb hc hbc
    unfold stop payload at *
    omega

theorem mem_live : c ∈ h.live ↔ c ∈ h.blocks ∧ c.free = false := mem_livesOf

theorem usageAdded_used (hfits : h.usedPayloadBytes + size ≤ sizeMax) :
    (heapUsageAdded h size).usedPayloadBytes = h.usedPayloadBytes + size := by
  unfold heapUsageAdded
  rw [if_neg (by omega)]

theorem Same.refl (h : Heap) : Same h h := ⟨fun _ => Iff.rfl, fun _ _ _ _ => rfl⟩

theorem Same.trans (h1 : Same h h') (h2 : Same h' k) : Same h k :=
  ⟨fun c => (h2.live c).trans (h1.live c), fun c hc i hi =>
    (h2.kept c ((h1.live c).mpr hc) i hi).trans (h1.kept c hc i hi)⟩

theorem Same.allocated (h1 : Same h h') (h2 : Allocated h' ptr size k) :
    Allocated h ptr size k := by
  obtain ⟨b, hptr, hsize, hnew, hlive, hkept⟩ := h2
  refine ⟨b, hptr, hsize, fun hb => hnew ((h1.live b).mpr hb), fun c => ?_, fun c hc i hi => ?_⟩
  · rw [hlive, h1.live]
  · exact (hkept c ((h1.live c).mpr hc) i hi).trans (h1.kept c hc i hi)

theorem allocateBlock_spec (hgood : HeapGood h) (hgrid : size % 16 = 0)
    (hpositive : minAllocation ≤ size) (hsome : allocateBlock h size = some (ptr, h')) :
    HeapGood h' ∧ Allocated h ptr size h' ∧ ptr ≠ 0 := by
  obtain ⟨⟨before, b, after⟩, hbreak, heq⟩ := Option.map_eq_some_iff.mp hsome
  obtain ⟨hblocks, hfound, -⟩ := breakAt_some hbreak
  rw [Bool.and_eq_true, decide_eq_true_eq] at hfound
  obtain ⟨hfree, hle⟩ := hfound
  have hlaid := hgood.laid
  rw [hblocks] at hlaid
  have hb := hlaid.aligned b (by simp)
  obtain ⟨hmid, haddress, hroom, hrest, hlast, hcovers⟩ := split_spec hb hgrid hpositive hle
  obtain ⟨taken, htaken⟩ : ∃ t : Block, t = { (splitBlock b size).1 with free := false } := ⟨_, rfl⟩
  have htakenSize : (splitBlock b size).1.size = taken.size := by rw [htaken]
  dsimp only at heq
  rw [← htaken, htakenSize] at heq
  rw [← htaken] at hmid hlast hcovers
  have hlive : taken.free = false := by rw [htaken]
  have hlaid' : Laid (before ++ taken :: ((splitBlock b size).2 ++ after)) := by
    have hold : Laid (before ++ ([b] ++ after)) := hlaid
    refine hold.replace hmid (by simp) (by simp) (fun o ho m hm => ?_) fun o ho m hm => ?_
    · obtain rfl : b = o := by simpa using ho
      obtain rfl := Option.some.inj hm
      rw [htaken]
      exact ⟨haddress, nofun⟩
    · obtain rfl : b = o := by simpa using ho
      exact ⟨hlast m hm, fun _ => hfree⟩
  obtain ⟨rfl, rfl⟩ := Prod.mk.inj heq
  have hlives : livesOf (before ++ taken :: ((splitBlock b size).2 ++ after)) =
      livesOf before ++ taken :: livesOf after := by
    rw [livesOf_append, livesOf_cons, hlive, livesOf_append, hrest]
    rfl
  have holdLives : h.live = livesOf before ++ livesOf after := by
    show livesOf h.blocks = _
    rw [hblocks, livesOf_append, livesOf_cons, hfree, if_pos rfl]
  have hsum := hlaid'.lives_le
  rw [hlives] at hsum
  simp only [List.map_append, List.map_cons, List.sum_append, List.sum_cons] at hsum
  have hused := hgood.used
  rw [holdLives] at hused
  simp only [List.map_append, List.sum_append] at hused
  refine ⟨⟨hgood.frames, hgood.bound, hlaid', fun x => ?_, hgood.pinned, ?_⟩,
    ⟨taken, rfl, ?_, fun hold => ?_, fun c => ?_, fun c hc i hi => ?_⟩, ?_⟩
  · show Covers (before ++ taken :: ((splitBlock b size).2 ++ after)) x ↔ _
    refine Iff.trans ?_ (hgood.tiles x)
    have hx := hcovers x
    rw [hblocks, covers_append, covers_append, ← List.cons_append, covers_append, hx, covers_cons]
  · rw [usageAdded_used]
    · show h.usedPayloadBytes + taken.size =
        ((livesOf (before ++ taken :: ((splitBlock b size).2 ++ after))).map Block.size).sum
      rw [hlives]
      simp only [List.map_append, List.map_cons, List.sum_append, List.sum_cons]
      omega
    · show h.usedPayloadBytes + taken.size ≤ sizeMax
      omega
  · rw [htaken]
    exact hroom
  · rw [mem_live, hblocks] at hold
    obtain ⟨hmem, -⟩ := hold
    have hpairs := List.isChain_iff_pairwise.mp hlaid.chain
    have hbstop : b.address < b.stop := by
      unfold stop payload memoryBlockSize
      omega
    have htakenAddress : taken.address = b.address := by rw [htaken]; exact haddress
    have htb : taken = b := by
      by_contra hne
      have happart := hlaid.disjoint hmem (show b ∈ before ++ b :: after by simp) hne
      have htstop : taken.address < taken.stop := by
        unfold stop payload memoryBlockSize
        omega
      omega
    rw [htb, hfree] at hlive
    cases hlive
  · show c ∈ livesOf (before ++ taken :: ((splitBlock b size).2 ++ after)) ↔ c ∈ h.live ∨ c = taken
    rw [hlives, holdLives, List.mem_append, List.mem_append, List.mem_cons]
    tauto
  · have hmem : c ∈ before ++ taken :: ((splitBlock b size).2 ++ after) := by
      have hin : c ∈ livesOf (before ++ taken :: ((splitBlock b size).2 ++ after)) := by
        rw [hlives, List.mem_append, List.mem_cons]
        rw [holdLives, List.mem_append] at hc
        tauto
      exact (mem_livesOf.mp hin).1
    exact headers_kept hlaid' hmem h.memory hi
  · unfold payload memoryBlockSize
    omega

theorem alignUp_frame (h : ¬ sizeMax - (frameSize - 1) < value) :
    value ≤ alignUp value frameSize ∧ alignUp value frameSize % frameSize = 0 := by
  unfold sizeMax frameSize at *
  unfold alignUp
  refine ⟨?_, Nat.mul_mod_left _ _⟩
  rw [Nat.mod_eq_of_lt (by omega)]
  omega

theorem alignUp_grid (h : ¬ sizeMax - 15 < value) :
    value ≤ alignUp value 16 ∧ alignUp value 16 % 16 = 0 := by
  unfold sizeMax at h
  unfold alignUp
  refine ⟨?_, Nat.mul_mod_left _ _⟩
  rw [Nat.mod_eq_of_lt (by omega)]
  omega

theorem run_end {runStart pages n : Nat} (hend : runStart + pages ≤ n)
    (hbound : n * frameSize ≤ physicalMemoryLimit) :
    runStart * frameSize + pages * frameSize ≤ sizeMax := by
  have hlimit : physicalMemoryLimit ≤ sizeMax := by decide
  rw [← Nat.add_mul]
  exact (Nat.mul_le_mul_right _ hend).trans (hbound.trans hlimit)

theorem extendHeap_spec (hgood : HeapGood h) (size : Nat) :
    HeapGood (extendHeap h size).2 ∧ Same h (extendHeap h size).2 := by
  unfold extendHeap
  split
  next => exact ⟨hgood, Same.refl h⟩
  next =>
    dsimp only
    split
    next => exact ⟨hgood, Same.refl h⟩
    next hwanted =>
      obtain ⟨hge, hpages⟩ := alignUp_frame hwanted
      generalize alignUp (max (size + memoryBlockSize) heapGrowChunk) frameSize = arenaSize
        at hge hpages ⊢
      obtain ⟨pages, rfl⟩ : ∃ pages, arenaSize = pages * frameSize :=
        ⟨_, (Nat.div_mul_cancel (Nat.dvd_of_mod_eq_zero hpages)).symm⟩
      rw [Nat.mul_div_cancel _ (show 0 < frameSize by decide)]
      have hroom : memoryBlockSize + minAllocation ≤ pages * frameSize :=
        (show _ ≤ heapGrowChunk by decide).trans ((le_max_right _ _).trans hge)
      obtain ⟨hvalid, hkeeps⟩ := hgood.frames.reserveRun pages
      have hmoved : HeapGood { h with frames := (reserveContiguousFrames h.frames pages).2 } :=
        ⟨hvalid, by
          show FrameState.frameCount _ * _ ≤ _
          rw [hkeeps.count]
          exact hgood.bound, hgood.laid, hgood.tiles,
          fun a ha x hlow hhigh => hkeeps.pinned _ (hgood.pinned a ha x hlow hhigh), hgood.used⟩
      split
      next => exact ⟨hmoved, fun _ => Iff.rfl, fun _ _ _ _ => rfl⟩
      next hrun =>
        rcases reserveContiguous_spec h.frames pages with
          ⟨runStart, hreserve, hstart, hend, hfree⟩ | ⟨hzero, -⟩
        case inr => exact absurd (.inl hzero) hrun
        obtain ⟨-, -, -, hpinned⟩ := takeRun_spec hgood.frames hend hfree
        have hlimit := run_end hend hgood.bound
        rw [hreserve] at hmoved ⊢
        have hinRun : ∀ x, runStart * frameSize ≤ x → x < runStart * frameSize + pages * frameSize →
            runStart ≤ x / frameSize ∧ x / frameSize < runStart + pages := by
          intro x hlow hhigh
          rw [← Nat.add_mul] at hhigh
          exact ⟨(Nat.le_div_iff_mul_le (by decide)).mpr hlow,
            (Nat.div_lt_iff_lt_mul (by decide)).mpr hhigh⟩
        have hgrid : runStart * frameSize % 16 = 0 ∧ pages * frameSize % 16 = 0 := by
          unfold frameSize
          omega
        generalize hbegin : runStart * frameSize = arenaBegin at *
        generalize hsize : pages * frameSize = arenaSize at *
        -- no block has a byte of the run
        have hbeside : ∀ c ∈ h.blocks, ∀ x, c.Has x →
            ¬ (arenaBegin ≤ x ∧ x < arenaBegin + arenaSize) := by
          intro c hc x hx hin
          obtain ⟨a, ha, hlow, hhigh⟩ := (hgood.tiles x).mp ⟨c, hc, hx⟩
          have hpin := (hgood.pinned a ha x hlow hhigh).1
          obtain ⟨hfirst, hlast⟩ := hinRun x hin.1 hin.2
          rw [hfree _ hfirst hlast] at hpin
          cases hpin
        have hstop : (⟨arenaBegin, arenaSize - memoryBlockSize, true⟩ : Block).stop =
            arenaBegin + arenaSize := by
          simp only [stop, payload]
          omega
        have haligned : Aligned ⟨arenaBegin, arenaSize - memoryBlockSize, true⟩ := by
          refine ⟨hgrid.1, ?_, ?_, by rw [hstop]; exact hlimit⟩
          · show (arenaSize - memoryBlockSize) % 16 = 0
            unfold memoryBlockSize at hroom ⊢
            omega
          · show minAllocation ≤ arenaSize - memoryBlockSize
            omega
        have hsplit : Laid (h.blocks.takeWhile (fun a => decide (a.address < arenaBegin)) ++
            h.blocks.dropWhile fun a => decide (a.address < arenaBegin)) := by
          rw [List.takeWhile_append_dropWhile]
          exact hgood.laid
        obtain ⟨hbefore, hafter, -⟩ := hsplit.split
        have harena : 0 < arenaSize := by
          unfold memoryBlockSize at hroom
          omega
        have hprevious : ∀ p ∈ (h.blocks.takeWhile fun a => decide (a.address < arenaBegin)).getLast?,
            p.stop ≤ arenaBegin := by
          intro p hp
          have hmem := List.mem_of_getLast? hp
          have hlow : p.address < arenaBegin := by simpa using List.mem_takeWhile_imp hmem
          by_contra hover
          exact hbeside p (List.takeWhile_subset _ hmem) arenaBegin ⟨by omega, by omega⟩
            ⟨le_rfl, by omega⟩
        have hnext : ∀ n ∈ (h.blocks.dropWhile fun a => decide (a.address < arenaBegin)).head?,
            (⟨arenaBegin, arenaSize - memoryBlockSize, true⟩ : Block).stop ≤ n.address := by
          intro n hn
          have hmem := List.mem_of_head? hn
          have hnot := List.head?_dropWhile_not (fun a : Block => decide (a.address < arenaBegin))
            h.blocks
          rw [Option.mem_def.mp hn] at hnot
          have hhigh : ¬ n.address < arenaBegin := by simpa using hnot
          have hnstop : n.address < n.stop := by
            unfold stop payload memoryBlockSize
            omega
          rw [hstop]
          by_contra hover
          exact hbeside n (List.dropWhile_subset _ hmem) n.address ⟨le_rfl, hnstop⟩
            ⟨by omega, by omega⟩
        have hplace := place_spec rfl haligned hbefore hafter hprevious hnext
        obtain ⟨hlaid, hlives, hcovers⟩ := hplace
        rw [List.takeWhile_append_dropWhile] at hlives hcovers
        have hsame : ∀ c, c ∈ livesOf (insertHeapBlock
            ⟨arenaBegin, arenaSize - memoryBlockSize, true⟩ h.blocks) ↔ c ∈ h.live := by
          intro c
          have heq : livesOf (insertHeapBlock ⟨arenaBegin, arenaSize - memoryBlockSize, true⟩
              h.blocks) = h.live := hlives
          rw [heq]
        refine ⟨⟨hmoved.frames, hmoved.bound, hlaid, fun x => ?_, fun a ha x hlow hhigh => ?_, ?_⟩,
          hsame, fun c hc i hi => ?_⟩
        · refine (hcovers x).trans ?_
          show _ ↔ ∃ a ∈ (arenaBegin, arenaSize) :: h.arenas, _
          rw [List.exists_mem_cons_iff, hgood.tiles]
          refine or_congr_left ?_
          unfold Block.Has
          rw [hstop]
        · rcases List.mem_cons.mp ha with rfl | ha
          · obtain ⟨hfirst, hlast⟩ := hinRun x hlow hhigh
            exact hpinned _ hfirst hlast
          · exact hmoved.pinned a ha x hlow hhigh
        · exact hgood.used.trans (congrArg (fun l : List Block => (l.map Block.size).sum) hlives.symm)
        · exact headers_kept hlaid (mem_livesOf.mp ((hsame c).mpr hc)).1 h.memory hi

theorem attempts_spec (hgood : HeapGood h) (hgrid : size % 16 = 0)
    (hpositive : minAllocation ≤ size) (n : Nat) :
    HeapGood (attempts n h size).2 ∧
      ((attempts n h size).1 = 0 → Same h (attempts n h size).2) ∧
      ((attempts n h size).1 ≠ 0 →
        Allocated h (attempts n h size).1 size (attempts n h size).2) := by
  induction n generalizing h with
  | zero =>
    exact ⟨⟨hgood.frames, hgood.bound, hgood.laid, hgood.tiles, hgood.pinned, hgood.used⟩,
      fun _ => ⟨fun _ => Iff.rfl, fun _ _ _ _ => rfl⟩, fun hne => absurd rfl hne⟩
  | succ n ih =>
    unfold attempts
    cases hfound : allocateBlock h size with
    | some result =>
      obtain ⟨hnext, hallocated, hne⟩ := allocateBlock_spec hgood hgrid hpositive hfound
      exact ⟨hnext, fun hzero => absurd hzero hne, fun _ => hallocated⟩
    | none =>
      obtain ⟨hnext, hsame⟩ := extendHeap_spec hgood size
      rcases hextend : extendHeap h size with ⟨_ | _, h2⟩
      all_goals rw [hextend] at hnext hsame
      · exact ⟨⟨hnext.frames, hnext.bound, hnext.laid, hnext.tiles, hnext.pinned, hnext.used⟩,
          fun _ => ⟨hsame.live, hsame.kept⟩, fun hne => absurd rfl hne⟩
      · obtain ⟨hend, hzero, hne⟩ := ih hnext
        exact ⟨hend, fun hz => hsame.trans (hzero hz), fun hn => hsame.allocated (hne hn)⟩

theorem kMalloc_spec (hgood : HeapGood h) (size : Nat) :
    HeapGood (kMalloc h size).2 ∧
      ((kMalloc h size).1 = 0 → Same h (kMalloc h size).2) ∧
      ((kMalloc h size).1 ≠ 0 → Allocated h (kMalloc h size).1 size (kMalloc h size).2) := by
  unfold kMalloc
  split
  next => exact ⟨hgood, fun _ => Same.refl h, fun hne => absurd rfl hne⟩
  next hsize =>
    rw [not_or] at hsize
    obtain ⟨hle, hgrid⟩ := alignUp_grid hsize.2
    have hpositive : minAllocation ≤ alignUp size 16 := by
      unfold minAllocation
      omega
    obtain ⟨hend, hzero, hne⟩ := attempts_spec hgood hgrid hpositive 2
    refine ⟨hend, hzero, fun hn => ?_⟩
    obtain ⟨b, hptr, hroom, hrest⟩ := hne hn
    exact ⟨b, hptr, by omega, hrest⟩

theorem Laid.payload_inj (hlaid : Laid blocks) (hb : b ∈ blocks) (hc : c ∈ blocks)
    (heq : b.payload = c.payload) : b = c := by
  by_contra hne
  have happart := hlaid.disjoint hb hc hne
  unfold stop at happart
  unfold payload memoryBlockSize at *
  omega

theorem release_spec (hgood : HeapGood h) (hblocks : h.blocks = before ++ b :: after)
    (hlive : b.free = false) :
    let blocks := joinPrevious before (joinNext { b with free := true } after)
    HeapGood (heapUsageRemoved (h.relink blocks) b.size) ∧
      (∀ c, c ∈ livesOf blocks ↔ c ∈ h.live ∧ c ≠ b) ∧
      ∀ c ∈ h.live, c ≠ b → ∀ i < c.size,
        writeHeaders blocks h.memory (c.payload + i) = h.memory (c.payload + i) := by
  intro blocks
  have hlaid := hgood.laid
  rw [hblocks] at hlaid
  obtain ⟨hbefore, hrest, hjoin⟩ := hlaid.split
  obtain ⟨hb, hafter, hnext⟩ := hrest.uncons
  obtain ⟨hlaid', hlives, hcovers⟩ := place_spec (b := { b with free := true }) rfl
    ⟨hb.address, hb.size, hb.ge, hb.le⟩ hbefore hafter (fun p hp => (hjoin p hp b rfl).1)
    (fun n hn => (hnext n hn).1)
  have holdLives : h.live = livesOf before ++ b :: livesOf after := by
    show livesOf h.blocks = _
    rw [hblocks, livesOf_append, livesOf_cons, hlive]
    rfl
  have hnew : ∀ c, c ∈ livesOf blocks ↔ c ∈ h.live ∧ c ≠ b := by
    intro c
    show c ∈ livesOf (joinPrevious before (joinNext _ after)) ↔ _
    rw [hlives, livesOf_append, holdLives, List.mem_append, List.mem_append, List.mem_cons]
    have hnot : ∀ d, d ∈ before ∨ d ∈ after → d ≠ b := fun d hd => hlaid.ne_of_mem hd
    constructor
    · rintro (hc | hc)
      · exact ⟨.inl hc, hnot c (.inl (mem_livesOf.mp hc).1)⟩
      · exact ⟨.inr (.inr hc), hnot c (.inr (mem_livesOf.mp hc).1)⟩
    · rintro ⟨hc | hc | hc, hne⟩
      · exact .inl hc
      · exact absurd hc hne
      · exact .inr hc
  refine ⟨⟨hgood.frames, hgood.bound, hlaid', fun x => ?_, hgood.pinned, ?_⟩, hnew,
    fun c hc hne i hi => headers_kept hlaid' (mem_livesOf.mp ((hnew c).mpr ⟨hc, hne⟩)).1 _ hi⟩
  · refine (hcovers x).trans (Iff.trans ?_ (hgood.tiles x))
    rw [hblocks, covers_append, covers_append, covers_cons]
    show b.Has x ∨ _ ↔ _
    tauto
  · show h.usedPayloadBytes - b.size = ((livesOf blocks).map size).sum
    have hlivesEq : livesOf blocks = livesOf (before ++ after) := hlives
    have hused := hgood.used
    rw [holdLives] at hused
    rw [hlivesEq, livesOf_append]
    simp only [List.map_append, List.map_cons, List.sum_append, List.sum_cons] at hused ⊢
    omega

theorem kFree_spec (hgood : HeapGood h) (ptr : Nat) :
    HeapGood (kFree h ptr) ∧
      ((∀ b ∈ h.live, b.payload ≠ ptr) → kFree h ptr = h) ∧
      ∀ b ∈ h.live, b.payload = ptr → (∀ c, c ∈ (kFree h ptr).live ↔ c ∈ h.live ∧ c ≠ b) ∧
        ∀ c ∈ h.live, c ≠ b → ∀ i < c.size,
          (kFree h ptr).memory (c.payload + i) = h.memory (c.payload + i) := by
  unfold kFree
  split
  next hbad =>
    refine ⟨hgood, fun _ => rfl, fun b hb hptr => ?_⟩
    have hgrid := (hgood.laid.aligned b (mem_live.mp hb).1).address
    unfold payload memoryBlockSize at hptr
    omega
  next =>
    cases hfind : findAllocatedBlock h.blocks ptr with
    | none =>
      refine ⟨hgood, fun _ => rfl, fun b hb hptr => ?_⟩
      have hnot := breakAt_none hfind b (mem_live.mp hb).1
      rw [hptr, beq_self_eq_true] at hnot
      cases hnot
    | some found =>
      obtain ⟨before, d, after⟩ := found
      obtain ⟨hblocks, hd, -⟩ := breakAt_some hfind
      rw [beq_iff_eq] at hd
      have hmem : d ∈ h.blocks := by simp [hblocks]
      dsimp only
      cases hfree : d.free with
      | true =>
        rw [if_pos rfl]
        refine ⟨hgood, fun _ => rfl, fun b hb hptr => ?_⟩
        obtain ⟨hb, hbfree⟩ := mem_live.mp hb
        rw [hgood.laid.payload_inj hb hmem (hptr.trans hd.symm), hfree] at hbfree
        cases hbfree
      | false =>
        rw [if_neg (by simp)]
        obtain ⟨hend, hlives, hkept⟩ := release_spec hgood hblocks hfree
        refine ⟨hend, fun hnone => absurd hd (hnone d (mem_live.mpr ⟨hmem, hfree⟩)),
          fun b hb hptr => ?_⟩
        obtain rfl := hgood.laid.payload_inj (mem_live.mp hb).1 hmem (hptr.trans hd.symm)
        exact ⟨hlives, hkept⟩

end ReistOs.KernelHeap
