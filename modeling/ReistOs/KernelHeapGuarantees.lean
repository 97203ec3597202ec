import ReistOs.KernelHeapRuns

namespace ReistOs.KernelHeap

open Frames Block

/-- The allocation at one pointer has become one with room for a size, with the bytes that both
have; the others are as they were. -/
def Reallocated (h : Heap) (ptr newSize newPtr : Nat) (h' : Heap) : Prop :=
  ∃ b ∈ h.live, b.payload = ptr ∧ ∃ b', b'.payload = newPtr ∧ newSize ≤ b'.size ∧
    (∀ c, c ∈ h'.live ↔ (c ∈ h.live ∧ c ≠ b) ∨ c = b') ∧
    (∀ i < min b.size newSize, h'.memory (newPtr + i) = h.memory (ptr + i)) ∧
    ∀ c ∈ h.live, c ≠ b → ∀ i < c.size,
      h'.memory (c.payload + i) = h.memory (c.payload + i)

section Reallocation

variable {h : Heap} {b next : Block} {before rest : List Block} {ptr newSize alignedSize : Nat}

theorem grow_spec (hgood : HeapGood h) (hblocks : h.blocks = before ++ b :: next :: rest)
    (hlive : b.free = false) (hfree : next.free = true) (hadjacent : b.stop = next.address)
    (hgrid : alignedSize % 16 = 0) (hmore : b.size < alignedSize)
    (hroom : alignedSize ≤ b.size + memoryBlockSize + next.size) :
    let joined := splitBlock { b with size := b.size + (memoryBlockSize + next.size) } alignedSize
    let h' := heapUsageAdded (h.relink (before ++ joined.1 :: (joined.2 ++ rest)))
      (joined.1.size - b.size)
    HeapGood h' ∧ Reallocated h b.payload alignedSize b.payload h' := by
  intro joined h'
  have hlaid := hgood.laid
  rw [hblocks] at hlaid
  have hold : Laid (before ++ ([b, next] ++ rest)) := hlaid
  have hb := hlaid.aligned b (by simp)
  have hnext := hlaid.aligned next (by simp)
  have hstop : ({ b with size := b.size + (memoryBlockSize + next.size) } : Block).stop =
      next.stop := by
    simp only [stop, payload] at hadjacent ⊢
    omega
  have hsizes : b.size % 16 = 0 ∧ next.size % 16 = 0 := ⟨hb.size, hnext.size⟩
  have hge := hb.ge
  have hwhole : Aligned { b with size := b.size + (memoryBlockSize + next.size) } := by
    refine ⟨hb.address, ?_, ?_, by rw [hstop]; exact hnext.le⟩
    · show (b.size + (memoryBlockSize + next.size)) % 16 = 0
      unfold memoryBlockSize
      omega
    · show minAllocation ≤ b.size + (memoryBlockSize + next.size)
      omega
  obtain ⟨hmid, haddress, hwide, hrest, hlast, hcovers⟩ := split_spec hwhole hgrid (by omega)
    (show alignedSize ≤ b.size + (memoryBlockSize + next.size) by omega)
  have hjoinedLive : joined.1.free = false := by
    show (splitBlock _ _).1.free = false
    unfold splitBlock
    dsimp only
    split <;> exact hlive
  have htaken : ({ joined.1 with free := false } : Block) = joined.1 := by
    rw [← hjoinedLive]
  have haddress' : joined.1.address = b.address := haddress
  have hwide' : alignedSize ≤ joined.1.size := hwide
  have hmid' : Laid (joined.1 :: joined.2) := htaken ▸ hmid
  have hlast' : ∀ m ∈ (joined.1 :: joined.2).getLast?, m.stop = next.stop := fun m hm =>
    (hlast m (by rw [htaken]; exact hm)).trans hstop
  have hlaid' : Laid (before ++ joined.1 :: (joined.2 ++ rest)) := by
    refine hold.replace hmid' (by simp) (by simp) (fun o ho m hm => ?_) fun o ho m hm => ?_
    · obtain rfl : b = o := by simpa using ho
      obtain rfl := Option.some.inj hm
      exact ⟨haddress', fun hf => by rw [hjoinedLive] at hf; cases hf⟩
    · obtain rfl : next = o := by simpa using ho
      exact ⟨hlast' m hm, fun _ => hfree⟩
  have hlives : livesOf (before ++ joined.1 :: (joined.2 ++ rest)) =
      livesOf before ++ joined.1 :: livesOf rest := by
    have hnone : livesOf joined.2 = [] := hrest
    rw [livesOf_append, livesOf_cons, hjoinedLive, livesOf_append, hnone]
    rfl
  have holdLives : h.live = livesOf before ++ b :: livesOf rest := by
    show livesOf h.blocks = _
    rw [hblocks, livesOf_append, livesOf_cons, hlive, livesOf_cons, hfree]
    rfl
  have hsum := hlaid'.lives_le
  rw [hlives] at hsum
  have hused := hgood.used
  rw [holdLives] at hused
  simp only [List.map_append, List.map_cons, List.sum_append, List.sum_cons] at hsum hused
  have hpayload : joined.1.payload = b.payload := by
    unfold payload
    rw [haddress']
  have hmem : ∀ c ∈ h.live, c ≠ b → c ∈ before ++ joined.1 :: (joined.2 ++ rest) := by
    intro c hc hne
    have hin : c ∈ livesOf (before ++ joined.1 :: (joined.2 ++ rest)) := by
      rw [hlives, List.mem_append, List.mem_cons]
      rw [holdLives, List.mem_append, List.mem_cons] at hc
      tauto
    exact (mem_livesOf.mp hin).1
  refine ⟨⟨hgood.frames, hgood.bound, hlaid', fun x => ?_, hgood.pinned, ?_⟩,
    b, ?_, rfl, joined.1, hpayload, hwide', fun c => ?_, fun i hi => ?_, fun c hc hne i hi => ?_⟩
  · refine Iff.trans ?_ (hgood.tiles x)
    have hspan : ({ b with size := b.size + (memoryBlockSize + next.size) } : Block).Has x ↔
        b.Has x ∨ next.Has x := by
      unfold Block.Has
      rw [hstop]
      have hbs : b.address ≤ b.stop := by
        unfold stop payload
        omega
      have hns : next.address ≤ next.stop := by
        unfold stop payload
        omega
      show b.address ≤ x ∧ x < next.stop ↔ _
      omega
    have hx : Covers (joined.1 :: joined.2) x ↔ b.Has x ∨ next.Has x := by
      have hcut := hcovers x
      rw [htaken] at hcut
      exact hcut.trans hspan
    show Covers (before ++ joined.1 :: (joined.2 ++ rest)) x ↔ _
    rw [hblocks, covers_append, covers_append, ← List.cons_append, covers_append, hx, covers_cons,
      covers_cons, or_assoc]
  · show (heapUsageAdded _ _).usedPayloadBytes =
      ((livesOf (before ++ joined.1 :: (joined.2 ++ rest))).map size).sum
    rw [usageAdded_used, hlives]
    · simp only [List.map_append, List.map_cons, List.sum_append, List.sum_cons]
      show h.usedPayloadBytes + (joined.1.size - b.size) = _
      omega
    · show h.usedPayloadBytes + (joined.1.size - b.size) ≤ sizeMax
      omega
  · rw [holdLives]
    simp
  · show c ∈ livesOf (before ++ joined.1 :: (joined.2 ++ rest)) ↔ _
    have hnot : ∀ d, d ∈ before ∨ d ∈ rest → d ≠ b := fun d hd =>
      hlaid.ne_of_mem (hd.imp_right (List.mem_cons_of_mem _))
    rw [hlives, holdLives, List.mem_append, List.mem_append, List.mem_cons, List.mem_cons]
    constructor
    · rintro (hc | hc | hc)
      · exact .inl ⟨.inl hc, hnot c (.inl (mem_livesOf.mp hc).1)⟩
      · exact .inr hc
      · exact .inl ⟨.inr (.inr hc), hnot c (.inr (mem_livesOf.mp hc).1)⟩
    · rintro (⟨hc | hc | hc, hne⟩ | hc)
      · exact .inl hc
      · exact absurd hc hne
      · exact .inr (.inr hc)
      · exact .inr (.inl hc)
  · have hkept := headers_kept hlaid' (show joined.1 ∈ _ by simp) h.memory
      (show i < joined.1.size by omega)
    rw [hpayload] at hkept
    exact hkept
  · exact headers_kept hlaid' (hmem c hc hne) h.memory hi

/-- What `k_realloc` does for a pointer that is not null and a size that is not zero. -/
theorem kRealloc_spec (hgood : HeapGood h) (hptr : ptr ≠ 0) (hsize : newSize ≠ 0) :
    HeapGood (kRealloc h ptr newSize).2 ∧
      ((kRealloc h ptr newSize).1 = 0 → Same h (kRealloc h ptr newSize).2) ∧
      ((kRealloc h ptr newSize).1 ≠ 0 →
        Reallocated h ptr newSize (kRealloc h ptr newSize).1 (kRealloc h ptr newSize).2) := by
  unfold kRealloc
  rw [if_neg hptr, if_neg hsize]
  split
  next => exact ⟨hgood, fun _ => Same.refl h, fun hne => absurd rfl hne⟩
  next hlimit =>
    obtain ⟨hle, hgrid⟩ := alignUp_grid hlimit
    cases hfind : findAllocatedBlock h.blocks ptr with
    | none => exact ⟨hgood, fun _ => Same.refl h, fun hne => absurd rfl hne⟩
    | some found =>
      obtain ⟨before, b, after⟩ := found
      obtain ⟨hblocks, hb, -⟩ := breakAt_some hfind
      rw [beq_iff_eq] at hb
      have hmem : b ∈ h.blocks := by simp [hblocks]
      dsimp only
      by_cases hused : b.free = true
      · rw [if_pos hused]
        exact ⟨hgood, fun _ => Same.refl h, fun hne => absurd rfl hne⟩
      · have hfree : b.free = false := by simpa using hused
        have hlive : b ∈ h.live := mem_live.mpr ⟨hmem, hfree⟩
        rw [if_neg hused]
        split
        next hfits =>
          refine ⟨hgood, fun hzero => absurd hzero hptr, fun _ => ⟨b, hlive, hb, b, hb, by omega,
            fun c => ?_, fun _ _ => rfl, fun _ _ _ _ _ => rfl⟩⟩
          by_cases hc : c = b
          · simp [hc, hlive]
          · simp [hc]
        next hmore =>
          cases hgrows : growsInto b (alignUp newSize 16) after with
          | some grown =>
            obtain ⟨next, rest⟩ := grown
            have hfields : after = next :: rest ∧ next.free = true ∧ b.stop = next.address ∧
                alignUp newSize 16 ≤ b.size + memoryBlockSize + next.size := by
              cases after with
              | nil => cases hgrows
              | cons n others =>
                rw [growsInto] at hgrows
                split at hgrows
                next hjoin =>
                  obtain ⟨rfl, rfl⟩ := Prod.mk.inj (Option.some.inj hgrows)
                  simp only [Bool.and_eq_true, decide_eq_true_eq, blocksAreAdjacent,
                    beq_iff_eq] at hjoin
                  exact ⟨rfl, hjoin.1.1, hjoin.1.2, hjoin.2⟩
                next => cases hgrows
            obtain ⟨rfl, hnfree, hadjacent, hroom⟩ := hfields
            obtain ⟨hend, c, hc, hcptr, c', hptr', hsize', hlives, hbytes, hothers⟩ :=
              grow_spec hgood hblocks hfree hnfree hadjacent hgrid (by omega) hroom
            rw [hb] at hcptr hptr' hbytes
            exact ⟨hend, fun hzero => absurd hzero hptr, fun _ => ⟨c, hc, hcptr, c', hptr',
              by omega, hlives, fun i hi => hbytes i (by omega), hothers⟩⟩
          | none =>
            obtain ⟨hgood', hzero, hne⟩ := kMalloc_spec hgood (alignUp newSize 16)
            dsimp only
            split
            next h1 hmalloc =>
              rw [hmalloc] at hgood' hzero
              exact ⟨hgood', fun _ => hzero rfl, fun hn => absurd rfl hn⟩
            next p h1 hnot hmalloc =>
              have hp : p ≠ 0 := hnot
              rw [hmalloc] at hgood' hzero hne
              obtain ⟨nb, hnb, hroom, hnew, hlives, hkept⟩ := hne hp
              generalize hpayload : (List.range b.size).map (fun i => h1.memory (ptr + i)) = payload
              have hlength : payload.length = b.size := by
                rw [← hpayload, List.length_map, List.length_range]
              have hgood2 : HeapGood { h1 with memory := writeBytes h1.memory (p) payload } :=
                ⟨hgood'.frames, hgood'.bound, hgood'.laid, hgood'.tiles, hgood'.pinned, hgood'.used⟩
              obtain ⟨hend, -, hfreed⟩ := kFree_spec hgood2 ptr
              have hblive : b ∈ h1.live := (hlives b).mpr (.inl hlive)
              obtain ⟨hlives', hkept'⟩ := hfreed b hblive hb
              have hnbNe : nb ≠ b := fun heq => hnew (heq ▸ hlive)
              have hnbLive : nb ∈ h1.live := (hlives nb).mpr (.inr rfl)
              refine ⟨hend, fun hz => ?_, fun _ => ⟨b, hlive, hb, nb, hnb, by omega, fun c => ?_,
                fun i hi => ?_, fun c hc hcb i hi => ?_⟩⟩
              · exact absurd hz (hp)
              · rw [hlives']
                show (c ∈ h1.live ∧ c ≠ b) ↔ _
                rw [hlives]
                constructor
                · rintro ⟨hc | hc, hcb⟩
                  · exact .inl ⟨hc, hcb⟩
                  · exact .inr hc
                · rintro (⟨hc, hcb⟩ | hc)
                  · exact ⟨.inl hc, hcb⟩
                  · exact ⟨.inr hc, hc ▸ hnbNe⟩
              · have hcopied := hkept' nb hnbLive hnbNe i (by omega)
                have hnb' : nb.payload = p := hnb
                rw [hnb'] at hcopied
                refine hcopied.trans ?_
                show writeBytes h1.memory (p) payload (p + i) = _
                unfold writeBytes
                rw [if_pos ⟨by omega, by omega⟩, ← hpayload, List.getD_eq_getElem?_getD,
                  List.getElem?_map, List.getElem?_range (by omega)]
                show h1.memory (ptr + (p + i - (p))) = _
                rw [Nat.add_sub_cancel_left, ← hb]
                exact hkept b hlive i (by omega)
              · have hcLive : c ∈ h1.live := (hlives c).mpr (.inl hc)
                refine (hkept' c hcLive hcb i hi).trans ?_
                show writeBytes h1.memory (p) payload (c.payload + i) = _
                have hcnb : c ≠ nb := fun heq => hnew (heq ▸ hc)
                have happart := hgood'.laid.disjoint (mem_live.mp hcLive).1
                  (mem_live.mp hnbLive).1 hcnb
                have hnb' : nb.payload = p := hnb
                unfold writeBytes
                rw [if_neg]
                · exact hkept c hc i hi
                · unfold Block.stop at happart
                  unfold Block.payload memoryBlockSize at *
                  omega

end Reallocation

section Runs

variable {h : Heap}

theorem initialHeap_good {map : MemoryMap} {frames : FrameState} {heapBegin heapLimit : Nat}
    (hinit : initializeMemorySystem map = some (frames, heapBegin, heapLimit)) (memory : Memory) :
    HeapGood (initialHeap frames heapBegin heapLimit memory) := by
  obtain ⟨hvalid, -, hbound, hpinned, hlimit, hbegin, hpages, hroom⟩ := initialize_spec hinit
  have hsize : alignDown (heapLimit - heapBegin - memoryBlockSize) 16 =
      heapLimit - heapBegin - memoryBlockSize := by
    unfold alignDown memoryBlockSize frameSize at *
    omega
  have hstop : (⟨heapBegin, alignDown (heapLimit - heapBegin - memoryBlockSize) 16, true⟩ :
      Block).stop = heapLimit := by
    simp only [stop, payload, hsize]
    omega
  have haligned : Aligned
      ⟨heapBegin, alignDown (heapLimit - heapBegin - memoryBlockSize) 16, true⟩ := by
    refine ⟨hbegin, ?_, ?_, by rw [hstop]; exact hlimit⟩
    · exact Nat.mul_mod_left _ _
    · show minAllocation ≤ alignDown _ 16
      rw [hsize]
      omega
  refine ⟨hvalid, hbound, Laid.nil.cons haligned fun c hc => (by cases hc), fun x => ?_,
    fun a ha x hlow hhigh => ?_, rfl⟩
  · refine covers_cons.trans ?_
    rw [or_iff_left not_covers_nil]
    unfold Block.Has
    rw [hstop]
    show _ ↔ ∃ a ∈ [(heapBegin, heapLimit - heapBegin)], _
    simp only [List.mem_singleton, exists_eq_left]
    omega
  · obtain rfl : a = (heapBegin, heapLimit - heapBegin) := by
      simpa [initialHeap, Heap.relink] using ha
    refine hpinned _ ((Nat.div_mul_le_self x frameSize).trans_lt ?_)
    omega

theorem HeapGood.call (hgood : HeapGood h) (c : HeapCall) : HeapGood (h.call c) := by
  cases c with
  | malloc size => exact (kMalloc_spec hgood size).1
  | free ptr => exact (kFree_spec hgood ptr).1
  | realloc ptr newSize =>
    show HeapGood (kRealloc h ptr newSize).2
    by_cases hptr : ptr = 0
    · unfold kRealloc
      rw [if_pos hptr]
      exact (kMalloc_spec hgood newSize).1
    · by_cases hsize : newSize = 0
      · unfold kRealloc
        rw [if_neg hptr, if_pos hsize]
        exact (kFree_spec hgood ptr).1
      · exact (kRealloc_spec hgood hptr hsize).1
  | store address value =>
    unfold Heap.call
    dsimp only
    split
    next =>
      exact ⟨hgood.frames, hgood.bound, hgood.laid, hgood.tiles, hgood.pinned, hgood.used⟩
    next => exact hgood
  | frame c =>
    obtain ⟨hvalid, hkeeps⟩ := hgood.frames.call c
    refine ⟨hvalid, ?_, hgood.laid, hgood.tiles,
      fun a ha x hlow hhigh => hkeeps.pinned _ (hgood.pinned a ha x hlow hhigh), hgood.used⟩
    show (h.frames.call c).frameCount * frameSize ≤ physicalMemoryLimit
    rw [hkeeps.count]
    exact hgood.bound

theorem HeapGood.run (hgood : HeapGood h) (calls : List HeapCall) :
    HeapGood (calls.foldl Heap.call h) := by
  induction calls generalizing h with
  | nil => exact hgood
  | cons c calls ih => exact ih (hgood.call c)

end Runs

/-- The shape of the heap, and what the next call does to the allocations. -/
structure HeapSafe (h : Heap) : Prop where
  sorted : h.blocks.Pairwise fun a b => a.stop ≤ b.address
  apart : ∀ a ∈ h.blocks, ∀ b ∈ h.blocks, a.free = true → b.free = true → a.stop ≠ b.address
  tiles : ∀ x, (∃ b ∈ h.blocks, b.Has x) ↔ ∃ a ∈ h.arenas, a.1 ≤ x ∧ x < a.1 + a.2
  payloads : ∀ b ∈ h.live, b.payload % 16 = 0 ∧
    ∀ c ∈ h.live, b ≠ c → b.stop ≤ c.payload ∨ c.stop ≤ b.payload
  used : h.usedPayloadBytes = (h.live.map Block.size).sum
  malloc : ∀ size, ((kMalloc h size).1 = 0 → Same h (kMalloc h size).2) ∧
    ((kMalloc h size).1 ≠ 0 → Allocated h (kMalloc h size).1 size (kMalloc h size).2)
  refused : ∀ ptr, (∀ b ∈ h.live, b.payload ≠ ptr) → kFree h ptr = h
  released : ∀ b ∈ h.live, (∀ c, c ∈ (kFree h b.payload).live ↔ c ∈ h.live ∧ c ≠ b) ∧
    ∀ c ∈ h.live, c ≠ b → ∀ i < c.size,
      (kFree h b.payload).memory (c.payload + i) = h.memory (c.payload + i)
  realloc : ∀ ptr newSize, ptr ≠ 0 → newSize ≠ 0 →
    ((kRealloc h ptr newSize).1 = 0 → Same h (kRealloc h ptr newSize).2) ∧
    ((kRealloc h ptr newSize).1 ≠ 0 →
      Reallocated h ptr newSize (kRealloc h ptr newSize).1 (kRealloc h ptr newSize).2)

theorem HeapGood.safe {h : Heap} (hgood : HeapGood h) : HeapSafe h := by
  have hpairs := List.isChain_iff_pairwise.mp hgood.laid.chain
  have hstop : ∀ b : Block, b.address < b.stop := by
    intro b
    unfold stop payload memoryBlockSize
    omega
  refine ⟨hpairs.imp fun hab => hab.1, fun a ha b hb hafree hbfree heq => ?_, hgood.tiles,
    fun b hb => ⟨?_, fun c hc hne => ?_⟩, hgood.used, fun size => (kMalloc_spec hgood size).2,
    fun ptr => (kFree_spec hgood ptr).2.1, fun b hb => (kFree_spec hgood b.payload).2.2 b hb rfl,
    fun ptr newSize hptr hsize => (kRealloc_spec hgood hptr hsize).2⟩
  · have hsymm : Std.Symm fun a b : Block => Precedes a b ∨ Precedes b a :=
      ⟨fun _ _ hor => hor.symm⟩
    have ha' := hstop a
    have hb' := hstop b
    by_cases hab : a = b
    · rw [hab] at heq
      omega
    · have hboth : h.blocks.Pairwise fun a b => Precedes a b ∨ Precedes b a :=
        hpairs.imp fun hprecedes => Or.inl hprecedes
      rcases hboth.forall ha hb hab with hlt | hgt
      · exact hlt.2 hafree hbfree heq
      · have hle := hgt.1
        omega
  · have hgrid := (hgood.laid.aligned b (mem_live.mp hb).1).address
    unfold payload memoryBlockSize
    omega
  · have happart := hgood.laid.disjoint (mem_live.mp hb).1 (mem_live.mp hc).1 hne
    unfold payload at *
    omega

/-- Nothing is in use, and a size that fits an arena is served without another frame. -/
structure Whole (h : Heap) : Prop where
  unused : h.usedPayloadBytes = 0
  serves : ∀ a ∈ h.arenas, ∀ size ≠ 0, memoryBlockSize + size ≤ a.2 →
    (kMalloc h size).1 ≠ 0 ∧ (kMalloc h size).2.frames = h.frames

section Emptied

variable {h : Heap} {a : Nat × Nat}

theorem HeapGood.one_piece (hgood : HeapGood h) (hidle : h.live = []) (ha : a ∈ h.arenas) (hsome : 0 < a.2) :
    ∃ b ∈ h.blocks, b.free = true ∧ b.address ≤ a.1 ∧ a.1 + a.2 ≤ b.stop := by
  have hfree : ∀ b ∈ h.blocks, b.free = true := by
    intro b hb
    by_contra hused
    have hlive : b ∈ h.live := mem_live.mpr ⟨hb, by simpa using hused⟩
    rw [hidle] at hlive
    cases hlive
  obtain ⟨b, hb, hlow, hhigh⟩ := (hgood.tiles a.1).mpr ⟨a, ha, le_refl _, by omega⟩
  refine ⟨b, hb, hfree b hb, hlow, ?_⟩
  by_contra hend
  obtain ⟨c, hc, hbefore, hbehind⟩ := (hgood.tiles b.stop).mpr ⟨a, ha, by omega, by omega⟩
  have hne : b ≠ c := by
    rintro rfl
    omega
  have hmeets : b.stop = c.address := by
    have happart := hgood.laid.disjoint hb hc hne
    omega
  exact hgood.safe.apart b hb c hc (hfree b hb) (hfree c hc) hmeets

theorem HeapGood.whole (hgood : HeapGood h) (hidle : h.live = []) : Whole h := by
  refine ⟨by rw [hgood.used, hidle]; rfl, fun a ha size hsize hfits => ?_⟩
  obtain ⟨b, hb, hfree, hlow, hend⟩ := hgood.one_piece hidle ha (by omega)
  have hwide := (hgood.laid.aligned b hb).size
  have hle := (hgood.laid.aligned b hb).le
  unfold stop payload memoryBlockSize at *
  have hargs : ¬ (size = 0 ∨ sizeMax - 15 < size) := by omega
  obtain ⟨hlarger, hgrid⟩ := alignUp_grid (not_or.mp hargs).2
  have hroom : alignUp size 16 ≤ b.size := by
    unfold alignUp sizeMax at *
    rw [Nat.mod_eq_of_lt (by omega)]
    omega
  unfold kMalloc
  rw [if_neg hargs]
  unfold attempts
  cases hfound : allocateBlock h (alignUp size 16) with
  | none =>
    have hpassed := breakAt_none (Option.map_eq_none_iff.mp hfound) b hb
    simp [hfree, hroom] at hpassed
  | some result =>
    have hspec := allocateBlock_spec hgood hgrid (by unfold minAllocation; omega) hfound
    obtain ⟨found, -, rfl⟩ := Option.map_eq_some_iff.mp hfound
    exact ⟨hspec.2.2, rfl⟩

end Emptied

/-- However a run went, the heap is whole again once nothing is allocated. -/
theorem emptied_heap_whole {map : MemoryMap} {frames : FrameState} {heapBegin heapLimit : Nat}
    (hinit : initializeMemorySystem map = some (frames, heapBegin, heapLimit)) (memory : Memory)
    (calls : List HeapCall)
    (hidle : (calls.foldl Heap.call (initialHeap frames heapBegin heapLimit memory)).live = []) :
    Whole (calls.foldl Heap.call (initialHeap frames heapBegin heapLimit memory)) :=
  ((initialHeap_good hinit memory).run calls).whole hidle

theorem emptied_hole_whole : ∃ frames heapBegin heapLimit,
    initializeMemorySystem holeMap = some (frames, heapBegin, heapLimit) ∧
      Whole ([HeapCall.malloc 100, .malloc 20, .free 65584, .free 65712].foldl Heap.call
        (initialHeap frames heapBegin heapLimit fun _ => 0)) := by
  have hidle : ((initializeMemorySystem holeMap).map fun r =>
      ([HeapCall.malloc 100, .malloc 20, .free 65584, .free 65712].foldl Heap.call
        (initialHeap r.1 r.2.1 r.2.2 fun _ => 0)).live) = some [] := by decide +kernel
  obtain ⟨⟨frames, heapBegin, heapLimit⟩, hinit, hempty⟩ := Option.map_eq_some_iff.mp hidle
  exact ⟨frames, heapBegin, heapLimit, hinit, emptied_heap_whole hinit _ _ hempty⟩

end ReistOs.KernelHeap
