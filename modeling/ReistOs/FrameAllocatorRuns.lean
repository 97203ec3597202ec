import ReistOs.FrameAllocator

namespace ReistOs.Frames

open FrameState

/-- What a frame of the bitmaps is: outside the usable regions, or one of the three kinds of a
managed frame. -/
inductive FrameKind
  | unmanaged
  | free
  | reserved
  | allocated
  deriving DecidableEq

def kindOf (usable used reserved : Bool) : FrameKind :=
  if !usable then .unmanaged else if !used then .free else if reserved then .reserved else .allocated

def FrameState.kind (s : FrameState) (frame : Nat) : FrameKind :=
  kindOf (s.usable frame) (s.testFrame frame) (s.testReserved frame)

def FrameState.framesOf (s : FrameState) (k : FrameKind) : Finset Nat :=
  (Finset.range s.frameCount).filter fun frame => s.kind frame = k

def FrameState.managed (s : FrameState) : Finset Nat :=
  (Finset.range s.frameCount).filter fun frame => s.usable frame = true

def FrameState.counter (s : FrameState) : FrameKind → Nat
  | .unmanaged => 0
  | .free => s.freeFrameCount
  | .reserved => s.reservedFrameCount
  | .allocated => s.allocatedFrameCount

/-- The bitmaps agree with the regions and the counters with the bitmaps. -/
structure FramesValid (s : FrameState) : Prop where
  length : s.reservedBitmap.length = s.frameCount
  hole : ∀ frame < s.frameCount, s.usable frame = false →
    s.testFrame frame = true ∧ s.testReserved frame = false
  reserved_set : ∀ frame < s.frameCount, s.testReserved frame = true → s.testFrame frame = true
  managed_eq : s.managedFrameCount = s.managed.card
  counter_eq : ∀ k, k ≠ .unmanaged → s.counter k = (s.framesOf k).card

section Steps

variable {s s' : FrameState} {frame first stop count : Nat} {k1 k2 k : FrameKind} {used : Bool}

theorem getD_set (bits : List Bool) (i j : Nat) (b : Bool) (hi : i < bits.length) :
    (bits.set i b).getD j true = if j = i then b else bits.getD j true := by
  rw [List.getD_eq_getElem?_getD, List.getElem?_set, List.getD_eq_getElem?_getD]
  by_cases h : j = i
  · rw [if_pos h.symm, if_pos h, if_pos hi, Option.getD_some]
  · rw [if_neg (Ne.symm h), if_neg h]

theorem card_moved {n : Nat} {kind kind' : Nat → FrameKind} (hframe : frame < n)
    (hkind : kind frame = k1) (hne : k1 ≠ k2)
    (hmoved : ∀ g < n, kind' g = if g = frame then k2 else kind g) (k : FrameKind) :
    ((Finset.range n).filter fun g => kind' g = k).card + (if k = k1 then 1 else 0) =
      ((Finset.range n).filter fun g => kind g = k).card + (if k = k2 then 1 else 0) := by
  by_cases hto : k = k2
  · subst hto
    have hset : ((Finset.range n).filter fun g => kind' g = k) =
        insert frame ((Finset.range n).filter fun g => kind g = k) := by
      ext g
      simp only [Finset.mem_filter, Finset.mem_range, Finset.mem_insert]
      by_cases hg : g = frame
      · subst hg
        simp [hframe, hmoved g hframe]
      · constructor
        · rintro ⟨hn, h⟩
          rw [hmoved g hn, if_neg hg] at h
          exact .inr ⟨hn, h⟩
        · rintro (h | ⟨hn, h⟩)
          · exact absurd h hg
          · exact ⟨hn, by rw [hmoved g hn, if_neg hg, h]⟩
    rw [hset, Finset.card_insert_of_notMem (by simp [hkind, hne]), if_neg hne.symm, if_pos rfl]
  · rw [if_neg hto]
    by_cases hfrom : k = k1
    · subst hfrom
      have hset : ((Finset.range n).filter fun g => kind g = k) =
          insert frame ((Finset.range n).filter fun g => kind' g = k) := by
        ext g
        simp only [Finset.mem_filter, Finset.mem_range, Finset.mem_insert]
        by_cases hg : g = frame
        · subst hg
          simp [hframe, hkind]
        · constructor
          · rintro ⟨hn, h⟩
            exact .inr ⟨hn, by rw [hmoved g hn, if_neg hg, h]⟩
          · rintro (h | ⟨hn, h⟩)
            · exact absurd h hg
            · rw [hmoved g hn, if_neg hg] at h
              exact ⟨hn, h⟩
      have hout : frame ∉ (Finset.range n).filter fun g => kind' g = k := by
        simp [hmoved frame hframe, hne.symm]
      rw [hset, Finset.card_insert_of_notMem hout, if_pos rfl]
    · rw [if_neg hfrom]
      congr 2
      apply Finset.filter_congr
      intro g hg
      rw [hmoved g (Finset.mem_range.mp hg)]
      split
      next hgf =>
        rw [hgf, hkind]
        exact ⟨fun h => absurd h.symm hto, fun h => absurd h.symm hfrom⟩
      next => rfl

/-- The bits of one frame are set and nothing else is. -/
structure Sets (s : FrameState) (frame : Nat) (used reserved : Bool) (s' : FrameState) : Prop where
  map : s'.map = s.map
  count : s'.frameCount = s.frameCount
  length : s'.reservedBitmap.length = s.reservedBitmap.length
  used : ∀ g, s'.testFrame g = if g = frame then used else s.testFrame g
  reserved : ∀ g, s'.testReserved g = if g = frame then reserved else s.testReserved g

variable {reserved : Bool}

theorem Sets.usable (h : Sets s frame used reserved s') (g : Nat) : s'.usable g = s.usable g := by
  unfold FrameState.usable
  rw [h.map]

theorem Sets.kind (h : Sets s frame used reserved s') (husable : s.usable frame = true) (g : Nat) :
    s'.kind g = if g = frame then kindOf true used reserved else s.kind g := by
  unfold FrameState.kind
  rw [h.usable, h.used, h.reserved]
  split
  next hg => rw [hg, husable]
  next => rfl

theorem card_framesOf_pos (hframe : frame < s.frameCount) (hkind : s.kind frame = k) :
    0 < (s.framesOf k).card :=
  Finset.card_pos.mpr ⟨frame, by simp [framesOf, hframe, hkind]⟩

theorem FramesValid.move (h : FramesValid s) (hsets : Sets s frame used reserved s')
    (hframe : frame < s.frameCount) (husable : s.usable frame = true) (hkind : s.kind frame = k1)
    (hne : k1 ≠ kindOf true used reserved) (hused : reserved = true → used = true)
    (hmanaged : s'.managedFrameCount = s.managedFrameCount)
    (hcounts : ∀ m, m ≠ .unmanaged → s'.counter m + (if m = k1 then 1 else 0) =
      s.counter m + (if m = kindOf true used reserved then 1 else 0)) : FramesValid s' := by
  have hcard : ∀ m, (s'.framesOf m).card + (if m = k1 then 1 else 0) =
      (s.framesOf m).card + (if m = kindOf true used reserved then 1 else 0) := by
    intro m
    unfold framesOf
    rw [hsets.count]
    exact card_moved hframe hkind hne (fun g _ => hsets.kind husable g) m
  refine ⟨?_, ?_, ?_, ?_, fun m hm => ?_⟩
  · rw [hsets.length, hsets.count]
    exact h.length
  · intro g hg hhole
    rw [hsets.count] at hg
    rw [hsets.usable] at hhole
    have hother : g ≠ frame := fun heq => by rw [heq, husable] at hhole; cases hhole
    rw [hsets.used, hsets.reserved, if_neg hother, if_neg hother]
    exact h.hole g hg hhole
  · intro g hg
    rw [hsets.count] at hg
    rw [hsets.used, hsets.reserved]
    split
    next => exact hused
    next => exact h.reserved_set g hg
  · rw [hmanaged, h.managed_eq]
    unfold managed
    rw [hsets.count]
    congr 2
    funext g
    rw [hsets.usable]
  · have hcount := hcounts m hm
    have hmoved := hcard m
    have heq := h.counter_eq m hm
    omega

def FrameState.Pinned (s : FrameState) (frame : Nat) : Prop :=
  s.testFrame frame = true ∧ (s.usable frame = false ∨ s.testReserved frame = true)

/-- Regions and size are the same, and what was pinned is. -/
structure Keeps (s s' : FrameState) : Prop where
  map : s'.map = s.map
  count : s'.frameCount = s.frameCount
  pinned : ∀ g, s.Pinned g → s'.Pinned g

theorem Keeps.refl (s : FrameState) : Keeps s s := ⟨rfl, rfl, fun _ h => h⟩

theorem Keeps.trans {t : FrameState} (h : Keeps s t) (h' : Keeps t s') : Keeps s s' :=
  ⟨h'.map.trans h.map, h'.count.trans h.count, fun g hg => h'.pinned g (h.pinned g hg)⟩

theorem Sets.keeps (h : Sets s frame used reserved s')
    (hpinned : s.Pinned frame → used = true ∧ reserved = true) : Keeps s s' := by
  refine ⟨h.map, h.count, fun g hg => ?_⟩
  unfold FrameState.Pinned at *
  rw [h.used, h.reserved, h.usable]
  by_cases hframe : g = frame
  · rw [if_pos hframe, if_pos hframe]
    rw [hframe] at hg
    obtain ⟨hused, hreserved⟩ := hpinned hg
    exact ⟨hused, .inr hreserved⟩
  · rw [if_neg hframe, if_neg hframe]
    exact hg

theorem Sets.pinned (h : Sets s frame true true s') : s'.Pinned frame :=
  ⟨by rw [h.used, if_pos rfl], .inr (by rw [h.reserved, if_pos rfl])⟩

theorem pinned_beyond (h : FramesValid s) (hframe : s.frameCount ≤ frame) : s.Pinned frame := by
  unfold FrameState.Pinned testFrame testReserved
  have hlength := h.length
  rw [List.getD_eq_getElem?_getD, List.getD_eq_getElem?_getD, List.getElem?_eq_none hframe,
    List.getElem?_eq_none (by omega)]
  exact ⟨rfl, .inr rfl⟩

theorem reserveFrame_spec (h : FramesValid s) (hframe : frame < s.frameCount) :
    FramesValid (reserveFrame s frame) ∧ Keeps s (reserveFrame s frame) ∧
      (reserveFrame s frame).Pinned frame := by
  have hlength := h.length
  unfold reserveFrame
  split
  next hskip =>
    refine ⟨h, Keeps.refl s, ?_⟩
    rcases (Bool.or_eq_true _ _).mp hskip with hhole | hreserved
    · rw [Bool.not_eq_true'] at hhole
      exact ⟨(h.hole frame hframe hhole).1, .inl hhole⟩
    · exact ⟨h.reserved_set frame hframe hreserved, .inr hreserved⟩
  next hgo =>
    simp only [Bool.or_eq_true, Bool.not_eq_true', not_or, Bool.not_eq_false,
      Bool.not_eq_true] at hgo
    obtain ⟨husable, hreserved⟩ := hgo
    have hused : ∀ g, (s.frameBitmap.set frame true).getD g true =
        if g = frame then true else s.frameBitmap.getD g true :=
      fun g => getD_set _ _ _ _ hframe
    have hres : ∀ g, (s.reservedBitmap.set frame true).getD g true =
        if g = frame then true else s.reservedBitmap.getD g true :=
      fun g => getD_set _ _ _ _ (by omega)
    split
    next hfree =>
      rw [Bool.not_eq_true'] at hfree
      have hkind : s.kind frame = .free := by
        unfold kind
        rw [husable, hfree]
        rfl
      have hpositive := card_framesOf_pos hframe hkind
      have hcounter := h.counter_eq .free (by decide)
      have hsets : Sets s frame true true
          { ({ s.setFrame frame with freeFrameCount := s.freeFrameCount - 1 } :
              FrameState).setReserved frame with
            reservedFrameCount := s.reservedFrameCount + 1 } :=
        ⟨rfl, List.length_set, List.length_set, hused, hres⟩
      refine ⟨h.move hsets hframe husable hkind (by decide) (fun _ => rfl) rfl ?_,
        hsets.keeps fun _ => ⟨rfl, rfl⟩, hsets.pinned⟩
      · intro m hm
        cases m with
        | unmanaged => exact absurd rfl hm
        | free =>
          show s.freeFrameCount - 1 + 1 = s.freeFrameCount + 0
          have hsame : s.freeFrameCount = (s.framesOf .free).card := hcounter
          omega
        | reserved => rfl
        | allocated => rfl
    next hset =>
      rw [Bool.not_eq_true, Bool.not_eq_false'] at hset
      have hkind : s.kind frame = .allocated := by
        unfold kind
        rw [husable, hset, hreserved]
        rfl
      have hpositive := card_framesOf_pos hframe hkind
      have hcounter := h.counter_eq .allocated (by decide)
      have hsets : Sets s frame true true
          { ({ s with allocatedFrameCount := s.allocatedFrameCount - 1 } :
              FrameState).setReserved frame with
            reservedFrameCount := s.reservedFrameCount + 1 } := by
        refine ⟨rfl, rfl, List.length_set, fun g => ?_, hres⟩
        show s.testFrame g = _
        split
        next hg => rw [hg, hset]
        next => rfl
      refine ⟨h.move hsets hframe husable hkind (by decide) (fun _ => rfl) rfl ?_,
        hsets.keeps fun _ => ⟨rfl, rfl⟩, hsets.pinned⟩
      · intro m hm
        cases m with
        | unmanaged => exact absurd rfl hm
        | free => rfl
        | reserved => rfl
        | allocated =>
          show s.allocatedFrameCount - 1 + 1 = s.allocatedFrameCount + 0
          have hsame : s.allocatedFrameCount = (s.framesOf .allocated).card := hcounter
          omega

theorem reserveFrames_spec {frames : List Nat} (h : FramesValid s)
    (hframes : ∀ f ∈ frames, f < s.frameCount) :
    FramesValid (frames.foldl reserveFrame s) ∧ Keeps s (frames.foldl reserveFrame s) ∧
      ∀ f ∈ frames, (frames.foldl reserveFrame s).Pinned f := by
  induction frames generalizing s with
  | nil => exact ⟨h, Keeps.refl s, fun f hf => (by cases hf)⟩
  | cons f frames ih =>
    obtain ⟨hvalid, hkeeps, hpinned⟩ := reserveFrame_spec h (hframes f List.mem_cons_self)
    obtain ⟨hend, hrest, hall⟩ := ih hvalid fun g hg => by
      rw [hkeeps.count]
      exact hframes g (List.mem_cons_of_mem _ hg)
    refine ⟨hend, hkeeps.trans hrest, fun g hg => ?_⟩
    rcases List.mem_cons.mp hg with rfl | hg
    · exact hrest.pinned _ hpinned
    · exact hall g hg

theorem reserveFrameRange_spec (h : FramesValid s) (r : PhysicalRegion) :
    FramesValid (reserveFrameRange s r) ∧ Keeps s (reserveFrameRange s r) := by
  unfold reserveFrameRange
  split
  next => exact ⟨h, Keeps.refl s⟩
  next =>
    obtain ⟨hvalid, hkeeps, -⟩ := @reserveFrames_spec s (List.range' (r.base / frameSize)
      (min ((min r.stop physicalMemoryLimit + frameSize - 1) / frameSize) s.frameCount -
        r.base / frameSize)) h fun f hf => by
        rw [List.mem_range'_1] at hf
        omega
    exact ⟨hvalid, hkeeps⟩

theorem reserveBelow (h : FramesValid s) (hn : s.frameCount * frameSize ≤ physicalMemoryLimit)
    {limit : Nat} (hlimit : limit ≤ sizeMax) :
    ∀ g, g * frameSize < limit → (reserveFrameRange s ⟨0, limit⟩).Pinned g := by
  intro g hg
  obtain ⟨hvalid, hkeeps⟩ := reserveFrameRange_spec h ⟨0, limit⟩
  rcases Nat.lt_or_ge g s.frameCount with hlt | hge
  · have hstop : (⟨0, limit⟩ : PhysicalRegion).stop = limit := by
      unfold sizeMax at hlimit
      show (if 0xFFFFFFFFFFFFFFFF - 0 < limit then _ else 0 + limit) = limit
      rw [if_neg (by omega), Nat.zero_add]
    have hcond : ¬ (physicalMemoryLimit ≤ (⟨0, limit⟩ : PhysicalRegion).base ∨
        (⟨0, limit⟩ : PhysicalRegion).length = 0) := by
      show ¬ (0x40000000 ≤ 0 ∨ limit = 0)
      omega
    unfold reserveFrameRange
    rw [if_neg hcond, hstop]
    refine (reserveFrames_spec h (fun f hf => ?_)).2.2 g ?_
    · rw [List.mem_range'_1] at hf
      omega
    · rw [List.mem_range'_1]
      unfold physicalMemoryLimit frameSize at *
      simp only
      omega
  · exact pinned_beyond hvalid (by rw [hkeeps.count]; exact hge)

end Steps

variable {s : FrameState} {frame n : Nat}

/-- The bitmaps while pages are released: a page is used or free, and both counters count the free
ones. -/
structure Releasing (n : Nat) (s : FrameState) : Prop where
  count : s.frameCount = n
  reserved : s.reservedBitmap = List.replicate n false
  managed_eq : s.managedFrameCount =
    ((Finset.range n).filter fun g => kindOf true (s.testFrame g) false = .free).card
  free_eq : s.freeFrameCount = s.managedFrameCount
  none_reserved : s.reservedFrameCount = 0
  none_allocated : s.allocatedFrameCount = 0

theorem releaseFrame_spec (h : Releasing n s) (hframe : frame < n) :
    Releasing n (releaseFrame s frame) ∧ (releaseFrame s frame).map = s.map ∧
      ∀ g, (releaseFrame s frame).testFrame g = if g = frame then false else s.testFrame g := by
  have hcount := h.count
  unfold releaseFrame
  split
  next hset =>
    have hbits : ∀ g, (s.frameBitmap.set frame false).getD g true =
        if g = frame then false else s.testFrame g :=
      fun g => getD_set _ _ _ _ (by unfold frameCount at hcount; omega)
    have hmoved := @card_moved frame .allocated .free _
      (fun g => kindOf true (s.testFrame g) false)
      (fun g => kindOf true ((s.frameBitmap.set frame false).getD g true) false) hframe
      (by rw [hset]; rfl) (by decide) (fun g _ => by rw [hbits]; split <;> rfl) .free
    refine ⟨⟨List.length_set.trans hcount, h.reserved, ?_, congrArg (· + 1) h.free_eq,
      h.none_reserved, h.none_allocated⟩, rfl, hbits⟩
    show s.managedFrameCount + 1 = _
    rw [if_neg (by decide), if_pos rfl, ← h.managed_eq] at hmoved
    exact hmoved.symm
  next hclear =>
    refine ⟨h, rfl, fun g => ?_⟩
    split
    next hg => rw [hg]; simpa using hclear
    next => rfl

theorem releaseFrames_spec {frames : List Nat} (h : Releasing n s) (hframes : ∀ f ∈ frames, f < n) :
    Releasing n (frames.foldl releaseFrame s) ∧ (frames.foldl releaseFrame s).map = s.map ∧
      ∀ g, (frames.foldl releaseFrame s).testFrame g =
        if g ∈ frames then false else s.testFrame g := by
  induction frames generalizing s with
  | nil => exact ⟨h, rfl, fun g => rfl⟩
  | cons f frames ih =>
    obtain ⟨hone, hmap, hbits⟩ := releaseFrame_spec h (hframes f List.mem_cons_self)
    obtain ⟨hall, hmap', hbits'⟩ := ih hone fun g hg => hframes g (List.mem_cons_of_mem _ hg)
    refine ⟨hall, hmap'.trans hmap, fun g => ?_⟩
    rw [List.foldl_cons, hbits', hbits]
    by_cases hg : g = f
    · simp [hg]
    · simp [hg]

def PhysicalRegion.Covers (r : PhysicalRegion) (frame : Nat) : Prop :=
  r.base ≤ frame * frameSize ∧ frame * frameSize + frameSize ≤ r.stop

theorem releaseRegion_spec (h : Releasing n s) (hn : n * frameSize ≤ physicalMemoryLimit)
    (r : PhysicalRegion) :
    Releasing n (releaseRegion s r) ∧ (releaseRegion s r).map = s.map ∧
      ∀ g < n, (releaseRegion s r).testFrame g = false ↔ s.testFrame g = false ∨ r.Covers g := by
  have hcount := h.count
  unfold frameSize physicalMemoryLimit at hn
  unfold releaseRegion
  split
  next hbeyond =>
    refine ⟨h, rfl, fun g hg => ⟨.inl, ?_⟩⟩
    rintro (hclear | ⟨hbase, -⟩)
    · exact hclear
    · unfold frameSize at hbase
      unfold physicalMemoryLimit at hbeyond
      omega
  next hbelow =>
    obtain ⟨hall, hmap, hbits⟩ := @releaseFrames_spec _ _ (List.range'
      ((r.base + frameSize - 1) / frameSize)
      (min (min r.stop physicalMemoryLimit / frameSize) s.frameCount -
        (r.base + frameSize - 1) / frameSize)) h fun f hf => by
        rw [List.mem_range'_1] at hf
        omega
    refine ⟨hall, hmap, fun g hg => ?_⟩
    have hmem : g ∈ List.range' ((r.base + frameSize - 1) / frameSize)
        (min (min r.stop physicalMemoryLimit / frameSize) s.frameCount -
          (r.base + frameSize - 1) / frameSize) ↔ r.Covers g := by
      rw [List.mem_range'_1, hcount]
      unfold PhysicalRegion.Covers frameSize physicalMemoryLimit
      omega
    rw [hbits]
    by_cases hcovers : r.Covers g
    · rw [if_pos (hmem.mpr hcovers)]
      exact ⟨fun _ => .inr hcovers, fun _ => rfl⟩
    · rw [if_neg (mt hmem.mp hcovers)]
      exact ⟨.inl, fun h => h.resolve_right hcovers⟩

variable {regions : List PhysicalRegion} {map : MemoryMap} {metadataStart metadataEnd : Nat}

theorem releaseRegions_spec (h : Releasing n s) (hn : n * frameSize ≤ physicalMemoryLimit) :
    Releasing n (regions.foldl releaseRegion s) ∧
      (regions.foldl releaseRegion s).map = s.map ∧
      ∀ g < n, (regions.foldl releaseRegion s).testFrame g = false ↔
        s.testFrame g = false ∨ ∃ r ∈ regions, r.Covers g := by
  induction regions generalizing s with
  | nil => exact ⟨h, rfl, fun g _ => by simp⟩
  | cons r regions ih =>
    obtain ⟨hone, hmap, hbits⟩ := releaseRegion_spec h hn r
    obtain ⟨hall, hmap', hbits'⟩ := ih hone
    refine ⟨hall, hmap'.trans hmap, fun g hg => ?_⟩
    rw [List.foldl_cons, hbits' g hg, hbits g hg, or_assoc, List.exists_mem_cons_iff]

theorem addressIsUsable_iff (hn : n * frameSize ≤ physicalMemoryLimit) (hframe : frame < n) :
    addressIsUsable map (frame * frameSize) = true ↔ ∃ r ∈ map.usable, r.Covers frame := by
  unfold frameSize physicalMemoryLimit at hn
  unfold addressIsUsable PhysicalRegion.Covers
  rw [if_neg (by unfold uint64Max frameSize; omega), List.any_eq_true]
  simp only [Bool.and_eq_true, decide_eq_true_eq]

theorem Releasing.valid (h : Releasing n s)
    (hbits : ∀ g < n, s.testFrame g = false ↔ s.usable g = true) : FramesValid s := by
  have hcount := h.count
  have hreserved : ∀ g < n, s.testReserved g = false := by
    intro g hg
    unfold testReserved
    rw [h.reserved, List.getD_eq_getElem?_getD, List.getElem?_replicate, if_pos hg]
    rfl
  have hkinds : ∀ g < n, s.kind g = if s.usable g = true then .free else .unmanaged := by
    intro g hg
    unfold kind
    by_cases husable : s.usable g = true
    · rw [if_pos husable, husable, (hbits g hg).mpr husable]
      rfl
    · rw [if_neg husable, Bool.eq_false_iff.mpr husable]
      rfl
  have hmanaged : s.managedFrameCount = s.managed.card := by
    rw [h.managed_eq]
    unfold managed
    rw [hcount]
    congr 1
    apply Finset.filter_congr
    intro g hg
    rw [← hbits g (Finset.mem_range.mp hg)]
    cases s.testFrame g <;> decide
  have hnone : ∀ k, k ≠ .free → k ≠ .unmanaged → s.framesOf k = ∅ := by
    intro k hfree hunmanaged
    unfold framesOf
    rw [Finset.filter_eq_empty_iff]
    intro g hg hk
    rw [hkinds g (by rw [← hcount]; exact Finset.mem_range.mp hg)] at hk
    split at hk
    · exact hfree hk.symm
    · exact hunmanaged hk.symm
  refine ⟨?_, ?_, ?_, hmanaged, fun k hk => ?_⟩
  · rw [h.reserved, List.length_replicate, hcount]
  · intro g hg hhole
    rw [hcount] at hg
    refine ⟨?_, hreserved g hg⟩
    by_contra hclear
    rw [Bool.not_eq_true, hbits g hg, hhole] at hclear
    cases hclear
  · intro g hg hset
    rw [hcount] at hg
    rw [hreserved g hg] at hset
    cases hset
  · cases k with
    | unmanaged => exact absurd rfl hk
    | free =>
      show s.freeFrameCount = _
      rw [h.free_eq, hmanaged]
      congr 1
      apply Finset.filter_congr
      intro g hg
      rw [hkinds g (by rw [← hcount]; exact Finset.mem_range.mp hg)]
      split <;> simp_all
    | reserved =>
      rw [hnone _ (by decide) (by decide)]
      exact h.none_reserved
    | allocated =>
      rw [hnone _ (by decide) (by decide)]
      exact h.none_allocated

theorem reserveRanges_spec (h : FramesValid s) :
    FramesValid (regions.foldl reserveFrameRange s) ∧
      Keeps s (regions.foldl reserveFrameRange s) := by
  induction regions generalizing s with
  | nil => exact ⟨h, Keeps.refl s⟩
  | cons r regions ih =>
    obtain ⟨hone, hkeeps⟩ := reserveFrameRange_spec h r
    obtain ⟨hall, hrest⟩ := ih hone
    exact ⟨hall, hkeeps.trans hrest⟩

theorem clipToReserved_le {stop result : Nat}
    (h : clipToReserved metadataStart metadataEnd regions stop = some result) : result ≤ stop := by
  induction regions generalizing stop with
  | nil => exact (Option.some.inj h).ge
  | cons r regions ih =>
    unfold clipToReserved at h
    split at h
    next => cases h
    next =>
      have hle := ih h
      split at hle
      next hclip =>
        have hdown : r.base / 16 * 16 ≤ r.base := Nat.div_mul_le_self _ _
        unfold alignDown at hle
        omega
      next => exact hle

theorem findHeapRegion_le {result : Nat}
    (h : findHeapRegion map metadataStart metadataEnd = some result) : result ≤ sizeMax := by
  unfold findHeapRegion at h
  split at h
  next => cases h
  next r hr =>
    split at h
    next => cases h
    next stop hstop =>
      have hle := clipToReserved_le hstop
      split at h
      next =>
        obtain rfl := Option.some.inj h
        unfold sizeMax
        omega
      next => cases h

theorem initialize_spec {heapBegin heapLimit : Nat}
    (h : initializeMemorySystem map = some (s, heapBegin, heapLimit)) :
    FramesValid s ∧ s.map = map ∧ s.frameCount * frameSize ≤ physicalMemoryLimit ∧
      (∀ g, g * frameSize < heapLimit → s.Pinned g) ∧ heapLimit ≤ sizeMax ∧
      heapBegin % 16 = 0 ∧ heapLimit % frameSize = 0 ∧
      heapBegin + memoryBlockSize + minAllocation < heapLimit := by
  unfold initializeMemorySystem at h
  split at h
  next => cases h
  next =>
    dsimp only at h
    obtain ⟨frameCount, hcount⟩ : ∃ m, m = (min ((map.usable.map PhysicalRegion.stop).foldl max 0)
      physicalMemoryLimit + frameSize - 1) / frameSize := ⟨_, rfl⟩
    have hn : frameCount * frameSize ≤ physicalMemoryLimit := by
      unfold frameSize physicalMemoryLimit at *
      omega
    rw [← hcount] at h
    split at h
    next => cases h
    next =>
      split at h
      next => cases h
      next =>
        split at h
        next => cases h
        next regionEnd hregion =>
          split at h
          next => cases h
          next =>
            generalize hdesired : (if initialHeapSize ≤ sizeMax - _ then _ else sizeMax) = desired
              at h
            split at h
            next => cases h
            next hroom =>
              obtain ⟨rfl, rfl, rfl⟩ : _ ∧ _ ∧ _ := by simpa using h
              have hend := findHeapRegion_le hregion
              have hdown : min desired regionEnd / frameSize * frameSize ≤ min desired regionEnd :=
                Nat.div_mul_le_self _ _
              have hlimit : alignDown (min desired regionEnd) frameSize ≤ sizeMax := by
                unfold alignDown
                omega
              have hused : Releasing frameCount ⟨map, List.replicate frameCount true,
                  List.replicate frameCount false, 0, 0, 0, 0, 0, 0, 1⟩ := by
                refine ⟨List.length_replicate, rfl, ?_, rfl, rfl, rfl⟩
                symm
                rw [Finset.card_eq_zero, Finset.filter_eq_empty_iff]
                intro g hg hkind
                unfold testFrame at hkind
                rw [List.getD_eq_getElem?_getD, List.getElem?_replicate,
                  if_pos (Finset.mem_range.mp hg)] at hkind
                cases hkind
              obtain ⟨hreleased, hmap, hbits⟩ := @releaseRegions_spec _ _ map.usable hused hn
              have hvalid := hreleased.valid fun g hg => by
                rw [hbits g hg]
                unfold usable
                rw [hmap, addressIsUsable_iff hn hg]
                constructor
                · rintro (hclear | hcovers)
                  · unfold testFrame at hclear
                    rw [List.getD_eq_getElem?_getD, List.getElem?_replicate, if_pos hg] at hclear
                    cases hclear
                  · exact hcovers
                · exact .inr
              obtain ⟨hheap, hkeeps⟩ := reserveFrameRange_spec hvalid
                ⟨0, alignDown (min desired regionEnd) frameSize⟩
              obtain ⟨hall, hkeeps'⟩ := @reserveRanges_spec _ map.reserved hheap
              have hsize := hkeeps.trans hkeeps'
              refine ⟨hall, hsize.map.trans hmap, ?_, fun g hg => hkeeps'.pinned g ?_, hlimit, ?_, ?_,
                by omega⟩
              · rw [hsize.count, hreleased.count]
                exact hn
              · exact reserveBelow hvalid (by rw [hreleased.count]; exact hn) hlimit g hg
              · unfold alignUp
                exact Nat.mul_mod_left _ _
              · unfold alignDown
                exact Nat.mul_mod_left _ _

end ReistOs.Frames
