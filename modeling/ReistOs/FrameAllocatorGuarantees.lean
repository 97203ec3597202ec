import ReistOs.FrameAllocatorRuns

namespace ReistOs.Frames

open FrameState

section Operations

variable {s s' : FrameState} {frame first stop count : Nat}

theorem kind_eq_free (h : FramesValid s) (hframe : frame < s.frameCount)
    (hclear : s.testFrame frame = false) :
    s.kind frame = .free ∧ s.usable frame = true ∧ s.testReserved frame = false := by
  have husable : s.usable frame = true := by
    by_contra hhole
    have hset := (h.hole frame hframe (by simpa using hhole)).1
    rw [hclear] at hset
    cases hset
  have hreserved : s.testReserved frame = false := by
    by_contra hset
    have hused := h.reserved_set frame hframe (by simpa using hset)
    rw [hclear] at hused
    cases hused
  refine ⟨?_, husable, hreserved⟩
  unfold kind
  rw [husable, hclear]
  rfl

theorem testFrame_of_kind (hkind : s.kind frame = .free) : s.testFrame frame = false := by
  unfold kind kindOf at hkind
  cases hused : s.testFrame frame with
  | false => rfl
  | true =>
    rw [hused] at hkind
    split at hkind
    · cases hkind
    · split at hkind
      · contradiction
      · split at hkind <;> cases hkind

theorem take_spec (h : FramesValid s) (hframe : frame < s.frameCount)
    (hclear : s.testFrame frame = false) :
    FramesValid (s.take frame) ∧ Keeps s (s.take frame) ∧
      (∀ g, (s.take frame).kind g = if g = frame then .allocated else s.kind g) ∧
      (s.take frame).freeFrameCount + 1 = s.freeFrameCount := by
  obtain ⟨hkind, husable, hreserved⟩ := kind_eq_free h hframe hclear
  have hpositive := card_framesOf_pos hframe hkind
  have hcounter : s.freeFrameCount = (s.framesOf .free).card := h.counter_eq .free (by decide)
  have hsets : Sets s frame true false (s.take frame) := by
    refine ⟨rfl, List.length_set, rfl, fun g => getD_set _ _ _ _ hframe, fun g => ?_⟩
    show s.testReserved g = _
    split
    next hg => rw [hg, hreserved]
    next => rfl
  refine ⟨h.move hsets hframe husable hkind (by decide) (nofun) rfl ?_,
    hsets.keeps ?_, hsets.kind husable, ?_⟩
  · intro m hm
    cases m with
    | unmanaged => exact absurd rfl hm
    | free =>
      show s.freeFrameCount - 1 + 1 = s.freeFrameCount + 0
      omega
    | reserved => rfl
    | allocated => rfl
  · rintro ⟨hused, -⟩
    rw [hclear] at hused
    cases hused
  · show s.freeFrameCount - 1 + 1 = s.freeFrameCount
    omega

theorem firstFree_some (h : s.firstFree first stop = some frame) :
    first ≤ frame ∧ frame < stop ∧ s.testFrame frame = false := by
  have hmem := List.mem_of_find?_eq_some h
  have hclear := List.find?_some h
  rw [List.mem_range'_1] at hmem
  exact ⟨hmem.1, by omega, by simpa using hclear⟩

theorem firstFree_none (h : s.firstFree first stop = none) (hlow : first ≤ frame) (hhigh : frame < stop) :
    s.testFrame frame = true := by
  have hpassed := List.find?_eq_none.mp h frame (List.mem_range'_1.mpr ⟨hlow, by omega⟩)
  simpa using hpassed

/-- The address does not wrap when it is aligned, and a user leaves the reserve. -/
def FrameState.Admits (s : FrameState) (minimumAddress : Nat) (user : Bool) : Prop :=
  minimumAddress ≤ sizeMax - (frameSize - 1) ∧
    (user = true → s.managedFrameCount / 16 < s.freeFrameCount)

theorem allocate_spec (s : FrameState) (minimumAddress : Nat) (user : Bool) :
    (∃ frame, allocateFrameFrom s minimumAddress user = (frame * frameSize, s.take frame) ∧
      frame ≠ 0 ∧ frame < s.frameCount ∧ s.testFrame frame = false ∧
      minimumAddress ≤ frame * frameSize ∧ s.Admits minimumAddress user) ∨
    ((allocateFrameFrom s minimumAddress user).1 = 0 ∧
      ((allocateFrameFrom s minimumAddress user).2 = s ∨
        (allocateFrameFrom s minimumAddress user).2 = s.failed) ∧
      ∀ frame, frame ≠ 0 → frame < s.frameCount → minimumAddress ≤ frame * frameSize →
        s.Admits minimumAddress user → s.testFrame frame = true) := by
  unfold allocateFrameFrom
  split
  next hreserve =>
    refine .inr ⟨rfl, .inr rfl, fun frame _ _ _ hadmits => ?_⟩
    rw [Bool.and_eq_true, decide_eq_true_eq] at hreserve
    exact absurd (hadmits.2 hreserve.1) (Nat.not_lt.mpr hreserve.2)
  next hadmitted =>
    split
    next hlimit => exact .inr ⟨rfl, .inl rfl, fun frame _ _ _ hadmits => absurd hlimit hadmits.1.not_gt⟩
    next hlimit =>
      have hadmits : s.Admits minimumAddress user := by
        refine ⟨Nat.not_lt.mp hlimit, fun hu => ?_⟩
        rw [hu, Bool.true_and, decide_eq_true_eq] at hadmitted
        omega
      dsimp only
      generalize hfirst : (if alignUp minimumAddress frameSize / frameSize = 0 then 1
        else alignUp minimumAddress frameSize / frameSize) = first
      have habove : ∀ frame, first ≤ frame ↔ frame ≠ 0 ∧ minimumAddress ≤ frame * frameSize := by
        intro frame
        unfold alignUp sizeMax frameSize at *
        rw [Nat.mod_eq_of_lt (by omega)] at hfirst
        split at hfirst <;> omega
      generalize hstart : (if s.searchHint < first ∨ s.frameCount ≤ s.searchHint then first
        else s.searchHint) = start
      have hle : first ≤ start ∧ (start = first ∨ start ≤ s.frameCount) := by
        rw [← hstart]
        split <;> omega
      have hfound : ∀ frame, first ≤ frame → frame < s.frameCount → s.testFrame frame = false →
          frame ≠ 0 ∧ frame < s.frameCount ∧ s.testFrame frame = false ∧
            minimumAddress ≤ frame * frameSize ∧ s.Admits minimumAddress user :=
        fun frame hlow hhigh hclear =>
          ⟨((habove frame).mp hlow).1, hhigh, hclear, ((habove frame).mp hlow).2, hadmits⟩
      split
      next frame hframe =>
        obtain ⟨hlow, hhigh, hclear⟩ := firstFree_some hframe
        exact .inl ⟨frame, rfl, hfound frame (by omega) hhigh hclear⟩
      next hnone =>
        split
        next frame hframe =>
          obtain ⟨hlow, hhigh, hclear⟩ := firstFree_some hframe
          exact .inl ⟨frame, rfl, hfound frame hlow (by omega) hclear⟩
        next hnone' =>
          refine .inr ⟨rfl, .inr rfl, fun frame hne hhigh hmin _ => ?_⟩
          have hlow := (habove frame).mpr ⟨hne, hmin⟩
          rcases Nat.lt_or_ge frame start with hlt | hge
          · exact firstFree_none hnone' hlow hlt
          · exact firstFree_none hnone hge hhigh

theorem freeFrame_spec (h : FramesValid s) (addr : Nat) :
    freeFrame s addr = s ∧ (∀ frame, frame ≠ 0 → frame < s.frameCount →
        addr = frame * frameSize → s.kind frame ≠ .allocated) ∨
      ∃ frame, addr = frame * frameSize ∧ frame < s.frameCount ∧ s.kind frame = .allocated ∧
        FramesValid (freeFrame s addr) ∧ Keeps s (freeFrame s addr) ∧
        ∀ g, (freeFrame s addr).kind g = if g = frame then .free else s.kind g := by
  unfold freeFrame
  dsimp only
  split
  next hbad =>
    refine .inl ⟨rfl, fun frame hframe _ haddr => ?_⟩
    unfold frameSize at hbad haddr
    omega
  next hgood =>
    have haddr : addr = addr / frameSize * frameSize := by
      unfold frameSize at hgood ⊢
      omega
    split
    next hallocated =>
      simp only [Bool.and_eq_true, decide_eq_true_eq, Bool.not_eq_true'] at hallocated
      obtain ⟨⟨⟨hframe, husable⟩, hreserved⟩, hused⟩ := hallocated
      have hkind : s.kind (addr / frameSize) = .allocated := by
        unfold kind
        rw [husable, hreserved, hused]
        rfl
      have hpositive := card_framesOf_pos hframe hkind
      have hcounter : s.allocatedFrameCount = (s.framesOf .allocated).card :=
        h.counter_eq .allocated (by decide)
      have hsets : Sets s (addr / frameSize) false false
          { s.clearFrame (addr / frameSize) with
            allocatedFrameCount := s.allocatedFrameCount - 1
            freeFrameCount := s.freeFrameCount + 1
            searchHint := if addr / frameSize < s.searchHint ∨ s.frameCount ≤ s.searchHint then
              addr / frameSize else s.searchHint } := by
        refine ⟨rfl, List.length_set, rfl, fun g => getD_set _ _ _ _ hframe, fun g => ?_⟩
        show s.testReserved g = _
        split
        next hg => rw [hg, hreserved]
        next => rfl
      refine .inr ⟨addr / frameSize, haddr, hframe, hkind,
        h.move hsets hframe husable hkind (by decide) (nofun) rfl ?_,
        hsets.keeps ?_, hsets.kind husable⟩
      · intro m hm
        cases m with
        | unmanaged => exact absurd rfl hm
        | free => rfl
        | reserved => rfl
        | allocated =>
          show s.allocatedFrameCount - 1 + 1 = s.allocatedFrameCount + 0
          omega
      · rintro ⟨-, hhole | hset⟩
        · rw [husable] at hhole
          cases hhole
        · rw [hreserved] at hset
          cases hset
    next hother =>
      refine .inl ⟨rfl, fun frame _ hframe heq hkind => hother ?_⟩
      have hindex : addr / frameSize = frame := by
        unfold frameSize at heq ⊢
        omega
      rw [hindex]
      unfold kind kindOf at hkind
      revert hkind
      cases s.usable frame <;> cases s.testFrame frame <;> cases s.testReserved frame <;>
        simp [hframe]

theorem runFrom_some {remaining runStart runLength result : Nat}
    (hlength : runLength < count) (hbefore : runLength ≠ 0 → runStart + runLength = frame)
    (hfree : ∀ g, frame - runLength ≤ g → g < frame → s.testFrame g = false)
    (hlow : first ≤ frame - runLength)
    (h : s.runFrom count remaining frame runStart runLength = some result) :
    first ≤ result ∧ result + count ≤ frame + remaining ∧
      ∀ g, result ≤ g → g < result + count → s.testFrame g = false := by
  induction remaining generalizing frame runStart runLength with
  | zero => cases h
  | succ remaining ih =>
    unfold runFrom at h
    split at h
    next hclear =>
      rw [Bool.not_eq_true'] at hclear
      dsimp only at h
      have hstart : (if runLength = 0 then frame else runStart) + runLength = frame := by
        split <;> omega
      have hgrown : ∀ g, frame + 1 - (runLength + 1) ≤ g → g < frame + 1 →
          s.testFrame g = false := by
        intro g hg hlt
        rcases Nat.lt_or_ge g frame with hgf | hgf
        · exact hfree g (by omega) hgf
        · rw [show g = frame by omega]
          exact hclear
      split at h
      next hdone =>
        obtain rfl := Option.some.inj h
        refine ⟨by omega, by omega, fun g hg hlt => hgrown g (by omega) (by omega)⟩
      next hmore =>
        obtain ⟨hle, hend, hall⟩ := ih (by omega) (fun _ => by omega) hgrown (by omega) h
        exact ⟨hle, by omega, hall⟩
    next hset =>
      obtain ⟨hle, hend, hall⟩ := ih (by omega) (fun hzero => absurd rfl hzero)
        (fun g hg hlt => by omega) (by omega) h
      exact ⟨hle, by omega, hall⟩

theorem reserveFrameRunLocked_some {result : Nat} (hcount : count ≠ 0)
    (h : reserveFrameRunLocked s first stop count = some result) :
    first ≤ result ∧ result + count ≤ stop ∧
      ∀ g, result ≤ g → g < result + count → s.testFrame g = false := by
  obtain ⟨hle, hend, hall⟩ := @runFrom_some _ _ first _ _ _ _ _ (Nat.pos_of_ne_zero hcount)
    (fun hzero => absurd rfl hzero) (fun g hg hlt => by omega) (by omega) h
  exact ⟨hle, by omega, hall⟩

theorem reserveFrame_free (h : FramesValid s) (hframe : frame < s.frameCount)
    (hclear : s.testFrame frame = false) :
    reserveFrame s frame = { (s.setFrame frame).setReserved frame with
      freeFrameCount := s.freeFrameCount - 1
      reservedFrameCount := s.reservedFrameCount + 1 } ∧
    ∀ g, (reserveFrame s frame).testFrame g = if g = frame then true else s.testFrame g := by
  obtain ⟨-, husable, hreserved⟩ := kind_eq_free h hframe hclear
  have heq : reserveFrame s frame = { (s.setFrame frame).setReserved frame with
      freeFrameCount := s.freeFrameCount - 1
      reservedFrameCount := s.reservedFrameCount + 1 } := by
    unfold reserveFrame
    rw [if_neg (by simp [husable, hreserved]), hclear]
    rfl
  refine ⟨heq, fun g => ?_⟩
  rw [heq]
  exact getD_set _ _ _ _ hframe

theorem setRun_counters (items : List Nat) (s : FrameState) (free reserved : Nat) :
    items.foldl (fun s item => (s.setFrame item).setReserved item)
        { s with freeFrameCount := free, reservedFrameCount := reserved } =
      { items.foldl (fun s item => (s.setFrame item).setReserved item) s with
        freeFrameCount := free, reservedFrameCount := reserved } := by
  induction items generalizing s with
  | nil => rfl
  | cons item items ih => exact ih ((s.setFrame item).setReserved item)

theorem reserveRun_eq {items : List Nat} (h : FramesValid s) (hnodup : items.Nodup)
    (hitems : ∀ g ∈ items, g < s.frameCount ∧ s.testFrame g = false) :
    items.foldl reserveFrame s =
      { items.foldl (fun s item => (s.setFrame item).setReserved item) s with
        freeFrameCount := s.freeFrameCount - items.length
        reservedFrameCount := s.reservedFrameCount + items.length } ∧
    ∀ g, (items.foldl reserveFrame s).kind g = if g ∈ items then .reserved else s.kind g := by
  induction items generalizing s with
  | nil => exact ⟨rfl, fun g => by simp⟩
  | cons f items ih =>
    obtain ⟨hframe, hclear⟩ := hitems f List.mem_cons_self
    obtain ⟨-, husable, hreserved⟩ := kind_eq_free h hframe hclear
    obtain ⟨heq, hbits⟩ := reserveFrame_free h hframe hclear
    obtain ⟨hvalid, hkeeps, -⟩ := reserveFrame_spec h hframe
    obtain ⟨hnot, hrest⟩ := List.nodup_cons.mp hnodup
    obtain ⟨hall, hkinds⟩ := ih hvalid hrest fun g hg => by
      have hother : g ≠ f := fun heq => hnot (heq ▸ hg)
      rw [hkeeps.count, hbits, if_neg hother]
      exact hitems g (List.mem_cons_of_mem _ hg)
    have hsets : Sets s f true true (reserveFrame s f) := by
      have hlength := h.length
      rw [heq]
      exact ⟨rfl, List.length_set, List.length_set, fun g => getD_set _ _ _ _ hframe,
        fun g => getD_set _ _ _ _ (by show f < s.reservedBitmap.length; omega)⟩
    constructor
    · rw [List.foldl_cons, hall, heq, setRun_counters, List.length_cons]
      simp only [setFrame, setReserved, List.foldl_cons, Nat.sub_sub,
        Nat.add_comm, Nat.add_left_comm]
    · intro g
      simp only [List.foldl_cons, hkinds, hsets.kind husable, List.mem_cons]
      by_cases hg : g = f
      · simp [hg, kindOf]
      · simp [hg]

theorem takeRun_spec {runStart : Nat} (h : FramesValid s) (hend : runStart + count ≤ s.frameCount)
    (hfree : ∀ g, runStart ≤ g → g < runStart + count → s.testFrame g = false) :
    FramesValid (s.takeRun runStart count) ∧ Keeps s (s.takeRun runStart count) ∧
      (∀ g, (s.takeRun runStart count).kind g =
        if runStart ≤ g ∧ g < runStart + count then .reserved else s.kind g) ∧
      ∀ g, runStart ≤ g → g < runStart + count → (s.takeRun runStart count).Pinned g := by
  have hmem : ∀ g, g ∈ List.range' runStart count ↔ runStart ≤ g ∧ g < runStart + count :=
    fun g => List.mem_range'_1
  obtain ⟨heq, hkinds⟩ := reserveRun_eq h (List.nodup_range' 1) fun g hg => by
    obtain ⟨hlow, hhigh⟩ := (hmem g).mp hg
    exact ⟨by omega, hfree g hlow hhigh⟩
  obtain ⟨hvalid, hkeeps, hpinned⟩ := @reserveFrames_spec s (List.range' runStart count) h
    fun g hg => by
      have := (hmem g).mp hg
      omega
  have hsame : s.takeRun runStart count = { (List.range' runStart count).foldl reserveFrame s with
      searchHint := wrapHint s (runStart + count) } := by
    rw [heq, List.length_range']
    rfl
  rw [hsame]
  refine ⟨⟨hvalid.length, hvalid.hole, hvalid.reserved_set, hvalid.managed_eq, hvalid.counter_eq⟩,
    ⟨hkeeps.map, hkeeps.count, hkeeps.pinned⟩, fun g => ?_,
    fun g hlow hhigh => hpinned g ((hmem g).mpr ⟨hlow, hhigh⟩)⟩
  refine (hkinds g).trans ?_
  simp only [hmem]

theorem reserveContiguous_spec (s : FrameState) (count : Nat) :
    (∃ runStart, reserveContiguousFrames s count =
        (runStart * frameSize, s.takeRun runStart count) ∧ runStart ≠ 0 ∧
      runStart + count ≤ s.frameCount ∧
      ∀ g, runStart ≤ g → g < runStart + count → s.testFrame g = false) ∨
    ((reserveContiguousFrames s count).1 = 0 ∧
      ((reserveContiguousFrames s count).2 = s ∨
        (reserveContiguousFrames s count).2 = s.failed)) := by
  unfold reserveContiguousFrames
  split
  next => exact .inr ⟨rfl, .inl rfl⟩
  next hcount =>
    split
    next => exact .inr ⟨rfl, .inr rfl⟩
    next =>
      dsimp only
      generalize hstart : (if s.searchHint < 1 ∨ s.frameCount ≤ s.searchHint then 1
        else s.searchHint) = start
      have hle : 1 ≤ start ∧ (start = 1 ∨ start ≤ s.frameCount) := by
        rw [← hstart]
        split <;> omega
      split
      next runStart hrun =>
        obtain ⟨hlow, hend, hfree⟩ := reserveFrameRunLocked_some (by omega) hrun
        exact .inl ⟨runStart, rfl, by omega, hend, hfree⟩
      next =>
        split
        next runStart hrun =>
          split at hrun
          next hwrapped =>
            obtain ⟨hlow, hend, hfree⟩ := reserveFrameRunLocked_some (by omega) hrun
            exact .inl ⟨runStart, rfl, by omega, by omega, hfree⟩
          next => cases hrun
        next => exact .inr ⟨rfl, .inr rfl⟩

theorem FramesValid.failed (h : FramesValid s) : FramesValid s.failed :=
  ⟨h.length, h.hole, h.reserved_set, h.managed_eq, h.counter_eq⟩

theorem FramesValid.allocate (h : FramesValid s) (minimumAddress : Nat) (user : Bool) :
    FramesValid (allocateFrameFrom s minimumAddress user).2 ∧
      Keeps s (allocateFrameFrom s minimumAddress user).2 := by
  rcases allocate_spec s minimumAddress user with ⟨frame, heq, -, hframe, hclear, -⟩ |
    ⟨-, heq | heq, -⟩
  · obtain ⟨hvalid, hkeeps, -⟩ := take_spec h hframe hclear
    rw [heq]
    exact ⟨hvalid, hkeeps⟩
  · rw [heq]
    exact ⟨h, Keeps.refl s⟩
  · rw [heq]
    exact ⟨h.failed, ⟨rfl, rfl, fun _ hg => hg⟩⟩

theorem FramesValid.reserveRun (h : FramesValid s) (count : Nat) :
    FramesValid (reserveContiguousFrames s count).2 ∧
      Keeps s (reserveContiguousFrames s count).2 := by
  rcases reserveContiguous_spec s count with ⟨runStart, heq, -, hend, hfree⟩ | ⟨-, heq | heq⟩
  · obtain ⟨hvalid, hkeeps, -⟩ := takeRun_spec h hend hfree
    rw [heq]
    exact ⟨hvalid, hkeeps⟩
  · rw [heq]
    exact ⟨h, Keeps.refl s⟩
  · rw [heq]
    exact ⟨h.failed, ⟨rfl, rfl, fun _ hg => hg⟩⟩

theorem FramesValid.call (h : FramesValid s) (c : FrameCall) :
    FramesValid (s.call c) ∧ Keeps s (s.call c) := by
  cases c with
  | allocate minimumAddress userAdmission => exact h.allocate minimumAddress userAdmission
  | free addr =>
    show FramesValid (freeFrame s addr) ∧ Keeps s (freeFrame s addr)
    rcases freeFrame_spec h addr with ⟨heq, -⟩ | ⟨frame, -, -, -, hvalid, hkeeps, -⟩
    · rw [heq]
      exact ⟨h, Keeps.refl s⟩
    · exact ⟨hvalid, hkeeps⟩
  | reserveRun count => exact h.reserveRun count

theorem FramesValid.run (h : FramesValid s) (calls : List FrameCall) :
    FramesValid (calls.foldl FrameState.call s) := by
  induction calls generalizing s with
  | nil => exact h
  | cons c calls ih => exact ih (h.call c).1

theorem FramesValid.sum (h : FramesValid s) :
    s.managedFrameCount = s.freeFrameCount + s.reservedFrameCount + s.allocatedFrameCount := by
  have hfree : s.freeFrameCount = _ := h.counter_eq .free (by decide)
  have hreserved : s.reservedFrameCount = _ := h.counter_eq .reserved (by decide)
  have hallocated : s.allocatedFrameCount = _ := h.counter_eq .allocated (by decide)
  have hmanaged : s.managed = s.framesOf .free ∪ s.framesOf .reserved ∪ s.framesOf .allocated := by
    have hkinds : ∀ usable used reserved : Bool, usable = true ↔
        kindOf usable used reserved = .free ∨ kindOf usable used reserved = .reserved ∨
          kindOf usable used reserved = .allocated := by decide
    ext g
    simp only [managed, framesOf, Finset.mem_union, Finset.mem_filter,
      ← and_or_left, or_assoc]
    rw [hkinds (s.usable g) (s.testFrame g) (s.testReserved g)]
    rfl
  have hdisjoint : ∀ k k' : FrameKind, k ≠ k' → Disjoint (s.framesOf k) (s.framesOf k') := by
    intro k k' hne
    apply Finset.disjoint_filter.mpr
    intro g _ hk hk'
    exact hne (hk.symm.trans hk')
  rw [h.managed_eq, hmanaged, Finset.card_union_of_disjoint
      (Finset.disjoint_union_left.mpr ⟨hdisjoint _ _ (by decide), hdisjoint _ _ (by decide)⟩),
    Finset.card_union_of_disjoint (hdisjoint _ _ (by decide)), hfree, hreserved, hallocated]

end Operations

/-- The bits and counters of the managed frames, and what each call does to them. -/
structure FramesSafe (s : FrameState) : Prop where
  valid : FramesValid s
  sum : s.managedFrameCount = s.freeFrameCount + s.reservedFrameCount + s.allocatedFrameCount
  allocate : ∀ minimumAddress user, (allocateFrameFrom s minimumAddress user).1 ≠ 0 →
    ∃ frame < s.frameCount, (allocateFrameFrom s minimumAddress user).1 = frame * frameSize ∧
      s.kind frame = .free ∧
      (∀ g, (allocateFrameFrom s minimumAddress user).2.kind g =
        if g = frame then .allocated else s.kind g) ∧
      (user = true →
        s.managedFrameCount / 16 ≤ (allocateFrameFrom s minimumAddress user).2.freeFrameCount)
  free : ∀ addr, (∀ frame, frame ≠ 0 → frame < s.frameCount → addr = frame * frameSize →
    s.kind frame ≠ .allocated) → freeFrame s addr = s
  reserve : ∀ count, (reserveContiguousFrames s count).1 ≠ 0 →
    ∃ runStart, (reserveContiguousFrames s count).1 = runStart * frameSize ∧
      runStart + count ≤ s.frameCount ∧
      (∀ g, runStart ≤ g → g < runStart + count → s.kind g = .free) ∧
      ∀ g, (reserveContiguousFrames s count).2.kind g =
        if runStart ≤ g ∧ g < runStart + count then .reserved else s.kind g
  refused : ∀ count, (reserveContiguousFrames s count).1 = 0 →
    (reserveContiguousFrames s count).2 = s ∨ (reserveContiguousFrames s count).2 = s.failed

theorem FramesValid.safe {s : FrameState} (h : FramesValid s) : FramesSafe s := by
  refine ⟨h, h.sum, ?_, ?_, ?_, ?_⟩
  · intro minimumAddress user hne
    rcases allocate_spec s minimumAddress user with ⟨frame, heq, -, hframe, hclear, -, -, huser⟩ |
      ⟨hzero, -⟩
    · obtain ⟨-, -, hkinds, hcount⟩ := take_spec h hframe hclear
      rw [heq]
      refine ⟨frame, hframe, rfl, (kind_eq_free h hframe hclear).1, hkinds, fun hu => ?_⟩
      have hroom := huser hu
      show _ ≤ (s.take frame).freeFrameCount
      omega
    · exact absurd hzero hne
  · intro addr hnot
    rcases freeFrame_spec h addr with ⟨heq, -⟩ | ⟨frame, haddr, hframe, hkind, -, -, -⟩
    · exact heq
    · by_cases hzero : frame = 0
      · unfold freeFrame
        rw [if_pos (.inr (by rw [haddr, hzero, Nat.zero_mul]))]
      · exact absurd hkind (hnot frame hzero hframe haddr)
  · intro count hne
    rcases reserveContiguous_spec s count with ⟨runStart, heq, -, hend, hfree⟩ | ⟨hzero, -⟩
    · obtain ⟨-, -, hkinds, -⟩ := takeRun_spec h hend hfree
      rw [heq]
      exact ⟨runStart, rfl, hend, fun g hlow hhigh =>
        (kind_eq_free h (by omega) (hfree g hlow hhigh)).1, hkinds⟩
    · exact absurd hzero hne
  · intro count hzero
    rcases reserveContiguous_spec s count with ⟨runStart, heq, hne, -, -⟩ | ⟨-, hsame⟩
    · rw [heq] at hzero
      rcases Nat.mul_eq_zero.mp hzero with hz | hz
      · exact absurd hz hne
      · cases hz
    · exact hsame

/-- After every run on an accepted memory map the managed frames are free, reserved or allocated as
the bitmaps and the counters say, and every further call keeps to that. -/
theorem frames_partitioned {map : MemoryMap} {s : FrameState} {heapBegin heapLimit : Nat}
    (hinit : initializeMemorySystem map = some (s, heapBegin, heapLimit))
    (calls : List FrameCall) : FramesSafe (calls.foldl FrameState.call s) :=
  ((initialize_spec hinit).1.run calls).safe

/-- A usable region with a hole above it and four more pages behind the hole. -/
def holeMap : MemoryMap := ⟨[⟨0, 0x30000⟩, ⟨0x34000, 0x4000⟩], [], 0x10000⟩

theorem hole_run : ∃ s heapBegin heapLimit,
    initializeMemorySystem holeMap = some (s, heapBegin, heapLimit) ∧
      FramesSafe ([FrameCall.allocate 4096 true, .free 4096].foldl FrameState.call s) := by
  have hsome : (initializeMemorySystem holeMap).isSome = true := by decide +kernel
  obtain ⟨⟨s, heapBegin, heapLimit⟩, hinit⟩ := Option.isSome_iff_exists.mp hsome
  exact ⟨s, heapBegin, heapLimit, hinit, frames_partitioned hinit _⟩

/-- A frame of the hole is marked as used and not as reserved, and yet no frame counts as
allocated. -/
theorem hole_not_counted : ∃ s heapBegin heapLimit,
    initializeMemorySystem holeMap = some (s, heapBegin, heapLimit) ∧
      s.allocatedFrameCount = 0 ∧ 0x30 < s.frameCount ∧ s.testFrame 0x30 = true ∧
      s.testReserved 0x30 = false := by
  have hmarks : ((initializeMemorySystem holeMap).all (fun r => r.1.allocatedFrameCount == 0 &&
      decide (0x30 < r.1.frameCount) && r.1.testFrame 0x30 && !r.1.testReserved 0x30) &&
      (initializeMemorySystem holeMap).isSome) = true := by decide +kernel
  rw [Bool.and_eq_true] at hmarks
  obtain ⟨hall, hsome⟩ := hmarks
  obtain ⟨⟨s, heapBegin, heapLimit⟩, hinit⟩ := Option.isSome_iff_exists.mp hsome
  rw [hinit] at hall
  simp only [Option.all_some, Bool.and_eq_true, beq_iff_eq, decide_eq_true_eq,
    Bool.not_eq_true'] at hall
  exact ⟨s, heapBegin, heapLimit, hinit, hall.1.1.1, hall.1.1.2, hall.1.2, hall.2⟩

structure FrameState.FreeRun (s : FrameState) (count runStart : Nat) : Prop where
  positive : 0 < count
  low : 1 ≤ runStart
  high : runStart + count ≤ s.frameCount
  free : ∀ g, runStart ≤ g → g < runStart + count → s.kind g = .free

/-- The frame at which `reserve_contiguous_frames` starts its first pass. -/
def FrameState.searchStart (s : FrameState) : Nat :=
  if s.searchHint < 1 ∨ s.frameCount ≤ s.searchHint then 1 else s.searchHint

def FrameState.Unsplit (s : FrameState) (count runStart : Nat) : Prop :=
  s.searchStart ≤ runStart ∨ runStart + count ≤ s.searchStart

def FrameState.ReservesRun (s : FrameState) (count : Nat) : Prop :=
  ∃ runStart, s.FreeRun count runStart ∧
    (reserveContiguousFrames s count).1 = runStart * frameSize ∧
    ∀ g, (reserveContiguousFrames s count).2.kind g =
      if runStart ≤ g ∧ g < runStart + count then .reserved else s.kind g

variable {s : FrameState} {frame first stop count : Nat}

theorem runFrom_none {remaining runStart runLength run : Nat} (hlength : runLength < count)
    (hrun : frame ≤ run + runLength) (hend : run + count ≤ frame + remaining)
    (hfree : ∀ g, run ≤ g → g < run + count → s.testFrame g = false) :
    s.runFrom count remaining frame runStart runLength ≠ none := by
  induction remaining generalizing frame runStart runLength with
  | zero => omega
  | succ remaining ih =>
    unfold runFrom
    split
    next =>
      dsimp only
      split
      next => exact Option.some_ne_none _
      next => exact ih (by omega) (by omega) (by omega)
    next hused =>
      -- a used frame is not in the run, so the run lies behind it
      have hbehind : frame < run := by
        by_contra hle
        apply hused
        rw [hfree frame (by omega) (by omega)]
        rfl
      exact ih (by omega) (by omega) (by omega)

theorem reserveFrameRunLocked_complete {run : Nat} (hcount : 0 < count) (hlow : first ≤ run)
    (hend : run + count ≤ stop) (hfree : ∀ g, run ≤ g → g < run + count → s.testFrame g = false) :
    ∃ result, reserveFrameRunLocked s first stop count = some result :=
  Option.ne_none_iff_exists'.mp (runFrom_none hcount (by omega) (by omega) hfree)

theorem FrameState.FreeRun.count_le {runStart : Nat} (h : FramesValid s) (hrun : s.FreeRun count runStart) :
    count ≤ s.freeFrameCount := by
  have hcounter : s.freeFrameCount = (s.framesOf .free).card := h.counter_eq .free (by decide)
  have hsub : Finset.Ico runStart (runStart + count) ⊆ s.framesOf .free := by
    intro g hg
    obtain ⟨hlow, hhigh⟩ := Finset.mem_Ico.mp hg
    have hend := hrun.high
    exact Finset.mem_filter.mpr ⟨Finset.mem_range.mpr (by omega), hrun.free g hlow hhigh⟩
  have hcard := Finset.card_le_card hsub
  rw [Nat.card_Ico] at hcard
  omega

theorem reservesRun_iff (h : FramesValid s) :
    s.ReservesRun count ↔ ∃ runStart, s.FreeRun count runStart ∧ s.Unsplit count runStart := by
  have hstart : 1 ≤ s.searchStart ∧ (s.searchStart = 1 ∨ s.searchStart < s.frameCount) := by
    unfold searchStart
    split <;> omega
  have hfound : ∀ {first stop run}, 0 < count → 1 ≤ first → stop ≤ s.frameCount →
      reserveFrameRunLocked s first stop count = some run →
      s.FreeRun count run ∧ first ≤ run ∧ run + count ≤ stop := by
    intro first stop run hcount hfirst hstop hrun
    obtain ⟨hlow, hend, hfree⟩ := reserveFrameRunLocked_some (by omega) hrun
    refine ⟨⟨hcount, by omega, by omega, fun g hle hlt => ?_⟩, hlow, hend⟩
    exact (kind_eq_free h (by omega) (hfree g hle hlt)).1
  have htaken : ∀ {run}, s.FreeRun count run →
      reserveContiguousFrames s count = (run * frameSize, s.takeRun run count) →
      s.ReservesRun count := by
    intro run hrun heq
    obtain ⟨-, -, hkinds, -⟩ := takeRun_spec h hrun.high fun g hle hlt =>
      testFrame_of_kind (hrun.free g hle hlt)
    refine ⟨run, hrun, ?_⟩
    rw [heq]
    exact ⟨rfl, hkinds⟩
  have hcode : 0 < count → count ≤ s.frameCount → count ≤ s.freeFrameCount →
      reserveContiguousFrames s count =
        ((reserveFrameRunLocked s s.searchStart s.frameCount count).or
          (if s.searchStart ≠ 1 then reserveFrameRunLocked s 1 s.searchStart count else none)).elim
          (0, s.failed) fun run => (run * frameSize, s.takeRun run count) := by
    intro hpositive hle hroom
    unfold reserveContiguousFrames
    rw [if_neg (by omega), if_neg (by omega)]
    unfold searchStart
    dsimp only
    split
    next found hpass => rw [hpass, Option.some_or, Option.elim_some]
    next hpass =>
      rw [hpass, Option.none_or]
      split
      next found hsecond => rw [hsecond, Option.elim_some]
      next hsecond => rw [hsecond, Option.elim_none]
  constructor
  · rintro ⟨run, hrun, haddress, -⟩
    have hpositive := hrun.positive
    have hlow := hrun.low
    have hhigh := hrun.high
    have hroom := hrun.count_le h
    rw [hcode hpositive (by omega) (by omega)] at haddress
    cases hpass : reserveFrameRunLocked s s.searchStart s.frameCount count with
    | some found =>
      obtain ⟨hfree, hle, -⟩ := hfound hpositive hstart.1 le_rfl hpass
      exact ⟨found, hfree, .inl hle⟩
    | none =>
      rw [hpass, Option.none_or] at haddress
      split at haddress
      next =>
        cases hsecond : reserveFrameRunLocked s 1 s.searchStart count with
        | some found =>
          obtain ⟨hfree, -, hle⟩ := hfound hpositive le_rfl (by omega) hsecond
          exact ⟨found, hfree, .inr hle⟩
        | none =>
          rw [hsecond, Option.elim_none] at haddress
          unfold frameSize at haddress
          omega
      next =>
        rw [Option.elim_none] at haddress
        unfold frameSize at haddress
        omega
  · rintro ⟨run, hrun, hunsplit⟩
    have hpositive := hrun.positive
    have hlow := hrun.low
    have hhigh := hrun.high
    have hroom := hrun.count_le h
    have hclear : ∀ g, run ≤ g → g < run + count → s.testFrame g = false :=
      fun g hle hlt => testFrame_of_kind (hrun.free g hle hlt)
    have hcode := hcode hpositive (by omega) (by omega)
    cases hpass : reserveFrameRunLocked s s.searchStart s.frameCount count with
    | some found =>
      rw [hpass, Option.some_or, Option.elim_some] at hcode
      exact htaken (hfound hpositive hstart.1 le_rfl hpass).1 hcode
    | none =>
      have hbefore : run + count ≤ s.searchStart := by
        refine hunsplit.resolve_left fun hle => ?_
        obtain ⟨found, hsome⟩ := reserveFrameRunLocked_complete hpositive hle hhigh hclear
        rw [hpass] at hsome
        cases hsome
      obtain ⟨found, hsecond⟩ := reserveFrameRunLocked_complete hpositive hlow hbefore hclear
      rw [hpass, Option.none_or, if_pos (by omega), hsecond, Option.elim_some] at hcode
      exact htaken (hfound hpositive le_rfl (by omega) hsecond).1 hcode

/-- A reservation finds a free run, where there is one, unless they all lie across the start of its
search. -/
theorem reserveContiguousFrames_complete {map : MemoryMap} {s₀ : FrameState}
    {heapBegin heapLimit : Nat} (hinit : initializeMemorySystem map = some (s₀, heapBegin, heapLimit))
    (calls : List FrameCall) (count : Nat) :
    ((∃ runStart, (calls.foldl FrameState.call s₀).FreeRun count runStart) →
        (calls.foldl FrameState.call s₀).ReservesRun count) ↔
      ((∃ runStart, (calls.foldl FrameState.call s₀).FreeRun count runStart) →
        ∃ runStart, (calls.foldl FrameState.call s₀).FreeRun count runStart ∧
          (calls.foldl FrameState.call s₀).Unsplit count runStart) := by
  rw [reservesRun_iff ((initialize_spec hinit).1.run calls)]

/-- Page 0x35 is taken and freed, so that the search starts in the middle of the four pages. -/
def splitCalls : List FrameCall := [.allocate 0x35000 false, .free 0x35000]

theorem splitCalls_run : ∃ s₀ heapBegin heapLimit,
    initializeMemorySystem holeMap = some (s₀, heapBegin, heapLimit) ∧
      (((∃ runStart, (splitCalls.foldl FrameState.call s₀).FreeRun 3 runStart) →
        (splitCalls.foldl FrameState.call s₀).ReservesRun 3) ↔
      ((∃ runStart, (splitCalls.foldl FrameState.call s₀).FreeRun 3 runStart) →
        ∃ runStart, (splitCalls.foldl FrameState.call s₀).FreeRun 3 runStart ∧
          (splitCalls.foldl FrameState.call s₀).Unsplit 3 runStart)) := by
  have hsome : (initializeMemorySystem holeMap).isSome = true := by decide +kernel
  obtain ⟨⟨s, heapBegin, heapLimit⟩, hinit⟩ := Option.isSome_iff_exists.mp hsome
  exact ⟨s, heapBegin, heapLimit, hinit, reserveContiguousFrames_complete hinit splitCalls 3⟩

/-- Four free pages in a row, and no reservation of four. -/
theorem splitCalls_fails : ¬ ∀ (map : MemoryMap) (s₀ : FrameState) (heapBegin heapLimit : Nat),
    initializeMemorySystem map = some (s₀, heapBegin, heapLimit) → ∀ (calls : List FrameCall) (count : Nat),
      (∃ runStart, (calls.foldl FrameState.call s₀).FreeRun count runStart) →
        (calls.foldl FrameState.call s₀).ReservesRun count := by
  intro hcomplete
  have hmarks : ((initializeMemorySystem holeMap).all (fun r =>
      let s := splitCalls.foldl call r.1
      (List.range 4).all (fun i => decide (s.kind (0x34 + i) = .free)) &&
        decide (0x38 ≤ s.frameCount) && ((reserveContiguousFrames s 4).1 == 0)) &&
      (initializeMemorySystem holeMap).isSome) = true := by decide +kernel
  rw [Bool.and_eq_true] at hmarks
  obtain ⟨hall, hsome⟩ := hmarks
  obtain ⟨⟨s, heapBegin, heapLimit⟩, hinit⟩ := Option.isSome_iff_exists.mp hsome
  rw [hinit] at hall
  simp only [Option.all_some, Bool.and_eq_true, decide_eq_true_eq, beq_iff_eq, List.all_eq_true,
    List.mem_range] at hall
  obtain ⟨⟨hkinds, hcount⟩, hzero⟩ := hall
  have hrun : (splitCalls.foldl call s).FreeRun 4 0x34 := by
    refine ⟨by decide, by decide, hcount, fun g hle hlt => ?_⟩
    have hkind := hkinds (g - 0x34) (by omega)
    rwa [show 0x34 + (g - 0x34) = g by omega] at hkind
  obtain ⟨run, hfree, haddress, -⟩ := hcomplete _ s heapBegin heapLimit hinit splitCalls 4 ⟨_, hrun⟩
  rw [hzero] at haddress
  have hlow := hfree.low
  unfold frameSize at haddress
  omega

/-- A free frame at or above the address; frame 0 is given to no one. -/
structure FrameState.FreeAbove (s : FrameState) (minimumAddress frame : Nat) : Prop where
  nonzero : frame ≠ 0
  managed : frame < s.frameCount
  above : minimumAddress ≤ frame * frameSize
  free : s.kind frame = .free

/-- A run on an accepted memory map leads to the state. -/
def FrameState.Reached (s : FrameState) : Prop :=
  ∃ map s₀ heapBegin heapLimit calls, initializeMemorySystem map = some (s₀, heapBegin, heapLimit) ∧
    s = List.foldl FrameState.call s₀ calls

theorem FrameState.Reached.valid (hreached : s.Reached) : FramesValid s := by
  obtain ⟨_, _, _, _, calls, hinit, rfl⟩ := hreached
  exact (initialize_spec hinit).1.run calls

/-- An allocation takes a free frame at or above its address, and fails only where there is none or
the request is not admitted. -/
theorem allocateFrame_complete (hreached : s.Reached) (minimumAddress : Nat) (user : Bool) :
    (∃ frame, s.FreeAbove minimumAddress frame ∧
        (allocateFrameFrom s minimumAddress user).1 = frame * frameSize) ↔
      (∃ frame, s.FreeAbove minimumAddress frame) ∧ s.Admits minimumAddress user := by
  rcases allocate_spec s minimumAddress user with
    ⟨frame, heq, hne, hframe, hclear, habove, hadmits⟩ | ⟨hzero, -, hnone⟩
  · have hfree : s.FreeAbove minimumAddress frame :=
      ⟨hne, hframe, habove, (kind_eq_free hreached.valid hframe hclear).1⟩
    exact iff_of_true ⟨frame, hfree, by rw [heq]⟩ ⟨⟨frame, hfree⟩, hadmits⟩
  · refine iff_of_false ?_ ?_
    · rintro ⟨frame, hfree, haddress⟩
      have hne := hfree.nonzero
      rw [hzero] at haddress
      unfold frameSize at haddress
      omega
    · rintro ⟨⟨frame, hfree⟩, hadmits⟩
      have hused := hnone frame hfree.nonzero hfree.managed hfree.above hadmits
      rw [testFrame_of_kind hfree.free] at hused
      cases hused

theorem splitCalls_serves : ∃ s : FrameState, s.Reached ∧
    ((∃ frame, s.FreeAbove 0x36000 frame ∧ (allocateFrameFrom s 0x36000 true).1 = frame * frameSize) ↔
      (∃ frame, s.FreeAbove 0x36000 frame) ∧ s.Admits 0x36000 true) := by
  have hsome : (initializeMemorySystem holeMap).isSome = true := by decide +kernel
  obtain ⟨⟨s, heapBegin, heapLimit⟩, hinit⟩ := Option.isSome_iff_exists.mp hsome
  have hreached : (splitCalls.foldl call s).Reached := ⟨_, _, _, _, _, hinit, rfl⟩
  exact ⟨_, hreached, allocateFrame_complete hreached 0x36000 true⟩

end ReistOs.Frames
