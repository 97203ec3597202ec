import ReistOs.FrameAllocator

/-! The tables of usable and reserved regions of `mm/kmalloc.c`. -/

namespace ReistOs.Frames

open PhysicalRegion

def maxMemoryRegions : Nat := 64

/-- The first loop of `add_normalized_region`: what touches the new region is taken out of the table
and merged into it. -/
def mergeRegions : List PhysicalRegion → Nat → Nat → List PhysicalRegion × Nat × Nat
  | [], base, stop => ([], base, stop)
  | r :: rs, base, stop =>
    if base ≤ r.stop ∧ r.base ≤ stop then mergeRegions rs (min r.base base) (max r.stop stop)
    else
      let (kept, base, stop) := mergeRegions rs base stop
      (r :: kept, base, stop)

def insertRegion (new : PhysicalRegion) : List PhysicalRegion → List PhysicalRegion
  | [] => [new]
  | r :: rs => if r.base < new.base then r :: insertRegion new rs else new :: r :: rs

def addNormalizedRegion (regions : List PhysicalRegion) (base length : Nat) :
    Bool × List PhysicalRegion :=
  if length = 0 then (false, regions)
  else
    let stop := PhysicalRegion.stop ⟨base, length⟩
    if stop ≤ base then (false, regions)
    else
      let (kept, base, stop) := mergeRegions regions base stop
      if maxMemoryRegions ≤ kept.length then (false, kept)
      else (true, insertRegion ⟨base, stop - base⟩ kept)

/-- `total_memory` is `totalMemory` of the table. -/
def memoryAddUsableRegion (map : MemoryMap) (base length : Nat) : Bool × MemoryMap :=
  let (accepted, regions) := addNormalizedRegion map.usable base length
  (accepted, { map with usable := regions })

def memoryReserveRegion (map : MemoryMap) (base length : Nat) : Bool × MemoryMap :=
  let (accepted, regions) := addNormalizedRegion map.reserved base length
  (accepted, { map with reserved := regions })

def memoryRegionIsUsable (map : MemoryMap) (base length : Nat) : Bool :=
  if length = 0 ∨ uint64Max - base < length then false
  else if map.reserved.any fun r => decide (base < r.stop) && decide (r.base < base + length) then false
  else map.usable.any fun r => decide (r.base ≤ base) && decide (base + length ≤ r.stop)

def memoryMapReset (stackEnd : Nat) : MemoryMap := ⟨[], [], stackEnd⟩

inductive RegionCall
  | addUsable (base length : UInt64)
  | reserve (base length : UInt64)

def MemoryMap.call (map : MemoryMap) : RegionCall → Bool × MemoryMap
  | .addUsable base length => memoryAddUsableRegion map base.toNat length.toNat
  | .reserve base length => memoryReserveRegion map base.toNat length.toNat

def MemoryMap.run (map : MemoryMap) (calls : List RegionCall) : MemoryMap :=
  calls.foldl (fun map c => (map.call c).2) map

def MemoryMap.accepted (map : MemoryMap) : List RegionCall → List RegionCall
  | [] => []
  | c :: calls =>
    if (map.call c).1 then c :: (map.call c).2.accepted calls else (map.call c).2.accepted calls

section Regions

variable {regions kept : List PhysicalRegion} {r new : PhysicalRegion} {base stop b e a : Nat}

def PhysicalRegion.Holds (r : PhysicalRegion) (a : Nat) : Prop := r.base ≤ a ∧ a < r.stop

def Covered (regions : List PhysicalRegion) (a : Nat) : Prop := ∃ r ∈ regions, r.Holds a

def PhysicalRegion.Below (r r' : PhysicalRegion) : Prop := r.stop < r'.base

/-- The table is sorted, and its regions are not empty and lie apart. -/
structure Normalized (regions : List PhysicalRegion) : Prop where
  filled : ∀ r ∈ regions, r.base < r.stop
  apart : regions.Pairwise PhysicalRegion.Below
  count : regions.length ≤ maxMemoryRegions

theorem stop_le (h : r.base < r.stop) : r.stop ≤ uint64Max := by
  unfold stop at *
  split at h <;> split <;> omega

theorem stop_eq (h : b < e) (he : e ≤ uint64Max) : PhysicalRegion.stop ⟨b, e - b⟩ = e := by
  unfold stop
  split
  next hover =>
    dsimp only at hover
    omega
  next => exact Nat.add_sub_cancel' h.le

/-- What the merge loop leaves: the regions that do not meet the merged one, which has grown by the
others. -/
structure Merged (regions : List PhysicalRegion) (base stop : Nat) (kept : List PhysicalRegion)
    (b e : Nat) : Prop where
  sub : kept.Sublist regions
  same : kept.length < regions.length ∨ kept = regions
  filled : b < e
  bound : e ≤ uint64Max
  apart : ∀ r ∈ kept, r.stop < b ∨ e < r.base
  low : ∀ x < base, (∀ r ∈ regions, x < r.base) → x < b
  covered : ∀ a, Covered kept a ∨ (b ≤ a ∧ a < e) ↔ Covered regions a ∨ (base ≤ a ∧ a < stop)

theorem covered_cons : Covered (r :: regions) a ↔ r.Holds a ∨ Covered regions a :=
  List.exists_mem_cons_iff _ _ _

theorem mergeRegions_above (h : ∀ r ∈ regions, stop < r.base) :
    mergeRegions regions base stop = (regions, base, stop) := by
  induction regions with
  | nil => rfl
  | cons r rs ih =>
    have habove := h r List.mem_cons_self
    unfold mergeRegions
    rw [if_neg (by omega), ih fun x hx => h x (List.mem_cons_of_mem r hx)]

theorem mergeRegions_merged (hfilled : ∀ r ∈ regions, r.base < r.stop)
    (hapart : regions.Pairwise PhysicalRegion.Below) (hnew : base < stop) (hstop : stop ≤ uint64Max)
    (h : mergeRegions regions base stop = (kept, b, e)) : Merged regions base stop kept b e := by
  induction regions generalizing base stop kept b e with
  | nil =>
    obtain ⟨rfl, rfl, rfl⟩ : [] = kept ∧ base = b ∧ stop = e := by simpa [mergeRegions] using h
    exact ⟨.slnil, .inr rfl, hnew, hstop, by simp, fun x hx _ => hx, fun a => Iff.rfl⟩
  | cons r rs ih =>
    obtain ⟨hbelow, hrest⟩ := List.pairwise_cons.mp hapart
    have hr := hfilled r List.mem_cons_self
    have hrs : ∀ x ∈ rs, x.base < x.stop := fun x hx => hfilled x (List.mem_cons_of_mem r hx)
    have hle := stop_le hr
    unfold mergeRegions at h
    split at h
    next hmeets =>
      have hm := ih hrs hrest (by omega) (by omega) h
      refine ⟨hm.sub.cons r, .inl ?_, hm.filled, hm.bound, hm.apart, ?_, fun a => ?_⟩
      · have hlength := hm.sub.length_le
        rw [List.length_cons]
        omega
      · intro x hx hall
        have hlow := hall r List.mem_cons_self
        exact hm.low x (by omega) fun y hy => hall y (List.mem_cons_of_mem r hy)
      · have hgrown : (min r.base base ≤ a ∧ a < max r.stop stop) ↔ r.Holds a ∨ (base ≤ a ∧ a < stop) := by
          unfold PhysicalRegion.Holds
          omega
        rw [hm.covered a, covered_cons, hgrown, or_left_comm, or_assoc]
    next hmisses =>
      rcases hrest' : mergeRegions rs base stop with ⟨kept', b', e'⟩
      rw [hrest'] at h
      obtain ⟨rfl, rfl, rfl⟩ : r :: kept' = kept ∧ b' = b ∧ e' = e := by simpa using h
      have hm := ih hrs hrest hnew hstop hrest'
      refine ⟨hm.sub.cons_cons r, ?_, hm.filled, hm.bound, ?_, ?_, fun a => ?_⟩
      · rcases hm.same with hlt | rfl
        · exact .inl (Nat.succ_lt_succ hlt)
        · exact .inr rfl
      · intro x hx
        rcases List.mem_cons.mp hx with rfl | hx
        · rcases Nat.lt_or_ge x.stop base with hlt | hge
          · exact .inl (hm.low x.stop hlt hbelow)
          · -- the region starts above the new one, and so do all behind it
            have habove : stop < x.base := by omega
            have hsame : mergeRegions rs base stop = (rs, base, stop) := by
              refine mergeRegions_above fun y hy => ?_
              have hy' : x.stop < y.base := hbelow y hy
              omega
            obtain ⟨-, -, rfl⟩ : rs = kept' ∧ base = b' ∧ stop = e' := by
              simpa [hsame] using hrest'
            exact .inr habove
        · exact hm.apart x hx
      · intro x hx hall
        exact hm.low x hx fun y hy => hall y (List.mem_cons_of_mem r hy)
      · rw [covered_cons, covered_cons, or_assoc, hm.covered a, or_assoc]

theorem mem_insertRegion {x : PhysicalRegion} : x ∈ insertRegion new regions ↔ x = new ∨ x ∈ regions := by
  induction regions with
  | nil => simp [insertRegion]
  | cons r rs ih =>
    unfold insertRegion
    split
    · rw [List.mem_cons, ih, List.mem_cons, or_left_comm]
    · rw [List.mem_cons]

theorem length_insertRegion : (insertRegion new regions).length = regions.length + 1 := by
  induction regions with
  | nil => rfl
  | cons r rs ih =>
    unfold insertRegion
    split
    · rw [List.length_cons, ih, List.length_cons]
    · rfl

theorem insertRegion_apart (hfilled : ∀ r ∈ regions, r.base < r.stop)
    (hapart : regions.Pairwise PhysicalRegion.Below)
    (hnew : ∀ r ∈ regions, r.Below new ∨ new.Below r) (hvalid : new.base < new.stop) :
    (insertRegion new regions).Pairwise PhysicalRegion.Below := by
  induction regions with
  | nil => exact List.pairwise_singleton _ _
  | cons r rs ih =>
    obtain ⟨hbelow, hrest⟩ := List.pairwise_cons.mp hapart
    have hr := hfilled r List.mem_cons_self
    have hsides := hnew r List.mem_cons_self
    unfold PhysicalRegion.Below at hsides
    unfold insertRegion
    split
    next hlt =>
      refine List.pairwise_cons.mpr ⟨fun x hx => ?_, ih (fun x hx => hfilled x (List.mem_cons_of_mem r hx))
        hrest fun x hx => hnew x (List.mem_cons_of_mem r hx)⟩
      rcases mem_insertRegion.mp hx with rfl | hx
      · exact hsides.resolve_right (by omega)
      · exact hbelow x hx
    next hge =>
      have hnext : new.stop < r.base := hsides.resolve_left (by omega)
      refine List.pairwise_cons.mpr ⟨fun x hx => ?_, hapart⟩
      rcases List.mem_cons.mp hx with rfl | hx
      · exact hnext
      · have hx' : r.stop < x.base := hbelow x hx
        show new.stop < x.base
        omega

structure Added (regions : List PhysicalRegion) (new : PhysicalRegion)
    (result : Bool × List PhysicalRegion) : Prop where
  normalized : Normalized result.2
  covered : result.1 = true → ∀ a, Covered result.2 a ↔ Covered regions a ∨ new.Holds a
  refused : result.1 = false → result.2 = regions ∧
    (new.length = 0 ∨ new.base = uint64Max ∨ regions.length = maxMemoryRegions)

theorem addNormalizedRegion_added (h : Normalized regions) (length : Nat) (hbase : base ≤ uint64Max) :
    Added regions ⟨base, length⟩ (addNormalizedRegion regions base length) := by
  unfold addNormalizedRegion
  split
  next hzero => exact ⟨h, nofun, fun _ => ⟨rfl, .inl hzero⟩⟩
  next hlength =>
    dsimp only
    split
    next hempty =>
      refine ⟨h, nofun, fun _ => ⟨rfl, .inr (.inl ?_)⟩⟩
      show base = uint64Max
      unfold stop at hempty
      split at hempty <;> dsimp only at * <;> omega
    next hstop =>
      rcases hmerge : mergeRegions regions base (stop ⟨base, length⟩) with ⟨kept, b, e⟩
      have hm := mergeRegions_merged h.filled h.apart (not_le.mp hstop) (stop_le (not_le.mp hstop)) hmerge
      have hcount := h.count
      dsimp only
      split
      next hfull =>
        -- a merge makes room, so a full table is as it was
        obtain rfl : kept = regions := hm.same.resolve_left (by omega)
        exact ⟨h, nofun, fun _ => ⟨rfl, .inr (.inr (by omega))⟩⟩
      next hroom =>
        have hend := stop_eq hm.filled hm.bound
        refine ⟨⟨fun x hx => ?_, ?_, ?_⟩, fun _ a => ?_, nofun⟩
        · rcases mem_insertRegion.mp hx with rfl | hx
          · rw [hend]
            exact hm.filled
          · exact h.filled x (hm.sub.subset hx)
        · apply insertRegion_apart (fun x hx => h.filled x (hm.sub.subset hx)) (h.apart.sublist hm.sub)
          · intro x hx
            unfold PhysicalRegion.Below
            rw [hend]
            exact hm.apart x hx
          · rw [hend]
            exact hm.filled
        · dsimp only
          rw [length_insertRegion]
          omega
        · have hinsert : Covered (insertRegion ⟨b, e - b⟩ kept) a ↔ Covered kept a ∨ (b ≤ a ∧ a < e) := by
            unfold Covered
            simp only [mem_insertRegion, or_and_right, exists_or, exists_eq_left]
            unfold PhysicalRegion.Holds
            rw [hend, or_comm]
          exact hinsert.trans (hm.covered a)

end Regions

variable {map : MemoryMap} {base length : Nat}

def usableOf (calls : List RegionCall) (r : PhysicalRegion) : Prop :=
  ∃ base length, RegionCall.addUsable base length ∈ calls ∧ r = ⟨base.toNat, length.toNat⟩

def reservedOf (calls : List RegionCall) (r : PhysicalRegion) : Prop :=
  ∃ base length, RegionCall.reserve base length ∈ calls ∧ r = ⟨base.toNat, length.toNat⟩

theorem memoryRegionIsUsable_iff (husable : Normalized map.usable) (hreserved : Normalized map.reserved)
    (hbase : base ≤ uint64Max) :
    memoryRegionIsUsable map base length = true ↔ 0 < length ∧
      ∀ a, base ≤ a → a < base + length → Covered map.usable a ∧ ¬ Covered map.reserved a := by
  unfold memoryRegionIsUsable
  split
  next hbad =>
    refine ⟨nofun, fun ⟨hlength, hall⟩ => ?_⟩
    -- the last address is in no region
    obtain ⟨⟨r, hr, -, hlt⟩, -⟩ := hall uint64Max hbase (by omega)
    have hle := stop_le (husable.filled r hr)
    omega
  next hgood =>
    split
    next hmeets =>
      refine ⟨nofun, fun ⟨hlength, hall⟩ => ?_⟩
      obtain ⟨r, hr, hr'⟩ := List.any_eq_true.mp hmeets
      rw [Bool.and_eq_true, decide_eq_true_eq, decide_eq_true_eq] at hr'
      have hfilled := hreserved.filled r hr
      refine absurd ⟨r, hr, ?_⟩ (hall (max base r.base) (by omega) (by omega)).2
      unfold PhysicalRegion.Holds
      omega
    next hmisses =>
      rw [List.any_eq_true]
      simp only [Bool.and_eq_true, decide_eq_true_eq]
      constructor
      · rintro ⟨r, hr, hlow, hhigh⟩
        refine ⟨by omega, fun a hle hlt => ⟨⟨r, hr, ?_⟩, ?_⟩⟩
        · unfold PhysicalRegion.Holds
          omega
        · rintro ⟨r', hr', hlow', hhigh'⟩
          refine hmisses (List.any_eq_true.mpr ⟨r', hr', ?_⟩)
          rw [Bool.and_eq_true, decide_eq_true_eq, decide_eq_true_eq]
          omega
      · rintro ⟨hlength, hall⟩
        obtain ⟨⟨r, hr, hlow, hhigh⟩, -⟩ := hall base le_rfl (by omega)
        refine ⟨r, hr, hlow, ?_⟩
        by_contra hshort
        obtain ⟨⟨r', hr', hlow', hhigh'⟩, -⟩ := hall r.stop hhigh.le (by omega)
        have hne : r ≠ r' := by
          rintro rfl
          omega
        have hsides : r.stop < r'.base ∨ r'.stop < r.base := by
          obtain ⟨i, hi, rfl⟩ := List.getElem_of_mem hr
          obtain ⟨j, hj, rfl⟩ := List.getElem_of_mem hr'
          have hsorted := List.pairwise_iff_getElem.mp husable.apart
          rcases Nat.lt_trichotomy i j with hlt | rfl | hgt
          · exact .inl (hsorted i j hi hj hlt)
          · exact absurd rfl hne
          · exact .inr (hsorted j i hj hi hgt)
        have hfilled := husable.filled r hr
        omega

/-- What holds of the tables when the calls that were accepted are known. -/
structure RegionsSafe (accepted : List RegionCall) (map : MemoryMap) : Prop where
  usable : Normalized map.usable
  reserved : Normalized map.reserved
  usable_covered : ∀ a, Covered map.usable a ↔ ∃ r, usableOf accepted r ∧ r.Holds a
  reserved_covered : ∀ a, Covered map.reserved a ↔ ∃ r, reservedOf accepted r ∧ r.Holds a

theorem toNat_le (n : UInt64) : n.toNat ≤ uint64Max := Nat.le_of_lt_succ n.toNat_lt

theorem RegionsSafe.call {done : List RegionCall} (h : RegionsSafe done map) (c : RegionCall) :
    ((map.call c).1 = true → RegionsSafe (done ++ [c]) (map.call c).2) ∧
      ((map.call c).1 = false → (map.call c).2 = map) := by
  cases c with
  | addUsable base length =>
    have hadded := addNormalizedRegion_added h.usable length.toNat (toNat_le base)
    refine ⟨fun haccepted => ⟨hadded.normalized, h.reserved, fun a => ?_, fun a => ?_⟩, fun hrefused => ?_⟩
    · refine (hadded.covered haccepted a).trans ?_
      simp [h.usable_covered, usableOf, or_and_right, exists_or]
    · refine (h.reserved_covered a).trans ?_
      simp [reservedOf]
    · have hsame : (addNormalizedRegion map.usable base.toNat length.toNat).2 = map.usable :=
        (hadded.refused hrefused).1
      show { map with usable := (addNormalizedRegion map.usable base.toNat length.toNat).2 } = map
      rw [hsame]
  | reserve base length =>
    have hadded := addNormalizedRegion_added h.reserved length.toNat (toNat_le base)
    refine ⟨fun haccepted => ⟨h.usable, hadded.normalized, fun a => ?_, fun a => ?_⟩, fun hrefused => ?_⟩
    · refine (h.usable_covered a).trans ?_
      simp [usableOf]
    · refine (hadded.covered haccepted a).trans ?_
      simp [h.reserved_covered, reservedOf, or_and_right, exists_or]
    · have hsame : (addNormalizedRegion map.reserved base.toNat length.toNat).2 = map.reserved :=
        (hadded.refused hrefused).1
      show { map with reserved := (addNormalizedRegion map.reserved base.toNat length.toNat).2 } = map
      rw [hsame]

theorem RegionsSafe.run {done : List RegionCall} (h : RegionsSafe done map) (calls : List RegionCall) :
    RegionsSafe (done ++ map.accepted calls) (map.run calls) := by
  induction calls generalizing map done with
  | nil => simpa [MemoryMap.accepted, MemoryMap.run] using h
  | cons c calls ih =>
    obtain ⟨haccepted, hrefused⟩ := h.call c
    unfold MemoryMap.accepted
    split
    next hok =>
      have hrest := ih (haccepted hok)
      rw [List.append_assoc] at hrest
      exact hrest
    next hno =>
      have hsame := hrefused (by simpa using hno)
      show RegionsSafe _ ((map.call c).2.run calls)
      rw [hsame]
      exact ih h

/-- After any calls the tables are normalized and cover what was accepted, the query answers by
that, and a call that is refused changes nothing. -/
theorem memoryRegions_normalized (stackEnd : Nat) (calls : List RegionCall) :
    RegionsSafe ((memoryMapReset stackEnd).accepted calls) ((memoryMapReset stackEnd).run calls) ∧
      (∀ base length : UInt64,
        memoryRegionIsUsable ((memoryMapReset stackEnd).run calls) base.toNat length.toNat = true ↔
          0 < length.toNat ∧ ∀ a, base.toNat ≤ a → a < base.toNat + length.toNat →
            (∃ r, usableOf ((memoryMapReset stackEnd).accepted calls) r ∧ r.Holds a) ∧
            ¬ ∃ r, reservedOf ((memoryMapReset stackEnd).accepted calls) r ∧ r.Holds a) ∧
      ∀ c, (((memoryMapReset stackEnd).run calls).call c).1 = false →
        (((memoryMapReset stackEnd).run calls).call c).2 = (memoryMapReset stackEnd).run calls := by
  have hempty : Normalized [] := ⟨by simp, List.Pairwise.nil, by simp⟩
  have hreset : RegionsSafe [] (memoryMapReset stackEnd) := by
    refine ⟨hempty, hempty, fun a => ?_, fun a => ?_⟩ <;>
      simp [Covered, memoryMapReset, usableOf, reservedOf]
  have hrun : RegionsSafe _ _ := hreset.run calls
  rw [List.nil_append] at hrun
  refine ⟨hrun, fun base length => ?_, fun c => (hrun.call c).2⟩
  rw [memoryRegionIsUsable_iff hrun.usable hrun.reserved (toNat_le base)]
  simp only [hrun.usable_covered, hrun.reserved_covered]

/-- A page that is reserved inside a usable region is not usable, though the usable regions hold it. -/
theorem memoryRegionIsUsable_reserved : ¬ ∀ (stackEnd : Nat) (calls : List RegionCall) (base length : UInt64),
    memoryRegionIsUsable ((memoryMapReset stackEnd).run calls) base.toNat length.toNat = true ↔
      ∀ a, base.toNat ≤ a → a < base.toNat + length.toNat →
        ∃ r, usableOf ((memoryMapReset stackEnd).accepted calls) r ∧ r.Holds a := by
  intro hquery
  have hno := (hquery 0 [.addUsable 0 0x2000, .reserve 0x1000 0x1000] 0x1000 0x10).mpr fun a hlow hhigh => by
    refine ⟨⟨0, 0x2000⟩, ⟨0, 0x2000, List.mem_cons_self, rfl⟩, Nat.zero_le a, ?_⟩
    show a < 0x2000
    have hend : (0x1000 : UInt64).toNat + (0x10 : UInt64).toNat = 0x1010 := rfl
    omega
  revert hno
  decide

section Canonical

variable {regions others : List PhysicalRegion} {a : Nat}

def bounds (regions : List PhysicalRegion) : List (Nat × Nat) := regions.map fun r => (r.base, r.stop)

theorem Normalized.unique (h : Normalized regions) (h' : Normalized others)
    (hsame : ∀ a, Covered regions a ↔ Covered others a) : bounds regions = bounds others := by
  obtain ⟨hfilled, hapart, -⟩ := h
  obtain ⟨hfilled', hapart', -⟩ := h'
  induction regions generalizing others with
  | nil =>
    cases others with
    | nil => rfl
    | cons q qs =>
      have hq := hfilled' q List.mem_cons_self
      obtain ⟨r, hr, -⟩ := (hsame q.base).mpr (covered_cons.mpr (.inl ⟨le_rfl, hq⟩))
      cases hr
  | cons r rs ih =>
    cases others with
    | nil =>
      have hr := hfilled r List.mem_cons_self
      obtain ⟨q, hq, -⟩ := (hsame r.base).mp (covered_cons.mpr (.inl ⟨le_rfl, hr⟩))
      cases hq
    | cons q qs =>
      obtain ⟨hr, hrs⟩ := List.forall_mem_cons.mp hfilled
      obtain ⟨hq, hqs⟩ := List.forall_mem_cons.mp hfilled'
      obtain ⟨hbelow, hrest⟩ := List.pairwise_cons.mp hapart
      obtain ⟨hbelow', hrest'⟩ := List.pairwise_cons.mp hapart'
      have hbehind : ∀ a, Covered rs a → r.stop < a := fun a ⟨x, hx, hlow, _⟩ => (hbelow x hx).trans_le hlow
      have hbehind' : ∀ a, Covered qs a → q.stop < a := fun a ⟨x, hx, hlow, _⟩ => (hbelow' x hx).trans_le hlow
      simp only [covered_cons, Holds] at hsame
      have hbase : r.base = q.base := by grind
      have hstop : r.stop = q.stop := by
        have hend := hsame r.stop
        have hend' := hsame q.stop
        grind
      have hrest := ih (fun a => by grind) hrs hrest hqs hrest'
      rw [bounds, List.map_cons, hbase, hstop]
      exact congrArg _ hrest

end Canonical

/-- The tables depend on the addresses that were accepted and on nothing else about the calls: their
order, their number and how they overlap do not matter. -/
theorem memoryRegions_canonical (stackEnd : Nat) (calls calls' : List RegionCall) :
    let map := memoryMapReset stackEnd
    (bounds (map.run calls).usable = bounds (map.run calls').usable ↔
      ∀ a, (∃ r, usableOf (map.accepted calls) r ∧ r.Holds a) ↔
        ∃ r, usableOf (map.accepted calls') r ∧ r.Holds a) ∧
    (bounds (map.run calls).reserved = bounds (map.run calls').reserved ↔
      ∀ a, (∃ r, reservedOf (map.accepted calls) r ∧ r.Holds a) ↔
        ∃ r, reservedOf (map.accepted calls') r ∧ r.Holds a) := by
  intro map
  have hreset : RegionsSafe [] map := by
    have hempty : Normalized [] := ⟨by simp, List.Pairwise.nil, by simp⟩
    refine ⟨hempty, hempty, fun a => ?_, fun a => ?_⟩ <;>
      simp [map, Covered, memoryMapReset, usableOf, reservedOf]
  have hbounds : ∀ {xs ys}, Normalized xs → Normalized ys →
      (bounds xs = bounds ys ↔ ∀ a, Covered xs a ↔ Covered ys a) := by
    have hcovered : ∀ xs a, Covered xs a ↔ ∃ p ∈ bounds xs, p.1 ≤ a ∧ a < p.2 := by
      simp [Covered, bounds, Holds]
    intro xs ys hx hy
    exact ⟨fun h a => by rw [hcovered, h, hcovered], hx.unique hy⟩
  have h := hreset.run calls
  have h' := hreset.run calls'
  rw [List.nil_append] at h h'
  constructor
  · simpa only [h.usable_covered, h'.usable_covered] using hbounds h.usable h'.usable
  · simpa only [h.reserved_covered, h'.reserved_covered] using hbounds h.reserved h'.reserved

end ReistOs.Frames
