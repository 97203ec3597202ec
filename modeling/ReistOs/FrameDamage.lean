import Mathlib.Tactic

/-! The damage rectangles of one framebuffer frame transaction. -/

namespace ReistOs

structure DisplayFrameRect where
  x : UInt32
  y : UInt32
  width : UInt32
  height : UInt32

def displayFrameDamageCapacity : Nat := 8

/-- The fields that a frame touches; `damage` is the used part of its array. -/
structure DisplayFrameTransaction where
  screenWidth : UInt32
  screenHeight : UInt32
  ownerPid : Int := 0
  ownerGeneration : UInt32 := 0
  serial : UInt32 := 0
  nextSerial : UInt32 := 1
  deadlineMs : UInt64 := 0
  damage : List DisplayFrameRect := []
  transitionDamage : List DisplayFrameRect := []
  transitionOwnerPid : Int := 0
  transitionOwnerGeneration : UInt32 := 0
  transitionAction : UInt32 := 0
  active : Bool := false
  drawActive : Bool := false
  transitioning : Bool := false

namespace DisplayFrameRect

-- A sum of two 32-bit values never wraps in 64 bits.
def right (r : DisplayFrameRect) : Nat := r.x.toNat + r.width.toNat
def bottom (r : DisplayFrameRect) : Nat := r.y.toNat + r.height.toNat
def area (r : DisplayFrameRect) : Nat := r.width.toNat * r.height.toNat

def Covers (r : DisplayFrameRect) (px py : Nat) : Prop :=
  r.x.toNat ≤ px ∧ px < r.right ∧ r.y.toNat ≤ py ∧ py < r.bottom

structure OnScreen (width height : UInt32) (r : DisplayFrameRect) : Prop where
  wide : r.x.toNat < r.right
  right_le : r.right ≤ width.toNat
  tall : r.y.toNat < r.bottom
  bottom_le : r.bottom ≤ height.toNat

end DisplayFrameRect

def rectIntersects (left right : DisplayFrameRect) : Bool :=
  left.x.toNat < right.right && right.x.toNat < left.right &&
    left.y.toNat < right.bottom && right.y.toNat < left.bottom

def rectUnion (left right : DisplayFrameRect) : DisplayFrameRect :=
  let x := if left.x < right.x then left.x else right.x
  let y := if left.y < right.y then left.y else right.y
  ⟨x, y, UInt32.ofNat (max left.right right.right - x.toNat),
    UInt32.ofNat (max left.bottom right.bottom - y.toNat)⟩

def rectMergeEfficient (left right combined : DisplayFrameRect) : Bool :=
  if 2 ^ 64 - 1 - left.area < right.area then true
  else if (2 ^ 64 - 1) / 2 < left.area + right.area then true
  else combined.area ≤ (left.area + right.area) * 2

def setFullDamage (s : DisplayFrameTransaction) : DisplayFrameTransaction :=
  { s with damage := [⟨0, 0, s.screenWidth, s.screenHeight⟩] }

/-- The variables of the merge loop. -/
structure DamageMerge where
  rect : DisplayFrameRect
  damage : List DisplayFrameRect
  index : Nat

/-- The last rectangle takes the place of the one at `index`. -/
def removeDamage (damage : List DisplayFrameRect) (index : Nat) : List DisplayFrameRect :=
  match damage.getLast? with
  | none => damage
  | some last => damage.dropLast.set index last

/-- One turn of the merge loop, none once `index` has passed the rectangles. -/
def mergeStep (s : DamageMerge) : Option DamageMerge :=
  match s.damage[s.index]? with
  | none => none
  | some stored =>
    if ¬ rectIntersects s.rect stored then some { s with index := s.index + 1 }
    else if ¬ rectMergeEfficient s.rect stored (rectUnion s.rect stored) then
      some { s with index := s.index + 1 }
    -- The union may now intersect an earlier rectangle.
    else some ⟨rectUnion s.rect stored, removeDamage s.damage s.index, 0⟩

theorem removeDamage_length {damage : List DisplayFrameRect} {index : Nat} :
    (removeDamage damage index).length = damage.length - 1 := by
  unfold removeDamage
  split
  next h => simp [List.getLast?_eq_none_iff.mp h]
  next last h => rw [List.length_set, List.length_dropLast]

/-- The loop variant: fewer rectangles, or as many with fewer left to look at. -/
def DamageMerge.left (s : DamageMerge) : Nat ×ₗ Nat :=
  toLex (s.damage.length, s.damage.length - s.index)

theorem mergeStep_left {s t : DamageMerge} (h : mergeStep s = some t) : t.left < s.left := by
  unfold mergeStep at h
  split at h
  next => cases h
  next stored hstored =>
    have hin : s.index < s.damage.length := (List.getElem?_eq_some_iff.mp hstored).1
    have hnext : (DamageMerge.mk s.rect s.damage (s.index + 1)).left < s.left := by
      apply Prod.Lex.toLex_lt_toLex.mpr
      right
      exact ⟨rfl, by dsimp only; omega⟩
    split at h
    next => obtain rfl := Option.some.inj h; exact hnext
    next =>
      split at h
      next => obtain rfl := Option.some.inj h; exact hnext
      next =>
        obtain rfl := Option.some.inj h
        apply Prod.Lex.toLex_lt_toLex.mpr
        left
        have hlen := @removeDamage_length s.damage s.index
        dsimp only
        omega

/-- The merge loop ends from every state. -/
theorem mergeStep_wellFounded : WellFounded fun t s => mergeStep s = some t :=
  Subrelation.wf mergeStep_left (InvImage.wf DamageMerge.left wellFounded_lt)

def mergeLoop (s : DamageMerge) : DamageMerge :=
  match _h : mergeStep s with
  | none => s
  | some t => mergeLoop t
termination_by s.left
decreasing_by exact mergeStep_left _h

def clipRect (width height : UInt32) (rect : DisplayFrameRect) : DisplayFrameRect :=
  { rect with
    width := if width - rect.x < rect.width then width - rect.x else rect.width
    height := if height - rect.y < rect.height then height - rect.y else rect.height }

/-- The transaction after the call and whether the rectangle was taken. -/
def displayFrameRecordDamage (s : DisplayFrameTransaction) (rect : DisplayFrameRect) :
    DisplayFrameTransaction × Bool :=
  if ¬ s.active then (s, false)
  else if rect.width = 0 ∨ rect.height = 0 ∨ s.screenWidth ≤ rect.x ∨ s.screenHeight ≤ rect.y then
    (s, true)
  else
    let m := mergeLoop ⟨clipRect s.screenWidth s.screenHeight rect, s.damage, 0⟩
    if m.damage.length = displayFrameDamageCapacity then (setFullDamage s, true)
    else ({ s with damage := m.damage ++ [m.rect] }, true)

/-- A new frame and its serial, or the error. -/
def displayFrameBegin (s : DisplayFrameTransaction) (ownerPid : Int) (ownerGeneration : UInt32)
    (nowMs : UInt64) : Except Int (DisplayFrameTransaction × UInt32) :=
  if ¬ 0 < ownerPid ∨ ownerGeneration = 0 ∨ s.screenWidth = 0 ∨ s.screenHeight = 0 then .error (-22)
  else if s.active ∨ s.drawActive ∨ s.transitioning then .error (-16)
  else
    let serial := if s.nextSerial = 0 then 1 else s.nextSerial
    .ok ({ s with
      nextSerial := if serial = 0xFFFFFFFF then 1 else serial + 1
      ownerPid := ownerPid
      ownerGeneration := ownerGeneration
      serial := serial
      deadlineMs := if 0xFFFFFFFFFFFFFFFF - 2000 < nowMs then 0xFFFFFFFFFFFFFFFF else nowMs + 2000
      damage := []
      active := true }, serial)

/-- The damage that a publish (1) or a restore (2) hands out, and the state that keeps it. -/
def prepareTransition (s : DisplayFrameTransaction) (action : UInt32) :
    Except Int (DisplayFrameTransaction × List DisplayFrameRect) :=
  if action ≠ 1 ∧ action ≠ 2 then .error (-22)
  else if s.drawActive ∨ s.transitioning then .error (-16)
  else .ok ({ s with
    transitionDamage := s.damage
    transitionOwnerPid := s.ownerPid
    transitionOwnerGeneration := s.ownerGeneration
    transitionAction := action
    active := false
    ownerPid := 0
    ownerGeneration := 0
    serial := 0
    deadlineMs := 0
    damage := []
    transitioning := true }, s.damage)

section Merge

variable {width height : UInt32} {a b : DisplayFrameRect} {damage : List DisplayFrameRect}
  {pixels : Nat → Nat → Prop} {px py : Nat}

theorem least_toNat (a b : UInt32) : (if a < b then a else b).toNat = min a.toNat b.toNat := by
  have hlt := @UInt32.lt_iff_toNat_lt a b
  split
  next h => exact (Nat.min_eq_left (hlt.mp h).le).symm
  next h => exact (Nat.min_eq_right (Nat.le_of_not_lt (mt hlt.mpr h))).symm

/-- The far edge of a union, whose length fits in 32 bits on the screen. -/
theorem union_edge {x y far : Nat} (h : far < 2 ^ 32) (hx : min x y ≤ far) :
    min x y + (UInt32.ofNat (far - min x y)).toNat = far := by
  rw [UInt32.toNat_ofNat', Nat.mod_eq_of_lt (by omega)]
  omega

theorem rectUnion_edges (ha : a.OnScreen width height) (hb : b.OnScreen width height) :
    (rectUnion a b).x.toNat = min a.x.toNat b.x.toNat ∧
      (rectUnion a b).right = max a.right b.right ∧
      (rectUnion a b).y.toNat = min a.y.toNat b.y.toNat ∧
      (rectUnion a b).bottom = max a.bottom b.bottom := by
  have hwidth := width.toNat_lt
  have hheight := height.toNat_lt
  obtain ⟨hax, haw, hay, hah⟩ := ha
  obtain ⟨hbx, hbw, hby, hbh⟩ := hb
  refine ⟨least_toNat _ _, ?_, least_toNat _ _, ?_⟩
  · rw [DisplayFrameRect.right, rectUnion]
    rw [least_toNat]
    exact union_edge (by omega) (by omega)
  · rw [DisplayFrameRect.bottom, rectUnion]
    rw [least_toNat]
    exact union_edge (by omega) (by omega)

theorem rectUnion_onScreen (ha : a.OnScreen width height) (hb : b.OnScreen width height) :
    (rectUnion a b).OnScreen width height := by
  obtain ⟨hx, hr, hy, hl⟩ := rectUnion_edges ha hb
  obtain ⟨hax, haw, hay, hah⟩ := ha
  obtain ⟨hbx, hbw, hby, hbh⟩ := hb
  constructor <;> omega

theorem rectUnion_covers (ha : a.OnScreen width height) (hb : b.OnScreen width height)
    (h : a.Covers px py ∨ b.Covers px py) : (rectUnion a b).Covers px py := by
  obtain ⟨hx, hr, hy, hl⟩ := rectUnion_edges ha hb
  unfold DisplayFrameRect.Covers at h ⊢
  omega

theorem clipRect_edges (hx : a.x < width) (hy : a.y < height) :
    (clipRect width height a).right = min a.right width.toNat ∧
      (clipRect width height a).bottom = min a.bottom height.toNat := by
  have hx' := UInt32.lt_iff_toNat_lt.mp hx
  have hy' := UInt32.lt_iff_toNat_lt.mp hy
  have hw := UInt32.toNat_sub_of_le _ _ (UInt32.le_iff_toNat_le.mpr hx'.le)
  have hh := UInt32.toNat_sub_of_le _ _ (UInt32.le_iff_toNat_le.mpr hy'.le)
  simp only [DisplayFrameRect.right, DisplayFrameRect.bottom, clipRect, least_toNat, hw, hh]
  omega

theorem mem_removeDamage {index : Nat} {d : DisplayFrameRect} (h : d ∈ removeDamage damage index) :
    d ∈ damage := by
  unfold removeDamage at h
  split at h
  next => exact h
  next last hlast =>
    rcases List.mem_or_eq_of_mem_set h with hd | rfl
    · exact List.mem_of_mem_dropLast hd
    · exact List.mem_of_getLast? hlast

/-- Only the rectangle at `index` is gone. -/
theorem mem_or_removeDamage {index : Nat} {stored d : DisplayFrameRect}
    (hstored : damage[index]? = some stored) (h : d ∈ damage) :
    d = stored ∨ d ∈ removeDamage damage index := by
  rcases List.eq_nil_or_concat damage with rfl | ⟨before, last, rfl⟩
  · cases h
  · rw [List.concat_eq_append] at h hstored ⊢
    have hremove : removeDamage (before ++ [last]) index = before.set index last := by
      simp [removeDamage]
    rw [hremove]
    by_cases hin : index < before.length
    · have hlast : last ∈ before.set index last := List.mem_set hin last
      rcases List.mem_append.mp h with hd | hd
      · obtain ⟨j, hj, rfl⟩ := List.getElem_of_mem hd
        by_cases heq : index = j
        · left
          subst heq
          rw [List.getElem?_append_left hin] at hstored
          exact (List.getElem?_eq_some_iff.mp hstored).2
        · right
          have hkeep : (before.set index last)[j]? = some before[j] := by
            rw [List.getElem?_set_ne heq]
            exact List.getElem?_eq_getElem hj
          exact List.mem_of_getElem? hkeep
      · exact Or.inr (List.mem_singleton.mp hd ▸ hlast)
    · rw [List.set_eq_of_length_le (by omega)]
      rcases List.mem_append.mp h with hd | hd
      · exact Or.inr hd
      · left
        have hend : index < (before ++ [last]).length := (List.getElem?_eq_some_iff.mp hstored).1
        have hindex : index = before.length := by simp at hend; omega
        subst hindex
        rw [List.mem_singleton.mp hd]
        simpa using hstored

/-- What the merge loop keeps: the pixels still to be recorded are in the open or a stored rectangle. -/
structure DamageMerge.Holds (width height : UInt32) (pixels : Nat → Nat → Prop)
    (s : DamageMerge) : Prop where
  rect : s.rect.OnScreen width height
  damage : ∀ d ∈ s.damage, d.OnScreen width height
  count : s.damage.length ≤ displayFrameDamageCapacity
  covers : ∀ px py, pixels px py → s.rect.Covers px py ∨ ∃ d ∈ s.damage, d.Covers px py

theorem mergeStep_holds {s t : DamageMerge} (h : mergeStep s = some t)
    (hs : s.Holds width height pixels) : t.Holds width height pixels := by
  unfold mergeStep at h
  split at h
  next => cases h
  next stored hstored =>
    have hnext : (DamageMerge.mk s.rect s.damage (s.index + 1)).Holds width height pixels :=
      ⟨hs.rect, hs.damage, hs.count, hs.covers⟩
    split at h
    next => obtain rfl := Option.some.inj h; exact hnext
    next =>
      split at h
      next => obtain rfl := Option.some.inj h; exact hnext
      next =>
        obtain rfl := Option.some.inj h
        have hon := hs.damage stored (List.mem_of_getElem? hstored)
        constructor
        · exact rectUnion_onScreen hs.rect hon
        · intro d hd
          exact hs.damage d (mem_removeDamage hd)
        · have hcount := hs.count
          rw [removeDamage_length]
          omega
        · intro px py hp
          rcases hs.covers px py hp with hr | ⟨d, hd, hc⟩
          · exact Or.inl (rectUnion_covers hs.rect hon (Or.inl hr))
          · rcases mem_or_removeDamage hstored hd with rfl | hkept
            · exact Or.inl (rectUnion_covers hs.rect hon (Or.inr hc))
            · exact Or.inr ⟨d, hkept, hc⟩

theorem mergeLoop_holds (s : DamageMerge) (hs : s.Holds width height pixels) :
    (mergeLoop s).Holds width height pixels := by
  induction s using mergeLoop.induct with
  | case1 s h => rw [mergeLoop.eq_def, h]; exact hs
  | case2 s t h ih => rw [mergeLoop.eq_def, h]; exact ih (mergeStep_holds h hs)

end Merge

/-- The pixels on the screen that the frame has to publish are in its rectangles. -/
structure DisplayFrameTransaction.Records (pixels : Nat → Nat → Prop)
    (s : DisplayFrameTransaction) : Prop where
  active : s.active = true
  wide : 0 < s.screenWidth.toNat
  tall : 0 < s.screenHeight.toNat
  onScreen : ∀ d ∈ s.damage, d.OnScreen s.screenWidth s.screenHeight
  count : s.damage.length ≤ displayFrameDamageCapacity
  covers : ∀ px py, pixels px py → px < s.screenWidth.toNat → py < s.screenHeight.toNat →
    ∃ d ∈ s.damage, d.Covers px py

section Record

variable {s t : DisplayFrameTransaction} {pixels : Nat → Nat → Prop} {rect : DisplayFrameRect}

theorem displayFrameRecordDamage_screen :
    (displayFrameRecordDamage s rect).1.screenWidth = s.screenWidth ∧
      (displayFrameRecordDamage s rect).1.screenHeight = s.screenHeight := by
  simp only [displayFrameRecordDamage, setFullDamage]
  split_ifs <;> exact ⟨rfl, rfl⟩

theorem displayFrameRecordDamage_run_screen (rects : List DisplayFrameRect) :
    (rects.foldl (fun s r => (displayFrameRecordDamage s r).1) s).screenWidth = s.screenWidth ∧
      (rects.foldl (fun s r => (displayFrameRecordDamage s r).1) s).screenHeight =
        s.screenHeight := by
  induction rects generalizing s with
  | nil => exact ⟨rfl, rfl⟩
  | cons r rects ih =>
    obtain ⟨hwidth, hheight⟩ := @displayFrameRecordDamage_screen s r
    obtain ⟨hw, hh⟩ := @ih (displayFrameRecordDamage s r).1
    exact ⟨hw.trans hwidth, hh.trans hheight⟩

/-- The whole screen covers whatever was or will be recorded. -/
theorem setFullDamage_records {shown : Nat → Nat → Prop} (hs : s.Records pixels) :
    (setFullDamage s).Records shown := by
  have hon : DisplayFrameRect.OnScreen s.screenWidth s.screenHeight
      ⟨0, 0, s.screenWidth, s.screenHeight⟩ := by
    have hw := hs.wide
    have hh := hs.tall
    constructor <;> simp [DisplayFrameRect.right, DisplayFrameRect.bottom, hw, hh]
  refine ⟨hs.active, hs.wide, hs.tall, ?_, ?_, ?_⟩
  · intro d hd
    rw [List.mem_singleton.mp hd]
    exact hon
  · show 1 ≤ 8
    omega
  · intro px py _ hx hy
    refine ⟨_, List.mem_singleton.mpr rfl, ?_⟩
    simpa [DisplayFrameRect.Covers, DisplayFrameRect.right, DisplayFrameRect.bottom] using ⟨hx, hy⟩

theorem displayFrameRecordDamage_records (hs : s.Records pixels) :
    (displayFrameRecordDamage s rect).1.Records fun px py => pixels px py ∨ rect.Covers px py := by
  unfold displayFrameRecordDamage
  rw [if_neg (by simp [hs.active])]
  split
  next hempty =>
    -- an empty rectangle, or one whose corner is beyond the screen
    refine ⟨hs.active, hs.wide, hs.tall, hs.onScreen, hs.count, ?_⟩
    rintro px py (hp | ⟨hx, hr, hy, hb⟩) hpx hpy
    · exact hs.covers px py hp hpx hpy
    · exfalso
      simp only [DisplayFrameRect.right, DisplayFrameRect.bottom] at hr hb hpx hpy
      rcases hempty with h | h | h | h
      · rw [h, UInt32.toNat_zero] at hr; omega
      · rw [h, UInt32.toNat_zero] at hb; omega
      · have := UInt32.le_iff_toNat_le.mp h; omega
      · have := UInt32.le_iff_toNat_le.mp h; omega
  next hplace =>
    push Not at hplace
    obtain ⟨hwidth, hheight, hx, hy⟩ := hplace
    have hx := UInt32.not_le.mp hx
    have hy := UInt32.not_le.mp hy
    have hwide := UInt32.lt_iff_toNat_lt.mp hx
    have htall := UInt32.lt_iff_toNat_lt.mp hy
    have hw : 0 < rect.width.toNat := UInt32.pos_iff_ne_zero.mpr hwidth
    have hh : 0 < rect.height.toNat := UInt32.pos_iff_ne_zero.mpr hheight
    obtain ⟨hright, hbottom⟩ := clipRect_edges hx hy
    have hclip : (clipRect s.screenWidth s.screenHeight rect).OnScreen
        s.screenWidth s.screenHeight := by
      refine ⟨?_, by omega, ?_, by omega⟩
      · rw [hright]
        show rect.x.toNat < min (rect.x.toNat + rect.width.toNat) s.screenWidth.toNat
        omega
      · rw [hbottom]
        show rect.y.toNat < min (rect.y.toNat + rect.height.toNat) s.screenHeight.toNat
        omega
    have hloop := mergeLoop_holds ⟨clipRect s.screenWidth s.screenHeight rect, s.damage, 0⟩
      (show DamageMerge.Holds s.screenWidth s.screenHeight (fun px py =>
          (pixels px py ∨ rect.Covers px py) ∧ px < s.screenWidth.toNat ∧
            py < s.screenHeight.toNat) _ from by
        refine ⟨hclip, hs.onScreen, hs.count, ?_⟩
        rintro px py ⟨hp | ⟨hl, hr, ht, hb⟩, hpx, hpy⟩
        · exact Or.inr (hs.covers px py hp hpx hpy)
        · exact Or.inl ⟨hl, by rw [hright]; omega, ht, by rw [hbottom]; omega⟩)
    dsimp only
    split
    next hfull => exact setFullDamage_records hs
    next hroom =>
      refine ⟨hs.active, hs.wide, hs.tall, ?_, ?_, ?_⟩
      · intro d hd
        rcases List.mem_append.mp hd with hd | hd
        · exact hloop.damage d hd
        · rw [List.mem_singleton.mp hd]
          exact hloop.rect
      · have hcount := hloop.count
        rw [List.length_append, List.length_singleton]
        omega
      · intro px py hp hpx hpy
        rcases hloop.covers px py ⟨hp, hpx, hpy⟩ with hc | ⟨d, hd, hc⟩
        · exact ⟨_, List.mem_append_right _ (List.mem_singleton.mpr rfl), hc⟩
        · exact ⟨d, List.mem_append_left _ hd, hc⟩

theorem displayFrameRecordDamage_run (rects : List DisplayFrameRect) (hs : s.Records pixels) :
    (rects.foldl (fun s r => (displayFrameRecordDamage s r).1) s).Records
      (fun px py => pixels px py ∨ ∃ r ∈ rects, r.Covers px py) := by
  induction rects generalizing s pixels with
  | nil => simpa using hs
  | cons r rects ih =>
    have hrest := ih (@displayFrameRecordDamage_records s pixels r hs)
    simpa [or_assoc] using hrest

theorem displayFrameBegin_records {ownerPid : Int} {ownerGeneration serial : UInt32}
    {nowMs : UInt64} (h : displayFrameBegin s ownerPid ownerGeneration nowMs = .ok (t, serial)) :
    t.Records (fun _ _ => False) ∧ t.screenWidth = s.screenWidth ∧
      t.screenHeight = s.screenHeight := by
  unfold displayFrameBegin at h
  split at h
  next => cases h
  next hvalid =>
    split at h
    next => cases h
    next =>
      push Not at hvalid
      obtain ⟨-, -, hwide, htall⟩ := hvalid
      obtain ⟨rfl, -⟩ := Prod.mk.inj (Except.ok.inj h)
      refine ⟨⟨rfl, UInt32.pos_iff_ne_zero.mpr hwide, UInt32.pos_iff_ne_zero.mpr htall, ?_,
        Nat.zero_le _, ?_⟩, rfl, rfl⟩
      · intro d hd
        cases hd
      · intro px py hp
        exact hp.elim

end Record

/-- The rectangles of a frame stay on the screen, fit in their array and cover every on-screen pixel
recorded since the frame began; the transition hands them out. -/
theorem displayFrameRecordDamage_complete {s t : DisplayFrameTransaction} {ownerPid : Int}
    {ownerGeneration serial : UInt32} {nowMs : UInt64}
    (h : displayFrameBegin s ownerPid ownerGeneration nowMs = .ok (t, serial))
    (rects : List DisplayFrameRect) :
    let u := rects.foldl (fun s r => (displayFrameRecordDamage s r).1) t
    (∀ r ∈ rects, ∀ px py, r.Covers px py → px < s.screenWidth.toNat →
      py < s.screenHeight.toNat → ∃ d ∈ u.damage, d.Covers px py) ∧
    (∀ d ∈ u.damage, d.OnScreen s.screenWidth s.screenHeight) ∧
    u.damage.length ≤ displayFrameDamageCapacity ∧
    (∀ action v out, prepareTransition u action = .ok (v, out) →
      out = u.damage ∧ v.transitionDamage = u.damage) ∧
    WellFounded fun next loop => mergeStep loop = some next := by
  intro u
  obtain ⟨hstart, hwidth, hheight⟩ := displayFrameBegin_records h
  have hu : u.Records (fun px py => False ∨ ∃ r ∈ rects, r.Covers px py) :=
    displayFrameRecordDamage_run rects hstart
  have hscreen : u.screenWidth = t.screenWidth ∧ u.screenHeight = t.screenHeight :=
    displayFrameRecordDamage_run_screen rects
  rw [← hwidth, ← hheight, ← hscreen.1, ← hscreen.2]
  refine ⟨?_, hu.onScreen, hu.count, ?_, mergeStep_wellFounded⟩
  · intro r hr px py hc hpx hpy
    exact hu.covers px py (Or.inr ⟨r, hr, hc⟩) hpx hpy
  · intro action v out hv
    unfold prepareTransition at hv
    split at hv
    next => cases hv
    next =>
      split at hv
      next => cases hv
      next =>
        obtain ⟨rfl, rfl⟩ := Prod.mk.inj (Except.ok.inj hv)
        exact ⟨rfl, rfl⟩

/-- The second rectangle begins on the screen and ends beyond 2^32. -/
theorem displayFrameRecordDamage_complete_overflowing :
    let s : DisplayFrameTransaction := { screenWidth := 640, screenHeight := 480 }
    let t := { s with
      nextSerial := 2, ownerPid := 7, ownerGeneration := 3, serial := 1, deadlineMs := 2100
      active := true }
    let u := [⟨10, 10, 20, 20⟩, ⟨600, 400, 0xFFFFFFFF, 0xFFFFFFFF⟩].foldl
      (fun s r => (displayFrameRecordDamage s r).1) t
    ∃ d ∈ u.damage, d.Covers 639 479 := by
  intro s t u
  have h : displayFrameBegin s 7 3 100 = .ok (t, 1) := by rfl
  have hcovers := (displayFrameRecordDamage_complete h
    [⟨10, 10, 20, 20⟩, ⟨600, 400, 0xFFFFFFFF, 0xFFFFFFFF⟩]).1
  exact hcovers ⟨600, 400, 0xFFFFFFFF, 0xFFFFFFFF⟩ (by simp) 639 479
    (by unfold DisplayFrameRect.Covers; decide) (by decide) (by decide)

end ReistOs
