import ReistOs.LongNames

namespace ReistOs.LongNames

open LittleEndian FixedArray DirEntry

section Reader

variable {checksum : UInt8} {slots seen : List DirEntry} {e : DirEntry} {r : LfnReader} {n : Nat}

theorem length_chars (e : DirEntry) : e.chars.length = fat32LfnCharsPerEntry := by
  unfold chars
  rw [List.length_map, List.length_range]

theorem length_slotUnits (slots : List DirEntry) :
    (slotUnits slots).length = fat32LfnCharsPerEntry * slots.length := by
  unfold slotUnits
  induction slots with
  | nil => rfl
  | cons e slots ih =>
    rw [List.reverse_cons, List.flatMap_append, List.length_append, ih, List.length_cons,
      List.flatMap_singleton, length_chars, Nat.mul_succ]

theorem slotUnits_snoc (slots : List DirEntry) (e : DirEntry) :
    slotUnits (slots ++ [e]) = e.chars ++ slotUnits slots := by
  unfold slotUnits
  rw [List.reverse_append, List.reverse_singleton, List.singleton_append, List.flatMap_cons]

/-- The reader has taken in these slots, the last ones before it. -/
structure Reading (slots : List DirEntry) (r : LfnReader) : Prop where
  active : r.active = true
  nonempty : slots ≠ []
  count : r.expectedOrder + slots.length = r.slotCount
  le : r.slotCount ≤ fat32MaxLfnEntries
  descends : Descends r.checksum r.slotCount slots
  units : Holds Eq r.units (r.expectedOrder * fat32LfnCharsPerEntry) (slotUnits slots)

theorem Descends.snoc (h : Descends checksum n slots) (hattr : e.attr = attrLongName)
    (htype : e.type = 0) (hcluster : e.firstClusterLow = 0) (hsum : e.checksum = checksum)
    (horder : e.lfnOrder = n - slots.length) (hstarts : e.starts = true ↔ slots.length = 0) :
    Descends checksum n (slots ++ [e]) := by
  intro i e' he
  rcases Nat.lt_trichotomy i slots.length with hi | hi | hi
  · rw [List.getElem?_append_left hi] at he
    exact h i e' he
  · subst hi
    rw [List.getElem?_append_right le_rfl, Nat.sub_self] at he
    obtain rfl := Option.some.inj he
    exact ⟨hattr, htype, hcluster, hsum, horder, hstarts⟩
  · rw [List.getElem?_eq_none (by rw [List.length_append, List.length_singleton]; omega)] at he
    cases he

/-- What the reader asks of a slot before it looks at its own state. -/
structure Plausible (e : DirEntry) : Prop where
  attr : e.attr = attrLongName
  type : e.type = 0
  cluster : e.firstClusterLow = 0
  positive : e.lfnOrder ≠ 0
  le : e.lfnOrder ≤ fat32MaxLfnEntries

theorem consume_refuses (h : ¬ Plausible e) : fat32LfnConsume r e = fat32LfnReset := by
  unfold fat32LfnConsume
  rw [if_pos]
  by_contra hfields
  simp only [Bool.or_eq_true, bne_iff_ne, beq_iff_eq, decide_eq_true_eq, not_or, not_not,
    not_lt] at hfields
  obtain ⟨⟨⟨⟨hattr, htype⟩, hcluster⟩, hpositive⟩, hle⟩ := hfields
  exact h ⟨hattr, htype, hcluster, hpositive, hle⟩

theorem consume_accepts (h : Plausible e) : fat32LfnConsume r e =
    if e.starts then
      { units := putCells e.chars ((e.lfnOrder - 1) * fat32LfnCharsPerEntry)
          (Vector.replicate 260 0xFFFF), checksum := e.checksum, expectedOrder := e.lfnOrder - 1,
        slotCount := e.lfnOrder, active := true }
    else if r.active = true ∧ r.checksum = e.checksum ∧ r.expectedOrder = e.lfnOrder then
      { r with units := putCells e.chars ((e.lfnOrder - 1) * fat32LfnCharsPerEntry) r.units,
               expectedOrder := r.expectedOrder - 1 }
    else fat32LfnReset := by
  have hle := h.le
  unfold fat32LfnConsume
  rw [if_neg (by simp [h.attr, h.type, h.cluster, h.positive, hle])]
  by_cases hstarts : e.starts = true
  · simp [hstarts]
  · simp only [if_neg hstarts]
    by_cases hnext : r.active = true ∧ r.checksum = e.checksum ∧ r.expectedOrder = e.lfnOrder
    · obtain ⟨hactive, hsum, horder⟩ := hnext
      rw [if_neg (by simp [hactive, hsum, horder]), if_pos ⟨hactive, hsum, horder⟩]
    · rw [if_neg hnext, if_pos]
      by_contra hfields
      simp only [Bool.or_eq_true, Bool.not_eq_true', bne_iff_ne, not_or, not_not,
        Bool.not_eq_false] at hfields
      exact hnext ⟨hfields.1.1, hfields.1.2, hfields.2⟩

theorem consume_start (h : Plausible e) (hstarts : e.starts = true) :
    Reading [e] (fat32LfnConsume r e) ∧ (fat32LfnConsume r e).checksum = e.checksum ∧
      (fat32LfnConsume r e).slotCount = e.lfnOrder := by
  have hle := h.le
  have hpositive := h.positive
  rw [consume_accepts h, if_pos hstarts]
  refine ⟨⟨rfl, by simp, ?_, hle, ?_, ?_⟩, rfl, rfl⟩
  · show e.lfnOrder - 1 + 1 = e.lfnOrder
    omega
  · have hempty : Descends e.checksum e.lfnOrder [] := fun i e' he => (by simp at he)
    exact hempty.snoc h.attr h.type h.cluster rfl rfl ⟨fun _ => rfl, fun _ => hstarts⟩
  · have hunits : slotUnits [e] = e.chars := by
      unfold slotUnits
      rw [List.reverse_singleton, List.flatMap_singleton]
    rw [hunits]
    apply holds_putCells
    rw [length_chars]
    unfold fat32MaxLfnEntries at hle
    unfold fat32LfnCharsPerEntry
    omega

theorem consume_next (h : Plausible e) (hr : Reading slots r) (hstarts : e.starts = false)
    (hsum : e.checksum = r.checksum) (horder : e.lfnOrder = r.expectedOrder) :
    Reading (slots ++ [e]) (fat32LfnConsume r e) ∧
      (fat32LfnConsume r e).checksum = r.checksum ∧
      (fat32LfnConsume r e).slotCount = r.slotCount := by
  have hle := h.le
  have hpositive := h.positive
  have hcount := hr.count
  have hlength : slots.length ≠ 0 := fun hzero => hr.nonempty (List.length_eq_zero_iff.mp hzero)
  rw [consume_accepts h, if_neg (by simp [hstarts]),
    if_pos ⟨hr.active, hsum.symm, horder.symm⟩]
  refine ⟨⟨hr.active, by simp, ?_, hr.le, ?_, ?_⟩, rfl, rfl⟩
  · show r.expectedOrder - 1 + (slots ++ [e]).length = r.slotCount
    rw [List.length_append, List.length_singleton]
    omega
  · exact hr.descends.snoc h.attr h.type h.cluster hsum (by omega)
      ⟨fun htrue => (by rw [hstarts] at htrue; cases htrue), fun hzero => absurd hzero hlength⟩
  · rw [slotUnits_snoc]
    have hplace : (r.expectedOrder - 1) * fat32LfnCharsPerEntry + e.chars.length =
        r.expectedOrder * fat32LfnCharsPerEntry := by
      rw [length_chars, ← Nat.succ_mul]
      congr 1
      omega
    have hsame : (e.lfnOrder - 1) * fat32LfnCharsPerEntry =
        (r.expectedOrder - 1) * fat32LfnCharsPerEntry := by rw [horder]
    refine holds_append.mpr ⟨?_, ?_⟩
    · rw [hsame]
      apply holds_putCells
      rw [hplace]
      unfold fat32MaxLfnEntries at hle
      unfold fat32LfnCharsPerEntry
      omega
    · rw [hsame, hplace]
      exact hr.units.putCells_outside (.inr (by rw [hplace]))

/-- An active reader has read a sequence up to the entry before it. -/
def Traces (seen : List DirEntry) (r : LfnReader) : Prop :=
  r.active = true → ∃ slots, slots <:+ seen ∧ Reading slots r

theorem Traces.reset (seen : List DirEntry) : Traces seen fat32LfnReset := by
  intro hactive
  cases hactive

theorem Traces.consume (h : Traces seen r) (e : DirEntry) :
    Traces (seen ++ [e]) (fat32LfnConsume r e) := by
  by_cases hsound : Plausible e
  · by_cases hstarts : e.starts = true
    · intro _
      exact ⟨[e], List.suffix_append _ _, (consume_start hsound hstarts).1⟩
    · by_cases hnext : r.active = true ∧ r.checksum = e.checksum ∧ r.expectedOrder = e.lfnOrder
      · obtain ⟨hactive, hsum, horder⟩ := hnext
        obtain ⟨slots, hslots, hreading⟩ := h hactive
        intro _
        refine ⟨slots ++ [e], ?_, (consume_next hsound hreading (by simpa using hstarts)
          hsum.symm horder.symm).1⟩
        obtain ⟨front, rfl⟩ := hslots
        exact ⟨front, by rw [List.append_assoc]⟩
      · rw [consume_accepts hsound, if_neg hstarts, if_neg hnext]
        exact Traces.reset _
  · rw [consume_refuses hsound]
    exact Traces.reset _

theorem Reading.finish (h : Reading slots r) (hdone : r.expectedOrder = 0) :
    fat32LfnFinish r = lfnText (slotUnits slots) ∧ Complete r.checksum slots := by
  have hcount := h.count
  have hle := h.le
  have hlength : slots.length ≠ 0 := fun hzero => h.nonempty (List.length_eq_zero_iff.mp hzero)
  have hslots : slots.length = r.slotCount := by omega
  refine ⟨?_, h.nonempty, by omega, ?_⟩
  · unfold fat32LfnFinish
    rw [if_neg (by simp [h.active, hdone]; omega)]
    congr 1
    have hunits := h.units
    rw [hdone, Nat.zero_mul] at hunits
    apply List.ext_getElem?
    intro i
    rw [List.getElem?_map]
    rcases Nat.lt_or_ge i (slotUnits slots).length with hi | hi
    · have hcell := hunits i _ (List.getElem?_eq_getElem hi)
      rw [Nat.zero_add] at hcell
      rw [List.getElem?_range (by rw [length_slotUnits, hslots, Nat.mul_comm] at hi; exact hi),
        List.getElem?_eq_getElem hi, Option.map_some, hcell]
    · have hend : (List.range (r.slotCount * fat32LfnCharsPerEntry)).length ≤ i := by
        rw [List.length_range, ← hslots, Nat.mul_comm, ← length_slotUnits]
        exact hi
      rw [List.getElem?_eq_none hi, List.getElem?_eq_none hend, Option.map_none]
  · rw [hslots]
    exact h.descends

theorem finish_some {name : Bytes} (h : fat32LfnFinish r = some name) :
    r.active = true ∧ r.expectedOrder = 0 := by
  unfold fat32LfnFinish at h
  split at h
  next => cases h
  next hready =>
    simp only [Bool.or_eq_true, Bool.not_eq_true', bne_iff_ne, not_or, not_not,
      Bool.not_eq_false] at hready
    exact ⟨hready.1.1.1, hready.1.1.2⟩

theorem Traces.visible (h : Traces seen r) (e : DirEntry) :
    visibleName r e = fat32FormatShortName e ∨
      ∃ slots, slots <:+ seen ∧ Complete (fat32ShortNameChecksum e.shortName) slots ∧
        lfnText (slotUnits slots) = some (visibleName r e) := by
  unfold visibleName
  split
  next hsame =>
    have hsum : r.checksum = fat32ShortNameChecksum e.shortName := by
      simp only [Bool.and_eq_true, beq_iff_eq] at hsame
      exact hsame.2
    cases hfinish : fat32LfnFinish r with
    | none => exact .inl rfl
    | some name =>
      obtain ⟨hactive, hdone⟩ := finish_some hfinish
      obtain ⟨slots, hslots, hreading⟩ := h hactive
      obtain ⟨htext, hcomplete⟩ := hreading.finish hdone
      rw [hsum] at hcomplete
      rw [hfinish] at htext
      exact .inr ⟨slots, hslots, hcomplete, htext.symm⟩
  next => exact .inl rfl

theorem scan_traces {wanted : Nat → Bytes → Bytes → Bool} {entries : List DirEntry}
    {index : Nat} {visible : Bytes} (h : Traces seen r)
    (hfound : scanEntries wanted entries r index = some (e, visible)) :
    ∃ before after r', entries = before ++ e :: after ∧ Traces (seen ++ before) r' ∧
      visible = visibleName r' e := by
  induction entries generalizing seen r index with
  | nil => cases hfound
  | cons e' entries ih =>
    have hstep : ∀ r' index', Traces (seen ++ [e']) r' →
        scanEntries wanted entries r' index' = some (e, visible) →
        ∃ before after r', e' :: entries = before ++ e :: after ∧ Traces (seen ++ before) r' ∧
          visible = visibleName r' e := by
      intro r' index' htraces hrest
      obtain ⟨before, after, r'', rfl, hend, hvisible⟩ := ih htraces hrest
      refine ⟨e' :: before, after, r'', rfl, ?_, hvisible⟩
      rw [List.append_assoc, List.singleton_append] at hend
      exact hend
    unfold scanEntries at hfound
    split at hfound
    next => cases hfound
    next =>
      split at hfound
      next => exact hstep _ _ (Traces.reset _) hfound
      next =>
        split at hfound
        next => exact hstep _ _ (h.consume e') hfound
        next =>
          split at hfound
          next => exact hstep _ _ (Traces.reset _) hfound
          next =>
            split at hfound
            next =>
              obtain ⟨rfl, rfl⟩ := Prod.mk.inj (Option.some.inj hfound)
              exact ⟨[], entries, r, rfl, by rw [List.append_nil]; exact h, rfl⟩
            next => exact hstep _ _ (Traces.reset _) hfound

end Reader

section Slots

variable {name : List UInt16} {order total : Nat} {checksum : UInt8}

theorem charOffset_apart {i j : Nat} (h : i ≠ j) :
    charOffset i + 2 ≤ charOffset j ∨ charOffset j + 2 ≤ charOffset i := by
  unfold charOffset
  split <;> split <;> (try split) <;> (try split) <;> omega

theorem charOffset_fields {i : Nat} (h : i < 13) : 1 ≤ charOffset i ∧ charOffset i + 2 ≤ 32 ∧
    (charOffset i + 2 ≤ 11 ∨ 14 ≤ charOffset i) ∧
    (charOffset i + 2 ≤ 26 ∨ 28 ≤ charOffset i) := by
  unfold charOffset
  split <;> (try split) <;> omega

theorem setCharacters (fields : DirEntry) (value : Nat → UInt16) {k : Nat} (hk : k ≤ 13) :
    (∀ j < k, fat32LfnCharacter
      ((List.range k).foldl (fun e i => fat32SetLfnCharacter e i (value i)) fields) j = value j) ∧
    ∀ o, (∀ i < 13, o < charOffset i ∨ charOffset i + 2 ≤ o) →
      byte ((List.range k).foldl (fun e i => fat32SetLfnCharacter e i (value i)) fields) o =
        byte fields o := by
  induction k with
  | zero => exact ⟨fun j hj => absurd hj (Nat.not_lt_zero j), fun _ _ => rfl⟩
  | succ k ih =>
    obtain ⟨hchars, hbytes⟩ := ih (by omega)
    have hplace := charOffset_fields (show k < 13 by omega)
    rw [List.range_succ, List.foldl_append, List.foldl_cons, List.foldl_nil]
    constructor
    · intro j hj
      by_cases hlast : j = k
      · rw [hlast]
        exact get16_put16 _ _ hplace.2.1
      · rw [← hchars j (by omega)]
        have hapart := charOffset_apart hlast
        unfold fat32LfnCharacter fat32SetLfnCharacter get16 put16
        rw [get_put_of_disjoint _ hapart]
    · intro o ho
      rw [← hbytes o ho]
      have hout := ho k (by omega)
      unfold fat32SetLfnCharacter put16
      rw [byte_put, if_neg (by omega)]

def slotFields (order total : Nat) (checksum : UInt8) : DirEntry :=
  put16 (setByte (setByte (setByte (setByte (Vector.replicate 32 0xFF) 0
    (UInt8.ofNat (order ||| if order = total then 0x40 else 0))) 11 attrLongName) 12 0) 13
      checksum) 26 0

theorem build_eq : fat32BuildLfnSlot name order total checksum =
    (List.range 13).foldl
      (fun e i => fat32SetLfnCharacter e i (paddedUnit name ((order - 1) * 13 + i)))
      (slotFields order total checksum) := by
  rfl

theorem build_chars : (fat32BuildLfnSlot name order total checksum).chars =
    (List.range 13).map fun i => paddedUnit name ((order - 1) * 13 + i) := by
  have hset := (setCharacters (slotFields order total checksum)
    (fun i => paddedUnit name ((order - 1) * 13 + i)) le_rfl).1
  rw [← build_eq] at hset
  apply List.map_congr_left
  intro i hi
  exact hset i (List.mem_range.mp hi)

theorem build_byte {o : Nat} (ho : ∀ i < 13, o < charOffset i ∨ charOffset i + 2 ≤ o) :
    byte (fat32BuildLfnSlot name order total checksum) o =
      byte (slotFields order total checksum) o := by
  have hset := (setCharacters (slotFields order total checksum)
    (fun i => paddedUnit name ((order - 1) * 13 + i)) le_rfl).2 o ho
  rw [← build_eq] at hset
  exact hset

theorem build_fields : (fat32BuildLfnSlot name order total checksum).order =
      UInt8.ofNat (order ||| if order = total then 0x40 else 0) ∧
    (fat32BuildLfnSlot name order total checksum).attr = attrLongName ∧
    (fat32BuildLfnSlot name order total checksum).type = 0 ∧
    (fat32BuildLfnSlot name order total checksum).checksum = checksum ∧
    (fat32BuildLfnSlot name order total checksum).firstClusterLow = 0 := by
  have hput : ∀ o < 26, byte (slotFields order total checksum) o =
      byte (setByte (setByte (setByte (setByte (Vector.replicate 32 0xFF) 0
        (UInt8.ofNat (order ||| if order = total then 0x40 else 0))) 11 attrLongName) 12 0) 13
          checksum : DirEntry) o := by
    intro o ho
    unfold slotFields put16
    rw [byte_put, if_neg (by omega)]
  have hplaces := @charOffset_fields
  refine ⟨?_, ?_, ?_, ?_, ?_⟩
  · unfold DirEntry.order
    rw [build_byte fun i hi => .inl (by have := hplaces hi; omega), hput _ (by decide)]
    simp [byte_setByte]
  · unfold DirEntry.attr
    rw [build_byte fun i hi => (by have := hplaces hi; omega), hput _ (by decide)]
    simp [byte_setByte]
  · unfold DirEntry.type
    rw [build_byte fun i hi => (by have := hplaces hi; omega), hput _ (by decide)]
    simp [byte_setByte]
  · unfold DirEntry.checksum
    rw [build_byte fun i hi => (by have := hplaces hi; omega), hput _ (by decide)]
    simp [byte_setByte]
  · have hsame : get16 (fat32BuildLfnSlot name order total checksum) 26 =
        get16 (slotFields order total checksum) 26 := by
      unfold get16
      congr 1
      apply get_congr
      intro o hlow hhigh
      exact build_byte fun i hi => (by have := hplaces hi; omega)
    exact hsame.trans (get16_put16 _ _ (by decide))

theorem order_bits : ∀ order ≤ 20, ∀ mark ∈ [0x40, 0],
    (UInt8.ofNat (order ||| mark) &&& 0x1F).toNat = order ∧
      ((UInt8.ofNat (order ||| mark) &&& 0x40 != 0) = true ↔ mark = 0x40) := by
  decide +kernel

theorem build_sound (hpositive : 1 ≤ order) (hle : order ≤ 20) :
    Plausible (fat32BuildLfnSlot name order total checksum) ∧
      (fat32BuildLfnSlot name order total checksum).lfnOrder = order ∧
      ((fat32BuildLfnSlot name order total checksum).starts = true ↔ order = total) := by
  obtain ⟨horder, hattr, htype, -, hcluster⟩ :=
    @build_fields name order total checksum
  have hbits := order_bits order hle (if order = total then 0x40 else 0) (by split <;> simp)
  have hlfn : (fat32BuildLfnSlot name order total checksum).lfnOrder = order := by
    unfold lfnOrder
    rw [horder]
    exact hbits.1
  refine ⟨⟨hattr, htype, hcluster, by omega, ?_⟩, hlfn, ?_⟩
  · rw [hlfn]
    exact hle
  · unfold starts
    rw [horder, hbits.2]
    split <;> simp_all

/-- The first `k` of the slots of a name. -/
def firstSlots (name : List UInt16) (total : Nat) (checksum : UInt8) (k : Nat) : List DirEntry :=
  (List.range k).map fun i => fat32BuildLfnSlot name (total - i) total checksum

theorem firstSlots_succ (k : Nat) : firstSlots name total checksum (k + 1) =
    firstSlots name total checksum k ++ [fat32BuildLfnSlot name (total - k) total checksum] := by
  unfold firstSlots
  rw [List.range_succ, List.map_append, List.map_singleton]

theorem length_firstSlots (k : Nat) : (firstSlots name total checksum k).length = k := by
  unfold firstSlots
  rw [List.length_map, List.length_range]

theorem reading_firstSlots (r : LfnReader) (htotal : total ≤ 20) {k : Nat} (hk : k < total) :
    Reading (firstSlots name total checksum (k + 1))
        ((firstSlots name total checksum (k + 1)).foldl fat32LfnConsume r) ∧
      ((firstSlots name total checksum (k + 1)).foldl fat32LfnConsume r).checksum = checksum ∧
      ((firstSlots name total checksum (k + 1)).foldl fat32LfnConsume r).slotCount = total := by
  obtain ⟨hsound, horder, hstarts⟩ :=
    @build_sound name (total - k) total checksum (by omega) (by omega)
  have hsum := (@build_fields name (total - k) total checksum).2.2.2.1
  induction k with
  | zero =>
    obtain ⟨hreading, hchecksum, hcount⟩ :=
      @consume_start _ r hsound (hstarts.mpr (Nat.sub_zero total))
    rw [hsum] at hchecksum
    rw [horder] at hcount
    exact ⟨hreading, hchecksum, hcount⟩
  | succ k ih =>
    obtain ⟨hsound', horder', hstarts'⟩ :=
      @build_sound name (total - k) total checksum (by omega) (by omega)
    obtain ⟨hreading, hchecksum, hcount⟩ := ih (by omega) hsound' horder' hstarts'
      (@build_fields name (total - k) total checksum).2.2.2.1
    have hread := hreading.count
    rw [length_firstSlots, hcount] at hread
    have hlater : (fat32BuildLfnSlot name (total - (k + 1)) total checksum).starts = false := by
      rw [Bool.eq_false_iff]
      intro hstart
      have := hstarts.mp hstart
      omega
    obtain ⟨hnext, hchecksum', hcount'⟩ := consume_next hsound hreading hlater
      (hsum.trans hchecksum.symm) (horder.trans (by omega))
    rw [firstSlots_succ, List.foldl_append, List.foldl_cons, List.foldl_nil]
    exact ⟨hnext, hchecksum'.trans hchecksum, hcount'.trans hcount⟩

theorem units_firstSlots {k : Nat} (hk : k ≤ total) :
    slotUnits (firstSlots name total checksum k) =
      (List.range (k * 13)).map fun i => paddedUnit name ((total - k) * 13 + i) := by
  induction k with
  | zero => rfl
  | succ k ih =>
    have hsize : (k + 1) * 13 = 13 + k * 13 := by omega
    rw [firstSlots_succ, slotUnits_snoc, ih (by omega), build_chars, hsize, List.range_add,
      List.map_append, List.map_map]
    congr 1
    apply List.map_congr_left
    intro i _
    show _ = paddedUnit name ((total - (k + 1)) * 13 + (13 + i))
    congr 1
    omega

theorem paddedUnits (hroom : name.length ≤ total * 13) :
    ((List.range (total * 13)).map fun i => paddedUnit name i) =
      name ++ ((0 : UInt16) :: List.replicate (total * 13) 0xFFFF).take
        (total * 13 - name.length) := by
  apply List.ext_getElem?
  intro i
  rw [List.getElem?_map]
  rcases Nat.lt_or_ge i name.length with hi | hi
  · rw [List.getElem?_range (by omega), List.getElem?_append_left hi, Option.map_some,
      List.getElem?_eq_getElem hi]
    unfold paddedUnit
    rw [if_pos hi, List.getD_eq_getElem?_getD, List.getElem?_eq_getElem hi, Option.getD_some]
  · rw [List.getElem?_append_right hi]
    rcases Nat.lt_or_ge i (total * 13) with hin | hout
    · rw [List.getElem?_range hin, List.getElem?_take, if_pos (by omega), Option.map_some]
      unfold paddedUnit
      rw [if_neg (by omega)]
      rcases Nat.eq_or_lt_of_le hi with heq | hlt
      · rw [if_pos heq.symm, ← heq, Nat.sub_self]
        rfl
      · obtain ⟨m, hm⟩ : ∃ m, i - name.length = m + 1 := ⟨i - name.length - 1, by omega⟩
        rw [if_neg (by omega), hm, List.getElem?_cons_succ, List.getElem?_replicate,
          if_pos (by omega)]
    · rw [List.getElem?_eq_none (by rw [List.length_range]; exact hout), List.getElem?_take,
        if_neg (by omega), Option.map_none]

theorem unitCountFrom_padding (padding : List UInt16) (hpadding : ∀ u ∈ padding, u = 0xFFFF)
    (i count : Nat) : unitCountFrom padding i count true = some count := by
  induction padding generalizing i with
  | nil => rfl
  | cons u padding ih =>
    obtain rfl := hpadding u List.mem_cons_self
    rw [unitCountFrom, if_neg (by simp), if_neg (by simp)]
    exact ih (fun v hv => hpadding v (List.mem_cons_of_mem _ hv)) (i + 1)

theorem unitCountFrom_name (hname : ∀ u ∈ name, u ≠ 0 ∧ u ≠ 0xFFFF) (i size k : Nat)
    (hsize : k = 0 → size = i + name.length) (padding : Nat) (hk : k ≤ padding + 1) :
    unitCountFrom (name ++ ((0 : UInt16) :: List.replicate padding 0xFFFF).take k) i size false =
      some (i + name.length) := by
  induction name generalizing i with
  | nil =>
    cases k with
    | zero =>
      show some size = some (i + 0)
      rw [hsize rfl]
      rfl
    | succ k =>
      rw [List.nil_append, List.take_succ_cons, unitCountFrom, if_pos (by simp),
        unitCountFrom_padding _ fun u hu =>
          List.eq_of_mem_replicate (List.mem_of_mem_take hu)]
      rfl
  | cons u name ih =>
    obtain ⟨hzero, hend⟩ := hname u List.mem_cons_self
    rw [List.cons_append, unitCountFrom, if_neg (by simp [hzero]), if_neg (by simp [hend]),
      ih (fun v hv => hname v (List.mem_cons_of_mem _ hv)) (i + 1)
        (fun hk => by rw [hsize hk, List.length_cons]; omega), List.length_cons]
    congr 1
    omega

end Slots

variable {name : Bytes} {units : List UInt16}

theorem valid_facts (h : fat32IsValidName name = true)
    (hunits : reistUtf8ToUtf16 name fat32MaxLfnChars = some units) :
    name.length ≤ fat32MaxLfnChars ∧ name.length ≠ 0 ∧ units ≠ [] ∧
      units.length ≤ fat32MaxLfnChars ∧ ∀ u ∈ units, u ≠ 0 := by
  unfold fat32IsValidName at h
  split at h
  next => cases h
  next hshort =>
    simp only [not_or, not_lt] at hshort
    rw [hunits] at h
    simp only [Bool.and_eq_true, Bool.not_eq_true', Bool.or_eq_false_iff, List.isEmpty_eq_false_iff,
      decide_eq_false_iff_not, not_lt, List.all_eq_true] at h
    obtain ⟨⟨⟨⟨hne, hle⟩, -⟩, -⟩, hall⟩ := h
    refine ⟨hshort.2.1, hshort.1, hne, hle, fun u hu => ?_⟩
    rintro rfl
    have hlow := (hall 0 hu).1
    revert hlow
    decide

theorem lfnText_padded {total : Nat} (h : fat32IsValidName name = true)
    (hunits : reistUtf8ToUtf16 name fat32MaxLfnChars = some units)
    (hends : (0xFFFF : UInt16) ∉ units) (hroom : units.length ≤ total * 13) :
    lfnText ((List.range (total * 13)).map fun i => paddedUnit units i) = some name := by
  obtain ⟨hlength, hpositive, hne, hle, hnul⟩ := valid_facts h hunits
  obtain ⟨cs, rfl, hcs⟩ := utf8ToUtf16From_some hunits
  rw [List.nil_append] at hcs
  subst hcs
  have hcount := unitCountFrom_name
    (fun u hu => ⟨hnul u hu, fun hu' => hends (hu' ▸ hu)⟩) 0 (total * 13)
    (total * 13 - (encodeUnits cs).length) (by omega) (total * 13) (by omega)
  rw [Nat.zero_add] at hcount
  have hall := paddedUnits hroom
  have hsize : ((List.range (total * 13)).map fun i => paddedUnit (encodeUnits cs) i).length =
      total * 13 := by rw [List.length_map, List.length_range]
  have hback : reistUtf16ToUtf8 (encodeUnits cs) maxPathLength = some (encodeText cs) := by
    unfold fat32MaxLfnChars at hlength
    unfold reistUtf16ToUtf8 maxPathLength
    rw [if_neg (by decide), utf16ToUtf8From_encode (by rw [List.length_nil]; omega)]
    rfl
  have hnonempty : (encodeUnits cs).length ≠ 0 := fun hzero =>
    hne (List.length_eq_zero_iff.mp hzero)
  unfold lfnText
  rw [hsize, hall, hcount]
  dsimp only
  rw [if_neg (by omega), List.take_left, hback]
  dsimp only
  rw [if_pos ⟨hpositive, h⟩]

/-- The slots of a valid name give it back, and a directory shows an entry under a long name only
where the entries right before it are a complete sequence with its checksum and that text. -/
theorem long_names :
    (∀ name units total short r, fat32IsValidName name = true →
      reistUtf8ToUtf16 name fat32MaxLfnChars = some units → (0xFFFF : UInt16) ∉ units →
      units.length ≤ total * fat32LfnCharsPerEntry → total ≤ fat32MaxLfnEntries →
      fat32LfnFinish ((lfnSlots units total
          (fat32ShortNameChecksum short.shortName)).foldl fat32LfnConsume r) = some name ∧
        visibleName ((lfnSlots units total
          (fat32ShortNameChecksum short.shortName)).foldl fat32LfnConsume r) short = name) ∧
    ∀ wanted entries e visible,
      scanEntries wanted entries fat32LfnReset 0 = some (e, visible) →
      ∃ before after, entries = before ++ e :: after ∧
        (visible = fat32FormatShortName e ∨
          ∃ slots, slots <:+ before ∧ Complete (fat32ShortNameChecksum e.shortName) slots ∧
            lfnText (slotUnits slots) = some visible) := by
  constructor
  · intro name units total short r hvalid hunits hends hroom htotal
    have hne := (valid_facts hvalid hunits).2.2.1
    have hlength : units.length ≠ 0 := fun hzero => hne (List.length_eq_zero_iff.mp hzero)
    obtain ⟨k, rfl⟩ : ∃ k, total = k + 1 := ⟨total - 1, by
      unfold fat32LfnCharsPerEntry at hroom
      omega⟩
    obtain ⟨hreading, hchecksum, hcount⟩ := @reading_firstSlots units (k + 1)
      (fat32ShortNameChecksum short.shortName) r htotal k (by omega)
    have hdone := hreading.count
    rw [length_firstSlots, hcount] at hdone
    have hfinish := (hreading.finish (by omega)).1
    rw [units_firstSlots le_rfl, Nat.sub_self, Nat.zero_mul] at hfinish
    simp only [Nat.zero_add] at hfinish
    rw [lfnText_padded hvalid hunits hends hroom] at hfinish
    refine ⟨hfinish, ?_⟩
    unfold visibleName
    rw [if_pos]
    · exact congrArg (fun text : Option Bytes => text.getD (fat32FormatShortName short)) hfinish
    · rw [Bool.and_eq_true, beq_iff_eq]
      exact ⟨hreading.active, hchecksum⟩
  · intro wanted entries e visible hfound
    obtain ⟨before, after, r, hentries, htraces, rfl⟩ := scan_traces (Traces.reset []) hfound
    exact ⟨before, after, hentries, htraces.visible e⟩

/-- A slot with a bit in its order that no sequence `n|0x40, n-1, .., 1` has gives its name. -/
theorem spare_order_bit :
    ∃ slot short : DirEntry, slot.order = 0x61 ∧ fat32FormatShortName short ≠ [0x61] ∧
      scanEntries (fun index _ _ => index == 0) [slot, short] fat32LfnReset 0 =
        some (short, [0x61]) := by
  let short : DirEntry := setByte (Vector.replicate 32 0x20) 0 0x58
  exact ⟨setByte (fat32BuildLfnSlot [0x61] 1 1 (fat32ShortNameChecksum short.shortName)) 0 0x61,
    short, by decide +kernel⟩

end ReistOs.LongNames
