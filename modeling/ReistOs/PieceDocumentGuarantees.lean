import ReistOs.PieceDocumentRefinement

namespace ReistOs.Pieces

open PieceEdit

section Validity

variable {original : Bytes} {d : PieceDocument} {p : Piece} {ps : List Piece} {edit : PieceEdit}

/-- What `valid` checks, said of the bytes that the document shows. -/
structure Good (original : Bytes) (d : PieceDocument) : Prop where
  version : d.apiVersion = pieceDocumentApiVersion
  structSize : d.structSize = pieceDocumentSize
  held : Held original d.added d.pieces
  added : d.added.length ≤ pieceAddedCapacity
  size : d.size = (contents original d.added d.pieces).length
  le : d.size ≤ uint32Max

section

variable (horiginal : d.originalSize.toNat = original.length)
include horiginal

theorem inBounds_iff :
    p.inBounds d = true ↔ p.Sound original d.added := by
  have hbound : (if p.source = pieceOriginal then d.originalSize.toNat else d.added.length) =
      if p.source = pieceOriginal then original.length else d.added.length := by rw [horiginal]
  have hkinds : pieceOriginal ≠ pieceAdded := by decide
  unfold Piece.inBounds
  rw [hbound]
  constructor
  · intro h
    simp only [Bool.not_eq_true', Bool.or_eq_false_iff, Bool.and_eq_false_iff, bne_eq_false_iff_eq,
      beq_eq_false_iff_ne, decide_eq_false_iff_not, not_lt] at h
    obtain ⟨⟨⟨hkind, hlength⟩, hoffset⟩, hle⟩ := h
    refine ⟨hkind, Nat.pos_of_ne_zero hlength, ?_⟩
    unfold sourceBytes
    rcases hkind with hkind | hkind
    · rw [hkind, if_neg hkinds]
      rw [if_pos hkind] at hoffset hle
      omega
    · rw [if_pos hkind]
      rw [hkind, if_neg hkinds.symm] at hoffset hle
      omega
  · intro h
    have hle := h.le
    have hpositive := h.positive
    simp only [Bool.not_eq_true', Bool.or_eq_false_iff, Bool.and_eq_false_iff, bne_eq_false_iff_eq,
      beq_eq_false_iff_ne, decide_eq_false_iff_not, not_lt]
    unfold sourceBytes at hle
    rcases h.kind with hkind | hkind
    · rw [hkind, if_neg hkinds] at hle
      rw [if_pos hkind]
      exact ⟨⟨⟨.inl hkind, by omega⟩, by omega⟩, by omega⟩
    · rw [if_pos hkind] at hle
      rw [hkind, if_neg hkinds.symm]
      exact ⟨⟨⟨.inr rfl, by omega⟩, by omega⟩, by omega⟩

theorem totalFrom_eq_some {total size : Nat} (htotal : total ≤ uint32Max) :
    totalFrom d ps total = some size ↔ (∀ p ∈ ps, p.Sound original d.added) ∧
      size = total + (contents original d.added ps).length ∧ size ≤ uint32Max := by
  induction ps generalizing total with
  | nil =>
    simp only [totalFrom, Option.some.injEq, contents, List.flatMap_nil, List.length_nil]
    constructor
    · rintro rfl
      exact ⟨fun p hp => (by cases hp), rfl, htotal⟩
    · rintro ⟨-, rfl, -⟩
      rfl
  | cons p ps ih =>
    rw [totalFrom, List.forall_mem_cons, contents_cons, List.length_append]
    by_cases hp : p.Sound original d.added
    · rw [hp.length_bytes]
      have hbounds := (inBounds_iff horiginal).mpr hp
      by_cases hfits : uint32Max - total < p.length
      · rw [if_pos (by simp [hfits])]
        constructor
        · intro h
          cases h
        · rintro ⟨-, hsize, hle⟩
          omega
      · rw [if_neg (by simp [hbounds, hfits]), ih (by omega), Nat.add_assoc]
        constructor
        · rintro ⟨hps, hrest⟩
          exact ⟨⟨hp, hps⟩, hrest⟩
        · rintro ⟨⟨-, hps⟩, hrest⟩
          exact ⟨hps, hrest⟩
    · have hbounds : p.inBounds d = false :=
        Bool.eq_false_iff.mpr fun h => hp ((inBounds_iff horiginal).mp h)
      rw [if_pos (by simp [hbounds])]
      constructor
      · intro h
        cases h
      · rintro ⟨⟨h, -⟩, -⟩
        exact absurd h hp

theorem valid_iff :
    valid d = true ↔ Good original d := by
  unfold valid
  simp only [Bool.and_eq_true, beq_iff_eq, decide_eq_true_eq,
    totalFrom_eq_some horiginal (Nat.zero_le uint32Max), Nat.zero_add]
  constructor
  · rintro ⟨⟨⟨⟨hversion, hstruct⟩, hroom⟩, hadded⟩, hps, hsize, hle⟩
    exact ⟨hversion, hstruct, ⟨hps, hroom⟩, hadded, hsize, hle⟩
  · intro h
    exact ⟨⟨⟨⟨h.version, h.structSize⟩, h.held.room⟩, h.added⟩, h.held.sound, h.size, h.le⟩

theorem insert_ok {offset : Nat} {data : Bytes} (h : Good original d)
    (hok : (pieceDocumentInsert d offset data).1 = .ok ()) :
    Good original (pieceDocumentInsert d offset data).2 ∧
      contents original (pieceDocumentInsert d offset data).2.added
          (pieceDocumentInsert d offset data).2.pieces =
        (PieceEdit.insert offset data).onList (contents original d.added d.pieces) ∧
      (pieceDocumentInsert d offset data).2.originalSize = d.originalSize := by
  have hvalid := (valid_iff horiginal).mpr h
  have hsize := h.size
  unfold pieceDocumentInsert at hok ⊢
  split at hok
  next => cases hok
  next hrange =>
    have hoffset : offset ≤ d.size := by
      simp only [hvalid, Bool.not_true, Bool.false_or, decide_eq_true_eq, not_lt] at hrange
      exact hrange
    rw [if_neg hrange]
    split at hok
    next hempty =>
      rw [if_pos hempty]
      refine ⟨h, ?_, rfl⟩
      show contents original d.added d.pieces = _ ++ data ++ _
      rw [List.length_eq_zero_iff.mp hempty, List.append_nil, List.take_append_drop]
    next hne =>
      rw [if_neg hne]
      split at hok
      next => cases hok
      next hfits =>
        rw [if_neg hfits]
        have hadded := h.added
        have hle := h.le
        obtain ⟨hheld, hcontents⟩ := h.held.grow data
        cases hnext : insertFrom d offset data.length d.pieces [] 0 with
        | none => rw [hnext] at hok; cases hok
        | some next =>
          obtain ⟨hresult, hend⟩ := insertFrom_contents hne hheld.sound Held.nil (Nat.zero_le _)
            (by rw [hcontents]; omega) hnext
          rw [hcontents, Nat.sub_zero] at hresult
          have hbytes : contents original (d.added ++ data) next =
              (insert offset data).onList (contents original d.added d.pieces) := hresult
          refine ⟨⟨h.version, h.structSize, hend, ?_, ?_, ?_⟩, hbytes, rfl⟩
          · show (d.added ++ data).length ≤ pieceAddedCapacity
            rw [List.length_append]
            omega
          · show d.size + data.length = (contents original (d.added ++ data) next).length
            rw [hbytes]
            unfold onList
            simp only [List.length_append, List.length_take, List.length_drop]
            omega
          · show d.size + data.length ≤ uint32Max
            omega

theorem erase_ok {offset size : Nat} (h : Good original d)
    (hok : (pieceDocumentErase d offset size).1 = .ok ()) :
    Good original (pieceDocumentErase d offset size).2 ∧
      contents original (pieceDocumentErase d offset size).2.added
          (pieceDocumentErase d offset size).2.pieces =
        (PieceEdit.erase offset size).onList (contents original d.added d.pieces) ∧
      (pieceDocumentErase d offset size).2.originalSize = d.originalSize := by
  have hvalid := (valid_iff horiginal).mpr h
  have hsize := h.size
  unfold pieceDocumentErase at hok ⊢
  split at hok
  next => cases hok
  next hrange =>
    have hinside : offset ≤ d.size ∧ size ≤ d.size - offset := by
      simp only [hvalid, Bool.not_true, Bool.false_or, Bool.or_eq_true, decide_eq_true_eq, not_or,
        not_lt] at hrange
      exact hrange
    rw [if_neg hrange]
    split at hok
    next hzero =>
      rw [if_pos hzero]
      refine ⟨h, ?_, rfl⟩
      show contents original d.added d.pieces = _ ++ List.drop (offset + size) _
      rw [hzero, Nat.add_zero, List.take_append_drop]
    next hne =>
      rw [if_neg hne]
      cases hnext : eraseFrom offset (offset + size) d.pieces [] 0 with
      | none => rw [hnext] at hok; cases hok
      | some next =>
        obtain ⟨hresult, hend⟩ :=
          eraseFrom_contents (by omega) h.held.sound Held.nil hnext
        have hbytes : contents original d.added next =
            (erase offset size).onList (contents original d.added d.pieces) := hresult
        refine ⟨⟨h.version, h.structSize, hend, h.added, ?_, ?_⟩, hbytes, rfl⟩
        · show d.size - size = (contents original d.added next).length
          rw [hbytes]
          unfold onList
          rw [List.length_append, List.length_take, List.length_drop]
          omega
        · have hle := h.le
          show d.size - size ≤ uint32Max
          omega

theorem apply_ok (h : Good original d) (hok : (edit.apply d).1 = .ok ()) :
    Good original (edit.apply d).2 ∧
      contents original (edit.apply d).2.added (edit.apply d).2.pieces =
        edit.onList (contents original d.added d.pieces) ∧
      (edit.apply d).2.originalSize = d.originalSize := by
  cases edit with
  | insert offset data => exact insert_ok horiginal h hok
  | erase offset size => exact erase_ok horiginal h hok

end

theorem apply_failed (hfailed : (edit.apply d).1 ≠ .ok ()) : (edit.apply d).2 = d := by
  cases edit with
  | insert offset data =>
    simp only [apply, pieceDocumentInsert] at hfailed ⊢
    split
    next => rfl
    next hrange =>
      rw [if_neg hrange] at hfailed
      split
      next => rfl
      next hne =>
        rw [if_neg hne] at hfailed
        split
        next => rfl
        next hfits =>
          rw [if_neg hfits] at hfailed
          cases hnext : insertFrom d offset data.length d.pieces [] 0 with
          | none => rfl
          | some next =>
            rw [hnext] at hfailed
            exact absurd rfl hfailed
  | erase offset size =>
    simp only [apply, pieceDocumentErase] at hfailed ⊢
    split
    next => rfl
    next hrange =>
      rw [if_neg hrange] at hfailed
      split
      next => rfl
      next hne =>
        rw [if_neg hne] at hfailed
        cases hnext : eraseFrom offset (offset + size) d.pieces [] 0 with
        | none => rfl
        | some next =>
          rw [hnext] at hfailed
          exact absurd rfl hfailed

theorem apply_room (horiginal : d.originalSize.toNat = original.length) (h : Good original d)
    (hrange : edit.InRange d.size) (hroom : edit.HasRoom d) : (edit.apply d).1 = .ok () := by
  have hvalid := (valid_iff horiginal).mpr h
  have hlimit : original.length ≤ uint32Max := by
    rw [← horiginal]
    exact Nat.le_of_lt_succ d.originalSize.toNat_lt
  have hcapacity : pieceAddedCapacity ≤ uint32Max := by decide
  have hbound : ∀ added : Bytes, added.length ≤ pieceAddedCapacity →
      ∀ source, (sourceBytes original added source).length ≤ uint32Max := by
    intro added hadded source
    unfold sourceBytes
    split <;> omega
  cases edit with
  | insert offset data =>
    have hoffset : offset ≤ d.size := hrange
    obtain ⟨hadded, hsize, hpieces⟩ := hroom
    simp only [apply, pieceDocumentInsert]
    rw [if_neg (by simp [hvalid, hoffset])]
    split
    next => rfl
    next hne =>
      rw [if_neg (by omega)]
      obtain ⟨hheld, hcontents⟩ := h.held.grow data
      obtain ⟨next, hnext⟩ := insertFrom_room hne hheld.sound Held.nil (Nat.zero_le offset)
        (by rw [hcontents, Nat.zero_add]; exact h.size) hoffset
        (by rw [List.length_nil]; omega)
        (hbound _ (by rw [List.length_append]; omega))
      rw [hnext]
  | erase offset size =>
    have hinside : offset + size ≤ d.size := hrange
    have hpieces : d.pieces.length + 1 ≤ pieceCapacity := hroom
    simp only [apply, pieceDocumentErase]
    rw [if_neg (by simp [hvalid]; omega)]
    split
    next => rfl
    next hne =>
      obtain ⟨next, hnext⟩ := eraseFrom_room (show offset ≤ offset + size by omega) h.held.sound
        Held.nil (by rw [List.length_nil]; split <;> omega) (hbound _ h.added)
      rw [hnext]

end Validity

/-- The caller's reader gives the bytes of the original text. -/
def Serves (readOriginal : ReadOriginal) (original : Bytes) : Prop :=
  ∀ offset amount, offset + amount ≤ original.length →
    readOriginal offset amount = some ((original.drop offset).take amount)

/-- The document shows these bytes: any stretch to `read`, and to `stream` all of them in blocks, up
to the one that the writer refuses. -/
structure Shows (readOriginal : ReadOriginal) (d : PieceDocument) (bytes : Bytes) : Prop where
  valid : valid d = true
  size : d.size = bytes.length
  read : ∀ offset size, pieceDocumentRead readOriginal d offset size =
    if offset + size ≤ bytes.length then .ok ((bytes.drop offset).take size) else .error .einval
  stream : ∀ {σ : Type} (writeBytes : σ → Bytes → Bool × σ) (s : σ), ∃ chunks : List Bytes,
    (pieceDocumentStream readOriginal writeBytes d s).2 =
        chunks.foldl (fun s chunk => (writeBytes s chunk).2) s ∧
      chunks.flatten <+: bytes ∧
      ((pieceDocumentStream readOriginal writeBytes d s).1 = .ok () → chunks.flatten = bytes) ∧
      ((∀ s chunk, (writeBytes s chunk).1 = true) →
        (pieceDocumentStream readOriginal writeBytes d s).1 = .ok ())

variable {readOriginal : ReadOriginal} {original : Bytes} {d : PieceDocument} {p : Piece}
  {ps : List Piece}

theorem fetch_eq (hserves : Serves readOriginal original) (hp : p.Sound original d.added)
    {within amount : Nat} (hwithin : within + amount ≤ p.length) :
    fetch readOriginal d p within amount =
      some (((p.bytes original d.added).drop within).take amount) := by
  have hle := hp.le
  have hbytes : ((p.bytes original d.added).drop within).take amount =
      ((sourceBytes original d.added p.source).drop (p.offset + within)).take amount := by
    unfold Piece.bytes
    rw [List.drop_take, List.take_take, List.drop_drop, Nat.min_eq_left (by omega)]
  rw [hbytes]
  unfold fetch sourceBytes
  unfold sourceBytes at hle
  by_cases hsource : p.source = pieceAdded
  · rw [if_pos hsource, if_pos hsource]
    rfl
  · rw [if_neg hsource] at hle
    rw [if_neg hsource, if_neg hsource]
    exact hserves _ _ (by omega)

variable {size logical offset : Nat} {output : Bytes}

theorem readFrom_full (h : output.length = size) :
    readFrom readOriginal d size ps logical offset output = .ok output := by
  cases ps with
  | nil => rw [readFrom, if_pos h]
  | cons p ps => rw [readFrom, if_pos (by omega), if_pos h]

/-- The loop of `read`, from the piece at a logical offset on. -/
theorem readFrom_eq (hserves : Serves readOriginal original)
    (hps : ∀ p ∈ ps, p.Sound original d.added) (hlogical : logical ≤ offset)
    (houtput : output.length ≤ size) (hrest : offset - logical + (size - output.length) ≤
      (contents original d.added ps).length) :
    readFrom readOriginal d size ps logical offset output =
      .ok (output ++
        ((contents original d.added ps).drop (offset - logical)).take (size - output.length)) := by
  induction ps generalizing logical offset output with
  | nil =>
    have hfull : output.length = size := by
      simp only [contents, List.flatMap_nil, List.length_nil] at hrest
      omega
    rw [readFrom_full hfull, hfull, Nat.sub_self, List.take_zero, List.append_nil]
  | cons p ps ih =>
    have hp := hps p List.mem_cons_self
    have hothers : ∀ q ∈ ps, q.Sound original d.added :=
      fun q hq => hps q (List.mem_cons_of_mem _ hq)
    have hlength := hp.length_bytes
    rw [contents_cons, List.length_append, hlength] at hrest
    rcases Nat.lt_or_ge output.length size with hmore | hfull
    · rw [readFrom, if_neg (not_not_intro hmore), contents_cons]
      by_cases hskip : logical + p.length ≤ offset
      · have hgone : (p.bytes original d.added).drop (offset - logical) = [] :=
          List.drop_eq_nil_of_le (by omega)
        rw [if_pos hskip, ih hothers hskip houtput (by omega), List.drop_append, hlength, hgone,
          List.nil_append, Nat.sub_sub]
      · rw [if_neg hskip]
        have hwithin : (if logical < offset then offset - logical else 0) = offset - logical := by
          split <;> omega
        simp only [hwithin]
        rw [fetch_eq hserves hp (by omega)]
        rw [List.drop_append_of_le_length (by omega), List.take_append, List.length_drop, hlength]
        have htaken : (((p.bytes original d.added).drop (offset - logical)).take
            (min (p.length - (offset - logical)) (size - output.length))).length =
            min (p.length - (offset - logical)) (size - output.length) := by
          rw [List.length_take, List.length_drop, hlength]
          omega
        rcases Nat.le_total (size - output.length) (p.length - (offset - logical)) with hlast | hon
        · rw [Nat.min_eq_right hlast] at htaken ⊢
          have hzero : size - output.length - (p.length - (offset - logical)) = 0 := by omega
          simp only
          rw [readFrom_full (by rw [List.length_append, htaken]; omega), hzero, List.take_zero,
            List.append_nil]
        · rw [Nat.min_eq_left hon] at htaken ⊢
          simp only
          rw [ih hothers (by omega) (by rw [List.length_append, htaken]; omega)
              (by rw [List.length_append, htaken]; omega), List.length_append, htaken,
            show offset + (p.length - (offset - logical)) - (logical + p.length) = 0 by omega,
            List.drop_zero, List.append_assoc, Nat.sub_add_eq,
            List.take_of_length_le (show _ ≤ p.length - (offset - logical) by
              rw [List.length_drop, hlength]),
            List.take_of_length_le (show _ ≤ size - output.length by
              rw [List.length_drop, hlength]; exact hon)]
    · have hfull : output.length = size := by omega
      rw [readFrom_full hfull, hfull, Nat.sub_self, List.take_zero, List.append_nil]

variable {σ : Type} (writeBytes : σ → Bytes → Bool × σ)

/-- What a loop of `stream` has given to the writer when it ends. -/
def Gives (bytes : Bytes) (s : σ) (result : Except PieceError Unit × σ) : Prop :=
  ∃ chunks : List Bytes,
    result.2 = chunks.foldl (fun s chunk => (writeBytes s chunk).2) s ∧ chunks.flatten <+: bytes ∧
      (result.1 = .ok () → chunks.flatten = bytes) ∧
      ((∀ s chunk, (writeBytes s chunk).1 = true) → result.1 = .ok ())

theorem streamPiece_gives (hserves : Serves readOriginal original)
    (hp : p.Sound original d.added) (done : Nat) (s : σ) :
    Gives writeBytes ((p.bytes original d.added).drop done) s
      (streamPiece readOriginal writeBytes d p done s) := by
  have hlength := hp.length_bytes
  induction done, s using streamPiece.induct readOriginal writeBytes d p with
  | case1 done s hmore amount hfetch =>
    rw [fetch_eq hserves hp (by omega)] at hfetch
    cases hfetch
  | case2 done s hmore amount bytes hfetch s' hwrite =>
    rw [streamPiece, if_pos hmore]
    simp only [amount] at hfetch
    simp only [hfetch, hwrite]
    rw [fetch_eq hserves hp (by omega)] at hfetch
    obtain rfl := Option.some.inj hfetch
    refine ⟨[_], (congrArg Prod.snd hwrite).symm, ?_, nofun, fun hall => ?_⟩
    · rw [List.flatten_singleton]
      exact List.take_prefix _ _
    · have hfalse : false = true := (congrArg Prod.fst hwrite).symm.trans (hall _ _)
      cases hfalse
  | case3 done s hmore amount bytes hfetch s' hwrite ih =>
    rw [streamPiece, if_pos hmore]
    simp only [amount] at hfetch ih
    simp only [hfetch, hwrite]
    rw [fetch_eq hserves hp (by omega)] at hfetch
    obtain rfl := Option.some.inj hfetch
    obtain ⟨chunks, hstate, hpart, hall, hgood⟩ := ih
    have hsplit := List.take_append_drop (min (p.length - done) pieceIoCapacity)
      ((p.bytes original d.added).drop done)
    rw [List.drop_drop] at hsplit
    refine ⟨((p.bytes original d.added).drop done).take (min (p.length - done) pieceIoCapacity) ::
      chunks, ?_, ?_, fun hok => ?_, hgood⟩
    · rw [List.foldl_cons, hwrite]
      exact hstate
    · have hgrown := (List.prefix_append_right_inj (((p.bytes original d.added).drop done).take
        (min (p.length - done) pieceIoCapacity))).mpr hpart
      rw [hsplit] at hgrown
      exact hgrown
    · rw [List.flatten_cons, hall hok, hsplit]
  | case4 done s hdone =>
    rw [streamPiece, if_neg hdone, List.drop_eq_nil_of_le (by omega)]
    exact ⟨[], rfl, List.nil_prefix, fun _ => rfl, fun _ => rfl⟩

theorem streamPieces_gives (hserves : Serves readOriginal original)
    (hps : ∀ p ∈ ps, p.Sound original d.added) (s : σ) :
    Gives writeBytes (contents original d.added ps) s
      (streamPieces readOriginal writeBytes d ps s) := by
  induction ps generalizing s with
  | nil => exact ⟨[], rfl, List.nil_prefix, fun _ => rfl, fun _ => rfl⟩
  | cons p ps ih =>
    have hp := hps p List.mem_cons_self
    obtain ⟨first, hstate, hpart, hall, hgood⟩ := streamPiece_gives writeBytes hserves hp 0 s
    rw [List.drop_zero] at hpart hall
    rw [streamPieces, contents_cons]
    rcases hrun : streamPiece readOriginal writeBytes d p 0 s with ⟨_ | _, s'⟩
    · rw [hrun] at hstate hgood
      exact ⟨first, hstate, hpart.trans (List.prefix_append _ _), nofun, hgood⟩
    · rw [hrun] at hstate hall
      obtain ⟨rest, hstate', hpart', hall', hgood'⟩ :=
        ih (fun q hq => hps q (List.mem_cons_of_mem _ hq)) s'
      have hfirst : first.flatten = p.bytes original d.added := hall rfl
      refine ⟨first ++ rest, ?_, ?_, fun hok => ?_, hgood'⟩
      · rw [List.foldl_append, ← hstate]
        exact hstate'
      · rw [List.flatten_append, hfirst]
        exact (List.prefix_append_right_inj _).mpr hpart'
      · rw [List.flatten_append, hfirst, hall' hok]

theorem Good.shows (hserves : Serves readOriginal original)
    (horiginal : d.originalSize.toNat = original.length) (h : Good original d) :
    Shows readOriginal d (contents original d.added d.pieces) := by
  have hvalid := (valid_iff horiginal).mpr h
  have hsize := h.size
  refine ⟨hvalid, hsize, fun offset size => ?_, fun writeBytes s => ?_⟩
  · unfold pieceDocumentRead
    by_cases hrange : offset + size ≤ (contents original d.added d.pieces).length
    · rw [if_pos hrange, if_neg (by simp [hvalid]; omega),
        readFrom_eq hserves h.held.sound (Nat.zero_le _) (Nat.zero_le _)
          (by rw [List.length_nil]; omega)]
      rfl
    · rw [if_neg hrange, if_pos (by simp [hvalid]; omega)]
  · unfold pieceDocumentStream
    rw [hvalid]
    exact streamPieces_gives writeBytes hserves h.held.sound s

theorem edited_good (horiginal : d.originalSize.toNat = original.length) (h : Good original d)
    (edits : List PieceEdit) :
    Good original (edited d edits) ∧
      contents original (edited d edits).added (edited d edits).pieces =
        listEdited d (contents original d.added d.pieces) edits ∧
      (edited d edits).originalSize.toNat = original.length := by
  induction edits generalizing d with
  | nil => exact ⟨h, rfl, horiginal⟩
  | cons edit edits ih =>
    unfold listEdited
    by_cases hok : (edit.apply d).1 = .ok ()
    · obtain ⟨hgood, hcontents, hsame⟩ := apply_ok horiginal h hok
      rw [if_pos hok, ← hcontents]
      exact ih (by rw [hsame]; exact horiginal) hgood
    · rw [if_neg hok]
      have hsame : edited d (edit :: edits) = edited d edits := by
        show edited (edit.apply d).2 edits = _
        rw [apply_failed hok]
      rw [hsame, apply_failed hok]
      exact ih horiginal h

/-- Under every run of edits the document stays valid and is the list of its bytes, which `read` and
`stream` show; a failed edit leaves everything, and one in range fails only for want of room. -/
theorem edits_refine (hserves : Serves readOriginal original) (hvalid : valid d = true)
    (horiginal : d.originalSize.toNat = original.length) :
    ∃ bytes, Shows readOriginal d bytes ∧ ∀ edits,
      Shows readOriginal (edited d edits) (listEdited d bytes edits) ∧
      ∀ edit : PieceEdit,
        ((edit.apply (edited d edits)).1 ≠ .ok () →
          (edit.apply (edited d edits)).2 = edited d edits) ∧
        (edit.InRange (edited d edits).size → edit.HasRoom (edited d edits) →
          (edit.apply (edited d edits)).1 = .ok ()) := by
  have h := (valid_iff horiginal).mp hvalid
  refine ⟨_, h.shows hserves horiginal, fun edits => ?_⟩
  obtain ⟨hgood, hcontents, hlength⟩ := edited_good horiginal h edits
  refine ⟨?_, fun edit => ⟨apply_failed, apply_room hlength hgood⟩⟩
  rw [← hcontents]
  exact hgood.shows hserves hlength

/-- An opened text of three bytes and edits that go through it. -/
theorem opened_edited :
    ∃ bytes, Shows (fun offset amount => some (([1, 2, 3] : Bytes).drop offset |>.take amount))
        (pieceDocumentOpen 3) bytes ∧ ∀ edits,
      Shows (fun offset amount => some (([1, 2, 3] : Bytes).drop offset |>.take amount))
        (edited (pieceDocumentOpen 3) edits) (listEdited (pieceDocumentOpen 3) bytes edits) ∧
      ∀ edit : PieceEdit,
        ((edit.apply (edited (pieceDocumentOpen 3) edits)).1 ≠ .ok () →
          (edit.apply (edited (pieceDocumentOpen 3) edits)).2 =
            edited (pieceDocumentOpen 3) edits) ∧
        (edit.InRange (edited (pieceDocumentOpen 3) edits).size →
          edit.HasRoom (edited (pieceDocumentOpen 3) edits) →
          (edit.apply (edited (pieceDocumentOpen 3) edits)).1 = .ok ()) :=
  edits_refine (fun _ _ _ => rfl) (by decide) (by decide)

end ReistOs.Pieces
