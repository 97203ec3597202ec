import ReistOs.PieceDocument

namespace ReistOs.Pieces

variable {original added data : Bytes} {ps next result : List Piece} {p : Piece}
  {source : UInt32} {offset length : Nat}

def sourceBytes (original added : Bytes) (source : UInt32) : Bytes :=
  if source = pieceAdded then added else original

def Piece.bytes (original added : Bytes) (p : Piece) : Bytes :=
  ((sourceBytes original added p.source).drop p.offset).take p.length

def contents (original added : Bytes) (ps : List Piece) : Bytes :=
  ps.flatMap (Piece.bytes original added)

/-- A piece that is not empty and lies in its source. -/
structure Piece.Sound (original added : Bytes) (p : Piece) : Prop where
  kind : p.source = pieceOriginal ∨ p.source = pieceAdded
  positive : 0 < p.length
  le : p.offset + p.length ≤ (sourceBytes original added p.source).length

/-- Sound pieces, no more than the table holds. -/
structure Held (original added : Bytes) (ps : List Piece) : Prop where
  sound : ∀ p ∈ ps, p.Sound original added
  room : ps.length ≤ pieceCapacity

theorem Piece.Sound.length_bytes (h : p.Sound original added) :
    (p.bytes original added).length = p.length := by
  have hle := h.le
  unfold Piece.bytes
  rw [List.length_take, List.length_drop]
  omega

theorem contents_cons (p : Piece) (ps : List Piece) :
    contents original added (p :: ps) = p.bytes original added ++ contents original added ps :=
  List.flatMap_cons

theorem contents_append (ps qs : List Piece) :
    contents original added (ps ++ qs) = contents original added ps ++ contents original added qs :=
  List.flatMap_append

theorem contents_single (p : Piece) : contents original added [p] = p.bytes original added := by
  rw [contents_cons]
  exact List.append_nil _

theorem Piece.Sound.grow (h : p.Sound original added) (data : Bytes) :
    p.Sound original (added ++ data) ∧ p.bytes original (added ++ data) = p.bytes original added := by
  have hle := h.le
  unfold sourceBytes at hle
  unfold Piece.bytes sourceBytes
  by_cases hsource : p.source = pieceAdded
  · rw [if_pos hsource] at hle ⊢
    refine ⟨⟨h.kind, h.positive, ?_⟩, ?_⟩
    · unfold sourceBytes
      rw [if_pos hsource, List.length_append]
      omega
    · rw [if_pos hsource, List.drop_append_of_le_length (by omega),
        List.take_append_of_le_length (by rw [List.length_drop]; omega)]
  · rw [if_neg hsource] at hle ⊢
    refine ⟨⟨h.kind, h.positive, ?_⟩, by rw [if_neg hsource]⟩
    unfold sourceBytes
    rw [if_neg hsource]
    exact hle

theorem Held.grow (h : Held original added ps) (data : Bytes) :
    Held original (added ++ data) ps ∧
      contents original (added ++ data) ps = contents original added ps :=
  ⟨⟨fun p hp => ((h.sound p hp).grow data).1, h.room⟩,
    List.flatMap_congr fun p hp => ((h.sound p hp).grow data).2⟩

theorem append_contents (h : Held original added ps)
    (hp : length ≠ 0 → (⟨source, offset, length⟩ : Piece).Sound original added)
    (hresult : append ps source offset length = some result) :
    contents original added result =
        contents original added ps ++ (⟨source, offset, length⟩ : Piece).bytes original added ∧
      Held original added result := by
  unfold append at hresult
  split at hresult
  next hzero =>
    obtain rfl := Option.some.inj hresult
    subst hzero
    exact ⟨by simp [Piece.bytes], h⟩
  next hne =>
    have hsound := hp hne
    have hnew : ∀ qs : List Piece, qs.length < pieceCapacity →
        (∀ q ∈ qs, q.Sound original added) →
        Held original added (qs ++ [⟨source, offset, length⟩]) := by
      intro qs hroom hqs
      refine ⟨fun q hq => ?_, by rw [List.length_append, List.length_singleton]; omega⟩
      rcases List.mem_append.mp hq with hq | hq
      · exact hqs q hq
      · rw [List.mem_singleton.mp hq]
        exact hsound
    have hroom := h.room
    rcases List.eq_nil_or_concat ps with rfl | ⟨front, last, rfl⟩
    · simp only [List.getLast?_nil] at hresult
      split at hresult
      next => cases hresult
      next =>
        obtain rfl := Option.some.inj hresult
        exact ⟨by rw [contents_append, contents_single], hnew [] (by decide) fun q hq => by cases hq⟩
    · rw [List.concat_eq_append] at h hresult hroom ⊢
      simp only [List.getLast?_append, List.getLast?_singleton, Option.some_or,
        List.dropLast_concat] at hresult
      have hlast := h.sound last (by simp)
      have hfront : ∀ q ∈ front, q.Sound original added := fun q hq => h.sound q (by simp [hq])
      split at hresult
      next hjoins =>
        obtain ⟨hsource, hoffset⟩ := hjoins
        split at hresult
        next => cases hresult
        next =>
          obtain rfl := Option.some.inj hresult
          subst hsource hoffset
          constructor
          · rw [contents_append, contents_append, contents_single, contents_single, List.append_assoc]
            congr 1
            unfold Piece.bytes
            rw [List.take_add, List.drop_drop]
          · refine ⟨fun q hq => ?_, ?_⟩
            · rcases List.mem_append.mp hq with hq | hq
              · exact hfront q hq
              · rw [List.mem_singleton.mp hq]
                have hle := hsound.le
                have hpos := hlast.positive
                exact ⟨hlast.kind, Nat.add_pos_left hpos _, by
                  show last.offset + (last.length + length) ≤ _
                  rw [← Nat.add_assoc]
                  exact hle⟩
            · simp only [List.length_append, List.length_singleton] at hroom ⊢
              exact hroom
      next =>
        split at hresult
        next => cases hresult
        next hfull =>
          obtain rfl := Option.some.inj hresult
          refine ⟨by rw [contents_append, contents_single], hnew _ ?_ h.sound⟩
          omega

theorem append_room (source : UInt32) (offset length : Nat) (h : Held original added ps) (hroom : ps.length < pieceCapacity)
    (hbound : ∀ source, (sourceBytes original added source).length ≤ uint32Max)
    (hp : length ≠ 0 → (⟨source, offset, length⟩ : Piece).Sound original added) :
    ∃ result, append ps source offset length = some result ∧
      result.length ≤ ps.length + 1 := by
  unfold append
  split
  next => exact ⟨ps, rfl, by omega⟩
  next hne =>
    have hsound := hp hne
    rcases List.eq_nil_or_concat ps with rfl | ⟨front, last, rfl⟩
    · exact ⟨[⟨source, offset, length⟩], rfl, le_rfl⟩
    · rw [List.concat_eq_append] at h hroom ⊢
      simp only [List.getLast?_append, List.getLast?_singleton, Option.some_or,
        List.dropLast_concat]
      split
      next hjoins =>
        obtain ⟨hsource, hoffset⟩ := hjoins
        have hle := hsound.le
        have hsize := hbound source
        simp only at hle
        rw [if_neg (by omega)]
        exact ⟨_, rfl, by simp⟩
      next =>
        rw [if_neg (by omega)]
        exact ⟨_, rfl, by simp⟩

theorem appendAll_contents (hps : ∀ p ∈ ps, p.Sound original added)
    (h : Held original added next) (hresult : appendAll ps next = some result) :
    contents original added result = contents original added next ++ contents original added ps ∧
      Held original added result := by
  induction ps generalizing next with
  | nil =>
    obtain rfl := Option.some.inj hresult
    exact ⟨by simp [contents], h⟩
  | cons p ps ih =>
    obtain ⟨middle, hmiddle, hrest⟩ := Option.bind_eq_some_iff.mp hresult
    obtain ⟨hcontents, hheld⟩ := append_contents h (fun _ => hps p List.mem_cons_self) hmiddle
    obtain ⟨hall, hend⟩ := ih (fun q hq => hps q (List.mem_cons_of_mem _ hq)) hheld hrest
    refine ⟨?_, hend⟩
    rw [hall, hcontents, contents_cons, List.append_assoc]

theorem appendAll_room (hps : ∀ p ∈ ps, p.Sound original added) (h : Held original added next)
    (hroom : next.length + ps.length ≤ pieceCapacity)
    (hbound : ∀ source, (sourceBytes original added source).length ≤ uint32Max) :
    ∃ result, appendAll ps next = some result := by
  induction ps generalizing next with
  | nil => exact ⟨next, rfl⟩
  | cons p ps ih =>
    rw [List.length_cons] at hroom
    have hp := hps p List.mem_cons_self
    obtain ⟨middle, hmiddle, hlength⟩ := append_room p.source p.offset p.length h (by omega) hbound (fun _ => hp)
    obtain ⟨-, hheld⟩ := append_contents h (fun _ => hp) hmiddle
    unfold appendAll
    rw [hmiddle]
    exact ih (fun q hq => hps q (List.mem_cons_of_mem _ hq)) hheld (by omega)

theorem Piece.Sound.parts (h : p.Sound original added) (left : Nat) (hleft : left ≤ p.length) :
    (left ≠ 0 → (⟨p.source, p.offset, left⟩ : Piece).Sound original added) ∧
      (p.length - left ≠ 0 →
        (⟨p.source, p.offset + left, p.length - left⟩ : Piece).Sound original added) ∧
      (⟨p.source, p.offset, left⟩ : Piece).bytes original added =
        (p.bytes original added).take left ∧
      (⟨p.source, p.offset + left, p.length - left⟩ : Piece).bytes original added =
        (p.bytes original added).drop left := by
  have hle := h.le
  refine ⟨fun hne => ⟨h.kind, by show 0 < left; omega, ?_⟩, fun hne => ⟨h.kind, ?_, ?_⟩, ?_, ?_⟩
  · show p.offset + left ≤ (sourceBytes original added p.source).length
    omega
  · show 0 < p.length - left
    omega
  · show p.offset + left + (p.length - left) ≤ (sourceBytes original added p.source).length
    omega
  · unfold Piece.bytes
    rw [List.take_take, Nat.min_eq_left hleft]
  · unfold Piece.bytes
    rw [List.drop_take, List.drop_drop]

theorem Held.nil : Held original added [] := ⟨fun p hp => (by cases hp), Nat.zero_le _⟩

theorem added_sound (original added : Bytes) (hne : data.length ≠ 0) :
    (⟨pieceAdded, added.length, data.length⟩ : Piece).Sound original (added ++ data) ∧
      (⟨pieceAdded, added.length, data.length⟩ : Piece).bytes original (added ++ data) = data := by
  refine ⟨⟨.inr rfl, Nat.pos_of_ne_zero hne, ?_⟩, ?_⟩
  · show added.length + data.length ≤ (added ++ data).length
    rw [List.length_append]
  · show ((added ++ data).drop added.length).take data.length = data
    rw [List.drop_left, List.take_length]

variable {d : PieceDocument} {logical : Nat}

theorem insertFrom_contents (hne : data.length ≠ 0)
    (hps : ∀ p ∈ ps, p.Sound original (d.added ++ data))
    (hnext : Held original (d.added ++ data) next) (hlogical : logical ≤ offset)
    (hoffset : offset ≤ logical + (contents original (d.added ++ data) ps).length)
    (hresult : insertFrom d offset data.length ps next logical = some result) :
    contents original (d.added ++ data) result = contents original (d.added ++ data) next ++
        ((contents original (d.added ++ data) ps).take (offset - logical) ++ data ++
          (contents original (d.added ++ data) ps).drop (offset - logical)) ∧
      Held original (d.added ++ data) result := by
  obtain ⟨hnew, hbytes⟩ := added_sound original d.added hne
  induction ps generalizing next logical with
  | nil =>
    simp only [insertFrom] at hresult
    split at hresult
    next =>
      obtain ⟨hcontents, hheld⟩ := append_contents hnext (fun _ => hnew) hresult
      refine ⟨?_, hheld⟩
      rw [hcontents, hbytes]
      simp [contents]
    next => cases hresult
  | cons p ps ih =>
    have hp := hps p List.mem_cons_self
    have hrest : ∀ q ∈ ps, q.Sound original (d.added ++ data) :=
      fun q hq => hps q (List.mem_cons_of_mem _ hq)
    have hlength := hp.length_bytes
    rw [contents_cons, List.length_append, hlength] at hoffset
    unfold insertFrom at hresult
    split at hresult
    next hhere =>
      obtain ⟨hleftSound, hrightSound, hleft, hright⟩ :=
        hp.parts (offset - logical) (by omega)
      obtain ⟨first, hfirst, h⟩ := Option.bind_eq_some_iff.mp hresult
      obtain ⟨second, hsecond, h⟩ := Option.bind_eq_some_iff.mp h
      obtain ⟨third, hthird, h⟩ := Option.bind_eq_some_iff.mp h
      obtain ⟨h1, hheld1⟩ := append_contents hnext hleftSound hfirst
      obtain ⟨h2, hheld2⟩ := append_contents hheld1 (fun _ => hnew) hsecond
      obtain ⟨h3, hheld3⟩ := append_contents hheld2 hrightSound hthird
      obtain ⟨h4, hheld4⟩ := appendAll_contents hrest hheld3 h
      refine ⟨?_, hheld4⟩
      rw [h4, h3, h2, h1, hbytes, hleft, hright, contents_cons,
        List.take_append_of_le_length (by omega), List.drop_append_of_le_length (by omega)]
      simp only [List.append_assoc]
    next hlater =>
      have hafter : logical + p.length ≤ offset := by omega
      obtain ⟨middle, hmiddle, h⟩ := Option.bind_eq_some_iff.mp hresult
      obtain ⟨h1, hheld⟩ := append_contents hnext (fun _ => hp) hmiddle
      obtain ⟨h2, hend⟩ := ih hrest hheld hafter (by omega) h
      have hsplit : offset - logical = p.length + (offset - (logical + p.length)) := by omega
      refine ⟨?_, hend⟩
      rw [h2, h1, contents_cons, hsplit, ← hlength, List.take_length_add_append,
        List.drop_length_add_append]
      simp only [List.append_assoc, hlength]

theorem insertFrom_room (hne : data.length ≠ 0) (hps : ∀ p ∈ ps, p.Sound original (d.added ++ data))
    (hnext : Held original (d.added ++ data) next) (hlogical : logical ≤ offset)
    (hsize : d.size = logical + (contents original (d.added ++ data) ps).length)
    (hoffset : offset ≤ d.size) (hroom : next.length + ps.length + 2 ≤ pieceCapacity)
    (hbound : ∀ source, (sourceBytes original (d.added ++ data) source).length ≤ uint32Max) :
    ∃ result, insertFrom d offset data.length ps next logical = some result := by
  obtain ⟨hnew, -⟩ := added_sound original d.added hne
  induction ps generalizing next logical with
  | nil =>
    have hend : offset = d.size := by
      simp only [contents, List.flatMap_nil, List.length_nil] at hsize
      omega
    obtain ⟨result, hresult, -⟩ := append_room pieceAdded d.added.length data.length hnext (by omega) hbound (fun _ => hnew)
    exact ⟨result, by rw [insertFrom, if_pos hend, hresult]⟩
  | cons p ps ih =>
    have hp := hps p List.mem_cons_self
    have hrest : ∀ q ∈ ps, q.Sound original (d.added ++ data) :=
      fun q hq => hps q (List.mem_cons_of_mem _ hq)
    rw [contents_cons, List.length_append, hp.length_bytes] at hsize
    rw [List.length_cons] at hroom
    unfold insertFrom
    split
    next hhere =>
      obtain ⟨hleftSound, hrightSound, -, -⟩ := hp.parts (offset - logical) (by omega)
      obtain ⟨first, hfirst, hlength1⟩ := append_room p.source p.offset
        (offset - logical) hnext (by omega) hbound hleftSound
      obtain ⟨-, hheld1⟩ := append_contents hnext hleftSound hfirst
      obtain ⟨second, hsecond, hlength2⟩ := append_room pieceAdded d.added.length
        data.length hheld1 (by omega) hbound (fun _ => hnew)
      obtain ⟨-, hheld2⟩ := append_contents hheld1 (fun _ => hnew) hsecond
      obtain ⟨third, hthird, hlength3⟩ := append_room p.source
        (p.offset + (offset - logical)) (p.length - (offset - logical)) hheld2
        (by omega) hbound hrightSound
      obtain ⟨-, hheld3⟩ := append_contents hheld2 hrightSound hthird
      obtain ⟨result, hresult⟩ := appendAll_room hrest hheld3 (by omega) hbound
      exact ⟨result, by simp only [hfirst, hsecond, hthird, Option.bind_some, hresult]⟩
    next hlater =>
      have hafter : logical + p.length ≤ offset := by omega
      obtain ⟨middle, hmiddle, hlength⟩ := append_room p.source p.offset p.length hnext (by omega) hbound (fun _ => hp)
      obtain ⟨-, hheld⟩ := append_contents hnext (fun _ => hp) hmiddle
      obtain ⟨result, hresult⟩ := ih hrest hheld hafter (by omega) (by omega)
      exact ⟨result, by simp only [hmiddle, Option.bind_some, hresult]⟩

theorem cut_append {β : Type} (xs ys : List β) {i j : Nat} (hij : i ≤ j) :
    xs.take i ++ xs.drop j ++ (ys.take (i - xs.length) ++ ys.drop (j - xs.length)) =
      (xs ++ ys).take i ++ (xs ++ ys).drop j := by
  rw [List.take_append, List.drop_append]
  rcases Nat.lt_or_ge j xs.length with hj | hj
  · rw [show i - xs.length = 0 by omega, List.take_zero]
    simp only [List.append_nil, List.nil_append, List.append_assoc]
  · rw [List.drop_eq_nil_of_le hj]
    simp only [List.append_nil, List.nil_append, List.append_assoc]

theorem eraseFrom_contents {stop : Nat} (hstop : offset ≤ stop)
    (hps : ∀ p ∈ ps, p.Sound original added) (hnext : Held original added next)
    (hresult : eraseFrom offset stop ps next logical = some result) :
    contents original added result = contents original added next ++
        ((contents original added ps).take (offset - logical) ++
          (contents original added ps).drop (stop - logical)) ∧
      Held original added result := by
  induction ps generalizing next logical with
  | nil =>
    obtain rfl := Option.some.inj hresult
    exact ⟨by simp [contents], hnext⟩
  | cons p ps ih =>
    have hp := hps p List.mem_cons_self
    have hrest : ∀ q ∈ ps, q.Sound original added := fun q hq => hps q (List.mem_cons_of_mem _ hq)
    have hlength := hp.length_bytes
    obtain ⟨first, hfirst, h⟩ := Option.bind_eq_some_iff.mp hresult
    obtain ⟨second, hsecond, h⟩ := Option.bind_eq_some_iff.mp h
    have hkeep : contents original added first = contents original added next ++
        (p.bytes original added).take (offset - logical) ∧ Held original added first := by
      split at hfirst
      next hbefore =>
        have hleft : (if offset < logical + p.length then offset - logical else p.length) ≤
            p.length := by split <;> omega
        obtain ⟨hsound, -, hbytes, -⟩ := hp.parts _ hleft
        obtain ⟨hcontents, hheld⟩ := append_contents hnext hsound hfirst
        refine ⟨?_, hheld⟩
        rw [hcontents, hbytes]
        congr 1
        split
        next => rfl
        next =>
          rw [List.take_of_length_le (by omega), List.take_of_length_le (by omega)]
      next hafter =>
        obtain rfl := Option.some.inj hfirst
        refine ⟨?_, hnext⟩
        rw [show offset - logical = 0 by omega, List.take_zero, List.append_nil]
    have hskip : contents original added second = contents original added first ++
        (p.bytes original added).drop (stop - logical) ∧ Held original added second := by
      split at hsecond
      next hbeyond =>
        have hskipped : (if logical < stop then stop - logical else 0) = stop - logical := by
          split <;> omega
        obtain ⟨-, hsound, -, hbytes⟩ := hp.parts (stop - logical) (by omega)
        rw [hskipped] at hsecond
        obtain ⟨hcontents, hheld⟩ := append_contents hkeep.2 hsound hsecond
        exact ⟨by rw [hcontents, hbytes], hheld⟩
      next hinside =>
        obtain rfl := Option.some.inj hsecond
        refine ⟨?_, hkeep.2⟩
        rw [List.drop_eq_nil_of_le (by omega), List.append_nil]
    obtain ⟨hall, hend⟩ := ih hrest hskip.2 h
    have hcut := cut_append (p.bytes original added) (contents original added ps)
      (show offset - logical ≤ stop - logical by omega)
    refine ⟨?_, hend⟩
    rw [hall, hskip.1, hkeep.1, contents_cons, ← hcut, hlength, Nat.sub_sub, Nat.sub_sub]
    simp only [List.append_assoc]

theorem eraseFrom_room {stop : Nat} (hstop : offset ≤ stop) (hps : ∀ p ∈ ps, p.Sound original added)
    (hnext : Held original added next)
    (hroom : next.length + ps.length + (if logical < offset then 1 else 0) ≤ pieceCapacity)
    (hbound : ∀ source, (sourceBytes original added source).length ≤ uint32Max) :
    ∃ result, eraseFrom offset stop ps next logical = some result := by
  induction ps generalizing next logical with
  | nil => exact ⟨next, rfl⟩
  | cons p ps ih =>
    have hp := hps p List.mem_cons_self
    have hrest : ∀ q ∈ ps, q.Sound original added := fun q hq => hps q (List.mem_cons_of_mem _ hq)
    have hpositive := hp.positive
    rw [List.length_cons] at hroom
    have hkeep : ∃ first, (if logical < offset then
        append next p.source p.offset (if offset < logical + p.length then offset - logical
          else p.length) else some next) = some first ∧ Held original added first ∧
        first.length ≤ next.length + (if logical < offset then 1 else 0) := by
      split
      next hbefore =>
        have hleft : (if offset < logical + p.length then offset - logical else p.length) ≤
            p.length := by split <;> omega
        obtain ⟨hsound, -, -, -⟩ := hp.parts _ hleft
        obtain ⟨first, hfirst, hlength⟩ := append_room _ _ _ hnext (by omega) hbound hsound
        exact ⟨first, hfirst, (append_contents hnext hsound hfirst).2, hlength⟩
      next => exact ⟨next, rfl, hnext, le_rfl⟩
    obtain ⟨first, hfirst, hheld, hlength⟩ := hkeep
    have hskip : ∃ second, (if stop < logical + p.length then
        append first p.source (p.offset + (if logical < stop then stop - logical else 0))
          (p.length - (if logical < stop then stop - logical else 0)) else some first) =
        some second ∧ Held original added second ∧
        second.length ≤ first.length + (if stop < logical + p.length then 1 else 0) := by
      split
      next hbeyond =>
        have hcut : (if logical < stop then stop - logical else 0) ≤ p.length := by split <;> omega
        obtain ⟨-, hsound, -, -⟩ := hp.parts _ hcut
        obtain ⟨second, hsecond, hlength'⟩ :=
          append_room _ _ _ hheld (by split at hlength <;> split at hroom <;> omega) hbound hsound
        exact ⟨second, hsecond, (append_contents hheld hsound hsecond).2, hlength'⟩
      next => exact ⟨first, rfl, hheld, le_rfl⟩
    obtain ⟨second, hsecond, hheld', hlength'⟩ := hskip
    have hrest' : second.length + ps.length + (if logical + p.length < offset then 1 else 0) ≤
        pieceCapacity := by
      split at hlength <;> split at hlength' <;> split <;> split at hroom <;> omega
    obtain ⟨result, hresult⟩ := ih hrest hheld' hrest'
    exact ⟨result, by simp only [eraseFrom, hfirst, hsecond, Option.bind_some, hresult]⟩

end ReistOs.Pieces
