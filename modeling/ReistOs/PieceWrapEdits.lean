import ReistOs.PieceWrapGuarantees

namespace ReistOs.Pieces

open Relation WrapScan WrapSteps PieceEdit

section History

variable {text text' : Bytes} {w w' : WrapScan} {s s' : Nat × WrapScan}
  {columns documentSize p q row : Nat}

def WrapScan.resize (w : WrapScan) (documentSize : Nat) : WrapScan :=
  { w with documentSize := documentSize }

def WrapScan.back (w : WrapScan) (row : Nat) : WrapScan :=
  { w with rows := w.rows.take (row + 1), currentColumn := 0, currentRowBytes := 0 }

variable {offset : Nat} {hard : Bool} {r : WrapRow} {s0 : Nat × WrapScan}

theorem newRow_back (h : row < w.rows.length) :
    (w.newRow offset hard).back row = w.back row := by
  unfold back newRow
  rw [List.take_append_of_le_length (by omega)]

theorem newRow_back_self :
    (w.newRow offset hard).back w.rows.length = w.newRow offset hard := by
  unfold back newRow
  rw [List.take_of_length_le (by simp)]

theorem newRow_row (h : (w.newRow offset hard).rows[row]? = some r) :
    w.rows[row]? = some r ∨ (row = w.rows.length ∧ r = ⟨offset, hard⟩) := by
  have hrow : (w.rows ++ [⟨offset, hard⟩])[row]? = some r := h
  by_cases hlt : row < w.rows.length
  · rw [List.getElem?_append_left hlt] at hrow
    exact .inl hrow
  · obtain ⟨hle, -⟩ := List.getElem?_eq_some_iff.mp hrow
    rw [List.length_append, List.length_singleton] at hle
    obtain rfl : row = w.rows.length := by omega
    rw [List.getElem?_concat_length] at hrow
    exact .inr ⟨rfl, (Option.some.inj hrow).symm⟩

theorem WrapSteps.back (h : WrapSteps text (0, wrapStart columns documentSize) s)
    (hrow : s.2.rows[row]? = some ⟨p, true⟩) :
    WrapSteps text (0, wrapStart columns documentSize) (p, s.2.back row) := by
  induction h with
  | refl =>
    cases row with
    | zero =>
      cases hrow
      exact .refl
    | succ row => cases hrow
  | @tail x y hpath hstep ih =>
    have hstep' := hstep
    obtain ⟨t, -, hadd, hnext⟩ := hstep'
    have hbefore : x.2.rows[row]? = some ⟨p, true⟩ → row < x.2.rows.length := fun h =>
      (List.getElem?_eq_some_iff.mp h).1
    rcases wrapAdd_iff.mp hadd with ⟨-, -, hy⟩ | ⟨-, -, -, hy⟩ | ⟨-, -, hy⟩
    · rcases newRow_row (hy ▸ hrow) with hold | ⟨hlast, hr⟩
      · rw [hy, newRow_back (hbefore hold)]
        exact ih hold
      · cases hr
        have hself : y.2.back row = y.2 := by rw [hy, hlast, newRow_back_self]
        rw [hself, ← hnext]
        exact hpath.tail hstep
    · have hrow' : (x.2.newRow x.1 false).rows[row]? = some ⟨p, true⟩ := by
        rw [hy] at hrow
        exact hrow
      rcases newRow_row hrow' with hold | ⟨-, hr⟩
      · rw [hy]
        show WrapSteps text _ (p, (x.2.newRow x.1 false).back row)
        rw [newRow_back (hbefore hold)]
        exact ih hold
      · cases hr
    · rw [hy] at hrow ⊢
      exact ih hrow

/-- A scan of a text is one of any other that starts with the same bytes, unless these end with a
lone CR there and with the first half of a CR LF here. -/
theorem WrapSteps.transport (h : WrapSteps text (q, w) s) (hagree : text.take p = text'.take p)
    (hp : s.1 ≤ p) (hfits : p ≤ documentSize)
    (hcr : ¬(0 < p ∧ text[p - 1]? = some 13 ∧ text'[p]? = some 10)) :
    WrapSteps text' (q, w.resize documentSize) (s.1, s.2.resize documentSize) := by
  induction h with
  | refl => exact .refl
  | @tail x y hpath hstep ih =>
    have hlt := hstep.keeps.1
    obtain ⟨t, htoken, hadd, hnext⟩ := hstep
    have hdrop : (text.drop x.1).take (p - x.1) = (text'.drop x.1).take (p - x.1) := by
      rw [← List.drop_take, ← List.drop_take, hagree]
    have htoken' := (wrapToken_agree hdrop htoken (by omega) (by
      rintro ⟨hone, hhead, hnext'⟩
      rw [List.head?_drop, show x.1 = p - 1 by omega] at hhead
      rw [List.getElem?_drop, show x.1 + 1 = p by omega] at hnext'
      exact hcr ⟨by omega, hhead, hnext'⟩)).2.2.2
    have hroom : ∀ {offset : Nat}, offset ≤ p → x.2.Room offset →
        (x.2.resize documentSize).Room offset := fun hle hr => ⟨hr.1, hr.2.1, by
      show _ ≤ documentSize
      omega⟩
    have hadd' : wrapAdd (x.2.resize documentSize) x.1 t = .ok (y.2.resize documentSize) := by
      rcases wrapAdd_iff.mp hadd with ⟨hbreak, hr, hy⟩ | ⟨hbreak, hfull, hr, hy⟩ | ⟨hbreak, hfull, hy⟩
      · exact wrapAdd_iff.mpr (.inl ⟨hbreak, hroom (by omega) hr, by rw [hy]; rfl⟩)
      · exact wrapAdd_iff.mpr (.inr (.inl ⟨hbreak, hfull, hroom (by omega) hr, by rw [hy]; rfl⟩))
      · exact wrapAdd_iff.mpr (.inr (.inr ⟨hbreak, hfull, by rw [hy]; rfl⟩))
    exact (ih (by omega)).tail ⟨t, htoken', hadd', hnext⟩

theorem WrapSteps.behindCr (h : WrapSteps text (0, wrapStart columns documentSize) (p, w))
    (hcolumn : w.currentColumn = 0) (hp : 0 < p) (hcr : text[p - 1]? = some 13) :
    text[p]? ≠ some 10 ∧
      ∃ w', WrapSteps text (0, wrapStart columns documentSize) (p - 1, w') := by
  rcases h.cases_tail with heq | ⟨x, hpath, t, htoken, hadd, hnext⟩
  · cases heq
    exact absurd hp (Nat.lt_irrefl 0)
  · have hnext : p = x.1 + t.1 := hnext
    have hbreak : t.2 = true := by
      rcases wrapAdd_iff.mp hadd with ⟨hbreak, -⟩ | ⟨-, -, -, hy⟩ | ⟨-, -, hy⟩
      · exact hbreak
      · have hzero := congrArg currentColumn hy
        exact absurd (hcolumn.symm.trans hzero) (Nat.zero_ne_add_one _)
      · have hzero := congrArg currentColumn hy
        exact absurd (hcolumn.symm.trans hzero) (Nat.zero_ne_add_one _)
    have hsize : t.1 = lineBreak (text.drop x.1) ∧ t.1 ≠ 0 := by
      unfold wrapToken at htoken
      split at htoken
      next hne =>
        cases htoken
        exact ⟨rfl, hne⟩
      next =>
        split at htoken
        next => cases htoken
        next =>
          split at htoken
          next => cases htoken
          next =>
            cases htoken
            cases hbreak
    obtain ⟨hsize, hpos⟩ := hsize
    cases hrest : text.drop x.1 with
    | nil =>
      rw [hrest] at hsize
      exact absurd hsize hpos
    | cons b rest =>
      have hfirst : text[x.1]? = some b := by
        rw [← List.head?_drop, hrest]
        rfl
      have hsecond : text[x.1 + 1]? = rest.head? := by
        rw [← List.getElem?_drop, hrest]
        exact List.head?_eq_getElem?.symm
      rw [hrest] at hsize
      simp only [lineBreak] at hsize
      split at hsize
      next =>
        split at hsize
        next hlf =>
          rw [hlf] at hsecond
          rw [show p - 1 = x.1 + 1 by omega, hsecond] at hcr
          cases hcr
        next hlf =>
          rw [show p = x.1 + 1 by omega, hsecond]
          exact ⟨hlf, x.2, hpath⟩
      next hb =>
        split at hsize
        next =>
          rw [show p - 1 = x.1 by omega, hfirst] at hcr
          exact absurd (Option.some.inj hcr) hb
        next => exact absurd hsize hpos

theorem WrapSteps.row_visited (h : WrapSteps text s0 s) (hr : r ∈ s.2.rows) :
    r ∈ s0.2.rows ∨ ∃ w, WrapSteps text s0 (r.offset, w) := by
  induction h with
  | refl => exact .inl hr
  | @tail x y hpath hstep ih =>
    have hstep' := hstep
    obtain ⟨t, -, hadd, hnext⟩ := hstep'
    rcases wrapAdd_iff.mp hadd with ⟨-, -, hy⟩ | ⟨-, -, -, hy⟩ | ⟨-, -, hy⟩
    · rw [hy] at hr
      rcases List.mem_append.mp hr with hold | hnew
      · exact ih hold
      · rw [List.mem_singleton.mp hnew]
        show _ ∨ ∃ w, WrapSteps text s0 (x.1 + t.1, w)
        rw [← hnext]
        exact .inr ⟨y.2, hpath.tail hstep⟩
    · rw [hy] at hr
      rcases List.mem_append.mp hr with hold | hnew
      · exact ih hold
      · rw [List.mem_singleton.mp hnew]
        exact .inr ⟨x.2, hpath⟩
    · rw [hy] at hr
      exact ih hr

theorem WrapSteps.end_unique (h : WrapSteps text s0 (text.length, w))
    (h' : WrapSteps text s0 (text.length, w')) : w = w' := by
  have hpass := wrapPass_of_steps h rfl (Nat.le_add_left _ s0.1)
  have hpass' := wrapPass_of_steps h' rfl (Nat.le_add_left _ s0.1)
  exact Option.some.inj (hpass.symm.trans hpass')

theorem wrapToken_crlf {rest : Bytes} (hcr : rest[0]? = some 13) (hlf : rest[1]? = some 10) :
    wrapToken rest = some (2, true) := by
  rcases rest with _ | ⟨b, _ | ⟨b', rest⟩⟩
  · cases hcr
  · cases hlf
  · cases hcr
    cases hlf
    rfl

theorem WrapSteps.rewrap (h : WrapSteps text (0, wrapStart columns documentSize) (p, w))
    (hcolumn : w.currentColumn = 0) (hagree : text.take q = text'.take q) (hpq : p ≤ q)
    (hfits : q ≤ text'.length)
    (hnot : p = q → ¬(0 < q ∧ text[q - 1]? = some 13 ∧ text'[q]? = some 10)) :
    WrapSteps text' (0, wrapStart columns text'.length) (p, w.resize text'.length) := by
  have hbefore : text.take p = text'.take p := by
    have htake := congrArg (List.take p) hagree
    rw [List.take_take, List.take_take, Nat.min_eq_left hpq] at htake
    exact htake
  refine h.transport hbefore (Nat.le_refl p) (hpq.trans hfits) ?_
  rintro ⟨hp, hcr, hlf⟩
  rcases hpq.eq_or_lt with rfl | hlt
  · exact hnot rfl ⟨hp, hcr, hlf⟩
  · rw [← List.getElem?_take_of_lt hlt, ← hagree, List.getElem?_take_of_lt hlt] at hlf
    exact (h.behindCr hcolumn hp hcr).1 hlf

theorem WrapSteps.joined {size : Nat} {w' : WrapScan}
    (h : WrapSteps text (0, wrapStart columns documentSize) (p, w)) (hcolumn : w.currentColumn = 0)
    (hagree : text.take p = text'.take p) (hp : 0 < p) (hcr : text[p - 1]? = some 13)
    (hlf : text'[p]? = some 10) : ¬ WrapSteps text' (0, wrapStart columns size) (p, w') := by
  intro hvisited
  obtain ⟨-, w1, hbefore⟩ := h.behindCr hcolumn hp hcr
  have hsame : ∀ i < p, text'[i]? = text[i]? := fun i hi => by
    rw [← List.getElem?_take_of_lt hi, ← hagree, List.getElem?_take_of_lt hi]
  have htake : text.take (p - 1) = text'.take (p - 1) := by
    have htake := congrArg (List.take (p - 1)) hagree
    rw [List.take_take, List.take_take, Nat.min_eq_left (by omega)] at htake
    exact htake
  have hthere : WrapSteps text' (0, wrapStart columns (p - 1)) (p - 1, w1.resize (p - 1)) :=
    hbefore.transport htake (Nat.le_refl _) (Nat.le_refl _) (by
      rintro ⟨-, -, hlf'⟩
      rw [hsame _ (by omega), hcr] at hlf'
      cases hlf')
  obtain ⟨w2, -, hrest⟩ := through hthere hvisited (by simp only; omega)
  rcases hrest.cases_head with heq | ⟨x, ⟨t, htoken, -, hnext⟩, hafter⟩
  · have hposition := congrArg Prod.fst heq
    omega
  · rw [wrapToken_crlf (by rw [List.getElem?_drop, Nat.add_zero, hsame _ (by omega)]; exact hcr)
      (by rw [List.getElem?_drop, Nat.sub_add_cancel hp]; exact hlf)] at htoken
    cases htoken
    have hle := (keeps hafter).1
    omega

end History

variable {readOriginal : ReadOriginal} {original text : Bytes} {d : PieceDocument}
  {edit : PieceEdit} {columns p offset row : Nat} {rows : List WrapRow}
  {index kept fresh : PieceWrapIndex} {w : WrapScan}

def PieceEdit.position : PieceEdit → Nat
  | .insert offset _ => offset
  | .erase offset _ => offset

theorem apply_position (hok : (edit.apply d).1 = .ok ()) : edit.position ≤ d.size := by
  cases edit with
  | insert offset data =>
    simp only [apply, pieceDocumentInsert] at hok
    split at hok
    next => cases hok
    next hrange =>
      simp only [Bool.or_eq_true, decide_eq_true_eq, not_or, not_lt] at hrange
      exact hrange.2
  | erase offset size =>
    simp only [apply, pieceDocumentErase] at hok
    split at hok
    next => cases hok
    next hrange =>
      simp only [Bool.or_eq_true, decide_eq_true_eq, not_or, not_lt] at hrange
      exact hrange.1.2

theorem onList_take (h : edit.position ≤ text.length) :
    (edit.onList text).take edit.position = text.take edit.position := by
  cases edit with
  | insert offset data =>
    have hoffset : offset ≤ text.length := h
    show (text.take offset ++ data ++ _).take offset = _
    rw [List.append_assoc, List.take_append_of_le_length (by rw [List.length_take]; omega),
      List.take_take, Nat.min_self]
    rfl
  | erase offset size =>
    have hoffset : offset ≤ text.length := h
    show (text.take offset ++ _).take offset = _
    rw [List.take_append_of_le_length (by rw [List.length_take]; omega), List.take_take,
      Nat.min_self]
    rfl

theorem onList_same (h : (edit.onList text).length = text.length) : edit.onList text = text := by
  cases edit with
  | insert offset data =>
    simp only [onList, List.length_append, List.length_take, List.length_drop] at h ⊢
    obtain rfl : data = [] := List.length_eq_zero_iff.mp (by omega)
    rw [List.append_nil, List.take_append_drop]
  | erase offset size =>
    simp only [onList, List.length_append, List.length_take, List.length_drop] at h ⊢
    by_cases hzero : size = 0
    · rw [hzero, Nat.add_zero, List.take_append_drop]
    · rw [List.take_of_length_le (by omega), List.drop_eq_nil_of_le (by omega), List.append_nil]

theorem hardRow_hard (hfirst : rows[0]? = some ⟨0, true⟩) (row : Nat) :
    hardRow rows row ≤ row ∧ ∃ p, rows[hardRow rows row]? = some ⟨p, true⟩ := by
  induction row with
  | zero => exact ⟨Nat.le_refl _, 0, hfirst⟩
  | succ row ih =>
    rw [hardRow]
    split
    next hhard =>
      cases hrow : rows[row + 1]? with
      | none =>
        rw [hrow] at hhard
        cases hhard
      | some r =>
        rw [hrow] at hhard
        obtain ⟨p, hard⟩ := r
        cases hhard
        exact ⟨Nat.le_refl _, p, rfl⟩
    next => exact ⟨ih.1.trans (Nat.le_succ _), ih.2⟩

theorem hardRow_self (hrow : rows[row]? = some ⟨p, true⟩) : hardRow rows row = row := by
  cases row with
  | zero => rfl
  | succ row =>
    rw [hardRow, hrow]
    rfl

/-- `invalidate` on a finished index goes back to a hard row not behind the offset, and to the one
at the offset where there is one. -/
theorem wrapIndexInvalidate_back (hsound : WrapSound p index.toWrapScan)
    (hvalid : wrapIndexValid index = true) (hcomplete : index.complete = true)
    (hoffset : offset ≤ index.documentSize) (documentSize : Nat) :
    ∃ row start, index.rows[row]? = some ⟨start, true⟩ ∧ start ≤ offset ∧
      (⟨offset, true⟩ ∈ index.rows → start = offset) ∧
      (wrapIndexInvalidate index offset documentSize).2 =
        { index with
          toWrapScan := (index.toWrapScan.back row).resize documentSize
          scannedOffset := start
          complete := start == documentSize } := by
  obtain ⟨hholds, hunique⟩ := rowForOffset_holds hsound hvalid hcomplete hoffset
  obtain ⟨hle, start, hstart⟩ := hardRow_hard hsound.first (rowForOffset index offset)
  have hoff : ∀ {row start : Nat} {hard : Bool}, index.rows[row]? = some ⟨start, hard⟩ →
      rowOffset index.rows row = start := by
    intro row start hard h
    unfold rowOffset
    rw [h]
    rfl
  have hcount := hsound.count
  refine ⟨_, start, hstart, ?_, fun hmem => ?_, ?_⟩
  · rw [← hoff hstart]
    refine le_trans ?_ hholds.2.1
    rcases hle.eq_or_lt with heq | hlt
    · rw [heq]
    · exact (rowOffset_lt hsound.sorted hlt hholds.1).le
  · obtain ⟨row, hrow⟩ := List.mem_iff_getElem?.mp hmem
    have hlt := (List.getElem?_eq_some_iff.mp hrow).1
    have hrowholds : RowHolds index.rows row offset := by
      refine ⟨hlt, (hoff hrow).le, fun hnext => ?_⟩
      have hafter := rowOffset_lt hsound.sorted (Nat.lt_succ_self row) hnext
      rw [hoff hrow] at hafter
      exact hafter
    have hself := hunique row hrowholds
    rw [← hself, hardRow_self hrow, hrow] at hstart
    exact (congrArg WrapRow.offset (Option.some.inj hstart)).symm
  · have hfound : rowForOffset index offset ≠ uint32Max := by
      have hlt := hholds.1
      intro heq
      rw [heq] at hlt
      exact absurd (hlt.trans_le hcount) (by decide)
    unfold wrapIndexInvalidate
    rw [hvalid, hcomplete, if_neg (by simp; omega), if_neg hfound]
    simp only [hoff hstart]
    rfl

/-- The edit puts an LF right behind a CR that ends a row by itself. -/
def JoinsCrLf (index : PieceWrapIndex) (text : Bytes) (edit : PieceEdit) : Prop :=
  index.complete = true ∧ ⟨edit.position, true⟩ ∈ index.rows ∧ 0 < edit.position ∧
    text[edit.position - 1]? = some 13 ∧ (edit.onList text)[edit.position]? = some 10

theorem wrapAdvances_refused (h : index.documentSize ≠ d.size) (budgets : List Nat) :
    wrapAdvances readOriginal d budgets index = index := by
  induction budgets with
  | nil => rfl
  | cons byteBudget budgets ih =>
    have hsame : (wrapIndexAdvance readOriginal d index byteBudget).2 = index := by
      unfold wrapIndexAdvance
      rw [if_pos (by simp [h])]
    show wrapAdvances readOriginal d budgets (wrapIndexAdvance readOriginal d index byteBudget).2 = _
    rw [hsame, ih]

def crReader : ReadOriginal := fun offset amount =>
  some (([97, 13, 98] : Bytes).drop offset |>.take amount)

def crIndex : PieceWrapIndex :=
  wrapAdvances crReader (pieceDocumentOpen 3) [4] (wrapIndexInitialize 4 3)

def crKept (edit : PieceEdit) : PieceWrapIndex :=
  wrapAdvances crReader (edit.apply (pieceDocumentOpen 3)).2 [4]
    (wrapIndexInvalidate crIndex edit.position (edit.apply (pieceDocumentOpen 3)).2.size).2

def crFresh (edit : PieceEdit) : PieceWrapIndex :=
  wrapAdvances crReader (edit.apply (pieceDocumentOpen 3)).2 [4]
    (wrapIndexInitialize 4 (edit.apply (pieceDocumentOpen 3)).2.size)

end ReistOs.Pieces
