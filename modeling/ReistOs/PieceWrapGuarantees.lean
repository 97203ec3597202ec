import ReistOs.PieceWrapIndex

namespace ReistOs.Pieces

open Relation

section Steps

variable {text : Bytes} {w w' : WrapScan} {t : Nat × Bool} {s s' e : Nat × WrapScan} {p q offset : Nat}

def WrapScan.Room (w : WrapScan) (offset : Nat) : Prop :=
  w.rows.length ≠ pieceWrapIndexCapacity ∧ w.lastOffset ≤ offset ∧ offset ≤ w.documentSize

def WrapScan.newRow (w : WrapScan) (offset : Nat) (hard : Bool) : WrapScan :=
  { w with rows := w.rows ++ [⟨offset, hard⟩], currentColumn := 0, currentRowBytes := 0 }

@[simp] theorem newRow_lastOffset {hard : Bool} : (w.newRow offset hard).lastOffset = offset := by
  simp [WrapScan.lastOffset, WrapScan.newRow]

theorem wrapNewRow_iff {hard : Bool} :
    wrapNewRow w offset hard = .ok w' ↔ w.Room offset ∧ w' = w.newRow offset hard := by
  unfold wrapNewRow wrapAppendRow WrapScan.Room
  split
  next hfull =>
    constructor
    · intro h
      cases h
    · rintro ⟨⟨hroom, -⟩, -⟩
      exact absurd hfull hroom
  next hroom =>
    split
    next hrange =>
      constructor
      · intro h
        cases h
      · rintro ⟨⟨-, hlow, hhigh⟩, -⟩
        omega
    next hrange =>
      constructor
      · intro h
        exact ⟨⟨hroom, by omega, by omega⟩, (Except.ok.inj h).symm⟩
      · rintro ⟨-, rfl⟩
        rfl

theorem wrapAdd_iff : wrapAdd w p t = .ok w' ↔
    (t.2 = true ∧ w.Room (p + t.1) ∧ w' = w.newRow (p + t.1) true) ∨
    (t.2 = false ∧ w.Full t.1 ∧ w.Room p ∧ w' = (w.newRow p false).addScalar t.1) ∨
    (t.2 = false ∧ ¬ w.Full t.1 ∧ w' = w.addScalar t.1) := by
  unfold wrapAdd wrapScalar
  cases hbreak : t.2 with
  | true => simp [wrapNewRow_iff]
  | false =>
    by_cases hfull : w.Full t.1
    · by_cases hroom : w.Room p
      · have hrow : wrapNewRow w p false = .ok (w.newRow p false) := wrapNewRow_iff.mpr ⟨hroom, rfl⟩
        rw [if_neg (by simp), if_pos hfull, hrow]
        simp [hfull, hroom, Except.map, eq_comm]
      · have herror : ∀ w1, wrapNewRow w p false ≠ .ok w1 := by
          intro w1 h
          exact hroom (wrapNewRow_iff.mp h).1
        rw [if_neg (by simp), if_pos hfull]
        cases hrow : wrapNewRow w p false with
        | error _ => simp [hfull, hroom, Except.map]
        | ok w1 => exact absurd hrow (herror w1)
    · simp [hfull, Except.map, eq_comm]

/-- What a step leaves alone: the size and the columns, the rows it finds, and that a row which had
no room has none. -/
structure WrapKeeps (w w' : WrapScan) : Prop where
  size : w'.documentSize = w.documentSize
  columns : w'.columns = w.columns
  rows : w.rows <+: w'.rows
  room : ∀ offset, w'.Room offset → w.Room offset

theorem wrapAdd_keeps (h : wrapAdd w p t = .ok w') : WrapKeeps w w' := by
  have hnew : ∀ {offset hard}, w.Room offset → WrapKeeps w (w.newRow offset hard) := by
    intro offset hard hroom
    refine ⟨rfl, rfl, List.prefix_append _ _, fun o ho => ⟨hroom.1, ?_, ho.2.2⟩⟩
    have hlast := ho.2.1
    rw [newRow_lastOffset] at hlast
    exact hroom.2.1.trans hlast
  rcases wrapAdd_iff.mp h with ⟨-, hroom, rfl⟩ | ⟨-, -, hroom, rfl⟩ | ⟨-, -, rfl⟩
  · exact hnew hroom
  · have hkeeps := @hnew p false hroom
    exact ⟨hkeeps.size, hkeeps.columns, hkeeps.rows, hkeeps.room⟩
  · exact ⟨rfl, rfl, List.prefix_rfl, fun _ ho => ho⟩

theorem WrapStep.keeps (h : WrapStep text s s') : s.1 < s'.1 ∧ s'.1 ≤ text.length ∧
    WrapKeeps s.2 s'.2 := by
  obtain ⟨t, htoken, hadd, hnext⟩ := h
  obtain ⟨hpos, -, hle⟩ := wrapToken_bounds htoken
  rw [List.length_drop] at hle
  exact ⟨by omega, by omega, wrapAdd_keeps hadd⟩

theorem WrapSteps.keeps (h : WrapSteps text s s') : s.1 ≤ s'.1 ∧ WrapKeeps s.2 s'.2 := by
  induction h with
  | refl => exact ⟨Nat.le_refl _, rfl, rfl, List.prefix_rfl, fun _ ho => ho⟩
  | tail _ hstep ih =>
    obtain ⟨hlt, -, hkeeps⟩ := hstep.keeps
    obtain ⟨hle, hbefore⟩ := ih
    exact ⟨by omega, hkeeps.size.trans hbefore.size, hkeeps.columns.trans hbefore.columns,
      hbefore.rows.trans hkeeps.rows, fun o ho => hbefore.room o (hkeeps.room o ho)⟩

theorem WrapSteps.through {w1 : WrapScan} (h : WrapSteps text s s')
    (hpath : WrapSteps text (s.1, w1) e) (hle : s'.1 ≤ e.1) :
    ∃ w2, WrapSteps text (s.1, w1) (s'.1, w2) ∧ WrapSteps text (s'.1, w2) e := by
  induction h using ReflTransGen.head_induction_on generalizing w1 with
  | refl => exact ⟨w1, .refl, hpath⟩
  | @head x y hstep hrest ih =>
    obtain ⟨t, htoken, -, hnext⟩ := hstep
    have hlater := (WrapSteps.keeps hrest).1
    have hpos := (wrapToken_bounds htoken).1
    rcases hpath.cases_head with rfl | ⟨z, hz, htail⟩
    · simp only at hle
      omega
    · obtain ⟨t', htoken', hadd', hnext'⟩ := hz
      have hsame : t' = t := Option.some.inj (htoken'.symm.trans htoken)
      subst hsame
      obtain ⟨position, w2⟩ := z
      rw [← hnext] at hnext'
      subst hnext'
      obtain ⟨w3, hthere, hend⟩ := ih htail
      have hfirst : WrapStep text (x.1, w1) (y.1, w2) := ⟨t', htoken, hadd', hnext⟩
      exact ⟨w3, .head hfirst hthere, hend⟩

theorem full_of_steps {n : Nat} (hfull : w.Full n) (h : WrapSteps text (p, w) s)
    (hroom : ∀ offset ≤ s.1, ¬ w.Room offset) : s.2.Full n := by
  induction h with
  | refl => exact hfull
  | @tail x y hpath hstep ih =>
    obtain ⟨hlt, -, -⟩ := hstep.keeps
    have hx := ih fun offset hle => hroom offset (by omega)
    have hnone : ∀ offset ≤ y.1, ¬ x.2.Room offset := fun offset hle ho =>
      hroom offset hle ((WrapSteps.keeps hpath).2.room offset ho)
    obtain ⟨t, -, hadd, hnext⟩ := hstep
    rcases wrapAdd_iff.mp hadd with ⟨-, hr, -⟩ | ⟨-, -, hr, -⟩ | ⟨-, hnotfull, hy⟩
    · exact absurd hr (hnone _ (by omega))
    · exact absurd hr (hnone _ (by omega))
    · rw [hy]
      rcases hx with hcolumns | hbytes
      · exact absurd (.inl hcolumns) hnotfull
      · right
        show pieceWrapRowByteCapacity - (x.2.currentRowBytes + t.1) ≤ n
        omega

theorem stuck_of_fails {w0 : WrapScan} (hpath : WrapSteps text (p, w0) (q, w))
    (hsize : w.documentSize = text.length) (hq : q < text.length)
    (hfails : ∀ s, ¬ WrapStep text (q, w) s) (hend : WrapSteps text (p, w) s) :
    s.1 ≠ text.length := by
  intro hlast
  obtain ⟨w2, hthere, hrest⟩ := WrapSteps.through hpath hend (by omega)
  have hkeeps := (WrapSteps.keeps hthere).2
  have hpq := (WrapSteps.keeps hpath).1
  rcases hrest.cases_head with rfl | ⟨x, ⟨t, htoken, hadd, hnext⟩, -⟩
  · exact absurd hlast (by simp only; omega)
  have hnot : ∀ w', wrapAdd w q t ≠ .ok w' := fun w' h => hfails (q + t.1, w') ⟨t, htoken, h, rfl⟩
  rcases wrapAdd_iff.mp hadd with ⟨hbreak, hroom, -⟩ | ⟨hscalar, -, hroom, -⟩ | ⟨hscalar, hnotfull, -⟩
  · exact hnot _ (wrapAdd_iff.mpr (.inl ⟨hbreak, hkeeps.room _ hroom, rfl⟩))
  · by_cases hfull : w.Full t.1
    · exact hnot _ (wrapAdd_iff.mpr (.inr (.inl ⟨hscalar, hfull, hkeeps.room _ hroom, rfl⟩)))
    · exact hnot _ (wrapAdd_iff.mpr (.inr (.inr ⟨hscalar, hfull, rfl⟩)))
  · by_cases hfull : w.Full t.1
    · refine hnotfull (full_of_steps hfull hthere fun offset hle ho => ?_)
      have hroom : w.Room q := ⟨ho.1, ho.2.1.trans hle, by simp only at hle; omega⟩
      exact hnot _ (wrapAdd_iff.mpr (.inr (.inl ⟨hscalar, hfull, hroom, rfl⟩)))
    · exact hnot _ (wrapAdd_iff.mpr (.inr (.inr ⟨hscalar, hfull, rfl⟩)))

theorem wrapPass_of_steps {fuel : Nat} (h : WrapSteps text s e) (hend : e.1 = text.length)
    (hfuel : text.length ≤ s.1 + fuel) : wrapPass text fuel s.1 s.2 = some e.2 := by
  induction h using ReflTransGen.head_induction_on generalizing fuel with
  | refl =>
    cases fuel with
    | zero => rw [wrapPass, if_pos hend]
    | succ fuel => rw [wrapPass, if_pos hend]
  | @head x y hstep hrest ih =>
    obtain ⟨hlt, hle, -⟩ := hstep.keeps
    obtain ⟨t, htoken, hadd, hnext⟩ := hstep
    cases fuel with
    | zero => omega
    | succ fuel =>
      have hih : wrapPass text fuel y.1 y.2 = some e.2 := ih (by omega)
      rw [wrapPass, if_neg (by omega), htoken]
      simp only [hadd]
      rw [← hnext]
      exact hih

end Steps

section Runs

variable {readOriginal : ReadOriginal} {d : PieceDocument} {text rest : Bytes} {w w' : WrapScan}
  {s0 : Nat × WrapScan} {index : PieceWrapIndex} {q : Nat}

theorem wrapToken_stretch (hrest : rest = (text.drop q).take rest.length)
    (hsize : w.documentSize = text.length) (hgoes : ¬(rest = [] ∨ wrapAwaits w q rest)) :
    wrapToken (text.drop q) = wrapToken rest := by
  have hagree : rest.take rest.length = (text.drop q).take rest.length := by
    rw [List.take_length]
    exact hrest
  have hne : rest ≠ [] := fun h => hgoes (.inl h)
  have hpos := List.length_pos_iff.mpr hne
  cases htoken : wrapToken rest with
  | some t =>
    refine (wrapToken_agree hagree htoken (wrapToken_bounds htoken).2.2 ?_).2.2.2
    rintro ⟨hone, hhead, hnext⟩
    obtain ⟨b, rfl⟩ := List.length_eq_one_iff.mp hone
    obtain rfl : b = 13 := Option.some.inj hhead
    obtain ⟨hlt, -⟩ := List.getElem?_eq_some_iff.mp hnext
    rw [List.length_drop] at hlt
    exact hgoes (.inr (.inl ⟨rfl, by omega⟩))
  | none =>
    by_contra hsome
    obtain ⟨t, ht⟩ := Option.ne_none_iff_exists'.mp hsome
    obtain ⟨-, hfour, hle⟩ := wrapToken_bounds ht
    by_cases hinside : t.1 ≤ rest.length
    · have hrest' := (wrapToken_agree hagree.symm ht hinside (by
        rintro ⟨hone, -, hnext⟩
        rw [List.getElem?_eq_none (by omega)] at hnext
        cases hnext)).2.2.2
      rw [htoken] at hrest'
      cases hrest'
    · unfold wrapToken at htoken ht
      rw [List.length_drop] at hle
      split at htoken
      next => cases htoken
      next hbreak =>
        have hzero := not_not.mp hbreak
        have hsame := lineBreak_agree hagree hpos (by omega) (by
          rintro ⟨-, hhead, -⟩
          cases rest with
          | nil => cases hhead
          | cons b rest =>
            obtain rfl : b = 13 := Option.some.inj hhead
            simp only [lineBreak, if_true] at hzero
            split at hzero <;> cases hzero)
        rw [hsame, if_neg hbreak] at ht
        split at ht
        next => cases ht
        next consumed scalar hdecode =>
          split at ht
          next => cases ht
          next =>
            cases ht
            refine hgoes (.inr (.inr ⟨hzero, ?_, by omega, by omega⟩))
            cases hshort : reistUtf8DecodeOne rest with
            | none => rfl
            | some x =>
              obtain ⟨k, v⟩ := x
              obtain ⟨-, -, hk, -⟩ := decodeOne_agree rfl hshort (Nat.le_refl k)
              have hlong := (decodeOne_agree hagree hshort hk).2.2.2
              rw [hdecode] at hlong
              cases hlong
              exact absurd hk hinside

theorem wrapLoop_run {base fuel used : Nat} {r : Except PieceError Nat}
    (hrest : rest = (text.drop (base + used)).take rest.length)
    (hsize : w.documentSize = text.length) (h : wrapLoop base fuel rest used w = (r, w')) :
    ∃ q, WrapSteps text (base + used, w) (q, w') ∧ (∀ n, r = .ok n → q = base + n) ∧
      (∀ e, r = .error e → q < text.length ∧ ∀ s, ¬ WrapStep text (q, w') s) := by
  have hstop : ∀ {used : Nat} {w : WrapScan}, (Except.ok used, w) = (r, w') →
      ∃ q, WrapSteps text (base + used, w) (q, w') ∧ (∀ n, r = .ok n → q = base + n) ∧
      (∀ e, r = .error e → q < text.length ∧ ∀ s, ¬ WrapStep text (q, w') s) := by
    intro used w heq
    cases heq
    exact ⟨_, .refl, (fun n hn => by rw [Except.ok.inj hn]), fun e he => by cases he⟩
  induction fuel generalizing rest used w with
  | zero => exact hstop h
  | succ fuel ih =>
    rw [wrapLoop] at h
    split at h
    next => exact hstop h
    next hgoes =>
      have hsame := wrapToken_stretch hrest hsize hgoes
      have hpos := List.length_pos_iff.mpr fun hnil => hgoes (.inl hnil)
      have hlength := congrArg List.length hrest
      rw [List.length_take, List.length_drop] at hlength
      have hfails : ∀ {e : PieceError}, (Except.error e, w) = (r, w') →
          (∀ s, ¬ WrapStep text (base + used, w) s) → ∃ q, WrapSteps text (base + used, w) (q, w') ∧
          (∀ n, r = .ok n → q = base + n) ∧
          (∀ e, r = .error e → q < text.length ∧ ∀ s, ¬ WrapStep text (q, w') s) := by
        intro e heq hnone
        cases heq
        exact ⟨_, .refl, (fun n hn => by cases hn), fun _ _ => ⟨by omega, hnone⟩⟩
      split at h
      next hnone =>
        refine hfails h fun s hs => ?_
        obtain ⟨t, htoken, -⟩ := hs
        rw [hsame, hnone] at htoken
        cases htoken
      next t htoken =>
        split at h
        next e herror =>
          refine hfails h fun s hs => ?_
          obtain ⟨t', htoken', hadd, -⟩ := hs
          rw [hsame, htoken] at htoken'
          cases htoken'
          rw [show wrapAdd w (base + used) t = .error e from herror] at hadd
          cases hadd
        next w1 hadd =>
          have hstep : WrapStep text (base + used, w) (base + (used + t.1), w1) :=
            ⟨t, hsame.trans htoken, hadd, (Nat.add_assoc _ _ _).symm⟩
          have hrest' : rest.drop t.1 =
              (text.drop (base + (used + t.1))).take (rest.drop t.1).length := by
            conv_lhs => rw [hrest]
            rw [List.drop_take, List.drop_drop, List.length_drop, Nat.add_assoc]
          obtain ⟨q, hpath, hq⟩ := ih hrest' ((wrapAdd_keeps hadd).size.trans hsize) h
          exact ⟨q, .head hstep hpath, hq⟩

/-- An index on its way through the text from a place on, or one that never gets to the end. -/
structure WrapBuilds (text : Bytes) (s₀ : Nat × WrapScan) (index : PieceWrapIndex) : Prop where
  version : index.apiVersion = pieceDocumentApiVersion
  structSize : index.structSize = pieceWrapIndexSize
  size : index.documentSize = s₀.2.documentSize
  scanned : (WrapSteps text s₀ (index.scannedOffset, index.toWrapScan) ∧
      (index.complete = true → index.scannedOffset = text.length)) ∨
    (index.complete = false ∧
      ∀ s, WrapSteps text (index.scannedOffset, index.toWrapScan) s → s.1 ≠ text.length)

theorem WrapBuilds.extend {complete : Bool} (h : WrapBuilds text s0 index)
    (hpath : WrapSteps text (index.scannedOffset, index.toWrapScan) (q, w'))
    (hcomplete : complete = true → q = text.length) :
    WrapBuilds text s0 { index with toWrapScan := w', scannedOffset := q, complete := complete } := by
  refine ⟨h.version, h.structSize, (WrapSteps.keeps hpath).2.size.trans h.size, ?_⟩
  rcases h.scanned with ⟨hthere, -⟩ | ⟨-, hstuck⟩
  · exact .inl ⟨hthere.trans hpath, hcomplete⟩
  · refine .inr ⟨?_, fun s hs => hstuck s (hpath.trans hs)⟩
    cases complete with
    | false => rfl
    | true => exact absurd (hcomplete rfl) (hstuck _ hpath)

theorem wrapIndexAdvance_builds (hshows : Shows readOriginal d text)
    (h : WrapBuilds text s0 index) (byteBudget : Nat) :
    WrapBuilds text s0 (wrapIndexAdvance readOriginal d index byteBudget).2 := by
  unfold wrapIndexAdvance
  split
  next => exact h
  next hchecks =>
    have hsize : index.documentSize = text.length := by
      simp only [Bool.or_eq_true, bne_iff_ne, not_or, not_not] at hchecks
      exact hchecks.2.trans hshows.size
    split
    next => exact h
    next hopen =>
      simp only
      rw [hshows.read]
      split
      next => exact h
      next buffer hread =>
        split at hread
        next =>
          have hbuffer := (Except.ok.inj hread).symm
          have hstretch : buffer = (text.drop (index.scannedOffset + 0)).take buffer.length := by
            rw [hbuffer, List.length_take]
            exact List.take_eq_take_iff.mpr (by omega)
          split
          next e w' hloop =>
            obtain ⟨q, hpath, -, herror⟩ := wrapLoop_run hstretch hsize hloop
            obtain ⟨hq, hfails⟩ := herror e rfl
            have hkeeps := (WrapSteps.keeps hpath).2.size
            refine ⟨h.version, h.structSize, hkeeps.trans h.size,
              .inr ⟨Bool.eq_false_iff.mpr hopen, fun s hs => ?_⟩⟩
            exact stuck_of_fails hpath (hkeeps.trans hsize) hq hfails hs
          next used w' hloop =>
            obtain ⟨q, hpath, hok, -⟩ := wrapLoop_run hstretch hsize hloop
            obtain rfl := hok used rfl
            split
            next hzero =>
              subst hzero
              exact h.extend hpath fun hcomplete => absurd hcomplete hopen
            next =>
              refine h.extend hpath fun hcomplete => ?_
              rw [← hsize, ← (WrapSteps.keeps hpath).2.size]
              exact beq_iff_eq.mp hcomplete
        next => cases hread

theorem wrapAdvances_builds (hshows : Shows readOriginal d text) (budgets : List Nat)
    (h : WrapBuilds text s0 index) :
    WrapBuilds text s0 (wrapAdvances readOriginal d budgets index) := by
  induction budgets generalizing index with
  | nil => exact h
  | cons byteBudget budgets ih => exact ih (wrapIndexAdvance_builds hshows h byteBudget)

theorem WrapBuilds.finished (h : WrapBuilds text s0 index) (hcomplete : index.complete = true) :
    index.scannedOffset = text.length ∧ WrapSteps text s0 (text.length, index.toWrapScan) := by
  rcases h.scanned with ⟨hpath, hend⟩ | ⟨hopen, -⟩
  · have hall := hend hcomplete
    rw [hall] at hpath
    exact ⟨hall, hpath⟩
  · rw [hcomplete] at hopen
    cases hopen

end Runs

section Rows

variable {w w' : WrapScan} {s s' : Nat × WrapScan} {text : Bytes} {rows : List WrapRow}
  {p n offset row row' a : Nat}

/-- The rows start one behind the other, and the current row has the bytes from its start on. -/
structure WrapSound (p : Nat) (w : WrapScan) : Prop where
  first : w.rows[0]? = some ⟨0, true⟩
  sorted : w.rows.Pairwise fun r r' => r.offset < r'.offset
  below : ∀ r ∈ w.rows, r.offset ≤ w.lastOffset
  last : w.lastOffset + w.currentRowBytes = p
  column : w.currentRowBytes = 0 → w.currentColumn = 0
  count : w.rows.length ≤ pieceWrapIndexCapacity

theorem wrapStart_sound (columns documentSize : Nat) : WrapSound 0 (wrapStart columns documentSize) where
  first := rfl
  sorted := List.pairwise_singleton _ _
  below := by
    intro r hr
    rw [List.mem_singleton.mp hr]
    exact Nat.zero_le _
  last := rfl
  column := fun _ => rfl
  count := by
    show 1 ≤ 16384
    omega

theorem WrapSound.newRow {hard : Bool} (h : WrapSound p w) (hroom : w.Room offset)
    (hlt : w.lastOffset < offset) : WrapSound offset (w.newRow offset hard) where
  first := by
    have hpos := (List.getElem?_eq_some_iff.mp h.first).1
    show (w.rows ++ _)[0]? = _
    rw [List.getElem?_append_left hpos]
    exact h.first
  sorted := by
    refine List.pairwise_append.mpr ⟨h.sorted, List.pairwise_singleton _ _, fun r hr r' hr' => ?_⟩
    rw [List.mem_singleton.mp hr']
    exact (h.below r hr).trans_lt hlt
  below := by
    intro r hr
    rw [newRow_lastOffset]
    rcases List.mem_append.mp hr with hr | hr
    · exact (h.below r hr).trans hlt.le
    · rw [List.mem_singleton.mp hr]
  last := by
    rw [newRow_lastOffset]
    rfl
  column := fun _ => rfl
  count := by
    have hcount := h.count
    have hlt := hroom.1
    show (w.rows ++ _).length ≤ _
    rw [List.length_append, List.length_singleton]
    omega

theorem WrapSound.addScalar (h : WrapSound p w) (hn : 0 < n) : WrapSound (p + n) (w.addScalar n) where
  first := h.first
  sorted := h.sorted
  below := h.below
  last := by
    have hlast := h.last
    show w.lastOffset + (w.currentRowBytes + n) = p + n
    omega
  column := by
    intro hzero
    have hsum : w.currentRowBytes + n = 0 := hzero
    omega
  count := h.count

theorem WrapSound.step (h : WrapSound s.1 s.2) (hcolumns : s.2.columns ≠ 0)
    (hstep : WrapStep text s s') : WrapSound s'.1 s'.2 := by
  obtain ⟨t, htoken, hadd, hnext⟩ := hstep
  obtain ⟨hpos, hfour, -⟩ := wrapToken_bounds htoken
  have hlast := h.last
  rw [hnext]
  rcases wrapAdd_iff.mp hadd with ⟨-, hroom, hs⟩ | ⟨-, hfull, hroom, hs⟩ | ⟨-, -, hs⟩
  · rw [hs]
    exact h.newRow hroom (by omega)
  · rw [hs]
    have hbytes : s.2.currentRowBytes ≠ 0 := by
      intro hzero
      rcases hfull with hcolumn | hbytes
      · exact hcolumns (hcolumn.symm.trans (h.column hzero))
      · rw [hzero] at hbytes
        have : 256 - 0 ≤ t.1 := hbytes
        omega
    exact (h.newRow hroom (by omega)).addScalar hpos
  · rw [hs]
    exact h.addScalar hpos

theorem WrapSound.steps (h : WrapSound s.1 s.2) (hcolumns : s.2.columns ≠ 0)
    (hsteps : WrapSteps text s s') : WrapSound s'.1 s'.2 := by
  induction hsteps with
  | refl => exact h
  | tail hpath hstep ih => exact ih.step (by rw [(WrapSteps.keeps hpath).2.columns]; exact hcolumns) hstep

/-- The offset lies in the row: at its start or behind it, and before the next one. -/
def RowHolds (rows : List WrapRow) (row a : Nat) : Prop :=
  row < rows.length ∧ rowOffset rows row ≤ a ∧
    (row + 1 < rows.length → a < rowOffset rows (row + 1))

theorem rowOffset_lt (hsorted : rows.Pairwise fun r r' => r.offset < r'.offset) (hlt : row < row')
    (hrow : row' < rows.length) : rowOffset rows row < rowOffset rows row' := by
  unfold rowOffset
  rw [List.getElem?_eq_getElem hrow, List.getElem?_eq_getElem (hlt.trans hrow)]
  exact List.pairwise_iff_getElem.mp hsorted row row' _ hrow hlt

theorem rowHolds_unique (hsorted : rows.Pairwise fun r r' => r.offset < r'.offset)
    (h : RowHolds rows row a) (h' : RowHolds rows row' a) : row = row' := by
  have hnot : ∀ {i j : Nat}, RowHolds rows i a → RowHolds rows j a → ¬ i < j := by
    intro i j hi hj hlt
    have hbefore := hi.2.2 (by have := hj.1; omega)
    have hat := hj.2.1
    by_cases hnext : i + 1 = j
    · rw [hnext] at hbefore
      omega
    · have hlater : rowOffset rows (i + 1) < rowOffset rows j := rowOffset_lt hsorted (by omega) hj.1
      omega
  have hle := hnot h h'
  have hge := hnot h' h
  omega

theorem rowSearch_holds {fuel low high : Nat} (hlow : low < high) (hhigh : high ≤ rows.length)
    (hfuel : high ≤ low + 1 + fuel) (hat : rowOffset rows low ≤ a)
    (hbefore : high < rows.length → a < rowOffset rows high) :
    RowHolds rows (rowSearch rows a fuel low high) a := by
  have hdone : ∀ {low high : Nat}, low < high → high ≤ rows.length → rowOffset rows low ≤ a →
      (high < rows.length → a < rowOffset rows high) → ¬ low + 1 < high → RowHolds rows low a := by
    intro low high hlow hhigh hat hbefore hstop
    obtain rfl : high = low + 1 := by omega
    exact ⟨by omega, hat, hbefore⟩
  induction fuel generalizing low high with
  | zero =>
    rw [rowSearch]
    exact hdone hlow hhigh hat hbefore (by omega)
  | succ fuel ih =>
    rw [rowSearch]
    split
    next hgoes =>
      simp only
      split
      next hle => exact ih (by omega) hhigh (by omega) hle hbefore
      next hgt => exact ih (by omega) (by omega) (by omega) hat fun _ => by omega
    next hstop => exact hdone hlow hhigh hat hbefore hstop

theorem rowForOffset_holds {index : PieceWrapIndex} (hsound : WrapSound p index.toWrapScan)
    (hvalid : wrapIndexValid index = true) (hcomplete : index.complete = true)
    (ha : a ≤ index.documentSize) :
    RowHolds index.rows (rowForOffset index a) a ∧
      ∀ row, RowHolds index.rows row a → row = rowForOffset index a := by
  have hpos := (List.getElem?_eq_some_iff.mp hsound.first).1
  have hholds : RowHolds index.rows (rowForOffset index a) a := by
    unfold rowForOffset
    rw [hvalid, hcomplete, if_neg (by simp; omega)]
    refine rowSearch_holds hpos (Nat.le_refl _) (by omega) ?_ fun h => absurd h (Nat.lt_irrefl _)
    unfold rowOffset
    rw [hsound.first]
    exact Nat.zero_le _
  exact ⟨hholds, fun row hrow => rowHolds_unique hsound.sorted hrow hholds⟩

end Rows

variable {readOriginal : ReadOriginal} {original text : Bytes} {d : PieceDocument} {columns : Nat}
  {index : PieceWrapIndex} {w : WrapScan}

theorem wrapIndexInitialize_builds (hsize : d.size = text.length) :
    WrapBuilds text (0, wrapStart columns text.length) (wrapIndexInitialize columns d.size) := by
  rw [hsize]
  refine ⟨rfl, rfl, rfl, .inl ⟨.refl, fun hcomplete => ?_⟩⟩
  exact (beq_iff_eq.mp hcomplete).symm

theorem WrapBuilds.valid {s0 : Nat × WrapScan} {p : Nat} (h : WrapBuilds text s0 index)
    (hcolumns : index.columns ≠ 0) (hsound : WrapSound p index.toWrapScan)
    (hscanned : index.scannedOffset ≤ index.documentSize) : wrapIndexValid index = true := by
  have hpos := (List.getElem?_eq_some_iff.mp hsound.first).1
  have hcount := hsound.count
  unfold wrapIndexValid rowOffset
  rw [h.version, h.structSize, hsound.first]
  simp [hcolumns, hcount, hscanned, List.length_pos_iff.mp hpos]

/-- However the calls part the text, a finished index has the rows of one pass over it, and the
search answers the one row of each offset. -/
theorem wrapIndex_unique (hserves : Serves readOriginal original) (hvalid : valid d = true)
    (horiginal : d.originalSize.toNat = original.length) (hcolumns : columns ≠ 0)
    (budgets : List Nat)
    (hindex : wrapAdvances readOriginal d budgets (wrapIndexInitialize columns d.size) = index)
    (hcomplete : index.complete = true) :
    wrapPass (contents original d.added d.pieces) d.size 0 (wrapStart columns d.size) =
        some index.toWrapScan ∧
      ∀ a ≤ d.size, RowHolds index.rows (rowForOffset index a) a ∧
        ∀ row, RowHolds index.rows row a → row = rowForOffset index a := by
  have hshows := ((valid_iff horiginal).mp hvalid).shows hserves horiginal
  have hsize := hshows.size
  have hbuilds : WrapBuilds _ (0, wrapStart columns _) index :=
    hindex ▸ wrapAdvances_builds hshows budgets (wrapIndexInitialize_builds hsize)
  obtain ⟨hscanned, hpath⟩ := hbuilds.finished hcomplete
  have hkeeps := (WrapSteps.keeps hpath).2
  have hsound := (wrapStart_sound columns _).steps hcolumns hpath
  have hdocument : index.documentSize = d.size := hkeeps.size.trans hsize.symm
  have hsame : index.columns = columns := hkeeps.columns
  refine ⟨?_, fun a ha => ?_⟩
  · rw [hsize]
    exact wrapPass_of_steps hpath rfl (by simp)
  · refine rowForOffset_holds hsound ?_ hcomplete (by omega)
    exact hbuilds.valid (by rw [hsame]; exact hcolumns) hsound (by omega)

def crlfIndex : PieceWrapIndex :=
  wrapAdvances (fun offset amount =>
    some (([97, 98, 99, 13, 10, 100] : Bytes).drop offset |>.take amount))
    (pieceDocumentOpen 6) [4, 4] (wrapIndexInitialize 2 6)

theorem wrapIndex_unique_crlf :
    wrapPass (contents [97, 98, 99, 13, 10, 100] [] (pieceDocumentOpen 6).pieces) 6 0
        (wrapStart 2 6) = some crlfIndex.toWrapScan ∧
      ∀ a ≤ 6, RowHolds crlfIndex.rows (rowForOffset crlfIndex a) a ∧
        ∀ row, RowHolds crlfIndex.rows row a → row = rowForOffset crlfIndex a :=
  wrapIndex_unique (d := pieceDocumentOpen 6) (fun _ _ _ => rfl) (by decide) (by decide)
    (by decide) [4, 4] rfl (by decide)

end ReistOs.Pieces
