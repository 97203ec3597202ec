import ReistOs.Config

namespace ReistOs

open Lines

/-! The text format, as a grammar. -/

inductive ConfigLine
  | comment (text : List UInt8)
  | blank
  | pair (entry : ConfigEntry)

namespace ConfigLine

def content : ConfigLine → List UInt8
  | comment text => commentByte :: text
  | blank => []
  | pair entry => entry.key ++ equalsByte :: entry.value

def WellFormed : ConfigLine → Prop
  | comment text => newlineByte ∉ text ∧ text.length + 1 < reistConfigLineCapacity
  | blank => True
  | pair entry => validKey entry.key entry.key.length = true ∧
      validValue entry.value entry.value.length reistConfigValueCapacity = true

/-- A line in front of its newline, with a carriage return or without. -/
def render (line : ConfigLine × Bool) : List UInt8 :=
  line.1.content ++ if line.2 then [returnByte] else []

def pair? : ConfigLine × Bool → Option ConfigEntry
  | (pair entry, _) => some entry
  | (comment _, _) => none
  | (blank, _) => none

end ConfigLine

/-- The pairs of a document in front of which the schema line stands. -/
structure ConfigEntriesValid (entries : List ConfigEntry) : Prop where
  nodup : (entries.map (·.key)).Nodup
  reserved : schemaKey ∉ entries.map (·.key)
  bounded : entries.length ≤ reistConfigEntryCapacity

/-- The text of a document: comments, blank lines, a schema line, and then its entries. -/
def ConfigText (expected data : List UInt8) (document : ConfigDocument) : Prop :=
  ∃ lines : List (ConfigLine × Bool), (∀ line ∈ lines, line.1.WellFormed) ∧
    data = Lines.join newlineByte (lines.map ConfigLine.render) ∧
    lines.filterMap ConfigLine.pair? = ⟨schemaKey, expected⟩ :: document.entries ∧
    document.schema = expected ∧ ConfigEntriesValid document.entries

/-! Bytes of keys and values. -/

theorem validKey_spec {key : List UInt8} (h : validKey key key.length = true) :
    key ≠ [] ∧ key.length < reistConfigKeyCapacity ∧ ∀ b ∈ key, keyByte b = true := by
  simp only [validKey, Bool.and_eq_true, List.take_length, List.all_eq_true] at h
  obtain ⟨⟨hne, hlen⟩, hall⟩ := h
  refine ⟨?_, by simpa using hlen, hall⟩
  rintro rfl
  simp at hne

variable {capacity : Nat} {b : UInt8} {expected : List UInt8} {s s' : ConfigParse}
  {pairs : List ConfigEntry}

theorem validValue_spec {value : List UInt8} (h : validValue value value.length capacity = true) :
    value ≠ [] ∧ value.length < capacity ∧ ∀ b ∈ value, valueByte b = true := by
  simp only [validValue, Bool.and_eq_true, List.take_length, List.all_eq_true] at h
  obtain ⟨⟨hne, hlen⟩, hall⟩ := h
  refine ⟨?_, by simpa using hlen, hall⟩
  rintro rfl
  simp at hne

theorem validKey_bounded (key : List UInt8) :
    validKey key (boundedLength key reistConfigKeyCapacity) = validKey key key.length := by
  unfold boundedLength
  by_cases h : key.length ≤ reistConfigKeyCapacity
  · rw [Nat.min_eq_left h]
  · have hle : reistConfigKeyCapacity ≤ key.length := by omega
    have hnot : ¬ key.length < reistConfigKeyCapacity := by omega
    rw [Nat.min_eq_right hle]
    simp [validKey, hnot]

theorem validValue_bounded (value : List UInt8) (capacity : Nat) :
    validValue value (boundedLength value capacity) capacity =
      validValue value value.length capacity := by
  unfold boundedLength
  by_cases h : value.length ≤ capacity
  · rw [Nat.min_eq_left h]
  · have hle : capacity ≤ value.length := by omega
    have hnot : ¬ value.length < capacity := by omega
    rw [Nat.min_eq_right hle]
    simp [validValue, hnot]

theorem keyByte_plain (h : keyByte b = true) :
    b ≠ newlineByte ∧ b ≠ equalsByte ∧ b ≠ commentByte ∧ b ≠ returnByte := by
  refine ⟨?_, ?_, ?_, ?_⟩ <;>
  · rintro rfl
    cases h

theorem valueByte_plain (h : valueByte b = true) :
    b ≠ newlineByte ∧ b ≠ returnByte := by
  refine ⟨?_, ?_⟩ <;>
  · rintro rfl
    cases h

/-! One line. -/

def stepLine (expected : List UInt8) (s : ConfigParse) : ConfigLine → Except Int ConfigParse
  | .comment _ => .ok s
  | .blank => .ok s
  | .pair entry =>
    if s.effectiveLines = 0 then parseSchemaLine expected entry.key entry.value s
    else parseEntryLine entry.key entry.value s

theorem stripReturn_append (line : List UInt8) : stripReturn (line ++ [returnByte]) = line := by
  simp [stripReturn]

variable {line : List UInt8} {lines : List (ConfigLine × Bool)}

theorem stripReturn_of_last (h : line.getLast? ≠ some returnByte) : stripReturn line = line := by
  simp [stripReturn, h]

theorem stripReturn_cases (line : List UInt8) :
    line = stripReturn line ∨ line = stripReturn line ++ [returnByte] := by
  unfold stripReturn
  split
  next h =>
    obtain ⟨front, rfl⟩ := List.getLast?_eq_some_iff.mp h
    simp
  next => exact .inl rfl

theorem parseLine_render {line : ConfigLine} (h : line.WellFormed) (crlf : Bool) :
    parseLine expected s (ConfigLine.render (line, crlf)) = stepLine expected s line := by
  cases line with
  | comment text =>
    have hstrip : ∃ text', stripReturn (ConfigLine.render (.comment text, crlf)) =
        commentByte :: text' ∧ text'.length ≤ text.length := by
      cases crlf with
      | true => exact ⟨text, stripReturn_append (commentByte :: text), le_rfl⟩
      | false =>
        have hr : ConfigLine.render (.comment text, false) = commentByte :: text := by
          simp [ConfigLine.render, ConfigLine.content]
        rw [hr]
        rcases stripReturn_cases (commentByte :: text) with hs | hs
        · exact ⟨text, hs.symm, le_rfl⟩
        · cases hfront : stripReturn (commentByte :: text) with
          | nil =>
            rw [hfront] at hs
            have hb := congrArg List.head? hs
            exact absurd hb (by simp [commentByte, returnByte])
          | cons b text' =>
            rw [hfront] at hs
            obtain ⟨hb, ht⟩ := List.cons.inj hs
            change text = text' ++ [returnByte] at ht
            refine ⟨text', by rw [hb], ?_⟩
            rw [ht, List.length_append]
            omega
    obtain ⟨text', hs, hlen⟩ := hstrip
    have hfits : ¬ reistConfigLineCapacity ≤ (commentByte :: text').length := by
      have hw := h.2
      rw [List.length_cons]
      omega
    unfold parseLine
    simp only [hs, if_neg hfits]
    simp [stepLine]
  | blank =>
    have hs : stripReturn (ConfigLine.render (.blank, crlf)) = [] := by
      cases crlf <;> rfl
    unfold parseLine
    simp only [hs]
    simp [stepLine, reistConfigLineCapacity]
  | pair entry =>
    obtain ⟨hkey, hvalue⟩ := h
    obtain ⟨hkne, hklen, hkbytes⟩ := validKey_spec hkey
    obtain ⟨hvne, hvlen, hvbytes⟩ := validValue_spec hvalue
    have hs : stripReturn (ConfigLine.render (.pair entry, crlf)) =
        entry.key ++ equalsByte :: entry.value := by
      cases crlf with
      | true => exact stripReturn_append _
      | false =>
        have hr : ConfigLine.render (.pair entry, false) =
            entry.key ++ equalsByte :: entry.value := by
          simp [ConfigLine.render, ConfigLine.content]
        rw [hr]
        apply stripReturn_of_last
        intro hlast
        have hv : entry.value.getLast? = some returnByte := by
          rw [List.getLast?_append, List.getLast?_cons] at hlast
          cases hvalueLast : entry.value.getLast? with
          | none => exact absurd (List.getLast?_eq_none_iff.mp hvalueLast) hvne
          | some b => simpa [hvalueLast] using hlast
        exact (valueByte_plain (hvbytes _ (List.mem_of_getLast? hv))).2 rfl
    have hfits : ¬ reistConfigLineCapacity ≤ (entry.key ++ equalsByte :: entry.value).length := by
      rw [List.length_append, List.length_cons]
      simp only [reistConfigKeyCapacity, reistConfigValueCapacity,
        reistConfigLineCapacity] at hklen hvlen ⊢
      omega
    have hhead : ¬ (entry.key ++ equalsByte :: entry.value = [] ∨
        (entry.key ++ equalsByte :: entry.value).head? = some commentByte) := by
      rintro (hnil | hc)
      · simp at hnil
      · obtain ⟨b, rest, hb⟩ := List.exists_cons_of_ne_nil hkne
        rw [hb] at hc
        have hbc : b = commentByte := by simpa using hc
        have hbm : b ∈ entry.key := by simp [hb]
        exact (keyByte_plain (hkbytes b hbm)).2.2.1 hbc
    have htake : (entry.key ++ equalsByte :: entry.value).takeWhile (· ≠ equalsByte) =
        entry.key := by
      rw [List.takeWhile_append_of_pos]
      · simp
      · intro b hb
        have hne := (keyByte_plain (hkbytes b hb)).2.1
        simpa using hne
    have hdrop : (entry.key ++ equalsByte :: entry.value).drop (entry.key.length + 1) =
        entry.value := by
      simp [List.drop_append]
    have hbounds : ¬ (entry.key.length = 0 ∨
        entry.key.length = (entry.key ++ equalsByte :: entry.value).length) := by
      rintro (hz | hl)
      · exact hkne (List.eq_nil_of_length_eq_zero hz)
      · rw [List.length_append, List.length_cons] at hl
        omega
    unfold parseLine
    simp only [hs, if_neg hfits, if_neg hhead, htake, hdrop, if_neg hbounds, hkey, hvalue]
    simp [stepLine]

theorem drop_takeWhile_succ {α : Type} {p : α → Bool} {l rest : List α} {b : α}
    (h : l.dropWhile p = b :: rest) : l.drop ((l.takeWhile p).length + 1) = rest := by
  calc l.drop ((l.takeWhile p).length + 1)
      = (l.takeWhile p ++ l.dropWhile p).drop ((l.takeWhile p).length + 1) := by
        rw [List.takeWhile_append_dropWhile]
    _ = rest := by
        rw [h]
        simp [List.drop_append]

theorem parseLine_wellFormed (hline : newlineByte ∉ line) (h : parseLine expected s line = .ok s') :
    ∃ l : ConfigLine × Bool, l.1.WellFormed ∧ line = ConfigLine.render l := by
  have hrender : ∀ l : ConfigLine, l.content = stripReturn line → l.WellFormed →
      ∃ l : ConfigLine × Bool, l.1.WellFormed ∧ line = ConfigLine.render l := by
    intro l hl hw
    rcases stripReturn_cases line with hs | hs
    · exact ⟨(l, false), hw, by simpa [ConfigLine.render, hl] using hs⟩
    · exact ⟨(l, true), hw, by simpa [ConfigLine.render, hl] using hs⟩
  have hfree : newlineByte ∉ stripReturn line := by
    rcases stripReturn_cases line with hs | hs
    · rwa [← hs]
    · intro hm
      exact hline (hs ▸ List.mem_append_left _ hm)
  unfold parseLine at h
  dsimp only at h
  split at h
  next => cases h
  next hfits =>
    split at h
    next hskip =>
      rcases hskip with hnil | hcomment
      · exact hrender .blank hnil.symm trivial
      · obtain ⟨text, htext⟩ := List.head?_eq_some_iff.mp hcomment
        refine hrender (.comment text) htext.symm ⟨fun hm => ?_, ?_⟩
        · exact hfree (htext ▸ List.mem_cons_of_mem _ hm)
        · rw [htext, List.length_cons] at hfits
          omega
    next =>
      split at h
      next => cases h
      next hbounds =>
        split at h
        next => cases h
        next hvalid =>
          have hkv : validKey ((stripReturn line).takeWhile (· ≠ equalsByte))
                ((stripReturn line).takeWhile (· ≠ equalsByte)).length = true ∧
              validValue ((stripReturn line).drop
                (((stripReturn line).takeWhile (· ≠ equalsByte)).length + 1))
                ((stripReturn line).drop
                (((stripReturn line).takeWhile (· ≠ equalsByte)).length + 1)).length
                reistConfigValueCapacity = true := by
            simpa using hvalid
          refine hrender (.pair ⟨_, _⟩) ?_ hkv
          have hsplit := List.takeWhile_append_dropWhile (p := (· ≠ equalsByte))
            (l := stripReturn line)
          cases hrest : (stripReturn line).dropWhile (· ≠ equalsByte) with
          | nil =>
            rw [hrest, List.append_nil] at hsplit
            exact absurd (.inr (congrArg List.length hsplit)) hbounds
          | cons b rest =>
            have hb : b = equalsByte := by
              have hp := List.head?_dropWhile_not (· ≠ equalsByte) (stripReturn line)
              rw [hrest] at hp
              simpa using hp
            rw [hrest, hb] at hsplit
            have hdrop := drop_takeWhile_succ hrest
            simp only [ConfigLine.content]
            rw [hdrop]
            exact hsplit

/-! All lines. -/

def PairsRead (expected : List UInt8) (pairs : List ConfigEntry) : Prop :=
  pairs = [] ∨ ∃ entries, pairs = ⟨schemaKey, expected⟩ :: entries ∧ ConfigEntriesValid entries

def parsedState (expected : List UInt8) (pairs : List ConfigEntry) : ConfigParse :=
  ⟨⟨if pairs = [] then [] else expected, pairs.tail⟩, pairs.length⟩

theorem ConfigEntriesValid.of_append {entries more : List ConfigEntry}
    (h : ConfigEntriesValid (entries ++ more)) : ConfigEntriesValid entries := by
  obtain ⟨hnodup, hreserved, hbounded⟩ := h
  rw [List.map_append] at hnodup hreserved
  rw [List.length_append] at hbounded
  exact ⟨(List.nodup_append.mp hnodup).1, fun hm => hreserved (List.mem_append_left _ hm),
    by omega⟩

theorem PairsRead.of_append {more : List ConfigEntry} (h : PairsRead expected (pairs ++ more)) :
    PairsRead expected pairs := by
  cases pairs with
  | nil => exact .inl rfl
  | cons e pairs =>
    rcases h with h | ⟨entries, he, hv⟩
    · simp at h
    · obtain ⟨rfl, hrest⟩ := List.cons.inj he
      exact .inr ⟨pairs, rfl, (hrest ▸ hv).of_append⟩

theorem copyText_ok {source : List UInt8} (h : source.length < capacity) :
    copyText capacity source = .ok source := by
  have hnot : ¬ (capacity = 0 ∨ capacity ≤ source.length) := by omega
  simp [copyText, hnot]

theorem stepLine_pair (hexpected : expected.length < reistConfigSchemaCapacity)
    (hp : PairsRead expected pairs) {entry : ConfigEntry} (hw : (ConfigLine.pair entry).WellFormed)
    (s' : ConfigParse) :
    stepLine expected (parsedState expected pairs) (.pair entry) = .ok s' ↔
      PairsRead expected (pairs ++ [entry]) ∧ s' = parsedState expected (pairs ++ [entry]) := by
  obtain ⟨key, value⟩ := entry
  have hklen := (validKey_spec hw.1).2.1
  have hvlen := (validValue_spec hw.2).2.1
  rcases hp with rfl | ⟨entries, rfl, hvalid⟩
  · have hstate : parsedState expected [] = ⟨emptyConfig, 0⟩ := rfl
    have hone : parsedState expected [⟨key, value⟩] = ⟨⟨expected, []⟩, 1⟩ := by
      simp [parsedState]
    rw [hstate, List.nil_append, hone]
    simp only [stepLine, if_true]
    unfold parseSchemaLine
    constructor
    · intro h
      split at h
      next => cases h
      next hsame =>
        have hk : key = schemaKey := by
          by_contra hne
          exact hsame (.inl hne)
        have hv : value = expected := by
          by_contra hne
          exact hsame (.inr hne)
        rw [hv, copyText_ok hexpected] at h
        refine ⟨.inr ⟨[], by rw [hk, hv], List.nodup_nil, List.not_mem_nil, Nat.zero_le _⟩, ?_⟩
        exact (Except.ok.inj h).symm
    · rintro ⟨hread, rfl⟩
      rcases hread with hread | ⟨entries, he, -⟩
      · simp at hread
      · obtain ⟨hentry, -⟩ := List.cons.inj he
        obtain ⟨hk, hv⟩ := ConfigEntry.mk.inj hentry
        have hsame : ¬ (key ≠ schemaKey ∨ value ≠ expected) := by simp [hk, hv]
        rw [if_neg hsame, hv, copyText_ok hexpected]
        rfl
  · have hlines : (parsedState expected (⟨schemaKey, expected⟩ :: entries)).effectiveLines ≠ 0 := by
      simp [parsedState]
    have hdocument : (parsedState expected (⟨schemaKey, expected⟩ :: entries)).document =
        ⟨expected, entries⟩ := by
      simp [parsedState]
    have hnext : parsedState expected (⟨schemaKey, expected⟩ :: entries ++ [⟨key, value⟩]) =
        ⟨⟨expected, entries ++ [⟨key, value⟩]⟩, entries.length + 1 + 1⟩ := by
      simp [parsedState]
    have hcount : (parsedState expected (⟨schemaKey, expected⟩ :: entries)).effectiveLines =
        entries.length + 1 := by
      simp [parsedState]
    rw [hnext]
    simp only [stepLine, if_neg hlines]
    unfold parseEntryLine
    rw [hdocument, hcount]
    have hread : PairsRead expected (⟨schemaKey, expected⟩ :: entries ++ [⟨key, value⟩]) ↔
        ConfigEntriesValid (entries ++ [⟨key, value⟩]) := by
      constructor
      · rintro (h | ⟨rest, he, hv⟩)
        · simp at h
        · obtain ⟨-, hrest⟩ := List.cons.inj he
          change entries ++ [⟨key, value⟩] = rest at hrest
          exact hrest ▸ hv
      · intro hv
        exact .inr ⟨_, rfl, hv⟩
    rw [hread]
    constructor
    · intro h
      split at h
      next => cases h
      next hreserved =>
        split at h
        next => cases h
        next hduplicate =>
          split at h
          next => cases h
          next hfull =>
            rw [copyText_ok hklen, copyText_ok hvlen] at h
            have hfresh : key ∉ entries.map (·.key) := by
              intro hm
              obtain ⟨e, he, hek⟩ := List.mem_map.mp hm
              exact hduplicate (List.any_eq_true.mpr ⟨e, he, by simpa using hek⟩)
            refine ⟨⟨?_, ?_, ?_⟩, (Except.ok.inj h).symm⟩
            · rw [List.map_append, List.map_singleton]
              have hconcat := hvalid.nodup.concat hfresh
              rwa [List.concat_eq_append] at hconcat
            · rw [List.map_append, List.map_singleton]
              intro hm
              rcases List.mem_append.mp hm with hm | hm
              · exact hvalid.reserved hm
              · exact hreserved (List.mem_singleton.mp hm).symm
            · rw [List.length_append, List.length_singleton]
              change ¬ reistConfigEntryCapacity ≤ entries.length at hfull
              omega
    · rintro ⟨hv, rfl⟩
      have hnodup := hv.nodup
      have hreserved := hv.reserved
      have hbounded := hv.bounded
      rw [List.map_append, List.map_singleton] at hnodup hreserved
      rw [List.length_append, List.length_singleton] at hbounded
      have hkey : key ≠ schemaKey := by
        rintro rfl
        exact hreserved (List.mem_append_right _ (List.mem_singleton_self _))
      have hfresh : ¬ entries.any (·.key == key) = true := by
        intro hany
        obtain ⟨e, he, hek⟩ := List.any_eq_true.mp hany
        have hek' : e.key = key := by simpa using hek
        have hm : key ∈ entries.map (·.key) := List.mem_map.mpr ⟨e, he, hek'⟩
        exact (List.nodup_append.mp hnodup).2.2 key hm key (List.mem_singleton_self _) rfl
      have hroom : ¬ reistConfigEntryCapacity ≤ entries.length := by omega
      rw [if_neg hkey, if_neg hfresh, if_neg hroom, copyText_ok hklen, copyText_ok hvlen]

theorem foldLines_iff (hexpected : expected.length < reistConfigSchemaCapacity)
    (hw : ∀ line ∈ lines, line.1.WellFormed)
    (hp : PairsRead expected pairs) (s' : ConfigParse) :
    Lines.fold (fun s (line : ConfigLine × Bool) => stepLine expected s line.1) lines
        (parsedState expected pairs) = .ok s' ↔
      PairsRead expected (pairs ++ lines.filterMap ConfigLine.pair?) ∧
        s' = parsedState expected (pairs ++ lines.filterMap ConfigLine.pair?) := by
  induction lines generalizing pairs with
  | nil =>
    simp only [fold, List.filterMap_nil, List.append_nil, Except.ok.injEq]
    constructor
    · rintro rfl
      exact ⟨hp, rfl⟩
    · rintro ⟨-, rfl⟩
      rfl
  | cons line lines ih =>
    have hwhead := hw line List.mem_cons_self
    have hwtail : ∀ l ∈ lines, l.1.WellFormed := fun l hl => hw l (List.mem_cons_of_mem line hl)
    rw [fold_cons_ok]
    obtain ⟨line, crlf⟩ := line
    cases line with
    | comment text =>
      have hpair : ConfigLine.pair? (.comment text, crlf) = none := rfl
      rw [List.filterMap_cons_none hpair, ← ih hwtail hp]
      simp [stepLine]
    | blank =>
      have hpair : ConfigLine.pair? (.blank, crlf) = none := rfl
      rw [List.filterMap_cons_none hpair, ← ih hwtail hp]
      simp [stepLine]
    | pair entry =>
      have hpair : ConfigLine.pair? (.pair entry, crlf) = some entry := rfl
      have hsplit : pairs ++ entry :: lines.filterMap ConfigLine.pair? =
          pairs ++ [entry] ++ lines.filterMap ConfigLine.pair? := by simp
      rw [List.filterMap_cons_some hpair, hsplit]
      constructor
      · rintro ⟨m, hm, hrest⟩
        obtain ⟨hread, rfl⟩ := (stepLine_pair hexpected hp hwhead m).mp hm
        exact (ih hwtail hread).mp hrest
      · rintro ⟨hread, hs⟩
        have hfirst := hread.of_append
        refine ⟨_, (stepLine_pair hexpected hp hwhead _).mpr ⟨hfirst, rfl⟩, ?_⟩
        exact (ih hwtail hfirst).mpr ⟨hread, hs⟩

theorem render_free {line : ConfigLine × Bool} (h : line.1.WellFormed) :
    newlineByte ∉ ConfigLine.render line := by
  obtain ⟨line, crlf⟩ := line
  intro hm
  rcases List.mem_append.mp hm with hm | hm
  · cases line with
    | comment text =>
      rcases List.mem_cons.mp hm with hc | hm
      · cases hc
      · exact h.1 hm
    | blank => exact absurd hm List.not_mem_nil
    | pair entry =>
      rcases List.mem_append.mp hm with hm | hm
      · exact (keyByte_plain ((validKey_spec h.1).2.2 _ hm)).1 rfl
      · rcases List.mem_cons.mp hm with hc | hm
        · cases hc
        · exact (valueByte_plain ((validValue_spec h.2).2.2 _ hm)).1 rfl
  · cases crlf with
    | false => exact absurd hm List.not_mem_nil
    | true => exact absurd (List.mem_singleton.mp hm) (by decide)

theorem fold_wellFormed {lines : List (List UInt8)} (hfree : ∀ line ∈ lines, newlineByte ∉ line)
    (h : Lines.fold (parseLine expected) lines s = .ok s') :
    ∃ rendered : List (ConfigLine × Bool), (∀ line ∈ rendered, line.1.WellFormed) ∧
      lines = rendered.map ConfigLine.render := by
  induction lines generalizing s with
  | nil => exact ⟨[], by simp, rfl⟩
  | cons line lines ih =>
    obtain ⟨m, hm, hrest⟩ := fold_cons_ok.mp h
    obtain ⟨l, hl, rfl⟩ := parseLine_wellFormed (hfree line List.mem_cons_self) hm
    obtain ⟨rendered, hr, rfl⟩ := ih (fun l' hl' => hfree l' (List.mem_cons_of_mem _ hl')) hrest
    refine ⟨l :: rendered, ?_, rfl⟩
    intro l' hl'
    rcases List.mem_cons.mp hl' with rfl | hl'
    · exact hl
    · exact hr l' hl'

theorem scan_render_iff (hexpected : expected.length < reistConfigSchemaCapacity)
    (hw : ∀ line ∈ lines, line.1.WellFormed) (s' : ConfigParse) :
    Lines.scan newlineByte reistConfigEinval (parseLine expected) []
        (Lines.join newlineByte (lines.map ConfigLine.render)) ⟨emptyConfig, 0⟩ = .ok s' ↔
      PairsRead expected (lines.filterMap ConfigLine.pair?) ∧
        s' = parsedState expected (lines.filterMap ConfigLine.pair?) := by
  have hfree : ∀ line ∈ lines.map ConfigLine.render, newlineByte ∉ line := by
    intro line hline
    obtain ⟨l, hl, rfl⟩ := List.mem_map.mp hline
    exact render_free (hw l hl)
  have hstep : ∀ line ∈ lines, ∀ s, parseLine expected s (ConfigLine.render line) =
      stepLine expected s line.1 := fun line hline s => parseLine_render (hw line hline) line.2
  have hstart : (⟨emptyConfig, 0⟩ : ConfigParse) = parsedState expected [] := rfl
  rw [scan_join _ _ hfree, fold_map, fold_congr hstep, hstart]
  have hiff := foldLines_iff hexpected hw (.inl rfl : PairsRead expected []) s'
  rwa [List.nil_append] at hiff

theorem parseLine_error {e : Int} (h : parseLine expected s line = .error e) :
    e ≠ reistConfigOk := by
  have hschema : ∀ key value, parseSchemaLine expected key value s = .error e →
      e ≠ reistConfigOk := by
    intro key value hs
    unfold parseSchemaLine at hs
    split at hs
    next =>
      cases hs
      decide
    next =>
      unfold copyText at hs
      split at hs
      next he =>
        split at he
        next =>
          cases he
          cases hs
          decide
        next => cases he
      next => cases hs
  have hentry : ∀ key value, parseEntryLine key value s = .error e → e ≠ reistConfigOk := by
    intro key value hs
    unfold parseEntryLine at hs
    split at hs
    next =>
      cases hs
      decide
    next =>
      split at hs
      next =>
        cases hs
        decide
      next =>
        split at hs
        next =>
          cases hs
          decide
        next =>
          split at hs
          next => cases hs
          next =>
            cases hs
            decide
  unfold parseLine at h
  dsimp only at h
  split at h
  next =>
    cases h
    decide
  next =>
    split at h
    next => cases h
    next =>
      split at h
      next =>
        cases h
        decide
      next =>
        split at h
        next =>
          cases h
          decide
        next =>
          split at h
          next => exact hschema _ _ h
          next => exact hentry _ _ h

theorem reistConfigParse_cases (data expected : List UInt8) :
    (∃ e, e ≠ reistConfigOk ∧
      reistConfigParse (some data) (some expected) = (e, emptyConfig)) ∨
    (data.length ≤ reistConfigFileCapacity ∧ data.getLast? = some newlineByte ∧
      validValue expected expected.length reistConfigSchemaCapacity = true ∧
      ∃ s, Lines.scan newlineByte reistConfigEinval (parseLine expected) [] data
          ⟨emptyConfig, 0⟩ = .ok s ∧ s.effectiveLines ≠ 0 ∧ s.document.schema ≠ [] ∧
        reistConfigParse (some data) (some expected) = (reistConfigOk, s.document)) := by
  unfold reistConfigParse
  dsimp only
  rw [validValue_bounded]
  split
  next => exact .inl ⟨reistConfigEinval, by decide, rfl⟩
  next hdata =>
    split
    next => exact .inl ⟨reistConfigEschema, by decide, rfl⟩
    next hschema =>
      split
      next e hscan =>
        have he : e ≠ reistConfigOk :=
          scan_error (P := (· ≠ reistConfigOk)) (by decide)
            (fun _ _ _ h => parseLine_error h) hscan
        exact .inl ⟨e, he, rfl⟩
      next s hscan =>
        split
        next => exact .inl ⟨reistConfigEschema, by decide, rfl⟩
        next hdone =>
          have hsize : data.length ≤ reistConfigFileCapacity := by
            by_contra hlarge
            exact hdata (.inr (.inl (by omega)))
          have hlast : data.getLast? = some newlineByte := by
            by_contra hne
            exact hdata (.inr (.inr hne))
          exact .inr ⟨hsize, hlast, by simpa using hschema, s, hscan,
            fun hz => hdone (.inl hz), fun hz => hdone (.inr hz), rfl⟩

theorem reistConfigParse_iff (data expected : List UInt8) (document : ConfigDocument) :
    reistConfigParse (some data) (some expected) = (reistConfigOk, document) ↔
      data.length ≤ reistConfigFileCapacity ∧
      validValue expected expected.length reistConfigSchemaCapacity = true ∧
      ConfigText expected data document := by
  constructor
  · intro h
    rcases reistConfigParse_cases data expected with
      ⟨e, he, hfail⟩ | ⟨hsize, hlast, hvalid, s, hscan, hlines, -, hok⟩
    · rw [hfail] at h
      exact absurd (Prod.mk.inj h).1 he
    · have hexpected := (validValue_spec hvalid).2.1
      obtain ⟨raw, hfree, rfl⟩ := exists_join hlast
      have hfold := hscan
      rw [scan_join _ _ hfree] at hfold
      obtain ⟨lines, hw, rfl⟩ := fold_wellFormed hfree hfold
      obtain ⟨hread, rfl⟩ := (scan_render_iff hexpected hw s).mp hscan
      rcases hread with hread | ⟨entries, hpairs, hentries⟩
      · exact absurd (by simp [parsedState, hread]) hlines
      · have hdocument : document = ⟨expected, entries⟩ := by
          rw [hok] at h
          rw [← (Prod.mk.inj h).2]
          simp [parsedState, hpairs]
        subst hdocument
        exact ⟨hsize, hvalid, lines, hw, rfl, hpairs, rfl, hentries⟩
  · rintro ⟨hsize, hvalid, lines, hw, rfl, hpairs, hschema, hentries⟩
    obtain ⟨hne, hexpected, -⟩ := validValue_spec hvalid
    have hread : PairsRead expected (lines.filterMap ConfigLine.pair?) :=
      .inr ⟨document.entries, hpairs, hentries⟩
    have hscan := (scan_render_iff hexpected hw _).mpr ⟨hread, rfl⟩
    have hstate : parsedState expected (lines.filterMap ConfigLine.pair?) =
        ⟨document, document.entries.length + 1⟩ := by
      obtain ⟨schema, entries⟩ := document
      dsimp only at hschema hpairs
      simp [parsedState, hpairs, hschema]
    rw [hstate] at hscan
    have hlines : lines ≠ [] := by
      rintro rfl
      simp at hpairs
    have hlast : (join newlineByte (lines.map ConfigLine.render)).getLast? =
        some newlineByte := by
      obtain ⟨front, last, rfl⟩ := List.eq_nil_or_concat lines |>.resolve_left hlines
      simp [join]
    have hempty : join newlineByte (lines.map ConfigLine.render) ≠ [] := by
      intro hnil
      rw [hnil] at hlast
      simp at hlast
    have hdata : ¬ ((join newlineByte (lines.map ConfigLine.render)).length = 0 ∨
        reistConfigFileCapacity <
          (join newlineByte (lines.map ConfigLine.render)).length ∨
        (join newlineByte (lines.map ConfigLine.render)).getLast? ≠ some newlineByte) := by
      rintro (h | h | h)
      · exact hempty (List.eq_nil_of_length_eq_zero h)
      · omega
      · exact h hlast
    have hdone : ¬ (document.entries.length + 1 = 0 ∨ document.schema = []) := by
      rintro (h | h)
      · omega
      · exact hne (hschema ▸ h)
    unfold reistConfigParse
    dsimp only
    rw [validValue_bounded, if_neg hdata, hvalid, hscan]
    simp only [Bool.not_true, Bool.false_eq_true, if_false, if_neg hdone]

end ReistOs
