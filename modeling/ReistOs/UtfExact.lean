import ReistOs.Utf16

/-! Exactness of the conversions between UTF-8 and UTF-16. -/

namespace ReistOs

/-- The loop of `reist_utf8_prefix`; `fuel` bounds the scalars. -/
def utf8PrefixFrom (maximumScalars : Nat) : Nat → List UInt8 → Nat → Nat → Nat → Option (Nat × Nat)
  | _, [], _, selectedBytes, selectedScalars => some (selectedBytes, selectedScalars)
  | 0, _ :: _, _, _, _ => none
  | fuel + 1, b :: input, source, selectedBytes, selectedScalars =>
    match reistUtf8DecodeOne (b :: input) with
    | none => none
    | some (consumed, _) =>
      if selectedScalars < maximumScalars then
        utf8PrefixFrom maximumScalars fuel ((b :: input).drop consumed) (source + consumed)
          (source + consumed) (selectedScalars + 1)
      else
        utf8PrefixFrom maximumScalars fuel ((b :: input).drop consumed) (source + consumed)
          selectedBytes selectedScalars

/-- The bytes and the scalars of the selected prefix. -/
def reistUtf8Prefix (input : List UInt8) (maximumScalars : Nat) : Option (Nat × Nat) :=
  utf8PrefixFrom maximumScalars input.length input 0 0 0

/-- The units that the loop of `reist_utf8_to_utf16` has stored when it returns or fails. -/
def utf8ToUtf16Stored (capacity : Nat) : Nat → List UInt8 → List UInt16 → List UInt16
  | _, [], output => output
  | 0, _ :: _, output => output
  | fuel + 1, b :: input, output =>
    match reistUtf8DecodeOne (b :: input) with
    | none => output
    | some (consumed, scalar) =>
      if scalar = 0 then output
      else if capacity - output.length < (utf16Units scalar).length then output
      else utf8ToUtf16Stored capacity fuel ((b :: input).drop consumed) (output ++ utf16Units scalar)

/-- The bytes that the loop of `reist_utf16_to_utf8` has stored, with the NUL behind a success. -/
def utf16ToUtf8Stored (capacity : Nat) : List UInt16 → List UInt8 → List UInt8
  | [], output => output ++ [0]
  | unit :: input, output =>
    if 0xD800 ≤ unit.toNat ∧ unit.toNat ≤ 0xDBFF then
      match input with
      | [] => output
      | low :: input =>
        if low.toNat < 0xDC00 ∨ 0xDFFF < low.toNat then output
        else
          match publishUtf8 capacity
              (0x10000 + (unit.toNat - 0xD800) <<< 10 + (low.toNat - 0xDC00)) output with
          | none => output
          | some output => utf16ToUtf8Stored capacity input output
    else if 0xDC00 ≤ unit.toNat ∧ unit.toNat ≤ 0xDFFF then output
    else
      match publishUtf8 capacity unit.toNat output with
      | none => output
      | some output => utf16ToUtf8Stored capacity input output

def reistUtf8ToUtf16Stored (input : List UInt8) (capacity : Nat) : List UInt16 :=
  utf8ToUtf16Stored capacity input.length input []

def reistUtf16ToUtf8Stored (input : List UInt16) (capacity : Nat) : List UInt8 :=
  if capacity = 0 then [] else utf16ToUtf8Stored capacity input []

variable {n fuel capacity : Nat} {cs ds : List Char} {input : List UInt8}

theorem decodeOne_iff {k v : Nat} : reistUtf8DecodeOne input = some (k, v) ↔
    ∃ c, input.take k = String.utf8EncodeChar c ∧ k = c.utf8Size ∧ v = c.toNat := by
  constructor
  · intro h
    obtain ⟨c, rest, rfl, rfl, rfl⟩ := decodeOne_some h
    exact ⟨c, by rw [← String.length_utf8EncodeChar c, List.take_left], rfl, rfl⟩
  · rintro ⟨c, htake, rfl, rfl⟩
    rw [← List.take_append_drop c.utf8Size input, htake]
    exact decodeOne_encode c _

theorem prefix_of_encodeText (h : encodeText ds <+: encodeText cs) : ds <+: cs := by
  induction ds generalizing cs with
  | nil => exact List.nil_prefix
  | cons d ds ih =>
    obtain ⟨rest, h⟩ := h
    rw [encodeText_cons, List.append_assoc] at h
    have hd := decodeOne_encode d (encodeText ds ++ rest)
    rw [h] at hd
    cases cs with
    | nil => cases hd
    | cons c cs =>
      rw [encodeText_cons] at hd h
      rw [decodeOne_encode c] at hd
      obtain ⟨-, hvalue⟩ := Prod.mk.inj (Option.some.inj hd)
      obtain rfl : c = d := by rw [← Char.ofNat_toNat c, hvalue, Char.ofNat_toNat]
      exact (List.prefix_cons_inj c).mpr (ih ⟨rest, List.append_cancel_left h⟩)

/-- A loop that goes through to the end has decoded a text. -/
theorem utf8ScanFrom_some {count total : Nat} (h : utf8ScanFrom fuel input count = some total) :
    (decodeFrom fuel input).isSome := by
  induction fuel generalizing input count with
  | zero => cases input with
    | nil => rfl
    | cons b input => cases h
  | succ fuel ih => cases input with
    | nil => rfl
    | cons b input =>
      rw [utf8ScanFrom] at h
      rw [decodeFrom]
      cases hone : reistUtf8DecodeOne (b :: input) with
      | none => rw [hone] at h; cases h
      | some decoded =>
        rw [hone] at h
        simpa using ih h

variable {maximumScalars source bytes scalars : Nat}

theorem utf8PrefixFrom_some {result : Nat × Nat}
    (h : utf8PrefixFrom maximumScalars fuel input source bytes scalars = some result) :
    (decodeFrom fuel input).isSome := by
  induction fuel generalizing input source bytes scalars with
  | zero => cases input with
    | nil => rfl
    | cons b input => cases h
  | succ fuel ih => cases input with
    | nil => rfl
    | cons b input =>
      rw [utf8PrefixFrom] at h
      rw [decodeFrom]
      cases hone : reistUtf8DecodeOne (b :: input) with
      | none => rw [hone] at h; cases h
      | some decoded =>
        rw [hone] at h
        dsimp only at h
        split at h <;> simpa using ih h

theorem decodeFrom_isSome (h : (decodeFrom fuel input).isSome) : ∃ cs, input = encodeText cs := by
  obtain ⟨cs, hcs⟩ := Option.isSome_iff_exists.mp h
  exact ⟨cs, decodeFrom_some hcs⟩

theorem utf8PrefixFrom_encode (hfuel : cs.length ≤ fuel)
    (hselected : scalars < maximumScalars → bytes = source) :
    utf8PrefixFrom maximumScalars fuel (encodeText cs) source bytes scalars =
      some (bytes + (encodeText (cs.take (maximumScalars - scalars))).length,
        scalars + (cs.take (maximumScalars - scalars)).length) := by
  induction cs generalizing fuel source bytes scalars with
  | nil => cases fuel <;> simp [encodeText, utf8PrefixFrom]
  | cons c cs ih =>
    obtain ⟨b, bs, -, htext, hone, hdrop⟩ := encodeText_head c cs
    obtain ⟨fuel, rfl⟩ : ∃ n, fuel = n + 1 := ⟨fuel - 1, by simp at hfuel; omega⟩
    have hfuel : cs.length ≤ fuel := by simpa using hfuel
    rw [htext, utf8PrefixFrom, hone]
    dsimp only
    rw [hdrop]
    by_cases hmore : scalars < maximumScalars
    · obtain ⟨more, hmore'⟩ : ∃ n, maximumScalars - scalars = n + 1 :=
        ⟨maximumScalars - scalars - 1, by omega⟩
      have hrest : maximumScalars - (scalars + 1) = more := by omega
      rw [if_pos hmore, ih hfuel (fun _ => rfl), hrest, hmore', List.take_succ_cons,
        encodeText_cons, List.length_append, String.length_utf8EncodeChar, List.length_cons,
        hselected hmore]
      congr 2 <;> omega
    · have hnone : maximumScalars - scalars = 0 := by omega
      rw [if_neg hmore, ih hfuel (fun h => absurd h hmore), hnone]
      simp

theorem reistUtf8Prefix_encode (cs : List Char) (maximumScalars : Nat) :
    reistUtf8Prefix (encodeText cs) maximumScalars =
      some ((encodeText (cs.take maximumScalars)).length, (cs.take maximumScalars).length) := by
  rw [reistUtf8Prefix, utf8PrefixFrom_encode (length_le_encodeText cs) (fun _ => rfl)]
  simp

section Units

variable {units output result : List UInt16} {bytes written : List UInt8}

theorem utf8ToUtf16From_encode (hfuel : cs.length ≤ fuel) (hnul : '\x00' ∉ cs)
    (hroom : output.length + (encodeUnits cs).length ≤ capacity) :
    utf8ToUtf16From capacity fuel (encodeText cs) output = some (output ++ encodeUnits cs) := by
  induction cs generalizing fuel output with
  | nil => cases fuel <;> simp [encodeText, encodeUnits, utf8ToUtf16From]
  | cons c cs ih =>
    obtain ⟨b, bs, hb, htext, hone, hdrop⟩ := encodeText_head c cs
    obtain ⟨fuel, rfl⟩ : ∃ n, fuel = n + 1 := ⟨fuel - 1, by simp at hfuel; omega⟩
    rw [encodeUnits_cons, List.length_append] at hroom
    have hzero : c.toNat ≠ 0 := by
      intro hc
      obtain rfl : c = '\x00' := by rw [← Char.ofNat_toNat c, hc]
      exact hnul List.mem_cons_self
    have hrest : '\x00' ∉ cs := fun h => hnul (List.mem_cons_of_mem c h)
    rw [htext, utf8ToUtf16From, hone]
    dsimp only
    rw [if_neg hzero, if_neg (by omega), hdrop,
      ih (by simpa using hfuel) hrest (by rw [List.length_append]; omega), encodeUnits_cons,
      List.append_assoc]

theorem utf8ToUtf16Stored_of_some (h : utf8ToUtf16From capacity fuel input output = some result) :
    utf8ToUtf16Stored capacity fuel input output = result := by
  induction fuel generalizing input output with
  | zero => cases input with
    | nil => exact Option.some.inj h
    | cons b input => cases h
  | succ fuel ih => cases input with
    | nil => exact Option.some.inj h
    | cons b input =>
      rw [utf8ToUtf16From] at h
      rw [utf8ToUtf16Stored]
      cases hone : reistUtf8DecodeOne (b :: input) with
      | none => rw [hone] at h; cases h
      | some decoded =>
        rw [hone] at h
        dsimp only at h ⊢
        split at h
        next => cases h
        next hnul =>
          split at h
          next => cases h
          next hroom =>
            rw [if_neg hnul, if_neg hroom]
            exact ih h

/-- Nothing is stored past the capacity, whether the conversion succeeds or fails. -/
theorem utf8ToUtf16Stored_length (h : output.length ≤ capacity) :
    (utf8ToUtf16Stored capacity fuel input output).length ≤ capacity := by
  induction fuel generalizing input output with
  | zero => cases input <;> exact h
  | succ fuel ih => cases input with
    | nil => exact h
    | cons b input =>
      rw [utf8ToUtf16Stored]
      split
      next => exact h
      next consumed scalar hone =>
        split_ifs with hnul hroom
        · exact h
        · exact h
        · exact ih (by rw [List.length_append]; omega)

theorem publishUtf8_some {scalar : Nat} {out : List UInt8}
    (h : publishUtf8 capacity scalar bytes = some out) :
    out = bytes ++ utf8Bytes scalar ∧ out.length < capacity := by
  unfold publishUtf8 at h
  split at h
  next => cases h
  next hroom =>
    obtain rfl := Option.some.inj h
    exact ⟨rfl, by rw [List.length_append]; omega⟩

variable {units : List UInt16}

theorem utf16ToUtf8Stored_length (h : bytes.length < capacity) :
    (utf16ToUtf8Stored capacity units bytes).length ≤ capacity := by
  fun_induction utf16ToUtf8Stored capacity units bytes with
  | case1 output => rw [List.length_append]; exact h
  | case5 unit output hhigh low input hlow out hout ih => exact ih (publishUtf8_some hout).2
  | case8 unit input output hhigh hlow out hout ih => exact ih (publishUtf8_some hout).2
  | _ => omega

theorem ofNat_toNat_unit {unit : UInt16} (h : unit.toNat = n) : UInt16.ofNat n = unit := by
  rw [← h]
  exact UInt16.ofNat_toNat

theorem utf16Units_single {unit : UInt16} (hhigh : ¬ (0xD800 ≤ unit.toNat ∧ unit.toNat ≤ 0xDBFF))
    (hlow : ¬ (0xDC00 ≤ unit.toNat ∧ unit.toNat ≤ 0xDFFF)) :
    ∃ c : Char, c.toNat = unit.toNat ∧ utf16Units c.toNat = [unit] := by
  have hunit := unit.toNat_lt
  have hn : (Char.ofNat unit.toNat).toNat = unit.toNat := char_ofNat_toNat (by omega)
  refine ⟨Char.ofNat unit.toNat, hn, ?_⟩
  rw [hn, utf16Units, if_pos (by omega), ofNat_toNat_unit rfl]

theorem utf16Units_pair {unit low : UInt16} (hhigh : 0xD800 ≤ unit.toNat ∧ unit.toNat ≤ 0xDBFF)
    (hlow : ¬ (low.toNat < 0xDC00 ∨ 0xDFFF < low.toNat)) :
    ∃ c : Char, c.toNat = 0x10000 + (unit.toNat - 0xD800) <<< 10 + (low.toNat - 0xDC00) ∧
      utf16Units c.toNat = [unit, low] := by
  obtain ⟨v, hv⟩ : ∃ v, v = 0x10000 + (unit.toNat - 0xD800) <<< 10 + (low.toNat - 0xDC00) := ⟨_, rfl⟩
  rw [← hv]
  rw [Nat.shiftLeft_eq] at hv
  have hn : (Char.ofNat v).toNat = v := char_ofNat_toNat (by omega)
  have hmod : (v - 0x10000) &&& 0x3FF = (v - 0x10000) % 1024 := Nat.and_two_pow_sub_one_eq_mod _ 10
  refine ⟨Char.ofNat v, hn, ?_⟩
  rw [hn, utf16Units, if_neg (by omega), hmod, Nat.shiftRight_eq_div_pow,
    @ofNat_toNat_unit _ unit (by omega), @ofNat_toNat_unit _ low (by omega)]

/-- A conversion that succeeds reads the units of characters and stores their bytes and a NUL. -/
theorem utf16ToUtf8From_some (h : utf16ToUtf8From capacity units bytes = some written) :
    utf16ToUtf8Stored capacity units bytes = written ++ [0] ∧
      ∃ cs, units = encodeUnits cs ∧ written = bytes ++ encodeText cs := by
  fun_induction utf16ToUtf8From capacity units bytes with
  | case1 output =>
    obtain rfl := Option.some.inj h
    exact ⟨rfl, [], rfl, (List.append_nil _).symm⟩
  | case5 unit output hhigh low input hlow out hout ih =>
    obtain ⟨hstored, cs, rfl, rfl⟩ := ih h
    obtain ⟨c, hc, hunits⟩ := utf16Units_pair hhigh hlow
    rw [utf16ToUtf8Stored.eq_def]
    dsimp only
    rw [if_pos hhigh, if_neg hlow, hout]
    refine ⟨hstored, c :: cs, ?_, ?_⟩
    · rw [encodeUnits_cons, hunits]
      rfl
    · rw [(publishUtf8_some hout).1, ← hc, utf8Bytes_eq, encodeText_cons, List.append_assoc]
  | case8 unit input output hhigh hlow out hout ih =>
    obtain ⟨hstored, cs, rfl, rfl⟩ := ih h
    obtain ⟨c, hc, hunits⟩ := utf16Units_single hhigh hlow
    rw [utf16ToUtf8Stored.eq_def]
    dsimp only
    rw [if_neg hhigh, if_neg hlow, hout]
    refine ⟨hstored, c :: cs, ?_, ?_⟩
    · rw [encodeUnits_cons, hunits]
      rfl
    · rw [(publishUtf8_some hout).1, ← hc, utf8Bytes_eq, encodeText_cons, List.append_assoc]
  | _ => cases h

end Units

theorem reistUtf8ToUtf16_encode (hnul : '\x00' ∉ cs) (h : (encodeUnits cs).length ≤ capacity) :
    reistUtf8ToUtf16 (encodeText cs) capacity = some (encodeUnits cs) := by
  rw [reistUtf8ToUtf16, utf8ToUtf16From_encode (length_le_encodeText cs) hnul (by simpa using h)]
  rfl

theorem reistUtf16ToUtf8_encode (h : (encodeText cs).length < capacity) :
    reistUtf16ToUtf8 (encodeUnits cs) capacity = some (encodeText cs) := by
  rw [reistUtf16ToUtf8, if_neg (by omega), utf16ToUtf8From_encode (by simpa using h)]
  rfl

/-- Decoding, scanning, cutting and converting accept exactly the texts of characters, the
conversions undo each other, a cut is as long as it may be, and no call stores past its capacity. -/
theorem reistUtf_exact :
    (∀ input k v, reistUtf8DecodeOne input = some (k, v) ↔
      ∃ c, input.take k = String.utf8EncodeChar c ∧ k = c.utf8Size ∧ v = c.toNat) ∧
    (∀ cs capacity room, 0 ∉ encodeText cs → (encodeUnits cs).length ≤ capacity →
      (encodeText cs).length < room →
      (reistUtf8ToUtf16 (encodeText cs) capacity).bind (reistUtf16ToUtf8 · room) =
        some (encodeText cs)) ∧
    (∀ cs capacity room, 0 ∉ encodeUnits cs → (encodeText cs).length < capacity →
      (encodeUnits cs).length ≤ room →
      (reistUtf16ToUtf8 (encodeUnits cs) capacity).bind (reistUtf8ToUtf16 · room) =
        some (encodeUnits cs)) ∧
    (∀ input, (∀ cs, input ≠ encodeText cs) → reistUtf8Scan input = none ∧
      (∀ maximum, reistUtf8Prefix input maximum = none) ∧
      ∀ capacity, reistUtf8ToUtf16 input capacity = none) ∧
    (∀ input, (∀ cs, input ≠ encodeUnits cs) → ∀ capacity, reistUtf16ToUtf8 input capacity = none) ∧
    (∀ cs maximum, ∃ ds, ds <+: cs ∧ ds.length ≤ maximum ∧
      reistUtf8Prefix (encodeText cs) maximum = some ((encodeText ds).length, ds.length) ∧
      ∀ es, encodeText es <+: encodeText cs → es.length ≤ maximum →
        (encodeText es).length ≤ (encodeText ds).length) ∧
    (∀ input capacity, (reistUtf8ToUtf16Stored input capacity).length ≤ capacity ∧
      ∀ units, reistUtf8ToUtf16 input capacity = some units →
        reistUtf8ToUtf16Stored input capacity = units) ∧
    (∀ input capacity, (reistUtf16ToUtf8Stored input capacity).length ≤ capacity ∧
      ∀ bytes, reistUtf16ToUtf8 input capacity = some bytes →
        reistUtf16ToUtf8Stored input capacity = bytes ++ [0]) := by
  refine ⟨fun input k v => decodeOne_iff, ?_, ?_, ?_, ?_, ?_, ?_, ?_⟩
  · intro cs capacity room hnul hunits hbytes
    have hcs : '\x00' ∉ cs := fun h => hnul (List.mem_flatMap.mpr ⟨_, h, by decide⟩)
    rw [reistUtf8ToUtf16_encode hcs hunits, Option.bind_some, reistUtf16ToUtf8_encode hbytes]
  · intro cs capacity room hnul hbytes hunits
    have hcs : '\x00' ∉ cs := fun h => hnul (List.mem_flatMap.mpr ⟨_, h, by decide⟩)
    rw [reistUtf16ToUtf8_encode hbytes, Option.bind_some, reistUtf8ToUtf16_encode hcs hunits]
  · intro input hill
    refine ⟨?_, ?_, ?_⟩
    · apply Option.eq_none_iff_forall_ne_some.mpr
      intro total h
      obtain ⟨cs, hcs⟩ := decodeFrom_isSome (utf8ScanFrom_some h)
      exact hill cs hcs
    · intro maximum
      apply Option.eq_none_iff_forall_ne_some.mpr
      intro result h
      obtain ⟨cs, hcs⟩ := decodeFrom_isSome (utf8PrefixFrom_some h)
      exact hill cs hcs
    · intro capacity
      apply Option.eq_none_iff_forall_ne_some.mpr
      intro units h
      obtain ⟨cs, hcs, -⟩ := utf8ToUtf16From_some h
      exact hill cs hcs
  · intro input hill capacity
    apply Option.eq_none_iff_forall_ne_some.mpr
    intro bytes h
    unfold reistUtf16ToUtf8 at h
    split at h
    next => cases h
    next =>
      obtain ⟨-, cs, hcs, -⟩ := utf16ToUtf8From_some h
      exact hill cs hcs
  · intro cs maximum
    refine ⟨cs.take maximum, List.take_prefix _ _, List.length_take_le _ _,
      reistUtf8Prefix_encode cs maximum, ?_⟩
    intro es hes hlen
    obtain ⟨rest, hrest⟩ : es <+: cs.take maximum :=
      List.prefix_take_iff.mpr ⟨prefix_of_encodeText hes, hlen⟩
    rw [← hrest, encodeText_append, List.length_append]
    omega
  · intro input capacity
    refine ⟨utf8ToUtf16Stored_length (Nat.zero_le _), ?_⟩
    intro units h
    exact utf8ToUtf16Stored_of_some h
  · intro input capacity
    unfold reistUtf16ToUtf8Stored reistUtf16ToUtf8
    split
    next => exact ⟨Nat.zero_le _, fun bytes h => nomatch h⟩
    next hcapacity =>
      exact ⟨utf16ToUtf8Stored_length (Nat.pos_of_ne_zero hcapacity), fun bytes h =>
        (utf16ToUtf8From_some h).1⟩

/-- One character of each length. -/
theorem reistUtf_exact_lengths :
    (reistUtf8ToUtf16 (encodeText ['a', 'ß', '€', '😀']) 5).bind (reistUtf16ToUtf8 · 11) =
      some (encodeText ['a', 'ß', '€', '😀']) :=
  reistUtf_exact.2.1 ['a', 'ß', '€', '😀'] 5 11 (by decide) (by decide) (by decide)

end ReistOs
