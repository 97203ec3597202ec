import ReistOs.Utf

/-! Bounded conversion between UTF-8 and UTF-16, over caller-owned storage. -/

namespace ReistOs

/-- The UTF-16 code units of a scalar value. -/
def utf16Units (scalar : Nat) : List UInt16 :=
  if scalar ≤ 0xFFFF then [UInt16.ofNat scalar]
  else [UInt16.ofNat (0xD800 + (scalar - 0x10000) >>> 10),
    UInt16.ofNat (0xDC00 + ((scalar - 0x10000) &&& 0x3FF))]

def encodeUnits (cs : List Char) : List UInt16 := cs.flatMap fun c => utf16Units c.toNat

/-- The loop of `reist_utf8_to_utf16`; `fuel` bounds the scalars. -/
def utf8ToUtf16From (capacity : Nat) : Nat → List UInt8 → List UInt16 → Option (List UInt16)
  | _, [], output => some output
  | 0, _ :: _, _ => none
  | fuel + 1, b :: input, output =>
    match reistUtf8DecodeOne (b :: input) with
    | none => none
    | some (consumed, scalar) =>
      if scalar = 0 then none
      else if capacity - output.length < (utf16Units scalar).length then none
      else utf8ToUtf16From capacity fuel ((b :: input).drop consumed) (output ++ utf16Units scalar)

def reistUtf8ToUtf16 (input : List UInt8) (capacity : Nat) : Option (List UInt16) :=
  utf8ToUtf16From capacity input.length input []

/-- The bytes that are written for a scalar. -/
def utf8Bytes (scalar : Nat) : List UInt8 :=
  if scalar ≤ 0x7F then [UInt8.ofNat scalar]
  else if scalar ≤ 0x7FF then
    [UInt8.ofNat (0xC0 ||| scalar >>> 6), UInt8.ofNat (0x80 ||| scalar &&& 0x3F)]
  else if scalar ≤ 0xFFFF then
    [UInt8.ofNat (0xE0 ||| scalar >>> 12), UInt8.ofNat (0x80 ||| (scalar >>> 6) &&& 0x3F),
      UInt8.ofNat (0x80 ||| scalar &&& 0x3F)]
  else
    [UInt8.ofNat (0xF0 ||| scalar >>> 18), UInt8.ofNat (0x80 ||| (scalar >>> 12) &&& 0x3F),
      UInt8.ofNat (0x80 ||| (scalar >>> 6) &&& 0x3F), UInt8.ofNat (0x80 ||| scalar &&& 0x3F)]

/-- One scalar behind the output, with a byte left for the terminator. -/
def publishUtf8 (capacity scalar : Nat) (output : List UInt8) : Option (List UInt8) :=
  if capacity ≤ output.length ∨ capacity - output.length ≤ (utf8Bytes scalar).length then none
  else some (output ++ utf8Bytes scalar)

/-- The loop of `reist_utf16_to_utf8`. -/
def utf16ToUtf8From (capacity : Nat) : List UInt16 → List UInt8 → Option (List UInt8)
  | [], output => some output
  | unit :: input, output =>
    if 0xD800 ≤ unit.toNat ∧ unit.toNat ≤ 0xDBFF then
      match input with
      | [] => none
      | low :: input =>
        if low.toNat < 0xDC00 ∨ 0xDFFF < low.toNat then none
        else
          match publishUtf8 capacity
              (0x10000 + (unit.toNat - 0xD800) <<< 10 + (low.toNat - 0xDC00)) output with
          | none => none
          | some output => utf16ToUtf8From capacity input output
    else if 0xDC00 ≤ unit.toNat ∧ unit.toNat ≤ 0xDFFF then none
    else
      match publishUtf8 capacity unit.toNat output with
      | none => none
      | some output => utf16ToUtf8From capacity input output

def reistUtf16ToUtf8 (input : List UInt16) (capacity : Nat) : Option (List UInt8) :=
  if capacity = 0 then none else utf16ToUtf8From capacity input []

theorem toNat_ofNat_unit {n : Nat} (h : n < 65536) : (UInt16.ofNat n).toNat = n := by
  rw [UInt16.toNat_ofNat', Nat.mod_eq_of_lt h]

/-- High bits over low ones are a sum. -/
theorem or_eq_add {hi lo k : Nat} (h : lo < 2 ^ k) : hi * 2 ^ k ||| lo = hi * 2 ^ k + lo := by
  rw [← Nat.shiftLeft_eq, ← Nat.shiftLeft_add_eq_or_of_lt h]

theorem continuation_eq (n : Nat) : 0x80 ||| n &&& 0x3F = n % 64 + 0x80 := by
  have hlow : n &&& 0x3F = n % 64 := Nat.and_two_pow_sub_one_eq_mod n 6
  have hsum : 0x80 ||| n % 64 = 0x80 + n % 64 := @or_eq_add 2 _ 6 (Nat.mod_lt n (by decide))
  rw [hlow, hsum, Nat.add_comm]

theorem utf8Bytes_eq (c : Char) : utf8Bytes c.toNat = String.utf8EncodeChar c := by
  have hvalue := char_toNat_cases c
  rw [utf8EncodeChar_eq]
  unfold utf8Bytes
  simp only [continuation_eq, Nat.shiftRight_eq_div_pow]
  split
  next => rfl
  next hone =>
    split
    next htwo =>
      have hlead : 0xC0 ||| c.toNat / 2 ^ 6 = 0xC0 + c.toNat / 2 ^ 6 :=
        @or_eq_add 6 _ 5 (by omega)
      have hsame : 0xC0 ||| c.toNat / 2 ^ 6 = c.toNat / 64 % 32 + 0xC0 := by omega
      rw [hsame]
    next htwo =>
      split
      next hthree =>
        have hlead : 0xE0 ||| c.toNat / 2 ^ 12 = 0xE0 + c.toNat / 2 ^ 12 :=
          @or_eq_add 14 _ 4 (by omega)
        have hsame : 0xE0 ||| c.toNat / 2 ^ 12 = c.toNat / 4096 % 16 + 0xE0 := by omega
        rw [hsame]
      next hthree =>
        have hlead : 0xF0 ||| c.toNat / 2 ^ 18 = 0xF0 + c.toNat / 2 ^ 18 :=
          @or_eq_add 30 _ 3 (by omega)
        have hsame : 0xF0 ||| c.toNat / 2 ^ 18 = c.toNat / 262144 % 8 + 0xF0 := by omega
        rw [hsame]

theorem encodeUnits_cons (c : Char) (cs : List Char) :
    encodeUnits (c :: cs) = utf16Units c.toNat ++ encodeUnits cs := List.flatMap_cons

/-- A conversion that succeeds reads a text of characters other than NUL and writes its units. -/
theorem utf8ToUtf16From_some {capacity fuel : Nat} {input : List UInt8}
    {output result : List UInt16} (h : utf8ToUtf16From capacity fuel input output = some result) :
    ∃ cs, input = encodeText cs ∧ result = output ++ encodeUnits cs := by
  induction fuel generalizing input output with
  | zero =>
    cases input with
    | nil =>
      obtain rfl := Option.some.inj h
      exact ⟨[], rfl, (List.append_nil _).symm⟩
    | cons b input => cases h
  | succ fuel ih =>
    cases input with
    | nil =>
      obtain rfl := Option.some.inj h
      exact ⟨[], rfl, (List.append_nil _).symm⟩
    | cons b input =>
      rw [utf8ToUtf16From] at h
      cases hone : reistUtf8DecodeOne (b :: input) with
      | none => rw [hone] at h; cases h
      | some decoded =>
        obtain ⟨consumed, scalar⟩ := decoded
        rw [hone] at h
        dsimp only at h
        split at h
        next => cases h
        next hnul =>
          split at h
          next => cases h
          next hfits =>
            obtain ⟨c, rest, hinput, rfl, rfl⟩ := decodeOne_some hone
            rw [hinput, drop_encodeChar] at h
            obtain ⟨cs, rfl, rfl⟩ := ih h
            exact ⟨c :: cs, by rw [hinput, encodeText_cons],
              by rw [encodeUnits_cons, List.append_assoc]⟩

/-- The units of a text convert back to it where there is room. -/
theorem utf16ToUtf8From_encode {capacity : Nat} {cs : List Char} {output : List UInt8}
    (h : output.length + (encodeText cs).length < capacity) :
    utf16ToUtf8From capacity (encodeUnits cs) output = some (output ++ encodeText cs) := by
  induction cs generalizing output with
  | nil =>
    show some output = some (output ++ [])
    rw [List.append_nil]
  | cons c cs ih =>
    have hvalue := char_toNat_cases c
    rw [encodeText_cons, List.length_append] at h
    rw [encodeText_cons, encodeUnits_cons]
    have hpublish : publishUtf8 capacity c.toNat output =
        some (output ++ String.utf8EncodeChar c) := by
      unfold publishUtf8
      rw [utf8Bytes_eq, if_neg (by omega)]
    have hrest : utf16ToUtf8From capacity (encodeUnits cs) (output ++ String.utf8EncodeChar c) =
        some (output ++ (String.utf8EncodeChar c ++ encodeText cs)) := by
      rw [ih (by rw [List.length_append]; omega), List.append_assoc]
    unfold utf16Units
    by_cases hbasic : c.toNat ≤ 0xFFFF
    · rw [if_pos hbasic, List.singleton_append, utf16ToUtf8From.eq_def]
      dsimp only
      rw [toNat_ofNat_unit (by omega), if_neg (by omega), if_neg (by omega), hpublish]
      exact hrest
    · have hhigh : (UInt16.ofNat (0xD800 + (c.toNat - 0x10000) >>> 10)).toNat =
          0xD800 + (c.toNat - 0x10000) / 1024 := by
        rw [Nat.shiftRight_eq_div_pow]
        exact toNat_ofNat_unit (by omega)
      have hlow : (UInt16.ofNat (0xDC00 + ((c.toNat - 0x10000) &&& 0x3FF))).toNat =
          0xDC00 + (c.toNat - 0x10000) % 1024 := by
        have hmod : (c.toNat - 0x10000) &&& 0x3FF = (c.toNat - 0x10000) % 1024 :=
          Nat.and_two_pow_sub_one_eq_mod _ 10
        rw [hmod]
        exact toNat_ofNat_unit (by omega)
      have hscalar : 0x10000 + (0xD800 + (c.toNat - 0x10000) / 1024 - 0xD800) <<< 10 +
          (0xDC00 + (c.toNat - 0x10000) % 1024 - 0xDC00) = c.toNat := by
        rw [Nat.shiftLeft_eq]
        omega
      rw [if_neg hbasic, List.cons_append, List.singleton_append, utf16ToUtf8From.eq_def]
      dsimp only
      rw [hhigh, if_pos (by omega), hlow, if_neg (by omega), hscalar, hpublish]
      exact hrest

end ReistOs
