import Mathlib.Tactic

/-! Bounded UTF-8 scalar conversion. Characters are Unicode scalar values. -/

namespace ReistOs

/-- The UTF-8 text of these characters. -/
def encodeText (cs : List Char) : List UInt8 := cs.flatMap String.utf8EncodeChar

def isContinuation (b : Nat) : Bool := b &&& 0xC0 == 0x80

/-- How many bytes the first scalar takes, and its value. -/
def reistUtf8DecodeOne (input : List UInt8) : Option (Nat × Nat) :=
  let bytes (i : Nat) : Nat := (input.getD i 0).toNat
  let publish (count value : Nat) : Option (Nat × Nat) :=
    if 0xD800 ≤ value ∧ value ≤ 0xDFFF then none else some (count, value)
  if input.length = 0 then none
  else if bytes 0 ≤ 0x7F then publish 1 (bytes 0)
  else if 0xC2 ≤ bytes 0 ∧ bytes 0 ≤ 0xDF then
    if input.length < 2 ∨ ¬ isContinuation (bytes 1) then none
    else publish 2 ((bytes 0 &&& 0x1F) <<< 6 ||| (bytes 1 &&& 0x3F))
  else if 0xE0 ≤ bytes 0 ∧ bytes 0 ≤ 0xEF then
    if input.length < 3 ∨ ¬ isContinuation (bytes 1) ∨ ¬ isContinuation (bytes 2) ∨
        (bytes 0 = 0xE0 ∧ bytes 1 < 0xA0) ∨ (bytes 0 = 0xED ∧ 0xA0 ≤ bytes 1) then none
    else publish 3 ((bytes 0 &&& 0x0F) <<< 12 ||| (bytes 1 &&& 0x3F) <<< 6 ||| (bytes 2 &&& 0x3F))
  else if 0xF0 ≤ bytes 0 ∧ bytes 0 ≤ 0xF4 then
    if input.length < 4 ∨ ¬ isContinuation (bytes 1) ∨ ¬ isContinuation (bytes 2) ∨
        ¬ isContinuation (bytes 3) ∨
        (bytes 0 = 0xF0 ∧ bytes 1 < 0x90) ∨ (bytes 0 = 0xF4 ∧ 0x8F < bytes 1) then none
    else publish 4 ((bytes 0 &&& 0x07) <<< 18 ||| (bytes 1 &&& 0x3F) <<< 12 |||
      (bytes 2 &&& 0x3F) <<< 6 ||| (bytes 3 &&& 0x3F))
  else none

/-- The scan loop; `fuel` bounds the scalars. -/
def utf8ScanFrom : Nat → List UInt8 → Nat → Option Nat
  | _, [], count => some count
  | 0, _ :: _, _ => none
  | fuel + 1, b :: input, count =>
    match reistUtf8DecodeOne (b :: input) with
    | none => none
    | some (consumed, _) => utf8ScanFrom fuel ((b :: input).drop consumed) (count + 1)

/-- The number of scalars of a text. -/
def reistUtf8Scan (input : List UInt8) : Option Nat := utf8ScanFrom input.length input 0

/-- The characters of a text, when it is the text of characters. -/
def decodeFrom : Nat → List UInt8 → Option (List Char)
  | _, [] => some []
  | 0, _ :: _ => none
  | fuel + 1, b :: input =>
    match reistUtf8DecodeOne (b :: input) with
    | none => none
    | some (consumed, scalar) =>
      (decodeFrom fuel ((b :: input).drop consumed)).map (Char.ofNat scalar :: ·)

def decodeText (input : List UInt8) : Option (List Char) := decodeFrom input.length input

theorem isContinuation_iff {b : Nat} (h : b < 256) :
    isContinuation b = true ↔ 0x80 ≤ b ∧ b < 0xC0 := by
  have hall : ∀ b < 256, isContinuation b = true ↔ 0x80 ≤ b ∧ b < 0xC0 := by decide +kernel
  exact hall b h

theorem or_shiftLeft_six {hi lo : Nat} (h : lo < 64) : hi <<< 6 ||| lo = hi * 64 + lo := by
  rw [← Nat.shiftLeft_add_eq_or_of_lt h, Nat.shiftLeft_eq]

theorem and_sixBits (b : Nat) : b &&& 0x3F = b % 64 := Nat.and_two_pow_sub_one_eq_mod b 6

/-- Two fields in a row are joined and then moved on together. -/
theorem or_shiftLeft_join (x y k : Nat) :
    x <<< (6 + k) ||| (y % 64) <<< k = (x * 64 + y % 64) <<< k := by
  rw [Nat.shiftLeft_add, ← Nat.shiftLeft_or_distrib, or_shiftLeft_six (Nat.mod_lt y (by decide))]

theorem scalar_two (a b : Nat) :
    (a &&& 0x1F) <<< 6 ||| (b &&& 0x3F) = a % 32 * 64 + b % 64 := by
  have ha : a &&& 0x1F = a % 32 := Nat.and_two_pow_sub_one_eq_mod a 5
  rw [ha, and_sixBits]
  exact or_shiftLeft_six (Nat.mod_lt b (by decide))

theorem scalar_three (a b c : Nat) :
    (a &&& 0x0F) <<< 12 ||| (b &&& 0x3F) <<< 6 ||| (c &&& 0x3F) =
      a % 16 * 4096 + b % 64 * 64 + c % 64 := by
  have ha : a &&& 0x0F = a % 16 := Nat.and_two_pow_sub_one_eq_mod a 4
  rw [ha, and_sixBits, and_sixBits, or_shiftLeft_join _ b 6,
    or_shiftLeft_six (Nat.mod_lt c (by decide))]
  omega

theorem scalar_four (a b c d : Nat) :
    (a &&& 0x07) <<< 18 ||| (b &&& 0x3F) <<< 12 ||| (c &&& 0x3F) <<< 6 ||| (d &&& 0x3F) =
      a % 8 * 262144 + b % 64 * 4096 + c % 64 * 64 + d % 64 := by
  have ha : a &&& 0x07 = a % 8 := Nat.and_two_pow_sub_one_eq_mod a 3
  rw [ha, and_sixBits, and_sixBits, and_sixBits, or_shiftLeft_join _ b 12, or_shiftLeft_join _ c 6,
    or_shiftLeft_six (Nat.mod_lt d (by decide))]
  omega

theorem char_toNat_cases (c : Char) :
    c.toNat < 0xD800 ∨ 0xDFFF < c.toNat ∧ c.toNat < 0x110000 := c.valid

theorem utf8EncodeChar_eq (c : Char) : String.utf8EncodeChar c =
    if c.toNat ≤ 0x7F then [UInt8.ofNat c.toNat]
    else if c.toNat ≤ 0x7FF then
      [UInt8.ofNat (c.toNat / 64 % 32 + 0xC0), UInt8.ofNat (c.toNat % 64 + 0x80)]
    else if c.toNat ≤ 0xFFFF then
      [UInt8.ofNat (c.toNat / 4096 % 16 + 0xE0), UInt8.ofNat (c.toNat / 64 % 64 + 0x80),
        UInt8.ofNat (c.toNat % 64 + 0x80)]
    else
      [UInt8.ofNat (c.toNat / 262144 % 8 + 0xF0), UInt8.ofNat (c.toNat / 4096 % 64 + 0x80),
        UInt8.ofNat (c.toNat / 64 % 64 + 0x80), UInt8.ofNat (c.toNat % 64 + 0x80)] := rfl

variable {n fuel : Nat} {cs : List Char}

theorem toNat_ofNat_byte (h : n < 256) : (UInt8.ofNat n).toNat = n := by
  rw [UInt8.toNat_ofNat', Nat.mod_eq_of_lt h]

section Decode

variable {a b c d : UInt8} {rest : List UInt8}

theorem decodeOne_one (ha : a.toNat ≤ 0x7F) :
    reistUtf8DecodeOne (a :: rest) = some (1, a.toNat) := by
  have hlen : (a :: rest).length ≠ 0 := by simp
  have hplain : ¬ (0xD800 ≤ a.toNat ∧ a.toNat ≤ 0xDFFF) := by omega
  simp only [reistUtf8DecodeOne, hlen, List.getD_cons_zero, ha, hplain, if_false, if_true]

theorem decodeOne_two (ha : 0xC2 ≤ a.toNat ∧ a.toNat ≤ 0xDF) (hb : isContinuation b.toNat = true) :
    reistUtf8DecodeOne (a :: b :: rest) = some (2, a.toNat % 32 * 64 + b.toNat % 64) := by
  have hlen : (a :: b :: rest).length ≠ 0 := by simp
  have hshort : ¬ (a :: b :: rest).length < 2 := by simp
  have hlow : ¬ a.toNat ≤ 0x7F := by omega
  have hplain : ¬ (0xD800 ≤ a.toNat % 32 * 64 + b.toNat % 64 ∧
      a.toNat % 32 * 64 + b.toNat % 64 ≤ 0xDFFF) := by omega
  simp only [reistUtf8DecodeOne, hlen, hshort, List.getD_cons_zero, List.getD_cons_succ, hlow, ha,
    hb, scalar_two, hplain, if_false, if_true, and_self, not_true, or_self]

theorem decodeOne_three (ha : 0xE0 ≤ a.toNat ∧ a.toNat ≤ 0xEF)
    (hb : isContinuation b.toNat = true) (hc : isContinuation c.toNat = true)
    (hlong : ¬ (a.toNat = 0xE0 ∧ b.toNat < 0xA0)) (hsurrogate : ¬ (a.toNat = 0xED ∧ 0xA0 ≤ b.toNat)) :
    reistUtf8DecodeOne (a :: b :: c :: rest) =
      some (3, a.toNat % 16 * 4096 + b.toNat % 64 * 64 + c.toNat % 64) := by
  have hlen : (a :: b :: c :: rest).length ≠ 0 := by simp
  have hshort : ¬ (a :: b :: c :: rest).length < 3 := by simp
  have hlow : ¬ a.toNat ≤ 0x7F := by omega
  have htwo : ¬ (0xC2 ≤ a.toNat ∧ a.toNat ≤ 0xDF) := by omega
  have hrange := (isContinuation_iff b.toNat_lt).mp hb
  have hplain : ¬ (0xD800 ≤ a.toNat % 16 * 4096 + b.toNat % 64 * 64 + c.toNat % 64 ∧
      a.toNat % 16 * 4096 + b.toNat % 64 * 64 + c.toNat % 64 ≤ 0xDFFF) := by omega
  simp only [reistUtf8DecodeOne, hlen, hshort, List.getD_cons_zero, List.getD_cons_succ, hlow, htwo,
    ha, hb, hc, hlong, hsurrogate, scalar_three, hplain, if_false, if_true, and_self, not_true,
    or_self]

theorem decodeOne_four (ha : 0xF0 ≤ a.toNat ∧ a.toNat ≤ 0xF4)
    (hb : isContinuation b.toNat = true) (hc : isContinuation c.toNat = true)
    (hd : isContinuation d.toNat = true)
    (hlong : ¬ (a.toNat = 0xF0 ∧ b.toNat < 0x90)) (hlarge : ¬ (a.toNat = 0xF4 ∧ 0x8F < b.toNat)) :
    reistUtf8DecodeOne (a :: b :: c :: d :: rest) =
      some (4, a.toNat % 8 * 262144 + b.toNat % 64 * 4096 + c.toNat % 64 * 64 + d.toNat % 64) := by
  have hlen : (a :: b :: c :: d :: rest).length ≠ 0 := by simp
  have hshort : ¬ (a :: b :: c :: d :: rest).length < 4 := by simp
  have hlow : ¬ a.toNat ≤ 0x7F := by omega
  have htwo : ¬ (0xC2 ≤ a.toNat ∧ a.toNat ≤ 0xDF) := by omega
  have hthree : ¬ (0xE0 ≤ a.toNat ∧ a.toNat ≤ 0xEF) := by omega
  have hrange := (isContinuation_iff b.toNat_lt).mp hb
  have hplain : ¬ (0xD800 ≤ a.toNat % 8 * 262144 + b.toNat % 64 * 4096 + c.toNat % 64 * 64 +
      d.toNat % 64 ∧ a.toNat % 8 * 262144 + b.toNat % 64 * 4096 + c.toNat % 64 * 64 +
      d.toNat % 64 ≤ 0xDFFF) := by omega
  simp only [reistUtf8DecodeOne, hlen, hshort, List.getD_cons_zero, List.getD_cons_succ, hlow, htwo,
    hthree, ha, hb, hc, hd, hlong, hlarge, scalar_four, hplain, if_false, if_true, and_self,
    not_true, or_self]

/-- What the decoder accepts, by the number of bytes. -/
theorem decodeOne_cases {input : List UInt8} {k v : Nat}
    (h : reistUtf8DecodeOne input = some (k, v)) :
    (∃ a rest, input = a :: rest ∧ a.toNat ≤ 0x7F) ∨
    (∃ a b rest, input = a :: b :: rest ∧ (0xC2 ≤ a.toNat ∧ a.toNat ≤ 0xDF) ∧
      isContinuation b.toNat = true) ∨
    (∃ a b c rest, input = a :: b :: c :: rest ∧ (0xE0 ≤ a.toNat ∧ a.toNat ≤ 0xEF) ∧
      isContinuation b.toNat = true ∧ isContinuation c.toNat = true ∧
      ¬ (a.toNat = 0xE0 ∧ b.toNat < 0xA0) ∧ ¬ (a.toNat = 0xED ∧ 0xA0 ≤ b.toNat)) ∨
    ∃ a b c d rest, input = a :: b :: c :: d :: rest ∧ (0xF0 ≤ a.toNat ∧ a.toNat ≤ 0xF4) ∧
      isContinuation b.toNat = true ∧ isContinuation c.toNat = true ∧
      isContinuation d.toNat = true ∧
      ¬ (a.toNat = 0xF0 ∧ b.toNat < 0x90) ∧ ¬ (a.toNat = 0xF4 ∧ 0x8F < b.toNat) := by
  unfold reistUtf8DecodeOne at h
  cases input with
  | nil => simp at h
  | cons a rest =>
    simp only [List.length_cons, Nat.succ_ne_zero, if_false, List.getD_cons_zero,
      List.getD_cons_succ] at h
    split at h
    next ha => exact .inl ⟨a, rest, rfl, ha⟩
    next =>
      split at h
      next ha =>
        split at h
        next => simp at h
        next hok =>
          obtain ⟨hlen, hb⟩ := not_or.mp hok
          cases rest with
          | nil => simp at hlen
          | cons b rest => exact .inr (.inl ⟨a, b, rest, rfl, ha, by simpa using hb⟩)
      next =>
        split at h
        next ha =>
          split at h
          next => simp at h
          next hok =>
            simp only [not_or, Bool.not_eq_true, Bool.not_eq_false] at hok
            obtain ⟨hlen, hb, hc, hlong, hsurrogate⟩ := hok
            rcases rest with - | ⟨b, - | ⟨c, rest⟩⟩
            · simp at hlen
            · simp at hlen
            · exact .inr (.inr (.inl ⟨a, b, c, rest, rfl, ha, hb, hc, hlong, hsurrogate⟩))
        next =>
          split at h
          next ha =>
            split at h
            next => simp at h
            next hok =>
              simp only [not_or, Bool.not_eq_true, Bool.not_eq_false] at hok
              obtain ⟨hlen, hb, hc, hd, hlong, hlarge⟩ := hok
              rcases rest with - | ⟨b, - | ⟨c, - | ⟨d, rest⟩⟩⟩
              · simp at hlen
              · simp at hlen
              · simp at hlen
              · exact .inr (.inr (.inr ⟨a, b, c, d, rest, rfl, ha, hb, hc, hd, hlong, hlarge⟩))
          next => simp at h

end Decode

/-- The first character of a text is decoded, whatever follows it. -/
theorem decodeOne_encode (c : Char) (rest : List UInt8) :
    reistUtf8DecodeOne (String.utf8EncodeChar c ++ rest) = some (c.utf8Size, c.toNat) := by
  have hvalid := char_toNat_cases c
  have hsize : (String.utf8EncodeChar c).length = c.utf8Size := String.length_utf8EncodeChar c
  have continuation : ∀ n, isContinuation (UInt8.ofNat (n % 64 + 0x80)).toNat = true := by
    intro n
    rw [isContinuation_iff (UInt8.toNat_lt _), toNat_ofNat_byte (by omega)]
    omega
  rw [← hsize, utf8EncodeChar_eq]
  split
  next h1 =>
    have h0 : (UInt8.ofNat c.toNat).toNat = c.toNat := toNat_ofNat_byte (by omega)
    rw [List.singleton_append, decodeOne_one (by omega), h0]
    rfl
  next h1 =>
    have htail : (UInt8.ofNat (c.toNat % 64 + 0x80)).toNat = c.toNat % 64 + 0x80 :=
      toNat_ofNat_byte (by omega)
    split
    next h2 =>
      have h0 : (UInt8.ofNat (c.toNat / 64 % 32 + 0xC0)).toNat = c.toNat / 64 % 32 + 0xC0 :=
        toNat_ofNat_byte (by omega)
      have hvalue : (c.toNat / 64 % 32 + 0xC0) % 32 * 64 + (c.toNat % 64 + 0x80) % 64 =
          c.toNat := by omega
      rw [List.cons_append, List.singleton_append, decodeOne_two (by omega) (continuation _),
        h0, htail, hvalue]
      rfl
    next h2 =>
      have hmiddle : (UInt8.ofNat (c.toNat / 64 % 64 + 0x80)).toNat = c.toNat / 64 % 64 + 0x80 :=
        toNat_ofNat_byte (by omega)
      split
      next h3 =>
        have h0 : (UInt8.ofNat (c.toNat / 4096 % 16 + 0xE0)).toNat = c.toNat / 4096 % 16 + 0xE0 :=
          toNat_ofNat_byte (by omega)
        have hvalue : (c.toNat / 4096 % 16 + 0xE0) % 16 * 4096 +
            (c.toNat / 64 % 64 + 0x80) % 64 * 64 + (c.toNat % 64 + 0x80) % 64 = c.toNat := by
          omega
        rw [List.cons_append, List.cons_append, List.singleton_append,
          decodeOne_three (by omega) (continuation _) (continuation _) (by omega) (by omega),
          h0, hmiddle, htail, hvalue]
        rfl
      next h3 =>
        have h0 : (UInt8.ofNat (c.toNat / 262144 % 8 + 0xF0)).toNat =
            c.toNat / 262144 % 8 + 0xF0 := toNat_ofNat_byte (by omega)
        have h1' : (UInt8.ofNat (c.toNat / 4096 % 64 + 0x80)).toNat =
            c.toNat / 4096 % 64 + 0x80 := toNat_ofNat_byte (by omega)
        have hvalue : (c.toNat / 262144 % 8 + 0xF0) % 8 * 262144 +
            (c.toNat / 4096 % 64 + 0x80) % 64 * 4096 +
            (c.toNat / 64 % 64 + 0x80) % 64 * 64 + (c.toNat % 64 + 0x80) % 64 = c.toNat := by
          omega
        rw [List.cons_append, List.cons_append, List.cons_append, List.singleton_append,
          decodeOne_four (by omega) (continuation _) (continuation _) (continuation _) (by omega)
            (by omega), h0, h1', hmiddle, htail, hvalue]
        rfl

theorem char_ofNat_toNat (h : n < 0xD800 ∨ 0xDFFF < n ∧ n < 0x110000) :
    (Char.ofNat n).toNat = n := by
  have hvalid : n.isValidChar := h
  rw [Char.ofNat, dif_pos hvalid]
  rfl

theorem ofNat_toNat_byte {b : UInt8} (h : b.toNat = n) : UInt8.ofNat n = b := by
  rw [← h, UInt8.ofNat_toNat]

variable {input : List UInt8}

/-- What is decoded is a character, and the text starts with its encoding. -/
theorem decodeOne_some {k v : Nat} (h : reistUtf8DecodeOne input = some (k, v)) :
    ∃ c rest, input = String.utf8EncodeChar c ++ rest ∧ k = c.utf8Size ∧ v = c.toNat := by
  have hstart : ∃ c rest, input = String.utf8EncodeChar c ++ rest := by
    rcases decodeOne_cases h with ⟨a, rest, rfl, ha⟩ | ⟨a, b, rest, rfl, ha, hb⟩ |
      ⟨a, b, c, rest, rfl, ha, hb, hc, hlong, hsurrogate⟩ |
      ⟨a, b, c, d, rest, rfl, ha, hb, hc, hd, hlong, hlarge⟩
    · have hn : (Char.ofNat a.toNat).toNat = a.toNat := char_ofNat_toNat (by omega)
      refine ⟨Char.ofNat a.toNat, rest, ?_⟩
      rw [utf8EncodeChar_eq, hn, if_pos ha, ofNat_toNat_byte rfl]
      rfl
    · have hbr := (isContinuation_iff b.toNat_lt).mp hb
      obtain ⟨n, hvalue⟩ : ∃ n, n = a.toNat % 32 * 64 + b.toNat % 64 := ⟨_, rfl⟩
      have hn : (Char.ofNat n).toNat = n := char_ofNat_toNat (by omega)
      refine ⟨Char.ofNat n, rest, ?_⟩
      rw [utf8EncodeChar_eq, hn, if_neg (by omega), if_pos (by omega),
        ofNat_toNat_byte (b := a) (by omega), ofNat_toNat_byte (b := b) (by omega)]
      rfl
    · have hbr := (isContinuation_iff b.toNat_lt).mp hb
      have hcr := (isContinuation_iff c.toNat_lt).mp hc
      obtain ⟨n, hvalue⟩ : ∃ n, n = a.toNat % 16 * 4096 + b.toNat % 64 * 64 + c.toNat % 64 :=
        ⟨_, rfl⟩
      have hn : (Char.ofNat n).toNat = n := char_ofNat_toNat (by omega)
      refine ⟨Char.ofNat n, rest, ?_⟩
      rw [utf8EncodeChar_eq, hn, if_neg (by omega), if_neg (by omega), if_pos (by omega),
        ofNat_toNat_byte (b := a) (by omega), ofNat_toNat_byte (b := b) (by omega),
        ofNat_toNat_byte (b := c) (by omega)]
      rfl
    · have hbr := (isContinuation_iff b.toNat_lt).mp hb
      have hcr := (isContinuation_iff c.toNat_lt).mp hc
      have hdr := (isContinuation_iff d.toNat_lt).mp hd
      obtain ⟨n, hvalue⟩ : ∃ n, n = a.toNat % 8 * 262144 + b.toNat % 64 * 4096 +
        c.toNat % 64 * 64 + d.toNat % 64 := ⟨_, rfl⟩
      have hn : (Char.ofNat n).toNat = n := char_ofNat_toNat (by omega)
      refine ⟨Char.ofNat n, rest, ?_⟩
      rw [utf8EncodeChar_eq, hn, if_neg (by omega), if_neg (by omega), if_neg (by omega),
        ofNat_toNat_byte (b := a) (by omega), ofNat_toNat_byte (b := b) (by omega),
        ofNat_toNat_byte (b := c) (by omega), ofNat_toNat_byte (b := d) (by omega)]
      rfl
  obtain ⟨c, rest, hinput⟩ := hstart
  rw [hinput, decodeOne_encode] at h
  obtain ⟨rfl, rfl⟩ := Prod.mk.inj (Option.some.inj h)
  exact ⟨c, rest, hinput, rfl, rfl⟩

theorem encodeText_cons (c : Char) (cs : List Char) :
    encodeText (c :: cs) = String.utf8EncodeChar c ++ encodeText cs := List.flatMap_cons

theorem encodeText_append (cs ds : List Char) :
    encodeText (cs ++ ds) = encodeText cs ++ encodeText ds := List.flatMap_append

theorem encodeText_singleton (c : Char) : encodeText [c] = String.utf8EncodeChar c := by
  rw [encodeText_cons]
  exact List.append_nil _

theorem encodeChar_cons (c : Char) : ∃ b bs, String.utf8EncodeChar c = b :: bs := by
  cases hb : String.utf8EncodeChar c with
  | nil =>
    have hlen := String.length_utf8EncodeChar c
    have hpos := c.utf8Size_pos
    rw [hb, List.length_nil] at hlen
    omega
  | cons b bs => exact ⟨b, bs, rfl⟩

theorem drop_encodeChar (c : Char) (rest : List UInt8) :
    (String.utf8EncodeChar c ++ rest).drop c.utf8Size = rest := by
  rw [← String.length_utf8EncodeChar c, List.drop_left]

/-- What the loops over a text find at its first character. -/
theorem encodeText_head (c : Char) (cs : List Char) : ∃ b bs,
    String.utf8EncodeChar c = b :: bs ∧ encodeText (c :: cs) = b :: (bs ++ encodeText cs) ∧
      reistUtf8DecodeOne (b :: (bs ++ encodeText cs)) = some (c.utf8Size, c.toNat) ∧
      (b :: (bs ++ encodeText cs)).drop c.utf8Size = encodeText cs := by
  obtain ⟨b, bs, hb⟩ := encodeChar_cons c
  have htext : encodeText (c :: cs) = b :: (bs ++ encodeText cs) := by
    rw [encodeText_cons, hb, List.cons_append]
  refine ⟨b, bs, hb, htext, ?_, ?_⟩
  · rw [← htext, encodeText_cons]
    exact decodeOne_encode c _
  · rw [← htext, encodeText_cons, drop_encodeChar]

theorem utf8ScanFrom_encode {count : Nat} (h : cs.length ≤ fuel) :
    utf8ScanFrom fuel (encodeText cs) count = some (count + cs.length) := by
  induction cs generalizing fuel count with
  | nil => cases fuel <;> rfl
  | cons c cs ih =>
    obtain ⟨b, bs, -, htext, hone, hdrop⟩ := encodeText_head c cs
    obtain ⟨fuel, rfl⟩ : ∃ n, fuel = n + 1 := ⟨fuel - 1, by simp at h; omega⟩
    have hfuel : cs.length ≤ fuel := by simpa using h
    rw [htext, utf8ScanFrom, hone]
    dsimp only
    rw [hdrop, ih hfuel, List.length_cons]
    congr 1
    omega

theorem length_le_encodeText (cs : List Char) : cs.length ≤ (encodeText cs).length := by
  induction cs with
  | nil => exact Nat.le_refl 0
  | cons c cs ih =>
    have hpos := c.utf8Size_pos
    rw [encodeText_cons, List.length_append, String.length_utf8EncodeChar, List.length_cons]
    omega

/-- The scan counts the characters. -/
theorem reistUtf8Scan_encode (cs : List Char) : reistUtf8Scan (encodeText cs) = some cs.length := by
  rw [reistUtf8Scan, utf8ScanFrom_encode (length_le_encodeText cs), Nat.zero_add]

theorem decodeFrom_encode (h : cs.length ≤ fuel) :
    decodeFrom fuel (encodeText cs) = some cs := by
  induction cs generalizing fuel with
  | nil => cases fuel <;> rfl
  | cons c cs ih =>
    obtain ⟨b, bs, -, htext, hone, hdrop⟩ := encodeText_head c cs
    obtain ⟨fuel, rfl⟩ : ∃ n, fuel = n + 1 := ⟨fuel - 1, by simp at h; omega⟩
    have hfuel : cs.length ≤ fuel := by simpa using h
    rw [htext, decodeFrom, hone]
    dsimp only
    rw [hdrop, ih hfuel, Option.map_some, Char.ofNat_toNat]

theorem decodeFrom_some (h : decodeFrom fuel input = some cs) : input = encodeText cs := by
  induction fuel generalizing input cs with
  | zero =>
    cases input with
    | nil =>
      obtain rfl : cs = [] := (Option.some.inj h).symm
      rfl
    | cons b input => cases h
  | succ fuel ih =>
    cases input with
    | nil =>
      obtain rfl : cs = [] := (Option.some.inj h).symm
      rfl
    | cons b input =>
      rw [decodeFrom] at h
      split at h
      next => cases h
      next consumed scalar hone =>
        obtain ⟨c, rest, hinput, rfl, rfl⟩ := decodeOne_some hone
        rw [hinput, drop_encodeChar] at h
        obtain ⟨ds, hds, rfl⟩ := Option.map_eq_some_iff.mp h
        rw [hinput, ih hds, Char.ofNat_toNat, encodeText_cons]

/-- Decoding is the inverse of encoding. -/
theorem decodeText_iff : decodeText input = some cs ↔ input = encodeText cs := by
  constructor
  · exact decodeFrom_some
  · rintro rfl
    exact decodeFrom_encode (length_le_encodeText cs)

end ReistOs
