import Mathlib.Data.List.GetD
import Mathlib.Data.List.TakeWhile
import ReistOs.TextEditorReference

namespace ReistOs

open FixedArray

/-- A line buffer with the text of these characters and its terminator. -/
structure HoldsLine (line : EditorLine) (cs : List Char) : Prop where
  plain : ∀ c ∈ cs, plainChar c = true
  fits : (encodeText cs).length < textEditorLineCapacity
  bytes : Holds Eq line 0 (encodeText cs ++ [0])

variable {c : Char} {b : UInt8} {cs : List Char}

theorem plainChar_le (h : plainChar c = true) : 0x20 ≤ c.toNat := by
  simp only [plainChar, scalarPrintable, Bool.and_eq_true, decide_eq_true_eq] at h
  exact h.1

theorem encodeChar_bytes (h : plainChar c = true) (hb : b ∈ String.utf8EncodeChar c) :
    0x20 ≤ b.toNat := by
  have hle := plainChar_le h
  have hvalid := char_toNat_cases c
  have hbyte : ∀ n, n < 256 → 0x20 ≤ n → 0x20 ≤ (UInt8.ofNat n).toNat := by
    intro n hn hl
    rw [toNat_ofNat_byte hn]
    exact hl
  rw [utf8EncodeChar_eq] at hb
  split at hb
  next =>
    obtain rfl := List.mem_singleton.mp hb
    exact hbyte _ (by omega) hle
  next =>
    split at hb
    next =>
      simp only [List.mem_cons, List.not_mem_nil, or_false] at hb
      rcases hb with rfl | rfl
      · exact hbyte _ (by omega) (by omega)
      · exact hbyte _ (by omega) (by omega)
    next =>
      split at hb
      next =>
        simp only [List.mem_cons, List.not_mem_nil, or_false] at hb
        rcases hb with rfl | rfl | rfl
        · exact hbyte _ (by omega) (by omega)
        · exact hbyte _ (by omega) (by omega)
        · exact hbyte _ (by omega) (by omega)
      next =>
        simp only [List.mem_cons, List.not_mem_nil, or_false] at hb
        rcases hb with rfl | rfl | rfl | rfl
        · exact hbyte _ (by omega) (by omega)
        · exact hbyte _ (by omega) (by omega)
        · exact hbyte _ (by omega) (by omega)
        · exact hbyte _ (by omega) (by omega)

theorem encodeText_bytes (h : ∀ c ∈ cs, plainChar c = true) (hb : b ∈ encodeText cs) :
    0x20 ≤ b.toNat := by
  obtain ⟨c, hc, hbc⟩ := List.mem_flatMap.mp hb
  exact encodeChar_bytes (h c hc) hbc

theorem encodeText_nonzero (h : ∀ c ∈ cs, plainChar c = true) :
    (0 : UInt8) ∉ encodeText cs := by
  intro hb
  have hle := encodeText_bytes h hb
  simp at hle

theorem take_of_holds {n : Nat} {v : Vector UInt8 n} {o : Nat} {xs : List UInt8}
    (h : Holds Eq v o xs) (hn : o + xs.length ≤ n) :
    (v.toList.drop o).take xs.length = xs := by
  apply List.ext_getElem
  · simp
    omega
  · intro i hi hx
    have hcell := h i xs[i] (List.getElem?_eq_getElem hx)
    have hlt : o + i < n := by omega
    rw [cell, Vector.getElem?_eq_getElem hlt, Option.getD_some] at hcell
    rw [List.getElem_take, List.getElem_drop, Vector.getElem_toList, hcell]

variable {line next : EditorLine} {cs a b : List Char} {c : Char}

theorem HoldsLine.toList (h : HoldsLine line cs) :
    ∃ rest, line.toList = encodeText cs ++ 0 :: rest := by
  have hfits := h.fits
  have htake := take_of_holds h.bytes (by simp; omega)
  rw [List.drop_zero] at htake
  refine ⟨line.toList.drop ((encodeText cs).length + 1), ?_⟩
  conv_lhs => rw [← List.take_append_drop ((encodeText cs ++ [0]).length) line.toList, htake]
  simp

theorem HoldsLine.length (h : HoldsLine line cs) : lineLength line = (encodeText cs).length := by
  obtain ⟨rest, hlist⟩ := h.toList
  rw [lineLength, hlist, List.idxOf_append_of_notMem (encodeText_nonzero h.plain),
    List.idxOf_cons_self, Nat.add_zero]

theorem HoldsLine.lineBytes (h : HoldsLine line cs) : lineBytes line = encodeText cs := by
  obtain ⟨rest, hlist⟩ := h.toList
  rw [ReistOs.lineBytes, h.length, hlist, List.take_left]

theorem HoldsLine.scalarCount (h : HoldsLine line cs) : lineScalarCount line = cs.length := by
  rw [lineScalarCount, h.lineBytes, reistUtf8Scan_encode, Option.getD_some]

theorem HoldsLine.scalarCount_lt (h : HoldsLine line cs) : cs.length < textEditorLineCapacity :=
  (length_le_encodeText cs).trans_lt h.fits

theorem byteOffsetFrom_encode (done a rest : List Char) {fuel : Nat} (hfuel : a.length ≤ fuel) :
    byteOffsetFrom (encodeText (done ++ a ++ rest)) (done.length + a.length) fuel
      (encodeText done).length done.length = (encodeText (done ++ a)).length := by
  induction a generalizing done fuel with
  | nil =>
    have hstop : ¬ ((encodeText done).length < (encodeText (done ++ [] ++ rest)).length ∧
        done.length < done.length + ([] : List Char).length) := by simp
    have heq : done.length = done.length + ([] : List Char).length := by simp
    cases fuel with
    | zero => rw [byteOffsetFrom, if_pos heq, List.append_nil]
    | succ fuel => rw [byteOffsetFrom, if_neg hstop, if_pos heq, List.append_nil]
  | cons c a ih =>
    obtain ⟨fuel, rfl⟩ : ∃ n, fuel = n + 1 := ⟨fuel - 1, by simp at hfuel; omega⟩
    have hpos := c.utf8Size_pos
    have htext : encodeText (done ++ (c :: a) ++ rest) =
        encodeText done ++ (String.utf8EncodeChar c ++ encodeText (a ++ rest)) := by
      rw [List.append_assoc, encodeText_append, List.cons_append, encodeText_cons]
    have hmore : (encodeText done).length < (encodeText (done ++ (c :: a) ++ rest)).length ∧
        done.length < done.length + (c :: a).length := by
      rw [htext]
      simp
      omega
    have hlen : (encodeText (done ++ [c])).length = (encodeText done).length + c.utf8Size := by
      rw [encodeText_append, encodeText_singleton, List.length_append,
        String.length_utf8EncodeChar]
    have hrest : a.length ≤ fuel := by simpa using hfuel
    have hstep := ih (done ++ [c]) hrest
    rw [List.append_assoc done [c] a, List.singleton_append, List.length_append,
      List.length_singleton, hlen] at hstep
    rw [byteOffsetFrom, if_pos hmore, htext, List.drop_left, decodeOne_encode]
    rw [← htext, List.length_cons, Nat.add_comm a.length 1, ← Nat.add_assoc]
    exact hstep

theorem HoldsLine.byteOffset (h : HoldsLine line (a ++ b)) :
    lineByteOffset line a.length = (encodeText a).length := by
  have hfuel : a.length ≤ (encodeText (a ++ b)).length := by
    have hle := length_le_encodeText (a ++ b)
    rw [List.length_append] at hle
    omega
  have hloop := byteOffsetFrom_encode [] a b hfuel
  rw [lineByteOffset, h.lineBytes, h.length]
  simpa [encodeText] using hloop

theorem printableColumns_encode {fuel n : Nat} (hplain : ∀ c ∈ cs, plainChar c = true)
    (hfuel : cs.length ≤ fuel) : printableColumns fuel (encodeText cs) n = some (n + cs.length) := by
  induction cs generalizing fuel n with
  | nil => cases fuel <;> rfl
  | cons c cs ih =>
    obtain ⟨b, bs, -, htext, hone, hdrop⟩ := encodeText_head c cs
    obtain ⟨fuel, rfl⟩ : ∃ n, fuel = n + 1 := ⟨fuel - 1, by simp at hfuel; omega⟩
    have hprint : scalarPrintable c.toNat = true := hplain c List.mem_cons_self
    have hrest : ∀ d ∈ cs, plainChar d = true := fun d hd => hplain d (List.mem_cons_of_mem c hd)
    rw [htext, printableColumns, hone]
    dsimp only
    rw [if_pos hprint, hdrop, ih hrest (by simpa using hfuel), List.length_cons]
    congr 1
    omega

theorem HoldsLine.columns (h : HoldsLine line cs) :
    printableColumns (lineLength line) (ReistOs.lineBytes line) 0 = some cs.length := by
  rw [h.length, h.lineBytes, printableColumns_encode h.plain (length_le_encodeText cs),
    Nat.zero_add]

theorem holdsLine_copyLine {source rest : List UInt8} (hplain : ∀ c ∈ cs, plainChar c = true)
    (hfits : (encodeText cs).length < textEditorLineCapacity)
    (hsource : source = encodeText cs ++ 0 :: rest) : HoldsLine (copyLine source) cs := by
  have htake : (source.take (textEditorLineCapacity - 1)).takeWhile (· != 0) = encodeText cs := by
    have hzero : ∀ b ∈ encodeText cs, (b != 0) = true := by
      intro b hb
      simpa using fun e : b = 0 => encodeText_nonzero hplain (e ▸ hb)
    by_cases hlast : (encodeText cs).length = textEditorLineCapacity - 1
    · rw [hsource, ← hlast, List.take_left, List.takeWhile_eq_self_iff.mpr hzero]
    · obtain ⟨k, hk⟩ : ∃ k, textEditorLineCapacity - 1 = (encodeText cs).length + (k + 1) :=
        ⟨textEditorLineCapacity - 1 - (encodeText cs).length - 1, by omega⟩
      rw [hsource, hk, List.take_length_add_append, List.take_succ_cons,
        List.takeWhile_append_of_pos hzero]
      simp
  refine ⟨hplain, hfits, ?_⟩
  intro i y hy
  obtain ⟨hi, rfl⟩ := List.getElem?_eq_some_iff.mp hy
  rw [List.length_append, List.length_singleton] at hi
  have hlt : i < textEditorLineCapacity := by omega
  rw [Nat.zero_add, cell, copyLine, htake, Vector.getElem?_eq_getElem hlt, Vector.getElem_ofFn,
    Option.getD_some]
  by_cases hin : i < (encodeText cs).length
  · rw [List.getElem_append_left hin, List.getD_eq_getElem _ _ hin]
  · have hend : i = (encodeText cs).length := by omega
    subst hend
    simp

theorem HoldsLine.copied (h : HoldsLine line cs) : HoldsLine (copyLine line.toList) cs := by
  obtain ⟨rest, hlist⟩ := h.toList
  exact holdsLine_copyLine h.plain h.fits hlist

theorem HoldsLine.copied_tail (h : HoldsLine line (a ++ b)) :
    HoldsLine (copyLine (line.toList.drop (encodeText a).length)) b := by
  obtain ⟨rest, hlist⟩ := h.toList
  have hfits := h.fits
  rw [encodeText_append, List.length_append] at hfits
  have htail : line.toList.drop (encodeText a).length = encodeText b ++ 0 :: rest := by
    rw [hlist, encodeText_append, List.append_assoc, List.drop_left]
  exact holdsLine_copyLine (fun c hc => h.plain c (List.mem_append_right a hc)) (by omega) htail

theorem HoldsLine.cut (h : HoldsLine line (a ++ b)) :
    HoldsLine (setCell line (encodeText a).length 0) a := by
  have hfits := h.fits
  rw [encodeText_append, List.length_append] at hfits
  have hbytes := h.bytes
  rw [encodeText_append, List.append_assoc, holds_append] at hbytes
  refine ⟨fun c hc => h.plain c (List.mem_append_left b hc), by omega, ?_⟩
  rw [holds_append]
  refine ⟨hbytes.1.setCell_outside (.inr (by omega)), holds_cons.mpr ⟨?_, Holds.nil⟩⟩
  rw [Nat.zero_add]
  exact cell_setCell_self (by omega)

theorem holdsLine_clear : HoldsLine clearLine [] := by
  refine ⟨by simp, by decide, holds_cons.mpr ⟨?_, Holds.nil⟩⟩
  simp [cell, clearLine]

theorem or_of_lt {lo k n : Nat} (hi : Nat) (hn : n = 2 ^ k * hi) (h : lo < 2 ^ k) : n ||| lo = lo + n := by
  rw [hn, ← Nat.two_pow_add_eq_or_of_lt h, Nat.add_comm]

theorem encodeScalar_plain (h : plainChar c = true) :
    encodeScalar c.toNat = String.utf8EncodeChar c := by
  have hvalid := char_toNat_cases c
  have hprint : scalarPrintable c.toNat = true := h
  have hno : ¬ (¬ scalarPrintable c.toNat = true ∨ 0x10FFFF < c.toNat ∨
      (0xD800 ≤ c.toNat ∧ c.toNat ≤ 0xDFFF)) := by
    rw [hprint]
    simp only [not_true, false_or]
    omega
  have htail : ∀ n : Nat, 0x80 ||| (n &&& 0x3F) = n % 64 + 0x80 := by
    intro n
    have hlow : n &&& 0x3F = n % 64 := Nat.and_two_pow_sub_one_eq_mod n 6
    have hlt : n % 64 < 2 ^ 6 := Nat.mod_lt n (by decide)
    rw [hlow, or_of_lt (n := 0x80) 2 rfl hlt]
  rw [encodeScalar, if_neg hno, utf8EncodeChar_eq]
  split
  next => rfl
  next h1 =>
    split
    next h2 =>
      have h0 : 0xC0 ||| c.toNat >>> 6 = c.toNat / 64 % 32 + 0xC0 := by
        have hlt : c.toNat / 64 < 2 ^ 5 := by omega
        rw [Nat.shiftRight_eq_div_pow, or_of_lt (n := 0xC0) 6 rfl hlt]
        omega
      rw [h0, htail]
    next h2 =>
      have h6 : c.toNat >>> 6 = c.toNat / 64 := Nat.shiftRight_eq_div_pow _ _
      have h12 : c.toNat >>> 12 = c.toNat / 4096 := Nat.shiftRight_eq_div_pow _ _
      split
      next h3 =>
        have h0 : 0xE0 ||| c.toNat / 4096 = c.toNat / 4096 % 16 + 0xE0 := by
          have hlt : c.toNat / 4096 < 2 ^ 4 := by omega
          rw [or_of_lt (n := 0xE0) 14 rfl hlt]
          omega
        rw [h6, h12, h0, htail, htail]
      next h3 =>
        have h18 : c.toNat >>> 18 = c.toNat / 262144 := Nat.shiftRight_eq_div_pow _ _
        have h0 : 0xF0 ||| c.toNat / 262144 = c.toNat / 262144 % 8 + 0xF0 := by
          have hlt : c.toNat / 262144 < 2 ^ 3 := by omega
          rw [or_of_lt (n := 0xF0) 30 rfl hlt]
          omega
        rw [h6, h12, h18, h0, htail, htail, htail]

theorem HoldsLine.inserted (h : HoldsLine line (a ++ b)) (hc : plainChar c = true)
    (hfits : (encodeText (a ++ c :: b)).length < textEditorLineCapacity) :
    HoldsLine (putCells (String.utf8EncodeChar c) (encodeText a).length
      (shiftUp id (String.utf8EncodeChar c).length (encodeText a).length
        ((encodeText (a ++ b)).length + 1) line)) (a ++ c :: b) := by
  have hpos : 0 < (String.utf8EncodeChar c).length := by
    rw [String.length_utf8EncodeChar]
    exact c.utf8Size_pos
  have hbytes := h.bytes
  rw [encodeText_append, List.append_assoc, holds_append, Nat.zero_add] at hbytes
  obtain ⟨hleft, hright⟩ := hbytes
  have hroom := hfits
  rw [encodeText_append, encodeText_cons, List.length_append, List.length_append] at hroom
  have hlength : (encodeText (a ++ b)).length = (encodeText a).length + (encodeText b).length := by
    rw [encodeText_append, List.length_append]
  obtain ⟨moved, hmoved⟩ : ∃ m, m = shiftUp id (String.utf8EncodeChar c).length
    (encodeText a).length ((encodeText (a ++ b)).length + 1) line := ⟨_, rfl⟩
  have hmovedLeft : Holds Eq moved 0 (encodeText a) := by
    rw [hmoved]
    exact hleft.shiftUp_below hpos (by omega)
  have hmovedRight : Holds Eq moved ((encodeText a).length + (String.utf8EncodeChar c).length)
      (encodeText b ++ [0]) := by
    rw [hmoved]
    exact hright.shiftUp hpos (fun _ _ e => e) le_rfl (by simp; omega) (by omega)
  have hplain : ∀ d ∈ a ++ c :: b, plainChar d = true := by
    intro d hd
    rcases List.mem_append.mp hd with hd | hd
    · exact h.plain d (List.mem_append_left b hd)
    · rcases List.mem_cons.mp hd with rfl | hd
      · exact hc
      · exact h.plain d (List.mem_append_right a hd)
  rw [← hmoved]
  refine ⟨hplain, hfits, ?_⟩
  rw [encodeText_append, encodeText_cons, List.append_assoc, List.append_assoc, holds_append,
    holds_append, Nat.zero_add]
  exact ⟨hmovedLeft.putCells_outside (.inl (by omega)), holds_putCells (by omega) moved,
    hmovedRight.putCells_outside (.inr (by omega))⟩

theorem HoldsLine.deleted (h : HoldsLine line (a ++ c :: b)) :
    HoldsLine (shiftDown id c.utf8Size
      ((encodeText (a ++ c :: b)).length + 1 - c.utf8Size - (encodeText a).length)
      (encodeText a).length line) (a ++ b) := by
  have hpos := c.utf8Size_pos
  have hfits := h.fits
  rw [encodeText_append, encodeText_cons, List.length_append, List.length_append,
    String.length_utf8EncodeChar] at hfits
  have hlength : (encodeText (a ++ c :: b)).length =
      (encodeText a).length + (c.utf8Size + (encodeText b).length) := by
    rw [encodeText_append, encodeText_cons, List.length_append, List.length_append,
      String.length_utf8EncodeChar]
  have hbytes := h.bytes
  rw [encodeText_append, encodeText_cons, List.append_assoc, List.append_assoc, holds_append,
    holds_append, Nat.zero_add, String.length_utf8EncodeChar] at hbytes
  obtain ⟨hleft, -, hright⟩ := hbytes
  have hplain : ∀ d ∈ a ++ b, plainChar d = true := by
    intro d hd
    rcases List.mem_append.mp hd with hd | hd
    · exact h.plain d (List.mem_append_left _ hd)
    · exact h.plain d (List.mem_append_right a (List.mem_cons_of_mem c hd))
  refine ⟨hplain, by rw [encodeText_append, List.length_append]; omega, ?_⟩
  rw [encodeText_append a b, List.append_assoc, holds_append, Nat.zero_add]
  refine ⟨hleft.shiftDown_below hpos (by omega), ?_⟩
  exact hright.shiftDown hpos (fun _ _ e => e) le_rfl (by simp; omega) (by omega)

theorem HoldsLine.joined (h : HoldsLine line a) (hnext : HoldsLine next b)
    (hfits : (encodeText a).length + (encodeText b).length < textEditorLineCapacity) :
    HoldsLine (putCells (next.toList.take ((encodeText b).length + 1)) (encodeText a).length line)
      (a ++ b) := by
  have hnextFits := hnext.fits
  have htake := take_of_holds hnext.bytes (by simp; omega)
  rw [List.drop_zero, List.length_append, List.length_singleton] at htake
  have hbytes := h.bytes
  rw [holds_append] at hbytes
  have hplain : ∀ d ∈ a ++ b, plainChar d = true := by
    intro d hd
    rcases List.mem_append.mp hd with hd | hd
    · exact h.plain d hd
    · exact hnext.plain d hd
  refine ⟨hplain, by rw [encodeText_append, List.length_append]; exact hfits, ?_⟩
  rw [encodeText_append, List.append_assoc, holds_append, Nat.zero_add, htake]
  exact ⟨hbytes.1.putCells_outside (.inl (by omega)), holds_putCells (by simp; omega) line⟩

theorem HoldsLine.decode (h : HoldsLine line (a ++ c :: b)) :
    reistUtf8DecodeOne ((ReistOs.lineBytes line).drop (encodeText a).length) =
      some (c.utf8Size, c.toNat) := by
  rw [h.lineBytes, encodeText_append, List.drop_left, encodeText_cons, decodeOne_encode]

end ReistOs
