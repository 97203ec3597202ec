import ReistOs.XorLinear

namespace ReistOs.Critical

open XorLinear

def parityNibble (value : UInt32) : Bool := ((0x6996 >>> value) &&& 1) != 0

def parity32 (value : UInt32) : Bool :=
  let value := value ^^^ (value >>> 16)
  let value := value ^^^ (value >>> 8)
  let value := value ^^^ (value >>> 4)
  parityNibble (value &&& 0xF)

def parity8 (value : UInt8) : Bool := parity32 value.toUInt32

def parityPosition (position : Nat) : Bool := position != 0 && (position &&& (position - 1)) == 0

def column0 : List UInt8 :=
  [
    0x00, 0x03, 0x05, 0x06, 0x06, 0x05, 0x03, 0x00, 0x07, 0x04, 0x02, 0x01, 0x01, 0x02, 0x04, 0x07,
    0x09, 0x0a, 0x0c, 0x0f, 0x0f, 0x0c, 0x0a, 0x09, 0x0e, 0x0d, 0x0b, 0x08, 0x08, 0x0b, 0x0d, 0x0e,
    0x0a, 0x09, 0x0f, 0x0c, 0x0c, 0x0f, 0x09, 0x0a, 0x0d, 0x0e, 0x08, 0x0b, 0x0b, 0x08, 0x0e, 0x0d,
    0x03, 0x00, 0x06, 0x05, 0x05, 0x06, 0x00, 0x03, 0x04, 0x07, 0x01, 0x02, 0x02, 0x01, 0x07, 0x04,
    0x0b, 0x08, 0x0e, 0x0d, 0x0d, 0x0e, 0x08, 0x0b, 0x0c, 0x0f, 0x09, 0x0a, 0x0a, 0x09, 0x0f, 0x0c,
    0x02, 0x01, 0x07, 0x04, 0x04, 0x07, 0x01, 0x02, 0x05, 0x06, 0x00, 0x03, 0x03, 0x00, 0x06, 0x05,
    0x01, 0x02, 0x04, 0x07, 0x07, 0x04, 0x02, 0x01, 0x06, 0x05, 0x03, 0x00, 0x00, 0x03, 0x05, 0x06,
    0x08, 0x0b, 0x0d, 0x0e, 0x0e, 0x0d, 0x0b, 0x08, 0x0f, 0x0c, 0x0a, 0x09, 0x09, 0x0a, 0x0c, 0x0f,
    0x0c, 0x0f, 0x09, 0x0a, 0x0a, 0x09, 0x0f, 0x0c, 0x0b, 0x08, 0x0e, 0x0d, 0x0d, 0x0e, 0x08, 0x0b,
    0x05, 0x06, 0x00, 0x03, 0x03, 0x00, 0x06, 0x05, 0x02, 0x01, 0x07, 0x04, 0x04, 0x07, 0x01, 0x02,
    0x06, 0x05, 0x03, 0x00, 0x00, 0x03, 0x05, 0x06, 0x01, 0x02, 0x04, 0x07, 0x07, 0x04, 0x02, 0x01,
    0x0f, 0x0c, 0x0a, 0x09, 0x09, 0x0a, 0x0c, 0x0f, 0x08, 0x0b, 0x0d, 0x0e, 0x0e, 0x0d, 0x0b, 0x08,
    0x07, 0x04, 0x02, 0x01, 0x01, 0x02, 0x04, 0x07, 0x00, 0x03, 0x05, 0x06, 0x06, 0x05, 0x03, 0x00,
    0x0e, 0x0d, 0x0b, 0x08, 0x08, 0x0b, 0x0d, 0x0e, 0x09, 0x0a, 0x0c, 0x0f, 0x0f, 0x0c, 0x0a, 0x09,
    0x0d, 0x0e, 0x08, 0x0b, 0x0b, 0x08, 0x0e, 0x0d, 0x0a, 0x09, 0x0f, 0x0c, 0x0c, 0x0f, 0x09, 0x0a,
    0x04, 0x07, 0x01, 0x02, 0x02, 0x01, 0x07, 0x04, 0x03, 0x00, 0x06, 0x05, 0x05, 0x06, 0x00, 0x03
  ]

def column1 : List UInt8 :=
  [
    0x00, 0x0d, 0x0e, 0x03, 0x0f, 0x02, 0x01, 0x0c, 0x11, 0x1c, 0x1f, 0x12, 0x1e, 0x13, 0x10, 0x1d,
    0x12, 0x1f, 0x1c, 0x11, 0x1d, 0x10, 0x13, 0x1e, 0x03, 0x0e, 0x0d, 0x00, 0x0c, 0x01, 0x02, 0x0f,
    0x13, 0x1e, 0x1d, 0x10, 0x1c, 0x11, 0x12, 0x1f, 0x02, 0x0f, 0x0c, 0x01, 0x0d, 0x00, 0x03, 0x0e,
    0x01, 0x0c, 0x0f, 0x02, 0x0e, 0x03, 0x00, 0x0d, 0x10, 0x1d, 0x1e, 0x13, 0x1f, 0x12, 0x11, 0x1c,
    0x14, 0x19, 0x1a, 0x17, 0x1b, 0x16, 0x15, 0x18, 0x05, 0x08, 0x0b, 0x06, 0x0a, 0x07, 0x04, 0x09,
    0x06, 0x0b, 0x08, 0x05, 0x09, 0x04, 0x07, 0x0a, 0x17, 0x1a, 0x19, 0x14, 0x18, 0x15, 0x16, 0x1b,
    0x07, 0x0a, 0x09, 0x04, 0x08, 0x05, 0x06, 0x0b, 0x16, 0x1b, 0x18, 0x15, 0x19, 0x14, 0x17, 0x1a,
    0x15, 0x18, 0x1b, 0x16, 0x1a, 0x17, 0x14, 0x19, 0x04, 0x09, 0x0a, 0x07, 0x0b, 0x06, 0x05, 0x08,
    0x15, 0x18, 0x1b, 0x16, 0x1a, 0x17, 0x14, 0x19, 0x04, 0x09, 0x0a, 0x07, 0x0b, 0x06, 0x05, 0x08,
    0x07, 0x0a, 0x09, 0x04, 0x08, 0x05, 0x06, 0x0b, 0x16, 0x1b, 0x18, 0x15, 0x19, 0x14, 0x17, 0x1a,
    0x06, 0x0b, 0x08, 0x05, 0x09, 0x04, 0x07, 0x0a, 0x17, 0x1a, 0x19, 0x14, 0x18, 0x15, 0x16, 0x1b,
    0x14, 0x19, 0x1a, 0x17, 0x1b, 0x16, 0x15, 0x18, 0x05, 0x08, 0x0b, 0x06, 0x0a, 0x07, 0x04, 0x09,
    0x01, 0x0c, 0x0f, 0x02, 0x0e, 0x03, 0x00, 0x0d, 0x10, 0x1d, 0x1e, 0x13, 0x1f, 0x12, 0x11, 0x1c,
    0x13, 0x1e, 0x1d, 0x10, 0x1c, 0x11, 0x12, 0x1f, 0x02, 0x0f, 0x0c, 0x01, 0x0d, 0x00, 0x03, 0x0e,
    0x12, 0x1f, 0x1c, 0x11, 0x1d, 0x10, 0x13, 0x1e, 0x03, 0x0e, 0x0d, 0x00, 0x0c, 0x01, 0x02, 0x0f,
    0x00, 0x0d, 0x0e, 0x03, 0x0f, 0x02, 0x01, 0x0c, 0x11, 0x1c, 0x1f, 0x12, 0x1e, 0x13, 0x10, 0x1d
  ]

def column2 : List UInt8 :=
  [
    0x00, 0x16, 0x17, 0x01, 0x18, 0x0e, 0x0f, 0x19, 0x19, 0x0f, 0x0e, 0x18, 0x01, 0x17, 0x16, 0x00,
    0x1a, 0x0c, 0x0d, 0x1b, 0x02, 0x14, 0x15, 0x03, 0x03, 0x15, 0x14, 0x02, 0x1b, 0x0d, 0x0c, 0x1a,
    0x1b, 0x0d, 0x0c, 0x1a, 0x03, 0x15, 0x14, 0x02, 0x02, 0x14, 0x15, 0x03, 0x1a, 0x0c, 0x0d, 0x1b,
    0x01, 0x17, 0x16, 0x00, 0x19, 0x0f, 0x0e, 0x18, 0x18, 0x0e, 0x0f, 0x19, 0x00, 0x16, 0x17, 0x01,
    0x1c, 0x0a, 0x0b, 0x1d, 0x04, 0x12, 0x13, 0x05, 0x05, 0x13, 0x12, 0x04, 0x1d, 0x0b, 0x0a, 0x1c,
    0x06, 0x10, 0x11, 0x07, 0x1e, 0x08, 0x09, 0x1f, 0x1f, 0x09, 0x08, 0x1e, 0x07, 0x11, 0x10, 0x06,
    0x07, 0x11, 0x10, 0x06, 0x1f, 0x09, 0x08, 0x1e, 0x1e, 0x08, 0x09, 0x1f, 0x06, 0x10, 0x11, 0x07,
    0x1d, 0x0b, 0x0a, 0x1c, 0x05, 0x13, 0x12, 0x04, 0x04, 0x12, 0x13, 0x05, 0x1c, 0x0a, 0x0b, 0x1d,
    0x1d, 0x0b, 0x0a, 0x1c, 0x05, 0x13, 0x12, 0x04, 0x04, 0x12, 0x13, 0x05, 0x1c, 0x0a, 0x0b, 0x1d,
    0x07, 0x11, 0x10, 0x06, 0x1f, 0x09, 0x08, 0x1e, 0x1e, 0x08, 0x09, 0x1f, 0x06, 0x10, 0x11, 0x07,
    0x06, 0x10, 0x11, 0x07, 0x1e, 0x08, 0x09, 0x1f, 0x1f, 0x09, 0x08, 0x1e, 0x07, 0x11, 0x10, 0x06,
    0x1c, 0x0a, 0x0b, 0x1d, 0x04, 0x12, 0x13, 0x05, 0x05, 0x13, 0x12, 0x04, 0x1d, 0x0b, 0x0a, 0x1c,
    0x01, 0x17, 0x16, 0x00, 0x19, 0x0f, 0x0e, 0x18, 0x18, 0x0e, 0x0f, 0x19, 0x00, 0x16, 0x17, 0x01,
    0x1b, 0x0d, 0x0c, 0x1a, 0x03, 0x15, 0x14, 0x02, 0x02, 0x14, 0x15, 0x03, 0x1a, 0x0c, 0x0d, 0x1b,
    0x1a, 0x0c, 0x0d, 0x1b, 0x02, 0x14, 0x15, 0x03, 0x03, 0x15, 0x14, 0x02, 0x1b, 0x0d, 0x0c, 0x1a,
    0x00, 0x16, 0x17, 0x01, 0x18, 0x0e, 0x0f, 0x19, 0x19, 0x0f, 0x0e, 0x18, 0x01, 0x17, 0x16, 0x00
  ]

def column3 : List UInt8 :=
  [
    0x00, 0x1e, 0x1f, 0x01, 0x21, 0x3f, 0x3e, 0x20, 0x22, 0x3c, 0x3d, 0x23, 0x03, 0x1d, 0x1c, 0x02,
    0x23, 0x3d, 0x3c, 0x22, 0x02, 0x1c, 0x1d, 0x03, 0x01, 0x1f, 0x1e, 0x00, 0x20, 0x3e, 0x3f, 0x21,
    0x24, 0x3a, 0x3b, 0x25, 0x05, 0x1b, 0x1a, 0x04, 0x06, 0x18, 0x19, 0x07, 0x27, 0x39, 0x38, 0x26,
    0x07, 0x19, 0x18, 0x06, 0x26, 0x38, 0x39, 0x27, 0x25, 0x3b, 0x3a, 0x24, 0x04, 0x1a, 0x1b, 0x05,
    0x25, 0x3b, 0x3a, 0x24, 0x04, 0x1a, 0x1b, 0x05, 0x07, 0x19, 0x18, 0x06, 0x26, 0x38, 0x39, 0x27,
    0x06, 0x18, 0x19, 0x07, 0x27, 0x39, 0x38, 0x26, 0x24, 0x3a, 0x3b, 0x25, 0x05, 0x1b, 0x1a, 0x04,
    0x01, 0x1f, 0x1e, 0x00, 0x20, 0x3e, 0x3f, 0x21, 0x23, 0x3d, 0x3c, 0x22, 0x02, 0x1c, 0x1d, 0x03,
    0x22, 0x3c, 0x3d, 0x23, 0x03, 0x1d, 0x1c, 0x02, 0x00, 0x1e, 0x1f, 0x01, 0x21, 0x3f, 0x3e, 0x20,
    0x26, 0x38, 0x39, 0x27, 0x07, 0x19, 0x18, 0x06, 0x04, 0x1a, 0x1b, 0x05, 0x25, 0x3b, 0x3a, 0x24,
    0x05, 0x1b, 0x1a, 0x04, 0x24, 0x3a, 0x3b, 0x25, 0x27, 0x39, 0x38, 0x26, 0x06, 0x18, 0x19, 0x07,
    0x02, 0x1c, 0x1d, 0x03, 0x23, 0x3d, 0x3c, 0x22, 0x20, 0x3e, 0x3f, 0x21, 0x01, 0x1f, 0x1e, 0x00,
    0x21, 0x3f, 0x3e, 0x20, 0x00, 0x1e, 0x1f, 0x01, 0x03, 0x1d, 0x1c, 0x02, 0x22, 0x3c, 0x3d, 0x23,
    0x03, 0x1d, 0x1c, 0x02, 0x22, 0x3c, 0x3d, 0x23, 0x21, 0x3f, 0x3e, 0x20, 0x00, 0x1e, 0x1f, 0x01,
    0x20, 0x3e, 0x3f, 0x21, 0x01, 0x1f, 0x1e, 0x00, 0x02, 0x1c, 0x1d, 0x03, 0x23, 0x3d, 0x3c, 0x22,
    0x27, 0x39, 0x38, 0x26, 0x06, 0x18, 0x19, 0x07, 0x05, 0x1b, 0x1a, 0x04, 0x24, 0x3a, 0x3b, 0x25,
    0x04, 0x1a, 0x1b, 0x05, 0x25, 0x3b, 0x3a, 0x24, 0x26, 0x38, 0x39, 0x27, 0x07, 0x19, 0x18, 0x06
  ]

def secdedParity (data : UInt32) : UInt8 :=
  ((column0.getD (field data 0) 0 ^^^ column1.getD (field data 8) 0) ^^^
    column2.getD (field data 16) 0) ^^^ column3.getD (field data 24) 0

def secdedEncode (data : UInt32) : UInt8 :=
  let code := secdedParity data
  let overall := parity32 data ^^ parity8 code
  code ||| (overall.toUInt8 <<< 6)

def syndrome (data : UInt32) (stored : UInt8) : UInt8 := (stored &&& 0x3F) ^^^ secdedParity data

def overallMismatch (data : UInt32) (stored : UInt8) : Bool :=
  (parity32 data ^^ parity8 (stored &&& 0x3F)) ^^ (((stored >>> 6) &&& 1) != 0)

/-- The walk over the codeword positions; `index` counts the data positions passed. -/
def dataIndex (target : Nat) : List Nat → Nat → Option Nat
  | [], _ => none
  | position :: rest, index =>
    if parityPosition position then dataIndex target rest index
    else if position = target then some index
    else dataIndex target rest (index + 1)

/-- The word with the data bit at a codeword position turned over. -/
def correctAt (data : UInt32) (target : Nat) : UInt32 :=
  match dataIndex target (List.range' 1 38) 0 with
  | none => data
  | some index => data ^^^ (1 <<< UInt32.ofNat index)

/-- The decoded word, and whether a bit was corrected; `none` for the source's -1. -/
def secdedDecode (data : UInt32) (stored : UInt8) : Option (UInt32 × Bool) :=
  if (stored &&& 0x80) != 0 then none
  else
    let s := syndrome data stored
    let mismatch := overallMismatch data stored
    if s == 0 && !mismatch then some (data, false)
    else if s != 0 && !mismatch then none
    else if s != 0 then
      if s > 38 then none
      else if !parityPosition s.toNat then some (correctAt data s.toNat, true)
      else some (data, true)
    else some (data, true)

theorem columns_spread :
    (column0 = spread [0x0c, 0x0b, 0x0a, 0x09, 0x07, 0x06, 0x05, 0x03] ∧
      column1 = spread [0x15, 0x14, 0x13, 0x12, 0x11, 0x0f, 0x0e, 0x0d] ∧
      column2 = spread [0x1d, 0x1c, 0x1b, 0x1a, 0x19, 0x18, 0x17, 0x16] ∧
      column3 = spread [0x26, 0x25, 0x24, 0x23, 0x22, 0x21, 0x1f, 0x1e]) ∧
    [column0, column1, column2, column3].all (fun table => table.all fun x => x &&& 0x3F == x) =
      true := by
  decide +kernel

theorem column0_linear : LinearTable column0 8 := linearTable_of_spread _ columns_spread.1.1

theorem column1_linear : LinearTable column1 8 := linearTable_of_spread _ columns_spread.1.2.1

theorem column2_linear : LinearTable column2 8 := linearTable_of_spread _ columns_spread.1.2.2.1

theorem column3_linear : LinearTable column3 8 := linearTable_of_spread _ columns_spread.1.2.2.2

theorem secdedParity_xor (a b : UInt32) :
    secdedParity (a ^^^ b) = secdedParity a ^^^ secdedParity b := by
  have column : ∀ (table : List UInt8) (shift : UInt32), LinearTable table 8 →
      table.getD (field (a ^^^ b) shift) 0 =
        table.getD (field a shift) 0 ^^^ table.getD (field b shift) 0 := by
    intro table shift h
    rw [field_xor, entry_xor h (field_lt a shift) (field_lt b shift)]
  unfold secdedParity
  rw [column _ _ column0_linear, column _ _ column1_linear, column _ _ column2_linear,
    column _ _ column3_linear]
  ac_rfl

theorem fold_xor (a b shift : UInt32) :
    (a ^^^ b) ^^^ ((a ^^^ b) >>> shift) = (a ^^^ (a >>> shift)) ^^^ (b ^^^ (b >>> shift)) := by
  rw [shiftRight_xor, UInt32.xor_assoc, UInt32.xor_assoc, ← UInt32.xor_assoc b, UInt32.xor_comm b,
    UInt32.xor_assoc (a >>> shift)]

theorem parityNibble_xor (a b : UInt32) :
    parityNibble ((a ^^^ b) &&& 0xF) = (parityNibble (a &&& 0xF) ^^ parityNibble (b &&& 0xF)) := by
  have table : ∀ m n : Fin 16, parityNibble (UInt32.ofNat m ^^^ UInt32.ofNat n) =
      (parityNibble (UInt32.ofNat m) ^^ parityNibble (UInt32.ofNat n)) := by decide +kernel
  have low : ∀ x : UInt32, ∃ m : Fin 16, x &&& 0xF = UInt32.ofNat m := fun x => and_ofNat x (by decide)
  obtain ⟨m, hm⟩ := low a
  obtain ⟨n, hn⟩ := low b
  rw [and_xor, hm, hn]
  exact table m n

theorem parity32_xor (a b : UInt32) : parity32 (a ^^^ b) = (parity32 a ^^ parity32 b) := by
  simp only [parity32, fold_xor, parityNibble_xor]

theorem parity8_xor (a b : UInt8) : parity8 (a ^^^ b) = (parity8 a ^^ parity8 b) := by
  simp only [parity8, UInt8.toUInt32_xor, parity32_xor]

theorem and_xor8 (x y mask : UInt8) : (x ^^^ y) &&& mask = (x &&& mask) ^^^ (y &&& mask) := by
  apply UInt8.toBitVec_inj.mp
  apply BitVec.eq_of_getLsbD_eq
  intro i hi
  simp [Bool.and_xor_distrib_right]

theorem syndrome_xor (a b : UInt32) (c d : UInt8) :
    syndrome (a ^^^ b) (c ^^^ d) = syndrome a c ^^^ syndrome b d := by
  unfold syndrome
  rw [and_xor8, secdedParity_xor, xor_xor_xor_comm]

theorem overallBit_xor (c d : UInt8) :
    ((((c ^^^ d) >>> 6) &&& 1) != 0) =
      ((((c >>> 6) &&& 1) != 0) ^^ (((d >>> 6) &&& 1) != 0)) := by
  have table : ∀ m n : Fin 2, ((UInt8.ofNat m ^^^ UInt8.ofNat n) != 0) =
      ((UInt8.ofNat m != 0) ^^ (UInt8.ofNat n != 0)) := by decide
  have low : ∀ x : UInt8, ∃ m : Fin 2, x &&& 1 = UInt8.ofNat m := by
    intro x
    have hx : (x &&& 1).toNat < 2 := by
      rw [UInt8.toNat_and]
      exact Nat.lt_of_le_of_lt Nat.and_le_right (by decide)
    exact ⟨⟨_, hx⟩, (UInt8.ofNat_toNat).symm⟩
  have hshift : (c ^^^ d) >>> 6 = (c >>> 6) ^^^ (d >>> 6) := by
    apply UInt8.toBitVec_inj.mp
    simp [BitVec.ushiftRight_xor_distrib]
  obtain ⟨m, hm⟩ := low (c >>> 6)
  obtain ⟨n, hn⟩ := low (d >>> 6)
  rw [hshift, and_xor8, hm, hn]
  exact table m n

theorem overallMismatch_xor (a b : UInt32) (c d : UInt8) :
    overallMismatch (a ^^^ b) (c ^^^ d) = (overallMismatch a c ^^ overallMismatch b d) := by
  unfold overallMismatch
  rw [and_xor8, parity32_xor, parity8_xor, overallBit_xor]
  simp only [Bool.xor_assoc, Bool.xor_left_comm]

theorem secdedParity_low (data : UInt32) : ∃ n : Fin 64, secdedParity data = UInt8.ofNat n := by
  have column : ∀ table : List UInt8, (∀ x ∈ table, x &&& 0x3F = x) → ∀ n : Nat,
      table.getD n 0 &&& 0x3F = table.getD n 0 := by
    intro table h n
    rw [List.getD_eq_getElem?_getD]
    cases hn : table[n]? with
    | none => rfl
    | some x => exact h x (List.mem_of_getElem? hn)
  have low : secdedParity data &&& 0x3F = secdedParity data := by
    unfold secdedParity
    have hlow : ∀ table ∈ [column0, column1, column2, column3], ∀ x ∈ table, x &&& 0x3F = x := by
      intro table htable x hx
      have h := List.all_eq_true.mp (List.all_eq_true.mp columns_spread.2 table htable) x hx
      exact beq_iff_eq.mp h
    rw [and_xor8, and_xor8, and_xor8, column column0 (hlow _ (by simp)),
      column column1 (hlow _ (by simp)), column column2 (hlow _ (by simp)),
      column column3 (hlow _ (by simp))]
  have hlt : (secdedParity data).toNat < 64 := by
    rw [← low, UInt8.toNat_and]
    exact Nat.lt_of_le_of_lt Nat.and_le_right (by decide)
  exact ⟨⟨_, hlt⟩, (UInt8.ofNat_toNat).symm⟩

theorem encode_bits (code : Fin 64) (overall : Bool) :
    (UInt8.ofNat code ||| (overall.toUInt8 <<< 6)) &&& 0x3F = UInt8.ofNat code ∧
      ((((UInt8.ofNat code ||| (overall.toUInt8 <<< 6)) >>> 6) &&& 1) != 0) = overall ∧
      (UInt8.ofNat code ||| (overall.toUInt8 <<< 6)) &&& 0x80 = 0 := by
  revert code overall
  decide +kernel

theorem syndrome_encode (data : UInt32) : syndrome data (secdedEncode data) = 0 := by
  obtain ⟨code, hcode⟩ := secdedParity_low data
  unfold syndrome secdedEncode
  rw [hcode, (encode_bits code _).1]
  simp

theorem overallMismatch_encode (data : UInt32) :
    overallMismatch data (secdedEncode data) = false := by
  obtain ⟨code, hcode⟩ := secdedParity_low data
  unfold overallMismatch secdedEncode
  rw [hcode, (encode_bits code _).1, (encode_bits code _).2.1]
  simp

theorem reservedBit_encode (data : UInt32) : (secdedEncode data &&& 0x80) = 0 := by
  obtain ⟨code, hcode⟩ := secdedParity_low data
  unfold secdedEncode
  rw [hcode]
  exact (encode_bits code _).2.2

@[simp] theorem decode_encode (data : UInt32) :
    secdedDecode data (secdedEncode data) = some (data, false) := by
  unfold secdedDecode
  rw [reservedBit_encode, syndrome_encode, overallMismatch_encode]
  simp

/-- A bit of the 39 that carry a word: one of its data bits or one of its check bits. -/
inductive CodeBit where
  | data (i : Fin 32)
  | check (i : Fin 7)
  deriving DecidableEq

namespace CodeBit

def dataMask : CodeBit → UInt32
  | data i => 1 <<< UInt32.ofNat i
  | check _ => 0

def checkMask : CodeBit → UInt8
  | data _ => 0
  | check i => 1 <<< UInt8.ofNat i

/-- The syndrome that turning the bit over leaves in a codeword. -/
def signature (bit : CodeBit) : UInt8 := syndrome bit.dataMask bit.checkMask

theorem forall_iff {P : CodeBit → Prop} :
    (∀ bit, P bit) ↔ (∀ i, P (data i)) ∧ ∀ i, P (check i) := by
  constructor
  · intro h
    exact ⟨fun i => h (data i), fun i => h (check i)⟩
  · intro h bit
    cases bit with
    | data i => exact h.1 i
    | check i => exact h.2 i

instance {P : CodeBit → Prop} [DecidablePred P] : Decidable (∀ bit, P bit) :=
  decidable_of_iff _ forall_iff.symm

/-- The syndromes of all bits are in range and distinct; a data bit's leads the walk to that bit,
and a check bit's is a parity position. -/
theorem signatures :
    (∀ bit : CodeBit, overallMismatch bit.dataMask bit.checkMask = true ∧
      bit.checkMask &&& 0x80 = 0 ∧ ¬ bit.signature > 38) ∧
    (∀ a b : CodeBit, a.signature = b.signature → a = b) ∧
    (∀ i : Fin 32, dataIndex (data i).signature.toNat (List.range' 1 38) 0 = some i.val ∧
      (data i).signature ≠ 0 ∧ parityPosition (data i).signature.toNat = false) ∧
    ∀ i : Fin 7, (check i).signature ≠ 0 → parityPosition (check i).signature.toNat = true := by
  decide +kernel

theorem overallMismatch_mask (bit : CodeBit) :
    overallMismatch bit.dataMask bit.checkMask = true := (signatures.1 bit).1

theorem reservedBit_mask (bit : CodeBit) : bit.checkMask &&& 0x80 = 0 := (signatures.1 bit).2.1

theorem signature_le (bit : CodeBit) : ¬ bit.signature > 38 := (signatures.1 bit).2.2

theorem signature_injective {a b : CodeBit} (h : a.signature = b.signature) : a = b :=
  signatures.2.1 a b h

theorem dataIndex_signature (i : Fin 32) :
    dataIndex (data i).signature.toNat (List.range' 1 38) 0 = some i.val :=
  (signatures.2.2.1 i).1

theorem parityPosition_data (i : Fin 32) :
    (data i).signature ≠ 0 ∧ parityPosition (data i).signature.toNat = false :=
  (signatures.2.2.1 i).2

theorem parityPosition_check (i : Fin 7) :
    (check i).signature ≠ 0 → parityPosition (check i).signature.toNat = true :=
  signatures.2.2.2 i

end CodeBit

variable (data : UInt32)

theorem syndrome_flip (bit : CodeBit) :
    syndrome (data ^^^ bit.dataMask) (secdedEncode data ^^^ bit.checkMask) = bit.signature := by
  rw [syndrome_xor, syndrome_encode]
  simp [CodeBit.signature]

theorem overallMismatch_flip (bit : CodeBit) :
    overallMismatch (data ^^^ bit.dataMask) (secdedEncode data ^^^ bit.checkMask) = true := by
  rw [overallMismatch_xor, overallMismatch_encode, CodeBit.overallMismatch_mask]
  rfl

theorem reservedBit_flip (bit : CodeBit) : (secdedEncode data ^^^ bit.checkMask) &&& 0x80 = 0 := by
  rw [and_xor8, reservedBit_encode, CodeBit.reservedBit_mask]
  rfl

theorem decode_flip (bit : CodeBit) :
    secdedDecode (data ^^^ bit.dataMask) (secdedEncode data ^^^ bit.checkMask) =
      some (data, true) := by
  unfold secdedDecode
  rw [reservedBit_flip, syndrome_flip, overallMismatch_flip]
  cases bit with
  | data i =>
    obtain ⟨hne, hpos⟩ := CodeBit.parityPosition_data i
    have hle := CodeBit.signature_le (.data i)
    have hback : correctAt (data ^^^ (CodeBit.data i).dataMask) (CodeBit.data i).signature.toNat =
        data := by
      simp only [correctAt, CodeBit.dataIndex_signature i]
      show (data ^^^ (CodeBit.data i).dataMask) ^^^ (CodeBit.data i).dataMask = data
      rw [UInt32.xor_assoc, UInt32.xor_self, UInt32.xor_zero]
    simp [hne, hpos, hle, hback]
  | check i =>
    have hle := CodeBit.signature_le (.check i)
    have hkeep : data ^^^ (CodeBit.check i).dataMask = data := UInt32.xor_zero
    rw [hkeep]
    by_cases hne : (CodeBit.check i).signature = 0
    · simp [hne]
    · have hpos := CodeBit.parityPosition_check i hne
      simp [hne, hpos, hle]

theorem decode_two_flips {a b : CodeBit} (hab : a ≠ b) :
    secdedDecode (data ^^^ a.dataMask ^^^ b.dataMask)
      (secdedEncode data ^^^ a.checkMask ^^^ b.checkMask) = none := by
  have hsyndrome : syndrome (data ^^^ a.dataMask ^^^ b.dataMask)
      (secdedEncode data ^^^ a.checkMask ^^^ b.checkMask) ≠ 0 := by
    rw [syndrome_xor, syndrome_flip]
    intro h
    exact hab (CodeBit.signature_injective (UInt8.xor_eq_zero_iff.mp h))
  have hmismatch : overallMismatch (data ^^^ a.dataMask ^^^ b.dataMask)
      (secdedEncode data ^^^ a.checkMask ^^^ b.checkMask) = false := by
    rw [overallMismatch_xor, overallMismatch_flip, CodeBit.overallMismatch_mask]
    rfl
  unfold secdedDecode
  rw [hmismatch]
  simp [hsyndrome]

end ReistOs.Critical
