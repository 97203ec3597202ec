import Mathlib.Tactic

namespace XorLinear

/-- The xor of the entries that a table has at the single bits of an index. -/
def bitEntries (table : List UInt8) : Nat → Nat → UInt8
  | 0, _ => 0
  | k + 1, n => bitEntries table k n ^^^ (if n.testBit k then table.getD (2 ^ k) 0 else 0)

/-- Every entry of the table is the xor of the entries of its index's single bits. -/
def LinearTable (table : List UInt8) (k : Nat) : Prop :=
  ∀ n : Fin (2 ^ k), table.getD n 0 = bitEntries table k n

instance (table : List UInt8) (k : Nat) : Decidable (LinearTable table k) := by
  unfold LinearTable
  infer_instance

theorem xor_xor_xor_comm (a b c d : UInt8) : (a ^^^ b) ^^^ (c ^^^ d) = (a ^^^ c) ^^^ (b ^^^ d) := by
  rw [UInt8.xor_assoc, UInt8.xor_assoc, ← UInt8.xor_assoc b c d, UInt8.xor_comm b c,
    UInt8.xor_assoc c b d]

theorem bitEntries_xor (table : List UInt8) (k m n : Nat) :
    bitEntries table k (m ^^^ n) = bitEntries table k m ^^^ bitEntries table k n := by
  induction k with
  | zero => simp [bitEntries]
  | succ k ih =>
    simp only [bitEntries, ih, Nat.testBit_xor]
    rw [xor_xor_xor_comm]
    congr 1
    cases m.testBit k
    · cases n.testBit k
      · simp
      · simp
    · cases n.testBit k
      · simp
      · simp

variable {k n : Nat} {e : UInt8} {es : List UInt8}

theorem entry_xor {table : List UInt8} {m : Nat} (h : LinearTable table k) (hm : m < 2 ^ k)
    (hn : n < 2 ^ k) :
    table.getD (m ^^^ n) 0 = table.getD m 0 ^^^ table.getD n 0 := by
  have hx : m ^^^ n < 2 ^ k := Nat.xor_lt_two_pow hm hn
  have hmn := h ⟨m ^^^ n, hx⟩
  have hm' := h ⟨m, hm⟩
  have hn' := h ⟨n, hn⟩
  rw [hmn, hm', hn', bitEntries_xor]

/-- The table that is linear in its index and has the listed entries at the single bits, the
highest bit's first. -/
def spread : List UInt8 → List UInt8
  | [] => [0]
  | e :: es => spread es ++ (spread es).map (· ^^^ e)

@[simp] theorem length_spread (es : List UInt8) : (spread es).length = 2 ^ es.length := by
  induction es with
  | nil => rfl
  | cons e es ih =>
    simp only [spread, List.length_append, List.length_map, List.length_cons, ih]
    omega

theorem spread_low (hn : n < 2 ^ es.length) :
    (spread (e :: es)).getD n 0 = (spread es).getD n 0 := by
  simp only [spread, List.getD_eq_getElem?_getD]
  rw [List.getElem?_append_left (by rw [length_spread]; exact hn)]

theorem spread_high (hn : n < 2 ^ es.length) :
    (spread (e :: es)).getD (2 ^ es.length + n) 0 = (spread es).getD n 0 ^^^ e := by
  have hle : (spread es).length ≤ 2 ^ es.length + n := by
    rw [length_spread]
    omega
  have hlt : n < (spread es).length := by
    rw [length_spread]
    exact hn
  simp only [spread, List.getD_eq_getElem?_getD]
  rw [List.getElem?_append_right hle, length_spread, Nat.add_sub_cancel_left, List.getElem?_map,
    List.getElem?_eq_getElem hlt]
  rfl

theorem spread_zero (es : List UInt8) : (spread es).getD 0 0 = 0 := by
  induction es with
  | nil => rfl
  | cons e es ih => rw [spread_low (Nat.two_pow_pos _), ih]

/-- The bits below the table's highest see the table of the remaining entries. -/
theorem bitEntries_spread (e : UInt8) (es : List UInt8) (hk : k ≤ es.length) (n : Nat) :
    bitEntries (spread (e :: es)) k n = bitEntries (spread es) k n := by
  induction k with
  | zero => rfl
  | succ k ih =>
    have hlt : 2 ^ k < 2 ^ es.length := Nat.pow_lt_pow_right (by decide) hk
    simp only [bitEntries]
    rw [ih (by omega), spread_low hlt]

/-- Bits that are not looked at do not matter. -/
theorem bitEntries_mod (table : List UInt8) {j : Nat} (hk : k ≤ j) (n : Nat) :
    bitEntries table k (2 ^ j + n) = bitEntries table k n := by
  induction k with
  | zero => rfl
  | succ k ih =>
    have hbit : (2 ^ j + n).testBit k = n.testBit k := Nat.testBit_two_pow_add_gt hk n
    simp only [bitEntries]
    rw [ih (by omega), hbit]

theorem linearTable_spread (es : List UInt8) : LinearTable (spread es) es.length := by
  induction es with
  | nil =>
    intro n
    obtain ⟨n, hn⟩ := n
    have hzero : n = 0 := by simpa using hn
    subst hzero
    rfl
  | cons e es ih =>
    intro n
    obtain ⟨n, hn⟩ := n
    simp only [List.length_cons, Nat.pow_succ] at hn
    simp only [List.length_cons, bitEntries]
    have hpow : (spread (e :: es)).getD (2 ^ es.length) 0 = e := by
      have h := spread_high (e := e) (n := 0) (Nat.two_pow_pos es.length)
      rw [Nat.add_zero, spread_zero, UInt8.zero_xor] at h
      exact h
    rcases Nat.lt_or_ge n (2 ^ es.length) with hlow | hhigh
    · have hbit : n.testBit es.length = false := Nat.testBit_lt_two_pow hlow
      have hn' := ih ⟨n, hlow⟩
      rw [spread_low hlow, bitEntries_spread e es (Nat.le_refl _), hbit]
      simpa using hn'
    · obtain ⟨m, rfl⟩ := Nat.exists_eq_add_of_le hhigh
      have hm : m < 2 ^ es.length := by omega
      have hbit : (2 ^ es.length + m).testBit es.length = true := by
        rw [Nat.testBit_two_pow_add_eq, Nat.testBit_lt_two_pow hm]
        rfl
      have hm' := ih ⟨m, hm⟩
      rw [spread_high hm, bitEntries_spread e es (Nat.le_refl _),
        bitEntries_mod _ (Nat.le_refl _), hbit, hpow]
      rw [hm', if_pos rfl]

theorem linearTable_of_spread {table : List UInt8} (es : List UInt8) (h : table = spread es) :
    LinearTable table es.length := by
  rw [h]
  exact linearTable_spread es

/-- One byte of a word, by the shift that brings it down. -/
def field (x shift : UInt32) : Nat := ((x >>> shift) &&& 255).toNat

theorem field_lt (x shift : UInt32) : field x shift < 2 ^ 8 := by
  unfold field
  rw [UInt32.toNat_and]
  exact Nat.lt_of_le_of_lt Nat.and_le_right (by decide)

theorem shiftRight_xor (x y shift : UInt32) :
    (x ^^^ y) >>> shift = (x >>> shift) ^^^ (y >>> shift) := by
  apply UInt32.toBitVec_inj.mp
  simp [BitVec.ushiftRight_xor_distrib]

theorem and_ofNat (x : UInt32) {mask : UInt32} {n : Nat} (h : mask.toNat < n) :
    ∃ m : Fin n, x &&& mask = UInt32.ofNat m := by
  have hx : (x &&& mask).toNat < n := by
    rw [UInt32.toNat_and]
    exact Nat.and_le_right.trans_lt h
  exact ⟨⟨_, hx⟩, UInt32.ofNat_toNat.symm⟩

theorem and_xor (x y mask : UInt32) : (x ^^^ y) &&& mask = (x &&& mask) ^^^ (y &&& mask) := by
  apply UInt32.toBitVec_inj.mp
  apply BitVec.eq_of_getLsbD_eq
  intro i hi
  simp [Bool.and_xor_distrib_right]

theorem field_xor (x y shift : UInt32) : field (x ^^^ y) shift = field x shift ^^^ field y shift := by
  unfold field
  rw [shiftRight_xor, and_xor, UInt32.toNat_xor]

end XorLinear
