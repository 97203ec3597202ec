import ReistOs.FixedArray

namespace LittleEndian

variable {n : Nat}

/-- The byte at an offset; offsets past the end read zero. -/
def byte (v : Vector UInt8 n) (o : Nat) : UInt8 := v[o]?.getD 0

/-- The vector with one byte replaced; offsets past the end are ignored. -/
def setByte (v : Vector UInt8 n) (o : Nat) (x : UInt8) : Vector UInt8 n :=
  v.setIfInBounds o x

/-- The unsigned value of `k` bytes, least significant byte first. -/
def get (v : Vector UInt8 n) (o : Nat) : Nat → Nat
  | 0 => 0
  | k + 1 => (byte v o).toNat + 256 * get v (o + 1) k

/-- The vector with `k` bytes replaced by the low bytes of a value. -/
def put (v : Vector UInt8 n) (o : Nat) : Nat → Nat → Vector UInt8 n
  | 0, _ => v
  | k + 1, x => put (setByte v o (UInt8.ofNat x)) (o + 1) k (x / 256)

def get16 (v : Vector UInt8 n) (o : Nat) : UInt16 := UInt16.ofNat (get v o 2)

def get32 (v : Vector UInt8 n) (o : Nat) : UInt32 := UInt32.ofNat (get v o 4)

def get64 (v : Vector UInt8 n) (o : Nat) : UInt64 := UInt64.ofNat (get v o 8)

def put16 (v : Vector UInt8 n) (o : Nat) (x : UInt16) : Vector UInt8 n := put v o 2 x.toNat

def put32 (v : Vector UInt8 n) (o : Nat) (x : UInt32) : Vector UInt8 n := put v o 4 x.toNat

def put64 (v : Vector UInt8 n) (o : Nat) (x : UInt64) : Vector UInt8 n := put v o 8 x.toNat

/-- The `k` bytes from an offset on. -/
def slice (v : Vector UInt8 n) (o k : Nat) : List UInt8 :=
  (List.range k).map fun i => byte v (o + i)

/-- The vector of zero bytes. -/
def zero : Vector UInt8 n := Vector.replicate n 0

@[simp] theorem byte_zero (o : Nat) : byte (zero : Vector UInt8 n) o = 0 := by
  unfold byte zero
  by_cases h : o < n
  · simp [h]
  · simp [Vector.getElem?_eq_none (Nat.le_of_not_lt h)]

variable {o i k x p j : Nat} {v w : Vector UInt8 n}

theorem byte_setByte (v : Vector UInt8 n) (x : UInt8) :
    byte (setByte v o x) i = if o = i ∧ i < n then x else byte v i := FixedArray.cell_setCell v o i x

/-- A stored value occupies its own bytes and no others. -/
theorem byte_put (v : Vector UInt8 n) :
    byte (put v o k x) i =
      if o ≤ i ∧ i < o + k ∧ i < n then UInt8.ofNat (x / 256 ^ (i - o)) else byte v i := by
  induction k generalizing v o x with
  | zero => rw [if_neg (by omega)]; rfl
  | succ k ih =>
    simp only [put]
    rw [ih, byte_setByte]
    by_cases he : o = i
    · subst he
      rw [if_neg (by omega)]
      by_cases hn : o < n
      · rw [if_pos ⟨rfl, hn⟩, if_pos (by omega), Nat.sub_self, Nat.pow_zero, Nat.div_one]
      · rw [if_neg (by omega), if_neg (by omega)]
    · by_cases hi : o + 1 ≤ i ∧ i < o + 1 + k ∧ i < n
      · rw [if_pos hi, if_pos (by omega), Nat.div_div_eq_div_mul,
          show i - o = (i - (o + 1)) + 1 by omega, Nat.pow_succ']
      · rw [if_neg hi, if_neg (by omega), if_neg (by omega)]

theorem get_congr (h : ∀ i, o ≤ i → i < o + k → byte v i = byte w i) : get v o k = get w o k := by
  induction k generalizing o with
  | zero => rfl
  | succ k ih =>
    simp only [get]
    rw [h o (by omega) (by omega), ih fun i hi hk => h i (by omega) (by omega)]

theorem slice_congr (h : ∀ i, o ≤ i → i < o + k → byte v i = byte w i) :
    slice v o k = slice w o k := by
  apply List.map_congr_left
  intro i hi
  have := List.mem_range.mp hi
  exact h _ (by omega) (by omega)

theorem slice_put_of_disjoint (v : Vector UInt8 n) (h : p + j ≤ o ∨ o + k ≤ p) :
    slice (put v o k x) p j = slice v p j := by
  apply slice_congr
  intro i hi hj
  rw [byte_put, if_neg (by omega)]

theorem get_put_of_disjoint (v : Vector UInt8 n) (h : p + j ≤ o ∨ o + k ≤ p) :
    get (put v o k x) p j = get v p j := by
  apply get_congr
  intro i hi hj
  rw [byte_put, if_neg (by omega)]

theorem get_put (v : Vector UInt8 n) (hb : o + k ≤ n) :
    get (put v o k x) o k = x % 256 ^ k := by
  induction k generalizing v o x with
  | zero => simp [get, Nat.mod_one]
  | succ k ih =>
    simp only [get, put]
    rw [byte_put, if_neg (by omega), ih _ (by omega), byte_setByte, if_pos (by omega),
      Nat.pow_succ', Nat.mod_mul]
    simp

theorem ofNat16_mod (x : UInt16) : UInt16.ofNat (x.toNat % 256 ^ 2) = x := by
  have hx : x.toNat < 256 ^ 2 := x.toNat_lt
  rw [Nat.mod_eq_of_lt hx]
  simp

theorem ofNat32_mod (x : UInt32) : UInt32.ofNat (x.toNat % 256 ^ 4) = x := by
  have hx : x.toNat < 256 ^ 4 := x.toNat_lt
  rw [Nat.mod_eq_of_lt hx]
  simp

theorem ofNat64_mod (x : UInt64) : UInt64.ofNat (x.toNat % 256 ^ 8) = x := by
  have hx : x.toNat < 256 ^ 8 := x.toNat_lt
  rw [Nat.mod_eq_of_lt hx]
  simp

section Fields

variable (v : Vector UInt8 n) {o p : Nat}

@[simp] theorem get32_zero : get32 (zero : Vector UInt8 n) o = 0 := by
  simp [get32, get]

@[simp] theorem get64_zero : get64 (zero : Vector UInt8 n) o = 0 := by
  simp [get64, get]

theorem get16_put16 (x : UInt16) (h : o + 2 ≤ n) : get16 (put16 v o x) o = x := by
  unfold get16 put16
  rw [get_put v h, ofNat16_mod]

theorem get32_put32 (x : UInt32) (h : o + 4 ≤ n) : get32 (put32 v o x) o = x := by
  unfold get32 put32
  rw [get_put v h, ofNat32_mod]

theorem get32_put32_of_disjoint (x : UInt32) (h : p + 4 ≤ o ∨ o + 4 ≤ p) :
    get32 (put32 v o x) p = get32 v p := by
  simp only [get32, put32, get_put_of_disjoint v h]

theorem slice_put32_of_disjoint {k : Nat} (x : UInt32) (h : p + k ≤ o ∨ o + 4 ≤ p) :
    slice (put32 v o x) p k = slice v p k := slice_put_of_disjoint v h

end Fields

-- clients reason through the lemmas above; unfolding a read in unification is never useful
attribute [irreducible] get16 get32 get64 put16 put32 put64 slice

end LittleEndian
