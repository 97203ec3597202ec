import ReistOs.DesktopWm

/-! Where `desktop_wm.c` puts a window: one axis of the work area at a time. -/

namespace ReistOs

/-- One axis of the work area, with the least extent of a window on it. -/
structure WorkAxis where
  low : Int
  high : Int
  minimum : Nat
  low_nonneg : 0 ≤ low
  low_le : low ≤ 2147483647
  le_high : -2147483648 ≤ high
  high_le : high ≤ 2147483647
  minimum_pos : 1 ≤ minimum
  minimum_le : low < high → (minimum : Int) ≤ high - low
  minimum_empty : high ≤ low → minimum = 1

namespace WorkAxis

/-- A window that lies in a work area, or in one without extent where nothing can lie. -/
structure Placed (a : WorkAxis) (position : Int) (size : Nat) : Prop where
  least : a.minimum ≤ size
  above : a.low ≤ position
  below : a.low < a.high → position + size ≤ a.high
  bounded : a.high ≤ a.low → position + size ≤ 2147483648
  degenerate : a.high ≤ a.low → a.high = -2147483648 ∨ (size = 1 ∧ position = a.low)

variable {a : WorkAxis} {position : Int} {size : Nat}

theorem Placed.low_lt (h : a.Placed position size) (hfits : (size : Int) ≤ a.high - a.low) :
    a.low < a.high := by
  have := h.least
  have := a.minimum_pos
  omega

theorem Placed.inside (h : a.Placed position size) (hfits : (size : Int) ≤ a.high - a.low) :
    a.low ≤ position ∧ position + size ≤ a.high :=
  ⟨h.above, h.below (h.low_lt hfits)⟩

theorem clampAxis_placed (hleast : a.minimum ≤ size)
    (hfits : a.low < a.high → (size : Int) ≤ a.high - a.low)
    (hempty : a.high ≤ a.low → size = 1 ∨ a.high = -2147483648 ∧ a.low + size ≤ 2147483648)
    (hposition : position ≤ 2147483647) :
    a.Placed (clampAxis a.low a.high size position) size := by
  obtain ⟨low, high, minimum, hlow, hlow', hhigh, hhigh', hminimum, hnonempty, hdegenerate⟩ := a
  simp only at hleast hfits hempty ⊢
  unfold clampAxis toInt32
  rcases lt_or_ge low high with hlt | hge
  · have := hfits hlt
    constructor <;> simp only <;> omega
  · rcases hempty hge with hone | ⟨hwrap, hroom⟩
    · constructor <;> simp only <;> omega
    · constructor <;> simp only <;> omega

theorem Placed.clamp (h : a.Placed position size) {position' : Int}
    (hposition : position' ≤ 2147483647) :
    a.Placed (clampAxis a.low a.high size position') size := by
  apply clampAxis_placed h.least _ _ hposition
  · intro hlt
    have := h.below hlt
    have := h.above
    omega
  · intro hge
    rcases h.degenerate hge with hwrap | ⟨hone, -⟩
    · have := h.bounded hge
      have := h.above
      exact .inr ⟨hwrap, by omega⟩
    · exact .inl hone

theorem Placed.clampAxis_eq (h : a.Placed position size) (hlt : a.low < a.high) :
    clampAxis a.low a.high size position = position := by
  have hbelow := h.below hlt
  have habove := h.above
  have hlow := a.low_nonneg
  have hhigh := a.high_le
  unfold clampAxis toInt32
  dsimp only
  omega

variable {minimum : Nat} {towardLow towardHigh : Bool} {delta : Int}

/-- What the drag of an edge makes of the extent that the window had when it began. -/
structure Resized (a : WorkAxis) (towardLow towardHigh : Bool) (position : Int) (size : Nat)
    (result : Int × Nat) : Prop where
  placed : a.Placed result.1 result.2
  opposite_low : towardLow = true → result.1 + result.2 = position + size
  opposite_high : towardLow = false → result.1 = position
  kept : towardLow = false → towardHigh = false → result.2 = size

theorem toInt32_eq {v : Int} (hlow : -2147483648 ≤ v) (hhigh : v ≤ 2147483647) :
    toInt32 v = v := by
  unfold toInt32
  omega

theorem toUint32_eq {v : Int} (hlow : 0 ≤ v) (hhigh : v ≤ 4294967295) : (toUint32 v : Int) = v := by
  unfold toUint32
  omega

variable (h : a.Placed position size)
include h

theorem Placed.last_le : position + size ≤ 2147483648 := by
  have := a.high_le
  rcases lt_or_ge a.low a.high with hlt | hge
  · have := h.below hlt
    omega
  · exact h.bounded hge

theorem Placed.lower {first : Int} (hlow : a.low ≤ first)
    (hleast : first ≤ position + size - a.minimum) :
    a.Resized true false position size (toInt32 first, toUint32 (position + size - first)) := by
  have hlast := h.last_le
  have hnonneg := a.low_nonneg
  have hminimum := a.minimum_pos
  have hfirst : toInt32 first = first := toInt32_eq (by omega) (by omega)
  have hsize : (toUint32 (position + size - first) : Int) = position + size - first :=
    toUint32_eq (by omega) (by omega)
  refine ⟨⟨?_, ?_, ?_, ?_, ?_⟩, ?_, by simp, by simp⟩ <;> dsimp only
  · omega
  · omega
  · intro hlt
    have := h.below hlt
    omega
  · intro hge
    have := h.bounded hge
    omega
  · intro hge
    have habove := h.above
    have hone := a.minimum_empty hge
    rcases h.degenerate hge with hwrap | ⟨hsize, hat⟩
    · exact .inl hwrap
    · exact .inr ⟨by omega, by omega⟩
  · intro _
    omega

theorem Placed.raise {last : Int} (hleast : position + a.minimum ≤ last)
    (hbelow : a.low < a.high → last ≤ a.high) (hone : a.high ≤ a.low → last = position + 1)
    (hlast : last ≤ 2147483648) :
    a.Resized false true position size (toInt32 position, toUint32 (last - position)) := by
  have habove := h.above
  have hnonneg := a.low_nonneg
  have hminimum := a.minimum_pos
  have hfirst : toInt32 position = position := toInt32_eq (by omega) (by omega)
  have hsize : (toUint32 (last - position) : Int) = last - position :=
    toUint32_eq (by omega) (by omega)
  refine ⟨⟨?_, ?_, ?_, ?_, ?_⟩, by simp, ?_, by simp⟩ <;> dsimp only
  · omega
  · omega
  · intro hlt
    have := hbelow hlt
    omega
  · intro hge
    omega
  · intro hge
    have hend := hone hge
    rcases h.degenerate hge with hwrap | ⟨-, hat⟩
    · exact .inl hwrap
    · exact .inr ⟨by omega, by omega⟩
  · intro _
    omega

theorem Placed.untouched :
    a.Resized false false position size
      (toInt32 position, toUint32 (position + size - position)) := by
  have habove := h.above
  have hlast := h.last_le
  have hnonneg := a.low_nonneg
  have hleast := h.least
  have hminimum := a.minimum_pos
  have hfirst : toInt32 position = position := toInt32_eq (by omega) (by omega)
  have hsize : toUint32 (position + size - position) = size := by
    have : (toUint32 (position + size - position) : Int) = position + size - position :=
      toUint32_eq (by omega) (by omega)
    omega
  rw [hfirst, hsize]
  exact ⟨h, by simp, by simp, by simp⟩

theorem resizeAxis_resized (hone : ¬ (towardLow = true ∧ towardHigh = true)) :
    a.Resized towardLow towardHigh position size
      (resizeAxis a.low a.high a.minimum towardLow towardHigh position size delta) := by
  have hleast := h.least
  have habove := h.above
  have hlast := h.last_le
  unfold resizeAxis
  cases towardLow with
  | true =>
    obtain rfl : towardHigh = false := by simpa using hone
    simp only [if_true, Bool.false_eq_true, if_false]
    apply h.lower
    · have hroom : a.low ≤ position + size - a.minimum := by omega
      split <;> split <;> omega
    · split <;> split <;> omega
  | false =>
    cases towardHigh with
    | true =>
      simp only [if_true, Bool.false_eq_true, if_false]
      have hminimum := a.minimum_empty
      have hhigh := a.high_le
      apply h.raise
      · split <;> split <;> omega
      · intro hlt
        have hroom := h.below hlt
        split <;> split <;> omega
      · intro hge
        have := hminimum hge
        split <;> split <;> omega
      · rcases lt_or_ge a.low a.high with hlt | hge
        · have hroom := h.below hlt
          split <;> split <;> omega
        · have := hminimum hge
          have := h.above
          split <;> split <;> omega
    | false =>
      simp only [Bool.false_eq_true, if_false]
      exact h.untouched

end WorkAxis

end ReistOs
