import Mathlib.Tactic

/-! Records of unsigned fields, one after the other, least significant byte first. -/

namespace Packed

/-- The low `w` bytes of a value. -/
def bytesOf : Nat → Nat → List UInt8
  | 0, _ => []
  | w + 1, x => UInt8.ofNat x :: bytesOf w (x / 256)

def valueOf : List UInt8 → Nat
  | [] => 0
  | b :: bs => b.toNat + 256 * valueOf bs

/-- The fields in a row, each in its width. -/
def pack : List Nat → List Nat → List UInt8
  | w :: widths, x :: values => bytesOf w x ++ pack widths values
  | _, _ => []

def unpack : List Nat → List UInt8 → List Nat
  | [], _ => []
  | w :: widths, bytes => valueOf (bytes.take w) :: unpack widths (bytes.drop w)

@[simp] theorem length_bytesOf (w x : Nat) : (bytesOf w x).length = w := by
  induction w generalizing x with
  | zero => rfl
  | succ w ih => simp [bytesOf, ih]

theorem valueOf_bytesOf {w x : Nat} (h : x < 256 ^ w) : valueOf (bytesOf w x) = x := by
  induction w generalizing x with
  | zero =>
    simp only [Nat.pow_zero, Nat.lt_one_iff] at h
    rw [h]
    rfl
  | succ w ih =>
    have hhigh : x / 256 < 256 ^ w := by
      rw [Nat.div_lt_iff_lt_mul (by decide), ← Nat.pow_succ]
      exact h
    have hlow : (UInt8.ofNat x).toNat = x % 256 := UInt8.toNat_ofNat'
    simp only [bytesOf, valueOf]
    rw [ih hhigh, hlow, Nat.mod_add_div]

/-- Every value fits its width. -/
def Fits (widths values : List Nat) : Prop := List.Forall₂ (fun w x => x < 256 ^ w) widths values

theorem length_pack {widths values : List Nat} (h : Fits widths values) :
    (pack widths values).length = widths.sum := by
  induction h with
  | nil => rfl
  | cons hx _ ih => rw [pack, List.length_append, length_bytesOf, ih, List.sum_cons]

theorem unpack_pack {widths values : List Nat} (h : Fits widths values) :
    unpack widths (pack widths values) = values := by
  induction h with
  | nil => rfl
  | cons hx _ ih =>
    simp only [pack, unpack]
    rw [List.take_left' (length_bytesOf _ _), List.drop_left' (length_bytesOf _ _), ih,
      valueOf_bytesOf hx]

end Packed
