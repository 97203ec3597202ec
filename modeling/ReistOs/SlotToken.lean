import Mathlib.Tactic

/-! Tokens of 32 bits that name a slot in their low byte, counted from one, and the generation of
what it holds in the bits above. -/

namespace ReistOs

def slotToken (slot : Nat) (generation : UInt32) : UInt32 :=
  generation <<< 8 ||| UInt32.ofNat (slot + 1)

variable {slot slot' : Nat} {generation generation' token : UInt32}

theorem shiftLeft_eight (h : generation ≤ 0xffffff) :
    (generation <<< 8).toNat = generation.toNat <<< 8 := by
  have hle : generation.toNat ≤ 16777215 := UInt32.le_iff_toNat_le.mp h
  have hshift : (8 : UInt32).toNat % 32 = 8 := by decide
  rw [UInt32.toNat_shiftLeft, hshift, Nat.shiftLeft_eq]
  omega

theorem slotToken_toNat (hslot : slot < 255) (h : generation ≤ 0xffffff) :
    (slotToken slot generation).toNat = generation.toNat * 256 + (slot + 1) := by
  have hlow : (UInt32.ofNat (slot + 1)).toNat = slot + 1 := by
    rw [UInt32.toNat_ofNat']
    omega
  have hpart : slot + 1 < 2 ^ 8 := by omega
  unfold slotToken
  rw [UInt32.toNat_or, shiftLeft_eight h, hlow, ← Nat.shiftLeft_add_eq_or_of_lt hpart,
    Nat.shiftLeft_eq]

theorem lowByte_toNat : (token &&& 0xff).toNat = token.toNat % 256 := by
  have hmask : (0xff : UInt32).toNat = 2 ^ 8 - 1 := by decide
  rw [UInt32.toNat_and, hmask, Nat.and_two_pow_sub_one_eq_mod]

theorem highPart_toNat : (token >>> 8).toNat = token.toNat / 256 := by
  have hshift : (8 : UInt32).toNat % 32 = 8 := by decide
  rw [UInt32.toNat_shiftRight, hshift, Nat.shiftRight_eq_div_pow]

theorem slotToken_lowByte (hslot : slot < 255) (generation : UInt32) :
    (slotToken slot generation &&& 0xff).toNat = slot + 1 := by
  have hlow : (UInt32.ofNat (slot + 1)).toNat = slot + 1 := by
    rw [UInt32.toNat_ofNat']
    omega
  have hhigh : (generation <<< 8).toNat % 2 ^ 8 = 0 := by
    rw [UInt32.toNat_shiftLeft, Nat.shiftLeft_eq]
    change generation.toNat * 256 % 4294967296 % 256 = 0
    omega
  rw [lowByte_toNat, slotToken, UInt32.toNat_or, hlow]
  change (_ ||| _) % 2 ^ 8 = _
  rw [Nat.or_mod_two_pow, hhigh, Nat.zero_or]
  omega

theorem slotToken_low (hslot : slot < 255) (h : generation ≤ 0xffffff) :
    (slotToken slot generation &&& 0xff).toNat = slot + 1 := by
  rw [lowByte_toNat, slotToken_toNat hslot h]
  omega

/-- The low byte of a token leads back to its slot. -/
theorem slotToken_index {n : Nat} (slot : Fin n) (hn : n ≤ 255) (generation : UInt32) :
    ∃ h : 1 ≤ (slotToken slot generation &&& 0xff).toNat ∧
        (slotToken slot generation &&& 0xff).toNat ≤ n,
      (⟨(slotToken slot generation &&& 0xff).toNat - 1, by omega⟩ : Fin n) = slot := by
  have hlow := slotToken_lowByte (slot.isLt.trans_le hn) generation
  exact ⟨by omega, Fin.ext (by dsimp only; omega)⟩

theorem slotToken_high (hslot : slot < 255) (h : generation ≤ 0xffffff) :
    slotToken slot generation >>> 8 = generation := by
  apply UInt32.toNat_inj.mp
  rw [highPart_toNat, slotToken_toNat hslot h]
  omega

theorem slotToken_inj (hslot : slot < 255) (hslot' : slot' < 255) (h : generation ≤ 0xffffff)
    (h' : generation' ≤ 0xffffff) (heq : slotToken slot generation = slotToken slot' generation') :
    slot = slot' ∧ generation = generation' := by
  constructor
  · have hlow := slotToken_low hslot h
    rw [heq, slotToken_low hslot' h'] at hlow
    omega
  · rw [← slotToken_high hslot h, heq, slotToken_high hslot' h']

/-- Every token is the token of what it names. -/
theorem slotToken_split : (token >>> 8) <<< 8 ||| (token &&& 0xff) = token := by
  apply UInt32.toNat_inj.mp
  have hlt := token.toNat_lt
  have hle : token >>> 8 ≤ 0xffffff := by
    apply UInt32.le_iff_toNat_le.mpr
    rw [highPart_toNat]
    show token.toNat / 256 ≤ 16777215
    omega
  have hpart : token.toNat % 256 < 2 ^ 8 := by omega
  rw [UInt32.toNat_or, shiftLeft_eight hle, lowByte_toNat, highPart_toNat,
    ← Nat.shiftLeft_add_eq_or_of_lt hpart, Nat.shiftLeft_eq]
  omega

theorem slotToken_of_low (h : (token &&& 0xff).toNat = slot + 1) :
    slotToken slot (token >>> 8) = token := by
  have hlow : UInt32.ofNat (slot + 1) = token &&& 0xff := by
    rw [← h, UInt32.ofNat_toNat]
  unfold slotToken
  rw [hlow]
  exact slotToken_split

end ReistOs
