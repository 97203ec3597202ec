import ReistOs.CriticalObject

namespace ReistOs.Critical

open Crc32

section Bytes

theorem wordByte_setWordByte (w : UInt32) (b : UInt8) (j k : Fin 4) :
    wordByte (setWordByte w k b) j = if j = k then b else wordByte w j := by
  have hw := w.toNat_lt
  have hb := b.toNat_lt
  apply UInt8.toNat_inj.mp
  fin_cases k
  all_goals
    fin_cases j
    all_goals
      simp [wordByte, setWordByte]
      omega

variable {k j : Nat} {b : UInt8} {i : Fin 20}

theorem payloadWord_val (hk : k < maxPayload) : (payloadWord k).val = 4 + k / 4 := by
  unfold maxPayload at hk
  show (4 + k / 4) % 20 = 4 + k / 4
  omega

variable {words : Words} {payload : List UInt8}

theorem payloadByte_storeByte (hj : j < maxPayload) (hk : k < maxPayload) :
    payloadByte (storeByte words k b) j = if j = k then b else payloadByte words j := by
  unfold payloadByte storeByte
  by_cases hword : payloadWord j = payloadWord k
  · have hdiv : j / 4 = k / 4 := by
      have h := congrArg Fin.val hword
      rw [payloadWord_val hj, payloadWord_val hk] at h
      omega
    rw [hword, Function.update_self]
    have hset := wordByte_setWordByte (words (payloadWord k)) b ⟨j % 4, by omega⟩ ⟨k % 4, by omega⟩
    simp only [Fin.mk.injEq] at hset
    rw [hset]
    by_cases hjk : j = k
    · rw [if_pos hjk, if_pos (by rw [hjk])]
    · rw [if_neg hjk, if_neg (by omega)]
  · have hjk : j ≠ k := by
      rintro rfl
      exact hword rfl
    rw [Function.update_of_ne hword, if_neg hjk]

theorem storeByte_metadata (hk : k < maxPayload) (hi : i.val < 4) :
    storeByte words k b i = words i := by
  apply Function.update_of_ne
  rintro rfl
  rw [payloadWord_val hk] at hi
  omega

theorem bytesCopy_metadata (hk : k + payload.length ≤ maxPayload) (hi : i.val < 4) :
    bytesCopy words k payload i = words i := by
  induction payload generalizing words k with
  | nil => rfl
  | cons b bs ih =>
    rw [List.length_cons] at hk
    show bytesCopy (storeByte words k b) (k + 1) bs i = words i
    rw [ih (by omega), storeByte_metadata (by omega) hi]

theorem payloadByte_bytesCopy (hk : k + payload.length ≤ maxPayload) (hj : j < maxPayload) :
    payloadByte (bytesCopy words k payload) j =
      if k ≤ j then payload.getD (j - k) (payloadByte words j) else payloadByte words j := by
  induction payload generalizing words k with
  | nil => simp [bytesCopy]
  | cons b bs ih =>
    rw [List.length_cons] at hk
    show payloadByte (bytesCopy (storeByte words k b) (k + 1) bs) j = _
    rw [ih (by omega), payloadByte_storeByte hj (by omega)]
    rcases Nat.lt_trichotomy j k with hlt | heq | hgt
    · rw [if_neg (by omega), if_neg (by omega), if_neg (by omega)]
    · subst heq
      simp
    · have hsub : j - k = j - (k + 1) + 1 := by omega
      rw [if_pos (by omega), if_neg (by omega), if_pos (by omega), hsub, List.getD_cons_succ]

theorem length_payloadOf (words : Words) (length : Nat) : (payloadOf words length).length = length := by
  simp [payloadOf]

end Bytes

section Built

variable (version sequence : UInt32) (state : IntegrityState) {payload : List UInt8}

def builtWords (version sequence : UInt32) (state : IntegrityState) (payload : List UInt8) : Words :=
  bytesCopy (metadataWords version sequence state payload.length) 0 payload

theorem copyBuild_eq (payload : List UInt8) :
    copyBuild version sequence state payload = copySeal (builtWords version sequence state payload) :=
  rfl

section

variable (h : payload.length ≤ maxPayload)
include h

theorem built_metadata {i : Fin 20} (hi : i.val < 4) :
    builtWords version sequence state payload i =
      metadataWords version sequence state payload.length i :=
  bytesCopy_metadata (by omega) hi

theorem built_version :
    builtWords version sequence state payload wordVersion = version := by
  rw [built_metadata _ _ _ h (by decide)]
  simp [metadataWords, wordVersion, wordSequence, wordLength, wordIntegrity]

theorem built_sequence :
    builtWords version sequence state payload wordSequence = sequence := by
  rw [built_metadata _ _ _ h (by decide)]
  simp [metadataWords, wordSequence, wordLength, wordIntegrity]

theorem built_integrity :
    builtWords version sequence state payload wordIntegrity = state.code := by
  rw [built_metadata _ _ _ h (by decide)]
  simp [metadataWords, wordIntegrity]

theorem built_length :
    (builtWords version sequence state payload wordLength).toNat = payload.length := by
  have hlt : payload.length < 4294967296 := by
    unfold maxPayload at h
    omega
  rw [built_metadata _ _ _ h (by decide)]
  simp [metadataWords, wordLength, wordIntegrity, hlt]

theorem payloadOf_built :
    payloadOf (builtWords version sequence state payload) payload.length = payload := by
  apply List.ext_getElem
  · exact length_payloadOf _ _
  · intro j hj hj'
    have hbyte : payloadByte (builtWords version sequence state payload) j =
        if 0 ≤ j then payload.getD (j - 0) _ else _ :=
      payloadByte_bytesCopy (by omega) (by omega)
    rw [if_pos (Nat.zero_le j), Nat.sub_zero, List.getD_eq_getElem?_getD,
      List.getElem?_eq_getElem hj', Option.getD_some] at hbyte
    simp only [payloadOf, List.getElem_map, List.getElem_range]
    exact hbyte

end

end Built

section Repair

variable {i : Fin 20} {is : List (Fin 20)} {copy : Copy} {corrected : Bool} {fixed : Fin 20 → Bool}

theorem repairWords_none (hi : i ∈ is) (hnodup : is.Nodup)
    (hdecode : secdedDecode (copy.words i) (copy.ecc i) = none) :
    repairWords is copy corrected = none := by
  induction is generalizing copy corrected with
  | nil => exact absurd hi (List.not_mem_nil)
  | cons j rest ih =>
    obtain ⟨hj, hrest⟩ := List.nodup_cons.mp hnodup
    unfold repairWords
    rcases List.mem_cons.mp hi with rfl | hmem
    · rw [hdecode]
    · cases secdedDecode (copy.words j) (copy.ecc j) with
      | none => rfl
      | some decoded =>
        have hne : i ≠ j := by
          rintro rfl
          exact hj hmem
        apply ih hmem hrest
        simp only [Function.update_of_ne hne]
        exact hdecode

theorem repairWords_some {word : Words} (hnodup : is.Nodup)
    (hdecode : ∀ i ∈ is, secdedDecode (copy.words i) (copy.ecc i) = some (word i, fixed i)) :
    repairWords is copy corrected = some
      ({ copy with
          words := fun i => if i ∈ is then word i else copy.words i
          ecc := fun i => if i ∈ is then secdedEncode (word i) else copy.ecc i },
        corrected || is.any fixed) := by
  induction is generalizing copy corrected with
  | nil => simp [repairWords]
  | cons j rest ih =>
    obtain ⟨hj, hrest⟩ := List.nodup_cons.mp hnodup
    unfold repairWords
    rw [hdecode j List.mem_cons_self]
    simp only
    rw [ih hrest]
    · have hwords : (fun i => if i ∈ rest then word i
          else Function.update copy.words j (word j) i) =
          fun i => if i ∈ j :: rest then word i else copy.words i := by
        funext i
        by_cases hij : i = j
        · subst hij
          simp [hj]
        · simp [hij]
      have hecc : (fun i => if i ∈ rest then secdedEncode (word i)
          else Function.update copy.ecc j (secdedEncode (word j)) i) =
          fun i => if i ∈ j :: rest then secdedEncode (word i) else copy.ecc i := by
        funext i
        by_cases hij : i = j
        · subst hij
          simp [hj]
        · simp [hij]
      simp only [hwords, hecc, List.any_cons, Bool.or_assoc]
    · intro i hi
      have hne : i ≠ j := by
        rintro rfl
        exact hj hi
      simp only [Function.update_of_ne hne]
      exact hdecode i (List.mem_cons_of_mem _ hi)

theorem copyCheck_none_of_word (hdecode : secdedDecode (copy.words i) (copy.ecc i) = none)
    (version : UInt32) (validator : Validator) : copyCheck copy version validator = none := by
  unfold copyCheck
  rw [repairWords_none (List.mem_finRange i) (List.nodup_finRange 20) hdecode]

/-- What a copy's metadata and payload must be for the check to let it pass. -/
def Admissible (words : Words) (version : UInt32) (validator : Validator) : Prop :=
  words wordVersion = version ∧ (words wordLength).toNat ≤ maxPayload ∧
    words wordIntegrity ≤ IntegrityState.recovered.code ∧
    validator.accepts (payloadOf words (words wordLength).toNat) = true

theorem copyCheck_of_decodes {words : Words} {version : UInt32} {validator : Validator}
    (hdecode : ∀ i, secdedDecode (copy.words i) (copy.ecc i) = some (words i, fixed i))
    (hcrc : copy.crc32 = (copySeal words).crc32) (hadmissible : Admissible words version validator) :
    copyCheck copy version validator = some (copySeal words, (List.finRange 20).any fixed) := by
  obtain ⟨hversion, hlength, hintegrity, haccepts⟩ := hadmissible
  have hrepair : repairWords (List.finRange 20) copy false = some (_, _) :=
    repairWords_some (List.nodup_finRange 20) fun i _ => hdecode i
  have hseal : ({ copy with
      words := fun i => if i ∈ List.finRange 20 then words i else copy.words i
      ecc := fun i => if i ∈ List.finRange 20 then secdedEncode (words i) else copy.ecc i } : Copy) =
      copySeal words := by
    simp [copySeal, hcrc]
  rw [hseal] at hrepair
  unfold copyCheck
  rw [hrepair]
  have hlow : ¬ maxPayload < (words wordLength).toNat := by omega
  have hstate : ¬ IntegrityState.recovered.code < words wordIntegrity := UInt32.not_lt.mpr hintegrity
  simp [copySeal, hversion, hlow, hstate, haccepts]

end Repair

theorem shift_even {y : UInt32} (hy : y.toNat % 2 = 0) : (shift y).toNat = y.toNat / 2 := by
  have hbit : y &&& 1 = 0 := by
    apply UInt32.toNat_inj.mp
    rw [UInt32.toNat_and]
    exact (Nat.and_one_is_mod _).trans hy
  unfold shift
  rw [hbit]
  simp [Nat.shiftRight_eq_div_pow]

theorem shift_xor (a b : UInt32) : shift (a ^^^ b) = shift a ^^^ shift b := by
  have table : ∀ m n : Fin 2,
      (0xEDB88320 : UInt32) &&& (0 - (UInt32.ofNat m ^^^ UInt32.ofNat n)) =
        (0xEDB88320 &&& (0 - UInt32.ofNat m)) ^^^ (0xEDB88320 &&& (0 - UInt32.ofNat n)) := by decide
  have low : ∀ x : UInt32, ∃ m : Fin 2, x &&& 1 = UInt32.ofNat m :=
    fun x => XorLinear.and_ofNat x (by decide)
  obtain ⟨m, hm⟩ := low a
  obtain ⟨n, hn⟩ := low b
  unfold shift
  rw [XorLinear.shiftRight_xor, XorLinear.and_xor, hm, hn, table m n]
  ac_rfl

theorem repeat_shift_xor (k : Nat) (a b : UInt32) :
    Nat.repeat shift k (a ^^^ b) =
      Nat.repeat shift k a ^^^ Nat.repeat shift k b := by
  induction k with
  | zero => rfl
  | succ k ih =>
    simp only [Nat.repeat]
    rw [ih, shift_xor]

theorem repeat_shift_of_low {x : UInt32} (hx : x.toNat % 256 = 0) {k : Nat} (hk : k ≤ 8) :
    (Nat.repeat shift k x).toNat = x.toNat / 2 ^ k := by
  induction k with
  | zero => simp [Nat.repeat]
  | succ k ih =>
    have hprev := ih (by omega)
    have heven : x.toNat / 2 ^ k % 2 = 0 := by
      have hlt : k < 8 := hk
      interval_cases k
      all_goals omega
    show (shift (Nat.repeat shift k x)).toNat = _
    rw [shift_even (by rw [hprev]; exact heven), hprev, Nat.div_div_eq_div_mul, Nat.pow_succ]

def shiftValue (x : Nat) : Nat := x / 2 ^^^ 0xEDB88320 * (x % 2)

theorem shift_value (x : UInt32) : (shift x).toNat = shiftValue x.toNat := by
  unfold shift shiftValue
  have hlow : (x &&& 1).toNat = x.toNat % 2 := by
    rw [UInt32.toNat_and]
    exact Nat.and_one_is_mod _
  have hmask : ((0xEDB88320 : UInt32) &&& (0 - (x &&& 1))).toNat = 0xEDB88320 * (x.toNat % 2) := by
    rcases Nat.mod_two_eq_zero_or_one x.toNat with h | h
    · have hzero : x &&& 1 = 0 := UInt32.toNat_inj.mp (hlow.trans h)
      rw [hzero, h]
      rfl
    · have hone : x &&& 1 = 1 := UInt32.toNat_inj.mp (hlow.trans h)
      rw [hone, h]
      rfl
  rw [UInt32.toNat_xor, hmask, UInt32.toNat_shiftRight]
  simp [Nat.shiftRight_eq_div_pow]

theorem repeat_shift_value (k : Nat) (x : UInt32) :
    (Nat.repeat shift k x).toNat = Nat.repeat shiftValue k x.toNat := by
  induction k with
  | zero => rfl
  | succ k ih =>
    simp only [Nat.repeat]
    rw [shift_value, ih]

theorem crcTable_entry (n : Fin 256) :
    crcTable.getD n 0 = Nat.repeat shift 8 (UInt32.ofNat n) := by
  have htable : crcTable.map UInt32.toNat = (List.range 256).map (Nat.repeat shiftValue 8) := by
    decide +kernel
  have hlength : n.val < crcTable.length := by
    have hlengths := congrArg List.length htable
    rw [List.length_map, List.length_map, List.length_range] at hlengths
    rw [hlengths]
    exact n.isLt
  have hentry : (crcTable.map UInt32.toNat)[n.val]? =
      ((List.range 256).map (Nat.repeat shiftValue 8))[n.val]? := by rw [htable]
  rw [List.getElem?_map, List.getElem?_map, List.getElem?_eq_getElem hlength,
    List.getElem?_range n.isLt] at hentry
  have hvalue := Option.some.inj hentry
  apply UInt32.toNat_inj.mp
  rw [repeat_shift_value, List.getD_eq_getElem?_getD, List.getElem?_eq_getElem hlength]
  have hn : (UInt32.ofNat n).toNat = n := by
    have := n.isLt
    simp
    omega
  rw [hn]
  exact hvalue

theorem crc32Step_eq_absorb (crc : UInt32) (b : UInt8) : crc32Step crc b = absorb crc b := by
  unfold crc32Step absorb
  generalize hx : crc ^^^ b.toUInt32 = x
  have hlow : (x &&& 255).toNat = x.toNat % 256 := by
    rw [UInt32.toNat_and]
    exact Nat.and_two_pow_sub_one_eq_mod x.toNat 8
  have hb : b.toUInt32.toNat / 256 = 0 := by
    have := b.toNat_lt
    rw [UInt8.toNat_toUInt32]
    omega
  have hhigh : (x ^^^ (x &&& 255)).toNat % 256 = 0 := by
    rw [UInt32.toNat_xor, hlow]
    have h := Nat.xor_mod_two_pow (a := x.toNat) (b := x.toNat % 256) (n := 8)
    rw [show (2 : Nat) ^ 8 = 256 by rfl] at h
    rw [h, Nat.mod_mod, Nat.xor_self]
  have hsplit : x = (x ^^^ (x &&& 255)) ^^^ (x &&& 255) := by
    rw [UInt32.xor_assoc, UInt32.xor_self, UInt32.xor_zero]
  have hentry := crcTable_entry ⟨(x &&& 255).toNat, by omega⟩
  simp only [UInt32.ofNat_toNat] at hentry
  have hshift : Nat.repeat shift 8 (x ^^^ (x &&& 255)) = crc >>> 8 := by
    apply UInt32.toNat_inj.mp
    rw [repeat_shift_of_low hhigh (Nat.le_refl 8), UInt32.toNat_xor, hlow, ← hx, UInt32.toNat_xor,
      Nat.xor_div_two_pow, Nat.xor_div_two_pow]
    show (crc.toNat / 256 ^^^ b.toUInt32.toNat / 256) ^^^ _ / 256 = _
    have hrest : (crc.toNat ^^^ b.toUInt32.toNat) % 256 / 256 = 0 := by omega
    rw [hb, hrest]
    simp [Nat.shiftRight_eq_div_pow]
  calc crc >>> 8 ^^^ crcTable.getD (x &&& 255).toNat 0
      = Nat.repeat shift 8 (x ^^^ (x &&& 255)) ^^^ Nat.repeat shift 8 (x &&& 255) := by
        rw [hshift, hentry]
    _ = Nat.repeat shift 8 x := by rw [← repeat_shift_xor, ← hsplit]

theorem crc32Bytes_eq_update (data : List UInt8) (crc : UInt32) :
    crc32Bytes data crc = Crc32.update crc data := by
  unfold crc32Bytes Crc32.update
  congr 1
  funext crc b
  exact crc32Step_eq_absorb crc b

theorem copyCrc_eq (words : Words) (ecc : Fin 20 → UInt8) :
    copyCrc words ecc = crc32 (wordsBytes words ++ (List.finRange 20).map ecc) := by
  unfold copyCrc crc32
  rw [crc32Bytes_eq_update, crc32Bytes_eq_update, update_append]

end ReistOs.Critical
