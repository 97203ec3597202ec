import ReistOs.ResilientPage

namespace ReistOs.Pages

open Critical Metadata

section Encoding

theorem wordOfBytes_wordByte (w : UInt32) :
    wordOfBytes (wordByte w 0) (wordByte w 1) (wordByte w 2)
      (wordByte w 3) = w := by
  have hw := w.toNat_lt
  apply UInt32.toNat_inj.mp
  simp [wordOfBytes, wordByte]
  omega

theorem bytesWords_wordBytes (w : UInt32) (rest : List UInt8) :
    bytesWords (wordBytes w ++ rest) = w :: bytesWords rest := by
  have hbytes : wordBytes w = [wordByte w 0, wordByte w 1, wordByte w 2,
      wordByte w 3] := rfl
  rw [hbytes]
  show wordOfBytes _ _ _ _ :: bytesWords rest = _
  rw [wordOfBytes_wordByte]

theorem bytesWords_flatMap (words : List UInt32) : bytesWords (words.flatMap wordBytes) = words := by
  induction words with
  | nil => rfl
  | cons w rest ih => rw [List.flatMap_cons, bytesWords_wordBytes, ih]

theorem pair_eta (f : Fin 2 → UInt32) : pair (f 0) (f 1) = f := by
  funext i
  fin_cases i
  · rfl
  · rfl

variable (metadata : Metadata)

theorem ofWords_words : Metadata.ofWords metadata.words = some metadata := by
  simp only [ofWords, words, pair_eta]

theorem ofWords_bytes : Metadata.ofWords (bytesWords metadata.bytes) = some metadata := by
  unfold bytes
  rw [bytesWords_flatMap, ofWords_words]

theorem length_bytes : metadata.bytes.length = metadataLength := by
  simp [bytes, words, wordBytes, metadataLength]

theorem metadataValid_bytes : metadataValid metadata.bytes = fieldsValid metadata := by
  unfold metadataValid
  rw [if_neg (by simp [length_bytes]), ofWords_bytes]

theorem accepts_bytes {metadata : Metadata} (h : fieldsValid metadata = true) :
    Critical.Validator.accepts (some metadataValid) metadata.bytes = true :=
  (metadataValid_bytes metadata).trans h

end Encoding

section Sealed

/-- The critical object of an undisturbed page: both copies hold the metadata. -/
def sealedObject (sequence : UInt32) (metadata : Metadata) : Critical.Object :=
  { publicationLock := 0, primary := Critical.copyBuild 1 sequence .healthy metadata.bytes
    shadow := Critical.copyBuild 1 sequence .healthy metadata.bytes }

variable {sequence : UInt32} {metadata : Metadata}

theorem bytes_le : metadata.bytes.length ≤ maxPayload := by
  rw [length_bytes]
  decide

theorem copyCheck_sealed (h : fieldsValid metadata = true) :
    copyCheck (copyBuild 1 sequence .healthy metadata.bytes) 1
        (some metadataValid) =
      some (copyBuild 1 sequence .healthy metadata.bytes, false) :=
  copyCheck_copySeal (built_admissible bytes_le (by decide) (accepts_bytes h))

theorem sealed_words :
    (copyBuild 1 sequence .healthy metadata.bytes).words =
      builtWords 1 sequence .healthy metadata.bytes := rfl

theorem read_sealed (h : fieldsValid metadata = true) :
    Critical.read (sealedObject sequence metadata) 1 metadataLength (some metadataValid) =
      (.ok, some metadata.bytes, sealedObject sequence metadata) := by
  have hselect : selectCopy
      (copyCheck (sealedObject sequence metadata).primary 1 (some metadataValid))
      (copyCheck (sealedObject sequence metadata).shadow 1 (some metadataValid)) =
      some (copyBuild 1 sequence .healthy metadata.bytes, .ok) := by
    unfold sealedObject
    simp only [copyCheck_sealed h]
    simp [selectCopy, copiesEqual_self]
  have hlength : ((copyBuild 1 sequence .healthy metadata.bytes).words
      wordLength).toNat = metadata.bytes.length := by
    rw [sealed_words, built_length _ _ _ bytes_le]
  have hpayload : payloadOf (copyBuild 1 sequence .healthy metadata.bytes).words
      metadata.bytes.length = metadata.bytes := by
    rw [sealed_words, payloadOf_built _ _ _ bytes_le]
  have hfits : ((copyBuild 1 sequence .healthy metadata.bytes).words
      wordLength).toNat ≤ metadataLength := by
    rw [hlength, length_bytes]
  rw [read_of_selected (by decide) rfl hselect hfits, hlength, hpayload]
  have hrepair : repairCopy (copyBuild 1 sequence .healthy metadata.bytes) .ok =
      copyBuild 1 sequence .healthy metadata.bytes := by
    unfold repairCopy
    rw [hlength, hpayload, sealed_words, built_version _ _ _ bytes_le,
      built_sequence _ _ _ bytes_le]
    rfl
  rw [hrepair]
  rfl

theorem update_sealed (h : fieldsValid metadata = true) (next : Metadata) :
    Critical.update (sealedObject sequence metadata) 1 next.bytes (some metadataValid) =
      if sequence + 1 = 0 then (-1, sealedObject sequence metadata)
      else (0, sealedObject (sequence + 1) next) := by
  have hcurrent : updateCandidate { sealedObject sequence metadata with
      publicationLock := 1 } 1 next.bytes (some metadataValid) =
      if sequence + 1 = 0 then none
      else some (copyBuild 1 (sequence + 1) .healthy next.bytes) := by
    have hsequence : (copyBuild 1 sequence .healthy metadata.bytes).words
        wordSequence = sequence := by
      rw [sealed_words, built_sequence _ _ _ bytes_le]
    unfold updateCandidate sealedObject
    simp [copyCheck_sealed h, currentSequence, copiesEqual_self, hsequence]
  have hargs : ¬ (next.bytes.length = 0 ∨ maxPayload < next.bytes.length ∨
      (1 : UInt32) = 0) := by
    rw [length_bytes]
    decide
  have hlock : (sealedObject sequence metadata).publicationLock = 0 := rfl
  unfold Critical.update
  rw [if_neg hargs]
  unfold Critical.Object.lock
  rw [if_pos hlock]
  simp only [hcurrent]
  by_cases hspent : sequence + 1 = 0
  · simp only [if_pos hspent]
    rfl
  · simp only [if_neg hspent]
    rfl

theorem init_sealed (object : Critical.Object) (metadata : Metadata) :
    init object 1 metadata.bytes = (0, sealedObject 1 metadata) := by
  have hargs : ¬ ((1 : UInt32) = 0 ∨ metadata.bytes.length = 0 ∨
      maxPayload < metadata.bytes.length) := by
    rw [length_bytes]
    decide
  unfold init
  rw [if_neg hargs]
  rfl

end Sealed

variable {pool : Pool} {slot : Nat} {sequence : UInt32} {metadata : Metadata}

theorem setMetadata_self (pool : Pool) (slot : Nat) :
    pool.setMetadata slot (pool.slots slot).metadata = pool := by
  simp [Pool.setMetadata, Pool.setSlot]

theorem metadataRead_sealed (hobject : (pool.slots slot).metadata = sealedObject sequence metadata)
    (h : fieldsValid metadata = true) : metadataRead pool slot = (some metadata, pool) := by
  have hself : pool.setMetadata slot (sealedObject sequence metadata) = pool := by
    rw [← hobject]
    exact setMetadata_self pool slot
  unfold metadataRead
  rw [hobject, read_sealed h]
  simp only [hself]
  rw [if_neg (by simp [length_bytes]), ofWords_bytes]

theorem metadataUpdate_sealed
    (hobject : (pool.slots slot).metadata = sealedObject sequence metadata)
    (h : fieldsValid metadata = true) {next : Metadata} (hnext : fieldsValid next = true) :
    metadataUpdate pool slot next =
      if sequence + 1 = 0 then (false, pool)
      else (true, pool.setMetadata slot (sealedObject (sequence + 1) next)) := by
  have hself : pool.setMetadata slot (sealedObject sequence metadata) = pool := by
    rw [← hobject]
    exact setMetadata_self pool slot
  unfold metadataUpdate
  rw [metadataValid_bytes, hnext, hobject, update_sealed h]
  by_cases hspent : sequence + 1 = 0
  · simp [hspent, hself]
  · simp [hspent]

end ReistOs.Pages
