import ReistOs.CriticalFaults

namespace ReistOs.Critical

inductive CopyStore where
  | word (i : Fin 20) (value : UInt32)
  | payloadByte (k : Nat) (value : UInt8)
  | ecc (i : Fin 20) (value : UInt8)
  | crc (value : UInt32)

def CopyStore.run (copy : Copy) : CopyStore → Copy
  | word i value => { copy with words := Function.update copy.words i value }
  | payloadByte k value => { copy with words := storeByte copy.words k value }
  | ecc i value => { copy with ecc := Function.update copy.ecc i value }
  | crc value => { copy with crc32 := value }

def runStores (copy : Copy) (stores : List CopyStore) : Copy := stores.foldl CopyStore.run copy

def assignStores (source : Copy) : List CopyStore :=
  (List.finRange 20).map (fun i => .word i (source.words i)) ++
    (List.finRange 20).map (fun i => .ecc i (source.ecc i)) ++ [.crc source.crc32]

/-- The stores of a payload's byte copy, from payload byte `k` on. -/
def payloadStores (k : Nat) : List UInt8 → List CopyStore
  | [] => []
  | b :: bs => .payloadByte k b :: payloadStores (k + 1) bs

/-- The stores of a build in place: the words are cleared before anything is written. -/
def buildStores (version sequence : UInt32) (state : IntegrityState) (payload : List UInt8) :
    List CopyStore :=
  let built := copyBuild version sequence state payload
  (List.finRange 20).map (fun i => .word i 0) ++
    [.word wordVersion version, .word wordSequence sequence,
      .word wordLength (UInt32.ofNat payload.length), .word wordIntegrity state.code] ++
    payloadStores 0 payload ++
    (List.finRange 20).map (fun i => .ecc i (built.ecc i)) ++ [.crc built.crc32]

theorem runStores_append (copy : Copy) (xs ys : List CopyStore) :
    runStores copy (xs ++ ys) = runStores (runStores copy xs) ys := List.foldl_append

theorem runStores_words (copy : Copy) (value : Words) (is : List (Fin 20)) :
    runStores copy (is.map fun i => .word i (value i)) =
      { copy with words := fun i => if i ∈ is then value i else copy.words i } := by
  induction is generalizing copy with
  | nil => simp [runStores]
  | cons j rest ih =>
    show runStores (CopyStore.run copy (.word j (value j)))
      (rest.map fun i => .word i (value i)) = _
    rw [ih]
    simp only [CopyStore.run]
    congr 1
    funext i
    by_cases hij : i = j
    · subst hij
      simp
    · simp [hij]

theorem runStores_ecc (copy : Copy) (value : Fin 20 → UInt8) (is : List (Fin 20)) :
    runStores copy (is.map fun i => .ecc i (value i)) =
      { copy with ecc := fun i => if i ∈ is then value i else copy.ecc i } := by
  induction is generalizing copy with
  | nil => simp [runStores]
  | cons j rest ih =>
    show runStores (CopyStore.run copy (.ecc j (value j))) (rest.map fun i => .ecc i (value i)) = _
    rw [ih]
    simp only [CopyStore.run]
    congr 1
    funext i
    by_cases hij : i = j
    · subst hij
      simp
    · simp [hij]

theorem runStores_payload (copy : Copy) (k : Nat) (payload : List UInt8) :
    runStores copy (payloadStores k payload) =
      { copy with words := bytesCopy copy.words k payload } := by
  induction payload generalizing copy k with
  | nil => rfl
  | cons b bs ih =>
    show runStores (CopyStore.run copy (.payloadByte k b)) (payloadStores (k + 1) bs) = _
    rw [ih]
    rfl

theorem runStores_assign (copy source : Copy) : runStores copy (assignStores source) = source := by
  unfold assignStores
  rw [runStores_append, runStores_append, runStores_words, runStores_ecc]
  simp [runStores, CopyStore.run]

theorem runStores_build (copy : Copy) (version sequence : UInt32) (state : IntegrityState)
    (payload : List UInt8) :
    runStores copy (buildStores version sequence state payload) =
      copyBuild version sequence state payload := by
  have hmetadata : ∀ cleared : Copy, (cleared.words = fun _ => 0) →
      runStores cleared [.word wordVersion version, .word wordSequence sequence,
        .word wordLength (UInt32.ofNat payload.length), .word wordIntegrity state.code] =
      { cleared with words := metadataWords version sequence state payload.length } := by
    intro cleared h
    simp [runStores, CopyStore.run, metadataWords, h]
  unfold buildStores
  simp only [runStores_append, runStores_ecc]
  rw [runStores_words copy (fun _ => 0), hmetadata _ (by simp), runStores_payload]
  simp [runStores, CopyStore.run, copyBuild, copySeal]

inductive ObjectStore where
  | primary (store : CopyStore)
  | shadow (store : CopyStore)

def ObjectStore.run (object : Object) : ObjectStore → Object
  | primary store => { object with primary := CopyStore.run object.primary store }
  | shadow store => { object with shadow := CopyStore.run object.shadow store }

def runObject (object : Object) (stores : List ObjectStore) : Object :=
  stores.foldl ObjectStore.run object

/-- The calls that publish: an update with its payload, and a read with its repair. -/
inductive Call where
  | update (payload : List UInt8)
  | read

variable (object : Object) (version : UInt32) (capacity : Nat) (validator : Validator)

/-- The stores of an update: the shadow first, then the primary. -/
def updateStores (payload : List UInt8) : List ObjectStore :=
  if payload.length = 0 ∨ maxPayload < payload.length ∨ version = 0 then []
  else
    match updateCandidate object version payload validator with
    | none => []
    | some candidate =>
      (assignStores candidate).map .shadow ++ (assignStores candidate).map .primary

/-- The repair stores of a read: the primary is rebuilt in place, then the shadow is assigned. -/
def readStores : List ObjectStore :=
  if version = 0 then []
  else
    match selectCopy (copyCheck object.primary version validator)
        (copyCheck object.shadow version validator) with
    | none => []
    | some (chosen, result) =>
      let length := (chosen.words wordLength).toNat
      if length > capacity then []
      else
        (buildStores (chosen.words wordVersion) (chosen.words wordSequence) (repairState result)
            (payloadOf chosen.words length)).map .primary ++
          (assignStores (repairCopy chosen result)).map .shadow

def Call.stores : Call → List ObjectStore
  | update payload => updateStores object version validator payload
  | read => readStores object version capacity validator

theorem runObject_append (xs ys : List ObjectStore) :
    runObject object (xs ++ ys) = runObject (runObject object xs) ys := List.foldl_append

theorem runObject_primary (stores : List CopyStore) :
    runObject object (stores.map .primary) =
      { object with primary := runStores object.primary stores } := by
  induction stores generalizing object with
  | nil => rfl
  | cons store rest ih =>
    show runObject (ObjectStore.run object (.primary store)) (rest.map .primary) = _
    rw [ih]
    rfl

theorem runObject_shadow (stores : List CopyStore) :
    runObject object (stores.map .shadow) =
      { object with shadow := runStores object.shadow stores } := by
  induction stores generalizing object with
  | nil => rfl
  | cons store rest ih =>
    show runObject (ObjectStore.run object (.shadow store)) (rest.map .shadow) = _
    rw [ih]
    rfl

theorem unlock_free (hlock : object.publicationLock = 0) : object.unlock = object := by
  cases object
  simp_all [Object.unlock]

theorem update_eq_stores (payload : List UInt8) (hlock : object.publicationLock = 0) :
    (update object version payload validator).2 =
      (runObject object (updateStores object version validator payload)).unlock := by
  have hlocked : updateCandidate { object with publicationLock := 1 } version payload validator =
      updateCandidate object version payload validator := rfl
  unfold update updateStores
  by_cases hargs : payload.length = 0 ∨ maxPayload < payload.length ∨ version = 0
  · rw [if_pos hargs, if_pos hargs]
    exact (unlock_free object hlock).symm
  · rw [if_neg hargs, if_neg hargs]
    unfold Object.lock
    rw [if_pos hlock]
    simp only [hlocked]
    cases updateCandidate object version payload validator with
    | none => rfl
    | some candidate =>
      rw [runObject_append, runObject_shadow, runObject_primary, runStores_assign,
        runStores_assign]
      rfl

theorem read_eq_stores (hlock : object.publicationLock = 0) :
    (read object version capacity validator).2.2 =
      (runObject object (readStores object version capacity validator)).unlock := by
  unfold read readStores
  by_cases hversion : version = 0
  · rw [if_pos hversion, if_pos hversion]
    exact (unlock_free object hlock).symm
  · rw [if_neg hversion, if_neg hversion]
    unfold Object.lock
    rw [if_pos hlock]
    simp only
    cases selectCopy (copyCheck object.primary version validator)
        (copyCheck object.shadow version validator) with
    | none => rfl
    | some selected =>
      obtain ⟨chosen, result⟩ := selected
      simp only
      by_cases hlength : (chosen.words wordLength).toNat > capacity
      · rw [if_pos hlength, if_pos hlength]
        rfl
      · rw [if_neg hlength, if_neg hlength, runObject_append, runObject_primary, runObject_shadow,
          runStores_build, runStores_assign]
        rfl

end ReistOs.Critical
