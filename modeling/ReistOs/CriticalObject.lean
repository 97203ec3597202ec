import ReistOs.Crc32
import ReistOs.CriticalSecded

namespace ReistOs.Critical

def crcTable : List UInt32 :=
  [
    0x00000000, 0x77073096, 0xee0e612c, 0x990951ba, 0x076dc419, 0x706af48f, 0xe963a535, 0x9e6495a3,
    0x0edb8832, 0x79dcb8a4, 0xe0d5e91e, 0x97d2d988, 0x09b64c2b, 0x7eb17cbd, 0xe7b82d07, 0x90bf1d91,
    0x1db71064, 0x6ab020f2, 0xf3b97148, 0x84be41de, 0x1adad47d, 0x6ddde4eb, 0xf4d4b551, 0x83d385c7,
    0x136c9856, 0x646ba8c0, 0xfd62f97a, 0x8a65c9ec, 0x14015c4f, 0x63066cd9, 0xfa0f3d63, 0x8d080df5,
    0x3b6e20c8, 0x4c69105e, 0xd56041e4, 0xa2677172, 0x3c03e4d1, 0x4b04d447, 0xd20d85fd, 0xa50ab56b,
    0x35b5a8fa, 0x42b2986c, 0xdbbbc9d6, 0xacbcf940, 0x32d86ce3, 0x45df5c75, 0xdcd60dcf, 0xabd13d59,
    0x26d930ac, 0x51de003a, 0xc8d75180, 0xbfd06116, 0x21b4f4b5, 0x56b3c423, 0xcfba9599, 0xb8bda50f,
    0x2802b89e, 0x5f058808, 0xc60cd9b2, 0xb10be924, 0x2f6f7c87, 0x58684c11, 0xc1611dab, 0xb6662d3d,
    0x76dc4190, 0x01db7106, 0x98d220bc, 0xefd5102a, 0x71b18589, 0x06b6b51f, 0x9fbfe4a5, 0xe8b8d433,
    0x7807c9a2, 0x0f00f934, 0x9609a88e, 0xe10e9818, 0x7f6a0dbb, 0x086d3d2d, 0x91646c97, 0xe6635c01,
    0x6b6b51f4, 0x1c6c6162, 0x856530d8, 0xf262004e, 0x6c0695ed, 0x1b01a57b, 0x8208f4c1, 0xf50fc457,
    0x65b0d9c6, 0x12b7e950, 0x8bbeb8ea, 0xfcb9887c, 0x62dd1ddf, 0x15da2d49, 0x8cd37cf3, 0xfbd44c65,
    0x4db26158, 0x3ab551ce, 0xa3bc0074, 0xd4bb30e2, 0x4adfa541, 0x3dd895d7, 0xa4d1c46d, 0xd3d6f4fb,
    0x4369e96a, 0x346ed9fc, 0xad678846, 0xda60b8d0, 0x44042d73, 0x33031de5, 0xaa0a4c5f, 0xdd0d7cc9,
    0x5005713c, 0x270241aa, 0xbe0b1010, 0xc90c2086, 0x5768b525, 0x206f85b3, 0xb966d409, 0xce61e49f,
    0x5edef90e, 0x29d9c998, 0xb0d09822, 0xc7d7a8b4, 0x59b33d17, 0x2eb40d81, 0xb7bd5c3b, 0xc0ba6cad,
    0xedb88320, 0x9abfb3b6, 0x03b6e20c, 0x74b1d29a, 0xead54739, 0x9dd277af, 0x04db2615, 0x73dc1683,
    0xe3630b12, 0x94643b84, 0x0d6d6a3e, 0x7a6a5aa8, 0xe40ecf0b, 0x9309ff9d, 0x0a00ae27, 0x7d079eb1,
    0xf00f9344, 0x8708a3d2, 0x1e01f268, 0x6906c2fe, 0xf762575d, 0x806567cb, 0x196c3671, 0x6e6b06e7,
    0xfed41b76, 0x89d32be0, 0x10da7a5a, 0x67dd4acc, 0xf9b9df6f, 0x8ebeeff9, 0x17b7be43, 0x60b08ed5,
    0xd6d6a3e8, 0xa1d1937e, 0x38d8c2c4, 0x4fdff252, 0xd1bb67f1, 0xa6bc5767, 0x3fb506dd, 0x48b2364b,
    0xd80d2bda, 0xaf0a1b4c, 0x36034af6, 0x41047a60, 0xdf60efc3, 0xa867df55, 0x316e8eef, 0x4669be79,
    0xcb61b38c, 0xbc66831a, 0x256fd2a0, 0x5268e236, 0xcc0c7795, 0xbb0b4703, 0x220216b9, 0x5505262f,
    0xc5ba3bbe, 0xb2bd0b28, 0x2bb45a92, 0x5cb36a04, 0xc2d7ffa7, 0xb5d0cf31, 0x2cd99e8b, 0x5bdeae1d,
    0x9b64c2b0, 0xec63f226, 0x756aa39c, 0x026d930a, 0x9c0906a9, 0xeb0e363f, 0x72076785, 0x05005713,
    0x95bf4a82, 0xe2b87a14, 0x7bb12bae, 0x0cb61b38, 0x92d28e9b, 0xe5d5be0d, 0x7cdcefb7, 0x0bdbdf21,
    0x86d3d2d4, 0xf1d4e242, 0x68ddb3f8, 0x1fda836e, 0x81be16cd, 0xf6b9265b, 0x6fb077e1, 0x18b74777,
    0x88085ae6, 0xff0f6a70, 0x66063bca, 0x11010b5c, 0x8f659eff, 0xf862ae69, 0x616bffd3, 0x166ccf45,
    0xa00ae278, 0xd70dd2ee, 0x4e048354, 0x3903b3c2, 0xa7672661, 0xd06016f7, 0x4969474d, 0x3e6e77db,
    0xaed16a4a, 0xd9d65adc, 0x40df0b66, 0x37d83bf0, 0xa9bcae53, 0xdebb9ec5, 0x47b2cf7f, 0x30b5ffe9,
    0xbdbdf21c, 0xcabac28a, 0x53b39330, 0x24b4a3a6, 0xbad03605, 0xcdd70693, 0x54de5729, 0x23d967bf,
    0xb3667a2e, 0xc4614ab8, 0x5d681b02, 0x2a6f2b94, 0xb40bbe37, 0xc30c8ea1, 0x5a05df1b, 0x2d02ef8d
  ]

def crc32Step (crc : UInt32) (b : UInt8) : UInt32 :=
  (crc >>> 8) ^^^ crcTable.getD ((crc ^^^ b.toUInt32) &&& 255).toNat 0

def crc32Bytes (data : List UInt8) (crc : UInt32) : UInt32 := data.foldl crc32Step crc

abbrev Words := Fin 20 → UInt32

def maxPayload : Nat := 64

def wordVersion : Fin 20 := 0

def wordSequence : Fin 20 := 1

def wordLength : Fin 20 := 2

def wordIntegrity : Fin 20 := 3

/-- The byte of a word at an address below its four, least significant first. -/
def wordByte (w : UInt32) (k : Nat) : UInt8 := UInt8.ofNat (w.toNat / 256 ^ k)

def setWordByte (w : UInt32) (k : Nat) (b : UInt8) : UInt32 :=
  UInt32.ofNat (w.toNat - (wordByte w k).toNat * 256 ^ k + b.toNat * 256 ^ k)

def payloadWord (k : Nat) : Fin 20 := Fin.ofNat 20 (4 + k / 4)

def payloadByte (words : Words) (k : Nat) : UInt8 := wordByte (words (payloadWord k)) (k % 4)

def payloadOf (words : Words) (length : Nat) : List UInt8 :=
  (List.range length).map (payloadByte words)

def storeByte (words : Words) (k : Nat) (b : UInt8) : Words :=
  Function.update words (payloadWord k) (setWordByte (words (payloadWord k)) (k % 4) b)

/-- The byte copy into the payload words, from payload byte `k` on. -/
def bytesCopy (words : Words) (k : Nat) : List UInt8 → Words
  | [] => words
  | b :: bs => bytesCopy (storeByte words k b) (k + 1) bs

structure Copy where
  words : Words
  ecc : Fin 20 → UInt8
  crc32 : UInt32
  deriving DecidableEq

/-- A validator sees the payload bytes that the copy's length word counts. -/
abbrev Validator := Option (List UInt8 → Bool)

def Validator.accepts (validator : Validator) (payload : List UInt8) : Bool :=
  match validator with
  | none => true
  | some validate => validate payload

inductive IntegrityState where
  | healthy
  | corrected
  | recovered
  | uncorrectable
  deriving DecidableEq

def IntegrityState.code : IntegrityState → UInt32
  | healthy => 0
  | corrected => 1
  | recovered => 2
  | uncorrectable => 3

def wordsBytes (words : Words) : List UInt8 :=
  (List.finRange 20).flatMap fun i => (List.range 4).map (wordByte (words i))

def copyCrc (words : Words) (ecc : Fin 20 → UInt8) : UInt32 :=
  crc32Bytes ((List.finRange 20).map ecc) (crc32Bytes (wordsBytes words) 0xFFFFFFFF) ^^^ 0xFFFFFFFF

def copySeal (words : Words) : Copy :=
  let ecc := fun i => secdedEncode (words i)
  { words := words, ecc := ecc, crc32 := copyCrc words ecc }

def metadataWords (version sequence : UInt32) (state : IntegrityState) (length : Nat) : Words :=
  let words : Words := fun _ => 0
  let words := Function.update words wordVersion version
  let words := Function.update words wordSequence sequence
  let words := Function.update words wordLength (UInt32.ofNat length)
  Function.update words wordIntegrity state.code

def copyBuild (version sequence : UInt32) (state : IntegrityState) (payload : List UInt8) : Copy :=
  copySeal (bytesCopy (metadataWords version sequence state payload.length) 0 payload)

/-- The decoding loop over the words: the repaired copy, and whether a bit was corrected. -/
def repairWords : List (Fin 20) → Copy → Bool → Option (Copy × Bool)
  | [], copy, corrected => some (copy, corrected)
  | i :: rest, copy, corrected =>
    match secdedDecode (copy.words i) (copy.ecc i) with
    | none => none
    | some (word, fixed) =>
      repairWords rest
        { copy with
          words := Function.update copy.words i word
          ecc := Function.update copy.ecc i (secdedEncode word) }
        (corrected || fixed)

/-- The repaired copy, and whether it had to be corrected; `none` for an invalid copy. -/
def copyCheck (copy : Copy) (expectedVersion : UInt32) (validator : Validator) :
    Option (Copy × Bool) :=
  match repairWords (List.finRange 20) copy false with
  | none => none
  | some (copy, corrected) =>
    if copyCrc copy.words copy.ecc ≠ copy.crc32 ∨
        copy.words wordVersion ≠ expectedVersion ∨
        maxPayload < (copy.words wordLength).toNat ∨
        IntegrityState.recovered.code < copy.words wordIntegrity then none
    else if !validator.accepts (payloadOf copy.words (copy.words wordLength).toNat) then none
    else some (copy, corrected)

def copiesEqual (left right : Copy) : Bool :=
  left.words wordVersion = right.words wordVersion &&
    left.words wordSequence = right.words wordSequence &&
    left.words wordLength = right.words wordLength &&
    payloadOf left.words (left.words wordLength).toNat =
      payloadOf right.words (left.words wordLength).toNat

structure Object where
  publicationLock : UInt32
  primary : Copy
  shadow : Copy
  deriving DecidableEq

/-- Taking the lock; a holder that does not let go outlasts every retry. -/
def Object.lock (object : Object) : Option Object :=
  if object.publicationLock = 0 then some { object with publicationLock := 1 } else none

def Object.unlock (object : Object) : Object := { object with publicationLock := 0 }

inductive ReadResult where
  | ok
  | corrected
  | recovered
  | uncorrectable
  | invalidArgument
  deriving DecidableEq

def init (object : Object) (version : UInt32) (payload : List UInt8) : Int × Object :=
  if version = 0 ∨ payload.length = 0 ∨ maxPayload < payload.length then (-1, object)
  else
    let primary := copyBuild version 1 .healthy payload
    (0, { publicationLock := 0, primary := primary, shadow := primary })

/-- The newest sequence of the copies that passed the check; `none` where there is none, or where
two of one sequence differ. -/
def currentSequence : Option (Copy × Bool) → Option (Copy × Bool) → Option UInt32
  | none, none => none
  | some (primary, _), none => some (primary.words wordSequence)
  | none, some (shadow, _) => some (shadow.words wordSequence)
  | some (primary, _), some (shadow, _) =>
    if primary.words wordSequence = shadow.words wordSequence ∧ !copiesEqual primary shadow then none
    else if shadow.words wordSequence > primary.words wordSequence then
      some (shadow.words wordSequence)
    else some (primary.words wordSequence)

/-- The copy that an update publishes; `none` where it refuses. -/
def updateCandidate (object : Object) (expectedVersion : UInt32) (payload : List UInt8)
    (validator : Validator) : Option Copy :=
  match currentSequence (copyCheck object.primary expectedVersion validator)
      (copyCheck object.shadow expectedVersion validator) with
  | none => none
  | some current =>
    if current + 1 = 0 then none
    else some (copyBuild expectedVersion (current + 1) .healthy payload)

def update (object : Object) (expectedVersion : UInt32) (payload : List UInt8)
    (validator : Validator) : Int × Object :=
  if payload.length = 0 ∨ maxPayload < payload.length ∨ expectedVersion = 0 then (-1, object)
  else
    match object.lock with
    | none => (-1, object)
    | some object =>
      match updateCandidate object expectedVersion payload validator with
      | none => (-1, object.unlock)
      | some candidate =>
        let object := { object with shadow := candidate }
        let object := { object with primary := candidate }
        (0, object.unlock)

/-- The copy that a read answers from, and its verdict; `none` where it can trust neither. -/
def selectCopy : Option (Copy × Bool) → Option (Copy × Bool) → Option (Copy × ReadResult)
  | none, none => none
  | some (primary, primaryFixed), some (shadow, shadowFixed) =>
    if primary.words wordSequence = shadow.words wordSequence ∧ !copiesEqual primary shadow then none
    else some (if primary.words wordSequence ≥ shadow.words wordSequence then primary else shadow,
      if primaryFixed || shadowFixed then .corrected else .ok)
  | some (primary, _), none => some (primary, .recovered)
  | none, some (shadow, _) => some (shadow, .recovered)

def repairState : ReadResult → IntegrityState
  | .recovered => .recovered
  | .corrected => .corrected
  | _ => .healthy

def repairCopy (chosen : Copy) (result : ReadResult) : Copy :=
  copyBuild (chosen.words wordVersion) (chosen.words wordSequence) (repairState result)
    (payloadOf chosen.words (chosen.words wordLength).toNat)

/-- The verdict, the payload handed out, and the object afterwards. -/
def read (object : Object) (expectedVersion : UInt32) (capacity : Nat) (validator : Validator) :
    ReadResult × Option (List UInt8) × Object :=
  if expectedVersion = 0 then (.invalidArgument, none, object)
  else
    match object.lock with
    | none => (.uncorrectable, none, object)
    | some object =>
      match selectCopy (copyCheck object.primary expectedVersion validator)
          (copyCheck object.shadow expectedVersion validator) with
      | none => (.uncorrectable, none, object.unlock)
      | some (chosen, result) =>
        let length := (chosen.words wordLength).toNat
        if length > capacity then (.invalidArgument, none, object.unlock)
        else
          let rebuilt := repairCopy chosen result
          let object := { object with primary := rebuilt }
          let object := { object with shadow := rebuilt }
          (result, some (payloadOf chosen.words length), object.unlock)

end ReistOs.Critical
