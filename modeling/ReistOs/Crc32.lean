import ReistOs.LittleEndian

namespace Crc32

/-- One bit of the reflected division by the polynomial 0xEDB88320. -/
def shift (crc : UInt32) : UInt32 := (crc >>> 1) ^^^ (0xEDB88320 &&& (0 - (crc &&& 1)))

def absorb (crc : UInt32) (b : UInt8) : UInt32 := Nat.repeat shift 8 (crc ^^^ b.toUInt32)

def update (crc : UInt32) (bytes : List UInt8) : UInt32 := bytes.foldl absorb crc

def crc32 (bytes : List UInt8) : UInt32 := update 0xFFFFFFFF bytes ^^^ 0xFFFFFFFF

theorem update_append (crc : UInt32) (xs ys : List UInt8) :
    update crc (xs ++ ys) = update (update crc xs) ys := List.foldl_append

example : crc32 [0x31, 0x32, 0x33, 0x34, 0x35, 0x36, 0x37, 0x38, 0x39] = 0xCBF43926 := by
  decide +kernel

end Crc32
