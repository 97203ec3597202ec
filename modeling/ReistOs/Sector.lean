import ReistOs.Crc32

namespace ReistOs

open LittleEndian

/-- One 512-byte sector. -/
abbrev Sector := Vector UInt8 512

/-- A sector of one drive. -/
structure SectorAddr where
  base : UInt16
  isMaster : Bool
  lba : Nat
  deriving DecidableEq, Repr

def Sector.crc32 (s : Sector) : UInt32 := Crc32.crc32 (slice s 0 512)

end ReistOs
