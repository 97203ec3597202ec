import ReistOs.FileCalls
import ReistOs.Utf

/-! The verified move between directories of `userspace/gui/compositor/desktop_file_move.c`. A text
is its bytes before the terminator, or the whole array without one. -/

namespace ReistOs

open Attempt

def desktopFileMovePathCapacity : Nat := 256
def desktopFileMoveChunkCapacity : Nat := 1024
def desktopFileMoveTempAttempts : Nat := 32
def desktopFileMoveMaxBytes : Nat := 64 * 1024 * 1024
def desktopFileMoveTimeoutMs : Nat := 30000
def desktopFileMoveRequestTimeoutMs : Nat := 1000

def desktopFileMoveOk : Int := 0
def desktopFileMoveEnoent : Int := -2
def desktopFileMoveEio : Int := -5
def desktopFileMoveEexist : Int := -17
def desktopFileMoveEinval : Int := -22
def desktopFileMoveEcapacity : Int := -75
def desktopFileMoveEtimedout : Int := -110
def desktopFileMoveEstale : Int := -116
def desktopFileMoveEpartial : Int := -117

/-- The capacity of `x86os_file_info_t::name`. -/
def fileNameCapacity : Nat := 256

def x86osFile : Nat := 1
def x86osDirectory : Nat := 2

structure DesktopFileMoveRequest where
  sourcePath : Path
  sourceDirectoryPath : Path
  destinationDirectoryPath : Path
  sourceIdentity : FileInfo
  sourceDirectoryIdentity : FileInfo
  destinationDirectoryIdentity : FileInfo

structure DesktopFileMoveResult where
  destinationPublished : Nat := 0
  sourceRemoved : Nat := 0
  duplicateRetained : Nat := 0
  bytesCopied : Nat := 0
  destinationPath : Path := []
  temporaryPath : Path := []
  destinationIdentity : FileInfo := default

structure DesktopFileMoveBudget where
  startedMs : Nat
  deadlineMs : Nat

def textLength (text : Path) (capacity : Nat) : Option Nat :=
  if text.length < capacity then some text.length else none

def textEqualAsciiCase (left right : Path) (capacity : Nat) : Bool :=
  left.map foldAscii == right.map foldAscii && left.length < capacity

def pathEqual (left right : Path) : Bool := textEqualAsciiCase left right desktopFileMovePathCapacity

def identityEqual (left right : FileInfo) : Bool :=
  left.type == right.type && left.size == right.size && left.createTime == right.createTime &&
    left.modifyTime == right.modifyTime && left.accessTime == right.accessTime &&
    textEqualAsciiCase left.name right.name fileNameCapacity

def directoryAuthorityEqual (left right : FileInfo) : Bool :=
  left.type == x86osDirectory && right.type == x86osDirectory &&
    left.createTime == right.createTime &&
    textEqualAsciiCase left.name right.name fileNameCapacity

def components : List UInt8 → List (List UInt8)
  | [] => [[]]
  | 47 :: rest => [] :: components rest
  | value :: rest =>
    match components rest with
    | [] => [[value]]
    | component :: others => (value :: component) :: others

def pathByte (value : UInt8) : Bool := ! (value < 0x20 || value == 0x7F || value == 92)

def pathComponent (component : List UInt8) : Bool :=
  ! (component == [] || component == [46] || component == [46, 46])

def canonicalPath (path : Path) (directory : Bool) : Option Nat :=
  if desktopFileMovePathCapacity ≤ path.length ∨ path.length = 0 ∨ path.head? ≠ some 47 then none
  else if path.length = 1 then if directory then some 1 else none
  else if path.getLast? = some 47 then none
  else if ¬ (path.tail.all fun value => value == 47 || pathByte value) then none
  else if ¬ (components path.tail).all pathComponent then none
  else
    match reistUtf8Scan path with
    | none => none
    | some 0 => none
    | some _ => some path.length

/-- `text` is below one of the names, or is that name. The names are in lower case. -/
def pathHasPrefix (path root : Path) : Bool :=
  root.isPrefixOf (path.map foldAscii) &&
    ((path.drop root.length).head? == none || (path.drop root.length).head? == some 47)

def hexDigit (value : UInt8) : Bool :=
  (48 ≤ foldAscii value && foldAscii value ≤ 57) || (97 ≤ foldAscii value && foldAscii value ≤ 102)

def privateTempName (name : Path) : Bool :=
  name.length == 12 && (name.take 2).map foldAscii == [114, 109] &&
    ((name.drop 2).take 6).all hexDigit && (name.drop 8).head? == some 46 &&
    (name.drop 9).map foldAscii == [116, 109, 112]

def leafOf (path : Path) : Path := (path.reverse.takeWhile (· ≠ 47)).reverse

def pathLeaf (path : Path) : Option Path := if leafOf path = [] then none else some (leafOf path)

/-- `/trash`, `/bin`, `/sbin`, `/libexec`, `/etc`, `/usr`, `/boot`, `/dev`, `/mnt`, `/proc`,
`/sys`, `/run`, `/var`. -/
def protectedRoots : List Path :=
  [[47, 116, 114, 97, 115, 104], [47, 98, 105, 110], [47, 115, 98, 105, 110],
    [47, 108, 105, 98, 101, 120, 101, 99], [47, 101, 116, 99], [47, 117, 115, 114],
    [47, 98, 111, 111, 116], [47, 100, 101, 118], [47, 109, 110, 116],
    [47, 112, 114, 111, 99], [47, 115, 121, 115], [47, 114, 117, 110], [47, 118, 97, 114]]

def protectedPath (path : Path) : Bool := protectedRoots.any (pathHasPrefix path)

def desktopFileMoveSourceAllowed (path : Path) : Bool :=
  match canonicalPath path false, pathLeaf path with
  | some _, some leaf => ! privateTempName leaf && ! protectedPath path
  | _, _ => false

def desktopFileMoveDestinationAllowed (path : Path) : Bool :=
  match canonicalPath path true with
  | some length => 1 < length && ! protectedPath path
  | none => false

def sourceBelongsToDirectory (source directory expectedLeaf : Path) : Bool :=
  match canonicalPath source false, canonicalPath directory true, pathLeaf source with
  | some sourceLength, some directoryLength, some leaf =>
    let parentLength := sourceLength - leaf.length
    let parentLength := if 1 < parentLength then parentLength - 1 else parentLength
    -- A canonical directory of more than one byte never ends with a slash.
    let normalizedDirectory := if 1 < directoryLength ∧ directory.getLast? = some 47
      then directoryLength - 1 else directoryLength
    textEqualAsciiCase leaf expectedLeaf fileNameCapacity &&
      parentLength == normalizedDirectory &&
      (source.take parentLength).map foldAscii == (directory.take parentLength).map foldAscii
  | _, _, _ => false

def buildChildPath (directory name : Path) : Option Path :=
  match canonicalPath directory true, textLength name fileNameCapacity with
  | some directoryLength, some nameLength =>
    let separator := if directoryLength = 1 then 0 else 1
    if nameLength = 0 ∨ desktopFileMovePathCapacity < directoryLength + separator + nameLength + 1
    then none
    else some (directory ++ (if separator = 1 then [47] else []) ++ name)
  | _, _ => none

def hashBytes (hash : UInt32) (bytes : List UInt8) : UInt32 :=
  bytes.foldl (fun hash value => (hash ^^^ value.toUInt32) * 16777619) hash

def hashSeed : UInt32 := 2166136261

def requestHash (request : DesktopFileMoveRequest) : UInt32 :=
  hashBytes hashSeed (request.sourcePath.take desktopFileMovePathCapacity)

/-- `"0123456789ABCDEF"[digit & 0xF]`. -/
def upperHex (digit : UInt32) : UInt8 :=
  let digit := (digit &&& 0xF).toUInt8
  if digit < 10 then 48 + digit else 55 + digit

/-- `RM`, four digits of the hash, two of the attempt, `.TMP`. -/
def tempFilename (hash : UInt32) (attempt : Nat) : Path :=
  [82, 77, upperHex (hash >>> 12), upperHex (hash >>> 8), upperHex (hash >>> 4), upperHex hash,
    upperHex (attempt.toUInt32 >>> 4), upperHex attempt.toUInt32, 46, 84, 77, 80]

variable {Node : Type} [DecidableEq Node]

abbrev MoveProgram (Node α : Type) := FileProgram Node DesktopFileMoveResult α

def budgetStart : MoveProgram Node DesktopFileMoveBudget := do
  match ← x86osMonotonicMs with
  | .error _ => fail desktopFileMoveEio
  | .ok started =>
    pure ⟨started, if 2 ^ 64 - 1 - started < desktopFileMoveTimeoutMs then 2 ^ 64 - 1
      else started + desktopFileMoveTimeoutMs⟩

def budgetRemaining (budget : DesktopFileMoveBudget) : MoveProgram Node Nat := do
  match ← x86osMonotonicMs with
  | .error _ => fail desktopFileMoveEio
  | .ok now =>
    refuse (now < budget.startedMs) desktopFileMoveEio
    refuse (budget.deadlineMs ≤ now) desktopFileMoveEtimedout
    pure (min (budget.deadlineMs - now) desktopFileMoveRequestTimeoutMs)

def mapVfsStatus (status : Int) : Int :=
  if status = 0 then desktopFileMoveOk
  else if status = desktopFileMoveEnoent then desktopFileMoveEnoent
  else if status = desktopFileMoveEtimedout then desktopFileMoveEtimedout
  else desktopFileMoveEio

def statNofollow (names : PathNames Node) (path : Path) (budget : DesktopFileMoveBudget) :
    MoveProgram Node FileInfo := do
  let timeout ← budgetRemaining budget
  match ← reistVfsLstat names path timeout with
  | .error status => fail (mapVfsStatus status)
  | .ok info => pure info

def pathAbsent (names : PathNames Node) (path : Path) (budget : DesktopFileMoveBudget) :
    MoveProgram Node Unit := do
  match ← (statNofollow names path budget).outcome with
  | .error status =>
    if status = desktopFileMoveEnoent then pure () else fail status
  | .ok _ => fail desktopFileMoveEexist

def closeSourceCleanup (handle : Nat) : MoveProgram Node Unit := do
  let _ ← reistVfsFileSetTimeout handle 1
  let _ ← reistVfsFileClose handle

def closing {α : Type} (handle : Nat) (x : MoveProgram Node α) : MoveProgram Node α := do
  match ← x.outcome with
  | .ok a => pure a
  | .error status =>
    closeSourceCleanup handle
    fail status

def limitHandle (handle : Nat) (budget : DesktopFileMoveBudget) : MoveProgram Node Unit := do
  let timeout ← budgetRemaining budget
  let status ← reistVfsFileSetTimeout handle timeout
  refuse (status ≠ 0) desktopFileMoveEio

/-- `calls` are the calls that may still be made. -/
def writeChunkFrom (descriptor : Nat) (budget : DesktopFileMoveBudget) :
    Nat → List UInt8 → MoveProgram Node Unit
  | 0, rest => refuse (rest ≠ []) desktopFileMoveEcapacity
  | calls + 1, rest => do
    if rest = [] then pure () else
      let _ ← budgetRemaining budget
      let amount ← x86osWrite descriptor rest
      refuse (amount ≤ 0 ∨ (rest.length : Int) < amount) desktopFileMoveEio
      writeChunkFrom descriptor budget calls (rest.drop amount.toNat)

def writeChunkAll (descriptor : Nat) (bytes : List UInt8) (budget : DesktopFileMoveBudget) :
    MoveProgram Node Unit := writeChunkFrom descriptor budget desktopFileMoveChunkCapacity bytes

def openBoundFile (names : PathNames Node) (path : Path) (expected : Option FileInfo)
    (budget : DesktopFileMoveBudget) : MoveProgram Node Nat := do
  let timeout ← budgetRemaining budget
  match ← reistVfsFileOpenFlags names path timeout with
  | .error status => fail (mapVfsStatus status)
  | .ok handle =>
    closing handle do
      limitHandle handle budget
      let stale := if expected.isSome then desktopFileMoveEstale else desktopFileMoveEinval
      match ← reistVfsFileFstat handle with
      | .error _ => fail stale
      | .ok actual =>
        refuse (actual.type ≠ x86osFile ∨ ∃ info ∈ expected, ¬ identityEqual actual info) stale
        pure handle

def readChunk (handle left : Nat) (budget : DesktopFileMoveBudget) :
    MoveProgram Node (List UInt8) := do
  limitHandle handle budget
  let request := min left desktopFileMoveChunkCapacity
  let (amount, bytes) ← reistVfsFileReadBulk handle request
  refuse (amount ≤ 0 ∨ (request : Int) < amount) desktopFileMoveEio
  pure bytes

/-- Every turn reads a byte or gives up, so `fuel` bytes are read with as many turns. -/
def readBackFrom (handle expectedSize : Nat) (budget : DesktopFileMoveBudget) :
    Nat → Nat → UInt32 → MoveProgram Node UInt32
  | 0, _, hash => pure hash
  | fuel + 1, read, hash => do
    if expectedSize ≤ read then pure hash else
      let bytes ← readChunk handle (expectedSize - read) budget
      readBackFrom handle expectedSize budget fuel (read + bytes.length) (hashBytes hash bytes)

def readbackTemp (names : PathNames Node) (path : Path) (expectedSize : Nat)
    (expectedHash : UInt32) (budget : DesktopFileMoveBudget) : MoveProgram Node FileInfo := do
  let handle ← openBoundFile names path none budget
  let (info, hash) ← closing handle do
    match ← reistVfsFileFstat handle with
    | .error _ => fail desktopFileMoveEio
    | .ok info =>
      refuse (info.size ≠ expectedSize) desktopFileMoveEio
      let hash ← readBackFrom handle expectedSize budget expectedSize 0 hashSeed
      let (trailing, _) ← reistVfsFileReadBulk handle 1
      refuse (trailing ≠ 0) desktopFileMoveEio
      pure (info, hash)
  let closed ← reistVfsFileClose handle
  refuse (closed ≠ 0 ∨ hash ≠ expectedHash) desktopFileMoveEio
  pure info

/-- The first free name for the temporary file, and the descriptor it is written through. -/
def createTemporary (names : PathNames Node) (request : DesktopFileMoveRequest)
    (budget : DesktopFileMoveBudget) : Nat → MoveProgram Node (Path × Nat)
  | 0 => fail desktopFileMoveEcapacity
  | left + 1 => do
    let name := tempFilename (requestHash request) (desktopFileMoveTempAttempts - (left + 1))
    match buildChildPath request.destinationDirectoryPath name with
    | none => fail desktopFileMoveEcapacity
    | some temporary =>
      match ← (pathAbsent names temporary budget).outcome with
      | .error status =>
        if status = desktopFileMoveEexist then createTemporary names request budget left
        else fail status
      | .ok _ =>
        match ← x86osCreate names temporary with
        | .ok descriptor => pure (temporary, descriptor)
        | .error status =>
          if status = desktopFileMoveEexist then createTemporary names request budget left
          else fail desktopFileMoveEio

/-- The copy loop, with the fuel of `readBackFrom`. -/
def copyFrom (handle descriptor size : Nat) (budget : DesktopFileMoveBudget) :
    Nat → Nat → UInt32 → MoveProgram Node UInt32
  | 0, _, hash => pure hash
  | fuel + 1, copied, hash => do
    if size ≤ copied then pure hash else
      let bytes ← readChunk handle (size - copied) budget
      writeChunkAll descriptor bytes budget
      report fun result => { result with bytesCopied := copied + bytes.length }
      copyFrom handle descriptor size budget fuel (copied + bytes.length) (hashBytes hash bytes)

def copySource (request : DesktopFileMoveRequest) (handle descriptor : Nat)
    (budget : DesktopFileMoveBudget) : MoveProgram Node UInt32 := do
  let size := request.sourceIdentity.size
  let hash ← copyFrom handle descriptor size budget size 0 hashSeed
  let (trailing, _) ← reistVfsFileReadBulk handle 1
  refuse (trailing ≠ 0) desktopFileMoveEstale
  match ← reistVfsFileFstat handle with
  | .error _ => fail desktopFileMoveEstale
  | .ok final =>
    refuse (¬ identityEqual final request.sourceIdentity) desktopFileMoveEstale
    pure hash

def writeTemporary (request : DesktopFileMoveRequest) (handle descriptor : Nat)
    (budget : DesktopFileMoveBudget) : MoveProgram Node UInt32 := do
  let copied ← (copySource request handle descriptor budget).outcome
  let closed ← reistVfsFileClose handle
  match copied with
  | .error status =>
    let _ ← x86osClose descriptor
    fail status
  | .ok hash =>
    if closed ≠ 0 then
      let _ ← x86osClose descriptor
      fail desktopFileMoveEio
    else
      let syncStatus ← x86osFsync descriptor
      let closeStatus ← x86osClose descriptor
      refuse (syncStatus ≠ 0 ∨ closeStatus ≠ 0) desktopFileMoveEio
      pure hash

def discarding {α : Type} (names : PathNames Node) (temporary : Path) (x : MoveProgram Node α) :
    MoveProgram Node α := do
  match ← x.outcome with
  | .ok a => pure a
  | .error status =>
    let _ ← x86osUnlink names temporary
    fail status

/-- The directories and the source are what the request names. -/
def checkAuthority (names : PathNames Node) (request : DesktopFileMoveRequest)
    (budget : DesktopFileMoveBudget) : MoveProgram Node Unit := do
  let sourceDirectory ← statNofollow names request.sourceDirectoryPath budget
  let destinationDirectory ← statNofollow names request.destinationDirectoryPath budget
  let source ← statNofollow names request.sourcePath budget
  refuse (¬ directoryAuthorityEqual sourceDirectory request.sourceDirectoryIdentity ∨
    ¬ directoryAuthorityEqual destinationDirectory request.destinationDirectoryIdentity ∨
    ¬ identityEqual source request.sourceIdentity) desktopFileMoveEstale

/-- The same after the copy, with the destination directory looked at first. -/
def recheckAuthority (names : PathNames Node) (request : DesktopFileMoveRequest)
    (budget : DesktopFileMoveBudget) : MoveProgram Node Unit := do
  let destinationDirectory ← statNofollow names request.destinationDirectoryPath budget
  let sourceDirectory ← statNofollow names request.sourceDirectoryPath budget
  let source ← statNofollow names request.sourcePath budget
  refuse (¬ directoryAuthorityEqual destinationDirectory request.destinationDirectoryIdentity ∨
    ¬ directoryAuthorityEqual sourceDirectory request.sourceDirectoryIdentity ∨
    ¬ identityEqual source request.sourceIdentity) desktopFileMoveEstale

def publishMove (names : PathNames Node) (temporary destination : Path)
    (budget : DesktopFileMoveBudget) : MoveProgram Node Unit := do
  pathAbsent names destination budget
  let renamed ← x86osRename names temporary destination
  refuse (renamed ≠ 0) desktopFileMoveEio

def retaining {α : Type} (x : MoveProgram Node α) : MoveProgram Node α := do
  match ← x.outcome with
  | .ok a => pure a
  | .error _ =>
    report fun result => { result with duplicateRetained := 1 }
    fail desktopFileMoveEpartial

def checkPublished (names : PathNames Node) (request : DesktopFileMoveRequest) (destination : Path)
    (budget : DesktopFileMoveBudget) : MoveProgram Node FileInfo := do
  let published ← statNofollow names destination budget
  refuse (published.type ≠ x86osFile ∨ published.size ≠ request.sourceIdentity.size)
    desktopFileMoveEpartial
  pure published

def removeSource (names : PathNames Node) (request : DesktopFileMoveRequest)
    (budget : DesktopFileMoveBudget) : MoveProgram Node Unit := do
  let sourceDirectory ← statNofollow names request.sourceDirectoryPath budget
  let source ← statNofollow names request.sourcePath budget
  refuse (¬ directoryAuthorityEqual sourceDirectory request.sourceDirectoryIdentity ∨
    ¬ identityEqual source request.sourceIdentity) desktopFileMoveEpartial
  let unlinked ← x86osUnlink names request.sourcePath
  refuse (unlinked ≠ 0) desktopFileMoveEpartial

def moveRequestAllowed (request : DesktopFileMoveRequest) : Bool :=
  request.sourceIdentity.type == x86osFile &&
    request.sourceDirectoryIdentity.type == x86osDirectory &&
    request.destinationDirectoryIdentity.type == x86osDirectory &&
    desktopFileMoveSourceAllowed request.sourcePath &&
    desktopFileMoveDestinationAllowed request.destinationDirectoryPath &&
    sourceBelongsToDirectory request.sourcePath request.sourceDirectoryPath
      request.sourceIdentity.name &&
    ! pathEqual request.sourceDirectoryPath request.destinationDirectoryPath

def finishMove (names : PathNames Node) (request : DesktopFileMoveRequest) (destination : Path)
    (budget : DesktopFileMoveBudget) : MoveProgram Node Unit := do
  report fun result => { result with destinationPublished := 1 }
  let published ← retaining (checkPublished names request destination budget)
  report fun result => { result with destinationIdentity := published }
  retaining (removeSource names request budget)
  report fun result => { result with sourceRemoved := 1 }

def desktopFileMoveExecute (names : PathNames Node) (request : DesktopFileMoveRequest) :
    MoveProgram Node Unit := do
  report fun _ => {}
  refuse (desktopFileMoveMaxBytes < request.sourceIdentity.size) desktopFileMoveEcapacity
  refuse (¬ moveRequestAllowed request) desktopFileMoveEinval
  match buildChildPath request.destinationDirectoryPath request.sourceIdentity.name with
  | none => fail desktopFileMoveEcapacity
  | some destination =>
    let budget ← budgetStart
    checkAuthority names request budget
    pathAbsent names destination budget
    let handle ← openBoundFile names request.sourcePath (some request.sourceIdentity) budget
    let (temporary, descriptor) ←
      closing handle (createTemporary names request budget desktopFileMoveTempAttempts)
    report fun result =>
      { result with
        destinationPath := destination
        temporaryPath := temporary }
    let hash ← discarding names temporary (writeTemporary request handle descriptor budget)
    let _ ← discarding names temporary
      (readbackTemp names temporary request.sourceIdentity.size hash budget)
    discarding names temporary (recheckAuthority names request budget)
    discarding names temporary (publishMove names temporary destination budget)
    finishMove names request destination budget

def moveStatus : Except Int Unit → Int
  | .ok _ => desktopFileMoveOk
  | .error status => status

end ReistOs
