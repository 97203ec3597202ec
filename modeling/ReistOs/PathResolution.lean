import ReistOs.SlashPath

/-! The resolvers `userspace/storage/lib/vfs_path.c` of Ring-3 clients and
`kernel/shell/path_resolver.c` of the rescue shell. A text is its characters up to the terminator.
-/

namespace ReistOs.Paths

open SlashPath

abbrev Text := List UInt8

def separator (c : UInt8) : Bool := c == 0x2F || c == 0x5C

/-- A slash or a backslash parts the names; the slash is what results are written with. -/
def marks : Marks UInt8 where
  slash := 0x2F
  dot := 0x2E
  separator := separator
  separator_slash := by decide
  separator_dot := by decide

/-- `X86OS_VFS_SHADOW_PATH_CAPACITY` -/
def vfsPathCapacity : Nat := 192
def shellPathMax : Nat := 256
/-- `REIST_VFS_PATH_MAX_DRIVES` -/
def vfsPathMaxDrives : Nat := 22

section Segments

variable {ε : Type}

/-- The length after the last name has been dropped: `while (length > 1 && output[length - 1] != '/')
--length`. -/
def nameStart (output : Text) : Nat → Nat
  | 0 => 0
  | 1 => 1
  | n + 2 => if output[n + 1]? ≠ some 0x2F then nameStart output (n + 1) else n + 2

def parent (output : Text) : Text :=
  let length := nameStart output output.length
  output.take (if 1 < length then length - 1 else length)

/-- The loop of both resolvers over the names of a path, with what each does to add a name. -/
def applyPath (store : Text → Text → Except ε Text) (output path : Text) : Except ε Text :=
  match hpath : path.dropWhile separator with
  | [] => .ok output
  | c :: cs =>
    let segment := c :: cs.takeWhile (!separator ·)
    let rest := cs.dropWhile (!separator ·)
    if segment = [0x2E] then applyPath store output rest
    else if segment = [0x2E, 0x2E] then applyPath store (parent output) rest
    else
      match store output segment with
      | .error e => .error e
      | .ok output => applyPath store output rest
termination_by path.length
decreasing_by
  all_goals
    have hskip := (List.dropWhile_sublist separator (l := path)).length_le
    have hrest := (List.dropWhile_sublist (!separator ·) (l := cs)).length_le
    rw [hpath, List.length_cons] at hskip
    omega

end Segments

/-- The end of the loop body of `path_append`. -/
def storeName (output name : Text) : Except Int Text :=
  if name.length = 0 ∨ vfsPathCapacity ≤ name.length then .error (-22)
  else if 1 < output.length ∧ vfsPathCapacity ≤ output.length + 1 then .error (-36)
  else
    let output := if 1 < output.length then output ++ [0x2F] else output
    if vfsPathCapacity - output.length ≤ name.length then .error (-36) else .ok (output ++ name)

def pathAppend (output path : Text) : Except Int Text := applyPath storeName output path

/-- The length of the text in an array that may lack a terminator. -/
def pathLength {n : Nat} (text : Vector UInt8 n) : Nat := (text.toList.takeWhile (· ≠ 0)).length

/-- `x86os_drive_info_t` -/
structure DriveInfo where
  type : UInt32
  name : Vector UInt8 8
  mountPoint : Vector UInt8 64

/-- What the kernel answers a client: its directory if it has one that fits, and its drives with the
status of the call. -/
structure VfsClient where
  getcwd : Option Text
  driveInfo : Nat → Int × DriveInfo

def mappedLetter (drive : DriveInfo) (driveLetter : UInt8) : UInt8 :=
  let digit := drive.name[3]
  let root := if pathLength drive.mountPoint = 1 ∧ driveLetter = 0x43 then 0x43 else 0
  if pathLength drive.name = 4 ∧ 0x30 ≤ digit ∧ digit ≤ 0x39 then
    if drive.type = 2 then 0x41 + digit - 0x30
    else if drive.type = 1 ∨ drive.type = 3 then 0x43 + digit - 0x30
    else root
  else root

def upperLetter (c : UInt8) : UInt8 := if 0x61 ≤ c ∧ c ≤ 0x7A then c - 0x20 else c

/-- The mount point of a drive letter, sought among these drives. -/
def pathDriveMount (client : VfsClient) (driveLetter : UInt8) : List Nat → Except Int Text
  | [] => .error (-2)
  | resource :: resources =>
    let (status, drive) := client.driveInfo resource
    let mountLength := pathLength drive.mountPoint
    if status = 0 then .error (-2)
    else if status < 0 then .error (-5)
    else if mountLength = 0 ∨ 64 ≤ mountLength ∨ vfsPathCapacity ≤ mountLength ∨
        drive.mountPoint.toList.head? ≠ some 0x2F then pathDriveMount client driveLetter resources
    else if mappedLetter drive (upperLetter driveLetter) ≠ upperLetter driveLetter then
      pathDriveMount client driveLetter resources
    else .ok (drive.mountPoint.toList.take mountLength)

/-- The directory at which a path begins, and the rest of the path. -/
def startOf (client : VfsClient) (path : Text) : Except Int (Text × Text) :=
  if path[1]? = some 0x3A then
    (pathDriveMount client (path.headD 0) (List.range vfsPathMaxDrives)).map fun mount =>
      (mount, path.drop 2)
  else if path.head? ≠ some 0x2F ∧ path.head? ≠ some 0x5C then
    match client.getcwd with
    | none => .error (-36)
    | some current =>
      if current.head? ≠ some 0x2F ∨ vfsPathCapacity ≤ current.length then .error (-36)
      else (pathAppend [0x2F] current).map fun output => (output, path)
  else .ok ([0x2F], path)

def reistVfsResolvePath (client : VfsClient) (path : Text) : Except Int Text :=
  if path = [] then .error (-22)
  else if vfsPathCapacity ≤ path.length then .error (-36)
  else
    match startOf client path with
    | .error e => .error e
    | .ok (output, components) =>
      match pathAppend output components with
      | .error e => .error e
      | .ok output =>
        if 0 < output.length ∧ output.length < vfsPathCapacity then .ok output else .error (-36)

/-- `shell_path_result_t` -/
inductive ShellPathError
  | invalid
  | tooLong
  deriving DecidableEq

/-- The end of the loop body of `shell_path_apply`. -/
def storeSegment (output segment : Text) : Except ShellPathError Text :=
  let separatorLength := if 1 < output.length then 1 else 0
  if shellPathMax - 1 - separatorLength < output.length then .error .tooLong
  else if shellPathMax - 1 - output.length - separatorLength < segment.length then .error .tooLong
  else .ok ((if separatorLength ≠ 0 then output ++ [0x2F] else output) ++ segment)

def shellPathApply (output path : Text) (reset : Bool) : Except ShellPathError Text :=
  applyPath storeSegment (if reset then [0x2F] else output) path

def shellPathNormalize (currentPath input : Text) : Except ShellPathError Text :=
  if currentPath.head? ≠ some 0x2F then .error .invalid
  else
    match shellPathApply [] currentPath true with
    | .error e => .error e
    | .ok output => shellPathApply output input (input.head?.any separator)

def shellPathJoinMount (mountPoint drivePath : Text) : Except ShellPathError Text :=
  if mountPoint.head? ≠ some 0x2F ∨ drivePath.head? ≠ some 0x2F then .error .invalid
  else if mountPoint.length = 0 ∨ shellPathMax ≤ mountPoint.length ∨ drivePath.length = 0 ∨
      shellPathMax ≤ drivePath.length ∨
      1 < mountPoint.length ∧ mountPoint[mountPoint.length - 1]? = some 0x2F then .error .invalid
  else if mountPoint.length = 1 then
    if shellPathMax ≤ drivePath.length then .error .tooLong else .ok drivePath
  else if drivePath.length = 1 then .ok mountPoint
  else if shellPathMax ≤ mountPoint.length + drivePath.length then .error .tooLong
  else .ok (mountPoint ++ drivePath)

end ReistOs.Paths
