import ReistOs.Lines

namespace ReistOs

def reistConfigFileCapacity : Nat := 4096
def reistConfigLineCapacity : Nat := 160
def reistConfigSchemaCapacity : Nat := 40
def reistConfigEntryCapacity : Nat := 32
def reistConfigKeyCapacity : Nat := 48
def reistConfigValueCapacity : Nat := 96

def reistConfigOk : Int := 0
def reistConfigEinval : Int := -22
def reistConfigEcapacity : Int := -75
def reistConfigEschema : Int := -71
def reistConfigEduplicate : Int := -17

def newlineByte : UInt8 := 0x0a
def returnByte : UInt8 := 0x0d
def commentByte : UInt8 := 0x23
def equalsByte : UInt8 := 0x3d

/-- The reserved key "schema". -/
def schemaKey : List UInt8 := [0x73, 0x63, 0x68, 0x65, 0x6d, 0x61]

/-- A C string: the bytes in front of its end, none for a null pointer. -/
abbrev ConfigString := Option (List UInt8)

structure ConfigEntry where
  key : List UInt8
  value : List UInt8
deriving DecidableEq

structure ConfigDocument where
  schema : List UInt8
  entries : List ConfigEntry
deriving DecidableEq

def emptyConfig : ConfigDocument := ⟨[], []⟩

def boundedLength (text : List UInt8) (capacity : Nat) : Nat := min text.length capacity

def copyText (capacity : Nat) (source : List UInt8) : Except Int (List UInt8) :=
  if capacity = 0 ∨ capacity ≤ source.length then .error reistConfigEcapacity else .ok source

def keyByte (value : UInt8) : Bool :=
  (0x61 ≤ value && value ≤ 0x7a) || (0x30 ≤ value && value ≤ 0x39) || value == 0x2e ||
    value == 0x5f || value == 0x2d

def valueByte (character : UInt8) : Bool := 0x20 ≤ character && character ≤ 0x7e

/-- `valid_key` on the first `length` bytes of `key`. -/
def validKey (key : List UInt8) (length : Nat) : Bool :=
  length != 0 && decide (length < reistConfigKeyCapacity) && (key.take length).all keyByte

def validValue (value : List UInt8) (length capacity : Nat) : Bool :=
  length != 0 && decide (length < capacity) && (value.take length).all valueByte

/-! The parser. -/

structure ConfigParse where
  document : ConfigDocument
  effectiveLines : Nat

def stripReturn (line : List UInt8) : List UInt8 :=
  if line.getLast? = some returnByte then line.dropLast else line

def parseSchemaLine (expected key value : List UInt8) (s : ConfigParse) :
    Except Int ConfigParse :=
  if key ≠ schemaKey ∨ value ≠ expected then .error reistConfigEschema
  else match copyText reistConfigSchemaCapacity value with
  | .error e => .error e
  | .ok schema => .ok ⟨{ s.document with schema := schema }, s.effectiveLines + 1⟩

def parseEntryLine (key value : List UInt8) (s : ConfigParse) : Except Int ConfigParse :=
  if key = schemaKey then .error reistConfigEduplicate
  else if s.document.entries.any (·.key == key) then .error reistConfigEduplicate
  else if reistConfigEntryCapacity ≤ s.document.entries.length then .error reistConfigEcapacity
  else match copyText reistConfigKeyCapacity key, copyText reistConfigValueCapacity value with
  | .ok key, .ok value =>
    .ok ⟨{ s.document with entries := s.document.entries ++ [⟨key, value⟩] },
      s.effectiveLines + 1⟩
  | _, _ => .error reistConfigEcapacity

/-- The body of the loop over the lines. -/
def parseLine (expected : List UInt8) (s : ConfigParse) (line : List UInt8) :
    Except Int ConfigParse :=
  let line := stripReturn line
  if reistConfigLineCapacity ≤ line.length then .error reistConfigEcapacity
  else if line = [] ∨ line.head? = some commentByte then .ok s
  else
    let key := line.takeWhile (· ≠ equalsByte)
    let value := line.drop (key.length + 1)
    if key.length = 0 ∨ key.length = line.length then .error reistConfigEinval
    else if !validKey key key.length ||
        !validValue value value.length reistConfigValueCapacity then .error reistConfigEinval
    else if s.effectiveLines = 0 then parseSchemaLine expected key value s
    else parseEntryLine key value s

def reistConfigParse (data expectedSchema : ConfigString) : Int × ConfigDocument :=
  match data, expectedSchema with
  | some data, some expected =>
    if data.length = 0 ∨ reistConfigFileCapacity < data.length ∨
        data.getLast? ≠ some newlineByte then (reistConfigEinval, emptyConfig)
    else if !validValue expected (boundedLength expected reistConfigSchemaCapacity)
        reistConfigSchemaCapacity then (reistConfigEschema, emptyConfig)
    else match Lines.scan newlineByte reistConfigEinval (parseLine expected) [] data
        ⟨emptyConfig, 0⟩ with
    | .error e => (e, emptyConfig)
    | .ok s =>
      if s.effectiveLines = 0 ∨ s.document.schema = [] then (reistConfigEschema, emptyConfig)
      else (reistConfigOk, s.document)
  | _, _ => (reistConfigEinval, emptyConfig)

/-! Reading and writing an entry. -/

def textEqual (left right : List UInt8) (capacity : Nat) : Bool :=
  left == right && decide (left.length < capacity)

def reistConfigGet (document : ConfigDocument) (key : ConfigString) : ConfigString :=
  match key with
  | none => none
  | some key =>
    if !validKey key (boundedLength key reistConfigKeyCapacity) then none
    else (document.entries.find? fun e => textEqual e.key key reistConfigKeyCapacity).map (·.value)

/-- The value of the last entry with this key, replaced. -/
def setEntry (key value : List UInt8) : List ConfigEntry → Option (List ConfigEntry)
  | [] => none
  | e :: entries =>
    match setEntry key value entries with
    | some entries' => some (e :: entries')
    | none =>
      if textEqual e.key key reistConfigKeyCapacity then some ({ e with value := value } :: entries)
      else none

def reistConfigSet (document : ConfigDocument) (key value : ConfigString) :
    Int × ConfigDocument :=
  match key, value with
  | some key, some value =>
    if document.schema = [] ∨ reistConfigEntryCapacity < document.entries.length then
      (reistConfigEinval, document)
    else if !validKey key (boundedLength key reistConfigKeyCapacity) ||
        !validValue value (boundedLength value reistConfigValueCapacity)
          reistConfigValueCapacity then (reistConfigEinval, document)
    -- copy_text has room for every key and value that passed these checks
    else match setEntry key value document.entries with
    | some entries => (reistConfigOk, { document with entries := entries })
    | none =>
      if reistConfigEntryCapacity ≤ document.entries.length then (reistConfigEcapacity, document)
      else
        (reistConfigOk, { document with entries := document.entries ++ [⟨key, value⟩] })
  | _, _ => (reistConfigEinval, document)

/-! The serializer. -/

/-- `append`, on the bytes of the output that are used. -/
def appendText (capacity : Nat) (used text : List UInt8) : Except Int (List UInt8) :=
  let length := boundedLength text capacity
  if capacity ≤ length ∨ capacity < used.length ∨ capacity - used.length ≤ length then
    .error reistConfigEcapacity
  else .ok (used ++ text)

def appendTexts (capacity : Nat) (used : List UInt8) : List (List UInt8) → Except Int (List UInt8)
  | [] => .ok used
  | text :: texts =>
    match appendText capacity used text with
    | .ok used => appendTexts capacity used texts
    | .error e => .error e

def serializeEntries (capacity : Nat) (used : List UInt8) :
    List ConfigEntry → Except Int (List UInt8)
  | [] => .ok used
  | e :: entries =>
    if !validKey e.key (boundedLength e.key reistConfigKeyCapacity) ||
        !validValue e.value (boundedLength e.value reistConfigValueCapacity)
          reistConfigValueCapacity then .error reistConfigEcapacity
    else match appendTexts capacity used [e.key, [equalsByte], e.value, [newlineByte]] with
    | .ok used => serializeEntries capacity used entries
    | .error e => .error e

def reistConfigSerialize (document : ConfigDocument) (capacity : Nat) :
    Except Int (List UInt8) :=
  if capacity = 0 ∨ reistConfigFileCapacity < capacity ∨ document.schema = [] ∨
      reistConfigEntryCapacity < document.entries.length then .error reistConfigEinval
  else match appendTexts capacity []
      [schemaKey ++ [equalsByte], document.schema, [newlineByte]] with
  | .ok used => serializeEntries capacity used document.entries
  | .error e => .error e

end ReistOs
