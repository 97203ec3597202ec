import ReistOs.CriticalStores
import ReistOs.Packed

/-! Records in the payload of a critical object, and the plain cells they refine. -/

namespace ReistOs.Critical

/-- How a record lies in the payload, and the version under which it is kept. -/
structure RecordLayout (α : Type) where
  version : UInt32
  size : Nat
  bytes : α → List UInt8
  value : List UInt8 → α
  version_ne : version ≠ 0
  size_pos : 0 < size
  size_le : size ≤ maxPayload
  length_bytes : ∀ a, (bytes a).length = size
  value_bytes : ∀ a, value (bytes a) = a

/-- A cell for a record: what its owner does with it, with the verdict of a read. -/
structure RecordStore (ω α : Type) where
  init : ω → α → Bool × ω
  read : ω → Option (α × ReadResult) × ω
  update : ω → α → Bool × ω

section Objects

variable {α : Type} (layout : RecordLayout α) (valid : α → Bool)

def RecordLayout.validator : Validator :=
  some fun payload => payload.length = layout.size && valid (layout.value payload)

/-- A critical object as the cell: the length has to be the record's. -/
def RecordLayout.store : RecordStore Object α where
  init object a :=
    let (result, object) := Critical.init object layout.version (layout.bytes a)
    (result = 0, object)
  read object :=
    let (result, payload, object) :=
      Critical.read object layout.version layout.size (layout.validator valid)
    (payload.bind fun payload =>
      if payload.length = layout.size then some (layout.value payload, result) else none, object)
  update object a :=
    let (result, object) := Critical.update object layout.version (layout.bytes a)
      (layout.validator valid)
    (result = 0, object)

/-- A copy that passes its check and is the build of a record. -/
def RecordLayout.Shows (a : α) (sequence : UInt32) (state : IntegrityState) (copy : Copy) : Prop :=
  ∃ fixed, copyCheck copy layout.version (layout.validator valid) =
    some (copyBuild layout.version sequence state (layout.bytes a), fixed)

def RecordLayout.Lost (copy : Copy) : Prop :=
  copyCheck copy layout.version (layout.validator valid) = none

/-- The object answers with the record: one copy at least shows it, and none shows another. -/
structure RecordLayout.Keeps (a : α) (sequence : UInt32) (object : Object) : Prop where
  free : object.publicationLock = 0
  passes : valid a = true
  shown : ∃ state : IntegrityState, state.code ≤ IntegrityState.recovered.code ∧
    (layout.Shows valid a sequence state object.primary ∨
      layout.Shows valid a sequence state object.shadow) ∧
    (layout.Shows valid a sequence state object.primary ∨ layout.Lost valid object.primary) ∧
    (layout.Shows valid a sequence state object.shadow ∨ layout.Lost valid object.shadow)

/-- A copy is overwritten behind the object's back: with the other copy sound, and such that the
check notices it or undoes it. -/
def RecordLayout.strike (object : Object) (shadow : Bool) (copy : Copy) : Object :=
  let check := fun copy => copyCheck copy layout.version (layout.validator valid)
  let struck := if shadow then object.shadow else object.primary
  let other := if shadow then object.primary else object.shadow
  if (check other).isSome ∧
      (check copy = none ∨ (check copy).map Prod.fst = (check struck).map Prod.fst) then
    if shadow then { object with shadow := copy } else { object with primary := copy }
  else object

end Objects

section Rules

variable {α : Type} {layout : RecordLayout α} {valid : α → Bool} {a b : α} {sequence : UInt32}
  {object : Object}

theorem RecordLayout.length_le (layout : RecordLayout α) (a : α) :
    (layout.bytes a).length ≤ maxPayload := by
  rw [layout.length_bytes]
  exact layout.size_le

theorem RecordLayout.accepts (layout : RecordLayout α) {valid : α → Bool} {a : α}
    (h : valid a = true) :
    (layout.validator valid).accepts (layout.bytes a) = true := by
  simp [RecordLayout.validator, Validator.accepts, layout.length_bytes, layout.value_bytes, h]

variable {state : IntegrityState} {payload : List UInt8}

theorem RecordLayout.shows_built (h : valid a = true)
    (hstate : state.code ≤ IntegrityState.recovered.code) :
    layout.Shows valid a sequence state
      (copyBuild layout.version sequence state (layout.bytes a)) :=
  ⟨false, copyCheck_copySeal (built_admissible (layout.length_le a) hstate (layout.accepts h))⟩

theorem RecordLayout.keeps_built (h : valid a = true)
    (hstate : state.code ≤ IntegrityState.recovered.code) :
    layout.Keeps valid a sequence
      { publicationLock := 0
        primary := copyBuild layout.version sequence state (layout.bytes a)
        shadow := copyBuild layout.version sequence state (layout.bytes a) } := by
  have hshows : layout.Shows valid a sequence state
      (copyBuild layout.version sequence state (layout.bytes a)) :=
    RecordLayout.shows_built h hstate
  exact ⟨rfl, h, state, hstate, .inl hshows, .inl hshows, .inl hshows⟩

theorem RecordLayout.Keeps.selects (h : layout.Keeps valid a sequence object) :
    ∃ state result, result ∈ [ReadResult.ok, .corrected, .recovered] ∧
      selectCopy (copyCheck object.primary layout.version (layout.validator valid))
          (copyCheck object.shadow layout.version (layout.validator valid)) =
        some (copyBuild layout.version sequence state (layout.bytes a), result) := by
  obtain ⟨state, -, hone, hprimary, hshadow⟩ := h.shown
  refine ⟨state, ?_⟩
  rcases hprimary with ⟨fixed, hprimary⟩ | hprimary
  · rcases hshadow with ⟨fixed', hshadow⟩ | hshadow
    · rw [hprimary, hshadow]
      exact selectCopy_same _ _ _
    · unfold RecordLayout.Lost at hshadow
      rw [hprimary, hshadow]
      exact ⟨.recovered, by simp, rfl⟩
  · unfold RecordLayout.Lost at hprimary
    rcases hshadow with ⟨fixed', hshadow⟩ | hshadow
    · rw [hprimary, hshadow]
      exact ⟨.recovered, by simp, rfl⟩
    · rcases hone with ⟨fixed, hone⟩ | ⟨fixed, hone⟩
      · rw [hprimary] at hone
        cases hone
      · unfold RecordLayout.Lost at hshadow
        rw [hshadow] at hone
        cases hone

theorem built_length_word {version : UInt32} (h : payload.length ≤ maxPayload) :
    ((copyBuild version sequence state payload).words wordLength).toNat = payload.length :=
  built_length _ _ _ h

theorem repairCopy_built {version : UInt32}
    (h : payload.length ≤ maxPayload) (result : ReadResult) :
    repairCopy (copyBuild version sequence state payload) result =
      copyBuild version sequence (repairState result) payload := by
  have hwords : (copyBuild version sequence state payload).words =
      builtWords version sequence state payload := rfl
  unfold repairCopy
  rw [built_length_word h, hwords, payloadOf_built _ _ _ h, built_version _ _ _ h,
    built_sequence _ _ _ h]

theorem RecordLayout.Keeps.read (h : layout.Keeps valid a sequence object) :
    ∃ result ∈ [ReadResult.ok, .corrected, .recovered], ∃ object',
      (layout.store valid).read object = (some (a, result), object') ∧
        layout.Keeps valid a sequence object' := by
  obtain ⟨state, result, hresult, hselect⟩ := h.selects
  have hle := layout.length_le a
  have hread := @read_of_selected _ _ _ layout.size _ _ layout.version_ne h.free hselect (by
    rw [built_length_word hle, layout.length_bytes])
  have hpayload : payloadOf (copyBuild layout.version sequence state (layout.bytes a)).words
      (layout.bytes a).length = layout.bytes a := payloadOf_built _ _ _ hle
  rw [built_length_word hle, hpayload, repairCopy_built hle] at hread
  refine ⟨result, hresult, _, ?_, RecordLayout.keeps_built h.passes (repairState_le result)⟩
  simp only [RecordLayout.store, hread, Option.bind_some]
  rw [if_pos (layout.length_bytes a), layout.value_bytes]

theorem selectCopy_sequence {primary shadow : Option (Copy × Bool)} {chosen : Copy}
    {result : ReadResult} (h : selectCopy primary shadow = some (chosen, result)) :
    currentSequence primary shadow = some (chosen.words wordSequence) := by
  cases primary with
  | none =>
    cases shadow with
    | none => cases h
    | some s =>
      cases Option.some.inj h
      rfl
  | some p =>
    cases shadow with
    | none =>
      cases Option.some.inj h
      rfl
    | some s =>
      unfold selectCopy at h
      unfold currentSequence
      simp only at h ⊢
      split at h
      next => cases h
      next hagree =>
        rw [if_neg hagree]
        cases Option.some.inj h
        rcases Nat.lt_or_ge (p.1.words wordSequence).toNat (s.1.words wordSequence).toNat
          with hlt | hge
        · have hgt : s.1.words wordSequence > p.1.words wordSequence := UInt32.lt_iff_toNat_lt.mpr hlt
          have hnot : ¬ p.1.words wordSequence ≥ s.1.words wordSequence := UInt32.not_le.mpr hgt
          rw [if_pos hgt, if_neg hnot]
        · have hge' : p.1.words wordSequence ≥ s.1.words wordSequence :=
            UInt32.le_iff_toNat_le.mpr hge
          rw [if_neg (UInt32.not_lt.mpr hge'), if_pos hge']

theorem RecordLayout.Keeps.update (h : layout.Keeps valid a sequence object) (hb : valid b = true) :
    (sequence + 1 = 0 → (layout.store valid).update object b = (false, object)) ∧
      (sequence + 1 ≠ 0 → ∃ object', (layout.store valid).update object b = (true, object') ∧
        layout.Keeps valid b (sequence + 1) object') := by
  obtain ⟨state, result, -, hselect⟩ := h.selects
  have hsequence := selectCopy_sequence hselect
  have hword : (copyBuild layout.version sequence state (layout.bytes a)).words wordSequence =
      sequence := built_sequence _ _ _ (layout.length_le a)
  have hargs : ¬ ((layout.bytes b).length = 0 ∨ maxPayload < (layout.bytes b).length ∨
      layout.version = 0) := by
    have hle := layout.length_le b
    have hpos := layout.size_pos
    have hlength := layout.length_bytes b
    have hversion := layout.version_ne
    rintro (h0 | h0 | h0)
    · omega
    · omega
    · exact hversion h0
  have hlock : object.lock = some { object with publicationLock := 1 } := by
    unfold Object.lock
    rw [if_pos h.free]
  have hcandidate : updateCandidate { object with publicationLock := 1 } layout.version
      (layout.bytes b) (layout.validator valid) =
      if sequence + 1 = 0 then none
      else some (copyBuild layout.version (sequence + 1) .healthy (layout.bytes b)) := by
    unfold updateCandidate
    simp only [hsequence, hword]
  constructor
  · intro hroom
    rw [if_pos hroom] at hcandidate
    have hunlock : ({ object with publicationLock := 1 } : Object).unlock = object :=
      unlock_free object h.free
    simp only [RecordLayout.store, Critical.update]
    rw [if_neg hargs, hlock]
    simp only [hcandidate, hunlock]
    rfl
  · intro hroom
    rw [if_neg hroom] at hcandidate
    have hkeeps : layout.Keeps valid b (sequence + 1)
        { publicationLock := 0
          primary := copyBuild layout.version (sequence + 1) .healthy (layout.bytes b)
          shadow := copyBuild layout.version (sequence + 1) .healthy (layout.bytes b) } :=
      RecordLayout.keeps_built hb (by decide)
    refine ⟨_, ?_, hkeeps⟩
    simp only [RecordLayout.store, Critical.update]
    rw [if_neg hargs, hlock]
    simp only [hcandidate]
    rfl

theorem RecordLayout.init_keeps (layout : RecordLayout α) {valid : α → Bool} (h : valid a = true)
    (object : Object) : ∃ object', (layout.store valid).init object a = (true, object') ∧
      layout.Keeps valid a 1 object' := by
  have hargs : ¬ (layout.version = 0 ∨ (layout.bytes a).length = 0 ∨
      maxPayload < (layout.bytes a).length) := by
    have hle := layout.length_le a
    have hpos := layout.size_pos
    have hlength := layout.length_bytes a
    have hversion := layout.version_ne
    rintro (h0 | h0 | h0)
    · exact hversion h0
    · omega
    · omega
  have hkeeps : layout.Keeps valid a 1
      { publicationLock := 0
        primary := copyBuild layout.version 1 .healthy (layout.bytes a)
        shadow := copyBuild layout.version 1 .healthy (layout.bytes a) } :=
    RecordLayout.keeps_built h (by decide)
  refine ⟨_, ?_, hkeeps⟩
  simp only [RecordLayout.store, Critical.init]
  rw [if_neg hargs]
  rfl

theorem RecordLayout.Keeps.strike (h : layout.Keeps valid a sequence object) (shadow : Bool)
    (copy : Copy) : layout.Keeps valid a sequence (layout.strike valid object shadow copy) := by
  obtain ⟨state, hstate, -, hprimary, hshadow⟩ := h.shown
  have hfresh : ∀ struck other : Copy, (layout.Shows valid a sequence state other ∨
      layout.Lost valid other) → (layout.Shows valid a sequence state struck ∨
      layout.Lost valid struck) →
      (copyCheck other layout.version (layout.validator valid)).isSome ∧
        (copyCheck copy layout.version (layout.validator valid) = none ∨
          (copyCheck copy layout.version (layout.validator valid)).map Prod.fst =
            (copyCheck struck layout.version (layout.validator valid)).map Prod.fst) →
      layout.Shows valid a sequence state other ∧
        (layout.Shows valid a sequence state copy ∨ layout.Lost valid copy) := by
    intro struck other hother hstruck ⟨hsome, hcopy⟩
    constructor
    · rcases hother with hother | hother
      · exact hother
      · unfold RecordLayout.Lost at hother
        rw [hother] at hsome
        cases hsome
    · rcases hcopy with hcopy | hcopy
      · exact .inr hcopy
      · rcases hstruck with ⟨fixed, hstruck⟩ | hstruck
        · rw [hstruck] at hcopy
          obtain ⟨⟨found, fixed'⟩, hfound, rfl⟩ := Option.map_eq_some_iff.mp hcopy
          exact .inl ⟨fixed', hfound⟩
        · unfold RecordLayout.Lost at hstruck
          rw [hstruck] at hcopy
          exact .inr (Option.map_eq_none_iff.mp hcopy)
  unfold RecordLayout.strike
  cases shadow with
  | false =>
    simp only [Bool.false_eq_true, if_false]
    split
    next hguard =>
      obtain ⟨hother, hcopy⟩ := hfresh object.primary object.shadow hshadow hprimary hguard
      exact ⟨h.free, h.passes, state, hstate, .inr hother, hcopy, .inl hother⟩
    next => exact h
  | true =>
    simp only [if_true]
    split
    next hguard =>
      obtain ⟨hother, hcopy⟩ := hfresh object.shadow object.primary hprimary hshadow hguard
      exact ⟨h.free, h.passes, state, hstate, .inl hother, .inl hother, hcopy⟩
    next => exact h

end Rules

/-- A record with the number of its last write: the cell without copies. -/
structure Plain (α : Type) where
  record : α
  sequence : UInt32

variable {α : Type}

def Plain.store : RecordStore (Plain α) α where
  init _ a := (true, ⟨a, 1⟩)
  read cell := (some (cell.record, .ok), cell)
  update cell a :=
    if cell.sequence + 1 = 0 then (false, cell) else (true, ⟨a, cell.sequence + 1⟩)

end ReistOs.Critical
