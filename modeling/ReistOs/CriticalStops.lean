import ReistOs.CriticalStores

namespace ReistOs.Critical

open CodeBit

section Answers

def wordsEqual (left right : Words) : Bool :=
  left wordVersion = right wordVersion && left wordSequence = right wordSequence &&
    left wordLength = right wordLength &&
    payloadOf left (left wordLength).toNat = payloadOf right (left wordLength).toNat

def held (copy : Copy) (version : UInt32) (validator : Validator) : Option Words :=
  (copyCheck copy version validator).map fun checked => checked.1.words

def chosenWords : Option Words → Option Words → Option Words
  | none, none => none
  | some primary, some shadow =>
    if primary wordSequence = shadow wordSequence ∧ !wordsEqual primary shadow then none
    else some (if primary wordSequence ≥ shadow wordSequence then primary else shadow)
  | some primary, none => some primary
  | none, some shadow => some shadow

def wholePayload (words : Words) : List UInt8 := payloadOf words (words wordLength).toNat

def handedOut (capacity : Nat) : Option Words → Option (List UInt8)
  | none => none
  | some words =>
    if (words wordLength).toNat > capacity then none else some (wholePayload words)

theorem selectCopy_words (primary shadow : Option (Copy × Bool)) :
    (selectCopy primary shadow).map (fun selected => selected.1.words) =
      chosenWords (primary.map fun checked => checked.1.words)
        (shadow.map fun checked => checked.1.words) := by
  cases primary with
  | none =>
    cases shadow with
    | none => rfl
    | some s => rfl
  | some p =>
    cases shadow with
    | none => rfl
    | some s =>
      obtain ⟨primary, primaryFixed⟩ := p
      obtain ⟨shadow, shadowFixed⟩ := s
      have hequal : copiesEqual primary shadow = wordsEqual primary.words shadow.words := rfl
      simp only [selectCopy, chosenWords, Option.map_some, hequal]
      split
      · rfl
      · simp only [Option.map_some]
        split
        · rfl
        · rfl

variable {object : Object} {version : UInt32} {capacity : Nat} {validator : Validator}

theorem read_answer (hversion : version ≠ 0) (hlock : object.publicationLock = 0) :
    (read object version capacity validator).2.1 =
      handedOut capacity (chosenWords (held object.primary version validator)
        (held object.shadow version validator)) := by
  unfold held
  rw [← selectCopy_words]
  unfold read Object.lock
  rw [if_neg hversion, if_pos hlock]
  simp only
  cases selectCopy (copyCheck object.primary version validator)
      (copyCheck object.shadow version validator) with
  | none => rfl
  | some selected =>
    obtain ⟨chosen, result⟩ := selected
    simp only [Option.map_some, handedOut]
    split
    · rfl
    · rfl

theorem read_locked (hversion : version ≠ 0) (hlock : object.publicationLock ≠ 0) :
    read object version capacity validator = (.uncorrectable, none, object) := by
  unfold read Object.lock
  rw [if_neg hversion, if_neg hlock]

theorem read_payload_locked {payload : List UInt8}
    (h : (read object version capacity validator).2.1 = some payload) :
    version ≠ 0 ∧ object.publicationLock = 0 := by
  by_cases hversion : version = 0
  · simp [read, hversion] at h
  · refine ⟨hversion, ?_⟩
    by_contra hlock
    rw [read_locked hversion hlock] at h
    cases h

end Answers

section Newest

/-- No accepted copy is newer than the words, and one of the same sequence agrees with them. -/
def Newest (words : Words) (other : Option Words) : Prop :=
  ∀ found, other = some found → found wordSequence < words wordSequence ∨
    (words wordSequence = found wordSequence ∧ wordsEqual words found = true)

theorem wordsEqual_self (words : Words) : wordsEqual words words = true := by simp [wordsEqual]

theorem wordsEqual_iff {left right : Words} :
    wordsEqual left right = true ↔ left wordVersion = right wordVersion ∧
      left wordSequence = right wordSequence ∧ left wordLength = right wordLength ∧
      wholePayload left = wholePayload right := by
  unfold wordsEqual wholePayload
  simp only [Bool.and_eq_true, decide_eq_true_eq, and_assoc]
  constructor
  · rintro ⟨hversion, hsequence, hlength, hpayload⟩
    exact ⟨hversion, hsequence, hlength, by rw [hpayload, hlength]⟩
  · rintro ⟨hversion, hsequence, hlength, hpayload⟩
    exact ⟨hversion, hsequence, hlength, by rw [hpayload, hlength]⟩

variable {words : Words} {other primary shadow : Option Words}

theorem chosenWords_primary (h : Newest words other) : chosenWords (some words) other = some words := by
  cases other with
  | none => rfl
  | some found =>
    unfold chosenWords
    rcases h found rfl with hlt | ⟨heq, hequal⟩
    · have hne : words wordSequence ≠ found wordSequence := by
        intro he
        rw [he] at hlt
        exact UInt32.lt_irrefl _ hlt
      have hge : words wordSequence ≥ found wordSequence := UInt32.le_of_lt hlt
      simp [hne, hge]
    · have hge : words wordSequence ≥ found wordSequence := by
        rw [heq]
        exact UInt32.le_refl _
      simp [hequal, hge]

theorem handedOut_shadow {capacity : Nat} (h : Newest words other) :
    handedOut capacity (chosenWords other (some words)) = handedOut capacity (some words) := by
  cases other with
  | none => rfl
  | some found =>
    unfold chosenWords
    rcases h found rfl with hlt | ⟨heq, hequal⟩
    · have hne : found wordSequence ≠ words wordSequence := by
        intro he
        rw [he] at hlt
        exact UInt32.lt_irrefl _ hlt
      have hlow : ¬ found wordSequence ≥ words wordSequence := UInt32.not_le.mpr hlt
      simp [hne, hlow]
    · obtain ⟨hversion, -, hlength, hpayload⟩ := wordsEqual_iff.mp hequal
      have hback : wordsEqual found words = true :=
        wordsEqual_iff.mpr ⟨hversion.symm, heq.symm, hlength.symm, hpayload.symm⟩
      have hge : found wordSequence ≥ words wordSequence := by
        rw [heq]
        exact UInt32.le_refl _
      simp [hback, hge, handedOut, hlength, hpayload]

theorem newest_none (words : Words) : Newest words none := by
  intro found hf
  cases hf

theorem newest_self (words : Words) : Newest words (some words) := by
  intro found hf
  cases hf
  exact .inr ⟨rfl, wordsEqual_self words⟩

theorem chosenWords_newest (h : chosenWords primary shadow = some words) :
    Newest words primary ∧ Newest words shadow := by
  cases primary with
  | none =>
    cases shadow with
    | none => cases h
    | some s =>
      cases h
      exact ⟨newest_none words, newest_self words⟩
  | some p =>
    cases shadow with
    | none =>
      cases h
      exact ⟨newest_self words, newest_none words⟩
    | some s =>
      simp only [chosenWords] at h
      by_cases hconflict : p wordSequence = s wordSequence ∧ (!wordsEqual p s) = true
      · rw [if_pos hconflict] at h
        cases h
      · rw [if_neg hconflict] at h
        have hwords := Option.some.inj h
        by_cases hge : p wordSequence ≥ s wordSequence
        · rw [if_pos hge] at hwords
          subst hwords
          refine ⟨newest_self p, ?_⟩
          rintro found ⟨⟩
          rcases UInt32.lt_or_eq_of_le hge with hlt | heq
          · exact .inl hlt
          · refine .inr ⟨heq.symm, ?_⟩
            by_contra hequal
            exact hconflict ⟨heq.symm, by simpa using hequal⟩
        · rw [if_neg hge] at hwords
          subst hwords
          refine ⟨?_, newest_self s⟩
          rintro found ⟨⟩
          exact .inl (UInt32.not_le.mp hge)

end Newest

section Stops

variable (object : Object) (version : UInt32) (capacity : Nat) (validator : Validator) (call : Call)

/-- The object after a call was stopped behind `k` of its stores, for a reader who finds the lock
free again. -/
def stopped (k : Nat) : Object :=
  (runObject object ((call.stores object version capacity validator).take k)).unlock

def storeCount : Nat := (call.stores object version capacity validator).length

def published (before : List UInt8) : List UInt8 :=
  match call with
  | .update payload => payload
  | .read => before

/-- A copy on the way from one content to another passes its check as one of the two or not at
all. -/
def Settled (now before after : Option Words) : Prop := now = none ∨ now = before ∨ now = after

def HalfStoresRejected : Prop :=
  ∀ k ≤ storeCount object version capacity validator call,
    Settled (held (stopped object version capacity validator call k).primary version validator)
      (held object.primary version validator)
      (held (stopped object version capacity validator call
        (storeCount object version capacity validator call)).primary version validator) ∧
    Settled (held (stopped object version capacity validator call k).shadow version validator)
      (held object.shadow version validator)
      (held (stopped object version capacity validator call
        (storeCount object version capacity validator call)).shadow version validator)

def Holds (copy : Copy) (payload : List UInt8) : Prop :=
  (held copy version validator).map wholePayload = some payload

/-- The copy that the call stores last can answer alone, or the one it stores first is never
without an accepted content. -/
def Recoverable (before : List UInt8) : Prop :=
  match call with
  | .update payload =>
    validator.accepts payload = true ∧ payload.length ≤ capacity ∧
      (Holds version validator object.primary before ∨
        Holds version validator object.primary payload ∨
        ∀ k ≤ storeCount object version capacity validator call,
          held (stopped object version capacity validator call k).shadow version validator ≠ none)
  | .read =>
    Holds version validator object.shadow before ∨
      ∀ k ≤ storeCount object version capacity validator call,
        held (stopped object version capacity validator call k).primary version validator ≠ none

variable {object version capacity validator}

theorem take_two_phases {α : Type} (xs ys : List α) (k : Nat) :
    (xs ++ ys).take k = xs.take k ∨ (xs ++ ys).take k = xs ++ ys.take (k - xs.length) := by
  rw [List.take_append]
  rcases Nat.le_total k xs.length with h | h
  · left
    rw [Nat.sub_eq_zero_of_le h]
    simp
  · right
    rw [List.take_of_length_le h]

variable {copy checked : Copy} {corrected : Bool} {found : Option Words} {xs ys : List CopyStore}

theorem copyCheck_admissible (h : copyCheck copy version validator = some (checked, corrected)) :
    Admissible checked.words version validator := by
  unfold copyCheck at h
  cases hrepair : repairWords (List.finRange 20) copy false with
  | none =>
    rw [hrepair] at h
    cases h
  | some repaired =>
    obtain ⟨repaired, fixed⟩ := repaired
    rw [hrepair] at h
    simp only at h
    split at h
    next => cases h
    next hfields =>
      split at h
      next => cases h
      next haccepts =>
        push Not at hfields
        obtain ⟨-, hversion, hlength, hintegrity⟩ := hfields
        cases Option.some.inj h
        refine ⟨hversion, hlength, UInt32.not_lt.mp hintegrity, ?_⟩
        simpa using haccepts

variable {words : Words} {payload : List UInt8}

theorem copyCheck_copySeal_words
    (h : copyCheck (copySeal words) version validator = some (checked, corrected)) :
    checked.words = words := by
  have hdecode : ∀ i ∈ List.finRange 20, secdedDecode ((copySeal words).words i)
      ((copySeal words).ecc i) = some (words i, false) := by
    intro i _
    exact decode_encode (words i)
  have hrepair : ∃ repaired fixed, repairWords (List.finRange 20) (copySeal words) false =
      some (repaired, fixed) ∧ repaired.words = words := by
    refine ⟨_, _, repairWords_some (List.nodup_finRange 20) hdecode, ?_⟩
    funext i
    simp
  obtain ⟨repaired, fixed, hrepair, hwords⟩ := hrepair
  unfold copyCheck at h
  rw [hrepair] at h
  simp only at h
  split at h
  next => cases h
  next =>
    split at h
    next => cases h
    next =>
      cases Option.some.inj h
      exact hwords

theorem held_iff : held copy version validator = some words ↔
      ∃ checked corrected, copyCheck copy version validator = some (checked, corrected) ∧
        checked.words = words := by
  unfold held
  constructor
  · intro h
    obtain ⟨⟨checked, corrected⟩, hcheck, hwords⟩ := Option.map_eq_some_iff.mp h
    exact ⟨checked, corrected, hcheck, hwords⟩
  · rintro ⟨checked, corrected, hcheck, hwords⟩
    rw [hcheck, ← hwords]
    rfl

theorem held_admissible (h : held copy version validator = some words) :
    Admissible words version validator := by
  obtain ⟨checked, corrected, hcheck, rfl⟩ := held_iff.mp h
  exact copyCheck_admissible hcheck

theorem held_copySeal (h : Admissible words version validator) :
    held (copySeal words) version validator = some words :=
  held_iff.mpr ⟨_, _, copyCheck_copySeal h, rfl⟩

theorem held_copySeal_words {words found : Words}
    (h : held (copySeal words) version validator = some found) : found = words := by
  obtain ⟨checked, corrected, hcheck, rfl⟩ := held_iff.mp h
  exact copyCheck_copySeal_words hcheck

theorem currentSequence_le {primary shadow : Option (Copy × Bool)} {current : UInt32}
    (h : currentSequence primary shadow = some current) :
    (∀ checked corrected, primary = some (checked, corrected) →
      checked.words wordSequence ≤ current) ∧
    ∀ checked corrected, shadow = some (checked, corrected) →
      checked.words wordSequence ≤ current := by
  unfold currentSequence at h
  split at h
  next => cases h
  next p pFixed =>
    cases h
    constructor
    · rintro checked corrected ⟨⟩
      exact UInt32.le_refl _
    · rintro checked corrected ⟨⟩
  next s sFixed =>
    cases h
    constructor
    · rintro checked corrected ⟨⟩
    · rintro checked corrected ⟨⟩
      exact UInt32.le_refl _
  next p pFixed s sFixed =>
    split at h
    next => cases h
    next =>
      split at h
      next hgt =>
        cases h
        constructor
        · rintro checked corrected ⟨⟩
          exact UInt32.le_of_lt hgt
        · rintro checked corrected ⟨⟩
          exact UInt32.le_refl _
      next hle =>
        cases h
        constructor
        · rintro checked corrected ⟨⟩
          exact UInt32.le_refl _
        · rintro checked corrected ⟨⟩
          exact UInt32.not_lt.mp hle

theorem candidate_spec {candidate : Copy}
    (h : updateCandidate object version payload validator = some candidate) :
    ∃ sequence, candidate = copyBuild version sequence .healthy payload ∧
      (∀ found, held object.primary version validator = some found →
        found wordSequence < sequence) ∧
      ∀ found, held object.shadow version validator = some found →
        found wordSequence < sequence := by
  unfold updateCandidate at h
  split at h
  next => cases h
  next current hcurrent =>
    split at h
    next => cases h
    next hnext =>
      have hcandidate := Option.some.inj h
      have habove : ∀ sequence : UInt32, sequence ≤ current → sequence < current + 1 := by
        intro sequence hle
        have hne : (current + 1).toNat ≠ 0 := by
          intro h0
          exact hnext (UInt32.toNat_inj.mp h0)
        rw [UInt32.le_iff_toNat_le] at hle
        rw [UInt32.lt_iff_toNat_lt]
        have hlt := current.toNat_lt
        have hone : (1 : UInt32).toNat = 1 := rfl
        rw [UInt32.toNat_add] at hne ⊢
        omega
      obtain ⟨hprimary, hshadow⟩ := currentSequence_le hcurrent
      refine ⟨current + 1, hcandidate.symm, ?_, ?_⟩
      · intro found hfound
        obtain ⟨checked, corrected, hcheck, rfl⟩ := held_iff.mp hfound
        exact habove _ (hprimary checked corrected hcheck)
      · intro found hfound
        obtain ⟨checked, corrected, hcheck, rfl⟩ := held_iff.mp hfound
        exact habove _ (hshadow checked corrected hcheck)

theorem handedOut_eq (hpayload : wholePayload words = payload)
    (hlength : (words wordLength).toNat = payload.length) (hfits : payload.length ≤ capacity) :
    handedOut capacity (some words) = some payload := by
  unfold handedOut
  simp only
  rw [hlength, if_neg (Nat.not_lt.mpr hfits), hpayload]

theorem length_wholePayload (words : Words) :
    (wholePayload words).length = (words wordLength).toNat := length_payloadOf _ _

theorem handedOut_some (h : handedOut capacity found = some payload) :
    ∃ words, found = some words ∧ wholePayload words = payload ∧
      (words wordLength).toNat = payload.length ∧ payload.length ≤ capacity := by
  cases found with
  | none => cases h
  | some words =>
    unfold handedOut at h
    simp only at h
    split at h
    next => cases h
    next hfits =>
      have hpayload := Option.some.inj h
      have hlength : (words wordLength).toNat = payload.length := by
        rw [← hpayload, length_wholePayload]
      exact ⟨words, rfl, hpayload, hlength, by omega⟩

theorem handedOut_chosen_none :
    handedOut capacity (chosenWords found none) = handedOut capacity found := by
  cases found with
  | none => rfl
  | some words => rfl

theorem handedOut_none_chosen :
    handedOut capacity (chosenWords none found) = handedOut capacity found := by
  cases found with
  | none => rfl
  | some words => rfl

theorem holds_of_handedOut (h : handedOut capacity (held copy version validator) = some payload) :
    Holds version validator copy payload := by
  obtain ⟨words, hheld, hpayload, -⟩ := handedOut_some h
  unfold Holds
  rw [hheld, ← hpayload]
  rfl

theorem handedOut_of_holds (h : Holds version validator copy payload)
    (hfits : payload.length ≤ capacity) :
    handedOut capacity (held copy version validator) = some payload := by
  obtain ⟨words, hheld, hpayload⟩ := Option.map_eq_some_iff.mp h
  rw [hheld]
  exact handedOut_eq hpayload (by rw [← hpayload, length_wholePayload]) hfits

/-- A call that ran through all its stores has left the same copy in both places. -/
def LeavesBoth (object : Object) (version : UInt32) (capacity : Nat) (validator : Validator)
    (call : Call) (copy : Copy) : Prop :=
  (stopped object version capacity validator call
    (storeCount object version capacity validator call)).primary = copy ∧
  (stopped object version capacity validator call
    (storeCount object version capacity validator call)).shadow = copy

theorem stopped_shadow_first
    (hstores : call.stores object version capacity validator = xs.map .shadow ++ ys.map .primary)
    (hxs : runStores object.shadow xs = copy) (hys : runStores object.primary ys = copy) :
    (∀ k, (stopped object version capacity validator call k).primary = object.primary ∨
      (stopped object version capacity validator call k).shadow = copy) ∧
    LeavesBoth object version capacity validator call copy := by
  refine ⟨?_, ?_⟩
  · intro k
    unfold stopped
    rw [hstores]
    rcases take_two_phases (xs.map ObjectStore.shadow) (ys.map ObjectStore.primary) k with h | h
    · left
      rw [h, ← List.map_take, runObject_shadow]
      rfl
    · right
      rw [h, runObject_append, runObject_shadow, ← List.map_take, runObject_primary, hxs]
      rfl
  · unfold LeavesBoth stopped storeCount
    rw [List.take_length, hstores, runObject_append, runObject_shadow, runObject_primary, hxs, hys]
    exact ⟨rfl, rfl⟩

theorem stopped_primary_first
    (hstores : call.stores object version capacity validator = xs.map .primary ++ ys.map .shadow)
    (hxs : runStores object.primary xs = copy) (hys : runStores object.shadow ys = copy) :
    (∀ k, (stopped object version capacity validator call k).shadow = object.shadow ∨
      (stopped object version capacity validator call k).primary = copy) ∧
    LeavesBoth object version capacity validator call copy := by
  refine ⟨?_, ?_⟩
  · intro k
    unfold stopped
    rw [hstores]
    rcases take_two_phases (xs.map ObjectStore.primary) (ys.map ObjectStore.shadow) k with h | h
    · left
      rw [h, ← List.map_take, runObject_primary]
      rfl
    · right
      rw [h, runObject_append, runObject_primary, ← List.map_take, runObject_shadow, hxs]
      rfl
  · unfold LeavesBoth stopped storeCount
    rw [List.take_length, hstores, runObject_append, runObject_primary, runObject_shadow, hxs, hys]
    exact ⟨rfl, rfl⟩

theorem updateStores_spec (h : updateStores object version validator payload ≠ []) :
    payload.length ≤ maxPayload ∧ ∃ candidate,
      updateCandidate object version payload validator = some candidate ∧
      updateStores object version validator payload =
        (assignStores candidate).map .shadow ++ (assignStores candidate).map .primary := by
  unfold updateStores at h ⊢
  split at h
  next => exact absurd rfl h
  next hargs =>
    rw [if_neg hargs]
    push Not at hargs
    refine ⟨hargs.2.1, ?_⟩
    cases hcandidate : updateCandidate object version payload validator with
    | none =>
      rw [hcandidate] at h
      exact absurd rfl h
    | some candidate => exact ⟨candidate, rfl, rfl⟩

end Stops

section Recovery

variable {object : Object} {version : UInt32} {capacity : Nat} {validator : Validator}
  {before : List UInt8}

/-- Every reader that comes after a stop gets the old payload or the new one. -/
def Survives (object : Object) (version : UInt32) (capacity : Nat) (validator : Validator)
    (call : Call) (before : List UInt8) : Prop :=
  ∀ k ≤ storeCount object version capacity validator call,
    (read (stopped object version capacity validator call k) version capacity validator).2.1 =
        some before ∨
    (read (stopped object version capacity validator call k) version capacity validator).2.1 =
        some (published call before)

theorem read_stopped (call : Call) (hversion : version ≠ 0) (k : Nat) :
    (read (stopped object version capacity validator call k) version capacity validator).2.1 =
      handedOut capacity (chosenWords
        (held (stopped object version capacity validator call k).primary version validator)
        (held (stopped object version capacity validator call k).shadow version validator)) :=
  read_answer hversion rfl

section Update

variable {payload : List UInt8} {sequence : UInt32}

variable {state : IntegrityState}

theorem wholePayload_built (h : payload.length ≤ maxPayload) :
    wholePayload (builtWords version sequence state payload) = payload := by
  unfold wholePayload
  rw [built_length _ _ _ h, payloadOf_built _ _ _ h]

theorem handedOut_built (h : payload.length ≤ maxPayload) (hfits : payload.length ≤ capacity) :
    handedOut capacity (some (builtWords version sequence state payload)) = some payload :=
  handedOut_eq (wholePayload_built h) (built_length _ _ _ h) hfits

theorem newest_candidate {now old : Option Words} (hmax : payload.length ≤ maxPayload)
    (hold : ∀ found, old = some found → found wordSequence < sequence)
    (hnow : Settled now old (held (copyBuild version sequence state payload) version validator)) :
    Newest (builtWords version sequence state payload) now := by
  rcases hnow with rfl | rfl | rfl
  · exact newest_none _
  · intro found hfound
    left
    rw [built_sequence _ _ _ hmax]
    exact hold found hfound
  · intro found hfound
    rw [copyBuild_eq] at hfound
    obtain rfl := held_copySeal_words hfound
    exact .inr ⟨rfl, wordsEqual_self _⟩

theorem update_survives_iff (hread : (read object version capacity validator).2.1 = some before)
    (hstores : updateStores object version validator payload ≠ [])
    (hhalf : HalfStoresRejected object version capacity validator (.update payload)) :
    Survives object version capacity validator (.update payload) before ↔
      Recoverable object version capacity validator (.update payload) before := by
  obtain ⟨hversion, hlock⟩ := read_payload_locked hread
  rw [read_answer hversion hlock] at hread
  obtain ⟨hmax, candidate, hcandidate, hlist⟩ := updateStores_spec hstores
  obtain ⟨sequence, rfl, hprimary, hshadow⟩ := candidate_spec hcandidate
  have hlist' : Call.stores object version capacity validator (.update payload) = _ := hlist
  obtain ⟨hphases, hdoneP, hdoneS⟩ := stopped_shadow_first _ hlist'
    (runStores_assign _ _) (runStores_assign _ _)
  have hfits : before.length ≤ capacity := by
    obtain ⟨-, -, -, -, h⟩ := handedOut_some hread
    exact h
  unfold HalfStoresRejected at hhalf
  rw [hdoneP, hdoneS] at hhalf
  constructor
  · intro hsurvives
    have hlast := hsurvives _ (Nat.le_refl _)
    rw [read_stopped _ hversion, hdoneP, hdoneS] at hlast
    have hheld : held (copyBuild version sequence .healthy payload) version validator =
        some (builtWords version sequence .healthy payload) := by
      cases hc : held (copyBuild version sequence .healthy payload) version validator with
      | none =>
        rw [hc] at hlast
        rcases hlast with h | h
        · cases h
        · cases h
      | some found =>
        rw [copyBuild_eq] at hc
        rw [held_copySeal_words hc]
    have hadmissible := held_admissible hheld
    rw [hheld, chosenWords_primary (newest_self _)] at hlast
    have haccepts : validator.accepts payload = true := by
      have h := hadmissible.2.2.2
      rw [built_length _ _ _ hmax, payloadOf_built _ _ _ hmax] at h
      exact h
    have hcapacity : payload.length ≤ capacity := by
      have hsome : ∃ answer, handedOut capacity
          (some (builtWords version sequence .healthy payload)) = some answer := by
        rcases hlast with h | h
        · exact ⟨_, h⟩
        · exact ⟨_, h⟩
      obtain ⟨answer, hanswer⟩ := hsome
      obtain ⟨words, hwords, -, hlength, hle⟩ := handedOut_some hanswer
      cases Option.some.inj hwords
      rw [built_length _ _ _ hmax] at hlength
      omega
    refine ⟨haccepts, hcapacity, ?_⟩
    by_cases hholds : Holds version validator object.primary before ∨
        Holds version validator object.primary payload
    · rcases hholds with h | h
      · exact .inl h
      · exact .inr (.inl h)
    · refine .inr (.inr ?_)
      intro k hk hnone
      have hstop := hsurvives k hk
      rw [read_stopped _ hversion, hnone, handedOut_chosen_none] at hstop
      rcases hphases k with h | h
      · rw [h] at hstop
        apply hholds
        rcases hstop with h | h
        · exact .inl (holds_of_handedOut h)
        · exact .inr (holds_of_handedOut h)
      · rw [h, hheld] at hnone
        cases hnone
  · rintro ⟨haccepts, hcapacity, hrest⟩ k hk
    have hheld : held (copyBuild version sequence .healthy payload) version validator =
        some (builtWords version sequence .healthy payload) :=
      held_copySeal (built_admissible hmax (by decide) haccepts)
    have hnew : handedOut capacity (some (builtWords version sequence .healthy payload)) =
        some payload := handedOut_built hmax hcapacity
    rw [read_stopped _ hversion]
    obtain ⟨hsettledP, hsettledS⟩ := hhalf k hk
    rcases hphases k with hphase | hphase
    · rw [hphase] at hsettledP ⊢
      rcases hsettledS with h | h | h
      · -- the shadow is half stored: only the untouched primary can answer
        rw [h, handedOut_chosen_none]
        rcases hrest with hholds | hholds | hnever
        · exact .inl (handedOut_of_holds hholds hfits)
        · exact .inr (handedOut_of_holds hholds hcapacity)
        · exact absurd h (hnever k hk)
      · rw [h]
        exact .inl hread
      · rw [h, hheld, handedOut_shadow, hnew]
        · exact .inr rfl
        · exact newest_candidate hmax hprimary hsettledP
    · rw [hphase, hheld, handedOut_shadow, hnew]
      · exact .inr rfl
      · exact newest_candidate hmax hprimary hsettledP

end Update

theorem wordsEqual_built {words : Words} {state : IntegrityState}
    (hadmissible : Admissible words version validator) :
    wordsEqual (builtWords (words wordVersion) (words wordSequence) state (wholePayload words))
      words = true := by
  have hmax : (wholePayload words).length ≤ maxPayload := by
    rw [length_wholePayload]
    exact hadmissible.2.1
  apply wordsEqual_iff.mpr
  refine ⟨built_version _ _ _ hmax, built_sequence _ _ _ hmax, ?_, wholePayload_built hmax⟩
  apply UInt32.toNat_inj.mp
  rw [built_length _ _ _ hmax, length_wholePayload]

theorem newest_of_wordsEqual {left right : Words} {other : Option Words}
    (hequal : wordsEqual left right = true) (h : Newest right other) : Newest left other := by
  obtain ⟨hversion, hsequence, hlength, hpayload⟩ := wordsEqual_iff.mp hequal
  intro found hfound
  rw [hsequence]
  rcases h found hfound with hlt | ⟨heq, hsame⟩
  · exact .inl hlt
  · obtain ⟨hversion', hsequence', hlength', hpayload'⟩ := wordsEqual_iff.mp hsame
    refine .inr ⟨heq, wordsEqual_iff.mpr ⟨?_, ?_, ?_, ?_⟩⟩
    · rw [hversion, hversion']
    · rw [hsequence, hsequence']
    · rw [hlength, hlength']
    · rw [hpayload, hpayload']

theorem selectCopy_admissible {chosen : Copy} {result : ReadResult}
    (h : selectCopy (copyCheck object.primary version validator)
      (copyCheck object.shadow version validator) = some (chosen, result)) :
    Admissible chosen.words version validator := by
  unfold selectCopy at h
  split at h
  next => cases h
  next p pFixed s sFixed hp hs =>
    split at h
    next => cases h
    next =>
      have hchosen := (Prod.mk.inj (Option.some.inj h)).1
      rw [← hchosen]
      split
      · exact copyCheck_admissible hp
      · exact copyCheck_admissible hs
  next p pFixed hp hs =>
    cases h
    exact copyCheck_admissible hp
  next s sFixed hp hs =>
    cases h
    exact copyCheck_admissible hs

theorem readStores_spec (hread : (read object version capacity validator).2.1 = some before) :
    ∃ chosen result,
      chosenWords (held object.primary version validator) (held object.shadow version validator) =
        some chosen.words ∧
      Admissible chosen.words version validator ∧ wholePayload chosen.words = before ∧
      before.length ≤ capacity ∧
      readStores object version capacity validator =
        (buildStores (chosen.words wordVersion) (chosen.words wordSequence) (repairState result)
          (wholePayload chosen.words)).map .primary ++
        (assignStores (repairCopy chosen result)).map .shadow := by
  obtain ⟨hversion, hlock⟩ := read_payload_locked hread
  rw [read_answer hversion hlock] at hread
  obtain ⟨words, hchosen, hpayload, hlength, hfits⟩ := handedOut_some hread
  have hmap := selectCopy_words (copyCheck object.primary version validator)
    (copyCheck object.shadow version validator)
  have hsame : chosenWords
      ((copyCheck object.primary version validator).map fun checked => checked.1.words)
      ((copyCheck object.shadow version validator).map fun checked => checked.1.words) =
      some words := hchosen
  rw [hsame] at hmap
  obtain ⟨⟨chosen, result⟩, hselect, rfl⟩ := Option.map_eq_some_iff.mp hmap
  refine ⟨chosen, result, hchosen, selectCopy_admissible hselect, hpayload, hfits, ?_⟩
  have hlow : ¬ (chosen.words wordLength).toNat > capacity := by
    show ¬ ((chosen.words wordLength).toNat > capacity)
    simp only at hlength
    omega
  unfold readStores
  rw [if_neg hversion, hselect]
  simp only
  rw [if_neg hlow]
  rfl

theorem read_survives_iff (hread : (read object version capacity validator).2.1 = some before)
    (hhalf : HalfStoresRejected object version capacity validator .read) :
    Survives object version capacity validator .read before ↔
      Recoverable object version capacity validator .read before := by
  obtain ⟨chosen, result, hchosen, hadmissible, hpayload, hfits, hlist⟩ := readStores_spec hread
  obtain ⟨hversion, hlock⟩ := read_payload_locked hread
  rw [read_answer hversion hlock] at hread
  have hlist' : Call.stores object version capacity validator .read = _ := hlist
  have hrepair : repairCopy chosen result = copyBuild (chosen.words wordVersion)
      (chosen.words wordSequence) (repairState result) (wholePayload chosen.words) := rfl
  obtain ⟨hphases, hdoneP, hdoneS⟩ := stopped_primary_first _ hlist'
    (runStores_build _ _ _ _ _) (runStores_assign _ _)
  unfold HalfStoresRejected at hhalf
  rw [hdoneP, hdoneS] at hhalf
  have hmax : before.length ≤ maxPayload := by
    rw [← hpayload, length_wholePayload]
    exact hadmissible.2.1
  have haccepts : validator.accepts before = true := by
    rw [← hpayload]
    exact hadmissible.2.2.2
  obtain ⟨hnewP, hnewS⟩ := chosenWords_newest hchosen
  generalize hrebuilt : builtWords (chosen.words wordVersion) (chosen.words wordSequence)
    (repairState result) (wholePayload chosen.words) = rebuilt at *
  have hequal : wordsEqual rebuilt chosen.words = true := by
    rw [← hrebuilt]
    exact wordsEqual_built hadmissible
  have hseal : repairCopy chosen result = copySeal rebuilt := by
    rw [← hrebuilt]
    rfl
  have hheld : held (repairCopy chosen result) version validator = some rebuilt := by
    have hbuilt : Admissible (builtWords (chosen.words wordVersion) (chosen.words wordSequence)
        (repairState result) before) (chosen.words wordVersion) validator :=
      built_admissible hmax (repairState_le result) haccepts
    rw [hseal]
    apply held_copySeal
    rw [← hrebuilt, hpayload, ← hadmissible.1]
    exact hbuilt
  have hanswer : handedOut capacity (some rebuilt) = some before := by
    obtain ⟨-, -, hlength, hsame⟩ := wordsEqual_iff.mp hequal
    apply handedOut_eq (hsame.trans hpayload)
    · rw [hlength, ← hpayload, length_wholePayload]
    · exact hfits
  have hnewest : ∀ now old, Newest chosen.words old →
      Settled now old (held (repairCopy chosen result) version validator) → Newest rebuilt now := by
    intro now old hold hnow
    rcases hnow with rfl | rfl | rfl
    · exact newest_none _
    · exact newest_of_wordsEqual hequal hold
    · rw [hheld]
      exact newest_self _
  constructor
  · intro hsurvives
    by_cases hholds : Holds version validator object.shadow before
    · exact .inl hholds
    · refine .inr ?_
      intro k hk hnone
      have hstop := hsurvives k hk
      rw [read_stopped _ hversion, hnone, handedOut_none_chosen] at hstop
      rcases hphases k with h | h
      · rw [h] at hstop
        apply hholds
        rcases hstop with h | h
        · exact holds_of_handedOut h
        · exact holds_of_handedOut h
      · rw [h, ← hrepair, hheld] at hnone
        cases hnone
  · intro hrest k hk
    left
    rw [read_stopped _ hversion]
    obtain ⟨hsettledP, hsettledS⟩ := hhalf k hk
    rcases hphases k with hphase | hphase
    · rw [hphase] at hsettledS ⊢
      rcases hsettledP with h | h | h
      · -- the primary is half built: only the untouched shadow can answer
        rw [h, handedOut_none_chosen]
        rcases hrest with hholds | hnever
        · exact handedOut_of_holds hholds hfits
        · exact absurd h (hnever k hk)
      · rw [h]
        exact hread
      · rw [h, ← hrepair, hheld, chosenWords_primary, hanswer]
        exact newest_of_wordsEqual hequal hnewS
    · rw [hphase, ← hrepair, hheld, chosenWords_primary, hanswer]
      exact hnewest _ _ hnewS hsettledS

/-- A call stopped between two stores leaves the old or the new payload readable exactly if its last
copy can answer alone, or its first is accepted at every point. -/
theorem stopped_survives_iff (call : Call)
    (hread : (read object version capacity validator).2.1 = some before)
    (hstores : call.stores object version capacity validator ≠ [])
    (hhalf : HalfStoresRejected object version capacity validator call) :
    Survives object version capacity validator call before ↔
      Recoverable object version capacity validator call before := by
  cases call with
  | update payload => exact update_survives_iff hread hstores hhalf
  | read => exact read_survives_iff hread hhalf

end Recovery

instance (now before after : Option Words) : Decidable (Settled now before after) := by
  unfold Settled
  infer_instance

variable {object : Object} {capacity k : Nat} {copy source : Copy}

variable {payload : List UInt8} {words : Words}

theorem halfStores_of_copies {version : UInt32} {validator : Validator}
    {candidate : Copy} (hstores : updateStores object version validator payload =
      (assignStores candidate).map .shadow ++ (assignStores candidate).map .primary)
    (hsettled : ∀ copy ∈ [object.primary, object.shadow], ∀ k ≤ (assignStores candidate).length,
      Settled (held (runStores copy ((assignStores candidate).take k)) version validator)
        (held copy version validator) (held candidate version validator)) :
    HalfStoresRejected object version capacity validator (.update payload) := by
  have hlist : Call.stores object version capacity validator (.update payload) = _ := hstores
  obtain ⟨-, hdoneP, hdoneS⟩ := stopped_shadow_first _ hlist
    (runStores_assign _ _) (runStores_assign _ _)
  have hany : ∀ copy ∈ [object.primary, object.shadow], ∀ k,
      Settled (held (runStores copy ((assignStores candidate).take k)) version validator)
        (held copy version validator) (held candidate version validator) := by
    intro copy hcopy k
    rcases Nat.le_total k (assignStores candidate).length with hk | hk
    · exact hsettled copy hcopy k hk
    · rw [List.take_of_length_le hk, runStores_assign]
      exact .inr (.inr rfl)
  intro k hk
  rw [hdoneP, hdoneS]
  unfold stopped
  rw [hlist]
  rcases take_two_phases ((assignStores candidate).map ObjectStore.shadow)
    ((assignStores candidate).map ObjectStore.primary) k with h | h
  · rw [h, ← List.map_take, runObject_shadow]
    exact ⟨.inr (.inl rfl), hany object.shadow (by simp) k⟩
  · rw [h, runObject_append, runObject_shadow, ← List.map_take, runObject_primary, runStores_assign]
    exact ⟨hany object.primary (by simp) _, .inr (.inr rfl)⟩

def oldPayload : List UInt8 := List.replicate 64 0

def newPayload : List UInt8 := List.replicate 63 0 ++ [3]

def lostCopy : Copy := { words := fun _ => 0, ecc := fun _ => 0, crc32 := 0 }

/-- An object whose primary is lost: only its shadow holds the payload. -/
def shadowOnly : Object :=
  { publicationLock := 0, primary := lostCopy, shadow := copyBuild 3 1 .healthy oldPayload }

theorem tornWords : secdedEncode 0 = 0 ∧
    (3 : UInt32) = 0 ^^^ (data 0).dataMask ^^^ (data 1).dataMask ∧
    (2 : UInt32) = 1 ^^^ (data 0).dataMask ^^^ (data 1).dataMask ∧
    builtWords 3 2 .healthy newPayload 19 =
      (0 : UInt32) ^^^ (data 24).dataMask ^^^ (data 25).dataMask ∧
    builtWords 3 1 .healthy oldPayload 19 = 0 := by decide +kernel

theorem held_lostCopy : held lostCopy 3 none = none := by
  have hdecode : ∀ i ∈ List.finRange 20, secdedDecode (lostCopy.words i) (lostCopy.ecc i) =
      some (0, false) := by
    intro i _
    have h := decode_encode 0
    rw [tornWords.1] at h
    exact h
  have hrepair : repairWords (List.finRange 20) lostCopy false = some (_, _) :=
    repairWords_some (List.nodup_finRange 20) hdecode
  unfold held copyCheck
  rw [hrepair]
  simp

theorem oldPayload_admissible :
    Admissible (builtWords 3 1 .healthy oldPayload) 3 none :=
  built_admissible (by decide) (by decide) rfl

theorem shadowOnly_read : (read shadowOnly 3 64 none).2.1 = some oldPayload := by
  have hlost : held shadowOnly.primary 3 none = none := held_lostCopy
  have hkept : held shadowOnly.shadow 3 none = some (builtWords 3 1 .healthy oldPayload) :=
    held_copySeal oldPayload_admissible
  rw [read_answer (by decide) rfl, hlost, hkept, handedOut_none_chosen]
  exact handedOut_built (by decide) (by decide)

theorem updateCandidate_shadow {version sequence next : UInt32} {validator : Validator}
    (hlost : copyCheck object.primary version validator = none)
    (hkept : copyCheck object.shadow version validator = some (copySeal words, false))
    (hsequence : words wordSequence = sequence) (hnext : sequence + 1 = next) (hroom : next ≠ 0) :
    updateCandidate object version payload validator =
      some (copyBuild version next .healthy payload) := by
  unfold updateCandidate
  rw [hlost, hkept]
  simp only [currentSequence, copySeal, hsequence, hnext]
  rw [if_neg hroom]

theorem shadowOnly_candidate : updateCandidate shadowOnly 3 newPayload none =
    some (copyBuild 3 2 .healthy newPayload) := by
  have hlost : copyCheck shadowOnly.primary 3 none = none := by
    have h := held_lostCopy
    exact Option.map_eq_none_iff.mp h
  have hkept : copyCheck shadowOnly.shadow 3 none =
      some (copySeal (builtWords 3 1 .healthy oldPayload), false) :=
    copyCheck_copySeal oldPayload_admissible
  have hsequence : builtWords 3 1 .healthy oldPayload wordSequence = 1 :=
    built_sequence 3 1 .healthy (by decide)
  exact updateCandidate_shadow hlost hkept hsequence (by decide) (by decide)

theorem shadowOnly_stores : updateStores shadowOnly 3 none newPayload =
    (assignStores (copyBuild 3 2 .healthy newPayload)).map .shadow ++
      (assignStores (copyBuild 3 2 .healthy newPayload)).map .primary := by
  unfold updateStores
  rw [shadowOnly_candidate]
  rfl

theorem held_unsealed {version : UInt32} {validator : Validator}
    (hwords : copy.words = words) (hecc : copy.ecc = (copySeal words).ecc)
    (hcrc : copy.crc32 ≠ (copySeal words).crc32) : held copy version validator = none := by
  have hdecode : ∀ i ∈ List.finRange 20, secdedDecode (copy.words i) (copy.ecc i) =
      some (words i, false) := by
    intro i _
    rw [hwords, hecc]
    exact decode_encode (words i)
  have hrepair : repairWords (List.finRange 20) copy false = some (_, _) :=
    repairWords_some (List.nodup_finRange 20) hdecode
  have hseal : copyCrc words (fun i => secdedEncode (words i)) ≠ copy.crc32 := Ne.symm hcrc
  unfold held copyCheck
  rw [hrepair]
  simp [hseal]

theorem runStores_torn (copy source : Copy) (hk : k ≤ 40) :
    runStores copy ((assignStores source).take k) =
      { words := fun i => if i.val < k then source.words i else copy.words i
        ecc := fun i => if 20 + i.val < k then source.ecc i else copy.ecc i
        crc32 := copy.crc32 } := by
  have hmem : ∀ (n : Nat) (i : Fin 20), i ∈ (List.finRange 20).take n ↔ i.val < n := by
    intro n i
    rw [List.mem_take_iff_getElem]
    constructor
    · rintro ⟨j, hj, rfl⟩
      rw [List.length_finRange] at hj
      simp
      omega
    · intro hi
      refine ⟨i.val, ?_, ?_⟩
      · rw [List.length_finRange]
        have := i.isLt
        omega
      · simp
  have hlength : ((List.finRange 20).map fun i => CopyStore.word i (source.words i)).length = 20 := by
    rw [List.length_map, List.length_finRange]
  have hstores : (assignStores source).take k =
      ((List.finRange 20).take k).map (fun i => .word i (source.words i)) ++
        ((List.finRange 20).take (k - 20)).map (fun i => .ecc i (source.ecc i)) := by
    unfold assignStores
    rw [List.take_append, List.take_append, List.length_append, hlength, List.length_map,
      List.length_finRange, ← List.map_take, ← List.map_take]
    have hzero : k - (20 + 20) = 0 := by omega
    rw [hzero]
    simp
  rw [hstores, runStores_append, runStores_words, runStores_ecc]
  congr 1
  · funext i
    simp only [hmem]
  · funext i
    have hiff : i.val < k - 20 ↔ 20 + i.val < k := by omega
    simp only [hmem, hiff]

theorem held_torn_word {version : UInt32} {validator : Validator} {i : Fin 20} (a b : Fin 32)
    (old : UInt32) (hab : a ≠ b) (hk : i.val < k) (hk' : k ≤ 20 + i.val)
    (hecc : copy.ecc i = secdedEncode old)
    (hsource : source.words i = old ^^^ (data a).dataMask ^^^ (data b).dataMask) :
    held (runStores copy ((assignStores source).take k)) version validator = none := by
  have hi := i.isLt
  have hbits : data a ≠ data b := by
    intro h
    exact hab (data.inj h)
  have hcheck : copyCheck (runStores copy ((assignStores source).take k)) version validator =
      none := by
    rw [runStores_torn copy source (by omega)]
    apply @copyCheck_two_flips (fun _ => old) _ _ _ i _ _ hbits
    · show (if i.val < k then source.words i else copy.words i) = _
      rw [if_pos hk, hsource]
      rfl
    · show (if 20 + i.val < k then source.ecc i else copy.ecc i) = _
      rw [if_neg (by omega), hecc]
      simp [checkMask, copySeal]
  unfold held
  rw [hcheck]
  rfl

theorem held_torn_crc {version : UInt32} {validator : Validator}
    (hcrc : copy.crc32 ≠ (copySeal words).crc32) :
    held (runStores copy ((assignStores (copySeal words)).take 40)) version validator = none := by
  rw [runStores_torn _ _ (Nat.le_refl 40)]
  apply @held_unsealed _ words
  · funext i
    have hi := i.isLt
    exact if_pos (by omega)
  · funext i
    have hi := i.isLt
    exact if_pos (by omega)
  · exact hcrc

theorem runStores_torn_same (hk : k ≤ 1) (hword : source.words 0 = copy.words 0) :
    runStores copy ((assignStores source).take k) = copy := by
  rw [runStores_torn _ _ (by omega)]
  have hwords : (fun i : Fin 20 => if i.val < k then source.words i else copy.words i) =
      copy.words := by
    funext i
    split
    next hi =>
      have hzero : i = 0 := Fin.ext (by show i.val = 0; omega)
      rw [hzero, hword]
    next => rfl
  have hecc : (fun i : Fin 20 => if 20 + i.val < k then source.ecc i else copy.ecc i) =
      copy.ecc := by
    funext i
    exact if_neg (by omega)
  rw [hwords, hecc]

theorem update_value (bytes : List UInt8) (crc : UInt32) : (Crc32.update crc bytes).toNat =
    (bytes.map UInt8.toNat).foldl (fun c b => Nat.repeat shiftValue 8 (c ^^^ b)) crc.toNat := by
  induction bytes generalizing crc with
  | nil => rfl
  | cons b bs ih =>
    show (Crc32.update (Crc32.absorb crc b) bs).toNat = _
    rw [ih]
    simp [Crc32.absorb, repeat_shift_value]

def sealedBytes (words : Words) : List UInt8 :=
  wordsBytes words ++ (List.finRange 20).map fun i => secdedEncode (words i)

def crcValue (bytes : List UInt8) : Nat :=
  (bytes.map UInt8.toNat).foldl (fun c b => Nat.repeat shiftValue 8 (c ^^^ b)) 0xFFFFFFFF

theorem crc_value (words : Words) :
    ((copySeal words).crc32 ^^^ 0xFFFFFFFF).toNat = crcValue (sealedBytes words) := by
  have hseal : (copySeal words).crc32 = Crc32.update 0xFFFFFFFF (sealedBytes words) ^^^ 0xFFFFFFFF := by
    simp only [copySeal, copyCrc_eq, Crc32.crc32, sealedBytes]
  rw [hseal, UInt32.xor_assoc, UInt32.xor_self, UInt32.xor_zero, update_value]
  rfl

theorem crc_ne {crc : UInt32} (h : crcValue (sealedBytes words) ≠ (crc ^^^ 0xFFFFFFFF).toNat) :
    crc ≠ (copySeal words).crc32 := by
  rintro rfl
  exact h (crc_value words).symm

theorem newCopy_crc :
    crcValue (sealedBytes (builtWords 3 2 .healthy newPayload)) ≠
      crcValue (sealedBytes (builtWords 3 1 .healthy oldPayload)) ∧
    crcValue (sealedBytes (builtWords 3 2 .healthy newPayload)) ≠
      (lostCopy.crc32 ^^^ 0xFFFFFFFF).toNat := by
  decide +kernel

theorem oldCopy_crc : (copyBuild 3 1 .healthy oldPayload).crc32 ≠
    (copyBuild 3 2 .healthy newPayload).crc32 := by
  rw [copyBuild_eq, copyBuild_eq]
  apply crc_ne
  rw [crc_value]
  exact newCopy_crc.1

theorem lostCopy_crc : lostCopy.crc32 ≠ (copyBuild 3 2 .healthy newPayload).crc32 := by
  rw [copyBuild_eq]
  exact crc_ne newCopy_crc.2

theorem newCopy_words : (copyBuild 3 2 .healthy newPayload).words =
    builtWords 3 2 .healthy newPayload := rfl

theorem shadowOnly_words :
    shadowOnly.shadow.words = builtWords 3 1 .healthy oldPayload := rfl

theorem shadowOnly_ecc (i : Fin 20) :
    shadowOnly.shadow.ecc i = secdedEncode (builtWords 3 1 .healthy oldPayload i) := rfl

theorem shadowOnly_half : HalfStoresRejected shadowOnly 3 64 none (.update newPayload) := by
  apply halfStores_of_copies shadowOnly_stores
  intro copy hcopy k hk
  have hcount : (assignStores (copyBuild 3 2 .healthy newPayload)).length = 41 := by
    simp [assignStores]
  rw [hcount] at hk
  have hversion : (copyBuild 3 2 .healthy newPayload).words 0 = 3 := by
    rw [newCopy_words]
    exact built_version 3 2 .healthy (by decide)
  have hsequence : (copyBuild 3 2 .healthy newPayload).words 1 = 2 := by
    rw [newCopy_words]
    exact built_sequence 3 2 .healthy (by decide)
  have hlast : (copyBuild 3 2 .healthy newPayload).words 19 =
      0 ^^^ (data 24).dataMask ^^^ (data 25).dataMask := by
    rw [newCopy_words]
    exact tornWords.2.2.2.1
  have hzero : ∀ i, lostCopy.ecc i = secdedEncode 0 := by
    intro i
    rw [tornWords.1]
    rfl
  rcases Nat.lt_or_ge k 20 with hfirst | hlater
  · rcases List.mem_pair.mp hcopy with rfl | rfl
    · rcases Nat.eq_zero_or_pos k with rfl | hpos
      · exact .inr (.inl rfl)
      · -- the version is there before its check byte
        left
        exact held_torn_word 0 1 0 (by decide) hpos (by omega) (hzero 0) 
          (hversion.trans tornWords.2.1)
    · rcases Nat.lt_or_ge k 2 with hsame | hmore
      · right
        left
        have hold : shadowOnly.shadow.words 0 = 3 := by
          rw [shadowOnly_words]
          exact built_version 3 1 .healthy (by decide)
        rw [runStores_torn_same (by omega) (hversion.trans hold.symm)]
      · -- so is the sequence
        left
        have hold : shadowOnly.shadow.ecc 1 = secdedEncode 1 := by
          have hword : builtWords 3 1 .healthy oldPayload 1 = 1 :=
            built_sequence 3 1 .healthy (by decide)
          rw [shadowOnly_ecc, hword]
        exact held_torn_word (i := 1) 0 1 1 (by decide) (by show 1 < k; omega) (by omega) hold
          (hsequence.trans tornWords.2.2.1)
  · rcases Nat.lt_or_ge k 40 with hwords | hcrc
    · -- and the last word of the payload
      left
      rcases List.mem_pair.mp hcopy with rfl | rfl
      · exact held_torn_word (i := 19) 24 25 0 (by decide) (by show 19 < k; omega)
          (by show k ≤ 39; omega) (hzero 19) hlast
      · have hold : shadowOnly.shadow.ecc 19 = secdedEncode 0 := by
          rw [shadowOnly_ecc, tornWords.2.2.2.2]
        exact held_torn_word (i := 19) 24 25 0 (by decide) (by show 19 < k; omega)
          (by show k ≤ 39; omega) hold hlast
    · rcases Nat.lt_or_ge k 41 with hone | hall
      · left
        obtain rfl : k = 40 := by omega
        rw [copyBuild_eq]
        rcases List.mem_pair.mp hcopy with rfl | rfl
        · exact held_torn_crc lostCopy_crc
        · exact held_torn_crc oldCopy_crc
      · right
        right
        rw [List.take_of_length_le (by rw [hcount]; exact hall), runStores_assign]

theorem read_none {version : UInt32} {validator : Validator} (hversion : version ≠ 0)
    (hlock : object.publicationLock = 0) (hprimary : held object.primary version validator = none)
    (hshadow : held object.shadow version validator = none) :
    (read object version capacity validator).1 = .uncorrectable ∧
      (read object version capacity validator).2.1 = none := by
  have hprimary' := Option.map_eq_none_iff.mp hprimary
  have hshadow' := Option.map_eq_none_iff.mp hshadow
  unfold read Object.lock
  rw [if_neg hversion, if_pos hlock]
  simp only [hprimary', hshadow']
  exact ⟨rfl, rfl⟩

theorem shadowOnly_stopped :
    (stopped shadowOnly 3 64 none (.update newPayload) 40).primary = lostCopy ∧
      (stopped shadowOnly 3 64 none (.update newPayload) 40).shadow =
        runStores shadowOnly.shadow
          ((assignStores (copyBuild 3 2 .healthy newPayload)).take 40) := by
  have hlist : Call.stores shadowOnly 3 64 none (.update newPayload) = _ := shadowOnly_stores
  have htake : (Call.stores shadowOnly 3 64 none (.update newPayload)).take 40 =
      ((assignStores (copyBuild 3 2 .healthy newPayload)).take 40).map .shadow := by
    have hlength : ((assignStores (copyBuild 3 2 .healthy newPayload)).map
        ObjectStore.shadow).length = 41 := by
      simp [assignStores]
    rw [hlist, List.take_append_of_le_length (by omega), List.map_take]
  unfold stopped
  rw [htake, runObject_shadow]
  exact ⟨rfl, rfl⟩

theorem shadowOnly_survives_iff :
    Survives shadowOnly 3 64 none (.update newPayload) oldPayload ↔
      Recoverable shadowOnly 3 64 none (.update newPayload) oldPayload := by
  apply stopped_survives_iff (.update newPayload) shadowOnly_read
  · show updateStores shadowOnly 3 none newPayload ≠ []
    rw [shadowOnly_stores]
    simp [assignStores]
  · exact shadowOnly_half

/-- The update overwrites the only sound copy: stopped in there, both copies are lost. -/
theorem shadowOnly_lost :
    (read shadowOnly 3 64 none).2.1 = some oldPayload ∧
      HalfStoresRejected shadowOnly 3 64 none (.update newPayload) ∧
      (read (stopped shadowOnly 3 64 none (.update newPayload) 40) 3 64 none).1 = .uncorrectable ∧
      ¬ Survives shadowOnly 3 64 none (.update newPayload) oldPayload := by
  have hstop : (read (stopped shadowOnly 3 64 none (.update newPayload) 40) 3 64 none).1 =
      .uncorrectable ∧
      (read (stopped shadowOnly 3 64 none (.update newPayload) 40) 3 64 none).2.1 = none := by
    apply read_none (by decide) rfl
    · rw [shadowOnly_stopped.1]
      exact held_lostCopy
    · rw [shadowOnly_stopped.2, copyBuild_eq]
      exact held_torn_crc oldCopy_crc
  refine ⟨shadowOnly_read, shadowOnly_half, hstop.1, ?_⟩
  intro hsurvives
  have hcount : 40 ≤ storeCount shadowOnly 3 64 none (.update newPayload) := by
    show 40 ≤ (updateStores shadowOnly 3 none newPayload).length
    rw [shadowOnly_stores]
    simp [assignStores]
  have h := hsurvives 40 hcount
  rw [hstop.2] at h
  rcases h with h | h
  · cases h
  · cases h

/-- The object that a call leaves behind when nothing stops it. -/
def finished (object : Object) (version : UInt32) (capacity : Nat) (validator : Validator) (call : Call) :
    Object :=
  match call with
  | .update payload => (update object version payload validator).2
  | .read => (read object version capacity validator).2.2

/-- A stop behind the last store is the finished call: the stores are all that an update or a read
does to the object. -/
theorem stopped_last (call : Call) (hlock : object.publicationLock = 0) :
    stopped object version capacity validator call (storeCount object version capacity validator call) =
      finished object version capacity validator call := by
  unfold stopped storeCount
  rw [List.take_length]
  cases call with
  | update payload => exact (update_eq_stores object version validator payload hlock).symm
  | read => exact (read_eq_stores object version capacity validator hlock).symm

theorem shadowOnly_last :
    stopped shadowOnly 3 64 none (.update newPayload)
        (storeCount shadowOnly 3 64 none (.update newPayload)) =
      finished shadowOnly 3 64 none (.update newPayload) := stopped_last _ rfl

end ReistOs.Critical
