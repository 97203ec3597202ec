import ReistOs.CriticalCopies

namespace ReistOs.Critical

section Flips

/-- A copy in which some of the words have one of their code bits turned over. -/
def flipBits (copy : Copy) (flips : Fin 20 → Option CodeBit) : Copy :=
  { copy with
    words := fun i => copy.words i ^^^ ((flips i).map CodeBit.dataMask).getD 0
    ecc := fun i => copy.ecc i ^^^ ((flips i).map CodeBit.checkMask).getD 0 }

theorem decode_flipBits (words : Words) (flips : Fin 20 → Option CodeBit) (i : Fin 20) :
    secdedDecode ((flipBits (copySeal words) flips).words i)
      ((flipBits (copySeal words) flips).ecc i) = some (words i, (flips i).isSome) := by
  simp only [flipBits, copySeal]
  cases flips i with
  | none => simp
  | some bit => exact decode_flip (words i) bit

variable {words : Words} {version : UInt32} {validator : Validator}

theorem copyCheck_flipBits (hadmissible : Admissible words version validator)
    (flips : Fin 20 → Option CodeBit) :
    copyCheck (flipBits (copySeal words) flips) version validator =
      some (copySeal words, (List.finRange 20).any fun i => (flips i).isSome) := by
  apply copyCheck_of_decodes (decode_flipBits words flips)
  · rfl
  · exact hadmissible

theorem copyCheck_copySeal (hadmissible : Admissible words version validator) :
    copyCheck (copySeal words) version validator = some (copySeal words, false) := by
  have hdecode : ∀ i, secdedDecode ((copySeal words).words i) ((copySeal words).ecc i) =
      some (words i, false) := by
    intro i
    exact decode_encode (words i)
  have hany : ((List.finRange 20).any fun _ => false) = false := by simp [List.any_eq_false]
  rw [copyCheck_of_decodes hdecode rfl hadmissible, hany]

theorem copyCheck_two_flips {copy : Copy} {i : Fin 20} {a b : CodeBit} (hab : a ≠ b)
    (hword : copy.words i = (copySeal words).words i ^^^ a.dataMask ^^^ b.dataMask)
    (hecc : copy.ecc i = (copySeal words).ecc i ^^^ a.checkMask ^^^ b.checkMask) :
    copyCheck copy version validator = none := by
  apply copyCheck_none_of_word (i := i)
  rw [hword, hecc]
  exact decode_two_flips (words i) hab

end Flips

section Admission

variable {version sequence : UInt32} {state : IntegrityState} {payload : List UInt8}
  {validator : Validator}

theorem built_admissible (hlength : payload.length ≤ maxPayload)
    (hstate : state.code ≤ IntegrityState.recovered.code)
    (haccepts : validator.accepts payload = true) :
    Admissible (builtWords version sequence state payload) version validator := by
  refine ⟨built_version _ _ _ hlength, ?_, ?_, ?_⟩
  · rw [built_length _ _ _ hlength]
    exact hlength
  · rw [built_integrity _ _ _ hlength]
    exact hstate
  · rw [built_length _ _ _ hlength, payloadOf_built _ _ _ hlength]
    exact haccepts

theorem repairState_le (result : ReadResult) :
    (repairState result).code ≤ IntegrityState.recovered.code := by
  cases result
  all_goals decide

end Admission

/-- The objects that a successful init or update leaves with a payload. -/
inductive Written (version : UInt32) (payload : List UInt8) : Object → Prop
  | init {before object : Object} (h : init before version payload = (0, object)) :
      Written version payload object
  | update {before object : Object} {validator : Validator}
      (h : update before version payload validator = (0, object)) : Written version payload object

theorem written_spec {version : UInt32} {payload : List UInt8} {object : Object}
    (h : Written version payload object) :
    version ≠ 0 ∧ payload.length ≤ maxPayload ∧ ∃ sequence,
      object = { publicationLock := 0, primary := copyBuild version sequence .healthy payload
                 shadow := copyBuild version sequence .healthy payload } := by
  cases h with
  | init h =>
    unfold Critical.init at h
    split at h
    next => simp at h
    next hargs =>
      push Not at hargs
      obtain ⟨hversion, -, hlength⟩ := hargs
      have hobject := (Prod.mk.inj h).2
      exact ⟨hversion, hlength, 1, hobject.symm⟩
  | update h =>
    unfold Critical.update at h
    split at h
    next => simp at h
    next hargs =>
      push Not at hargs
      obtain ⟨-, hlength, hversion⟩ := hargs
      refine ⟨hversion, hlength, ?_⟩
      split at h
      next => simp at h
      next locked hlocked =>
        unfold updateCandidate at h
        split at h
        next => simp at h
        next candidate hcandidate =>
          split at hcandidate
          next => cases hcandidate
          next current hcurrent =>
            split at hcandidate
            next => cases hcandidate
            next =>
              have hcopy := Option.some.inj hcandidate
              have hobject := (Prod.mk.inj h).2
              refine ⟨current + 1, ?_⟩
              rw [hcopy, ← hobject]
              rfl

/-- What may happen to an object between a write and the next read. -/
inductive Fault (version : UInt32) (validator : Validator) (object : Object) : Object → Prop
  | flips (primary shadow : Fin 20 → Option CodeBit) :
      Fault version validator object
        { object with primary := flipBits object.primary primary
                      shadow := flipBits object.shadow shadow }
  | primaryLost (copy : Copy) (shadow : Fin 20 → Option CodeBit)
      (hlost : copyCheck copy version validator = none) :
      Fault version validator object
        { object with primary := copy, shadow := flipBits object.shadow shadow }
  | shadowLost (primary : Fin 20 → Option CodeBit) (copy : Copy)
      (hlost : copyCheck copy version validator = none) :
      Fault version validator object
        { object with primary := flipBits object.primary primary, shadow := copy }

variable {version : UInt32} {payload : List UInt8} {validator : Validator} {object : Object}

theorem copiesEqual_self (copy : Copy) : copiesEqual copy copy = true := by
  simp [copiesEqual]

theorem selectCopy_same (copy : Copy) (primaryFixed shadowFixed : Bool) :
    ∃ result ∈ [ReadResult.ok, .corrected, .recovered],
      selectCopy (some (copy, primaryFixed)) (some (copy, shadowFixed)) = some (copy, result) := by
  unfold selectCopy
  simp only [copiesEqual_self, Bool.not_true, Bool.false_eq_true, and_false, if_false, ite_self]
  cases primaryFixed || shadowFixed
  · exact ⟨.ok, by simp, rfl⟩
  · exact ⟨.corrected, by simp, rfl⟩

theorem fault_selection {before : Object} (hwritten : Written version payload before)
    (hfault : Fault version validator before object)
    (haccepts : validator.accepts payload = true) :
    version ≠ 0 ∧ object.publicationLock = 0 ∧ payload.length ≤ maxPayload ∧
      ∃ sequence, ∃ result ∈ [ReadResult.ok, .corrected, .recovered],
        selectCopy (copyCheck object.primary version validator)
            (copyCheck object.shadow version validator) =
          some (copyBuild version sequence .healthy payload, result) := by
  obtain ⟨hversion, hlength, sequence, rfl⟩ := written_spec hwritten
  have hadmissible : Admissible (builtWords version sequence .healthy payload) version validator :=
    built_admissible hlength (by decide) haccepts
  have hflips := copyCheck_flipBits hadmissible
  simp only [← copyBuild_eq] at hflips
  cases hfault with
  | flips primary shadow =>
    refine ⟨hversion, rfl, hlength, sequence, ?_⟩
    simp only [hflips]
    exact selectCopy_same _ _ _
  | primaryLost copy shadow hlost =>
    refine ⟨hversion, rfl, hlength, sequence, .recovered, by simp, ?_⟩
    simp only [hflips, hlost]
    rfl
  | shadowLost primary copy hlost =>
    refine ⟨hversion, rfl, hlength, sequence, .recovered, by simp, ?_⟩
    simp only [hflips, hlost]
    rfl

theorem read_of_selected {capacity : Nat} {chosen : Copy} {result : ReadResult}
    (hversion : version ≠ 0) (hlock : object.publicationLock = 0)
    (hselect : selectCopy (copyCheck object.primary version validator)
      (copyCheck object.shadow version validator) = some (chosen, result))
    (hcapacity : (chosen.words wordLength).toNat ≤ capacity) :
    read object version capacity validator =
      (result, some (payloadOf chosen.words (chosen.words wordLength).toNat),
        { publicationLock := 0, primary := repairCopy chosen result
          shadow := repairCopy chosen result }) := by
  unfold read Object.lock
  rw [if_neg hversion, if_pos hlock]
  simp only [hselect]
  rw [if_neg (Nat.not_lt.mpr hcapacity)]
  rfl

/-- A read after a tolerable fault returns the payload and leaves two sound copies; two flips in
one word of a copy get that copy rejected. -/
theorem read_after_fault {before : Object} {capacity : Nat}
    (hwritten : Written version payload before) (hfault : Fault version validator before object)
    (haccepts : validator.accepts payload = true) (hcapacity : payload.length ≤ capacity) :
    ((read object version capacity validator).1 ∈ [ReadResult.ok, .corrected, .recovered] ∧
      (read object version capacity validator).2.1 = some payload ∧
      (read object version capacity validator).2.2.primary =
        (read object version capacity validator).2.2.shadow ∧
      copyCheck (read object version capacity validator).2.2.primary version validator =
        some ((read object version capacity validator).2.2.primary, false) ∧
      payloadOf (read object version capacity validator).2.2.primary.words payload.length =
        payload) ∧
    ∀ kept ∈ [before.primary, before.shadow], ∀ (copy : Copy) (i : Fin 20) (a b : CodeBit), a ≠ b →
      copy.words i = kept.words i ^^^ a.dataMask ^^^ b.dataMask →
      copy.ecc i = kept.ecc i ^^^ a.checkMask ^^^ b.checkMask →
      copyCheck copy version validator = none := by
  constructor
  · obtain ⟨hversion, hlock, hlength, sequence, result, hresult, hselect⟩ :=
      fault_selection hwritten hfault haccepts
    have hwords : (copyBuild version sequence .healthy payload).words =
        builtWords version sequence .healthy payload := rfl
    have hlen : ((copyBuild version sequence .healthy payload).words wordLength).toNat =
        payload.length := by
      rw [hwords, built_length _ _ _ hlength]
    have hfits : ((copyBuild version sequence .healthy payload).words wordLength).toNat ≤
        capacity := by
      rw [hlen]
      exact hcapacity
    have hread := read_of_selected hversion hlock hselect hfits
    have hpayload : payloadOf (copyBuild version sequence .healthy payload).words payload.length =
        payload := by
      rw [hwords, payloadOf_built _ _ _ hlength]
    have hrepair : repairCopy (copyBuild version sequence .healthy payload) result =
        copySeal (builtWords version sequence (repairState result) payload) := by
      unfold repairCopy
      rw [hlen, hpayload, hwords, built_version _ _ _ hlength, built_sequence _ _ _ hlength,
        copyBuild_eq]
    rw [hread]
    refine ⟨hresult, ?_, rfl, ?_, ?_⟩
    · simp only [hlen, hpayload]
    · simp only [hrepair]
      exact copyCheck_copySeal (built_admissible hlength (repairState_le result) haccepts)
    · simp only [hrepair]
      exact payloadOf_built _ _ _ hlength
  · obtain ⟨hversion, hlength, sequence, rfl⟩ := written_spec hwritten
    intro kept hkept copy i a b hab hword hecc
    have hkept' : kept = copySeal (builtWords version sequence .healthy payload) := by
      simpa [copyBuild_eq] using hkept
    subst hkept'
    exact copyCheck_two_flips hab hword hecc

/-- Both copies of a fresh object lose a bit, in different words. -/
theorem flipped_init_read :
    let lost : Copy := { words := fun _ => 0, ecc := fun _ => 0, crc32 := 0 }
    let fresh := (init { publicationLock := 0, primary := lost, shadow := lost } 7 [0x11, 0x22]).2
    let primary : Fin 20 → Option CodeBit := fun i => if i = 4 then some (.data 3) else none
    let shadow : Fin 20 → Option CodeBit := fun i => if i = 1 then some (.check 6) else none
    let damaged := { fresh with primary := flipBits fresh.primary primary
                                shadow := flipBits fresh.shadow shadow }
    (read damaged 7 64 (some fun payload => payload.length = 2)).2.1 = some [0x11, 0x22] := by
  intro lost fresh primary shadow damaged
  have hinit : init { publicationLock := 0, primary := lost, shadow := lost } 7 [0x11, 0x22] =
      (0, fresh) := rfl
  have hwritten : Written 7 [0x11, 0x22] fresh := .init hinit
  exact (read_after_fault hwritten (.flips primary shadow) (by decide) (by decide)).1.2.1

section TwoFlips

/-- Some word has two different code bits turned over. -/
def Doubled (first second : Fin 20 → Option CodeBit) : Prop :=
  ∃ i a b, first i = some a ∧ second i = some b ∧ a ≠ b

variable {first second : Fin 20 → Option CodeBit} {words : Words}

theorem flipBits_twice (h : ¬ Doubled first second) (copy : Copy) :
    ∃ flips, flipBits (flipBits copy first) second = flipBits copy flips := by
  refine ⟨fun i => if first i = second i then none else (first i).or (second i), ?_⟩
  simp only [flipBits, Copy.mk.injEq, and_true]
  constructor <;>
  · funext i
    cases hf : first i with
    | none => cases second i <;> simp
    | some a =>
      cases hs : second i with
      | none => simp
      | some b =>
        have hab : a = b := by_contra fun hne => h ⟨i, a, b, hf, hs, hne⟩
        simp [hab, UInt32.xor_assoc, UInt8.xor_assoc]

theorem copyCheck_doubled (h : Doubled first second) :
    copyCheck (flipBits (flipBits (copySeal words) first) second) version validator = none := by
  obtain ⟨i, a, b, hfirst, hsecond, hab⟩ := h
  apply @copyCheck_two_flips words version validator _ i a b hab <;> simp [flipBits, hfirst, hsecond]

end TwoFlips

/-- With up to two bits over in every word of both copies, a read finds the payload, unless each copy
has a word with two: then it answers nothing and leaves the object alone. -/
theorem read_after_two_flips {before : Object} {capacity : Nat}
    (hwritten : Written version payload before) (haccepts : validator.accepts payload = true)
    (hcapacity : payload.length ≤ capacity) (p p' s s' : Fin 20 → Option CodeBit) :
    let damaged := { before with primary := flipBits (flipBits before.primary p) p'
                                 shadow := flipBits (flipBits before.shadow s) s' }
    (¬ (Doubled p p' ∧ Doubled s s') → (read damaged version capacity validator).2.1 = some payload) ∧
    (Doubled p p' ∧ Doubled s s' →
      read damaged version capacity validator = (.uncorrectable, none, damaged)) := by
  intro damaged
  obtain ⟨hversion, hlength, sequence, hbefore⟩ := written_spec hwritten
  have hprimary : Doubled p p' → copyCheck damaged.primary version validator = none := by
    simp only [damaged, hbefore]
    exact copyCheck_doubled
  have hshadow : Doubled s s' → copyCheck damaged.shadow version validator = none := by
    simp only [damaged, hbefore]
    exact copyCheck_doubled
  constructor
  · intro hone
    have hfault : Fault version validator before damaged := by
      by_cases hp : Doubled p p'
      · obtain ⟨flips, hs⟩ := flipBits_twice (fun hs => hone ⟨hp, hs⟩) before.shadow
        simp only [damaged, hs]
        exact .primaryLost _ flips (hprimary hp)
      obtain ⟨flips, hflips⟩ := flipBits_twice hp before.primary
      by_cases hs : Doubled s s'
      · simp only [damaged, hflips]
        exact .shadowLost flips _ (hshadow hs)
      · obtain ⟨flips', hflips'⟩ := flipBits_twice hs before.shadow
        simp only [damaged, hflips, hflips']
        exact .flips flips flips'
    obtain ⟨-, hlock, -, sequence', result, -, hselect⟩ := fault_selection hwritten hfault haccepts
    have hlen : ((copyBuild version sequence' .healthy payload).words wordLength).toNat =
        payload.length := built_length _ _ _ hlength
    rw [read_of_selected hversion hlock hselect (hlen.trans_le hcapacity), hlen]
    exact congrArg some (payloadOf_built _ _ _ hlength)
  · rintro ⟨hp, hs⟩
    have hlock : damaged.lock = some { damaged with publicationLock := 1 } :=
      if_pos (by simp only [damaged, hbefore])
    unfold read
    rw [if_neg hversion, hlock]
    simp only [hprimary hp, hshadow hs, selectCopy]
    simp only [damaged, hbefore, Object.unlock]

theorem doubled_init_read :
    let lost : Copy := { words := fun _ => 0, ecc := fun _ => 0, crc32 := 0 }
    let fresh := (init { publicationLock := 0, primary := lost, shadow := lost } 7 [0x11, 0x22]).2
    (read { fresh with
        primary := flipBits (flipBits fresh.primary fun _ => some (.data 3)) fun _ => some (.check 6)
        shadow := flipBits (flipBits fresh.shadow fun _ => some (.data 1)) fun _ => none } 7 64 none).2.1 =
      some [0x11, 0x22] := by
  intro lost fresh
  have hinit : init { publicationLock := 0, primary := lost, shadow := lost } 7 [0x11, 0x22] = (0, fresh) := rfl
  refine (read_after_two_flips (.init hinit) rfl (by decide) _ _ _ _).1 ?_
  rintro ⟨-, i, a, b, -, hb, -⟩
  cases hb

end ReistOs.Critical
