import ReistOs.StorageRequestRules

/-! What the entries of the request pool do to it, but for replies and the confirmed recovery: every
effect stays recorded or leaves its resource fenced. -/

namespace ReistOs.RequestPool

open Attempt

variable {α β : Type} {s s₀ s1 : StoragePool} {i : StorageSlot} {m m' : StorageSlotMetadata}
  {handle : UInt32} {x : StorageExcuse}

def Moves (p : Pool α) : Prop :=
  ∀ s₀ : StoragePool, s₀.Sound →
    Triple s₀.Calm p (fun _ => s₀.Moved .none) fun _ => s₀.Moved .none

section Rules

variable {p : Pool α} {service : StorageIdentity}

theorem Moves.keeps (h : Moves p) : Keeps (s₀.Moved .none) p := by
  refine Triple.start fun s1 hs1 => ?_
  exact (h s1 hs1.sound).weaken (fun s heq => heq ▸ hs1.sound.calm_refl)
    (fun _ _ h => hs1.trans h) fun _ _ h => hs1.trans h

theorem Moves.bind {f : α → Pool β} (hp : Moves p) (hf : ∀ a, Moves (f a)) : Moves (p >>= f) :=
  fun s₀ hs => Triple.bind (hp s₀ hs) fun a => (hf a).keeps

theorem Moves.of_calm (h : ∀ s₀ : StoragePool, s₀.Sound → Keeps s₀.Calm p) : Moves p :=
  fun s₀ hs => (h s₀ hs).ends (fun _ _ h => h.moved hs) fun _ _ h => h.moved hs

theorem Moves.pure {a : α} : Moves (Pure.pure a : Pool α) := Moves.of_calm fun _ _ => Keeps.pure

theorem Moves.fail {e : StorageError} : Moves (Attempt.fail e : Pool α) :=
  Moves.of_calm fun _ _ => Keeps.fail

theorem Moves.ite {c : Prop} [Decidable c] {q : Pool α} (hp : c → Moves p) (hq : ¬ c → Moves q) :
    Moves (if c then p else q) := fun s₀ hs => Triple.ite (fun hc => hp hc s₀ hs) fun hc => hq hc s₀ hs

theorem Moves.outcome (hp : Moves p) : Moves p.outcome := fun _ hs =>
  ((hp _ hs).outcome_ends).post fun r s hends => by
    cases r with
    | ok a => exact hends
    | error e => exact hends

theorem Moves.forEach {b : β → Pool Unit} {bs : List β} (h : ∀ a ∈ bs, Moves (b a)) :
    Moves (Attempt.forEach b bs) := fun _ hs =>
  (Triple.forEach fun a ha => (h a ha).keeps).pre fun _ hcalm => hcalm.moved hs

theorem calm_moved (hs : s₀.Sound) : ∀ (_ : StorageError) s, s₀.Calm s → s₀.Moved .none s :=
  fun _ _ h => h.moved hs

theorem calm_since (hs : s₀.Sound) (hcalm : s₀.Calm s1) :
    ∀ (_ : StorageError) s, s1.Calm s → s₀.Moved .none s :=
  fun _ _ h => (hcalm.trans h).moved hs

variable {result : Int} {state : StorageSlotState}

theorem StoragePool.Sound.changes (hs : s₀.Sound)
    (hcalm : s₀.Calm s1) (hm : m = s₀.slot i) (hbefore : ¬ m.state.Idle) (hlive : ¬ state.Idle)
    (hkept : m.Kept { m with state := state, service := service, result := result })
    (hattempted : m.mutationState = .attempted → state = .claimed ∨ state = .cancelPending)
    (hdelivered : state = .delivered → x = .copied (storageMakeHandle i m.generation)) :
    s₀.Moved x (s1.setMetadata i { m with state := state, service := service, result := result }) := by
  subst hm
  exact hs.change hcalm
    { generation := rfl
      operation := rfl
      before := hbefore
      live := hlive
      kept := hkept
      client := rfl
      deadline := rfl
      effect := fun h => ⟨h, rfl⟩
      attempted := hattempted
      unknown := fun h => hcalm.fences _ (hs.unknown i h)
      delivered := hdelivered }

theorem StorageSlotMetadata.Kept.moved
    (hphase : m.state.phase ≤ state.phase) (hservice : 2 ≤ m.state.phase → service = m.service)
    (hresult : 4 ≤ m.state.phase → result = m.result) :
    m.Kept { m with state := state, service := service, result := result } :=
  ⟨rfl, rfl, rfl, rfl, hphase, hservice, hresult⟩

theorem storeState_moved (hs : s₀.Sound) (hs1 : s1.Sound)
    (hcalm : s₀.Calm s1) (hm : m = s₀.slot i) (hbefore : ¬ m.state.Idle) (hlive : ¬ state.Idle)
    (hkept : m.Kept { m with state := state, service := service, result := result })
    (hattempted : m.mutationState = .attempted → state = .claimed ∨ state = .cancelPending)
    (hdelivered : state = .delivered → x = .copied (storageMakeHandle i m.generation)) :
    Triple s1.Calm (storeMetadata i { m with state := state, service := service, result := result })
      (fun _ => s₀.Moved x) fun _ => s₀.Calm := by
  refine (storeMetadata_calm hs1).ends (fun _ s hstored => ?_)
    fun e s h => hcalm.trans h
  obtain ⟨s2, -, hcalm2, -, rfl⟩ := hstored
  exact hs.changes (hcalm.trans hcalm2) hm hbefore hlive hkept hattempted hdelivered

theorem StoragePool.Sound.not_attempted (hs : s₀.Sound) (hm : m = s₀.slot i) (hclaimed : m.state ≠ .claimed)
    (hpending : m.state ≠ .cancelPending) : m.mutationState ≠ .attempted := by
  intro hattempted
  obtain h | h := hs.attempted i (hm ▸ hattempted)
  · exact hclaimed (hm ▸ h)
  · exact hpending (hm ▸ h)

theorem releaseSlot_loaded (hs : s₀.Sound) (hm : m = s₀.slot i) (hvalid : metadataValid m = true) :
    Triple s₀.Calm (releaseSlot i m) (fun _ => s₀.Moved .none) fun _ => s₀.Calm :=
  releaseSlot_moved hs (hm ▸ rfl) (metadataValid_generation hvalid) (metadataValid_resource hvalid)
    fun _ heffect => Or.inl ⟨hm ▸ heffect, hm ▸ rfl⟩

end Rules

section Service

variable {service : StorageIdentity}

theorem storageRequestBindService_moves :
    Moves (storageRequestBindService service) :=
  Moves.of_calm fun _ hs => calm_refuse (fun _ _ h => h) fun _ =>
    calm_keeps (loadIdentity_calm hs) (fun _ _ h => h) fun _ =>
      calm_refuse (fun _ _ h => h) fun _ => storeIdentity_calm hs

variable {identity : StorageIdentity}

theorem cancelProcessSlot_moves : Moves (cancelProcessSlot identity i) := by
  intro s₀ hs
  have herror := calm_moved hs
  refine calm_load hs herror fun m hm hvalid => Triple.ite (fun _ => ?_) fun _ => ?_
  · refine Triple.ite (fun hstate => ?_) fun _ => ?_
    · refine calm_fenceLost hs (metadataValid_resource hvalid) herror fun s1 hs1 hcalm _ => ?_
      have hlive : ¬ m.state.Idle := by
        obtain h | h := hstate <;> simp [StorageSlotState.Idle, h]
      have hattempted : m.mutationState ≠ .attempted := by
        apply hs.not_attempted hm <;> obtain h | h := hstate <;> simp [h]
      have hphase : m.state.phase ≤ StorageSlotState.deliveryCancelled.phase := by
        obtain h | h := hstate <;> simp [StorageSlotState.phase, h]
      exact (storeState_moved hs hs1 hcalm hm hlive (by simp [StorageSlotState.Idle])
        (.moved hphase (fun _ => rfl) fun _ => rfl) (fun h => absurd h hattempted) nofun).errors herror
    · exact (releaseSlot_loaded hs hm hvalid).errors herror
  · exact Triple.pure fun s h => h.moved hs

theorem storageRequestCancelProcess_moves : Moves (storageRequestCancelProcess identity) :=
  Moves.ite (fun _ => Moves.forEach fun _ _ => (cancelProcessSlot_moves).outcome.bind fun _ => Moves.pure)
    fun _ => Moves.pure

theorem unbindIdentity_calm (hs : s₀.Sound) :
    Keeps s₀.Calm (unbindIdentity service) :=
  calm_keeps (loadIdentity_calm hs) (fun _ _ h => h) fun _ =>
    Triple.ite (fun _ => storeIdentity_calm hs) fun _ => Keeps.pure

theorem storageRequestUnbindService_moves :
    Moves (storageRequestUnbindService service) :=
  (Moves.of_calm fun _ hs => unbindIdentity_calm hs).outcome.bind fun _ =>
    storageRequestCancelProcess_moves

end Service

variable {b : StorageBulkIndex} {operation : StorageOperation} {client : StorageIdentity}
  {nowMs : UInt64}

theorem bulkVacant_some (h : s.bulkVacant = some b) : (s.bulk b).state = .free := by
  have hb := List.find?_some h
  simpa using hb

theorem StoragePool.Sound.reserve {bulk : StorageBulkSlot} (hs : s₀.Sound)
    (hfree : (s₀.bulk b).state = .free) (hmax : (s₀.slot i).generation ≤ storageHandleGenerationMax)
    (hlive : ¬ (s₀.slot i).state.Idle) (hstate : bulk.state = .reserved)
    (hhandle : bulk.requestHandle = storageMakeHandle i (s₀.slot i).generation)
    (hnew : ∀ c, (s₀.bulk c).state ≠ .free →
      (s₀.bulk c).requestHandle ≠ storageMakeHandle i (s₀.slot i).generation) :
    s₀.Moved .none (s₀.setBulk b bulk) := by
  have hsame : (s₀.setBulk b bulk).bulk b = bulk := Function.update_self _ _ _
  have hother : ∀ c, c ≠ b → (s₀.setBulk b bulk).bulk c = s₀.bulk c := fun c hc =>
    Function.update_of_ne hc _ _
  have hnamed : ∀ j generation, generation ≤ storageHandleGenerationMax →
      bulk.requestHandle = storageMakeHandle j generation → j = i ∧ (s₀.slot i).generation = generation := by
    intro j generation hle heq
    obtain ⟨hi, hgeneration⟩ := makeHandle_inj hmax hle (hhandle.symm.trans heq)
    exact ⟨hi.symm, hgeneration⟩
  refine ⟨⟨hs.attempted, hs.unknown, ⟨?_, ?_, ?_, ?_⟩, hs.copies⟩, ⟨fun _ => .refl, fun _ h => Or.inl h⟩⟩
  · intro c hc
    by_cases hcb : c = b
    · subst hcb
      rw [hsame, hstate] at hc
      cases hc
    · rw [hother c hcb] at hc ⊢
      exact hs.bulk.free c hc
  · intro c j generation hc hle heq
    by_cases hcb : c = b
    · subst hcb
      rw [hsame] at heq
      obtain ⟨rfl, rfl⟩ := hnamed j generation hle heq
      exact UInt32.le_refl _
    · rw [hother c hcb] at hc heq
      exact hs.bulk.past c j generation hc hle heq
  · intro c j generation hc hrevoked hle heq
    by_cases hcb : c = b
    · subst hcb
      rw [hsame] at heq
      obtain ⟨rfl, rfl⟩ := hnamed j generation hle heq
      exact ⟨rfl, hlive⟩
    · rw [hother c hcb] at hc hrevoked heq
      exact hs.bulk.held c j generation hc hrevoked hle heq
  · intro c d hc hd heq
    by_cases hcb : c = b
    · by_cases hdb : d = b
      · rw [hcb, hdb]
      · subst hcb
        rw [hsame, hother d hdb, hhandle] at heq
        rw [hother d hdb] at hd
        exact absurd heq.symm (hnew d hd)
    · by_cases hdb : d = b
      · subst hdb
        rw [hsame, hother c hcb, hhandle] at heq
        rw [hother c hcb] at hc
        exact absurd heq (hnew c hc)
      · rw [hother c hcb] at hc heq
        rw [hother d hdb] at hd heq
        exact hs.bulk.unique c d hc hd heq

theorem StoragePool.Sound.opened (hs : s₀.Sound) (hcalm : s₀.Calm s1) (hidle : (s₀.slot i).state.Idle)
    (hgeneration : (s₀.slot i).generation < m.generation)
    (hunbound : m.mutationState = .unbound) (hdelivered : m.state ≠ .delivered) :
    s₀.Moved .none (s1.setMetadata i m) := by
  refine hs.store hcalm ⟨UInt32.le_of_lt hgeneration, ?_, ?_, ?_, fun h => absurd hidle h, ?_⟩ ?_ ?_
    fun _ _ _ _ h => absurd hidle h
  · intro heq
    exact absurd (heq ▸ hgeneration) (UInt32.lt_irrefl _)
  · intro heq
    exact absurd (heq ▸ hgeneration) (UInt32.lt_irrefl _)
  · intro heq
    exact absurd (heq ▸ hgeneration) (UInt32.lt_irrefl _)
  · intro h
    exact absurd h hdelivered
  · intro h
    rw [hunbound] at h
    cases h
  · intro h
    rw [hunbound] at h
    cases h

theorem generation_succ_le {generation : UInt32} (h : generation ≤ storageHandleGenerationMax)
    (hne : generation ≠ storageHandleGenerationMax) : generation + 1 ≤ storageHandleGenerationMax := by
  have hle : generation.toNat ≤ 16777215 := UInt32.le_iff_toNat_le.mp h
  have hne' : generation.toNat ≠ 16777215 := fun heq => hne (UInt32.toNat_inj.mp heq)
  rw [UInt32.le_iff_toNat_le, UInt32.toNat_add]
  have hone : (1 : UInt32).toNat = 1 := rfl
  have hmax : storageHandleGenerationMax.toNat = 16777215 := rfl
  omega

theorem bulkReserve_moved {E : StorageError → StoragePool → Prop} (hs : s₀.Sound)
    (hmax : (s₀.slot i).generation ≤ storageHandleGenerationMax) (hlive : ¬ (s₀.slot i).state.Idle)
    (hnew : ∀ c, (s₀.bulk c).state ≠ .free →
      (s₀.bulk c).requestHandle ≠ storageMakeHandle i (s₀.slot i).generation) :
    Triple (· = s₀) (bulkReserve (storageMakeHandle i (s₀.slot i).generation))
      (fun reserved s => s₀.Moved .none s ∧ (reserved = false → s = s₀)) E := by
  refine Triple.read ?_
  cases hvacant : s₀.bulkVacant with
  | none => exact Triple.done ⟨.refl hs, fun _ => rfl⟩
  | some b =>
    have hmoved : s₀.Moved .none (s₀.setBulk b { s₀.bulk b with
        state := .reserved
        requestHandle := storageMakeHandle i (s₀.slot i).generation
        length := 0
        crc32 := 0 }) := hs.reserve (bulkVacant_some hvacant) hmax hlive rfl rfl hnew
    exact Triple.update (Triple.done ⟨hmoved, nofun⟩)

variable {block : Vector UInt8 storageRequestBlockSize} {request : StorageSubmit}

theorem submitAt_moved {needsBulk : Bool}
    (hs : s₀.Sound) (hvalid : metadataValid (s₀.slot i) = true) (hfree : (s₀.slot i).state.Idle)
    (hmax : (s₀.slot i).generation ≠ storageHandleGenerationMax)
    (hgeneration : m.generation = (s₀.slot i).generation + 1) (hlive : ¬ m.state.Idle)
    (hunbound : m.mutationState = .unbound) (hdelivered : m.state ≠ .delivered) :
    Triple s₀.Calm (submitAt i m operation needsBulk block) (fun _ => s₀.Moved .none)
      fun _ => s₀.Moved .none := by
  have hle := metadataValid_generation hvalid
  have hmax' : m.generation ≤ storageHandleGenerationMax := hgeneration ▸ generation_succ_le hle hmax
  have hlt : (s₀.slot i).generation < m.generation := hgeneration ▸ generation_lt_succ hle
  refine calm_keeps (storeData_calm hs) (calm_moved hs) fun _ => ?_
  refine Triple.bind ((storeMetadata_calm hs).outcome_ends) fun r => ?_
  cases r with
  | error e =>
    exact calm_keeps (clearData_calm hs) (calm_moved hs) fun _ => Triple.fail fun s h => h.moved hs
  | ok _ =>
    refine Triple.start fun s hstored => ?_
    obtain ⟨s1, hs1, hcalm, -, rfl⟩ := hstored
    have hmoved := hs.opened hcalm hfree hlt hunbound hdelivered
    generalize hopened : s1.setMetadata i m = s at hmoved
    have hslot : s.slot i = m := hopened ▸ setMetadata_slot
    have hbulk : s.bulk = s1.bulk := hopened ▸ rfl
    have hnew : ∀ c, (s.bulk c).state ≠ .free →
        (s.bulk c).requestHandle ≠ storageMakeHandle i (s.slot i).generation := by
      intro c hc heq
      rw [hbulk] at hc heq
      rw [hslot] at heq
      have hpast := hs1.bulk.past c i m.generation hc hmax' heq
      rw [hcalm.slots i] at hpast
      exact absurd hlt (UInt32.not_lt.mpr hpast)
    have hslotmax : (s.slot i).generation ≤ storageHandleGenerationMax := hslot ▸ hmax'
    have hslotlive : ¬ (s.slot i).state.Idle := hslot ▸ hlive
    refine Triple.bind (Q := fun reserved s' => s.Moved .none s' ∧ (reserved = false → s' = s)) ?_
      fun reserved => ?_
    · refine Triple.ite (fun _ => ?_) fun _ => Triple.done ⟨.refl hmoved.sound, nofun⟩
      have hreserve := bulkReserve_moved (E := fun _ => s₀.Moved .none) hmoved.sound hslotmax
        hslotlive hnew
      rw [hslot] at hreserve
      exact hreserve
    · refine Triple.ite (fun _ => Triple.pure fun s' h => hmoved.trans h.1) fun hnot => ?_
      have hfalse : reserved = false := by simpa using hnot
      refine Triple.pre (P := s.Calm) ?_ fun s' h => h.2 hfalse ▸ hmoved.sound.calm_refl
      have herror : ∀ (e : StorageError) s', s.Calm s' → s₀.Moved .none s' := fun _ s' h =>
        hmoved.trans (h.moved hmoved.sound)
      refine calm_keeps (clearData_calm hmoved.sound) herror fun _ => ?_
      refine Triple.bind (Q := fun _ s' => s.Moved .none s') ?_ fun _ =>
        Triple.fail fun s' h => hmoved.trans h
      have hstore : Triple s.Calm (storeMetadata i (.vacant .free (m.generation + 1)))
          (fun _ => s.Moved .none) fun _ => s.Calm := storeMetadata_moved hmoved.sound
        fun s2 hs2 hcalm2 _ => hmoved.sound.vacate hcalm2 (Or.inl rfl)
          (hslot.symm ▸ UInt32.le_of_lt (generation_lt_succ hmax')) (fun _ => ?_) fun heffect => ?_
      · exact Triple.outcome (hstore.errors fun _ _ h =>
          h.moved hmoved.sound)
      · have hunheld : s.Unheld (storageMakeHandle i (s.slot i).generation) := fun c hc _ => hnew c hc
        exact hunheld.calm hcalm2
      · rw [hslot, hunbound] at heffect
        exact absurd rfl (Effectful.bound heffect)

theorem submitIn_moves (slots : List StorageSlot) :
    Moves (submitIn request operation client nowMs block slots) := by
  induction slots with
  | nil => exact Moves.fail
  | cons i rest ih =>
    intro s₀ hs
    have herror := calm_moved hs
    refine calm_load hs herror fun m hm hvalid => Triple.ite (fun _ => ih s₀ hs) fun hfree => ?_
    have hidle : (s₀.slot i).state.Idle := Or.inl (hm ▸ not_not.mp hfree)
    refine Triple.ite (fun hmax => ?_) fun hmax => ?_
    · refine Triple.bind (Q := fun _ => s₀.Moved .none) ?_ fun _ => ih.keeps
      refine (storeMetadata_moved hs fun s1 _ hcalm _ => hs.vacate hcalm (Or.inr rfl) ?_
        (fun h => absurd hidle h) fun heffect => ?_).errors herror
      · rw [← hm, hmax]
        exact UInt32.le_refl _
      · have hunbound := vacant_unbound hvalid (hm ▸ hidle)
        rw [← hm, hunbound] at heffect
        exact absurd rfl (Effectful.bound heffect)
    · subst hm
      refine submitAt_moved hs hvalid hidle hmax rfl ?_ rfl ?_
      all_goals
        unfold StorageSubmit.metadata StorageSlotMetadata.vacant
        split <;> simp [StorageSlotState.Idle]

theorem storageRequestSubmit_moves {blockData : Option (Vector UInt8 storageRequestBlockSize)} :
    Moves (storageRequestSubmit client request blockData nowMs) := by
  intro s₀ hs
  have herror := calm_moved hs
  refine calm_refuse herror fun _ => ?_
  cases hoperation : request.operation with
  | none => exact Triple.fail fun s h => h.moved hs
  | some operation =>
    have hlength : Keeps s₀.Calm (request.checkLength operation) := by
      repeat refine Keeps.bind Keeps.refuse fun _ => ?_
      exact Keeps.refuse
    have hcount : Keeps s₀.Calm (Attempt.forEach (fun slot => do
        let _ ← loadMetadata slot
        Pure.pure ()) storageSlots) :=
      Keeps.forEach fun i _ => calm_load hs (fun _ _ h => h) fun _ _ _ => Keeps.pure
    refine calm_keeps hlength herror fun _ => calm_refuse herror fun _ =>
      calm_keeps hcount herror fun _ => calm_get hs fun s1 hs1 hcalm => ?_
    refine Triple.pre (P := s1.Calm) ?_ fun s h => h ▸ hs1.calm_refl
    have herror1 := calm_since hs hcalm
    refine calm_refuse herror1 fun _ => calm_refuse herror1 fun _ => ?_
    have hin : Moves (submitIn request operation client nowMs (blockData.getD blankBlock) storageSlots) :=
      submitIn_moves storageSlots
    exact (hin s1 hs1).ends (fun _ _ h => (hcalm.moved hs).trans h) fun _ _ h =>
      (hcalm.moved hs).trans h

end ReistOs.RequestPool
