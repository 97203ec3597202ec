import ReistOs.FileObjectGuardFences
import ReistOs.StorageRequestPool

/-! What may become of the slots, the bulk buffers and the fences of the storage request pool, and
what one access of a record does. -/

namespace ReistOs.RequestPool

open Attempt

/-- Why a step may do what the others may not: a reply was copied, a reply was acknowledged, a
recovery was confirmed. -/
inductive StorageExcuse
  | none
  | copied (handle : UInt32)
  | acked (handle : UInt32)
  | cleared (resource : Nat)

def StoragePool.Fenced (s : StoragePool) (resource : Nat) : Prop :=
  s.poisoned = true ∨ Names s.fences.payload resource

def StoragePool.slot (s : StoragePool) (i : StorageSlot) : StorageSlotMetadata := (s.metadata i).payload

variable {s s' s'' : StoragePool} {i : StorageSlot} {m m' m'' : StorageSlotMetadata} {generation : UInt32}

/-- The slot still records the effect of the same request. -/
structure StorageSlotMetadata.Carried (m m' : StorageSlotMetadata) : Prop where
  generation : m'.generation = m.generation
  live : ¬ m'.state.Idle
  client : m'.client = m.client
  deadline : m'.deadlineMs = m.deadlineMs
  effectful : m'.mutationState.Effectful
  resource : m'.mutationResourcePlusOne = m.mutationResourcePlusOne

/-- The request of the slot has ended: its generation is past, or nothing holds it. -/
def StorageSlotMetadata.Past (generation : UInt32) (m : StorageSlotMetadata) : Prop :=
  generation < m.generation ∨ m.generation = generation ∧ m.state.Idle

def StorageSlotState.phase : StorageSlotState → Nat
  | .inputPending => 0
  | .queued => 1
  | .claimed => 2
  | .cancelPending => 3
  | .complete => 4
  | .delivering => 5
  | .deliveryCancelled | .delivered => 6
  | .free | .retired => 7

/-- The slot still has the same request, which has not gone back. -/
structure StorageSlotMetadata.Kept (m m' : StorageSlotMetadata) : Prop where
  operation : m'.operation = m.operation
  client : m'.client = m.client
  offset : m'.offset = m.offset
  length : m'.length = m.length
  phase : m.state.phase ≤ m'.state.phase
  service : 2 ≤ m.state.phase → m'.service = m.service
  result : 4 ≤ m.state.phase → m'.result = m.result

structure SlotStep (x : StorageExcuse) (s' : StoragePool) (i : StorageSlot)
    (m m' : StorageSlotMetadata) : Prop where
  generation : m.generation ≤ m'.generation
  operation : m.generation = m'.generation → m.operation ≠ some .vfsObjectMutate →
    m'.operation ≠ some .vfsObjectMutate
  idle : m.generation = m'.generation → m.state.Idle → m'.state.Idle
  kept : m.generation = m'.generation → ¬ m'.state.Idle → m.Kept m'
  effect : ¬ m.state.Idle → m.mutationState.Effectful → m.Carried m' ∨
    StorageSlotMetadata.Past m.generation m' ∧
      (s'.Fenced m.mutationResource ∨ x = .acked (storageMakeHandle i m.generation))
  delivered : m'.state = .delivered → m.state = .delivered ∧ m'.generation = m.generation ∨
    x = .copied (storageMakeHandle i m'.generation)

structure PoolStep (x : StorageExcuse) (s s' : StoragePool) : Prop where
  slots : ∀ i, SlotStep x s' i (s.slot i) (s'.slot i)
  fences : ∀ r, s.Fenced r → s'.Fenced r ∨ x = .cleared r

variable {x : StorageExcuse}

theorem StorageSlotMetadata.Past.step (h : SlotStep x s' i m m')
    (hpast : StorageSlotMetadata.Past generation m) : StorageSlotMetadata.Past generation m' := by
  obtain hlt | ⟨heq, hidle⟩ := hpast
  · exact Or.inl (UInt32.lt_of_lt_of_le hlt h.generation)
  · obtain hlt | heq' := UInt32.lt_or_eq_of_le h.generation
    · exact Or.inl (heq ▸ hlt)
    · exact Or.inr ⟨heq' ▸ heq, h.idle heq' hidle⟩

theorem StorageSlotMetadata.Kept.refl : m.Kept m :=
  ⟨rfl, rfl, rfl, rfl, le_rfl, fun _ => rfl, fun _ => rfl⟩

theorem StorageSlotMetadata.Kept.trans (h : m.Kept m') (h' : m'.Kept m'') : m.Kept m'' :=
  { operation := h'.operation.trans h.operation
    client := h'.client.trans h.client
    offset := h'.offset.trans h.offset
    length := h'.length.trans h.length
    phase := h.phase.trans h'.phase
    service := fun hphase => (h'.service (hphase.trans h.phase)).trans (h.service hphase)
    result := fun hphase => (h'.result (hphase.trans h.phase)).trans (h.result hphase) }

theorem SlotStep.refl : SlotStep x s' i m m :=
  { generation := UInt32.le_refl _
    operation := fun _ h => h
    idle := fun _ h => h
    kept := fun _ _ => .refl
    effect := fun hlive heffect => Or.inl ⟨rfl, hlive, rfl, rfl, heffect, rfl⟩
    delivered := fun h => Or.inl ⟨h, rfl⟩ }

theorem SlotStep.trans (h : SlotStep .none s' i m m') (h' : SlotStep .none s'' i m' m'')
    (hfences : ∀ r, s'.Fenced r → s''.Fenced r) : SlotStep .none s'' i m m'' := by
  have hbetween : m.generation = m''.generation →
      m.generation = m'.generation ∧ m'.generation = m''.generation := by
    intro heq
    have hle := h'.generation
    rw [← heq] at hle
    have hsame := UInt32.le_antisymm h.generation hle
    exact ⟨hsame, hsame ▸ heq⟩
  constructor
  · exact UInt32.le_trans h.generation h'.generation
  · intro heq hoperation
    exact h'.operation (hbetween heq).2 (h.operation (hbetween heq).1 hoperation)
  · intro heq hidle
    exact h'.idle (hbetween heq).2 (h.idle (hbetween heq).1 hidle)
  · intro heq hlive
    obtain ⟨hfirst, hlast⟩ := hbetween heq
    have hbetween' : ¬ m'.state.Idle := fun hidle => hlive (h'.idle hlast hidle)
    exact (h.kept hfirst hbetween').trans (h'.kept hlast hlive)
  · intro hlive heffect
    obtain hcarried | ⟨hpast, hfenced⟩ := h.effect hlive heffect
    · have hresource : m'.mutationResource = m.mutationResource := by
        unfold StorageSlotMetadata.mutationResource
        rw [hcarried.resource]
      obtain hcarried' | ⟨hpast', hfenced'⟩ := h'.effect hcarried.live hcarried.effectful
      · refine Or.inl ⟨hcarried'.generation.trans hcarried.generation, hcarried'.live,
          hcarried'.client.trans hcarried.client, hcarried'.deadline.trans hcarried.deadline,
          hcarried'.effectful, hcarried'.resource.trans hcarried.resource⟩
      · rw [hcarried.generation] at hpast'
        rw [hresource] at hfenced'
        exact Or.inr ⟨hpast', hfenced'.imp_right nofun⟩
    · refine Or.inr ⟨hpast.step h', Or.inl ?_⟩
      obtain hfenced | hx := hfenced
      · exact hfences _ hfenced
      · cases hx
  · intro hdelivered
    obtain ⟨hbefore, heq⟩ | hx := h'.delivered hdelivered
    · obtain ⟨hfirst, heq'⟩ | hx := h.delivered hbefore
      · exact Or.inl ⟨hfirst, heq.trans heq'⟩
      · cases hx
    · cases hx

theorem PoolStep.fenced (h : PoolStep .none s s') {r : Nat} (hfenced : s.Fenced r) : s'.Fenced r := by
  obtain hfenced' | hx := h.fences r hfenced
  · exact hfenced'
  · cases hx

theorem PoolStep.refl : PoolStep .none s s := ⟨fun _ => .refl, fun _ h => Or.inl h⟩

theorem PoolStep.trans (h : PoolStep .none s s') (h' : PoolStep .none s' s'') : PoolStep .none s s'' := by
  constructor
  · intro i
    exact (h.slots i).trans (h'.slots i) fun r => h'.fenced
  · intro r hfenced
    exact Or.inl (h'.fenced (h.fenced hfenced))

/-- A buffer is freed, revoked, or goes on for the request that has it. -/
def BulkCalm (old new : StorageBulkSlot) : Prop :=
  new.state = .free ∧ new.requestHandle = 0 ∨
    old.state ≠ .free ∧ new.state ≠ .free ∧ new.requestHandle = old.requestHandle ∧
      (new.state ≠ .revoked → old.state ≠ .revoked)

/-- The buffers and the slots agree on who has which buffer. -/
structure BulkSound (s : StoragePool) : Prop where
  free : ∀ b, (s.bulk b).state = .free → (s.bulk b).requestHandle = 0
  past : ∀ b slot generation, (s.bulk b).state ≠ .free → generation ≤ storageHandleGenerationMax →
    (s.bulk b).requestHandle = storageMakeHandle slot generation →
    generation ≤ (s.slot slot).generation
  held : ∀ b slot generation, (s.bulk b).state ≠ .free → (s.bulk b).state ≠ .revoked →
    generation ≤ storageHandleGenerationMax →
    (s.bulk b).requestHandle = storageMakeHandle slot generation →
    (s.slot slot).generation = generation ∧ ¬ (s.slot slot).state.Idle
  unique : ∀ b b', (s.bulk b).state ≠ .free → (s.bulk b').state ≠ .free →
    (s.bulk b).requestHandle = (s.bulk b').requestHandle → b = b'

/-- A copier that will release a slot knows the request of the slot. -/
def StorageCopy.Sound (s : StoragePool) : StorageCopy → Prop
  | .bulkCollect handle _ slot m _ _ _ =>
    handle = storageMakeHandle slot m.generation ∧ metadataValid m = true ∧
      m.generation ≤ (s.slot slot).generation ∧
      (m.generation = (s.slot slot).generation → (s.slot slot).operation ≠ some .vfsObjectMutate)
  | _ => True

/-- What holds of the pool at every moment. -/
structure StoragePool.Sound (s : StoragePool) : Prop where
  attempted : ∀ i, (s.slot i).mutationState = .attempted →
    (s.slot i).state = .claimed ∨ (s.slot i).state = .cancelPending
  unknown : ∀ i, (s.slot i).mutationState = .finishedUnknown → s.Fenced (s.slot i).mutationResource
  bulk : BulkSound s
  copies : ∀ copy ∈ s.copies, copy.Sound s

theorem BulkCalm.refl {old : StorageBulkSlot} (h : old.state = .free → old.requestHandle = 0) :
    BulkCalm old old := by
  by_cases hfree : old.state = .free
  · exact Or.inl ⟨hfree, h hfree⟩
  · exact Or.inr ⟨hfree, hfree, rfl, fun h => h⟩

theorem BulkCalm.trans {x y z : StorageBulkSlot} (h : BulkCalm x y) (h' : BulkCalm y z) : BulkCalm x z := by
  obtain hfree | ⟨hold, hnew, hhandle, hrevoked⟩ := h'
  · exact Or.inl hfree
  · obtain ⟨hfree, -⟩ | ⟨hold', -, hhandle', hrevoked'⟩ := h
    · exact absurd hfree hold
    · exact Or.inr ⟨hold', hnew, hhandle.trans hhandle', fun h => hrevoked' (hrevoked h)⟩

/-- Everything but the slots may move: the buffers calmly, and no fence is lifted. -/
structure StoragePool.Calm (s s' : StoragePool) : Prop where
  slots : ∀ i, s'.slot i = s.slot i
  fences : ∀ r, s.Fenced r → s'.Fenced r
  bulk : ∀ b, BulkCalm (s.bulk b) (s'.bulk b)
  copies : s'.copies = s.copies

theorem StoragePool.Sound.calm_refl (hs : s.Sound) : s.Calm s :=
  ⟨fun _ => rfl, fun _ h => h, fun b => .refl (hs.bulk.free b), rfl⟩

theorem StoragePool.Calm.trans (h : s.Calm s') (h' : s'.Calm s'') : s.Calm s'' :=
  ⟨fun i => (h'.slots i).trans (h.slots i), fun r hr => h'.fences r (h.fences r hr),
    fun b => (h.bulk b).trans (h'.bulk b), h'.copies.trans h.copies⟩

theorem BulkSound.of_calm (hs : BulkSound s) (hbulk : ∀ b, BulkCalm (s.bulk b) (s'.bulk b))
    (hgeneration : ∀ i, (s.slot i).generation ≤ (s'.slot i).generation)
    (hheld : ∀ b i, (s'.bulk b).state ≠ .free → (s'.bulk b).state ≠ .revoked →
      (s'.bulk b).requestHandle = storageMakeHandle i (s.slot i).generation →
      ¬ (s.slot i).state.Idle →
      (s'.slot i).generation = (s.slot i).generation ∧ ¬ (s'.slot i).state.Idle) :
    BulkSound s' := by
  have hlive : ∀ b, (s'.bulk b).state ≠ .free → (s.bulk b).state ≠ .free ∧
      (s'.bulk b).requestHandle = (s.bulk b).requestHandle ∧
      ((s'.bulk b).state ≠ .revoked → (s.bulk b).state ≠ .revoked) := by
    intro b hb
    obtain ⟨hfree, -⟩ | ⟨hold, -, hhandle, hrevoked⟩ := hbulk b
    · exact absurd hfree hb
    · exact ⟨hold, hhandle, hrevoked⟩
  constructor
  · intro b hfree
    obtain ⟨-, hzero⟩ | ⟨-, hnew, -⟩ := hbulk b
    · exact hzero
    · exact absurd hfree hnew
  · intro b i generation hb hmax hhandle
    obtain ⟨hold, hsame, -⟩ := hlive b hb
    exact UInt32.le_trans (hs.past b i generation hold hmax (hsame ▸ hhandle)) (hgeneration i)
  · intro b i generation hb hrevoked hmax hhandle
    obtain ⟨hold, hsame, hkeep⟩ := hlive b hb
    obtain ⟨heq, hidle⟩ := hs.held b i generation hold (hkeep hrevoked) hmax (hsame ▸ hhandle)
    subst heq
    exact hheld b i hb hrevoked hhandle hidle
  · intro b b' hb hb' heq
    obtain ⟨hold, hsame, -⟩ := hlive b hb
    obtain ⟨hold', hsame', -⟩ := hlive b' hb'
    exact hs.unique b b' hold hold' (by rw [← hsame, ← hsame', heq])

theorem StorageCopy.Sound.mono {copy : StorageCopy} (h : copy.Sound s)
    (hslots : ∀ i, SlotStep x s' i (s.slot i) (s'.slot i)) : copy.Sound s' := by
  cases copy with
  | bulkCollect handle b slot m frame length crc =>
    obtain ⟨hhandle, hvalid, hle, hsame⟩ := h
    have hstep := hslots slot
    refine ⟨hhandle, hvalid, UInt32.le_trans hle hstep.generation, ?_⟩
    intro heq
    have hback := hstep.generation
    rw [← heq] at hback
    have hfirst := UInt32.le_antisymm hle hback
    exact hstep.operation (hfirst.symm.trans heq) (hsame hfirst)
  | _ => trivial

theorem StoragePool.Calm.sound (h : s.Calm s') (hs : s.Sound) : s'.Sound := by
  constructor
  · intro i hattempted
    rw [h.slots i] at hattempted ⊢
    exact hs.attempted i hattempted
  · intro i hunknown
    rw [h.slots i] at hunknown ⊢
    exact h.fences _ (hs.unknown i hunknown)
  · refine hs.bulk.of_calm h.bulk (fun i => ?_) ?_
    · rw [h.slots i]
      exact UInt32.le_refl _
    · intro b i _ _ _ hidle
      rw [h.slots i]
      exact ⟨rfl, hidle⟩
  · intro copy hcopy
    rw [h.copies] at hcopy
    refine (hs.copies copy hcopy).mono (x := .none) fun i => ?_
    rw [h.slots i]
    exact .refl

theorem StoragePool.Calm.step (h : s.Calm s') : PoolStep .none s s' := by
  refine ⟨fun i => ?_, fun r hr => Or.inl (h.fences r hr)⟩
  rw [h.slots i]
  exact .refl

end ReistOs.RequestPool
