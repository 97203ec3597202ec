import ReistOs.ResilientRuns

namespace ReistOs.Pages

section Single

variable {pool : Pool} {slot : Nat} {sequence : UInt32} {metadata : Metadata} {survivor : Fin 2}

theorem single_degrade (h : Holding pool slot sequence metadata)
    (hvalid : validReplicas pool slot metadata = [survivor]) (next : UInt32) :
    Holding (pool.setMetadata slot (sealedObject next (degrade metadata survivor))) slot next
        (degrade metadata survivor) ∧
      validReplicas (pool.setMetadata slot (sealedObject next (degrade metadata survivor))) slot
        (degrade metadata survivor) = [0] := by
  have hsurvivor : survivor ∈ validReplicas pool slot metadata := by
    rw [hvalid]
    simp
  obtain ⟨hr, hv⟩ := mem_validReplicas.mp hsurvivor
  refine ⟨h.publish (fieldsValid_degrade h.valid hr) rfl next, ?_⟩
  apply validReplicas_degrade
  rw [replicaValid_degrade _ (setMetadata_storage _) (setMetadata_failed _), hv]

theorem assessSlots_idle {slots : List Nat} (h : ∀ i ∈ slots, (pool.slots i).active = false)
    (aggregate : PageResult) : assessSlots slots pool aggregate = (aggregate, pool) := by
  induction slots with
  | nil => rfl
  | cons slot rest ih =>
    unfold assessSlots
    rw [if_pos (h slot List.mem_cons_self)]
    exact ih fun i hi => h i (List.mem_cons_of_mem _ hi)

end Single

section Wear

/-- A page that lives on its last sound replica, by the sequence of its metadata. -/
def Worn (pool : Pool) (handle : Handle) (sequence : UInt32) : Prop :=
  ∃ metadata survivor, Live pool handle ∧ Holding pool handle.slot.toNat sequence metadata ∧
    metadata.state ≠ PageState.failed.code ∧
      validReplicas pool handle.slot.toNat metadata = [survivor]

variable {pool : Pool} {handle : Handle} {sequence : UInt32} {capacity : Nat}

theorem degrade_state (metadata : Metadata) (survivor : Fin 2) :
    (degrade metadata survivor).state ≠ PageState.failed.code := by
  have h : PageState.degraded.code ≠ PageState.failed.code := by decide
  exact h

section

variable (h : Worn pool handle sequence)
include h

theorem resolveAssess_worn (hnext : sequence + 1 ≠ 0) :
    ∃ metadata after, resolveAssess pool handle = (.ok (handle.slot.toNat,
        { result := .resultDegraded, metadata := metadata, source := 0 }), after) ∧
      Live after handle ∧ Holding after handle.slot.toNat (sequence + 1) metadata ∧
        metadata.state ≠ PageState.failed.code ∧
          validReplicas after handle.slot.toNat metadata = [0] := by
  obtain ⟨metadata, survivor, hlive, hold, hstate, hvalid⟩ := h
  obtain ⟨hold', hvalid'⟩ := single_degrade hold hvalid (sequence + 1)
  have hassess := assess_single hold hstate hvalid
  rw [if_neg hnext] at hassess
  refine ⟨degrade metadata survivor, _, ?_, hlive.after (samePage_setMetadata _ _ _) hold'.active,
    hold', degrade_state metadata survivor, hvalid'⟩
  rw [resolveAssess_live hlive hold, hassess]
  rfl

theorem resolveAssess_spent (hspent : sequence + 1 = 0) :
    resolveAssess pool handle = (.error .errorCorrupt, pool) := by
  obtain ⟨metadata, survivor, hlive, hold, hstate, hvalid⟩ := h
  have hassess := assess_single hold hstate hvalid
  rw [if_pos hspent] at hassess
  rw [resolveAssess_live hlive hold, hassess]
  rfl

theorem worn_read (hnext : sequence + 1 ≠ 0) (hlarge : pageSize ≤ capacity) :
    (read pool handle capacity).1.result.succeeded = true ∧
      Worn (read pool handle capacity).2 handle (sequence + 1) := by
  obtain ⟨metadata, after, hentry, hlive, hold, hstate, hvalid⟩ := resolveAssess_worn h hnext
  unfold read
  rw [if_neg (Nat.not_lt.mpr hlarge), hentry]
  exact ⟨rfl, metadata, 0, hlive, hold, hstate, hvalid⟩

theorem spent_read (hspent : sequence + 1 = 0) (capacity : Nat) :
    (read pool handle capacity).1.result.succeeded = false := by
  unfold read
  rw [resolveAssess_spent h hspent]
  split
  · rfl
  · rfl

theorem worn_write (hnext : sequence + 1 ≠ 0) (hspent : sequence + 1 + 1 = 0) (offset : Nat)
    {new : List UInt8}
    (hargs : ¬ (new.length = 0 ∨ offset > pageSize ∨ new.length > pageSize - offset)) :
    (write pool handle offset new).1.succeeded = false ∧
      Worn (write pool handle offset new).2 handle (sequence + 1) := by
  obtain ⟨metadata, after, hentry, hlive, hold, hstate, hvalid⟩ := resolveAssess_worn h hnext
  unfold write
  rw [if_neg hargs, hentry]
  simp only
  by_cases hdata : metadata.dataGeneration = 0xFFFFFFFF
  · rw [if_pos hdata]
    exact ⟨rfl, metadata, 0, hlive, hold, hstate, hvalid⟩
  · rw [if_neg hdata]
    have hmem : (0 : Fin 2) ∈ validReplicas after handle.slot.toNat metadata := by
      rw [hvalid]
      simp
    have hsome : 0 < metadata.replicaCount.toNat := (mem_validReplicas.mp hmem).1
    generalize hanswer : prepare handle.slot.toNat metadata 0 offset new
      (countedReplicas metadata) _ after = answer
    obtain ⟨hview, honly, -, hfields⟩ := prepare_counted hold.valid hsome _ after hanswer
    obtain ⟨candidate, stored⟩ := answer
    subst hfields
    have hstored := hview.holding hold
    have hkeep : SamePage handle.slot.toNat after stored := by
      refine ⟨honly, ?_⟩
      rw [hview.slots]
    rw [metadataUpdate_sealed hstored.object hold.valid (fieldsValid_prepared hold.valid hdata _),
      if_pos hspent]
    refine ⟨rfl, metadata, 0, hlive.after hkeep hstored.active, hstored, hstate, ?_⟩
    rw [hview.validReplicas]
    exact hvalid

end

end Wear

section Runs

variable {events : List Event} {pool : Pool} {handle : Handle} {sequence : UInt32}

theorem next_toNat {sequence : UInt32} (h : sequence.toNat + 1 < 2 ^ 32) :
    (sequence + 1).toNat = sequence.toNat + 1 := by
  have hone : (1 : UInt32).toNat = 1 := rfl
  rw [UInt32.toNat_add]
  omega

theorem worn_reads (hrun : Run events pool) (hworn : Worn pool handle sequence) {capacity : Nat}
    (hlarge : pageSize ≤ capacity) (n : Nat) (hroom : sequence.toNat + n < 2 ^ 32) :
    ∃ events' pool' sequence', Run events' pool' ∧
      events'.map Event.op = events.map Event.op ++ List.replicate n (.read handle capacity) ∧
      (∀ other, touched other events' = touched other events) ∧
      Worn pool' handle sequence' ∧ sequence'.toNat = sequence.toNat + n := by
  induction n with
  | zero => exact ⟨events, pool, sequence, hrun, by simp, fun _ => rfl, hworn, rfl⟩
  | succ n ih =>
    obtain ⟨events', pool', sequence', hrun', hops, htouched, hworn', hsequence⟩ := ih (by omega)
    have hnext : sequence'.toNat + 1 < 2 ^ 32 := by omega
    obtain ⟨-, hafter⟩ := worn_read hworn' (next_ne_zero hnext) hlarge
    have hallowed : Allowed pool' (.read handle capacity) := trivial
    refine ⟨_, _, sequence' + 1, hrun'.step hallowed, ?_, ?_, hafter, ?_⟩
    · rw [List.map_append, hops, List.append_assoc, List.replicate_succ']
      rfl
    · intro other
      rw [touched_snoc, ← htouched other]
      rfl
    · rw [next_toNat hnext]
      omega

end Runs

def firstHandle : Handle := { slot := 0, generation := 1 }

/-- A pool with the first page in it and nothing else. -/
structure OnlyFirst (pool : Pool) (initial : Page) : Prop where
  live : Live pool firstHandle
  holding : Holding pool 0 1 (newMetadata 1 0 1 (pageCrc32 initial) (pageCrc32 initial))
  pages : pool.storage 0 0 0 = initial ∧ pool.storage 1 0 0 = initial
  failed : pool.failedDomains = fun _ => false
  others : ∀ i, i ≠ 0 → (pool.slots i).active = false

theorem create_first (initial : Page) :
    (create pagesInit initial).2.1 = some firstHandle ∧
      OnlyFirst (create pagesInit initial).2.2 initial := by
  have hcases := create_cases pagesInit initial
  have hfirst : ((List.range pageCapacity).find? fun slot => !(pagesInit.slots slot).active) =
      some 0 := rfl
  have hpair : createDomains pagesInit = [0, 1] := rfl
  have hgeneration : pagesInit.nextHandleGeneration = 1 := rfl
  generalize create pagesInit initial = answer at hcases ⊢
  cases hcases with
  | refused result after hresult hslots hstorage hfailed hnext hreason =>
    rcases hreason with hfull | hspent | hdomains
    · rw [hfirst] at hfull
      cases hfull
    · rw [hgeneration] at hspent
      exact absurd hspent (by decide)
    · exact absurd hpair (hdomains 0 1)
  | created slot first second after hslot hfind hdomains hold hpages hfree hnonzero hnext hslots
      hstorage hfailed hgeneration' hsound =>
    obtain rfl : 0 = slot := Option.some.inj (hfirst.symm.trans hfind)
    have hlist : [(0 : UInt32), 1] = [first, second] := hpair.symm.trans hdomains
    simp only [List.cons.injEq, and_true] at hlist
    obtain ⟨rfl, rfl⟩ := hlist
    refine ⟨rfl, ?_, hold, hpages, hfailed, ?_⟩
    · have hone : (1 : UInt32) ≠ 0 := by decide
      have hzero : (0 : Nat) < pageCapacity := by decide
      exact ⟨hzero, hone, hold.active, hgeneration'⟩
    · intro i hi
      rw [hslots i hi]
      rfl

theorem perform_create (pool : Pool) (initial : Page) :
    (perform pool (.create initial)).2 = (create pool initial).2.2 := rfl

theorem perform_failDomain (pool : Pool) (domain : UInt32) :
    (perform pool (.failDomain domain)).2 = (failDomain pool domain).2 := rfl

variable {pool : Pool} {initial : Page}

theorem OnlyFirst.failDomain (h : OnlyFirst pool initial) :
    Worn (failDomain pool 0).2 firstHandle 2 := by
  let marked : Pool :=
    { pool with failedDomains := Function.update pool.failedDomains 0 true }
  let single := newMetadata 1 0 1 (pageCrc32 initial) (pageCrc32 initial)
  have hold : Holding marked 0 1 single :=
    ⟨h.holding.active, h.holding.object, h.holding.valid, h.holding.generation⟩
  have hlost : replicaValid marked 0 single 0 = false := rfl
  have hleft : replicaValid marked 0 single 1 = true := by
    have hpage : replicaPage marked 0 single 1 = initial := h.pages.2
    have hup : marked.failedDomains 1 = false := by
      have hne : (1 : UInt32) ≠ 0 := by decide
      show Function.update pool.failedDomains 0 true 1 = false
      rw [Function.update_of_ne hne, h.failed]
    unfold replicaValid
    rw [hpage]
    show (!marked.failedDomains 1 && decide (pageCrc32 initial = pageCrc32 initial)) = true
    rw [hup]
    simp
  have hvalid : validReplicas marked 0 single = [1] := by
    have hrange : List.finRange 2 = [0, 1] := rfl
    have hcount : single.replicaCount.toNat = 2 := rfl
    unfold validReplicas
    simp [hrange, hcount, hlost, hleft]
  have hstate : single.state ≠ PageState.failed.code := by
    have hne : PageState.healthy.code ≠ PageState.failed.code := by decide
    exact hne
  have hassess := assess_single hold hstate hvalid
  have hnext : (1 : UInt32) + 1 ≠ 0 := by decide
  rw [if_neg hnext] at hassess
  obtain ⟨hold', hvalid'⟩ := single_degrade hold hvalid 2
  have hscan : (Pages.failDomain pool 0).2 = (assess marked 0 single).2 := by
    have hdomain : ¬ ((0 : UInt32) ≥ domainCount) := by decide
    have hfailed : ¬ (pool.failedDomains 0 = true) := by
      rw [h.failed]
      simp
    have hactive : ¬ ((marked.slots 0).active = false) := by
      rw [hold.active]
      simp
    have hidle : ∀ i ∈ [1, 2, 3], ((assess marked 0 single).2.slots i).active = false := by
      intro i hi
      have hne : i ≠ 0 := by
        rintro rfl
        simp at hi
      rw [hassess, (onlyAt_setMetadata marked 0 _).slots i hne]
      exact h.others i hne
    have hrange : List.range pageCapacity = [0, 1, 2, 3] := rfl
    unfold Pages.failDomain
    rw [if_neg hdomain, if_neg hfailed, hrange]
    show (assessSlots [0, 1, 2, 3] marked .ok).2 = _
    unfold assessSlots
    rw [if_neg hactive, metadataRead_sealed hold.object hold.valid]
    simp only
    split
    · rw [assessSlots_idle hidle]
    · rw [assessSlots_idle hidle]
  rw [hscan, hassess]
  refine ⟨_, 0, ?_, hold', degrade_state _ _, hvalid'⟩
  have hlive : Live marked firstHandle :=
    ⟨h.live.slot, h.live.nonzero, h.live.active, h.live.generation⟩
  exact hlive.after (samePage_setMetadata _ _ _) hold'.active

theorem OnlyFirst.spare (h : OnlyFirst pool initial) (i : Nat) : Spare pool i := by
  intro sequence metadata hold survivor _
  by_cases hi : i = 0
  · subst hi
    have hobjects : sealedObject sequence metadata = sealedObject 1 _ :=
      hold.object.symm.trans h.holding.object
    have hwords := congrArg
      (fun object : Critical.Object => object.primary.words Critical.wordSequence) hobjects
    simp only [sealedObject, sealed_words, Critical.built_sequence _ _ _ bytes_le] at hwords
    rw [hwords]
    decide
  · have hoff := h.others i hi
    rw [hold.active] at hoff
    cases hoff

end ReistOs.Pages
