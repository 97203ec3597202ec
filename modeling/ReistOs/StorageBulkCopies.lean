import ReistOs.StorageBulkBuffers

/-! What the entries of the storage request pool that reserve or copy a bulk buffer do to the buffers
and to their copiers. -/

namespace ReistOs.RequestPool

open Attempt

variable {α : Type} {s s0 s1 : StoragePool} {b : StorageBulkIndex} {bulk : StorageBulkSlot} {i : StorageSlot}
  {m : StorageSlotMetadata} {handle : UInt32} {client service : StorageIdentity} {nowMs : UInt64}
  {ending : StorageBulkIndex → Prop} {copy : StorageCopy} {state : StorageBulkState} {P Q : StoragePool → Prop}

theorem Lasting.and (h : Lasting P) (h' : Lasting Q) : Lasting fun s => P s ∧ Q s :=
  ⟨fun s s' hbulk hcopies hs => ⟨h.same s s' hbulk hcopies hs.1, h'.same s s' hbulk hcopies hs.2⟩,
    fun s b hfree hs => ⟨h.released s b hfree hs.1, h'.released s b hfree hs.2⟩⟩

@[simp] theorem setBulk_bulk : (s.setBulk b bulk).bulk b = bulk := Function.update_self _ _ _

theorem setBulk_bulk_ne {c : StorageBulkIndex} (h : c ≠ b) : (s.setBulk b bulk).bulk c = s.bulk c :=
  Function.update_of_ne h _ _

theorem StoragePool.Attended.change (h : s.Attended ending) (hnew : bulk.state.Busy → (s.bulk b).state.Busy)
    (hold : (s.bulk b).state.Busy → bulk.state.Busy ∧ bulk.requestHandle = (s.bulk b).requestHandle) :
    (s.setBulk b bulk).Attended ending := by
  refine ⟨fun c hc => ?_, fun copy hcopy => ?_, h.distinct, h.apart⟩
  · by_cases hcb : c = b
    · subst hcb
      rw [setBulk_bulk] at hc
      exact h.copier c (hnew hc)
    · rw [setBulk_bulk_ne hcb] at hc
      exact h.copier c hc
  · obtain ⟨hbusy, hhandle⟩ := h.lent copy hcopy
    unfold StoragePool.Lent
    by_cases hcb : copy.bulk = b
    · rw [hcb] at hbusy hhandle ⊢
      rw [setBulk_bulk]
      exact ⟨(hold hbusy).1, (hold hbusy).2.trans hhandle⟩
    · rw [setBulk_bulk_ne hcb]
      exact ⟨hbusy, hhandle⟩

theorem released_busy (h : bulk.state.Busy) :
    bulk.released.state.Busy ∧ bulk.released.requestHandle = bulk.requestHandle := by
  have hreleased : bulk.released = { bulk with state := .revoked } := if_pos h
  rw [hreleased]
  exact ⟨Or.inr (Or.inr rfl), rfl⟩

theorem busy_of_released (h : bulk.released.state.Busy) : bulk.state.Busy := by
  by_contra hnot
  have hreleased : bulk.released = bulk.clear := if_neg hnot
  rw [hreleased] at h
  obtain h | h | h := h <;> cases h

theorem attended_lasting : Lasting fun s => s.Attended ending := by
  refine ⟨fun s s' hbulk hcopies h => ?_, fun s b _ h => h.change busy_of_released released_busy⟩
  obtain ⟨hcopier, hlent, hdistinct, hapart⟩ := h
  constructor
  · rw [hbulk, hcopies]
    exact hcopier
  · unfold StoragePool.Lent
    rw [hbulk, hcopies]
    exact hlent
  · rw [hcopies]
    exact hdistinct
  · rw [hcopies]
    exact hapart

theorem lent_lasting : Lasting fun s => s.Lent b handle := by
  refine ⟨fun s s' hbulk _ h => by unfold StoragePool.Lent; rw [hbulk]; exact h, fun s c _ h => ?_⟩
  unfold StoragePool.Lent
  by_cases hcb : b = c
  · subst hcb
    rw [setBulk_bulk]
    obtain ⟨hbusy, hhandle⟩ := released_busy h.1
    exact ⟨hbusy, hhandle.trans h.2⟩
  · rw [setBulk_bulk_ne hcb]
    exact h

theorem unbusy_lasting : Lasting fun s => ¬ (s.bulk b).state.Busy := by
  refine ⟨fun s s' hbulk _ h => by rw [hbulk]; exact h, fun s c _ h hbusy => ?_⟩
  by_cases hcb : b = c
  · subst hcb
    rw [setBulk_bulk] at hbusy
    exact h (busy_of_released hbusy)
  · rw [setBulk_bulk_ne hcb] at hbusy
    exact h hbusy

/-- Each buffer is freed, revoked, or goes on for the request that had it. -/
def StoragePool.BulksFrom (s₀ s : StoragePool) : Prop := ∀ b, BulkCalm (s₀.bulk b) (s.bulk b)

theorem StoragePool.BulksFrom.set (h : s0.BulksFrom s) (hbulk : BulkCalm (s.bulk b) bulk) :
    s0.BulksFrom (s.setBulk b bulk) := by
  intro c
  by_cases hcb : c = b
  · subst hcb
    rw [setBulk_bulk]
    exact (h c).trans hbulk
  · rw [setBulk_bulk_ne hcb]
    exact h c

theorem bulksFrom_lasting : Lasting s0.BulksFrom := by
  refine ⟨fun s s' hbulk _ h => ?_, fun s b hfree h => h.set (BulkCalm.released hfree).1⟩
  unfold StoragePool.BulksFrom
  rw [hbulk]
  exact h

def StoragePool.Rests (s₀ s : StoragePool) : Prop := s.Attended (fun _ => False) ∧ s₀.BulksFrom s

theorem rests_lasting : Lasting s0.Rests := attended_lasting.and bulksFrom_lasting

def StoragePool.Ending (s₀ : StoragePool) (b : StorageBulkIndex) (handle : UInt32) (s : StoragePool) : Prop :=
  s.Attended (· = b) ∧ s.Lent b handle ∧ s₀.BulksFrom s

theorem ending_lasting : Lasting (s0.Ending b handle) :=
  attended_lasting.and (lent_lasting.and bulksFrom_lasting)

theorem StoragePool.Attended.ended (h : s.Attended (· = b)) (hbusy : ¬ (s.bulk b).state.Busy) :
    s.Attended fun _ => False := by
  refine ⟨fun c hc => ?_, h.lent, h.distinct, fun _ _ hfalse => hfalse⟩
  obtain heq | hcopier := h.copier c hc
  · exact absurd (heq ▸ hc) hbusy
  · exact .inr hcopier

theorem StoragePool.Attended.leave (h : s.Attended (· = b)) :
    (s.setBulk b bulk).Attended (· = b) := by
  refine ⟨fun c hc => ?_, fun copy hcopy => ?_, h.distinct, h.apart⟩
  · by_cases hcb : c = b
    · exact .inl hcb
    · rw [setBulk_bulk_ne hcb] at hc
      exact h.copier c hc
  · unfold StoragePool.Lent
    rw [setBulk_bulk_ne (h.apart copy hcopy)]
    exact h.lent copy hcopy

theorem clear_not_busy : ¬ bulk.clear.state.Busy := by
  rintro (h | h | h) <;> cases h

theorem StoragePool.Ending.leave (h : s0.Ending b handle s) (hbusy : ¬ bulk.state.Busy)
    (hcalm : BulkCalm (s.bulk b) bulk) : s0.Rests (s.setBulk b bulk) :=
  ⟨h.1.leave.ended (by rwa [setBulk_bulk]), h.2.2.set hcalm⟩

theorem StoragePool.Attended.drop {index : Nat} (h : s.Attended fun _ => False)
    (hcopy : s.copies[index]? = some copy) :
    ({ s with copies := s.copies.eraseIdx index } : StoragePool).Attended (· = copy.bulk) := by
  obtain ⟨hlt, hcopy⟩ := List.getElem?_eq_some_iff.mp hcopy
  have hperm : (copy :: s.copies.eraseIdx index).Perm s.copies := by
    rw [← hcopy]
    exact List.getElem_cons_eraseIdx_perm hlt
  have hnodup := (hperm.map StorageCopy.bulk).nodup_iff.mpr h.distinct
  rw [List.map_cons, List.nodup_cons] at hnodup
  refine ⟨fun b hb => ?_, fun c hc => h.lent c (hperm.subset (List.mem_cons_of_mem _ hc)), hnodup.2, ?_⟩
  · obtain hfalse | ⟨c, hc, rfl⟩ := h.copier b hb
    · exact hfalse.elim
    · obtain rfl | hc := List.mem_cons.mp (hperm.symm.subset hc)
      · exact .inl rfl
      · exact .inr ⟨c, hc, rfl⟩
  · intro c hc heq
    have hmem := List.mem_map_of_mem (f := StorageCopy.bulk) hc
    exact hnodup.1 (heq ▸ hmem)

theorem StoragePool.Attended.lend (h : s.Attended fun _ => False) (hidle : ¬ (s.bulk b).state.Busy)
    (hbusy : state.Busy) (hbulk : copy.bulk = b) (hhandle : copy.handle = (s.bulk b).requestHandle) :
    ({ s.setBulk b { s.bulk b with state := state } with copies := copy :: s.copies } :
      StoragePool).Attended fun _ => False := by
  have hapart : ∀ c ∈ s.copies, c.bulk ≠ b := fun c hc heq => hidle (heq ▸ (h.lent c hc).1)
  refine ⟨fun c hc => .inr ?_, fun c hc => ?_, ?_, fun _ _ hfalse => hfalse⟩
  · by_cases hcb : c = b
    · exact ⟨copy, List.mem_cons_self, hbulk.trans hcb.symm⟩
    · have hc' : (s.bulk c).state.Busy := by
        have hsame : (s.setBulk b { s.bulk b with state := state }).bulk c = s.bulk c := setBulk_bulk_ne hcb
        rw [← hsame]
        exact hc
      obtain hfalse | ⟨other, hother, heq⟩ := h.copier c hc'
      · exact hfalse.elim
      · exact ⟨other, List.mem_cons_of_mem _ hother, heq⟩
  · unfold StoragePool.Lent
    obtain rfl | hc := List.mem_cons.mp hc
    · show ((s.setBulk b _).bulk c.bulk).state.Busy ∧ ((s.setBulk b _).bulk c.bulk).requestHandle = c.handle
      rw [hbulk, setBulk_bulk]
      exact ⟨hbusy, hhandle.symm⟩
    · show ((s.setBulk b _).bulk c.bulk).state.Busy ∧ ((s.setBulk b _).bulk c.bulk).requestHandle = c.handle
      rw [setBulk_bulk_ne (hapart c hc)]
      exact h.lent c hc
  · rw [List.map_cons, List.nodup_cons]
    refine ⟨fun hmem => ?_, h.distinct⟩
    obtain ⟨c, hc, heq⟩ := List.mem_map.mp hmem
    exact hapart c hc (heq.trans hbulk)

theorem beginCopy_rests {E : StorageError → StoragePool → Prop} (h : s0.Rests s1)
    (hfree : (s1.bulk b).state ≠ .free) (hidle : ¬ (s1.bulk b).state.Busy) (hbusy : state.Busy)
    (hbulk : copy.bulk = b) (hhandle : copy.handle = (s1.bulk b).requestHandle) :
    Triple (· = s1) (do bulkSetState b state; beginCopy copy) (fun _ => s0.Rests) E := by
  have hrevoked : (s1.bulk b).state ≠ .revoked := fun h => hidle (Or.inr (Or.inr h))
  have hstate : state ≠ .free := by
    rintro rfl
    obtain h | h | h := hbusy <;> cases h
  refine Triple.update (Triple.updated ⟨h.1.lend hidle hbusy hbulk hhandle, ?_⟩)
  exact h.2.set (.goes hfree hrevoked hstate rfl)

theorem reserved_idle (h : (s.bulk b).state = .reserved ∨ (s.bulk b).state = .published) :
    (s.bulk b).state ≠ .free ∧ ¬ (s.bulk b).state.Busy := by
  obtain h | h := h <;> rw [h] <;> exact ⟨by simp, by rintro (h | h | h) <;> cases h⟩

variable {data : List UInt8}

theorem inputPublish_rests :
    Keeps s0.Rests (storageRequestInputPublish client handle data nowMs) := by
  refine Keeps.refuse.bind fun _ => rests_lasting.resolve.bind fun ⟨i, m⟩ => Keeps.refuse.bind fun _ =>
    Keeps.refuse.bind fun _ => Keeps.refuse.bind fun _ => Triple.start fun s1 hs1 => Triple.read ?_
  cases hfind : s1.bulkFind handle with
  | none => exact Triple.failed hs1
  | some b =>
    refine Triple.check (fun _ => hs1) fun hc => ?_
    have hreserved : (s1.bulk b).state = .reserved := not_not.mp fun h => hc (Or.inr h)
    obtain ⟨hfree, hidle⟩ := reserved_idle (Or.inl hreserved)
    exact beginCopy_rests hs1 hfree hidle (Or.inl rfl) rfl (bulkFind_some hfind).2.symm

theorem inputTake_rests {capacity : Nat} :
    Keeps s0.Rests (storageRequestInputTake service handle capacity nowMs) := by
  refine Keeps.refuse.bind fun _ => rests_lasting.claimed.bind fun ⟨i, m⟩ =>
    Triple.start fun s1 hs1 => Triple.read ?_
  cases hfind : s1.bulkFind handle with
  | none => exact Triple.failed hs1
  | some b =>
    refine Triple.check (fun _ => hs1) fun hc => Triple.check (fun _ => hs1) fun _ =>
      Triple.check (fun _ => hs1) fun _ => ?_
    obtain ⟨hfree, hidle⟩ := reserved_idle (Or.inr (not_not.mp hc))
    exact beginCopy_rests hs1 hfree hidle (Or.inr (Or.inl rfl)) rfl (bulkFind_some hfind).2.symm

theorem bulkPublish_rests : Keeps s0.Rests (storageRequestBulkPublish service handle data) := by
  refine Keeps.refuse.bind fun _ => rests_lasting.resolve.bind fun ⟨i, m⟩ => Keeps.refuse.bind fun _ =>
    Triple.start fun s1 hs1 => Triple.read ?_
  cases hfind : s1.bulkFind handle with
  | none => exact Triple.failed hs1
  | some b =>
    refine Triple.check (fun _ => hs1) fun hc => ?_
    obtain ⟨hfree, hidle⟩ := reserved_idle (Or.inl (not_not.mp hc))
    exact beginCopy_rests hs1 hfree hidle (Or.inl rfl) rfl (bulkFind_some hfind).2.symm

variable {E : StorageError → StoragePool → Prop} {crc : UInt32}

theorem bulkClear_rests :
    Triple (s0.Ending b handle) (bulkClear b) (fun _ => s0.Rests) E :=
  Triple.modify fun _ h => h.leave clear_not_busy .clear

theorem clearFail_rests {e : StorageError} (h : s0.Ending b handle s1) :
    Triple (· = s1) (do bulkClear b; fail e : Pool α) (fun _ => s0.Rests) fun _ => s0.Rests :=
  (bulkClear_rests.pre fun _ heq => heq ▸ h).bind fun _ => Keeps.fail

theorem StoragePool.Ending.free (h : s0.Ending b handle s) : (s.bulk b).state ≠ .free := by
  intro hfree
  obtain hlent | hlent | hlent := h.2.1.1 <;> rw [hfree] at hlent <;> cases hlent

theorem fill_ending : Triple (s0.Ending b handle)
      (Attempt.modify fun s => s.setBulk b ((s.bulk b).fill data) : Pool Unit)
      (fun _ => s0.Ending b handle) E := by
  refine Triple.modify fun s h => ⟨h.1.change (fun hbusy => hbusy) fun hbusy => ⟨hbusy, rfl⟩, ?_, ?_⟩
  · unfold StoragePool.Lent
    rw [setBulk_bulk]
    exact h.2.1
  · exact h.2.2.set (.inr ⟨h.free, h.free, rfl, fun h => h⟩)

theorem StoragePool.Ending.done (h : s0.Ending b handle s) (hrevoked : (s.bulk b).state ≠ .revoked)
    (hstate : bulk.state ≠ .free) (hbusy : ¬ bulk.state.Busy)
    (hhandle : bulk.requestHandle = (s.bulk b).requestHandle) : s0.Rests (s.setBulk b bulk) :=
  h.leave hbusy (.goes h.free hrevoked hstate hhandle)

theorem published_not_busy : ¬ StorageBulkState.published.Busy := by
  rintro (h | h | h) <;> cases h

theorem consumed_not_busy : ¬ StorageBulkState.consumed.Busy := by
  rintro (h | h | h) <;> cases h

theorem inputPublished_rests (h : s0.Rests (s1.published b data)) :
    Triple (· = s1) (inputPublished b i m data) (fun _ => s0.Rests) fun _ => s0.Rests := by
  have hlasting : Lasting fun s => s0.Rests s ∧ ¬ (s.bulk b).state.Busy := rests_lasting.and unbusy_lasting
  refine Triple.update (Triple.pre (P := fun s => s0.Rests s ∧ ¬ (s.bulk b).state.Busy) ?_ ?_)
  · refine Triple.bind hlasting.store.ignored fun r => ?_
    cases r with
    | ok _ => exact Triple.pure fun _ hs => hs.1
    | error e =>
      refine Triple.bind (Q := fun _ => s0.Rests) (Triple.modify fun s hs => ?_) fun _ => Keeps.fail
      exact ⟨hs.1.1.change (fun hbusy => absurd hbusy clear_not_busy) fun hbusy => absurd hbusy hs.2,
        hs.1.2.set .clear⟩
  · rintro s rfl
    refine ⟨h, ?_⟩
    show ¬ ((s1.setBulk b _).bulk b).state.Busy
    rw [setBulk_bulk]
    exact published_not_busy

theorem inputPublishEnd_rests :
    Triple (s0.Ending b handle) (inputPublishEnd client handle b data) (fun _ => s0.Rests)
      fun _ => s0.Rests := by
  refine fill_ending.bind fun _ => Triple.bind ending_lasting.resolve.ignored fun r =>
    Triple.start fun s1 hs1 => Triple.read (Triple.check (fun hc => absurd hs1.2.1.2 hc) fun _ => ?_)
  cases r with
  | error e => exact clearFail_rests hs1
  | ok p =>
    exact Triple.ite (fun _ => clearFail_rests hs1) fun hrevoked => Triple.ite (fun _ => clearFail_rests hs1)
      fun _ => inputPublished_rests (hs1.done hrevoked (by simp) published_not_busy rfl)

theorem inputTakeEnd_rests {length : Nat} :
    Triple (s0.Ending b handle) (inputTakeEnd service handle b length crc nowMs) (fun _ => s0.Rests)
      fun _ => s0.Rests := by
  refine Triple.bind ending_lasting.claimed.ignored fun r =>
    Triple.start fun s1 hs1 => Triple.read (Triple.check (fun hc => absurd hs1.2.1.2 hc) fun _ => ?_)
  cases r with
  | error e => exact clearFail_rests hs1
  | ok p =>
    exact Triple.ite (fun _ => clearFail_rests hs1) fun hrevoked => Triple.ite (fun _ => clearFail_rests hs1)
      fun _ => Triple.update (Triple.done (hs1.done hrevoked (by simp) consumed_not_busy rfl))

theorem bulkPublishEnd_rests :
    Triple (s0.Ending b handle) (bulkPublishEnd handle b data) (fun _ => s0.Rests) fun _ => s0.Rests := by
  refine fill_ending.bind fun _ => Triple.start fun s1 hs1 => Triple.read ?_
  exact Triple.ite (fun _ => clearFail_rests hs1) fun hrevoked => Triple.ite (fun _ => clearFail_rests hs1)
    fun _ => Triple.updated (hs1.done (fun h => hrevoked (Or.inr h)) (by simp) published_not_busy rfl)

theorem bulkCollectEnd_rests {frame : List UInt8} {length : Nat} :
    Triple (s0.Ending b handle) (bulkCollectEnd handle b i m frame length crc) (fun _ => s0.Rests)
      fun _ => s0.Rests := by
  refine Triple.start fun s1 hs1 => Triple.read ((bulkClear_rests.pre fun _ heq => heq ▸ hs1).bind fun _ => ?_)
  exact Keeps.refuse.bind fun _ => Keeps.ite
    (fun _ => rests_lasting.releaseSlot.outcome.bind fun _ => Keeps.fail)
    fun _ => rests_lasting.releaseSlot.bind fun _ => Keeps.pure

theorem StorageCopy.finish_rests : Triple (s0.Ending copy.bulk copy.handle) copy.finish
    (fun _ => s0.Rests) fun _ => s0.Rests := by
  cases copy with
  | inputPublish client handle b data => exact inputPublishEnd_rests.bind fun _ => Keeps.pure
  | inputTake service handle b length crc nowMs => exact inputTakeEnd_rests.bind fun _ => Keeps.pure
  | bulkPublish handle b data => exact bulkPublishEnd_rests.bind fun _ => Keeps.pure
  | bulkCollect handle b i m frame length crc => exact bulkCollectEnd_rests.bind fun _ => Keeps.pure

theorem finishCopy_rests {index : Nat} : Keeps s0.Rests (finishCopy index) := by
  refine Triple.start fun s1 hs1 => Triple.read ?_
  cases hcopy : s1.copies[index]? with
  | none => exact Triple.done hs1
  | some copy =>
    refine Triple.update (StorageCopy.finish_rests.pre fun s heq => ?_)
    rw [heq]
    exact ⟨hs1.1.drop hcopy, hs1.1.lent copy (List.mem_of_getElem? hcopy), hs1.2⟩

end ReistOs.RequestPool
