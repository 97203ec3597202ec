import ReistOs.Ipc

/-! The tables of `kernel/ipc/ipc.c` stay in step: endpoints, capability records and the slots of
the processes. -/

namespace ReistOs

open Attempt

variable {s s' : IpcState} {slot : IpcSlot} {i j : IpcRecordSlot} {p q : IpcProcessSlot}
  {k : Fin ipcMaxCapabilitiesPerProcess} {e : IpcEndpoint} {r : IpcCapabilityRecord}
  {c : IpcCapability} {handle generation : UInt32}

section Lookups

@[simp] theorem endpoints_setEndpoint {other : IpcSlot} : (s.setEndpoint slot e).endpoints other =
    if other = slot then e else s.endpoints other := Function.update_apply ..

@[simp] theorem setEndpoint_setEndpoint {e' : IpcEndpoint} :
    (s.setEndpoint slot e).setEndpoint slot e' = s.setEndpoint slot e' := by
  unfold IpcState.setEndpoint
  simp only [Function.update_idem]

theorem setEndpoint_self : s.setEndpoint slot (s.endpoints slot) = s := by
  unfold IpcState.setEndpoint
  rw [Function.update_eq_self]

@[simp] theorem records_setRecord :
    (s.setRecord i r).records j = if j = i then r else s.records j := Function.update_apply ..

@[simp] theorem records_setEndpoint : (s.setEndpoint slot e).records = s.records := rfl
@[simp] theorem processes_setEndpoint : (s.setEndpoint slot e).processes = s.processes := rfl
@[simp] theorem records_setCapability : (s.setCapability p k c).records = s.records := rfl

theorem processes_setCapability : (s.setCapability p k c).processes q =
    if q = p then
      { s.processes p with ipcCapabilities := Function.update (s.processes p).ipcCapabilities k c }
    else s.processes q := Function.update_apply ..

@[simp] theorem identity_setCapability :
    ((s.setCapability p k c).processes q).identity = (s.processes q).identity := by
  rw [processes_setCapability]
  split
  next h => rw [h]
  next => rfl

@[simp] theorem isRunning_setCapability :
    ((s.setCapability p k c).processes q).isRunning = (s.processes q).isRunning := by
  rw [processes_setCapability]
  split
  next h => rw [h]
  next => rfl

theorem ipcCapabilities_setCapability {k' : Fin ipcMaxCapabilitiesPerProcess} :
    ((s.setCapability p k c).processes q).ipcCapabilities k' =
      if q = p ∧ k' = k then c else (s.processes q).ipcCapabilities k' := by
  rw [processes_setCapability]
  by_cases hq : q = p
  · subst hq
    simp [Function.update_apply]
  · simp [hq]

theorem firstRecord_some {wanted : IpcCapabilityRecord → Bool}
    (h : s.firstRecord wanted = .ok (some i)) :
    s.recordIntact i = true ∧ wanted (s.records i) = true := by
  unfold IpcState.firstRecord at h
  split at h
  next => cases h
  next found hfind =>
    split at h
    next hintact =>
      obtain rfl : found = i := by simpa using h
      have hwanted := List.find?_some hfind
      simp only [hintact, Bool.not_true, Bool.false_or] at hwanted
      exact ⟨hintact, hwanted⟩
    next => cases h

theorem capabilityRecordFor_some (h : capabilityRecordFor s p handle = .ok (some i)) :
    s.recordIntact i = true ∧ (s.records i).active = true ∧ (s.records i).handle = handle ∧
      (s.records i).holderIdentity = (s.processes p).identity := by
  obtain ⟨hintact, hwanted⟩ := firstRecord_some h
  simp only [Bool.and_eq_true, beq_iff_eq] at hwanted
  exact ⟨hintact, hwanted.1.1, hwanted.1.2, hwanted.2⟩

theorem freeCapabilityRecord_some (h : freeCapabilityRecord s = .ok (some i)) :
    s.recordIntact i = true ∧ (s.records i).active = false := by
  obtain ⟨hintact, hwanted⟩ := firstRecord_some h
  exact ⟨hintact, by simpa using hwanted⟩

variable {process : IpcProcess}

theorem processCapabilitySlot_some (h : processCapabilitySlot process handle = some k) :
    (process.ipcCapabilities k).inUse = true ∧ (process.ipcCapabilities k).handle = handle := by
  have hfound := List.find?_some (p := fun k => (process.ipcCapabilities k).inUse &&
    (process.ipcCapabilities k).handle == handle) h
  simpa using hfound

theorem processCapabilitySlot_none (h : processCapabilitySlot process handle = none)
    (k : Fin ipcMaxCapabilitiesPerProcess) (huse : (process.ipcCapabilities k).inUse = true) :
    (process.ipcCapabilities k).handle ≠ handle := by
  have hnone := List.find?_eq_none.mp h k (List.mem_finRange k)
  simpa [huse] using hnone

theorem freeProcessCapabilitySlot_some (h : freeProcessCapabilitySlot process = some k) :
    (process.ipcCapabilities k).inUse = false := by
  have hfound := List.find?_some (p := fun k => !(process.ipcCapabilities k).inUse) h
  simpa using hfound

end Lookups

theorem ipcMakeHandle_inj {slot' : IpcSlot} {generation' : UInt32}
    (h : generation ≤ ipcHandleGenerationMax) (h' : generation' ≤ ipcHandleGenerationMax)
    (heq : ipcMakeHandle slot generation = ipcMakeHandle slot' generation') :
    slot = slot' ∧ generation = generation' := by
  have hslot : slot.val < 255 := Nat.lt_trans slot.isLt (by decide)
  have hslot' : slot'.val < 255 := Nat.lt_trans slot'.isLt (by decide)
  obtain ⟨hs, hg⟩ := slotToken_inj hslot hslot' h h' heq
  exact ⟨Fin.ext hs, hg⟩

theorem decodeHandle_ipcMakeHandle (h : generation ≤ ipcHandleGenerationMax) (hne : generation ≠ 0) :
    decodeHandle (ipcMakeHandle slot generation) = some (slot, generation) := by
  obtain ⟨hin, hindex⟩ := slotToken_index slot (by decide) generation
  have hhigh : ipcMakeHandle slot generation >>> 8 = generation :=
    slotToken_high (slot.isLt.trans (by decide)) h
  refine (dif_pos hin).trans ?_
  rw [hhigh, if_neg hne]
  exact congrArg (fun found => some (found, generation)) hindex

theorem decodeHandle_some (h : decodeHandle handle = some (slot, generation)) :
    handle = ipcMakeHandle slot generation ∧ generation ≠ 0 ∧ generation ≤ ipcHandleGenerationMax := by
  unfold decodeHandle at h
  dsimp only at h
  split at h
  next hin =>
    split at h
    next => cases h
    next hne =>
      obtain ⟨rfl, rfl⟩ := Prod.mk.inj (Option.some.inj h)
      refine ⟨?_, hne, ?_⟩
      · apply (slotToken_of_low _).symm
        show (handle &&& 0xff).toNat = (handle &&& 0xff).toNat - 1 + 1
        omega
      · apply UInt32.le_iff_toNat_le.mpr
        have hlt := handle.toNat_lt
        rw [highPart_toNat]
        show handle.toNat / 256 ≤ 16777215
        omega
  next => cases h

end ReistOs
