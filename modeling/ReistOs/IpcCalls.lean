import ReistOs.IpcCapabilities

/-! What the calls of `kernel/ipc/ipc.c` that give and take capabilities do to the tables. -/

namespace ReistOs

open Attempt IpcState

variable {s s' s0 s1 : IpcState} {slot other : IpcSlot} {i j : IpcRecordSlot} {p q : IpcProcessSlot}
  {k : Fin ipcMaxCapabilitiesPerProcess} {e : IpcEndpoint} {r : IpcCapabilityRecord}
  {c : IpcCapability} {handle rights required generation : UInt32}

structure IpcState.Resolved (s : IpcState) (p : IpcProcessSlot) (handle required : UInt32)
    (slot : IpcSlot) : Prop where
  isRunning : (s.processes p).isRunning = true
  held : (processCapabilitySlot (s.processes p) handle).isSome = true
  current : handle = ipcMakeHandle slot (s.endpoints slot).generation
  generation : (s.endpoints slot).generation ≠ 0
  intact : s.endpointIntact slot = true
  active : (s.endpoints slot).active = true
  record : ∃ i, capabilityRecordFor s p handle = .ok (some i) ∧ (s.records i).endpointSlot = slot ∧
    (s.records i).rights &&& required = required

theorem integrityLost_faded {α : Type} {Q : α → IpcState → Prop} :
    Triple (Faded s0) (integrityLost slot : Ipc α) Q (fun _ => Faded s0) := by
  refine Triple.bind (Q := fun _ => Faded s0) (Triple.modify fun s hs => ?_) fun _ =>
    Triple.fail fun s hs => hs
  exact hs.trans (quarantineEndpoint_faded hs.tables)

theorem integrityLost_known {α : Type} {Q : α → IpcState → Prop} (h : Faded s0 s1) :
    Triple (· = s1) (integrityLost slot : Ipc α) Q (fun _ => Faded s0) :=
  integrityLost_faded.pre fun _ hs => hs ▸ h

theorem check_known {β : Type} {c : Prop} [Decidable c] {code : IpcError} {f : Unit → Ipc β}
    {R : β → IpcState → Prop} (h : IpcTables s0)
    (hf : ¬ c → Triple (· = s0) (f ()) R fun _ => Faded s0) :
    Triple (· = s0) (refuse c code >>= f) R fun _ => Faded s0 :=
  Triple.check (fun _ => Faded.refl h) hf

theorem endpointLoaded_triple (h : IpcTables s0) :
    Triple (· = s0) (endpointLoaded slot)
      (fun e s => s = s0 ∧ e = s0.endpoints slot ∧ s0.endpointIntact slot = true)
      (fun _ => Faded s0) := by
  apply Triple.read
  split
  next hintact => exact Triple.done ⟨rfl, rfl, hintact⟩
  next => exact integrityLost_known (Faded.refl h)

theorem resolveCapability_triple (h : IpcTables s0) :
    Triple (· = s0) (resolveCapability p handle required)
      (fun slot s => s = s0 ∧ s0.Resolved p handle required slot) (fun _ => Faded s0) := by
  apply Triple.read
  refine check_known h fun hstart => ?_
  obtain ⟨hrunning, hheld⟩ := not_or.mp hstart
  split
  next => exact Triple.failed (Faded.refl h)
  next slot generation hdecode =>
    split
    next => exact integrityLost_known (Faded.refl h)
    next => exact Triple.failed (Faded.refl h)
    next i hrecord =>
      refine check_known h fun hslot => ?_
      refine check_known h fun hrights => ?_
      refine Triple.learn (endpointLoaded_triple h) fun e ⟨he, hintact⟩ => ?_
      subst he
      refine check_known h fun hlive => ?_
      refine check_known h fun _ => Triple.done ⟨rfl, ?_⟩
      obtain ⟨hactive, hgeneration⟩ := not_or.mp hlive
      obtain ⟨hhandle, hne, -⟩ := decodeHandle_some hdecode
      obtain rfl := not_not.mp hgeneration
      exact
        { isRunning := by simpa using hrunning
          held := by simpa [Option.isSome_iff_ne_none] using hheld
          current := hhandle
          generation := hne
          intact := hintact
          active := by simpa using hactive
          record := ⟨i, hrecord, not_not.mp hslot, not_not.mp hrights⟩ }

theorem installCapability_triple (s0 : IpcState)
    (hgrant : ∀ k i, (s0.records i).active = false →
      ((s0.processes p).ipcCapabilities k).inUse = false → Grantable s0 p k i handle slot rights) :
    Triple (· = s0) (installCapability p handle slot rights)
      (fun _ s => ∃ k i, Grantable s0 p k i handle slot rights ∧ s0.recordIntact i = true ∧
        s = s0.grant p k i handle slot rights) (fun _ s => s = s0) := by
  apply Triple.read
  split
  next => exact Triple.failed rfl
  next k i hfree hrecord =>
    obtain ⟨hintact, hidle⟩ := freeCapabilityRecord_some hrecord
    have hgrantable := hgrant k i hidle (freeProcessCapabilitySlot_some hfree)
    refine Triple.ite (fun _ => ?_) fun hinvalid => absurd hgrantable.valid hinvalid
    exact Triple.updated ⟨k, i, hgrantable, hintact, rfl⟩
  next => exact Triple.failed rfl

theorem freeEndpoint_triple (slots : List IpcSlot) :
    Triple (Faded s0) (freeEndpoint slots) (fun found s => Faded s0 s ∧ ∀ slot, found = some slot →
      (s.endpoints slot).active = false ∧
        (s.endpoints slot).generation < ipcHandleGenerationMax) (fun _ => Faded s0) := by
  induction slots with
  | nil => exact Triple.pure fun s hs => ⟨hs, by simp⟩
  | cons slot rest ih =>
    refine Triple.start fun s1 hs1 => Triple.read ?_
    refine Triple.ite (fun _ => ?_) fun _ => ?_
    · apply Triple.update
      exact ih.pre fun _ hs => hs ▸ hs1.trans (quarantineEndpoint_faded hs1.tables)
    · refine Triple.ite (fun _ => ih.pre fun _ hs => hs ▸ hs1) fun hfree => ?_
      have hinactive : (s1.endpoints slot).active = false := by
        simp only [Bool.or_eq_true, not_or, Bool.not_eq_true] at hfree
        exact hfree.1
      refine Triple.ite (fun _ => ?_) fun hgeneration => ?_
      · apply Triple.update
        refine ih.pre fun _ hs => hs ▸ hs1.trans (hs1.tables.setIdle ?_ hinactive ?_ ?_ ?_)
        · exact hs1.tables.unread hinactive
        · exact hs1.tables.sound.bounded slot
        · exact UInt32.le_refl _
        · exact hs1.tables.idle slot hinactive
      · refine Triple.done ⟨hs1, ?_⟩
        intro found hfound
        obtain rfl := Option.some.inj hfound
        exact ⟨hinactive, UInt32.not_le.mp hgeneration⟩

def IpcEndpoint.created (generation : UInt32) (owner : IpcIdentity) : IpcEndpoint :=
  { IpcEndpoint.empty with
    active := true
    generation := generation
    owner := owner }

def ipcAllRights : UInt32 := ipcRightSend ||| ipcRightReceive ||| ipcRightControl

theorem succ_generation (h : generation < ipcHandleGenerationMax) :
    generation < generation + 1 ∧ generation + 1 ≤ ipcHandleGenerationMax ∧ generation + 1 ≠ 0 := by
  have hlt : generation.toNat < 16777215 := UInt32.lt_iff_toNat_lt.mp h
  have hsucc : (generation + 1).toNat = generation.toNat + 1 := by
    rw [UInt32.toNat_add]
    show (generation.toNat + 1) % 4294967296 = generation.toNat + 1
    omega
  refine ⟨?_, ?_, ?_⟩
  · rw [UInt32.lt_iff_toNat_lt]
    omega
  · rw [UInt32.le_iff_toNat_le, hsucc]
    show generation.toNat + 1 ≤ 16777215
    omega
  · intro hzero
    rw [hzero] at hsucc
    cases hsucc

theorem IpcSound.fresh (h : IpcSound NoneDying s)
    (hbound : (s.endpoints slot).generation < ipcHandleGenerationMax) (i : IpcRecordSlot)
    (hi : (s.records i).active = true) :
    (s.records i).handle ≠ ipcMakeHandle slot ((s.endpoints slot).generation + 1) := by
  intro hhandle
  obtain ⟨hlt, hle, -⟩ := succ_generation hbound
  obtain ⟨g, -, hissued, hold⟩ := h.issued i hi
  have hg : g ≤ ipcHandleGenerationMax := UInt32.le_trans hissued (h.bounded _)
  obtain ⟨hslot, heq⟩ := ipcMakeHandle_inj hg hle (hold.symm.trans hhandle)
  rw [hslot, heq] at hissued
  exact UInt32.not_lt.mpr hissued hlt

theorem IpcTables.open (h : IpcTables s) (hinactive : (s.endpoints slot).active = false)
    (hbound : (s.endpoints slot).generation < ipcHandleGenerationMax) (owner : IpcIdentity) :
    IpcTables (s.setEndpoint slot (.created ((s.endpoints slot).generation + 1) owner)) := by
  obtain ⟨hlt, hle, -⟩ := succ_generation hbound
  have hsound := h.sound.setEndpoint (e := .created ((s.endpoints slot).generation + 1) owner)
    (h.unread hinactive) hle (UInt32.le_of_lt hlt) fun _ => hlt
  refine
    { sound := hsound
      counted := h.counted.setEndpoint fun _ => ⟨?_, rfl⟩
      live := h.live
      idle := ?_
      room := ?_ }
  · rintro ⟨i, hp⟩
    have hcur := hp.current
    unfold IpcState.Current at hcur
    rw [endpoints_setEndpoint, if_pos hp.slot, hp.slot] at hcur
    exact h.sound.fresh hbound i hp.active hcur
  · intro other hother
    rw [endpoints_setEndpoint] at hother ⊢
    split
    next => exact ⟨rfl, rfl⟩
    next hslot =>
      rw [if_neg hslot] at hother
      exact h.idle other hother
  · intro other
    rw [endpoints_setEndpoint]
    split
    next => exact Nat.zero_le _
    next => exact h.room other

/-- A new endpoint with the capability of its owner. -/
structure IpcState.Created (s₀ : IpcState) (p : IpcProcessSlot) (slot : IpcSlot) (s₁ : IpcState)
    (k : Fin ipcMaxCapabilitiesPerProcess) (i : IpcRecordSlot) : Prop where
  isRunning : (s₀.processes p).isRunning = true
  faded : Faded s₀ s₁
  inactive : (s₁.endpoints slot).active = false
  bound : (s₁.endpoints slot).generation < ipcHandleGenerationMax
  free : ((s₁.processes p).ipcCapabilities k).inUse = false
  record : (s₁.records i).active = false
  intact : s₁.recordIntact i = true

def IpcState.nextHandle (s : IpcState) (slot : IpcSlot) : UInt32 :=
  ipcMakeHandle slot ((s.endpoints slot).generation + 1)

def IpcState.opened (s : IpcState) (p : IpcProcessSlot) (slot : IpcSlot) : IpcState :=
  s.setEndpoint slot (.created ((s.endpoints slot).generation + 1) (s.processes p).identity)

theorem opened_self : (s.opened p slot).endpoints slot =
    .created ((s.endpoints slot).generation + 1) (s.processes p).identity := by
  unfold opened
  rw [endpoints_setEndpoint, if_pos rfl]

theorem opened_setEndpoint : (s.opened p slot).setEndpoint slot e = s.setEndpoint slot e :=
  setEndpoint_setEndpoint

theorem ipcMakeHandle_ne_zero (hbound : generation ≤ ipcHandleGenerationMax) (h : generation ≠ 0) :
    ipcMakeHandle slot generation ≠ 0 := by
  intro hzero
  have hdecode : decodeHandle (ipcMakeHandle slot generation) = some (slot, generation) :=
    decodeHandle_ipcMakeHandle hbound h
  have hnone : decodeHandle 0 = none := by decide
  rw [hzero, hnone] at hdecode
  cases hdecode

theorem grantable_owner (h : IpcTables s) (hlive : (s.processes p).identity.live = true)
    (hbound : (s.endpoints slot).generation < ipcHandleGenerationMax)
    (hrecord : (s.records i).active = false)
    (hfree : ((s.processes p).ipcCapabilities k).inUse = false) :
    Grantable (s.opened p slot) p k i (s.nextHandle slot) slot ipcAllRights := by
  obtain ⟨-, hle, hne⟩ := succ_generation hbound
  have hhandle : s.nextHandle slot ≠ 0 := ipcMakeHandle_ne_zero hle hne
  refine
    { record := hrecord
      free := hfree
      valid := ?_
      current := ?_
      generation := ?_
      active := ?_
      alone := ?_
      single := ?_
      owner := ?_ }
  · have hrights : ipcAllRights != 0 && ipcAllRights &&& ~~~(ipcRightSend ||| ipcRightReceive |||
        ipcRightControl) == 0 := by decide
    simp only [Bool.and_eq_true] at hrights
    unfold capabilityMetadataValid grantedRecord
    simp only [Bool.not_true, Bool.false_or, Option.isSome_some, Bool.and_true, Bool.and_eq_true]
    exact ⟨⟨⟨by simpa using hhandle, hlive⟩, hrights.1⟩, hrights.2⟩
  · rw [opened_self]
    rfl
  · rw [opened_self]
    exact hne
  · rw [opened_self]
    rfl
  · intro j hj hsame
    exact absurd hsame (h.sound.fresh hbound j hj)
  · intro j hj hsame
    exact absurd hsame (h.sound.fresh hbound j hj)
  · intro _
    rw [opened_self]
    rfl

theorem ipcCreate_triple (h : IpcTables s0) :
    Triple (· = s0) (ipcCreate p)
      (fun handle s => ∃ slot s1 k i, s0.Created p slot s1 k i ∧ handle = s1.nextHandle slot ∧
        s = (s1.opened p slot).grant p k i handle slot ipcAllRights) (fun _ => Faded s0) := by
  apply Triple.read
  refine check_known h fun hrunning => ?_
  replace hrunning : (s0.processes p).isRunning = true := by simpa using hrunning
  split
  next => exact Triple.failed (Faded.refl h)
  next record _ =>
    refine check_known h fun _ => ?_
    have hstart : ∀ s, s = s0 → Faded s0 s := by
      rintro s rfl
      exact Faded.refl h
    refine Triple.bind ((freeEndpoint_triple endpointSlots).pre hstart) fun found => ?_
    cases found with
    | none => exact Triple.fail fun s hs => hs.1
    | some slot =>
      refine Triple.start fun s1 hs1 => Triple.read ?_
      obtain ⟨hfaded, hfound⟩ := hs1
      obtain ⟨hinactive, hbound⟩ := hfound slot rfl
      obtain ⟨hlt, hle, -⟩ := succ_generation hbound
      have hlive : (s1.processes p).identity.live = true := by
        rw [hfaded.identity p]
        exact h.live p hrunning
      have hfailed : Faded s0 ((s1.opened p slot).setEndpoint slot
          { IpcEndpoint.created ((s1.endpoints slot).generation + 1) (s1.processes p).identity with
            active := false }) := by
        rw [opened_setEndpoint]
        exact hfaded.trans (hfaded.tables.setIdle (hfaded.tables.unread hinactive) rfl hle
          (UInt32.le_of_lt hlt) ⟨rfl, rfl⟩)
      apply Triple.update
      apply Triple.read
      refine Triple.ite (fun _ => ?_) fun _ => ?_
      · apply Triple.update
        exact Triple.failed hfailed
      · have hinstall := installCapability_triple (s1.opened p slot) fun k i hrecord hfree =>
          grantable_owner hfaded.tables hlive hbound hrecord hfree
        refine Triple.bind (Triple.outcome_ends hinstall) fun r => ?_
        cases r with
        | error e =>
          refine Triple.bind (Q := fun _ => Faded s0) (Triple.modify fun s hs => ?_) fun _ =>
            Triple.fail fun s hs => hs
          obtain rfl : s = s1.opened p slot := hs
          rw [opened_self]
          exact hfailed
        | ok _ =>
          refine Triple.pure fun s hs => ?_
          obtain ⟨k, i, hgrantable, hintact, rfl⟩ := hs
          refine ⟨slot, s1, k, i, ?_, rfl, rfl⟩
          exact
            { isRunning := hrunning
              faded := hfaded
              inactive := hinactive
              bound := hbound
              free := hgrantable.free
              record := hgrantable.record
              intact := hintact }

section Delegating

variable {source target : IpcProcessSlot}

theorem IpcSound.of_handle (h : IpcSound NoneDying s) (hi : (s.records i).active = true)
    (hhandle : (s.records i).handle = ipcMakeHandle slot (s.endpoints slot).generation) :
    (s.records i).endpointSlot = slot ∧ s.Current (s.records i) := by
  obtain ⟨g, -, hle, hissued⟩ := h.issued i hi
  have hg : g ≤ ipcHandleGenerationMax := UInt32.le_trans hle (h.bounded _)
  obtain ⟨hslot, -⟩ := ipcMakeHandle_inj hg (h.bounded slot) (hissued.symm.trans hhandle)
  refine ⟨hslot, ?_⟩
  unfold IpcState.Current
  rw [hslot]
  exact hhandle

theorem IpcTables.only_owner (h : IpcTables s) (hresolved : s.Resolved p handle required slot)
    (hpeers : (s.endpoints slot).peerCapabilities = 0) (j : IpcRecordSlot)
    (hj : (s.records j).active = true) (hhandle : (s.records j).handle = handle) :
    (s.records j).IsControl ∧ (s.records j).holderIdentity = (s.endpoints slot).owner := by
  obtain ⟨hslot, hcurrent⟩ := h.sound.of_handle hj (hhandle.trans hresolved.current)
  have hcontrol : (s.records j).IsControl := by
    by_contra hpeer
    have hone := h.counted.one slot hresolved.active ⟨j, hj, hslot, hpeer, hcurrent⟩
    omega
  refine ⟨hcontrol, ?_⟩
  rw [← hslot]
  apply h.sound.owned j hj hcurrent hcontrol
  rw [hslot]
  exact hresolved.active

theorem grantable_peer (h : IpcTables s) (hresolved : s.Resolved source handle rights slot)
    (hpeers : (s.endpoints slot).peerCapabilities = 0) (hother : source ≠ target)
    (htarget : (s.processes target).isRunning = true) (hrights : rights ≠ 0)
    (hpeer : rights &&& ipcRightControl = 0)
    (hplain : rights &&& ~~~(ipcRightSend ||| ipcRightReceive) = 0)
    (hrecord : (s.records i).active = false)
    (hfree : ((s.processes target).ipcCapabilities k).inUse = false) :
    Grantable s target k i handle slot rights := by
  have honly := h.only_owner hresolved hpeers
  have hhandle : handle ≠ 0 := by
    rw [hresolved.current]
    exact ipcMakeHandle_ne_zero (h.sound.bounded slot) hresolved.generation
  refine
    { record := hrecord
      free := hfree
      valid := ?_
      current := hresolved.current
      generation := hresolved.generation
      active := hresolved.active
      alone := ?_
      single := ?_
      owner := fun hcontrol => absurd hpeer hcontrol }
  · have hall : rights &&& ~~~(ipcRightSend ||| ipcRightReceive ||| ipcRightControl) = 0 := by
      have hmask : ~~~(ipcRightSend ||| ipcRightReceive ||| ipcRightControl) =
          ~~~(ipcRightSend ||| ipcRightReceive) &&&
            ~~~(ipcRightSend ||| ipcRightReceive ||| ipcRightControl) := by decide
      rw [hmask, ← UInt32.and_assoc, hplain]
      exact UInt32.zero_and
    unfold capabilityMetadataValid grantedRecord
    simp only [Bool.not_true, Bool.false_or, Option.isSome_some, Bool.and_true, Bool.and_eq_true]
    exact ⟨⟨⟨by simpa using hhandle, h.live target htarget⟩, by simpa using hrights⟩,
      by simpa using hall⟩
  · intro j hj hsame hkind
    exact absurd hpeer (hkind.mp (honly j hj hsame).1)
  · -- the owner is the source
    intro j hj hsame hidentity
    obtain ⟨i', hrecord', -, -⟩ := hresolved.record
    obtain ⟨-, hi', hhandle', hholder⟩ := capabilityRecordFor_some hrecord'
    have howner : (s.processes source).identity = (s.processes target).identity := by
      rw [← hholder, (honly i' hi' hhandle').2, ← (honly j hj hsame).2, hidentity]
    exact hother (h.sound.distinct source target (h.live source hresolved.isRunning) howner)

/-- A capability that the owner of an endpoint gives to its peer. -/
structure IpcState.Delegated (s : IpcState) (source target : IpcProcessSlot) (handle rights : UInt32)
    (slot : IpcSlot) (k : Fin ipcMaxCapabilitiesPerProcess) (i : IpcRecordSlot) : Prop where
  resolved : s.Resolved source handle rights slot
  peers : (s.endpoints slot).peerCapabilities = 0
  isRunning : (s.processes target).isRunning = true
  peer : rights &&& ipcRightControl = 0
  grantable : Grantable s target k i handle slot rights
  intact : s.recordIntact i = true

def IpcState.delegated (s : IpcState) (target : IpcProcessSlot) (handle rights : UInt32)
    (slot : IpcSlot) (k : Fin ipcMaxCapabilitiesPerProcess) (i : IpcRecordSlot) : IpcState :=
  (s.grant target k i handle slot rights).setEndpoint slot
    { s.endpoints slot with
      peerSeen := true
      peerCapabilities := 1 }

theorem delegated_records : (s.delegated target handle rights slot k i).records j =
    if j = i then s.grantedRecord target handle slot rights else s.records j := grant_records

theorem delegated_identity : ((s.delegated target handle rights slot k i).processes p).identity =
    (s.processes p).identity := by
  unfold delegated
  rw [processes_setEndpoint, grant_identity]

theorem delegated_isRunning : ((s.delegated target handle rights slot k i).processes p).isRunning =
    (s.processes p).isRunning := by
  unfold delegated
  rw [processes_setEndpoint, grant_isRunning]

theorem delegated_frame (other : IpcSlot) :
    ((s.delegated target handle rights slot k i).endpoints other).frame =
      (s.endpoints other).frame := by
  unfold delegated
  rw [endpoints_setEndpoint]
  split
  next hslot =>
    rw [hslot]
    rfl
  next => rfl

theorem IpcTables.delegated (h : IpcTables s)
    (hgrant : s.Delegated source target handle rights slot k i) :
    IpcTables (s.delegated target handle rights slot k i) := by
  have hframe : ∀ other, ((s.delegated target handle rights slot k i).endpoints other).frame =
      (s.endpoints other).frame := fun other => delegated_frame other
  refine
    { sound := (h.sound.grant hgrant.grantable).of_frame rfl rfl (fun _ hi => hi) hframe
      counted := h.counted.grantPeer hgrant.grantable hgrant.peer rfl rfl
      live := ?_
      idle := ?_
      room := ?_ }
  · intro p hrunning
    rw [delegated_isRunning] at hrunning
    rw [delegated_identity]
    exact h.live p hrunning
  · intro other hother
    rw [(frame_eq (hframe other)).1] at hother
    have hidle := h.idle other hother
    unfold IpcState.delegated
    rw [endpoints_setEndpoint]
    split
    next hslot =>
      rw [hslot] at hidle
      exact hidle
    next => exact hidle
  · intro other
    have hroom := h.room other
    unfold IpcState.delegated
    rw [endpoints_setEndpoint]
    split
    next hslot =>
      rw [hslot] at hroom
      exact hroom
    next => exact hroom

theorem Faded.undelegated (h : IpcTables s)
    (hgrant : s.Delegated source target handle rights slot k i) :
    Faded s (quarantineEndpoint slot (s.delegated target handle rights slot k i)) := by
  have htables := h.delegated hgrant
  have hrevoked := quarantineEndpoint_revoked slot htables.sound htables.counted
  have hfaded := hrevoked.faded htables
  have hother : ∀ other, other ≠ slot →
      (s.delegated target handle rights slot k i).endpoints other = s.endpoints other := by
    intro other hslot
    unfold delegated
    rw [endpoints_setEndpoint, if_neg hslot]
    rfl
  refine
    { tables := hfaded.tables
      generation := ?_
      endpoint := ?_
      record := ?_
      identity := fun p => (hfaded.identity p).trans delegated_identity
      isRunning := ?_
      recordIntact := hfaded.recordIntact }
  · intro other
    have hgeneration := hfaded.generation other
    by_cases hslot : other = slot
    · have hsame : ((s.delegated target handle rights slot k i).endpoints other).generation =
          (s.endpoints other).generation := by
        unfold delegated
        rw [endpoints_setEndpoint, if_pos hslot, hslot]
      rw [← hsame]
      exact hgeneration
    · rw [hother other hslot] at hgeneration
      exact hgeneration
  · intro other hactive
    have hslot : other ≠ slot := by
      rintro rfl
      exact Bool.false_ne_true (hrevoked.inactive.symm.trans hactive)
    have hsame := hfaded.endpoint other hactive
    rw [hother other hslot] at hsame
    exact hsame
  · intro j hj
    have hsame := hfaded.record j hj
    rw [delegated_records] at hsame
    by_cases hji : j = i
    · -- the new record can be read, so the quarantine took it
      rw [if_pos hji] at hsame
      have hintact : (quarantineEndpoint slot
          (s.delegated target handle rights slot k i)).recordIntact j = true := by
        rw [hrevoked.cleared.recordIntact]
        exact hji ▸ hgrant.intact
      have hslot := hfaded.tables.unread hrevoked.inactive j hj hintact
      rw [hsame] at hslot
      exact absurd rfl hslot
    · rw [if_neg hji] at hsame
      exact hsame
  · intro p hrunning
    have hrunning' := hfaded.isRunning p hrunning
    rw [delegated_isRunning] at hrunning'
    exact hrunning'

theorem ipcDelegate_triple (h : IpcTables s0) :
    Triple (· = s0) (ipcDelegate source handle target rights)
      (fun _ s => ∃ slot k i, s0.Delegated source target handle rights slot k i ∧
        s = s0.delegated target handle rights slot k i) (fun _ => Faded s0) := by
  apply Triple.read
  refine check_known h fun hargs => ?_
  simp only [not_or, not_not] at hargs
  obtain ⟨hother, -, htarget, hrights, -, -, hpeer, hplain⟩ := hargs
  replace htarget : (s0.processes target).isRunning = true := by simpa using htarget
  refine Triple.learn (resolveCapability_triple h) fun slot hresolved => ?_
  apply Triple.read
  split
  next => exact integrityLost_known (Faded.refl h)
  next => exact Triple.failed (Faded.refl h)
  next i' hrecord' =>
    refine check_known h fun _ => ?_
    refine check_known h fun hpeers => ?_
    obtain ⟨hpeers, -⟩ := not_or.mp hpeers
    replace hpeers := not_not.mp hpeers
    refine check_known h fun _ => ?_
    split
    next => exact integrityLost_known (Faded.refl h)
    next => exact Triple.failed (Faded.refl h)
    next =>
      have hinstall := installCapability_triple s0 fun k i hrecord hfree =>
        grantable_peer (k := k) (i := i) h hresolved hpeers hother htarget hrights hpeer hplain
          hrecord hfree
      refine Triple.bind (hinstall.ends (fun _ _ hs => hs) ?_) fun _ => ?_
      · rintro _ s rfl
        exact Faded.refl h
      · refine Triple.exists fun k => Triple.exists fun i => ?_
        refine Triple.start fun s1 ⟨hgrantable, hintact, hs1⟩ => ?_
        subst hs1
        have hgrant : s0.Delegated source target handle rights slot k i :=
          { resolved := hresolved
            peers := hpeers
            isRunning := htarget
            peer := hpeer
            grantable := hgrantable
            intact := hintact }
        apply Triple.update
        apply Triple.read
        refine Triple.ite (fun _ => Triple.done ⟨slot, k, i, hgrant, rfl⟩) fun _ => ?_
        apply Triple.update
        exact Triple.failed (Faded.undelegated h hgrant)

end Delegating

variable {identity : IpcIdentity}

/-- The process instance has no record of the handle that can be read. -/
def IpcState.Unheld (s : IpcState) (handle : UInt32) (identity : IpcIdentity) : Prop :=
  ∀ i, (s.records i).active = true → s.recordIntact i = true → (s.records i).handle = handle →
    (s.records i).holderIdentity ≠ identity

/-- Every endpoint that has had the handle is closed, or was opened anew since. -/
def IpcState.Dead (s : IpcState) (handle : UInt32) : Prop :=
  ∃ slot g, handle = ipcMakeHandle slot g ∧ g ≤ (s.endpoints slot).generation ∧
    (g = (s.endpoints slot).generation → (s.endpoints slot).active = false)

theorem clear_unheld (h : IpcTables s) (hi : (s.records i).active = true) (hhandle : (s.records i).handle = handle)
    (hidentity : (s.records i).holderIdentity = identity) :
    (clearCapabilityRecord i s).Unheld handle identity := by
  intro j hj _ hsame hholder
  have hold := clear_cleared.active_record hj
  rw [hold] at hj hsame hholder
  have hji : j = i := by
    apply h.sound.single j i hj hi
    · rw [hsame, hhandle]
    · rw [hholder, hidentity]
  have hgone : ((clearCapabilityRecord i s).records i).active = false := clear_self
  subst hji
  rw [hold, hj] at hgone
  exact Bool.false_ne_true hgone.symm

theorem ipcRelease_triple (h : IpcTables s0) :
    Triple (· = s0) (ipcRelease p handle)
      (fun _ s => Faded s0 s ∧ (∃ slot, s0.Resolved p handle 0 slot) ∧
        s.Unheld handle (s0.processes p).identity) (fun _ => Faded s0) := by
  refine check_known h fun _ => ?_
  refine Triple.learn (resolveCapability_triple h) fun slot hresolved => ?_
  apply Triple.read
  refine check_known h fun _ => ?_
  split
  next => exact integrityLost_known (Faded.refl h)
  next =>
    apply Triple.update
    exact Triple.failed (quarantineEndpoint_faded h)
  next i hrecord =>
    obtain ⟨hintact, hactive, hhandle, hidentity⟩ := capabilityRecordFor_some hrecord
    refine Triple.updated ⟨clearCapabilityRecord_faded h hactive hintact, ⟨slot, hresolved⟩, ?_⟩
    exact clear_unheld h hactive hhandle hidentity

theorem revoke_unheld (h : IpcTables s) (hresolved : s.Resolved p handle required slot)
    (hrevoked : Revoked slot s s') (huse : ((s'.processes p).ipcCapabilities k).inUse = true) :
    ((s'.processes p).ipcCapabilities k).handle ≠ handle := by
  intro hhandle
  have hfaded := hrevoked.faded h
  obtain ⟨i, hrecord, hslot, -⟩ := hresolved.record
  obtain ⟨hintact, hi, hhandle', hidentity⟩ := capabilityRecordFor_some hrecord
  obtain ⟨j, hj, -, hholder, hcapability⟩ := hfaded.tables.sound.recorded p k huse
  rw [hcapability] at hhandle
  rw [hfaded.record j hj] at hhandle hholder
  have hold : (s.records j).active = true := by
    rw [← hfaded.record j hj]
    exact hj
  have hji : j = i := by
    apply h.sound.single j i hold hi
    · exact hhandle.trans hhandle'.symm
    · rw [← hholder, hidentity]
      exact hfaded.identity p
  have hread : s'.recordIntact i = true := by
    rw [hrevoked.cleared.recordIntact]
    exact hintact
  have hnone := hfaded.tables.unread hrevoked.inactive i (hji ▸ hj) hread
  rw [hfaded.record i (hji ▸ hj)] at hnone
  exact hnone hslot

theorem setCapability_same (h : (s.processes p).ipcCapabilities k = c) : s.setCapability p k c = s := by
  subst h
  unfold setCapability
  simp only [Function.update_eq_self]

theorem ipcClose_triple (h : IpcTables s0) :
    Triple (· = s0) (ipcClose p handle)
      (fun _ s => Faded s0 s ∧ ∃ slot, s0.Resolved p handle ipcRightControl slot ∧
        (s.endpoints slot).active = false) (fun _ => Faded s0) := by
  refine Triple.learn (resolveCapability_triple h) fun slot hresolved => ?_
  apply Triple.read
  refine check_known h fun _ => ?_
  apply Triple.update
  have hrevoked := revokeEndpoint_revoked slot h.sound h.counted
  have hdone : Faded s0 (revokeEndpoint slot s0) ∧ ∃ slot', s0.Resolved p handle ipcRightControl slot' ∧
      ((revokeEndpoint slot s0).endpoints slot').active = false :=
    ⟨hrevoked.faded h, slot, hresolved, hrevoked.inactive⟩
  split
  next => exact Triple.done hdone
  next k hk =>
    apply Triple.updated
    obtain ⟨huse, hhandle⟩ := processCapabilitySlot_some hk
    rw [setCapability_same]
    · exact hdone
    · rcases hrevoked.cleared.capability p k with hsame | hgone
      · have hsame' : ((revokeEndpoint slot s0).processes p).ipcCapabilities k =
            (s0.processes p).ipcCapabilities k := hsame
        have huse' : (((revokeEndpoint slot s0).processes p).ipcCapabilities k).inUse = true := by
          rw [hsame']
          exact huse
        rw [← hsame'] at hhandle
        exact absurd hhandle (revoke_unheld h hresolved hrevoked huse')
      · exact hgone

theorem cleanupEndpoint_faded (identity : IpcIdentity) (slot : IpcSlot) (h : IpcTables s) :
     Faded s (cleanupEndpoint identity s slot) ∧
    (((cleanupEndpoint identity s slot).endpoints slot).active = true →
      ((cleanupEndpoint identity s slot).endpoints slot).owner ≠ identity) := by
  unfold cleanupEndpoint
  split
  next =>
    have hrevoked := quarantineEndpoint_revoked slot h.sound h.counted
    refine ⟨hrevoked.faded h, fun hactive => ?_⟩
    exact absurd (hrevoked.inactive.symm.trans hactive) Bool.false_ne_true
  next =>
    split
    next =>
      have hrevoked := revokeEndpoint_revoked slot h.sound h.counted
      refine ⟨hrevoked.faded h, fun hactive => ?_⟩
      exact absurd (hrevoked.inactive.symm.trans hactive) Bool.false_ne_true
    next hother => exact ⟨Faded.refl h, fun hactive howner => hother ⟨hactive, howner⟩⟩

theorem cleanupEndpoints_faded (identity : IpcIdentity) (slots : List IpcSlot) (h : IpcTables s) :
    Faded s (slots.foldl (cleanupEndpoint identity) s) ∧ ∀ slot ∈ slots,
      ((slots.foldl (cleanupEndpoint identity) s).endpoints slot).active = true →
        ((slots.foldl (cleanupEndpoint identity) s).endpoints slot).owner ≠ identity := by
  induction slots generalizing s with
  | nil => exact ⟨Faded.refl h, by simp⟩
  | cons slot slots ih =>
    obtain ⟨hfaded, hclean⟩ := cleanupEndpoint_faded identity slot h
    obtain ⟨hrest, hclean'⟩ := ih hfaded.tables
    refine ⟨hfaded.trans hrest, fun other hother hactive => ?_⟩
    rcases List.mem_cons.mp hother with rfl | hother
    · rw [List.foldl_cons] at hactive ⊢
      rw [(frame_eq (hrest.frame hactive)).2.2]
      exact hclean (hrest.active hactive)
    · exact hclean' other hother hactive

/-- Nothing that can be read is left of a process that is gone. -/
structure IpcState.Cleaned (s : IpcState) (identity : IpcIdentity) : Prop where
  endpoint : ∀ slot, (s.endpoints slot).active = true → (s.endpoints slot).owner ≠ identity
  unheld : ∀ handle, s.Unheld handle identity

theorem ipcProcessCleanup_triple (h : IpcTables s0) :
    Triple (· = s0) (ipcProcessCleanup identity)
      (fun _ s => Faded s0 s ∧ (identity.live = true → s.Cleaned identity)) (fun _ _ => False) := by
  refine Triple.ite (fun hlive => ?_) fun _ => ?_
  · refine Triple.done ⟨Faded.refl h, fun hlive' => ?_⟩
    rw [hlive'] at hlive
    cases hlive
  · apply Triple.updated
    obtain ⟨hfaded, hclean⟩ := cleanupEndpoints_faded identity endpointSlots h
    obtain ⟨hkept, hcleared, hgone⟩ := sound_sweep (fun r => r.holderIdentity == identity)
      hfaded.tables.sound hfaded.tables.counted
    have hswept := hcleared.faded hfaded.tables hkept
    refine ⟨hfaded.trans hswept, fun _ => ⟨?_, ?_⟩⟩
    · intro slot hactive
      rw [(frame_eq (hswept.frame hactive)).2.2]
      exact hclean slot (List.mem_finRange slot) (hswept.active hactive)
    · intro handle i hi hintact _
      have hstay := hgone i (hswept.recordIntact i hintact) hi
      simpa using hstay

end ReistOs
