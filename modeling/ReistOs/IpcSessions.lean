import ReistOs.IpcDelivery

/-! What a change of the peer of an endpoint does with the messages that wait in it. -/

namespace ReistOs

open Attempt

section Validation

/-- `ipc_endpoint_validate_quiescent_owner`, which an owner may ask before it takes a new peer;
`false` is `IPC_EBUSY`. -/
def ipcEndpointValidateQuiescentOwner (owner : IpcIdentity) (handle : UInt32) : Ipc Bool := do
  refuse (!owner.live) .einval
  match decodeHandle handle with
  | none => fail .einval
  | some (slot, generation) => do
    let e ← endpointLoaded slot
    let s ← get
    (if s.bulkIntact slot then pure () else integrityLost slot)
    refuse (!e.active ∨ e.generation ≠ generation ∨ e.owner ≠ owner) .ebadf
    pure (e.peerCapabilities == 0 && e.count == 0 && !e.bulkActive)

variable {s : IpcState} {slot : IpcSlot} {owner : IpcIdentity} {p : IpcProcessSlot}
  {handle rights : UInt32}

theorem validated_box (htables : IpcTables s) (hresolved : s.Resolved p handle rights slot)
    (hok : (ipcEndpointValidateQuiescentOwner owner handle () 0 s).1 = .ok true) {b : IpcBox}
    (hb : b.endpoint = slot) : s.box b = [] := by
  have htriple : Triple (fun s' => s' = s) (ipcEndpointValidateQuiescentOwner owner handle)
      (fun idle _ => idle = true → ∃ slot' g, decodeHandle handle = some (slot', g) ∧
        (s.endpoints slot').count = 0 ∧ (s.endpoints slot').bulkActive = false)
      (fun _ _ => True) := by
    apply Triple.check (fun _ => trivial)
    intro _
    split
    next => exact Triple.failed trivial
    next slot' g hdecode =>
      have hloaded : Triple (fun s' => s' = s) (endpointLoaded slot')
          (fun e s' => s' = s ∧ e = s.endpoints slot' ∧ s.endpointIntact slot' = true)
          (fun _ _ => True) :=
        (endpointLoaded_triple htables).ends (fun _ _ hs => hs)
          fun _ _ _ => trivial
      refine Triple.learn hloaded fun e ⟨he, _⟩ => ?_
      apply Triple.read
      subst he
      refine Triple.bind (Q := fun _ s' => s' = s) ?_ fun _ => ?_
      · refine Triple.ite (fun _ => Triple.done rfl) fun _ => ?_
        exact (integrityLost_known (Faded.refl htables)).ends (fun _ _ hs => hs)
          fun _ _ _ => trivial
      · refine Triple.check (fun _ => trivial) fun _ => Triple.done fun hidle => ?_
        simp only [Bool.and_eq_true, beq_iff_eq, Bool.not_eq_true'] at hidle
        exact ⟨slot', g, hdecode, hidle.1.2, hidle.2⟩
  have hend := htriple () 0 s rfl
  rw [hok] at hend
  obtain ⟨slot', g, hdecode, hcount, hbulk⟩ := hend rfl
  obtain ⟨hhandle, -, hbound⟩ := decodeHandle_some hdecode
  obtain ⟨rfl, -⟩ := ipcMakeHandle_inj hbound (htables.sound.bounded slot)
    (hhandle.symm.trans hresolved.current)
  exact box_idle hcount hbulk hb

end Validation

variable {s s' : IpcState} {m m' : IpcMail} {call : IpcCall} {r : Except IpcError IpcReply}

theorem later_mail (h : m.Later m') : m.Later (s.mail s' m' call r) := by
  unfold IpcState.mail
  split
  next => exact h.send _ _ _
  next => exact h.send _ _ _
  next => exact h.send _ _ _
  next => exact h.send _ _ _
  next => exact h.take _ _ _ _
  next => exact h.take _ _ _ _
  next => exact h.take _ _ _ _
  next => exact h.discard _

theorem letters_later (s : IpcState) (calls later : List IpcCall) :
    (s.letters calls).2.Later (s.letters (calls ++ later)).2 := by
  induction later using List.reverseRecOn with
  | nil =>
    rw [List.append_nil]
    exact Mail.Later.refl _
  | append_singleton later call ih =>
    rw [← List.append_assoc, letters_concat]
    exact later_mail ih

def readAfter (calls later : List IpcCall) : List (Delivery IpcIdentity IpcContent) :=
  (ipcInit.letters (calls ++ later)).2.delivered.drop (ipcInit.letters calls).2.delivered.length

/-- The delivery is of a message of this endpoint that was sent before the calls were over. -/
def SentBefore (calls : List IpcCall) (slot : IpcSlot) (d : Delivery IpcIdentity IpcContent) : Prop :=
  ∃ post, (ipcInit.letters calls).2.sent[d.index]? = some post ∧ post.box.endpoint = slot

instance (calls : List IpcCall) (slot : IpcSlot) (d : Delivery IpcIdentity IpcContent) :
    Decidable (SentBefore calls slot d) :=
  decidable_of_iff
    (((ipcInit.letters calls).2.sent[d.index]?).any (fun post => post.box.endpoint = slot)) (by
      unfold SentBefore
      cases (ipcInit.letters calls).2.sent[d.index]? with
      | none => simp
      | some post => simp)

/-- What an endpoint is read for once it has a new peer: of the old messages only those that waited
at that moment, and none if its owner could have validated it. -/
structure PeerChange (calls : List IpcCall) (owner : IpcIdentity) (handle : UInt32) (slot : IpcSlot)
    (later : List IpcCall) : Prop where
  waited : ∀ d ∈ readAfter calls later, SentBefore calls slot d →
    ∃ b : IpcBox, b.endpoint = slot ∧ d.index ∈ (ipcInit.letters calls).2.waiting b
  validated : (ipcEndpointValidateQuiescentOwner owner handle () 0 (ipcInit.letters calls).1).1 =
    .ok true → ∀ d ∈ readAfter calls later, ¬ SentBefore calls slot d

theorem readAfter_waited {calls later : List IpcCall} {slot : IpcSlot}
    {d : Delivery IpcIdentity IpcContent} (hd : d ∈ readAfter calls later)
    (hsent : SentBefore calls slot d) :
    ∃ b : IpcBox, b.endpoint = slot ∧ d.index ∈ (ipcInit.letters calls).2.waiting b := by
  obtain ⟨-, hsound, -⟩ := letters_kept calls
  obtain ⟨post, hpost, hslot⟩ := hsent
  have hlt : d.index < (ipcInit.letters calls).2.sent.length :=
    (List.getElem?_eq_some_iff.mp hpost).1
  obtain ⟨read, hread, hold⟩ := (letters_later ipcInit calls later).delivered
  unfold readAfter at hd
  rw [hread, List.drop_left] at hd
  obtain ⟨b, hb⟩ := hold d hd hlt
  obtain ⟨post', hpost', hbox⟩ := hsound.boxed b _ hb
  rw [hpost] at hpost'
  obtain rfl := Option.some.inj hpost'
  exact ⟨b, by rw [← hbox, hslot], hb⟩

def thirdProcess : IpcProcessSlot := ⟨2, Nat.lt_of_lt_of_le (Nat.lt_succ_self 2) (by decide)⟩

/-- An endpoint with one owner and two more processes, of which the owner picks the first as peer. -/
def sessionStart : List IpcCall :=
  [.start firstProcess ⟨1, 1⟩, .start secondProcess ⟨2, 1⟩, .start thirdProcess ⟨3, 1⟩,
    .create firstProcess]

def sessionHandle : UInt32 := ipcMakeHandle firstEndpoint 1

end ReistOs
