import ReistOs.NetSocket
import ReistOs.SlotToken

namespace ReistOs

open NetSockets

/-! What callers saw of every socket from its open on. -/

structure NetSession where
  owner : NetOwner
  handle : UInt32
  port : UInt16
  accepted : List QueuedDatagram
  delivered : List (NetOwner × QueuedDatagram)
  closed : Bool

abbrev NetLedger := NetSlot → List NetSession

/-- The newest session of the slot that `handle` names. -/
def NetLedger.atHandle (l : NetLedger) (handle : UInt32) (f : NetSession → NetSession) :
    NetLedger :=
  fun k => if handleSlot handle = some k then (l k).modifyHead f else l k

/-- The newest session of every slot that is open and picked out. -/
def NetLedger.atOpen (l : NetLedger) (which : NetSession → Bool)
    (f : NetSession → NetSession) : NetLedger :=
  fun k => (l k).modifyHead fun t => if !t.closed && which t then f t else t

/-- The books are kept from the calls and their answers alone. -/
def NetLedger.record (l : NetLedger) (event : NetEvent) (answer : NetAnswer) : NetLedger :=
  match event, answer with
  | .opened owner _, .handle handle =>
    fun k => if handleSlot handle = some k then ⟨owner, handle, 0, [], [], false⟩ :: l k else l k
  | .bind _ handle port, .result result =>
    if result = 0 then l.atHandle handle ({ · with port := port }) else l
  | .close _ handle, .result result =>
    if result = 0 then l.atHandle handle ({ · with closed := true }) else l
  | .cleanup owner, _ => l.atOpen (·.owner == owner) ({ · with closed := true })
  | .ingress packet, .result result =>
    if result = 0 then
      l.atOpen (·.port == packet.destinationPort)
        fun t => { t with accepted := t.accepted ++ [packet.queued] }
    else l
  | .recvStep _ _ _, .received owner handle datagram =>
    l.atHandle handle fun t => { t with delivered := t.delivered ++ [(owner, datagram)] }
  | _, _ => l

structure NetRun where
  state : NetSockets
  ledger : NetLedger

def NetRun.step (r : NetRun) (event : NetEvent) : NetRun :=
  let (answer, state) := r.state.step event
  ⟨state, r.ledger.record event answer⟩

def netSocketStart : NetRun := ⟨netSocketInit, fun _ => []⟩

def netRun (events : List NetEvent) : NetRun := events.foldl NetRun.step netSocketStart

/-! Handles. -/

theorem makeHandle_slotToken (k : NetSlot) (generation : UInt32) :
    makeHandle k generation = slotToken k generation := by
  rw [makeHandle, slotToken, UInt32.ofNat_add]
  rfl

theorem handleSlot_makeHandle (k : NetSlot) (generation : UInt32) :
    handleSlot (makeHandle k generation) = some k := by
  have hmask := makeHandle_slotToken k generation ▸
    slotToken_lowByte (k.isLt.trans (by decide)) generation
  unfold handleSlot
  simp only [hmask]
  have hlt : (k : Nat) + 1 - 1 < netSocketMaxSockets := k.isLt
  rw [dif_pos hlt, if_neg (Nat.succ_ne_zero _)]
  rfl

theorem handle_generation (k : NetSlot) {generation : UInt32}
    (hg : generation.toNat < 0x1000000) : makeHandle k generation >>> 8 = generation := by
  rw [makeHandle_slotToken]
  exact slotToken_high (k.isLt.trans (by decide)) (UInt32.le_iff_toNat_le.mpr (Nat.le_of_lt_succ hg))

/-- The generation of a slot that was opened this many times. -/
def generationOf (opens : Nat) : Nat := if opens = 0 then 0 else (opens - 1) % 0xffffff + 1

theorem generationOf_lt (opens : Nat) : generationOf opens < 0x1000000 := by
  unfold generationOf
  split <;> omega

theorem nextGeneration_toNat {generation : UInt32} {opens : Nat}
    (h : generation.toNat = generationOf opens) :
    (NetSockets.nextGeneration generation).toNat = generationOf (opens + 1) := by
  have hlt := generationOf_lt opens
  have hsucc : (generation + 1).toNat = generation.toNat + 1 := by
    rw [UInt32.toNat_add]
    change (generation.toNat + 1) % 4294967296 = _
    omega
  have hone : generationOf (opens + 1) = opens % 0xffffff + 1 := by simp [generationOf]
  unfold nextGeneration
  dsimp only
  split
  next hwrap =>
    have hmax : 0xffffff ≤ generation.toNat := by
      rcases hwrap with hzero | hlarge
      · have hz := congrArg UInt32.toNat hzero
        rw [hsucc] at hz
        cases hz
      · have hl : 0xffffff < (generation + 1).toNat := hlarge
        omega
    have hfull : opens % 0xffffff = 0 := by
      rw [h] at hmax
      unfold generationOf at hmax
      split at hmax <;> omega
    rw [hone, hfull]
    rfl
  next hwrap =>
    have hsmall : generation.toNat + 1 ≤ 0xffffff := by
      by_contra hlarge
      have hl : (0x00ffffff : UInt32) < generation + 1 := by
        show 0xffffff < (generation + 1).toNat
        omega
      exact hwrap (.inr hl)
    rw [hsucc, hone, h]
    rw [h] at hsmall
    unfold generationOf at hsmall ⊢
    split
    next hz => rw [hz]
    next hz =>
      rw [if_neg hz] at hsmall
      omega

theorem generationOf_eq_iff (newer older : Nat) :
    generationOf (newer + (older + 1)) = generationOf (older + 1) ↔ 0xffffff ∣ newer := by
  have hl : generationOf (newer + (older + 1)) = (newer + older) % 0xffffff + 1 := by
    simp [generationOf]
  have hr : generationOf (older + 1) = older % 0xffffff + 1 := by simp [generationOf]
  rw [hl, hr]
  omega

/-! What the books say about the sockets. -/

/-- The sessions of a slot carry the handles of one open after the other. -/
def HandlesSound (k : NetSlot) : List NetSession → Prop
  | [] => True
  | t :: older =>
    t.handle = makeHandle k (UInt32.ofNat (generationOf (older.length + 1))) ∧ HandlesSound k older

/-- What was delivered is a first part of what was accepted, and went to the owner. -/
structure NetSession.Sound (t : NetSession) : Prop where
  owners : ∀ d ∈ t.delivered, d.1 = t.owner
  order : ∃ queued, t.accepted = t.delivered.map Prod.snd ++ queued

structure NetSession.Current (t : NetSession) (socket : UdpSocket) : Prop where
  open_ : t.closed = false
  owner : t.owner = socket.owner
  port : t.port = socket.localPort
  queued : t.accepted = t.delivered.map Prod.snd ++ socket.queue.toList

structure SlotSound (k : NetSlot) (socket : UdpSocket) (sessions : List NetSession) : Prop where
  generation : socket.generation.toNat = generationOf sessions.length
  handles : HandlesSound k sessions
  each : ∀ t ∈ sessions, t.Sound
  old : ∀ t ∈ sessions.tail, t.closed = true
  inactive : socket.active = false → ∀ t ∈ sessions, t.closed = true
  active : socket.active = true → ∃ t older, sessions = t :: older ∧ t.Current socket

def PortsDiffer (sockets : NetSlot → UdpSocket) : Prop :=
  ∀ k l, (sockets k).active = true → (sockets l).active = true → (sockets k).localPort ≠ 0 →
    (sockets k).localPort = (sockets l).localPort → k = l

structure NetSound (sockets : NetSlot → UdpSocket) (l : NetLedger) : Prop where
  slots : ∀ k, SlotSound k (sockets k) (l k)
  ports : PortsDiffer sockets

variable {k : NetSlot} {socket : UdpSocket} {sessions : List NetSession} {s : NetSockets}
  {l : NetLedger} {owner : NetOwner} {handle : UInt32}

section

variable (h : SlotSound k socket sessions)
include h

theorem SlotSound.waiters (waiters : List Nat) :
    SlotSound k { socket with receiveWaiters := waiters } sessions := by
  refine ⟨h.generation, h.handles, h.each, h.old, h.inactive, fun ha => ?_⟩
  obtain ⟨t, older, hs, hc⟩ := h.active ha
  exact ⟨t, older, hs, hc.open_, hc.owner, hc.port, hc.queued⟩

theorem SlotSound.change (ha : socket.active = true) {socket' : UdpSocket}
    {f : NetSession → NetSession} (hgeneration : socket'.generation = socket.generation)
    (hactive : socket'.active = true) (hhandle : ∀ t, (f t).handle = t.handle)
    (hsound : ∀ t, t.Current socket → t.Sound → (f t).Sound)
    (hcurrent : ∀ t, t.Current socket → (f t).Current socket') :
    SlotSound k socket' (sessions.modifyHead f) := by
  obtain ⟨t, older, rfl, hc⟩ := h.active ha
  have hall := h.each
  refine ⟨?_, ⟨?_, h.handles.2⟩, ?_, h.old, fun hi => ?_, fun _ => ⟨f t, older, rfl, hcurrent t hc⟩⟩
  · rw [hgeneration]
    exact h.generation
  · rw [hhandle]
    exact h.handles.1
  · intro u hu
    rcases List.mem_cons.mp hu with rfl | hu
    · exact hsound t hc (hall t List.mem_cons_self)
    · exact hall u (List.mem_cons_of_mem t hu)
  · rw [hactive] at hi
    cases hi

theorem SlotSound.opened (hi : socket.active = false) (owner : NetOwner) :
    SlotSound k
      { clearedSocket (NetSockets.nextGeneration socket.generation) with
        active := true, owner := owner }
      (⟨owner, makeHandle k (NetSockets.nextGeneration socket.generation), 0, [], [], false⟩ ::
        sessions) := by
  have hg := nextGeneration_toNat h.generation
  have hnext : nextGeneration socket.generation =
      UInt32.ofNat (generationOf (sessions.length + 1)) := by
    rw [← hg, UInt32.ofNat_toNat]
  refine ⟨hg, ⟨?_, h.handles⟩, ?_, h.inactive hi, fun ha => absurd ha (by simp), fun _ => ?_⟩
  · rw [hnext]
  · intro t ht
    rcases List.mem_cons.mp ht with rfl | ht
    · exact ⟨fun d hd => absurd hd List.not_mem_nil, [], rfl⟩
    · exact h.each t ht
  · exact ⟨_, sessions, rfl, rfl, rfl, rfl, rfl⟩

theorem SlotSound.cleared (ha : socket.active = true) :
    SlotSound k (clearedSocket socket.generation)
      (sessions.modifyHead ({ · with closed := true })) := by
  obtain ⟨t, older, rfl, hc⟩ := h.active ha
  have hall := h.each
  have hclosed : ∀ u ∈ ({ t with closed := true } : NetSession) :: older, u.closed = true := by
    intro u hu
    rcases List.mem_cons.mp hu with rfl | hu
    · rfl
    · exact h.old u hu
  refine ⟨h.generation, h.handles, ?_, h.old, fun _ => hclosed, fun hf => absurd hf Bool.false_ne_true⟩
  intro u hu
  rcases List.mem_cons.mp hu with rfl | hu
  · have ht := hall t List.mem_cons_self
    exact ⟨ht.owners, ht.order⟩
  · exact hall u (List.mem_cons_of_mem t hu)

theorem modifyHead_atOpen (which : NetSession → Bool) (f : NetSession → NetSession)
    (hwhich : socket.active = true → ∀ t, t.Current socket → which t = false) :
    (sessions.modifyHead fun t => if !t.closed && which t then f t else t) = sessions := by
  cases sessions with
  | nil => rfl
  | cons t older =>
    have hsame : (!t.closed && which t) = false := by
      cases ha : socket.active with
      | false => simp [h.inactive ha t List.mem_cons_self]
      | true =>
        obtain ⟨u, older', hu, hc⟩ := h.active ha
        cases hu
        simp [hwhich ha t hc]
    simp only [List.modifyHead_cons, hsame]
    rfl

theorem modifyHead_atOpen_of (ha : socket.active = true) (which : NetSession → Bool)
    (f : NetSession → NetSession) (hwhich : ∀ t, t.Current socket → which t = true) :
    (sessions.modifyHead fun t => if !t.closed && which t then f t else t) =
      sessions.modifyHead f := by
  obtain ⟨t, older, rfl, hc⟩ := h.active ha
  simp [hc.open_, hwhich t hc]

end

theorem atHandle_eq (hslot : handleSlot handle = some k) (f : NetSession → NetSession) :
    l.atHandle handle f = Function.update l k ((l k).modifyHead f) := by
  funext j
  by_cases hj : j = k
  · subst hj
    simp [NetLedger.atHandle, hslot]
  · have hne : handleSlot handle ≠ some j := by
      rw [hslot]
      exact fun he => hj (Option.some.inj he).symm
    simp [NetLedger.atHandle, hne, hj]

theorem NetSound.update (h : NetSound s.sockets l)
    (hslot : SlotSound k socket sessions)
    (hports : socket.active = true → socket.localPort ≠ 0 → ∀ j, j ≠ k →
      (s.sockets j).active = true → (s.sockets j).localPort ≠ socket.localPort) :
    NetSound (Function.update s.sockets k socket) (Function.update l k sessions) := by
  refine ⟨fun j => ?_, fun i j hi hj hne he => ?_⟩
  · by_cases hj : j = k
    · subst hj
      simpa using hslot
    · simpa [hj] using h.slots j
  · by_cases hik : i = k
    · by_cases hjk : j = k
      · rw [hik, hjk]
      · subst hik
        rw [Function.update_self] at hi hne he
        rw [Function.update_of_ne hjk] at hj he
        exact absurd he.symm (hports hi hne j hjk hj)
    · by_cases hjk : j = k
      · subst hjk
        rw [Function.update_self] at hj he
        rw [Function.update_of_ne hik] at hi hne he
        exact absurd he (hports hj (he ▸ hne) i hik hi)
      · rw [Function.update_of_ne hik] at hi hne he
        rw [Function.update_of_ne hjk] at hj he
        exact h.ports i j hi hj hne he

theorem NetSound.updateSame (h : NetSound s.sockets l) (hslot : SlotSound k socket sessions)
    (ha : socket.active = true → (s.sockets k).active = true)
    (hp : socket.active = true → socket.localPort = (s.sockets k).localPort) :
    NetSound (Function.update s.sockets k socket) (Function.update l k sessions) := by
  refine h.update hslot fun hact hne j hjk hj he => ?_
  rw [hp hact] at hne he
  exact hjk (h.ports k j (ha hact) hj hne he.symm).symm

theorem resolve_spec (h : s.resolve owner handle = some k) :
    handleSlot handle = some k ∧ (s.sockets k).active = true ∧
      (s.sockets k).generation = handle >>> 8 ∧ (s.sockets k).owner = owner := by
  unfold resolve at h
  split at h
  next => cases h
  next slot hs =>
    dsimp only at h
    split at h
    next => cases h
    next =>
      split at h
      next => cases h
      next hcond =>
        have hk : slot = k := Option.some.inj h
        subst hk
        have hcond' : ((s.sockets slot).active = true ∧
            (s.sockets slot).generation = handle >>> 8) ∧ (s.sockets slot).owner = owner := by
          simpa using hcond
        exact ⟨hs, hcond'.1.1, hcond'.1.2, hcond'.2⟩

theorem resolve_of (hslot : handleSlot handle = some k) (hne : handle >>> 8 ≠ 0)
    (ha : (s.sockets k).active = true) (hg : (s.sockets k).generation = handle >>> 8)
    (ho : (s.sockets k).owner = owner) : s.resolve owner handle = some k := by
  simp [resolve, hslot, hne, ha, hg, ho]

end ReistOs
