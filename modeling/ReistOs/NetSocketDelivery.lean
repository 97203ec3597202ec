import ReistOs.NetSocketSessions

namespace ReistOs

open NetSockets NetLedger

section Steps

variable {s : NetSockets} {l : NetLedger} {k : NetSlot} {owner : NetOwner} {handle : UInt32}

@[simp] theorem setPhase_sockets (id : Nat) (phase : RecvPhase) :
    (s.setPhase id phase).sockets = s.sockets := rfl

@[simp] theorem setSocket_sockets (socket : UdpSocket) :
    (s.setSocket k socket).sockets = Function.update s.sockets k socket := rfl

theorem wakeAll_sockets (waiters : List Nat) : (s.wakeAll waiters).sockets = s.sockets := by
  induction waiters generalizing s with
  | nil => rfl
  | cons id waiters ih => exact ih

theorem firstSlot_some {found : UdpSocket → Bool} (h : s.firstSlot found = some k) :
    found (s.sockets k) = true := by
  have hfound := List.find?_some h
  exact hfound

theorem NetSound.waiters (h : NetSound s.sockets l) (waiters : List Nat) :
    NetSound (Function.update s.sockets k { s.sockets k with receiveWaiters := waiters }) l := by
  have hslot := (h.slots k).waiters waiters
  have hs := h.updateSame hslot id (fun _ => rfl)
  rwa [Function.update_eq_self] at hs

theorem netSocketOpen_sound (h : NetSound s.sockets l) (owner : NetOwner) (handleOut : Bool) :
    NetSound (s.step (.opened owner handleOut)).2.sockets
      (l.record (.opened owner handleOut) (s.step (.opened owner handleOut)).1) := by
  simp only [step, netSocketOpen]
  split
  next => exact h
  next =>
    split
    next => exact h
    next slot hslot =>
      have hi : (s.sockets slot).active = false := by simpa using firstSlot_some hslot
      have hopened := (h.slots slot).opened hi owner
      have hs := h.update hopened fun _ hne => absurd rfl hne
      have hl : l.record (.opened owner handleOut)
          (.handle (makeHandle slot (nextGeneration (s.sockets slot).generation))) =
          Function.update l slot (⟨owner, makeHandle slot
            (nextGeneration (s.sockets slot).generation), 0, [], [], false⟩ :: l slot) := by
        funext j
        by_cases hj : j = slot
        · subst hj
          simp [record, handleSlot_makeHandle]
        · have hne : slot ≠ j := fun e => hj e.symm
          simp [record, handleSlot_makeHandle, hj, hne]
      simp only [if_true, setSocket_sockets]
      rw [hl]
      exact hs

theorem netSocketBind_sound (h : NetSound s.sockets l) (owner : NetOwner) (handle : UInt32)
    (port : UInt16) :
    NetSound (s.step (.bind owner handle port)).2.sockets
      (l.record (.bind owner handle port) (s.step (.bind owner handle port)).1) := by
  simp only [step, netSocketBind]
  split
  next => exact h
  next =>
    split
    next => exact h
    next slot hresolve =>
      obtain ⟨hslot, ha, -, -⟩ := resolve_spec hresolve
      split
      next => exact h
      next hother =>
        split
        next => exact h
        next =>
          have hfree : ∀ j, j ≠ slot → (s.sockets j).active = true →
              (s.sockets j).localPort ≠ port := by
            intro j hj hactive he
            exact hother ⟨j, hj, hactive, he⟩
          have hchanged : SlotSound slot { s.sockets slot with localPort := port }
              ((l slot).modifyHead ({ · with port := port })) :=
            (h.slots slot).change ha rfl ha (fun _ => rfl)
              (fun t _ ht => ⟨ht.owners, ht.order⟩)
              (fun t ht => ⟨ht.open_, ht.owner, rfl, ht.queued⟩)
          have hs := h.update hchanged fun _ _ j hj hactive => hfree j hj hactive
          simp only [record, if_true]
          rw [atHandle_eq hslot]
          exact hs

theorem closeSocket_slot (h : NetSound s.sockets l) (ha : (s.sockets k).active = true) :
    NetSound (s.closeSocket k).sockets
      (Function.update l k ((l k).modifyHead ({ · with closed := true }))) := by
  have hcleared := (h.slots k).cleared ha
  have hs := h.updateSame hcleared (fun _ => ha) (fun hf => absurd hf Bool.false_ne_true)
  simp only [closeSocket, setSocket_sockets, wakeAll_sockets]
  exact hs

theorem netSocketClose_sound (h : NetSound s.sockets l) (owner : NetOwner) (handle : UInt32) :
    NetSound (s.step (.close owner handle)).2.sockets
      (l.record (.close owner handle) (s.step (.close owner handle)).1) := by
  simp only [step, netSocketClose]
  split
  next => exact h
  next slot hresolve =>
    obtain ⟨hslot, ha, -, -⟩ := resolve_spec hresolve
    have hs := closeSocket_slot h ha
    simp only [record, if_true]
    rw [atHandle_eq hslot]
    exact hs

def cleanedSocket (owner : NetOwner) (socket : UdpSocket) : UdpSocket :=
  if socket.active && socket.owner == owner then clearedSocket socket.generation else socket

theorem cleanedSocket_idem (owner : NetOwner) (socket : UdpSocket) :
    cleanedSocket owner (cleanedSocket owner socket) = cleanedSocket owner socket := by
  by_cases hcond : (socket.active && socket.owner == owner) = true
  · simp [cleanedSocket, hcond, clearedSocket]
  · simp [cleanedSocket, hcond]

theorem cleanup_sockets (owner : NetOwner) (slots : List NetSlot) (k : NetSlot) :
    (slots.foldl (fun s slot => if (s.sockets slot).active && (s.sockets slot).owner == owner then
      s.closeSocket slot else s) s).sockets k =
    if k ∈ slots then cleanedSocket owner (s.sockets k) else s.sockets k := by
  induction slots generalizing s with
  | nil => simp
  | cons slot slots ih =>
    rw [List.foldl_cons, ih]
    have hstep : (if (s.sockets slot).active && (s.sockets slot).owner == owner then
        s.closeSocket slot else s).sockets =
        Function.update s.sockets slot (cleanedSocket owner (s.sockets slot)) := by
      split
      next hc => simp [closeSocket, wakeAll_sockets, cleanedSocket, hc]
      next hc => simp [cleanedSocket, hc]
    rw [hstep]
    by_cases hk : k = slot
    · subst hk
      rw [Function.update_self, cleanedSocket_idem]
      simp
    · rw [Function.update_of_ne hk]
      simp [hk]

theorem netSocketProcessCleanup_sockets (owner : NetOwner) (k : NetSlot) :
    (s.netSocketProcessCleanup owner).sockets k = cleanedSocket owner (s.sockets k) := by
  unfold netSocketProcessCleanup
  rw [cleanup_sockets, if_pos (List.mem_finRange k)]

theorem cleanedSocket_active {socket : UdpSocket} (h : (cleanedSocket owner socket).active = true) :
    cleanedSocket owner socket = socket := by
  unfold cleanedSocket at h ⊢
  split at h
  next => cases h
  next hc => simp [hc]

theorem netSocketProcessCleanup_sound (h : NetSound s.sockets l) (owner : NetOwner) :
    NetSound (s.step (.cleanup owner)).2.sockets
      (l.record (.cleanup owner) (s.step (.cleanup owner)).1) := by
  have hsockets : (s.netSocketProcessCleanup owner).sockets =
      fun k => cleanedSocket owner (s.sockets k) :=
    funext fun k => netSocketProcessCleanup_sockets owner k
  simp only [step, hsockets]
  refine ⟨fun k => ?_, fun i j hi hj hne he => ?_⟩
  · simp only [record, atOpen]
    have hk := h.slots k
    by_cases hc : (s.sockets k).active = true ∧ (s.sockets k).owner = owner
    · have hpicked : ∀ t : NetSession, t.Current (s.sockets k) → (t.owner == owner) = true := by
        intro t ht
        simp [ht.owner, hc.2]
      rw [modifyHead_atOpen_of hk hc.1 _ _ hpicked]
      have hcleaned : cleanedSocket owner (s.sockets k) =
          clearedSocket (s.sockets k).generation := by
        simp [cleanedSocket, hc.1, hc.2]
      rw [hcleaned]
      exact hk.cleared hc.1
    · have hpassed : (s.sockets k).active = true → ∀ t : NetSession,
          t.Current (s.sockets k) → (t.owner == owner) = false := by
        intro ha t ht
        have hne : t.owner ≠ owner := fun e => hc ⟨ha, ht.owner ▸ e⟩
        simpa using hne
      rw [modifyHead_atOpen hk _ _ hpassed]
      have hcleaned : cleanedSocket owner (s.sockets k) = s.sockets k := by
        have hcond : ¬ ((s.sockets k).active && (s.sockets k).owner == owner) = true := by
          simpa using hc
        simp [cleanedSocket, hcond]
      rw [hcleaned]
      exact hk
  · have hi' := cleanedSocket_active hi
    have hj' := cleanedSocket_active hj
    rw [hi'] at hi hne he
    rw [hj'] at hj he
    exact h.ports i j hi hj hne he

theorem wakeOne_sound (h : NetSound s.sockets l) (k : NetSlot) :
    NetSound (s.wakeOne k).sockets l := by
  unfold wakeOne
  dsimp only
  split
  next => exact h
  next id rest hw => exact h.waiters rest

theorem netSocketIngress_sound (h : NetSound s.sockets l) (packet : NetPacket) :
    NetSound (s.step (.ingress packet)).2.sockets
      (l.record (.ingress packet) (s.step (.ingress packet)).1) := by
  simp only [step, netSocketIngress]
  split
  next => exact h
  next hvalid =>
    split
    next => exact h
    next slot hslot =>
      have hfound : (s.sockets slot).active = true ∧
          (s.sockets slot).localPort = packet.destinationPort := by
        simpa using firstSlot_some hslot
      have hport : packet.destinationPort ≠ 0 := fun e => hvalid (.inr (.inr (.inl e)))
      split
      next room =>
        have hchanged : SlotSound slot
            { s.sockets slot with queue := (s.sockets slot).queue.push packet.queued room }
            ((l slot).modifyHead fun t => { t with accepted := t.accepted ++ [packet.queued] }) := by
          refine (h.slots slot).change hfound.1 rfl hfound.1 (fun _ => rfl) ?_ ?_
          · intro t ht hs
            obtain ⟨queued, hq⟩ := hs.order
            refine ⟨hs.owners, queued ++ [packet.queued], ?_⟩
            rw [hq, List.append_assoc]
          · intro t ht
            refine ⟨ht.open_, ht.owner, ht.port, ?_⟩
            rw [RingQueue.toList_push, ht.queued, List.append_assoc]
        have hs := h.updateSame hchanged id (fun _ => rfl)
        have hl : l.record (.ingress packet) (.result 0) =
            Function.update l slot ((l slot).modifyHead fun t =>
              { t with accepted := t.accepted ++ [packet.queued] }) := by
          funext j
          simp only [record, if_true, atOpen]
          by_cases hj : j = slot
          · subst hj
            have hpicked : ∀ t : NetSession, t.Current (s.sockets j) →
                (t.port == packet.destinationPort) = true := by
              intro t ht
              simp [ht.port, hfound.2]
            rw [Function.update_self, modifyHead_atOpen_of (h.slots j) hfound.1 _ _ hpicked]
          · have hpassed : (s.sockets j).active = true → ∀ t : NetSession,
                t.Current (s.sockets j) → (t.port == packet.destinationPort) = false := by
              intro ha t ht
              have hne : t.port ≠ packet.destinationPort := by
                intro e
                have hjport : (s.sockets j).localPort = packet.destinationPort := ht.port ▸ e
                have hsame := h.ports j slot ha hfound.1 (hjport ▸ hport)
                  (hjport.trans hfound.2.symm)
                exact hj hsame
              simpa using hne
            rw [Function.update_of_ne hj, modifyHead_atOpen (h.slots j) _ _ hpassed]
        rw [hl]
        exact wakeOne_sound hs slot
      next => exact h

/-- A pass of a call delivers the front of its socket's queue, or leaves every queue as it
is. -/
inductive RecvEffect (s : NetSockets) (l : NetLedger) (call : RecvCall) :
    RecvAnswer × NetSockets → Prop
  | received (slot : NetSlot) (queued : QueuedDatagram) (s' : NetSockets)
      (resolved : s.resolve call.owner call.handle = some slot)
      (sockets : s'.sockets = Function.update s.sockets slot
        { s.sockets slot with queue := (s.sockets slot).queue.pop })
      (front : (s.sockets slot).queue.toList = queued :: (s.sockets slot).queue.pop.toList) :
      RecvEffect s l call (.received queued, s')
  | kept (answer : RecvAnswer) (s' : NetSockets) (none : ∀ queued, answer ≠ .received queued)
      (sound : NetSound s'.sockets l)
      (queues : ∀ k, (s'.sockets k).queue = (s.sockets k).queue) :
      RecvEffect s l call (answer, s')

theorem RecvEffect.returned {call : RecvCall} (h : NetSound s.sockets l) (id : Nat)
    (result : Int) : RecvEffect s l call (.returned result, s.endCall id) :=
  .kept _ _ (fun _ hf => by cases hf) h fun _ => rfl

theorem recvPass_effect (h : NetSound s.sockets l) (id : Nat) (call : RecvCall) (now : UInt64)
    (blocks : Bool) : RecvEffect s l call (s.recvPass id call now blocks) := by
  unfold recvPass
  split
  next => exact .returned h id (-9)
  next slot hslot =>
    dsimp only
    split
    next =>
      split
      next => exact .returned h id (-11)
      next =>
        split
        next => exact .returned h id (-110)
        next =>
          split
          next => exact .returned h id (-11)
          next =>
            refine .kept _ _ (fun _ hf => by cases hf) (h.waiters _) fun k => ?_
            by_cases hk : k = slot
            · subst hk
              simp
            · simp [hk]
    next hcount =>
      split
      next => exact .returned h id (-90)
      next => exact .received slot _ _ hslot rfl (RingQueue.toList_pop _ hcount)

theorem recvStep_effect (h : NetSound s.sockets l) (id : Nat) (now : UInt64) (blocks : Bool) :
    (s.recvStep id now blocks = (.waits, s)) ∨
    ∃ call, s.calls id = some call ∧ RecvEffect s l call (s.recvStep id now blocks) := by
  unfold recvStep
  split
  next => exact .inl rfl
  next call hcall =>
    have hpass := recvPass_effect h id call now blocks
    split
    next => exact .inr ⟨call, hcall, hpass⟩
    next => exact .inl rfl
    next =>
      split
      next => exact .inr ⟨call, hcall, .returned h id (-110)⟩
      next =>
        split
        next => exact .inr ⟨call, hcall, .returned h id (-11)⟩
        next => exact .inr ⟨call, hcall, hpass⟩

variable {id : Nat} {newer older : List NetSession} {t : NetSession} {now : UInt64} {blocks : Bool}

theorem RecvEffect.recorded {call : RecvCall} {out : RecvAnswer × NetSockets}
    (heffect : RecvEffect s l call out) (h : NetSound s.sockets l) (hcall : s.calls id = some call)
    (now : UInt64) (blocks : Bool) :
    NetSound out.2.sockets (l.record (.recvStep id now blocks) (s.answered id out.1)) := by
  cases heffect with
  | received slot queued s' resolved sockets front =>
    obtain ⟨hslot, ha, -, howner⟩ := resolve_spec resolved
    have hchanged : SlotSound slot
        { s.sockets slot with queue := (s.sockets slot).queue.pop }
        ((l slot).modifyHead fun t =>
          { t with delivered := t.delivered ++ [(call.owner, queued)] }) := by
      refine (h.slots slot).change ha rfl ha (fun _ => rfl) ?_ ?_
      · intro t ht hs
        refine ⟨fun d hd => ?_, (s.sockets slot).queue.pop.toList, ?_⟩
        · rcases List.mem_append.mp hd with hd | hd
          · exact hs.owners d hd
          · rw [List.mem_singleton] at hd
            rw [hd, ht.owner, howner]
        · rw [ht.queued, front, List.map_append, List.append_assoc]
          rfl
      · intro t ht
        refine ⟨ht.open_, ht.owner, ht.port, ?_⟩
        rw [ht.queued, front, List.map_append, List.append_assoc]
        rfl
    have hs := h.updateSame hchanged (fun _ => ha) (fun _ => rfl)
    simp only [answered, hcall, record, sockets]
    rw [atHandle_eq hslot]
    exact hs
  | kept answer s' none sound queues =>
    have hrecord : l.record (.recvStep id now blocks) (s.answered id answer) = l := by
      cases answer with
      | returned result => rfl
      | received queued => exact absurd rfl (none queued)
      | waits => rfl
    rw [hrecord]
    exact sound

theorem recvStep_sound (h : NetSound s.sockets l) (id : Nat) (now : UInt64) (blocks : Bool) :
    NetSound (s.step (.recvStep id now blocks)).2.sockets
      (l.record (.recvStep id now blocks) (s.step (.recvStep id now blocks)).1) := by
  rcases recvStep_effect h id now blocks with hwaits | ⟨call, hcall, heffect⟩
  · simp only [step, hwaits]
    exact h
  · exact heffect.recorded h hcall now blocks

theorem leaveQueue_sound (h : NetSound s.sockets l) (id : Nat) :
    NetSound (s.leaveQueue id).sockets l := by
  unfold leaveQueue
  split
  next => exact h
  next call _ =>
    split
    next => exact h
    next => exact h
    next slot _ => exact h.waiters _

theorem recvExpire_sound (h : NetSound s.sockets l) (id : Nat) (result : Int) :
    NetSound (s.recvExpire id result).sockets l := by
  unfold recvExpire
  split
  next => exact h
  next =>
    split
    next => exact h
    next => exact h
    next => exact leaveQueue_sound h id

theorem netSocketRecvfrom_sockets (id : Nat) (owner : NetOwner) (handle : UInt32)
    (datagramOut dataOut : Bool) (capacity timeoutMs : UInt32) (now : UInt64) :
    (s.netSocketRecvfrom id owner handle datagramOut dataOut capacity timeoutMs now).2.sockets =
      s.sockets := by
  unfold netSocketRecvfrom
  split <;> rfl

theorem netStep_sound (h : NetSound s.sockets l) (event : NetEvent) :
    NetSound (s.step event).2.sockets (l.record event (s.step event).1) := by
  cases event with
  | opened owner handleOut => exact netSocketOpen_sound h owner handleOut
  | bind owner handle port => exact netSocketBind_sound h owner handle port
  | close owner handle => exact netSocketClose_sound h owner handle
  | cleanup owner => exact netSocketProcessCleanup_sound h owner
  | ingress packet => exact netSocketIngress_sound h packet
  | recvfrom id owner handle datagramOut dataOut capacity timeoutMs now =>
    simp only [step]
    split
    next => exact h
    next =>
      simp only [record]
      rw [netSocketRecvfrom_sockets]
      exact h
  | recvStep id now blocks => exact recvStep_sound h id now blocks
  | recvExpire id result => exact recvExpire_sound h id result
  | recvKill id => exact leaveQueue_sound h id

theorem netSocketStart_sound : NetSound netSocketStart.state.sockets netSocketStart.ledger := by
  refine ⟨fun k => ⟨rfl, trivial, fun t ht => absurd ht List.not_mem_nil,
    fun t ht => absurd ht List.not_mem_nil, fun _ t ht => absurd ht List.not_mem_nil,
    fun ha => absurd ha Bool.false_ne_true⟩, fun i j hi => absurd hi Bool.false_ne_true⟩

theorem netRun_snoc (events : List NetEvent) (event : NetEvent) :
    netRun (events ++ [event]) = (netRun events).step event := by
  simp [netRun, List.foldl_append]

theorem netRun_sound (events : List NetEvent) :
    NetSound (netRun events).state.sockets (netRun events).ledger := by
  induction events using List.reverseRecOn with
  | nil => exact netSocketStart_sound
  | append_singleton events event ih =>
    rw [netRun_snoc]
    exact netStep_sound ih event

theorem HandlesSound.handle_of (h : HandlesSound k (newer ++ t :: older)) :
    t.handle = makeHandle k (UInt32.ofNat (generationOf (older.length + 1))) := by
  induction newer with
  | nil => exact h.1
  | cons u newer ih => exact ih h.2

theorem sessionGeneration_toNat (opens : Nat) :
    (UInt32.ofNat (generationOf opens)).toNat = generationOf opens := by
  have hlt := generationOf_lt opens
  rw [UInt32.toNat_ofNat']
  omega

theorem session_handle {handle : UInt32} {k : NetSlot} {opens : Nat}
    (h : handle = makeHandle k (UInt32.ofNat (generationOf (opens + 1)))) :
    handleSlot handle = some k ∧ handle >>> 8 = UInt32.ofNat (generationOf (opens + 1)) ∧
      handle >>> 8 ≠ 0 := by
  have hnat := sessionGeneration_toNat (opens + 1)
  have hshift : handle >>> 8 = UInt32.ofNat (generationOf (opens + 1)) := by
    rw [h]
    apply handle_generation
    rw [hnat]
    exact generationOf_lt _
  refine ⟨?_, hshift, ?_⟩
  · rw [h]
    exact handleSlot_makeHandle k _
  · rw [hshift]
    intro hz
    have hz' := congrArg UInt32.toNat hz
    rw [hnat] at hz'
    simp [generationOf] at hz'

/-- The handle of a closed session resolves when its slot was since opened a multiple of 0xffff
times, and the last of these sockets is open and belongs to the caller. -/
theorem resolve_closed_iff (h : NetSound s.sockets l) (hl : l k = newer ++ t :: older)
    (hclosed : t.closed = true) (owner : NetOwner) (j : NetSlot) :
    s.resolve owner t.handle = some j ↔ j = k ∧ 0xffffff ∣ newer.length ∧
      ∃ current rest, newer = current :: rest ∧ current.closed = false ∧
        current.owner = owner := by
  have hk := h.slots k
  rw [hl] at hk
  obtain ⟨hslot, hshift, hne⟩ := session_handle hk.handles.handle_of
  have hgeneration : (s.sockets k).generation = t.handle >>> 8 ↔ 0xffffff ∣ newer.length := by
    rw [hshift, ← UInt32.toNat_inj, sessionGeneration_toNat, hk.generation, List.length_append, List.length_cons]
    exact generationOf_eq_iff _ _
  constructor
  · intro hr
    obtain ⟨hj, ha, hg, ho⟩ := resolve_spec hr
    have hjk : j = k := Option.some.inj (hj.symm.trans hslot)
    subst hjk
    obtain ⟨current, rest, hs, hc⟩ := hk.active ha
    cases newer with
    | nil =>
      cases hs
      rw [hc.open_] at hclosed
      cases hclosed
    | cons u newer =>
      cases hs
      exact ⟨rfl, hgeneration.mp hg, current, newer, rfl, hc.open_, hc.owner.trans ho⟩
  · rintro ⟨rfl, hdvd, current, rest, rfl, hopen, howner⟩
    have ha : (s.sockets j).active = true := by
      cases hact : (s.sockets j).active with
      | true => rfl
      | false =>
        have hc := hk.inactive hact current (by simp)
        rw [hopen] at hc
        cases hc
    obtain ⟨u, older', hs, hc⟩ := hk.active ha
    cases hs
    exact resolve_of hslot hne ha (hgeneration.mpr hdvd) (hc.owner.symm.trans howner)

theorem resolve_open_iff (h : NetSound s.sockets l) (hl : l k = t :: older)
    (hopen : t.closed = false) (owner : NetOwner) :
    s.resolve owner t.handle = some k ↔ t.owner = owner := by
  have hk := h.slots k
  rw [hl] at hk
  have ha : (s.sockets k).active = true := by
    cases hact : (s.sockets k).active with
    | true => rfl
    | false =>
      have hc := hk.inactive hact t List.mem_cons_self
      rw [hopen] at hc
      cases hc
  obtain ⟨u, older', hs, hc⟩ := hk.active ha
  cases hs
  obtain ⟨hslot, hshift, hne⟩ := session_handle hk.handles.1
  have hg : (s.sockets k).generation = t.handle >>> 8 := by
    rw [hshift, ← UInt32.toNat_inj, sessionGeneration_toNat, hk.generation, List.length_cons]
  constructor
  · intro hr
    obtain ⟨-, -, -, ho⟩ := resolve_spec hr
    exact hc.owner.trans ho
  · intro ho
    exact resolve_of hslot hne ha hg (hc.owner.symm.trans ho)

theorem ingress_accepted (h : NetSound s.sockets l) {packet : NetPacket}
    (hanswer : (s.netSocketIngress packet).1 = 0) :
    ∃ k t older, l k = t :: older ∧ t.closed = false ∧ t.port = packet.destinationPort ∧
      ∀ j u rest, l j = u :: rest → u.closed = false → u.port = packet.destinationPort →
        j = k := by
  unfold netSocketIngress at hanswer
  split at hanswer
  next => simp at hanswer
  next hvalid =>
    split at hanswer
    next => simp at hanswer
    next slot hslot =>
      have hfound : (s.sockets slot).active = true ∧
          (s.sockets slot).localPort = packet.destinationPort := by
        simpa using firstSlot_some hslot
      have hport : packet.destinationPort ≠ 0 := fun e => hvalid (.inr (.inr (.inl e)))
      obtain ⟨t, older, hl, hc⟩ := (h.slots slot).active hfound.1
      refine ⟨slot, t, older, hl, hc.open_, hc.port.trans hfound.2, fun j u rest hj hu hp => ?_⟩
      have ha : (s.sockets j).active = true := by
        cases hact : (s.sockets j).active with
        | true => rfl
        | false =>
          have hclosed := (h.slots j).inactive hact u (by simp [hj])
          rw [hu] at hclosed
          cases hclosed
      obtain ⟨v, rest', hv, hcv⟩ := (h.slots j).active ha
      have huv : u = v := by
        rw [hj] at hv
        exact (List.cons.inj hv).1
      have hjport : (s.sockets j).localPort = packet.destinationPort := by
        rw [← hcv.port, ← huv, hp]
      exact h.ports j slot ha hfound.1 (hjport ▸ hport) (hjport.trans hfound.2.symm)

theorem recvStep_received (h : NetSound s.sockets l) {owner : NetOwner} {handle : UInt32}
    {datagram : QueuedDatagram}
    (hanswer : (s.step (.recvStep id now blocks)).1 = .received owner handle datagram) :
    ∃ k t older rest, handleSlot handle = some k ∧ l k = t :: older ∧ t.closed = false ∧
      t.owner = owner ∧ (s.sockets k).queue.toList = datagram :: rest := by
  simp only [step] at hanswer
  rcases recvStep_effect h id now blocks with hwaits | ⟨call, hcall, heffect⟩
  · rw [hwaits] at hanswer
    cases hanswer
  · cases hout : s.recvStep id now blocks with
    | mk answer s' =>
      rw [hout] at hanswer heffect
      cases heffect with
      | received slot queued s' resolved sockets front =>
        simp only [answered, hcall, NetAnswer.received.injEq] at hanswer
        obtain ⟨ho, hh, hd⟩ := hanswer
        obtain ⟨hslot, ha, -, howner⟩ := resolve_spec resolved
        obtain ⟨t, older, hl, hc⟩ := (h.slots slot).active ha
        exact ⟨slot, t, older, _, hh ▸ hslot, hl, hc.open_, hc.owner.trans (howner.trans ho),
          hd ▸ front⟩
      | kept answer s' none sound queues =>
        cases answer with
        | returned result => cases hanswer
        | received queued => exact absurd rfl (none queued)
        | waits => cases hanswer

theorem recvStep_queues (h : NetSound s.sockets l) {result : Int}
    (hanswer : (s.step (.recvStep id now blocks)).1 = .result result) (k : NetSlot) :
    ((s.step (.recvStep id now blocks)).2.sockets k).queue = (s.sockets k).queue := by
  simp only [step] at hanswer ⊢
  rcases recvStep_effect h id now blocks with hwaits | ⟨call, hcall, heffect⟩
  · rw [hwaits]
  · cases hout : s.recvStep id now blocks with
    | mk answer s' =>
      rw [hout] at hanswer heffect
      cases heffect with
      | received slot queued s' resolved sockets front =>
        simp only [answered, hcall] at hanswer
        cases hanswer
      | kept answer s' none sound queues => exact queues k

end Steps

/-- What every run of the sockets keeps to: who receives what, and which handles live. -/
theorem netSocket_delivery (events : List NetEvent) :
    let s := (netRun events).state
    let l := (netRun events).ledger
    -- no two active sockets on one port, and no queue beyond its depth
    PortsDiffer s.sockets ∧
    (∀ k, (s.sockets k).queue.toList.length ≤ netSocketQueueDepth) ∧
    -- what was accepted is what was delivered to the owner, followed by what is queued
    (∀ k, ∀ t ∈ l k, (∀ d ∈ t.delivered, d.1 = t.owner) ∧
      ∃ queued, t.accepted = t.delivered.map Prod.snd ++ queued ∧
        (t.closed = false → (s.sockets k).active = true ∧ (s.sockets k).owner = t.owner ∧
          (s.sockets k).queue.toList = queued)) ∧
    -- every accepted and every delivered datagram is in the books of one open session
    (∀ packet, (s.step (.ingress packet)).1 = .result 0 →
      ∃ k t older, l k = t :: older ∧ t.closed = false ∧ t.port = packet.destinationPort ∧
        ∀ j u rest, l j = u :: rest → u.closed = false → u.port = packet.destinationPort →
          j = k) ∧
    (∀ id now blocks owner handle datagram,
      (s.step (.recvStep id now blocks)).1 = .received owner handle datagram →
      ∃ k t older rest, handleSlot handle = some k ∧ l k = t :: older ∧ t.closed = false ∧
        t.owner = owner ∧ (s.sockets k).queue.toList = datagram :: rest) ∧
    -- a receive that fails, for want of room or otherwise, loses nothing
    (∀ id now blocks result, (s.step (.recvStep id now blocks)).1 = .result result →
      ∀ k, ((s.step (.recvStep id now blocks)).2.sockets k).queue = (s.sockets k).queue) ∧
    -- the handle of an open socket resolves for its owner
    (∀ k t older, l k = t :: older → t.closed = false → ∀ owner,
      s.resolve owner t.handle = some k ↔ t.owner = owner) ∧
    -- the handle of a closed socket resolves again only after 0xffffff opens of its slot
    (∀ k newer t older, l k = newer ++ t :: older → t.closed = true → ∀ owner j,
      s.resolve owner t.handle = some j ↔ j = k ∧ 0xffffff ∣ newer.length ∧
        ∃ current rest, newer = current :: rest ∧ current.closed = false ∧
          current.owner = owner) := by
  intro s l
  have h : NetSound s.sockets l := netRun_sound events
  refine ⟨h.ports, ?_, ?_, ?_, ?_, ?_, ?_, ?_⟩
  · intro k
    rw [RingQueue.length_toList]
    exact (s.sockets k).queue.count_le
  · intro k t ht
    have hs := (h.slots k).each t ht
    refine ⟨hs.owners, ?_⟩
    cases hact : (s.sockets k).active with
    | false =>
      have hclosed := (h.slots k).inactive hact t ht
      obtain ⟨queued, hq⟩ := hs.order
      refine ⟨queued, hq, fun hopen => ?_⟩
      rw [hclosed] at hopen
      cases hopen
    | true =>
      obtain ⟨u, older, hl, hc⟩ := (h.slots k).active hact
      have ht' := ht
      rw [hl] at ht'
      rcases List.mem_cons.mp ht' with rfl | hold
      · exact ⟨_, hc.queued, fun _ => ⟨rfl, hc.owner.symm, rfl⟩⟩
      · have hclosed := (h.slots k).old t (by rw [hl]; exact hold)
        obtain ⟨queued, hq⟩ := hs.order
        refine ⟨queued, hq, fun hopen => ?_⟩
        rw [hclosed] at hopen
        cases hopen
  · intro packet hanswer
    have hzero : (s.netSocketIngress packet).1 = 0 := by
      simpa [NetSockets.step] using hanswer
    exact ingress_accepted h hzero
  · intro id now blocks owner handle datagram hanswer
    exact recvStep_received h hanswer
  · intro id now blocks result hanswer k
    exact recvStep_queues h hanswer k
  · intro k t older hl hopen owner
    exact resolve_open_iff h hl hopen owner
  · intro k newer t older hl hclosed owner j
    exact resolve_closed_iff h hl hclosed owner j

/-! A slot that is opened and closed often enough. -/

def reopenedSlot : NetSlot := ⟨0, by decide⟩

def reopeningOwner : NetOwner := ⟨1, 1⟩

def reopenedHandle (n : Nat) : UInt32 := makeHandle reopenedSlot (UInt32.ofNat (n + 1))

/-- The open and close after `n` others. -/
def reopening (n : Nat) : List NetEvent :=
  [.opened reopeningOwner true, .close reopeningOwner (reopenedHandle n)]

def reopenings (n : Nat) : List NetEvent := (List.range n).flatMap reopening

def reopenedSession (n : Nat) (closed : Bool) : NetSession :=
  ⟨reopeningOwner, reopenedHandle n, 0, [], [], closed⟩

def reopenedSessions (n : Nat) : List NetSession :=
  (List.range n).reverse.map fun i => reopenedSession i true

/-- The sockets and the books with this first slot, and nothing else. -/
def reopenedRun (socket : UdpSocket) (sessions : List NetSession) : NetRun :=
  { state := netSocketInit.setSocket reopenedSlot socket
    ledger := Function.update (fun _ => []) reopenedSlot sessions }

variable {n : Nat}

theorem reopenedRun_open {generation : UInt32} (sessions : List NetSession)
    (hg : nextGeneration generation = UInt32.ofNat (n + 1)) :
    (reopenedRun (clearedSocket generation) sessions).step (.opened reopeningOwner true) =
      reopenedRun
        { clearedSocket (UInt32.ofNat (n + 1)) with active := true, owner := reopeningOwner }
        (reopenedSession n false :: sessions) := by
  have hslots : List.finRange netSocketMaxSockets =
      reopenedSlot :: (List.finRange netSocketMaxSockets).tail := by decide
  have hfirst : (reopenedRun (clearedSocket generation) sessions).state.firstSlot (!·.active) =
      some reopenedSlot := by
    unfold firstSlot
    rw [hslots]
    rfl
  have howner : ¬ (reopeningOwner.pid ≤ 0 ∨ reopeningOwner.generation = 0 ∨ !true) := by decide
  have hself : (reopenedRun (clearedSocket generation) sessions).state.sockets reopenedSlot =
      clearedSocket generation := by
    simp [reopenedRun]
  have hopen : (reopenedRun (clearedSocket generation) sessions).state.netSocketOpen
      reopeningOwner true = (0, reopenedHandle n, netSocketInit.setSocket reopenedSlot
        { clearedSocket (UInt32.ofNat (n + 1)) with active := true, owner := reopeningOwner }) := by
    unfold netSocketOpen
    rw [if_neg howner, hfirst]
    simp only [hself]
    show (0, makeHandle reopenedSlot (nextGeneration generation), _) = _
    rw [hg]
    simp [reopenedRun, setSocket, reopenedHandle, clearedSocket, hg]
  have hledger : (reopenedRun (clearedSocket generation) sessions).ledger.record
      (.opened reopeningOwner true) (.handle (reopenedHandle n)) =
      Function.update (fun _ => []) reopenedSlot (reopenedSession n false :: sessions) := by
    funext j
    have hslot : handleSlot (reopenedHandle n) = some reopenedSlot := handleSlot_makeHandle _ _
    by_cases hj : j = reopenedSlot
    · subst hj
      simp [record, hslot, reopenedRun, reopenedSession]
    · have hne : reopenedSlot ≠ j := fun e => hj e.symm
      simp [record, hslot, reopenedRun, hj, hne]
  unfold NetRun.step
  simp only [NetSockets.step, hopen, if_true]
  rw [hledger]
  rfl

theorem reopenedRun_close (sessions : List NetSession) (hn : n + 1 < 0x1000000) :
    (reopenedRun
      { clearedSocket (UInt32.ofNat (n + 1)) with active := true, owner := reopeningOwner }
      (reopenedSession n false :: sessions)).step (.close reopeningOwner (reopenedHandle n)) =
    reopenedRun (clearedSocket (UInt32.ofNat (n + 1))) (reopenedSession n true :: sessions) := by
  have hnat : (UInt32.ofNat (n + 1)).toNat = n + 1 := by
    rw [UInt32.toNat_ofNat']
    omega
  have hslot : handleSlot (reopenedHandle n) = some reopenedSlot := handleSlot_makeHandle _ _
  have hshift : reopenedHandle n >>> 8 = UInt32.ofNat (n + 1) :=
    handle_generation reopenedSlot (by omega)
  have hne : reopenedHandle n >>> 8 ≠ 0 := by
    rw [hshift]
    intro hz
    have hz' := congrArg UInt32.toNat hz
    rw [hnat] at hz'
    exact absurd hz' (Nat.succ_ne_zero n)
  have hresolve : (reopenedRun
      { clearedSocket (UInt32.ofNat (n + 1)) with active := true, owner := reopeningOwner }
      (reopenedSession n false :: sessions)).state.resolve reopeningOwner (reopenedHandle n) =
      some reopenedSlot := by
    apply resolve_of hslot hne
    · simp [reopenedRun]
    · rw [hshift]
      simp [reopenedRun, clearedSocket]
    · simp [reopenedRun]
  unfold NetRun.step
  simp only [NetSockets.step, netSocketClose, hresolve, record, if_true]
  rw [atHandle_eq hslot]
  simp [reopenedRun, closeSocket, setSocket, wakeAll, clearedSocket, reopenedSession]

theorem netRun_reopenings (hn : n < 0x1000000) :
    netRun (reopenings n) =
      reopenedRun (clearedSocket (UInt32.ofNat n)) (reopenedSessions n) := by
  induction n with
  | zero =>
    have hs : netSocketInit.setSocket reopenedSlot (clearedSocket 0) = netSocketInit := by
      simp [setSocket, netSocketInit]
    show netSocketStart = reopenedRun (clearedSocket 0) []
    unfold reopenedRun
    rw [hs, Function.update_eq_self]
    rfl
  | succ n ih =>
    have hnat : (UInt32.ofNat n).toNat = n := by
      rw [UInt32.toNat_ofNat']
      omega
    have hnext : nextGeneration (UInt32.ofNat n) = UInt32.ofNat (n + 1) := by
      have hsucc : UInt32.ofNat n + 1 = UInt32.ofNat (n + 1) := by
        apply UInt32.toNat_inj.mp
        rw [UInt32.toNat_add, hnat, UInt32.toNat_ofNat']
        rfl
      have hlow : ¬ (UInt32.ofNat (n + 1) = 0 ∨ 0x00ffffff < UInt32.ofNat (n + 1)) := by
        have hnat' : (UInt32.ofNat (n + 1)).toNat = n + 1 := by
          rw [UInt32.toNat_ofNat']
          omega
        rintro (hz | hl)
        · have hz' := congrArg UInt32.toNat hz
          rw [hnat'] at hz'
          exact absurd hz' (Nat.succ_ne_zero n)
        · have hl' : 0xffffff < (UInt32.ofNat (n + 1)).toNat := hl
          omega
      unfold nextGeneration
      rw [hsucc, if_neg hlow]
    have hsplit : reopenings (n + 1) = reopenings n ++ reopening n := by
      simp [reopenings, List.range_succ]
    have hsessions : reopenedSessions (n + 1) = reopenedSession n true :: reopenedSessions n := by
      simp [reopenedSessions, List.range_succ]
    calc netRun (reopenings (n + 1))
        = ((netRun (reopenings n)).step (.opened reopeningOwner true)).step
            (.close reopeningOwner (reopenedHandle n)) := by
          rw [hsplit, netRun, List.foldl_append]
          rfl
      _ = reopenedRun (clearedSocket (UInt32.ofNat (n + 1))) (reopenedSessions (n + 1)) := by
          rw [ih (by omega), reopenedRun_open _ hnext, reopenedRun_close _ (by omega), hsessions]

theorem first_mem_reopenedSessions (hn : 0 < n) :
    reopenedSession 0 true ∈ reopenedSessions n := by
  refine List.mem_map.mpr ⟨0, ?_, rfl⟩
  rw [List.mem_reverse, List.mem_range]
  exact hn

@[simp] theorem reopenedRun_ledger (socket : UdpSocket) (sessions : List NetSession) :
    (reopenedRun socket sessions).ledger reopenedSlot = sessions := by
  simp [reopenedRun]

theorem reopened_handle_resolves (hpos : 0 < n) (hn : n < 0x1000000)
    (hwrap : nextGeneration (UInt32.ofNat n) = UInt32.ofNat (0 + 1)) :
    (∃ t ∈ (netRun (reopenings n ++ [.opened reopeningOwner true])).ledger reopenedSlot,
      t.handle = reopenedHandle 0 ∧ t.closed = true) ∧
    (netRun (reopenings n ++ [.opened reopeningOwner true])).state.resolve reopeningOwner
      (reopenedHandle 0) = some reopenedSlot := by
  rw [netRun_snoc, netRun_reopenings hn, reopenedRun_open _ hwrap]
  refine ⟨⟨reopenedSession 0 true, ?_, rfl, rfl⟩, ?_⟩
  · rw [reopenedRun_ledger]
    exact List.mem_cons_of_mem _ (first_mem_reopenedSessions hpos)
  · apply resolve_of (handleSlot_makeHandle _ _) (by decide)
    · simp [reopenedRun]
    · rfl
    · simp [reopenedRun]

/-- After 0xffffff opens and closes the next open gives out the first handle again. -/
theorem closed_handle_resolves_again :
    (∃ t ∈ (netRun (reopenings 0xffffff ++ [.opened reopeningOwner true])).ledger reopenedSlot,
      t.handle = reopenedHandle 0 ∧ t.closed = true) ∧
    (netRun (reopenings 0xffffff ++ [.opened reopeningOwner true])).state.resolve reopeningOwner
      (reopenedHandle 0) = some reopenedSlot :=
  reopened_handle_resolves (by omega) (by omega) (by decide)

end ReistOs
