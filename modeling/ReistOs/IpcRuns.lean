import ReistOs.IpcTraffic

/-! Every call of `kernel/ipc/ipc.c`, what it does in one step, and the runs of them. -/

namespace ReistOs

open Attempt

/-- Whether a new process may take the slot with this identity: the slot is free, and no other
process and no capability that is left has the identity. -/
def IpcState.startable (s : IpcState) (p : IpcProcessSlot) (identity : IpcIdentity) : Prop :=
  (s.processes p).isRunning = false ∧ identity.live = true ∧
    (∀ q, (s.processes q).identity ≠ identity) ∧
    ∀ i, (s.records i).active = true → (s.records i).holderIdentity ≠ identity ∧
      (s.recordIntact i = true → (s.records i).holder ≠ some p)

instance (s : IpcState) (p : IpcProcessSlot) (identity : IpcIdentity) :
    Decidable (s.startable p identity) := by
  unfold IpcState.startable
  infer_instance

def startedProcess (identity : IpcIdentity) : IpcProcess :=
  { identity := identity
    isRunning := true
    ipcCapabilities := fun _ => .empty }

def processStart (p : IpcProcessSlot) (identity : IpcIdentity) : Ipc Unit := do
  let s ← get
  refuse (¬ s.startable p identity) .einval
  modify fun s => { s with processes := Function.update s.processes p (startedProcess identity) }

def processStop (p : IpcProcessSlot) : Ipc Unit :=
  modify fun s =>
    { s with
      processes := Function.update s.processes p { s.processes p with isRunning := false } }

/-- The calls of the kernel and its processes, their starts and ends, and damage to a protected
record. The validations only read or quarantine. -/
inductive IpcCall
  | create (owner : IpcProcessSlot)
  | delegate (source : IpcProcessSlot) (handle : UInt32) (target : IpcProcessSlot) (rights : UInt32)
  | release (p : IpcProcessSlot) (handle : UInt32)
  | close (p : IpcProcessSlot) (handle : UInt32)
  | cleanup (identity : IpcIdentity)
  | quarantine (slot : IpcSlot)
  | send (p : IpcProcessSlot) (handle : UInt32) (message : IpcMessage) (patience : IpcPatience)
  | sendBulk (p : IpcProcessSlot) (handle : UInt32) (message : IpcBulkMessage) (patience : IpcPatience)
  | sendExternal (owner : IpcIdentity) (handle : UInt32) (message : IpcMessage)
  | sendKernel (owner : IpcIdentity) (handle : UInt32) (message : IpcMessage)
  | receive (p : IpcProcessSlot) (handle : UInt32) (buffer : IpcMessage) (patience : IpcPatience)
  | receiveBulk (p : IpcProcessSlot) (handle : UInt32) (buffer : IpcBulkMessage)
      (patience : IpcPatience)
  | start (p : IpcProcessSlot) (identity : IpcIdentity)
  | stop (p : IpcProcessSlot)
  | damageEndpoint (slot : IpcSlot)
  | damageBulk (slot : IpcSlot)
  | damageMessage (slot : IpcSlot) (index : IpcCell)
  | damageRecord (i : IpcRecordSlot)

inductive IpcReply
  | done
  | waits
  | created (handle : UInt32)
  | sent (slot : IpcSlot)
  | received (slot : IpcSlot) (offset : Nat) (message : IpcMessage)
  | bulkReceived (slot : IpcSlot) (offset : Option Nat) (message : IpcBulkMessage)
  deriving DecidableEq

def IpcCall.Damages : IpcCall → Prop
  | .damageEndpoint _ | .damageBulk _ | .damageMessage _ _ | .damageRecord _ => True
  | _ => False

def IpcCall.MayWait : IpcCall → Prop
  | .send _ _ _ _ | .sendBulk _ _ _ _ | .receive _ _ _ _ | .receiveBulk _ _ _ _ => True
  | _ => False

def IpcTurn.reply {α : Type} (f : α → IpcReply) : IpcTurn α → IpcReply
  | .done a => f a
  | .waits => .waits

def damage {ι : Type} [DecidableEq ι] (intact : ι → Bool) (i : ι) : ι → Bool :=
  Function.update intact i false

def IpcCall.exec : IpcCall → Ipc IpcReply
  | .create owner => do
    let handle ← ipcCreate owner
    pure (.created handle)
  | .delegate source handle target rights => do
    ipcDelegate source handle target rights
    pure .done
  | .release p handle => do
    ipcRelease p handle
    pure .done
  | .close p handle => do
    ipcClose p handle
    pure .done
  | .cleanup identity => do
    ipcProcessCleanup identity
    pure .done
  | .quarantine slot => do
    modify (quarantineEndpoint slot)
    pure .done
  | .send p handle message patience => do
    let turn ← ipcSendTimeout p handle message patience
    pure (turn.reply .sent)
  | .sendBulk p handle message patience => do
    let turn ← ipcSendBulkTimeout p handle message patience
    pure (turn.reply .sent)
  | .sendExternal owner handle message => do
    let slot ← ipcSendExternalFromPeer owner handle message
    pure (.sent slot)
  | .sendKernel owner handle message => do
    let slot ← ipcSendKernelToOwner owner handle message
    pure (.sent slot)
  | .receive p handle buffer patience => do
    let turn ← ipcReceiveTimeout p handle buffer patience
    pure (turn.reply fun got => .received got.1 got.2.1 got.2.2)
  | .receiveBulk p handle buffer patience => do
    let turn ← ipcReceiveBulkTimeout p handle buffer patience
    pure (turn.reply fun got => .bulkReceived got.1 got.2.1 got.2.2)
  | .start p identity => do
    processStart p identity
    pure .done
  | .stop p => do
    processStop p
    pure .done
  | .damageEndpoint slot => do
    modify fun s => { s with endpointIntact := damage s.endpointIntact slot }
    pure .done
  | .damageBulk slot => do
    modify fun s => { s with bulkIntact := damage s.bulkIntact slot }
    pure .done
  | .damageMessage slot index => do
    modify fun s =>
      { s with
        messageIntact := Function.update s.messageIntact slot (damage (s.messageIntact slot) index) }
    pure .done
  | .damageRecord i => do
    modify fun s => { s with recordIntact := damage s.recordIntact i }
    pure .done

def firstProcess : IpcProcessSlot := ⟨0, by decide⟩
def secondProcess : IpcProcessSlot := ⟨1, by decide⟩
def firstEndpoint : IpcSlot := ⟨0, Nat.zero_lt_succ 15⟩

def ipcInit : IpcState :=
  { endpoints := fun _ => .empty
    messages := fun _ _ => ⟨⟨0, 0, 0, Vector.replicate ipcMaxMessageSize 0⟩, .none⟩
    records := fun _ => .empty
    processes := fun _ => ⟨.none, false, fun _ => .empty⟩
    endpointIntact := fun _ => true
    bulkIntact := fun _ => true
    messageIntact := fun _ _ => true
    recordIntact := fun _ => true }

def IpcState.result (s : IpcState) (call : IpcCall) : Except IpcError IpcReply := (call.exec () 0 s).1

def IpcState.after (s : IpcState) (call : IpcCall) : IpcState := (call.exec () 0 s).2.2

structure IpcGrant where
  handle : UInt32
  identity : IpcIdentity
  rights : UInt32

def IpcState.grants (s : IpcState) : IpcCall → Except IpcError IpcReply → List IpcGrant
  | .create p, .ok (.created handle) => [⟨handle, (s.processes p).identity, ipcAllRights⟩]
  | .delegate _ handle target rights, .ok .done =>
    [⟨handle, (s.processes target).identity, rights⟩]
  | _, _ => []

def IpcState.history (s : IpcState) (calls : List IpcCall) : IpcState × List IpcGrant :=
  calls.foldl (fun h call => (h.1.after call, h.1.grants call (h.1.result call) ++ h.2)) (s, [])

def IpcState.started (s : IpcState) (p : IpcProcessSlot) (identity : IpcIdentity) : IpcState :=
  { s with processes := Function.update s.processes p (startedProcess identity) }

/-- All that a call can do, with its result. -/
inductive IpcStep (s : IpcState) : IpcCall → Except IpcError IpcReply → IpcState → Prop
  | failed {call e s'} (h : Faded s s') : IpcStep s call (.error e) s'
  | waits {call} (hcall : call.MayWait) : IpcStep s call (.ok .waits) s
  | created {p slot s₁ k i} (h : s.Created p slot s₁ k i) :
      IpcStep s (.create p) (.ok (.created (s₁.nextHandle slot)))
        ((s₁.opened p slot).grant p k i (s₁.nextHandle slot) slot ipcAllRights)
  | delegated {source handle target rights slot k i}
      (h : s.Delegated source target handle rights slot k i) :
      IpcStep s (.delegate source handle target rights) (.ok .done)
        (s.delegated target handle rights slot k i)
  | released {p handle slot s'} (h : Faded s s') (hresolved : s.Resolved p handle 0 slot)
      (hgone : s'.Unheld handle (s.processes p).identity) :
      IpcStep s (.release p handle) (.ok .done) s'
  | closed {p handle slot s'} (h : Faded s s') (hresolved : s.Resolved p handle ipcRightControl slot)
      (hgone : (s'.endpoints slot).active = false) : IpcStep s (.close p handle) (.ok .done) s'
  | cleaned {identity s'} (h : Faded s s') (hgone : identity.live = true → s'.Cleaned identity) :
      IpcStep s (.cleanup identity) (.ok .done) s'
  | quarantined {slot s'} (h : Faded s s') (hgone : (s'.endpoints slot).active = false) :
      IpcStep s (.quarantine slot) (.ok .done) s'
  | sent {p handle message patience slot s'} (hresolved : s.Resolved p handle ipcRightSend slot)
      (h : Posted slot message (s.processes p).identity s s') :
      IpcStep s (.send p handle message patience) (.ok (.sent slot)) s'
  | bulkSent {p handle message patience slot s'} (hresolved : s.Resolved p handle ipcRightSend slot)
      (h : BulkPosted slot message (s.processes p).identity s s') :
      IpcStep s (.sendBulk p handle message patience) (.ok (.sent slot)) s'
  | externalSent {owner handle message slot s'} (hpeer : s.SendsFor slot (s.peerIdentity slot))
      (h : Posted slot message (s.peerIdentity slot) s s') :
      IpcStep s (.sendExternal owner handle message) (.ok (.sent slot)) s'
  | kernelSent {owner handle message slot s'} (h : Posted slot message .none s s') :
      IpcStep s (.sendKernel owner handle message) (.ok (.sent slot)) s'
  | received {p handle buffer patience slot offset message s'}
      (hresolved : s.Resolved p handle ipcRightReceive slot)
      (h : Fetched slot (s.processes p).identity offset message s s') :
      IpcStep s (.receive p handle buffer patience) (.ok (.received slot offset message)) s'
  | bulkReceived {p handle buffer patience slot got s'}
      (hresolved : s.Resolved p handle ipcRightReceive slot)
      (h : BulkReceived (s.processes p).identity slot got s s') :
      IpcStep s (.receiveBulk p handle buffer patience) (.ok (.bulkReceived slot got.1 got.2)) s'
  | started {p identity} (h : s.startable p identity) :
      IpcStep s (.start p identity) (.ok .done) (s.started p identity)
  | stopped {p s'} (h : Faded s s') : IpcStep s (.stop p) (.ok .done) s'
  | damaged {call s'} (hdamage : call.Damages) (h : Faded s s') : IpcStep s call (.ok .done) s'

inductive IpcMove (s : IpcState) : IpcCall → Except IpcError IpcReply → IpcState → Prop
  | faded {call r s'} (h : Faded s s') (hr : s.grants call r = []) : IpcMove s call r s'
  | created {p slot s₁ k i} (h : s.Created p slot s₁ k i) :
      IpcMove s (.create p) (.ok (.created (s₁.nextHandle slot)))
        ((s₁.opened p slot).grant p k i (s₁.nextHandle slot) slot ipcAllRights)
  | delegated {source handle target rights slot k i}
      (h : s.Delegated source target handle rights slot k i) :
      IpcMove s (.delegate source handle target rights) (.ok .done)
        (s.delegated target handle rights slot k i)
  | stirred {call r slot s'} (h : Stirred slot s s') (hr : s.grants call r = []) :
      IpcMove s call r s'
  | started {p identity} (h : s.startable p identity) :
      IpcMove s (.start p identity) (.ok .done) (s.started p identity)

variable {s s' s0 s₁ : IpcState} {slot other : IpcSlot} {i j : IpcRecordSlot} {p q : IpcProcessSlot}
  {k : Fin ipcMaxCapabilitiesPerProcess} {handle rights : UInt32} {identity : IpcIdentity}

theorem stop_faded (h : IpcTables s) : Faded s
    { s with
      processes := Function.update s.processes p { s.processes p with isRunning := false } } := by
  have hidentity : ∀ q, (Function.update s.processes p
      { s.processes p with isRunning := false } q).identity = (s.processes q).identity := by
    intro q
    rw [Function.update_apply]
    split
    next hq => rw [hq]
    next => rfl
  have hcapability : ∀ q, (Function.update s.processes p
      { s.processes p with isRunning := false } q).ipcCapabilities =
        (s.processes q).ipcCapabilities := by
    intro q
    rw [Function.update_apply]
    split
    next hq => rw [hq]
    next => rfl
  have hrunning : ∀ q, (Function.update s.processes p
      { s.processes p with isRunning := false } q).isRunning = true →
        (s.processes q).isRunning = true := by
    intro q
    rw [Function.update_apply]
    split
    next => exact fun hf => absurd hf Bool.false_ne_true
    next => exact fun hq => hq
  have hsound : IpcSound NoneDying
      { s with
        processes := Function.update s.processes p { s.processes p with isRunning := false } } := by
    refine { h.sound with
      distinct := ?_
      held := ?_
      recorded := ?_
      slots := ?_ }
    · intro q q'
      rw [hidentity, hidentity]
      exact h.sound.distinct q q'
    · intro i hi hintact
      obtain ⟨q, k, hholder, hsame, hheld⟩ := h.sound.held i hi hintact
      refine ⟨q, k, hholder, ?_, ?_⟩
      · rw [hidentity]
        exact hsame
      · rw [hcapability]
        exact hheld
    · intro q k huse
      rw [hcapability] at huse ⊢
      rw [hidentity]
      exact h.sound.recorded q k huse
    · intro q k k'
      rw [hcapability]
      exact h.sound.slots q k k'
  exact
    { tables :=
        { sound := hsound
          counted := h.counted.of_frame rfl (fun _ => rfl) fun _ _ => rfl
          live := fun q hq => by
            rw [hidentity]
            exact h.live q (hrunning q hq)
          idle := h.idle
          room := h.room }
      generation := fun _ => UInt32.le_refl _
      endpoint := fun slot _ => ⟨⟨(s.endpoints slot).peerCapabilities, rfl⟩, rfl⟩
      record := fun _ _ => rfl
      identity := hidentity
      isRunning := hrunning
      recordIntact := fun _ hi => hi }

theorem started_process : (s.started p identity).processes q =
    if q = p then startedProcess identity else s.processes q := Function.update_apply ..

theorem IpcTables.started (h : IpcTables s) (hstart : s.startable p identity) :
    IpcTables (s.started p identity) := by
  obtain ⟨-, hlive, hfresh, hleft⟩ := hstart
  have hother : ∀ q, q ≠ p → (s.started p identity).processes q = s.processes q := by
    intro q hq
    rw [started_process, if_neg hq]
  have hself : (s.started p identity).processes p = startedProcess identity := by
    rw [started_process, if_pos rfl]
  have hempty : ∀ q k, (((s.started p identity).processes q).ipcCapabilities k).inUse = true →
      q ≠ p := by
    rintro q k huse rfl
    rw [hself] at huse
    exact Bool.false_ne_true huse
  have hsound : IpcSound NoneDying (s.started p identity) := by
    refine { h.sound with
      distinct := ?_
      held := ?_
      recorded := ?_
      slots := ?_ }
    · intro q q' hq hsame
      by_cases hp : q = p
      · by_cases hp' : q' = p
        · rw [hp, hp']
        · rw [hp, hself, hother q' hp'] at hsame
          exact absurd hsame.symm (hfresh q')
      · by_cases hp' : q' = p
        · rw [hp', hself, hother q hp] at hsame
          exact absurd hsame (hfresh q)
        · rw [hother q hp] at hq hsame
          rw [hother q' hp'] at hsame
          exact h.sound.distinct q q' hq hsame
    · intro i hi hintact
      obtain ⟨q, k, hholder, hsame, hheld⟩ := h.sound.held i hi hintact
      have hq : q ≠ p := by
        rintro rfl
        exact (hleft i hi).2 hintact hholder
      refine ⟨q, k, hholder, ?_, ?_⟩
      · rw [hother q hq]
        exact hsame
      · rw [hother q hq]
        exact hheld
    · intro q k huse
      have hq := hempty q k huse
      rw [hother q hq] at huse ⊢
      exact h.sound.recorded q k huse
    · intro q k k' huse
      have hq := hempty q k huse
      rw [hother q hq] at huse ⊢
      exact h.sound.slots q k k' huse
  exact
    { sound := hsound
      counted := h.counted.of_frame rfl (fun _ => rfl) fun _ _ => rfl
      live := fun q hq => by
        by_cases hp : q = p
        · rw [hp, hself]
          exact hlive
        · rw [hother q hp] at hq ⊢
          exact h.live q hq
      idle := h.idle
      room := h.room }

theorem damage_faded (h : IpcTables s) (hendpoints : s'.endpoints = s.endpoints)
    (hmessages : s'.messages = s.messages) (hrecords : s'.records = s.records)
    (hprocesses : s'.processes = s.processes)
    (hintact : ∀ i, s'.recordIntact i = true → s.recordIntact i = true) : Faded s s' where
  tables :=
    { sound := h.sound.of_frame hrecords hprocesses hintact fun slot => by rw [hendpoints]
      counted := h.counted.of_frame hrecords (fun slot => by rw [hendpoints])
        fun slot _ => by rw [hendpoints]
      live := by
        rw [hprocesses]
        exact h.live
      idle := by
        rw [hendpoints]
        exact h.idle
      room := by
        rw [hendpoints]
        exact h.room }
  generation slot := by
    rw [hendpoints]
    exact UInt32.le_refl _
  endpoint slot _ := by
    rw [hendpoints, hmessages]
    exact ⟨⟨(s.endpoints slot).peerCapabilities, rfl⟩, rfl⟩
  record i _ := by rw [hrecords]
  identity p := by rw [hprocesses]
  isRunning p hrunning := by
    rw [hprocesses] at hrunning
    exact hrunning
  recordIntact := hintact

variable {R : IpcReply → IpcState → Prop} {E E' : IpcError → IpcState → Prop}
  {r : Except IpcError IpcReply}

theorem done_triple {x : Ipc Unit} {Q : Unit → IpcState → Prop} (h : Triple (· = s0) x Q E)
    (hQ : ∀ s, Q () s → R .done s) (hE : ∀ e s, E e s → E' e s) :
    Triple (· = s0) (do x; pure IpcReply.done : Ipc IpcReply) R E' :=
  (h.ends (fun _ _ hq => hq) hE).bind fun _ => Triple.pure fun s hs => hQ s hs

theorem turn_triple {α : Type} {x : Ipc (IpcTurn α)} {f : α → IpcReply} {Q : α → IpcState → Prop}
    (h : Triple (· = s0) x (Turned s0 Q) E) (hwaits : R .waits s0)
    (hQ : ∀ a s, Q a s → R (f a) s) (hE : ∀ e s, E e s → E' e s) :
    Triple (· = s0) (do let turn ← x; pure (turn.reply f) : Ipc IpcReply) R E' := by
  refine (h.ends (fun _ _ hq => hq) hE).bind fun turn => Triple.pure fun s hs => ?_
  rcases hs with ⟨rfl, rfl⟩ | ⟨a, rfl, ha⟩
  · exact hwaits
  · exact hQ a s ha

theorem exec_triple (h : IpcTables s0) (call : IpcCall) :
    Triple (· = s0) call.exec (fun reply => IpcStep s0 call (.ok reply))
      (fun e => IpcStep s0 call (.error e)) := by
  have hfailed : ∀ e s, Faded s0 s → IpcStep s0 call (.error e) s := fun _ _ => .failed
  cases call with
  | create p =>
    refine ((ipcCreate_triple h).ends (fun _ _ hs => hs) hfailed).bind fun handle =>
      Triple.pure fun s hs => ?_
    obtain ⟨slot, s₁, k, i, hcreated, rfl, rfl⟩ := hs
    exact .created hcreated
  | delegate source handle target rights =>
    refine done_triple (ipcDelegate_triple h) (fun s hs => ?_) hfailed
    obtain ⟨slot, k, i, hdelegated, rfl⟩ := hs
    exact .delegated hdelegated
  | release p handle =>
    refine done_triple (ipcRelease_triple h) (fun s hs => ?_) hfailed
    obtain ⟨hfaded, ⟨slot, hresolved⟩, hgone⟩ := hs
    exact .released hfaded hresolved hgone
  | close p handle =>
    refine done_triple (ipcClose_triple h) (fun s hs => ?_) hfailed
    obtain ⟨hfaded, slot, hresolved, hgone⟩ := hs
    exact .closed hfaded hresolved hgone
  | cleanup identity =>
    exact done_triple (ipcProcessCleanup_triple h) (fun s hs => .cleaned hs.1 hs.2)
      fun _ _ hf => hf.elim
  | quarantine slot =>
    have hrevoked := quarantineEndpoint_revoked slot h.sound h.counted
    exact Triple.update (Triple.done (.quarantined (hrevoked.faded h) hrevoked.inactive))
  | send p handle message patience =>
    exact turn_triple (ipcSendTimeout_triple h) (.waits trivial) (fun slot s hs => .sent hs.1 hs.2) hfailed
  | sendBulk p handle message patience =>
    exact turn_triple (ipcSendBulkTimeout_triple h) (.waits trivial) (fun slot s hs => .bulkSent hs.1 hs.2)
      hfailed
  | sendExternal owner handle message =>
    exact ((ipcSendExternalFromPeer_triple h).ends (fun _ _ hs => hs)
      hfailed).bind fun slot => Triple.pure fun s hs => .externalSent hs.1 hs.2
  | sendKernel owner handle message =>
    exact ((ipcSendKernelToOwner_triple h).ends (fun _ _ hs => hs)
      hfailed).bind fun slot => Triple.pure fun s hs => .kernelSent hs
  | receive p handle buffer patience =>
    exact turn_triple (ipcReceiveTimeout_triple h) (.waits trivial) (fun got s hs => .received hs.1 hs.2)
      hfailed
  | receiveBulk p handle buffer patience =>
    exact turn_triple (ipcReceiveBulkTimeout_triple h) (.waits trivial)
      (fun got s hs => .bulkReceived hs.1 hs.2) hfailed
  | start p identity =>
    have hstart : Triple (· = s0) (processStart p identity)
        (fun _ s => s0.startable p identity ∧ s = s0.started p identity) (fun _ s => s = s0) := by
      apply Triple.read
      exact Triple.check (fun _ => rfl) fun hok => Triple.updated ⟨not_not.mp hok, rfl⟩
    refine done_triple hstart (fun s hs => ?_) fun e s hs => ?_
    · obtain ⟨hok, rfl⟩ := hs
      exact .started hok
    · subst hs
      exact .failed (Faded.refl h)
  | stop p => exact Triple.update (Triple.done (.stopped (stop_faded h)))
  | damageEndpoint slot =>
    exact Triple.update (Triple.done (.damaged trivial
      (damage_faded h rfl rfl rfl rfl fun _ hi => hi)))
  | damageBulk slot =>
    exact Triple.update (Triple.done (.damaged trivial
      (damage_faded h rfl rfl rfl rfl fun _ hi => hi)))
  | damageMessage slot index =>
    exact Triple.update (Triple.done (.damaged trivial
      (damage_faded h rfl rfl rfl rfl fun _ hi => hi)))
  | damageRecord i =>
    refine Triple.update (Triple.done (.damaged trivial
      (damage_faded h rfl rfl rfl rfl fun j hj => ?_)))
    by_cases hji : j = i
    · subst hji
      have hdamaged : damage s0.recordIntact j j = false := Function.update_self ..
      exact absurd (hdamaged.symm.trans hj) Bool.false_ne_true
    · have hsame : damage s0.recordIntact i j = s0.recordIntact j := Function.update_of_ne hji ..
      exact hsame ▸ hj

variable {call : IpcCall}

theorem step_after (h : IpcTables s) (call : IpcCall) :
    IpcStep s call (s.result call) (s.after call) := by
  have hend := exec_triple h call () 0 s rfl
  unfold IpcState.result IpcState.after
  rcases hr : call.exec () 0 s with ⟨r | r, n, s'⟩
  · rw [hr] at hend
    exact hend
  · rw [hr] at hend
    exact hend

theorem grants_error {e : IpcError} : s.grants call (.error e) = [] := by
  cases call with
  | _ => rfl

theorem grants_waits : s.grants call (.ok .waits) = [] := by
  cases call with
  | _ => rfl

theorem grants_damages (h : call.Damages) : s.grants call (.ok .done) = [] := by
  cases call with
  | delegate _ _ _ _ => exact h.elim
  | _ => rfl

theorem IpcStep.move (hstep : IpcStep s call r s') (htables : IpcTables s) :
    IpcMove s call r s' := by
  cases hstep with
  | failed h => exact .faded h grants_error
  | waits _ => exact .faded (Faded.refl htables) grants_waits
  | created h => exact .created h
  | delegated h => exact .delegated h
  | released h _ _ => exact .faded h rfl
  | closed h _ _ => exact .faded h rfl
  | cleaned h _ => exact .faded h rfl
  | quarantined h _ => exact .faded h rfl
  | sent _ h => exact .stirred h.stirred rfl
  | bulkSent _ h => exact .stirred h.stirred rfl
  | externalSent _ h => exact .stirred h.stirred rfl
  | kernelSent h => exact .stirred h.stirred rfl
  | received _ h => exact .stirred h.stirred rfl
  | bulkReceived _ h =>
    rcases h with ⟨offset, small, -, hfetched⟩ | ⟨-, hfetched⟩
    · exact .stirred hfetched.stirred rfl
    · exact .stirred hfetched.stirred rfl
  | started h => exact .started h
  | stopped h => exact .faded h rfl
  | damaged hdamage h => exact .faded h (grants_damages hdamage)

theorem IpcState.Created.grantable (h : s.Created p slot s₁ k i) (htables : IpcTables s) :
    Grantable (s₁.opened p slot) p k i (s₁.nextHandle slot) slot ipcAllRights := by
  apply grantable_owner h.faded.tables _ h.bound h.record h.free
  rw [h.faded.identity p]
  exact htables.live p h.isRunning

theorem IpcState.Created.tables (h : s.Created p slot s₁ k i) (htables : IpcTables s) :
    IpcTables ((s₁.opened p slot).grant p k i (s₁.nextHandle slot) slot ipcAllRights) := by
  have hopened : IpcTables (s₁.opened p slot) := h.faded.tables.open h.inactive h.bound _
  have hgrantable := h.grantable htables
  exact
    { sound := hopened.sound.grant hgrantable
      counted := hopened.counted.grantControl hgrantable (by decide)
      live := fun q hrunning => by
        rw [grant_isRunning] at hrunning
        rw [grant_identity]
        exact hopened.live q hrunning
      idle := hopened.idle
      room := hopened.room }

theorem IpcMove.tables (hmove : IpcMove s call r s') (htables : IpcTables s) : IpcTables s' := by
  cases hmove with
  | faded h _ => exact h.tables
  | created h => exact h.tables htables
  | delegated h => exact htables.delegated h
  | stirred h _ => exact h.tables htables
  | started h => exact htables.started h

theorem tables_init : IpcTables ipcInit where
  sound :=
    { bounded := fun _ => (by decide : (0 : UInt32) ≤ ipcHandleGenerationMax)
      distinct := fun _ _ hlive => absurd hlive Bool.false_ne_true
      dead := fun _ hf => hf.elim
      valid := fun _ hi => absurd hi Bool.false_ne_true
      issued := fun _ hi => absurd hi Bool.false_ne_true
      current := fun _ hi => absurd hi Bool.false_ne_true
      opened := fun _ hi => absurd hi Bool.false_ne_true
      unique := fun _ _ hi => absurd hi Bool.false_ne_true
      single := fun _ _ hi => absurd hi Bool.false_ne_true
      owned := fun _ hi => absurd hi Bool.false_ne_true
      held := fun _ hi => absurd hi Bool.false_ne_true
      recorded := fun _ _ huse => absurd huse Bool.false_ne_true
      slots := fun _ _ _ huse => absurd huse Bool.false_ne_true }
  counted :=
    { one := fun _ hactive => absurd hactive Bool.false_ne_true
      zero := fun _ hactive => absurd hactive Bool.false_ne_true }
  live := fun _ hrunning => absurd hrunning Bool.false_ne_true
  idle := fun _ _ => ⟨rfl, rfl⟩
  room := fun _ => Nat.zero_le _

theorem tables_after (h : IpcTables s) (call : IpcCall) : IpcTables (s.after call) :=
  ((step_after h call).move h).tables h

end ReistOs
