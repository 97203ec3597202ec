import ReistOs.IpcRuns
import ReistOs.Mailboxes

/-! Every message that `kernel/ipc/ipc.c` takes, and where it goes. -/

namespace ReistOs

open Attempt IpcState

/-- What a message says, whatever buffer it is in. -/
structure IpcContent where
  version : UInt32
  structSize : UInt32
  bytes : List UInt8
  deriving DecidableEq

def IpcPacket.content {capacity : Nat} (message : IpcPacket capacity) : IpcContent :=
  ⟨message.version, message.structSize, message.payload.toList.take message.length.toNat⟩

theorem content_copied {capacity : Nat} {message : IpcPacket capacity} (room : Nat)
    (hlength : message.length.toNat ≤ capacity) (hroom : capacity ≤ room) :
    (message.copied room).content = message.content := by
  unfold IpcPacket.content IpcPacket.copied
  congr 1
  apply List.ext_getElem?
  intro i
  rw [List.getElem?_take, List.getElem?_take]
  split
  next hi =>
    have hin : i < capacity := Nat.lt_of_lt_of_le hi hlength
    have hget : message.payload[i]? = some message.payload[i] := Vector.getElem?_eq_getElem hin
    rw [Vector.getElem?_toList, Vector.getElem?_toList,
      Vector.getElem?_eq_getElem (Nat.lt_of_lt_of_le hin hroom), Vector.getElem_ofFn, if_pos hi]
    show some (message.payload[i]?.getD 0) = _
    rw [hget]
    rfl
  next => rfl

variable {message : IpcMessage}

theorem content_queued {room : Nat} (h : messageValid message = true) (hroom : ipcMaxMessageSize ≤ room) :
    (message.copied room).content = message.content := by
  unfold messageValid at h
  simp only [Bool.and_eq_true, decide_eq_true_eq] at h
  exact content_copied _ h.2 hroom

theorem content_bulk {message : IpcBulkMessage} (h : bulkMessageValid message = true) :
    (message.copied ipcBulkMaxMessageSize).content = message.content := by
  unfold bulkMessageValid at h
  simp only [Bool.and_eq_true, decide_eq_true_eq] at h
  exact content_copied _ h.2 (le_refl _)

/-- The queue of an endpoint and its bulk buffer. -/
inductive IpcBox
  | queue (slot : IpcSlot)
  | bulk (slot : IpcSlot)
  deriving DecidableEq

def IpcBox.endpoint : IpcBox → IpcSlot
  | .queue slot => slot
  | .bulk slot => slot

abbrev IpcMail := Mail IpcBox IpcIdentity IpcContent

/-- Whether the endpoint was open, and is no longer, or was opened anew. -/
def IpcState.lost (s s' : IpcState) (b : IpcBox) : Bool :=
  (s.endpoints b.endpoint).active && !((s'.endpoints b.endpoint).active &&
    (s'.endpoints b.endpoint).generation == (s.endpoints b.endpoint).generation)

def IpcState.mail (s : IpcState) (s' : IpcState) (m : IpcMail) :
    IpcCall → Except IpcError IpcReply → IpcMail
  | .send p _ message _, .ok (.sent slot) =>
    m.send (.queue slot) (s.processes p).identity message.content
  | .sendBulk p _ message _, .ok (.sent slot) =>
    m.send (.bulk slot) (s.processes p).identity message.content
  | .sendExternal _ _ message, .ok (.sent slot) =>
    m.send (.queue slot) (s.peerIdentity slot) message.content
  | .sendKernel _ _ message, .ok (.sent slot) => m.send (.queue slot) .none message.content
  | .receive p _ _ _, .ok (.received slot offset message) =>
    m.take (.queue slot) offset (s.processes p).identity message.content
  | .receiveBulk p _ _ _, .ok (.bulkReceived slot (some offset) message) =>
    m.take (.queue slot) offset (s.processes p).identity message.content
  | .receiveBulk p _ _ _, .ok (.bulkReceived slot none message) =>
    m.take (.bulk slot) 0 (s.processes p).identity message.content
  | _, _ => m.discard (s.lost s')

def IpcState.letters (s : IpcState) (calls : List IpcCall) : IpcState × IpcMail :=
  calls.foldl (fun h call =>
    (h.1.after call, h.1.mail (h.1.after call) h.2 call (h.1.result call))) (s, Mail.empty)

def IpcState.box (s : IpcState) : IpcBox → List (IpcContent × IpcIdentity)
  | .queue slot => (s.queue slot).map fun value => (value.message.content, value.sender)
  | .bulk slot => (s.bulk slot).map fun value => (value.1.content, value.2)

def Carried (s : IpcState) (m : IpcMail) : Prop := ∀ b, m.letters b = (s.box b).map some

variable {s s' : IpcState} {slot : IpcSlot} {p : IpcProcessSlot} {handle required : UInt32}
  {call : IpcCall} {r : Except IpcError IpcReply}

section IpcQuiet

/-- The messages of every endpoint that stays open are as they were, and there are no others. -/
def IpcQuiet (s s' : IpcState) : Prop :=
  ∀ b : IpcBox,
    ((s'.endpoints b.endpoint).active = true ∧
        (s'.endpoints b.endpoint).generation = (s.endpoints b.endpoint).generation →
      (s.endpoints b.endpoint).active = true ∧ s'.box b = s.box b) ∧
    (¬ ((s'.endpoints b.endpoint).active = true ∧
        (s'.endpoints b.endpoint).generation = (s.endpoints b.endpoint).generation) → s'.box b = [])

theorem box_queue : s.box (.queue slot) =
    (s.queue slot).map fun value => (value.message.content, value.sender) := rfl

theorem box_bulk : s.box (.bulk slot) =
    (s.bulk slot).map fun value => (value.1.content, value.2) := rfl

variable {b : IpcBox} {i : IpcRecordSlot}

theorem box_idle (hcount : (s.endpoints slot).count = 0)
    (hbulk : (s.endpoints slot).bulkActive = false) (hb : b.endpoint = slot) :
    s.box b = [] := by
  subst hb
  cases b with
  | queue slot =>
    have hcount' : (s.endpoints slot).count = 0 := hcount
    rw [box_queue]
    unfold queue
    rw [hcount']
    rfl
  | bulk slot =>
    have hbulk' : (s.endpoints slot).bulkActive = false := hbulk
    rw [box_bulk]
    unfold bulk
    rw [hbulk']
    rfl

theorem idle_box (h : IpcTables s) (hactive : (s.endpoints b.endpoint).active = false) :
    s.box b = [] := by
  obtain ⟨hcount, hbulk⟩ := h.idle b.endpoint hactive
  exact box_idle hcount hbulk rfl

def IpcEndpoint.traffic (e : IpcEndpoint) : Nat × Nat × Bool × IpcBulkMessage × IpcIdentity :=
  (e.head, e.count, e.bulkActive, e.bulkMessage, e.bulkSender)

theorem box_congr (htraffic : (s'.endpoints b.endpoint).traffic = (s.endpoints b.endpoint).traffic)
    (hmessages : s'.messages b.endpoint = s.messages b.endpoint) : s'.box b = s.box b := by
  obtain ⟨hhead, hrest⟩ := Prod.mk.inj htraffic
  obtain ⟨hcount, hrest⟩ := Prod.mk.inj hrest
  obtain ⟨hactive, hrest⟩ := Prod.mk.inj hrest
  obtain ⟨hmessage, hsender⟩ := Prod.mk.inj hrest
  cases b with
  | queue slot =>
    unfold IpcBox.endpoint at hhead hcount hmessages
    have hcell : ∀ o, (s'.endpoints slot).cellAt o = (s.endpoints slot).cellAt o := by
      intro o
      apply Fin.ext
      show ((s'.endpoints slot).head + o) % ipcQueueDepth = ((s.endpoints slot).head + o) % ipcQueueDepth
      rw [hhead]
    rw [box_queue, box_queue]
    unfold queue
    simp only [hcell, hcount, hmessages]
  | bulk slot =>
    unfold IpcBox.endpoint at hactive hmessage hsender
    rw [box_bulk, box_bulk]
    unfold bulk
    rw [hactive, hmessage, hsender]

theorem Faded.quiet (h : Faded s s') : IpcQuiet s s' := by
  intro b
  refine ⟨fun hopen => ⟨h.active hopen.1, ?_⟩, fun hclosed => ?_⟩
  · obtain ⟨⟨n, hn⟩, hmessages⟩ := h.endpoint b.endpoint hopen.1
    apply box_congr _ hmessages
    rw [hn]
    rfl
  · apply idle_box h.tables
    rw [Bool.eq_false_iff]
    intro hactive
    exact hclosed ⟨hactive, (frame_eq (h.frame hactive)).2.1⟩

theorem IpcQuiet.of_frame (htables : IpcTables s')
    (hframe : ∀ slot, (s'.endpoints slot).frame = (s.endpoints slot).frame)
    (htraffic : ∀ slot, (s'.endpoints slot).traffic = (s.endpoints slot).traffic)
    (hmessages : s'.messages = s.messages) : IpcQuiet s s' := by
  intro b
  obtain ⟨hactive, hgeneration, -⟩ := frame_eq (hframe b.endpoint)
  refine ⟨fun hopen => ⟨hactive ▸ hopen.1, ?_⟩, fun hclosed => ?_⟩
  · exact box_congr (htraffic b.endpoint) (by rw [hmessages])
  · apply idle_box htables
    rw [Bool.eq_false_iff]
    exact fun hopen => hclosed ⟨hopen, hgeneration⟩

variable {k : Fin ipcMaxCapabilitiesPerProcess}

theorem IpcState.Created.quiet {s1 : IpcState} (h : s.Created p slot s1 k i) :
    IpcQuiet s ((s1.opened p slot).grant p k i (s1.nextHandle slot) slot ipcAllRights) := by
  intro b
  have hquiet := h.faded.quiet b
  have hendpoints : ((s1.opened p slot).grant p k i (s1.nextHandle slot) slot ipcAllRights).endpoints =
      (s1.opened p slot).endpoints := rfl
  by_cases hslot : b.endpoint = slot
  · rw [hendpoints, hslot, opened_self]
    refine ⟨fun hopen => ?_, fun _ => ?_⟩
    · have hlater := h.faded.generation slot
      obtain ⟨hlt, -, -⟩ := succ_generation h.bound
      have hsame : (s1.endpoints slot).generation + 1 = (s.endpoints slot).generation := hopen.2
      rw [← hsame] at hlater
      exact absurd hlt (UInt32.not_lt.mpr hlater)
    · cases b with
      | queue slot' =>
        obtain rfl : slot' = slot := hslot
        rw [box_queue]
        unfold queue
        rw [hendpoints, opened_self]
        rfl
      | bulk slot' =>
        obtain rfl : slot' = slot := hslot
        rw [box_bulk]
        unfold bulk
        rw [hendpoints, opened_self]
        rfl
  · have hsame : (s1.opened p slot).endpoints b.endpoint = s1.endpoints b.endpoint := by
      unfold opened
      rw [endpoints_setEndpoint, if_neg hslot]
    have hbox : ((s1.opened p slot).grant p k i (s1.nextHandle slot) slot ipcAllRights).box b =
        s1.box b := by
      apply box_congr
      · rw [hendpoints, hsame]
      · rfl
    rw [hendpoints, hsame, hbox]
    exact hquiet

theorem IpcState.Delegated.quiet {source target : IpcProcessSlot} {rights : UInt32}
    (htables : IpcTables s)
    (h : s.Delegated source target handle rights slot k i) :
    IpcQuiet s (s.delegated target handle rights slot k i) := by
  apply IpcQuiet.of_frame (htables.delegated h) delegated_frame
  · intro other
    unfold delegated
    rw [endpoints_setEndpoint]
    split
    next hslot =>
      rw [hslot]
      rfl
    next => rfl
  · rfl

end IpcQuiet

section Steps

variable {m : IpcMail}

theorem IpcQuiet.carried (h : IpcQuiet s s') (htables : IpcTables s) (hcarried : Carried s m) :
    Carried s' (m.discard (s.lost s')) := by
  intro b
  obtain ⟨hsame, hgone⟩ := h b
  rw [Mail.letters_discard]
  by_cases hopen : (s'.endpoints b.endpoint).active = true ∧
      (s'.endpoints b.endpoint).generation = (s.endpoints b.endpoint).generation
  · obtain ⟨-, hbox⟩ := hsame hopen
    rw [if_neg, hbox]
    · exact hcarried b
    · unfold lost
      rw [hopen.1, hopen.2]
      simp
  · rw [hgone hopen]
    split
    · rfl
    next hkept =>
      have hidle : (s.endpoints b.endpoint).active = false := by
        unfold lost at hkept
        by_contra hactive
        rw [Bool.not_eq_false] at hactive
        rw [hactive] at hkept
        apply hopen
        simpa using hkept
      rw [hcarried b, idle_box htables hidle]

variable {b : IpcBox} {message : IpcMessage} {sender receiver : IpcIdentity}

theorem Stirred.box_elsewhere (h : Stirred slot s s') (hb : b.endpoint ≠ slot) :
    s'.box b = s.box b := by
  apply box_congr
  · rw [h.endpoint _ hb]
  · exact h.messages _ hb

theorem Stirred.box_but_queue (h : Stirred slot s s') (hbulk : s'.bulk slot = s.bulk slot)
    (hb : b ≠ .queue slot) : s'.box b = s.box b := by
  cases b with
  | queue other =>
    apply h.box_elsewhere
    rintro rfl
    exact hb rfl
  | bulk other =>
    by_cases hother : other = slot
    · rw [hother, box_bulk, box_bulk, hbulk]
    · exact h.box_elsewhere hother

theorem Stirred.box_but_bulk (h : Stirred slot s s') (hqueue : s'.queue slot = s.queue slot)
    (hb : b ≠ .bulk slot) : s'.box b = s.box b := by
  cases b with
  | bulk other =>
    apply h.box_elsewhere
    rintro rfl
    exact hb rfl
  | queue other =>
    by_cases hother : other = slot
    · rw [hother, box_queue, box_queue, hqueue]
    · exact h.box_elsewhere hother

def IpcKept (s : IpcState) (m : IpcMail) : Prop := m.Sound ∧ Carried s m

theorem Posted.kept (h : Posted slot message sender s s') (hkept : IpcKept s m) :
    IpcKept s' (m.send (.queue slot) sender message.content) := by
  refine ⟨hkept.1.send _ _ _, fun b => ?_⟩
  rw [Mail.letters_send hkept.1]
  split
  next hb =>
    rw [hb, hkept.2, box_queue, box_queue, h.queue, List.map_append, List.map_append,
      List.map_singleton, List.map_singleton, content_queued h.valid le_rfl]
  next hb => rw [hkept.2 b, h.stirred.box_but_queue h.bulk hb]

theorem BulkPosted.kept {message : IpcBulkMessage} (h : BulkPosted slot message sender s s')
    (hkept : IpcKept s m) :
    IpcKept s' (m.send (.bulk slot) sender message.content) := by
  refine ⟨hkept.1.send _ _ _, fun b => ?_⟩
  rw [Mail.letters_send hkept.1]
  split
  next hb =>
    rw [hb, hkept.2, box_bulk, box_bulk, h.bulk, h.empty, List.map_nil, List.map_nil, List.nil_append,
      List.map_singleton, List.map_singleton, content_bulk h.valid]
  next hb => rw [hkept.2 b, h.stirred.box_but_bulk h.queue hb]

theorem Carried.place {o : Nat} {content : IpcContent} (h : Carried s m)
    (hat : (s.box b)[o]? = some (content, sender)) :
    ∃ i post, (m.waiting b)[o]? = some i ∧ m.sent[i]? = some post ∧ post.letter = content ∧
      post.sender = sender := by
  apply Mail.letters_place
  rw [h b, List.getElem?_map, hat, Option.map_some]

theorem Fetched.kept {offset : Nat} (h : Fetched slot receiver offset message s s')
    (hkept : IpcKept s m) :
    IpcKept s' (m.take (.queue slot) offset receiver message.content) := by
  obtain ⟨sender, hat, hother⟩ := h.taken
  have hbox : (s.box (.queue slot))[offset]? = some (message.content, sender) := by
    rw [box_queue, List.getElem?_map, hat, Option.map_some]
  obtain ⟨i, post, hplace, hpost, hletter, hsender⟩ := hkept.2.place hbox
  refine ⟨hkept.1.take hplace hpost hletter.symm ?_ ?_, fun b => ?_⟩
  · rw [hsender]
    exact hother.symm
  · intro o ho j q hj hq
    have hletters := Mail.letters_of_place hj hq
    rw [hkept.2, List.getElem?_map, Option.map_eq_some_iff] at hletters
    obtain ⟨_, hwaits, hsame⟩ := hletters
    rw [box_queue, List.getElem?_map, Option.map_eq_some_iff] at hwaits
    obtain ⟨value, hvalue, rfl⟩ := hwaits
    have hown := h.passed o ho value hvalue
    rw [← hown]
    exact (congrArg Prod.snd (Option.some.inj hsame)).symm
  · rw [Mail.letters_take hplace]
    split
    next hb => rw [hb, hkept.2, box_queue, box_queue, h.queue, List.eraseIdx_map, List.eraseIdx_map]
    next hb => rw [hkept.2 b, h.stirred.box_but_queue h.bulk hb]

theorem BulkFetched.kept {message : IpcBulkMessage} (h : BulkFetched slot receiver message s s')
    (hkept : IpcKept s m) :
    IpcKept s' (m.take (.bulk slot) 0 receiver message.content) := by
  obtain ⟨sender, hat, hother⟩ := h.taken
  have hbox : (s.box (.bulk slot))[0]? = some (message.content, sender) := by
    rw [box_bulk, hat]
    rfl
  obtain ⟨i, post, hplace, hpost, hletter, hsender⟩ := hkept.2.place hbox
  refine ⟨hkept.1.take hplace hpost hletter.symm ?_ ?_, fun b => ?_⟩
  · rw [hsender]
    exact hother.symm
  · exact fun o ho => absurd ho (Nat.not_lt_zero o)
  · rw [Mail.letters_take hplace]
    split
    next hb =>
      rw [hb, hkept.2, box_bulk, box_bulk, hat, h.bulk]
      rfl
    next hb => rw [hkept.2 b, h.stirred.box_but_bulk h.queue hb]

theorem IpcQuiet.kept (h : IpcQuiet s s') (htables : IpcTables s) (hkept : IpcKept s m) :
    IpcKept s' (m.discard (s.lost s')) :=
  ⟨hkept.1.discard _, h.carried htables hkept.2⟩

theorem mail_error {e : IpcError} : s.mail s' m call (.error e) = m.discard (s.lost s') := by
  cases call with
  | _ => rfl

theorem mail_waits : s.mail s' m call (.ok .waits) = m.discard (s.lost s') := by
  cases call with
  | _ => rfl

theorem mail_done : s.mail s' m call (.ok .done) = m.discard (s.lost s') := by
  cases call with
  | _ => rfl

theorem IpcStep.kept (hstep : IpcStep s call r s') (htables : IpcTables s) (hkept : IpcKept s m) :
    IpcKept s' (s.mail s' m call r) := by
  cases hstep with
  | failed h =>
    rw [mail_error]
    exact h.quiet.kept htables hkept
  | waits _ =>
    rw [mail_waits]
    exact (Faded.refl htables).quiet.kept htables hkept
  | created h => exact h.quiet.kept htables hkept
  | delegated h =>
    rw [mail_done]
    exact (h.quiet htables).kept htables hkept
  | released h _ _ => exact h.quiet.kept htables hkept
  | closed h _ _ => exact h.quiet.kept htables hkept
  | cleaned h _ => exact h.quiet.kept htables hkept
  | quarantined h _ => exact h.quiet.kept htables hkept
  | sent _ h => exact h.kept hkept
  | bulkSent _ h => exact h.kept hkept
  | externalSent _ h => exact h.kept hkept
  | kernelSent h => exact h.kept hkept
  | received _ h => exact h.kept hkept
  | @bulkReceived p handle buffer patience slot got s' _ h =>
    obtain ⟨offset, message⟩ := got
    rcases h with ⟨o, small, hgot, hfetched⟩ | ⟨hnone, hfetched⟩
    · obtain ⟨rfl, rfl⟩ := Prod.mk.inj hgot
      have hmail := hfetched.kept hkept
      rw [← content_queued hfetched.valid (show _ ≤ ipcBulkMaxMessageSize by decide)] at hmail
      exact hmail
    · obtain rfl : offset = none := hnone
      exact hfetched.kept hkept
  | started h =>
    have hquiet : IpcQuiet s (s.started _ _) :=
      IpcQuiet.of_frame (htables.started h) (fun _ => rfl) (fun _ => rfl) rfl
    exact hquiet.kept htables hkept
  | stopped h => exact h.quiet.kept htables hkept
  | damaged _ h =>
    rw [mail_done]
    exact h.quiet.kept htables hkept

end Steps

theorem letters_concat (s : IpcState) (calls : List IpcCall) (call : IpcCall) :
    s.letters (calls ++ [call]) = ((s.letters calls).1.after call,
      (s.letters calls).1.mail ((s.letters calls).1.after call) (s.letters calls).2 call
        ((s.letters calls).1.result call)) := by
  unfold letters
  rw [List.foldl_append]
  rfl

theorem letters_kept (calls : List IpcCall) : IpcTables (ipcInit.letters calls).1 ∧
    IpcKept (ipcInit.letters calls).1 (ipcInit.letters calls).2 := by
  induction calls using List.reverseRecOn with
  | nil =>
    refine ⟨tables_init, Mail.sound_empty, fun b => ?_⟩
    cases b with
    | queue slot => rfl
    | bulk slot => rfl
  | append_singleton calls call ih =>
    obtain ⟨htables, hkept⟩ := ih
    have hstep := step_after htables call
    rw [letters_concat]
    exact ⟨(hstep.move htables).tables htables, hstep.kept htables hkept⟩

/-- What holds of the messages of a run: of those read, those that wait, and who reads them. -/
structure MessagesDelivered (s : IpcState) (m : IpcMail) : Prop where
  sound : m.Sound
  waiting : ∀ b, m.letters b = (s.box b).map some
  received : ∀ p handle buffer patience slot offset message,
    s.result (.receive p handle buffer patience) = .ok (.received slot offset message) →
      s.Resolved p handle ipcRightReceive slot
  bulkReceived : ∀ p handle buffer patience slot offset message,
    s.result (.receiveBulk p handle buffer patience) = .ok (.bulkReceived slot offset message) →
      s.Resolved p handle ipcRightReceive slot

theorem ipcMessages_delivered (calls : List IpcCall) :
    MessagesDelivered (ipcInit.letters calls).1 (ipcInit.letters calls).2 := by
  obtain ⟨htables, hsound, hcarried⟩ := letters_kept calls
  generalize (ipcInit.letters calls).1 = s at htables hcarried ⊢
  refine ⟨hsound, hcarried, ?_, ?_⟩
  · intro p handle buffer patience slot offset message hok
    have hstep := step_after htables (.receive p handle buffer patience)
    rw [hok] at hstep
    generalize s.after (.receive p handle buffer patience) = s' at hstep
    cases hstep with
    | received hresolved _ => exact hresolved
  · intro p handle buffer patience slot offset message hok
    have hstep := step_after htables (.receiveBulk p handle buffer patience)
    rw [hok] at hstep
    generalize s.after (.receiveBulk p handle buffer patience) = s' at hstep
    generalize hgot : (offset, message) = got at hstep
    cases hstep with
    | bulkReceived hresolved _ => exact hresolved

def sampleMessage : IpcMessage := ⟨1, 140, 1, Vector.replicate ipcMaxMessageSize 0⟩

def sampleBulkMessage : IpcBulkMessage := ⟨2, 2060, 1, Vector.replicate ipcBulkMaxMessageSize 0⟩

/-- A queued message is read before a bulk message that the same process sent before it. -/
theorem ipcReceiveBulk_overtakes : ¬ ∀ calls : List IpcCall,
    (ipcInit.letters calls).2.delivered.Pairwise fun d d' =>
      ((ipcInit.letters calls).2.sent[d.index]?.map fun post => (post.box.endpoint, post.sender)) =
        ((ipcInit.letters calls).2.sent[d'.index]?.map fun post =>
          (post.box.endpoint, post.sender)) → d.index < d'.index := by
  intro h
  have hrun := h [.start firstProcess ⟨1, 1⟩, .start secondProcess ⟨2, 1⟩, .create firstProcess,
    .delegate firstProcess (ipcMakeHandle firstEndpoint 1) secondProcess 3,
    .sendBulk firstProcess (ipcMakeHandle firstEndpoint 1) sampleBulkMessage .none,
    .send firstProcess (ipcMakeHandle firstEndpoint 1) sampleMessage .none,
    .receiveBulk secondProcess (ipcMakeHandle firstEndpoint 1) sampleBulkMessage .none,
    .receiveBulk secondProcess (ipcMakeHandle firstEndpoint 1) sampleBulkMessage .none]
  exact absurd hrun (by decide +kernel)

end ReistOs
