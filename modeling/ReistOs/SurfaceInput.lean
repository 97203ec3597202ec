import ReistOs.RingBuffer

/-! The input events that wait at the surfaces of `userspace/gui/compositor/desktop_surface.c`. -/

namespace ReistOs.Surface

structure SurfaceInput where
  (type serial : UInt32)
  (x y deltaX deltaY : Int32)
  (button pressed key reserved : UInt32)

def pointerMotion : UInt32 := 1
def pointerButton : UInt32 := 2
def keyboard : UInt32 := 3
def pointerScroll : UInt32 := 4

def maxPendingEvents : Nat := 16
def desktopSurfaceCapacity : Nat := 8

inductive SurfaceStatus
  | ok | einval | ecapacity | estate
  deriving DecidableEq

structure SurfaceOwner where
  (pid processGeneration : UInt32)
  deriving DecidableEq

structure SurfaceHandle where
  (id generation : UInt32)

structure DesktopSurfaceSlot where
  active : Bool
  owner : SurfaceOwner
  handle : SurfaceHandle
  (width height : UInt32)
  scrollEnabled : Bool
  pendingEvents : Nat → SurfaceInput
  (eventHead eventCount : Nat)

abbrev SurfaceIndex := Fin desktopSurfaceCapacity

def findSlot (slots : SurfaceIndex → DesktopSurfaceSlot) (owner : SurfaceOwner)
    (handle : SurfaceHandle) : Option SurfaceIndex :=
  if owner.pid = 0 ∨ owner.processGeneration = 0 ∨ handle.id = 0 then none
  else if h : handle.id.toNat - 1 < desktopSurfaceCapacity then
    let slot := slots ⟨handle.id.toNat - 1, h⟩
    if !slot.active ∨ slot.handle.generation ≠ handle.generation ∨ slot.owner ≠ owner then none
    else some ⟨handle.id.toNat - 1, h⟩
  else none

def scrollValid (event : SurfaceInput) : Bool :=
  event.type = pointerScroll ∧ event.serial ≠ 0 ∧ (event.deltaX ≠ 0 ∨ event.deltaY ≠ 0) ∧
    event.button = 0 ∧ event.pressed = 0 ∧ event.key = 0 ∧ event.reserved = 0

namespace DesktopSurfaceSlot

def refuses (slot : DesktopSurfaceSlot) (event : SurfaceInput) : Bool :=
  event.serial = 0 ∨ event.type < pointerMotion ∨ event.type > pointerScroll ∨
    (event.type = pointerScroll ∧ (!slot.scrollEnabled ∨ !scrollValid event)) ∨
    (event.type ≠ keyboard ∧ (event.x < 0 ∨ event.y < 0 ∨ event.x.toUInt32 ≥ slot.width ∨
      event.y.toUInt32 ≥ slot.height)) ∨
    (event.type = pointerButton ∧ event.button = 0)

def event (slot : DesktopSurfaceSlot) (offset : Nat) : SurfaceInput :=
  slot.pendingEvents ((slot.eventHead + offset) % maxPendingEvents)

def setEvent (slot : DesktopSurfaceSlot) (offset : Nat) (event : SurfaceInput) :
    DesktopSurfaceSlot :=
  { slot with pendingEvents :=
      Function.update slot.pendingEvents ((slot.eventHead + offset) % maxPendingEvents) event }

/-- The inner loop of `discard_oldest_pointer_motion`. -/
def shiftEvents (slot : DesktopSurfaceSlot) (shift : Nat) : Nat → DesktopSurfaceSlot
  | 0 => slot
  | n + 1 => (slot.setEvent shift (slot.event (shift + 1))).shiftEvents (shift + 1) n

def discardFrom (slot : DesktopSurfaceSlot) (offset : Nat) : Nat → DesktopSurfaceSlot
  | 0 => slot
  | n + 1 =>
    if (slot.event offset).type ≠ pointerMotion then slot.discardFrom (offset + 1) n
    else { slot.shiftEvents offset n with eventCount := slot.eventCount - 1 }

def discardOldestPointerMotion (slot : DesktopSurfaceSlot) : DesktopSurfaceSlot :=
  slot.discardFrom 0 slot.eventCount

def append (slot : DesktopSurfaceSlot) (event : SurfaceInput) : DesktopSurfaceSlot :=
  { slot.setEvent slot.eventCount event with eventCount := slot.eventCount + 1 }

/-- `desktop_surface_input_enqueue` on the slot that is found. -/
def inputEnqueue (slot : DesktopSurfaceSlot) (event : SurfaceInput) :
    SurfaceStatus × DesktopSurfaceSlot :=
  if slot.refuses event then (.einval, slot)
  else if event.type = pointerMotion ∧ slot.eventCount ≠ 0 ∧
      (slot.event (slot.eventCount - 1)).type = pointerMotion then
    (.ok, slot.setEvent (slot.eventCount - 1) event)
  else
    let slot :=
      if slot.eventCount ≥ maxPendingEvents then slot.discardOldestPointerMotion else slot
    if slot.eventCount ≥ maxPendingEvents then (.ecapacity, slot)
    else (.ok, slot.append event)

/-- `desktop_surface_input_dequeue` on the slot that is found. -/
def inputDequeue (slot : DesktopSurfaceSlot) : Except SurfaceStatus (SurfaceInput × DesktopSurfaceSlot) :=
  if slot.eventCount = 0 then .error .estate
  else .ok (slot.pendingEvents slot.eventHead, { slot with
    eventHead := (slot.eventHead + 1) % maxPendingEvents
    eventCount := slot.eventCount - 1 })

end DesktopSurfaceSlot

open DesktopSurfaceSlot

/-- A surface with the events that it has accepted and delivered. -/
structure SurfaceLog where
  slot : DesktopSurfaceSlot
  (accepted delivered : List SurfaceInput)

inductive SurfaceCall
  | enqueue (event : Option SurfaceInput)
  | dequeue (out : Bool)

def SurfaceLog.call (log : SurfaceLog) : SurfaceCall → SurfaceStatus × SurfaceLog
  | .enqueue (some event) =>
    let (status, slot) := log.slot.inputEnqueue event
    (status, { log with
      slot := slot
      accepted := if status = .ok then log.accepted ++ [event] else log.accepted })
  | .dequeue true =>
    match log.slot.inputDequeue with
    | .error status => (status, log)
    | .ok (event, slot) =>
      (.ok, { log with
        slot := slot
        delivered := log.delivered ++ [event] })
  | _ => (.einval, log)

def surfaceCall (logs : SurfaceIndex → SurfaceLog) (owner : SurfaceOwner) (handle : SurfaceHandle)
    (call : SurfaceCall) : SurfaceStatus × (SurfaceIndex → SurfaceLog) :=
  match findSlot (fun i => (logs i).slot) owner handle with
  | none => (.einval, logs)
  | some i => (((logs i).call call).1, Function.update logs i ((logs i).call call).2)

/-- The calls on surfaces that start with nothing queued, as they are created. -/
def surfaceRun (slots : SurfaceIndex → DesktopSurfaceSlot)
    (calls : List (SurfaceOwner × SurfaceHandle × SurfaceCall)) : SurfaceIndex → SurfaceLog :=
  calls.foldl (fun logs (owner, handle, call) => (surfaceCall logs owner handle call).2) fun i =>
    ⟨{ slots i with eventHead := 0, eventCount := 0 }, [], []⟩

/-- An event joins a queue, in which at most one motion gives way to it. -/
inductive Joined (event : SurfaceInput) : List SurfaceInput → List SurfaceInput → Prop
  | appended {queue} (hroom : queue.length < maxPendingEvents) : Joined event queue (queue ++ [event])
  | replaced {queue last} (hlast : last.type = pointerMotion) (hevent : event.type = pointerMotion) :
    Joined event (queue ++ [last]) (queue ++ [event])
  | discarded {queue i motion} (hat : queue[i]? = some motion) (hmotion : motion.type = pointerMotion)
      (hfull : queue.length = maxPendingEvents) : Joined event queue (queue.eraseIdx i ++ [event])

/-- The events that a surface accepted, those that it delivered, and its queue. -/
inductive Handled : List SurfaceInput → List SurfaceInput → List SurfaceInput → Prop
  | created : Handled [] [] []
  | enqueued {accepted delivered queue event queue'} (h : Handled accepted delivered queue)
      (hjoined : Joined event queue queue') : Handled (accepted ++ [event]) delivered queue'
  | dequeued {accepted delivered event queue} (h : Handled accepted delivered (event :: queue)) :
    Handled accepted (delivered ++ [event]) queue

def lasting (event : SurfaceInput) : Bool := event.type ≠ pointerMotion

def DesktopSurfaceSlot.queue (slot : DesktopSurfaceSlot) : List SurfaceInput :=
  (List.range slot.eventCount).map slot.event

def DesktopSurfaceSlot.Bounded (slot : DesktopSurfaceSlot) : Prop :=
  slot.eventHead < maxPendingEvents ∧ slot.eventCount ≤ maxPendingEvents

variable {slot slot' : DesktopSurfaceSlot} {event motion : SurfaceInput}
  {accepted delivered queue queue' : List SurfaceInput} {i j n offset : Nat}

theorem filter_eraseIdx (hat : queue[i]? = some motion) (hmotion : lasting motion = false) :
    (queue.eraseIdx i).filter lasting = queue.filter lasting := by
  induction queue generalizing i with
  | nil => rfl
  | cons x queue ih =>
    cases i with
    | zero =>
      obtain rfl : x = motion := Option.some.inj hat
      rw [List.eraseIdx_cons_zero, List.filter_cons_of_neg (by simp [hmotion])]
    | succ i => rw [List.eraseIdx_cons_succ, List.filter_cons, List.filter_cons, ih hat]

theorem Joined.kept (h : Joined event queue queue') : queue'.Sublist (queue ++ [event]) ∧
    queue'.filter lasting = (queue ++ [event]).filter lasting := by
  cases h with
  | appended => exact ⟨.refl _, rfl⟩
  | replaced hlast hevent => exact ⟨by simp, by simp [lasting, hlast]⟩
  | discarded hat hmotion =>
    refine ⟨(List.eraseIdx_sublist _ _).append_right _, ?_⟩
    rw [List.filter_append, List.filter_append, filter_eraseIdx hat (by simp [lasting, hmotion])]

theorem Handled.kept (h : Handled accepted delivered queue) :
    (delivered ++ queue).Sublist accepted ∧
      (delivered ++ queue).filter lasting = accepted.filter lasting := by
  induction h with
  | created => exact ⟨.refl _, rfl⟩
  | @enqueued accepted delivered queue event queue' _ hjoined ih =>
    obtain ⟨hsublist, hfilter⟩ := hjoined.kept
    have hmore := hsublist.append_left delivered
    rw [← List.append_assoc] at hmore
    refine ⟨hmore.trans (ih.1.append_right _), ?_⟩
    rw [List.filter_append, hfilter, ← List.filter_append, ← List.append_assoc, List.filter_append,
      ih.2, List.filter_append]
  | dequeued _ ih => simpa using ih

theorem setEvent_event (hi : i < maxPendingEvents) (hj : j < maxPendingEvents) :
    (slot.setEvent i event).event j = if j = i then event else slot.event j := by
  split
  next h => rw [h]; exact Function.update_self ..
  next h => exact Function.update_of_ne (RingBuffer.cell_ne hj hi h) ..

theorem queue_getElem? :
    slot.queue[i]? = if i < slot.eventCount then some (slot.event i) else none := by
  unfold queue
  split
  next h => simp [h]
  next h => simp [h]

theorem length_queue : slot.queue.length = slot.eventCount := by simp [queue]

theorem queue_succ (h : slot.eventCount = n + 1) :
    slot.queue = (List.range n).map slot.event ++ [slot.event n] := by
  rw [queue, h, List.range_succ, List.map_append, List.map_singleton]

theorem queue_set (hn : n < maxPendingEvents) (hcount : slot'.eventCount = n + 1)
    (hevent : slot'.event = (slot.setEvent n event).event) :
    slot'.queue = (List.range n).map slot.event ++ [event] := by
  rw [queue_succ hcount, hevent, setEvent_event hn hn, if_pos rfl]
  congr 1
  apply List.map_congr_left
  intro k hk
  have hlt : k < n := List.mem_range.mp hk
  rw [setEvent_event hn (hlt.trans hn), if_neg hlt.ne]

theorem append_queue (hroom : slot.eventCount < maxPendingEvents) :
    (slot.append event).queue = slot.queue ++ [event] :=
  queue_set hroom rfl rfl

/-- The events after the gap come one cell to the front. -/
theorem shiftEvents_event (hroom : offset + n < maxPendingEvents) (hi : i < maxPendingEvents) :
    (slot.shiftEvents offset n).event i =
      if offset ≤ i ∧ i < offset + n then slot.event (i + 1) else slot.event i := by
  induction n generalizing slot offset with
  | zero => rw [if_neg (by omega)]; rfl
  | succ n ih =>
    rw [shiftEvents, ih (by omega)]
    by_cases hat : i = offset
    · rw [if_neg (by omega), if_pos (by omega), setEvent_event (by omega) hi, if_pos hat, hat]
    · by_cases hin : offset ≤ i ∧ i < offset + (n + 1)
      · rw [if_pos (by omega), if_pos hin, setEvent_event (by omega) (by omega), if_neg (by omega)]
      · rw [if_neg (by omega), if_neg hin, setEvent_event (by omega) hi, if_neg hat]

theorem shiftEvents_head : (slot.shiftEvents offset n).eventHead = slot.eventHead := by
  induction n generalizing slot offset with
  | zero => rfl
  | succ n ih => rw [shiftEvents, ih]; rfl

theorem discardFrom_queue (hslot : slot.Bounded) (h : offset + n = slot.eventCount) :
    slot.discardFrom offset n = slot ∨ (slot.discardFrom offset n).Bounded ∧
      ∃ i motion, slot.queue[i]? = some motion ∧ motion.type = pointerMotion ∧
        (slot.discardFrom offset n).queue = slot.queue.eraseIdx i := by
  induction n generalizing offset with
  | zero => exact .inl rfl
  | succ n ih =>
    unfold discardFrom
    have hroom := hslot.2
    split
    next => exact ih (by omega)
    next hmotion =>
      refine .inr ⟨⟨shiftEvents_head.trans_lt hslot.1, (Nat.sub_le _ _).trans hroom⟩, offset,
        slot.event offset, by rw [queue_getElem?, if_pos (by omega)], not_not.mp hmotion, ?_⟩
      apply List.ext_getElem?
      intro k
      rw [List.getElem?_eraseIdx, queue_getElem?, queue_getElem?, queue_getElem?]
      show (if k < slot.eventCount - 1 then some ((slot.shiftEvents offset n).event k) else none) = _
      by_cases hbefore : k < offset
      · rw [if_pos (by omega), if_pos hbefore, if_pos (by omega),
          shiftEvents_event (by omega) (by omega), if_neg (by omega)]
      · rw [if_neg hbefore]
        by_cases hk : k + 1 < slot.eventCount
        · rw [if_pos (by omega), if_pos hk, shiftEvents_event (by omega) (by omega),
            if_pos (by omega)]
        · rw [if_neg (by omega), if_neg hk]

theorem inputEnqueue_joined (hslot : slot.Bounded) (event : SurfaceInput) :
    (slot.inputEnqueue event).2.Bounded ∧ if (slot.inputEnqueue event).1 = .ok then
      Joined event slot.queue (slot.inputEnqueue event).2.queue
    else (slot.inputEnqueue event).2 = slot := by
  have hroom := hslot.2
  unfold inputEnqueue
  split
  next => exact ⟨hslot, rfl⟩
  next =>
    split
    next hlast =>
      obtain ⟨hevent, hcount, hlast⟩ := hlast
      obtain ⟨n, hn⟩ := Nat.exists_eq_succ_of_ne_zero hcount
      have hindex : slot.eventCount - 1 = n := by omega
      rw [hindex] at hlast ⊢
      have hset : (slot.setEvent n event).queue = (List.range n).map slot.event ++ [event] :=
        queue_set (by omega) hn rfl
      refine ⟨hslot, ?_⟩
      show Joined event slot.queue (slot.setEvent n event).queue
      rw [queue_succ hn, hset]
      exact .replaced hlast hevent
    next =>
      have hlength : slot.queue.length = slot.eventCount := length_queue
      by_cases hfull : slot.eventCount ≥ maxPendingEvents
      · simp only [if_pos hfull, discardOldestPointerMotion]
        rcases discardFrom_queue hslot (Nat.zero_add _) with hsame | ⟨hless, i, motion, hat, hmotion, hqueue⟩
        · rw [hsame, if_pos hfull]
          exact ⟨hslot, rfl⟩
        · have hi := (List.getElem?_eq_some_iff.mp hat).1
          have hlt : (slot.discardFrom 0 slot.eventCount).eventCount < maxPendingEvents := by
            rw [← length_queue, hqueue, List.length_eraseIdx_of_lt hi]
            omega
          rw [if_neg (Nat.not_le.mpr hlt)]
          refine ⟨⟨hless.1, hlt⟩, ?_⟩
          rw [if_pos rfl, append_queue hlt, hqueue]
          exact .discarded hat hmotion (by omega)
      · have hlt := Nat.not_le.mp hfull
        simp only [if_neg hfull]
        refine ⟨⟨hslot.1, hlt⟩, ?_⟩
        rw [if_pos trivial, append_queue hlt]
        exact .appended (hlength.trans_lt hlt)

theorem inputDequeue_first (hslot : slot.Bounded) (h : slot.inputDequeue = .ok (event, slot')) :
    slot'.Bounded ∧ slot.queue = event :: slot'.queue := by
  unfold inputDequeue at h
  split at h
  next => cases h
  next hcount =>
    cases h
    obtain ⟨n, hn⟩ := Nat.exists_eq_succ_of_ne_zero hcount
    refine ⟨⟨Nat.mod_lt _ (by decide), (Nat.sub_le _ _).trans hslot.2⟩, ?_⟩
    unfold queue
    rw [hn, List.range_succ_eq_map, List.map_cons, List.map_map]
    congr 1
    · rw [event, Nat.add_zero, Nat.mod_eq_of_lt hslot.1]
    · apply List.map_congr_left
      intro k hk
      show slot.event (k + 1) = slot.pendingEvents _
      rw [event, Nat.mod_add_mod, Nat.add_assoc, Nat.add_comm k]

structure SurfaceLog.Sound (log : SurfaceLog) : Prop where
  bounded : log.slot.Bounded
  handled : Handled log.accepted log.delivered log.slot.queue

theorem SurfaceLog.Sound.call {log : SurfaceLog} (h : log.Sound) (call : SurfaceCall) :
    (log.call call).2.Sound ∧ (∀ event, call = .enqueue event → (log.call call).1 ≠ .ok →
      (log.call call).2 = log) := by
  unfold SurfaceLog.call
  split
  next event =>
    obtain ⟨hslot, hjoined⟩ := inputEnqueue_joined h.bounded event
    by_cases hok : (log.slot.inputEnqueue event).1 = .ok
    · rw [if_pos hok] at hjoined
      simp only [if_pos hok]
      exact ⟨⟨hslot, .enqueued h.handled hjoined⟩, fun _ _ hne => absurd hok hne⟩
    · rw [if_neg hok] at hjoined
      simp only [if_neg hok, hjoined]
      exact ⟨h, fun _ _ _ => trivial⟩
  next =>
    split
    next => exact ⟨h, nofun⟩
    next event slot htaken =>
      obtain ⟨hslot, hqueue⟩ := inputDequeue_first h.bounded htaken
      have hhandled := h.handled
      rw [hqueue] at hhandled
      exact ⟨⟨hslot, .dequeued hhandled⟩, nofun⟩
  next => exact ⟨h, fun _ _ _ => rfl⟩

theorem surfaceCall_sound {logs : SurfaceIndex → SurfaceLog} (h : ∀ i, (logs i).Sound)
    (owner : SurfaceOwner) (handle : SurfaceHandle) (call : SurfaceCall) :
    (∀ i, ((surfaceCall logs owner handle call).2 i).Sound) ∧
      ∀ event, call = .enqueue event → (surfaceCall logs owner handle call).1 ≠ .ok →
        (surfaceCall logs owner handle call).2 = logs := by
  unfold surfaceCall
  split
  next => exact ⟨h, fun _ _ _ => rfl⟩
  next k _ =>
    obtain ⟨hsound, hsame⟩ := (h k).call call
    refine ⟨fun i => ?_, fun event hcall hne => ?_⟩
    · show (Function.update logs k _ i).Sound
      by_cases hi : i = k
      · rw [hi, Function.update_self]
        exact hsound
      · rw [Function.update_of_ne hi]
        exact h i
    · rw [hsame event hcall hne, Function.update_eq_self]

theorem surfaceRun_sound (slots : SurfaceIndex → DesktopSurfaceSlot)
    (calls : List (SurfaceOwner × SurfaceHandle × SurfaceCall)) (i : SurfaceIndex) :
    (surfaceRun slots calls i).Sound := by
  induction calls using List.reverseRecOn generalizing i with
  | nil => exact ⟨⟨Nat.succ_pos 15, Nat.zero_le _⟩, .created⟩
  | append_singleton calls call ih =>
    rw [surfaceRun, List.foldl_append]
    exact (surfaceCall_sound ih call.1 call.2.1 call.2.2).1 i

/-- What a surface has delivered and still holds is what it accepted, in order, less the motions
that gave way when an event joined the queue. -/
theorem surfaceRun_delivers (slots : SurfaceIndex → DesktopSurfaceSlot)
    (calls : List (SurfaceOwner × SurfaceHandle × SurfaceCall)) :
    let logs := surfaceRun slots calls
    (∀ i, Handled (logs i).accepted (logs i).delivered (logs i).slot.queue ∧
      ((logs i).delivered ++ (logs i).slot.queue).Sublist (logs i).accepted ∧
      ((logs i).delivered ++ (logs i).slot.queue).filter lasting =
        (logs i).accepted.filter lasting ∧
      (logs i).slot.eventCount ≤ maxPendingEvents) ∧
    ∀ owner handle event, (surfaceCall logs owner handle (.enqueue event)).1 ≠ .ok →
      (surfaceCall logs owner handle (.enqueue event)).2 = logs := by
  have hsound := surfaceRun_sound slots calls
  refine ⟨fun i => ?_, fun owner handle event => ?_⟩
  · have hhandled := (hsound i).handled
    exact ⟨hhandled, hhandled.kept.1, hhandled.kept.2, (hsound i).bounded.2⟩
  · exact (surfaceCall_sound hsound owner handle (.enqueue event)).2 event rfl

end ReistOs.Surface
