import Mathlib.Tactic

/-! The ring of captured kernel characters, between producers and readers whose atomic loads and
stores come in any order. -/

namespace ReistOs

@[irreducible] def kernelLogCapacity : Nat := 32768

structure KernelLogSlot where
  sequence : Nat := 0
  value : UInt8 := 0

/-- The last store of the capture call that reserved a sequence number. -/
inductive CapturePhase
  | reserved
  | value
  | sequence
  deriving DecidableEq

structure KernelLogReadResult where
  oldestCursor : Nat := 0
  snapshotHead : Nat := 0
  nextCursor : Nat := 0
  copied : Nat := 0
  dropped : Nat := 0
  overwritten : Nat := 0

/-- The next load of a read call, or its status. -/
inductive KernelLogReadPhase
  | dropped
  | first
  | value
  | second (value : UInt8)
  | returned (status : Int)
  deriving DecidableEq

structure KernelLogRead where
  phase : KernelLogReadPhase := .returned (-22)
  cursor : Nat := 0
  fromOldest : Bool := false
  capacity : Nat := 0
  buffer : List UInt8 := []
  result : KernelLogReadResult := {}

namespace KernelLogRead

/-- The call up to its load of `reserved_head`. -/
def start (head : Nat) (cursor flags : UInt32) (capacity : Nat) : KernelLogRead :=
  if capacity = 0 ∨ flags &&& ~~~1 ≠ 0 then {}
  else
    { phase := .dropped
      cursor := cursor.toNat
      fromOldest := flags &&& 1 ≠ 0
      capacity := capacity
      result := { snapshotHead := head } }

def finish (r : KernelLogRead) : KernelLogRead :=
  { r with phase := .returned 0, result := { r.result with nextCursor := r.cursor } }

/-- The condition of the copy loop. -/
def loop (r : KernelLogRead) : KernelLogRead :=
  if r.cursor < r.result.snapshotHead ∧ r.result.copied < r.capacity then { r with phase := .first }
  else r.finish

def place (r : KernelLogRead) (cursor dropped : Nat) : KernelLogRead :=
  loop { r with
    cursor := cursor
    result := { r.result with
      oldestCursor := r.result.snapshotHead - kernelLogCapacity
      nextCursor := cursor
      copied := 0
      dropped := dropped
      overwritten := r.result.snapshotHead - kernelLogCapacity } }

/-- One load of the call, with the slot of its cursor and `producer_dropped` as they are. -/
def load (r : KernelLogRead) (slot : KernelLogSlot) (producerDropped : Nat) : KernelLogRead :=
  match r.phase with
  | .dropped =>
    let oldest := r.result.snapshotHead - kernelLogCapacity
    if r.fromOldest then r.place oldest producerDropped
    else if r.cursor < oldest then r.place oldest (min 0xFFFFFFFF (producerDropped + (oldest - r.cursor)))
    else if r.result.snapshotHead < r.cursor then { r with phase := .returned (-22) }
    else r.place r.cursor producerDropped
  | .first => if slot.sequence ≠ r.cursor + 1 then r.finish else { r with phase := .value }
  | .value => { r with phase := .second slot.value }
  | .second value =>
    if slot.sequence ≠ r.cursor + 1 then r.finish
    else loop { r with
      cursor := r.cursor + 1
      buffer := r.buffer ++ [value]
      result := { r.result with copied := r.result.copied + 1 } }
  | .returned _ => r

end KernelLogRead

/-- `captured` is the character of each sequence number; its length is `reserved_head`. -/
structure KernelLog where
  captured : List UInt8 := []
  phases : Nat → CapturePhase := fun _ => .reserved
  slots : Nat → KernelLogSlot := fun _ => {}
  producerDropped : Nat := 0
  reads : Nat → KernelLogRead := fun _ => {}

/-- One atomic load or store that others can see; `id` is a read call. -/
inductive KernelLogEvent
  | capture (value : UInt8)
  | storeValue (sequence : Nat)
  | storeSequence (sequence : Nat)
  | read (id : Nat) (cursor flags : UInt32) (capacity : Nat)
  | load (id : Nat)

namespace KernelLog

def slotOf (s : KernelLog) (sequence : Nat) : KernelLogSlot := s.slots (sequence % kernelLogCapacity)

def putSlot (s : KernelLog) (sequence : Nat) (slot : KernelLogSlot) (phase : CapturePhase) :
    KernelLog :=
  { s with
    slots := Function.update s.slots (sequence % kernelLogCapacity) slot
    phases := Function.update s.phases sequence phase }

def step (s : KernelLog) : KernelLogEvent → KernelLog
  | .capture value =>
    if s.captured.length = 0xFFFFFFFF then
      { s with producerDropped := min 0xFFFFFFFF (s.producerDropped + 1) }
    else { s with captured := s.captured ++ [value] }
  | .storeValue k =>
    match s.captured[k]? with
    | none => s
    | some value =>
      if s.phases k ≠ .reserved then s
      else s.putSlot k { s.slotOf k with value := value } .value
  | .storeSequence k =>
    if s.phases k ≠ .value then s
    else s.putSlot k { s.slotOf k with sequence := k + 1 } .sequence
  | .read id cursor flags capacity =>
    { s with
      reads := Function.update s.reads id
        (KernelLogRead.start s.captured.length cursor flags capacity) }
  | .load id =>
    { s with
      reads := Function.update s.reads id
        ((s.reads id).load (s.slotOf (s.reads id).cursor) s.producerDropped) }

/-- No capture call is between its two stores in the slot of `sequence`. -/
def Settled (s : KernelLog) (sequence : Nat) : Prop :=
  ∀ k, k % kernelLogCapacity = sequence % kernelLogCapacity → s.phases k ≠ .value

/-- A value is stored only in a settled slot that no read has checked and not loaded yet, and no read
passes its first check of a slot that is not settled. -/
def Spares (s : KernelLog) : KernelLogEvent → Prop
  | .storeValue k => s.phases k = .reserved → s.Settled k ∧ ∀ id, (s.reads id).phase = .value →
      (s.reads id).cursor % kernelLogCapacity ≠ k % kernelLogCapacity
  | .load id => (s.reads id).phase = .first →
      (s.slotOf (s.reads id).cursor).sequence = (s.reads id).cursor + 1 → s.Settled (s.reads id).cursor
  | _ => True

def Spared : KernelLog → List KernelLogEvent → Prop
  | _, [] => True
  | s, event :: events => s.Spares event ∧ (s.step event).Spared events

end KernelLog

/-- A call that has copied the characters from `start` to its cursor. -/
structure KernelLogRead.Copied (captured : List UInt8) (start : Nat) (r : KernelLogRead) : Prop where
  cursor : r.cursor = start + r.buffer.length
  bytes : ∀ i, i < r.buffer.length → r.buffer[i]? = captured[start + i]?
  copied : r.result.copied = r.buffer.length
  room : r.buffer.length ≤ r.capacity
  oldest : r.result.oldestCursor = r.result.snapshotHead - kernelLogCapacity
  low : r.result.oldestCursor ≤ start
  high : r.cursor ≤ r.result.snapshotHead
  head : r.result.snapshotHead ≤ captured.length

/-- What a call keeps at each of its loads. -/
def KernelLogRead.Keeps (s : KernelLog) (r : KernelLogRead) : Prop :=
  let more := r.cursor < r.result.snapshotHead ∧ r.result.copied < r.capacity
  match r.phase with
  | .dropped => r.result.snapshotHead ≤ s.captured.length ∧ r.buffer = []
  | .first => more ∧ ∃ start, r.Copied s.captured start
  | .value => more ∧ s.captured[r.cursor]? = some (s.slotOf r.cursor).value ∧
      ∃ start, r.Copied s.captured start
  | .second value => more ∧ s.captured[r.cursor]? = some value ∧ ∃ start, r.Copied s.captured start
  | .returned status => status = 0 → r.result.nextCursor = r.cursor ∧ ∃ start, r.Copied s.captured start

structure KernelLog.Sound (s : KernelLog) : Prop where
  stored : ∀ k, s.phases k = .value → s.captured[k]? = some (s.slotOf k).value
  published : ∀ i k, (s.slots i).sequence = k + 1 →
    (∀ j, j % kernelLogCapacity = i → s.phases j ≠ .value) → s.captured[k]? = some (s.slots i).value
  reads : ∀ id, (s.reads id).Keeps s

section Reads

variable {s t : KernelLog} {r : KernelLogRead} {start : Nat}

theorem KernelLogRead.Copied.at_phase (h : r.Copied s.captured start) (phase : KernelLogReadPhase) :
    ({ r with phase := phase } : KernelLogRead).Copied s.captured start :=
  ⟨h.cursor, h.bytes, h.copied, h.room, h.oldest, h.low, h.high, h.head⟩

theorem KernelLogRead.Copied.finish (h : r.Copied s.captured start) : r.finish.Keeps s :=
  fun _ => ⟨rfl, start, h.cursor, h.bytes, h.copied, h.room, h.oldest, h.low, h.high, h.head⟩

theorem KernelLogRead.Copied.loop (h : r.Copied s.captured start) : r.loop.Keeps s := by
  unfold KernelLogRead.loop
  split
  next hmore =>
    exact ⟨hmore, start, h.at_phase .first⟩
  next => exact h.finish

theorem KernelLogRead.place_keeps {cursor dropped : Nat} (hbuffer : r.buffer = [])
    (hhead : r.result.snapshotHead ≤ s.captured.length)
    (hlow : r.result.snapshotHead - kernelLogCapacity ≤ cursor)
    (hhigh : cursor ≤ r.result.snapshotHead) : (r.place cursor dropped).Keeps s := by
  have hempty : r.buffer.length = 0 := by rw [hbuffer]; rfl
  have hnone : ∀ i, i < r.buffer.length → r.buffer[i]? = s.captured[cursor + i]? := by omega
  unfold KernelLogRead.place
  obtain ⟨oldest, holdest⟩ : ∃ n, n = r.result.snapshotHead - kernelLogCapacity := ⟨_, rfl⟩
  rw [← holdest] at hlow ⊢
  apply @KernelLogRead.Copied.loop s _ cursor
  have hcursor : cursor = cursor + r.buffer.length := by omega
  have hroom : r.buffer.length ≤ r.capacity := by omega
  exact ⟨hcursor, hnone, hempty.symm, hroom, holdest, hlow, hhigh, hhead⟩

theorem KernelLogRead.load_keeps (hs : s.Sound) (h : r.Keeps s)
    (hspares : r.phase = .first → (s.slotOf r.cursor).sequence = r.cursor + 1 → s.Settled r.cursor) :
    (r.load (s.slotOf r.cursor) s.producerDropped).Keeps s := by
  unfold KernelLogRead.Keeps at h
  unfold KernelLogRead.load
  cases hphase : r.phase with
  | dropped =>
    rw [hphase] at h
    obtain ⟨hhead, hbuffer⟩ := h
    dsimp only
    split_ifs with holdest hstale hahead
    · exact place_keeps hbuffer hhead (Nat.le_refl _) (Nat.sub_le _ _)
    · exact place_keeps hbuffer hhead (Nat.le_refl _) (Nat.sub_le _ _)
    · exact fun hstatus => absurd hstatus (by decide)
    · exact place_keeps hbuffer hhead (by omega) (by omega)
  | first =>
    rw [hphase] at h
    obtain ⟨hmore, start, hcopied⟩ := h
    dsimp only
    split
    next => exact hcopied.finish
    next hcheck =>
      have hsequence := not_not.mp hcheck
      have hvalue := hs.published _ _ hsequence (hspares hphase hsequence)
      exact ⟨hmore, hvalue, start, hcopied.at_phase .value⟩
  | value =>
    rw [hphase] at h
    obtain ⟨hmore, hvalue, start, hcopied⟩ := h
    exact ⟨hmore, hvalue, start, hcopied.at_phase (.second _)⟩
  | second value =>
    rw [hphase] at h
    obtain ⟨⟨hhigh, hroom⟩, hvalue, start, hcopied⟩ := h
    dsimp only
    split
    next => exact hcopied.finish
    next =>
      have hcount := hcopied.copied
      have hcursor := hcopied.cursor
      apply @KernelLogRead.Copied.loop s _ start
      refine ⟨?_, ?_, ?_, ?_, hcopied.oldest, hcopied.low, hhigh, hcopied.head⟩
      · show r.cursor + 1 = start + (r.buffer ++ [value]).length
        rw [List.length_append, List.length_singleton]
        omega
      · intro i hi
        rw [List.length_append, List.length_singleton] at hi
        by_cases hlast : i < r.buffer.length
        · rw [List.getElem?_append_left hlast]
          exact hcopied.bytes i hlast
        · obtain rfl : i = r.buffer.length := by omega
          rw [← hcursor, hvalue]
          simp
      · rw [List.length_append, List.length_singleton, ← hcount]
      · show (r.buffer ++ [value]).length ≤ r.capacity
        rw [List.length_append, List.length_singleton]
        omega
  | returned status =>
    unfold KernelLogRead.Keeps
    rw [hphase] at h ⊢
    exact h

/-- A read stays sound where characters are added and the slot it has checked keeps its value. -/
theorem KernelLogRead.Keeps.mono (h : r.Keeps s)
    (hcaptured : ∀ (k : Nat) v, s.captured[k]? = some v → t.captured[k]? = some v)
    (hlength : s.captured.length ≤ t.captured.length)
    (hslot : r.phase = .value → (t.slotOf r.cursor).value = (s.slotOf r.cursor).value) :
    r.Keeps t := by
  have hcopied : ∀ start, r.Copied s.captured start → r.Copied t.captured start := by
    intro start hc
    refine ⟨hc.cursor, ?_, hc.copied, hc.room, hc.oldest, hc.low, hc.high, hc.head.trans hlength⟩
    intro i hi
    have hbyte := hc.bytes i hi
    rw [List.getElem?_eq_getElem hi] at hbyte ⊢
    exact (hcaptured _ _ hbyte.symm).symm
  unfold KernelLogRead.Keeps at h ⊢
  cases hphase : r.phase with
  | dropped =>
    rw [hphase] at h
    exact ⟨h.1.trans hlength, h.2⟩
  | first =>
    rw [hphase] at h
    exact ⟨h.1, h.2.imp hcopied⟩
  | value =>
    rw [hphase] at h
    rw [hslot hphase]
    exact ⟨h.1, hcaptured _ _ h.2.1, h.2.2.imp hcopied⟩
  | second value =>
    rw [hphase] at h
    exact ⟨h.1, hcaptured _ _ h.2.1, h.2.2.imp hcopied⟩
  | returned status =>
    rw [hphase] at h
    exact fun hstatus => ⟨(h hstatus).1, (h hstatus).2.imp hcopied⟩

theorem KernelLogRead.start_keeps {cursor flags : UInt32} {capacity : Nat} :
    (KernelLogRead.start s.captured.length cursor flags capacity).Keeps s := by
  unfold KernelLogRead.start
  split
  next => exact fun hstatus => absurd hstatus (by decide)
  next => exact ⟨Nat.le_refl _, rfl⟩

end Reads

namespace KernelLog

variable {s : KernelLog} {event : KernelLogEvent}

variable {phase : CapturePhase} {slot : KernelLogSlot}

theorem putSlot_slots {k i : Nat} :
    (s.putSlot k slot phase).slots i = if i = k % kernelLogCapacity then slot else s.slots i :=
  Function.update_apply _ _ _ _

theorem putSlot_phases {k j : Nat} :
    (s.putSlot k slot phase).phases j = if j = k then phase else s.phases j :=
  Function.update_apply _ _ _ _

theorem storeValue_sound {k : Nat} {value : UInt8} (hs : s.Sound) (hvalue : s.captured[k]? = some value)
    (hsettled : s.Settled k) (hreads : ∀ id, (s.reads id).phase = .value →
      (s.reads id).cursor % kernelLogCapacity ≠ k % kernelLogCapacity) :
    (s.putSlot k { s.slotOf k with value := value } .value).Sound := by
  refine ⟨?_, ?_, ?_⟩
  · intro j hj
    rw [putSlot_phases] at hj
    unfold slotOf
    rw [putSlot_slots]
    split at hj
    next heq =>
      subst heq
      rw [if_pos rfl]
      exact hvalue
    next =>
      have hother : j % kernelLogCapacity ≠ k % kernelLogCapacity := fun h => hsettled j h hj
      rw [if_neg hother]
      exact hs.stored j hj
  · intro i m hsequence hfree
    rw [putSlot_slots] at hsequence ⊢
    by_cases hi : i = k % kernelLogCapacity
    · exact absurd (by rw [putSlot_phases, if_pos rfl]) (hfree k hi.symm)
    · rw [if_neg hi] at hsequence ⊢
      refine hs.published i m hsequence fun j hj hstored => hfree j hj ?_
      have hne : j ≠ k := fun h => hi (h ▸ hj.symm)
      rw [putSlot_phases, if_neg hne, hstored]
  · intro id
    refine (hs.reads id).mono (fun _ _ h => h) (Nat.le_refl _) fun hphase => ?_
    unfold slotOf
    rw [putSlot_slots, if_neg (hreads id hphase)]

theorem storeSequence_sound {k : Nat} (hs : s.Sound) (hk : s.phases k = .value) :
    (s.putSlot k { s.slotOf k with sequence := k + 1 } .sequence).Sound := by
  have hvalue : ∀ i, ((s.putSlot k { s.slotOf k with sequence := k + 1 } .sequence).slots i).value =
      (s.slots i).value := by
    intro i
    rw [putSlot_slots]
    split
    next hi => rw [hi]; rfl
    next => rfl
  refine ⟨?_, ?_, ?_⟩
  · intro j hj
    rw [putSlot_phases] at hj
    split at hj
    next => cases hj
    next => exact (hs.stored j hj).trans (congrArg some (hvalue _).symm)
  · intro i m hsequence hfree
    rw [hvalue]
    rw [putSlot_slots] at hsequence
    split at hsequence
    next hi =>
      obtain rfl : k = m := Nat.succ.inj hsequence
      rw [hi]
      exact hs.stored k hk
    next hi =>
      refine hs.published i m hsequence fun j hj hstored => hfree j hj ?_
      have hne : j ≠ k := fun h => hi (h ▸ hj.symm)
      rw [putSlot_phases, if_neg hne, hstored]
  · intro id
    exact (hs.reads id).mono (fun _ _ h => h) (Nat.le_refl _) fun _ => hvalue _

theorem Sound.update (hs : s.Sound) {id : Nat} {r : KernelLogRead} (hr : r.Keeps s) :
    ({ s with reads := Function.update s.reads id r } : KernelLog).Sound := by
  refine ⟨hs.stored, hs.published, fun other => ?_⟩
  have hkeeps : (Function.update s.reads id r other).Keeps s := by
    rw [Function.update_apply]
    split
    next => exact hr
    next => exact hs.reads other
  exact hkeeps.mono (fun _ _ h => h) (Nat.le_refl _) fun _ => rfl

theorem step_sound (hs : s.Sound) (hspares : s.Spares event) : (s.step event).Sound := by
  cases event with
  | capture value =>
    unfold step
    dsimp only
    split
    next =>
      exact ⟨hs.stored, hs.published, fun id =>
        (hs.reads id).mono (fun _ _ h => h) (Nat.le_refl _) fun _ => rfl⟩
    next =>
      have happend : ∀ (k : Nat) v, s.captured[k]? = some v →
          (s.captured ++ [value])[k]? = some v := by
        intro k v h
        rw [List.getElem?_append_left (List.getElem?_eq_some_iff.mp h).1]
        exact h
      exact ⟨fun k hk => happend _ _ (hs.stored k hk),
        fun i k hsequence hfree => happend _ _ (hs.published i k hsequence hfree),
        fun id => (hs.reads id).mono happend (by simp) fun _ => rfl⟩
  | storeValue k =>
    unfold step
    dsimp only
    split
    next => exact hs
    next value hvalue =>
      split
      next => exact hs
      next hk =>
        obtain ⟨hsettled, hreads⟩ := hspares (not_not.mp hk)
        exact storeValue_sound hs hvalue hsettled hreads
  | storeSequence k =>
    unfold step
    dsimp only
    split
    next => exact hs
    next hk => exact storeSequence_sound hs (not_not.mp hk)
  | read id cursor flags capacity => exact hs.update KernelLogRead.start_keeps
  | load id => exact hs.update (KernelLogRead.load_keeps hs (hs.reads id) hspares)

theorem run_sound (events : List KernelLogEvent) (hs : s.Sound) (h : s.Spared events) :
    (events.foldl step s).Sound := by
  induction events generalizing s with
  | nil => exact hs
  | cons event events ih => exact ih (step_sound hs h.1) h.2

theorem boot_sound : KernelLog.Sound {} := by
  refine ⟨fun k hk => ?_, fun i k hsequence => ?_, fun id hstatus => ?_⟩
  · cases hk
  · cases hsequence
  · cases hstatus

theorem capture_run (value : UInt8) (n : Nat) (h : s.captured.length + n ≤ 0xFFFFFFFF) :
    (List.replicate n (.capture value)).foldl step s =
      { s with captured := s.captured ++ List.replicate n value } := by
  induction n generalizing s with
  | zero => simp
  | succ n ih =>
    have hroom : s.captured.length ≠ 0xFFFFFFFF := by omega
    have hfirst : s.step (.capture value) = { s with captured := s.captured ++ [value] } :=
      if_neg hroom
    rw [List.replicate_succ, List.foldl_cons, hfirst,
      ih (by rw [List.length_append, List.length_singleton]; omega), List.append_assoc]
    rfl

end KernelLog

/-- In every run that spares the slots under way, a read that returns 0 has copied, up to its next
cursor, the characters whose calls reserved these positions. -/
theorem kernelLogRead_exact (events : List KernelLogEvent) (h : KernelLog.Spared {} events)
    (id : Nat) :
    let s := events.foldl KernelLog.step {}
    let r := s.reads id
    r.phase = .returned 0 → ∃ start, r.result.nextCursor = start + r.buffer.length ∧
      (∀ i, i < r.buffer.length → r.buffer[i]? = s.captured[start + i]?) ∧
      r.result.copied = r.buffer.length ∧ r.buffer.length ≤ r.capacity ∧
      r.result.oldestCursor = r.result.snapshotHead - kernelLogCapacity ∧
      r.result.oldestCursor ≤ start ∧ r.result.nextCursor ≤ r.result.snapshotHead ∧
      r.result.snapshotHead ≤ s.captured.length := by
  intro s r hphase
  have hkeeps : r.Keeps s := (KernelLog.run_sound events KernelLog.boot_sound h).reads id
  unfold KernelLogRead.Keeps at hkeeps
  rw [hphase] at hkeeps
  obtain ⟨hnext, start, hc⟩ := hkeeps rfl
  rw [hnext]
  exact ⟨start, hc.cursor, hc.bytes, hc.copied, hc.room, hc.oldest, hc.low, hc.high, hc.head⟩

/-- One character, and a read call up to its first check. -/
def kernelLogFirst : List KernelLogEvent :=
  [.capture 97, .storeValue 0, .storeSequence 0, .read 0 0 0 16, .load 0, .load 0]

theorem kernelLogFirst_state : kernelLogFirst.foldl KernelLog.step {} =
    { captured := [97]
      phases := Function.update (Function.update (fun _ => .reserved) 0 .value) 0 .sequence
      slots := Function.update (Function.update (fun _ => {}) 0 ⟨0, 97⟩) 0 ⟨1, 97⟩
      reads := Function.update (fun _ => {}) 0 ⟨.value, 0, false, 16, [], ⟨0, 1, 0, 0, 0, 0⟩⟩ } := by
  simp [kernelLogFirst, KernelLog.step, KernelLog.putSlot, KernelLog.slotOf, KernelLogRead.start,
    KernelLogRead.load, KernelLogRead.place, KernelLogRead.loop, kernelLogCapacity]

/-- The call goes on undisturbed. -/
def kernelLogWhole : List KernelLogEvent := kernelLogFirst ++ [.load 0, .load 0]

/-- The ring goes round before the call loads the value. -/
def kernelLogOverrun : List KernelLogEvent :=
  kernelLogFirst ++ (List.replicate 32768 (.capture 98) ++ [.storeValue 32768, .load 0, .load 0])

theorem kernelLogWhole_spared : KernelLog.Spared {} kernelLogWhole := by
  simp [kernelLogWhole, kernelLogFirst, KernelLog.Spared, KernelLog.Spares, KernelLog.Settled,
    KernelLog.step, KernelLog.putSlot, KernelLog.slotOf, KernelLogRead.start, KernelLogRead.load,
    KernelLogRead.place, KernelLogRead.loop, Function.update_apply, kernelLogCapacity]
  intro k _
  split <;> decide

theorem kernelLogRead_exact_whole :
    let s := kernelLogWhole.foldl KernelLog.step {}
    ∃ start, (s.reads 0).result.nextCursor = start + (s.reads 0).buffer.length ∧
      ∀ i, i < (s.reads 0).buffer.length → (s.reads 0).buffer[i]? = s.captured[start + i]? := by
  have hphase : ((kernelLogWhole.foldl KernelLog.step {}).reads 0).phase = .returned 0 := by
    rw [kernelLogWhole, List.foldl_append, kernelLogFirst_state]
    simp [KernelLog.step, KernelLog.slotOf, KernelLogRead.load, KernelLogRead.loop,
      KernelLogRead.finish, kernelLogCapacity]
  obtain ⟨start, hnext, hbytes, -⟩ := kernelLogRead_exact kernelLogWhole kernelLogWhole_spared 0 hphase
  exact ⟨start, hnext, hbytes⟩

/-- The call returns the character of capture 32768 for position 0. -/
theorem kernelLogRead_overrun :
    let s := kernelLogOverrun.foldl KernelLog.step {}
    (s.reads 0).phase = .returned 0 ∧ (s.reads 0).buffer = [98] ∧
      (s.reads 0).result.nextCursor = 1 ∧ s.captured[0]? = some 97 := by
  rw [kernelLogOverrun, List.foldl_append, List.foldl_append, kernelLogFirst_state,
    KernelLog.capture_run 98 32768 (by simp)]
  obtain ⟨all, hall⟩ : ∃ l : List UInt8, l = [97] ++ List.replicate 32768 98 := ⟨_, rfl⟩
  have hzero : all[0]? = some 97 := by rw [hall]; rfl
  have hlast : all[32768]? = some 98 := by
    rw [hall, List.getElem?_append_right (by simp), List.getElem?_replicate, if_pos (by simp)]
  rw [← hall]
  simp [KernelLog.step, KernelLog.putSlot, KernelLog.slotOf, KernelLogRead.load,
    KernelLogRead.loop, KernelLogRead.finish, kernelLogCapacity, hzero, hlast]

end ReistOs
