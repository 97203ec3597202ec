import ReistOs.Attempt

/-! The file calls of `x86os.h` and `reist/vfs_file_client.h` on a volume that nobody else writes.
Every call draws its reply: any failure, a short transfer, or what it says. A failed call changes
nothing, but a failed write may leave anything in its file. -/

namespace ReistOs

open Attempt

abbrev Path := List UInt8

inductive FileObject where
  | file (bytes : List UInt8)
  | directory
  | symlink
  deriving DecidableEq

def FileObject.bytes : FileObject → List UInt8
  | .file bytes => bytes
  | .directory => []
  | .symlink => []

/-- `x86os_file_info_t`. -/
structure FileInfo where
  name : List UInt8
  type : Nat
  size : Nat
  createTime : Nat
  modifyTime : Nat
  accessTime : Nat
  deriving DecidableEq, Inhabited

/-- What a call draws: its status unless it succeeds, the amount it transfers, the metadata and the
clock, and what a failed write leaves behind. -/
structure FileReply where
  status : Int := 0
  amount : Nat := 0
  info : FileInfo := default
  clock : Nat := 0
  remains : List UInt8 := []

inductive FileEvent where
  | monotonicMs (status : Int)
  | lstat (path : Path) (timeout : Nat) (status : Int)
  | openFlags (path : Path) (timeout : Nat) (opened : Except Int Nat)
  | setTimeout (handle timeout : Nat) (status : Int)
  | fstat (handle : Nat) (found : Except Int FileInfo)
  | readBulk (handle request : Nat) (amount : Int) (bytes : List UInt8)
  | closeHandle (handle : Nat) (status : Int)
  | create (path : Path) (created : Except Int Nat)
  | write (descriptor : Nat) (bytes : List UInt8) (amount : Int)
  | fsync (descriptor : Nat) (status : Int)
  | close (descriptor : Nat) (status : Int)
  | unlink (path : Path) (status : Int)
  | rename (old new : Path) (status : Int)

/-- The volume and the calls made on it. A handle reads from a position of an object, a
descriptor appends to one. -/
structure FileRun (Node ρ : Type) where
  objects : Node → Option FileObject
  readers : List (Node × Nat)
  writers : List Node
  /-- The calls so far. -/
  trace : List FileEvent
  /-- The objects after each of them. -/
  points : List (Node → Option FileObject)
  /-- What the program has reported so far. -/
  result : ρ

abbrev FileProgram (Node ρ α : Type) := Attempt (Nat → FileReply) Int (FileRun Node ρ) α

def foldAscii (value : UInt8) : UInt8 := if 65 ≤ value ∧ value ≤ 90 then value + 32 else value

/-- Which object a path names. Two names of one directory that differ by more than the case of
letters name different objects. -/
structure PathNames (Node : Type) where
  node : Path → Node
  apart : ∀ directory left right : Path, 47 ∉ left → 47 ∉ right →
    node (directory ++ 47 :: left) = node (directory ++ 47 :: right) →
      left.map foldAscii = right.map foldAscii

/-- Names that differ in no more than the case of letters are one name. -/
def foldedNames : PathNames Path where
  node := List.map foldAscii
  apart := by
    intro directory left right _ _ h
    have hcons : foldAscii 47 :: left.map foldAscii = foldAscii 47 :: right.map foldAscii := by
      simpa only [List.map_append, List.map_cons, List.append_cancel_left_eq] using h
    exact (List.cons_eq_cons.mp hcons).2

def fileEnoent : Int := -2
def fileEbadf : Int := -9
def fileEexist : Int := -17
def fileEisdir : Int := -21
def fileEloop : Int := -40

namespace FileRun

variable {Node ρ : Type}

def start (objects : Node → Option FileObject) (result : ρ) : FileRun Node ρ where
  objects
  readers := []
  writers := []
  trace := []
  points := []
  result

def record (event : FileEvent) (s : FileRun Node ρ) : FileRun Node ρ :=
  { s with
    trace := s.trace ++ [event]
    points := s.points ++ [s.objects] }

/-- A handle that was opened reads from the start of the object. -/
def withReader (node : Node) (opened : Except Int Nat) (s : FileRun Node ρ) : FileRun Node ρ :=
  match opened with
  | .ok _ => { s with readers := s.readers ++ [(node, 0)] }
  | .error _ => s

def withFile [DecidableEq Node] (node : Node) (created : Except Int Nat) (s : FileRun Node ρ) :
    FileRun Node ρ :=
  match created with
  | .ok _ =>
    { s with
      objects := Function.update s.objects node (some (.file []))
      writers := s.writers ++ [node] }
  | .error _ => s

end FileRun

section Calls

variable {Node ρ β : Type} [DecidableEq Node]

def fileCall (f : FileReply → FileRun Node ρ → β × FileRun Node ρ) : FileProgram Node ρ β := do
  let reply ← draw fun answers n => answers n
  let s ← get
  modify fun _ => (f reply s).2
  pure (f reply s).1

def failing {α : Type} (status : Int) (done : Except Int α) : Except Int α :=
  if status ≠ 0 then .error status else done

def statusOf {α : Type} : Except Int α → Int
  | .ok _ => 0
  | .error status => status

def describe (info : FileInfo) : FileObject → FileInfo
  | .file bytes =>
    { info with
      type := 1
      size := bytes.length }
  | .directory => { info with type := 2 }
  | .symlink => { info with type := 6 }

def x86osMonotonicMs : FileProgram Node ρ (Except Int Nat) := fileCall fun reply s =>
  (failing reply.status (.ok reply.clock), s.record (.monotonicMs reply.status))

def reistVfsLstat (names : PathNames Node) (path : Path) (timeout : Nat) :
    FileProgram Node ρ (Except Int FileInfo) := fileCall fun reply s =>
  let found : Except Int FileInfo := failing reply.status <|
    match s.objects (names.node path) with
    | none => .error fileEnoent
    | some object => .ok (describe reply.info object)
  (found, s.record (.lstat path timeout (statusOf found)))

def reistVfsFileOpenFlags (names : PathNames Node) (path : Path) (timeout : Nat) :
    FileProgram Node ρ (Except Int Nat) := fileCall fun reply s =>
  let opened : Except Int Nat := failing reply.status <|
    match s.objects (names.node path) with
    | none => .error fileEnoent
    | some (.file _) => .ok s.readers.length
    | some _ => .error fileEloop
  (opened, (s.withReader (names.node path) opened).record (.openFlags path timeout opened))

def reistVfsFileSetTimeout (handle timeout : Nat) : FileProgram Node ρ Int := fileCall fun reply s =>
  (reply.status, s.record (.setTimeout handle timeout reply.status))

def reistVfsFileFstat (handle : Nat) : FileProgram Node ρ (Except Int FileInfo) :=
  fileCall fun reply s =>
    let found : Except Int FileInfo := failing reply.status <|
      match s.readers[handle]? with
      | none => .error fileEbadf
      | some (node, _) =>
        match s.objects node with
        | none => .error fileEnoent
        | some object => .ok (describe reply.info object)
    (found, s.record (.fstat handle found))

def unread (objects : Node → Option FileObject) : Node × Nat → List UInt8
  | (node, position) => (((objects node).map FileObject.bytes).getD []).drop position

def reistVfsFileReadBulk (handle request : Nat) : FileProgram Node ρ (Int × List UInt8) :=
  fileCall fun reply s =>
    match s.readers[handle]? with
    | none => ((fileEbadf, []), s.record (.readBulk handle request fileEbadf []))
    | some (node, position) =>
      if reply.status < 0 ∨ (request : Int) < reply.status then
        ((reply.status, []), s.record (.readBulk handle request reply.status []))
      else
        let bytes := (unread s.objects (node, position)).take (min (reply.amount + 1) request)
        (((bytes.length : Int), bytes),
          { s with readers := s.readers.set handle (node, position + bytes.length) }.record
            (.readBulk handle request bytes.length bytes))

def reistVfsFileClose (handle : Nat) : FileProgram Node ρ Int := fileCall fun reply s =>
  (reply.status, s.record (.closeHandle handle reply.status))

def x86osCreate (names : PathNames Node) (path : Path) : FileProgram Node ρ (Except Int Nat) :=
  fileCall fun reply s =>
    let created : Except Int Nat :=
      if reply.status < 0 then .error reply.status
      else
        match s.objects (names.node path) with
        | none => .ok s.writers.length
        | some _ => .error fileEexist
    (created, (s.withFile (names.node path) created).record (.create path created))

def x86osWrite (descriptor : Nat) (bytes : List UInt8) : FileProgram Node ρ Int :=
  fileCall fun reply s =>
    match s.writers[descriptor]? with
    | none => (fileEbadf, s.record (.write descriptor bytes fileEbadf))
    | some node =>
      let failed := reply.status < 0 ∨ (bytes.length : Int) < reply.status
      let written := bytes.take reply.amount
      let amount : Int := if failed then reply.status else written.length
      let held := ((s.objects node).map FileObject.bytes).getD []
      let left := if failed then reply.remains else held ++ written
      (amount, { s with objects := Function.update s.objects node (some (.file left)) }.record
        (.write descriptor bytes amount))

def x86osFsync (descriptor : Nat) : FileProgram Node ρ Int := fileCall fun reply s =>
  (reply.status, s.record (.fsync descriptor reply.status))

def x86osClose (descriptor : Nat) : FileProgram Node ρ Int := fileCall fun reply s =>
  (reply.status, s.record (.close descriptor reply.status))

def x86osUnlink (names : PathNames Node) (path : Path) : FileProgram Node ρ Int :=
  fileCall fun reply s =>
    let status : Int := if reply.status ≠ 0 then reply.status
      else
        match s.objects (names.node path) with
        | none => fileEnoent
        | some .directory => fileEisdir
        | some _ => 0
    let s := if status = 0 then
        { s with objects := Function.update s.objects (names.node path) none }
      else s
    (status, s.record (.unlink path status))

def x86osRename (names : PathNames Node) (old new : Path) : FileProgram Node ρ Int :=
  fileCall fun reply s =>
    let status : Int := if reply.status ≠ 0 then reply.status
      else
        match s.objects (names.node old), s.objects (names.node new) with
        | none, _ => fileEnoent
        | some _, some _ => fileEexist
        | some _, none => 0
    let s := if status = 0 then
        { s with
          objects := Function.update (Function.update s.objects (names.node new)
            (s.objects (names.node old))) (names.node old) none }
      else s
    (status, s.record (.rename old new status))

def report {ρ : Type} (f : ρ → ρ) : FileProgram Node ρ Unit :=
  modify fun s => { s with result := f s.result }

end Calls

namespace FileEvent

/-- The call changed neither the volume nor what is read next. -/
def looks : FileEvent → Bool
  | .monotonicMs _ => true
  | .lstat _ _ _ => true
  | .openFlags _ _ _ => true
  | .setTimeout _ _ _ => true
  | .fstat _ _ => true
  | .closeHandle _ _ => true
  | .close _ _ => true
  | .create _ (.error _) => true
  | _ => false

def harmless : FileEvent → Bool
  | .readBulk _ _ _ _ => true
  | .fsync _ _ => true
  | event => event.looks

def bytesRead (handle : Nat) (trace : List FileEvent) : List UInt8 :=
  trace.flatMap fun
    | .readBulk h _ _ bytes => if h = handle then bytes else []
    | _ => []

theorem bytesRead_append (handle : Nat) (trace more : List FileEvent) :
    bytesRead handle (trace ++ more) = bytesRead handle trace ++ bytesRead handle more :=
  List.flatMap_append

variable {event : FileEvent} {trace : List FileEvent}

theorem harmless_of_looks (h : event.looks = true) :
    event.harmless = true := by
  cases event <;> first | rfl | exact h

theorem bytesRead_of_looks {handle : Nat} (h : ∀ event ∈ trace, event.looks = true) :
    bytesRead handle trace = [] := by
  apply List.flatMap_eq_nil_iff.mpr
  intro event hevent
  have hlooks := h event hevent
  cases event with
  | readBulk _ _ _ _ => cases hlooks
  | _ => rfl

theorem bytesRead_concat_looks {handle : Nat} (h : event.looks = true) :
    bytesRead handle (trace ++ [event]) = bytesRead handle trace := by
  have hnone : bytesRead handle [event] = [] := by
    apply bytesRead_of_looks
    intro other hother
    rw [List.mem_singleton.mp hother]
    exact h
  rw [bytesRead_append, hnone, List.append_nil]

end FileEvent

variable {Node ρ β : Type} {P P' : FileRun Node ρ → Prop} {s s' : FileRun Node ρ}
  {Q : β → FileRun Node ρ → Prop} {E : Int → FileRun Node ρ → Prop}

theorem fileCall_triple {f : FileReply → FileRun Node ρ → β × FileRun Node ρ}
    (h : ∀ reply s, P s → Q (f reply s).1 (f reply s).2) : Triple P (fileCall f) Q E := by
  intro w n s hs
  exact h (w n) s hs

/-- One call was made that left the objects alone. -/
structure Kept (event : FileEvent) (s s' : FileRun Node ρ) : Prop where
  objects : s'.objects = s.objects
  writers : s'.writers = s.writers
  points : s'.points = s.points ++ [s.objects]
  trace : s'.trace = s.trace ++ [event]

/-- No harmless call ends `P`. -/
def Undisturbed (P : FileRun Node ρ → Prop) : Prop :=
  ∀ event s s', event.harmless = true → Kept event s s' → P s → P s'

/-- No call that only looks ends `P`. -/
def Unaffected (P : FileRun Node ρ → Prop) : Prop :=
  ∀ event s s', event.looks = true → Kept event s s' → s.readers <+: s'.readers → P s → P s'

theorem Undisturbed.unaffected (h : Undisturbed P) : Unaffected P := by
  intro event s s' hevent hkept _ hs
  exact h event s s' (FileEvent.harmless_of_looks hevent) hkept hs

theorem Unaffected.and (h : Unaffected P) (h' : Unaffected P') : Unaffected fun s => P s ∧ P' s := by
  intro event s s' hevent hkept hreaders hs
  exact ⟨h event s s' hevent hkept hreaders hs.1, h' event s s' hevent hkept hreaders hs.2⟩

theorem unaffected_reader (handle : Nat) (reader : Node × Nat) :
    Unaffected fun s : FileRun Node ρ => s.readers[handle]? = some reader := by
  intro event s s' _ _ hreaders hs
  obtain ⟨more, hmore⟩ := hreaders
  obtain ⟨hlt, _⟩ := List.getElem?_eq_some_iff.mp hs
  rw [← hmore, List.getElem?_append_left hlt]
  exact hs

theorem unaffected_since {before : List FileEvent} {R : List FileEvent → Prop}
    (hR : ∀ event t, event.looks = true → R t → R (t ++ [event])) :
    Unaffected fun s : FileRun Node ρ => ∃ t, s.trace = before ++ t ∧ R t := by
  intro event s s' hevent hkept _ hs
  obtain ⟨t, htrace, ht⟩ := hs
  refine ⟨t ++ [event], ?_, hR event t hevent ht⟩
  rw [hkept.trace, htrace, List.append_assoc]

theorem kept_record (event : FileEvent) : Kept event s (s.record event) := ⟨rfl, rfl, rfl, rfl⟩

theorem Unaffected.record (hP : Unaffected P) {event : FileEvent} (hevent : event.looks = true) (hs : P s) :
    P (s.record event) := hP event s _ hevent (kept_record event) (List.prefix_refl _) hs

theorem monotonicMs_unaffected (hP : Unaffected P) :
    Triple P (x86osMonotonicMs : FileProgram Node ρ _) (fun _ => P) E :=
  fileCall_triple fun _ _ hs => hP.record rfl hs

theorem failing_error {α : Type} {status failed : Int} {done : Except Int α}
    (hdone : ∀ status, done = .error status → status ≠ 0) (h : failing status done = .error failed) :
    failed ≠ 0 := by
  unfold failing at h
  split at h
  next hstatus =>
    cases h
    exact hstatus
  next => exact hdone _ h

variable {names : PathNames Node} {path : Path} {timeout : Nat}

theorem lstat_unaffected (hP : Unaffected P) :
    Triple P (reistVfsLstat names path timeout : FileProgram Node ρ _)
      (fun found s => P s ∧ ∀ status, found = .error status → status ≠ 0) E := by
  refine fileCall_triple fun reply s hs => ⟨hP.record rfl hs, fun status hstatus => ?_⟩
  refine failing_error (fun status hfound => ?_) hstatus
  split at hfound
  next =>
    cases hfound
    decide
  next => cases hfound

variable {handle : Nat} {descriptor : Nat} {Q : Int → FileRun Node ρ → Prop}

theorem setTimeout_unaffected (hP : Unaffected P) :
    Triple P (reistVfsFileSetTimeout handle timeout : FileProgram Node ρ _) (fun _ => P) E :=
  fileCall_triple fun _ _ hs => hP.record rfl hs

theorem closeHandle_unaffected (hP : Unaffected P) :
    Triple P (reistVfsFileClose handle : FileProgram Node ρ _) (fun _ => P) E :=
  fileCall_triple fun _ _ hs => hP.record rfl hs

theorem close_unaffected (hP : Unaffected P) :
    Triple P (x86osClose descriptor : FileProgram Node ρ _) (fun _ => P) E :=
  fileCall_triple fun _ _ hs => hP.record rfl hs

theorem fstat_unaffected (hP : Unaffected P) :
    Triple P (reistVfsFileFstat handle : FileProgram Node ρ _)
      (fun found s => P s ∧ ∃ s0, P s0 ∧ s.trace = s0.trace ++ [.fstat handle found]) E :=
  fileCall_triple fun _ s hs => ⟨hP.record rfl hs, s, hs, rfl⟩

theorem failing_ok {α : Type} {status : Int} {done : Except Int α} {a : α}
    (h : failing status done = .ok a) : done = .ok a := by
  unfold failing at h
  split at h
  next => cases h
  next => exact h

theorem openFlags_unaffected (hP : Unaffected P) :
    Triple P (reistVfsFileOpenFlags names path timeout : FileProgram Node ρ _)
      (fun opened s => P s ∧ (∀ status, opened = .error status → status ≠ 0) ∧
        ∀ handle, opened = .ok handle →
          s.readers[handle]? = some (names.node path, 0) ∧
          (∃ bytes, s.objects (names.node path) = some (.file bytes)) ∧
          ∃ s0, P s0 ∧ s.trace = s0.trace ++ [.openFlags path timeout (.ok handle)]) E := by
  refine fileCall_triple fun reply s hs => ⟨?_, ?_, ?_⟩
  · have hkept (opened : Except Int Nat) : P ((s.withReader (names.node path) opened).record
        (.openFlags path timeout opened)) := by
      cases opened with
      | ok _ => exact hP _ s _ rfl ⟨rfl, rfl, rfl, rfl⟩ (List.prefix_append _ _) hs
      | error _ => exact hP _ s _ rfl ⟨rfl, rfl, rfl, rfl⟩ (List.prefix_refl _) hs
    exact hkept _
  · intro status hstatus
    refine failing_error (fun status hopened => ?_) hstatus
    split at hopened
    next =>
      cases hopened
      decide
    next => cases hopened
    next =>
      cases hopened
      decide
  · intro handle hopened
    dsimp only at hopened ⊢
    rw [hopened]
    have hdone := failing_ok hopened
    split at hdone
    next => cases hdone
    next bytes hfile =>
      cases hdone
      exact ⟨List.getElem?_concat_length, ⟨bytes, hfile⟩, s, hs, rfl⟩
    next => cases hdone

/-- What a read of a file does: it fails, or returns what comes next, at least a byte of it. -/
structure ReadStep (handle request : Nat) (answer : Int × List UInt8) (s s' : FileRun Node ρ) :
    Prop where
  kept : Kept (.readBulk handle request answer.1 answer.2) s s'
  others : ∀ other, other ≠ handle → s'.readers[other]? = s.readers[other]?
  answered : ∀ node position bytes, s.readers[handle]? = some (node, position) →
    s.objects node = some (.file bytes) →
    (answer.2 = [] ∧ (answer.1 < 0 ∨ (request : Int) < answer.1)) ∨
    ∃ count, count ≤ request ∧ (0 < request → 0 < count) ∧
      answer.2 = (bytes.drop position).take count ∧ answer.1 = answer.2.length ∧
      s'.readers[handle]? = some (node, position + answer.2.length)

theorem readBulk_triple {handle request : Nat} {Q : Int × List UInt8 → FileRun Node ρ → Prop}
    (h : ∀ s answer s', P s → ReadStep handle request answer s s' → Q answer s') :
    Triple P (reistVfsFileReadBulk handle request : FileProgram Node ρ _) Q E := by
  refine fileCall_triple fun reply s hs => ?_
  split
  next hnone =>
    refine h s _ _ hs ⟨kept_record _, fun _ _ => rfl, ?_⟩
    intro node position bytes hreader
    rw [hnone] at hreader
    cases hreader
  next node position hreader =>
    obtain ⟨hlt, _⟩ := List.getElem?_eq_some_iff.mp hreader
    split
    next hfailed =>
      exact h s _ _ hs ⟨kept_record _, fun _ _ => rfl, fun _ _ _ _ _ => Or.inl ⟨rfl, hfailed⟩⟩
    next hdone =>
      refine h s _ _ hs ⟨⟨rfl, rfl, rfl, rfl⟩, ?_, ?_⟩
      · intro other hother
        exact List.getElem?_set_ne (Ne.symm hother)
      · intro node' position' bytes hreader' hfile
        rw [hreader] at hreader'
        cases hreader'
        have hcount : 0 < request → 0 < min (reply.amount + 1) request := by omega
        have hrest : unread s.objects (node, position) = bytes.drop position := by
          show (((s.objects node).map FileObject.bytes).getD []).drop position = _
          rw [hfile]
          rfl
        refine Or.inr ⟨min (reply.amount + 1) request, Nat.min_le_right _ _, hcount, ?_, rfl, ?_⟩
        · rw [← hrest]
        · exact List.getElem?_set_self hlt

theorem fsync_triple (h : ∀ s status, P s → Q status (s.record (.fsync descriptor status))) :
    Triple P (x86osFsync descriptor : FileProgram Node ρ _) Q E :=
  fileCall_triple fun reply s hs => h s reply.status hs

theorem write_triple [DecidableEq Node] {bytes : List UInt8} {node : Node} {held : List UInt8}
    (hwriter : ∀ s, P s → s.writers[descriptor]? = some node)
    (hheld : ∀ s, P s → s.objects node = some (.file held))
    (h : ∀ s s' (amount : Int) left, P s → s'.objects = Function.update s.objects node (some (.file left)) →
      s'.points = s.points ++ [s'.objects] → s'.writers = s.writers → s'.readers = s.readers →
      s'.trace = s.trace ++ [.write descriptor bytes amount] →
      (0 ≤ amount → amount ≤ bytes.length → left = held ++ bytes.take amount.toNat) →
      Q amount s') :
    Triple P (x86osWrite descriptor bytes : FileProgram Node ρ _) Q E := by
  refine fileCall_triple fun reply s hs => ?_
  rw [hwriter s hs]
  dsimp only
  refine h s _ _ _ hs rfl rfl rfl rfl rfl ?_
  intro hnonneg hle
  by_cases hfailed : reply.status < 0 ∨ (bytes.length : Int) < reply.status
  · rw [if_pos hfailed] at hnonneg hle
    omega
  · have htake : bytes.take reply.amount = bytes.take (bytes.take reply.amount).length :=
      List.prefix_iff_eq_take.mp (List.take_prefix _ _)
    rw [if_neg hfailed, if_neg hfailed, hheld s hs, Int.toNat_natCast, ← htake]
    rfl

theorem unlink_triple [DecidableEq Node]
    (hfailed : ∀ s status, P s → status ≠ 0 → Q status (s.record (.unlink path status)))
    (hdone : ∀ s, P s → Q 0 ({ s with objects := Function.update s.objects (names.node path) none
      }.record (.unlink path 0))) :
    Triple P (x86osUnlink names path : FileProgram Node ρ _) Q E := by
  refine fileCall_triple fun reply s hs => ?_
  dsimp only
  generalize (if reply.status ≠ 0 then reply.status else _ : Int) = status
  by_cases hzero : status = 0
  · subst hzero
    exact hdone s hs
  · rw [if_neg hzero]
    exact hfailed s status hs hzero

theorem rename_triple [DecidableEq Node] {old new : Path}
    (hfailed : ∀ s status, P s → status ≠ 0 → Q status (s.record (.rename old new status)))
    (hdone : ∀ s, P s → s.objects (names.node new) = none →
      Q 0 ({ s with objects := Function.update (Function.update s.objects (names.node new)
        (s.objects (names.node old))) (names.node old) none }.record (.rename old new 0))) :
    Triple P (x86osRename names old new : FileProgram Node ρ _) Q E := by
  refine fileCall_triple fun reply s hs => ?_
  dsimp only
  by_cases hreply : reply.status ≠ 0
  · rw [if_pos hreply, if_neg hreply]
    exact hfailed s _ hs hreply
  · rw [if_neg hreply]
    split
    next => exact hfailed s _ hs (by decide)
    next => exact hfailed s _ hs (by decide)
    next hnone => exact hdone s hs hnone

theorem create_triple [DecidableEq Node] {Q : Except Int Nat → FileRun Node ρ → Prop}
    (hfailed : ∀ s status, P s → Q (.error status) (s.record (.create path (.error status))))
    (hdone : ∀ s, P s → s.objects (names.node path) = none →
      Q (.ok s.writers.length) ((s.withFile (names.node path) (.ok s.writers.length)).record
        (.create path (.ok s.writers.length)))) :
    Triple P (x86osCreate names path : FileProgram Node ρ _) Q E := by
  refine fileCall_triple fun reply s hs => ?_
  split
  next => exact hfailed s _ hs
  next =>
    split
    next hnone => exact hdone s hs hnone
    next => exact hfailed s _ hs

theorem report_triple {f : ρ → ρ} {Q : Unit → FileRun Node ρ → Prop}
    (h : ∀ s, P s → Q () { s with result := f s.result }) :
    Triple P (report f : FileProgram Node ρ Unit) Q E := Triple.modify h

end ReistOs
