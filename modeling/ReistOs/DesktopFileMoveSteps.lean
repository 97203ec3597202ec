import ReistOs.DesktopFileMovePaths

namespace ReistOs

open Attempt FileEvent

def Ordinary (status : Int) : Prop :=
  status ≠ desktopFileMoveOk ∧ status ≠ desktopFileMoveEpartial

instance (status : Int) : Decidable (Ordinary status) :=
  inferInstanceAs (Decidable (status ≠ desktopFileMoveOk ∧ status ≠ desktopFileMoveEpartial))

section Looking

variable {Node α : Type} {names : PathNames Node} {path : Path} {handle : Nat}
  {budget : DesktopFileMoveBudget} {request : DesktopFileMoveRequest}
  {P P' : FileRun Node DesktopFileMoveResult → Prop}

/-- The program keeps `P` and fails with an ordinary status only. -/
def Looks (P : FileRun Node DesktopFileMoveResult → Prop) (x : MoveProgram Node α) : Prop :=
  Triple P x (fun _ => P) fun status s => Ordinary status ∧ P s

theorem ordinary_eio : Ordinary desktopFileMoveEio := by decide
theorem ordinary_estale : Ordinary desktopFileMoveEstale := by decide
theorem ordinary_eexist : Ordinary desktopFileMoveEexist := by decide
theorem ordinary_ecapacity : Ordinary desktopFileMoveEcapacity := by decide
theorem ordinary_etimedout : Ordinary desktopFileMoveEtimedout := by decide
theorem ordinary_einval : Ordinary desktopFileMoveEinval := by decide

variable {status : Int}

theorem ordinary_mapVfsStatus (h : status ≠ 0) : Ordinary (mapVfsStatus status) := by
  unfold mapVfsStatus
  rw [if_neg h]
  split
  next => decide
  next =>
    split
    next => decide
    next => decide

theorem Looks.pure {a : α} : Looks P (pure a : MoveProgram Node α) := Triple.ret

theorem Looks.fail (h : Ordinary status) :
    Looks P (fail status : MoveProgram Node α) := Triple.fail fun _ hs => ⟨h, hs⟩

variable {c : Prop} {E : Int → FileRun Node DesktopFileMoveResult → Prop} {x : MoveProgram Node α}

theorem Looks.refuse [Decidable c] (h : Ordinary status) :
    Looks P (refuse c status : MoveProgram Node Unit) :=
  Triple.refuse (fun _ hs _ => ⟨h, hs⟩) fun _ hs _ => hs

theorem refuse_triple [Decidable c] (h : ∀ s, P s → E status s) :
    Triple P (refuse c status : MoveProgram Node Unit) (fun _ => P) E :=
  Triple.refuse (fun s hs _ => h s hs) fun _ hs _ => hs

theorem Looks.forget (h : Looks (fun s => P s ∧ P' s) x) :
    Triple (fun s => P s ∧ P' s) x (fun _ s => P s ∧ P' s) fun status s => Ordinary status ∧ P s :=
  h.ends (fun _ _ hs => hs) fun _ _ hs => ⟨hs.1, hs.2.1⟩

theorem budgetStart_looks (hP : Unaffected P) : Looks P (budgetStart : MoveProgram Node _) := by
  refine Triple.bind (monotonicMs_unaffected hP) fun started => ?_
  cases started with
  | error _ => exact Looks.fail ordinary_eio
  | ok _ => exact Looks.pure

theorem budgetRemaining_looks (hP : Unaffected P) :
    Looks P (budgetRemaining budget : MoveProgram Node _) := by
  refine Triple.bind (monotonicMs_unaffected hP) fun now => ?_
  cases now with
  | error _ => exact Looks.fail ordinary_eio
  | ok now =>
    have hlate : Looks P (refuse (budget.deadlineMs ≤ now) desktopFileMoveEtimedout :
        MoveProgram Node Unit) := Looks.refuse ordinary_etimedout
    exact Triple.bind (Looks.refuse ordinary_eio) fun _ => hlate.bind fun _ => Looks.pure

theorem statNofollow_looks (hP : Unaffected P) : Looks P (statNofollow names path budget) := by
  refine Triple.bind (budgetRemaining_looks hP) fun timeout => ?_
  refine Triple.bind (lstat_unaffected hP) fun found => ?_
  cases found with
  | error status =>
    exact Triple.fail fun s hs => ⟨ordinary_mapVfsStatus (hs.2 status rfl), hs.1⟩
  | ok _ => exact Triple.pure fun s hs => hs.1

theorem pathAbsent_looks (hP : Unaffected P) : Looks P (pathAbsent names path budget) := by
  refine Triple.bind (Triple.outcome_ends (statNofollow_looks hP)) fun found => ?_
  cases found with
  | error status =>
    refine Triple.ite (fun _ => Triple.pure fun s hs => hs.2) fun _ => Triple.fail fun s hs => hs
  | ok _ => exact Triple.fail fun s hs => ⟨ordinary_eexist, hs⟩

theorem limitHandle_looks (hP : Unaffected P) :
    Looks P (limitHandle handle budget : MoveProgram Node _) := by
  refine Triple.bind (budgetRemaining_looks hP) fun timeout => ?_
  exact Triple.bind (setTimeout_unaffected hP) fun _ => Looks.refuse ordinary_eio

theorem closeSourceCleanup_triple {Q : Unit → FileRun Node DesktopFileMoveResult → Prop}
    (hP : Unaffected P) (hQ : ∀ s, P s → Q () s) :
    Triple P (closeSourceCleanup handle : MoveProgram Node _) Q E := by
  refine Triple.bind (setTimeout_unaffected hP) fun _ => ?_
  exact Triple.bind (closeHandle_unaffected hP) fun _ => Triple.pure hQ

theorem closing_triple {Q : α → FileRun Node DesktopFileMoveResult → Prop}
    (hE : ∀ status, Unaffected (E status)) (h : Triple P x Q E) :
    Triple P (closing handle x) Q E := by
  refine Triple.bind (Triple.outcome_ends h) fun ended => ?_
  cases ended with
  | ok _ => exact Triple.pure fun _ hs => hs
  | error status =>
    have hclose : Triple (E status) (closeSourceCleanup handle) (fun _ => E status) E :=
      closeSourceCleanup_triple (hE status) fun s hs => hs
    exact hclose.bind fun _ => Triple.fail fun s hs => hs

theorem checkAuthority_looks (hP : Unaffected P) : Looks P (checkAuthority names request budget) := by
  refine Triple.bind (statNofollow_looks hP) fun _ => ?_
  refine Triple.bind (statNofollow_looks hP) fun _ => ?_
  exact Triple.bind (statNofollow_looks hP) fun _ => Looks.refuse ordinary_estale

theorem recheckAuthority_looks (hP : Unaffected P) :
    Looks P (recheckAuthority names request budget) := by
  refine Triple.bind (statNofollow_looks hP) fun _ => ?_
  refine Triple.bind (statNofollow_looks hP) fun _ => ?_
  exact Triple.bind (statNofollow_looks hP) fun _ => Looks.refuse ordinary_estale

end Looking

variable {Node : Type} {names : PathNames Node} {path : Path} {handle : Nat}
  {budget : DesktopFileMoveBudget} {P : FileRun Node DesktopFileMoveResult → Prop}
  {node : Node} {content : List UInt8} {before : List FileEvent} {count : Nat}
  {R : List FileEvent → Prop}

/-- Only looked at since `before`. -/
def LookedSince (before : List FileEvent) (s : FileRun Node DesktopFileMoveResult) : Prop :=
  ∃ t, s.trace = before ++ t ∧ ∀ event ∈ t, event.looks = true

theorem lookedSince_unaffected :
    Unaffected (LookedSince before : FileRun Node DesktopFileMoveResult → Prop) := by
  refine unaffected_since fun event t hevent ht other hother => ?_
  rcases List.mem_append.mp hother with hmem | hmem
  · exact ht other hmem
  · rw [List.mem_singleton.mp hmem]
    exact hevent

/-- A handle at the start of a regular file, opened since `before`. -/
structure Opened (names : PathNames Node) (path : Path) (before : List FileEvent) (handle : Nat)
    (s : FileRun Node DesktopFileMoveResult) : Prop where
  reader : s.readers[handle]? = some (names.node path, 0)
  file : ∃ bytes, s.objects (names.node path) = some (.file bytes)
  since : ∃ t, s.trace = before ++ t ∧ (∀ event ∈ t, event.looks = true) ∧
    ∃ timeout, .openFlags path timeout (.ok handle) ∈ t

theorem opened_unaffected : Unaffected (Opened names path before handle) := by
  intro event s s' hevent hkept hreaders hs
  refine ⟨unaffected_reader _ _ event s s' hevent hkept hreaders hs.reader, ?_, ?_⟩
  · rw [hkept.objects]
    exact hs.file
  · obtain ⟨t, htrace, hlooks, timeout, hmem⟩ := hs.since
    refine ⟨t ++ [event], ?_, ?_, timeout, List.mem_append_left _ hmem⟩
    · rw [hkept.trace, htrace, List.append_assoc]
    · intro other hother
      rcases List.mem_append.mp hother with hmem | hmem
      · exact hlooks other hmem
      · rw [List.mem_singleton.mp hmem]
        exact hevent

theorem openBoundFile_triple (hP : Unaffected P) {expected : Option FileInfo} :
    Triple (fun s => P s ∧ LookedSince before s) (openBoundFile names path expected budget)
      (fun handle s => P s ∧ Opened names path before handle s)
      fun status s => Ordinary status ∧ P s := by
  have hboth : Unaffected fun s => P s ∧ LookedSince before s := hP.and lookedSince_unaffected
  refine Triple.bind (budgetRemaining_looks hboth).forget fun timeout => ?_
  refine Triple.bind (openFlags_unaffected hboth) fun opened => ?_
  cases opened with
  | error status =>
    exact Triple.fail fun s hs => ⟨ordinary_mapVfsStatus (hs.2.1 status rfl), hs.1.1⟩
  | ok handle =>
    have hE : ∀ status, Unaffected fun s => Ordinary status ∧ P s := by
      intro status event s s' hevent hkept hreaders hs
      exact ⟨hs.1, hP event s s' hevent hkept hreaders hs.2⟩
    have hopened : Unaffected fun s => P s ∧ Opened names path before handle s :=
      hP.and opened_unaffected
    have hstale : Ordinary (if expected.isSome then desktopFileMoveEstale
        else desktopFileMoveEinval) := by
      split
      next => exact ordinary_estale
      next => exact ordinary_einval
    refine closing_triple hE (Triple.pre (P := fun s => P s ∧ Opened names path before handle s) ?_ ?_)
    · refine Triple.bind (limitHandle_looks hopened).forget fun _ => ?_
      refine Triple.bind (fstat_unaffected hopened) fun found => ?_
      cases found with
      | error _ => exact Triple.fail fun s hs => ⟨hstale, hs.1.1⟩
      | ok actual =>
        refine Triple.bind (refuse_triple fun s hs => ⟨hstale, hs.1.1⟩) fun _ => ?_
        exact Triple.pure fun s hs => hs.1
    · intro s hs
      obtain ⟨hreader, hfile, s0, ⟨_, t, htrace, hlooks⟩, htrace'⟩ := hs.2.2 handle rfl
      refine ⟨hs.1.1, hreader, hfile, t ++ [.openFlags path timeout (.ok handle)], ?_, ?_, timeout, ?_⟩
      · rw [htrace', htrace, List.append_assoc]
      · intro event hevent
        rcases List.mem_append.mp hevent with hmem | hmem
        · exact hlooks event hmem
        · rw [List.mem_singleton.mp hmem]
          rfl
      · exact List.mem_append_right _ List.mem_cons_self

/-- The handle has read the first `count` bytes of the file since `before`. -/
structure ReadUpTo (node : Node) (content : List UInt8) (before : List FileEvent) (handle : Nat)
    (R : List FileEvent → Prop) (count : Nat) (s : FileRun Node DesktopFileMoveResult) : Prop where
  reader : s.readers[handle]? = some (node, count)
  file : s.objects node = some (.file content)
  le : count ≤ content.length
  since : ∃ t, s.trace = before ++ t ∧ FileEvent.bytesRead handle t = content.take count ∧ R t

/-- More calls do not end `R`. -/
def Lasting (R : List FileEvent → Prop) : Prop := ∀ event t, R t → R (t ++ [event])

theorem readUpTo_unaffected (hR : Lasting R) :
    Unaffected (ReadUpTo node content before handle R count) := by
  intro event s s' hevent hkept hreaders hs
  refine ⟨unaffected_reader _ _ event s s' hevent hkept hreaders hs.reader, ?_, hs.le, ?_⟩
  · rw [hkept.objects]
    exact hs.file
  · obtain ⟨t, htrace, hread, ht⟩ := hs.since
    refine ⟨t ++ [event], ?_, ?_, hR event t ht⟩
    · rw [hkept.trace, htrace, List.append_assoc]
    · rw [bytesRead_concat_looks hevent]
      exact hread

theorem bytesRead_readBulk (handle request : Nat) (amount : Int) (bytes : List UInt8) :
    FileEvent.bytesRead handle [.readBulk handle request amount bytes] = bytes := by
  show (if handle = handle then bytes else []) ++ [] = bytes
  rw [if_pos rfl, List.append_nil]

theorem FileEvent.bytesRead_concat {s s' : FileRun Node DesktopFileMoveResult} {request : Nat}
    {amount : Int} {bytes t : List UInt8} {t' : List FileEvent}
    (htrace : s.trace = before ++ t') (hread : FileEvent.bytesRead handle t' = t)
    (hkept : Kept (.readBulk handle request amount bytes) s s') :
    s'.trace = before ++ (t' ++ [.readBulk handle request amount bytes]) ∧
      FileEvent.bytesRead handle (t' ++ [.readBulk handle request amount bytes]) = t ++ bytes := by
  refine ⟨?_, ?_⟩
  · rw [hkept.trace, htrace, List.append_assoc]
  · rw [bytesRead_append, hread, bytesRead_readBulk]

theorem take_add_taken {taken : List UInt8} {m : Nat}
    (h : taken = (content.drop count).take m) :
    content.take (count + taken.length) = content.take count ++ taken := by
  have hprefix : taken <+: content.drop count := by
    rw [h]
    exact List.take_prefix _ _
  rw [List.take_add, ← List.prefix_iff_eq_take.mp hprefix]

/-- The bytes that follow the first `count` of the content. -/
def Chunk (content : List UInt8) (count left : Nat) (bytes : List UInt8) : Prop :=
  0 < bytes.length ∧ bytes.length ≤ left ∧
    content.take (count + bytes.length) = content.take count ++ bytes

theorem readChunk_triple (hP : Undisturbed P) (hR : Lasting R) {left : Nat} :
    Triple (fun s => P s ∧ ReadUpTo node content before handle R count s)
      (readChunk handle left budget)
      (fun bytes s => (P s ∧ ReadUpTo node content before handle R (count + bytes.length) s) ∧
        Chunk content count left bytes)
      fun status s => Ordinary status ∧ P s := by
  have hread : Unaffected fun s => P s ∧ ReadUpTo node content before handle R count s :=
    hP.unaffected.and (readUpTo_unaffected hR)
  refine Triple.bind (limitHandle_looks hread).forget fun _ => ?_
  refine Triple.bind (Q := fun answer s => P s ∧
    ((answer.1 ≤ 0 ∨ (min left desktopFileMoveChunkCapacity : Int) < answer.1) ∨
      (Chunk content count left answer.2 ∧
        ReadUpTo node content before handle R (count + answer.2.length) s))) ?_ ?_
  · refine readBulk_triple fun s answer s' hs hstep => ?_
    refine ⟨hP _ s s' rfl hstep.kept hs.1, ?_⟩
    obtain ⟨hreader, hfile, hle, t, htrace, hbytes, ht⟩ := hs.2
    have hanswer := hstep.answered node count content hreader hfile
    rcases hanswer with ⟨_, hfailed⟩ | ⟨m, hm, hpos, htaken, hamount, hnext⟩
    · left
      omega
    · by_cases hempty : answer.2.length = 0
      · left
        omega
      · right
        have htake := take_add_taken htaken
        have hshort : answer.2.length ≤ m := by
          rw [htaken]
          exact List.length_take_le _ _
        have hmin : m ≤ left := le_trans hm (Nat.min_le_left _ _)
        have hwithin : answer.2.length ≤ content.length - count := by
          rw [htaken, List.length_take, List.length_drop]
          exact Nat.min_le_right _ _
        obtain ⟨htrace', hbytes'⟩ := bytesRead_concat htrace hbytes hstep.kept
        refine ⟨⟨by omega, by omega, htake⟩, hnext, ?_, by omega, _, htrace', ?_, hR _ _ ht⟩
        · rw [hstep.kept.objects]
          exact hfile
        · rw [hbytes', htake]
  · intro answer
    refine Triple.bind (Q := fun _ s =>
      (P s ∧ ReadUpTo node content before handle R (count + answer.2.length) s) ∧
      Chunk content count left answer.2) (Triple.refuse ?_ ?_) fun _ => Triple.pure fun _ hs => hs
    · intro s hs _
      exact ⟨ordinary_eio, hs.1⟩
    · intro s hs hgood
      rcases hs.2 with hbad | ⟨hslice, hnext⟩
      · exact absurd hbad (by exact_mod_cast hgood)
      · exact ⟨⟨hs.1, hnext⟩, hslice⟩

theorem readTrailing_triple (hP : Undisturbed P) (hR : Lasting R)
    {E : Int → FileRun Node DesktopFileMoveResult → Prop} :
    Triple (fun s => P s ∧ ReadUpTo node content before handle R count s)
      (reistVfsFileReadBulk handle 1 : MoveProgram Node _)
      (fun answer s => P s ∧ (answer.1 = 0 → count = content.length ∧
        ReadUpTo node content before handle R count s)) E := by
  refine readBulk_triple fun s answer s' hs hstep => ?_
  refine ⟨hP _ s s' rfl hstep.kept hs.1, fun hzero => ?_⟩
  obtain ⟨hreader, hfile, hle, t, htrace, hbytes, ht⟩ := hs.2
  rcases hstep.answered node count content hreader hfile with
    ⟨_, hfailed⟩ | ⟨m, hm, hpos, htaken, hamount, hnext⟩
  · omega
  · have hempty : answer.2.length = 0 := by omega
    have hnil : answer.2 = [] := List.length_eq_zero_iff.mp hempty
    have hlength : answer.2.length = min m (content.length - count) := by
      rw [htaken, List.length_take, List.length_drop]
    have hone : m = 1 := by omega
    obtain ⟨htrace', hbytes'⟩ := bytesRead_concat htrace hbytes hstep.kept
    rw [hempty, Nat.add_zero] at hnext
    refine ⟨by omega, hnext, ?_, hle, _, htrace', ?_, hR _ _ ht⟩
    · rw [hstep.kept.objects]
      exact hfile
    · rw [hbytes', hnil, List.append_nil]

theorem hashBytes_append (hash : UInt32) (bytes more : List UInt8) :
    hashBytes hash (bytes ++ more) = hashBytes (hashBytes hash bytes) more :=
  List.foldl_append

/-- A loop that was at `count` has hashed as much of the content as it was to. -/
def Hashed (content : List UInt8) (size count : Nat) (hash : UInt32) (K : Nat → Prop) : Prop :=
  ∃ total, size ≤ total ∧ (total ≤ count ∨ total ≤ size) ∧
    hash = hashBytes hashSeed (content.take total) ∧ K total

theorem Hashed.since {size m : Nat} {hash : UInt32} {K : Nat → Prop}
    (h : Hashed content size (count + m) hash K) (hm : m ≤ size - count) (hmore : ¬ size ≤ count) :
    Hashed content size count hash K := by
  obtain ⟨total, hsize, hle, hhash, hs⟩ := h
  exact ⟨total, hsize, by omega, hhash, hs⟩

theorem readBackFrom_triple (hP : Undisturbed P) (hR : Lasting R) {size : Nat} (fuel : Nat) :
    ∀ count, size ≤ count + fuel →
      Triple (fun s => P s ∧ ReadUpTo node content before handle R count s)
        (readBackFrom handle size budget fuel count (hashBytes hashSeed (content.take count)))
        (fun hash s => Hashed content size count hash fun total =>
          P s ∧ ReadUpTo node content before handle R total s)
        fun status s => Ordinary status ∧ P s := by
  induction fuel with
  | zero =>
    intro count hfuel
    exact Triple.pure fun s hs => ⟨count, hfuel, Or.inl le_rfl, rfl, hs⟩
  | succ fuel ih =>
    intro count hfuel
    refine Triple.ite (fun hdone => Triple.pure fun s hs => ?_) fun hmore => ?_
    · exact ⟨count, hdone, Or.inl le_rfl, rfl, hs⟩
    · refine Triple.learn (readChunk_triple hP hR) fun bytes hslice => ?_
      have hpos := hslice.1
      have hrest := ih (count + bytes.length) (by omega)
      rw [hslice.2.2, hashBytes_append] at hrest
      exact hrest.post fun hash s hs => hs.since hslice.2.1 hmore

end ReistOs
