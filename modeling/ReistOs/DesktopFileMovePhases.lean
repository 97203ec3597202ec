import ReistOs.DesktopFileMoveSteps

/-! What holds of the volume before, while and after the temporary file is written. -/

namespace ReistOs

open Attempt

variable {Node : Type} {names : PathNames Node}
  {request : DesktopFileMoveRequest} {original : Node → Option FileObject} {destination : Path}
  {budget : DesktopFileMoveBudget} {temporary : Path} {content : List UInt8}

/-- Every object that was there is as it was, and so is what the destination names. -/
structure Unmoved (names : PathNames Node) (request : DesktopFileMoveRequest)
    (destination : Path) (original point : Node → Option FileObject) : Prop where
  source : point (names.node request.sourcePath) = original (names.node request.sourcePath)
  destination : point (names.node destination) = original (names.node destination)
  others : ∀ node, original node ≠ none → point node = original node

/-- The source is there or the destination has its content; no other object is touched. -/
structure NothingLost (names : PathNames Node) (request : DesktopFileMoveRequest)
    (destination : Path) (original point : Node → Option FileObject) : Prop where
  content : point (names.node request.sourcePath) = original (names.node request.sourcePath) ∨
    point (names.node destination) = original (names.node request.sourcePath)
  others : ∀ node, node ≠ names.node request.sourcePath → original node ≠ none →
    point node = original node

variable {point : Node → Option FileObject} {trace : List FileEvent} {event : FileEvent}
  {s : FileRun Node DesktopFileMoveResult}

theorem Unmoved.nothingLost (h : Unmoved names request destination original point) :
    NothingLost names request destination original point :=
  ⟨Or.inl h.source, fun node _ => h.others node⟩

theorem unmoved_self : Unmoved names request destination original original :=
  ⟨rfl, rfl, fun _ _ => rfl⟩

def SourceKept (request : DesktopFileMoveRequest) (trace : List FileEvent) : Prop :=
  .unlink request.sourcePath 0 ∉ trace

structure Untouched (names : PathNames Node) (request : DesktopFileMoveRequest)
    (destination : Path) (original : Node → Option FileObject)
    (s : FileRun Node DesktopFileMoveResult) : Prop where
  now : s.objects = original
  points : ∀ point ∈ s.points, Unmoved names request destination original point
  kept : SourceKept request s.trace

theorem SourceKept.concat (h : SourceKept request trace)
    (hevent : event ≠ .unlink request.sourcePath 0) :
    SourceKept request (trace ++ [event]) := by
  intro hmem
  rcases List.mem_append.mp hmem with hmem | hmem
  · exact h hmem
  · exact hevent (List.mem_singleton.mp hmem).symm

theorem SourceKept.harmless (h : SourceKept request trace) (hevent : event.harmless = true) :
    SourceKept request (trace ++ [event]) := by
  refine h.concat fun hunlink => ?_
  rw [hunlink] at hevent
  cases hevent

theorem mem_concat {α : Type} {R : α → Prop} {points : List α} {last : α}
    (h : ∀ point ∈ points, R point) (hlast : R last) : ∀ point ∈ points ++ [last], R point := by
  intro point hpoint
  rcases List.mem_append.mp hpoint with hmem | hmem
  · exact h point hmem
  · rw [List.mem_singleton.mp hmem]
    exact hlast

theorem untouched_undisturbed : Undisturbed (Untouched names request destination original) := by
  intro event s s' hevent hkept hs
  refine ⟨hkept.objects.trans hs.now, ?_, ?_⟩
  · rw [hkept.points, hs.now]
    exact mem_concat hs.points unmoved_self
  · rw [hkept.trace]
    exact hs.kept.harmless hevent

variable [DecidableEq Node]

/-- A temporary file of this content is all that was added. -/
structure HasTemporary (names : PathNames Node) (request : DesktopFileMoveRequest)
    (destination : Path) (original : Node → Option FileObject) (temporary : Path)
    (content : List UInt8) (s : FileRun Node DesktopFileMoveResult) : Prop where
  now : s.objects = Function.update original (names.node temporary) (some (.file content))
  free : original (names.node temporary) = none
  apart : names.node destination ≠ names.node temporary
  present : original (names.node request.sourcePath) ≠ none
  points : ∀ point ∈ s.points, Unmoved names request destination original point
  kept : SourceKept request s.trace

theorem unmoved_update {left : List UInt8} (hfree : original (names.node temporary) = none)
    (hapart : names.node destination ≠ names.node temporary)
    (hpresent : original (names.node request.sourcePath) ≠ none) :
    Unmoved names request destination original
      (Function.update original (names.node temporary) (some (.file left))) := by
  have hother (node : Node) (hnode : original node ≠ none) :
      Function.update original (names.node temporary) (some (.file left)) node = original node := by
    apply Function.update_of_ne
    intro hsame
    rw [hsame] at hnode
    exact hnode hfree
  exact ⟨hother _ hpresent, Function.update_of_ne hapart _ _, hother⟩

theorem HasTemporary.unmoved
    (h : HasTemporary names request destination original temporary content s) :
    Unmoved names request destination original s.objects := by
  rw [h.now]
  exact unmoved_update h.free h.apart h.present

theorem HasTemporary.ne_source
    (h : HasTemporary names request destination original temporary content s) :
    temporary ≠ request.sourcePath := by
  intro hsame
  have hpresent := h.present
  rw [← hsame] at hpresent
  exact hpresent h.free

theorem hasTemporary_undisturbed :
    Undisturbed (HasTemporary names request destination original temporary content) := by
  intro event s s' hevent hkept hs
  refine ⟨hkept.objects.trans hs.now, hs.free, hs.apart, hs.present, ?_, ?_⟩
  · rw [hkept.points]
    exact mem_concat hs.points hs.unmoved
  · rw [hkept.trace]
    exact hs.kept.harmless hevent

theorem HasTemporary.wrote {s' : FileRun Node DesktopFileMoveResult} {left : List UInt8}
    (h : HasTemporary names request destination original temporary content s)
    (hobjects : s'.objects = Function.update s.objects (names.node temporary) (some (.file left)))
    (hpoints : s'.points = s.points ++ [s'.objects]) (htrace : s'.trace = s.trace ++ [event])
    (hevent : event ≠ .unlink request.sourcePath 0) :
    HasTemporary names request destination original temporary left s' := by
  have hnow : s'.objects = Function.update original (names.node temporary) (some (.file left)) := by
    rw [hobjects, h.now, Function.update_idem]
  refine ⟨hnow, h.free, h.apart, h.present, ?_, ?_⟩
  · rw [hpoints, hnow]
    exact mem_concat h.points (unmoved_update h.free h.apart h.present)
  · rw [htrace]
    exact h.kept.concat hevent

/-- Nothing was moved. All that may be left is a temporary file whose unlink failed last. -/
structure Refused (names : PathNames Node) (request : DesktopFileMoveRequest)
    (destination : Path) (original : Node → Option FileObject) (status : Int)
    (s : FileRun Node DesktopFileMoveResult) : Prop where
  ordinary : Ordinary status
  points : ∀ point ∈ s.points, Unmoved names request destination original point
  unmoved : Unmoved names request destination original s.objects
  kept : SourceKept request s.trace
  cleaned : s.objects = original ∨ ∃ temporary left failed,
    s.objects = Function.update original (names.node temporary) (some (.file left)) ∧
      s.trace.getLast? = some (.unlink temporary failed) ∧ failed ≠ 0

theorem Untouched.refused {status : Int} (h : Untouched names request destination original s)
    (hstatus : Ordinary status) :
    Refused names request destination original status s := by
  refine ⟨hstatus, h.points, ?_, h.kept, Or.inl h.now⟩
  rw [h.now]
  exact unmoved_self

theorem refused_points (h : HasTemporary names request destination original temporary content s)
    (hpoint : Unmoved names request destination original point) :
    ∀ other ∈ (FileRun.record event { s with objects := point }).points,
      Unmoved names request destination original other := mem_concat h.points hpoint

theorem discarding_triple {α : Type} {x : MoveProgram Node α}
    {P : FileRun Node DesktopFileMoveResult → Prop}
    {Q : α → FileRun Node DesktopFileMoveResult → Prop}
    (h : Triple P x Q fun status s => Ordinary status ∧
      ∃ left, HasTemporary names request destination original temporary left s) :
    Triple P (discarding names temporary x) Q (Refused names request destination original) := by
  refine Triple.bind (Triple.outcome_ends h) fun ended => ?_
  cases ended with
  | ok _ => exact Triple.pure fun _ hs => hs
  | error status =>
    refine Triple.bind (Q := fun _ s => Refused names request destination original status s)
      (unlink_triple ?_ ?_) fun _ => Triple.fail fun s hs => hs
    · intro s failed hs hfailed
      obtain ⟨hstatus, left, hleft⟩ := hs
      refine ⟨hstatus, refused_points hleft hleft.unmoved, hleft.unmoved, ?_, Or.inr ?_⟩
      · refine hleft.kept.concat fun hsame => ?_
        injection hsame with hpath hzero
        exact hfailed hzero
      · exact ⟨temporary, left, failed, hleft.now, List.getLast?_concat, hfailed⟩
    · intro s hs
      obtain ⟨hstatus, left, hleft⟩ := hs
      have hback : Function.update s.objects (names.node temporary) none = original := by
        rw [hleft.now, Function.update_idem, ← hleft.free, Function.update_eq_self]
      refine ⟨hstatus, ?_, ?_, ?_, Or.inl hback⟩
      · exact refused_points hleft (hback ▸ unmoved_self)
      · show Unmoved names request destination original (Function.update s.objects _ none)
        rw [hback]
        exact unmoved_self
      · refine hleft.kept.concat fun hsame => ?_
        injection hsame with hpath _
        exact hleft.ne_source hpath

end ReistOs
