import ReistOs.DesktopFileMovePublish

/-! No request and no failure of a file call loses the file. -/

namespace ReistOs

open Attempt

def moveDestination (request : DesktopFileMoveRequest) : Path :=
  childParent request.destinationDirectoryPath ++ 47 :: request.sourceIdentity.name

section Finishing

variable {Node : Type} [DecidableEq Node] {names : PathNames Node}
  {request : DesktopFileMoveRequest} {original : Node → Option FileObject} {destination : Path}
  {budget : DesktopFileMoveBudget} {content : List UInt8} {handle : Nat}

/-- The source was unlinked last, after the publication. -/
structure Moved (names : PathNames Node) (request : DesktopFileMoveRequest) (destination : Path)
    (original : Node → Option FileObject) (content : List UInt8)
    (s : FileRun Node DesktopFileMoveResult) : Prop where
  now : s.objects = Function.update (Function.update original (names.node destination)
    (some (.file content))) (names.node request.sourcePath) none
  free : original (names.node destination) = none
  source : original (names.node request.sourcePath) = some (.file content)
  points : ∀ point ∈ s.points, NothingLost names request destination original point
  last : ∃ t, s.trace = t ++ [.unlink request.sourcePath 0] ∧ SourceKept request t ∧
    PublishedFrom request destination t

omit [DecidableEq Node] in
theorem source_apart (hfree : original (names.node destination) = none)
    (hsource : original (names.node request.sourcePath) = some (.file content)) :
    names.node destination ≠ names.node request.sourcePath := by
  intro hsame
  rw [hsame, hsource] at hfree
  cases hfree

theorem nothingLost_moved (hfree : original (names.node destination) = none)
    (hsource : original (names.node request.sourcePath) = some (.file content)) :
    NothingLost names request destination original
      (Function.update (Function.update original (names.node destination) (some (.file content)))
        (names.node request.sourcePath) none) := by
  have hpublished : NothingLost names request destination original
      (Function.update original (names.node destination) (some (.file content))) :=
    nothingLost_published hfree hsource
  refine ⟨Or.inr ?_, fun node hnode hthere => ?_⟩
  · rw [Function.update_of_ne (source_apart hfree hsource), Function.update_self, hsource]
  · rw [Function.update_of_ne hnode]
    exact hpublished.others node hnode hthere

theorem retaining_triple {α : Type} {x : MoveProgram Node α}
    {P : FileRun Node DesktopFileMoveResult → Prop}
    {Q : α → FileRun Node DesktopFileMoveResult → Prop}
    (h : Triple P x Q fun _ => BothKept names request destination original content) :
    Triple P (retaining x) Q fun status s => status = desktopFileMoveEpartial ∧
      BothKept names request destination original content s := by
  refine Triple.bind (Triple.outcome_ends h) fun ended => ?_
  cases ended with
  | ok _ => exact Triple.pure fun _ hs => hs
  | error _ =>
    refine Triple.bind (Q := fun _ => BothKept names request destination original content)
      (report_triple fun s hs => ?_) fun _ => Triple.fail fun s hs => ⟨rfl, hs⟩
    exact ⟨hs.now, hs.free, hs.source, hs.points, hs.kept, hs.published⟩

theorem checkPublished_triple :
    Triple (BothKept names request destination original content)
      (checkPublished names request destination budget)
      (fun _ => BothKept names request destination original content)
      fun _ => BothKept names request destination original content := by
  refine Triple.bind (Q := fun _ => BothKept names request destination original content) ?_ ?_
  · exact (statNofollow_looks bothKept_undisturbed.unaffected).ends (fun _ _ hs => hs) fun _ _ hs => hs.2
  · intro published
    exact Triple.bind (refuse_triple fun s hs => hs) fun _ => Triple.ret

theorem removeSource_triple :
    Triple (BothKept names request destination original content)
      (removeSource names request budget)
      (fun _ => Moved names request destination original content)
      fun _ => BothKept names request destination original content := by
  have hstat (path : Path) : Triple (BothKept names request destination original content)
      (statNofollow names path budget)
      (fun _ => BothKept names request destination original content)
      fun _ => BothKept names request destination original content :=
    (statNofollow_looks bothKept_undisturbed.unaffected).ends (fun _ _ hs => hs) fun _ _ hs => hs.2
  refine (hstat _).bind fun _ => (hstat _).bind fun _ => ?_
  refine Triple.bind (refuse_triple fun s hs => hs) fun _ => ?_
  refine Triple.bind (Q := fun status s =>
    (status = 0 → Moved names request destination original content s) ∧
    (status ≠ 0 → BothKept names request destination original content s))
    (unlink_triple ?_ ?_) fun status => ?_
  · intro s status hs hstatus
    refine ⟨fun hzero => absurd hzero hstatus, fun _ => ?_⟩
    refine ⟨hs.now, hs.free, hs.source, ?_, ?_, hs.published.concat _⟩
    · refine mem_concat hs.points ?_
      show NothingLost names request destination original s.objects
      rw [hs.now]
      exact nothingLost_published hs.free hs.source
    · refine hs.kept.concat fun hsame => ?_
      injection hsame with _ hzero
      exact hstatus hzero
  · intro s hs
    refine ⟨fun _ => ?_, fun hno => absurd rfl hno⟩
    have hnow : Function.update s.objects (names.node request.sourcePath) none =
        Function.update (Function.update original (names.node destination)
          (some (.file content))) (names.node request.sourcePath) none := by rw [hs.now]
    refine ⟨hnow, hs.free, hs.source, ?_, s.trace, rfl, hs.kept, hs.published⟩
    refine mem_concat hs.points ?_
    show NothingLost names request destination original (Function.update s.objects _ none)
    rw [hnow]
    exact nothingLost_moved hs.free hs.source
  · exact Triple.refuse (fun s hs hstatus => hs.2 hstatus) fun s hs hzero => hs.1 (not_not.mp hzero)

theorem finishMove_triple :
    Triple (BothKept names request destination original content)
      (finishMove names request destination budget)
      (fun _ => Moved names request destination original content)
      fun status s => status = desktopFileMoveEpartial ∧
        BothKept names request destination original content s := by
  have hreport (f : DesktopFileMoveResult → DesktopFileMoveResult)
      {E : Int → FileRun Node DesktopFileMoveResult → Prop} :
      Triple (BothKept names request destination original content) (report f)
        (fun _ => BothKept names request destination original content) E :=
    report_triple fun s hs => ⟨hs.now, hs.free, hs.source, hs.points, hs.kept, hs.published⟩
  refine (hreport _).bind fun _ => ?_
  refine Triple.bind (retaining_triple checkPublished_triple) fun published => ?_
  refine (hreport _).bind fun _ => ?_
  refine Triple.bind (retaining_triple removeSource_triple) fun _ => ?_
  exact report_triple fun s hs => ⟨hs.now, hs.free, hs.source, hs.points, hs.last⟩

/-- The source is open, and nothing has been changed. -/
structure Ready (names : PathNames Node) (request : DesktopFileMoveRequest) (destination : Path)
    (original : Node → Option FileObject) (handle : Nat)
    (s : FileRun Node DesktopFileMoveResult) : Prop where
  untouched : Untouched names request destination original s
  reader : s.readers[handle]? = some (names.node request.sourcePath, 0)
  opened : ∃ timeout, .openFlags request.sourcePath timeout (.ok handle) ∈ s.trace

omit [DecidableEq Node] in
theorem ready_unaffected : Unaffected (Ready names request destination original handle) := by
  intro event s s' hevent hkept hreaders hs
  obtain ⟨timeout, hmem⟩ := hs.opened
  refine ⟨?_, unaffected_reader _ _ event s s' hevent hkept hreaders hs.reader, timeout, ?_⟩
  · exact untouched_undisturbed.unaffected event s s' hevent hkept hreaders hs.untouched
  · rw [hkept.trace]
    exact List.mem_append_left _ hmem

def Created (names : PathNames Node) (request : DesktopFileMoveRequest) (destination : Path)
    (original : Node → Option FileObject) (content : List UInt8) (handle : Nat)
    (temporary : Path) (descriptor : Nat) (s : FileRun Node DesktopFileMoveResult) : Prop :=
  ∃ t, (∃ timeout, .openFlags request.sourcePath timeout (.ok handle) ∈ t) ∧
    Copying names request destination original temporary descriptor content
      (t ++ [.create temporary (.ok descriptor)]) handle (fun _ => True) 0 [] s

theorem Ready.created {s : FileRun Node DesktopFileMoveResult} {temporary : Path}
    (h : Ready names request destination original handle s)
    (hsource : original (names.node request.sourcePath) = some (.file content))
    (hapart : names.node destination ≠ names.node temporary)
    (hfree : s.objects (names.node temporary) = none) :
    Created names request destination original content handle temporary s.writers.length
      ((s.withFile (names.node temporary) (.ok s.writers.length)).record
        (.create temporary (.ok s.writers.length))) := by
  rw [h.untouched.now] at hfree
  have hpresent : original (names.node request.sourcePath) ≠ none := by
    rw [hsource]
    exact Option.some_ne_none _
  have hne : names.node request.sourcePath ≠ names.node temporary := by
    intro hsame
    rw [hsame] at hpresent
    exact hpresent hfree
  have hnow : Function.update s.objects (names.node temporary) (some (.file [])) =
      Function.update original (names.node temporary) (some (.file [])) := by rw [h.untouched.now]
  refine ⟨s.trace, h.opened, ⟨⟨hnow, hfree, hapart, hpresent, ?_, ?_⟩, ?_⟩, ?_⟩
  · refine mem_concat h.untouched.points ?_
    show Unmoved names request destination original (Function.update s.objects _ _)
    rw [hnow]
    exact unmoved_update hfree hapart hpresent
  · exact h.untouched.kept.concat nofun
  · exact List.getElem?_concat_length
  · refine ⟨h.reader, ?_, Nat.zero_le _, [], (List.append_nil _).symm, rfl, trivial⟩
    show Function.update s.objects (names.node temporary) (some (.file [])) _ = _
    rw [hnow, Function.update_of_ne hne]
    exact hsource

theorem createTemporary_triple (hallowed : moveRequestAllowed request = true)
    (hdestination : buildChildPath request.destinationDirectoryPath request.sourceIdentity.name =
      some destination)
    (hsource : original (names.node request.sourcePath) = some (.file content)) (left : Nat) :
    Triple (Ready names request destination original handle)
      (createTemporary names request budget left)
      (fun made => Created names request destination original content handle made.1 made.2)
      fun status s => Ordinary status ∧ Untouched names request destination original s := by
  induction left with
  | zero => exact Triple.fail fun s hs => ⟨ordinary_ecapacity, hs.untouched⟩
  | succ left ih =>
    unfold createTemporary
    dsimp only
    split
    next => exact Triple.fail fun s hs => ⟨ordinary_ecapacity, hs.untouched⟩
    next temporary htemporary =>
      refine Triple.bind (Triple.outcome_ends (pathAbsent_looks ready_unaffected)) fun found => ?_
      cases found with
      | error status =>
        refine Triple.ite (fun _ => ih.pre fun s hs => hs.2) fun _ => ?_
        exact Triple.fail fun s hs => ⟨hs.1, hs.2.untouched⟩
      | ok _ =>
        refine Triple.bind (Q := fun created s =>
          (∀ descriptor, created = .ok descriptor → Created names request destination original
            content handle temporary descriptor s) ∧
          ∀ status, created = .error status → Ready names request destination original handle s)
          (create_triple ?_ ?_) fun created => ?_
        · intro s status hs
          refine ⟨fun descriptor hno => (by cases hno), fun _ _ => ?_⟩
          exact ready_unaffected.record rfl hs
        · intro s hs hfree
          refine ⟨fun descriptor hdescriptor => ?_, fun status hno => (by cases hno)⟩
          cases hdescriptor
          exact hs.created hsource (temporary_apart names hallowed hdestination htemporary) hfree
        · cases created with
          | ok descriptor => exact Triple.pure fun s hs => hs.1 descriptor rfl
          | error status =>
            refine Triple.ite (fun _ => ih.pre fun s hs => hs.2 status rfl) fun _ => ?_
            exact Triple.fail fun s hs => ⟨ordinary_eio, (hs.2 status rfl).untouched⟩

end Finishing

variable {Node : Type} [DecidableEq Node] {names : PathNames Node}
  {request : DesktopFileMoveRequest} {original : Node → Option FileObject} {destination : Path}

def Stopped (names : PathNames Node) (request : DesktopFileMoveRequest) (destination : Path)
    (original : Node → Option FileObject) (status : Int)
    (s : FileRun Node DesktopFileMoveResult) : Prop :=
  Refused names request destination original status s ∨
    status = desktopFileMoveEpartial ∧
      ∃ content, BothKept names request destination original content s

theorem untouched_stops {α : Type} {x : MoveProgram Node α}
    {Q : α → FileRun Node DesktopFileMoveResult → Prop}
    {P : FileRun Node DesktopFileMoveResult → Prop}
    (h : Triple P x Q fun status s =>
      Ordinary status ∧ Untouched names request destination original s) :
    Triple P x Q (Stopped names request destination original) :=
  h.ends (fun _ _ hs => hs) fun _ _ hs => Or.inl (hs.2.refused hs.1)

variable {content : List UInt8}

theorem copied_triple {handle descriptor : Nat} {temporary : Path} {budget : DesktopFileMoveBudget}
    (hsource : original (names.node request.sourcePath) = some (.file content)) :
    Triple (Created names request destination original content handle temporary descriptor)
      (do
        let hash ← discarding names temporary (writeTemporary request handle descriptor budget)
        let _ ← discarding names temporary
          (readbackTemp names temporary request.sourceIdentity.size hash budget)
        discarding names temporary (recheckAuthority names request budget)
        discarding names temporary (publishMove names temporary destination budget)
        finishMove names request destination budget)
      (fun _ s => ∃ content, Moved names request destination original content s)
      (Stopped names request destination original) := by
  refine Triple.exists fun t => ?_
  refine Triple.pre (P := fun s =>
    Copying names request destination original temporary descriptor content
      (t ++ [.create temporary (.ok descriptor)]) handle (fun _ => True) 0 [] s ∧
    ∃ timeout, .openFlags request.sourcePath timeout (.ok handle) ∈ t) ?_ fun s hs => ⟨hs.2, hs.1⟩
  refine Triple.fact fun hopen => ?_
  have hrefused {α : Type} {x : MoveProgram Node α}
      {P : FileRun Node DesktopFileMoveResult → Prop}
      {Q : α → FileRun Node DesktopFileMoveResult → Prop}
      (h : Triple P x Q (Fails names request destination original temporary)) :
      Triple P (discarding names temporary x) Q (Stopped names request destination original) :=
    (discarding_triple h).ends (fun _ _ hs => hs) fun _ _ hs => Or.inl hs
  refine Triple.bind (hrefused writeTemporary_triple) fun hash => ?_
  refine Triple.pre (P := fun s => ∃ t2,
    (HasTemporary names request destination original temporary content s ∧
      LookedSince (t ++ [.create temporary (.ok descriptor)] ++ t2 ++ [.fsync descriptor 0]) s) ∧
    FileEvent.bytesRead handle t2 = content) (Triple.exists fun t2 => ?_) fun s hs => ?_
  · refine Triple.fact fun hread => ?_
    refine Triple.bind (hrefused readbackTemp_triple) fun _ => ?_
    refine Triple.exists fun back => ?_
    have hrecheck : Triple (BackRead names request destination original temporary content
        (t ++ [.create temporary (.ok descriptor)] ++ t2 ++ [.fsync descriptor 0])
        request.sourceIdentity.size back hash) (recheckAuthority names request budget)
        (fun _ => BackRead names request destination original temporary content
          (t ++ [.create temporary (.ok descriptor)] ++ t2 ++ [.fsync descriptor 0])
          request.sourceIdentity.size back hash)
        (Fails names request destination original temporary) :=
      (recheckAuthority_looks backRead_unaffected).ends (fun _ _ hs => hs)
        fun _ _ hs => ⟨hs.1, _, hs.2.file⟩
    refine Triple.bind (hrefused hrecheck) fun _ => ?_
    have hbefore : t ++ [.create temporary (.ok descriptor)] ++ t2 ++ [.fsync descriptor 0] =
        t ++ .create temporary (.ok descriptor) :: t2 ++ [.fsync descriptor 0] := by
      simp only [List.append_assoc, List.cons_append, List.nil_append]
    refine Triple.bind (hrefused (publishMove_triple hsource hopen hread hbefore)) fun _ => ?_
    exact finishMove_triple.ends (fun _ _ hs => ⟨content, hs⟩)
      fun _ _ hs => Or.inr ⟨hs.1, content, hs.2⟩
  · obtain ⟨t2, hread, hlooked⟩ := hs.synced
    exact ⟨t2, ⟨hs.file, hlooked⟩, hread⟩

theorem desktopFileMoveExecute_triple :
    Triple (Untouched names request (moveDestination request) original)
      (desktopFileMoveExecute names request)
      (fun _ s => ∃ content, Moved names request (moveDestination request) original content s)
      (Stopped names request (moveDestination request) original) := by
  have hlook {α : Type} {x : MoveProgram Node α}
      (h : Looks (Untouched names request (moveDestination request) original) x) :
      Triple (Untouched names request (moveDestination request) original) x
        (fun _ => Untouched names request (moveDestination request) original)
        (Stopped names request (moveDestination request) original) := untouched_stops h
  have hunaffected : Unaffected (Untouched names request (moveDestination request) original) :=
    untouched_undisturbed.unaffected
  refine Triple.bind (Q := fun _ => Untouched names request (moveDestination request) original)
    (report_triple fun s hs => ⟨hs.now, hs.points, hs.kept⟩) fun _ => ?_
  refine Triple.bind (hlook (Looks.refuse ordinary_ecapacity)) fun _ => ?_
  refine Triple.bind (Q := fun _ s =>
    Untouched names request (moveDestination request) original s ∧ moveRequestAllowed request = true)
    (Triple.refuse ?_ ?_) fun _ => ?_
  · intro s hs _
    exact Or.inl (hs.refused ordinary_einval)
  · intro s hs hallowed
    exact ⟨hs, not_not.mp hallowed⟩
  refine Triple.fact fun hallowed => ?_
  split
  next => exact hlook (Looks.fail ordinary_ecapacity)
  next destination hdestination =>
    have hpath : destination = moveDestination request := buildChildPath_eq hdestination
    rw [hpath] at hdestination ⊢
    refine Triple.bind (hlook (budgetStart_looks hunaffected)) fun budget => ?_
    refine Triple.bind (hlook (checkAuthority_looks hunaffected)) fun _ => ?_
    refine Triple.bind (hlook (pathAbsent_looks hunaffected)) fun _ => ?_
    refine Triple.bind (Q := fun handle s => ∃ content,
      Ready names request (moveDestination request) original handle s ∧
      original (names.node request.sourcePath) = some (.file content)) ?_ fun handle => ?_
    · refine Triple.start fun s0 hs0 => ?_
      have hopen : Triple (fun s => Untouched names request (moveDestination request) original s ∧
          LookedSince s0.trace s)
          (openBoundFile names request.sourcePath (some request.sourceIdentity) budget)
          (fun handle s => Untouched names request (moveDestination request) original s ∧
            Opened names request.sourcePath s0.trace handle s)
          fun status s => Ordinary status ∧
            Untouched names request (moveDestination request) original s :=
        openBoundFile_triple hunaffected
      refine (untouched_stops hopen).weaken (fun s hs => ?_) (fun handle s hs => ?_) fun _ _ hs => hs
      · rw [hs]
        exact ⟨hs0, [], (List.append_nil _).symm, fun event hevent => by cases hevent⟩
      · obtain ⟨bytes, hfile⟩ := hs.2.file
        obtain ⟨t, htrace, _, timeout, hmem⟩ := hs.2.since
        rw [hs.1.now] at hfile
        refine ⟨bytes, ⟨hs.1, hs.2.reader, timeout, ?_⟩, hfile⟩
        rw [htrace]
        exact List.mem_append_right _ hmem
    · refine Triple.exists fun content => Triple.fact fun hsource => ?_
      refine Triple.bind (untouched_stops (closing_triple ?_
        (createTemporary_triple hallowed hdestination hsource _))) fun made => ?_
      · intro status event s s' hevent hkept hreaders hs
        exact ⟨hs.1, hunaffected event s s' hevent hkept hreaders hs.2⟩
      · refine Triple.bind (Q := fun _ => Created names request (moveDestination request) original
          content handle made.1 made.2) (report_triple fun s hs => ?_) fun _ => ?_
        · obtain ⟨t, hopened, hcopying⟩ := hs
          exact ⟨t, hopened, hcopying.reported _⟩
        · exact copied_triple hsource

theorem last_unlink {t before after : List FileEvent} (hkept : SourceKept request t)
    (h : t ++ [.unlink request.sourcePath 0] = before ++ .unlink request.sourcePath 0 :: after) :
    before = t := by
  rcases List.append_eq_append_iff.mp h with ⟨more, hbefore, hlast⟩ | ⟨more, ht, hlast⟩
  · cases more with
    | nil => rw [hbefore, List.append_nil]
    | cons event more =>
      have hlength := congrArg List.length hlast
      simp only [List.length_cons, List.length_append, List.length_nil] at hlength
      omega
  · cases more with
    | nil => rw [ht, List.append_nil]
    | cons event more =>
      rw [List.cons_append, List.cons_eq_cons] at hlast
      refine absurd ?_ hkept
      rw [ht, ← hlast.1]
      exact List.mem_append_right _ List.mem_cons_self

/-- What a run of the move keeps and what its status says. -/
structure MoveSafe (names : PathNames Node) (request : DesktopFileMoveRequest)
    (original : Node → Option FileObject) (status : Int)
    (s : FileRun Node DesktopFileMoveResult) : Prop where
  /-- At every point the source is there or the destination has its content. -/
  nothingLost : ∀ point ∈ s.points ++ [s.objects],
    NothingLost names request (moveDestination request) original point
  notReplaced : original (names.node (moveDestination request)) ≠ none →
    ∀ point ∈ s.points ++ [s.objects], point (names.node (moveDestination request)) =
      original (names.node (moveDestination request))
  /-- The source is unlinked after a verified publication only. -/
  verified : ∀ before after, s.trace = before ++ .unlink request.sourcePath 0 :: after →
    PublishedFrom request (moveDestination request) before
  ok : status = desktopFileMoveOk → s.objects (names.node request.sourcePath) = none ∧
    ∃ content, original (names.node request.sourcePath) = some (.file content) ∧
      s.objects (names.node (moveDestination request)) = some (.file content)
  partly : status = desktopFileMoveEpartial →
    ∃ content, original (names.node request.sourcePath) = some (.file content) ∧
      s.objects (names.node request.sourcePath) = some (.file content) ∧
      s.objects (names.node (moveDestination request)) = some (.file content)
  /-- Any other status: nothing has moved, and the temporary file is gone unless its unlink,
  the last call, failed. -/
  refused : Ordinary status →
    (∀ point ∈ s.points ++ [s.objects],
      Unmoved names request (moveDestination request) original point) ∧
    (s.objects = original ∨ ∃ temporary left failed,
      s.objects = Function.update original (names.node temporary) (some (.file left)) ∧
        s.trace.getLast? = some (.unlink temporary failed) ∧ failed ≠ 0)

variable {s : FileRun Node DesktopFileMoveResult}

theorem Moved.safe (h : Moved names request (moveDestination request) original content s) :
    MoveSafe names request original desktopFileMoveOk s := by
  obtain ⟨t, htrace, hkept, hpublished⟩ := h.last
  have hlost : NothingLost names request (moveDestination request) original s.objects := by
    rw [h.now]
    exact nothingLost_moved h.free h.source
  have hapart := source_apart h.free h.source
  refine ⟨mem_concat h.points hlost, fun hthere => absurd h.free hthere, ?_, fun _ => ?_, ?_, ?_⟩
  · intro before after hsplit
    rw [htrace] at hsplit
    rw [last_unlink hkept hsplit]
    exact hpublished
  · refine ⟨?_, content, h.source, ?_⟩
    · rw [h.now, Function.update_self]
    · rw [h.now, Function.update_of_ne hapart, Function.update_self]
  · intro hpartly
    cases hpartly
  · intro hordinary
    exact absurd rfl hordinary.1

theorem BothKept.safe (h : BothKept names request (moveDestination request) original content s) :
    MoveSafe names request original desktopFileMoveEpartial s := by
  have hlost : NothingLost names request (moveDestination request) original s.objects := by
    rw [h.now]
    exact nothingLost_published h.free h.source
  have hapart := source_apart h.free h.source
  refine ⟨mem_concat h.points hlost, fun hthere => absurd h.free hthere, ?_, ?_, fun _ => ?_, ?_⟩
  · intro before after hsplit
    refine absurd ?_ h.kept
    rw [hsplit]
    exact List.mem_append_right _ List.mem_cons_self
  · intro hok
    cases hok
  · refine ⟨content, h.source, ?_, ?_⟩
    · rw [h.now, Function.update_of_ne hapart.symm]
      exact h.source
    · rw [h.now, Function.update_self]
  · intro hordinary
    exact absurd rfl hordinary.2

theorem Refused.safe {status : Int}
    (h : Refused names request (moveDestination request) original status s) :
    MoveSafe names request original status s := by
  have hpoints := mem_concat h.points h.unmoved
  refine ⟨fun point hpoint => (hpoints point hpoint).nothingLost, ?_, ?_, ?_, ?_, fun _ => ?_⟩
  · intro _ point hpoint
    exact (hpoints point hpoint).destination
  · intro before after hsplit
    refine absurd ?_ h.kept
    rw [hsplit]
    exact List.mem_append_right _ List.mem_cons_self
  · intro hok
    exact absurd hok h.ordinary.1
  · intro hpartly
    exact absurd hpartly h.ordinary.2
  · exact ⟨hpoints, h.cleaned⟩

end ReistOs
