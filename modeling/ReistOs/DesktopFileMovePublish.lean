import ReistOs.DesktopFileMoveCopy

namespace ReistOs

open Attempt FileEvent

variable {Node : Type} [DecidableEq Node] {names : PathNames Node}
  {request : DesktopFileMoveRequest} {original : Node → Option FileObject} {destination : Path}
  {budget : DesktopFileMoveBudget} {temporary : Path} {content : List UInt8}
  {before : List FileEvent} {handle descriptor : Nat}

/-- The handle was opened on the temporary file, which was found to have this size. -/
def Measured (temporary : Path) (size handle : Nat) (t : List FileEvent) : Prop :=
  (∃ timeout, .openFlags temporary timeout (.ok handle) ∈ t) ∧
    ∃ info, .fstat handle (.ok info) ∈ t ∧ info.size = size

variable {size : Nat} {hash : UInt32}

theorem measured_lasting : Lasting (Measured temporary size handle) := by
  intro event t ht
  obtain ⟨⟨timeout, hopen⟩, info, hstat, hsize⟩ := ht
  exact ⟨⟨timeout, List.mem_append_left _ hopen⟩, info, List.mem_append_left _ hstat, hsize⟩

/-- The whole temporary file was read back through the handle. -/
structure BackRead (names : PathNames Node) (request : DesktopFileMoveRequest) (destination : Path)
    (original : Node → Option FileObject) (temporary : Path) (content : List UInt8)
    (before : List FileEvent) (size handle : Nat) (hash : UInt32)
    (s : FileRun Node DesktopFileMoveResult) : Prop where
  hash : hash = hashBytes hashSeed content
  length : content.length = size
  file : HasTemporary names request destination original temporary content s
  read : ∃ t, s.trace = before ++ t ∧ FileEvent.bytesRead handle t = content ∧
    Measured temporary size handle t

theorem backRead_unaffected :
    Unaffected (BackRead names request destination original temporary content before size handle
      hash) := by
  intro event s s' hevent hkept hreaders hs
  refine ⟨hs.hash, hs.length, ?_, ?_⟩
  · exact hasTemporary_undisturbed.unaffected event s s' hevent hkept hreaders hs.file
  · refine unaffected_since (fun event t hevent ht => ?_) event s s' hevent hkept hreaders hs.read
    rw [bytesRead_concat_looks hevent]
    exact ⟨ht.1, measured_lasting event t ht.2⟩

theorem Opened.readUpTo {s s0 : FileRun Node DesktopFileMoveResult} {info : FileInfo}
    (hfile : HasTemporary names request destination original temporary content s)
    (h : Opened names temporary before handle s) (h0 : Opened names temporary before handle s0)
    (htrace : s.trace = s0.trace ++ [.fstat handle (.ok info)]) (hsize : info.size = size) :
    ReadUpTo (names.node temporary) content before handle (Measured temporary size handle) 0 s := by
  obtain ⟨t, hstart, hlooks, timeout, hopen⟩ := h0.since
  refine ⟨h.reader, ?_, Nat.zero_le _, t ++ [.fstat handle (.ok info)], ?_, ?_, ?_, ?_⟩
  · rw [hfile.now]
    exact Function.update_self _ _ _
  · rw [htrace, hstart, List.append_assoc]
  · have hlook : looks (.fstat handle (.ok info)) = true := rfl
    rw [bytesRead_concat_looks hlook]
    exact bytesRead_of_looks hlooks
  · exact ⟨timeout, List.mem_append_left _ hopen⟩
  · exact ⟨info, List.mem_append_right _ List.mem_cons_self, hsize⟩

theorem measure_triple :
    Triple (fun s => HasTemporary names request destination original temporary content s ∧
        Opened names temporary before handle s)
      (reistVfsFileFstat handle : MoveProgram Node _)
      (fun found s => HasTemporary names request destination original temporary content s ∧
        ∀ info, found = .ok info → info.size = size →
          ReadUpTo (names.node temporary) content before handle (Measured temporary size handle)
            0 s)
      (Fails names request destination original temporary) := by
  have hopened : Unaffected fun s =>
      HasTemporary names request destination original temporary content s ∧
        Opened names temporary before handle s :=
    hasTemporary_undisturbed.unaffected.and opened_unaffected
  refine (fstat_unaffected hopened).post fun found s hs => ?_
  obtain ⟨⟨hfile, hnow⟩, s0, ⟨_, hthen⟩, htrace⟩ := hs
  refine ⟨hfile, fun info hfound hsize => ?_⟩
  rw [hfound] at htrace
  exact hnow.readUpTo hfile hthen htrace hsize

theorem readbackTemp_triple {expected : UInt32} :
    Triple (fun s => HasTemporary names request destination original temporary content s ∧
        LookedSince before s)
      (readbackTemp names temporary size expected budget)
      (fun _ s => ∃ back, BackRead names request destination original temporary content before size
        back expected s)
      (Fails names request destination original temporary) := by
  refine Triple.bind (Q := fun back s =>
    HasTemporary names request destination original temporary content s ∧
      Opened names temporary before back s) ?_ fun back => ?_
  · exact (openBoundFile_triple hasTemporary_undisturbed.unaffected).ends (fun _ _ hs => hs) fun _ _ hs => ⟨hs.1, _, hs.2⟩
  refine Triple.bind (Q := fun read => BackRead names request destination original temporary
    content before size back read.2) (closing_triple fails_unaffected ?_) fun read => ?_
  · refine Triple.bind (Q := fun found s =>
      HasTemporary names request destination original temporary content s ∧
      ∀ info, found = .ok info → info.size = size →
        ReadUpTo (names.node temporary) content before back (Measured temporary size back) 0 s)
      measure_triple fun found => ?_
    cases found with
    | error _ => exact Triple.fail fun s hs => ⟨ordinary_eio, _, hs.1⟩
    | ok info =>
      refine Triple.bind (Q := fun _ s =>
        HasTemporary names request destination original temporary content s ∧
        ReadUpTo (names.node temporary) content before back (Measured temporary size back) 0 s)
        (Triple.refuse ?_ ?_) fun _ => ?_
      · intro s hs _
        exact ⟨ordinary_eio, _, hs.1⟩
      · intro s hs hsize
        exact ⟨hs.1, hs.2 info rfl (not_not.mp hsize)⟩
      · refine Triple.bind ((readBackFrom_triple hasTemporary_undisturbed measured_lasting size 0
          (Nat.le_add_left _ _)).errors fun _ _ hs => ⟨hs.1, _, hs.2⟩) fun hash => ?_
        refine Triple.bind (Q := fun answer s =>
          HasTemporary names request destination original temporary content s ∧
          (answer.1 = 0 → BackRead names request destination original temporary content before size
            back hash s)) ?_ fun answer => ?_
        · intro w n s hs
          obtain ⟨total, hsize, hle, hhash, hs⟩ := hs
          refine (readTrailing_triple hasTemporary_undisturbed measured_lasting).post ?_ w n s hs
          intro answer s' hs'
          refine ⟨hs'.1, fun hzero => ?_⟩
          obtain ⟨htotal, hread⟩ := hs'.2 hzero
          have hall : content.take total = content := by rw [htotal, List.take_length]
          obtain ⟨t, htrace, hbytes, hmeasured⟩ := hread.since
          rw [hall] at hhash hbytes
          exact ⟨hhash, by omega, hs'.1, t, htrace, hbytes, hmeasured⟩
        · refine Triple.bind (Q := fun _ => BackRead names request destination original temporary
            content before size back hash) (Triple.refuse ?_ ?_) fun _ => Triple.pure fun _ hs => hs
          · intro s hs _
            exact ⟨ordinary_eio, _, hs.1⟩
          · intro s hs hzero
            exact hs.2 (not_not.mp hzero)
  · refine Triple.bind (closeHandle_unaffected backRead_unaffected) fun closed => ?_
    refine Triple.bind (Q := fun _ => BackRead names request destination original temporary content
      before size back expected) (Triple.refuse ?_ ?_) fun _ => Triple.pure fun s hs => ⟨back, hs⟩
    · intro s hs _
      exact ⟨ordinary_eio, _, hs.file⟩
    · intro s hs hgood
      have hhash : read.2 = expected := by
        by_contra hno
        exact hgood (Or.inr hno)
      rw [hhash] at hs
      exact hs

/-- What a verified publication leaves in the trace: the copy was written from what was read and
synced, then opened again, measured, read back with the same hash, and given its name. -/
def PublishedFrom (request : DesktopFileMoveRequest) (destination : Path)
    (trace : List FileEvent) : Prop :=
  ∃ temporary descriptor handle back t₁ t₂ t₃ t₄,
    trace = t₁ ++ .create temporary (.ok descriptor) :: t₂ ++ .fsync descriptor 0 :: t₃ ++
        .rename temporary destination 0 :: t₄ ∧
      (∃ timeout, .openFlags request.sourcePath timeout (.ok handle) ∈ t₁) ∧
      (FileEvent.bytesRead handle t₂).length = request.sourceIdentity.size ∧
      Measured temporary request.sourceIdentity.size back t₃ ∧
      FileEvent.bytesRead back t₃ = FileEvent.bytesRead handle t₂ ∧
      hashBytes hashSeed (FileEvent.bytesRead back t₃) =
        hashBytes hashSeed (FileEvent.bytesRead handle t₂)

theorem PublishedFrom.concat {trace : List FileEvent} (event : FileEvent)
    (h : PublishedFrom request destination trace) :
    PublishedFrom request destination (trace ++ [event]) := by
  obtain ⟨temporary, descriptor, handle, back, t1, t2, t3, t4, htrace, hrest⟩ := h
  refine ⟨temporary, descriptor, handle, back, t1, t2, t3, t4 ++ [event], ?_, hrest⟩
  rw [htrace]
  simp only [List.append_assoc, List.cons_append]

/-- The destination has the content, and the source is still there. -/
structure BothKept (names : PathNames Node) (request : DesktopFileMoveRequest) (destination : Path)
    (original : Node → Option FileObject) (content : List UInt8)
    (s : FileRun Node DesktopFileMoveResult) : Prop where
  now : s.objects = Function.update original (names.node destination) (some (.file content))
  free : original (names.node destination) = none
  source : original (names.node request.sourcePath) = some (.file content)
  points : ∀ point ∈ s.points, NothingLost names request destination original point
  kept : SourceKept request s.trace
  published : PublishedFrom request destination s.trace

theorem nothingLost_published (hfree : original (names.node destination) = none)
    (hsource : original (names.node request.sourcePath) = some (.file content)) :
    NothingLost names request destination original
      (Function.update original (names.node destination) (some (.file content))) := by
  refine ⟨Or.inr ?_, fun node _ hnode => ?_⟩
  · rw [hsource]
    exact Function.update_self _ _ _
  · apply Function.update_of_ne
    intro hsame
    rw [hsame] at hnode
    exact hnode hfree

theorem bothKept_undisturbed :
    Undisturbed (BothKept names request destination original content) := by
  intro event s s' hevent hkept hs
  refine ⟨hkept.objects.trans hs.now, hs.free, hs.source, ?_, ?_, ?_⟩
  · rw [hkept.points, hs.now]
    exact mem_concat hs.points (nothingLost_published hs.free hs.source)
  · rw [hkept.trace]
    exact hs.kept.harmless hevent
  · rw [hkept.trace]
    exact hs.published.concat event

theorem publishMove_triple {back : Nat} {t1 t2 : List FileEvent}
    (hsource : original (names.node request.sourcePath) = some (.file content))
    (hopen : ∃ timeout, .openFlags request.sourcePath timeout (.ok handle) ∈ t1)
    (hread : FileEvent.bytesRead handle t2 = content)
    (hbefore : before = t1 ++ .create temporary (.ok descriptor) :: t2 ++ [.fsync descriptor 0]) :
    Triple (BackRead names request destination original temporary content before
        request.sourceIdentity.size back hash)
      (publishMove names temporary destination budget)
      (fun _ => BothKept names request destination original content)
      (Fails names request destination original temporary) := by
  refine Triple.bind (Q := fun _ => BackRead names request destination original temporary content
    before request.sourceIdentity.size back hash) ?_ fun _ => ?_
  · exact (pathAbsent_looks backRead_unaffected).ends (fun _ _ hs => hs)
      fun _ _ hs => ⟨hs.1, _, hs.2.file⟩
  refine Triple.bind (Q := fun status s => (status = 0 →
    BothKept names request destination original content s) ∧ (status ≠ 0 →
    HasTemporary names request destination original temporary content s))
    (rename_triple ?_ ?_) fun status => ?_
  · intro s status hs hstatus
    refine ⟨fun hzero => absurd hzero hstatus, fun _ => ?_⟩
    refine ⟨hs.file.now, hs.file.free, hs.file.apart, hs.file.present, ?_, ?_⟩
    · exact mem_concat hs.file.points hs.file.unmoved
    · exact hs.file.kept.concat nofun
  · intro s hs hnone
    refine ⟨fun _ => ?_, fun hno => absurd rfl hno⟩
    have hfree : original (names.node destination) = none := by
      rw [hs.file.now, Function.update_of_ne hs.file.apart] at hnone
      exact hnone
    have hnow : Function.update (Function.update s.objects (names.node destination)
        (s.objects (names.node temporary))) (names.node temporary) none =
        Function.update original (names.node destination) (some (.file content)) := by
      rw [hs.file.now, Function.update_self]
      funext node
      by_cases htemp : node = names.node temporary
      · rw [htemp, Function.update_self, Function.update_of_ne hs.file.apart.symm, hs.file.free]
      · rw [Function.update_of_ne htemp]
        by_cases hdest : node = names.node destination
        · rw [hdest, Function.update_self, Function.update_self]
        · rw [Function.update_of_ne hdest, Function.update_of_ne htemp, Function.update_of_ne hdest]
    obtain ⟨t3, htrace, hback, hmeasured⟩ := hs.read
    refine ⟨hnow, hfree, hsource, ?_, ?_, ?_⟩
    · refine mem_concat (fun point hpoint => (hs.file.points point hpoint).nothingLost) ?_
      show NothingLost names request destination original
        (Function.update (Function.update s.objects _ _) _ none)
      rw [hnow]
      exact nothingLost_published hfree hsource
    · exact hs.file.kept.concat nofun
    · refine ⟨temporary, descriptor, handle, back, t1, t2, t3, [], ?_, hopen, ?_, hmeasured, ?_, ?_⟩
      · show s.trace ++ [_] = _
        rw [htrace, hbefore]
        simp only [List.append_assoc, List.cons_append, List.nil_append]
      · rw [hread]
        exact hs.length
      · rw [hback, hread]
      · rw [hback, hread]
  · refine Triple.refuse (fun s hs hstatus => ?_) fun s hs hzero => hs.1 (not_not.mp hzero)
    exact ⟨ordinary_eio, _, hs.2 hstatus⟩

end ReistOs
