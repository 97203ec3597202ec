import ReistOs.DesktopFileMovePhases

namespace ReistOs

open Attempt

variable {Node : Type} [DecidableEq Node] {names : PathNames Node}
  {request : DesktopFileMoveRequest} {original : Node → Option FileObject} {destination : Path}
  {budget : DesktopFileMoveBudget} {temporary : Path} {content : List UInt8}
  {before : List FileEvent} {handle descriptor : Nat} {R : List FileEvent → Prop}

/-- The descriptor appends to the temporary file. -/
structure Writing (names : PathNames Node) (request : DesktopFileMoveRequest) (destination : Path)
    (original : Node → Option FileObject) (temporary : Path) (descriptor : Nat)
    (written : List UInt8) (s : FileRun Node DesktopFileMoveResult) : Prop where
  file : HasTemporary names request destination original temporary written s
  writer : s.writers[descriptor]? = some (names.node temporary)

variable {written : List UInt8}

theorem writing_undisturbed :
    Undisturbed (Writing names request destination original temporary descriptor written) := by
  intro event s s' hevent hkept hs
  refine ⟨hasTemporary_undisturbed event s s' hevent hkept hs.file, ?_⟩
  rw [hkept.writers]
  exact hs.writer

variable {s : FileRun Node DesktopFileMoveResult} {count : Nat} {hash : UInt32}

theorem ReadUpTo.wrote {s' : FileRun Node DesktopFileMoveResult} {written left bytes : List UInt8}
    {amount : Int} (h : ReadUpTo (names.node request.sourcePath) content before handle R count s)
    (hR : Lasting R) (htemp : HasTemporary names request destination original temporary written s)
    (hobjects : s'.objects = Function.update s.objects (names.node temporary) (some (.file left)))
    (hreaders : s'.readers = s.readers)
    (htrace : s'.trace = s.trace ++ [.write descriptor bytes amount]) :
    ReadUpTo (names.node request.sourcePath) content before handle R count s' := by
  have hapart : names.node request.sourcePath ≠ names.node temporary := by
    intro hsame
    have hpresent := htemp.present
    rw [hsame] at hpresent
    exact hpresent htemp.free
  obtain ⟨t, hstart, hread, ht⟩ := h.since
  refine ⟨?_, ?_, h.le, t ++ [.write descriptor bytes amount], ?_, ?_, hR _ _ ht⟩
  · rw [hreaders]
    exact h.reader
  · rw [hobjects, Function.update_of_ne hapart]
    exact h.file
  · rw [htrace, hstart, List.append_assoc]
  · rw [FileEvent.bytesRead_append, hread]
    exact List.append_nil _

/-- The source is being copied: `count` bytes are read, and these are written. -/
structure Copying (names : PathNames Node) (request : DesktopFileMoveRequest) (destination : Path)
    (original : Node → Option FileObject) (temporary : Path) (descriptor : Nat)
    (content : List UInt8) (before : List FileEvent) (handle : Nat) (R : List FileEvent → Prop)
    (count : Nat) (written : List UInt8) (s : FileRun Node DesktopFileMoveResult) : Prop where
  writing : Writing names request destination original temporary descriptor written s
  reading : ReadUpTo (names.node request.sourcePath) content before handle R count s

theorem copying_unaffected (hR : Lasting R) :
    Unaffected (Copying names request destination original temporary descriptor content before
      handle R count written) := by
  intro event s s' hevent hkept hreaders hs
  refine ⟨?_, readUpTo_unaffected hR event s s' hevent hkept hreaders hs.reading⟩
  exact writing_undisturbed.unaffected event s s' hevent hkept hreaders hs.writing

theorem Copying.reported (result : DesktopFileMoveResult)
    (h : Copying names request destination original temporary descriptor content before handle R
      count written s) :
    Copying names request destination original temporary descriptor content before handle R count
      written { s with result := result } := by
  have hfile := h.writing.file
  have hread := h.reading
  refine ⟨⟨?_, h.writing.writer⟩, hread.reader, hread.file, hread.le, hread.since⟩
  exact ⟨hfile.now, hfile.free, hfile.apart, hfile.present, hfile.points, hfile.kept⟩

/-- The failure of a program while the temporary file is there. -/
def Fails (names : PathNames Node) (request : DesktopFileMoveRequest) (destination : Path)
    (original : Node → Option FileObject) (temporary : Path) (status : Int)
    (s : FileRun Node DesktopFileMoveResult) : Prop :=
  Ordinary status ∧ ∃ left, HasTemporary names request destination original temporary left s

theorem fails_unaffected (status : Int) :
    Unaffected (Fails names request destination original temporary status) := by
  intro event s s' hevent hkept hreaders hs
  obtain ⟨hstatus, left, hleft⟩ := hs
  exact ⟨hstatus, left, hasTemporary_undisturbed.unaffected event s s' hevent hkept hreaders hleft⟩

theorem Looks.copying {α : Type} {x : MoveProgram Node α}
    (h : Looks (Copying names request destination original temporary descriptor content before
      handle R count written) x) :
    Triple (Copying names request destination original temporary descriptor content before
        handle R count written) x
      (fun _ => Copying names request destination original temporary descriptor content before
        handle R count written)
      (Fails names request destination original temporary) :=
  h.ends (fun _ _ hs => hs) fun _ _ hs => ⟨hs.1, written, hs.2.writing.file⟩

theorem writeChunkFrom_triple (hR : Lasting R) (calls : Nat) :
    ∀ written rest,
      Triple (Copying names request destination original temporary descriptor content before
          handle R count written)
        (writeChunkFrom descriptor budget calls rest)
        (fun _ => Copying names request destination original temporary descriptor content before
          handle R count (written ++ rest))
        (Fails names request destination original temporary) := by
  induction calls with
  | zero =>
    intro written rest
    refine Triple.refuse (fun s hs _ => ⟨ordinary_ecapacity, _, hs.writing.file⟩) fun s hs hdone => ?_
    rw [not_not.mp hdone, List.append_nil]
    exact hs
  | succ calls ih =>
    intro written rest
    refine Triple.ite (fun hdone => Triple.pure fun s hs => ?_) fun hmore => ?_
    · rw [hdone, List.append_nil]
      exact hs
    · refine Triple.bind (budgetRemaining_looks (copying_unaffected hR)).copying fun _ => ?_
      refine Triple.bind (Q := fun (amount : Int) s => ∃ left,
        Copying names request destination original temporary descriptor content before handle R
          count left s ∧
        (0 ≤ amount → amount ≤ rest.length → left = written ++ rest.take amount.toNat)) ?_ ?_
      · have hheld : ∀ s, Copying names request destination original temporary descriptor content
            before handle R count written s →
            s.objects (names.node temporary) = some (.file written) := by
          intro s hs
          rw [hs.writing.file.now]
          exact Function.update_self _ _ _
        refine write_triple (fun s hs => hs.writing.writer) hheld ?_
        · intro s s' amount left hs hobjects hpoints hwriters hreaders htrace hleft
          refine ⟨left, ⟨⟨?_, ?_⟩, ?_⟩, hleft⟩
          · exact hs.writing.file.wrote hobjects hpoints htrace (by intro h; cases h)
          · rw [hwriters]
            exact hs.writing.writer
          · exact hs.reading.wrote hR hs.writing.file hobjects hreaders htrace
      · intro amount
        refine Triple.bind (Q := fun _ =>
          Copying names request destination original temporary descriptor content before handle R
            count (written ++ rest.take amount.toNat)) (Triple.refuse ?_ ?_) fun _ => ?_
        · intro s hs _
          obtain ⟨left, hcopying, _⟩ := hs
          exact ⟨ordinary_eio, left, hcopying.writing.file⟩
        · intro s hs hgood
          obtain ⟨left, hcopying, hleft⟩ := hs
          have hexact := hleft (by omega) (by omega)
          rw [hexact] at hcopying
          exact hcopying
        · have hrest := ih (written ++ rest.take amount.toNat) (rest.drop amount.toNat)
          rw [List.append_assoc, List.take_append_drop] at hrest
          exact hrest

theorem copyFrom_triple (hR : Lasting R) {size : Nat} (fuel : Nat) :
    ∀ count, size ≤ count + fuel →
      Triple (Copying names request destination original temporary descriptor content before
          handle R count (content.take count))
        (copyFrom handle descriptor size budget fuel count
          (hashBytes hashSeed (content.take count)))
        (fun hash s => Hashed content size count hash fun total =>
          Copying names request destination original temporary descriptor content before handle R
            total (content.take total) s)
        (Fails names request destination original temporary) := by
  induction fuel with
  | zero =>
    intro count hfuel
    exact Triple.pure fun s hs => ⟨count, hfuel, Or.inl le_rfl, rfl, hs⟩
  | succ fuel ih =>
    intro count hfuel
    refine Triple.ite (fun hdone => Triple.pure fun s hs => ?_) fun hmore => ?_
    · exact ⟨count, hdone, Or.inl le_rfl, rfl, hs⟩
    · refine Triple.bind (Q := fun bytes s => Copying names request destination original temporary
        descriptor content before handle R (count + bytes.length) (content.take count) s ∧
        Chunk content count (size - count) bytes) ?_ fun bytes => Triple.fact fun hslice => ?_
      · exact (readChunk_triple writing_undisturbed hR).weaken (fun s hs => ⟨hs.writing, hs.reading⟩)
          (fun _ _ hs => ⟨⟨hs.1.1, hs.1.2⟩, hs.2⟩) fun _ _ hs => ⟨hs.1, _, hs.2.file⟩
      refine Triple.bind (writeChunkFrom_triple hR _ _ bytes) fun _ => ?_
      refine Triple.bind (Q := fun _ => Copying names request destination original temporary
        descriptor content before handle R (count + bytes.length) (content.take count ++ bytes))
        (report_triple fun s hs => hs.reported _) fun _ => ?_
      have hpos := hslice.1
      have hrest := ih (count + bytes.length) (by omega)
      rw [hslice.2.2, hashBytes_append] at hrest
      exact hrest.post fun hash s hs => hs.since hslice.2.1 hmore

/-- The whole source was read through `handle` since `before`. -/
def ReadSince (before : List FileEvent) (handle : Nat) (content : List UInt8)
    (s : FileRun Node DesktopFileMoveResult) : Prop :=
  ∃ t, s.trace = before ++ t ∧ FileEvent.bytesRead handle t = content

omit [DecidableEq Node] in
theorem readSince_unaffected :
    Unaffected (ReadSince before handle content : FileRun Node DesktopFileMoveResult → Prop) := by
  refine unaffected_since fun event t hevent ht => ?_
  rw [FileEvent.bytesRead_concat_looks hevent]
  exact ht

/-- The temporary file has the content of the source, all of which was read. -/
structure Copied (names : PathNames Node) (request : DesktopFileMoveRequest) (destination : Path)
    (original : Node → Option FileObject) (temporary : Path) (content : List UInt8)
    (before : List FileEvent) (handle : Nat) (hash : UInt32)
    (s : FileRun Node DesktopFileMoveResult) : Prop where
  hash : hash = hashBytes hashSeed content
  size : content.length = request.sourceIdentity.size
  file : HasTemporary names request destination original temporary content s
  read : ReadSince before handle content s

theorem copied_unaffected :
    Unaffected (Copied names request destination original temporary content before handle hash) := by
  intro event s s' hevent hkept hreaders hs
  refine ⟨hs.hash, hs.size, ?_, readSince_unaffected event s s' hevent hkept hreaders hs.read⟩
  exact hasTemporary_undisturbed.unaffected event s s' hevent hkept hreaders hs.file

theorem copySource_triple :
    Triple (Copying names request destination original temporary descriptor content before handle
        (fun _ => True) 0 [])
      (copySource request handle descriptor budget)
      (Copied names request destination original temporary content before handle)
      (Fails names request destination original temporary) := by
  have hlasting : Lasting fun _ => True := fun _ _ _ => trivial
  refine Triple.bind (copyFrom_triple hlasting request.sourceIdentity.size 0 (Nat.le_add_left _ _))
    fun hash => ?_
  refine Triple.bind (Q := fun answer s =>
    (∃ left, HasTemporary names request destination original temporary left s) ∧
    (answer.1 = 0 → Copied names request destination original temporary content before handle
      hash s)) ?_ fun answer => ?_
  · intro w n s hs
    obtain ⟨total, hsize, hle, hhash, hcopying⟩ := hs
    refine (readTrailing_triple hasTemporary_undisturbed hlasting).post ?_ w n s
      ⟨hcopying.writing.file, hcopying.reading⟩
    intro answer s' hs'
    refine ⟨⟨_, hs'.1⟩, fun hzero => ?_⟩
    obtain ⟨htotal, hread⟩ := hs'.2 hzero
    have hall : content.take total = content := by rw [htotal, List.take_length]
    rw [hall] at hhash hs'
    obtain ⟨t, htrace, hbytes, _⟩ := hread.since
    rw [hall] at hbytes
    exact ⟨hhash, by omega, hs'.1, t, htrace, hbytes⟩
  · refine Triple.bind (Q := fun _ => Copied names request destination original temporary content
      before handle hash) (Triple.refuse ?_ ?_) fun _ => ?_
    · intro s hs _
      exact ⟨ordinary_estale, hs.1⟩
    · intro s hs hzero
      exact hs.2 (not_not.mp hzero)
    · refine Triple.bind (fstat_unaffected copied_unaffected) fun found => ?_
      cases found with
      | error _ => exact Triple.fail fun s hs => ⟨ordinary_estale, _, hs.1.file⟩
      | ok final =>
        refine Triple.bind (refuse_triple fun s hs => ⟨ordinary_estale, _, hs.1.file⟩) fun _ => ?_
        exact Triple.pure fun s hs => hs.1

/-- The copy was synced, and only looked at since. -/
structure Synced (names : PathNames Node) (request : DesktopFileMoveRequest) (destination : Path)
    (original : Node → Option FileObject) (temporary : Path) (content : List UInt8)
    (before : List FileEvent) (handle descriptor : Nat) (status : Int) (hash : UInt32)
    (s : FileRun Node DesktopFileMoveResult) : Prop where
  hash : hash = hashBytes hashSeed content
  size : content.length = request.sourceIdentity.size
  file : HasTemporary names request destination original temporary content s
  synced : ∃ t, FileEvent.bytesRead handle t = content ∧
    LookedSince (before ++ t ++ [.fsync descriptor status]) s

theorem synced_unaffected {status : Int} :
    Unaffected (Synced names request destination original temporary content before handle
      descriptor status hash) := by
  intro event s s' hevent hkept hreaders hs
  obtain ⟨t, hread, hlooked⟩ := hs.synced
  refine ⟨hs.hash, hs.size, ?_, t, hread, ?_⟩
  · exact hasTemporary_undisturbed.unaffected event s s' hevent hkept hreaders hs.file
  · exact lookedSince_unaffected event s s' hevent hkept hreaders hlooked

theorem writeTemporary_triple :
    Triple (Copying names request destination original temporary descriptor content before handle
        (fun _ => True) 0 [])
      (writeTemporary request handle descriptor budget)
      (Synced names request destination original temporary content before handle descriptor 0)
      (Fails names request destination original temporary) := by
  refine Triple.bind (Triple.outcome_ends copySource_triple) fun copied => ?_
  cases copied with
  | error status =>
    refine Triple.bind (closeHandle_unaffected (fails_unaffected status)) fun closed => ?_
    exact Triple.bind (close_unaffected (fails_unaffected status)) fun _ => Triple.fail fun s hs => hs
  | ok hash =>
    refine Triple.bind (closeHandle_unaffected copied_unaffected) fun closed => ?_
    refine Triple.ite (fun hclosed => ?_) fun hclosed => ?_
    · refine Triple.bind (close_unaffected copied_unaffected) fun _ => ?_
      exact Triple.fail fun s hs => ⟨ordinary_eio, _, hs.file⟩
    · refine Triple.bind (Q := fun status => Synced names request destination original temporary
        content before handle descriptor status hash) (fsync_triple ?_) fun status => ?_
      · intro s status hs
        obtain ⟨t, htrace, hread⟩ := hs.read
        have hfile := hasTemporary_undisturbed _ s (s.record (.fsync descriptor status)) rfl
          (kept_record _) hs.file
        refine ⟨hs.hash, hs.size, hfile, t, hread, [], ?_, fun event hevent => ?_⟩
        · show s.trace ++ [_] = _
          rw [htrace, List.append_nil]
        · cases hevent
      · refine Triple.bind (close_unaffected synced_unaffected) fun closeStatus => ?_
        refine Triple.bind (Q := fun _ => Synced names request destination original temporary
          content before handle descriptor 0 hash) (Triple.refuse ?_ ?_) fun _ => ?_
        · intro s hs _
          exact ⟨ordinary_eio, _, hs.file⟩
        · intro s hs hgood
          have hzero : status = 0 := by omega
          rw [hzero] at hs
          exact hs
        · exact Triple.pure fun _ hs => hs

end ReistOs
