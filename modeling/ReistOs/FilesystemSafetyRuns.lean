import ReistOs.FilesystemSafetyPrograms
import ReistOs.AtaJournalRuns

/-! Runs of mutations, fences and restorations: what a fence during a mutation does to its end,
and what it does to the mutations that come after it. -/

namespace ReistOs

open SharedState FilesystemSystem SafetyAction

variable {t : AtaJournalTransport} {s : FilesystemSystem}

/-- The tasks of a mutation keep what a fence has closed; a begin may overwrite the record. -/
def Mutation.Keeps (t : AtaJournalTransport) (m : Mutation) : Prop :=
  match m with
  | .beginning p => Guards (SafetyAction.run t) Forced (fun _ => False) p
  | .finishing p => KeepsFence t (fun _ => False) p
  | _ => True

structure FilesystemSystem.Orderly (t : AtaJournalTransport) (s : FilesystemSystem) : Prop where
  supervised : Supervised s.safety
  exclusive : ∀ (i : Nat) (m : Mutation), s.mutations[i]? = some m → m.over = false → s.vfsOperationMutex = some i
  mutations : ∀ (i : Nat) (m : Mutation), s.mutations[i]? = some m → m.Keeps t
  fences : ∀ p ∈ s.fences, KeepsFence t (fun _ => False) p ∧ Offline t p
  restores : ∀ p ∈ s.restores, KeepsFence t (fun result => result = true) p ∧ Offline t p

variable {α : Type} {p : SafetyProg Bool}

theorem advance_supervised (p : SafetyProg α) (ok : Bool) (x : FilesystemSafety)
    (h : Supervised x) : Supervised (advance (run t) ok x p).2 := by
  cases p with
  | done a => exact h
  | call act k => exact run_supervised act ok x h

theorem KeepsFence.advance {excused : α → Prop} {p : SafetyProg α}
    (h : KeepsFence t excused p) (ok : Bool) (x : FilesystemSafety) :
    KeepsFence t excused (advance (run t) ok x p).1 :=
  ⟨(h.1.advance ok x).1, (h.2.advance ok x).1⟩

theorem Offline.advance {p : SafetyProg α} (h : Offline t p) (ok : Bool)
    (x : FilesystemSafety) : Offline t (advance (run t) ok x p).1 :=
  fun j d => ((h j d).advance ok x).1

theorem writeSector_fields (admitted : Bool) (a : SectorAddr) (buffer : Sector) (x : FilesystemSafety) :
    (x.writeSector t admitted a buffer).filesystemControl = x.filesystemControl ∧
      (x.writeSector t admitted a buffer).filesystemIntegrityFailed = x.filesystemIntegrityFailed ∧
      (x.writeSector t admitted a buffer).filesystemForceReadOnly = x.filesystemForceReadOnly ∧
      (x.writeSector t admitted a buffer).filesystemSupervised = x.filesystemSupervised := by
  cases admitted <;> exact ⟨rfl, rfl, rfl, rfl⟩

theorem begun_keeps (h : Guards (run t) Forced (fun _ => False) p) :
    (Mutation.begun p).Keeps t := by
  unfold Mutation.begun
  split
  · exact trivial
  · exact trivial
  · exact h

theorem finished_keeps (h : KeepsFence t (fun _ => False) p) : (Mutation.finished p).Keeps t := by
  unfold Mutation.finished
  split
  · exact trivial
  · exact h

theorem update_getElem (i : Nat) (m : Mutation) (x : FilesystemSafety) (k : Nat) :
    (s.update i m x).mutations[k]? =
      if i = k then if i < s.mutations.length then some m else none else s.mutations[k]? :=
  List.getElem?_set

theorem FilesystemSystem.Orderly.update (h : s.Orderly t) {i : Nat} {old m : Mutation} (hi : s.mutations[i]? = some old)
    (hold : old.over = false) {x : FilesystemSafety} (hx : Supervised x) (hm : m.Keeps t) :
    (s.update i m x).Orderly t := by
  have hmutex := h.exclusive i old hi hold
  refine ⟨hx, fun k n hk hn => ?_, fun k n hk => ?_, h.fences, h.restores⟩
  · rw [update_getElem] at hk
    by_cases hik : i = k
    · subst hik
      rw [if_pos rfl] at hk
      split at hk
      · cases hk
        simp only [FilesystemSystem.update, hn]
        exact hmutex
      · cases hk
    · rw [if_neg hik] at hk
      have hother := h.exclusive k n hk hn
      rw [hmutex] at hother
      exact absurd (Option.some.inj hother) hik
  · rw [update_getElem] at hk
    split at hk
    · split at hk
      · cases hk
        exact hm
      · cases hk
    · exact h.mutations k n hk

theorem FilesystemSystem.Orderly.stepMutation (h : s.Orderly t) (i : Nat) (ok : Bool) : (s.stepMutation t i ok).Orderly t := by
  unfold FilesystemSystem.stepMutation
  split
  next p hi =>
    have hp : Guards (SafetyAction.run t) Forced (fun _ => False) p := h.mutations i _ hi
    exact h.update hi rfl (advance_supervised p ok _ h.supervised) (begun_keeps (hp.advance ok _).1)
  next p hi =>
    have hp : KeepsFence t (fun _ => False) p := h.mutations i _ hi
    exact h.update hi rfl (advance_supervised p ok _ h.supervised) (finished_keeps (hp.advance ok _))
  next => exact h

theorem FilesystemSystem.Orderly.move (h : s.Orderly t) (mv : FilesystemMove) : (s.move t mv).Orderly t := by
  cases mv with
  | mutationBegin nowMs =>
    simp only [FilesystemSystem.move]
    split
    next => exact h
    next hfree =>
      refine ⟨h.supervised, fun k m hk hm => ?_, fun k m hk => ?_, h.fences, h.restores⟩
      · dsimp only at hk ⊢
        rcases Nat.lt_or_ge k s.mutations.length with hlt | hge
        · rw [List.getElem?_append_left hlt] at hk
          exact absurd (by rw [h.exclusive k m hk hm]; rfl) hfree
        · have hlt := (List.getElem?_eq_some_iff.mp hk).1
          rw [List.length_append, List.length_singleton] at hlt
          have hkl : k = s.mutations.length := by omega
          rw [hkl]
      · dsimp only at hk
        rcases List.mem_append.mp (List.mem_of_getElem? hk) with hmem | hmem
        · obtain ⟨j, hj⟩ := List.getElem?_of_mem hmem
          exact h.mutations j m hj
        · rw [List.mem_singleton.mp hmem]
          exact mutationBegin_guards nowMs
  | mutationWrite i admitted a buffer =>
    simp only [FilesystemSystem.move]
    split
    next =>
      refine ⟨?_, h.exclusive, h.mutations, h.fences, h.restores⟩
      exact (writeSector_fields admitted a buffer s.safety).2.2.2.trans h.supervised
    next => exact h
  | mutationFinish i io =>
    simp only [FilesystemSystem.move]
    split
    next hi =>
      have hupdate := h.update (m := .finishing (vfsMutationFinish io)) hi rfl h.supervised
        (mutationFinish_keepsFence io)
      exact hupdate
    next => exact h
  | mutationStep i ok => exact h.stepMutation i ok
  | fence =>
    refine ⟨h.supervised, h.exclusive, h.mutations, fun p hp => ?_, h.restores⟩
    rcases List.mem_append.mp hp with hp | hp
    · exact h.fences p hp
    · rw [List.mem_singleton.mp hp]
      exact ⟨fenceMutations_keepsFence, fenceMutations_offline⟩
  | fenceStep i ok =>
    simp only [FilesystemSystem.move]
    split
    next p hi =>
      have hp := h.fences p (List.mem_of_getElem? hi)
      refine ⟨advance_supervised p ok _ h.supervised, h.exclusive, h.mutations, fun q hq => ?_, h.restores⟩
      rcases List.mem_or_eq_of_mem_set hq with hq | rfl
      · exact h.fences q hq
      · exact ⟨hp.1.advance ok _, hp.2.advance ok _⟩
    next => exact h
  | restore =>
    refine ⟨h.supervised, h.exclusive, h.mutations, h.fences, fun p hp => ?_⟩
    rcases List.mem_append.mp hp with hp | hp
    · exact h.restores p hp
    · rw [List.mem_singleton.mp hp]
      exact ⟨restoreMutations_keepsFence, restoreMutations_offline⟩
  | restoreStep i ok =>
    simp only [FilesystemSystem.move]
    split
    next p hi =>
      have hp := h.restores p (List.mem_of_getElem? hi)
      refine ⟨advance_supervised p ok _ h.supervised, h.exclusive, h.mutations, h.fences, fun q hq => ?_⟩
      rcases List.mem_or_eq_of_mem_set hq with hq | rfl
      · exact h.restores q hq
      · exact ⟨hp.1.advance ok _, hp.2.advance ok _⟩
    next => exact h

theorem FilesystemSystem.Orderly.run (h : s.Orderly t) (moves : List FilesystemMove) : (s.run t moves).Orderly t := by
  induction moves generalizing s with
  | nil => exact h
  | cons mv moves ih => exact ih (h.move mv)

theorem filesystemSafetyStart_orderly (journal : AtaUndoJournal) (disk : DiskWorld) :
    (filesystemSafetyStart journal disk).Orderly t :=
  ⟨rfl, by simp [filesystemSafetyStart], by simp [filesystemSafetyStart],
    by simp [filesystemSafetyStart], by simp [filesystemSafetyStart]⟩

section Inside

variable {m : Nat} {x : Mutation}

/-- What a move can do while mutation `m` is under way. -/
inductive InsideMove (t : AtaJournalTransport) (s : FilesystemSystem) (m : Nat) (x : Mutation) :
    FilesystemSystem → Prop
  | same : InsideMove t s m x s
  | write (running : x = .running) (admitted : Bool) (a : SectorAddr) (buffer : Sector) :
      InsideMove t s m x { s with safety := s.safety.writeSector t admitted a buffer }
  | finish (running : x = .running) (io : Bool) :
      InsideMove t s m x (s.update m (.finishing (vfsMutationFinish io)) s.safety)
  | beginStep (p : SafetyProg Bool) (beginning : x = .beginning p) (ok : Bool) :
      InsideMove t s m x (s.update m (.begun (advance (SafetyAction.run t) ok s.safety p).1)
        (advance (SafetyAction.run t) ok s.safety p).2)
  | finishStep (p : SafetyProg Bool) (finishing : x = .finishing p) (ok : Bool) :
      InsideMove t s m x (s.update m (.finished (advance (SafetyAction.run t) ok s.safety p).1)
        (advance (SafetyAction.run t) ok s.safety p).2)
  | fence : InsideMove t s m x { s with fences := s.fences ++ [filesystemFenceMutations] }
  | fenceStep (i : Nat) (p : SafetyProg Unit) (under : s.fences[i]? = some p) (ok : Bool) :
      InsideMove t s m x { s with
        safety := (advance (SafetyAction.run t) ok s.safety p).2
        fences := s.fences.set i (advance (SafetyAction.run t) ok s.safety p).1 }
  | restore : InsideMove t s m x
      { s with restores := s.restores ++ [filesystemRestoreMutationsAfterRecovery] }
  | restoreStep (i : Nat) (p : SafetyProg Bool) (under : s.restores[i]? = some p) (ok : Bool) :
      InsideMove t s m x { s with
        safety := (advance (SafetyAction.run t) ok s.safety p).2
        restores := s.restores.set i (advance (SafetyAction.run t) ok s.safety p).1 }

theorem move_inside (h : s.Orderly t) (hm : s.mutations[m]? = some x) (hx : x.over = false)
    (mv : FilesystemMove) : InsideMove t s m x (s.move t mv) := by
  have hmutex := h.exclusive m x hm hx
  have honly : ∀ i y, s.mutations[i]? = some y → y.over = false → i = m ∧ y = x := by
    intro i y hi hy
    have hother := h.exclusive i y hi hy
    rw [hmutex] at hother
    have him := Option.some.inj hother
    subst him
    rw [hm] at hi
    exact ⟨rfl, (Option.some.inj hi).symm⟩
  cases mv with
  | mutationBegin nowMs =>
    simp only [move, hmutex, Option.isSome_some, if_true]
    exact .same
  | mutationWrite i admitted a buffer =>
    simp only [move]
    split
    next hi =>
      obtain ⟨-, hr⟩ := honly i _ hi rfl
      exact .write hr.symm admitted a buffer
    next => exact .same
  | mutationFinish i io =>
    simp only [move]
    split
    next hi =>
      obtain ⟨rfl, hr⟩ := honly i _ hi rfl
      exact .finish hr.symm io
    next => exact .same
  | mutationStep i ok =>
    simp only [move, stepMutation]
    split
    next p hi =>
      obtain ⟨rfl, hr⟩ := honly i _ hi rfl
      exact .beginStep p hr.symm ok
    next p hi =>
      obtain ⟨rfl, hr⟩ := honly i _ hi rfl
      exact .finishStep p hr.symm ok
    next => exact .same
  | fence => exact .fence
  | fenceStep i ok =>
    simp only [move]
    split
    next p hi => exact .fenceStep i p hi ok
    next => exact .same
  | restore => exact .restore
  | restoreStep i ok =>
    simp only [move]
    split
    next p hi => exact .restoreStep i p hi ok
    next => exact .same

theorem ended_kept {r : Bool} (hm : s.mutations[m]? = some (.ended r)) (mv : FilesystemMove) :
    (s.move t mv).mutations[m]? = some (.ended r) := by
  have hset : ∀ i y z, s.mutations[i]? = some y → y ≠ .ended r →
      (s.mutations.set i z)[m]? = some (.ended r) := by
    intro i y z hi hy
    rw [List.getElem?_set_ne, hm]
    rintro rfl
    rw [hm] at hi
    exact hy (Option.some.inj hi).symm
  cases mv with
  | mutationBegin nowMs =>
    simp only [move]
    split
    next => exact hm
    next =>
      have hlt := (List.getElem?_eq_some_iff.mp hm).1
      rw [List.getElem?_append_left hlt, hm]
  | mutationWrite i admitted a buffer =>
    simp only [move]
    split <;> exact hm
  | mutationFinish i io =>
    simp only [move]
    split
    next hi => exact hset i _ _ hi (by simp)
    next => exact hm
  | mutationStep i ok =>
    simp only [move, stepMutation]
    split
    next p hi => exact hset i _ _ hi (by simp)
    next p hi => exact hset i _ _ hi (by simp)
    next => exact hm
  | fence => exact hm
  | fenceStep i ok =>
    simp only [move]
    split <;> exact hm
  | restore => exact hm
  | restoreStep i ok =>
    simp only [move]
    split <;> exact hm

theorem update_self (hm : s.mutations[m]? = some x) (y : Mutation) (z : FilesystemSafety) :
    (s.update m y z).mutations[m]? = some y := by
  rw [update_getElem, if_pos rfl, if_pos (List.getElem?_eq_some_iff.mp hm).1]

end Inside

section Fenced

variable {m f : Nat}

/-- While mutation `m` runs, the fence `f` is under way or has closed the record. -/
def FencePhase (t : AtaJournalTransport) (m f : Nat) (s : FilesystemSystem) : Prop :=
  (s.mutations[m]? = some .running ∧ (EndRefused s.safety ∨
    ∃ p, s.fences[f]? = some p ∧ Reaches (SafetyAction.run t) EndRefused p)) ∨
  (∃ p, s.mutations[m]? = some (.finishing p)) ∨ ∃ r, s.mutations[m]? = some (.ended r)

theorem fencePhase_move (h : s.Orderly t) (hp : FencePhase t m f s) (mv : FilesystemMove) :
    FencePhase t m f (s.move t mv) := by
  rcases hp with ⟨hm, hfence⟩ | ⟨p, hm⟩ | ⟨r, hm⟩
  · have hmove := move_inside h hm rfl mv
    generalize s.move t mv = s' at hmove
    cases hmove with
    | same => exact Or.inl ⟨hm, hfence⟩
    | write _ admitted a buffer =>
      obtain ⟨hc, hi, -, -⟩ := writeSector_fields (t := t) admitted a buffer s.safety
      refine Or.inl ⟨hm, hfence.imp_left fun hr => ?_⟩
      unfold EndRefused
      rw [hc, hi]
      exact hr
    | finish _ io => exact Or.inr (Or.inl ⟨_, update_self hm _ _⟩)
    | beginStep p hb => cases hb
    | finishStep p hb => cases hb
    | fence =>
      refine Or.inl ⟨hm, hfence.imp_right ?_⟩
      rintro ⟨p, hf, hr⟩
      exact ⟨p, by rw [List.getElem?_append_left (List.getElem?_eq_some_iff.mp hf).1, hf], hr⟩
    | fenceStep i p hi ok =>
      have hkeep := h.fences p (List.mem_of_getElem? hi)
      rcases hfence with hr | ⟨q, hf, hr⟩
      · exact Or.inl ⟨hm, Or.inl (hkeep.1.1.advance_keeps ok hr)⟩
      · by_cases hif : i = f
        · subst hif
          rw [hi] at hf
          cases hf
          refine Or.inl ⟨hm, (hr.advance ok s.safety).imp_right fun hr' => ⟨_, ?_, hr'⟩⟩
          exact List.getElem?_set_self (List.getElem?_eq_some_iff.mp hi).1
        · exact Or.inl ⟨hm, Or.inr ⟨q, by rw [List.getElem?_set_ne hif, hf], hr⟩⟩
    | restore => exact Or.inl ⟨hm, hfence⟩
    | restoreStep i p hi ok =>
      have hkeep := h.restores p (List.mem_of_getElem? hi)
      exact Or.inl ⟨hm, hfence.imp_left fun hr => hkeep.1.1.advance_keeps ok hr⟩
  · have hmove := move_inside h hm rfl mv
    generalize s.move t mv = s' at hmove
    cases hmove with
    | write hb => cases hb
    | finish hb => cases hb
    | beginStep q hb => cases hb
    | finishStep q hb ok =>
      have hself := update_self hm (.finished (advance (run t) ok s.safety q).1)
        (advance (run t) ok s.safety q).2
      unfold Mutation.finished at hself ⊢
      split at hself
      next r => exact Or.inr (Or.inr ⟨_, hself⟩)
      next => exact Or.inr (Or.inl ⟨_, hself⟩)
    | _ => exact Or.inr (Or.inl ⟨p, hm⟩)
  · exact Or.inr (Or.inr ⟨r, ended_kept hm mv⟩)

theorem fenced_endRefused (h : s.Orderly t) (hm : s.mutations[m]? = some .running)
    (moves : List FilesystemMove)
    (hdone : ((s.move t .fence).run t moves).fences[s.fences.length]? = some (.done ()))
    (hrun : ((s.move t .fence).run t moves).mutations[m]? = some .running) :
    EndRefused ((s.move t .fence).run t moves).safety := by
  have hstart : FencePhase t m s.fences.length (s.move t .fence) :=
    Or.inl ⟨hm, Or.inr ⟨_, List.getElem?_concat_length, fenceMutations_reaches⟩⟩
  have hphase : ∀ (moves : List FilesystemMove) (s' : FilesystemSystem), s'.Orderly t →
      FencePhase t m s.fences.length s' → FencePhase t m s.fences.length (s'.run t moves) := by
    intro moves
    induction moves with
    | nil => exact fun _ _ hp => hp
    | cons mv moves ih => exact fun s' h' hp => ih _ (h'.move mv) (fencePhase_move h' hp mv)
  rcases hphase moves _ (h.move .fence) hstart with ⟨-, hr | ⟨p, hf, hreach⟩⟩ | ⟨p, hp⟩ | ⟨r, hp⟩
  · exact hr
  · rw [hdone] at hf
    cases hf
    exact absurd hreach id
  · rw [hrun] at hp
    cases hp
  · rw [hrun] at hp
    cases hp

/-- The disk while a quiet end is under way: as it was, and nothing to commit before the end of
the journal transaction. -/
def DiskPhase (t : AtaJournalTransport) (io : Bool) (d : DiskWorld) (p : SafetyProg Bool)
    (x : FilesystemSafety) : Prop :=
  (GuardsVia (SafetyAction.run t) (fun x => x.disk = d ∧ (io = true ∨ NothingToCommit x.journal))
    (fun x => x.disk = d) p ∧ x.disk = d ∧ (io = true ∨ NothingToCommit x.journal)) ∨
  (Guards (SafetyAction.run t) (fun x => x.disk = d) (fun _ => False) p ∧ x.disk = d)

variable {io : Bool} {d : DiskWorld} {p : SafetyProg Bool} {x : FilesystemSafety}
  {P : SafetyProg Bool → FilesystemSafety → Prop}

theorem DiskPhase.disk (h : DiskPhase t io d p x) : x.disk = d := by
  rcases h with ⟨-, hd, -⟩ | ⟨-, hd⟩
  · exact hd
  · exact hd

theorem DiskPhase.advance (h : DiskPhase t io d p x) (ok : Bool) : DiskPhase t io d
      (advance (run t) ok x p).1 (SharedState.advance (run t) ok x p).2 :=
  GuardsVia.advance ok x h

theorem DiskPhase.congr {y : FilesystemSafety} (h : DiskPhase t io d p x)
    (hj : y.journal = x.journal) (hd : y.disk = x.disk) :
    DiskPhase t io d p y := by
  unfold DiskPhase
  rw [hj, hd]
  exact h

theorem Offline.advance_same {α : Type} {p : SafetyProg α} (h : Offline t p) (ok : Bool)
    (x : FilesystemSafety) : (SharedState.advance (run t) ok x p).2.journal = x.journal ∧
      (SharedState.advance (run t) ok x p).2.disk = x.disk :=
  (h x.journal x.disk).advance_keeps ok ⟨rfl, rfl⟩

/-- The end of mutation `m` after its record was closed. -/
def ClosingPhase (t : AtaJournalTransport) (m : Nat) (P : SafetyProg Bool → FilesystemSafety → Prop)
    (s : FilesystemSystem) : Prop :=
  (∃ p, s.mutations[m]? = some (.finishing p) ∧ EndRefused s.safety ∧ P p s.safety ∧
    Returns (SafetyAction.run t) (fun x => Supervised x ∧ EndRefused x) (fun result => result = false) p) ∨
  s.mutations[m]? = some (.ended false)

theorem closingPhase_move (hadvance : ∀ p x ok, P p x → P (advance (run t) ok x p).1
      (advance (run t) ok x p).2)
    (hcongr : ∀ p x y, P p x → y.journal = x.journal → y.disk = x.disk → P p y) (h : s.Orderly t)
    (hp : ClosingPhase t m P s) (mv : FilesystemMove) :
    ClosingPhase t m P (s.move t mv) := by
  rcases hp with ⟨p, hm, hr, hP, hfalse⟩ | hm
  · have hmove := move_inside h hm rfl mv
    generalize s.move t mv = s' at hmove
    cases hmove with
    | same => exact Or.inl ⟨p, hm, hr, hP, hfalse⟩
    | write hb => cases hb
    | finish hb => cases hb
    | beginStep q hb => cases hb
    | finishStep q hb ok =>
      cases hb
      have hkeep : KeepsFence t (fun _ => False) p := h.mutations m _ hm
      have hself := update_self hm (.finished (advance (run t) ok s.safety p).1)
        (advance (run t) ok s.safety p).2
      have hr' := hkeep.1.advance_keeps ok hr
      have hfalse' := hfalse.advance ok ⟨h.supervised, hr⟩
      have hP' := hadvance p s.safety ok hP
      generalize advance (run t) ok s.safety p = next at hself hr' hfalse' hP' ⊢
      obtain ⟨q, x⟩ := next
      cases q with
      | done result =>
        have hresult : result = false := hfalse'
        subst hresult
        exact Or.inr hself
      | call act k => exact Or.inl ⟨_, hself, hr', hP', hfalse'⟩
    | fence => exact Or.inl ⟨p, hm, hr, hP, hfalse⟩
    | fenceStep i q hi ok =>
      obtain ⟨hkeep, hoff⟩ := h.fences q (List.mem_of_getElem? hi)
      obtain ⟨hj, hd⟩ := hoff.advance_same ok s.safety
      exact Or.inl ⟨p, hm, hkeep.1.advance_keeps ok hr, hcongr p _ _ hP hj hd, hfalse⟩
    | restore => exact Or.inl ⟨p, hm, hr, hP, hfalse⟩
    | restoreStep i q hi ok =>
      obtain ⟨hkeep, hoff⟩ := h.restores q (List.mem_of_getElem? hi)
      obtain ⟨hj, hd⟩ := hoff.advance_same ok s.safety
      exact Or.inl ⟨p, hm, hkeep.1.advance_keeps ok hr, hcongr p _ _ hP hj hd, hfalse⟩
  · exact Or.inr (ended_kept hm mv)

theorem closingPhase_run (hadvance : ∀ p x ok, P p x → P (advance (run t) ok x p).1
      (advance (run t) ok x p).2)
    (hcongr : ∀ p x y, P p x → y.journal = x.journal → y.disk = x.disk → P p y) (h : s.Orderly t)
    (hp : ClosingPhase t m P s) (moves : List FilesystemMove) :
    ClosingPhase t m P (s.run t moves) := by
  induction moves generalizing s with
  | nil => exact hp
  | cons mv moves ih => exact ih (h.move mv) (closingPhase_move hadvance hcongr h hp mv)

theorem finish_move (hm : s.mutations[m]? = some .running) (io : Bool) :
    s.move t (.mutationFinish m io) =
      { s with mutations := s.mutations.set m (.finishing (vfsMutationFinish io)) } := by
  simp only [move, hm]

theorem closed_finish_false (h : s.Orderly t) (hm : s.mutations[m]? = some .running)
    (hr : EndRefused s.safety) (io : Bool) (more : List FilesystemMove) {result : Bool}
    (he : (s.run t (.mutationFinish m io :: more)).mutations[m]? = some (.ended result)) :
    result = false := by
  have hstart : ClosingPhase t m (fun _ _ => True) (s.move t (.mutationFinish m io)) := by
    rw [finish_move hm]
    exact Or.inl ⟨_, List.getElem?_set_self (List.getElem?_eq_some_iff.mp hm).1, hr, trivial,
      mutationFinish_false io⟩
  rcases closingPhase_run (fun _ _ _ _ => trivial) (fun _ _ _ _ _ _ => trivial) (h.move _) hstart more with
    ⟨p, hp, -⟩ | hp
  · have hpe := hp.symm.trans he
    cases hpe
  · have hpe := hp.symm.trans he
    cases hpe
    rfl

theorem closed_finish_disk (h : s.Orderly t) (hm : s.mutations[m]? = some .running)
    (hr : EndRefused s.safety) (hq : io = true ∨ NothingToCommit s.safety.journal)
    (more : List FilesystemMove)
    (hp : (s.run t (.mutationFinish m io :: more)).mutations[m]? = some (.finishing p)) (ok : Bool) :
    ((s.run t (.mutationFinish m io :: more)).move t (.mutationStep m ok)).safety.disk =
      s.safety.disk := by
  have hstart : ClosingPhase t m (DiskPhase t io s.safety.disk) (s.move t (.mutationFinish m io)) := by
    rw [finish_move hm]
    exact Or.inl ⟨_, List.getElem?_set_self (List.getElem?_eq_some_iff.mp hm).1, hr,
      Or.inl ⟨mutationFinish_disk io s.safety.disk, rfl, hq⟩, mutationFinish_false io⟩
  rcases closingPhase_run (fun p x ok hP => hP.advance ok) (fun p x y hP hj hd => hP.congr hj hd)
    (h.move _) hstart more with ⟨q, hq', -, hP, -⟩ | hq'
  · have hqp := hq'.symm.trans hp
    cases hqp
    simp only [move, stepMutation, hp]
    exact (hP.advance ok).disk
  · have hqp := hq'.symm.trans hp
    cases hqp

end Fenced

section AfterFence

variable {first : FilesystemSystem}

/-- No mutation called after `first` has begun, unless a restoration has succeeded since. -/
def ShutPhase (t : AtaJournalTransport) (first s : FilesystemSystem) : Prop :=
  (∀ i : Nat, first.restores[i]? = some (Prog.done true) → s.restores[i]? = some (Prog.done true)) ∧
  ((∃ i : Nat, s.restores[i]? = some (Prog.done true) ∧ first.restores[i]? ≠ some (Prog.done true)) ∨
    (Forced s.safety ∧ first.mutations.length ≤ s.mutations.length ∧
      ∀ (m : Nat) (x : Mutation), first.mutations.length ≤ m → s.mutations[m]? = some x → x = .refused ∨
        ∃ p, x = .beginning p ∧ Returns (SafetyAction.run t) (fun y => Supervised y ∧ Forced y)
          (fun result => result = false) p))

theorem restored_kept {i : Nat} (hi : s.restores[i]? = some (Prog.done true)) (mv : FilesystemMove) :
    (s.move t mv).restores[i]? = some (Prog.done true) := by
  cases mv with
  | restore => exact (List.getElem?_append_left (List.getElem?_eq_some_iff.mp hi).1).trans hi
  | restoreStep k ok =>
    simp only [move]
    split
    next p hk =>
      by_cases hik : k = i
      · subst hik
        have hp := hk.symm.trans hi
        cases hp
        exact List.getElem?_set_self (List.getElem?_eq_some_iff.mp hi).1
      · rw [List.getElem?_set_ne hik, hi]
    next => exact hi
  | mutationBegin nowMs =>
    simp only [move]
    split <;> exact hi
  | mutationStep k ok =>
    simp only [move, stepMutation]
    split <;> exact hi
  | fence => exact hi
  | _ =>
    simp only [move]
    split <;> exact hi

theorem shutPhase_move (h : s.Orderly t) (hp : ShutPhase t first s) (mv : FilesystemMove) :
    ShutPhase t first (s.move t mv) := by
  obtain ⟨hkept, hp⟩ := hp
  refine ⟨fun i hi => restored_kept (hkept i hi) mv, ?_⟩
  rcases hp with ⟨i, hi, hnew⟩ | ⟨hforced, hlen, hshut⟩
  · exact Or.inl ⟨i, restored_kept hi mv, hnew⟩
  have hset : ∀ (i : Nat) (y : Mutation) (l : List Mutation), l = s.mutations.set i y →
      (first.mutations.length ≤ i → y = .refused ∨ ∃ p, y = .beginning p ∧
        Returns (run t) (fun y => Supervised y ∧ Forced y) (fun result => result = false) p) →
      ∀ (m : Nat) (x : Mutation), first.mutations.length ≤ m → l[m]? = some x → x = .refused ∨
        ∃ p, x = .beginning p ∧ Returns (run t) (fun y => Supervised y ∧ Forced y)
          (fun result => result = false) p := by
    rintro i y l rfl hy m x hm hx
    by_cases him : i = m
    · subst him
      rw [List.getElem?_set_self (by simpa using (List.getElem?_eq_some_iff.mp hx).1)] at hx
      cases hx
      exact hy hm
    · rw [List.getElem?_set_ne him] at hx
      exact hshut m x hm hx
  cases mv with
  | mutationBegin nowMs =>
    simp only [move]
    split
    next => exact Or.inr ⟨hforced, hlen, hshut⟩
    next =>
      refine Or.inr ⟨hforced, by simp; omega, fun m x hm hx => ?_⟩
      rcases Nat.lt_or_ge m s.mutations.length with hlt | hge
      · rw [List.getElem?_append_left hlt] at hx
        exact hshut m x hm hx
      · rw [List.getElem?_append_right hge] at hx
        have hmem := List.mem_of_getElem? hx
        rw [List.mem_singleton.mp hmem]
        exact Or.inr ⟨_, rfl, mutationBegin_false nowMs⟩
  | mutationWrite i admitted a buffer =>
    simp only [move]
    split
    next =>
      refine Or.inr ⟨?_, hlen, hshut⟩
      exact (writeSector_fields admitted a buffer s.safety).2.2.1.trans hforced
    next => exact Or.inr ⟨hforced, hlen, hshut⟩
  | mutationFinish i io =>
    simp only [move]
    split
    next hi =>
      refine Or.inr ⟨hforced, by simpa using hlen, hset i _ _ rfl fun hn => ?_⟩
      rcases hshut i _ hn hi with hx | ⟨p, hx, -⟩ <;> cases hx
    next => exact Or.inr ⟨hforced, hlen, hshut⟩
  | mutationStep i ok =>
    simp only [move, stepMutation]
    split
    next p hi =>
      have hkeep : Guards (run t) Forced (fun _ => False) p := h.mutations i _ hi
      refine Or.inr ⟨hkeep.advance_keeps ok hforced, by simpa [update] using hlen,
        hset i _ _ rfl fun hn => ?_⟩
      rcases hshut i _ hn hi with hx | ⟨q, hx, hfalse⟩
      · cases hx
      · cases hx
        have hnext := hfalse.advance ok ⟨h.supervised, hforced⟩
        generalize (advance (run t) ok s.safety p).1 = q at hnext ⊢
        cases q with
        | done result =>
          have hresult : result = false := hnext
          subst hresult
          exact Or.inl rfl
        | call act k => exact Or.inr ⟨_, rfl, hnext⟩
    next p hi =>
      have hkeep : KeepsFence t (fun _ => False) p := h.mutations i _ hi
      refine Or.inr ⟨hkeep.2.advance_keeps ok hforced, by simpa [update] using hlen,
        hset i _ _ rfl fun hn => ?_⟩
      rcases hshut i _ hn hi with hx | ⟨q, hx, -⟩ <;> cases hx
    next => exact Or.inr ⟨hforced, hlen, hshut⟩
  | fence => exact Or.inr ⟨hforced, hlen, hshut⟩
  | fenceStep i ok =>
    simp only [move]
    split
    next p hi =>
      have hkeep := (h.fences p (List.mem_of_getElem? hi)).1
      exact Or.inr ⟨hkeep.2.advance_keeps ok hforced, hlen, hshut⟩
    next => exact Or.inr ⟨hforced, hlen, hshut⟩
  | restore => exact Or.inr ⟨hforced, hlen, hshut⟩
  | restoreStep i ok =>
    simp only [move]
    split
    next p hi =>
      have hkeep := (h.restores p (List.mem_of_getElem? hi)).1
      rcases (hkeep.2.advance ok s.safety).2 hforced with hf | ⟨result, hdone, rfl⟩
      · exact Or.inr ⟨hf, hlen, hshut⟩
      · by_cases hold : first.restores[i]? = some (Prog.done true)
        · have hp := hi.symm.trans (hkept i hold)
          cases hp
          exact Or.inr ⟨hforced, hlen, hshut⟩
        · refine Or.inl ⟨i, ?_, hold⟩
          rw [List.getElem?_set_self (List.getElem?_eq_some_iff.mp hi).1, hdone]
    next => exact Or.inr ⟨hforced, hlen, hshut⟩

theorem forced_not_begun (h : first.Orderly t) (hforced : Forced first.safety) (moves : List FilesystemMove)
    (hrestore : ∀ i : Nat, (first.run t moves).restores[i]? = some (Prog.done true) →
      first.restores[i]? = some (Prog.done true)) {m : Nat} {x : Mutation}
    (hm : first.mutations.length ≤ m) (hx : (first.run t moves).mutations[m]? = some x) :
    x = .refused ∨ ∃ p, x = .beginning p := by
  have hphase : ∀ (moves : List FilesystemMove) (s : FilesystemSystem), s.Orderly t →
      ShutPhase t first s → ShutPhase t first (s.run t moves) := by
    intro moves
    induction moves with
    | nil => exact fun _ _ hp => hp
    | cons mv moves ih => exact fun s' h' hp => ih _ (h'.move mv) (shutPhase_move h' hp mv)
  have hstart : ShutPhase t first first := by
    refine ⟨fun _ hi => hi, Or.inr ⟨hforced, Nat.le_refl _, fun k y hk hy => ?_⟩⟩
    have hlt := (List.getElem?_eq_some_iff.mp hy).1
    omega
  obtain ⟨-, ⟨i, hi, hnew⟩ | ⟨-, -, hshut⟩⟩ := hphase moves first h hstart
  · exact absurd (hrestore i hi) hnew
  · rcases hshut m x hm hx with hx | ⟨p, hx, -⟩
    · exact Or.inl hx
    · exact Or.inr ⟨p, hx⟩

end AfterFence

def FilesystemSystem.Reachable (t : AtaJournalTransport) (s : FilesystemSystem) : Prop :=
  ∃ journal disk moves, s = (filesystemSafetyStart journal disk).run t moves

theorem FilesystemSystem.Reachable.orderly (h : s.Reachable t) : s.Orderly t := by
  obtain ⟨journal, disk, moves, rfl⟩ := h
  exact (filesystemSafetyStart_orderly journal disk).run moves

/-- A fence is called in `s` and returns while the moves `during` are made; mutation `m` runs
all the time. -/
structure FencedRunning (t : AtaJournalTransport) (s : FilesystemSystem) (m : Nat)
    (during : List FilesystemMove) : Prop where
  before : s.mutations[m]? = some .running
  returned : ((s.move t .fence).run t during).fences[s.fences.length]? = some (Prog.done ())
  after : ((s.move t .fence).run t during).mutations[m]? = some .running

/-- A mutation begins and stages a sector, and a fence is applied while it runs. -/
def fencedMutation : FilesystemSystem :=
  (filesystemSafetyStart freshJournal (reboot freshDisk)).run syncTransport
    ([.mutationBegin 0] ++ List.replicate 6 (.mutationStep 0 true) ++
      [.mutationWrite 0 true (mirroredVolume.addr 40) (filled 1)])

end ReistOs
