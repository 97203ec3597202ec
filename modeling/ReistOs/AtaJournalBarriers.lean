import ReistOs.AtaJournalCommit

/-! The four barriers of a transaction, each with what the volume may hold on the way. -/

namespace ReistOs

open WriteBack

variable {t : AtaJournalTransport} {g : JournalGeometry} {j : AtaUndoJournal}
  {T : JournalTransaction g}

section Shapes

variable (clean : Sector → Prop) (T : JournalTransaction g) (m : Medium SectorAddr Sector)

def Stored : Prop := m.Within (Layout g T.entries clean fun a x => x = T.before a)

def Published : Prop :=
  m.Within (Layout g T.entries (fun r => r = T.active) fun a x => x = T.before a)

def Applying : Prop :=
  m.Within (Layout g T.entries (fun r => r = T.active) fun a x => x = T.before a ∨ x = T.after a)

def Applied : Prop :=
  m.Within (Layout g T.entries (fun r => r = T.active) fun a x => x = T.after a)

/-- What a volume may look like anywhere inside a transaction. -/
def Publishing : Prop :=
  Quiet g clean T.before m ∨ Armable clean T m ∨ Armed T m ∨ Clearing T m

end Shapes

section Shapes

variable {clean : Sector → Prop} {m : Medium SectorAddr Sector}

theorem Stored.armable (h : Stored clean T m) : Armable clean T m :=
  h.mono fun _ _ hx => hx.mono (fun _ => Or.inl) fun _ _ _ => id

theorem Published.applying (h : Published T m) : Applying T m :=
  h.mono fun _ _ hx => hx.mono (fun _ => id) fun _ _ _ => Or.inl

theorem Applying.armed (h : Applying T m) : Armed T m := by
  refine ⟨h.mono fun _ _ hx => hx.mono (fun _ => Or.inl) fun _ _ _ => id, _,
    g.primary_mem_headers, fun x hx => ?_⟩
  exact (h _ x hx).1 g.primary_mem_headers

theorem Applied.clearing (h : Applied T m) : Clearing T m :=
  ⟨h.mono fun _ _ hx => hx.mono (fun _ => Or.inl) fun _ _ _ => id,
    fun a ha _ x hx => (h a x hx).1 ha⟩

theorem Clearing.write (h : Clearing T m) {a : SectorAddr} (ha : a ∈ g.headers) :
    Clearing T (m.step (.write a T.clean)) := by
  refine ⟨h.1.write (Layout.of_header T.staged.fits ha (Or.inr rfl)), fun b hb hv x hx => ?_⟩
  rw [Medium.view_step_write] at hv
  rcases (Medium.holds_step_write m).mp hx with hx | ⟨rfl, rfl⟩
  · by_cases he : b = a
    · subst he
      rw [Function.update_self] at hv
      exact absurd hv T.clean_ne_active
    · rw [Function.update_of_ne he] at hv
      exact h.2 b hb hv x hx
  · rw [Function.update_self] at hv
    exact hv

theorem Clearing.flush (h : Clearing T m) : Clearing T (m.step .flush) := by
  refine ⟨h.1.flush, fun b _ hv x hx => ?_⟩
  rw [(Medium.holds_step_flush m).mp hx]
  exact hv

end Shapes

section Barriers

variable (ready : t.transportReady = true) (hp : Publishes j T) (clean : Sector → Prop)

include ready hp

theorem undo_triple :
    CrashTriple (Quiet g clean T.before) (Quiet g clean T.before) (Stored clean T)
      fun w => andThen (writeUndo t j t.deferredTransportReady w)
        (barrier t t.deferredTransportReady) := by
  refine CrashTriple.of_emits_settled (emits_undo ready hp) (settled_undo ready hp)
    (fun _ hm => hm) ?_ (fun _ hm => hm.flush) ?_
  · rintro m ⟨a, x⟩ hmem hm
    obtain ⟨i, e, hi, rfl, -⟩ := T.mem_undoWrites.mp hmem
    exact hm.write (Layout.of_undo (T.index_lt hi))
  · intro m m' _ hm' hv hc
    refine Medium.within_of_settled hc fun a => ⟨(hm'.view a).1, ?_, (hm'.view a).2.2⟩
    rintro i e hi rfl
    rw [hv]
    refine applyWrites_of_mem _ (T.mem_undoWrites.mpr ⟨i, e, hi, rfl, rfl⟩) fun y hy => ?_
    obtain ⟨k, f, hk, ha, rfl⟩ := T.mem_undoWrites.mp hy
    have hik : i = k := by
      have := g.addr_injective ha
      omega
    subst hik
    rw [hi] at hk
    cases hk
    rfl

theorem active_triple :
    CrashTriple (Stored clean T) (Armable clean T) (Published T)
      fun w => andThen (writeActive t j t.deferredTransportReady w)
        (barrier t t.deferredTransportReady) := by
  have hr : j.active = T.active := hp.active
  unfold writeActive
  rw [hr]
  refine CrashTriple.of_emits_settled (emits_record ready hp.attached.toInstalledOn T.active)
    (settled_record ready hp.attached.toInstalledOn T.active) (fun _ hm => hm.armable) ?_ (fun _ hm => hm.flush) ?_
  · rintro m ⟨a, x⟩ hmem hm
    obtain ⟨b, hb, he⟩ := List.mem_map.mp hmem
    cases he
    exact hm.write (Layout.of_header T.staged.fits hb (Or.inr rfl))
  · intro m m' _ hm' hv hc
    refine Medium.within_of_settled hc fun a => ⟨fun ha => ?_, (hm'.view a).2.1, (hm'.view a).2.2⟩
    rw [hv]
    refine applyWrites_of_mem _ (List.mem_map_of_mem ha) fun y hy => ?_
    obtain ⟨b, _, he⟩ := List.mem_map.mp hy
    cases he
    rfl

theorem targets_triple (useCommitTransport : Bool) :
    CrashTriple (Published T) (Applying T) (Applied T)
      (writeTargets t j useCommitTransport t.deferredTransportReady) := by
  refine CrashTriple.of_emits_settled (emits_targets ready hp useCommitTransport)
    (settled_targets ready hp useCommitTransport) (fun _ hm => hm.applying) ?_
    (fun _ hm => hm.flush) ?_
  · rintro m ⟨a, x⟩ hmem hm
    exact hm.write (Layout.of_data T.staged.fits (T.targetWrites_outside hmem)
      (Or.inr (T.after_of_mem hmem).symm))
  · intro m m' hm hm' hv hc
    refine Medium.within_of_settled hc fun a => ⟨(hm'.view a).1, (hm'.view a).2.1, fun ha => ?_⟩
    rw [hv]
    exact applyWrites_congr _ ((hm.view a).2.2 ha)

theorem clean_triple :
    CrashTriple (Applied T) (Clearing T) (Quiet g (fun r => r = T.clean) T.after)
      fun w => andThen (clearJournal t j t.deferredTransportReady w)
        (barrier t t.deferredTransportReady) := by
  have hr : ataUndoJournalMakeClean j.sequence = T.clean := by
    rw [hp.sequence]; rfl
  unfold clearJournal
  rw [hr]
  refine CrashTriple.of_emits_settled (emits_record ready hp.attached.toInstalledOn T.clean)
    (settled_record ready hp.attached.toInstalledOn T.clean) (fun _ hm => hm.clearing) ?_ (fun _ hm => hm.flush) ?_
  · rintro m ⟨a, x⟩ hmem hm
    obtain ⟨b, hb, he⟩ := List.mem_map.mp hmem
    cases he
    exact hm.write hb
  · intro m m' _ hm' hv hc
    refine Medium.within_of_settled hc fun a => ⟨fun ha => ?_, by simp, (hm'.1.view a).2.2⟩
    rw [hv]
    refine applyWrites_of_mem _ (List.mem_map_of_mem ha) fun y hy => ?_
    obtain ⟨b, _, he⟩ := List.mem_map.mp hy
    cases he
    rfl

theorem commitEntries_triple (useCommitTransport : Bool) :
    CrashTriple (Quiet g clean T.before) (Publishing clean T)
      (Quiet g (fun r => r = T.clean) T.after) (commitEntries t j useCommitTransport) := by
  have hundo := (undo_triple ready hp clean).weaken (fun _ h => h)
    (fun m h => (Or.inl h : Publishing clean T m)) (fun _ h => h)
  have hactive := (active_triple ready hp clean).weaken (fun _ h => h)
    (fun m h => (Or.inr (Or.inl h) : Publishing clean T m)) (fun _ h => h)
  have htargets := (targets_triple ready hp useCommitTransport).weaken (fun _ h => h)
    (fun m h => (Or.inr (Or.inr (Or.inl h.armed)) : Publishing clean T m)) (fun _ h => h)
  have hclean := (clean_triple ready hp).weaken (fun _ h => h)
    (fun m h => (Or.inr (Or.inr (Or.inr h)) : Publishing clean T m)) (fun _ h => h)
  exact hundo.seq (hactive.seq (htargets.seq hclean))

end Barriers

theorem commitEntries_healthy (ready : t.transportReady = true) (hp : Publishes j T)
    (useCommitTransport : Bool) : Healthy (commitEntries t j useCommitTransport) := by
  have hrecord : ∀ r, Healthy fun w => andThen (writeRecord t j r t.deferredTransportReady w)
      (barrier t t.deferredTransportReady) := fun r =>
    Healthy.of_emits (emits_record ready hp.attached.toInstalledOn r)
  have htargets := Healthy.of_emits (emits_targets ready hp useCommitTransport)
  exact (Healthy.of_emits (emits_undo ready hp)).seq
    ((hrecord j.active).seq (htargets.seq (hrecord (ataUndoJournalMakeClean j.sequence))))

end ReistOs
