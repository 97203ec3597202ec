import ReistOs.AtaJournalPhases

/-! Writes inside a transaction only fill the slots of the journal. -/

namespace ReistOs

open WriteBack

def slotWrites (g : JournalGeometry) (es : List AtaJournalEntry) : List (SectorAddr × Sector) :=
  es.map fun e => (g.addr e.targetLba, e.pendingData)

section Slots

variable {g : JournalGeometry} {content d : Disk} {es : List AtaJournalEntry} {a : SectorAddr}

variable {e : AtaJournalEntry} {i : Nat} {buffer : Sector}

theorem Staged.slotWrites_of_mem (h : Staged g content es) (he : e ∈ es) :
    applyWrites (slotWrites g es) d (g.addr e.targetLba) = e.pendingData := by
  refine applyWrites_of_mem _ (List.mem_map_of_mem he) fun y hy => ?_
  obtain ⟨f, hf, hx⟩ := List.mem_map.mp hy
  simp only [Prod.mk.injEq] at hx
  rw [List.inj_on_of_nodup_map h.distinct hf he (g.addr_injective hx.1)] at hx
  exact hx.2.symm

theorem slotWrites_of_not_mem (h : ∀ e ∈ es, g.addr e.targetLba ≠ a) :
    applyWrites (slotWrites g es) d a = d a := by
  refine applyWrites_of_not_mem _ fun p hp => ?_
  obtain ⟨e, he, rfl⟩ := List.mem_map.mp hp
  exact h e he

theorem slotWrites_snoc (es : List AtaJournalEntry) (e : AtaJournalEntry) :
    applyWrites (slotWrites g (es ++ [e])) d =
      Function.update (applyWrites (slotWrites g es) d) (g.addr e.targetLba) e.pendingData := by
  simp [slotWrites, applyWrites_append]

theorem Staged.snoc (h : Staged g content es) (hroom : es.length < ataJournalMaxEntries)
    (hnew : ∀ f ∈ es, f.targetLba ≠ e.targetLba) (ht : g.IsTarget e.targetLba)
    (hu : e.undoData = content (g.addr e.targetLba)) (hc : e.dataCrc32 = e.undoData.crc32) :
    Staged g content (es ++ [e]) where
  distinct := by
    rw [List.map_append, List.map_singleton]
    refine List.Nodup.append h.distinct (List.nodup_singleton _) ?_
    simp only [List.disjoint_singleton, List.mem_map, not_exists, not_and]
    exact hnew
  fits := by simpa using Nat.succ_le_of_lt hroom
  target := by
    simp only [List.mem_append, List.mem_singleton]
    rintro f (hf | rfl)
    · exact h.target f hf
    · exact ht
  undo := by
    simp only [List.mem_append, List.mem_singleton]
    rintro f (hf | rfl)
    · exact h.undo f hf
    · exact hu
  crc := by
    simp only [List.mem_append, List.mem_singleton]
    rintro f (hf | rfl)
    · exact h.crc f hf
    · exact hc

/-- A repeated write to a target changes its pending data only. -/
def repend (es : List AtaJournalEntry) (i : Nat) (buffer : Sector) : List AtaJournalEntry :=
  es.modify i fun e => { e with pendingData := buffer }

@[simp] theorem length_repend (i : Nat) (buffer : Sector) :
    (repend es i buffer).length = es.length := List.length_modify ..

theorem getElem_repend {k : Nat} (hk : k < es.length) (hk' : k < (repend es i buffer).length) :
    (repend es i buffer)[k] =
      if i = k then { es[k] with pendingData := buffer } else es[k] := by
  simp [repend, List.getElem_modify]

theorem mem_repend {f : AtaJournalEntry} (h : f ∈ repend es i buffer) :
    ∃ e ∈ es, f.targetLba = e.targetLba ∧ f.undoData = e.undoData ∧ f.dataCrc32 = e.dataCrc32 := by
  obtain ⟨k, hk, rfl⟩ := List.mem_iff_getElem.mp h
  have hk' : k < es.length := by simpa using hk
  refine ⟨es[k], List.getElem_mem hk', ?_⟩
  rw [getElem_repend hk']
  split
  next => exact ⟨rfl, rfl, rfl⟩
  next => exact ⟨rfl, rfl, rfl⟩

theorem map_targetLba_repend (i : Nat) (buffer : Sector) :
    (repend es i buffer).map AtaJournalEntry.targetLba = es.map AtaJournalEntry.targetLba := by
  apply List.ext_getElem
  · simp
  · intro k hk hk'
    rw [List.getElem_map, List.getElem_map, getElem_repend (by simpa using hk')]
    split
    next => rfl
    next => rfl

theorem Staged.repended (h : Staged g content es) (i : Nat) (buffer : Sector) :
    Staged g content (repend es i buffer) where
  distinct := by rw [map_targetLba_repend]; exact h.distinct
  fits := by simpa using h.fits
  target := by
    intro f hf
    obtain ⟨e, he, ht, -, -⟩ := mem_repend hf
    rw [ht]
    exact h.target e he
  undo := by
    intro f hf
    obtain ⟨e, he, ht, hu, -⟩ := mem_repend hf
    rw [ht, hu]
    exact h.undo e he
  crc := by
    intro f hf
    obtain ⟨e, he, -, hu, hc⟩ := mem_repend hf
    rw [hc, hu]
    exact h.crc e he

theorem slotWrites_repend (h : Staged g content es) (hi : i < es.length) (buffer : Sector) :
    applyWrites (slotWrites g (repend es i buffer)) d =
      Function.update (applyWrites (slotWrites g es) d) (g.addr es[i].targetLba) buffer := by
  have hr := h.repended i buffer
  have hi' : i < (repend es i buffer).length := by simpa using hi
  funext a
  by_cases ha : a = g.addr es[i].targetLba
  · subst ha
    have hmem := List.getElem_mem hi'
    have hw := hr.slotWrites_of_mem (d := d) hmem
    rw [Function.update_self]
    rwa [getElem_repend hi, if_pos rfl] at hw
  · rw [Function.update_of_ne ha]
    by_cases hm : ∃ e ∈ es, g.addr e.targetLba = a
    · obtain ⟨e, he, rfl⟩ := hm
      obtain ⟨k, hk, rfl⟩ := List.mem_iff_getElem.mp he
      have hki : i ≠ k := by rintro rfl; exact ha rfl
      have hmem : es[k] ∈ repend es i buffer := by
        refine List.mem_iff_getElem.mpr ⟨k, by simpa using hk, ?_⟩
        rw [getElem_repend hk, if_neg hki]
      rw [h.slotWrites_of_mem he, hr.slotWrites_of_mem hmem]
    · have hno : ∀ e ∈ es, g.addr e.targetLba ≠ a := fun e he hx => hm ⟨e, he, hx⟩
      rw [slotWrites_of_not_mem hno, slotWrites_of_not_mem]
      intro f hf
      obtain ⟨e, he, ht, -, -⟩ := mem_repend hf
      rw [ht]
      exact hno e he

end Slots

/-- What a write inside a transaction does to the journal. -/
structure Stages (g : JournalGeometry) (content : Disk) (j : AtaUndoJournal) (lba : Nat)
    (buffer : Sector) (j' : AtaUndoJournal) : Prop where
  attached : AttachedTo g j'
  depth : j'.transactionDepth = j.transactionDepth
  staged : Staged g content j'.entries
  targets : ∀ e ∈ j'.entries, e.targetLba = lba ∨ ∃ f ∈ j.entries, f.targetLba = e.targetLba
  pending : (j.entries.length < ataJournalMaxEntries ∨ ∃ f ∈ j.entries, f.targetLba = lba) →
    ∀ d, applyWrites (slotWrites g j'.entries) d =
      Function.update (applyWrites (slotWrites g j.entries) d) (g.addr lba) buffer

variable {t : AtaJournalTransport} {g : JournalGeometry} {j : AtaUndoJournal} {w : DiskWorld}
  {lba : Nat} {buffer : Sector}

theorem AttachedTo.with_entries (h : AttachedTo g j) (es : List AtaJournalEntry) (sequence : UInt32) :
    AttachedTo g { j with entries := es, sequence := sequence } :=
  ⟨⟨h.base, h.isMaster, h.headerLba, h.mirrorLba, h.dataLba, h.volumeStartLba, h.volumeEndLba⟩,
    h.enabled⟩

theorem AttachedTo.with_depth (h : AttachedTo g j) (es : List AtaJournalEntry) (depth : Nat) :
    AttachedTo g { j with entries := es, transactionDepth := depth } :=
  ⟨⟨h.base, h.isMaster, h.headerLba, h.mirrorLba, h.dataLba, h.volumeStartLba, h.volumeEndLba⟩,
    h.enabled⟩

theorem stageNew_eq (ready : t.transportReady = true) (hr : w.readFates = []) (ha : AttachedTo g j) :
    ∃ ok sequence, stageNew t j lba buffer w = (ok, { j with
      entries := j.entries ++ [⟨lba, (w.medium.view (g.addr lba)).crc32, w.medium.view (g.addr lba),
        buffer⟩]
      sequence := sequence }, w) := by
  unfold stageNew
  rw [readSector, if_pos ready, World.read_of_readFates hr, ha.addr]
  dsimp only
  split
  next => exact ⟨_, _, rfl⟩
  next => exact ⟨_, _, rfl⟩

theorem stage_spec (buffer : Sector) (ready : t.transportReady = true) (hr : w.readFates = [])
    (ha : AttachedTo g j) (hs : Staged g w.medium.view j.entries) (ht : g.IsTarget lba) :
    (stage t j lba buffer w).2.2 = w ∧
      Stages g w.medium.view j lba buffer (stage t j lba buffer w).2.1 := by
  unfold stage
  split
  next i hi =>
    obtain ⟨hlt, hlba, -⟩ := List.findIdx?_eq_some_iff_getElem.mp hi
    refine ⟨rfl, ⟨ha.with_entries _ _, rfl, hs.repended i buffer, ?_, ?_⟩⟩
    · intro e he
      obtain ⟨f, hf, hx, -⟩ := mem_repend he
      exact Or.inr ⟨f, hf, hx.symm⟩
    · intro _ d
      rw [← beq_iff_eq.mp hlba]
      exact slotWrites_repend hs hlt buffer
  next hi =>
    have hnew : ∀ f ∈ j.entries, f.targetLba ≠ lba := by
      simpa using List.findIdx?_eq_none_iff.mp hi
    split
    next hfull =>
      refine ⟨rfl, ⟨ha, rfl, hs, fun e he => Or.inr ⟨e, he, rfl⟩, fun hroom => ?_⟩⟩
      rcases hroom with hroom | ⟨f, hf, hx⟩
      · exact absurd hfull (Nat.not_le.mpr hroom)
      · exact absurd hx (hnew f hf)
    next hroom =>
      obtain ⟨ok, sequence, he⟩ := stageNew_eq ready hr ha
      rw [he]
      refine ⟨rfl, ⟨ha.with_entries _ _, rfl, ?_, ?_, fun _ d => slotWrites_snoc _ _⟩⟩
      · exact hs.snoc (Nat.not_le.mp hroom) hnew ht rfl rfl
      · intro e he
        rcases List.mem_append.mp he with he | he
        · exact Or.inr ⟨e, he, rfl⟩
        · exact Or.inl (by rw [List.mem_singleton.mp he])

theorem writeSector_staged (buffer : Sector) (ready : t.transportReady = true)
    (ha : AttachedTo g j) (hd : j.transactionDepth ≠ 0) (ht : g.IsTarget lba) :
    ataUndoJournalWriteSector t j (g.addr lba) buffer w = stage t j lba buffer w := by
  have hb : j.bypasses (g.addr lba) = false := by
    have h1 := ht.start_le
    have h2 := ht.lt_end
    simp only [AtaUndoJournal.bypasses, JournalGeometry.addr, ha.enabled, ha.base, ha.isMaster,
      ha.volumeStartLba, ha.volumeEndLba]
    grind
  have hres : j.reserved lba = false := by
    have h1 := ht.not_journal
    have h2 := ht.ne_mirror
    simp only [AtaUndoJournal.reserved, ha.headerLba, ha.dataLba, ha.mirrorLba]
    grind
  unfold ataUndoJournalWriteSector
  simp only [ready, Bool.not_true, Bool.false_eq_true, if_false, hb]
  rw [show (g.addr lba).lba = lba from rfl, hres, if_neg (by simp), if_neg hd]

end ReistOs
