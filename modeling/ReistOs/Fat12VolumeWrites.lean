import ReistOs.Fat12Volume

/-! The logical write path is a journaled transaction on physical sectors. -/

namespace ReistOs

open WriteBack

def physicalSector (f : Fat12) (s : UInt32) : Nat := (fat12RemapSector f s).toNat

/-- The path changes nothing but the journal: what tells logical from physical sectors
stays. -/
def Fat12.setJournal (f : Fat12) (j : Fat12Journal) : Fat12 := { f with journal := j }

@[simp] theorem setJournal_journal (f : Fat12) (j : Fat12Journal) : (f.setJournal j).journal = j := rfl

@[simp] theorem setJournal_setJournal (f : Fat12) (j k : Fat12Journal) :
    (f.setJournal j).setJournal k = f.setJournal k := rfl

@[simp] theorem physicalSector_setJournal (f : Fat12) (j : Fat12Journal) :
    physicalSector (f.setJournal j) = physicalSector f := rfl

variable {f : Fat12} {w : Fat12World} {s : UInt32} {x : Sector} {xs : List Sector}
  {qs : List (UInt32 × List Sector)}

theorem readEach_single (a : Nat) (w : Fat12World) :
    readEach [a] w = ((w.read a).1.map fun x => [x], (w.read a).2) := by
  unfold readEach
  rcases h : w.read a with ⟨r, w'⟩
  cases r <;> rfl

theorem fat12ReadLogicalSectors_single (he : f.remapEnabled = true) (s : UInt32) (w : Fat12World) :
    fat12ReadLogicalSectors f s 1 w =
      if f.bootSector.total ≤ s.toNat then (none, w)
      else ((w.read (physicalSector f s)).1.map fun x => [x], (w.read (physicalSector f s)).2) := by
  unfold fat12ReadLogicalSectors
  by_cases ht : f.bootSector.total ≤ s.toNat
  · rw [if_pos (Or.inr (Or.inl ht)), if_pos ht]
  · rw [if_neg (by omega), if_neg ht, if_pos he]
    have h0 : s + UInt32.ofNat 0 = s := UInt32.add_zero s
    simp only [List.range_one, List.map_cons, List.map_nil, h0]
    exact readEach_single _ w

theorem writeLogicalSector_of_ok (he : f.remapEnabled = true)
    (hok : (writeLogicalSector f s x w).1 = true) :
    (recordAndWrite f.journal (physicalSector f) s x w).1 = true ∧
      (writeLogicalSector f s x w).2 =
        (f.setJournal (recordAndWrite f.journal (physicalSector f) s x w).2.1,
          (recordAndWrite f.journal (physicalSector f) s x w).2.2) := by
  unfold writeLogicalSector at hok ⊢
  unfold recordAndWrite
  rw [fat12ReadLogicalSectors_single he] at hok ⊢
  split at hok
  next old w' hread =>
    split at hread
    next => simp at hread
    next =>
      rcases hr : w.read (physicalSector f s) with ⟨_ | data, w''⟩
      · simp [hr] at hread
      · simp only [hr, Option.map_some, Prod.mk.injEq, Option.some.injEq, List.cons.injEq,
          and_true] at hread
        obtain ⟨rfl, rfl⟩ := hread
        dsimp only at hok ⊢
        by_cases hrec : (fat12JournalRecord f.journal s data w'').1 = true
        · rw [if_pos hrec] at hok ⊢
          rw [if_pos hrec]
          exact ⟨hok, rfl⟩
        · rw [if_neg hrec] at hok
          cases hok
  next => cases hok

/-- A successful call is the journaled writes of a list of sectors. -/
def PathOf (f : Fat12) (ps : List (UInt32 × Sector)) (w : Fat12World) (out : Bool × Fat12 × Fat12World) :
    Prop :=
  out.1 = true → (recordAndWriteAll (physicalSector f) ps f.journal w).1 = true ∧
    out.2 = (f.setJournal (recordAndWriteAll (physicalSector f) ps f.journal w).2.1,
      (recordAndWriteAll (physicalSector f) ps f.journal w).2.2)

theorem recordAndWriteAll_append (physical : UInt32 → Nat) (ps qs : List (UInt32 × Sector))
    (j : Fat12Journal) (w : Fat12World) : recordAndWriteAll physical (ps ++ qs) j w =
      if (recordAndWriteAll physical ps j w).1 then
        recordAndWriteAll physical qs (recordAndWriteAll physical ps j w).2.1
          (recordAndWriteAll physical ps j w).2.2
      else recordAndWriteAll physical ps j w := by
  induction ps generalizing j w with
  | nil => rfl
  | cons p ps ih =>
    simp only [List.cons_append, recordAndWriteAll]
    by_cases h : (recordAndWrite j physical p.1 p.2 w).1 = true
    · simp only [h, if_true]
      exact ih _ _
    · simp [h]

theorem writeSectorLoop_path (he : f.remapEnabled = true) (xs : List Sector) (s : UInt32)
    (w : Fat12World) : PathOf f (sectorWrites xs s) w (writeSectorLoop xs s f w) := by
  induction xs generalizing s f w with
  | nil => exact fun _ => ⟨rfl, rfl⟩
  | cons x xs ih =>
    intro hok
    unfold writeSectorLoop at hok ⊢
    by_cases h : (writeLogicalSector f s x w).1 = true
    · obtain ⟨hrec, hout⟩ := writeLogicalSector_of_ok he h
      simp only [h, if_true] at hok ⊢
      rw [hout] at hok ⊢
      have := ih (f := f.setJournal (recordAndWrite f.journal (physicalSector f) s x w).2.1) he (s + 1) _ hok
      simpa [sectorWrites, recordAndWriteAll, hrec] using this
    · simp [h] at hok

theorem fat12WriteLogicalSectors_path (he : f.remapEnabled = true) (ha : f.transactionActive = true)
    (s : UInt32) (xs : List Sector) (w : Fat12World) :
    PathOf f (sectorWrites xs s) w (fat12WriteLogicalSectors f s xs w) := by
  intro hok
  unfold fat12WriteLogicalSectors at hok ⊢
  split at hok
  next => cases hok
  next hn =>
    rw [if_neg hn, if_pos ha]
    exact writeSectorLoop_path he xs s w hok

theorem writeRequests_path (he : f.remapEnabled = true) (ha : f.transactionActive = true)
    (qs : List (UInt32 × List Sector)) (w : Fat12World) :
    PathOf f (requestWrites qs) w (writeRequests qs f w) := by
  induction qs generalizing f w with
  | nil => exact fun _ => ⟨rfl, rfl⟩
  | cons q qs ih =>
    intro hok
    unfold writeRequests at hok ⊢
    by_cases h : (fat12WriteLogicalSectors f q.1 q.2 w).1 = true
    · obtain ⟨hrec, hout⟩ := fat12WriteLogicalSectors_path he ha q.1 q.2 w h
      simp only [h, if_true] at hok ⊢
      rw [hout] at hok ⊢
      let j := (recordAndWriteAll (physicalSector f) (sectorWrites q.2 q.1) f.journal w).2.1
      have := ih (f := f.setJournal j) he ha _ hok
      simpa [requestWrites, recordAndWriteAll_append, hrec] using this
    · simp [h] at hok

theorem journaledWrites_of_ok (he : f.remapEnabled = true) {maximum : Nat}
    (hok : (journaledWrites f maximum qs w).1 = true) :
    f.journalSequence ≠ 0xFFFFFFFFFFFFFFFF ∧
    (fat12Transaction f.journal (physicalSector f) (f.journalSequence + 1) (requestWrites qs) w).1 = true ∧
    (journaledWrites f maximum qs w).2.2 =
      (fat12Transaction f.journal (physicalSector f) (f.journalSequence + 1) (requestWrites qs) w).2.2 := by
  unfold journaledWrites fat12TransactionBegin at hok ⊢
  unfold fat12Transaction
  split at hok
  next => simp at hok
  next hn =>
    rw [if_neg hn]
    simp only [not_or] at hn
    refine ⟨hn.2.2.2.2, ?_⟩
    by_cases hb : (fat12JournalBegin f.journal (f.journalSequence + 1) w).1 = true
    · simp only [hb, if_true] at hok ⊢
      let b := fat12JournalBegin f.journal (f.journalSequence + 1) w
      let g : Fat12 := { f with
        journalSequence := f.journalSequence + 1
        journal := b.2.1
        transactionActive := true }
      obtain ⟨hrec, hout⟩ := writeRequests_path (f := g) he rfl qs b.2.2 hok
      refine ⟨hrec, ?_⟩
      exact congrArg Prod.snd hout
    · simp [hb] at hok

end ReistOs
