import ReistOs.AtaJournalBarriers

/-! Recovery: which header copy `ata_undo_journal_attach` follows and what it writes. -/

namespace ReistOs

open WriteBack AtaJournalRecord

section Selection

variable {p m : AtaJournalRecord} {mirrorLba : Nat}

theorem primaryValid_of_recordValid (h : recordValid p = true) : primaryValid p = true := by
  have hv : magic p = ataJournalMagic ∧ version p = ataJournalVersion := by
    simp only [recordValid, Bool.and_eq_true, beq_iff_eq] at h
    exact ⟨h.1.1.1.1.1, h.1.1.1.1.2⟩
  simp [primaryValid, hv, h, ataJournalVersion]

theorem mirrorValid_of_recordValid (h : recordValid m = true) : mirrorValid m = true := by
  have hv : magic m = ataJournalMagic ∧ version m = ataJournalVersion := by
    simp only [recordValid, Bool.and_eq_true, beq_iff_eq] at h
    exact ⟨h.1.1.1.1.1, h.1.1.1.1.2⟩
  simp [mirrorValid, hv, h]

theorem version_of_recordValid (h : recordValid p = true) :
    AtaJournalRecord.version p = ataJournalVersion := by
  simp only [recordValid, Bool.and_eq_true, beq_iff_eq] at h
  exact h.1.1.1.1.2

theorem magic_of_recordValid (h : recordValid p = true) :
    AtaJournalRecord.magic p = ataJournalMagic := by
  simp only [recordValid, Bool.and_eq_true, beq_iff_eq] at h
  exact h.1.1.1.1.1

theorem selectRecord_single (hp : recordValid p = true) :
    selectRecord mirrorLba (some p) none = some (p, mirrorLba != 0) := by
  simp [selectRecord, Option.filter, primaryValid_of_recordValid hp]

theorem selectRecord_pair (hp : recordValid p = true) (hm : recordValid m = true) :
    selectRecord mirrorLba (some p) (some m) =
      if m.sequence < p.sequence then some (p, true)
      else if p.sequence < m.sequence then some (m, true)
      else if p.state != m.state then some (if p.state == ataJournalActive then p else m, true)
      else if p != m then none
      else some (p, false) := by
  simp [selectRecord, Option.filter, primaryValid_of_recordValid hp, mirrorValid_of_recordValid hm,
    version_of_recordValid hp]

end Selection

variable {g : JournalGeometry} {v : Disk} {T : JournalTransaction g}

/-- The record recovery follows when both header copies can be read. -/
def selected (g : JournalGeometry) (v : Disk) : Option (AtaJournalRecord × Bool) :=
  selectRecord g.mirrorLba (some (v (g.addr g.headerLba)))
    (if g.mirrorLba = 0 then none else some (v (g.addr g.mirrorLba)))

variable {P : SectorAddr → Prop} {c : AtaJournalRecord}

theorem forall_headers :
    (∀ h ∈ g.headers, P h) ↔ P (g.addr g.headerLba) ∧ (g.mirrorLba ≠ 0 → P (g.addr g.mirrorLba)) := by
  constructor
  · intro h
    exact ⟨h _ g.primary_mem_headers, fun hm => h _ (g.mem_headers.mpr (Or.inr ⟨hm, rfl⟩))⟩
  · rintro ⟨hp, hm⟩ a ha
    rcases g.mem_headers.mp ha with rfl | ⟨hne, rfl⟩
    · exact hp
    · exact hm hne

theorem exists_header (h : ∃ a ∈ g.headers, P a) :
    P (g.addr g.headerLba) ∨ g.mirrorLba ≠ 0 ∧ P (g.addr g.mirrorLba) := by
  obtain ⟨a, ha, hp⟩ := h
  rcases g.mem_headers.mp ha with rfl | ⟨hne, rfl⟩
  · exact Or.inl hp
  · exact Or.inr ⟨hne, hp⟩

theorem selected_mem (hv : ∀ h ∈ g.headers, recordValid (v h) = true) {r : AtaJournalRecord} {b : Bool}
    (h : selected g v = some (r, b)) : ∃ a ∈ g.headers, v a = r := by
  obtain ⟨hp, hm⟩ := forall_headers.mp hv
  unfold selected at h
  by_cases hmir : g.mirrorLba = 0
  · rw [if_pos hmir, selectRecord_single hp] at h
    cases h
    exact ⟨_, g.primary_mem_headers, rfl⟩
  · rw [if_neg hmir, selectRecord_pair hp (hm hmir)] at h
    have mirror_mem := g.mem_headers.mpr (Or.inr ⟨hmir, rfl⟩)
    split at h
    next => cases h; exact ⟨_, g.primary_mem_headers, rfl⟩
    next =>
      split at h
      next => cases h; exact ⟨_, mirror_mem, rfl⟩
      next =>
        split at h
        next =>
          split at h
          next => cases h; exact ⟨_, g.primary_mem_headers, rfl⟩
          next => cases h; exact ⟨_, mirror_mem, rfl⟩
        next =>
          split at h
          next => simp at h
          next => cases h; exact ⟨_, g.primary_mem_headers, rfl⟩

theorem active_ne_clean_state : ataJournalActive ≠ ataJournalClean := by decide

theorem selected_active (hv : ∀ h ∈ g.headers, v h = T.active ∨ v h = T.clean)
    (ha : ∃ h ∈ g.headers, v h = T.active) : ∃ b, selected g v = some (T.active, b) := by
  obtain ⟨hp, hm⟩ := forall_headers.mp hv
  have hs : T.active.sequence = T.clean.sequence := by
    rw [T.active_sealed.sequence, T.clean_sealed.sequence]
  have hne := active_ne_clean_state
  unfold selected
  by_cases hmir : g.mirrorLba = 0
  · have hpa : v (g.addr g.headerLba) = T.active := by
      rcases exists_header ha with h | ⟨hn, _⟩
      · exact h
      · exact absurd hmir hn
    rw [if_pos hmir, hpa, selectRecord_single T.active_valid]
    exact ⟨_, rfl⟩
  · rw [if_neg hmir]
    rcases hp with hp | hp <;> rcases hm hmir with hm' | hm' <;> rw [hp, hm']
    · rw [selectRecord_pair T.active_valid T.active_valid]
      simp [UInt32.lt_irrefl]
    · rw [selectRecord_pair T.active_valid T.clean_valid]
      simp [hs, UInt32.lt_irrefl, T.active_sealed.state, T.clean_sealed.state, hne]
    · rw [selectRecord_pair T.clean_valid T.active_valid]
      simp [hs, UInt32.lt_irrefl, T.active_sealed.state, T.clean_sealed.state, hne.symm]
    · rcases exists_header ha with h | ⟨_, h⟩
      · exact absurd (hp.symm.trans h) T.clean_ne_active
      · exact absurd (hm'.symm.trans h) T.clean_ne_active

theorem selected_equal (hc : recordValid c = true) (hv : ∀ h ∈ g.headers, v h = c) :
    selected g v = some (c, false) := by
  obtain ⟨hp, hm⟩ := forall_headers.mp hv
  unfold selected
  by_cases hmir : g.mirrorLba = 0
  · rw [if_pos hmir, hp, selectRecord_single hc]
    simp [hmir]
  · rw [if_neg hmir, hp, hm hmir, selectRecord_pair hc hc]
    simp [UInt32.lt_irrefl]

theorem selected_isSome (hc : CleanRecord c) (hv : ∀ h ∈ g.headers, v h = c ∨ v h = T.active) :
    (selected g v).isSome = true := by
  obtain ⟨hp, hm⟩ := forall_headers.mp hv
  have hne : c.state ≠ T.active.state := by
    rw [hc.2, T.active_sealed.state]; exact active_ne_clean_state.symm
  unfold selected
  by_cases hmir : g.mirrorLba = 0
  · rw [if_pos hmir]
    rcases hp with hp | hp
    · rw [hp, selectRecord_single hc.1]; rfl
    · rw [hp, selectRecord_single T.active_valid]; rfl
  · rw [if_neg hmir]
    rcases hp with hp | hp <;> rcases hm hmir with hm' | hm' <;> rw [hp, hm']
    · simp [selectRecord_pair hc.1 hc.1, UInt32.lt_irrefl]
    · rw [selectRecord_pair hc.1 T.active_valid]
      split_ifs <;> simp_all
    · rw [selectRecord_pair T.active_valid hc.1]
      split_ifs <;> simp_all
    · simp [selectRecord_pair T.active_valid T.active_valid, UInt32.lt_irrefl]

end ReistOs
