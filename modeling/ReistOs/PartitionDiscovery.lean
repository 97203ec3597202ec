import ReistOs.Partition

/-! What the tables of a disk may hold when they are accepted. -/

namespace ReistOs

open LittleEndian GptHeader

/-- The sectors of a candidate end before those of another begin. -/
def PartitionCandidate.Before (a b : PartitionCandidate) : Prop :=
  a.firstLba.toNat + a.sectors.toNat ≤ b.firstLba.toNat

theorem PartitionCandidate.stop_toNat (c : PartitionCandidate) :
    c.stop.toNat = c.firstLba.toNat + c.sectors.toNat := by
  have h1 := c.firstLba.toNat_lt
  have h2 := c.sectors.toNat_lt
  unfold PartitionCandidate.stop
  rw [UInt64.toNat_add, UInt32.toNat_toUInt64, UInt32.toNat_toUInt64]
  omega

theorem candidatesCollide_false {a b : PartitionCandidate} (h : candidatesCollide a b = false) :
    a.Before b ∨ b.Before a := by
  unfold candidatesCollide at h
  simp only [Bool.or_eq_false_iff, Bool.and_eq_false_iff, decide_eq_false_iff_not] at h
  have ha := a.stop_toNat
  have hb := b.stop_toNat
  rcases h.1 with hab | hba
  · have hn : ¬ a.firstLba.toUInt64.toNat < b.stop.toNat := hab
    rw [UInt32.toNat_toUInt64] at hn
    exact Or.inr (by unfold PartitionCandidate.Before; omega)
  · have hn : ¬ b.firstLba.toUInt64.toNat < a.stop.toNat := hba
    rw [UInt32.toNat_toUInt64] at hn
    exact Or.inl (by unfold PartitionCandidate.Before; omega)

theorem candidatesValid_pairwise {items : List PartitionCandidate} (h : candidatesValid items = true) :
    items.Pairwise fun a b => a.Before b ∨ b.Before a := by
  induction items with
  | nil => exact List.Pairwise.nil
  | cons a items ih =>
    simp only [candidatesValid, Bool.and_eq_true, List.all_eq_true, Bool.not_eq_true'] at h
    exact List.pairwise_cons.mpr ⟨fun b hb => candidatesCollide_false (h.1 b hb), ih h.2⟩

section Mbr

/-- An MBR candidate of a disk with so many sectors. -/
structure MbrFit (parentSectors : UInt32) (c : PartitionCandidate) : Prop where
  scheme : c.scheme = .mbr
  nonempty : c.sectors ≠ 0
  inside : c.firstLba.toNat + c.sectors.toNat ≤ parentSectors.toNat

variable {parentSectors : UInt32} {sector : Sector} {r : Bool × List PartitionCandidate}

theorem mbrSlot_fit {slot : Nat} {r' : Bool × List PartitionCandidate}
    (h : mbrSlot parentSectors sector slot r = some r') (hr : ∀ c ∈ r.2, MbrFit parentSectors c) :
    ∀ c ∈ r'.2, MbrFit parentSectors c := by
  unfold mbrSlot at h
  dsimp only at h
  split at h
  next => cases h; exact hr
  next =>
    split at h
    next =>
      split at h
      next => cases h
      next => cases h; exact hr
    next =>
      split at h
      next => cases h
      next hn =>
        cases h
        intro c hc
        rcases List.mem_append.mp hc with hc | hc
        · exact hr c hc
        · rw [List.mem_singleton.mp hc]
          push Not at hn
          obtain ⟨-, -, -, -, hs, hend⟩ := hn
          refine ⟨rfl, hs, ?_⟩
          have h1 := (get32 sector (446 + slot * 16 + 8)).toNat_lt
          have h2 := (get32 sector (446 + slot * 16 + 12)).toNat_lt
          have hle : ((get32 sector (446 + slot * 16 + 8)).toUInt64 +
              (get32 sector (446 + slot * 16 + 12)).toUInt64).toNat ≤
              parentSectors.toUInt64.toNat := UInt64.not_lt.mp hend
          rw [UInt64.toNat_add, UInt32.toNat_toUInt64, UInt32.toNat_toUInt64, UInt32.toNat_toUInt64] at hle
          dsimp only
          omega

theorem mbrSlots_fit (h : mbrSlots parentSectors sector = some r) :
    ∀ c ∈ r.2, MbrFit parentSectors c := by
  obtain ⟨r0, h0, h⟩ := Option.bind_eq_some_iff.mp h
  obtain ⟨r1, h1, h⟩ := Option.bind_eq_some_iff.mp h
  obtain ⟨r2, h2, h3⟩ := Option.bind_eq_some_iff.mp h
  have f0 := mbrSlot_fit h0 (by simp)
  exact mbrSlot_fit h3 (mbrSlot_fit h2 (mbrSlot_fit h1 f0))

end Mbr

section Gpt

/-- A GPT candidate within the usable range of a header. -/
structure GptFit (g : GptHeader) (c : PartitionCandidate) : Prop where
  scheme : c.scheme = .gpt
  nonempty : c.sectors ≠ 0
  first : g.firstUsable.toNat ≤ c.firstLba.toNat
  last : c.firstLba.toNat + c.sectors.toNat ≤ g.lastUsable.toNat + 1

variable {g : GptHeader} {sector : Sector} {offset seen : Nat} {items : List PartitionCandidate}
  {parentSectors : UInt32}

theorem gptEntry_fit {items' : List PartitionCandidate} (hl : g.lastUsable.toNat < 4294967296)
    (h : g.entry sector offset seen items = some items') (hr : ∀ c ∈ items, GptFit g c) :
    ∀ c ∈ items', GptFit g c := by
  unfold entry at h
  dsimp only at h
  generalize get64 sector (offset + 32) = first at h
  generalize get64 sector (offset + 40) = last at h
  split at h
  next => cases h; exact hr
  next =>
    split at h
    next => cases h
    next hn =>
      cases h
      intro c hc
      rcases List.mem_append.mp hc with hc | hc
      · exact hr c hc
      · rw [List.mem_singleton.mp hc]
        push Not at hn
        obtain ⟨-, hfirst, hlast, horder, hfit, hcount, -⟩ := hn
        have h1 : ¬ first.toNat < g.firstUsable.toNat := hfirst
        have h2 : ¬ g.lastUsable.toNat < last.toNat := hlast
        have h3 : ¬ last.toNat < first.toNat := horder
        have h4 : ¬ 4294967295 < first.toNat := hfit
        have h5 : ¬ 4294967295 < (last - first + 1).toNat := hcount
        have hlt := last.toNat_lt
        have hsub : (last - first).toNat = last.toNat - first.toNat :=
          UInt64.toNat_sub_of_le _ _ (UInt64.not_lt.mp horder)
        have hadd : (last - first + 1).toNat = (last.toNat - first.toNat + 1) % 18446744073709551616 := by
          rw [UInt64.toNat_add, hsub]
          rfl
        have hlba : first.toUInt32.toNat = first.toNat := by
          rw [UInt64.toNat_toUInt32]
          omega
        have hsectors : (last - first + 1).toUInt32.toNat = (last - first + 1).toNat := by
          rw [UInt64.toNat_toUInt32]
          omega
        refine ⟨rfl, fun he => ?_, ?_, ?_⟩
        · have hz := congrArg UInt32.toNat he
          rw [hsectors] at hz
          change _ = 0 at hz
          omega
        · dsimp only
          omega
        · dsimp only
          omega

theorem sectorEntries_fit {used : Nat} (hl : g.lastUsable.toNat < 4294967296) (room : Nat)
    {r : Nat × List PartitionCandidate}
    (h : g.sectorEntries sector used room offset seen items = some r) (hr : ∀ c ∈ items, GptFit g c) :
    ∀ c ∈ r.2, GptFit g c := by
  induction room generalizing offset seen items with
  | zero =>
    cases Option.some.inj h
    exact hr
  | succ room ih =>
    unfold sectorEntries at h
    split at h
    next =>
      split at h
      next => simp at h
      next he => exact ih h (gptEntry_fit hl he hr)
    next =>
      cases Option.some.inj h
      exact hr

variable {read : UInt32 → Option Sector}

theorem gptTable_fit (hl : g.lastUsable.toNat < 4294967296)
    (left : Nat) {s bytesLeft : Nat} {crc : UInt32} {r : UInt32 × List PartitionCandidate}
    (h : g.table read left s bytesLeft crc seen items = some r) (hr : ∀ c ∈ items, GptFit g c) :
    ∀ c ∈ r.2, GptFit g c := by
  induction left generalizing s bytesLeft seen crc items with
  | zero =>
    cases Option.some.inj h
    exact hr
  | succ left ih =>
    unfold table at h
    split at h
    next => simp at h
    next sector _ =>
      dsimp only at h
      split at h
      next => simp at h
      next he => exact ih h (sectorEntries_fit hl 4 he hr)

/-- A header that `discover_gpt` accepts on a disk with so many sectors. -/
structure GptHeader.Accepted (parentSectors : UInt32) (g : GptHeader) : Prop where
  last : g.lastUsable.toNat < parentSectors.toNat
  entries : 2 ≤ g.entriesLba.toNat
  entriesInside : g.entriesLba.toNat < parentSectors.toNat
  count : g.entryCount.toNat ≤ 128

theorem gptHeader_accepted {header : Sector} (h : gptHeader parentSectors header = some g) :
    g.Accepted parentSectors := by
  unfold gptHeader at h
  dsimp only at h
  split at h
  next => simp at h
  next =>
    split at h
    next => simp at h
    next hn =>
      split at h
      next => simp at h
      next =>
        cases Option.some.inj h
        push Not at hn
        obtain ⟨-, -, -, -, -, -, -, -, hlast, hentries, hinside, -, hcount, -⟩ := hn
        have h1 := UInt64.not_le.mp hlast
        have h2 := UInt64.not_lt.mp hentries
        have h3 := UInt64.not_le.mp hinside
        have h4 := UInt32.not_lt.mp hcount
        have h1' : (get64 header 48).toNat < parentSectors.toUInt64.toNat := h1
        have h3' : (get64 header 72).toNat < parentSectors.toUInt64.toNat := h3
        rw [UInt32.toNat_toUInt64] at h1' h3'
        exact ⟨h1', h2, h3', h4⟩

theorem GptHeader.tableSectors_le (h : g.entryCount.toNat ≤ 128) :
    g.tableSectors.toNat ≤ 32 := by
  have hb : g.tableBytes.toNat = g.entryCount.toNat * 128 := by
    unfold tableBytes
    rw [UInt64.toNat_mul, UInt32.toNat_toUInt64]
    change g.entryCount.toNat * 128 % 18446744073709551616 = _
    omega
  unfold tableSectors
  rw [UInt64.toNat_div, UInt64.toNat_add, hb]
  change (g.entryCount.toNat * 128 + 511) % 18446744073709551616 / 512 ≤ 32
  omega

theorem gptCandidates_fit (h : gptCandidates read parentSectors = some items) :
    ∃ g, readGptHeader read parentSectors = some g ∧ g.Accepted parentSectors ∧
      g.entriesLba.toNat + g.tableSectors.toNat ≤ g.firstUsable.toNat ∧
      (∀ c ∈ items, GptFit g c) ∧ candidatesValid items = true := by
  obtain ⟨g, hg, h⟩ := Option.bind_eq_some_iff.mp h
  have ha : g.Accepted parentSectors := by
    unfold readGptHeader at hg
    split at hg
    next => simp at hg
    next =>
      obtain ⟨header, -, hh⟩ := Option.bind_eq_some_iff.mp hg
      exact gptHeader_accepted hh
  have hn := parentSectors.toNat_lt
  have hlast := ha.last
  have hinside := ha.entriesInside
  have ht := tableSectors_le ha.count
  unfold candidates at h
  split at h
  next => simp at h
  next hfirst =>
    split at h
    next => simp at h
    next htable =>
      split at h
      next => simp at h
      next hn =>
        cases Option.some.inj h
        push Not at hn
        have hfit := gptTable_fit (by omega) _ htable (by simp)
        have hle : ¬ g.firstUsable.toNat < (g.entriesLba + g.tableSectors).toNat := hfirst
        rw [UInt64.toNat_add] at hle
        have hvalid : candidatesValid items = true := by simpa using hn.2
        exact ⟨g, hg, ha, by omega, hfit, hvalid⟩

end Gpt

/-- The sectors in front of a GPT candidate hold the MBR, the primary header and its table. -/
structure InUsableRange (g : GptHeader) (lba sectors : UInt32) : Prop where
  primary : 2 ≤ g.entriesLba.toNat ∧ g.entriesLba.toNat + g.tableSectors.toNat ≤ lba.toNat
  first : g.firstUsable.toNat ≤ lba.toNat
  last : lba.toNat + sectors.toNat ≤ g.lastUsable.toNat + 1

/-- What the tables of one disk may publish. -/
structure CandidatesFit (read : UInt32 → Option Sector) (parentSectors : UInt32)
    (items : List PartitionCandidate) : Prop where
  nonempty : ∀ c ∈ items, c.sectors ≠ 0
  inside : ∀ c ∈ items, c.firstLba.toNat + c.sectors.toNat ≤ parentSectors.toNat
  usable : ∀ c ∈ items, c.scheme = .gpt → ∃ g, readGptHeader read parentSectors = some g ∧
    InUsableRange g c.firstLba c.sectors
  apart : items.Pairwise fun a b => a.Before b ∨ b.Before a

variable {parentSectors : UInt32} {items : List PartitionCandidate}

variable {read : UInt32 → Option Sector}

theorem gptCandidates_candidatesFit (h : gptCandidates read parentSectors = some items) :
    CandidatesFit read parentSectors items := by
  obtain ⟨g, hg, ha, htable, hfit, hvalid⟩ := gptCandidates_fit h
  refine ⟨fun c hc => (hfit c hc).nonempty, fun c hc => ?_, fun c hc _ => ⟨g, hg, ?_⟩,
    candidatesValid_pairwise hvalid⟩
  · have hlast := (hfit c hc).last
    have hg := ha.last
    omega
  · have hfirst := (hfit c hc).first
    exact ⟨⟨ha.entries, by omega⟩, hfirst, (hfit c hc).last⟩

theorem mbrSlots_candidatesFit {sector : Sector}
    {r : Bool × List PartitionCandidate} (h : mbrSlots parentSectors sector = some r)
    (hvalid : candidatesValid r.2 = true) : CandidatesFit read parentSectors r.2 := by
  have hfit := mbrSlots_fit h
  refine ⟨fun c hc => (hfit c hc).nonempty, fun c hc => (hfit c hc).inside, fun c hc hs => ?_,
    candidatesValid_pairwise hvalid⟩
  have hm := (hfit c hc).scheme
  rw [hs] at hm
  cases hm

theorem partitionCandidates_fit {parent : Drive}
    (h : partitionCandidates read parent = some items) :
    (parent.type = .ata ∨ parent.type = .ahci) ∧ CandidatesFit read parent.sectors items := by
  unfold partitionCandidates at h
  split at h
  next => simp at h
  next hparent =>
    have htype : parent.type = .ata ∨ parent.type = .ahci := by
      by_contra hn
      exact hparent (Or.inl (not_or.mp hn))
    refine ⟨htype, ?_⟩
    obtain ⟨sector, -, h⟩ := Option.bind_eq_some_iff.mp h
    split at h
    next => simp at h
    next =>
      obtain ⟨r, hr, h⟩ := Option.bind_eq_some_iff.mp h
      split at h
      next =>
        split at h
        next => exact gptCandidates_candidatesFit h
        next => simp at h
      next =>
        split at h
        next hvalid =>
          cases Option.some.inj h
          exact mbrSlots_candidatesFit hr hvalid
        next => simp at h

end ReistOs
