import ReistOs.ArpBindingCache

namespace ReistOs.Arp

open Critical Plain

abbrev Mirrors (cache : List Object) (cells : List (Plain ArpBindingPayload)) : Prop :=
  List.Forall₂ (fun object cell =>
    payloadLayout.Keeps payloadValid cell.record cell.sequence object) cache cells

variable {cache : List Object} {cells : List (Plain ArpBindingPayload)}
  {due : ArpBindingPayload → Bool} {value : ArpBindingPayload}

theorem records_plain (cells : List (Plain ArpBindingPayload)) :
    (cells.map fun cell => (cell.record, ReadResult.ok)).map Prod.fst = cells.map record := by
  simp [Function.comp_def]

theorem readEntries_plain (cells : List (Plain ArpBindingPayload)) :
    readEntries plain cells = (some (cells.map fun cell => (cell.record, .ok)), cells) := by
  induction cells with
  | nil => rfl
  | cons cell cells ih =>
    have hread : plain.read cell = (some (cell.record, .ok), cell) := rfl
    simp only [readEntries, hread, ih, List.map_cons, Option.map_some]

theorem Mirrors.read (h : Mirrors cache cells) : ∃ entries cache',
    readEntries guarded cache = (some entries, cache') ∧
      entries.map Prod.fst = cells.map record ∧ Mirrors cache' cells := by
  induction h with
  | nil => exact ⟨[], [], rfl, rfl, .nil⟩
  | @cons _ cell _ _ hcell hcells ih =>
    obtain ⟨entries, cache', hfound, hentries, hmirrors⟩ := ih
    obtain ⟨result, -, object, hread, hkeeps⟩ := hcell.read
    refine ⟨(cell.record, result) :: entries, object :: cache', ?_, ?_, .cons hkeeps hmirrors⟩
    · simp only [readEntries, hread, hfound, Option.map_some]
    · simp only [List.map_cons, hentries]

theorem update_agrees {object : Object} {cell : Plain ArpBindingPayload}
    (h : payloadLayout.Keeps payloadValid cell.record cell.sequence object)
    (hvalid : payloadValid value = true) :
    ∃ object', guarded.update object value = ((plain.update cell value).1, object') ∧
      payloadLayout.Keeps payloadValid (plain.update cell value).2.record
        (plain.update cell value).2.sequence object' := by
  obtain ⟨hfull, hroom⟩ := h.update hvalid
  simp only [store]
  by_cases hnext : cell.sequence + 1 = 0
  · rw [if_pos hnext, hfull hnext]
    exact ⟨object, rfl, h⟩
  · obtain ⟨object', hupdate, hkeeps⟩ := hroom hnext
    rw [if_neg hnext, hupdate]
    exact ⟨object', rfl, hkeeps⟩

theorem Mirrors.write (h : Mirrors cache cells) (hvalid : payloadValid value = true) (slot : Nat) :
    (writeSlot guarded value slot cache).1 = (writeSlot plain value slot cells).1 ∧
      Mirrors (writeSlot guarded value slot cache).2 (writeSlot plain value slot cells).2 := by
  induction h generalizing slot with
  | nil => simp [writeSlot]
  | @cons object cell objects cells hcell hcells ih =>
    cases slot with
    | zero =>
      obtain ⟨object', hupdate, hkeeps⟩ := update_agrees hcell hvalid
      simp only [writeSlot, hupdate]
      rcases hplain : plain.update cell value with ⟨ok, cell'⟩
      rw [hplain] at hkeeps
      cases ok with
      | true => exact ⟨rfl, .cons hkeeps hcells⟩
      | false => exact ⟨rfl, .cons hkeeps hcells⟩
    | succ slot => exact ⟨(ih slot).1, .cons hcell (ih slot).2⟩

theorem payloadValid_expired {entry : ArpBindingPayload} (h : payloadValid entry = true)
    (hstate : entry.state = arpBindingValid) : payloadValid (expired entry) = true := by
  unfold payloadValid at h ⊢
  have hold : entry.state ≠ arpBindingEmpty := by
    rw [hstate]
    decide
  have hnew : (expired entry).state ≠ arpBindingEmpty := by
    show arpBindingExpired ≠ arpBindingEmpty
    decide
  have hlive : ¬ (entry.state ≠ arpBindingValid ∧ entry.state ≠ arpBindingExpired) :=
    fun h => h.1 hstate
  have hdead : ¬ ((expired entry).state ≠ arpBindingValid ∧
      (expired entry).state ≠ arpBindingExpired) := fun h => h.2 rfl
  rw [if_neg hold, if_neg hlive] at h
  rw [if_neg hnew, if_neg hdead]
  exact h

theorem live_valid {entry : ArpBindingPayload} (h : payloadValid entry = true)
    (hused : entry.state ≠ arpBindingEmpty) (hlive : entry.state ≠ arpBindingExpired) :
    entry.state = arpBindingValid := by
  by_contra hne
  have hother : entry.state ≠ arpBindingValid ∧ entry.state ≠ arpBindingExpired := ⟨hne, hlive⟩
  unfold payloadValid at h
  rw [if_neg hused, if_pos hother] at h
  simp at h

theorem Mirrors.expire (h : Mirrors cache cells)
    (hdue : ∀ entry, due entry = true → entry.state = arpBindingValid) :
    ∃ cache', expireEntries guarded due cache (cells.map record) =
        ((expireEntries plain due cells (cells.map record)).1, cache') ∧
      Mirrors cache' (expireEntries plain due cells (cells.map record)).2 := by
  induction h with
  | nil => exact ⟨[], rfl, .nil⟩
  | @cons object cell objects cells hcell hcells ih =>
    obtain ⟨cache', hfound, hmirrors⟩ := ih
    simp only [List.map_cons, expireEntries]
    split
    next hnow =>
      have hvalid := payloadValid_expired hcell.passes (hdue _ hnow)
      obtain ⟨object', hupdate, hkeeps⟩ := update_agrees hcell hvalid
      simp only [hupdate]
      rcases hplain : plain.update cell (expired cell.record) with ⟨ok, cell'⟩
      rw [hplain] at hkeeps
      cases ok with
      | true =>
        simp only [hfound]
        exact ⟨_, rfl, .cons hkeeps hmirrors⟩
      | false => exact ⟨_, rfl, .cons hkeeps hcells⟩
    next =>
      simp only [hfound]
      exact ⟨_, rfl, .cons hcell hmirrors⟩

theorem Mirrors.lookup (h : Mirrors cache cells) (ip : UInt32) (nowMs : UInt64) :
    (lookupFrom guarded ip nowMs cache).1 = (lookupFrom plain ip nowMs cells).1 ∧
      Mirrors (lookupFrom guarded ip nowMs cache).2 (lookupFrom plain ip nowMs cells).2 := by
  induction h with
  | nil => exact ⟨rfl, .nil⟩
  | @cons object cell objects cells hcell hcells ih =>
    obtain ⟨result, -, object', hread, hkeeps⟩ := hcell.read
    have hplain : plain.read cell = (some (cell.record, .ok), cell) := rfl
    simp only [lookupFrom, hread, hplain]
    split
    next => exact ⟨ih.1, .cons hkeeps ih.2⟩
    next hmine =>
      split
      next => exact ⟨rfl, .cons hkeeps hcells⟩
      next hlive =>
        split
        next =>
          have hstate := live_valid hcell.passes (not_or.mp hmine).1 hlive
          obtain ⟨object'', hupdate, hkeeps'⟩ :=
            update_agrees hkeeps (payloadValid_expired hcell.passes hstate)
          simp only [hupdate]
          rcases hdone : plain.update cell (expired cell.record) with ⟨ok, cell'⟩
          rw [hdone] at hkeeps'
          cases ok with
          | true => exact ⟨rfl, .cons hkeeps' hcells⟩
          | false => exact ⟨rfl, .cons hkeeps' hcells⟩
        next => exact ⟨rfl, .cons hkeeps hcells⟩

theorem Mirrors.revoke (h : Mirrors cache cells)
    (hdue : ∀ entry, due entry = true → entry.state = arpBindingValid) :
    (revokeEntries guarded due cache).1 = (revokeEntries plain due cells).1 ∧
      Mirrors (revokeEntries guarded due cache).2 (revokeEntries plain due cells).2 := by
  obtain ⟨entries, cache', hread, hentries, hmirrors⟩ := h.read
  obtain ⟨cache'', hexpire, hmirrors⟩ := hmirrors.expire hdue
  simp only [revokeEntries, hread, hentries, hexpire, readEntries_plain, records_plain]
  generalize expireEntries plain due cells (cells.map record) = outcome at hmirrors ⊢
  rcases outcome with ⟨_ | count, cells'⟩
  · exact ⟨rfl, hmirrors⟩
  · exact ⟨rfl, hmirrors⟩

variable {sourcePid : Int32} {sourceGeneration ip : UInt32}

theorem ownedBy_valid (entry : ArpBindingPayload)
    (h : ownedBy sourcePid sourceGeneration entry = true) : entry.state = arpBindingValid := by
  simp only [ownedBy, Bool.and_eq_true, beq_iff_eq] at h
  exact h.1.1

theorem boundTo_valid (entry : ArpBindingPayload) (h : boundTo ip entry = true) :
    entry.state = arpBindingValid := by
  simp only [boundTo, Bool.and_eq_true, beq_iff_eq] at h
  exact h.1

theorem overdue_valid {nowMs : UInt64} (entry : ArpBindingPayload)
    (h : overdue nowMs entry = true) : entry.state = arpBindingValid := by
  simp only [overdue, Bool.and_eq_true, beq_iff_eq] at h
  exact h.1

theorem committedPayload_valid {mac : Option Mac} {transactionEpoch : UInt32} {leaseMs : UInt32}
    (nowMs : UInt64)
    (h : ¬ commitRefused ip mac transactionEpoch sourcePid sourceGeneration leaseMs = true) :
    payloadValid (committedPayload ip mac transactionEpoch sourcePid sourceGeneration nowMs
      leaseMs) = true := by
  cases mac with
  | none => simp [commitRefused] at h
  | some mac =>
    simp only [commitRefused, Option.isNone_some, Option.all_some, Bool.or_false, Bool.or_eq_true,
      beq_iff_eq, decide_eq_true_eq, Bool.not_eq_true', not_or, Bool.not_eq_false] at h
    obtain ⟨⟨⟨⟨⟨hip, hepoch⟩, hpid⟩, hgeneration⟩, -⟩, hmac⟩ := h
    have hpos : 0 < sourcePid := Int32.not_le.mp hpid
    simp [payloadValid, committedPayload, arpBindingValid, arpBindingEmpty, hip, hepoch, hpos,
      hgeneration, hmac]

theorem Mirrors.perform (h : Mirrors cache cells) (call : ArpCall) :
    (call.perform guarded cache).1 = (call.perform plain cells).1 ∧
      Mirrors (call.perform guarded cache).2 (call.perform plain cells).2 := by
  cases call with
  | commit ip mac transactionEpoch sourcePid sourceGeneration nowMs leaseMs =>
    simp only [ArpCall.perform, supervisedArpCacheCommit]
    split
    next => exact ⟨rfl, h⟩
    next hargs =>
      obtain ⟨entries, cache', hread, hentries, hmirrors⟩ := h.read
      simp only [hread, hentries, readEntries_plain, records_plain]
      cases selectSlot ip (cells.map record) 0 none none with
      | none => exact ⟨rfl, hmirrors⟩
      | some slot =>
        obtain ⟨hresult, hmirrors⟩ := hmirrors.write (committedPayload_valid nowMs hargs) slot
        simp only [hresult]
        exact ⟨trivial, hmirrors⟩
  | revokeIdentity sourcePid sourceGeneration =>
    simp only [ArpCall.perform, supervisedArpCacheRevokeIdentity]
    split
    next => exact ⟨rfl, h⟩
    next =>
      obtain ⟨hresult, hmirrors⟩ := h.revoke (@ownedBy_valid sourcePid sourceGeneration)
      simp only [hresult]
      exact ⟨trivial, hmirrors⟩
  | revokeIp ip =>
    simp only [ArpCall.perform, supervisedArpCacheRevokeIp]
    split
    next => exact ⟨rfl, h⟩
    next =>
      obtain ⟨hresult, hmirrors⟩ := h.revoke (@boundTo_valid ip)
      simp only [hresult]
      exact ⟨trivial, hmirrors⟩
  | scrub nowMs out =>
    simp only [ArpCall.perform, supervisedArpCacheScrub]
    split
    next => exact ⟨rfl, h⟩
    next =>
      obtain ⟨entries, cache', hread, hentries, hmirrors⟩ := h.read
      obtain ⟨cache'', hexpire, hmirrors⟩ := hmirrors.expire (@overdue_valid nowMs)
      simp only [hread, hentries, hexpire, readEntries_plain, records_plain]
      generalize expireEntries plain (overdue nowMs) cells (cells.map record) = outcome
        at hmirrors ⊢
      rcases outcome with ⟨_ | count, cells'⟩
      · exact ⟨rfl, hmirrors⟩
      · exact ⟨rfl, hmirrors⟩
  | lookup ip nowMs out =>
    simp only [ArpCall.perform, supervisedArpCacheLookup]
    split
    next => exact ⟨rfl, h⟩
    next =>
      obtain ⟨hresult, hmirrors⟩ := h.lookup ip nowMs
      simp only [hresult]
      exact ⟨trivial, hmirrors⟩

theorem Mirrors.fault (h : Mirrors cache cells) (slot : Nat) (shadow : Bool) (copy : Copy) :
    Mirrors (cache.modify slot (payloadLayout.strike payloadValid · shadow copy)) cells := by
  induction h generalizing slot with
  | nil => simp [Mirrors]
  | cons hcell hcells ih =>
    cases slot with
    | zero =>
      rw [List.modify_zero_cons]
      exact .cons (hcell.strike shadow copy) hcells
    | succ slot =>
      rw [List.modify_succ_cons]
      exact .cons hcell (ih slot)

theorem init_mirrors (cells : List Object) : (supervisedArpCacheInit guarded cells).1 = 0 ∧
    Mirrors (supervisedArpCacheInit guarded cells).2
      (cells.map fun _ => ⟨emptyPayload, 1⟩) := by
  induction cells with
  | nil => exact ⟨rfl, .nil⟩
  | cons cell cells ih =>
    have hvalid : payloadValid emptyPayload = true := by decide
    obtain ⟨object, hstored, hkeeps⟩ := payloadLayout.init_keeps hvalid cell
    simp only [supervisedArpCacheInit, hstored]
    exact ⟨ih.1, .cons hkeeps ih.2⟩

theorem Mirrors.bindings (h : Mirrors cache cells) :
    bindings guarded cache = cells.map fun cell => some cell.record := by
  induction h with
  | nil => rfl
  | cons hcell hcells ih =>
    obtain ⟨result, -, object, hread, -⟩ := hcell.read
    unfold Arp.bindings at ih ⊢
    rw [List.map_cons, ih, hread]
    rfl

end ReistOs.Arp
