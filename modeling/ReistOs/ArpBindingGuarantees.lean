import ReistOs.ArpBindingRuns

namespace ReistOs.Arp

open Critical ArpCall Plain

abbrev Used (cell : Plain ArpBindingPayload) : Prop := cell.record.state ≠ arpBindingEmpty

section Slots

variable {cells cells' : List (Plain ArpBindingPayload)} {h : ArpHistory} {ip : UInt32}
  {event : ArpCall × ArpReply}

def Distinct (cells : List (Plain ArpBindingPayload)) : Prop :=
  ∀ (i j : Nat) (a b : Plain ArpBindingPayload), cells[i]? = some a → cells[j]? = some b →
    Used a → Used b → a.record.ip = b.record.ip → i = j

structure Sound (h : ArpHistory) (cells : List (Plain ArpBindingPayload)) : Prop where
  length : cells.length = supervisedArpCacheSize
  distinct : Distinct cells
  fresh : ∀ cell ∈ cells, ¬ Used cell → cell.sequence = 1
  stands : ∀ cell ∈ cells, cell.record.state = arpBindingValid → h.Stands cell.record
  owed : ∀ cell ∈ cells, Used cell → cell.record.ip ∈ h.addresses
  kept : ∀ ip ∈ h.addresses, ∃ cell ∈ cells, Used cell ∧ cell.record.ip = ip

def Faded (cell cell' : Plain ArpBindingPayload) : Prop :=
  cell' = cell ∨ cell.record.state = arpBindingValid ∧ cell'.record = expired cell.record

theorem Faded.used {cell cell' : Plain ArpBindingPayload} (hfade : Faded cell cell') :
    (Used cell' ↔ Used cell) ∧ cell'.record.ip = cell.record.ip := by
  rcases hfade with rfl | ⟨hvalid, hrecord⟩
  · exact ⟨Iff.rfl, rfl⟩
  · have hold : Used cell := by
      rw [Used, hvalid]
      decide
    have hnew : Used cell' := by
      rw [Used, hrecord]
      show arpBindingExpired ≠ arpBindingEmpty
      decide
    rw [hrecord]
    exact ⟨iff_of_true hnew hold, rfl⟩

theorem Faded.live {cell cell' : Plain ArpBindingPayload} (hfade : Faded cell cell')
    (hlive : cell'.record.state = arpBindingValid) : cell' = cell := by
  rcases hfade with hsame | ⟨-, hrecord⟩
  · exact hsame
  · rw [hrecord] at hlive
    exact absurd hlive (show arpBindingExpired ≠ arpBindingValid by decide)

variable {cell : Plain ArpBindingPayload} {p : ArpBindingPayload}

theorem Distinct.tail (hd : Distinct (cell :: cells)) : Distinct cells := by
  intro i j a b ha hb hua hub hip
  have hij := hd (i + 1) (j + 1) a b (by simpa using ha) (by simpa using hb) hua hub hip
  omega

theorem Distinct.head {cell other : Plain ArpBindingPayload} (hd : Distinct (cell :: cells))
    (hused : Used cell) (hother : other ∈ cells) (hu : Used other) :
    other.record.ip ≠ cell.record.ip := by
  intro hip
  obtain ⟨i, hi⟩ := List.mem_iff_getElem?.mp hother
  have hzero := hd (i + 1) 0 other cell (by simpa using hi) rfl hu hused hip
  omega

theorem addresses_snoc (h : ArpHistory) (event : ArpCall × ArpReply) :
    ArpHistory.addresses (h ++ [event]) = h.addresses ∪ (committedAddress event).toFinset := by
  unfold ArpHistory.addresses
  cases hevent : committedAddress event with
  | none => simp [hevent]
  | some ip => simp [hevent]

theorem ArpHistory.Stands.snoc (hs : h.Stands p)
    (hevent : ¬ Retracts p event) : ArpHistory.Stands (h ++ [event]) p := by
  obtain ⟨before, after, transactionEpoch, nowMs, leaseMs, rfl, hdeadline, hafter⟩ := hs
  refine ⟨before, after ++ [event], transactionEpoch, nowMs, leaseMs, ?_, hdeadline, ?_⟩
  · simp
  · intro e he
    rcases List.mem_append.mp he with he | he
    · exact hafter e he
    · rw [List.mem_singleton.mp he]
      exact hevent

theorem Sound.fade (hs : Sound h cells) (hfade : List.Forall₂ Faded cells cells')
    (hnone : committedAddress event = none)
    (hevent : ∀ cell ∈ cells', cell.record.state = arpBindingValid →
      ¬ Retracts cell.record event) : Sound (h ++ [event]) cells' := by
  have haddresses : ArpHistory.addresses (h ++ [event]) = h.addresses := by
    rw [addresses_snoc, hnone]
    simp
  have hback : ∀ (i : Nat) (b : Plain ArpBindingPayload), cells'[i]? = some b →
      ∃ a, cells[i]? = some a ∧ Faded a b := by
    intro i b hb
    obtain ⟨hlt, rfl⟩ := List.getElem?_eq_some_iff.mp hb
    have hlt' : i < cells.length := by
      rw [hfade.length_eq]
      exact hlt
    exact ⟨_, List.getElem?_eq_getElem hlt', hfade.get hlt' hlt⟩
  have hmem : ∀ b ∈ cells', ∃ a ∈ cells, Faded a b := by
    intro b hb
    obtain ⟨i, hi⟩ := List.mem_iff_getElem?.mp hb
    obtain ⟨a, ha, hab⟩ := hback i b hi
    exact ⟨a, List.mem_of_getElem? ha, hab⟩
  constructor
  · rw [← hfade.length_eq]
    exact hs.length
  · intro i j a b ha hb hua hub hip
    obtain ⟨a', ha', hfa⟩ := hback i a ha
    obtain ⟨b', hb', hfb⟩ := hback j b hb
    refine hs.distinct i j a' b' ha' hb' (hfa.used.1.mp hua) (hfb.used.1.mp hub) ?_
    rw [← hfa.used.2, ← hfb.used.2]
    exact hip
  · intro b hb hunused
    obtain ⟨a, ha, hab⟩ := hmem b hb
    rcases hab with rfl | ⟨hvalid, hrecord⟩
    · exact hs.fresh b ha hunused
    · refine absurd ?_ hunused
      rw [Used, hrecord]
      show arpBindingExpired ≠ arpBindingEmpty
      decide
  · intro b hb hlive
    obtain ⟨a, ha, hab⟩ := hmem b hb
    obtain rfl := hab.live hlive
    exact (hs.stands b ha hlive).snoc (hevent b hb hlive)
  · intro b hb hused
    obtain ⟨a, ha, hab⟩ := hmem b hb
    rw [haddresses, hab.used.2]
    exact hs.owed a ha (hab.used.1.mp hused)
  · intro ip hip
    rw [haddresses] at hip
    obtain ⟨a, ha, hused, hat⟩ := hs.kept ip hip
    obtain ⟨i, hi⟩ := List.mem_iff_getElem?.mp ha
    obtain ⟨hlt, rfl⟩ := List.getElem?_eq_some_iff.mp hi
    have hlt' : i < cells'.length := by
      rw [← hfade.length_eq]
      exact hlt
    have hab := hfade.get hlt hlt'
    exact ⟨_, List.getElem_mem hlt', hab.used.1.mpr hused, hab.used.2.trans hat⟩

theorem faded_refl (cells : List (Plain ArpBindingPayload)) : List.Forall₂ Faded cells cells := by
  induction cells with
  | nil => exact .nil
  | cons cell cells ih => exact .cons (.inl rfl) ih

theorem plain_update (cell : Plain ArpBindingPayload) (value : ArpBindingPayload) :
    plain.update cell value = (true, ⟨value, cell.sequence + 1⟩) ∨
      cell.sequence + 1 = 0 ∧ plain.update cell value = (false, cell) := by
  by_cases hnext : cell.sequence + 1 = 0
  · exact .inr ⟨hnext, if_pos hnext⟩
  · exact .inl (if_neg hnext)

theorem expireEntries_faded {due : ArpBindingPayload → Bool}
    (hdue : ∀ entry, due entry = true → entry.state = arpBindingValid)
    (cells : List (Plain ArpBindingPayload)) :
    List.Forall₂ Faded cells (expireEntries plain due cells (cells.map record)).2 ∧
      ((expireEntries plain due cells (cells.map record)).1.isSome → ∀ cell ∈
        (expireEntries plain due cells (cells.map record)).2, due cell.record = false) := by
  induction cells with
  | nil => exact ⟨.nil, fun _ cell hcell => by cases hcell⟩
  | cons cell cells ih =>
    obtain ⟨hfade, hdone⟩ := ih
    simp only [List.map_cons, expireEntries]
    rcases hrest : expireEntries plain due cells (cells.map record) with ⟨found, cells'⟩
    rw [hrest] at hfade hdone
    split
    next hnow =>
      rcases plain_update cell (expired cell.record) with hstored | ⟨-, hstored⟩
      · simp only [hstored]
        refine ⟨.cons (.inr ⟨hdue _ hnow, rfl⟩) hfade, fun hsome => ?_⟩
        rw [Option.isSome_map] at hsome
        intro other hother
        rcases List.mem_cons.mp hother with rfl | hother
        · by_contra hstill
          have hstate := hdue _ (Bool.eq_true_of_not_eq_false hstill)
          exact absurd hstate (show arpBindingExpired ≠ arpBindingValid by decide)
        · exact hdone hsome other hother
      · simp only [hstored]
        exact ⟨.cons (.inl rfl) (faded_refl cells), fun hsome => by simp at hsome⟩
    next hnot =>
      refine ⟨.cons (.inl rfl) hfade, fun hsome => ?_⟩
      rw [Option.isSome_map] at hsome
      intro other hother
      rcases List.mem_cons.mp hother with rfl | hother
      · exact Bool.eq_false_of_not_eq_true hnot
      · exact hdone hsome other hother

theorem lookupFrom_faded (ip : UInt32) (nowMs : UInt64)
    (cells : List (Plain ArpBindingPayload))
    (hpasses : ∀ cell ∈ cells, payloadValid cell.record = true) (hd : Distinct cells) :
    List.Forall₂ Faded cells (lookupFrom plain ip nowMs cells).2 ∧
      ((lookupFrom plain ip nowMs cells).1 = .blocked →
        ∀ cell ∈ (lookupFrom plain ip nowMs cells).2, cell.record.state = arpBindingValid →
          ip ≠ cell.record.ip) ∧
      ((lookupFrom plain ip nowMs cells).1 = .integrityFailure →
        (lookupFrom plain ip nowMs cells).2 = cells) ∧
      ∀ mac, (lookupFrom plain ip nowMs cells).1 = .hit mac → ∃ cell ∈ cells,
        cell.record.state = arpBindingValid ∧ cell.record.ip = ip ∧ cell.record.mac = mac ∧
          nowMs < cell.record.deadlineMs := by
  induction cells with
  | nil => exact ⟨.nil, fun h => (by cases h), fun _ => rfl, fun _ h => (by cases h)⟩
  | cons cell cells ih =>
    obtain ⟨hfade, hblocked, hfailed, hhit⟩ :=
      ih (fun c hc => hpasses c (List.mem_cons_of_mem _ hc)) hd.tail
    have hread : plain.read cell = (some (cell.record, .ok), cell) := rfl
    have hcell := hpasses cell List.mem_cons_self
    simp only [lookupFrom, hread]
    split
    next hother =>
      refine ⟨.cons (.inl rfl) hfade, fun hb c hc hlive => ?_, fun hf => ?_, fun mac hm => ?_⟩
      · rcases List.mem_cons.mp hc with rfl | hc
        · rcases hother with hempty | hne
          · rw [hempty] at hlive
            cases hlive
          · exact fun h => hne h.symm
        · exact hblocked hb c hc hlive
      · rw [hfailed hf]
      · obtain ⟨c, hc, hfound⟩ := hhit mac hm
        exact ⟨c, List.mem_cons_of_mem _ hc, hfound⟩
    next hmine =>
      obtain ⟨hused, hip⟩ := not_or.mp hmine
      have hat : cell.record.ip = ip := not_not.mp hip
      have hrest : ∀ c ∈ cells, c.record.state = arpBindingValid → ip ≠ c.record.ip := by
        intro c hc hlive h
        refine hd.head hused hc ?_ (h.symm.trans hat.symm)
        rw [Used, hlive]
        decide
      split
      next hexpired =>
        refine ⟨faded_refl _, fun _ c hc hlive => ?_, fun h => (by cases h),
          fun _ hm => (by cases hm)⟩
        rcases List.mem_cons.mp hc with rfl | hc
        · rw [hexpired] at hlive
          cases hlive
        · exact hrest c hc hlive
      next hlive =>
        have hvalid := live_valid hcell hused hlive
        split
        next =>
          rcases plain_update cell (expired cell.record) with hstored | ⟨-, hstored⟩
          · simp only [hstored]
            refine ⟨.cons (.inr ⟨hvalid, rfl⟩) (faded_refl cells), fun _ c hc hstate => ?_,
              fun h => (by cases h), fun _ hm => (by cases hm)⟩
            rcases List.mem_cons.mp hc with rfl | hc
            · exact absurd hstate (show arpBindingExpired ≠ arpBindingValid by decide)
            · exact hrest c hc hstate
          · simp only [hstored]
            exact ⟨faded_refl _, fun h => (by cases h), fun _ => trivial,
              fun _ hm => (by cases hm)⟩
        next hdeadline =>
          refine ⟨faded_refl _, fun h => (by cases h), fun _ => rfl, fun mac hm => ?_⟩
          cases hm
          exact ⟨cell, List.mem_cons_self, hvalid, hat, rfl, UInt64.not_le.mp hdeadline⟩

theorem selectSlot_spec (ip : UInt32) (entries : List ArpBindingPayload) (i : Nat)
    (selected unused : Option Nat) :
    (∃ j entry, entries[j]? = some entry ∧ entry.state ≠ arpBindingEmpty ∧ entry.ip = ip ∧
      selectSlot ip entries i selected unused = some (i + j)) ∨
    (∀ entry ∈ entries, entry.state ≠ arpBindingEmpty → entry.ip ≠ ip) ∧
      ((∃ j entry, unused = none ∧ entries[j]? = some entry ∧ entry.state = arpBindingEmpty ∧
          selectSlot ip entries i selected unused = selected.or (some (i + j))) ∨
        (unused = none → ∀ entry ∈ entries, entry.state ≠ arpBindingEmpty) ∧
          selectSlot ip entries i selected unused = selected.or unused) := by
  induction entries generalizing i selected unused with
  | nil => exact .inr ⟨by simp, .inr ⟨by simp, rfl⟩⟩
  | cons entry entries ih =>
    simp only [selectSlot]
    rcases ih (i + 1) (if entry.state ≠ arpBindingEmpty ∧ entry.ip = ip then some i else selected)
      (if entry.state = arpBindingEmpty ∧ unused = none then some i else unused) with
      ⟨j, e, he, hused, hip, hslot⟩ | ⟨hnone, hunused⟩
    · exact .inl ⟨j + 1, e, by simpa using he, hused, hip, by rw [hslot]; congr 1; omega⟩
    · by_cases hmine : entry.state ≠ arpBindingEmpty ∧ entry.ip = ip
      · refine .inl ⟨0, entry, rfl, hmine.1, hmine.2, ?_⟩
        rw [if_pos hmine] at hunused
        rw [if_pos hmine]
        rcases hunused with ⟨j, e, -, -, -, hslot⟩ | ⟨-, hslot⟩
        · exact hslot
        · exact hslot
      · rw [if_neg hmine] at hunused ⊢
        have hall : ∀ e ∈ entry :: entries, e.state ≠ arpBindingEmpty → e.ip ≠ ip := by
          intro e he hused hip
          rcases List.mem_cons.mp he with rfl | he
          · exact hmine ⟨hused, hip⟩
          · exact hnone e he hused hip
        refine .inr ⟨hall, ?_⟩
        by_cases hfirst : entry.state = arpBindingEmpty ∧ unused = none
        · rw [if_pos hfirst] at hunused ⊢
          rcases hunused with ⟨j, e, hno, -⟩ | ⟨-, hslot⟩
          · cases hno
          · exact .inl ⟨0, entry, hfirst.2, rfl, hfirst.1, hslot⟩
        · rw [if_neg hfirst] at hunused ⊢
          rcases hunused with ⟨j, e, hno, he, hempty, hslot⟩ | ⟨hfull, hslot⟩
          · refine .inl ⟨j + 1, e, hno, by simpa using he, hempty, ?_⟩
            rw [hslot]
            congr 2
            omega
          · refine .inr ⟨fun hno e he => ?_, hslot⟩
            rcases List.mem_cons.mp he with rfl | he
            · exact fun hempty => hfirst ⟨hempty, hno⟩
            · exact hfull hno e he

theorem selectSlot_cases (ip : UInt32) (cells : List (Plain ArpBindingPayload)) :
    (∃ slot cell, cells[slot]? = some cell ∧ Used cell ∧ cell.record.ip = ip ∧
      selectSlot ip (cells.map record) 0 none none = some slot) ∨
    (∀ cell ∈ cells, Used cell → cell.record.ip ≠ ip) ∧
      ((∃ slot cell, cells[slot]? = some cell ∧ ¬ Used cell ∧
          selectSlot ip (cells.map record) 0 none none = some slot) ∨
        (∀ cell ∈ cells, Used cell) ∧
          selectSlot ip (cells.map record) 0 none none = none) := by
  have hmem : ∀ cell ∈ cells, cell.record ∈ cells.map record :=
    fun cell hcell => List.mem_map_of_mem hcell
  rcases selectSlot_spec ip (cells.map record) 0 none none with
    ⟨j, entry, hentry, hused, hip, hslot⟩ | ⟨hnone, ⟨j, entry, -, hentry, hempty, hslot⟩ | ⟨hfull, hslot⟩⟩
  · rw [List.getElem?_map] at hentry
    obtain ⟨cell, hcell, rfl⟩ := Option.map_eq_some_iff.mp hentry
    exact .inl ⟨j, cell, hcell, hused, hip, by rw [hslot, Nat.zero_add]⟩
  · rw [List.getElem?_map] at hentry
    obtain ⟨cell, hcell, rfl⟩ := Option.map_eq_some_iff.mp hentry
    refine .inr ⟨fun c hc hused => hnone _ (hmem c hc) hused, .inl ⟨j, cell, hcell, ?_, ?_⟩⟩
    · exact fun hused => hused hempty
    · rw [hslot, Nat.zero_add]
      rfl
  · exact .inr ⟨fun c hc hused => hnone _ (hmem c hc) hused,
      .inr ⟨fun c hc => hfull rfl _ (hmem c hc), hslot⟩⟩

theorem writeSlot_plain {value : ArpBindingPayload} {slot : Nat}
    (hcell : cells[slot]? = some cell) :
    writeSlot plain value slot cells =
      if cell.sequence + 1 = 0 then (-2, cells)
      else (0, cells.set slot ⟨value, cell.sequence + 1⟩) := by
  induction cells generalizing slot with
  | nil => simp at hcell
  | cons first cells ih =>
    cases slot with
    | zero =>
      obtain rfl : first = cell := by simpa using hcell
      simp only [writeSlot]
      by_cases hnext : first.sequence + 1 = 0
      · have hstored : plain.update first value = (false, first) := if_pos hnext
        rw [if_pos hnext, hstored]
      · have hstored : plain.update first value = (true, ⟨value, first.sequence + 1⟩) :=
          if_neg hnext
        rw [if_neg hnext, hstored]
        rfl
    | succ slot =>
      have hrest := @ih slot (by simpa using hcell)
      simp only [writeSlot, hrest]
      split
      next => rfl
      next => rfl

theorem Sound.commit (hs : Sound h cells) {slot : Nat}
    {sequence transactionEpoch leaseMs : UInt32} {nowMs : UInt64}
    (hp : p.state = arpBindingValid) (hdeadline : p.deadlineMs = bindingDeadline nowMs leaseMs)
    (hcell : cells[slot]? = some cell)
    (hslot : Used cell ∧ cell.record.ip = p.ip ∨
      ¬ Used cell ∧ ∀ other ∈ cells, Used other → other.record.ip ≠ p.ip) :
    Sound (h ++ [(.commit p.ip (some p.mac) transactionEpoch p.sourcePid p.sourceGeneration nowMs
      leaseMs, .code 0)]) (cells.set slot ⟨p, sequence⟩) := by
  have hused : p.state ≠ arpBindingEmpty := by
    rw [hp]
    decide
  have hlt : slot < cells.length := (List.getElem?_eq_some_iff.mp hcell).1
  have haddress : committedAddress (.commit p.ip (some p.mac) transactionEpoch p.sourcePid
      p.sourceGeneration nowMs leaseMs, .code 0) = some p.ip := rfl
  have hat : ∀ (i : Nat) (c : Plain ArpBindingPayload),
      (cells.set slot ⟨p, sequence⟩)[i]? = some c →
        i = slot ∧ c = ⟨p, sequence⟩ ∨ i ≠ slot ∧ cells[i]? = some c := by
    intro i c hc
    by_cases hi : i = slot
    · subst hi
      rw [List.getElem?_set_self hlt] at hc
      exact .inl ⟨rfl, (Option.some.inj hc).symm⟩
    · rw [List.getElem?_set_ne (Ne.symm hi)] at hc
      exact .inr ⟨hi, hc⟩
  have hfree : ∀ (i : Nat) (c : Plain ArpBindingPayload), i ≠ slot → cells[i]? = some c → Used c →
      c.record.ip ≠ p.ip := by
    intro i c hi hc huc hip
    rcases hslot with ⟨hu, hmine⟩ | ⟨-, hnone⟩
    · exact hi (hs.distinct i slot c cell hc hcell huc hu (hip.trans hmine.symm))
    · exact hnone c (List.mem_of_getElem? hc) huc hip
  have hnew : (⟨p, sequence⟩ : Plain ArpBindingPayload) ∈ cells.set slot ⟨p, sequence⟩ :=
    List.mem_of_getElem? (List.getElem?_set_self hlt)
  have hmem : ∀ c ∈ cells.set slot ⟨p, sequence⟩, c = ⟨p, sequence⟩ ∨
      ∃ i, i ≠ slot ∧ cells[i]? = some c := by
    intro c hc
    obtain ⟨i, hi⟩ := List.mem_iff_getElem?.mp hc
    rcases hat i c hi with ⟨-, hc⟩ | ⟨hne, hc⟩
    · exact .inl hc
    · exact .inr ⟨i, hne, hc⟩
  constructor
  · rw [List.length_set]
    exact hs.length
  · intro i j a b ha hb hua hub hip
    rcases hat i a ha with ⟨rfl, rfl⟩ | ⟨hi, hia⟩
    · rcases hat j b hb with ⟨rfl, -⟩ | ⟨hj, hjb⟩
      · rfl
      · exact absurd hip.symm (hfree j b hj hjb hub)
    · rcases hat j b hb with ⟨rfl, rfl⟩ | ⟨hj, hjb⟩
      · exact absurd hip (hfree i a hi hia hua)
      · exact hs.distinct i j a b hia hjb hua hub hip
  · intro c hc hunused
    rcases hmem c hc with rfl | ⟨i, -, hi⟩
    · exact absurd hused hunused
    · exact hs.fresh c (List.mem_of_getElem? hi) hunused
  · intro c hc hlive
    rcases hmem c hc with rfl | ⟨i, hi, hc'⟩
    · exact ⟨h, [], transactionEpoch, nowMs, leaseMs, rfl, hdeadline, fun _ he => by cases he⟩
    · refine (hs.stands c (List.mem_of_getElem? hc') hlive).snoc ?_
      intro hretract
      refine hfree i c hi hc' ?_ hretract.2.symm
      rw [Used, hlive]
      decide
  · intro c hc huc
    rw [addresses_snoc, haddress, Finset.mem_union]
    rcases hmem c hc with rfl | ⟨i, -, hi⟩
    · right
      simp
    · exact .inl (hs.owed c (List.mem_of_getElem? hi) huc)
  · intro ip hip
    rw [addresses_snoc, haddress, Finset.mem_union] at hip
    by_cases hmine : ip = p.ip
    · exact ⟨_, hnew, hused, hmine.symm⟩
    · have hold : ip ∈ h.addresses := by
        rcases hip with hip | hip
        · exact hip
        · simp only [Option.toFinset_some, Finset.mem_singleton] at hip
          exact absurd hip hmine
      obtain ⟨c, hc, huc, hcip⟩ := hs.kept ip hold
      obtain ⟨i, hi⟩ := List.mem_iff_getElem?.mp hc
      have hne : i ≠ slot := by
        rintro rfl
        obtain rfl : cell = c := Option.some.inj (hcell.symm.trans hi)
        rcases hslot with ⟨-, hat⟩ | ⟨hno, -⟩
        · exact hmine (hcip.symm.trans hat)
        · exact hno huc
      refine ⟨c, List.mem_of_getElem? (i := i) ?_, huc, hcip⟩
      rw [List.getElem?_set_ne (Ne.symm hne)]
      exact hi

theorem Sound.room (hs : Sound h cells) :
    (∃ cell ∈ cells, ¬ Used cell) ↔ h.addresses.card < supervisedArpCacheSize := by
  have hlength := hs.length
  let address : Fin cells.length → UInt32 := fun i => cells[i].record.ip
  have hget : ∀ i : Fin cells.length, cells[i.val]? = some cells[i] := fun i => by simp
  constructor
  · rintro ⟨cell, hcell, hunused⟩
    obtain ⟨k, hk⟩ := List.mem_iff_getElem?.mp hcell
    obtain ⟨hlt, hat⟩ := List.getElem?_eq_some_iff.mp hk
    have hsubset : h.addresses ⊆ ((Finset.univ : Finset (Fin cells.length)).erase ⟨k, hlt⟩).image
        address := by
      intro ip hip
      obtain ⟨c, hc, hused, rfl⟩ := hs.kept ip hip
      obtain ⟨i, hi⟩ := List.mem_iff_getElem?.mp hc
      obtain ⟨hi', rfl⟩ := List.getElem?_eq_some_iff.mp hi
      have hne : (⟨i, hi'⟩ : Fin cells.length) ≠ ⟨k, hlt⟩ := by
        intro h
        obtain rfl : i = k := congrArg Fin.val h
        rw [hat] at hused
        exact hunused hused
      exact Finset.mem_image.mpr ⟨⟨i, hi'⟩, Finset.mem_erase.mpr ⟨hne, Finset.mem_univ _⟩, rfl⟩
    have hcard := (Finset.card_le_card hsubset).trans Finset.card_image_le
    rw [Finset.card_erase_of_mem (Finset.mem_univ _), Finset.card_univ, Fintype.card_fin] at hcard
    omega
  · intro hcard
    by_contra hfull
    push Not at hfull
    have hinj : Function.Injective address := by
      intro i j hij
      exact Fin.ext (hs.distinct i j _ _ (hget i) (hget j) (hfull _ (List.getElem_mem _))
        (hfull _ (List.getElem_mem _)) hij)
    have hsubset : (Finset.univ : Finset (Fin cells.length)).image address ⊆ h.addresses := by
      intro ip hip
      obtain ⟨i, -, rfl⟩ := Finset.mem_image.mp hip
      exact hs.owed _ (List.getElem_mem _) (hfull _ (List.getElem_mem _))
    have hle := Finset.card_le_card hsubset
    rw [Finset.card_image_of_injective _ hinj, Finset.card_univ, Fintype.card_fin] at hle
    omega

end Slots

variable {r : ArpRun Object} {q : ArpRun (Plain ArpBindingPayload)}

/-- The run on protected slots beside the run on plain cells. -/
structure Follows (r : ArpRun Object) (q : ArpRun (Plain ArpBindingPayload)) : Prop where
  cache : Mirrors r.cache q.cache
  history : r.history = q.history
  sound : Sound q.history q.cache

theorem Follows.passes (h : Follows r q) : ∀ cell ∈ q.cache, payloadValid cell.record = true := by
  have hcache := h.cache
  intro cell hcell
  obtain ⟨i, hi⟩ := List.mem_iff_getElem?.mp hcell
  obtain ⟨hlt, rfl⟩ := List.getElem?_eq_some_iff.mp hi
  have hlt' : i < r.cache.length := by
    rw [hcache.length_eq]
    exact hlt
  exact (hcache.get hlt' hlt).passes

theorem records_of_read (cells : List (Plain ArpBindingPayload)) :
    (cells.map fun cell => (cell.record, ReadResult.ok)).map Prod.fst = cells.map record := by
  simp [Function.comp_def]

variable {ip transactionEpoch sourceGeneration leaseMs : UInt32} {mac : Option Mac}
  {sourcePid : Int32} {nowMs : UInt64} {cells : List (Plain ArpBindingPayload)} {h : ArpHistory}

theorem committedAddress_failed {result : Int} (hresult : result ≠ 0) :
    committedAddress (.commit ip mac transactionEpoch sourcePid
      sourceGeneration nowMs leaseMs, .code result) = none := if_neg hresult

theorem revoke_sound {due : ArpBindingPayload → Bool} {call : ArpCall} (hs : Sound h cells)
    (hdue : ∀ entry, due entry = true → entry.state = arpBindingValid)
    (hnone : ∀ reply, committedAddress (call, reply) = none)
    (hnames : ∀ (p : ArpBindingPayload) (result : Int), p.state = arpBindingValid →
      Retracts p (call, .code result) → 0 ≤ result ∧ due p = true) :
    Sound (h ++ [(call, .code (revokeEntries plain due cells).1)])
      (revokeEntries plain due cells).2 := by
  obtain ⟨hfade, hdone⟩ := expireEntries_faded hdue cells
  simp only [revokeEntries, readEntries_plain, records_of_read]
  rcases hfound : expireEntries plain due cells (cells.map record) with ⟨found, cells'⟩
  rw [hfound] at hfade hdone
  cases found with
  | none =>
    refine hs.fade hfade (hnone _) fun cell hcell hlive hretract => ?_
    exact absurd (hnames _ _ hlive hretract).1 (show ¬ (0 : Int) ≤ -2 by decide)
  | some found =>
    refine hs.fade hfade (hnone _) fun cell hcell hlive hretract => ?_
    have hdue' := (hnames _ _ hlive hretract).2
    rw [hdone rfl cell hcell] at hdue'
    cases hdue'

theorem call_sound (hs : Sound h cells) (hpasses : ∀ cell ∈ cells, payloadValid cell.record = true)
    (call : ArpCall) :
    Sound (h ++ [(call, (call.perform plain cells).1)]) (call.perform plain cells).2 := by
  have hquiet : ∀ event, committedAddress event = none →
      (∀ p : ArpBindingPayload, ¬ Retracts p event) → Sound (h ++ [event]) cells :=
    fun event hnone hevent => hs.fade (faded_refl cells) hnone fun cell _ _ => hevent cell.record
  cases call with
  | commit ip mac transactionEpoch sourcePid sourceGeneration nowMs leaseMs =>
    have hfailed : ∀ result : Int, result ≠ 0 → Sound (h ++ [(.commit ip mac transactionEpoch
        sourcePid sourceGeneration nowMs leaseMs, .code result)]) cells :=
      fun result hresult => hquiet _ (committedAddress_failed hresult) fun p hretract =>
        hresult hretract.1
    simp only [perform, supervisedArpCacheCommit]
    split
    next => exact hfailed (-1) (by decide)
    next hargs =>
      have hmac : ∃ address, mac = some address := by
        cases mac with
        | none => simp [commitRefused] at hargs
        | some address => exact ⟨address, rfl⟩
      obtain ⟨address, rfl⟩ := hmac
      simp only [readEntries_plain, records_of_read]
      have hstore : ∀ (slot : Nat) (cell : Plain ArpBindingPayload), cells[slot]? = some cell →
          (Used cell ∧ cell.record.ip = ip ∨
            ¬ Used cell ∧ ∀ other ∈ cells, Used other → other.record.ip ≠ ip) →
          let done := writeSlot plain (committedPayload ip (some address) transactionEpoch sourcePid
            sourceGeneration nowMs leaseMs) slot cells
          Sound (h ++ [(.commit ip (some address) transactionEpoch sourcePid sourceGeneration nowMs
            leaseMs, .code done.1)]) done.2 := by
        intro slot cell hcell hslot
        rw [writeSlot_plain hcell]
        split
        next => exact hfailed (-2) (by decide)
        next =>
          exact hs.commit (p := committedPayload ip (some address) transactionEpoch sourcePid
            sourceGeneration nowMs leaseMs) rfl rfl hcell hslot
      rcases selectSlot_cases ip cells with ⟨slot, cell, hcell, hused, hip, hslot⟩ |
        ⟨hnone, ⟨slot, cell, hcell, hunused, hslot⟩ | ⟨-, hslot⟩⟩
      · simp only [hslot]
        exact hstore slot cell hcell (.inl ⟨hused, hip⟩)
      · simp only [hslot]
        exact hstore slot cell hcell (.inr ⟨hunused, hnone⟩)
      · simp only [hslot]
        exact hfailed (-2) (by decide)
  | revokeIdentity sourcePid sourceGeneration =>
    simp only [perform, supervisedArpCacheRevokeIdentity]
    split
    next =>
      exact hquiet _ rfl fun p hretract => absurd hretract.1 (show ¬ (0 : Int) ≤ -1 by decide)
    next =>
      refine revoke_sound hs ownedBy_valid (fun _ => rfl) fun p result hlive hretract => ?_
      obtain ⟨hresult, hpid, hgeneration⟩ := hretract
      exact ⟨hresult, by simp [ownedBy, hlive, hpid, hgeneration]⟩
  | revokeIp ip =>
    simp only [perform, supervisedArpCacheRevokeIp]
    split
    next =>
      exact hquiet _ rfl fun p hretract => absurd hretract.1 (show ¬ (0 : Int) ≤ -1 by decide)
    next =>
      refine revoke_sound hs boundTo_valid (fun _ => rfl) fun p result hlive hretract => ?_
      exact ⟨hretract.1, by simp [boundTo, hlive, hretract.2]⟩
  | scrub nowMs out =>
    simp only [perform, supervisedArpCacheScrub]
    split
    next => exact hquiet _ rfl fun p hretract => absurd hretract.1 (show (-1 : Int) ≠ 0 by decide)
    next =>
      obtain ⟨hfade, hdone⟩ := expireEntries_faded (@overdue_valid nowMs) cells
      simp only [readEntries_plain, records_of_read]
      rcases hfound : expireEntries plain (overdue nowMs) cells (cells.map record) with
        ⟨found, cells'⟩
      rw [hfound] at hfade hdone
      cases found with
      | none =>
        refine hs.fade hfade rfl fun cell hcell hlive hretract => ?_
        exact absurd hretract.1 (show (-2 : Int) ≠ 0 by decide)
      | some found =>
        refine hs.fade hfade rfl fun cell hcell hlive hretract => ?_
        have hnot := hdone rfl cell hcell
        simp [overdue, hlive, hretract.2] at hnot
  | lookup ip nowMs out =>
    simp only [perform, supervisedArpCacheLookup]
    split
    next => exact hquiet _ rfl fun p hretract => by cases hretract.1
    next =>
      obtain ⟨hfade, hblocked, -, -⟩ := lookupFrom_faded ip nowMs cells hpasses hs.distinct
      refine hs.fade hfade rfl fun cell hcell hlive hretract => ?_
      exact hblocked hretract.1 cell hcell hlive hretract.2

/-- The same step on plain cells, where a fault does nothing. -/
def plainStep (q : ArpRun (Plain ArpBindingPayload)) : ArpStep → ArpRun (Plain ArpBindingPayload)
  | .call call => q.call plain call
  | .fault _ _ _ => q

theorem Follows.step (h : Follows r q) (step : ArpStep) :
    Follows (r.step step) (plainStep q step) := by
  cases step with
  | call call =>
    obtain ⟨hreply, hcache⟩ := h.cache.perform call
    have hsound := call_sound h.sound h.passes call
    refine ⟨hcache, ?_, hsound⟩
    simp only [ArpRun.step, ArpRun.call, plainStep, hreply, h.history]
  | fault slot shadow copy => exact ⟨h.cache.fault slot shadow copy, h.history, h.sound⟩

theorem Follows.run (h : Follows r q) (steps : List ArpStep) :
    Follows (steps.foldl ArpRun.step r) (steps.foldl plainStep q) := by
  induction steps generalizing r q with
  | nil => exact h
  | cons step steps ih => exact ih (h.step step)

def plainBoot : ArpRun (Plain ArpBindingPayload) :=
  ⟨List.replicate supervisedArpCacheSize ⟨emptyPayload, 1⟩, []⟩

theorem boot_follows (cells : Vector Object supervisedArpCacheSize) :
    Follows (ArpRun.boot guarded cells.toList) plainBoot := by
  have hempty : ∀ cell ∈ plainBoot.cache, cell = ⟨emptyPayload, 1⟩ :=
    fun cell hcell => List.eq_of_mem_replicate hcell
  have hunused : ∀ cell ∈ plainBoot.cache, ¬ Used cell := by
    intro cell hcell hused
    rw [hempty cell hcell] at hused
    exact hused rfl
  refine ⟨?_, rfl, List.length_replicate, ?_, ?_, ?_, ?_, ?_⟩
  · have hmirrors := (init_mirrors cells.toList).2
    rw [List.map_const', Vector.length_toList] at hmirrors
    exact hmirrors
  · intro i j a b ha hb hua
    exact absurd hua (hunused a (List.mem_of_getElem? ha))
  · intro cell hcell _
    rw [hempty cell hcell]
  · intro cell hcell hlive
    rw [hempty cell hcell] at hlive
    cases hlive
  · intro cell hcell hused
    exact absurd hused (hunused cell hcell)
  · intro ip hip
    simp [plainBoot, ArpHistory.addresses] at hip

theorem commit_agrees {cache : List Object} (h : Mirrors cache cells) :
    (supervisedArpCacheCommit guarded ip mac transactionEpoch sourcePid sourceGeneration nowMs
        leaseMs cache).1 =
      (supervisedArpCacheCommit plain ip mac transactionEpoch sourcePid sourceGeneration nowMs
        leaseMs cells).1 :=
  ArpReply.code.inj (h.perform (.commit ip mac transactionEpoch sourcePid sourceGeneration nowMs
    leaseMs)).1

theorem commit_new (hs : Sound h cells) (hip : ip ∉ h.addresses) (nowMs : UInt64)
    (hargs : commitRefused ip mac transactionEpoch sourcePid sourceGeneration leaseMs = false) :
    (supervisedArpCacheCommit plain ip mac transactionEpoch sourcePid sourceGeneration nowMs leaseMs
      cells).1 = 0 ↔ h.addresses.card < supervisedArpCacheSize := by
  have hargs' : ¬ commitRefused ip mac transactionEpoch sourcePid sourceGeneration leaseMs = true :=
    by simp [hargs]
  rw [← hs.room]
  simp only [supervisedArpCacheCommit, if_neg hargs', readEntries_plain, records_of_read]
  rcases selectSlot_cases ip cells with ⟨slot, cell, hcell, hused, hat, hslot⟩ |
    ⟨-, ⟨slot, cell, hcell, hunused, hslot⟩ | ⟨hfull, hslot⟩⟩
  · have howed := hs.owed cell (List.mem_of_getElem? hcell) hused
    rw [hat] at howed
    exact absurd howed hip
  · have hmem := List.mem_of_getElem? hcell
    have hnext : ¬ cell.sequence + 1 = 0 := by
      rw [hs.fresh cell hmem hunused]
      decide
    simp only [hslot]
    rw [writeSlot_plain hcell, if_neg hnext]
    exact iff_of_true rfl ⟨cell, hmem, hunused⟩
  · simp only [hslot]
    refine iff_of_false (by decide) fun hsome => ?_
    obtain ⟨cell, hcell, hunused⟩ := hsome
    exact hunused (hfull cell hcell)

/-- A hit is the standing binding of its address; no address is in two slots; a failed lookup
changes nothing; a new address finds a slot while fewer addresses than slots were ever committed. -/
theorem bindings_authoritative (cells : Vector Object supervisedArpCacheSize)
    (steps : List ArpStep) :
    let r := steps.foldl ArpRun.step (ArpRun.boot guarded cells.toList)
    (∀ ip nowMs out mac, (supervisedArpCacheLookup guarded ip nowMs out r.cache).1 = .hit mac →
      ∃ p, r.history.Stands p ∧ p.ip = ip ∧ p.mac = mac ∧ nowMs < p.deadlineMs) ∧
    (∀ (i j : Nat) (p p' : ArpBindingPayload), (bindings guarded r.cache)[i]? = some (some p) →
      (bindings guarded r.cache)[j]? = some (some p') → p.state ≠ arpBindingEmpty →
        p'.state ≠ arpBindingEmpty → p.ip = p'.ip → i = j) ∧
    (∀ ip nowMs out,
      (supervisedArpCacheLookup guarded ip nowMs out r.cache).1 = .integrityFailure →
        bindings guarded (supervisedArpCacheLookup guarded ip nowMs out r.cache).2 =
          bindings guarded r.cache) ∧
    (∀ ip mac transactionEpoch sourcePid sourceGeneration nowMs leaseMs, ip ∉ r.history.addresses →
      commitRefused ip mac transactionEpoch sourcePid sourceGeneration leaseMs = false →
        ((supervisedArpCacheCommit guarded ip mac transactionEpoch sourcePid sourceGeneration nowMs
          leaseMs r.cache).1 = 0 ↔ r.history.addresses.card < supervisedArpCacheSize)) := by
  intro r
  have hrun : Follows r _ := (boot_follows cells).run steps
  generalize steps.foldl plainStep plainBoot = q at hrun
  obtain ⟨hcache, hhistory, hsound⟩ := hrun
  have hpasses := Follows.passes ⟨hcache, hhistory, hsound⟩
  have hlookup := fun ip nowMs => lookupFrom_faded ip nowMs q.cache hpasses hsound.distinct
  rw [hhistory, hcache.bindings]
  refine ⟨?_, ?_, ?_, ?_⟩
  · intro ip nowMs out mac hit
    unfold supervisedArpCacheLookup at hit
    split at hit
    next => cases hit
    next =>
      rw [(hcache.lookup ip nowMs).1] at hit
      obtain ⟨cell, hcell, hlive, hip, hmac, hnow⟩ := (hlookup ip nowMs).2.2.2 mac hit
      exact ⟨cell.record, hsound.stands cell hcell hlive, hip, hmac, hnow⟩
  · intro i j p p' hp hp' hused hused' hip
    rw [List.getElem?_map] at hp hp'
    obtain ⟨a, ha, hap⟩ := Option.map_eq_some_iff.mp hp
    obtain ⟨b, hb, hbp⟩ := Option.map_eq_some_iff.mp hp'
    obtain rfl := Option.some.inj hap
    obtain rfl := Option.some.inj hbp
    exact hsound.distinct i j a b ha hb hused hused' hip
  · intro ip nowMs out hfailed
    unfold supervisedArpCacheLookup at hfailed ⊢
    split at hfailed
    next hargs =>
      rw [if_pos hargs]
      exact hcache.bindings
    next hargs =>
      obtain ⟨hresult, hmirrors⟩ := hcache.lookup ip nowMs
      rw [hresult] at hfailed
      rw [if_neg hargs, hmirrors.bindings, (hlookup ip nowMs).2.2.1 hfailed]
  · intro ip mac transactionEpoch sourcePid sourceGeneration nowMs leaseMs hip hargs
    rw [commit_agrees hcache]
    exact commit_new hsound hip nowMs hargs

/-- Every address of a full cache expires, and then a scrub finds them all expired. -/
def fullSteps : List ArpStep :=
  (List.range 32).map (fun i =>
    .call (.commit (UInt32.ofNat (i + 1)) (some ⟨2, 0, 0, 0, 0, 1⟩) 1 1 1 0 1)) ++
  [.call (.scrub 1 true)]

def zeroCells : Vector Object supervisedArpCacheSize :=
  Vector.replicate supervisedArpCacheSize
    { publicationLock := 0
      primary := { words := fun _ => 0, ecc := fun _ => 0, crc32 := 0 }
      shadow := { words := fun _ => 0, ecc := fun _ => 0, crc32 := 0 } }

/-- No binding is left, and yet a new address is turned away. -/
theorem expired_slots_stay :
    let r := fullSteps.foldl ArpRun.step (ArpRun.boot guarded zeroCells.toList)
    (∀ found ∈ bindings guarded r.cache,
      found.all fun p => p.state = arpBindingExpired ∧ p.deadlineMs ≤ 1 ∧ p.ip ≠ 33) ∧
    commitRefused 33 (some ⟨2, 0, 0, 0, 0, 1⟩) 1 1 1 1 = false ∧
    (supervisedArpCacheCommit guarded 33 (some ⟨2, 0, 0, 0, 0, 1⟩) 1 1 1 1 1 r.cache).1 = -2 := by
  intro r
  have hrun : Follows r _ := (boot_follows zeroCells).run fullSteps
  rw [commit_agrees hrun.cache, hrun.cache.bindings]
  decide +kernel

end ReistOs.Arp
