import ReistOs.FileObjectGuardPublications

/-! How the reservations of `kernel/init/file_object_guard.c` begin and end. -/

namespace ReistOs

open Attempt FileObjectGuard

variable {call : FileObjectGuardCall} {g0 : FileObjectGuard} {c : GuardControl}

section Begin

def Borrowed (key : FileObjectKey) (owner : FileObjectOwner) (borrow : BorrowedPin)
    (g : FileObjectGuard) (slot : Option (Fin fileObjectGuardCapacity)) : Prop :=
  (borrow.pin = 0 ∧ slot = none) ∨ ∃ i, slot = some i ∧
    TokenNames borrow.pin owner borrow.client g i (g.pins i) ∧ (g.pins i).active = true ∧
    (g.pins i).key = key ∧ (g.pins i).mediaGeneration = g.media key.resource

variable {key : FileObjectKey} {owner : FileObjectOwner} {borrow : BorrowedPin} {flags : UInt32}
  {nowMs deadlineMs : UInt64}

theorem guardBorrowedSlot_reaches :
    Triple (g0.Held call c) (guardBorrowedSlot key owner borrow)
      (fun slot g => g0.Held call c g ∧ Borrowed key owner borrow g slot)
      (fun _ => g0.Reaches call) := by
  refine Triple.ite (fun hnone => Triple.pure fun g hg => ⟨hg, .inl ⟨hnone, rfl⟩⟩) fun _ => ?_
  refine Triple.bind (guardTokenRead_reaches held_reaches) fun p => ?_
  obtain ⟨slot, pin⟩ := p
  refine Triple.learn (refuse_reaches fun g h => h.1.reaches) fun _ hactive => ?_
  refine Triple.learn (refuse_reaches fun g h => h.1.reaches) fun _ hkey => ?_
  refine Triple.bind (guardMediaRead_reaches fun g h => h.1.reaches) fun media => ?_
  refine Triple.learn (refuse_reaches fun g h => h.1.1.reaches) fun _ hmedia => ?_
  refine Triple.pure fun g hg => ?_
  obtain ⟨⟨hheld, hnames⟩, hread, -⟩ := hg
  obtain rfl : g.pins slot = pin := hnames.pin
  refine ⟨hheld, .inr ⟨slot, rfl, hnames, by simpa using hactive, not_not.mp hkey, ?_⟩⟩
  rw [not_not.mp hmedia, hread]

/-- The arguments on which a reservation is made. -/
structure Reservable (k : FileObjectKey) (flags : UInt32) (o : FileObjectOwner)
    (deadlineMs : UInt64) (borrow : BorrowedPin) : Prop where
  key : fileObjectGuardKeyValid k = true
  owner : guardOwnerValid o = true
  deadline : deadlineMs ≠ 0
  handle : borrow.pin = 0 ↔ borrow.handle = 0
  journal : borrow.pin ≠ 0 → flags &&& reistFileObjectExternalJournal ≠ 0
  kind : borrow.pin ≠ 0 → k.kind = reistFileObjectFat32

theorem key_resource (h : fileObjectGuardKeyValid key = true) :
    key.resource < fileObjectGuardResources := by
  unfold fileObjectGuardKeyValid at h
  split at h
  next hno => cases h
  next hok =>
    by_contra hlarge
    exact hok (.inl (not_lt.mp hlarge))

/-- What a call that makes a reservation leaves. -/
structure GuardBegun (call : FileObjectGuardCall) (token : UInt32) (g : FileObjectGuard) : Prop where
  active : g.control.active = true
  generation : g.control.generation = token
  alone : call.Excludes → g.Alone g.control

theorem guardBegun_reaches {P : FileObjectGuard → Prop} {c : GuardControl} {token : UInt32}
    (hP : ∀ g, P g → g0.Reaches call g) (hadmits : ∀ g, P g → g.Admits call c)
    (hgeneration : c.generation = token) :
    Triple P (do guardControlWrite c; pure token)
      (fun token s => g0.Reaches call s ∧ GuardBegun call token s) (fun _ => g0.Reaches call) := by
  refine Triple.bind (guardControlWrite_reaches hP fun g hg => .admitted c (hadmits g hg)) fun _ => ?_
  refine Triple.pure ?_
  rintro s ⟨g, hg, hreaches, rfl⟩
  exact ⟨hreaches, (hadmits g hg).active, hgeneration, (hadmits g hg).excludes⟩

variable {epoch : UInt64} {keys : List FileObjectKey}

theorem guardReserve_reaches
    (hargs : Reservable key flags owner deadlineMs borrow) (hopens : call.Opens)
    (hexclusive : call.Excludes → flags &&& reistFileObjectExclusive ≠ 0) :
    Triple (g0.Reaches call) (guardReserve keys key flags owner epoch nowMs deadlineMs borrow)
      (fun token s => g0.Reaches call s ∧ GuardBegun call token s) (fun _ => g0.Reaches call) := by
  refine Triple.learn guardAdmit_reaches fun c hidle => ?_
  refine Triple.bind guardBorrowedSlot_reaches fun owned => ?_
  refine Triple.bind (guardScan_reaches fun g h => h.1.reaches) fun _ => ?_
  refine Triple.learn (refuse_reaches fun g h => h.1.1.reaches) fun _ hroom => ?_
  refine Triple.bind (guardEpochAdvance_reaches fun g h => h.1.1.reaches) fun c' => ?_
  refine Triple.fact fun hc' => ?_
  obtain ⟨epoch', hepoch, rfl⟩ := hc'
  refine guardBegun_reaches (fun g h => h.1.1.reaches) ?_ rfl
  · rintro g ⟨⟨hheld, hborrowed⟩, hscan⟩
    obtain ⟨hattempted, hpending, -, -⟩ := guardControlValid_quiet hheld.valid hidle
    obtain rfl := hheld.control
    refine
      { opens := hopens
        idle := hidle
        valid := ?_
        active := rfl
        room := hroom
        generation := rfl
        fenced := rfl
        lends := ?_
        excludes := ?_ }
    · have hnext := generation_succ_ne_zero hroom
      have hresource := key_resource hargs.key
      have hslot : borrow.pin ≠ 0 → borrow.pin >>> 8 ≠ 0 ∧ (tokenSlot borrow.pin).isSome = true := by
        intro hpin
        rcases hborrowed with ⟨hnone, -⟩ | ⟨i, -, hnames, -⟩
        · exact absurd hnone hpin
        · exact ⟨hnames.nonzero, by rw [hnames.slot]; rfl⟩
      have howner := hargs.owner
      have hdeadline := hargs.deadline
      have hhandle := hargs.handle
      have hjournal := hargs.journal
      by_cases hpin : borrow.pin = 0
      · have hzero : borrow.handle = 0 := hhandle.mp hpin
        by_cases hext : flags &&& reistFileObjectExternalJournal = 0 <;>
          simp [guardControlValid, hepoch, hattempted, hpending, hpin, hzero, hext, howner, hdeadline,
            hnext, hresource]
      · have hsome : borrow.handle ≠ 0 := fun h => hpin (hhandle.mpr h)
        simp [guardControlValid, hepoch, hattempted, hpending, hpin, hsome, hjournal hpin, hslot hpin,
          howner, hdeadline, hnext, hresource]
    · intro hpin
      rcases hborrowed with ⟨hnone, -⟩ | ⟨i, -, hnames, hactive, hkey, hmedia⟩
      · exact absurd hnone hpin
      · refine ⟨i, hnames.slot, hactive, hnames.generation, hnames.service, ?_, ?_, hmedia⟩
        · rw [hkey]
        · rw [hkey]
          exact hargs.kind hpin
    · intro hexcludes slot hactive hresource
      have hrefusal := hscan slot
      by_contra hother
      have hne : ¬ some slot = owned := by
        rintro rfl
        rcases hborrowed with ⟨-, hnone⟩ | ⟨i, hi, hnames, -⟩
        · cases hnone
        · obtain rfl := Option.some.inj hi
          exact hother (pinToken_eq hnames.slot hnames.generation)
      have hresource' : (g.pins slot).key.resource = key.resource := hresource
      simp [hactive, hne, hexclusive hexcludes, hresource'] at hrefusal

theorem guardBegin_reaches (hhandle : borrow.pin = 0 ↔ borrow.handle = 0)
    (hjournal : borrow.pin ≠ 0 → flags &&& reistFileObjectExternalJournal ≠ 0) (hopens : call.Opens)
    (hexclusive : call.Excludes → flags &&& reistFileObjectExclusive ≠ 0) :
    Triple (g0.Reaches call) (guardBegin keys flags owner epoch nowMs deadlineMs borrow)
      (fun token s => g0.Reaches call s ∧ GuardBegun call token s) (fun _ => g0.Reaches call) := by
  refine Triple.learn (refuse_reaches fun _ h => h) fun _ hargs => ?_
  refine Triple.bind (guardLock_reaches fun _ h => h) fun _ => ?_
  cases keys with
  | nil => exact Triple.fail fun _ h => h
  | cons key rest =>
    rw [not_or, not_or, not_or, not_or] at hargs
    obtain ⟨howner, -, hdeadline, -, hrefused⟩ := hargs
    unfold guardBeginRefused at hrefused
    simp only [Bool.or_eq_true, not_or, List.any_cons, Bool.and_eq_true, not_and] at hrefused
    apply guardReserve_reaches _ hopens hexclusive
    refine
      { key := ?_
        owner := by simpa using howner
        deadline := ?_
        handle := hhandle
        journal := hjournal
        kind := ?_ }
    · by_contra hkey
      exact hrefused.2.1.1.1 (by simpa using hkey)
    · rintro rfl
      exact hdeadline UInt64.zero_le
    · intro hpin
      have hext := hjournal hpin
      have hkind := (hrefused.1.2 (by simpa using hext)).2
      simpa using hkind

theorem fileObjectGuardBeginMode_reaches
    (hopens : call.Opens) (hexclusive : call.Excludes → flags &&& reistFileObjectExclusive ≠ 0) :
    Triple (g0.Reaches call) (fileObjectGuardBeginMode keys flags owner epoch nowMs deadlineMs)
      (fun token s => g0.Reaches call s ∧ GuardBegun call token s) (fun _ => g0.Reaches call) :=
  guardBegin_reaches (by simp [noBorrow]) (by simp [noBorrow]) hopens hexclusive

theorem fileObjectGuardBeginOwned_reaches {service : FileObjectOwner} (hopens : call.Opens) :
    Triple (g0.Reaches call)
      (fileObjectGuardBeginOwned key service borrow epoch nowMs deadlineMs)
      (fun token s => g0.Reaches call s ∧ GuardBegun call token s) (fun _ => g0.Reaches call) := by
  refine Triple.learn (refuse_reaches fun _ h => h) fun _ hargs => ?_
  rw [not_or, not_or] at hargs
  refine guardBegin_reaches ?_ ?_ hopens ?_
  · exact ⟨fun h => absurd h hargs.1, fun h => absurd h hargs.2.1⟩
  · intro _
    decide
  · intro _
    decide

theorem fileObjectGuardRepairBegin_reaches {resource : Nat} (hopens : call.Opens) :
    Triple (g0.Reaches call) (fileObjectGuardRepairBegin resource owner epoch nowMs deadlineMs)
      (fun token s => g0.Reaches call s ∧ GuardBegun call token s) (fun _ => g0.Reaches call) := by
  refine Triple.learn (refuse_reaches fun _ h => h) fun _ hargs => ?_
  rw [not_or, not_or, not_or, not_or] at hargs
  obtain ⟨hresource, howner, -, hdeadline, -⟩ := hargs
  have hdeadline' : deadlineMs ≠ 0 := by
    rintro rfl
    exact hdeadline UInt64.zero_le
  have howner' : guardOwnerValid owner = true := by simpa using howner
  have hresource' : resource < fileObjectGuardResources := not_le.mp hresource
  refine Triple.bind (guardLock_reaches fun _ h => h) fun _ => ?_
  refine Triple.bind (guardControlRead_reaches fun _ h => h) fun _ => ?_
  refine Triple.bind (guardExpire_held.pre fun _ h => h.2) fun c => ?_
  refine Triple.learn (refuse_reaches fun g h => h.1.reaches) fun _ hfence => ?_
  refine Triple.learn (refuse_reaches fun g h => h.1.reaches) fun _ hidle => ?_
  refine Triple.bind (refuse_reaches fun g h => h.1.reaches) fun _ => ?_
  refine Triple.bind (guardScan_reaches fun g h => h.1.1.reaches) fun _ => ?_
  refine Triple.learn (refuse_reaches fun g h => h.1.1.1.reaches) fun _ hroom => ?_
  refine Triple.bind (guardEpochAdvance_reaches fun g h => h.1.1.1.reaches) fun c' => ?_
  refine Triple.fact fun hc' => ?_
  obtain ⟨epoch', hepoch, rfl⟩ := hc'
  refine guardBegun_reaches (fun g h => h.1.1.1.reaches) ?_ rfl
  · rintro g ⟨⟨⟨hheld, -⟩, -⟩, hscan⟩
    have hidle' : c.active = false := by simpa using hidle
    obtain ⟨hattempted, hpending, hborrowed, hhandle⟩ := guardControlValid_quiet hheld.valid hidle'
    obtain rfl := hheld.control
    refine
      { opens := hopens
        idle := hidle'
        valid := ?_
        active := rfl
        room := hroom
        generation := rfl
        fenced := rfl
        lends := ?_
        excludes := ?_ }
    · have hnext := generation_succ_ne_zero hroom
      simp [guardControlValid, hepoch, hattempted, hpending, hborrowed, hhandle, howner', hdeadline',
        hnext, hresource', not_not.mp hfence]
    · intro hpin
      exact absurd hborrowed hpin
    · intro _ slot hactive hat
      have hrefusal := hscan slot
      have hat' : (g.pins slot).key.resource = resource := hat
      simp [hactive, hat'] at hrefusal

end Begin

section End

variable {token : UInt32} {owner : FileObjectOwner} {nowMs : UInt64}

variable {service : FileObjectOwner} {resource : Nat} {s1 : FileObjectGuard}

theorem fileObjectGuardOwnedRequest_reaches :
    Keeps (g0.Reaches call) (fileObjectGuardOwnedRequest service token resource nowMs) :=
  refused_reaches fun _ => locked_reaches fun _ => Works.expire_bind fun _ _ =>
    Works.refuse_bind fun _ => Works.refuse_bind fun _ => Works.refuse_bind fun _ =>
      Works.live_bind Works.pure

theorem fileObjectGuardContext_reaches :
    Keeps (g0.Reaches call) (fileObjectGuardContext owner token) :=
  refused_reaches fun _ => locked_reaches fun _ => Works.refuse_bind fun _ =>
    Works.refuse_bind fun _ => Works.live_bind Works.pure

theorem fileObjectGuardMutationAuthorized_reaches :
    Keeps (g0.Reaches call) (fileObjectGuardMutationAuthorized owner resource nowMs) :=
  refused_reaches fun _ => locked_reaches fun _ => Works.expire_bind fun _ _ =>
    Works.refuse_bind fun _ => Works.refuse_bind fun _ => Works.refuse_bind fun _ => Works.refuse

theorem token_live (h : ¬ (!c.active ∨ c.generation ≠ token)) :
    c.active = true ∧ c.generation = token := by
  rw [not_or, not_not] at h
  exact ⟨by simpa using h.1, h.2⟩

theorem Works.idle {α : Type} {a : α} (hidle : c.active = false) :
    Works call g0 c (Pure.pure a : Guard α) fun _ g => g0.Reaches call g ∧ g.control.active = false :=
  Triple.pure fun g hg => ⟨hg.reaches, by rw [hg.control, hidle]⟩

theorem fileObjectGuardEnd_reaches {outcome : MutationOutcome} :
    Triple (g0.Reaches (.mutationEnd token owner outcome nowMs))
      (fileObjectGuardEnd token owner outcome nowMs)
      (fun _ g => g0.Reaches (.mutationEnd token owner outcome nowMs) g ∧ g.control.active = false)
      (fun _ => g0.Reaches (.mutationEnd token owner outcome nowMs)) := by
  refine refused_reaches fun _ => locked_reaches fun _ => Works.expire_bind fun c hon => ?_
  refine Works.refuse_bind fun hlive => Works.refuse_bind fun howner => Works.live_bind ?_
  refine Works.refuse_bind fun hchecked => ?_
  obtain ⟨hactive, hgeneration⟩ := token_live hlive
  obtain ⟨rfl, hearly⟩ := hon hactive
  refine Works.finish_bind hactive (fun hknown _ => ?_) fun _ hidle => Works.idle hidle
  refine ⟨token, owner, outcome, nowMs, rfl, ?_, hgeneration, not_not.mp howner, hearly, hchecked⟩
  rintro rfl
  cases hknown

theorem fileObjectGuardCancelUndelivered_reaches :
    Triple (g0.Reaches call) (fileObjectGuardCancelUndelivered token service)
      (fun _ g => g0.Reaches call g ∧ g.control.active = false) (fun _ => g0.Reaches call) := by
  refine refused_reaches fun _ => locked_reaches fun c => Works.refuse_bind fun hlive => ?_
  refine Works.refuse_bind fun _ => Works.refuse_bind fun hattempted => ?_
  refine Works.finish_bind (token_live hlive).1 (fun _ h => ?_) fun _ hidle => Works.idle hidle
  exact absurd h hattempted

theorem guardProbe_reaches (hP : ∀ g, g0.Held call c g → g0.Reaches call g) :
    Triple (g0.Held call c) (guardProbe c owner token nowMs) (fun _ => g0.Held call c)
      (fun _ => g0.Reaches call) := by
  refine Triple.bind (refuse_reaches hP) fun _ => ?_
  refine Triple.bind (refuse_reaches fun g h => hP g h.1) fun _ => ?_
  refine Triple.bind (guardOwnedPinLive_reaches fun g h => hP g h.1.1) fun _ => ?_
  exact (refuse_reaches fun g h => hP g h.1.1).post fun _ _ h => h.1.1.1

theorem guardJournalIo_reaches {mark : JournalMark} {probe : Bool}
    (hends : ∀ c, ¬ call.Ends c ∧ ¬ call.Verifies c) :
    Keeps (g0.Reaches call) (guardJournalIo owner token resource mark nowMs probe) := by
  refine refused_reaches fun _ => locked_reaches fun c => ?_
  refine Triple.bind (Q := fun _ => g0.Held call c) ?_ fun _ => ?_
  · exact Triple.ite (fun _ => guardProbe_reaches held_reaches) fun _ => Triple.ret
  refine Works.expire_bind fun c' _ => Works.refuse_bind fun _ => Works.refuse_bind fun hlive => ?_
  refine Works.refuse_bind fun howner => ?_
  obtain ⟨hactive, -⟩ := token_live hlive
  have hmode : c'.mode ≠ .ordinary := fun h => howner (.inr (.inr h))
  refine Triple.bind (Q := fun _ => g0.Held call c') ?_ fun _ => ?_
  · exact Triple.ite (fun _ => Triple.ret) fun _ =>
      guardOwnedPinLive_reaches held_reaches
  refine Triple.bind (Q := fun _ => g0.Reaches call) ?_ fun _ => Triple.ret
  refine Triple.ite (fun _ => Triple.pure held_reaches) fun _ => Triple.start fun s hs => ?_
  exact (Works.write (carries_marked hs.valid hactive hmode hends)).pre fun t ht => ht ▸ hs

theorem fileObjectGuardJournalProbe_reaches (hends : ∀ c, ¬ call.Ends c ∧ ¬ call.Verifies c) :
    Keeps (g0.Reaches call) (fileObjectGuardJournalProbe owner token resource nowMs) :=
  (guardJournalIo_reaches hends).bind fun _ => Keeps.pure

def FileObjectGuard.Lacks (g : FileObjectGuard) (p : GuardPin → Prop)
    (slot : Fin fileObjectGuardCapacity) : Prop :=
  (g.pins slot).active = true → ¬ p (g.pins slot)

theorem clearPin_lacks {g : FileObjectGuard} {p : GuardPin → Prop}
    {slot i : Fin fileObjectGuardCapacity} (h : i = slot ∨ g.Lacks p i) :
    (g.clearPin slot).Lacks p i := by
  show (Function.update g.pins slot (g.pins slot).cleared i).active = true → _
  by_cases hi : i = slot
  · subst hi
    rw [Function.update_self]
    exact fun hactive => absurd hactive Bool.false_ne_true
  · have hsame : (g.clearPin slot).pins i = g.pins i := Function.update_of_ne hi _ _
    rw [Function.update_of_ne hi, hsame]
    exact h.resolve_left hi

def GuardPin.Of (owner : FileObjectOwner) (pin : GuardPin) : Prop :=
  pin.service = owner ∨ pin.client = owner

theorem guardCleanupPins_reaches {slots : List (Fin fileObjectGuardCapacity)} {q : Prop} :
    ∀ done : Fin fileObjectGuardCapacity → Prop, (q → c.active = false) →
      Triple (fun s => g0.Held call c s ∧ ∀ i, done i → s.Lacks (GuardPin.Of owner) i)
        (guardCleanupPins owner slots c)
        (fun _ s => g0.Reaches call s ∧ (∀ i, done i ∨ i ∈ slots → s.Lacks (GuardPin.Of owner) i) ∧
          (q → s.control.active = false)) (fun _ => g0.Reaches call) := by
  induction slots generalizing c with
  | nil =>
    intro done hq
    refine Triple.pure fun s hs => ⟨hs.1.reaches, fun i hi => ?_, fun h => ?_⟩
    · exact hs.2 i (hi.resolve_right (by simp))
    · rw [hs.1.control]
      exact hq h
  | cons slot slots ih =>
    intro done hq
    refine Triple.bind (guardPinRead_reaches fun s hs => hs.1.reaches) fun pin => ?_
    have hrest : ∀ c', (q → c'.active = false) →
        Triple (fun s => g0.Held call c' s ∧ ∀ i, done i ∨ i = slot → s.Lacks (GuardPin.Of owner) i)
          (guardCleanupPins owner slots c')
          (fun _ s => g0.Reaches call s ∧ (∀ i, done i ∨ i ∈ slot :: slots → s.Lacks (GuardPin.Of owner) i) ∧
            (q → s.control.active = false)) (fun _ => g0.Reaches call) := by
      intro c' hq'
      refine (ih (fun i => done i ∨ i = slot) hq').post fun _ s hs => ⟨hs.1, fun i hi => ?_, hs.2.2⟩
      apply hs.2.1
      rcases hi with hdone | hmem
      · exact .inl (.inl hdone)
      · rcases List.mem_cons.mp hmem with hslot | hmem
        · exact .inl (.inr hslot)
        · exact .inr hmem
    refine Triple.start fun s0 hs0 => ?_
    obtain ⟨⟨hheld, hdone⟩, hpin, hvalid⟩ := hs0
    refine Triple.ite (fun hgo => ?_) fun hstay => ?_
    · refine Triple.learn (finishIf_pins hheld) fun c' hon => ?_
      have hq' : q → c'.active = false := by
        intro h
        by_contra hlive
        obtain ⟨rfl, -⟩ := hon (by simpa using hlive)
        exact hlive (hq h)
      refine Triple.bind (Q := fun _ s => g0.Held call c' s ∧ ∀ i, done i ∨ i = slot → s.Lacks (GuardPin.Of owner) i)
        ?_ fun _ => hrest c' hq'
      refine (guardPinClear_reaches (fun _ h => h.1) hgo.1 hvalid (fun s hs => ?_)
        fun hlive => .inl ?_).post fun _ s hs => ?_
      · rw [hs.2]
        exact hpin
      · obtain ⟨rfl, hother⟩ := hon hlive
        exact hother
      · obtain ⟨t, ht, hheld', rfl⟩ := hs
        refine ⟨hheld', fun i hi => clearPin_lacks ?_⟩
        rcases hi with hi | hi
        · right
          unfold Lacks
          rw [ht.2]
          exact hdone i hi
        · exact .inl hi
    · refine (hrest c hq).pre ?_
      rintro s rfl
      refine ⟨hheld, fun i hi => ?_⟩
      rcases hi with hi | rfl
      · exact hdone i hi
      · intro hactive
        rw [hpin] at hactive ⊢
        exact fun hof => hstay ⟨hactive, hof⟩

theorem fileObjectGuardCleanup_reaches (h : g0.Reaches call s1) :
    Triple (· = s1) (fileObjectGuardCleanup owner)
      (fun _ s => g0.Reaches call s ∧ (∀ i, s.Lacks (GuardPin.Of owner) i) ∧
        (s1.control.owner = owner → s.control.active = false)) (fun _ => g0.Reaches call) := by
  have hP : ∀ s, s = s1 → g0.Reaches call s := fun s hs => hs ▸ h
  refine refused_works hP fun _ => locked_works hP fun s hs => ?_
  obtain rfl := hs
  refine Works.finishIf_bind fun c hon => ?_
  have hq : s.control.owner = owner → c.active = false := by
    intro howner
    by_contra hlive
    obtain ⟨rfl, hother⟩ := hon (by simpa using hlive)
    exact hother howner
  refine (guardCleanupPins_reaches (fun _ => False) hq).weaken (fun t ht => ⟨ht, fun _ h => h.elim⟩)
    (fun _ t ht => ⟨ht.1, fun i => ?_, ht.2.2⟩) fun _ _ h => h
  exact ht.2.1 i (.inr (List.mem_finRange i))

theorem fileObjectGuardOwnerAt_reaches {slot : Option (Fin fileObjectGuardCapacity)} :
    Keeps (g0.Reaches call) (fileObjectGuardOwnerAt slot) := by
  refine locked_reaches fun c => ?_
  cases slot with
  | none => exact Works.pure
  | some i =>
    exact Triple.bind (guardPinRead_reaches held_reaches) fun _ => Triple.pure fun g h => h.1.reaches

theorem fileObjectGuardRevokeMedia_reaches (h : g0.Reaches call s1) :
    Triple (· = s1) (fileObjectGuardRevokeMedia resource)
      (fun _ s => g0.Reaches call s ∧ (∀ i, s.Lacks (fun pin => pin.key.resource = resource) i) ∧
        (s1.control.resource = resource → s.control.active = false)) (fun _ => g0.Reaches call) := by
  have hP : ∀ s, s = s1 → g0.Reaches call s := fun s hs => hs ▸ h
  refine refused_works hP fun _ => locked_works hP fun s hs => ?_
  obtain rfl := hs
  refine Works.finishIf_bind fun c hon => ?_
  refine Triple.learn (guardEpochAdvance_reaches held_reaches) fun c' hc' => ?_
  refine Triple.start fun t ht => ?_
  obtain ⟨epoch, hepoch, hc'⟩ := hc'
  have hcarries : c.Carries call c' := hc' ▸ carries_epoch ht.valid hepoch
  have hfree : c'.active = true → c'.resource ≠ resource := by
    intro hactive
    rw [hcarries.active] at hactive
    obtain ⟨rfl, hother⟩ := hon hactive
    rw [hcarries.resource]
    exact hother
  have hover : s.control.resource = resource → c'.active = false := by
    intro hresource
    by_contra hlive
    have hactive : c.active = true := by
      rw [← hcarries.active]
      simpa using hlive
    obtain ⟨rfl, hother⟩ := hon hactive
    exact hother hresource
  refine (Works.write_bind hcarries ?_).pre fun u hu => hu ▸ ht
  refine Triple.bind (guardMediaRead_reaches held_reaches) fun media => ?_
  refine Triple.bind (Q := fun _ g => (g0.Held call c' g ∧ g.media resource = media) ∧
    media ≠ 0xffffffff) ?_ fun _ => Triple.fact fun hroom => ?_
  · refine Triple.ite (fun _ => guardPoison_reaches fun g h => h.1.reaches) fun hroom => ?_
    exact Triple.pure fun g h => ⟨⟨h.1, h.2.1⟩, hroom⟩
  refine Triple.bind (Q := fun _ => g0.Held call c') ?_ fun _ => ?_
  · refine (guardWrite_reaches (fun g h => h.1.reaches) ?_).post fun _ s hs => ?_
    · rintro g ⟨hheld, rfl⟩
      exact .revoked resource (generation_succ_ne_zero hroom) (hheld.control ▸ hfree)
    · obtain ⟨g, hg, hreaches, rfl⟩ := hs
      exact ⟨hreaches, hg.1.control, hg.1.valid⟩
  refine (Triple.forEach_each (P := g0.Held call c') (K := fun i g => g.Lacks (fun pin => pin.key.resource = resource) i)
    fun slot _ s0 hs0 => ?_).post fun _ g hg => ⟨hg.1.reaches, fun i => hg.2 i ?_, fun hr => ?_⟩
  · refine Triple.bind (guardPinRead_reaches fun u hu => hu ▸ hs0.reaches) fun pin => ?_
    refine Triple.start fun u hu => ?_
    obtain ⟨rfl, hpin, hvalid⟩ := hu
    have hheld : ∀ v, v = u → g0.Held call c' v := fun v hv => hv ▸ hs0
    refine Triple.ite (fun hgo => ?_) fun hstay => Triple.pure fun v hv => ?_
    · refine (guardPinClear_reaches hheld hgo.1 hvalid (fun v hv => hv ▸ hpin)
        fun hactive => .inr ?_).post fun _ v hv => ?_
      · rw [hgo.2]
        exact hfree hactive
      · obtain ⟨x, rfl, hheld, rfl⟩ := hv
        exact ⟨⟨hheld, clearPin_lacks (.inl rfl)⟩, fun i hi => clearPin_lacks (.inr hi)⟩
    · subst hv
      refine ⟨⟨hs0, fun hactive => ?_⟩, fun _ hi => hi⟩
      rw [hpin] at hactive ⊢
      exact fun hresource => hstay ⟨hactive, hresource⟩
  · exact List.mem_finRange i
  · rw [hg.1.control]
    exact hover hr

theorem fileObjectGuardMergeFences_reaches {mask : UInt32} :
    Keeps (g0.Reaches call) (fileObjectGuardMergeFences mask) := by
  refine Keeps.guard fun _ => locked_reaches fun c => ?_
  have hmore : ∀ r, Names c.fenced r → Names (c.fenced ||| mask) r := by
    intro r hr
    exact names_or.mpr (.inl hr)
  refine Triple.ite (fun _ => Works.pure) fun _ => Triple.start fun s hs => ?_
  refine Triple.ite (fun hgo => ?_) fun _ => ?_
  · refine Triple.bind (Q := fun _ => g0.Reaches call) ?_ fun _ => Triple.ret
    refine ((guardFinish_reaches (fun _ h => h) fun epoch hepoch => ?_).post
      fun _ g h => h.2.1.reaches).pre fun t ht => ht ▸ hs
    exact retires_retired hs.valid hgo.1 hepoch hmore (by simp)
  · exact (Works.write (carries_fenced hs.valid hmore)).pre fun t ht => ht ▸ hs

theorem retires_verified {epoch : UInt64} (hvalid : guardControlValid c = true)
    (hactive : c.active = true) (hepoch : epoch ≠ 0) (hverifies : call.Verifies c) :
    c.Retires call { GuardControl.retired
      { c with fenced := c.fenced &&& ~~~resourceBit c.resource } false with epoch := epoch } := by
  refine ⟨hactive, rfl, guardControlValid_retired hepoch, rfl, ?_, fun _ => .inr (.inr hverifies)⟩
  intro r hr
  by_cases hother : r = c.resource
  · exact .inr ⟨hverifies, hother⟩
  · exact .inl (names_kept (guardControlValid_active hvalid hactive) hother hr)

theorem fileObjectGuardRepairFinish_reaches {verified : Bool} :
    Triple (g0.Reaches (.repairFinish token owner verified nowMs))
      (fileObjectGuardRepairFinish token owner verified nowMs)
      (fun _ g => g0.Reaches (.repairFinish token owner verified nowMs) g ∧ g.control.active = false)
      (fun _ => g0.Reaches (.repairFinish token owner verified nowMs)) := by
  refine refused_reaches fun _ => locked_reaches fun _ => Works.expire_bind fun c hon => ?_
  refine Works.refuse_bind fun hlive => Works.refuse_bind fun howner => ?_
  refine Works.refuse_bind fun hdone => ?_
  obtain ⟨hactive, hgeneration⟩ := token_live hlive
  rw [not_or, not_not, not_not] at howner
  obtain ⟨rfl, hearly⟩ := hon hactive
  refine Triple.start fun s hs => ?_
  refine Triple.bind ((guardFinish_reaches (fun _ h => h) fun epoch hepoch => ?_).pre
    fun t ht => ht ▸ hs) fun c' => Triple.pure fun g hg => ?_
  rotate_left
  · exact ⟨hg.2.1.reaches, by rw [hg.2.1.control, hg.2.2]⟩
  cases verified with
  | false =>
    exact retires_retired hs.valid hactive hepoch (fun _ h => h) (by simp)
  | true =>
    simp only [true_and, not_or] at hdone
    exact retires_verified hs.valid hactive hepoch
      ⟨token, owner, nowMs, rfl, howner.2, hgeneration, howner.1, hearly, by simpa using hdone.1,
        by simpa using hdone.2⟩

theorem fileObjectGuardPoll_reaches (h : g0.Reaches call s1) :
    Triple (· = s1) (fileObjectGuardPoll nowMs)
      (fun _ s => g0.Reaches call s ∧ (s1.control.deadlineMs ≤ nowMs → s.control.active = false))
      (fun _ => g0.Reaches call) := by
  refine locked_works (fun s hs => hs ▸ h) fun s hs => Works.expire_bind fun c hon => ?_
  obtain rfl := hs
  refine Triple.pure fun t ht => ⟨ht.reaches, fun hlate => ?_⟩
  rw [ht.control]
  by_contra hlive
  obtain ⟨-, hearly⟩ := hon (by simpa using hlive)
  exact absurd hearly (UInt64.not_lt.mpr hlate)

theorem fileObjectGuardFenced_reaches : Keeps (g0.Reaches call) fileObjectGuardFenced :=
  locked_reaches fun _ => Works.pure

end End

theorem beginning_reaches {x : Guard UInt32} (h : Triple (g0.Reaches call) x
    (fun token s => g0.Reaches call s ∧ GuardBegun call token s) (fun _ => g0.Reaches call)) :
    Keeps (g0.Reaches call) x :=
  h.post fun _ _ h => h.1

theorem exec_reaches : Keeps (g0.Reaches call) call.exec := by
  cases call with
  | snapshot nowMs => exact ignored_reaches fileObjectGuardSnapshot_reaches
  | pin key service client epoch nowMs => exact fileObjectGuardPin_reaches.post fun _ _ h => h.1
  | lookup token service client nowMs => exact ignored_reaches fileObjectGuardLookup_reaches
  | release token service client =>
    exact ignored_reaches (Triple.start fun s hs => (fileObjectGuardRelease_reaches hs).post
      fun _ _ h => h.1)
  | legacyEnter nowMs => exact ignored_reaches fileObjectGuardLegacyEnter_reaches
  | canOpen resource nowMs => exact ignored_reaches fileObjectGuardCanOpen_reaches
  | keyBusy key nowMs => exact ignored_reaches fileObjectGuardKeyBusy_reaches
  | count resource nowMs detach => exact ignored_reaches guardCount_reaches
  | beginMode keys flags owner epoch nowMs deadlineMs =>
    exact beginning_reaches (fileObjectGuardBeginMode_reaches trivial fun h => h)
  | beginOwned key service borrow epoch nowMs deadlineMs =>
    exact beginning_reaches (fileObjectGuardBeginOwned_reaches trivial)
  | ownedRequest service token resource nowMs =>
    exact ignored_reaches fileObjectGuardOwnedRequest_reaches
  | context owner token => exact ignored_reaches fileObjectGuardContext_reaches
  | mutationEnd token owner outcome nowMs =>
    exact ignored_reaches (fileObjectGuardEnd_reaches.post fun _ _ h => h.1)
  | mutationAuthorized owner resource nowMs =>
    exact ignored_reaches fileObjectGuardMutationAuthorized_reaches
  | journalIo owner token resource mark nowMs =>
    exact ignored_reaches (guardJournalIo_reaches fun c => by
      simp [FileObjectGuardCall.Ends, FileObjectGuardCall.Verifies])
  | journalProbe owner token resource nowMs =>
    exact ignored_reaches (fileObjectGuardJournalProbe_reaches fun c => by
      simp [FileObjectGuardCall.Ends, FileObjectGuardCall.Verifies])
  | cancelUndelivered token service =>
    exact ignored_reaches (fileObjectGuardCancelUndelivered_reaches.post fun _ _ h => h.1)
  | cleanup owner =>
    exact ignored_reaches (Triple.start fun s hs => (fileObjectGuardCleanup_reaches hs).post
      fun _ _ h => h.1)
  | ownerAt slot => exact ignored_reaches fileObjectGuardOwnerAt_reaches
  | revokeMedia resource =>
    exact ignored_reaches (Triple.start fun s hs => (fileObjectGuardRevokeMedia_reaches hs).post
      fun _ _ h => h.1)
  | mergeFences mask => exact ignored_reaches fileObjectGuardMergeFences_reaches
  | repairBegin resource owner epoch nowMs deadlineMs =>
    exact beginning_reaches (fileObjectGuardRepairBegin_reaches trivial)
  | repairFinish token owner verified nowMs =>
    exact ignored_reaches (fileObjectGuardRepairFinish_reaches.post fun _ _ h => h.1)
  | poll nowMs =>
    exact ignored_reaches (Triple.start fun s hs => (fileObjectGuardPoll_reaches hs).post
      fun _ _ h => h.1)
  | fenced => exact fileObjectGuardFenced_reaches

end ReistOs
