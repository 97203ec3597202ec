import ReistOs.FileObjectGuard

/-! Fences are sticky: what the calls of the guard leave of its fences and of a repair
reservation. -/

namespace ReistOs

open Attempt

variable {r k : Nat} {mask : UInt32}

theorem not_names_cleared (hr : r < 32) : ¬ Names (mask &&& ~~~resourceBit r) r := by
  have hb : Names (resourceBit r) r := (names_bit hr).mpr rfl
  unfold Names at hb ⊢
  simp [hb]

theorem names_kept (hr : r < 32) (hk : k ≠ r) (h : Names mask k) :
    Names (mask &&& ~~~resourceBit r) k :=
  names_and_not h fun hb => hk ((names_bit hr).mp hb)

/-- `c'` is the repair reservation `c` went on, written to only where `M` allows. -/
structure GuardControl.Continues (M : FileObjectOwner → UInt32 → Nat → Prop) (c' c : GuardControl) : Prop where
  active : c.active = true
  repair : c.mode = .repair
  owner : c'.owner = c.owner
  resource : c'.resource = c.resource
  generation : c'.generation = c.generation
  attempted : c'.attempted = true → c.attempted = true ∨ M c.owner c.generation c.resource

/-- No fence is lifted and no repair reservation is made. -/
structure GuardRetains (M : FileObjectOwner → UInt32 → Nat → Prop) (g g' : FileObjectGuard) : Prop where
  fenced : ∀ r, Names g.control.fenced r → Names g'.control.fenced r
  poisoned : g.poisoned = true → g'.poisoned = true
  repair : g'.control.active = true → g'.control.mode = .repair → g'.control.Continues M g.control

section Relation

variable {M N : FileObjectOwner → UInt32 → Nat → Prop} {g g0 g' : FileObjectGuard} {c c' : GuardControl}

theorem GuardRetains.refl : GuardRetains M g g :=
  ⟨fun _ h => h, fun h => h, fun ha hr => ⟨ha, hr, rfl, rfl, rfl, Or.inl⟩⟩

theorem GuardRetains.trans (h : GuardRetains M g0 g) (h' : GuardRetains M g g') : GuardRetains M g0 g' := by
  refine ⟨fun r hr => h'.fenced r (h.fenced r hr), fun hp => h'.poisoned (h.poisoned hp), ?_⟩
  intro ha hr
  have later := h'.repair ha hr
  have earlier := h.repair later.active later.repair
  refine ⟨earlier.active, earlier.repair, later.owner.trans earlier.owner, later.resource.trans earlier.resource,
    later.generation.trans earlier.generation, fun hw => ?_⟩
  rcases later.attempted hw with hw | hw
  · exact earlier.attempted hw
  · rw [earlier.owner, earlier.generation, earlier.resource] at hw
    exact Or.inr hw

/-- A later control record that fences no less and goes on with no other repair. -/
structure GuardControl.Succeeds (M : FileObjectOwner → UInt32 → Nat → Prop) (c' c : GuardControl) : Prop where
  fenced : ∀ r, Names c.fenced r → Names c'.fenced r
  repair : c'.active = true → c'.mode = .repair → c'.Continues M c

theorem GuardControl.Succeeds.retired {u : Bool} {e : UInt64}
    (hc : ∀ r, Names c.fenced r → Names c'.fenced r) :
    GuardControl.Succeeds M { c'.retired u with epoch := e } c := by
  refine ⟨fun r hr => ?_, fun ha => absurd ha (by simp [GuardControl.retired])⟩
  cases u with
  | true => exact names_or.mpr (Or.inl (hc r hr))
  | false => exact hc r hr

theorem GuardControl.Succeeds.epoch {e : UInt64} : GuardControl.Succeeds M { c with epoch := e } c :=
  ⟨fun _ h => h, fun ha hr => ⟨ha, hr, rfl, rfl, rfl, Or.inl⟩⟩

theorem GuardRetains.written (h : GuardRetains M g0 g) (hc : c.Succeeds M g.control) :
    GuardRetains M g0 { g with control := c } :=
  h.trans ⟨hc.fenced, fun hp => hp, hc.repair⟩

end Relation

/-- The predicate looks at the control record only, and a poisoned guard may satisfy it as well. -/
def OfControl (P : FileObjectGuard → Prop) : Prop :=
  ∀ g g' : FileObjectGuard, g'.control = g.control → (g.poisoned = true → g'.poisoned = true) → P g → P g'

/-- The guard retains what it had at `g0`, and its control record is `c`. -/
def At (M : FileObjectOwner → UInt32 → Nat → Prop) (g₀ : FileObjectGuard) (c : GuardControl)
    (g : FileObjectGuard) : Prop := GuardRetains M g₀ g ∧ g.control = c

section Records

variable {α : Type} {P : FileObjectGuard → Prop} {M : FileObjectOwner → UInt32 → Nat → Prop}
  {g0 : FileObjectGuard} {c c' : GuardControl}

theorem ofControl_retains : OfControl (GuardRetains M g0) := by
  intro g g' hc hp h
  refine ⟨fun r hr => ?_, fun h0 => hp (h.poisoned h0), fun ha hr => ?_⟩
  · rw [hc]
    exact h.fenced r hr
  · rw [hc] at ha hr ⊢
    exact h.repair ha hr

theorem ofControl_at : OfControl (At M g0 c) := fun g g' hc hp h =>
  ⟨ofControl_retains g g' hc hp h.1, hc.trans h.2⟩

theorem guardPoison_fails {Q : α → FileObjectGuard → Prop} (hP : OfControl P) :
    Triple P (guardPoison : Guard α) Q (fun _ => P) := by
  have hset : Keeps P (Attempt.modify fun g => { g with poisoned := true } : Guard Unit) :=
    Keeps.modify fun g hg => hP g _ rfl (fun _ => rfl) hg
  exact Triple.bind hset fun _ => Triple.fail fun _ h => h

theorem keeps_guardPoison (hP : OfControl P) : Keeps P (guardPoison : Guard α) := guardPoison_fails hP

theorem keeps_guardLock : Keeps P guardLock := Keeps.draw.bind fun _ => Keeps.refuse

section

variable (hP : OfControl P)
include hP

theorem keeps_guardRead {part : FileObjectGuard → α} {valid : α → Bool} :
    Keeps P (guardRead part valid) :=
  Keeps.get.bind fun _ => Keeps.guard fun _ => keeps_guardPoison hP

theorem keeps_guardWrite {put : FileObjectGuard → FileObjectGuard}
    (hc : ∀ g, (put g).control = g.control) (hp : ∀ g, (put g).poisoned = g.poisoned) :
    Keeps P (guardWrite put) := by
  refine Keeps.draw.bind fun _ => Keeps.ite (fun _ => Keeps.modify fun g hg => ?_) fun _ => keeps_guardPoison hP
  exact hP g _ (hc g) (fun h => (hp g).trans h) hg

variable {slot : Fin fileObjectGuardCapacity}

theorem keeps_guardPinRead : Keeps P (guardPinRead slot) := keeps_guardRead hP

theorem keeps_guardPinWrite {pin : GuardPin} :
    Keeps P (guardPinWrite slot pin) := keeps_guardWrite hP (fun _ => rfl) fun _ => rfl

theorem keeps_guardPinClear {pin : GuardPin} :
    Keeps P (guardPinClear slot pin) := keeps_guardPinWrite hP

theorem keeps_guardMediaRead {resource : Nat} : Keeps P (guardMediaRead resource) :=
  keeps_guardRead hP

theorem keeps_guardMediaWrite {resource : Nat} {m : UInt32} :
    Keeps P (guardMediaWrite resource m) := keeps_guardWrite hP (fun _ => rfl) fun _ => rfl

theorem keeps_guardScan {refusal : Fin fileObjectGuardCapacity → GuardPin → Option Errno} :
    Keeps P (guardScan refusal) := by
  refine Keeps.forEach fun slot _ => (keeps_guardPinRead hP).bind fun pin => ?_
  cases refusal slot pin with
  | none => exact Keeps.pure
  | some e => exact Keeps.fail

theorem keeps_guardTokenRead {token : UInt32} {service client : FileObjectOwner} :
    Keeps P (guardTokenRead token service client) := by
  unfold guardTokenRead
  cases tokenSlot token with
  | none => exact Keeps.fail
  | some slot =>
    exact Keeps.refuse.bind fun _ => (keeps_guardPinRead hP).bind fun _ => Keeps.refuse.bind fun _ =>
      Keeps.refuse.bind fun _ => Keeps.pure

theorem keeps_guardBorrowedSlot {key : FileObjectKey} {owner : FileObjectOwner}
    {borrow : BorrowedPin} : Keeps P (guardBorrowedSlot key owner borrow) :=
  Keeps.guard fun _ => (keeps_guardTokenRead hP).bind fun _ => Keeps.refuse.bind fun _ =>
    Keeps.refuse.bind fun _ => (keeps_guardMediaRead hP).bind fun _ => Keeps.refuse.bind fun _ => Keeps.pure

theorem keeps_guardOwnedPinLive : Keeps P (guardOwnedPinLive c) := by
  refine Keeps.guard fun _ => ?_
  cases tokenSlot c.borrowedPin with
  | none => exact keeps_guardPoison hP
  | some slot =>
    refine (keeps_guardPinRead hP).bind fun pin => Keeps.ite (fun _ => keeps_guardPoison hP) fun _ => ?_
    exact (keeps_guardMediaRead hP).bind fun m => Keeps.ite (fun _ => keeps_guardPoison hP) fun _ => Keeps.pure

theorem guardControlRead_spec :
    Triple P guardControlRead
      (fun c g => P g ∧ g.control = c ∧ g.poisoned = false ∧ guardControlValid c = true) (fun _ => P) := by
  refine Triple.bind (Triple.get (Q := fun g s => P s ∧ s = g) fun s hs => ⟨hs, rfl⟩) fun g => ?_
  refine Triple.ite (fun _ => (guardPoison_fails hP).pre fun s hs => hs.1) fun hpoison => ?_
  refine Triple.bind (Triple.get (Q := fun g' s => (P s ∧ s = g) ∧ s = g') fun s hs => ⟨hs, rfl⟩) fun g' => ?_
  refine Triple.ite (fun hok => Triple.pure fun s hs => ?_) fun _ => (guardPoison_fails hP).pre fun s hs => hs.1.1
  obtain ⟨⟨hs, rfl⟩, rfl⟩ := hs
  exact ⟨hs, rfl, Bool.eq_false_iff.mpr hpoison, hok⟩

end

theorem guardControlRead_at :
    Triple (GuardRetains M g0) guardControlRead (fun c => At M g0 c) (fun _ => GuardRetains M g0) :=
  (guardControlRead_spec ofControl_retains).post fun _ _ h => ⟨h.1, h.2.1⟩

theorem guardControlWrite_done (hP : OfControl P) :
    Triple P (guardControlWrite c') (fun _ s => ∃ g, P g ∧ s = { g with control := c' }) (fun _ => P) := by
  refine Triple.bind (Triple.draw (Q := fun _ => P) fun _ s hs => hs) fun stored => ?_
  exact Triple.ite (fun _ => Triple.modify fun g hg => ⟨g, hg, rfl⟩) fun _ => guardPoison_fails hP

theorem guardControlWrite_at (hc : c'.Succeeds M c) :
    Triple (At M g0 c) (guardControlWrite c') (fun _ => At M g0 c') (fun _ => GuardRetains M g0) := by
  refine (guardControlWrite_done ofControl_at).ends (fun _ s h => ?_) fun _ _ h => h.1
  obtain ⟨g, hg, rfl⟩ := h
  exact ⟨hg.1.written (hg.2.symm ▸ hc), rfl⟩

end Records

section Calls

variable {α : Type} {M : FileObjectOwner → UInt32 → Nat → Prop} {g0 : FileObjectGuard} {c c' : GuardControl}

theorem epoch_succ_ne_zero {e : UInt64} (he : ¬ e = 0xffffffffffffffff) : e + 1 ≠ 0 :=
  fun h0 => UInt64.not_lt_zero (h0 ▸ UInt64.lt_add_one he)

variable {P : FileObjectGuard → Prop} {u : Bool} {nowMs : UInt64}

theorem guardEpochAdvance_spec (hP : OfControl P) :
    Triple P (guardEpochAdvance c)
      (fun c' s => P s ∧ (c' = { c with epoch := c.epoch + 1 } ∧ c'.epoch ≠ 0)) (fun _ => P) :=
  Triple.ite (fun _ => guardPoison_fails hP) fun he => Triple.pure fun _ hs => ⟨hs, rfl, epoch_succ_ne_zero he⟩

theorem guardFinish_done (hP : OfControl P) :
    Triple P (guardFinish c u)
      (fun c' s => (c' = { c.retired u with epoch := c'.epoch } ∧ c'.epoch ≠ 0) ∧
        ∃ g, P g ∧ s = { g with control := c' }) (fun _ => P) := by
  refine Triple.learn (guardEpochAdvance_spec hP) fun c' hc' => ?_
  refine Triple.bind (guardControlWrite_done hP) fun _ => Triple.pure fun s hs => ⟨⟨?_, hc'.2⟩, hs⟩
  rw [hc'.1]

theorem guardFinish_at (hc : ∀ r, Names c.fenced r → Names c'.fenced r) :
    Triple (At M g0 c) (guardFinish c' u)
      (fun c'' s => At M g0 c'' s ∧ c'' = { c'.retired u with epoch := c''.epoch }) (fun _ => GuardRetains M g0) := by
  refine (guardFinish_done ofControl_at).ends (fun c'' s hs => ⟨?_, hs.1.1⟩) fun _ _ h => h.1
  obtain ⟨⟨hc'', -⟩, g, hg, rfl⟩ := hs
  refine ⟨hg.1.written ?_, rfl⟩
  rw [hg.2, hc'']
  exact GuardControl.Succeeds.retired hc

theorem guardExpire_at :
    Triple (At M g0 c) (guardExpire c nowMs) (fun c' => At M g0 c') (fun _ => GuardRetains M g0) :=
  Triple.ite (fun _ => (guardFinish_at fun _ h => h).post fun _ _ h => h.1) fun _ => Triple.pure fun _ hs => hs

theorem guardExpire_cases :
    Triple (At M g0 c) (guardExpire c nowMs)
      (fun c' s => At M g0 c' s ∧ (c' = c ∨ c'.active = false ∧ c'.attempted = false)) (fun _ => GuardRetains M g0) := by
  refine Triple.ite (fun _ => (guardFinish_at fun _ h => h).post fun c' s h => ⟨h.1, Or.inr ?_⟩) fun _ =>
    Triple.pure fun s hs => ⟨hs, Or.inl rfl⟩
  rw [h.2]
  exact ⟨rfl, rfl⟩

theorem refuse_at {p : Prop} [Decidable p] {e : Errno} :
    Triple (At M g0 c) (refuse p e : Guard Unit) (fun _ s => At M g0 c s ∧ ¬ p) (fun _ => GuardRetains M g0) :=
  Triple.refuse (fun _ hs _ => hs.1) fun _ hs hn => ⟨hs, hn⟩

theorem Keeps.at_ {x : Guard α} (h : ∀ P, OfControl P → Keeps P x) :
    Triple (At M g0 c) x (fun _ => At M g0 c) (fun _ => GuardRetains M g0) :=
  (h (At M g0 c) ofControl_at).errors fun _ _ h => h.1

end Calls

/-- From a guard whose control record is `c`, whatever comes of the program is retained. -/
def Follows {α : Type} (M : FileObjectOwner → UInt32 → Nat → Prop) (g₀ : FileObjectGuard) (c : GuardControl)
    (x : Guard α) : Prop := Triple (At M g₀ c) x (fun _ => GuardRetains M g₀) (fun _ => GuardRetains M g₀)

section Follows

variable {α β : Type} {M : FileObjectOwner → UInt32 → Nat → Prop} {g0 : FileObjectGuard} {c c' : GuardControl}
  {x : Guard α} {f : α → Guard β}

theorem Follows.pure {a : α} : Follows M g0 c (pure a : Guard α) := Triple.pure fun _ hs => hs.1

variable {e : Errno} {p : Prop} {nowMs : UInt64} {u : Bool}

theorem Follows.fail : Follows M g0 c (fail e : Guard α) := Triple.fail fun _ hs => hs.1

theorem Follows.refuse [Decidable p] : Follows M g0 c (refuse p e : Guard Unit) :=
  refuse_at.post fun _ _ h => h.1.1

theorem Follows.refuse_bind [Decidable p] {f : Unit → Guard β} (hf : Follows M g0 c (f ())) :
    Follows M g0 c (Attempt.refuse p e >>= f) :=
  Triple.bind (refuse_at.post fun _ _ h => h.1) fun _ => hf

theorem Follows.expire_bind {f : GuardControl → Guard β} (hf : ∀ c', Follows M g0 c' (f c')) :
    Follows M g0 c (guardExpire c nowMs >>= f) := Triple.bind guardExpire_at hf

theorem Follows.finish_bind {f : GuardControl → Guard β} (hf : ∀ c', Follows M g0 c' (f c')) :
    Follows M g0 c (guardFinish c u >>= f) :=
  Triple.bind ((guardFinish_at fun _ h => h).post fun _ _ h => h.1) hf

theorem Follows.finishIf_bind [Decidable p] {f : GuardControl → Guard β}
    (hf : ∀ c', Follows M g0 c' (f c')) :
    Follows M g0 c ((if p then guardFinish c u else Pure.pure c) >>= f) := by
  refine Triple.bind (Triple.ite (fun _ => (guardFinish_at fun _ h => h).post fun _ _ h => h.1) fun _ => ?_) hf
  exact Triple.pure fun _ hs => hs

theorem Follows.keeps_bind (hx : ∀ P, OfControl P → Keeps P x) (hf : ∀ a, Follows M g0 c (f a)) :
    Follows M g0 c (x >>= f) := Triple.bind (Keeps.at_ hx) hf

theorem Follows.keeps (hx : ∀ P, OfControl P → Keeps P x) : Follows M g0 c x :=
  (Keeps.at_ hx).post fun _ _ h => h.1

theorem Follows.advance_bind {f : GuardControl → Guard β}
    (hf : Follows M g0 c (f { c with epoch := c.epoch + 1 })) : Follows M g0 c (guardEpochAdvance c >>= f) := by
  refine Triple.bind ((guardEpochAdvance_spec ofControl_at).errors
    fun _ _ h => h.1) fun c' => Triple.start fun s hs => ?_
  obtain ⟨hat, rfl, -⟩ := hs
  exact hf.pre fun t ht => ht ▸ hat

theorem Follows.write (hc : c'.Succeeds M c) : Follows M g0 c (guardControlWrite c') :=
  (guardControlWrite_at hc).post fun _ _ h => h.1

theorem Follows.write_bind (hc : c'.Succeeds M c) {f : Unit → Guard β} (hf : Follows M g0 c' (f ())) :
    Follows M g0 c (guardControlWrite c' >>= f) := Triple.bind (guardControlWrite_at hc) fun _ => hf

theorem keeps_locked {f : GuardControl → Guard β} (hf : ∀ c, Follows M g0 c (f c)) :
    Keeps (GuardRetains M g0) (do guardLock; let c ← guardControlRead; f c) :=
  keeps_guardLock.bind fun _ => Triple.bind guardControlRead_at hf

theorem Follows.admit_bind {resource : Nat} {epoch : UInt64} {f : GuardControl → Guard β}
    (hf : ∀ c', Follows M g0 c' (f c')) :
    Triple (GuardRetains M g0) (guardAdmit resource epoch nowMs >>= f) (fun _ => GuardRetains M g0)
      (fun _ => GuardRetains M g0) := by
  refine Triple.bind (Triple.bind guardControlRead_at fun c => Triple.bind guardExpire_at fun c' => ?_) hf
  refine Triple.bind (refuse_at.post fun _ _ h => h.1) fun _ => ?_
  refine Triple.bind (refuse_at.post fun _ _ h => h.1) fun _ => ?_
  refine Triple.bind (refuse_at.post fun _ _ h => h.1) fun _ => ?_
  exact Triple.pure fun _ hs => hs

end Follows

section Entries

variable {M : FileObjectOwner → UInt32 → Nat → Prop} {g0 : FileObjectGuard}

variable {nowMs deadlineMs : UInt64} {key : FileObjectKey} {service client owner : FileObjectOwner}
  {token flags : UInt32} {resource : Nat} {borrow : BorrowedPin}

theorem fileObjectGuardSnapshot_keeps : Keeps (GuardRetains M g0) (fileObjectGuardSnapshot nowMs) :=
  keeps_locked fun _ => Follows.expire_bind fun _ => Follows.refuse_bind Follows.pure

variable {epoch : UInt64} {keys : List FileObjectKey}

theorem fileObjectGuardPin_keeps :
    Keeps (GuardRetains M g0) (fileObjectGuardPin key service client epoch nowMs) := by
  refine Keeps.refuse.bind fun _ => keeps_guardLock.bind fun _ => Follows.admit_bind fun c => ?_
  refine Follows.keeps_bind (fun _ hP => keeps_guardScan hP) fun _ => ?_
  refine Follows.keeps_bind (fun _ _ => Keeps.get) fun g => Follows.refuse_bind ?_
  split
  · exact Follows.fail
  · refine Follows.keeps_bind (fun _ hP => keeps_guardMediaRead hP) fun _ => ?_
    exact Follows.keeps_bind (fun _ hP => keeps_guardPinWrite hP) fun _ => Follows.pure

theorem fileObjectGuardLookup_keeps :
    Keeps (GuardRetains M g0) (fileObjectGuardLookup token service client nowMs) := by
  refine keeps_locked fun _ => Follows.expire_bind fun _ => ?_
  refine Follows.keeps_bind (fun _ hP => keeps_guardTokenRead hP) fun _ => ?_
  refine Follows.refuse_bind (Follows.refuse_bind ?_)
  refine Follows.keeps_bind (fun _ hP => keeps_guardMediaRead hP) fun _ => ?_
  exact Follows.refuse_bind Follows.pure

theorem fileObjectGuardRelease_keeps :
    Keeps (GuardRetains M g0) (fileObjectGuardRelease token service client) := by
  refine keeps_locked fun c => Follows.keeps_bind (fun _ hP => keeps_guardTokenRead hP) fun p => ?_
  refine Follows.finishIf_bind fun _ => Follows.keeps fun P hP => ?_
  exact Keeps.ite (fun _ => keeps_guardPinClear hP) fun _ => Keeps.pure

theorem fileObjectGuardLegacyEnter_keeps :
    Keeps (GuardRetains M g0) (fileObjectGuardLegacyEnter nowMs) :=
  keeps_locked fun _ => Follows.expire_bind fun _ => Follows.refuse_bind (Follows.refuse_bind
    (Follows.advance_bind (Follows.write GuardControl.Succeeds.epoch)))

theorem fileObjectGuardCanOpen_keeps :
    Keeps (GuardRetains M g0) (fileObjectGuardCanOpen resource nowMs) :=
  Keeps.refuse.bind fun _ => keeps_locked fun _ => Follows.expire_bind fun _ =>
    Follows.refuse_bind Follows.refuse

theorem fileObjectGuardKeyBusy_keeps :
    Keeps (GuardRetains M g0) (fileObjectGuardKeyBusy key nowMs) :=
  Keeps.refuse.bind fun _ => keeps_locked fun _ => Follows.expire_bind fun _ => Follows.refuse_bind
    (Follows.refuse_bind (Follows.keeps fun _ hP => keeps_guardScan hP))

theorem guardCount_keeps {detach : Bool} :
    Keeps (GuardRetains M g0) (guardCount resource nowMs detach) := by
  refine Keeps.refuse.bind fun _ => keeps_locked fun _ => Follows.expire_bind fun _ => ?_
  refine Follows.refuse_bind (Follows.refuse_bind ?_)
  refine Follows.keeps_bind (fun _ hP => keeps_guardScan hP) fun _ => ?_
  exact Follows.keeps_bind (fun _ _ => Keeps.get) fun _ => Follows.pure

theorem fileObjectGuardDetachReady_keeps :
    Keeps (GuardRetains M g0) (fileObjectGuardDetachReady resource nowMs) :=
  guardCount_keeps.bind fun _ => Keeps.refuse

theorem guardReserve_keeps :
    Keeps (GuardRetains M g0) (guardReserve keys key flags owner epoch nowMs deadlineMs borrow) := by
  refine Follows.admit_bind fun c => Follows.keeps_bind (fun _ hP => keeps_guardBorrowedSlot hP) fun slot => ?_
  refine Follows.keeps_bind (fun _ hP => keeps_guardScan hP) fun _ => Follows.refuse_bind ?_
  refine Follows.advance_bind ?_
  apply Follows.write_bind
  · refine ⟨fun _ h => h, fun _ hr => ?_⟩
    split at hr <;> cases hr
  · exact Follows.pure

theorem guardBegin_keeps :
    Keeps (GuardRetains M g0) (guardBegin keys flags owner epoch nowMs deadlineMs borrow) := by
  refine Keeps.refuse.bind fun _ => keeps_guardLock.bind fun _ => ?_
  cases keys with
  | nil => exact Keeps.fail
  | cons key rest => exact guardReserve_keeps

theorem fileObjectGuardBeginOwned_keeps :
    Keeps (GuardRetains M g0) (fileObjectGuardBeginOwned key service borrow epoch nowMs deadlineMs) :=
  Keeps.refuse.bind fun _ => guardBegin_keeps

theorem fileObjectGuardContext_keeps :
    Keeps (GuardRetains M g0) (fileObjectGuardContext owner token) :=
  Keeps.refuse.bind fun _ => keeps_locked fun _ => Follows.refuse_bind (Follows.refuse_bind
    (Follows.keeps_bind (fun _ hP => keeps_guardOwnedPinLive hP) fun _ => Follows.pure))

theorem fileObjectGuardEnd_keeps {outcome : MutationOutcome} :
    Keeps (GuardRetains M g0) (fileObjectGuardEnd token owner outcome nowMs) := by
  refine Keeps.refuse.bind fun _ => keeps_locked fun _ => Follows.expire_bind fun _ => ?_
  refine Follows.refuse_bind (Follows.refuse_bind ?_)
  refine Follows.keeps_bind (fun _ hP => keeps_guardOwnedPinLive hP) fun _ => ?_
  exact Follows.refuse_bind (Follows.finish_bind fun _ => Follows.pure)

theorem fileObjectGuardMutationAuthorized_keeps :
    Keeps (GuardRetains M g0) (fileObjectGuardMutationAuthorized owner resource nowMs) :=
  Keeps.refuse.bind fun _ => keeps_locked fun _ => Follows.expire_bind fun _ => Follows.refuse_bind
    (Follows.refuse_bind (Follows.refuse_bind Follows.refuse))

theorem fileObjectGuardCancelUndelivered_keeps :
    Keeps (GuardRetains M g0) (fileObjectGuardCancelUndelivered token service) :=
  Keeps.refuse.bind fun _ => keeps_locked fun _ => Follows.refuse_bind (Follows.refuse_bind
    (Follows.refuse_bind (Follows.finish_bind fun _ => Follows.pure)))

theorem guardCleanupPins_follows {slots : List (Fin fileObjectGuardCapacity)} {c : GuardControl} :
    Follows M g0 c (guardCleanupPins owner slots c) := by
  induction slots generalizing c with
  | nil => exact Follows.pure
  | cons slot rest ih =>
    refine Follows.keeps_bind (fun _ hP => keeps_guardPinRead hP) fun pin => Triple.ite (fun _ => ?_) fun _ => ih
    exact Follows.finishIf_bind fun _ => Follows.keeps_bind (fun _ hP => keeps_guardPinClear hP) fun _ => ih

theorem fileObjectGuardCleanup_keeps :
    Keeps (GuardRetains M g0) (fileObjectGuardCleanup owner) :=
  Keeps.refuse.bind fun _ => keeps_locked fun _ => Follows.finishIf_bind fun _ => guardCleanupPins_follows

theorem fileObjectGuardOwnerAt_keeps {slot : Option (Fin fileObjectGuardCapacity)} :
    Keeps (GuardRetains M g0) (fileObjectGuardOwnerAt slot) := by
  refine keeps_locked fun c => ?_
  cases slot with
  | none => exact Follows.pure
  | some i => exact Follows.keeps_bind (fun _ hP => keeps_guardPinRead hP) fun _ => Follows.pure

theorem fileObjectGuardRevokeMedia_keeps :
    Keeps (GuardRetains M g0) (fileObjectGuardRevokeMedia resource) := by
  refine Keeps.refuse.bind fun _ => keeps_locked fun c => Follows.finishIf_bind fun c' => ?_
  refine Follows.advance_bind (Follows.write_bind GuardControl.Succeeds.epoch ?_)
  refine Follows.keeps_bind (fun _ hP => keeps_guardMediaRead hP) fun media => ?_
  refine Follows.keeps_bind (fun _ hP => Keeps.ite (fun _ => keeps_guardPoison hP) fun _ => Keeps.pure) fun _ => ?_
  refine Follows.keeps_bind (fun _ hP => keeps_guardMediaWrite hP) fun _ => Follows.keeps fun P hP => ?_
  refine Keeps.forEach fun slot _ => (keeps_guardPinRead hP).bind fun pin => ?_
  exact Keeps.ite (fun _ => keeps_guardPinClear hP) fun _ => Keeps.pure

theorem fileObjectGuardMergeFences_keeps {mask : UInt32} :
    Keeps (GuardRetains M g0) (fileObjectGuardMergeFences mask) := by
  refine Keeps.guard fun _ => keeps_locked fun c => Triple.ite (fun _ => Follows.pure) fun _ => ?_
  have hmore : ∀ r, Names c.fenced r → Names (c.fenced ||| mask) r := fun r hr => names_or.mpr (Or.inl hr)
  refine Triple.ite (fun _ => ?_) fun _ => ?_
  · exact Triple.bind ((guardFinish_at hmore).post fun _ _ h => h.1) fun _ => Follows.pure
  · exact Follows.write ⟨hmore, fun ha hr => ⟨ha, hr, rfl, rfl, rfl, Or.inl⟩⟩

theorem fileObjectGuardPoll_keeps : Keeps (GuardRetains M g0) (fileObjectGuardPoll nowMs) :=
  keeps_locked fun _ => Follows.expire_bind fun _ => Follows.pure

theorem fileObjectGuardFenced_keeps : Keeps (GuardRetains M g0) fileObjectGuardFenced :=
  keeps_locked fun _ => Follows.pure

theorem fileObjectGuardRepairFinish_keeps :
    Keeps (GuardRetains M g0) (fileObjectGuardRepairFinish token owner false nowMs) :=
  Keeps.refuse.bind fun _ => keeps_locked fun _ => Follows.expire_bind fun _ => Follows.refuse_bind
    (Follows.refuse_bind (Follows.refuse_bind (Follows.finish_bind fun _ => Follows.pure)))

end Entries

/-- The guard's reservation is the one an owner asks for. -/
structure FileObjectGuard.Reserved (g : FileObjectGuard) (owner : FileObjectOwner) (token : UInt32)
    (resource : Nat) : Prop where
  active : g.control.active = true
  owner : g.control.owner = owner
  generation : g.control.generation = token
  resource : g.control.resource = resource

variable {M : FileObjectOwner → UInt32 → Nat → Prop} {g0 : FileObjectGuard} {owner : FileObjectOwner}
  {token : UInt32} {resource : Nat} {nowMs : UInt64}

variable {c : GuardControl} {mark : JournalMark} {probe u : Bool}

theorem guardProbe_keeps {P : FileObjectGuard → Prop} (hP : OfControl P) :
    Keeps P (guardProbe c owner token nowMs) :=
  Keeps.refuse.bind fun _ => Keeps.refuse.bind fun _ => (keeps_guardOwnedPinLive hP).bind fun _ => Keeps.refuse

theorem guardJournalIo_marks :
    Triple (fun g => GuardRetains M g0 g ∧
        (mark = .write → g.control.active = true → g.control.mode = .repair → M owner token resource))
      (guardJournalIo owner token resource mark nowMs probe)
      (fun p s => GuardRetains M g0 s ∧ s.Reserved owner token resource ∧ p.2 = s.control.context)
      (fun _ => GuardRetains M g0) := by
  have hP : OfControl fun g => GuardRetains M g0 g ∧
      (mark = .write → g.control.active = true → g.control.mode = .repair → M owner token resource) := fun g g' hc hp h =>
    ⟨ofControl_retains g g' hc hp h.1, by rw [hc]; exact h.2⟩
  refine Triple.bind (Keeps.refuse.errors fun _ _ h => h.1) fun _ => ?_
  refine Triple.bind (keeps_guardLock.errors fun _ _ h => h.1) fun _ => ?_
  refine Triple.bind ((guardControlRead_spec hP).ends
    (fun c s h => And.intro (And.intro h.1.1 h.2.1 : At M g0 c s) (h.2.1 ▸ h.1.2)) fun _ _ h => h.1) fun c => ?_
  refine Triple.fact fun hmark => ?_
  refine Triple.bind (Keeps.at_ fun P hP => Keeps.ite (fun _ => guardProbe_keeps hP) fun _ => Keeps.pure) fun _ => ?_
  refine Triple.learn guardExpire_cases fun c' hc' => ?_
  refine Triple.bind (refuse_at.post fun _ _ h => h.1) fun _ => ?_
  refine Triple.learn refuse_at fun _ hlive => ?_
  refine Triple.learn refuse_at fun _ howner => ?_
  refine Triple.bind (Keeps.at_ fun P hP => Keeps.guard fun _ => keeps_guardOwnedPinLive hP)
    fun _ => ?_
  have hactive : c'.active = true := by
    by_contra hn
    exact hlive (Or.inl (by simpa using hn))
  have hsame : c' = c := hc'.resolve_right fun hidle => absurd hactive (by simp [hidle.1])
  have hgen : c'.generation = token := not_not.mp fun hn => hlive (Or.inr hn)
  have hown : c'.owner = owner := not_not.mp fun hn => howner (Or.inl hn)
  have hres : c'.resource = resource := not_not.mp fun hn => howner (Or.inr (Or.inl hn))
  have hmarked : (c'.marked mark).Succeeds M c' := by
    refine ⟨fun r hr => by cases mark <;> exact hr, fun ha hr => ?_⟩
    have hmode : c'.mode = .repair := by cases mark <;> exact hr
    refine ⟨hactive, hmode, by cases mark <;> rfl, by cases mark <;> rfl, by cases mark <;> rfl, fun hw => ?_⟩
    cases mark with
    | check => exact Or.inl hw
    | flushed => exact Or.inl hw
    | write =>
      rw [hown, hgen, hres]
      exact Or.inr (hmark rfl (hsame ▸ hactive) (hsame ▸ hmode))
  have hwritten : Triple (At M g0 c') (if c'.marked mark = c' then pure () else guardControlWrite (c'.marked mark))
      (fun _ => At M g0 (c'.marked mark)) (fun _ => GuardRetains M g0) :=
    Triple.ite (fun heq => Triple.pure fun s hs => heq.symm ▸ hs) fun _ => guardControlWrite_at hmarked
  refine Triple.bind hwritten fun _ => Triple.pure fun s hs => ⟨hs.1, ?_, by rw [hs.2]⟩
  refine ⟨?_, ?_, ?_, ?_⟩ <;> rw [hs.2]
  · cases mark <;> exact hactive
  · cases mark <;> exact hown
  · cases mark <;> exact hgen
  · cases mark <;> exact hres

theorem guardJournalIo_keeps (hm : mark ≠ .write) :
    Keeps (GuardRetains M g0) (guardJournalIo owner token resource mark nowMs probe) :=
  guardJournalIo_marks.weaken (fun _ h => ⟨h, fun hw => absurd hw hm⟩) (fun _ _ h => h.1) fun _ _ h => h

theorem guardControlValid_quiet (hvalid : guardControlValid c = true) (hidle : c.active = false) :
    c.attempted = false ∧ c.pending = false ∧ c.borrowedPin = 0 ∧ c.requestHandle = 0 := by
  have hrest := (Bool.and_eq_true _ _ ▸ hvalid).2
  rw [hidle, if_neg Bool.false_ne_true] at hrest
  simp only [Bool.and_eq_true, Bool.not_eq_true', beq_iff_eq] at hrest
  exact ⟨hrest.1.1.1.2, hrest.1.1.2, hrest.1.2, hrest.2⟩

theorem guardControlValid_retired {e : UInt64} (he : e ≠ 0) :
    guardControlValid { c.retired u with epoch := e } = true := by
  simp [guardControlValid, GuardControl.retired, he]

theorem generation_succ_ne_zero {n : UInt32} (hn : ¬ n = 0xffffffff) : n + 1 ≠ 0 :=
  fun h0 => UInt32.not_lt_zero (h0 ▸ UInt32.lt_add_one hn)

theorem fileObjectGuardContext_reserved :
    Triple (GuardRetains M g0) (fileObjectGuardContext owner token)
      (fun context s => GuardRetains M g0 s ∧ s.Reserved owner token s.control.resource ∧ context = s.control.context)
      (fun _ => GuardRetains M g0) := by
  refine Triple.bind Keeps.refuse fun _ => ?_
  refine Triple.bind keeps_guardLock fun _ => Triple.bind guardControlRead_at fun c => ?_
  refine Triple.learn refuse_at fun _ hlive => ?_
  refine Triple.learn refuse_at fun _ howner => ?_
  refine Triple.bind (Keeps.at_ fun P hP => keeps_guardOwnedPinLive hP) fun _ => ?_
  refine Triple.pure fun s hs => ⟨hs.1, ⟨?_, ?_, ?_, rfl⟩, by rw [hs.2]⟩ <;> rw [hs.2]
  · by_contra hn
    exact hlive (Or.inl (by simpa using hn))
  · exact not_not.mp howner
  · exact not_not.mp fun hn => hlive (Or.inr hn)

/-- What a begun repair leaves of the guard it found. -/
structure FileObjectGuard.Begun (g₀ g : FileObjectGuard) (owner : FileObjectOwner) (token : UInt32)
    (resource : Nat) : Prop where
  fenced : ∀ r, Names g₀.control.fenced r → Names g.control.fenced r
  reserved : g.Reserved owner token resource
  repair : g.control.mode = .repair
  attempted : g.control.attempted = false
  fence : Names g.control.fenced resource
  token : token ≠ 0
  owner : guardOwnerValid owner = true
  resource : resource < fileObjectGuardResources

theorem fileObjectGuardRepairBegin_begun {epoch deadlineMs : UInt64} :
    Triple (GuardRetains M g0) (fileObjectGuardRepairBegin resource owner epoch nowMs deadlineMs)
      (fun token s => g0.Begun s owner token resource ∧ deadlineMs ≠ 0) (fun _ => GuardRetains M g0) := by
  refine Triple.learn (Triple.refuse (Q := fun _ s => GuardRetains M g0 s ∧ (resource < fileObjectGuardResources ∧
    guardOwnerValid owner = true ∧ deadlineMs ≠ 0)) (fun _ h _ => h) fun s h hn => ⟨h, ?_, ?_, ?_⟩) fun _ hvalid => ?_
  · exact not_le.mp fun hr => hn (Or.inl hr)
  · by_contra ho
    exact hn (Or.inr (Or.inl (by simpa using ho)))
  · rintro rfl
    exact hn (Or.inr (Or.inr (Or.inr (Or.inl (UInt64.zero_le)))))
  refine Triple.bind keeps_guardLock fun _ => ?_
  refine Triple.learn ((guardControlRead_spec ofControl_retains).post
    fun c s h => (⟨⟨h.1, h.2.1⟩, h.2.2.2⟩ : At M g0 c s ∧ _)) fun c hc => ?_
  refine Triple.learn guardExpire_cases fun c' hexpired => ?_
  refine Triple.learn refuse_at fun _ hfenced => ?_
  refine Triple.learn refuse_at fun _ hidle => ?_
  refine Triple.bind (refuse_at.post fun _ _ h => h.1) fun _ => ?_
  refine Triple.bind (Keeps.at_ fun P hP => keeps_guardScan hP) fun _ => ?_
  refine Triple.learn refuse_at fun _ hmax => ?_
  refine Triple.learn ((guardEpochAdvance_spec ofControl_at).errors
    fun _ _ h => h.1) fun c'' hc'' => ?_
  obtain ⟨rfl, -⟩ := hc''
  have hattempted : c'.attempted = false := by
    rcases hexpired with rfl | hexpired
    · exact (guardControlValid_quiet hc (by simpa using hidle)).1
    · exact hexpired.2
  refine Triple.bind ((guardControlWrite_done ofControl_at).errors
    fun _ _ h => h.1) fun _ => Triple.pure fun s hs => ⟨?_, hvalid.2.2⟩
  obtain ⟨g, hg, rfl⟩ := hs
  have hfences : ∀ r, Names g0.control.fenced r → Names c'.fenced r := fun r hr => hg.2 ▸ hg.1.fenced r hr
  refine ⟨hfences, ⟨rfl, rfl, rfl, rfl⟩, rfl, hattempted, not_not.mp hfenced, ?_, hvalid.2.1, hvalid.1⟩
  exact generation_succ_ne_zero hmax

/-- What a verified finish leaves: the reservation it found is retired with its fence. -/
structure FileObjectGuard.Verified (g₀ g : FileObjectGuard) (owner : FileObjectOwner) (token : UInt32)
    (resource : Nat) : Prop where
  reserved : g₀.Reserved owner token resource
  repair : g₀.control.mode = .repair
  attempted : g₀.control.attempted = true
  healthy : g.poisoned = false
  valid : guardControlValid g.control = true
  idle : g.control.active = false
  fenced : g.control.fenced = g₀.control.fenced &&& ~~~resourceBit resource

theorem guardControlWrite_healthy :
    Triple (fun g => g.poisoned = false) (guardControlWrite c) (fun _ g => g.poisoned = false) (fun _ _ => True) := by
  refine Triple.bind (Triple.draw (Q := fun _ g => g.poisoned = false) fun _ _ hg => hg) fun _ => ?_
  refine Triple.ite (fun _ => Triple.modify fun _ hg => hg) fun _ => fun _ _ _ _ => trivial

theorem guardFinish_healthy :
    Triple (fun g => g.poisoned = false) (guardFinish c u) (fun _ g => g.poisoned = false) (fun _ _ => True) := by
  refine Triple.bind (Q := fun _ g => g.poisoned = false) ?_ fun _ =>
    Triple.bind guardControlWrite_healthy fun _ => Triple.ret
  exact Triple.ite (fun _ => fun _ _ _ _ => trivial) fun _ => Triple.ret

theorem guardExpire_healthy :
    Triple (fun g => g.poisoned = false) (guardExpire c nowMs) (fun _ g => g.poisoned = false) (fun _ _ => True) :=
  Triple.ite (fun _ => guardFinish_healthy) fun _ => Triple.ret

theorem fileObjectGuardRepairFinish_verified :
    Triple (GuardRetains M g0) (fileObjectGuardRepairFinish token owner true nowMs)
      (fun _ s => ∃ g1, GuardRetains M g0 g1 ∧ g1.Verified s owner token g1.control.resource) (fun _ => GuardRetains M g0) := by
  refine Triple.bind Keeps.refuse fun _ => Triple.bind keeps_guardLock fun _ => ?_
  refine Triple.bind ((guardControlRead_spec ofControl_retains).post
    fun c s h => (⟨⟨h.1, h.2.1⟩, h.2.2.1⟩ : At M g0 c s ∧ s.poisoned = false)) fun c => ?_
  refine Triple.bind ((guardExpire_cases.and guardExpire_healthy).errors
    fun _ _ h => h.1) fun c' => ?_
  refine Triple.learn (Triple.refuse (Q := fun _ s => (At M g0 c' s ∧ s.poisoned = false) ∧
    (c'.active = true ∧ c'.generation = token)) (fun _ h _ => h.1.1.1) fun s h hn => ⟨⟨h.1.1, h.2⟩, ?_⟩) fun _ hlive => ?_
  · refine ⟨?_, not_not.mp fun hg => hn (Or.inr hg)⟩
    by_contra ha
    exact hn (Or.inl (by simpa using ha))
  refine Triple.learn (Triple.refuse (Q := fun _ s => (At M g0 c' s ∧ s.poisoned = false) ∧
    (c'.owner = owner ∧ c'.mode = .repair)) (fun _ h _ => h.1.1) fun s h hn => ⟨h, ?_⟩) fun _ howner => ?_
  · exact ⟨not_not.mp fun ho => hn (Or.inl ho), not_not.mp fun hm => hn (Or.inr hm)⟩
  refine Triple.learn (Triple.refuse (Q := fun _ s => (At M g0 c' s ∧ s.poisoned = false) ∧ c'.attempted = true)
    (fun _ h _ => h.1.1) fun s h hn => ⟨h, ?_⟩) fun _ hattempted => ?_
  · by_contra ha
    exact hn ⟨rfl, Or.inl (by simpa using ha)⟩
  refine Triple.bind (((guardFinish_done ofControl_at).and guardFinish_healthy).ends
    (fun _ _ h => h) fun _ _ h => h.1.1) fun c'' => Triple.pure fun s hs => ?_
  obtain ⟨⟨⟨hc'', hepoch⟩, g, hg, rfl⟩, hhealthy⟩ := hs
  have hcontrol : g.control = c' := hg.2
  refine ⟨g, hg.1, ⟨?_, ?_, ?_, rfl⟩, ?_, ?_, hhealthy, ?_, ?_, ?_⟩
  · exact hcontrol ▸ hlive.1
  · exact hcontrol ▸ howner.1
  · exact hcontrol ▸ hlive.2
  · exact hcontrol ▸ howner.2
  · exact hcontrol ▸ hattempted
  · show guardControlValid c'' = true
    rw [hc'']
    exact guardControlValid_retired hepoch
  · exact hc'' ▸ rfl
  · rw [hcontrol]
    exact hc'' ▸ rfl

end ReistOs
