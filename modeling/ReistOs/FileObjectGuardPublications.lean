import ReistOs.FileObjectGuardMoves

/-! Every call of `kernel/init/file_object_guard.c` is made of the moves of the guard. -/

namespace ReistOs

open Attempt FileObjectGuard

/-- From a guard whose control record was read, the program publishes the moves of its call. -/
def Works {α : Type} (call : FileObjectGuardCall) (g₀ : FileObjectGuard) (c : GuardControl)
    (x : Guard α) (Q : α → FileObjectGuard → Prop := fun _ => g₀.Reaches call) : Prop :=
  Triple (g₀.Held call c) x Q (fun _ => g₀.Reaches call)

section Works

variable {α β : Type} {call : FileObjectGuardCall} {g0 : FileObjectGuard} {c c' : GuardControl}
  {x : Guard α} {f : α → Guard β} {Q : β → FileObjectGuard → Prop}

theorem held_reaches : ∀ g, g0.Held call c g → g0.Reaches call g := fun _ h => h.reaches

theorem Works.pure {a : α} : Works call g0 c (pure a : Guard α) := Triple.pure held_reaches

variable {p : Prop} {e : Errno} {P : FileObjectGuard → Prop}

theorem Works.refuse [Decidable p] :
    Works call g0 c (refuse p e : Guard Unit) :=
  (refuse_reaches held_reaches).post fun _ _ h => h.1.reaches

theorem Works.refuse_bind [Decidable p] {f : Unit → Guard β} (hf : ¬ p → Works call g0 c (f ()) Q) :
    Works call g0 c (Attempt.refuse p e >>= f) Q :=
  Triple.bind (refuse_reaches held_reaches) fun _ => Triple.fact hf

variable {f : GuardControl → Guard β}
  {refusal : Fin fileObjectGuardCapacity → GuardPin → Option Errno}

theorem Works.expire_bind {nowMs : UInt64}
    (hf : ∀ c', (c'.active = true → c' = c ∧ nowMs < c.deadlineMs) → Works call g0 c' (f c') Q) :
    Works call g0 c (guardExpire c nowMs >>= f) Q :=
  Triple.learn guardExpire_held fun c' hon => hf c' hon

theorem Works.live_bind {f : Unit → Guard β} (hf : Works call g0 c (f ()) Q) :
    Works call g0 c (guardOwnedPinLive c' >>= f) Q :=
  Triple.bind (guardOwnedPinLive_reaches held_reaches) fun _ => hf

theorem Works.finish_bind {u : Bool} (hactive : c.active = true)
    (hu : u = false → c.attempted = true → call.Ends c)
    (hf : ∀ c', c'.active = false → Works call g0 c' (f c') Q) :
    Works call g0 c (guardFinish c u >>= f) Q := by
  refine Triple.bind (guardFinish_held hactive hu fun _ h => h) fun c' => ?_
  exact (Triple.fact fun hidle => hf c' hidle).pre fun g h => ⟨h.2.1, h.2.2⟩

theorem Works.finishIf_bind [Decidable p]
    (hf : ∀ c', (c'.active = true → c' = c ∧ ¬ p) → Works call g0 c' (f c') Q) :
    Works call g0 c ((if c.active = true ∧ p then guardFinish c true else Pure.pure c) >>= f) Q := by
  refine Triple.bind (Q := fun c' g => g0.Held call c' g ∧ (c'.active = true → c' = c ∧ ¬ p)) ?_
    fun c' => Triple.fact (hf c')
  refine Triple.ite (fun hgo => ?_) fun hno => Triple.pure fun g hg => ⟨hg, fun hactive => ⟨rfl, ?_⟩⟩
  · refine (guardFinish_held hgo.1 (by simp) fun _ h => h).post fun c' g h => ⟨h.2.1, fun hactive => ?_⟩
    rw [h.2.2] at hactive
    cases hactive
  · exact fun hp => hno ⟨hactive, hp⟩

theorem Works.write (h : c.Carries call c') : Works call g0 c (guardControlWrite c') := by
  refine (guardControlWrite_reaches held_reaches ?_).post fun _ s hs => ?_
  · intro g hg
    exact .carried c' (hg.control ▸ h)
  · obtain ⟨g, hg, hreaches, rfl⟩ := hs
    exact hreaches

theorem Works.write_bind {f : Unit → Guard β} (h : c.Carries call c')
    (hf : Works call g0 c' (f ()) Q) : Works call g0 c (guardControlWrite c' >>= f) Q := by
  refine Triple.bind (Q := fun _ => g0.Held call c') ?_ fun _ => hf
  refine (guardControlWrite_reaches held_reaches ?_).post fun _ s hs => ?_
  · intro g hg
    exact .carried c' (hg.control ▸ h)
  · obtain ⟨g, hg, hreaches, rfl⟩ := hs
    exact ⟨hreaches, rfl, h.valid⟩

theorem Works.token_bind {token : UInt32} {service client : FileObjectOwner}
    {f : Fin fileObjectGuardCapacity × GuardPin → Guard β} (hf : ∀ p, Works call g0 c (f p) Q) :
    Works call g0 c (guardTokenRead token service client >>= f) Q :=
  Triple.bind (guardTokenRead_reaches held_reaches) fun p => (hf p).pre fun _ h => h.1

theorem Works.media_bind {resource : Nat} {f : UInt32 → Guard β}
    (hf : ∀ m, Works call g0 c (f m) Q) :
    Works call g0 c (guardMediaRead resource >>= f) Q :=
  Triple.bind (guardMediaRead_reaches held_reaches) fun m => (hf m).pre fun _ h => h.1

theorem Works.scan_bind {f : Unit → Guard β} (hf : Works call g0 c (f ()) Q) :
    Works call g0 c (guardScan refusal >>= f) Q :=
  Triple.bind (guardScan_reaches held_reaches) fun _ => hf.pre fun _ h => h.1

theorem Works.scan : Works call g0 c (guardScan refusal) :=
  (guardScan_reaches held_reaches).post fun _ _ h => h.1.reaches

theorem locked_works (hP : ∀ g, P g → g0.Reaches call g)
    (hf : ∀ g, P g → Works call g0 g.control (f g.control) Q) :
    Triple P (do guardLock; let c ← guardControlRead; f c) Q (fun _ => g0.Reaches call) := by
  refine Triple.bind (guardLock_reaches hP) fun _ => ?_
  refine Triple.bind (guardControlRead_reaches hP) fun c => Triple.start fun s hs => ?_
  obtain rfl : s.control = c := hs.2.control
  exact (hf s hs.1).pre fun t ht => ht ▸ hs.2

theorem locked_reaches (hf : ∀ c, Works call g0 c (f c) Q) :
    Triple (g0.Reaches call) (do guardLock; let c ← guardControlRead; f c) Q
      (fun _ => g0.Reaches call) :=
  locked_works (fun _ h => h) fun g _ => hf g.control

theorem refused_works [Decidable p] {f : Unit → Guard β} (hP : ∀ g, P g → g0.Reaches call g)
    (hf : ¬ p → Triple P (f ()) Q (fun _ => g0.Reaches call)) :
    Triple P (Attempt.refuse p e >>= f) Q (fun _ => g0.Reaches call) :=
  Triple.bind (refuse_reaches hP) fun _ => Triple.fact hf

theorem refused_reaches [Decidable p] {f : Unit → Guard β}
    (hf : ¬ p → Triple (g0.Reaches call) (f ()) Q (fun _ => g0.Reaches call)) :
    Triple (g0.Reaches call) (Attempt.refuse p e >>= f) Q (fun _ => g0.Reaches call) :=
  refused_works (fun _ h => h) hf

theorem ignored_reaches {x : Guard α} {n : UInt32} (hx : Keeps (g0.Reaches call) x) :
    Keeps (g0.Reaches call) (do let _ ← x; pure n : Guard UInt32) :=
  hx.bind fun _ => Keeps.pure

end Works

section Controls

variable {call : FileObjectGuardCall} {c : GuardControl}

theorem carries_epoch {epoch : UInt64} (hvalid : guardControlValid c = true) (hepoch : epoch ≠ 0) :
    c.Carries call { c with epoch := epoch } := by
  refine ⟨?_, rfl, rfl, rfl, rfl, rfl, fun _ h => h, fun h => h, fun h => h, fun h => h⟩
  unfold guardControlValid at hvalid ⊢
  simp only [Bool.and_eq_true, bne_iff_ne, ne_eq] at hvalid ⊢
  exact ⟨⟨⟨⟨⟨⟨hepoch, hvalid.1.1.1.1.1.2⟩, hvalid.1.1.1.1.2⟩, hvalid.1.1.1.2⟩, hvalid.1.1.2⟩,
    hvalid.1.2⟩, hvalid.2⟩

theorem carries_fenced {mask : UInt32} (hvalid : guardControlValid c = true)
    (hmask : ∀ r, Names c.fenced r → Names mask r) : c.Carries call { c with fenced := mask } := by
  refine ⟨?_, rfl, rfl, rfl, rfl, rfl, hmask, fun h => h, fun h => h, fun h => h⟩
  unfold guardControlValid at hvalid ⊢
  simp only [Bool.and_eq_true, Bool.or_eq_true, decide_eq_true_eq] at hvalid ⊢
  refine ⟨⟨⟨⟨⟨hvalid.1.1.1.1.1, ?_⟩, hvalid.1.1.1.2⟩, hvalid.1.1.2⟩, hvalid.1.2⟩, hvalid.2⟩
  rcases hvalid.1.1.1.1.2 with hmode | hrepair
  · exact .inl hmode
  · exact .inr ⟨hrepair.1, hmask _ hrepair.2⟩

theorem carries_marked {mark : JournalMark} (hvalid : guardControlValid c = true)
    (hactive : c.active = true) (hmode : c.mode ≠ .ordinary)
    (hends : ∀ c', ¬ call.Ends c' ∧ ¬ call.Verifies c') : c.Carries call (c.marked mark) := by
  have heffect : c.HasEffect → (c.marked mark).HasEffect := by
    intro h
    have hattempted := guardControlValid_attempted hvalid h
    cases mark with
    | check => exact h
    | write => exact .inl rfl
    | flushed => exact .inl hattempted
  refine ⟨?_, ?_, ?_, ?_, ?_, ?_, ?_, heffect, fun h => absurd h (hends _).1,
    fun h => absurd h (hends _).2⟩
  · have hmode' : (c.mode != .ordinary) = true := by simpa using hmode
    unfold guardControlValid at hvalid ⊢
    rw [hactive, if_pos rfl] at hvalid
    cases mark <;>
      simp only [GuardControl.marked, hactive, hmode', if_true, Bool.true_or, Bool.or_true,
        Bool.not_false, Bool.and_true, Bool.and_eq_true] at hvalid ⊢
    · exact hvalid
    · exact ⟨⟨⟨⟨hvalid.1.1.1.1.1, hvalid.1.1.1.2⟩, hvalid.1.1.2⟩, hvalid.1.2⟩, hvalid.2⟩
    · exact ⟨⟨⟨⟨hvalid.1.1.1.1.1, hvalid.1.1.1.2⟩, hvalid.1.1.2⟩, hvalid.1.2⟩, hvalid.2⟩
  · cases mark <;> rfl
  · cases mark <;> rfl
  · cases mark <;> rfl
  · cases mark <;> rfl
  · cases mark <;> rfl
  · intro r hr
    cases mark <;> exact hr

end Controls

variable {call : FileObjectGuardCall} {g0 : FileObjectGuard} {c : GuardControl}

variable {resource : Nat} {nowMs : UInt64} {key : FileObjectKey} {service client : FileObjectOwner}
  {token : UInt32}

theorem guardAdmit_reaches {epoch : UInt64} :
    Triple (g0.Reaches call) (guardAdmit resource epoch nowMs)
      (fun c g => g0.Held call c g ∧ c.active = false) (fun _ => g0.Reaches call) := by
  refine Triple.bind (guardControlRead_reaches fun _ h => h) fun c => ?_
  refine Triple.bind (guardExpire_held.pre fun _ h => h.2) fun c' => ?_
  refine Triple.bind (refuse_reaches fun g h => h.1.reaches) fun _ => ?_
  refine Triple.learn (refuse_reaches fun g h => h.1.1.reaches) fun _ hidle => ?_
  refine Triple.bind (refuse_reaches fun g h => h.1.1.reaches) fun _ => ?_
  exact Triple.pure fun g h => ⟨h.1.1.1, by simpa using hidle⟩

theorem fileObjectGuardSnapshot_reaches :
    Keeps (g0.Reaches call) (fileObjectGuardSnapshot nowMs) :=
  locked_reaches fun _ => Works.expire_bind fun _ _ => Works.refuse_bind fun _ => Works.pure

theorem generation_next {n : UInt32} (h : n < fileObjectGuardGenerationMax) :
    n + 1 ≤ fileObjectGuardGenerationMax ∧ n + 1 ≠ 0 := by
  have hlt : n.toNat < 16777215 := UInt32.lt_iff_toNat_lt.mp h
  have hnext : (n + 1).toNat = n.toNat + 1 := by
    rw [UInt32.toNat_add]
    show (n.toNat + 1) % 2 ^ 32 = n.toNat + 1
    omega
  constructor
  · apply UInt32.le_iff_toNat_le.mpr
    rw [hnext]
    show n.toNat + 1 ≤ 16777215
    omega
  · intro h0
    have := congrArg UInt32.toNat h0
    rw [hnext] at this
    exact absurd this (by simp)

theorem pinToken_names (slot : Fin fileObjectGuardCapacity) {pin : GuardPin}
    (h : pin.generation ≤ fileObjectGuardGenerationMax) :
    tokenSlot (pinToken slot pin) = some slot ∧ pin.generation = pinToken slot pin >>> 8 := by
  obtain ⟨hin, hindex⟩ := slotToken_index slot (by decide) pin.generation
  have hhigh := slotToken_high (slot.isLt.trans (by decide)) h
  exact ⟨(dif_pos hin).trans (congrArg some hindex), hhigh.symm⟩

def FileObjectGuard.PinHeld (g : FileObjectGuard) (token : UInt32) (pin : GuardPin) : Prop :=
  ∃ slot, tokenSlot token = some slot ∧ g.pins slot = pin ∧ pin.active = true ∧
    pin.generation = token >>> 8

theorem fileObjectGuardPin_reaches {epoch : UInt64} :
    Triple (g0.Reaches call) (fileObjectGuardPin key service client epoch nowMs)
      (fun token g => g0.Reaches call g ∧ ∃ pin, g.PinHeld token pin ∧ pin.key = key ∧
        pin.service = service ∧ pin.client = client) (fun _ => g0.Reaches call) := by
  refine Triple.learn (refuse_reaches fun _ h => h) fun _ hargs => ?_
  refine Triple.bind (guardLock_reaches fun _ h => h) fun _ => ?_
  refine Triple.learn guardAdmit_reaches fun c hidle => ?_
  refine Triple.bind (guardScan_reaches held_reaches) fun _ => ?_
  refine Triple.bind (Triple.get (Q := fun g s => g0.Held call c s ∧ s = g)
    fun g hg => ⟨hg.1, rfl⟩) fun g => ?_
  refine Triple.bind (refuse_reaches fun s hs => hs.1.reaches) fun _ => ?_
  split
  · exact Triple.fail fun s hs => hs.1.1.reaches
  next slot hslot =>
    have hfree : guardPinFree (g.pins slot) = true :=
      List.find?_some (p := fun i => guardPinFree (g.pins i)) hslot
    unfold guardPinFree at hfree
    rw [Bool.and_eq_true, Bool.not_eq_true', decide_eq_true_eq] at hfree
    refine Triple.bind (guardMediaRead_reaches fun s hs => hs.1.1.reaches) fun media => ?_
    obtain ⟨hle, hne⟩ := generation_next hfree.2
    refine Triple.bind (guardWrite_reaches (fun s hs => hs.1.1.1.reaches) ?_) fun _ => Triple.pure ?_
    · rintro s ⟨⟨⟨hheld, rfl⟩, -⟩, -, hmedia⟩
      have hvalid : fileObjectGuardKeyValid key = true ∧ guardOwnerValid service = true ∧
          guardOwnerValid client = true := by
        simp only [Bool.not_eq_true', not_or, Bool.not_eq_false] at hargs
        exact ⟨hargs.1, hargs.2.1, hargs.2.2.1⟩
      refine .pinned slot _ ⟨?_, hfree.1, hfree.2, rfl, rfl, ?_⟩
      · rw [hheld.control]
        exact hidle
      · unfold guardPinValid
        rw [if_neg (UInt32.not_lt.mpr hle), if_pos rfl]
        simp [hne, hmedia, hvalid]
    · rintro s ⟨t, -, hreaches, rfl⟩
      let chosen : GuardPin :=
        { key := key
          service := service
          client := client
          generation := (g.pins slot).generation + 1
          mediaGeneration := media
          active := true }
      have hnames := pinToken_names slot (show chosen.generation ≤ _ from hle)
      exact ⟨hreaches, chosen, ⟨slot, hnames.1, Function.update_self .., rfl, hnames.2⟩, rfl, rfl, rfl⟩

theorem fileObjectGuardLookup_reaches :
    Keeps (g0.Reaches call) (fileObjectGuardLookup token service client nowMs) :=
  locked_reaches fun _ => Works.expire_bind fun _ _ => Works.token_bind fun _ =>
    Works.refuse_bind fun _ => Works.refuse_bind fun _ => Works.media_bind fun _ =>
      Works.refuse_bind fun _ => Works.pure

theorem finishIf_pins {p : Prop} [Decidable p] {s0 : FileObjectGuard} (hs0 : g0.Held call c s0) :
    Triple (· = s0)
      (if c.active = true ∧ p then guardFinish c true else pure c : Guard GuardControl)
      (fun c' s => (g0.Held call c' s ∧ s.pins = s0.pins) ∧ (c'.active = true → c' = c ∧ ¬ p))
      (fun _ => g0.Reaches call) := by
  refine Triple.ite (fun hgo => ?_) fun hno => Triple.pure ?_
  · have hpre : ∀ s, s = s0 → g0.Held call c s ∧ s = s0 := fun s hs => ⟨hs ▸ hs0, hs⟩
    refine ((guardFinish_held hgo.1 (by simp) fun _ h => h.1).post fun c' s h => ?_).pre hpre
    obtain ⟨⟨t, ht, rfl⟩, hheld, hidle⟩ := h
    have hpins : t.pins = s0.pins := congrArg FileObjectGuard.pins ht.2
    refine ⟨⟨hheld, hpins⟩, fun hactive => ?_⟩
    rw [hidle] at hactive
    cases hactive
  · rintro s rfl
    exact ⟨⟨hs0, rfl⟩, fun hactive => ⟨rfl, fun hp => hno ⟨hactive, hp⟩⟩⟩

theorem fileObjectGuardRelease_reaches {s1 : FileObjectGuard} (h : g0.Reaches call s1) :
    Triple (· = s1) (fileObjectGuardRelease token service client)
      (fun _ s => g0.Reaches call s ∧ (∀ pin, ¬ s.PinHeld token pin) ∧
        (s1.control.borrowedPin = token → s.control.active = false)) (fun _ => g0.Reaches call) := by
  refine locked_works (fun s hs => hs ▸ h) fun s hs => ?_
  obtain rfl := hs
  refine Triple.bind (guardTokenRead_reaches held_reaches) fun p => ?_
  obtain ⟨slot, pin⟩ := p
  refine Triple.start fun s0 hs0 => ?_
  obtain ⟨hheld, hnames⟩ := hs0
  have hslot : ∀ (t : FileObjectGuard) (p : GuardPin), (t.pins slot).active = false →
      ¬ t.PinHeld token p := by
    rintro t p hidle ⟨i, hi, rfl, hactive, -⟩
    obtain rfl : slot = i := Option.some.inj (hnames.slot.symm.trans hi)
    rw [hidle] at hactive
    cases hactive
  refine Triple.learn (finishIf_pins hheld) fun c' hon => ?_
  have hover : s.control.borrowedPin = token → c'.active = false := by
    intro hborrows
    by_contra hlive
    obtain ⟨-, hother⟩ := hon (by simpa using hlive)
    exact hother hborrows
  refine Triple.ite (fun hactive => ?_) fun hidle => Triple.pure fun t ht => ?_
  · have hfree : c'.active = true → c'.borrowedPin ≠ pinToken slot pin ∨
        c'.resource ≠ pin.key.resource := by
      intro hlive
      obtain ⟨rfl, hother⟩ := hon hlive
      rw [pinToken_eq hnames.slot hnames.generation]
      exact .inl hother
    refine (guardPinClear_reaches (fun _ h => h.1) hactive hnames.valid ?_ hfree).post fun _ t ht => ?_
    · intro t ht
      rw [ht.2]
      exact hnames.pin
    · obtain ⟨u, -, hheld', rfl⟩ := ht
      refine ⟨hheld'.reaches, fun p => hslot _ p ?_, fun hb => hheld'.control ▸ hover hb⟩
      show (Function.update u.pins slot (u.pins slot).cleared slot).active = false
      rw [Function.update_self]
      rfl
  · refine ⟨ht.1.reaches, fun p => hslot t p ?_, fun hb => ht.1.control ▸ hover hb⟩
    rw [ht.2, hnames.pin]
    simpa using hidle

theorem fileObjectGuardLegacyEnter_reaches :
    Keeps (g0.Reaches call) (fileObjectGuardLegacyEnter nowMs) := by
  refine locked_reaches fun _ => Works.expire_bind fun c _ => ?_
  refine Works.refuse_bind fun _ => Works.refuse_bind fun _ => ?_
  refine Triple.learn (guardEpochAdvance_reaches held_reaches) fun c' hc' => ?_
  refine Triple.start fun s hs => ?_
  obtain ⟨epoch, hepoch, rfl⟩ := hc'
  exact (Works.write (carries_epoch hs.valid hepoch)).pre fun t ht => ht ▸ hs

theorem fileObjectGuardCanOpen_reaches :
    Keeps (g0.Reaches call) (fileObjectGuardCanOpen resource nowMs) :=
  refused_reaches fun _ => locked_reaches fun _ => Works.expire_bind fun _ _ =>
    Works.refuse_bind fun _ => Works.refuse

theorem fileObjectGuardKeyBusy_reaches :
    Keeps (g0.Reaches call) (fileObjectGuardKeyBusy key nowMs) :=
  refused_reaches fun _ => locked_reaches fun _ => Works.expire_bind fun _ _ =>
    Works.refuse_bind fun _ => Works.refuse_bind fun _ => Works.scan

theorem guardCount_reaches {detach : Bool} :
    Keeps (g0.Reaches call) (guardCount resource nowMs detach) := by
  refine refused_reaches fun _ => locked_reaches fun _ => Works.expire_bind fun _ _ => ?_
  refine Works.refuse_bind fun _ => Works.refuse_bind fun _ => Works.scan_bind ?_
  exact Triple.bind (Triple.get (Q := fun _ => g0.Held call _) fun g hg => hg) fun _ => Works.pure

end ReistOs
