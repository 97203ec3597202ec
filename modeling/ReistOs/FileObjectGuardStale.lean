import ReistOs.FileObjectGuardTokens

/-! What the guard of `kernel/init/file_object_guard.c` answers to tokens that are spent. -/

namespace ReistOs

open Attempt FileObjectGuard Relation

section Lent

variable {g : FileObjectGuard}

theorem guardOwnedPinLive_sound (h : g.Sound) : Triple (· = g)
    (guardOwnedPinLive g.control) (fun _ s => s = g) (fun _ _ => False) := by
  refine Triple.ite (fun _ => Triple.ret) fun hborrows => ?_
  have hactive : g.control.active = true := by
    by_contra hidle
    exact hborrows (guardControlValid_quiet h.control (by simpa using hidle)).2.2.1
  obtain ⟨slot, hlends⟩ := h.lends hactive hborrows
  rw [hlends.token]
  refine Triple.bind (Q := fun pin s => s = g ∧ pin = g.pins slot) ?_ fun pin => ?_
  · refine Triple.bind (Triple.get (Q := fun t s => s = g ∧ t = g) fun s hs => ⟨hs, hs⟩) fun t => ?_
    refine Triple.fact fun ht => ?_
    obtain rfl : t = g := ht
    rw [if_pos (h.pins slot)]
    exact Triple.pure fun s hs => ⟨hs, rfl⟩
  refine Triple.fact fun hpin => ?_
  obtain rfl : pin = g.pins slot := hpin
  rw [if_neg (by simp [hlends.active, hlends.generation, hlends.service, hlends.resource, hlends.kind])]
  refine Triple.bind (Q := fun media s => s = g ∧ media = g.media g.control.resource) ?_ fun media => ?_
  · refine Triple.bind (Triple.get (Q := fun t s => s = g ∧ t = g) fun s hs => ⟨hs, hs⟩) fun t => ?_
    refine Triple.fact fun ht => ?_
    obtain rfl : t = g := ht
    rw [if_pos (by simpa using h.media t.control.resource)]
    exact Triple.pure fun s hs => ⟨hs, rfl⟩
  refine Triple.fact fun hmedia => ?_
  obtain rfl : media = g.media g.control.resource := hmedia
  rw [if_neg (not_not.mpr hlends.media.symm)]
  exact Triple.ret

theorem guardOwnedPinLive_lent (h : g.Sound) (w : GuardAnswers) (n : Nat) :
    (guardOwnedPinLive g.control w n g).1 = .ok () ∧ (guardOwnedPinLive g.control w n g).2.2 = g := by
  have hend := guardOwnedPinLive_sound h w n g rfl
  rcases hr : guardOwnedPinLive g.control w n g with ⟨e | u, n', s⟩
  · rw [hr] at hend
    exact hend.elim
  · rw [hr] at hend
    exact ⟨rfl, hend⟩

end Lent

variable {α β : Type} {call : FileObjectGuardCall} {g : FileObjectGuard} {c : GuardControl}
  {token : UInt32} {nowMs : UInt64} {P : FileObjectGuard → Prop}

def Refuses (call : FileObjectGuardCall) (g : FileObjectGuard) (P : FileObjectGuard → Prop)
    (x : Guard α) : Prop :=
  Triple P x (fun _ _ => False) (fun _ => g.Reaches call)

theorem Refuses.not_ok {x : Guard α} (h : ∀ call, Refuses call g (· = g) x)
    (w : GuardAnswers) (n : Nat) (a : α) : (x w n g).1 ≠ .ok a :=
  not_ok_of_triple (h .fenced) rfl w n a

theorem self_reaches : ∀ s, s = g → g.Reaches call s := by
  rintro s rfl
  exact ReflTransGen.refl

variable {p : Prop} {e : Errno} {f : Unit → Guard β}

theorem Refuses.refuse_bind [Decidable p] (hP : ∀ s, P s → g.Reaches call s)
    (hf : ¬ p → Refuses call g P (f ())) :
    Refuses call g P (Attempt.refuse p e >>= f) :=
  Triple.bind (refuse_reaches hP) fun _ => Triple.fact hf

theorem Refuses.refused [Decidable p] (hP : ∀ s, P s → g.Reaches call s) (hp : ∀ s, P s → p) :
    Refuses call g P (Attempt.refuse p e >>= f) := by
  refine Triple.bind (Q := fun _ _ => False) ?_ fun _ => absurd_triple
  exact (refuse_reaches hP).post fun _ s hs => hs.2 (hp s hs.1)

/-- The reservation that a control record holds is not the one of the token. -/
def GuardControl.Past (c : GuardControl) (token : UInt32) : Prop :=
  c.active = true → c.generation ≠ token

theorem past_refused (h : c.Past token) :
    Refuses call g (g.Held call c)
      (Attempt.refuse (!c.active ∨ c.generation ≠ token) .estale >>= f) := by
  refine Refuses.refused held_reaches fun _ _ => ?_
  by_cases hactive : c.active = true
  · exact .inr (h hactive)
  · exact .inl (by simpa using hactive)

theorem locked_spent {f : GuardControl → Guard β} (hspent : g.ReservationSpent token)
    (hf : ∀ c, c.Past token → Refuses call g (g.Held call c) (f c)) :
    Refuses call g (· = g) (do guardLock; let c ← guardControlRead; f c) := by
  refine Triple.bind (guardLock_reaches self_reaches) fun _ => ?_
  refine Triple.bind (guardControlRead_reaches self_reaches) fun c => Triple.start fun s hs => ?_
  obtain ⟨rfl, hheld⟩ := hs
  refine (hf c fun hactive hgeneration => ?_).pre fun t ht => ht ▸ hheld
  rw [← hheld.control] at hactive hgeneration
  exact hspent.not_live ⟨hactive, hgeneration⟩

def FileObjectGuard.ReservationOver (g : FileObjectGuard) (token : UInt32) (nowMs : UInt64) : Prop :=
  g.ReservationSpent token ∨ (g.ReservationLive token ∧ g.control.deadlineMs ≤ nowMs)

theorem locked_over {f : GuardControl → Guard β} (hover : g.ReservationOver token nowMs)
    (hf : ∀ c, c.Past token → Refuses call g (g.Held call c) (f c)) :
    Refuses call g (· = g)
      (do guardLock; let c ← guardControlRead; let c ← guardExpire c nowMs; f c) := by
  refine Triple.bind (guardLock_reaches self_reaches) fun _ => ?_
  refine Triple.bind (guardControlRead_reaches self_reaches) fun c => Triple.start fun s hs => ?_
  obtain ⟨rfl, hheld⟩ := hs
  refine Triple.bind (guardExpire_held.pre fun t ht => ht ▸ hheld) fun c' => ?_
  refine Triple.fact fun hon => hf c' fun hactive hgeneration => ?_
  obtain ⟨rfl, hearly⟩ := hon hactive
  rw [← hheld.control] at hactive hgeneration hearly
  rcases hover with hspent | ⟨-, hlate⟩
  · exact hspent.not_live ⟨hactive, hgeneration⟩
  · exact absurd hearly (UInt64.not_lt.mpr hlate)

variable {owner service client : FileObjectOwner} {resource : Nat}

section

variable (hover : g.ReservationOver token nowMs)
include hover

theorem fileObjectGuardEnd_over {outcome : MutationOutcome} :
    Refuses call g (· = g) (fileObjectGuardEnd token owner outcome nowMs) :=
  Refuses.refuse_bind self_reaches fun _ => locked_over hover fun _ => past_refused

theorem fileObjectGuardRepairFinish_over {verified : Bool} :
    Refuses call g (· = g) (fileObjectGuardRepairFinish token owner verified nowMs) :=
  Refuses.refuse_bind self_reaches fun _ => locked_over hover fun _ => past_refused

theorem fileObjectGuardOwnedRequest_over :
    Refuses call g (· = g) (fileObjectGuardOwnedRequest service token resource nowMs) :=
  Refuses.refuse_bind self_reaches fun _ => locked_over hover fun _ hpast =>
    Refuses.refuse_bind held_reaches fun _ => past_refused hpast

theorem fileObjectGuardJournalIo_over {mark : JournalMark} :
    Refuses call g (· = g) (fileObjectGuardJournalIo owner token resource mark nowMs) := by
  refine Refuses.refuse_bind self_reaches fun _ => ?_
  refine locked_over hover fun c hpast => ?_
  exact Refuses.refuse_bind held_reaches fun _ => past_refused hpast

end

theorem fileObjectGuardContext_spent (hspent : g.ReservationSpent token) :
    Refuses call g (· = g) (fileObjectGuardContext owner token) :=
  Refuses.refuse_bind self_reaches fun _ => locked_spent hspent fun _ => past_refused

theorem fileObjectGuardCancelUndelivered_spent (hspent : g.ReservationSpent token) :
    Refuses call g (· = g) (fileObjectGuardCancelUndelivered token service) :=
  Refuses.refuse_bind self_reaches fun _ => locked_spent hspent fun _ => past_refused

theorem fileObjectGuardJournalProbe_spent (hspent : g.ReservationSpent token) :
    Refuses call g (· = g) (fileObjectGuardJournalProbe owner token resource nowMs) := by
  refine Triple.bind (Q := fun _ _ => False) ?_ fun _ => absurd_triple
  refine Refuses.refuse_bind self_reaches fun _ => locked_spent hspent fun c hpast => ?_
  refine Triple.bind (Q := fun _ _ => False) ?_ fun _ => absurd_triple
  exact past_refused hpast

theorem spent_idle {s : FileObjectGuard} {p : Fin fileObjectGuardCapacity × GuardPin}
    (hspent : s.PinSpent token) (hnames : TokenNames token service client s p.1 p.2) :
    p.2.active = false := by
  obtain ⟨i, hslot, hgone⟩ := hspent
  obtain rfl : p.1 = i := Option.some.inj (hnames.slot.symm.trans hslot)
  rw [hnames.pin, hnames.generation] at hgone
  rcases hgone with hlt | ⟨-, hidle⟩
  · exact absurd hlt (UInt32.lt_irrefl _)
  · exact hidle

theorem token_refused {f : Fin fileObjectGuardCapacity × GuardPin → Unit → Guard β}
    (hspent : g.PinSpent token) (hP : ∀ s, P s → g.Reaches call s) :
    Refuses call g P (do
      let p ← guardTokenRead token service client
      Attempt.refuse (!p.2.active) .estale >>= f p) := by
  refine Triple.bind (guardTokenRead_reaches hP) fun p => ?_
  refine Refuses.refused (fun s hs => hP s hs.1) fun s hs => ?_
  have hidle := spent_idle (kept_reaches PinSpent.move hspent (hP s hs.1)) hs.2
  simp [hidle]

theorem fileObjectGuardLookup_spent (hspent : g.PinSpent token) :
    Refuses call g (· = g) (fileObjectGuardLookup token service client nowMs) := by
  refine Triple.bind (guardLock_reaches self_reaches) fun _ => ?_
  refine Triple.bind (guardControlRead_reaches self_reaches) fun c => ?_
  refine Triple.bind (guardExpire_held.pre fun s hs => hs.2) fun c' => ?_
  exact token_refused hspent fun s hs => hs.1.reaches

theorem fileObjectGuardBeginOwned_spent {key : FileObjectKey} {borrow : BorrowedPin}
    {epoch deadlineMs : UInt64} (hspent : g.PinSpent borrow.pin) :
    Refuses call g (· = g)
      (fileObjectGuardBeginOwned key service borrow epoch nowMs deadlineMs) := by
  refine Refuses.refuse_bind self_reaches fun hargs => ?_
  rw [not_or] at hargs
  refine Refuses.refuse_bind self_reaches fun _ => ?_
  refine Triple.bind (guardLock_reaches self_reaches) fun _ => ?_
  refine Triple.bind (guardAdmit_reaches.pre self_reaches) fun c => ?_
  refine Triple.bind (Q := fun _ _ => False) ?_ fun _ => absurd_triple
  unfold guardBorrowedSlot
  rw [if_neg hargs.1]
  exact token_refused hspent fun s hs => hs.1.reaches

theorem fileObjectGuardRelease_spent (h : g.Sound) (hspent : g.PinSpent token) :
    Triple (· = g) (fileObjectGuardRelease token service client) (fun _ s => s = g)
      (fun _ => g.Reaches call) := by
  refine Triple.bind (guardLock_reaches self_reaches) fun _ => ?_
  refine Triple.bind (guardControlRead_reaches self_reaches) fun c => ?_
  refine Triple.bind (guardTokenRead_reaches fun s hs => self_reaches s hs.1) fun p => ?_
  refine Triple.start fun s hs => ?_
  obtain ⟨⟨rfl, hheld⟩, hnames⟩ := hs
  have hidle := spent_idle hspent hnames
  have hkept : ¬ (c.active = true ∧ c.borrowedPin = token) := by
    rintro ⟨hactive, hborrows⟩
    rw [← hheld.control] at hactive hborrows
    have hnonzero : s.control.borrowedPin ≠ 0 := by
      intro hzero
      apply hnames.nonzero
      rw [← hborrows, hzero]
      rfl
    obtain ⟨slot, hlends⟩ := h.lends hactive hnonzero
    exact hspent.not_held ⟨slot, hborrows ▸ hlends.token, rfl, hlends.active, hborrows ▸ hlends.generation⟩
  obtain ⟨slot, pin⟩ := p
  have hidle' : ¬ pin.active = true := by
    rw [show pin.active = false from hidle]
    decide
  rw [if_neg hkept]
  refine Triple.bind (Triple.pure (Q := fun _ t => t = s) fun t ht => ht) fun _ => ?_
  rw [if_neg hidle']
  exact Triple.ret

/-- A reservation that is over, or late, is worth nothing to the calls that look at the clock. -/
structure LateRefused (g : FileObjectGuard) (token : UInt32) (nowMs : UInt64) : Prop where
  mutationEnd : ∀ owner outcome w n,
    (fileObjectGuardEnd token owner outcome nowMs w n g).1 ≠ .ok ()
  journalIo : ∀ owner resource mark w n a,
    (fileObjectGuardJournalIo owner token resource mark nowMs w n g).1 ≠ .ok a
  ownedRequest : ∀ service resource w n a,
    (fileObjectGuardOwnedRequest service token resource nowMs w n g).1 ≠ .ok a
  repairFinish : ∀ owner verified w n,
    (fileObjectGuardRepairFinish token owner verified nowMs w n g).1 ≠ .ok ()

structure ReservationRefused (g : FileObjectGuard) (token : UInt32) : Prop where
  late : ∀ nowMs, LateRefused g token nowMs
  context : ∀ owner w n a, (fileObjectGuardContext owner token w n g).1 ≠ .ok a
  journalProbe : ∀ owner resource nowMs w n a,
    (fileObjectGuardJournalProbe owner token resource nowMs w n g).1 ≠ .ok a
  cancelUndelivered : ∀ service w n,
    (fileObjectGuardCancelUndelivered token service w n g).1 ≠ .ok ()

/-- A spent pin is not found and not borrowed; it may be released once more, to no effect. -/
structure PinRefused (g : FileObjectGuard) (token : UInt32) : Prop where
  lookup : ∀ service client nowMs w n key,
    (fileObjectGuardLookup token service client nowMs w n g).1 ≠ .ok key
  beginOwned : ∀ key service borrow epoch nowMs deadlineMs w n a, borrow.pin = token →
    (fileObjectGuardBeginOwned key service borrow epoch nowMs deadlineMs w n g).1 ≠ .ok a
  release : ∀ service client w n,
    (fileObjectGuardRelease token service client w n g).1 = .ok () →
      (fileObjectGuardRelease token service client w n g).2.2 = g

theorem lateRefused (h : g.ReservationOver token nowMs) : LateRefused g token nowMs := by
  refine ⟨fun owner outcome w n => ?_, fun owner resource mark w n => ?_,
    fun service resource w n => ?_, fun owner verified w n => ?_⟩
  · exact Refuses.not_ok (fun _ => fileObjectGuardEnd_over h) w n ()
  · exact Refuses.not_ok (fun _ => fileObjectGuardJournalIo_over h) w n
  · exact Refuses.not_ok (fun _ => fileObjectGuardOwnedRequest_over h) w n
  · exact Refuses.not_ok (fun _ => fileObjectGuardRepairFinish_over h) w n ()

theorem reservationRefused (h : g.ReservationSpent token) : ReservationRefused g token := by
  refine ⟨fun _ => lateRefused (.inl h), fun owner w n => ?_, fun owner resource nowMs w n => ?_,
    fun service w n => ?_⟩
  · exact Refuses.not_ok (fun _ => fileObjectGuardContext_spent h) w n
  · exact Refuses.not_ok (fun _ => fileObjectGuardJournalProbe_spent h) w n
  · exact Refuses.not_ok (fun _ => fileObjectGuardCancelUndelivered_spent h) w n ()

theorem pinRefused (hsound : g.Sound) (h : g.PinSpent token) : PinRefused g token := by
  refine ⟨fun service client nowMs w n => ?_, ?_, fun service client w n hok => ?_⟩
  · exact Refuses.not_ok (fun _ => fileObjectGuardLookup_spent h) w n
  · rintro key service borrow epoch nowMs deadlineMs w n a rfl
    exact Refuses.not_ok (fun _ => fileObjectGuardBeginOwned_spent h) w n a
  · have htriple : Triple (· = g) (fileObjectGuardRelease token service client)
        (fun _ s => s = g) (fun _ => g.Reaches .fenced) := fileObjectGuardRelease_spent hsound h
    have hend := htriple w n g rfl
    rw [hok] at hend
    exact hend

end ReistOs
