import ReistOs.FileObjectGuardStale

/-! What every run of `kernel/init/file_object_guard.c` guarantees of its pins and reservations. -/

namespace ReistOs

open Attempt FileObjectGuard Relation

variable {call : FileObjectGuardCall} {g : FileObjectGuard} {token : UInt32} {pin : GuardPin}

section Spending

def FileObjectGuardCall.SpendsPin (token : UInt32) (pin : GuardPin) : FileObjectGuardCall → Prop
  | .release t _ _ => t = token
  | .cleanup owner => pin.Of owner
  | .revokeMedia resource => pin.key.resource = resource
  | _ => False

def FileObjectGuardCall.SpendsReservation (c : GuardControl) : FileObjectGuardCall → Prop
  | .mutationEnd token _ _ _ => c.generation = token
  | .cancelUndelivered token _ => c.generation = token
  | .repairFinish token _ _ _ => c.generation = token
  | .release token _ _ => c.borrowedPin = token
  | .cleanup owner => c.owner = owner
  | .revokeMedia resource => c.resource = resource
  | .poll nowMs => c.deadlineMs ≤ nowMs
  | _ => False

theorem lacks_not_held {p : GuardPin → Prop} (h : ∀ i, g.Lacks p i) (hp : p pin) :
    ¬ g.PinHeld token pin := by
  rintro ⟨i, -, rfl, hactive, -⟩
  exact h i hactive hp

variable {E : Errno → FileObjectGuard → Prop} {w : GuardAnswers} {v : UInt32}

theorem ignored_triple {α : Type} {x : Guard α} {P R : FileObjectGuard → Prop} {n : UInt32}
    (h : Triple P x (fun _ => R) E) :
    Triple P (do let _ ← x; pure n : Guard UInt32) (fun _ => R) E :=
  Triple.bind h fun _ => Triple.ret

theorem exec_spends_pin (h : call.SpendsPin token pin) :
    Triple (· = g) call.exec (fun _ s => g.Reaches call s ∧ ¬ s.PinHeld token pin)
      (fun _ => g.Reaches call) := by
  cases call with
  | release t service client =>
    obtain rfl : t = token := h
    refine ignored_triple ((fileObjectGuardRelease_reaches ReflTransGen.refl).post fun _ s hs => ?_)
    exact ⟨hs.1, hs.2.1 pin⟩
  | cleanup owner =>
    refine ignored_triple ((fileObjectGuardCleanup_reaches ReflTransGen.refl).post fun _ s hs => ?_)
    exact ⟨hs.1, lacks_not_held hs.2.1 h⟩
  | revokeMedia resource =>
    refine ignored_triple ((fileObjectGuardRevokeMedia_reaches ReflTransGen.refl).post
      fun _ s hs => ?_)
    exact ⟨hs.1, lacks_not_held hs.2.1 h⟩
  | _ => exact h.elim

theorem exec_spends_reservation (h : call.SpendsReservation g.control) :
    Triple (· = g) call.exec (fun _ s => g.Reaches call s ∧ s.control.active = false)
      (fun _ => g.Reaches call) := by
  cases call with
  | mutationEnd token owner outcome nowMs =>
    exact ignored_triple (fileObjectGuardEnd_reaches.pre self_reaches)
  | cancelUndelivered token service =>
    exact ignored_triple (fileObjectGuardCancelUndelivered_reaches.pre self_reaches)
  | repairFinish token owner verified nowMs =>
    exact ignored_triple (fileObjectGuardRepairFinish_reaches.pre self_reaches)
  | release token service client =>
    refine ignored_triple ((fileObjectGuardRelease_reaches ReflTransGen.refl).post fun _ s hs => ?_)
    exact ⟨hs.1, hs.2.2 h⟩
  | cleanup owner =>
    refine ignored_triple ((fileObjectGuardCleanup_reaches ReflTransGen.refl).post fun _ s hs => ?_)
    exact ⟨hs.1, hs.2.2 h⟩
  | revokeMedia resource =>
    refine ignored_triple ((fileObjectGuardRevokeMedia_reaches ReflTransGen.refl).post
      fun _ s hs => ?_)
    exact ⟨hs.1, hs.2.2 h⟩
  | poll nowMs =>
    refine ignored_triple ((fileObjectGuardPoll_reaches ReflTransGen.refl).post fun _ s hs => ?_)
    exact ⟨hs.1, hs.2 h⟩
  | _ => exact h.elim

theorem after_ok {Q : UInt32 → FileObjectGuard → Prop} (h : Triple (· = g) call.exec Q E)
    (hok : (call.exec w 0 g).1 = .ok v) : Q v (g.after call w) := by
  have hend := h w 0 g rfl
  rw [hok] at hend
  exact hend

theorem pinSpent_after (hheld : g.PinHeld token pin) (h : call.SpendsPin token pin)
    (hok : (call.exec w 0 g).1 = .ok v) :
    (g.after call w).PinSpent token := by
  obtain ⟨hreaches, hlost⟩ := after_ok (exec_spends_pin h) hok
  exact (kept_reaches pin_move (.inl hheld) hreaches).resolve_left hlost

theorem reservationSpent_after (hlive : g.ReservationLive token)
    (h : call.SpendsReservation g.control) (hok : (call.exec w 0 g).1 = .ok v) :
    (g.after call w).ReservationSpent token := by
  obtain ⟨hreaches, hidle⟩ := after_ok (exec_spends_reservation h) hok
  refine (reservation_reaches (.inl hlive) hreaches).resolve_left fun hstill => ?_
  exact absurd (hidle.symm.trans hstill.1) (by decide)

end Spending

theorem exec_begun (hopens : call.Opens) :
    Triple (· = g) call.exec (fun token s => g.Reaches call s ∧ GuardBegun call token s)
      (fun _ => g.Reaches call) := by
  refine Triple.pre (P := g.Reaches call) ?_ self_reaches
  cases call with
  | beginMode keys flags owner epoch nowMs deadlineMs =>
    exact fileObjectGuardBeginMode_reaches trivial fun h => h
  | beginOwned key service borrow epoch nowMs deadlineMs =>
    exact fileObjectGuardBeginOwned_reaches trivial
  | repairBegin resource owner epoch nowMs deadlineMs =>
    exact fileObjectGuardRepairBegin_reaches trivial
  | _ => exact hopens.elim

def Pinned (key : FileObjectKey) (service client : FileObjectOwner) (token : UInt32)
    (g : FileObjectGuard) : Prop :=
  ∃ pin, g.PinHeld token pin ∧ pin.key = key ∧ pin.service = service ∧ pin.client = client

theorem pinned_after {key : FileObjectKey} {service client : FileObjectOwner}
    {epoch nowMs : UInt64} {w : GuardAnswers}
    (hok : (fileObjectGuardPin key service client epoch nowMs w 0 g).1 = .ok token) :
    Pinned key service client token (g.after (.pin key service client epoch nowMs) w) := by
  have htriple : Triple (· = g) (fileObjectGuardPin key service client epoch nowMs)
      (fun token s => g.Reaches .fenced s ∧ Pinned key service client token s)
      (fun _ => g.Reaches .fenced) := fileObjectGuardPin_reaches.pre self_reaches
  have hend := htriple w 0 g rfl
  rw [hok] at hend
  exact hend.2

/-- What holds of the guard, and of all that may follow. -/
structure Guarantees (g : FileObjectGuard) : Prop where
  single : ∀ t t', g.ReservationLive t → g.ReservationLive t' → t = t'
  /-- The pin that a reservation borrows is live. -/
  lent : ∀ w n, (guardOwnedPinLive g.control w n g).1 = .ok () ∧
    (guardOwnedPinLive g.control w n g).2.2 = g
  pinned : ∀ key service client epoch nowMs w token,
    (fileObjectGuardPin key service client epoch nowMs w 0 g).1 = .ok token →
      Pinned key service client token (g.after (.pin key service client epoch nowMs) w)
  begun : ∀ call w token, call.Opens → (call.exec w 0 g).1 = .ok token →
    (g.after call w).ReservationLive token
  exclusive : ∀ call w token calls, call.Opens → call.Excludes → (call.exec w 0 g).1 = .ok token →
    ((g.after call w).run calls).ReservationLive token →
      ((g.after call w).run calls).Alone ((g.after call w).run calls).control
  pins : ∀ token pin calls, g.PinHeld token pin →
    (g.run calls).PinHeld token pin ∨ (g.run calls).PinSpent token
  pinSpent : ∀ call w v token pin, g.PinHeld token pin → call.SpendsPin token pin →
    (call.exec w 0 g).1 = .ok v → (g.after call w).PinSpent token
  pinStale : ∀ token calls, g.PinSpent token →
    (g.run calls).PinSpent token ∧ PinRefused (g.run calls) token
  reservations : ∀ token calls, g.ReservationLive token →
    (g.run calls).ReservationLive token ∨ (g.run calls).ReservationSpent token
  reservationSpent : ∀ call w v token, g.ReservationLive token →
    call.SpendsReservation g.control → (call.exec w 0 g).1 = .ok v →
      (g.after call w).ReservationSpent token
  reservationLate : ∀ token nowMs, g.ReservationLive token → g.control.deadlineMs ≤ nowMs →
    LateRefused g token nowMs
  reservationStale : ∀ token calls, g.ReservationSpent token →
    (g.run calls).ReservationSpent token ∧ ReservationRefused (g.run calls) token

theorem guarantees_of_sound (h : g.Sound) : Guarantees g where
  single := fun _ _ ht ht' => ht.2.symm.trans ht'.2
  lent := guardOwnedPinLive_lent h
  pinned := fun _ _ _ _ _ _ _ hok => pinned_after hok
  begun := by
    intro call w token hopens hok
    have hbegun := (after_ok (exec_begun hopens) hok).2
    exact ⟨hbegun.active, hbegun.generation⟩
  exclusive := by
    intro call w token calls hopens hexcludes hok hlive
    have hbegun := (after_ok (exec_begun hopens) hok).2
    exact (kept_run Excluding.move (guardBegun_excluding hbegun hexcludes) calls).alone hlive
  pins := fun _ _ calls hheld => kept_run pin_move (.inl hheld) calls
  pinSpent := fun _ _ _ _ _ hheld hspends hok => pinSpent_after hheld hspends hok
  pinStale := by
    intro token calls hspent
    have hstill := kept_run PinSpent.move hspent calls
    exact ⟨hstill, pinRefused (h.run calls) hstill⟩
  reservations := fun _ calls hlive => kept_run reservation_move (.inl hlive) calls
  reservationSpent := fun _ _ _ _ hlive hspends hok => reservationSpent_after hlive hspends hok
  reservationLate := fun _ _ hlive hlate => lateRefused (.inr ⟨hlive, hlate⟩)
  reservationStale := by
    intro token calls hspent
    have hstill := kept_run ReservationSpent.move hspent calls
    exact ⟨hstill, reservationRefused hstill⟩

/-- Whatever has been called, and whichever publications failed. -/
theorem fileObjectGuard_guarantees (calls : List (FileObjectGuardCall × GuardAnswers)) :
    Guarantees (fileObjectGuardInit.run calls) :=
  guarantees_of_sound (fileObjectGuardInit_sound.run calls)

def freeAnswers : GuardAnswers := ⟨fun _ => true, fun _ => true⟩

/-- A repair of the resource is under way. -/
structure FileObjectGuard.Repairing (g : FileObjectGuard) (token : UInt32) (r : Nat) : Prop where
  live : g.ReservationLive token
  mode : g.control.mode = .repair
  resource : g.control.resource = r

/-- No repair but the one of the token is finished as verified. -/
def FileObjectGuardCall.VerifiesOnly (token : UInt32) (call : FileObjectGuardCall) : Prop :=
  ∀ t owner nowMs, call = .repairFinish t owner true nowMs → t = token

/-- A merge that adds a fence ends the reservation whose resource it names; another one does
nothing. -/
structure MergedFences (mask : UInt32) (g g' : FileObjectGuard) : Prop where
  same : mask &&& ~~~g.control.fenced = 0 → g' = g
  ended : mask &&& ~~~g.control.fenced ≠ 0 → g.control.active = true →
    Names mask g.control.resource → g'.control.active = false
  fenced : ∀ r, Names mask r → Names g.control.fenced r ∨ mask &&& ~~~g.control.fenced ≠ 0 →
    Names g'.control.fenced r

theorem fileObjectGuardMergeFences_merged {mask : UInt32} :
    Triple (· = g) (fileObjectGuardMergeFences mask) (fun _ s => MergedFences mask g s)
      (fun _ _ => True) := by
  have hunit {s : FileObjectGuard} (hs : s = g) (h : mask &&& ~~~g.control.fenced = 0) :
      MergedFences mask g s := by
    refine ⟨fun _ => hs, fun hnew => absurd h hnew, fun r _ hr => ?_⟩
    exact hs ▸ hr.resolve_right fun hnew => hnew h
  refine Triple.ite (fun hmask => Triple.pure fun s hs => hunit hs (by simp [hmask])) fun _ => ?_
  refine Triple.bind (Q := fun _ s => s = g) (keeps_guardLock.errors
    fun _ _ _ => trivial) fun _ => ?_
  have hread : Triple (· = g) guardControlRead (fun c s => s = g ∧ g.Held .fenced c s)
      (fun _ => g.Reaches .fenced) := guardControlRead_reaches self_reaches
  refine Triple.bind (hread.ends
    (fun c s h => (⟨h.1, h.2.control⟩ : s = g ∧ s.control = c)) fun _ _ _ => trivial) fun c => ?_
  refine Triple.start fun s hs => ?_
  obtain ⟨rfl, rfl⟩ := hs
  refine Triple.ite (fun hnone => Triple.pure fun t ht => hunit ht hnone) fun hnew => ?_
  have hwritten {c : GuardControl} {t : FileObjectGuard} (hc : t.control = c)
      (hended : s.control.active = true → Names mask s.control.resource → c.active = false)
      (hmore : ∀ r, Names mask r → Names c.fenced r) : MergedFences mask s t :=
    ⟨fun h => absurd h hnew, fun _ ha hn => hc ▸ hended ha hn, fun r hr _ => hc ▸ hmore r hr⟩
  have hany : OfControl fun _ => True := fun _ _ _ _ _ => trivial
  refine Triple.ite (fun hends => ?_) fun hgoes => ?_
  · refine Triple.bind (Q := fun _ t => MergedFences mask s t) ?_ fun _ => Triple.ret
    refine (guardFinish_done hany).weaken (fun _ _ => trivial) (fun c' t ht => ?_) fun _ _ _ => trivial
    obtain ⟨⟨hc', -⟩, t', -, rfl⟩ := ht
    refine hwritten rfl (fun _ _ => by rw [hc']; rfl) fun r hr => ?_
    rw [hc']
    exact names_or.mpr (.inl (names_or.mpr (.inr hr)))
  · refine (guardControlWrite_done hany).weaken (fun _ _ => trivial) (fun _ t ht => ?_) fun _ _ _ => trivial
    obtain ⟨t', -, rfl⟩ := ht
    exact hwritten rfl (fun ha hn => absurd ⟨ha, hn⟩ hgoes) fun r hr => names_or.mpr (.inr hr)

theorem fenced_run {r : Nat} (hspent : g.ReservationSpent token) (hr : Names g.control.fenced r)
    (calls : List (FileObjectGuardCall × GuardAnswers)) (honly : ∀ p ∈ calls, p.1.VerifiesOnly token) :
    Names (g.run calls).control.fenced r := by
  induction calls generalizing g with
  | nil => exact hr
  | cons p calls ih =>
    have hspent' := kept_reaches ReservationSpent.move hspent (after_reaches g p.1 p.2)
    refine ih hspent' ?_ fun q hq => honly q (List.mem_cons_of_mem p hq)
    by_contra hlost
    obtain ⟨⟨t, owner, nowMs, hcall, -, hgeneration, -⟩, hactive, -⟩ :=
      (fencesStick_after p.2).cleared r hr hlost
    obtain rfl : t = token := honly p List.mem_cons_self t owner nowMs hcall
    exact hspent.not_live ⟨hactive, hgeneration⟩

theorem repairFinish_lifts {r : Nat} {owner : FileObjectOwner} {nowMs : UInt64} {w : GuardAnswers}
    {v : UInt32} (hr : r < 32) (hrepair : g.Repairing token r)
    (hok : ((FileObjectGuardCall.repairFinish token owner true nowMs).exec w 0 g).1 = .ok v) :
    ¬ Names (g.after (.repairFinish token owner true nowMs) w).control.fenced r := by
  have htriple : Triple (· = g) (FileObjectGuardCall.repairFinish token owner true nowMs).exec
      (fun _ s => ¬ Names s.control.fenced r) (fun _ => GuardRetains (fun _ _ _ => False) g) := by
    refine Triple.bind (fileObjectGuardRepairFinish_verified.pre fun s hs => hs ▸ GuardRetains.refl)
      fun _ => Triple.pure fun s hs => ?_
    obtain ⟨g1, hretains, hverified⟩ := hs
    -- the repair that was finished is the one that was found
    have hon := hretains.repair hverified.reserved.active hverified.repair
    have hresource : g1.control.resource = r := hon.resource.trans hrepair.resource
    rw [hverified.fenced, hresource]
    exact not_names_cleared hr
  exact after_ok htriple hok

/-- What a merge makes of a repair: one that adds a fence keeps the resource fenced until another
repair is verified. -/
theorem fileObjectGuardMergeFences_repair (g : FileObjectGuard) (token : UInt32) (r : Nat)
    (mask : UInt32) (w : GuardAnswers) (v : UInt32) (hrepair : g.Repairing token r)
    (hmask : Names mask r) (hok : ((FileObjectGuardCall.mergeFences mask).exec w 0 g).1 = .ok v) :
    (mask &&& ~~~g.control.fenced ≠ 0 → ∀ calls, (∀ p ∈ calls, p.1.VerifiesOnly token) →
      Names ((g.after (.mergeFences mask) w).run calls).control.fenced r) ∧
    (mask &&& ~~~g.control.fenced = 0 → g.after (.mergeFences mask) w = g ∧
      ∀ owner nowMs w' v', ((FileObjectGuardCall.repairFinish token owner true nowMs).exec w' 0 g).1 =
        .ok v' → ¬ Names (g.after (.repairFinish token owner true nowMs) w').control.fenced r) := by
  have hmerged : MergedFences mask g (g.after (.mergeFences mask) w) :=
    after_ok (ignored_triple fileObjectGuardMergeFences_merged) hok
  have hr : r < 32 := BitVec.lt_of_getLsbD hmask
  refine ⟨fun hnew calls honly => ?_, fun hnone => ⟨hmerged.same hnone, fun _ _ _ _ => repairFinish_lifts hr hrepair⟩⟩
  have hidle := hmerged.ended hnew hrepair.live.1 (hrepair.resource.symm ▸ hmask)
  have hspent : (g.after (.mergeFences mask) w).ReservationSpent token := by
    refine (reservation_reaches (.inl hrepair.live) (after_reaches g _ w)).resolve_left fun hlive => ?_
    exact absurd (hidle.symm.trans hlive.1) (by decide)
  exact fenced_run hspent (hmerged.fenced r hmask (.inr hnew)) calls honly

/-- The fence of resource 1 under repair: its journal is written and flushed. -/
def repairRun : List (FileObjectGuardCall × GuardAnswers) :=
  [(.mergeFences 2, freeAnswers), (.repairBegin 1 ⟨1, 1⟩ 1 0 1000, freeAnswers),
    (.journalIo ⟨1, 1⟩ 1 1 .write 0, freeAnswers), (.journalIo ⟨1, 1⟩ 1 1 .flushed 0, freeAnswers)]

theorem fileObjectGuardMergeFences_repair_two_bits :
    Names ((((fileObjectGuardInit.run repairRun).after (.mergeFences 6) freeAnswers).run
      [(.repairFinish 1 ⟨1, 1⟩ true 0, freeAnswers)])).control.fenced 1 :=
  (fileObjectGuardMergeFences_repair (fileObjectGuardInit.run repairRun) 1 1 6 freeAnswers 0
    ⟨⟨by decide, by decide⟩, by decide, by decide⟩ (by decide) (by decide)).1 (by decide) _
    fun p hp t owner nowMs hcall => by
      obtain rfl := List.mem_singleton.mp hp
      cases hcall
      rfl

/-- A merge of what is fenced already is meant to do nothing, and does not disturb the repair. -/
theorem fileObjectGuardMergeFences_lost :
    ¬ ∀ (calls : List (FileObjectGuardCall × GuardAnswers)) (token : UInt32) (r : Nat) (mask : UInt32)
      (owner : FileObjectOwner) (nowMs : UInt64) (w w' : GuardAnswers),
      (fileObjectGuardInit.run calls).Repairing token r → Names mask r →
        ((FileObjectGuardCall.mergeFences mask).exec w 0 (fileObjectGuardInit.run calls)).1 = .ok 0 →
        Names ((fileObjectGuardInit.run calls).run [(.mergeFences mask, w),
          (.repairFinish token owner true nowMs, w')]).control.fenced r := by
  intro hkept
  have hlost := hkept repairRun 1 1 2 ⟨1, 1⟩ 0 freeAnswers freeAnswers
    ⟨⟨by decide, by decide⟩, by decide, by decide⟩ (by decide) (by decide)
  revert hlost
  decide

def pinnedRootKey : FileObjectKey := { emptyKey with kind := reistFileObjectFat12, objectA := 1 }

def releasedRun : List (FileObjectGuardCall × GuardAnswers) :=
  [(.pin pinnedRootKey ⟨1, 1⟩ ⟨2, 1⟩ 1 0, freeAnswers), (.release 257 ⟨1, 1⟩ ⟨2, 1⟩, freeAnswers)]

/-- The release of a spent pin may succeed: closing twice is meant to be harmless. -/
theorem fileObjectGuardRelease_twice :
    ¬ ∀ (calls : List (FileObjectGuardCall × GuardAnswers)) (token : UInt32)
      (service client : FileObjectOwner) (w : GuardAnswers) (n : Nat),
      (fileObjectGuardInit.run calls).PinSpent token →
        (fileObjectGuardRelease token service client w n (fileObjectGuardInit.run calls)).1 ≠ .ok () := by
  intro hrefused
  have hspent : (fileObjectGuardInit.run releasedRun).PinSpent 257 :=
    ⟨⟨0, by decide⟩, by decide, .inr ⟨by decide, by decide⟩⟩
  exact hrefused releasedRun 257 ⟨1, 1⟩ ⟨2, 1⟩ freeAnswers 0 hspent rfl

end ReistOs
