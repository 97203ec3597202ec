import ReistOs.FileObjectGuardSafety

/-! The tokens of `kernel/init/file_object_guard.c`: one reservation at a time, its borrowed pin
live, and no token good again once it is spent. -/

namespace ReistOs

open Attempt FileObjectGuard Relation

variable {call : FileObjectGuardCall} {g g0 g' : FileObjectGuard} {c c' : GuardControl}
  {token : UInt32}

namespace FileObjectGuard

structure Sound (g : FileObjectGuard) : Prop where
  control : guardControlValid g.control = true
  pins : ∀ slot, guardPinValid (g.pins slot) = true
  media : ∀ resource, g.media resource ≠ 0
  lends : g.control.active = true → g.control.borrowedPin ≠ 0 → ∃ slot, g.Lends g.control slot

def PinSpent (g : FileObjectGuard) (token : UInt32) : Prop :=
  ∃ slot, tokenSlot token = some slot ∧ (token >>> 8 < (g.pins slot).generation ∨
    ((g.pins slot).generation = token >>> 8 ∧ (g.pins slot).active = false))

def ReservationLive (g : FileObjectGuard) (token : UInt32) : Prop :=
  g.control.active = true ∧ g.control.generation = token

def ReservationSpent (g : FileObjectGuard) (token : UInt32) : Prop :=
  token < g.control.generation ∨ (g.control.generation = token ∧ g.control.active = false)

end FileObjectGuard

theorem guardPinValid_cleared {pin : GuardPin} (hvalid : guardPinValid pin = true)
    (hactive : pin.active = true) : guardPinValid pin.cleared = true := by
  unfold guardPinValid at hvalid ⊢
  by_cases hlarge : fileObjectGuardGenerationMax < pin.generation
  · rw [if_pos hlarge] at hvalid
    cases hvalid
  · rw [if_neg hlarge, if_pos hactive] at hvalid
    simp only [Bool.and_eq_true, bne_iff_ne, ne_eq] at hvalid
    have howners : (guardOwnerValid pin.service && guardOwnerValid pin.client) = true :=
      Bool.and_eq_true_iff.mpr ⟨hvalid.1.1.2, hvalid.1.2⟩
    rw [if_neg (show ¬ fileObjectGuardGenerationMax < pin.cleared.generation from hlarge),
      if_neg (show ¬ pin.cleared.active = true from Bool.false_ne_true),
      if_neg (show ¬ (pin.cleared.key ≠ emptyKey ∨ pin.cleared.mediaGeneration ≠ 0) by
        simp [GuardPin.cleared]),
      if_neg (show ¬ pin.cleared.generation = 0 from hvalid.1.1.1.1)]
    exact howners

variable {slot i : Fin fileObjectGuardCapacity}

theorem pins_update {pin : GuardPin} :
    ({ g with pins := Function.update g.pins slot pin } : FileObjectGuard).pins i =
      if i = slot then pin else g.pins i :=
  Function.update_apply g.pins slot pin i

theorem pins_clearPin :
    (g.clearPin slot).pins i = if i = slot then (g.pins slot).cleared else g.pins i :=
  pins_update

theorem FileObjectGuard.Sound.cleared {slot : Fin fileObjectGuardCapacity} (h : g.Sound)
    (hactive : (g.pins slot).active = true)
    (hfree : g.control.active = true → g.control.borrowedPin ≠ pinToken slot (g.pins slot) ∨
      g.control.resource ≠ (g.pins slot).key.resource) : (g.clearPin slot).Sound := by
  refine ⟨h.control, ?_, h.media, ?_⟩
  · intro i
    rw [pins_clearPin]
    split
    · exact guardPinValid_cleared (h.pins slot) hactive
    · exact h.pins i
  · intro hlive hborrows
    obtain ⟨i, hlends⟩ := h.lends hlive hborrows
    have hother : i ≠ slot := by
      rintro rfl
      rcases hfree hlive with htoken | hresource
      · exact htoken (pinToken_eq hlends.token hlends.generation).symm
      · exact hresource hlends.resource.symm
    have hsame : (g.clearPin slot).pins i = g.pins i := by rw [pins_clearPin, if_neg hother]
    exact ⟨i, hlends.token, hsame ▸ hlends.active, hsame ▸ hlends.generation, hsame ▸ hlends.service,
      hsame ▸ hlends.resource, hsame ▸ hlends.kind, hsame ▸ hlends.media⟩

theorem FileObjectGuard.Sound.move (h : g.Sound) (hmove : Move call g g') : g'.Sound := by
  cases hmove with
  | poisoned => exact ⟨h.control, h.pins, h.media, fun ha hb => by
      obtain ⟨i, hl⟩ := h.lends ha hb
      exact ⟨i, hl.token, hl.active, hl.generation, hl.service, hl.resource, hl.kind, hl.media⟩⟩
  | retired c hret =>
    refine ⟨hret.valid, h.pins, h.media, fun hactive => ?_⟩
    exact absurd (hret.idle.symm.trans hactive) (by decide)
  | carried c hcarries =>
    refine ⟨hcarries.valid, h.pins, h.media, fun hactive hborrows => ?_⟩
    obtain ⟨i, hl⟩ := h.lends (hcarries.active ▸ hactive) (hcarries.borrowedPin ▸ hborrows)
    exact ⟨i, hcarries.borrowedPin ▸ hl.token, hl.active, hcarries.borrowedPin ▸ hl.generation,
      hcarries.owner ▸ hl.service, hcarries.resource ▸ hl.resource, hl.kind,
      hcarries.resource ▸ hl.media⟩
  | admitted c hadmits =>
    refine ⟨hadmits.valid, h.pins, h.media, fun _ hborrows => ?_⟩
    obtain ⟨i, hl⟩ := hadmits.lends hborrows
    exact ⟨i, hl.token, hl.active, hl.generation, hl.service, hl.resource, hl.kind, hl.media⟩
  | pinned slot pin hpin =>
    refine ⟨h.control, fun i => ?_, h.media, fun hactive => ?_⟩
    · rw [pins_update]
      split
      · exact hpin.valid
      · exact h.pins i
    · exact absurd (hpin.idle.symm.trans hactive) (by decide)
  | cleared slot hactive _ hfree => exact h.cleared hactive hfree
  | revoked resource hroom hfree =>
    refine ⟨h.control, h.pins, fun r => ?_, fun hactive hborrows => ?_⟩
    · show Function.update g.media resource (g.media resource + 1) r ≠ 0
      rw [Function.update_apply]
      split
      · exact hroom
      · exact h.media r
    · obtain ⟨i, hl⟩ := h.lends hactive hborrows
      refine ⟨i, hl.token, hl.active, hl.generation, hl.service, hl.resource, hl.kind, ?_⟩
      show (g.pins i).mediaGeneration = Function.update g.media resource _ g.control.resource
      rw [Function.update_apply, if_neg (hfree hactive)]
      exact hl.media

section Kept

variable {P : FileObjectGuard → Prop} (hmove : ∀ {call g g'}, P g → Move call g g' → P g')
include hmove

theorem kept_reaches (h : P g0) (hreaches : g0.Reaches call g) : P g := by
  induction hreaches with
  | refl => exact h
  | tail _ hstep ih => exact hmove ih hstep

theorem kept_run (h : P g) (calls : List (FileObjectGuardCall × GuardAnswers)) : P (g.run calls) := by
  induction calls generalizing g with
  | nil => exact h
  | cons p calls ih => exact ih (kept_reaches hmove h (after_reaches g p.1 p.2))

end Kept

theorem FileObjectGuard.Sound.run (h : g.Sound) (calls : List (FileObjectGuardCall × GuardAnswers)) :
    (g.run calls).Sound := kept_run Sound.move h calls

theorem fileObjectGuardInit_sound : fileObjectGuardInit.Sound := by
  have hpin : guardPinValid ⟨emptyKey, noOwner, noOwner, 0, 0, false⟩ = true := by decide
  have hmedia : (1 : UInt32) ≠ 0 := by decide
  refine ⟨by decide, fun _ => hpin, fun _ => hmedia, fun hactive => ?_⟩
  cases hactive

section Spent

variable {pin : GuardPin}

theorem FileObjectGuard.PinHeld.move (h : g.PinHeld token pin) (hmove : Move call g g') :
    g'.PinHeld token pin ∨ g'.PinSpent token := by
  obtain ⟨i, hslot, hpin, hactive, hgeneration⟩ := h
  cases hmove with
  | poisoned => exact .inl ⟨i, hslot, hpin, hactive, hgeneration⟩
  | retired c => exact .inl ⟨i, hslot, hpin, hactive, hgeneration⟩
  | carried c => exact .inl ⟨i, hslot, hpin, hactive, hgeneration⟩
  | admitted c => exact .inl ⟨i, hslot, hpin, hactive, hgeneration⟩
  | revoked resource => exact .inl ⟨i, hslot, hpin, hactive, hgeneration⟩
  | pinned slot chosen hchosen =>
    have hother : i ≠ slot := by
      rintro rfl
      rw [← hpin, hchosen.free] at hactive
      cases hactive
    refine .inl ⟨i, hslot, ?_, hactive, hgeneration⟩
    rw [pins_update, if_neg hother]
    exact hpin
  | cleared slot =>
    by_cases hi : i = slot
    · subst hi
      subst hpin
      refine .inr ⟨i, hslot, .inr ?_⟩
      rw [pins_clearPin, if_pos rfl]
      exact ⟨hgeneration, rfl⟩
    · refine .inl ⟨i, hslot, ?_, hactive, hgeneration⟩
      rw [pins_clearPin, if_neg hi]
      exact hpin

theorem FileObjectGuard.PinSpent.move (h : g.PinSpent token) (hmove : Move call g g') : g'.PinSpent token := by
  obtain ⟨i, hslot, hspent⟩ := h
  refine ⟨i, hslot, ?_⟩
  cases hmove with
  | poisoned => exact hspent
  | retired c => exact hspent
  | carried c => exact hspent
  | admitted c => exact hspent
  | revoked resource => exact hspent
  | pinned slot pin hpin =>
    rw [pins_update]
    split
    next hi =>
      subst hi
      have hroom : (g.pins i).generation ≠ 0xffffffff := by
        intro heq
        have := hpin.room
        rw [heq] at this
        exact absurd this (by decide)
      have hnext := UInt32.lt_add_one hroom
      rw [hpin.generation]
      rcases hspent with hlt | ⟨heq, -⟩
      · exact .inl (UInt32.lt_trans hlt hnext)
      · exact .inl (heq ▸ hnext)
    next => exact hspent
  | cleared slot =>
    rw [pins_clearPin]
    split
    next hi =>
      subst hi
      rcases hspent with hlt | ⟨heq, -⟩
      · exact .inl hlt
      · exact .inr ⟨heq, rfl⟩
    next => exact hspent

theorem FileObjectGuard.ReservationLive.move (h : g.ReservationLive token) (hmove : Move call g g') :
    g'.ReservationLive token ∨ g'.ReservationSpent token := by
  obtain ⟨hactive, hgeneration⟩ := h
  cases hmove with
  | poisoned => exact .inl ⟨hactive, hgeneration⟩
  | pinned slot pin => exact .inl ⟨hactive, hgeneration⟩
  | cleared slot => exact .inl ⟨hactive, hgeneration⟩
  | revoked resource => exact .inl ⟨hactive, hgeneration⟩
  | retired c hret => exact .inr (.inr ⟨hret.generation.trans hgeneration, hret.idle⟩)
  | carried c hcarries =>
    exact .inl ⟨hcarries.active.trans hactive, hcarries.generation.trans hgeneration⟩
  | admitted c hadmits => exact absurd (hadmits.idle.symm.trans hactive) (by decide)

theorem FileObjectGuard.ReservationSpent.move (h : g.ReservationSpent token) (hmove : Move call g g') :
    g'.ReservationSpent token := by
  cases hmove with
  | poisoned => exact h
  | pinned slot pin => exact h
  | cleared slot => exact h
  | revoked resource => exact h
  | retired c hret =>
    rcases h with hlt | ⟨heq, -⟩
    · exact .inl (hret.generation ▸ hlt)
    · exact .inr ⟨hret.generation.trans heq, hret.idle⟩
  | carried c hcarries =>
    rcases h with hlt | ⟨heq, hidle⟩
    · exact .inl (hcarries.generation ▸ hlt)
    · exact .inr ⟨hcarries.generation.trans heq, hcarries.active.trans hidle⟩
  | admitted c hadmits =>
    have hnext := UInt32.lt_add_one hadmits.room
    rw [← hadmits.generation] at hnext
    rcases h with hlt | ⟨heq, -⟩
    · exact .inl (UInt32.lt_trans hlt hnext)
    · exact .inl (heq ▸ hnext)

theorem pin_move (h : g.PinHeld token pin ∨ g.PinSpent token) (hmove : Move call g g') :
    g'.PinHeld token pin ∨ g'.PinSpent token := by
  rcases h with hheld | hspent
  · exact hheld.move hmove
  · exact .inr (hspent.move hmove)

theorem reservation_move (h : g.ReservationLive token ∨ g.ReservationSpent token)
    (hmove : Move call g g') : g'.ReservationLive token ∨ g'.ReservationSpent token := by
  rcases h with hlive | hspent
  · exact hlive.move hmove
  · exact .inr (hspent.move hmove)

theorem reservation_reaches (h : g0.ReservationLive token ∨ g0.ReservationSpent token)
    (hreaches : g0.Reaches call g) : g.ReservationLive token ∨ g.ReservationSpent token :=
  kept_reaches reservation_move h hreaches

theorem FileObjectGuard.PinSpent.not_held (h : g.PinSpent token) :
    ¬ g.PinHeld token pin := by
  rintro ⟨i, hslot, rfl, hactive, hgeneration⟩
  obtain ⟨j, hslot', hspent⟩ := h
  obtain rfl : i = j := Option.some.inj (hslot.symm.trans hslot')
  rcases hspent with hlt | ⟨-, hidle⟩
  · rw [hgeneration] at hlt
    exact absurd hlt (UInt32.lt_irrefl _)
  · exact absurd (hidle.symm.trans hactive) (by decide)

theorem FileObjectGuard.ReservationSpent.not_live (h : g.ReservationSpent token) : ¬ g.ReservationLive token := by
  rintro ⟨hactive, hgeneration⟩
  rcases h with hlt | ⟨-, hidle⟩
  · rw [hgeneration] at hlt
    exact absurd hlt (UInt32.lt_irrefl _)
  · exact absurd (hidle.symm.trans hactive) (by decide)

end Spent

/-- While the reservation of the token goes on, its resource is its own. -/
def FileObjectGuard.Excluding (g : FileObjectGuard) (token : UInt32) : Prop :=
  token < g.control.generation ∨
    (g.control.generation = token ∧ (g.control.active = true → g.Alone g.control))

theorem guardBegun_excluding (h : GuardBegun call token g) (hexcludes : call.Excludes) :
    g.Excluding token :=
  .inr ⟨h.generation, fun _ => h.alone hexcludes⟩

theorem FileObjectGuard.Excluding.move (h : g.Excluding token) (hmove : Move call g g') :
    g'.Excluding token := by
  cases hmove with
  | poisoned => exact h
  | revoked resource => exact h
  | retired c hret =>
    rcases h with hlt | ⟨hgeneration, -⟩
    · exact .inl (hret.generation ▸ hlt)
    · refine .inr ⟨hret.generation.trans hgeneration, fun hactive => ?_⟩
      exact absurd (hret.idle.symm.trans hactive) (by decide)
  | carried c hcarries =>
    rcases h with hlt | ⟨hgeneration, halone⟩
    · exact .inl (hcarries.generation ▸ hlt)
    · refine .inr ⟨hcarries.generation.trans hgeneration, fun hactive slot hpin hresource => ?_⟩
      have hsame := halone (hcarries.active.symm.trans hactive) slot hpin
      exact (hsame (hresource.trans hcarries.resource)).trans hcarries.borrowedPin.symm
  | admitted c hadmits =>
    have hnext := UInt32.lt_add_one hadmits.room
    rw [← hadmits.generation] at hnext
    rcases h with hlt | ⟨heq, -⟩
    · exact .inl (UInt32.lt_trans hlt hnext)
    · exact .inl (heq ▸ hnext)
  | pinned slot pin hpin =>
    rcases h with hlt | ⟨hgeneration, -⟩
    · exact .inl hlt
    · exact .inr ⟨hgeneration, fun hactive => absurd (hpin.idle.symm.trans hactive) (by decide)⟩
  | cleared slot =>
    rcases h with hlt | ⟨hgeneration, halone⟩
    · exact .inl hlt
    · refine .inr ⟨hgeneration, fun hactive i => ?_⟩
      rw [pins_clearPin]
      split
      next => exact fun hcleared => absurd hcleared Bool.false_ne_true
      next => exact halone hactive i

theorem FileObjectGuard.Excluding.alone (h : g.Excluding token) (hlive : g.ReservationLive token) :
    g.Alone g.control := by
  rcases h with hlt | ⟨-, halone⟩
  · rw [hlive.2] at hlt
    exact absurd hlt (UInt32.lt_irrefl _)
  · exact halone hlive.1

end ReistOs
