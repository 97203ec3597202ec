import ReistOs.FileObjectGuardReservations

/-! The runs of `kernel/init/file_object_guard.c`: fences stick, reservations exclude, and tokens
that are spent stay so. -/

namespace ReistOs

open Attempt FileObjectGuard Relation FileObjectGuardCall

namespace FileObjectGuard

def after (g : FileObjectGuard) (call : FileObjectGuardCall) (w : GuardAnswers) : FileObjectGuard :=
  (call.exec w 0 g).2.2

def run (g : FileObjectGuard) (calls : List (FileObjectGuardCall × GuardAnswers)) :
    FileObjectGuard := calls.foldl (fun g p => g.after p.1 p.2) g

end FileObjectGuard

variable {call : FileObjectGuardCall} {g g0 g' : FileObjectGuard} {c c' : GuardControl}

theorem after_reaches (g : FileObjectGuard) (call : FileObjectGuardCall) (w : GuardAnswers) :
    g.Reaches call (g.after call w) := by
  have hkeeps : Keeps (g.Reaches call) call.exec := exec_reaches
  exact hkeeps.after ReflTransGen.refl

section Fences

theorem opens_verifies (h : call.Opens) : ¬ call.Verifies c := by
  rintro ⟨token, owner, nowMs, rfl, -⟩
  exact h

/-- What has become of the reservation that a call found. -/
structure GuardFate (call : FileObjectGuardCall) (c₀ c : GuardControl) : Prop where
  fenced : ∀ r, Names c₀.fenced r → Names c.fenced r ∨
    (call.Verifies c₀ ∧ c₀.active = true ∧ r = c₀.resource)
  /-- While it goes on it is what it was. -/
  same : ¬ call.Opens → c.active = true → c₀.active = true ∧ c.resource = c₀.resource ∧
    (call.Verifies c → call.Verifies c₀) ∧ (call.Ends c → call.Ends c₀)
  effect : c₀.active = true → c₀.HasEffect →
    (c.active = true ∧ c.generation = c₀.generation ∧ c.resource = c₀.resource ∧ c.HasEffect ∧
      (call.Verifies c → call.Verifies c₀) ∧ (call.Ends c → call.Ends c₀)) ∨
    Names c.fenced c₀.resource ∨ call.Ends c₀ ∨ call.Verifies c₀

theorem GuardFate.refl : GuardFate call c c :=
  { fenced := fun _ h => .inl h
    same := fun _ hactive => ⟨hactive, rfl, fun h => h, fun h => h⟩
    effect := fun hactive heffect =>
      .inl ⟨hactive, rfl, rfl, heffect, fun h => h, fun h => h⟩ }

variable {c0 : GuardControl}

theorem GuardFate.retired (h : GuardFate call c0 c) (hret : c.Retires call c') :
    GuardFate call c0 c' := by
  have hkept : ∀ r, Names c.fenced r → Names c'.fenced r ∨
      (call.Verifies c0 ∧ c0.active = true ∧ r = c0.resource) := by
    intro r hr
    rcases hret.fenced r hr with hkept | ⟨hverifies, rfl⟩
    · exact .inl hkept
    · have hopens : ¬ call.Opens := fun hopens => opens_verifies hopens hverifies
      obtain ⟨hactive, hresource, hsame, -⟩ := h.same hopens hret.active
      exact .inr ⟨hsame hverifies, hactive, hresource⟩
  refine ⟨?_, ?_, ?_⟩
  · intro r hr
    rcases h.fenced r hr with hr | hr
    · exact hkept r hr
    · exact .inr hr
  · intro _ hactive
    rw [hret.idle] at hactive
    cases hactive
  · intro hactive heffect
    rcases h.effect hactive heffect with ⟨-, -, hresource, heffect', hverifies, hends⟩ | hdone | hdone
    · rcases hret.effect heffect' with hfence | hend | hverify
      · exact .inr (.inl (hresource ▸ hfence))
      · exact .inr (.inr (.inl (hends hend)))
      · exact .inr (.inr (.inr (hverifies hverify)))
    · rcases hkept _ hdone with hfence | ⟨hverify, -⟩
      · exact .inr (.inl hfence)
      · exact .inr (.inr (.inr hverify))
    · exact .inr (.inr hdone)

theorem GuardFate.carried (h : GuardFate call c0 c) (hcarries : c.Carries call c') :
    GuardFate call c0 c' := by
  refine ⟨?_, ?_, ?_⟩
  · intro r hr
    exact (h.fenced r hr).imp_left (hcarries.fenced r)
  · intro hopens hactive
    rw [hcarries.active] at hactive
    obtain ⟨hactive', hresource, hverifies, hends⟩ := h.same hopens hactive
    refine ⟨hactive', hcarries.resource.trans hresource, ?_, ?_⟩
    · exact fun hv => hverifies (hcarries.verifies hv)
    · exact fun he => hends (hcarries.ends he)
  · intro hactive heffect
    rcases h.effect hactive heffect with ⟨ha, hg, hr, he, hverifies, hends⟩ | hdone | hdone
    · refine .inl ⟨hcarries.active.trans ha, hcarries.generation.trans hg,
        hcarries.resource.trans hr, hcarries.effect he, ?_, ?_⟩
      · exact fun hv => hverifies (hcarries.verifies hv)
      · exact fun he => hends (hcarries.ends he)
    · exact .inr (.inl (hcarries.fenced _ hdone))
    · exact .inr (.inr hdone)

theorem GuardFate.admitted (h : GuardFate call c0 g.control) (hadmits : g.Admits call c) :
    GuardFate call c0 c := by
  refine ⟨?_, ?_, ?_⟩
  · intro r hr
    rw [hadmits.fenced]
    exact h.fenced r hr
  · exact fun hopens => absurd hadmits.opens hopens
  · intro hactive heffect
    rcases h.effect hactive heffect with ⟨ha, -⟩ | hdone | hdone
    · rw [hadmits.idle] at ha
      cases ha
    · rw [hadmits.fenced]
      exact .inr (.inl hdone)
    · exact .inr (.inr hdone)

theorem guardFate_of_reaches (h : g0.Reaches call g) : GuardFate call g0.control g.control := by
  induction h with
  | refl => exact GuardFate.refl
  | tail _ hmove ih =>
    cases hmove with
    | poisoned => exact ih
    | retired c h => exact ih.retired h
    | carried c h => exact ih.carried h
    | admitted c h => exact ih.admitted h
    | pinned slot pin h => exact ih
    | cleared slot => exact ih
    | revoked resource => exact ih

structure FencesStick (call : FileObjectGuardCall) (g g' : FileObjectGuard) : Prop where
  /-- A reservation that may have written is not given up without the fence of its resource. -/
  retired : g.control.active = true → g.control.HasEffect →
    ¬ (g'.control.active = true ∧ g'.control.generation = g.control.generation) →
    ¬ call.Ends g.control → ¬ call.Verifies g.control → Names g'.control.fenced g.control.resource
  /-- Only the verified end of the repair of a resource lifts its fence. -/
  cleared : ∀ r, Names g.control.fenced r → ¬ Names g'.control.fenced r →
    call.Verifies g.control ∧ g.control.active = true ∧ r = g.control.resource

theorem fencesStick_after (w : GuardAnswers) : FencesStick call g (g.after call w) := by
  have hfate := guardFate_of_reaches (after_reaches g call w)
  refine ⟨?_, ?_⟩
  · intro hactive heffect hover hends hverifies
    rcases hfate.effect hactive heffect with ⟨ha, hg, -⟩ | hfence | hend | hverify
    · exact absurd ⟨ha, hg⟩ hover
    · exact hfence
    · exact absurd hend hends
    · exact absurd hverify hverifies
  · intro r hr hlost
    rcases hfate.fenced r hr with hkept | hverified
    · exact absurd hkept hlost
    · exact hverified

end Fences

section Refusals

theorem reaches_fenced {r : Nat} (hverifies : ∀ c, ¬ call.Verifies c) (h : g0.Reaches call g)
    (hr : Names g0.control.fenced r) : Names g.control.fenced r := by
  rcases (guardFate_of_reaches h).fenced r hr with hkept | ⟨hverify, -⟩
  · exact hkept
  · exact absurd hverify (hverifies _)

variable {E : Errno → FileObjectGuard → Prop} {key : FileObjectKey}
  {service client owner : FileObjectOwner} {flags : UInt32} {deadlineMs : UInt64}
  {borrow : BorrowedPin}

theorem not_ok_of_triple {α : Type} {x : Guard α} {P : FileObjectGuard → Prop}
    (h : Triple P x (fun _ _ => False) E) (hg : P g) (w : GuardAnswers) (n : Nat) (a : α) :
    (x w n g).1 ≠ .ok a := by
  intro hok
  have hend := h w n g hg
  rw [hok] at hend
  exact hend

theorem absurd_triple {α : Type} {x : Guard α} {Q : α → FileObjectGuard → Prop} :
    Triple (fun _ => False) x Q E :=
  fun _ _ _ h => h.elim

variable {resource : Nat} {epoch nowMs : UInt64}

theorem guardAdmit_fenced (hverifies : ∀ c, ¬ call.Verifies c)
    (hr : Names g0.control.fenced resource) :
    Triple (g0.Reaches call) (guardAdmit resource epoch nowMs) (fun _ _ => False)
      (fun _ => g0.Reaches call) := by
  refine Triple.bind (guardControlRead_reaches fun _ h => h) fun c => ?_
  refine Triple.bind (guardExpire_held.pre fun _ h => h.2) fun c' => ?_
  refine Triple.bind (Q := fun _ _ => False) ?_ fun _ => absurd_triple
  refine (refuse_reaches fun g h => h.1.reaches).post fun _ s hs => ?_
  apply hs.2
  rw [← hs.1.1.control]
  exact reaches_fenced hverifies hs.1.1.reaches hr

theorem fileObjectGuardPin_fenced (hr : Names g.control.fenced key.resource) (w : GuardAnswers)
    (n : Nat) (token : UInt32) :
    (fileObjectGuardPin key service client epoch nowMs w n g).1 ≠ .ok token := by
  have hverifies : ∀ c, ¬ (pin key service client epoch nowMs).Verifies c := by
    simp [FileObjectGuardCall.Verifies]
  refine not_ok_of_triple (P := g.Reaches (.pin key service client epoch nowMs))
    (E := fun _ => g.Reaches (.pin key service client epoch nowMs)) ?_ ReflTransGen.refl w n token
  refine Triple.bind (refuse_reaches fun _ h => h) fun _ => ?_
  refine Triple.bind (guardLock_reaches fun g h => h.1) fun _ => ?_
  exact Triple.bind ((guardAdmit_fenced hverifies hr).pre fun g h => h.1) fun _ => absurd_triple

theorem fileObjectGuardLookup_fenced {token : UInt32} {w : GuardAnswers} {n : Nat}
    (h : (fileObjectGuardLookup token service client nowMs w n g).1 = .ok key) :
    ¬ Names g.control.fenced key.resource := by
  intro hr
  have hverifies : ∀ c,
      ¬ (FileObjectGuardCall.lookup token service client nowMs).Verifies c := by
    simp [FileObjectGuardCall.Verifies]
  have htriple : Triple (g.Reaches (.lookup token service client nowMs))
      (fileObjectGuardLookup token service client nowMs)
      (fun key _ => ¬ Names g.control.fenced key.resource)
      (fun _ => g.Reaches (.lookup token service client nowMs)) := by
    refine Triple.bind (guardLock_reaches fun _ h => h) fun _ => ?_
    refine Triple.bind (guardControlRead_reaches fun _ h => h) fun c => ?_
    refine Triple.bind (guardExpire_held.pre fun _ h => h.2) fun c' => ?_
    refine Triple.bind (guardTokenRead_reaches fun g h => h.1.reaches) fun p => ?_
    obtain ⟨slot, pin⟩ := p
    refine Triple.bind (refuse_reaches fun g h => h.1.1.reaches) fun _ => ?_
    refine Triple.bind (refuse_reaches fun g h => h.1.1.1.reaches) fun _ => ?_
    refine Triple.bind (guardMediaRead_reaches fun g h => h.1.1.1.1.reaches) fun media => ?_
    refine Triple.bind (refuse_reaches fun g h => h.1.1.1.1.1.reaches) fun _ => ?_
    refine Triple.pure fun s hs hfence => ?_
    obtain ⟨⟨⟨⟨⟨⟨hheld, -⟩, -⟩, -⟩, hno⟩, -⟩, -⟩ := hs
    apply hno
    rw [← hheld.control]
    exact reaches_fenced hverifies hheld.reaches hfence
  have hend := htriple w n g ReflTransGen.refl
  rw [h] at hend
  exact hend hr

theorem guardBegin_fenced {keys : List FileObjectKey} (hopens : call.Opens)
    (hr : Names g0.control.fenced key.resource) :
    Triple (g0.Reaches call)
      (guardBegin (key :: keys) flags owner epoch nowMs deadlineMs borrow) (fun _ _ => False)
      (fun _ => g0.Reaches call) := by
  have hverifies : ∀ c, ¬ call.Verifies c := fun c => opens_verifies hopens
  refine Triple.bind (refuse_reaches fun _ h => h) fun _ => ?_
  refine Triple.bind (guardLock_reaches fun g h => h.1) fun _ => ?_
  exact Triple.bind ((guardAdmit_fenced hverifies hr).pre fun g h => h.1) fun _ => absurd_triple

theorem fileObjectGuardBeginMode_fenced {keys : List FileObjectKey}
    (hr : Names g.control.fenced key.resource) (w : GuardAnswers) (n : Nat) (token : UInt32) :
    (fileObjectGuardBeginMode (key :: keys) flags owner epoch nowMs deadlineMs w n g).1 ≠
      .ok token := by
  have hopens : (beginMode (key :: keys) flags owner epoch nowMs
    deadlineMs).Opens := trivial
  exact not_ok_of_triple (guardBegin_fenced hopens hr) ReflTransGen.refl w n token

theorem fileObjectGuardBeginOwned_fenced (hr : Names g.control.fenced key.resource)
    (w : GuardAnswers) (n : Nat) (token : UInt32) :
    (fileObjectGuardBeginOwned key service borrow epoch nowMs deadlineMs w n g).1 ≠ .ok token := by
  refine not_ok_of_triple (P := g.Reaches (.beginOwned key service borrow epoch nowMs deadlineMs))
    (E := fun _ => g.Reaches (.beginOwned key service borrow epoch nowMs deadlineMs)) ?_
    ReflTransGen.refl w n token
  have hopens : (beginOwned key service borrow epoch nowMs
    deadlineMs).Opens := trivial
  refine Triple.bind (refuse_reaches fun _ h => h) fun _ => ?_
  exact (guardBegin_fenced hopens hr).pre fun g h => h.1

/-- A fenced resource takes no pin and no reservation but that of a repair, and its pins are not
found. -/
structure FenceRefuses (g : FileObjectGuard) (r : Nat) : Prop where
  pin : ∀ key service client epoch nowMs w n token, key.resource = r →
    (fileObjectGuardPin key service client epoch nowMs w n g).1 ≠ .ok token
  lookup : ∀ key token service client nowMs w n, key.resource = r →
    (fileObjectGuardLookup token service client nowMs w n g).1 ≠ .ok key
  begins : ∀ key keys flags owner epoch nowMs deadlineMs w n token, key.resource = r →
    (fileObjectGuardBeginMode (key :: keys) flags owner epoch nowMs deadlineMs w n g).1 ≠ .ok token
  beginOwned : ∀ key service borrow epoch nowMs deadlineMs w n token, key.resource = r →
    (fileObjectGuardBeginOwned key service borrow epoch nowMs deadlineMs w n g).1 ≠ .ok token

theorem fenceRefuses (hr : Names g.control.fenced resource) : FenceRefuses g resource := by
  refine ⟨?_, ?_, ?_, ?_⟩
  · rintro key service client epoch nowMs w n token rfl
    exact fileObjectGuardPin_fenced hr w n token
  · rintro key token service client nowMs w n rfl hok
    exact fileObjectGuardLookup_fenced hok hr
  · rintro key keys flags owner epoch nowMs deadlineMs w n token rfl
    exact fileObjectGuardBeginMode_fenced hr w n token
  · rintro key service borrow epoch nowMs deadlineMs w n token rfl
    exact fileObjectGuardBeginOwned_fenced hr w n token

end Refusals

/-- In every run of calls, whatever the clocks say and whichever of the publications fail. -/
theorem fileObjectGuard_fences_stick (calls : List (FileObjectGuardCall × GuardAnswers))
    (call : FileObjectGuardCall) (w : GuardAnswers) :
    FencesStick call (fileObjectGuardInit.run calls)
        ((fileObjectGuardInit.run calls).after call w) ∧
      ∀ r, Names (fileObjectGuardInit.run calls).control.fenced r →
        FenceRefuses (fileObjectGuardInit.run calls) r :=
  ⟨fencesStick_after w, fun _ hr => fenceRefuses hr⟩

end ReistOs
