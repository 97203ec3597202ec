import Mathlib.Tactic

/-! Pointer motion of `config/lib/mouse_settings.c`. A checked operation is `none` where it leaves
its C type. -/

namespace ReistOs.Mouse

def int32 (z : Int) : Option Int := if -2147483648 ≤ z ∧ z ≤ 2147483647 then some z else none
def int64 (z : Int) : Option Int := if -2 ^ 63 ≤ z ∧ z < 2 ^ 63 then some z else none
def uint32 (n : Nat) : Option Nat := if n < 2 ^ 32 then some n else none

def align (value rest : Int) : Option (Int × Int) :=
  if value > 0 ∧ rest < 0 then do return (← int64 (value - 1), ← int32 (rest + 100))
  else if value < 0 ∧ rest > 0 then do return (← int64 (value + 1), ← int32 (rest - 100))
  else some (value, rest)

def saturate (motion : Int × Int) : Int × Int :=
  if motion.1 > 2147483647 then (2147483647, 0)
  else if motion.1 < -2147483648 then (-2147483648, 0)
  else motion

/-- The scaled motion and the remainder before the motion is cut to `int32_t`. -/
def scaledWide (delta : Int) (gain : Nat) (remainder : Int) : Option (Int × Int) := do
  let product ← int64 (delta.tdiv 100 * gain)
  let part ← int32 (delta.tmod 100 * gain)
  let fraction ← int32 (part + remainder)
  let value ← int64 (product + fraction.tdiv 100)
  align value (fraction.tmod 100)

def scaled (delta : Int) (gain : Nat) (remainder : Int) : Option (Int × Int) :=
  (scaledWide delta gain remainder).map saturate

inductive Acceleration where
  | flat | adaptive | off
  deriving DecidableEq

structure Settings where
  speedPercent : Nat
  acceleration : Acceleration

def Settings.Valid (s : Settings) : Prop := 25 ≤ s.speedPercent ∧ s.speedPercent ≤ 200

structure Motion where
  remainderX : Int := 0
  remainderY : Int := 0
  generation : Nat
  clockValid : Bool := false
  previousMs : Nat := 0

structure MotionEvent where
  generation : Nat
  now : Nat
  clockValid : Bool
  dx : Int
  dy : Int

def velocity (distance interval : Nat) : Option Nat :=
  if distance ≥ interval then some 1000 else (uint32 (distance * 1000)).map (· / interval)

def extraGain (velocity : Nat) : Nat :=
  if velocity ≤ 100 then 0 else if velocity ≥ 1000 then 100 else (velocity - 100) / 9

def adaptiveGain (state : Motion) (e : MotionEvent) (gain : Nat) : Option Nat :=
  if e.clockValid ∧ state.clockValid ∧ state.previousMs < e.now ∧ e.now - state.previousMs ≤ 100 then
    (velocity (max e.dx.natAbs e.dy.natAbs) (e.now - state.previousMs)).bind fun velocity =>
      (uint32 (gain * (100 + extraGain velocity))).map (· / 100)
  else some gain

/-- The gain of an event, and the state with the clock it leaves. -/
def gainOf (s : Settings) (state : Motion) (e : MotionEvent) : Option (Nat × Motion) :=
  match s.acceleration with
  | .off => some (100, state)
  | .flat => some (s.speedPercent, state)
  | .adaptive => (adaptiveGain state e s.speedPercent).map fun gain => (gain,
      { state with
        clockValid := e.clockValid && (!state.clockValid || state.previousMs < e.now)
        previousMs := e.now })

def Motion.enter (old : Motion) (generation : Nat) : Motion :=
  if old.generation ≠ generation then { generation := generation } else old

def reistMouseMotionApply (s : Settings) (old : Motion) (e : MotionEvent) :
    Option (Motion × Int × Int) :=
  let state := old.enter e.generation
  if e.dx = 0 ∧ e.dy = 0 then some (state, e.dx, e.dy)
  else (gainOf s state e).bind fun (gain, state) =>
    if gain = 100 then some ({ state with remainderX := 0, remainderY := 0 }, e.dx, e.dy)
    else (scaled e.dx gain state.remainderX).bind fun (dx, remainderX) =>
      (scaled e.dy gain state.remainderY).map fun (dy, remainderY) =>
        ({ state with remainderX := remainderX, remainderY := remainderY }, dx, dy)

/-- The state after a row of calls, and what they emit in all. -/
def motionRun : Motion → List (Settings × MotionEvent) → Option (Motion × Int × Int)
  | state, [] => some (state, 0)
  | state, (s, e) :: calls => (reistMouseMotionApply s state e).bind fun (next, emitted) =>
    (motionRun next calls).map fun (last, rest) => (last, emitted + rest)

abbrev Remainder (z : Int) : Prop := -100 < z ∧ z < 100
def Delta (z : Int) : Prop := -2147483648 ≤ z ∧ z ≤ 2147483647

variable {delta remainder : Int} {gain : Nat}

theorem remainder_zero : Remainder 0 := by decide

theorem int32_eq (h : Delta delta) : int32 delta = some delta := if_pos h

theorem int64_eq (h : -2 ^ 62 ≤ delta ∧ delta ≤ 2 ^ 62) : int64 delta = some delta :=
  if_pos (by omega)

theorem truncated (z : Int) : Remainder (z.tmod 100) ∧ 100 * z.tdiv 100 + z.tmod 100 = z :=
  ⟨⟨Int.lt_tmod_of_pos z (by decide), Int.tmod_lt_of_pos z (by decide)⟩, Int.mul_tdiv_add_tmod z 100⟩

theorem align_spec {value rest : Int} (hvalue : -2 ^ 61 ≤ value ∧ value ≤ 2 ^ 61)
    (hrest : Remainder rest) :
    ∃ v r, align value rest = some (v, r) ∧ 100 * v + r = 100 * value + rest ∧ Remainder r := by
  unfold align
  split
  next =>
    rw [int64_eq (by omega), int32_eq (by unfold Delta; omega)]
    exact ⟨_, _, rfl, by omega, by omega⟩
  next =>
    split
    next =>
      rw [int64_eq (by omega), int32_eq (by unfold Delta; omega)]
      exact ⟨_, _, rfl, by omega, by omega⟩
    next => exact ⟨_, _, rfl, rfl, hrest⟩

theorem scaledWide_spec (hd : Delta delta) (hg : gain ≤ 400) (hr : Remainder remainder) :
    ∃ value rest, scaledWide delta gain remainder = some (value, rest) ∧
      100 * value + rest = gain * delta + remainder ∧ Remainder rest := by
  have hgain : (gain : Int) ≤ 400 := by omega
  obtain ⟨hdelta, hsplit⟩ := truncated delta
  unfold Delta Remainder at *
  have hpart : -39600 ≤ delta.tmod 100 * gain ∧ delta.tmod 100 * gain ≤ 39600 := by
    constructor <;> nlinarith
  have hproduct : -2 ^ 40 ≤ delta.tdiv 100 * gain ∧ delta.tdiv 100 * gain ≤ 2 ^ 40 := by
    constructor <;> nlinarith
  obtain ⟨hrest, hfraction⟩ := truncated (delta.tmod 100 * gain + remainder)
  obtain ⟨value, rest, halign, hsum, hbound⟩ := @align_spec
    (delta.tdiv 100 * gain + (delta.tmod 100 * gain + remainder).tdiv 100) _ (by omega) hrest
  refine ⟨value, rest, ?_, ?_, hbound⟩
  · unfold scaledWide
    rw [int64_eq (by omega), int32_eq (by unfold Delta; omega)]
    simp only [Option.bind_eq_bind, Option.bind_some]
    rw [int32_eq (by unfold Delta; omega)]
    simp only [Option.bind_some]
    rw [int64_eq (by omega), Option.bind_some, halign]
  · linear_combination hsum + hfraction + gain * hsplit

def Kept (delta : Int) (gain : Nat) (remainder : Int) : Prop :=
  ∀ motion ∈ scaledWide delta gain remainder, saturate motion = motion

theorem scaled_spec (hd : Delta delta) (hg : gain ≤ 400) (hr : Remainder remainder) :
    ∃ value rest, scaled delta gain remainder = some (value, rest) ∧ Remainder rest ∧
      (Kept delta gain remainder → 100 * value + rest = gain * delta + remainder) := by
  obtain ⟨value, rest, hwide, hsum, hrest⟩ := scaledWide_spec hd hg hr
  refine ⟨(saturate (value, rest)).1, (saturate (value, rest)).2, by rw [scaled, hwide]; rfl, ?_, ?_⟩
  · unfold saturate
    split
    next => exact ⟨by decide, by decide⟩
    next =>
      split
      next => exact ⟨by decide, by decide⟩
      next => exact hrest
  · intro hkept
    rw [hkept _ hwide]
    exact hsum

theorem velocity_some (distance : Nat) {interval : Nat} (h : interval ≤ 100) :
    ∃ v, velocity distance interval = some v := by
  unfold velocity uint32
  split
  next => exact ⟨_, rfl⟩
  next =>
    rw [if_pos (by omega)]
    exact ⟨_, rfl⟩

theorem extraGain_le (velocity : Nat) : extraGain velocity ≤ 100 := by
  unfold extraGain
  split
  next => omega
  next => split <;> omega

theorem adaptiveGain_spec (state : Motion) (e : MotionEvent) (hg : gain ≤ 200) :
    ∃ g ≤ 400, adaptiveGain state e gain = some g := by
  unfold adaptiveGain
  split
  next hclock =>
    obtain ⟨v, hv⟩ := velocity_some (max e.dx.natAbs e.dy.natAbs) hclock.2.2.2
    have hextra := extraGain_le v
    have hproduct : gain * (100 + extraGain v) ≤ 200 * 200 := Nat.mul_le_mul hg (by omega)
    rw [hv, Option.bind_some, uint32, if_pos (by omega)]
    exact ⟨gain * (100 + extraGain v) / 100, by omega, rfl⟩
  next => exact ⟨gain, by omega, rfl⟩

variable {s : Settings} {old next last : Motion} {e : MotionEvent}

theorem gainOf_spec (state : Motion) (e : MotionEvent) (hs : s.Valid) :
    ∃ g timed, gainOf s state e = some (g, timed) ∧ g ≤ 400 ∧
      timed.remainderX = state.remainderX ∧ timed.remainderY = state.remainderY ∧
      (s.acceleration = .flat → g = s.speedPercent) := by
  unfold Settings.Valid at hs
  unfold gainOf
  cases s.acceleration with
  | off => exact ⟨_, _, rfl, by omega, rfl, rfl, by simp⟩
  | flat => exact ⟨_, _, rfl, by omega, rfl, rfl, fun _ => rfl⟩
  | adaptive =>
    obtain ⟨g, hg, hsome⟩ := adaptiveGain_spec state e hs.2
    simp only [hsome, Option.map_some]
    exact ⟨g, _, rfl, hg, rfl, rfl, by simp⟩

def Motion.Bounded (state : Motion) : Prop :=
  Remainder state.remainderX ∧ Remainder state.remainderY

def MotionEvent.Valid (e : MotionEvent) : Prop := Delta e.dx ∧ Delta e.dy

/-- Raw and emitted motion differ by the gain and by what the remainders have changed. -/
def Exact (s : Settings) (first last : Motion) (raw emitted : Int × Int) : Prop :=
  100 * emitted.1 + last.remainderX = s.speedPercent * raw.1 + first.remainderX ∧
    100 * emitted.2 + last.remainderY = s.speedPercent * raw.2 + first.remainderY

theorem Exact.trans {raw emitted raw' emitted' : Int × Int} (h : Exact s old next raw emitted)
    (h' : Exact s next last raw' emitted') : Exact s old last (raw + raw') (emitted + emitted') := by
  constructor
  · simp only [Prod.fst_add]
    linear_combination h.1 + h'.1
  · simp only [Prod.snd_add]
    linear_combination h.2 + h'.2

def Uncut (s : Settings) (state : Motion) (e : MotionEvent) : Prop :=
  Kept e.dx s.speedPercent state.remainderX ∧ Kept e.dy s.speedPercent state.remainderY

theorem apply_spec (hs : s.Valid) (h : old.Bounded) (he : e.Valid) :
    ∃ next emitted, reistMouseMotionApply s old e = some (next, emitted) ∧ next.Bounded ∧
      (s.acceleration = .flat → s.speedPercent ≠ 100 → Uncut s (old.enter e.generation) e →
        Exact s (old.enter e.generation) next (e.dx, e.dy) emitted) := by
  have hbounded : (old.enter e.generation).Bounded := by
    unfold Motion.enter
    split
    next => exact ⟨remainder_zero, remainder_zero⟩
    next => exact h
  unfold reistMouseMotionApply
  dsimp only
  generalize old.enter e.generation = state at hbounded
  split
  next hstill => exact ⟨_, _, rfl, hbounded, fun _ _ _ => by simp [Exact, hstill]⟩
  next =>
    obtain ⟨g, timed, hgain, hg, hx, hy, hflat⟩ := gainOf_spec state e hs
    rw [hgain, Option.bind_some]
    split
    next hplain =>
      refine ⟨_, _, rfl, ⟨remainder_zero, remainder_zero⟩, ?_⟩
      exact fun hf hne => absurd ((hflat hf).symm.trans hplain) hne
    next =>
      rw [hx, hy]
      obtain ⟨x, restX, hX, hrestX, hexactX⟩ := scaled_spec he.1 hg hbounded.1
      obtain ⟨y, restY, hY, hrestY, hexactY⟩ := scaled_spec he.2 hg hbounded.2
      rw [hX, Option.bind_some, hY]
      refine ⟨_, _, rfl, ⟨hrestX, hrestY⟩, fun hf _ hkept => ?_⟩
      rw [hflat hf] at hexactX hexactY
      exact ⟨hexactX hkept.1, hexactY hkept.2⟩

/-- The calls belong to one generation and one setting of fixed gain, and none cuts its output. -/
def Steady (s : Settings) : Motion → List (Settings × MotionEvent) → Prop
  | _, [] => True
  | state, (s', e) :: calls =>
    (s' = s ∧ s.acceleration = .flat ∧ s.speedPercent ≠ 100 ∧ e.generation = state.generation ∧
      Uncut s state e) ∧
    ∀ next emitted, reistMouseMotionApply s state e = some (next, emitted) → Steady s next calls

def rawMotion (calls : List (Settings × MotionEvent)) : Int × Int :=
  (calls.map fun call => (call.2.dx, call.2.dy)).sum

theorem motionRun_conserves {calls : List (Settings × MotionEvent)} (h : old.Bounded)
    (hcalls : ∀ call ∈ calls, call.1.Valid ∧ call.2.Valid) :
    ∃ last emitted, motionRun old calls = some (last, emitted) ∧ last.Bounded ∧
      ∀ s, Steady s old calls → Exact s old last (rawMotion calls) emitted := by
  induction calls generalizing old with
  | nil => exact ⟨old, 0, rfl, h, fun s _ => by simp [Exact, rawMotion]⟩
  | cons call calls ih =>
    obtain ⟨s', e⟩ := call
    obtain ⟨⟨hs, he⟩, hrest⟩ := List.forall_mem_cons.mp hcalls
    obtain ⟨next, first, hnext, hbounded, hexact⟩ := apply_spec hs h he
    obtain ⟨last, rest, hlast, hlastBounded, hlastExact⟩ := ih hbounded hrest
    refine ⟨last, first + rest, ?_, hlastBounded, ?_⟩
    · simp only [motionRun, hnext, Option.bind_some, hlast, Option.map_some]
    · rintro s ⟨⟨rfl, hflat, hgain, hgeneration, huncut⟩, hsteady⟩
      have henter : old.enter e.generation = old := by simp [Motion.enter, hgeneration]
      rw [henter] at hexact
      exact (hexact hflat hgain huncut).trans (hlastExact _ (hsteady next first hnext))

/-- One step to the right at half speed. -/
theorem half_step_conserved : ∃ last emitted,
    motionRun { generation := 1 } [(⟨50, .flat⟩, ⟨1, 0, true, 1, 0⟩)] = some (last, emitted) ∧
      Exact ⟨50, .flat⟩ { generation := 1 } last (1, 0) emitted := by
  obtain ⟨last, emitted, hrun, -, hexact⟩ := @motionRun_conserves { generation := 1 }
    [(⟨50, .flat⟩, ⟨1, 0, true, 1, 0⟩)] ⟨remainder_zero, remainder_zero⟩
    (by unfold Settings.Valid MotionEvent.Valid Delta; decide)
  have hx : scaledWide 1 50 0 = some (0, 50) := by decide
  have hy : scaledWide 0 50 0 = some (0, 0) := by decide
  have huncut : Uncut ⟨50, .flat⟩ { generation := 1 } ⟨1, 0, true, 1, 0⟩ :=
    ⟨fun _ h => by cases hx.symm.trans h; rfl, fun _ h => by cases hy.symm.trans h; rfl⟩
  exact ⟨last, emitted, hrun, hexact _ ⟨⟨rfl, rfl, by decide, rfl, huncut⟩, fun _ _ _ => trivial⟩⟩

end ReistOs.Mouse
