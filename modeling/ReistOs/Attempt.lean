import Mathlib.Tactic

/-! Programs over a state that may give up with an error and keep what they did before it. What they
learn from outside is drawn, in order. -/

/-- Streams of answers `W`, errors `ε`, state `σ`; the number counts the answers already drawn. -/
def Attempt (W ε σ α : Type) : Type := W → Nat → σ → Except ε α × Nat × σ

namespace Attempt

variable {W W' ε σ τ α β : Type}

def bind (x : Attempt W ε σ α) (f : α → Attempt W ε σ β) : Attempt W ε σ β := fun w n s =>
  match x w n s with
  | (.ok a, n', s') => f a w n' s'
  | (.error e, n', s') => (.error e, n', s')

instance : Monad (Attempt W ε σ) where
  pure a := fun _ n s => (.ok a, n, s)
  bind := bind

def fail (e : ε) : Attempt W ε σ α := fun _ n s => (.error e, n, s)

/-- Gives up when `c` holds. -/
def refuse (c : Prop) [Decidable c] (e : ε) : Attempt W ε σ Unit := if c then fail e else pure ()

def draw (f : W → Nat → β) : Attempt W ε σ β := fun w n s => (.ok (f w n), n + 1, s)

def get : Attempt W ε σ σ := fun _ n s => (.ok s, n, s)

def modify (f : σ → σ) : Attempt W ε σ Unit := fun _ n s => (.ok (), n, f s)

/-- The result as a value: never gives up itself. -/
def outcome (x : Attempt W ε σ α) : Attempt W ε σ (Except ε α) := fun w n s =>
  (.ok (x w n s).1, (x w n s).2)

def ofExcept : Except ε α → Attempt W ε σ α
  | .ok a => pure a
  | .error e => fail e

/-- A program on a part of the state. -/
def zoom (answers : W → W') (part : σ → τ) (put : τ → σ → σ) (x : Attempt W' ε τ α) :
    Attempt W ε σ α := fun w n s =>
  ((x (answers w) n (part s)).1, (x (answers w) n (part s)).2.1,
    put (x (answers w) n (part s)).2.2 s)

def forEach (f : β → Attempt W ε σ Unit) : List β → Attempt W ε σ Unit
  | [] => pure ()
  | b :: bs => bind (f b) fun _ => forEach f bs

section Runs

variable {x y : Attempt W ε σ α} {f : α → Attempt W ε σ β} {w : W} {n n' : Nat} {s s' : σ}

theorem bind_run {a : α} (h : x w n s = (.ok a, n', s')) : (x >>= f) w n s = f a w n' s' := by
  show Attempt.bind x f w n s = _
  unfold Attempt.bind
  rw [h]

/-- A sequence that ends with a result has ended with one in each part. -/
theorem bind_ok {b : β} (h : (x >>= f) w n s = (.ok b, n', s')) :
    ∃ a n1 s1, x w n s = (.ok a, n1, s1) ∧ f a w n1 s1 = (.ok b, n', s') := by
  change Attempt.bind x f w n s = _ at h
  unfold Attempt.bind at h
  rcases hx : x w n s with ⟨r | a, n1, s1⟩
  · rw [hx] at h
    cases h
  · rw [hx] at h
    exact ⟨a, n1, s1, rfl, h⟩

theorem refuse_ok {c : Prop} [Decidable c] {e : ε} {a : Unit}
    (h : (refuse c e : Attempt W ε σ Unit) w n s = (.ok a, n', s')) : ¬ c ∧ n' = n ∧ s' = s := by
  unfold refuse at h
  split at h
  next hc => cases h
  next hc =>
    cases h
    exact ⟨hc, rfl, rfl⟩

theorem outcome_run (h : x w n s = y w n' s') : x.outcome w n s = y.outcome w n' s' := by
  unfold outcome
  rw [h]

end Runs

/-- What holds of the end of a program: `Q` of a result, `E` of an error. -/
def Ends (Q : α → σ → Prop) (E : ε → σ → Prop) : Except ε α → σ → Prop
  | .ok a, s => Q a s
  | .error e, s => E e s

/-- From `P` every run, whatever is drawn, ends in `Q` or with an error in `E`. -/
def Triple (P : σ → Prop) (x : Attempt W ε σ α) (Q : α → σ → Prop) (E : ε → σ → Prop) : Prop :=
  ∀ w n s, P s → Ends Q E (x w n s).1 (x w n s).2.2

/-- Whether it succeeds or fails, the program keeps `P`. -/
def Keeps (P : σ → Prop) (x : Attempt W ε σ α) : Prop := Triple P x (fun _ => P) (fun _ => P)

section Triples

variable {P P' : σ → Prop} {Q Q' : α → σ → Prop} {R : β → σ → Prop} {E E' : ε → σ → Prop}
  {x : Attempt W ε σ α} {f : α → Attempt W ε σ β}

theorem Triple.pure {a : α} (h : ∀ s, P s → Q a s) :
    Triple P (pure a : Attempt W ε σ α) Q E := fun _ _ s hs => h s hs

theorem Triple.ret {a : α} : Triple P (Pure.pure a : Attempt W ε σ α) (fun _ => P) E := Triple.pure fun _ hs => hs

variable {e : ε} {c : Prop} {b : β → Attempt W ε σ Unit} {bs : List β}

theorem Triple.fail (h : ∀ s, P s → E e s) :
    Triple P (fail e : Attempt W ε σ α) Q E := fun _ _ s hs => h s hs

theorem Triple.bind (hx : Triple P x Q E) (hf : ∀ a, Triple (Q a) (f a) R E) :
    Triple P (x >>= f) R E := by
  intro w n s hs
  have h := hx w n s hs
  show Ends R E (Attempt.bind x f w n s).1 (Attempt.bind x f w n s).2.2
  unfold Attempt.bind
  rcases hr : x w n s with ⟨r | r, n', s'⟩
  · rw [hr] at h
    exact h
  · rw [hr] at h
    exact hf r w n' s' h

theorem Triple.weaken (h : Triple P x Q E) (hP : ∀ s, P' s → P s) (hQ : ∀ a s, Q a s → Q' a s)
    (hE : ∀ e s, E e s → E' e s) : Triple P' x Q' E' := by
  intro w n s hs
  have he := h w n s (hP s hs)
  rcases hr : x w n s with ⟨r | r, n', s'⟩
  · rw [hr] at he
    exact hE r s' he
  · rw [hr] at he
    exact hQ r s' he

theorem Triple.pre (h : Triple P x Q E) (hP : ∀ s, P' s → P s) : Triple P' x Q E :=
  h.weaken hP (fun _ _ hq => hq) (fun _ _ he => he)

/-- What a program establishes that cannot fail. -/
theorem Triple.settles {s : σ} (h : Triple (fun t => t = s) x (fun _ => P) fun _ _ => False) (w : W)
    (n : Nat) : P (x w n s).2.2 := by
  have hend := h w n s rfl
  rcases hr : x w n s with ⟨r | a, n', s'⟩
  · rw [hr] at hend
    exact hend.elim
  · rw [hr] at hend
    exact hend

theorem Triple.post (h : Triple P x Q E) (hQ : ∀ a s, Q a s → Q' a s) : Triple P x Q' E :=
  h.weaken (fun _ hp => hp) hQ (fun _ _ he => he)

theorem Triple.ends (h : Triple P x Q E) (hQ : ∀ a s, Q a s → Q' a s) (hE : ∀ e s, E e s → E' e s) :
    Triple P x Q' E' :=
  h.weaken (fun _ hp => hp) hQ hE

theorem Triple.errors (h : Triple P x Q E) (hE : ∀ e s, E e s → E' e s) : Triple P x Q E' :=
  h.ends (fun _ _ hq => hq) hE

theorem Triple.refuse [Decidable c] {Q : Unit → σ → Prop} (hfail : ∀ s, P s → c → E e s)
    (hgo : ∀ s, P s → ¬ c → Q () s) :
    Triple P (refuse c e : Attempt W ε σ Unit) Q E := by
  intro w n s hs
  unfold Attempt.refuse
  split
  next hc => exact hfail s hs hc
  next hc => exact hgo s hs hc

theorem Triple.draw {g : W → Nat → α} (h : ∀ a s, P s → Q a s) :
    Triple P (draw g : Attempt W ε σ α) Q E := fun _ _ s hs => h _ s hs

theorem Triple.drawn {g : W → Nat → α} (h : ∀ a, Triple P (f a) R E) :
    Triple P (Attempt.draw g >>= f) R E :=
  (Triple.draw fun _ _ hs => hs).bind h

theorem Triple.get {Q : σ → σ → Prop} (h : ∀ s, P s → Q s s) :
    Triple P (get : Attempt W ε σ σ) Q E := fun _ _ s hs => h s hs

theorem Triple.modify {g : σ → σ} {Q : Unit → σ → Prop} (h : ∀ s, P s → Q () (g s)) :
    Triple P (modify g : Attempt W ε σ Unit) Q E := fun _ _ s hs => h s hs

theorem Triple.ite [Decidable c] {x y : Attempt W ε σ α} (hx : c → Triple P x Q E)
    (hy : ¬ c → Triple P y Q E) : Triple P (if c then x else y) Q E := by
  split
  next hc => exact hx hc
  next hc => exact hy hc

/-- An ignored or inspected result ends where the program itself ends. -/
theorem Triple.outcome {Q : Except ε α → σ → Prop} (h : Triple P x (fun a => Q (.ok a)) fun e => Q (.error e)) :
    Triple P x.outcome Q E' := by
  intro w n s hs
  have he := h w n s hs
  show Q (x w n s).1 (x w n s).2.2
  rcases hr : x w n s with ⟨r | r, n', s'⟩
  · rw [hr] at he
    exact he
  · rw [hr] at he
    exact he

theorem Triple.outcome_ends (h : Triple P x Q E) : Triple P x.outcome (Ends Q E) E' := Triple.outcome h

theorem Triple.ofExcept {r : Except ε α} (hok : ∀ a s, r = .ok a → P s → Q a s)
    (herr : ∀ e s, r = .error e → P s → E e s) : Triple P (ofExcept r : Attempt W ε σ α) Q E := by
  cases r with
  | ok a => exact Triple.pure fun s hs => hok a s rfl hs
  | error e => exact Triple.fail fun s hs => herr e s rfl hs

theorem Triple.and {Q' : α → σ → Prop} (h : Triple P x Q E) (h' : Triple P' x Q' E') :
    Triple (fun s => P s ∧ P' s) x (fun a s => Q a s ∧ Q' a s) (fun e s => E e s ∧ E' e s) := by
  intro w n s hs
  have h1 := h w n s hs.1
  have h2 := h' w n s hs.2
  rcases hr : x w n s with ⟨r | r, n', s'⟩
  · rw [hr] at h1 h2
    exact ⟨h1, h2⟩
  · rw [hr] at h1 h2
    exact ⟨h1, h2⟩

/-- A triple may be proved for each starting state on its own. -/
theorem Triple.start (h : ∀ s0, P s0 → Triple (· = s0) x Q E) : Triple P x Q E :=
  fun w n s hs => h s hs w n s rfl

theorem Triple.exists {ι : Type} {R : ι → σ → Prop} (h : ∀ i, Triple (R i) x Q E) :
    Triple (fun s => ∃ i, R i s) x Q E := by
  intro w n s hs
  obtain ⟨i, hi⟩ := hs
  exact h i w n s hi

/-- A fact that does not mention the state may be assumed. -/
theorem Triple.fact {p : Prop} (h : p → Triple P x Q E) : Triple (fun s => P s ∧ p) x Q E :=
  fun w n s hs => h hs.2 w n s hs.1

/-- The result of a call comes with a fact about it. -/
theorem Triple.learn {F : α → Prop} (hx : Triple P x (fun a s => Q a s ∧ F a) E)
    (hf : ∀ a, F a → Triple (Q a) (f a) R E) : Triple P (x >>= f) R E :=
  Triple.bind hx fun a => Triple.fact (hf a)

theorem Triple.zoom {answers : W → W'} {part : σ → τ} {put : τ → σ → σ} {y : Attempt W' ε τ α}
    {E : ε → σ → Prop} (h : ∀ s, P s → Triple (fun t => t = part s) y (fun a t => Q a (put t s))
      fun e t => E e (put t s)) : Triple P (zoom answers part put y) Q E := by
  intro w n s hs
  have he := h s hs (answers w) n (part s) rfl
  unfold Attempt.zoom
  rcases hr : y (answers w) n (part s) with ⟨r | r, n', t⟩
  · rw [hr] at he
    exact he
  · rw [hr] at he
    exact he

theorem Triple.forEach (h : ∀ a ∈ bs, Triple P (b a) (fun _ => P) E) :
    Triple P (forEach b bs) (fun _ => P) E := by
  induction bs with
  | nil => exact Triple.pure fun s hs => hs
  | cons a bs ih =>
    have hrest := ih fun c hc => h c (List.mem_cons_of_mem a hc)
    exact (h a List.mem_cons_self).bind fun _ => hrest

/-- What each round establishes, and the later ones keep, holds of every element in the end. -/
theorem Triple.forEach_each {K : β → σ → Prop}
    (h : ∀ a ∈ bs, ∀ s0, P s0 → Triple (· = s0) (b a)
      (fun _ s => (P s ∧ K a s) ∧ ∀ c, K c s0 → K c s) E) :
    Triple P (Attempt.forEach b bs) (fun _ s => P s ∧ ∀ a ∈ bs, K a s) E := by
  have hlist : ∀ done : List β, Triple (fun s => P s ∧ ∀ a ∈ done, K a s) (Attempt.forEach b bs)
      (fun _ s => P s ∧ ∀ a ∈ done ++ bs, K a s) E := by
    induction bs with
    | nil =>
      intro done
      exact Triple.pure fun s hs => by simpa using hs
    | cons a bs ih =>
      intro done
      refine Triple.bind (Q := fun _ s => P s ∧ ∀ c ∈ done ++ [a], K c s) ?_ fun _ => ?_
      · refine Triple.start fun s0 hs0 => (h a List.mem_cons_self s0 hs0.1).post fun _ s hs => ⟨hs.1.1, ?_⟩
        intro c hc
        rcases List.mem_append.mp hc with hdone | hnew
        · exact hs.2 c (hs0.2 c hdone)
        · obtain rfl := List.mem_singleton.mp hnew
          exact hs.1.2
      · have hrest := ih (fun c hc => h c (List.mem_cons_of_mem a hc)) (done ++ [a])
        rw [List.append_assoc] at hrest
        exact hrest
  exact (hlist []).weaken (fun s hs => ⟨hs, by simp⟩) (fun _ _ hs => hs) fun _ _ he => he

end Triples

section Known

variable {Q : α → σ → Prop} {R : β → σ → Prop} {E : ε → σ → Prop} {x : Attempt W ε σ α} {s0 : σ}

/-! The state is known: what a program reads is what it is. -/

theorem Triple.read {f : σ → Attempt W ε σ β} (h : Triple (· = s0) (f s0) R E) :
    Triple (· = s0) (Attempt.get >>= f) R E := by
  intro w n s hs
  subst hs
  exact h w n s rfl

variable {e : ε} {f : Unit → Attempt W ε σ β} {g : σ → σ}

theorem Triple.check {c : Prop} [Decidable c] (hfail : c → E e s0)
    (h : ¬ c → Triple (· = s0) (f ()) R E) :
    Triple (· = s0) (Attempt.refuse c e >>= f) R E := by
  refine Triple.bind (Q := fun _ s => s = s0 ∧ ¬ c) (Triple.refuse ?_ fun s hs hc => ⟨hs, hc⟩)
    fun _ => Triple.fact h
  intro s hs hc
  subst hs
  exact hfail hc

theorem Triple.update (h : Triple (fun s => s = g s0) (f ()) R E) :
    Triple (· = s0) (Attempt.modify g >>= f) R E := by
  intro w n s hs
  subst hs
  exact h w n (g s) rfl

theorem Triple.done {a : α} (h : Q a s0) : Triple (· = s0) (Pure.pure a : Attempt W ε σ α) Q E :=
  Triple.pure fun _ hs => hs ▸ h

theorem Triple.failed (h : E e s0) :
    Triple (· = s0) (Attempt.fail e : Attempt W ε σ α) Q E :=
  Triple.fail fun _ hs => hs ▸ h

theorem Triple.updated {Q : Unit → σ → Prop} (h : Q () (g s0)) :
    Triple (· = s0) (Attempt.modify g : Attempt W ε σ Unit) Q E := Triple.modify fun _ hs => hs ▸ h

end Known

variable {P : σ → Prop} {x : Attempt W ε σ α} {f : α → Attempt W ε σ β}

theorem Keeps.pure {a : α} : Keeps P (pure a : Attempt W ε σ α) := Triple.pure fun _ hs => hs

variable {e : ε} {c : Prop} {E : ε → σ → Prop}

theorem Keeps.fail : Keeps P (fail e : Attempt W ε σ α) := Triple.fail fun _ hs => hs

theorem Keeps.bind (hx : Keeps P x) (hf : ∀ a, Keeps P (f a)) : Keeps P (x >>= f) :=
  Triple.bind hx hf

theorem Keeps.refuse [Decidable c] : Keeps P (refuse c e : Attempt W ε σ Unit) :=
  Triple.refuse (fun _ hs _ => hs) fun _ hs _ => hs

theorem Keeps.draw {g : W → Nat → α} : Keeps P (draw g : Attempt W ε σ α) := Triple.draw fun _ _ hs => hs

theorem Keeps.get : Keeps P (get : Attempt W ε σ σ) := Triple.get fun _ hs => hs

theorem Keeps.modify {g : σ → σ} (h : ∀ s, P s → P (g s)) : Keeps P (modify g : Attempt W ε σ Unit) :=
  Triple.modify h

theorem Keeps.ite [Decidable c] {x y : Attempt W ε σ α} (hx : c → Keeps P x) (hy : ¬ c → Keeps P y) :
    Keeps P (if c then x else y) := Triple.ite hx hy

/-- Nothing more is done where the condition holds. -/
theorem Keeps.guard [Decidable c] {a : α} {x : Attempt W ε σ α} (hx : ¬ c → Keeps P x) :
    Keeps P (if c then Pure.pure a else x) := Keeps.ite (fun _ => Keeps.pure) hx

theorem Keeps.outcome (h : Keeps P x) : Keeps P x.outcome := Triple.outcome h

/-- An outcome never fails. -/
theorem Keeps.ignored (h : Keeps P x) : Triple P x.outcome (fun _ => P) E :=
  Triple.outcome h

theorem Keeps.ofExcept {r : Except ε α} : Keeps P (ofExcept r : Attempt W ε σ α) :=
  Triple.ofExcept (fun _ _ _ hs => hs) fun _ _ _ hs => hs

theorem Keeps.forEach {b : β → Attempt W ε σ Unit} {bs : List β} (h : ∀ a ∈ bs, Keeps P (b a)) :
    Keeps P (forEach b bs) := Triple.forEach h

/-- What the program keeps holds after it. -/
theorem Keeps.after (h : Keeps P x) {w : W} {n : Nat} {s : σ} (hs : P s) : P (x w n s).2.2 := by
  have he := h w n s hs
  rcases hr : x w n s with ⟨r | r, n', s'⟩
  · rw [hr] at he
    exact he
  · rw [hr] at he
    exact he

/-- A program whose moves are all of one kind keeps what such moves keep. -/
theorem Keeps.of_moves {F : σ → σ → Prop} (hx : ∀ s, Keeps (F s) x) (hrefl : ∀ s, F s s)
    (hP : ∀ s s', F s s' → P s → P s') : Keeps P x := by
  intro w n s hs
  have hmove : F s (x w n s).2.2 := (hx s).after (hrefl s)
  have hend : P (x w n s).2.2 := hP s _ hmove hs
  rcases hr : x w n s with ⟨r | r, n', s'⟩
  · rw [hr] at hend
    exact hend
  · rw [hr] at hend
    exact hend

/-- Under an assumption about other things than the state. -/
theorem Keeps.under {p : Prop} (h : p → Keeps P x) : Keeps (fun s => p → P s) x := by
  by_cases hp : p
  · exact (h hp).weaken (fun _ hs => hs hp) (fun _ _ hs _ => hs) fun _ _ hs _ => hs
  · intro w n s _
    rcases hr : x w n s with ⟨r | r, n', s'⟩
    · exact fun h' => absurd h' hp
    · exact fun h' => absurd h' hp

theorem Keeps.triple (h : Keeps P x) (hE : ∀ e s, P s → E e s) : Triple P x (fun _ => P) E :=
  h.weaken (fun _ hs => hs) (fun _ _ hs => hs) hE

end Attempt
