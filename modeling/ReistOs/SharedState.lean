import Mathlib.Tactic

/-! Programs whose actions on a shared state are atomic, and what holds of the state and of
their results whatever other actions come in between. -/

namespace SharedState

universe u

/-- A program: actions of kind `A`, each answered by a value of its own type. -/
inductive Prog (A : Type) (R : A → Type) (α : Type) : Type
  | done (a : α)
  | call (act : A) (k : R act → Prog A R α)

namespace Prog

variable {A : Type} {R : A → Type} {α β : Type}

def bind : Prog A R α → (α → Prog A R β) → Prog A R β
  | done a, f => f a
  | call act k, f => call act fun r => (k r).bind f

instance : Monad (Prog A R) where
  pure := done
  bind := bind

def perform (act : A) : Prog A R (R act) := call act done

end Prog

variable {A : Type} {R : A → Type} {E α β : Type} {σ : Type u}

/-- The next action of a program; `E` is what the environment decides about it. -/
def advance (sem : (act : A) → E → σ → R act × σ) (env : E) (s : σ) :
    Prog A R α → Prog A R α × σ
  | .done a => (.done a, s)
  | .call act k => (k (sem act env s).1, (sem act env s).2)

/-- All actions of the program, on every path, are of one sort. -/
def Uses (sort : A → Prop) : Prog A R α → Prop
  | .done _ => True
  | .call act k => sort act ∧ ∀ r, Uses sort (k r)

variable (sem : (act : A) → E → σ → R act × σ) (I : σ → Prop)

/-- No action destroys `I`, except one that ends the program with an `excused` result. -/
def Guards (excused : α → Prop) : Prog A R α → Prop
  | .done _ => True
  | .call act k => ((∀ env s, I s → I (sem act env s).2) ∨ ∀ r, ∃ a, k r = .done a ∧ excused a) ∧
      ∀ r, Guards excused (k r)

/-- No action destroys `I` up to one that turns it into `J`, and none destroys `J` after that. -/
def GuardsVia (J : σ → Prop) : Prog A R α → Prop
  | .done _ => True
  | .call act k => ((∀ env s, I s → I (sem act env s).2) ∧ ∀ r, GuardsVia J (k r)) ∨
      ((∀ env s, I s → J (sem act env s).2) ∧ ∀ r, Guards sem J (fun _ => False) (k r))

/-- Where `I` holds all along, the result satisfies `post`. -/
def Returns (post : α → Prop) : Prog A R α → Prop
  | .done a => post a
  | .call act k => ∀ env s, I s → Returns post (k (sem act env s).1)

/-- No path ends before an action has brought `I` about. -/
def Reaches : Prog A R α → Prop
  | .done _ => False
  | .call act k => ∀ env s, I (sem act env s).2 ∨ Reaches (k (sem act env s).1)

variable {sem} {I} {post : α → Prop} {post' : β → Prop} {excused : α → Prop} {excused' : β → Prop}

variable {sort : A → Prop} {x p : Prog A R α} {f : α → Prog A R β} {s : σ}

theorem Uses.bind (h : Uses sort x) (hf : ∀ a, Uses sort (f a)) : Uses sort (x >>= f) := by
  induction x with
  | done a => exact hf a
  | call act k ih => exact ⟨h.1, fun r => ih r (h.2 r)⟩

theorem Uses.mono {sort' : A → Prop} (h : Uses sort x) (hs : ∀ act, sort act → sort' act) :
    Uses sort' x := by
  induction x with
  | done a => exact trivial
  | call act k ih => exact ⟨hs act h.1, fun r => ih r (h.2 r)⟩

variable {act : A}

theorem Uses.perform_bind {f : R act → Prog A R β} (h : sort act)
    (hf : ∀ r, Uses sort (f r)) : Uses sort (Prog.perform act >>= f) := ⟨h, hf⟩

/-- A program guards what its actions keep. -/
theorem Uses.guards (h : Uses sort p) (hk : ∀ act, sort act → ∀ env s, I s → I (sem act env s).2) :
    Guards sem I excused p := by
  induction p with
  | done a => exact trivial
  | call act k ih => exact ⟨Or.inl (hk act h.1), fun r => ih r (h.2 r)⟩

theorem Guards.perform_bind {f : R act → Prog A R β}
    (hkeep : ∀ env s, I s → I (sem act env s).2) (hf : ∀ r, Guards sem I excused' (f r)) :
    Guards sem I excused' (Prog.perform act >>= f) := ⟨Or.inl hkeep, hf⟩

variable {J : σ → Prop}

theorem GuardsVia.bind (h : Guards sem I (fun _ => False) x) (hf : ∀ a, GuardsVia sem I J (f a)) :
    GuardsVia sem I J (x >>= f) := by
  induction x with
  | done a => exact hf a
  | call act k ih =>
    refine Or.inl ⟨?_, fun r => ih r (h.2 r)⟩
    rcases h.1 with hkeep | hlast
    · exact hkeep
    · intro env s
      obtain ⟨a, -, ha⟩ := hlast (sem act env s).1
      exact absurd ha id

theorem GuardsVia.perform_bind {f : R act → Prog A R β}
    (hkeep : ∀ env s, I s → I (sem act env s).2) (hf : ∀ r, GuardsVia sem I J (f r)) :
    GuardsVia sem I J (Prog.perform act >>= f) := Or.inl ⟨hkeep, hf⟩

theorem GuardsVia.perform_via {f : R act → Prog A R β}
    (hturn : ∀ env s, I s → J (sem act env s).2) (hf : ∀ r, Guards sem J (fun _ => False) (f r)) :
    GuardsVia sem I J (Prog.perform act >>= f) := Or.inr ⟨hturn, hf⟩

theorem Returns.bind (hf : ∀ a, Returns sem I post' (f a)) :
    Returns sem I post' (x >>= f) := by
  induction x with
  | done a => exact hf a
  | call act k ih => exact fun env s _ => ih _

theorem Returns.perform_bind {f : R act → Prog A R β}
    (hf : ∀ env s, I s → Returns sem I post' (f (sem act env s).1)) :
    Returns sem I post' (Prog.perform act >>= f) := hf

/-- One action of a guarding program. -/
theorem Guards.advance (h : Guards sem I excused p) (env : E) (s : σ) :
    Guards sem I excused (advance sem env s p).1 ∧
      (I s → I (advance sem env s p).2 ∨ ∃ a, (advance sem env s p).1 = .done a ∧ excused a) := by
  cases p with
  | done a => exact ⟨h, Or.inl⟩
  | call act k =>
    refine ⟨h.2 _, fun hI => ?_⟩
    rcases h.1 with hkeep | hlast
    · exact Or.inl (hkeep env s hI)
    · exact Or.inr (hlast _)

theorem Guards.advance_keeps (h : Guards sem I (fun _ => False) p) (env : E) (hI : I s) :
    I (SharedState.advance sem env s p).2 := by
  rcases (h.advance env s).2 hI with hk | ⟨a, -, ha⟩
  · exact hk
  · exact absurd ha id

theorem Returns.advance (h : Returns sem I post p) (env : E) (hI : I s) :
    Returns sem I post (advance sem env s p).1 := by
  cases p with
  | done a => exact h
  | call act k => exact h env s hI

/-- Before the turn `I` is kept, after it `J`. -/
theorem GuardsVia.advance (env : E) (s : σ)
    (hI : (GuardsVia sem I J p ∧ I s) ∨ (Guards sem J (fun _ => False) p ∧ J s)) :
    (GuardsVia sem I J (SharedState.advance sem env s p).1 ∧ I (SharedState.advance sem env s p).2) ∨
      (Guards sem J (fun _ => False) (SharedState.advance sem env s p).1 ∧
        J (SharedState.advance sem env s p).2) := by
  rcases hI with ⟨hvia, hI⟩ | ⟨hg, hJ⟩
  · cases p with
    | done a => exact Or.inl ⟨hvia, hI⟩
    | call act k =>
      rcases hvia with ⟨hkeep, hk⟩ | ⟨hturn, hk⟩
      · exact Or.inl ⟨hk _, hkeep env s hI⟩
      · exact Or.inr ⟨hk _, hturn env s hI⟩
  · exact Or.inr ⟨(hg.advance env s).1, hg.advance_keeps env hJ⟩

theorem Reaches.advance (h : Reaches sem I p) (env : E) (s : σ) :
    I (advance sem env s p).2 ∨ Reaches sem I (SharedState.advance sem env s p).1 := by
  cases p with
  | done a => exact absurd h id
  | call act k => exact h env s

end SharedState
