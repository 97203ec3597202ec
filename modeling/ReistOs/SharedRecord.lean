import Mathlib.Tactic

/-! Tasks that share one record, interleaved at the granularity of single reads and
writes, and bits of the record that only steps made for it may clear. -/

namespace SharedRecord

/-- A local copy of the record with the record it was last read from or written to. -/
structure Copy (σ : Type) where
  value : σ
  base : σ

def Copy.set {σ : Type} (c : Copy σ) (v : σ) : Copy σ := { c with value := v }

/-- A task: reads and writes of the record, a try-lock, and questions to the
environment. A write says what it is for. -/
inductive Prog (σ P Q : Type) (A : Q → Type) (α : Type) : Type
  | done (a : α)
  | read (k : Option σ → Prog σ P Q A α)
  | write (purpose : P) (c : Copy σ) (k : Bool → Prog σ P Q A α)
  | tryLock (k : Bool → Prog σ P Q A α)
  | unlock (k : Prog σ P Q A α)
  | ask (q : Q) (k : A q → Prog σ P Q A α)

namespace Prog

variable {σ P Q : Type} {A : Q → Type} {α β : Type}

def bind : Prog σ P Q A α → (α → Prog σ P Q A β) → Prog σ P Q A β
  | done a, f => f a
  | read k, f => read fun r => (k r).bind f
  | write p c k, f => write p c fun ok => (k ok).bind f
  | tryLock k, f => tryLock fun ok => (k ok).bind f
  | unlock k, f => unlock (k.bind f)
  | ask q k, f => ask q fun a => (k a).bind f

instance : Monad (Prog σ P Q A) where
  pure := done
  bind := bind

/-- Reading the record into a local copy; after a failure the copy is what it was. -/
def reread (c : Copy σ) : Prog σ P Q A (Bool × Copy σ) :=
  read fun
    | some r => done (true, ⟨r, r⟩)
    | none => done (false, c)

def fetch : Prog σ P Q A (Option (Copy σ)) :=
  read fun r => done (r.map fun v => ⟨v, v⟩)

/-- Writing a local copy to the record. -/
def store (purpose : P) (c : Copy σ) : Prog σ P Q A (Bool × Copy σ) :=
  write purpose c fun ok => done (ok, if ok then ⟨c.value, c.value⟩ else c)

def enter : Prog σ P Q A Bool := tryLock done

def leave : Prog σ P Q A Unit := unlock (done ())

def query (q : Q) : Prog σ P Q A (A q) := ask q done

/-- One after the other for every element of a list. -/
def forEach {ι : Type} (f : ι → Prog σ P Q A Unit) : List ι → Prog σ P Q A Unit
  | [] => done ()
  | i :: is => (f i).bind fun _ => forEach f is

end Prog

section Machine

variable {σ P Q : Type} {A : Q → Type} {E : Type}

/-- The programs tasks may run, and the records that can be read and replaced. -/
structure Machine (σ P Q : Type) (A : Q → Type) (E : Type) where
  valid : σ → Bool
  program : E → Prog σ P Q A Unit

structure State (σ P Q : Type) (A : Q → Type) where
  record : σ
  busy : Bool
  tasks : List (Prog σ P Q A Unit)

/-- What the environment does to the next action of a task. -/
structure Answers (Q : Type) (A : Q → Type) where
  ok : Bool
  answer : (q : Q) → A q

inductive Move (E Q : Type) (A : Q → Type)
  | start (e : E)
  | step (task : Nat) (env : Answers Q A)

/-- A write that took effect: what it is for, the record its value derives from, and the
record it replaced. -/
structure Written (σ P : Type) where
  purpose : P
  base : σ
  before : σ

variable (m : Machine σ P Q A E)

/-- The next action of a task; a record that is not valid is neither read nor replaced. -/
def act (valid : σ → Bool) (env : Answers Q A) (record : σ) (busy : Bool) :
    Prog σ P Q A Unit → Prog σ P Q A Unit × σ × Bool × List (Written σ P)
  | .done a => (.done a, record, busy, [])
  | .read k => (k (if env.ok && valid record then some record else none), record, busy, [])
  | .write p c k =>
    if env.ok && valid record then (k true, c.value, busy, [⟨p, c.base, record⟩])
    else (k false, record, busy, [])
  | .tryLock k => (k !busy, record, true, [])
  | .unlock k => (k, record, false, [])
  | .ask q k => (k (env.answer q), record, busy, [])

def move (s : State σ P Q A) : Move E Q A → State σ P Q A × List (Written σ P)
  | .start e => ({ s with tasks := s.tasks ++ [m.program e] }, [])
  | .step i env =>
    match s.tasks[i]? with
    | none => (s, [])
    | some t =>
      let r := act m.valid env s.record s.busy t
      (⟨r.2.1, r.2.2.1, s.tasks.set i r.1⟩, r.2.2.2)

/-- Every interleaving is a list of moves. -/
def run (s : State σ P Q A) : List (Move E Q A) → State σ P Q A × List (Written σ P)
  | [] => (s, [])
  | mv :: mvs => ((run (move m s mv).1 mvs).1, (move m s mv).2 ++ (run (move m s mv).1 mvs).2)

end Machine

section Keeps

variable {σ P Q : Type} {A : Q → Type} {α β : Type}

/-- Every write of the program changes the record its value derives from in an allowed
way, and its result satisfies the postcondition. -/
def Keeps (allowed : P → σ → σ → Prop) (post : α → Prop) : Prog σ P Q A α → Prop
  | .done a => post a
  | .read k => ∀ r, Keeps allowed post (k r)
  | .write p c k => allowed p c.base c.value ∧ ∀ ok, Keeps allowed post (k ok)
  | .tryLock k => ∀ ok, Keeps allowed post (k ok)
  | .unlock k => Keeps allowed post k
  | .ask q k => ∀ a : A q, Keeps allowed post (k a)

variable {allowed : P → σ → σ → Prop} {post : α → Prop} {post' : β → Prop}

variable {x : Prog σ P Q A α} {f : α → Prog σ P Q A β}

theorem Keeps.bind (h : Keeps allowed post x) (hf : ∀ a, post a → Keeps allowed post' (f a)) :
    Keeps allowed post' (x.bind f) := by
  induction x with
  | done a => exact hf a h
  | read k ih => exact fun r => ih r (h r)
  | write p c k ih => exact ⟨h.1, fun ok => ih ok (h.2 ok)⟩
  | tryLock k ih => exact fun ok => ih ok (h ok)
  | unlock k ih => exact ih h
  | ask q k ih => exact fun a => ih a (h a)

theorem Keeps.seq (h : Keeps allowed post x) (hf : ∀ a, post a → Keeps allowed post' (f a)) :
    Keeps allowed post' (x >>= f) := h.bind hf

theorem Keeps.mono {post2 : α → Prop} (h : Keeps allowed post x) (hp : ∀ a, post a → post2 a) :
    Keeps allowed post2 x := by
  induction x with
  | done a => exact hp a h
  | read k ih => exact fun r => ih r (h r)
  | write p c k ih => exact ⟨h.1, fun ok => ih ok (h.2 ok)⟩
  | tryLock k ih => exact fun ok => ih ok (h ok)
  | unlock k ih => exact ih h
  | ask q k ih => exact fun a => ih a (h a)

theorem Keeps.forEach {ι : Type} {f : ι → Prog σ P Q A Unit}
    (h : ∀ i, Keeps allowed (fun _ => True) (f i)) (is : List ι) :
    Keeps allowed (fun _ => True) (Prog.forEach f is) := by
  induction is with
  | nil => exact trivial
  | cons i is ih => exact (h i).bind fun _ _ => ih

end Keeps

variable {σ P Q : Type} {A : Q → Type} {E B : Type} (has : σ → B → Prop) (clears : P → B → Prop)

/-- No bit is lost that the purpose does not clear. -/
def Retains (p : P) (s v : σ) : Prop := ∀ b, has s b → has v b ∨ clears p b

/-- A local copy that lost none of the bits it was read with. -/
def Carries (c : Copy σ) : Prop := ∀ b, has c.base b → has c.value b

/-- The replaced record had no bit set that the writer had not seen. -/
def Written.Fresh (w : Written σ P) : Prop := ∀ b, has w.before b → has w.base b

variable {has clears}

variable {c : Copy σ} {s : State σ P Q A}

theorem Carries.retains (h : Carries has c) (p : P) :
    Retains has clears p c.base c.value := fun b hb => Or.inl (h b hb)

theorem carries_self (v : σ) : Carries has ⟨v, v⟩ := fun _ h => h

theorem keeps_reread (h : Carries has c) : Keeps (Q := Q) (A := A) (Retains has clears)
    (fun r => Carries has r.2) (Prog.reread c) := by
  intro r
  cases r with
  | none => exact h
  | some v => exact carries_self v

theorem keeps_fetch : Keeps (Q := Q) (A := A) (Retains has clears)
    (fun r : Option (Copy σ) => ∀ c ∈ r, Carries has c) (Prog.fetch) := by
  rintro r c hc
  obtain ⟨v, -, rfl⟩ := Option.map_eq_some_iff.mp hc
  exact carries_self v

theorem keeps_store {p : P} (h : Retains has clears p c.base c.value) (hc : Carries has c) :
    Keeps (Q := Q) (A := A) (Retains has clears) (fun r => Carries has r.2)
      (Prog.store p c) := by
  refine ⟨h, fun ok => ?_⟩
  cases ok with
  | false => exact hc
  | true => exact carries_self c.value

variable {m : Machine σ P Q A E}

/-- All tasks that are under way keep the bits. -/
def Steady (has : σ → B → Prop) (clears : P → B → Prop) (s : State σ P Q A) : Prop :=
  ∀ t ∈ s.tasks, Keeps (Retains has clears) (fun _ => True) t

/-- One action of a task: what remains of it keeps the bits, and a fresh write loses
none that it may not clear. -/
theorem act_keeps {t : Prog σ P Q A Unit} (h : Keeps (Retains has clears) (fun _ => True) t)
    (valid : σ → Bool) (env : Answers Q A) (record : σ) (busy : Bool) :
    Keeps (Retains has clears) (fun _ => True) (act valid env record busy t).1 ∧
      ((∀ w ∈ (act valid env record busy t).2.2.2, w.Fresh has) → ∀ b, has record b →
        has (act valid env record busy t).2.1 b ∨
          ∃ w ∈ (act valid env record busy t).2.2.2, clears w.purpose b) := by
  cases t with
  | done a => exact ⟨h, fun _ b hb => Or.inl hb⟩
  | read k => exact ⟨h _, fun _ b hb => Or.inl hb⟩
  | write p c k =>
    simp only [act]
    split
    next =>
      refine ⟨h.2 true, fun hfresh b hb => ?_⟩
      rcases h.1 b (hfresh _ (List.mem_singleton_self _) b hb) with hv | hcl
      · exact Or.inl hv
      · exact Or.inr ⟨_, List.mem_singleton_self _, hcl⟩
    next => exact ⟨h.2 false, fun _ b hb => Or.inl hb⟩
  | tryLock k => exact ⟨h _, fun _ b hb => Or.inl hb⟩
  | unlock k => exact ⟨h, fun _ b hb => Or.inl hb⟩
  | ask q k => exact ⟨h _, fun _ b hb => Or.inl hb⟩

theorem move_keeps (hm : ∀ e, Keeps (Retains has clears) (fun _ => True) (m.program e))
    (hs : Steady has clears s) (mv : Move E Q A) :
    Steady has clears (move m s mv).1 ∧
      ((∀ w ∈ (move m s mv).2, w.Fresh has) → ∀ b, has s.record b →
        has (move m s mv).1.record b ∨ ∃ w ∈ (move m s mv).2, clears w.purpose b) := by
  cases mv with
  | start e =>
    refine ⟨fun t ht => ?_, fun _ b hb => Or.inl hb⟩
    rcases List.mem_append.mp ht with ht | ht
    · exact hs t ht
    · rw [List.mem_singleton.mp ht]
      exact hm e
  | step i env =>
    unfold move
    dsimp only
    split
    next => exact ⟨hs, fun _ b hb => Or.inl hb⟩
    next t ht =>
      obtain ⟨hk, hb⟩ := act_keeps (hs t (List.mem_of_getElem? ht)) m.valid env s.record s.busy
      refine ⟨fun t' ht' => ?_, hb⟩
      rcases List.mem_or_eq_of_mem_set ht' with ht' | rfl
      · exact hs t' ht'
      · exact hk

/-- Over every run whose writes are all fresh a bit stays set until a write whose
purpose is to clear it. -/
theorem run_keeps (hm : ∀ e, Keeps (Retains has clears) (fun _ => True) (m.program e))
    (mvs : List (Move E Q A)) (hs : Steady has clears s) :
    Steady has clears (run m s mvs).1 ∧
      ((∀ w ∈ (run m s mvs).2, w.Fresh has) → ∀ b, has s.record b →
        has (run m s mvs).1.record b ∨ ∃ w ∈ (run m s mvs).2, clears w.purpose b) := by
  induction mvs generalizing s with
  | nil => exact ⟨hs, fun _ b hb => Or.inl hb⟩
  | cons mv mvs ih =>
    obtain ⟨hstep, hmove⟩ := move_keeps hm hs mv
    obtain ⟨hsteady, hrun⟩ := ih hstep
    refine ⟨hsteady, fun hfresh b hb => ?_⟩
    have hf1 : ∀ w ∈ (move m s mv).2, w.Fresh has := fun w hw =>
      hfresh w (List.mem_append_left _ hw)
    have hf2 : ∀ w ∈ (run m (move m s mv).1 mvs).2, w.Fresh has := fun w hw =>
      hfresh w (List.mem_append_right _ hw)
    rcases hmove hf1 b hb with hb' | ⟨w, hw, hc⟩
    · rcases hrun hf2 b hb' with hb'' | ⟨w, hw, hc⟩
      · exact Or.inl hb''
      · exact Or.inr ⟨w, List.mem_append_right _ hw, hc⟩
    · exact Or.inr ⟨w, List.mem_append_left _ hw, hc⟩

end SharedRecord
