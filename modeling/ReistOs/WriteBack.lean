import Mathlib.Tactic

/-! A medium with a volatile write cache: what a reader sees, what a flush makes
stable and what may be left after power is lost. -/

namespace WriteBack

universe u v

variable {α : Type u} {β : Type v}

section Writes

variable [DecidableEq α]

/-- The contents after a list of sector writes, in issue order. -/
def applyWrites (ws : List (α × β)) (d : α → β) : α → β :=
  ws.foldl (fun d w => Function.update d w.1 w.2) d

@[simp] theorem applyWrites_nil (d : α → β) : applyWrites [] d = d := rfl

@[simp] theorem applyWrites_cons (w : α × β) (ws : List (α × β)) (d : α → β) :
    applyWrites (w :: ws) d = applyWrites ws (Function.update d w.1 w.2) := rfl

theorem applyWrites_append (ws vs : List (α × β)) (d : α → β) :
    applyWrites (ws ++ vs) d = applyWrites vs (applyWrites ws d) := List.foldl_append

variable {ws : List (α × β)} {a : α}

theorem applyWrites_of_not_mem (d : α → β) (h : ∀ w ∈ ws, w.1 ≠ a) : applyWrites ws d a = d a := by
  induction ws generalizing d with
  | nil => rfl
  | cons w ws ih =>
    rw [applyWrites_cons, ih _ fun w hw => h w (List.mem_cons_of_mem _ hw)]
    exact Function.update_of_ne (Ne.symm (h w List.mem_cons_self)) _ _

theorem applyWrites_congr (ws : List (α × β)) {d e : α → β} (h : d a = e a) :
    applyWrites ws d a = applyWrites ws e a := by
  induction ws generalizing d e with
  | nil => exact h
  | cons w ws ih =>
    rw [applyWrites_cons, applyWrites_cons]
    refine ih ?_
    by_cases ha : a = w.1
    · rw [ha, Function.update_self, Function.update_self]
    · rw [Function.update_of_ne ha, Function.update_of_ne ha]
      exact h

/-- A sector holds its old content or one that was written to it. -/
theorem applyWrites_eq_or_mem (ws : List (α × β)) (d : α → β) (a : α) :
    applyWrites ws d a = d a ∨ (a, applyWrites ws d a) ∈ ws := by
  induction ws generalizing d with
  | nil => exact Or.inl rfl
  | cons w ws ih =>
    rw [applyWrites_cons]
    rcases ih (Function.update d w.1 w.2) with hold | hmem
    · by_cases ha : a = w.1
      · subst ha
        rw [hold, Function.update_self]
        exact Or.inr List.mem_cons_self
      · rw [hold, Function.update_of_ne ha]
        exact Or.inl rfl
    · exact Or.inr (List.mem_cons_of_mem _ hmem)

/-- Where every write to a sector carries one value and there is such a write,
the sector ends with it. -/
theorem applyWrites_of_mem {x : β} (d : α → β) (h : (a, x) ∈ ws) (unique : ∀ y, (a, y) ∈ ws → y = x) :
    applyWrites ws d a = x := by
  induction ws generalizing d with
  | nil => simp at h
  | cons w ws ih =>
    rw [applyWrites_cons]
    by_cases hrest : ∃ y, (a, y) ∈ ws
    · obtain ⟨y, hy⟩ := hrest
      have hx := unique y (List.mem_cons_of_mem _ hy)
      subst hx
      exact ih _ hy fun z hz => unique z (List.mem_cons_of_mem _ hz)
    · have hw : w = (a, x) := by
        rcases List.mem_cons.mp h with he | hm
        · exact he.symm
        · exact absurd ⟨x, hm⟩ hrest
      rw [applyWrites_of_not_mem _ fun u hu he => hrest ⟨u.2, by simpa [← he] using hu⟩, hw]
      exact Function.update_self _ _ _

end Writes

/-- What a caller sends to the medium. -/
inductive Event (α : Type u) (β : Type v) where
  | write (a : α) (x : β)
  | flush
  deriving DecidableEq

/-- The sector writes of a trace, in issue order. -/
def writesOf : List (Event α β) → List (α × β)
  | [] => []
  | .write a x :: es => (a, x) :: writesOf es
  | .flush :: es => writesOf es

@[simp] theorem writesOf_append (es fs : List (Event α β)) :
    writesOf (es ++ fs) = writesOf es ++ writesOf fs := by
  induction es with
  | nil => rfl
  | cons e es ih => cases e <;> simp [writesOf, ih]

/-- Stable contents and the writes issued since the last flush. -/
structure Medium (α : Type u) (β : Type v) where
  stable : α → β
  cache : List (α × β)

theorem prefix_append_cases {γ : Type*} {p xs ys : List γ} (h : p <+: xs ++ ys) :
    p <+: xs ∨ ∃ q, q <+: ys ∧ p = xs ++ q := by
  obtain ⟨r, hr⟩ := h
  rcases List.append_eq_append_iff.mp hr with ⟨s, hx, -⟩ | ⟨q, hp, hy⟩
  · exact Or.inl ⟨s, hx.symm⟩
  · exact Or.inr ⟨q, ⟨r, hy.symm⟩, hp⟩

variable {es : List (Event α β)} {ws : List (α × β)}

theorem writesOf_prefix {fs : List (Event α β)} (h : es <+: fs) : writesOf es <+: writesOf fs := by
  obtain ⟨r, rfl⟩ := h
  rw [writesOf_append]
  exact List.prefix_append _ _

/-- Every prefix of the writes is reached at some event. -/
theorem exists_prefix_of_writesOf (h : ws <+: writesOf es) :
    ∃ before, before <+: es ∧ writesOf before = ws := by
  induction es generalizing ws with
  | nil => exact ⟨[], List.prefix_refl _, (List.prefix_nil.mp h).symm⟩
  | cons e es ih =>
    cases e with
    | write a x =>
      rcases List.prefix_cons_iff.mp h with rfl | ⟨ws', rfl, h'⟩
      · exact ⟨[], List.nil_prefix, rfl⟩
      · obtain ⟨before, hb, rfl⟩ := ih h'
        exact ⟨.write a x :: before, List.cons_prefix_cons.mpr ⟨rfl, hb⟩, rfl⟩
    | flush =>
      obtain ⟨before, hb, rfl⟩ := ih h
      exact ⟨.flush :: before, List.cons_prefix_cons.mpr ⟨rfl, hb⟩, rfl⟩

namespace Medium

variable [DecidableEq α]

/-- What a read returns: cached writes are visible at once. -/
def view (m : Medium α β) : α → β := applyWrites m.cache m.stable

def step (m : Medium α β) : Event α β → Medium α β
  | .write a x => { m with cache := m.cache ++ [(a, x)] }
  | .flush => ⟨m.view, []⟩

def run (m : Medium α β) (es : List (Event α β)) : Medium α β := es.foldl step m

/-- The contents after power is lost: the stable ones with any subset of the
cached writes. -/
def CrashImage (m : Medium α β) (d : α → β) : Prop :=
  ∃ kept, List.Sublist kept m.cache ∧ d = applyWrites kept m.stable

/-- A content that a sector may have after power is lost. -/
def Holds (m : Medium α β) (a : α) (x : β) : Prop := x = m.stable a ∨ (a, x) ∈ m.cache

section

variable (m : Medium α β)
include m

@[simp] theorem run_nil : m.run [] = m := rfl

@[simp] theorem run_cons (e : Event α β) (es : List (Event α β)) :
    m.run (e :: es) = (m.step e).run es := rfl

theorem run_append (es fs : List (Event α β)) :
    m.run (es ++ fs) = (m.run es).run fs := List.foldl_append

theorem view_step_write (a : α) (x : β) :
    (m.step (.write a x)).view = Function.update m.view a x := by
  simp [step, view, applyWrites_append]

@[simp] theorem view_step_flush : (m.step .flush).view = m.view := rfl

theorem view_run (es : List (Event α β)) :
    (m.run es).view = applyWrites (writesOf es) m.view := by
  induction es generalizing m with
  | nil => rfl
  | cons e es ih =>
    rw [run_cons, ih]
    cases e with
    | write a x => rw [view_step_write]; rfl
    | flush => rfl

theorem holds_view (a : α) : m.Holds a (m.view a) :=
  applyWrites_eq_or_mem m.cache m.stable a

end

variable {a : α} {x : β} {m : Medium α β}

theorem holds_step_write (m : Medium α β) {b : α} {y : β} :
    (m.step (.write b y)).Holds a x ↔ m.Holds a x ∨ (a = b ∧ x = y) := by
  simp [step, Holds, or_assoc]

theorem holds_step_flush (m : Medium α β) :
    (m.step .flush).Holds a x ↔ x = m.view a := by
  simp [step, Holds]

theorem holds_of_cache_nil (h : m.cache = []) :
    m.Holds a x ↔ x = m.view a := by
  simp [Holds, view, h]

theorem CrashImage.holds {d : α → β} (h : m.CrashImage d) (a : α) :
    m.Holds a (d a) := by
  obtain ⟨kept, hsub, rfl⟩ := h
  exact (applyWrites_eq_or_mem kept m.stable a).imp_right fun hm => hsub.subset hm

theorem crashImage_view (m : Medium α β) : m.CrashImage m.view :=
  ⟨m.cache, List.Sublist.refl _, rfl⟩

/-- Power is lost somewhere in a run: after one of its prefixes. -/
def CrashDuring (m : Medium α β) (es : List (Event α β)) (d : α → β) : Prop :=
  ∃ before, before <+: es ∧ (m.run before).CrashImage d

end Medium

namespace Medium

variable [DecidableEq α]

/-- Every sector may only hold contents that the specification allows there. -/
def Within (m : Medium α β) (S : α → β → Prop) : Prop := ∀ a x, m.Holds a x → S a x

variable {m : Medium α β} {S : α → β → Prop}

omit [DecidableEq α] in
theorem Within.mono {T : α → β → Prop} (h : m.Within S) (hST : ∀ a x, S a x → T a x) :
    m.Within T := fun a x hx => hST a x (h a x hx)

theorem Within.view (h : m.Within S) (a : α) :
    S a (m.view a) := h a _ (m.holds_view a)

theorem Within.write (h : m.Within S) {a : α} {x : β} (hx : S a x) :
    (m.step (.write a x)).Within S := by
  intro b y hy
  rcases (holds_step_write m).mp hy with hold | ⟨rfl, rfl⟩
  · exact h b y hold
  · exact hx

theorem Within.flush (h : m.Within S) :
    (m.step .flush).Within S := by
  intro b y hy
  rw [(holds_step_flush m).mp hy]
  exact h.view b

theorem Within.crash (h : m.Within S) {d : α → β} (hd : m.CrashImage d) : Within ⟨d, []⟩ S := by
  intro b y hy
  rw [(holds_of_cache_nil rfl).mp hy]
  exact h b _ (hd.holds b)

theorem within_of_settled (hc : m.cache = []) (h : ∀ a, S a (m.view a)) : m.Within S := by
  intro a x hx
  rw [(holds_of_cache_nil hc).mp hx]
  exact h a

end Medium

/-- A trace that issues exactly the given writes and may flush anywhere keeps an
invariant that each single write and a flush keep. -/
theorem Medium.run_invariant [DecidableEq α] {I : Medium α β → Prop}
    (hwrite : ∀ m a x, (a, x) ∈ ws → I m → I (m.step (.write a x)))
    (hflush : ∀ m, I m → I (m.step .flush)) {m : Medium α β} (hm : I m)
    (hsub : ∀ w ∈ writesOf es, w ∈ ws) : I (m.run es) := by
  induction es generalizing m with
  | nil => exact hm
  | cons e es ih =>
    rw [run_cons]
    cases e with
    | write a x =>
      exact ih (hwrite m a x (hsub (a, x) (by simp [writesOf])) hm)
        fun w hw => hsub w (by simp [writesOf, hw])
    | flush => exact ih (hflush m hm) fun w hw => hsub w hw

end WriteBack
