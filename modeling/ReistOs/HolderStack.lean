import Mathlib.Data.List.TakeWhile
import Mathlib.Tactic

/-! A stack of holders of one resource. The bottom comes first, the last one holds the
resource; a holder that goes takes everything above it along. -/

namespace HolderStack

variable {α : Type} {depth : Nat} {live live' : α → Prop} {s t : List α}
  {x y : α}

def OnTop (s : List α) (x : α) : Prop := s.getLast? = some x

structure Sound (depth : Nat) (live : α → Prop) (s : List α) : Prop where
  nodup : s.Nodup
  bounded : s.length ≤ depth
  live : ∀ x ∈ s, live x

theorem OnTop.mem (h : OnTop s x) : x ∈ s := List.mem_of_getLast? h

theorem Sound.mono (h : Sound depth live s) (hl : ∀ x ∈ s, live x → live' x) :
    Sound depth live' s :=
  ⟨h.nodup, h.bounded, fun x hx => hl x hx (h.live x hx)⟩

theorem Sound.grant (h : Sound depth live s) (hx : x ∉ s) (hl : live x)
    (hroom : s.length < depth) : Sound depth live (s ++ [x]) := by
  have hnodup : (s ++ [x]).Nodup := by
    rw [List.nodup_append]
    refine ⟨h.nodup, List.nodup_singleton x, ?_⟩
    intro a ha b hb
    rw [List.mem_singleton] at hb
    exact fun e => hx (hb ▸ e ▸ ha)
  have hbound : (s ++ [x]).length ≤ depth := by
    rw [List.length_append, List.length_singleton]
    omega
  refine ⟨hnodup, hbound, ?_⟩
  intro y hy
  rcases List.mem_append.mp hy with hy | hy
  · exact h.live y hy
  · rw [List.mem_singleton] at hy
    exact hy ▸ hl

variable [DecidableEq α]

/-- What stays when `x` and everything above it go. -/
def removeFrom (x : α) (s : List α) : List α := s.takeWhile (· ≠ x)

/-- What one operation does to the stack. -/
inductive Move (depth : Nat) (s : List α) : List α → Prop
  | keep : Move depth s s
  | grant (x : α) (fresh : x ∉ s) (room : s.length < depth) : Move depth s (s ++ [x])
  | remove (x : α) : Move depth s (removeFrom x s)

theorem isPrefix_removeFrom (x : α) (s : List α) : removeFrom x s <+: s :=
  List.takeWhile_prefix _

theorem mem_removeFrom (h : y ∈ removeFrom x s) : y ∈ s ∧ y ≠ x := by
  have hne := List.mem_takeWhile_imp h
  exact ⟨(isPrefix_removeFrom x s).subset h, by simpa using hne⟩

theorem removeFrom_of_not_mem (h : x ∉ s) : removeFrom x s = s := by
  apply List.takeWhile_eq_self_iff.mpr
  intro y hy
  have hne : y ≠ x := fun e => h (e ▸ hy)
  simpa using hne

theorem removeFrom_append (h : x ∉ s) (t : List α) : removeFrom x (s ++ x :: t) = s := by
  induction s with
  | nil => simp [removeFrom]
  | cons a s ih =>
    have hne : a ≠ x := fun e => h (e ▸ List.mem_cons_self)
    have hs : x ∉ s := fun e => h (List.mem_cons_of_mem _ e)
    have hr := ih hs
    calc removeFrom x (a :: (s ++ x :: t)) = a :: removeFrom x (s ++ x :: t) := by
          simp [removeFrom, hne]
      _ = a :: s := by rw [hr]

/-- A holder splits the stack into what stays without it and what goes with it. -/
theorem removeFrom_split (h : x ∈ s) : ∃ above, s = removeFrom x s ++ x :: above := by
  obtain ⟨below, above, hs, hx⟩ := List.eq_append_cons_of_mem h
  have hr : removeFrom x s = below := by rw [hs]; exact removeFrom_append hx above
  exact ⟨above, by rw [hr, ← hs]⟩

theorem take_of_idxOf? {i : Nat} (h : s.idxOf? x = some i) : s.take i = removeFrom x s := by
  obtain ⟨hi, hx, hbelow⟩ := List.findIdx?_eq_some_iff_getElem.mp h
  have hx' : s[i] = x := by simpa using hx
  have hs : s = s.take i ++ x :: s.drop (i + 1) := by
    rw [← hx', List.getElem_cons_drop, List.take_append_drop]
  have hfresh : x ∉ s.take i := by
    intro hm
    obtain ⟨j, hj, hjx⟩ := List.mem_take_iff_getElem.mp hm
    have hlt : j < i := by omega
    have hne := hbelow j hlt
    simp [hjx] at hne
  have hr : removeFrom x (s.take i ++ x :: s.drop (i + 1)) = s.take i :=
    removeFrom_append hfresh _
  rw [← hs] at hr
  exact hr.symm

theorem top_of_idxOf? {i : Nat} (h : s.idxOf? x = some i) (hi : i + 1 = s.length) :
    OnTop s x := by
  obtain ⟨hlt, hx, -⟩ := List.findIdx?_eq_some_iff_getElem.mp h
  have hx' : s[i] = x := by simpa using hx
  have hl : s.length - 1 = i := by omega
  simp [OnTop, List.getLast?_eq_getElem?, hl, hlt, hx']

theorem mem_of_idxOf? {i : Nat} (h : s.idxOf? x = some i) : x ∈ s := by
  obtain ⟨hlt, hx, -⟩ := List.findIdx?_eq_some_iff_getElem.mp h
  have hx' : s[i] = x := by simpa using hx
  exact hx' ▸ List.getElem_mem hlt

theorem removeFrom_top (hs : s.Nodup) (h : OnTop s x) : removeFrom x s = s.dropLast := by
  obtain ⟨below, rfl⟩ := List.getLast?_eq_some_iff.mp h
  have hfresh : x ∉ below := by
    have hdisjoint := (List.nodup_append.mp hs).2.2
    intro hx
    exact hdisjoint x hx x (List.mem_singleton_self x) rfl
  rw [List.dropLast_concat]
  exact removeFrom_append hfresh []

theorem Sound.remove (h : Sound depth live s) (x : α) : Sound depth live (removeFrom x s) := by
  have hp := isPrefix_removeFrom x s
  have hlen := hp.length_le
  exact ⟨h.nodup.sublist hp.sublist, hlen.trans h.bounded,
    fun y hy => h.live y (hp.subset hy)⟩

/-- A move keeps the stack sound when what it puts on top is alive. -/
theorem Move.sound (h : Move depth s t) (hs : Sound depth live s)
    (hl : ∀ x, t = s ++ [x] → live x) : Sound depth live t := by
  cases h with
  | keep => exact hs
  | grant x fresh room => exact hs.grant fresh (hl x rfl) room
  | remove x => exact hs.remove x

/-- Who is on top after a move was on top before, was put there, or came to light. -/
theorem Move.top (h : Move depth s t) (hx : OnTop t x) :
    OnTop s x ∨ (x ∉ s ∧ t = s ++ [x]) ∨ (x ∈ s ∧ ∃ above, above ≠ [] ∧ s = t ++ above) := by
  cases h with
  | keep => exact .inl hx
  | grant y fresh room =>
    have hy : y = x := by simpa [OnTop] using hx
    subst hy
    exact .inr (.inl ⟨fresh, rfl⟩)
  | remove y =>
    by_cases hy : y ∈ s
    · obtain ⟨above, hs⟩ := removeFrom_split hy
      have hm : x ∈ s := (mem_removeFrom hx.mem).1
      exact .inr (.inr ⟨hm, y :: above, by simp, hs⟩)
    · rw [removeFrom_of_not_mem hy] at hx
      exact .inl hx

end HolderStack
