import Mathlib.Tactic

/-! Text in lines that each end with a separator, and a scan that sees one line at a time. -/

namespace Lines

variable {α σ ε : Type} [DecidableEq α] {sep : α}

/-- The text of these lines. -/
def join (sep : α) (lines : List (List α)) : List α := lines.flatMap (· ++ [sep])

/-- Runs `step` on every line; `line` is what was read of the current one. -/
def scan (sep : α) (unfinished : ε) (step : σ → List α → Except ε σ) (line : List α) :
    List α → σ → Except ε σ
  | [], s => if line = [] then .ok s else .error unfinished
  | c :: rest, s =>
    if c = sep then
      match step s line with
      | .ok s' => scan sep unfinished step [] rest s'
      | .error e => .error e
    else scan sep unfinished step (line ++ [c]) rest s

/-- One step after the other, until one fails. -/
def fold {β : Type} (step : σ → β → Except ε σ) : List β → σ → Except ε σ
  | [], s => .ok s
  | b :: bs, s =>
    match step s b with
    | .ok s' => fold step bs s'
    | .error e => .error e

theorem fold_map {β γ : Type} (step : σ → γ → Except ε σ) (f : β → γ) (bs : List β) (s : σ) :
    fold step (bs.map f) s = fold (fun s b => step s (f b)) bs s := by
  induction bs generalizing s with
  | nil => rfl
  | cons b bs ih =>
    rw [List.map_cons, fold, fold]
    cases step s (f b) with
    | error e => rfl
    | ok s' => exact ih s'

theorem fold_congr {β : Type} {step step' : σ → β → Except ε σ} {bs : List β}
    (h : ∀ b ∈ bs, ∀ s, step s b = step' s b) (s : σ) : fold step bs s = fold step' bs s := by
  induction bs generalizing s with
  | nil => rfl
  | cons b bs ih =>
    have htail : ∀ c ∈ bs, ∀ s, step s c = step' s c := fun c hc =>
      h c (List.mem_cons_of_mem b hc)
    rw [fold, fold, h b List.mem_cons_self]
    cases step' s b with
    | error e => rfl
    | ok s' => exact ih htail s'

theorem fold_cons_ok {β : Type} {step : σ → β → Except ε σ} {b : β} {bs : List β} {s s' : σ} :
    fold step (b :: bs) s = .ok s' ↔ ∃ m, step s b = .ok m ∧ fold step bs m = .ok s' := by
  rw [fold]
  cases step s b with
  | error e => simp
  | ok m => simp

theorem scan_line (unfinished : ε) (step : σ → List α → Except ε σ) (line rest : List α) (s : σ)
    {more : List α} (h : sep ∉ more) :
    scan sep unfinished step line (more ++ sep :: rest) s =
      scan sep unfinished step (line ++ more) (sep :: rest) s := by
  induction more generalizing line with
  | nil => simp
  | cons c more ih =>
    have hc : c ≠ sep := fun e => h (e ▸ List.mem_cons_self)
    have hmore : sep ∉ more := fun hm => h (List.mem_cons_of_mem c hm)
    calc scan sep unfinished step line (c :: (more ++ sep :: rest)) s
        = scan sep unfinished step (line ++ [c]) (more ++ sep :: rest) s := by
          rw [scan, if_neg hc]
      _ = scan sep unfinished step (line ++ c :: more) (sep :: rest) s := by
          rw [ih _ hmore, List.append_assoc]
          rfl

theorem scan_join (unfinished : ε) (step : σ → List α → Except ε σ) {lines : List (List α)}
    (h : ∀ line ∈ lines, sep ∉ line) (s : σ) :
    scan sep unfinished step [] (join sep lines) s = fold step lines s := by
  induction lines generalizing s with
  | nil => simp [join, scan, fold]
  | cons line lines ih =>
    have hline : sep ∉ line := h line List.mem_cons_self
    have hlines : ∀ l ∈ lines, sep ∉ l := fun l hl => h l (List.mem_cons_of_mem line hl)
    have hjoin : join sep (line :: lines) = line ++ sep :: join sep lines := by simp [join]
    rw [hjoin, scan_line unfinished step [] _ s hline, List.nil_append, scan, if_pos rfl, fold]
    cases step s line with
    | error e => rfl
    | ok s' => exact ih hlines s'

/-- The scan fails with what a step fails with, or in the middle of a line. -/
theorem scan_error {unfinished e : ε} {step : σ → List α → Except ε σ} {P : ε → Prop}
    (hu : P unfinished) (hstep : ∀ s line e, step s line = .error e → P e) {line text : List α}
    {s : σ} (h : scan sep unfinished step line text s = .error e) : P e := by
  induction text generalizing line s with
  | nil =>
    unfold scan at h
    split at h
    next => cases h
    next =>
      cases h
      exact hu
  | cons c text ih =>
    unfold scan at h
    split at h
    next =>
      split at h
      next => exact ih h
      next e' he =>
        cases h
        exact hstep s line _ he
    next => exact ih h

/-- Text that ends with the separator is made of lines. -/
theorem exists_join {text : List α} (h : text.getLast? = some sep) :
    ∃ lines : List (List α), (∀ line ∈ lines, sep ∉ line) ∧ text = join sep lines := by
  have hsplit : ∀ (rest line : List α), sep ∉ line →
      ∃ lines : List (List α), (∀ l ∈ lines, sep ∉ l) ∧
        line ++ rest ++ [sep] = join sep lines := by
    intro rest
    induction rest with
    | nil =>
      intro line hline
      exact ⟨[line], by simpa using hline, by simp [join]⟩
    | cons c rest ih =>
      intro line hline
      by_cases hc : c = sep
      · obtain ⟨lines, hl, he⟩ := ih [] List.not_mem_nil
        refine ⟨line :: lines, ?_, ?_⟩
        · intro l hm
          rcases List.mem_cons.mp hm with rfl | hm
          · exact hline
          · exact hl l hm
        · rw [List.nil_append] at he
          have hj : join sep (line :: lines) = line ++ sep :: join sep lines := by simp [join]
          rw [hj, ← he, hc]
          simp
      · have hline' : sep ∉ line ++ [c] := by
          intro hm
          rcases List.mem_append.mp hm with hm | hm
          · exact hline hm
          · exact hc (List.mem_singleton.mp hm).symm
        obtain ⟨lines, hl, he⟩ := ih (line ++ [c]) hline'
        exact ⟨lines, hl, by rw [← he]; simp⟩
  obtain ⟨front, hfront⟩ := List.getLast?_eq_some_iff.mp h
  obtain ⟨lines, hl, he⟩ := hsplit front [] List.not_mem_nil
  exact ⟨lines, hl, by rw [hfront, ← he]; rfl⟩

end Lines
