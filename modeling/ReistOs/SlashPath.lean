import Mathlib.Tactic

/-! Directories as lists of names, and the texts that name them. -/

namespace SlashPath

/-- What a path is written in. -/
structure Marks (α : Type) where
  slash : α
  dot : α
  separator : α → Bool
  separator_slash : separator slash = true
  separator_dot : separator dot = false

variable {α : Type} (m : Marks α)

namespace Marks

/-- The names between the separators. -/
def components (path : List α) : List (List α) := (path.splitOnP m.separator).filter (· ≠ [])

/-- The absolute text of a directory. -/
def render (directory : List (List α)) : List α :=
  if directory = [] then [m.slash] else directory.flatMap (m.slash :: ·)

def Proper (name : List α) : Prop :=
  name ≠ [] ∧ (∀ x ∈ name, m.separator x = false) ∧ name ≠ [m.dot] ∧ name ≠ [m.dot, m.dot]

/-- The text of a directory: absolute, without empty names, dots and a slash at the end. -/
def Canonical (path : List α) : Prop :=
  ∃ directory : List (List α), (∀ name ∈ directory, m.Proper name) ∧ path = m.render directory

end Marks

variable {m} {path rest name : List α} {directory : List (List α)} {x : α} {n : Nat}

theorem components_nil : m.components [] = [] := by simp [Marks.components]

theorem components_separator (hx : m.separator x = true) :
    m.components (x :: path) = m.components path := by
  unfold Marks.components
  rw [List.splitOnP_cons_eq_if_modifyHead, if_pos hx]
  rfl

theorem components_dropWhile : m.components (path.dropWhile m.separator) = m.components path := by
  induction path with
  | nil => rfl
  | cons x path ih =>
    by_cases hx : m.separator x = true
    · rw [List.dropWhile_cons_of_pos hx, components_separator hx, ih]
    · rw [List.dropWhile_cons_of_neg hx]

/-- A name is cut off in front of a separator or of the end. -/
theorem components_name (hne : name ≠ []) (hname : ∀ x ∈ name, m.separator x = false)
    (hrest : rest = [] ∨ ∃ x xs, rest = x :: xs ∧ m.separator x = true) :
    m.components (name ++ rest) = name :: m.components rest := by
  rcases hrest with rfl | ⟨x, xs, rfl, hx⟩
  · rw [components_nil, List.append_nil]
    unfold Marks.components
    rw [List.splitOnP_eq_singleton hname, List.filter_cons_of_pos (by simpa using hne)]
    rfl
  · rw [components_separator hx]
    unfold Marks.components
    rw [List.splitOnP_append_cons_of_forall_mem hname x hx, List.filter_cons_of_pos (by simpa using hne)]

theorem mem_components_separator {path name : List α} (h : name ∈ m.components path) :
    name ≠ [] ∧ ∀ x ∈ name, m.separator x = false := by
  obtain ⟨hmem, hne⟩ := List.mem_filter.mp h
  refine ⟨by simpa using hne, ?_⟩
  clear h hne
  induction path generalizing name with
  | nil =>
    obtain rfl : name = [] := by simpa using hmem
    simp
  | cons y path ih =>
    rw [List.splitOnP_cons_eq_if_modifyHead] at hmem
    split at hmem
    next hy =>
      rcases List.mem_cons.mp hmem with rfl | hmem
      · simp
      · exact ih hmem
    next hy =>
      obtain ⟨first, others, hsplit⟩ := List.exists_cons_of_ne_nil
        (List.splitOnP_ne_nil m.separator path)
      rw [hsplit] at hmem ih
      rcases List.mem_cons.mp hmem with rfl | hmem
      · intro x hx
        rcases List.mem_cons.mp hx with rfl | hx
        · exact Bool.eq_false_of_not_eq_true hy
        · exact ih List.mem_cons_self x hx
      · exact ih (List.mem_cons_of_mem _ hmem)

theorem render_snoc (directory : List (List α)) (name : List α) :
    m.render (directory ++ [name]) =
      (if directory = [] then [] else m.render directory) ++ m.slash :: name := by
  unfold Marks.render
  rw [if_neg (by simp), List.flatMap_append]
  split
  next h => simp [h]
  next h => simp

theorem length_render_pos (directory : List (List α)) : 0 < (m.render directory).length := by
  unfold Marks.render
  split
  next => simp
  next h =>
    obtain ⟨name, names, rfl⟩ := List.exists_cons_of_ne_nil h
    simp

theorem one_lt_length_render (hd : ∀ n ∈ directory, m.Proper n) :
    1 < (m.render directory).length ↔ directory ≠ [] := by
  constructor
  · rintro h rfl
    simp [Marks.render] at h
  · intro h
    obtain ⟨name, names, rfl⟩ := List.exists_cons_of_ne_nil h
    have hpos := List.length_pos_of_ne_nil (hd name List.mem_cons_self).1
    unfold Marks.render
    rw [if_neg h, List.flatMap_cons, List.length_append, List.length_cons]
    omega

theorem components_render (hd : ∀ n ∈ directory, m.Proper n) :
    m.components (m.render directory) = directory := by
  have hflat : m.components (directory.flatMap (m.slash :: ·)) = directory := by
    induction directory with
    | nil => exact components_nil
    | cons name names ih =>
      obtain ⟨hne, hname, -, -⟩ := hd name List.mem_cons_self
      rw [List.flatMap_cons, List.cons_append, components_separator m.separator_slash,
        components_name hne hname, ih fun n hn => hd n (List.mem_cons_of_mem _ hn)]
      cases names with
      | nil => exact .inl rfl
      | cons next names => exact .inr ⟨m.slash, _, rfl, m.separator_slash⟩
  unfold Marks.render
  split
  next h =>
    rw [h, components_separator m.separator_slash, components_nil]
  next => exact hflat

theorem length_render_le {xs ys : List (List α)} (h : xs.Sublist ys) :
    (m.render xs).length ≤ (m.render ys).length := by
  by_cases hx : xs = []
  · subst hx
    exact length_render_pos _
  · unfold Marks.render
    rw [if_neg hx, if_neg fun (hy : ys = []) => hx (List.sublist_nil.mp (hy ▸ h))]
    exact (h.flatMap _).length_le

variable [DecidableEq α]

def Marks.step (m : Marks α) (directory : List (List α)) (name : List α) : List (List α) :=
  if name = [m.dot] then directory
  else if name = [m.dot, m.dot] then directory.dropLast
  else directory ++ [name]

/-- Where a path leads from a directory. -/
def Marks.walk (m : Marks α) (directory : List (List α)) (path : List α) : List (List α) :=
  (m.components path).foldl m.step directory

/-- Every directory on the way is short enough. -/
def Marks.Fits (m : Marks α) (capacity : Nat) : List (List α) → List (List α) → Prop
  | _, [] => True
  | directory, name :: names =>
    (m.render (m.step directory name)).length < capacity ∧
      m.Fits capacity (m.step directory name) names

theorem step_proper (hd : ∀ n ∈ directory, m.Proper n) (hne : name ≠ [])
    (hname : ∀ x ∈ name, m.separator x = false) : ∀ n ∈ m.step directory name, m.Proper n := by
  intro n hn
  unfold Marks.step at hn
  split at hn
  next => exact hd n hn
  next hdot =>
    split at hn
    next => exact hd n (List.mem_of_mem_dropLast hn)
    next hdots =>
      rcases List.mem_append.mp hn with hn | hn
      · exact hd n hn
      · rw [List.mem_singleton.mp hn]
        exact ⟨hne, hname, hdot, hdots⟩

variable {names : List (List α)}

theorem foldl_step_proper (hd : ∀ n ∈ directory, m.Proper n)
    (hnames : ∀ n ∈ names, n ≠ [] ∧ ∀ x ∈ n, m.separator x = false) :
    ∀ n ∈ names.foldl m.step directory, m.Proper n := by
  induction names generalizing directory with
  | nil => exact hd
  | cons name names ih =>
    obtain ⟨hne, hname⟩ := hnames name List.mem_cons_self
    exact ih (step_proper hd hne hname) fun n hn => hnames n (List.mem_cons_of_mem _ hn)

/-- A path from a directory leads to a directory. -/
theorem walk_proper (hd : ∀ n ∈ directory, m.Proper n) (path : List α) :
    ∀ n ∈ m.walk directory path, m.Proper n :=
  foldl_step_proper hd fun _ hn => mem_components_separator hn

theorem foldl_step_names (hd : ∀ n ∈ names, m.Proper n) :
    names.foldl m.step directory = directory ++ names := by
  induction names generalizing directory with
  | nil => simp
  | cons name names ih =>
    obtain ⟨-, -, hdot, hdots⟩ := hd name List.mem_cons_self
    have hstep : m.step directory name = directory ++ [name] := by
      unfold Marks.step
      rw [if_neg hdot, if_neg hdots]
    rw [List.foldl_cons, hstep, ih fun n hn => hd n (List.mem_cons_of_mem _ hn)]
    simp

/-- From the root the text of a directory leads to it. -/
theorem walk_render (hd : ∀ n ∈ directory, m.Proper n) :
    m.walk [] (m.render directory) = directory := by
  unfold Marks.walk
  rw [components_render hd, foldl_step_names hd, List.nil_append]

/-- On the way down to a directory that fits every directory fits. -/
theorem fits_names {capacity : Nat} (hd : ∀ n ∈ names, m.Proper n)
    (hfits : (m.render (directory ++ names)).length < capacity) :
    m.Fits capacity directory names := by
  induction names generalizing directory with
  | nil => exact trivial
  | cons name names ih =>
    obtain ⟨-, -, hdot, hdots⟩ := hd name List.mem_cons_self
    have hstep : m.step directory name = directory ++ [name] := by
      unfold Marks.step
      rw [if_neg hdot, if_neg hdots]
    rw [List.append_cons] at hfits
    refine ⟨?_, ?_⟩
    · rw [hstep]
      have := length_render_le (m := m) (List.sublist_append_left (directory ++ [name]) names)
      omega
    · rw [hstep]
      exact ih (fun n hn => hd n (List.mem_cons_of_mem _ hn)) hfits

end SlashPath
