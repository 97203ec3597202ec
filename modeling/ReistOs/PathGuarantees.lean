import Mathlib.Data.List.TakeWhile
import ReistOs.PathResolution

namespace ReistOs.Paths

open SlashPath Marks

section Segments

variable {ε : Type} {store : Text → Text → Except ε Text} {directory : List Text}
  {output path name : Text} {capacity n : Nat}

theorem nameStart_append (head name : Text) (hname : ∀ x ∈ name, separator x = false)
    (hlast : head.getLast? = some 0x2F) (k : Nat) (hk : k ≤ name.length) :
    nameStart (head ++ name) (head.length + k) = head.length := by
  have hpos : 0 < head.length := by
    cases head with
    | nil => simp at hlast
    | cons x xs => simp
  induction k with
  | zero =>
    obtain ⟨j, hj⟩ := Nat.exists_eq_succ_of_ne_zero (Nat.ne_of_gt hpos)
    rw [Nat.add_zero, hj]
    cases j with
    | zero => rfl
    | succ j =>
      have hat : (head ++ name)[j + 1]? = some 0x2F := by
        rw [List.getElem?_append_left (by omega), ← hlast, List.getLast?_eq_getElem?, hj]
        rfl
      unfold nameStart
      rw [hat]
      simp
  | succ k ih =>
    obtain ⟨j, hj⟩ := Nat.exists_eq_succ_of_ne_zero (Nat.ne_of_gt hpos)
    have hlength : head.length + (k + 1) = (j + k) + 2 := by omega
    have hat : (head ++ name)[j + k + 1]? = name[k]? := by
      rw [List.getElem?_append_right (by omega)]
      congr 1
      omega
    have hne : name[k]? ≠ some 0x2F := by
      intro h
      have hsep := hname _ (List.mem_of_getElem? h)
      exact absurd hsep (by decide)
    rw [hlength]
    unfold nameStart
    rw [hat, if_pos hne]
    have hback := ih (by omega)
    rwa [show head.length + k = j + k + 1 by omega] at hback

theorem parent_render (hd : ∀ n ∈ directory, marks.Proper n) :
    parent (marks.render directory) = marks.render directory.dropLast := by
  rcases List.eq_nil_or_concat directory with rfl | ⟨above, name, rfl⟩
  · rfl
  · rw [List.concat_eq_append] at hd ⊢
    have hname := (hd name (by simp)).2.1
    have habove : ∀ n ∈ above, marks.Proper n := fun n hn => hd n (by simp [hn])
    rw [render_snoc, List.dropLast_concat]
    have hsplit : (if above = [] then [] else marks.render above) ++ marks.slash :: name =
        ((if above = [] then [] else marks.render above) ++ [0x2F]) ++ name := by simp [marks]
    have hstart := nameStart_append ((if above = [] then [] else marks.render above) ++ [0x2F]) name
      hname (by simp) name.length le_rfl
    rw [hsplit]
    unfold parent
    rw [List.length_append, hstart, List.length_append, List.length_singleton]
    by_cases hroot : above = []
    · subst hroot
      rfl
    · have hpos := length_render_pos (m := marks) above
      simp only [if_neg hroot]
      rw [if_pos (by omega), Nat.add_sub_cancel, List.append_assoc, List.take_left]

def Stores (store : Text → Text → Except ε Text) (capacity : Nat) : Prop :=
  ∀ (directory : List Text) (name : Text), (∀ n ∈ directory, marks.Proper n) →
    (marks.render directory).length < capacity → marks.Proper name →
      ((marks.render (directory ++ [name])).length < capacity →
        store (marks.render directory) name = .ok (marks.render (directory ++ [name]))) ∧
      (capacity ≤ (marks.render (directory ++ [name])).length →
        ∃ e, store (marks.render directory) name = .error e)

theorem applyPath_walk (hstore : Stores store capacity) (path : Text)
    (hd : ∀ n ∈ directory, marks.Proper n)
    (hfit : (marks.render directory).length < capacity) :
    (marks.Fits capacity directory (marks.components path) →
      applyPath store (marks.render directory) path = .ok (marks.render (marks.walk directory path)))
    ∧ (¬ marks.Fits capacity directory (marks.components path) →
      ∃ e, applyPath store (marks.render directory) path = .error e) := by
  induction hlength : path.length using Nat.strong_induction_on generalizing path directory with
  | _ n ih =>
  unfold walk
  rw [← @components_dropWhile _ marks path]
  unfold applyPath
  split
  next hrest =>
    rw [show marks.separator = separator from rfl, hrest, components_nil]
    exact ⟨fun _ => rfl, fun h => absurd trivial h⟩
  next c cs hrest =>
    have hc : separator c = false := by
      have hhead := List.head?_dropWhile_not separator path
      rw [hrest] at hhead
      simpa using hhead
    have hname : ∀ x ∈ c :: cs.takeWhile (!separator ·), marks.separator x = false := by
      intro x hx
      rcases List.mem_cons.mp hx with rfl | hx
      · exact hc
      · simpa [marks] using List.mem_takeWhile_imp hx
    have hnext : cs.dropWhile (!separator ·) = [] ∨
        ∃ x xs, cs.dropWhile (!separator ·) = x :: xs ∧ marks.separator x = true := by
      cases hafter : cs.dropWhile (!separator ·) with
      | nil => exact .inl rfl
      | cons x xs =>
        have hhead := List.head?_dropWhile_not (!separator ·) cs
        rw [hafter] at hhead
        exact .inr ⟨x, xs, rfl, by simpa [marks] using hhead⟩
    have hcomponents : marks.components (c :: cs) =
        (c :: cs.takeWhile (!separator ·)) ::
          marks.components (cs.dropWhile (!separator ·)) := by
      rw [← components_name (List.cons_ne_nil _ _) hname hnext, List.cons_append,
        List.takeWhile_append_dropWhile]
    have hshorter : (cs.dropWhile (!separator ·)).length < path.length := by
      have hskip := (List.dropWhile_sublist separator (l := path)).length_le
      have hless := (List.dropWhile_sublist (!separator ·) (l := cs)).length_le
      rw [hrest, List.length_cons] at hskip
      omega
    rw [show marks.separator = separator from rfl, hrest, hcomponents]
    generalize c :: cs.takeWhile (!separator ·) = name at hname hcomponents
    have hne : name ≠ [] := by
      rintro rfl
      have hmem := @mem_components_separator _ marks (c :: cs) []
      rw [hcomponents] at hmem
      exact (hmem List.mem_cons_self).1 rfl
    generalize cs.dropWhile (!separator ·) = rest at hshorter
    -- what the loop does with the name is the step, as long as the directory it leads to fits
    have hgo : ∀ directory' : List Text, marks.step directory name = directory' →
        (∀ n ∈ directory', marks.Proper n) → ∀ loop : Except ε Text,
        ((marks.render directory').length < capacity →
          loop = applyPath store (marks.render directory') rest) →
        (capacity ≤ (marks.render directory').length → ∃ e, loop = .error e) →
        (marks.Fits capacity directory (name :: marks.components rest) →
          loop = .ok (marks.render ((name :: marks.components rest).foldl marks.step directory))) ∧
        (¬ marks.Fits capacity directory (name :: marks.components rest) →
          ∃ e, loop = .error e) := by
      intro directory' hstep hproper loop hgoes hstops
      unfold Marks.Fits
      rw [List.foldl_cons, hstep]
      by_cases hshort : (marks.render directory').length < capacity
      · obtain ⟨hyes, hno⟩ := ih rest.length (by omega) rest hproper hshort rfl
        rw [hgoes hshort]
        exact ⟨fun h => hyes h.2, fun h => hno fun hrest => h ⟨hshort, hrest⟩⟩
      · exact ⟨fun h => absurd h.1 hshort, fun _ => hstops (by omega)⟩
    simp only
    split
    next hdot =>
      refine hgo directory ?_ hd _ (fun _ => rfl) fun h => by omega
      exact if_pos hdot
    next hdot =>
      split
      next hdots =>
        have habove : ∀ n ∈ directory.dropLast, marks.Proper n :=
          fun n hn => hd n (List.mem_of_mem_dropLast hn)
        have hless : (marks.render directory.dropLast).length ≤
            (marks.render directory).length := length_render_le (List.dropLast_sublist directory)
        rw [parent_render hd]
        refine hgo directory.dropLast ?_ habove _ (fun _ => rfl) fun h => by omega
        exact (if_neg hdot).trans (if_pos hdots)
      next hdots =>
        have hproper : marks.Proper name := ⟨hne, hname, hdot, hdots⟩
        obtain ⟨hstored, hrefused⟩ := hstore directory name hd hfit hproper
        refine hgo (directory ++ [name]) ?_ ?_ _ (fun h => ?_) fun h => ?_
        · exact (if_neg hdot).trans (if_neg hdots)
        · intro n hn
          rcases List.mem_append.mp hn with hn | hn
          · exact hd n hn
          · rw [List.mem_singleton.mp hn]
            exact hproper
        · rw [hstored h]
        · obtain ⟨e, he⟩ := hrefused h
          rw [he]
          exact ⟨e, rfl⟩

end Segments

variable {directory : List Text} {client : VfsClient} {current path out : Text}

theorem length_snoc (directory : List Text) (hd : ∀ n ∈ directory, marks.Proper n) (name : Text) :
    (marks.render (directory ++ [name])).length =
      (if 1 < (marks.render directory).length then (marks.render directory).length + 1 else 1) +
        name.length := by
  rw [render_snoc]
  by_cases h : directory = []
  · subst h
    simp [render, marks]
    omega
  · rw [if_neg h, if_pos ((one_lt_length_render hd).mpr h), List.length_append, List.length_cons]
    omega

theorem render_snoc_eq (hd : ∀ n ∈ directory, marks.Proper n) (name : Text) :
    (if 1 < (marks.render directory).length then marks.render directory ++ [0x2F]
      else marks.render directory) ++ name = marks.render (directory ++ [name]) := by
  rw [render_snoc]
  by_cases h : directory = []
  · subst h
    rfl
  · rw [if_neg h, if_pos ((one_lt_length_render hd).mpr h), List.append_assoc]
    rfl

theorem storeName_stores : Stores storeName vfsPathCapacity := by
  intro directory name hd hfit hname
  have hlength := length_snoc directory hd name
  have hpos := List.length_pos_of_ne_nil hname.1
  have hroot := length_render_pos (m := marks) directory
  have hsame := render_snoc_eq hd name
  have hstored : (if 1 < (marks.render directory).length then marks.render directory ++ [0x2F]
      else marks.render directory).length =
      if 1 < (marks.render directory).length then (marks.render directory).length + 1 else 1 := by
    split
    next => simp
    next => omega
  unfold storeName vfsPathCapacity at *
  simp only [hstored]
  constructor
  · intro hroom
    rw [hlength] at hroom
    split at hroom
    next hlong =>
      rw [if_pos hlong] at hsame ⊢
      rw [if_neg (by omega), if_neg (by omega), if_neg (by omega), if_pos hlong, hsame]
    next hshort =>
      rw [if_neg hshort] at hsame ⊢
      rw [if_neg (by omega), if_neg (by omega), if_neg (by omega), if_neg hshort, hsame]
  · intro hfull
    rw [hlength] at hfull
    split
    next => exact ⟨_, rfl⟩
    next =>
      split
      next => exact ⟨_, rfl⟩
      next =>
        refine ⟨-36, if_pos ?_⟩
        omega

theorem storeSegment_stores : Stores storeSegment shellPathMax := by
  intro directory name hd hfit hname
  have hlength := length_snoc directory hd name
  have hroot := length_render_pos (m := marks) directory
  have hsame := render_snoc_eq hd name
  unfold storeSegment shellPathMax at *
  constructor
  · intro hroom
    rw [hlength] at hroom
    split at hroom
    next hlong =>
      rw [if_pos hlong] at hsame
      simp only [if_pos hlong]
      rw [if_neg (by omega), if_neg (by omega), if_pos (by omega), hsame]
    next hshort =>
      rw [if_neg hshort] at hsame
      simp only [if_neg hshort]
      rw [if_neg (by omega), if_neg (by omega), if_neg (by omega), hsame]
  · intro hfull
    rw [hlength] at hfull
    by_cases hlong : 1 < (marks.render directory).length
    · rw [if_pos hlong] at hfull
      simp only [if_pos hlong]
      split
      next => exact ⟨_, rfl⟩
      next => exact ⟨_, if_pos (by omega)⟩
    · rw [if_neg hlong] at hfull
      simp only [if_neg hlong]
      split
      next => exact ⟨_, rfl⟩
      next => exact ⟨_, if_pos (by omega)⟩

variable {capacity n : Nat}

theorem applyPath_render {ε : Type} {store : Text → Text → Except ε Text}
    (hstore : Stores store capacity) (hd : ∀ n ∈ directory, marks.Proper n)
    (hfit : (marks.render directory).length < capacity) :
    applyPath store [0x2F] (marks.render directory) = .ok (marks.render directory) := by
  have hroot : ∀ n ∈ ([] : List Text), marks.Proper n := fun n hn => by cases hn
  have hshort : (marks.render []).length < capacity := by
    have hle := length_render_le (m := marks) (List.nil_sublist directory)
    omega
  have hwalk := (applyPath_walk hstore (marks.render directory) hroot hshort).1 (by
    rw [components_render hd]
    exact fits_names hd (by rwa [List.nil_append]))
  rw [walk_render hd] at hwalk
  exact hwalk

theorem head_render (directory : List Text) : (marks.render directory).head? = some 0x2F := by
  unfold render
  split
  next => rfl
  next h =>
    obtain ⟨name, names, rfl⟩ := List.exists_cons_of_ne_nil h
    rfl

/-- The text of the directory that a path from this one leads to, when every directory on the way
fits the buffer, and else an error. -/
def Resolves {ε : Type} (capacity : Nat) (directory : List Text) (path : Text)
    (result : Except ε Text) : Prop :=
  (marks.Fits capacity directory (marks.components path) →
      result = .ok (marks.render (marks.walk directory path))) ∧
    (¬ marks.Fits capacity directory (marks.components path) → ∃ e, result = .error e)

theorem length_walk {names : List Text} (hfit : (marks.render directory).length < capacity)
    (h : marks.Fits capacity directory names) :
    (marks.render (names.foldl marks.step directory)).length < capacity := by
  induction names generalizing directory with
  | nil => exact hfit
  | cons name names ih => exact ih h.1 h.2

theorem normalize_resolves (hd : ∀ n ∈ directory, marks.Proper n)
    (hfit : (marks.render directory).length < shellPathMax) (input : Text) :
    Resolves shellPathMax (if input.head?.any separator then [] else directory) input
      (shellPathNormalize (marks.render directory) input) := by
  have hhead : ¬ (marks.render directory).head? ≠ some 0x2F := not_not.mpr (head_render directory)
  have hcurrent : shellPathApply [] (marks.render directory) true = .ok (marks.render directory) :=
    applyPath_render storeSegment_stores hd hfit
  unfold Resolves shellPathNormalize
  rw [if_neg hhead, hcurrent]
  by_cases habsolute : input.head?.any separator = true
  · rw [if_pos habsolute, habsolute]
    exact applyPath_walk storeSegment_stores input (fun n hn => by cases hn) (by decide)
  · rw [if_neg habsolute, Bool.eq_false_of_not_eq_true habsolute]
    exact applyPath_walk storeSegment_stores input hd hfit

theorem resolves_of_start {rest : Text} (hd : ∀ n ∈ directory, marks.Proper n)
    (hfit : (marks.render directory).length < vfsPathCapacity) (hne : path ≠ [])
    (hlength : path.length < vfsPathCapacity)
    (hstart : startOf client path = .ok (marks.render directory, rest)) :
    Resolves vfsPathCapacity directory rest (reistVfsResolvePath client path) := by
  obtain ⟨hyes, hno⟩ := applyPath_walk storeName_stores rest hd hfit
  have hnotlong : ¬ vfsPathCapacity ≤ path.length := by omega
  unfold Resolves reistVfsResolvePath
  rw [if_neg hne, if_neg hnotlong, hstart]
  simp only [pathAppend]
  constructor
  · intro h
    have hwalk : (marks.render (marks.walk directory rest)).length < vfsPathCapacity :=
      length_walk hfit h
    rw [hyes h]
    simp only
    rw [if_pos ⟨length_render_pos _, hwalk⟩]
  · intro h
    obtain ⟨e, he⟩ := hno h
    rw [he]
    exact ⟨e, rfl⟩

theorem resolvePath_resolves (hd : ∀ n ∈ directory, marks.Proper n)
    (hfit : (marks.render directory).length < vfsPathCapacity)
    (hcwd : path.head?.any separator = false → client.getcwd = some (marks.render directory))
    (hne : path ≠ [])
    (hlength : path.length < vfsPathCapacity) (hdrive : path[1]? ≠ some 0x3A) :
    Resolves vfsPathCapacity (if path.head?.any separator then [] else directory) path
      (reistVfsResolvePath client path) := by
  have hhead : ¬ ((marks.render directory).head? ≠ some 0x2F ∨
      vfsPathCapacity ≤ (marks.render directory).length) := by
    rw [not_or]
    exact ⟨not_not.mpr (head_render directory), by omega⟩
  have hcurrent : pathAppend [0x2F] (marks.render directory) = .ok (marks.render directory) :=
    applyPath_render storeName_stores hd hfit
  have hstart : startOf client path =
      .ok (marks.render (if path.head?.any separator then [] else directory), path) := by
    unfold startOf
    rw [if_neg hdrive]
    by_cases habsolute : path.head?.any separator = true
    · rw [if_pos habsolute, if_neg]
      · rfl
      · cases path with
        | nil => exact absurd rfl hne
        | cons c cs =>
          have hc : (c == 0x2F || c == 0x5C) = true := by simpa [separator] using habsolute
          rw [Bool.or_eq_true, beq_iff_eq, beq_iff_eq] at hc
          rcases hc with rfl | rfl
          · simp
          · simp
    · rw [if_neg habsolute, if_pos]
      · rw [hcwd (Bool.eq_false_of_not_eq_true habsolute)]
        simp only [if_neg hhead, hcurrent]
        rfl
      · constructor
        · intro h
          rw [h] at habsolute
          exact habsolute rfl
        · intro h
          rw [h] at habsolute
          exact habsolute rfl
  have hproper : ∀ n ∈ (if path.head?.any separator then [] else directory), marks.Proper n := by
    split
    next => exact fun n hn => by cases hn
    next => exact hd
  have hshort : (marks.render (if path.head?.any separator then [] else directory)).length <
      vfsPathCapacity := by
    split
    next => decide
    next => exact hfit
  exact resolves_of_start hproper hshort hne hlength hstart

structure Directory (capacity : Nat) where
  names : List Text
  proper : ∀ n ∈ names, marks.Proper n
  fits : (marks.render names).length < capacity

def Directory.text {capacity : Nat} (d : Directory capacity) : Text := marks.render d.names

theorem Resolves.canonical {ε : Type} {result : Except ε Text}
    (h : Resolves capacity directory path result) (hd : ∀ n ∈ directory, marks.Proper n)
    (hfit : (marks.render directory).length < capacity) (hout : result = .ok out) :
    ∃ d : Directory capacity, out = d.text := by
  by_cases hway : marks.Fits capacity directory (marks.components path)
  · have hok := h.1 hway
    rw [hout] at hok
    exact ⟨⟨_, walk_proper hd path, length_walk hfit hway⟩, Except.ok.inj hok⟩
  · obtain ⟨e, he⟩ := h.2 hway
    rw [hout] at he
    cases he

theorem fits_root (d : Directory capacity) :
    marks.Fits capacity [] (marks.components d.text) := by
  unfold Directory.text
  rw [components_render d.proper]
  exact fits_names d.proper (by rw [List.nil_append]; exact d.fits)

theorem any_separator_text (d : Directory capacity) :
    d.text.head?.any separator = true := by
  unfold Directory.text
  rw [head_render]
  decide

theorem normalize_text (d current : Directory shellPathMax) :
    shellPathNormalize current.text d.text = .ok d.text := by
  have h := normalize_resolves current.proper current.fits d.text
  rw [if_pos (any_separator_text d)] at h
  have hok := h.1 (fits_root d)
  unfold Directory.text at hok ⊢
  rw [walk_render d.proper] at hok
  exact hok

theorem resolvePath_text (d : Directory vfsPathCapacity) (client : VfsClient)
    (hdrive : d.text[1]? ≠ some 0x3A) : reistVfsResolvePath client d.text = .ok d.text := by
  have hne : d.text ≠ [] := by
    intro h
    have hpos := length_render_pos (m := marks) d.names
    unfold Directory.text at h
    rw [h] at hpos
    exact absurd hpos (by decide)
  have hroot : ∀ n ∈ ([] : List Text), marks.Proper n := fun n hn => by cases hn
  have h := @resolvePath_resolves _ client _ hroot (by decide)
    (fun hrelative => absurd (any_separator_text d) (by rw [hrelative]; decide)) hne d.fits hdrive
  rw [if_pos (any_separator_text d)] at h
  have hok := h.1 (fits_root d)
  unfold Directory.text at hok ⊢
  rw [walk_render d.proper] at hok
  exact hok

theorem join_text (mount drive : Directory shellPathMax) :
    shellPathJoinMount mount.text drive.text =
      if (marks.render (mount.names ++ drive.names)).length < shellPathMax
      then .ok (marks.render (mount.names ++ drive.names)) else .error .tooLong := by
  obtain ⟨mountNames, hmount, hmountFits⟩ := mount
  obtain ⟨driveNames, hdrive, hdriveFits⟩ := drive
  unfold Directory.text shellPathJoinMount
  simp only
  have hmountPos := length_render_pos (m := marks) mountNames
  have hdrivePos := length_render_pos (m := marks) driveNames
  have hlast : ¬ (1 < (marks.render mountNames).length ∧
      (marks.render mountNames)[(marks.render mountNames).length - 1]? = some 0x2F) := by
    rintro ⟨hlong, hslash⟩
    rcases List.eq_nil_or_concat mountNames with rfl | ⟨above, name, rfl⟩
    · exact absurd hlong (by decide)
    · rw [List.concat_eq_append] at hmount hslash
      obtain ⟨hne, hname, -, -⟩ := hmount name (by simp)
      rw [← List.getLast?_eq_getElem?, render_snoc, List.getLast?_append_cons,
        List.getLast?_cons_of_ne_nil hne] at hslash
      exact absurd (hname _ (List.mem_of_getLast? hslash)) (by decide)
  have hargs : ¬ ((marks.render mountNames).length = 0 ∨
      shellPathMax ≤ (marks.render mountNames).length ∨ (marks.render driveNames).length = 0 ∨
      shellPathMax ≤ (marks.render driveNames).length ∨
      1 < (marks.render mountNames).length ∧
        (marks.render mountNames)[(marks.render mountNames).length - 1]? = some 0x2F) := by
    rintro (h | h | h | h | h)
    · omega
    · omega
    · omega
    · omega
    · exact hlast h
  have hheads : ¬ ((marks.render mountNames).head? ≠ some 0x2F ∨
      (marks.render driveNames).head? ≠ some 0x2F) := by
    rw [not_or]
    exact ⟨not_not.mpr (head_render _), not_not.mpr (head_render _)⟩
  rw [if_neg hheads, if_neg hargs]
  by_cases hmountRoot : mountNames = []
  · subst hmountRoot
    rw [List.nil_append, if_pos hdriveFits, if_pos (by rfl), if_neg (by omega)]
  · have hmountLong := (one_lt_length_render hmount).mpr hmountRoot
    rw [if_neg (by omega)]
    by_cases hdriveRoot : driveNames = []
    · subst hdriveRoot
      rw [List.append_nil, if_pos hmountFits, if_pos (by rfl)]
    · have hdriveLong := (one_lt_length_render hdrive).mpr hdriveRoot
      have happend : marks.render mountNames ++ marks.render driveNames =
          marks.render (mountNames ++ driveNames) := by
        unfold render
        rw [if_neg hmountRoot, if_neg hdriveRoot, if_neg (by simp [hmountRoot]),
          List.flatMap_append]
      rw [if_neg (by omega), ← List.length_append, happend]
      split
      next => rw [if_neg (by omega)]
      next => rw [if_pos (by omega)]

/-- Both resolvers hand out the canonical text of the directory the path leads to, when every
directory on the way fits, and else an error; a result resolves to itself. -/
theorem paths_canonical :
    (∀ (current : Directory shellPathMax) (input : Text),
      Resolves shellPathMax (if input.head?.any separator then [] else current.names) input
          (shellPathNormalize current.text input) ∧
        ∀ out, shellPathNormalize current.text input = .ok out →
          marks.Canonical out ∧ out.length < shellPathMax ∧
            ∀ other : Directory shellPathMax, shellPathNormalize other.text out = .ok out) ∧
    (∀ (mount drive : Directory shellPathMax), shellPathJoinMount mount.text drive.text =
      if (marks.render (mount.names ++ drive.names)).length < shellPathMax
      then .ok (marks.render (mount.names ++ drive.names)) else .error .tooLong) ∧
    ∀ (client : VfsClient) (current : Directory vfsPathCapacity) (path : Text),
      client.getcwd = some current.text → path ≠ [] → path[1]? ≠ some 0x3A →
        (path.length < vfsPathCapacity →
          Resolves vfsPathCapacity (if path.head?.any separator then [] else current.names) path
            (reistVfsResolvePath client path)) ∧
        (vfsPathCapacity ≤ path.length → reistVfsResolvePath client path = .error (-36)) ∧
        ∀ out, reistVfsResolvePath client path = .ok out →
          marks.Canonical out ∧ out.length < vfsPathCapacity ∧ (out[1]? ≠ some 0x3A →
            ∀ other : VfsClient, reistVfsResolvePath other out = .ok out) := by
  have hstart : ∀ {capacity : Nat} (d : Directory capacity) (absolute : Bool), 1 < capacity →
      (∀ n ∈ (if absolute then [] else d.names), marks.Proper n) ∧
        (marks.render (if absolute then [] else d.names)).length < capacity := by
    intro capacity d absolute hcapacity
    cases absolute with
    | true => exact ⟨fun n hn => (by cases hn), hcapacity⟩
    | false => exact ⟨d.proper, d.fits⟩
  refine ⟨fun current input => ?_, join_text, fun client current path hcwd hne hdrive => ?_⟩
  · have hresolves := normalize_resolves current.proper current.fits input
    obtain ⟨hproper, hfits⟩ := hstart current (input.head?.any separator) (by decide)
    refine ⟨hresolves, fun out hout => ?_⟩
    obtain ⟨d, rfl⟩ := hresolves.canonical hproper hfits hout
    exact ⟨⟨d.names, d.proper, rfl⟩, d.fits, fun other => normalize_text d other⟩
  · have hresolves := fun hlength => @resolvePath_resolves _ client path
      current.proper current.fits (fun _ => hcwd) hne hlength hdrive
    have hlong : vfsPathCapacity ≤ path.length → reistVfsResolvePath client path = .error (-36) := by
      intro h
      unfold reistVfsResolvePath
      rw [if_neg hne, if_pos h]
    obtain ⟨hproper, hfits⟩ := hstart current (path.head?.any separator) (by decide)
    refine ⟨hresolves, hlong, fun out hout => ?_⟩
    rcases Nat.lt_or_ge path.length vfsPathCapacity with hlength | hlength
    · obtain ⟨d, rfl⟩ := (hresolves hlength).canonical hproper hfits hout
      exact ⟨⟨d.names, d.proper, rfl⟩, d.fits, fun h other => resolvePath_text d other h⟩
    · rw [hlong hlength] at hout
      cases hout

theorem oneName_proper (hn : 2 < n) :
    ∀ name ∈ [List.replicate n 0x61], marks.Proper name := by
  intro name hname
  obtain rfl : name = List.replicate n 0x61 := List.mem_singleton.mp hname
  have hlength : ∀ other : Text, List.replicate n 0x61 = other → n = other.length := by
    rintro _ rfl
    exact List.length_replicate.symm
  refine ⟨fun h => ?_, fun x hx => ?_, fun h => ?_, fun h => ?_⟩
  · have := hlength _ h
    simp only [List.length_nil] at this
    omega
  · rw [List.eq_of_mem_replicate hx]
    decide
  · have := hlength _ h
    simp only [List.length_singleton] at this
    omega
  · have := hlength _ h
    simp only [List.length_cons, List.length_nil] at this
    omega

theorem oneName_fits (hfit : n + 1 < capacity) :
    (marks.render [List.replicate n 0x61]).length < capacity := by
  have hlength : (marks.render [List.replicate n 0x61]).length = n + 1 := by
    simp [render]
  omega

def oneName {capacity : Nat} (n : Nat) (hn : 2 < n) (hfit : n + 1 < capacity) :
    Directory capacity where
  names := [List.replicate n 0x61]
  proper := oneName_proper hn
  fits := oneName_fits hfit

/-- Down to a name and up again: the directory that this leads to fits, but not the one on the
way. -/
theorem detour_refused :
    let current : Directory shellPathMax := oneName 250 (by decide) (by decide)
    marks.walk current.names [0x62, 0x62, 0x62, 0x62, 0x62, 0x2F, 0x2E, 0x2E] = current.names ∧
      ∃ e, shellPathNormalize current.text
        [0x62, 0x62, 0x62, 0x62, 0x62, 0x2F, 0x2E, 0x2E] = .error e := by
  intro current
  have hcomponents : marks.components [0x62, 0x62, 0x62, 0x62, 0x62, 0x2F, 0x2E, 0x2E] =
      [[0x62, 0x62, 0x62, 0x62, 0x62], [0x2E, 0x2E]] := by decide
  have hstep : ∀ names, marks.step names [0x62, 0x62, 0x62, 0x62, 0x62] =
      names ++ [[0x62, 0x62, 0x62, 0x62, 0x62]] := by
    intro names
    exact (if_neg (by decide)).trans (if_neg (by decide))
  have hrelative : ¬ ([0x62, 0x62, 0x62, 0x62, 0x62, 0x2F, 0x2E, 0x2E] : Text).head?.any
      separator = true := by decide
  constructor
  · unfold walk
    rw [hcomponents, List.foldl_cons, hstep]
    have hup : marks.step (current.names ++ [[0x62, 0x62, 0x62, 0x62, 0x62]]) [0x2E, 0x2E] =
        (current.names ++ [[0x62, 0x62, 0x62, 0x62, 0x62]]).dropLast :=
      (if_neg (by decide)).trans (if_pos rfl)
    rw [List.foldl_cons, hup, List.dropLast_concat]
    rfl
  · refine (normalize_resolves current.proper current.fits _).2 ?_
    rw [hcomponents, if_neg hrelative]
    intro hfits
    have hshort := hfits.1
    have hlong : ∀ n, (marks.render [List.replicate n 0x61, [0x62, 0x62, 0x62, 0x62, 0x62]]).length
        = n + 7 := by
      intro n
      simp [render]
    rw [hstep, show current.names ++ [[0x62, 0x62, 0x62, 0x62, 0x62]] =
      [List.replicate 250 0x61, [0x62, 0x62, 0x62, 0x62, 0x62]] from rfl, hlong] at hshort
    exact absurd hshort (by decide)

end ReistOs.Paths
