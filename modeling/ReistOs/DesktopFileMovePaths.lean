import ReistOs.DesktopFileMove

namespace ReistOs

variable {value : UInt8} {directory path : Path}

theorem forall_byte {P : UInt8 → Prop} (h : ∀ n < 256, P (UInt8.ofNat n)) (value : UInt8) : P value := by
  have hvalue := h value.toNat value.toNat_lt
  rwa [UInt8.ofNat_toNat] at hvalue

theorem foldAscii_eq_slash : foldAscii value = 47 ↔ value = 47 :=
  forall_byte (P := fun b => foldAscii b = 47 ↔ b = 47) (by decide +kernel) value

theorem foldAscii_eq_dot : foldAscii value = 46 ↔ value = 46 :=
  forall_byte (P := fun b => foldAscii b = 46 ↔ b = 46) (by decide +kernel) value

theorem foldAscii_fold (value : UInt8) : foldAscii (foldAscii value) = foldAscii value :=
  forall_byte (P := fun b => foldAscii (foldAscii b) = foldAscii b) (by decide +kernel) value

theorem slash_mem_fold {text : Path} : 47 ∈ text.map foldAscii ↔ 47 ∈ text := by
  constructor
  · intro h
    obtain ⟨value, hvalue, hfold⟩ := List.mem_map.mp h
    rw [foldAscii_eq_slash.mp hfold] at hvalue
    exact hvalue
  · intro h
    exact List.mem_map.mpr ⟨47, h, rfl⟩

theorem hexDigit_fold (value : UInt8) : hexDigit (foldAscii value) = hexDigit value := by
  unfold hexDigit
  rw [foldAscii_fold]

theorem privateTempName_folded (name : Path) :
    privateTempName (name.map foldAscii) = privateTempName name := by
  unfold privateTempName
  have hdot : ((name.map foldAscii).drop 8).head? = some 46 ↔ (name.drop 8).head? = some 46 := by
    rw [← List.map_drop]
    cases name.drop 8 with
    | nil => rfl
    | cons value rest =>
      simp only [List.map_cons, List.head?_cons, Option.some.injEq]
      exact foldAscii_eq_dot
  have hhex : ((name.map foldAscii).drop 2 |>.take 6).all hexDigit =
      ((name.drop 2).take 6).all hexDigit := by
    rw [← List.map_drop, ← List.map_take, List.all_map]
    congr 1
    funext value
    exact hexDigit_fold value
  have hfold : foldAscii ∘ foldAscii = foldAscii := funext foldAscii_fold
  have htwo : ((name.map foldAscii).take 2).map foldAscii = (name.take 2).map foldAscii := by
    rw [← List.map_take, List.map_map, hfold]
  have hlast : ((name.map foldAscii).drop 9).map foldAscii = (name.drop 9).map foldAscii := by
    rw [← List.map_drop, List.map_map, hfold]
  have hdots : (((name.map foldAscii).drop 8).head? == some 46) =
      ((name.drop 8).head? == some 46) := by
    rw [Bool.eq_iff_iff, beq_iff_eq, beq_iff_eq]
    exact hdot
  rw [List.length_map, htwo, hhex, hdots, hlast]

theorem privateTempName_congr {left right : Path} (h : left.map foldAscii = right.map foldAscii) :
    privateTempName left = privateTempName right := by
  rw [← privateTempName_folded left, h, privateTempName_folded]

theorem upperHex_spec (digit : UInt32) :
    hexDigit (upperHex digit) = true ∧ upperHex digit ≠ 47 := by
  have hall : ∀ n < 16,
      (fun low : UInt8 => hexDigit (if low < 10 then 48 + low else 55 + low) = true ∧
        (if low < 10 then 48 + low else 55 + low) ≠ 47) (UInt32.ofNat n).toUInt8 := by
    decide +kernel
  have hlow : (digit &&& 0xF).toNat < 16 := by
    rw [UInt32.toNat_and]
    have hmask : (0xF : UInt32).toNat < 2 ^ 4 := by decide
    exact Nat.and_lt_two_pow _ hmask
  have hdigit := hall _ hlow
  rwa [UInt32.ofNat_toNat] at hdigit

theorem privateTempName_tempFilename (hash : UInt32) (attempt : Nat) :
    privateTempName (tempFilename hash attempt) = true := by
  have hhex (digit : UInt32) : hexDigit (upperHex digit) = true := (upperHex_spec digit).1
  unfold privateTempName tempFilename
  simp only [List.length_cons, List.length_nil, List.take_succ_cons, List.take_zero, List.drop_succ_cons,
    List.drop_zero, List.all_cons, List.all_nil, hhex]
  decide

theorem slash_not_mem_tempFilename (hash : UInt32) (attempt : Nat) :
    47 ∉ tempFilename hash attempt := by
  intro h
  have hhex (digit : UInt32) : upperHex digit ≠ 47 := (upperHex_spec digit).2
  unfold tempFilename at h
  simp only [List.mem_cons, List.not_mem_nil, or_false, (hhex _).symm, false_or] at h
  revert h
  decide

theorem slash_not_mem_leafOf (path : Path) : 47 ∉ leafOf path := by
  intro h
  have hleaf := List.mem_reverse.mp h
  have hall := List.all_eq_true.mp (List.all_takeWhile (p := fun x => decide (x ≠ 47))) 47 hleaf
  revert hall
  decide

def childParent (directory : Path) : Path := if directory.length = 1 then [] else directory

theorem canonicalPath_root (h : canonicalPath directory true = some 1) :
    directory = [47] := by
  unfold canonicalPath at h
  split at h
  next => cases h
  next hhead =>
    have hslash : directory.head? = some 47 := by
      by_contra hno
      exact hhead (Or.inr (Or.inr hno))
    split at h
    next hone =>
      obtain ⟨value, rfl⟩ := List.length_eq_one_iff.mp hone
      cases hslash
      rfl
    next hlong =>
      repeat' split at h
      all_goals first
        | cases h
        | exact absurd (Option.some.inj h) hlong

theorem canonicalPath_length {directory : Bool} {length : Nat}
    (h : canonicalPath path directory = some length) : length = path.length := by
  unfold canonicalPath at h
  repeat' split at h
  all_goals cases h
  · omega
  · rfl

theorem buildChildPath_eq {name : Path} (h : buildChildPath directory name = some path) :
    path = childParent directory ++ 47 :: name := by
  unfold buildChildPath at h
  split at h
  next directoryLength nameLength hdirectory hname =>
    have hlength := canonicalPath_length hdirectory
    unfold childParent
    by_cases hone : directoryLength = 1
    · rw [hone] at hdirectory
      rw [canonicalPath_root hdirectory] at h ⊢
      simp only [hone, ↓reduceIte] at h
      split at h
      next => cases h
      next => exact (Option.some.inj h).symm
    · have hdir : ¬ directory.length = 1 := by omega
      rw [if_neg hdir]
      simp only [hone, ↓reduceIte, List.append_assoc] at h
      split at h
      next => cases h
      next => exact (Option.some.inj h).symm
  next => cases h

variable {request : DesktopFileMoveRequest}

theorem moveRequestAllowed_name (h : moveRequestAllowed request = true) :
    privateTempName request.sourceIdentity.name = false ∧ 47 ∉ request.sourceIdentity.name := by
  unfold moveRequestAllowed at h
  simp only [Bool.and_eq_true] at h
  obtain ⟨⟨⟨⟨_, hsource⟩, _⟩, hbelongs⟩, _⟩ := h
  unfold desktopFileMoveSourceAllowed at hsource
  unfold sourceBelongsToDirectory at hbelongs
  split at hsource
  next length leaf hlength hleaf =>
    rw [hlength, hleaf] at hbelongs
    simp only [Bool.and_eq_true, Bool.not_eq_true'] at hsource
    split at hbelongs
    next sourceLength directoryLength leaf' hs hd hl =>
      cases hl
      simp only [Bool.and_eq_true] at hbelongs
      have hfold : leaf.map foldAscii = request.sourceIdentity.name.map foldAscii := by
        have hequal := hbelongs.1.1
        unfold textEqualAsciiCase at hequal
        simp only [Bool.and_eq_true, beq_iff_eq] at hequal
        exact hequal.1
      have hslash : 47 ∉ leaf := by
        unfold pathLeaf at hleaf
        split at hleaf
        next => cases hleaf
        next =>
          cases hleaf
          exact slash_not_mem_leafOf _
      refine ⟨?_, ?_⟩
      · rw [← privateTempName_congr hfold]
        exact hsource.1
      · rw [← slash_mem_fold, ← hfold, slash_mem_fold]
        exact hslash
    next => cases hbelongs
  next => cases hsource

theorem temporary_apart {Node : Type} (names : PathNames Node)
    {destination temporary : Path} {hash : UInt32} {attempt : Nat}
    (h : moveRequestAllowed request = true)
    (hdestination : buildChildPath directory request.sourceIdentity.name = some destination)
    (htemporary : buildChildPath directory (tempFilename hash attempt) = some temporary) :
    names.node destination ≠ names.node temporary := by
  intro hsame
  obtain ⟨hprivate, hslash⟩ := moveRequestAllowed_name h
  rw [buildChildPath_eq hdestination, buildChildPath_eq htemporary] at hsame
  have hfold := names.apart _ _ _ hslash (slash_not_mem_tempFilename hash attempt) hsame
  rw [privateTempName_congr hfold, privateTempName_tempFilename] at hprivate
  cases hprivate

end ReistOs
