import ReistOs.Fat12JournalRecovery

/-! A journaled transaction on a floppy, and the image after each of its sector writes. -/

namespace ReistOs

open WriteBack Fat12Journal Fat12JournalHeader

section Session

variable (j : Fat12Journal) (physical : UInt32 → Nat)

/-- One journaled write: the old content is recorded under the target's number before
its physical sector is written and read back. -/
def recordAndWrite (target : UInt32) (data : Sector) (w : Fat12World) :
    Bool × Fat12Journal × Fat12World :=
  match w.read (physical target) with
  | (none, w) => (false, j, w)
  | (some old, w) =>
    let r := fat12JournalRecord j target old w
    if r.1 then
      ((writeVerified (physical target) data r.2.2).1, r.2.1,
        (writeVerified (physical target) data r.2.2).2)
    else r

def recordAndWriteAll : List (UInt32 × Sector) → Fat12Journal → Fat12World →
    Bool × Fat12Journal × Fat12World
  | [], j, w => (true, j, w)
  | p :: ps, j, w =>
    let r := recordAndWrite j physical p.1 p.2 w
    if r.1 then recordAndWriteAll ps r.2.1 r.2.2 else r

/-- `begin` and the journaled writes. -/
def fat12Transaction (q : UInt64) (ws : List (UInt32 × Sector)) (w : Fat12World) :
    Bool × Fat12Journal × Fat12World :=
  let b := fat12JournalBegin j q w
  if b.1 then recordAndWriteAll physical ws b.2.1 b.2.2 else b

def fat12Session (q : UInt64) (ws : List (UInt32 × Sector)) (w : Fat12World) :
    Bool × Fat12Journal × Fat12World :=
  let r := fat12Transaction j physical q ws w
  if r.1 then fat12JournalCommit r.2.1 r.2.2 else r

end Session

/-- The last sector write replaced the primary header, and it was not the first write
of the transaction: the mirror still holds the previous record. -/
def HeaderGap (j : Fat12Journal) (ws : List (Nat × Sector)) : Prop :=
  ∃ before x, before ≠ [] ∧ ws = before ++ [(j.primaryHeaderSector, x)]

def mirrorWrites (j : Fat12Journal) (ws : List (Nat × Sector)) : Nat :=
  ws.countP fun p => p.1 == j.mirrorHeaderSector

/-- The number of entries whose count reached both headers: one less than the mirror
writes, because `begin` publishes an empty record. -/
def published (j : Fat12Journal) (ws : List (Nat × Sector)) : Nat := mirrorWrites j ws - 1

section Points

variable (j : Fat12Journal) (physical : UInt32 → Nat) (d₀ : Floppy) (q : UInt64)

/-- An ACTIVE image: recovery will write back exactly the contents `us`. -/
structure OpenAt (us : List (UInt32 × Sector)) (ws : List (Nat × Sector)) : Prop where
  loaded : loaded j (applyWrites ws d₀) = some (activeHeader j q (UInt32.ofNat us.length))
  undo : ∀ n u, us[n]? = some u → UndoStored j q (applyWrites ws d₀) n u
  fits : us.length ≤ fat12JournalMaxEntries
  outside : ∀ u ∈ us, ¬ j.Reserved u.1.toNat
  nogap : ¬ HeaderGap j ws
  published : published j ws = us.length
  old : (∀ u ∈ us, physical u.1 = u.1.toNat) → ∀ u ∈ us, u.2 = d₀ u.1.toNat
  frame : (∀ u ∈ us, physical u.1 = u.1.toNat) →
    ∀ a, ¬ j.Reserved a → (∀ u ∈ us, u.1.toNat ≠ a) → applyWrites ws d₀ a = d₀ a

/-- What an image after some writes of an uncommitted transaction looks like. -/
inductive PointOf (targets : List UInt32) (ws : List (Nat × Sector)) : Prop
  | torn : HeaderGap j ws → loaded j (applyWrites ws d₀) = none → PointOf targets ws
  | idle : ws = [] → PointOf targets ws
  | opened (us : List (UInt32 × Sector)) : us.map Prod.fst <+: targets →
    OpenAt j physical d₀ q us ws → PointOf targets ws

structure ClosedAt (final : Floppy) (ws : List (Nat × Sector)) : Prop where
  durable : (j.primaryHeaderSector, (cleanHeader j q).encode) ∈ ws
  nogap : ¬ HeaderGap j ws
  loaded : loaded j (applyWrites ws d₀) = some (cleanHeader j q)
  content : ∀ a, ¬ j.Reserved a → applyWrites ws d₀ a = final a

end Points

section Writes

variable {j : Fat12Journal} {physical : UInt32 → Nat} {d₀ : Floppy} {q : UInt64}
  {us : List (UInt32 × Sector)} {ws : List (Nat × Sector)} {a : Nat} {x : Sector}

theorem not_headerGap_snoc (h : a ≠ j.primaryHeaderSector) : ¬ HeaderGap j (ws ++ [(a, x)]) := by
  rintro ⟨before, y, -, he⟩
  have := (List.append_inj' he rfl).2
  simp only [List.cons.injEq, Prod.mk.injEq, and_true] at this
  exact h this.1

theorem mirrorWrites_snoc (ws : List (Nat × Sector)) (a : Nat) (x : Sector) :
    mirrorWrites j (ws ++ [(a, x)]) =
      mirrorWrites j ws + if a = j.mirrorHeaderSector then 1 else 0 := by
  simp [mirrorWrites, List.countP_append, List.countP_cons]

theorem applyWrites_snoc (ws : List (Nat × Sector)) (d : Floppy) (a : Nat) (x : Sector) :
    applyWrites (ws ++ [(a, x)]) d = Function.update (applyWrites ws d) a x := by
  simp [applyWrites_append]

theorem loaded_congr {d e : Floppy} (hp : d j.primaryHeaderSector = e j.primaryHeaderSector)
    (hm : d j.mirrorHeaderSector = e j.mirrorHeaderSector) : loaded j d = loaded j e := by
  unfold loaded
  rw [hp, hm]

theorem undoStored_congr {d e : Floppy} {n : Nat} {u : UInt32 × Sector}
    (h : UndoStored j q d n u) (ho : e (j.oldSector n) = d (j.oldSector n))
    (hm : e (j.metadataSector n) = d (j.metadataSector n)) : UndoStored j q e n u := by
  unfold UndoStored
  rw [ho, hm]
  exact h

/-- A sector that is neither a header nor an undo sector in use. -/
structure Unused (j : Fat12Journal) (n a : Nat) : Prop where
  primary : a ≠ j.primaryHeaderSector
  mirror : a ≠ j.mirrorHeaderSector
  undo : ∀ i < n, a ≠ j.oldSector i ∧ a ≠ j.metadataSector i

theorem OpenAt.write (h : OpenAt j physical d₀ q us ws) (ha : Unused j us.length a)
    (hframe : j.Reserved a ∨ ∃ u ∈ us, a = physical u.1) :
    OpenAt j physical d₀ q us (ws ++ [(a, x)]) where
  loaded := by
    rw [applyWrites_snoc, ← h.loaded]
    exact loaded_congr (Function.update_of_ne ha.primary.symm _ _)
      (Function.update_of_ne ha.mirror.symm _ _)
  undo := by
    intro n u hn
    rw [applyWrites_snoc]
    have hun := ha.undo n (List.getElem?_eq_some_iff.mp hn).1
    exact undoStored_congr (h.undo n u hn) (Function.update_of_ne hun.1.symm _ _)
      (Function.update_of_ne hun.2.symm _ _)
  fits := h.fits
  outside := h.outside
  nogap := not_headerGap_snoc ha.primary
  published := by
    unfold ReistOs.published
    rw [mirrorWrites_snoc, if_neg ha.mirror]
    exact h.published
  old := h.old
  frame := by
    intro hid b hb hne
    rw [applyWrites_snoc, Function.update_of_ne ?_]
    · exact h.frame hid b hb hne
    · rintro rfl
      rcases hframe with hr | ⟨u, hu, rfl⟩
      · exact hb hr
      · exact hne u hu (hid u hu).symm

theorem unused_undo {n i : Nat} (hj : Formatted j) (hi : n ≤ i) :
    Unused j n (j.oldSector i) ∧ Unused j n (j.metadataSector i) := by
  have h1 := hj.primary_lt
  have h2 := hj.mirror_lt
  refine ⟨⟨?_, ?_, fun k hk => ?_⟩, ⟨?_, ?_, fun k hk => ?_⟩⟩ <;>
    simp only [oldSector, metadataSector] <;> omega

theorem unused_of_not_reserved {n : Nat} (hn : n ≤ fat12JournalMaxEntries) (ha : ¬ j.Reserved a) :
    Unused j n a := by
  simp only [Fat12Journal.Reserved, fat12JournalMaxEntries] at ha hn
  refine ⟨by omega, by omega, fun k hk => ?_⟩
  simp only [oldSector, metadataSector]
  omega

end Writes

section Running

variable (j : Fat12Journal) (physical : UInt32 → Nat) (d₀ : Floppy) (q : UInt64)

/-- The journal in memory while the transaction has recorded `us`. -/
def running (us : List (UInt32 × Sector)) (entries : Nat → Fat12JournalEntry) : Fat12Journal :=
  { j with header := activeHeader j q (UInt32.ofNat us.length), entries := entries }

/-- Between two journaled writes: both headers agree, and the journaled writes done so
far are what distinguishes the image from the initial one. -/
structure Running (us done : List (UInt32 × Sector)) (ws : List (Nat × Sector))
    (entries : Nat → Fat12JournalEntry) : Prop extends OpenAt j physical d₀ q us ws where
  primary : Fat12JournalHeader.decode (applyWrites ws d₀ j.primaryHeaderSector) =
    activeHeader j q (UInt32.ofNat us.length)
  mirror : Fat12JournalHeader.decode (applyWrites ws d₀ j.mirrorHeaderSector) =
    activeHeader j q (UInt32.ofNat us.length)
  nonempty : ws ≠ []
  mirrors : mirrorWrites j ws = us.length + 1
  content : ∀ a, ¬ j.Reserved a →
    applyWrites ws d₀ a = applyWrites (done.map fun p => (physical p.1, p.2)) d₀ a
  entries : ∀ n u, us[n]? = some u → (entries n).targetSector = u.1

end Running

theorem getElem_concat_cases {α : Type*} {xs : List α} {x y : α} {n : Nat}
    (h : (xs ++ [x])[n]? = some y) : xs[n]? = some y ∨ n = xs.length ∧ y = x := by
  by_cases hlt : n < xs.length
  · rw [List.getElem?_append_left hlt] at h
    exact Or.inl h
  · have hlen := (List.getElem?_eq_some_iff.mp h).1
    simp only [List.length_append, List.length_singleton] at hlen
    have hn : n = xs.length := by omega
    subst hn
    simp only [List.getElem?_append_right (Nat.le_refl _), Nat.sub_self, List.getElem?_cons_zero,
      Option.some.injEq] at h
    exact Or.inr ⟨rfl, h.symm⟩

variable {j : Fat12Journal} {physical : UInt32 → Nat} {d₀ : Floppy} {q : UInt64}
  {us done : List (UInt32 × Sector)} {ws : List (Nat × Sector)} {e : Nat → Fat12JournalEntry}
  {w : Fat12World} {t : UInt32} {x : Sector}

variable {n : Nat} {f : Fat12JournalHeader}

theorem ofNat_toNat_le (h : n ≤ fat12JournalMaxEntries) : (UInt32.ofNat n).toNat = n := by
  have h64 : n ≤ 64 := h
  exact UInt32.toNat_ofNat_of_lt' (Nat.lt_of_le_of_lt h64 (by decide))

theorem Running.write (h : Running j physical d₀ q us done ws e) (ht : t ∈ us.map Prod.fst)
    (hp : ¬ j.Reserved (physical t)) :
    Running j physical d₀ q us (done ++ [(t, x)]) (ws ++ [(physical t, x)]) e := by
  have hun := unused_of_not_reserved h.fits hp
  refine ⟨h.toOpenAt.write hun (Or.inr ?_), ?_, ?_, by simp, ?_, ?_, h.entries⟩
  · obtain ⟨u, hu, rfl⟩ := List.mem_map.mp ht
    exact ⟨u, hu, rfl⟩
  · rw [applyWrites_snoc, Function.update_of_ne hun.primary.symm]
    exact h.primary
  · rw [applyWrites_snoc, Function.update_of_ne hun.mirror.symm]
    exact h.mirror
  · rw [mirrorWrites_snoc, if_neg hun.mirror]
    exact h.mirrors
  · intro a ha
    rw [applyWrites_snoc, List.map_append, List.map_singleton, applyWrites_snoc]
    by_cases hat : a = physical t
    · rw [hat, Function.update_self, Function.update_self]
    · rw [Function.update_of_ne hat, Function.update_of_ne hat]
      exact h.content a ha

def headerPair (j : Fat12Journal) (f : Fat12JournalHeader) : List (Nat × Sector) :=
  [(j.primaryHeaderSector, f.encode), (j.mirrorHeaderSector, f.encode)]

theorem prefix_headerPair_cases {before : List (Nat × Sector)} (h : before <+: headerPair j f) :
    before = [] ∨ before = [(j.primaryHeaderSector, f.encode)] ∨
      before = headerPair j f := by
  rcases List.prefix_cons_iff.mp h with rfl | ⟨rest, rfl, hrest⟩
  · exact Or.inl rfl
  rcases List.prefix_cons_iff.mp hrest with rfl | ⟨last, rfl, hlast⟩
  · exact Or.inr (Or.inl rfl)
  · rw [List.prefix_nil.mp hlast]
    exact Or.inr (Or.inr rfl)

theorem headerPair_at (f : Fat12JournalHeader) (a : Nat) :
    applyWrites (ws ++ headerPair j f) d₀ a = if a = j.mirrorHeaderSector then f.encode
      else if a = j.primaryHeaderSector then f.encode else applyWrites ws d₀ a := by
  simp [headerPair, applyWrites_append, Function.update_apply]

theorem headerPair_outside (f : Fat12JournalHeader) {a : Nat} (hp : a ≠ j.primaryHeaderSector)
    (hm : a ≠ j.mirrorHeaderSector) : applyWrites (ws ++ headerPair j f) d₀ a = applyWrites ws d₀ a := by
  rw [headerPair_at, if_neg hm, if_neg hp]

theorem headerPair_headers (ws : List (Nat × Sector)) (d₀ : Floppy) (hj : Formatted j)
    (f : Fat12JournalHeader) :
    decode (applyWrites (ws ++ headerPair j f) d₀ j.primaryHeaderSector) = f ∧
    decode (applyWrites (ws ++ headerPair j f) d₀ j.mirrorHeaderSector) = f := by
  rw [headerPair_at, headerPair_at, if_neg hj.distinct, if_pos rfl, if_pos rfl]
  exact ⟨f.decode_encode, f.decode_encode⟩

theorem headerPair_loaded (ws : List (Nat × Sector)) (hj : Formatted j)
    (hv : headerValid f j.mediaFingerprint = true) :
    loaded j (applyWrites (ws ++ headerPair j f) d₀) = some f :=
  loaded_equal hv (headerPair_headers ws d₀ hj f).1 (headerPair_headers ws d₀ hj f).2

theorem headerPair_snoc (f : Fat12JournalHeader) : ws ++ headerPair j f =
    (ws ++ [(j.primaryHeaderSector, f.encode)]) ++ [(j.mirrorHeaderSector, f.encode)] := by
  simp [headerPair]

theorem headerPair_nogap (ws : List (Nat × Sector)) (hj : Formatted j) (f : Fat12JournalHeader) :
    ¬ HeaderGap j (ws ++ headerPair j f) := by
  rw [headerPair_snoc]
  exact not_headerGap_snoc hj.distinct.symm

theorem mirrorWrites_headerPair (ws : List (Nat × Sector)) (hj : Formatted j) (f : Fat12JournalHeader) :
    mirrorWrites j (ws ++ headerPair j f) = mirrorWrites j ws + 1 := by
  rw [headerPair_snoc, mirrorWrites_snoc, mirrorWrites_snoc, if_neg hj.distinct, if_pos rfl]

theorem torn_of_mirror (physical : UInt32 → Nat) (targets : List UInt32) (hj : Formatted j)
    (hne : ws ≠ []) {g : Fat12JournalHeader}
    (hm : decode (applyWrites ws d₀ j.mirrorHeaderSector) = g)
    (hf : headerValid f j.mediaFingerprint = true) (hg : headerValid g j.mediaFingerprint = true)
    (hq : f.sequence = g.sequence) (hfg : f ≠ g) :
    PointOf j physical d₀ q targets (ws ++ [(j.primaryHeaderSector, f.encode)]) := by
  refine .torn ⟨ws, f.encode, hne, rfl⟩ ?_
  rw [applyWrites_snoc]
  refine loaded_torn hf hg ?_ ?_ hq hfg
  · rw [Function.update_self, f.decode_encode]
  · rw [Function.update_of_ne hj.distinct.symm]
    exact hm

theorem OpenAt.publish (hj : Formatted j) (h : OpenAt j physical d₀ q us ws)
    (hroom : us.length < fat12JournalMaxEntries) (hmw : mirrorWrites j ws = us.length + 1)
    {u : UInt32 × Sector} (hu : UndoStored j q (applyWrites ws d₀) us.length u)
    (hout : ¬ j.Reserved u.1.toNat)
    (hold : (∀ v ∈ us, physical v.1 = v.1.toNat) → physical u.1 = u.1.toNat → u.2 = d₀ u.1.toNat) :
    OpenAt j physical d₀ q (us ++ [u])
      (ws ++ headerPair j (activeHeader j q (UInt32.ofNat (us.length + 1)))) where
  loaded := by
    rw [List.length_append, List.length_singleton]
    refine headerPair_loaded _ hj (activeHeader_valid ?_)
    rw [ofNat_toNat_le hroom]
    exact hroom
  undo := by
    intro n v hn
    obtain ⟨hv1, hv2⟩ := unused_undo (n := 0) (i := n) hj (Nat.zero_le n)
    refine undoStored_congr (d := applyWrites ws d₀) ?_
      (headerPair_outside _ hv1.primary hv1.mirror) (headerPair_outside _ hv2.primary hv2.mirror)
    rcases getElem_concat_cases hn with hn | ⟨rfl, rfl⟩
    · exact h.undo n v hn
    · exact hu
  fits := by
    rw [List.length_append]
    exact hroom
  outside := by
    intro v hv
    rcases List.mem_append.mp hv with hv | hv
    · exact h.outside v hv
    · rw [List.mem_singleton.mp hv]
      exact hout
  nogap := headerPair_nogap _ hj _
  published := by
    rw [ReistOs.published, mirrorWrites_headerPair _ hj, hmw]
    simp
  old := by
    intro hid v hv
    have hid' : ∀ v ∈ us, physical v.1 = v.1.toNat := fun v hv => hid v (List.mem_append_left _ hv)
    rcases List.mem_append.mp hv with hv | hv
    · exact h.old hid' v hv
    · rw [List.mem_singleton.mp hv]
      exact hold hid' (hid u (List.mem_append_right _ (by simp)))
  frame := by
    intro hid a ha hne
    rw [headerPair_outside _ (fun he => ha (Or.inl he)) fun he => ha (Or.inr (Or.inl he))]
    exact h.frame (fun v hv => hid v (List.mem_append_left _ hv)) a ha
      fun v hv => hne v (List.mem_append_left _ hv)

def recordWrites (j : Fat12Journal) (q : UInt64) (n : Nat) (t : UInt32) (old : Sector) :
    List (Nat × Sector) :=
  [(j.oldSector n, old), (j.metadataSector n, (newEntry t old q).encode)] ++
    headerPair j (activeHeader j q (UInt32.ofNat (n + 1)))

theorem activeHeader_injective {n k : UInt32} (h : activeHeader j q n = activeHeader j q k) : n = k :=
  congrArg entryCount h

theorem activeHeader_succ_ne (h : n < fat12JournalMaxEntries) :
    activeHeader j q (UInt32.ofNat (n + 1)) ≠ activeHeader j q (UInt32.ofNat n) := by
  intro he
  have := congrArg UInt32.toNat (activeHeader_injective he)
  rw [ofNat_toNat_le h, ofNat_toNat_le (Nat.le_of_lt h)] at this
  omega

/-- The image stays open until the primary header is written, has no loadable header until the
mirror follows, and then holds the new entry. -/
theorem Running.record (hj : Formatted j) (h : Running j physical d₀ q us done ws e)
    (hroom : us.length < fat12JournalMaxEntries) (hnew : t ∉ us.map Prod.fst)
    (ht : ¬ j.Reserved t.toNat) {old : Sector} (hold : old = applyWrites ws d₀ (physical t))
    (targets : List UInt32) (hts : us.map Prod.fst <+: targets) :
    Running j physical d₀ q (us ++ [(t, old)]) done (ws ++ recordWrites j q us.length t old)
        (Function.update e us.length (newEntry t old q)) ∧
      ∀ before, before <+: recordWrites j q us.length t old → before ≠ recordWrites j q us.length t old →
        PointOf j physical d₀ q targets (ws ++ before) := by
  obtain ⟨hu1, hu2⟩ := unused_undo hj (Nat.le_refl us.length)
  obtain ⟨hr1, hr2⟩ := mem_undo_reserved (j := j) hroom
  have hmet : j.oldSector us.length ≠ j.metadataSector us.length := by
    simp [oldSector, metadataSector]
  let ws1 := ws ++ [(j.oldSector us.length, old)]
  let ws2 := ws1 ++ [(j.metadataSector us.length, (newEntry t old q).encode)]
  have o1 : OpenAt j physical d₀ q us ws1 := h.toOpenAt.write hu1 (Or.inl hr1)
  have o2 : OpenAt j physical d₀ q us ws2 := o1.write hu2 (Or.inl hr2)
  have hd2 : ∀ a, a ≠ j.oldSector us.length → a ≠ j.metadataSector us.length →
      applyWrites ws2 d₀ a = applyWrites ws d₀ a := by
    intro a h1 h2
    rw [applyWrites_snoc, Function.update_of_ne h2, applyWrites_snoc, Function.update_of_ne h1]
  have hmw : mirrorWrites j ws2 = us.length + 1 := by
    rw [mirrorWrites_snoc, mirrorWrites_snoc, if_neg hu1.mirror, if_neg hu2.mirror]
    exact h.mirrors
  have hstored : UndoStored j q (applyWrites ws2 d₀) us.length (t, old) := by
    constructor
    · rw [applyWrites_snoc, Function.update_of_ne hmet, applyWrites_snoc, Function.update_self]
    · rw [applyWrites_snoc, Function.update_self]
      exact Fat12JournalEntry.decode_encode _
  have hopen := o2.publish hj hroom hmw (u := (t, old)) hstored ht fun hid hpt => by
    rw [hold, hpt]
    refine h.frame hid _ ht fun u hu he => hnew ?_
    exact List.mem_map.mpr ⟨u, hu, UInt32.toNat_inj.mp he⟩
  have htorn := torn_of_mirror (q := q) physical targets
    (f := activeHeader j q (UInt32.ofNat (us.length + 1))) hj (by simp [ws2])
    ((congrArg _ (hd2 _ hu1.mirror.symm hu2.mirror.symm)).trans h.mirror)
    (activeHeader_valid (by rw [ofNat_toNat_le hroom]; exact hroom))
    (activeHeader_valid (by rw [ofNat_toNat_le h.fits]; exact h.fits)) rfl (activeHeader_succ_ne hroom)
  have hsplit : ws ++ recordWrites j q us.length t old =
      ws2 ++ headerPair j (activeHeader j q (UInt32.ofNat (us.length + 1))) := by
    simp [recordWrites, ws2, ws1]
  refine ⟨?_, fun before hb hne => ?_⟩
  · rw [hsplit]
    obtain ⟨hh1, hh2⟩ := headerPair_headers ws2 d₀ hj
      (activeHeader j q (UInt32.ofNat (us.length + 1)))
    refine ⟨hopen, by simpa using hh1, by simpa using hh2, by simp [headerPair], ?_, fun a ha => ?_,
      fun n u hn => ?_⟩
    · rw [mirrorWrites_headerPair _ hj, hmw, List.length_append, List.length_singleton]
    · rw [headerPair_outside _ (fun he => ha (Or.inl he)) (fun he => ha (Or.inr (Or.inl he))),
        hd2 a (fun he => ha (he ▸ hr1)) (fun he => ha (he ▸ hr2))]
      exact h.content a ha
    · rcases getElem_concat_cases hn with hn | ⟨rfl, rfl⟩
      · have hlt := (List.getElem?_eq_some_iff.mp hn).1
        rw [Function.update_of_ne (by omega)]
        exact h.entries n u hn
      · rw [Function.update_self]
        rfl
  · have hcases : before = [] ∨ before = [(j.oldSector us.length, old)] ∨
        before = [(j.oldSector us.length, old), (j.metadataSector us.length, (newEntry t old q).encode)] ∨
        before = [(j.oldSector us.length, old), (j.metadataSector us.length, (newEntry t old q).encode),
          (j.primaryHeaderSector, (activeHeader j q (UInt32.ofNat (us.length + 1))).encode)] := by
      simp only [recordWrites, headerPair, List.cons_append, List.nil_append, List.prefix_cons_iff,
        List.prefix_nil] at hb hne
      grind
    rcases hcases with rfl | rfl | rfl | rfl
    · rw [List.append_nil]
      exact .opened us hts h.toOpenAt
    · exact .opened us hts o1
    · exact .opened us hts (by simpa [ws2, ws1] using o2)
    · simpa [ws2, ws1] using htorn

theorem record_known (hout : ¬ j.Reserved t.toNat)
    (hent : ∀ n u, us[n]? = some u → (e n).targetSector = u.1) (hfit : us.length ≤ fat12JournalMaxEntries)
    (ht : t ∈ us.map Prod.fst) (old : Sector) :
    fat12JournalRecord (running j q us e) t old w = (true, running j q us e, w) := by
  have hany : ((List.range (running j q us e).header.entryCount.toNat).any fun i =>
      ((running j q us e).entries i).targetSector == t) = true := by
    obtain ⟨u, hu, rfl⟩ := List.mem_map.mp ht
    obtain ⟨n, hn, rfl⟩ := List.mem_iff_getElem.mp hu
    refine List.any_eq_true.mpr ⟨n, List.mem_range.mpr ?_, ?_⟩
    · change n < (UInt32.ofNat us.length).toNat
      rw [ofNat_toNat_le hfit]
      exact hn
    · exact beq_iff_eq.mpr (hent n _ (List.getElem?_eq_getElem hn))
  unfold fat12JournalRecord
  rw [if_neg (fun h => h.elim (fun hs => hs rfl) hout), if_pos hany]

theorem record_new (hf : w.fates = []) (hr : w.readFates = []) (hout : ¬ j.Reserved t.toNat)
    (hent : ∀ n u, us[n]? = some u → (e n).targetSector = u.1)
    (hroom : us.length < fat12JournalMaxEntries) (ht : t ∉ us.map Prod.fst) (old : Sector) :
    (fat12JournalRecord (running j q us e) t old w).1 = true ∧
      (fat12JournalRecord (running j q us e) t old w).2.1 =
        running j q (us ++ [(t, old)]) (Function.update e us.length (newEntry t old q)) ∧
      w.Wrote (recordWrites j q us.length t old) (fat12JournalRecord (running j q us e) t old w).2.2 := by
  have hcount : (running j q us e).header.entryCount.toNat = us.length :=
    ofNat_toNat_le (Nat.le_of_lt hroom)
  have hany : ((List.range us.length).any fun i =>
      ((running j q us e).entries i).targetSector == t) = false := by
    rw [List.any_eq_false]
    intro n hn he
    have hlt := List.mem_range.mp hn
    refine ht (List.mem_map.mpr ⟨us[n], List.getElem_mem hlt, ?_⟩)
    rw [← hent n _ (List.getElem?_eq_getElem hlt)]
    exact beq_iff_eq.mp he
  have hsucc : (running j q us e).header.entryCount + 1 = UInt32.ofNat (us.length + 1) := by
    rw [UInt32.ofNat_add]
    rfl
  let entry := newEntry t old q
  let k : Fat12Journal := { j with
    header := activeHeader j q (UInt32.ofNat (us.length + 1))
    entries := Function.update e us.length entry }
  have hk : running j q (us ++ [(t, old)]) (Function.update e us.length entry) = k := by
    simp [k, running]
  obtain ⟨ok1, w1⟩ := storeUndo_healthy (j := running j q us e) hf hr us.length old entry
  obtain ⟨ok2, w2⟩ := writeHeader_healthy (j := k) (w1.fates.trans hf) (w1.readFates.trans hr)
  have heq : fat12JournalRecord (running j q us e) t old w =
      ((writeHeader k (storeUndo (running j q us e) us.length old entry w).2).1, k,
        (writeHeader k (storeUndo (running j q us e) us.length old entry w).2).2) := by
    unfold fat12JournalRecord
    rw [if_neg (fun h => h.elim (fun hs => hs rfl) hout), hcount, if_neg (by rw [hany]; simp),
      if_neg (Nat.not_le.mpr hroom)]
    unfold recordNew
    rw [hcount, hsucc]
    exact if_pos ok1
  rw [heq]
  exact ⟨ok2, hk.symm, w1.trans w2⟩

end ReistOs
