import ReistOs.Fat12RemapAdd

namespace ReistOs.Remap

open LittleEndian Fat12RemapEntry

section Tables

variable {entries entries' : Nat → Fat12RemapEntry} {fingerprint : UInt32} {k n i : Nat}

def sealed (fingerprint : UInt32) (entries : Nat → Fat12RemapEntry) (k : Nat) : Fat12RemapHeader :=
  let header := prepareRemapHeader fingerprint (UInt64.ofNat (k + 1)) (UInt32.ofNat k)
  { header with crc32 := tableCrc header entries }

def first (entries : Nat → Fat12RemapEntry) (k : Nat) : List Fat12RemapEntry :=
  (List.range k).map entries

/-- Entries as they are added: numbered in a row, and no sector in two of them. -/
structure Good (entries : Nat → Fat12RemapEntry) (k : Nat) : Prop where
  le : k ≤ fat12RemapMaxEntries
  proper : ∀ i < k, (entries i).badSector ≠ 0 ∧ (entries i).replacementSector ≠ 0 ∧
    (entries i).badSector ≠ (entries i).replacementSector ∧
    (entries i).sequence = UInt64.ofNat (i + 2)
  apart : ∀ i < k, ∀ j < i,
    meets (entries j) (entries i).badSector (entries i).replacementSector = false

theorem entryCount_sealed (hk : k ≤ fat12RemapMaxEntries) :
    (sealed fingerprint entries k).entryCount.toNat = k := by
  unfold fat12RemapMaxEntries at hk
  show (UInt32.ofNat k).toNat = k
  rw [UInt32.toNat_ofNat']
  omega

variable {h : Fat12RemapHeader} {e : Fat12RemapEntry} {o : Nat}

theorem tableCrc_congr (hsame : ∀ i < h.entryCount.toNat, entries i = entries' i) :
    tableCrc h entries = tableCrc h entries' := by
  have hlist : ((List.range h.entryCount.toNat).flatMap fun i => slice (entries i).encode 0 16) =
      (List.range h.entryCount.toNat).flatMap fun i => slice (entries' i).encode 0 16 :=
    List.flatMap_congr fun i hi => by rw [hsame i (List.mem_range.mp hi)]
  unfold tableCrc
  rw [hlist]

theorem sealed_congr (hk : k ≤ fat12RemapMaxEntries) (hsame : ∀ i < k, entries i = entries' i) :
    sealed fingerprint entries k = sealed fingerprint entries' k := by
  have hcrc : tableCrc (prepareRemapHeader fingerprint (UInt64.ofNat (k + 1)) (UInt32.ofNat k))
      entries = tableCrc (prepareRemapHeader fingerprint (UInt64.ofNat (k + 1)) (UInt32.ofNat k))
        entries' := by
    apply tableCrc_congr
    intro i hi
    apply hsame
    rw [← @entryCount_sealed entries fingerprint k hk]
    exact hi
  simp only [sealed, hcrc]

theorem all_range_congr {f g : Nat → Bool} (h : ∀ i < n, f i = g i) :
    (List.range n).all f = (List.range n).all g := by
  rw [Bool.eq_iff_iff, List.all_eq_true, List.all_eq_true]
  refine forall₂_congr fun i hi => ?_
  rw [h i (List.mem_range.mp hi)]

theorem entriesValid_congr (hsame : ∀ i < h.entryCount.toNat, entries i = entries' i) :
    entriesValid entries h = entriesValid entries' h := by
  unfold entriesValid
  rw [tableCrc_congr hsame]
  congr 1
  refine all_range_congr fun i hi => ?_
  rw [hsame i hi]
  congr 1
  refine all_range_congr fun j hj => ?_
  rw [hsame j (by omega)]

theorem tableCrc_sealed (entries' : Nat → Fat12RemapEntry) :
    tableCrc (sealed fingerprint entries k) entries' = (sealed fingerprint entries' k).crc32 := rfl

theorem first_congr (hsame : ∀ i < k, entries i = entries' i) : first entries k = first entries' k :=
  List.map_congr_left fun i hi => hsame i (List.mem_range.mp hi)

theorem Good.congr (hg : Good entries k) (hsame : ∀ i < k, entries i = entries' i) :
    Good entries' k := by
  refine ⟨hg.le, fun i hi => ?_, fun i hi j hj => ?_⟩
  · rw [← hsame i hi]
    exact hg.proper i hi
  · rw [← hsame i hi, ← hsame j (by omega)]
    exact hg.apart i hi j hj

theorem meets_eq_false {badSector replacementSector : UInt32} :
    meets e badSector replacementSector = false ↔
      e.badSector ≠ badSector ∧ e.replacementSector ≠ replacementSector ∧
        e.badSector ≠ replacementSector ∧ e.replacementSector ≠ badSector := by
  simp [meets, and_assoc]

theorem Good.valid (hg : Good entries k) :
    entriesValid entries (sealed fingerprint entries k) = true := by
  have hle := hg.le
  unfold fat12RemapMaxEntries at hle
  unfold entriesValid
  rw [entryCount_sealed hg.le, tableCrc_sealed]
  simp only [Bool.and_eq_true, List.all_eq_true, List.mem_range, bne_iff_ne, ne_eq,
    decide_eq_true_eq, beq_iff_eq, and_true]
  intro i hi
  obtain ⟨hbad, hreplacement, hne, hsequence⟩ := hg.proper i hi
  have hcount : (sealed fingerprint entries k).sequence = UInt64.ofNat (k + 1) := rfl
  rw [hsequence, hcount, UInt64.le_iff_toNat_le, ← UInt64.toNat_inj, UInt64.toNat_ofNat',
    UInt64.toNat_ofNat']
  have hzero : (0 : UInt64).toNat = 0 := rfl
  refine ⟨⟨⟨⟨⟨hbad, hreplacement⟩, hne⟩, by omega⟩, by omega⟩, fun j hj => ?_⟩
  obtain ⟨h1, h2, h3, h4⟩ := meets_eq_false.mp (hg.apart i hi j hj)
  exact ⟨⟨⟨h1, h2⟩, h3⟩, h4⟩

theorem sealed_of_valid (h : entriesValid entries' (sealed fingerprint entries k) = true) :
    sealed fingerprint entries k = sealed fingerprint entries' k := by
  unfold entriesValid at h
  rw [Bool.and_eq_true, beq_iff_eq, tableCrc_sealed] at h
  have hcrc := h.2
  unfold sealed at hcrc ⊢
  simp only at hcrc ⊢
  rw [hcrc]

theorem bad_of_valid (hk : k ≤ fat12RemapMaxEntries)
    (h : entriesValid entries' (sealed fingerprint entries k) = true) (hi : i < k) :
    (entries' i).badSector ≠ 0 := by
  unfold entriesValid at h
  rw [Bool.and_eq_true, entryCount_sealed hk, List.all_eq_true] at h
  have hbad := h.1 i (List.mem_range.mpr hi)
  simp only [Bool.and_eq_true, bne_iff_ne, ne_eq] at hbad
  exact hbad.1.1.1.1.1

theorem shape_sealed (hk : k ≤ fat12RemapMaxEntries) :
    headerShapeValid fingerprint (sealed fingerprint entries k) = true := by
  have hcount := @entryCount_sealed entries fingerprint k hk
  simp only [headerShapeValid, hcount]
  simp [sealed, prepareRemapHeader, hk]

theorem Good.unmixed (hg : Good entries k) : Unmixed (first entries k) := by
  unfold Unmixed first
  rw [List.pairwise_map]
  refine List.Pairwise.imp_of_mem ?_ List.pairwise_lt_range
  intro i j _ hj hij
  exact hg.apart j (List.mem_range.mp hj) i hij

theorem first_succ (entries : Nat → Fat12RemapEntry) (k : Nat) :
    first entries (k + 1) = first entries k ++ [entries k] := by
  unfold first
  rw [List.range_succ, List.map_append]
  rfl

theorem Good.enter (hg : Good entries k) (hk : k < fat12RemapMaxEntries)
    (hproper : e.badSector ≠ 0 ∧ e.replacementSector ≠ 0 ∧ e.badSector ≠ e.replacementSector)
    (hsequence : e.sequence = UInt64.ofNat (k + 2))
    (hfree : ∀ i < k, meets (entries i) e.badSector e.replacementSector = false) :
    Good (Function.update entries k e) (k + 1) := by
  have hold : ∀ i < k, Function.update entries k e i = entries i :=
    fun i hi => Function.update_of_ne (by omega) _ _
  refine ⟨hk, fun i hi => ?_, fun i hi j hj => ?_⟩
  · rcases Nat.lt_succ_iff_lt_or_eq.mp hi with hlt | rfl
    · rw [hold i hlt]
      exact hg.proper i hlt
    · rw [Function.update_self]
      exact ⟨hproper.1, hproper.2.1, hproper.2.2, hsequence⟩
  · rcases Nat.lt_succ_iff_lt_or_eq.mp hi with hlt | rfl
    · rw [hold i hlt, hold j (by omega)]
      exact hg.apart i hlt j hj
    · rw [Function.update_self, hold j hj]
      exact hfree j hj

theorem decode_putEntry (s : Sector) (e : Fat12RemapEntry) (ho : 16 * o + 16 ≤ 512) :
    decode (putEntry s (16 * o) e) o = e := by
  unfold decode putEntry get32 get64 put32 put64
  simp (disch := omega) only [get_put_of_disjoint, get_put, ofNat32_mod, ofNat64_mod]

theorem decode_putEntry_ne (s : Sector) (e : Fat12RemapEntry) (hi : i ≠ o) :
    decode (putEntry s (16 * o) e) i = decode s i := by
  unfold decode putEntry get32 get64 put32 put64
  have hapart : 16 * i + 16 ≤ 16 * o ∨ 16 * o + 16 ≤ 16 * i := by omega
  simp (disch := omega) only [get_put_of_disjoint]

theorem decode_zero (i : Nat) : decode zero i = emptyRemapEntry := by
  unfold decode
  rw [get32_zero, get32_zero, get64_zero]
  rfl

theorem decode_encodeEntries (entries : Nat → Fat12RemapEntry) (hn : n ≤ fat12RemapMaxEntries) :
    decode (encodeEntries entries n) i =
      if i < n then entries i else emptyRemapEntry := by
  unfold fat12RemapMaxEntries at hn
  induction n with
  | zero => exact decode_zero i
  | succ n ih =>
    unfold encodeEntries
    by_cases hi : i = n
    · subst hi
      rw [decode_putEntry _ _ (by omega), if_pos (by omega)]
    · rw [decode_putEntry_ne _ _ hi, ih (by omega)]
      by_cases hlt : i < n
      · rw [if_pos hlt, if_pos (by omega)]
      · rw [if_neg hlt, if_neg (by omega)]

end Tables

section Media

variable {t₀ t : Fat12RemapTable} {disk : Floppy} {calls : List RemapCall} {call : RemapCall}
  {l : List Fat12RemapEntry} {k kM kP : Nat}

theorem Reaches.snoc (h : Reaches calls l) (hcall : call.reported = false) :
    Reaches (calls ++ [call]) l := by
  rcases h with ⟨hnil, hnone⟩ | ⟨done, last, rest, rfl, hrest, hl⟩
  · left
    refine ⟨hnil, fun c hc => ?_⟩
    rcases List.mem_append.mp hc with hc | hc
    · exact hnone c hc
    · rw [List.mem_singleton.mp hc]
      exact hcall
  · right
    refine ⟨done, last, rest ++ [call], by simp, fun c hc => ?_, hl⟩
    rcases List.mem_append.mp hc with hc | hc
    · exact hrest c hc
    · rw [List.mem_singleton.mp hc]
      exact hcall

theorem reaches_new (hl : l = call.before ++ [call.entry]) : Reaches (calls ++ [call]) l :=
  .inr ⟨calls, call, [], rfl, by simp, .inl hl⟩

/-- The table sectors of the formatted table, three different ones. -/
structure Placed (t₀ : Fat12RemapTable) : Prop where
  fingerprint : t₀.mediaFingerprint ≠ 0
  headers : t₀.primarySector ≠ t₀.mirrorSector
  primary : t₀.primarySector ≠ t₀.tableSector
  mirror : t₀.mirrorSector ≠ t₀.tableSector

abbrev onDisk (t₀ : Fat12RemapTable) (disk : Floppy) : Nat → Fat12RemapEntry :=
  Fat12RemapEntry.decode (disk t₀.tableSector)

/-- The mirror seals the first entries, and the primary, when it fits them, no fewer. Both are
tables that the calls have reached. -/
structure Stored (t₀ : Fat12RemapTable) (disk : Floppy) (calls : List RemapCall) (kM kP : Nat) :
    Prop where
  mirror : Fat12RemapHeader.decode (disk t₀.mirrorSector) =
    sealed t₀.mediaFingerprint (onDisk t₀ disk) kM
  good : Good (onDisk t₀ disk) kM
  reached : Reaches calls (first (onDisk t₀ disk) kM)
  le : kM ≤ kP
  bound : kP ≤ fat12RemapMaxEntries
  primary : ∃ entries, Fat12RemapHeader.decode (disk t₀.primarySector) =
      sealed t₀.mediaFingerprint entries kP ∧
    (entriesValid (onDisk t₀ disk) (sealed t₀.mediaFingerprint entries kP) = true →
      Good (onDisk t₀ disk) kP ∧ Reaches calls (first (onDisk t₀ disk) kP))

/-- The table in memory beside the medium. -/
structure Mounted (t₀ : Fat12RemapTable) (disk : Floppy) (calls : List RemapCall) (kM kP : Nat)
    (t : Fat12RemapTable) (k : Nat) : Prop where
  header : t.header = sealed t₀.mediaFingerprint t.entries k
  same : t = { t₀ with header := t.header, entries := t.entries }
  good : Good t.entries k
  agrees : ∀ i < k, onDisk t₀ disk i = t.entries i
  reached : Reaches calls (first t.entries k)
  ge : kM ≤ k
  le : k ≤ kP

theorem Mounted.used (h : Mounted t₀ disk calls kM kP t k) : t.used = first t.entries k := by
  unfold Fat12RemapTable.used
  rw [h.header, entryCount_sealed h.good.le]
  rfl

theorem Stored.snoc (h : Stored t₀ disk calls kM kP) (hcall : call.reported = false) :
    Stored t₀ disk (calls ++ [call]) kM kP := by
  obtain ⟨entries, hprimary, hvalid⟩ := h.primary
  exact ⟨h.mirror, h.good, h.reached.snoc hcall, h.le, h.bound, entries, hprimary,
    fun hv => ⟨(hvalid hv).1, (hvalid hv).2.snoc hcall⟩⟩

theorem Stored.load (h : Stored t₀ disk calls kM kP) :
    ∃ t k, loadedRemap t₀ disk = (true, t) ∧ Mounted t₀ disk calls kM kP t k ∧
      (∀ i, k ≤ i → t.entries i = emptyRemapEntry) := by
  obtain ⟨entries, hprimary, hvalid⟩ := h.primary
  have hkM := h.good.le
  have hshapedP : shapedHeader t₀ (some (disk t₀.primarySector)) =
      some (sealed t₀.mediaFingerprint entries kP) := by
    unfold shapedHeader
    rw [Option.map_some, hprimary, Option.filter_some, if_pos (shape_sealed h.bound)]
  have hshapedM : shapedHeader t₀ (some (disk t₀.mirrorSector)) =
      some (sealed t₀.mediaFingerprint (onDisk t₀ disk) kM) := by
    unfold shapedHeader
    rw [Option.map_some, h.mirror, Option.filter_some, if_pos (shape_sealed hkM)]
  -- an empty table is taken from an empty sector, which is as good as the one on the medium
  obtain ⟨sector, hsector, hsame⟩ : ∃ sector : Sector,
      (if maximumCount (some (sealed t₀.mediaFingerprint entries kP))
          (some (sealed t₀.mediaFingerprint (onDisk t₀ disk) kM)) = 0 then zero
        else disk t₀.tableSector) = sector ∧
      ∀ i < kP, decode sector i = onDisk t₀ disk i := by
    refine ⟨_, rfl, fun i hi => ?_⟩
    rw [if_neg]
    unfold maximumCount
    rw [Option.elim_some, Option.elim_some, entryCount_sealed h.bound, entryCount_sealed hkM]
    omega
  have hfitP : entriesValid (decode sector) (sealed t₀.mediaFingerprint entries kP) =
      entriesValid (onDisk t₀ disk) (sealed t₀.mediaFingerprint entries kP) :=
    entriesValid_congr fun i hi => hsame i (by rwa [entryCount_sealed h.bound] at hi)
  have hfitM : entriesValid (decode sector)
      (sealed t₀.mediaFingerprint (onDisk t₀ disk) kM) = true := by
    have hcount := @entryCount_sealed (onDisk t₀ disk) t₀.mediaFingerprint kM hkM
    rw [@entriesValid_congr _ (onDisk t₀ disk) _
      fun i hi => hsame i (by rw [hcount] at hi; have := h.le; omega)]
    exact h.good.valid
  have hloaded : loadedRemap t₀ disk = adoptRemap t₀ (some (sealed t₀.mediaFingerprint entries kP))
      (some (sealed t₀.mediaFingerprint (onDisk t₀ disk) kM)) sector := by
    unfold loadedRemap
    simp only [hshapedP, hshapedM, reduceCtorEq, and_self, if_false, hsector]
  have htake : ∀ k ≤ kP, k ≤ fat12RemapMaxEntries → Good (onDisk t₀ disk) k →
      Reaches calls (first (onDisk t₀ disk) k) → kM ≤ k →
      let header := sealed t₀.mediaFingerprint (onDisk t₀ disk) k
      let kept := fun i => if i < header.entryCount.toNat then decode sector i
        else emptyRemapEntry
      Mounted t₀ disk calls kM kP { t₀ with header := header, entries := kept } k ∧
        ∀ i, k ≤ i → kept i = emptyRemapEntry := by
    intro k hk hmax hgood hreached hge header kept
    have hcount : header.entryCount.toNat = k := entryCount_sealed hmax
    have hkept : ∀ i < k, onDisk t₀ disk i = kept i := by
      intro i hi
      simp only [kept, hcount]
      rw [if_pos hi, hsame i (by omega)]
    refine ⟨⟨sealed_congr hmax hkept, rfl, hgood.congr hkept, hkept, ?_, hge, hk⟩, fun i hi => ?_⟩
    · rw [← first_congr hkept]
      exact hreached
    · simp only [kept, hcount]
      rw [if_neg (by omega)]
  cases hfit : entriesValid (onDisk t₀ disk) (sealed t₀.mediaFingerprint entries kP) with
  | true =>
    obtain ⟨hgood, hreached⟩ := hvalid hfit
    have hseal := sealed_of_valid hfit
    obtain ⟨hmounted, hempty⟩ := htake kP le_rfl h.bound hgood hreached h.le
    refine ⟨_, kP, ?_, hmounted, hempty⟩
    have hselect : selectRemapHeader (some (sealed t₀.mediaFingerprint (onDisk t₀ disk) kP))
        (some (sealed t₀.mediaFingerprint (onDisk t₀ disk) kM)) =
        some (sealed t₀.mediaFingerprint (onDisk t₀ disk) kP) := by
      have hsequence : ∀ k ≤ fat12RemapMaxEntries,
          (sealed t₀.mediaFingerprint (onDisk t₀ disk) k).sequence.toNat = k + 1 := by
        intro k hk
        unfold fat12RemapMaxEntries at hk
        show (UInt64.ofNat (k + 1)).toNat = k + 1
        rw [UInt64.toNat_ofNat']
        omega
      unfold selectRemapHeader
      simp only
      rw [if_neg, if_pos]
      · rw [UInt64.le_iff_toNat_le, hsequence kM hkM, hsequence kP h.bound]
        have := h.le
        omega
      · rintro ⟨hsame, hne⟩
        have hk := congrArg UInt64.toNat hsame
        rw [hsequence kM hkM, hsequence kP h.bound] at hk
        obtain rfl : kP = kM := by omega
        exact hne rfl
    have hfit' := hfitP.trans hfit
    rw [hseal] at hfit' hloaded
    rw [hloaded]
    unfold adoptRemap
    simp only [Option.filter_some, hfit', hfitM, if_true, hselect]
  | false =>
    obtain ⟨hmounted, hempty⟩ := htake kM h.le hkM h.good h.reached le_rfl
    refine ⟨_, kM, ?_, hmounted, hempty⟩
    rw [hloaded]
    unfold adoptRemap
    simp only [Option.filter_some, hfitP, hfit, hfitM, if_true, Bool.false_eq_true, if_false,
      selectRemapHeader]

theorem Stored.table (hp : Placed t₀) (hs : Stored t₀ disk calls kM kP)
    (hm : Mounted t₀ disk calls kM kP t k) {entry : Fat12RemapEntry}
    (hgood : Good (Function.update t.entries k entry) (k + 1))
    (hcall : call.reported = false) (hbefore : call.before = first t.entries k)
    (hentry : call.entry = entry) :
    Stored t₀ (Function.update disk t₀.tableSector
      (encodeEntries (Function.update t.entries k entry) (k + 1))) (calls ++ [call]) kM kP := by
  obtain ⟨entries, hprimary, hvalid⟩ := hs.primary
  have hmax : k + 1 ≤ fat12RemapMaxEntries := hgood.le
  have hold : ∀ i < k, Function.update t.entries k entry i = t.entries i :=
    fun i hi => Function.update_of_ne (by omega) _ _
  have hdisk : ∀ i, onDisk t₀ (Function.update disk t₀.tableSector
      (encodeEntries (Function.update t.entries k entry) (k + 1))) i =
      if i < k + 1 then Function.update t.entries k entry i else emptyRemapEntry := by
    intro i
    unfold onDisk
    rw [Function.update_self]
    exact decode_encodeEntries _ hmax
  have hnew : ∀ i < k + 1, Function.update t.entries k entry i =
      onDisk t₀ (Function.update disk t₀.tableSector
        (encodeEntries (Function.update t.entries k entry) (k + 1))) i := by
    intro i hi
    rw [hdisk, if_pos hi]
  have hsame : ∀ i < k, onDisk t₀ disk i = onDisk t₀ (Function.update disk t₀.tableSector
      (encodeEntries (Function.update t.entries k entry) (k + 1))) i := by
    intro i hi
    rw [← hnew i (by omega), hold i hi]
    exact hm.agrees i hi
  have hge := hm.ge
  have hmirror : ∀ i < kM, onDisk t₀ disk i = onDisk t₀ (Function.update disk t₀.tableSector
      (encodeEntries (Function.update t.entries k entry) (k + 1))) i :=
    fun i hi => hsame i (by omega)
  refine ⟨?_, hs.good.congr hmirror, ?_, hs.le, hs.bound, entries, ?_, fun hv => ?_⟩
  · rw [Function.update_of_ne hp.mirror, hs.mirror]
    exact sealed_congr hs.good.le hmirror
  · rw [← first_congr hmirror]
    exact hs.reached.snoc hcall
  · rw [Function.update_of_ne hp.primary]
    exact hprimary
  · have hle : kP ≤ k + 1 := by
      by_contra hgt
      refine bad_of_valid hs.bound hv (i := k + 1) (by omega) ?_
      rw [hdisk, if_neg (by omega)]
      rfl
    rcases Nat.lt_or_ge k kP with hlt | hge'
    · obtain rfl : kP = k + 1 := by omega
      refine ⟨hgood.congr hnew, reaches_new ?_⟩
      rw [← first_congr hnew, first_succ, Function.update_self, hbefore, hentry, first_congr hold]
    · obtain rfl : kP = k := Nat.le_antisymm hge' hm.le
      have hagrees : ∀ i < kP, t.entries i = onDisk t₀ (Function.update disk t₀.tableSector
          (encodeEntries (Function.update t.entries kP entry) (kP + 1))) i :=
        fun i hi => (hm.agrees i hi).symm.trans (hsame i hi)
      refine ⟨hm.good.congr hagrees, ?_⟩
      rw [← first_congr hagrees]
      exact hm.reached.snoc hcall

theorem Stored.writePrimary (hp : Placed t₀) (hs : Stored t₀ disk calls kM kP) (hle : kM ≤ k)
    (hgood : Good (onDisk t₀ disk) k) (hreached : Reaches calls (first (onDisk t₀ disk) k)) :
    Stored t₀ (Function.update disk t₀.primarySector
      (sealed t₀.mediaFingerprint (onDisk t₀ disk) k).encode) calls kM k := by
  have hdisk : onDisk t₀ (Function.update disk t₀.primarySector
      (sealed t₀.mediaFingerprint (onDisk t₀ disk) k).encode) = onDisk t₀ disk := by
    unfold onDisk
    rw [Function.update_of_ne hp.primary.symm]
  have hmirror := hs.mirror
  refine ⟨?_, ?_, ?_, hle, hgood.le, onDisk t₀ disk, ?_, fun _ => ?_⟩
  · rw [hdisk, Function.update_of_ne hp.headers.symm]
    exact hmirror
  · rw [hdisk]
    exact hs.good
  · rw [hdisk]
    exact hs.reached
  · rw [Function.update_self, Fat12RemapHeader.decode_encode]
  · rw [hdisk]
    exact ⟨hgood, hreached⟩

theorem stored_mirror (hp : Placed t₀)
    (hgood : Good (onDisk t₀ disk) kP)
    (hprimary : Fat12RemapHeader.decode (disk t₀.primarySector) =
      sealed t₀.mediaFingerprint (onDisk t₀ disk) kP) {calls' : List RemapCall}
    (hreached : Reaches calls' (first (onDisk t₀ disk) kP)) :
    Stored t₀ (Function.update disk t₀.mirrorSector
      (sealed t₀.mediaFingerprint (onDisk t₀ disk) kP).encode) calls' kP kP := by
  have hdisk : onDisk t₀ (Function.update disk t₀.mirrorSector
      (sealed t₀.mediaFingerprint (onDisk t₀ disk) kP).encode) = onDisk t₀ disk := by
    unfold onDisk
    rw [Function.update_of_ne hp.mirror.symm]
  refine ⟨?_, ?_, ?_, le_rfl, hgood.le, onDisk t₀ disk, ?_, fun _ => ?_⟩
  · rw [hdisk, Function.update_self, Fat12RemapHeader.decode_encode]
  · rw [hdisk]
    exact hgood
  · rw [hdisk]
    exact hreached
  · rw [Function.update_of_ne hp.headers]
    exact hprimary
  · rw [hdisk]
    exact ⟨hgood, hreached⟩

theorem Mounted.keep (hm : Mounted t₀ disk calls kM kP t k) {disk' : Floppy} {kM' kP' : Nat}
    {entries : Nat → Fat12RemapEntry} (hentries : ∀ i < k, t.entries i = entries i)
    (hdisk : ∀ i < k, onDisk t₀ disk' i = t.entries i) (hge : kM' ≤ k) (hle : k ≤ kP')
    (hcall : call.reported = false) :
    Mounted t₀ disk' (calls ++ [call]) kM' kP' { t with entries := entries } k := by
  refine ⟨?_, ?_, hm.good.congr hentries, fun i hi => (hdisk i hi).trans (hentries i hi), ?_, hge,
    hle⟩
  · exact hm.header.trans (sealed_congr hm.good.le hentries)
  · rw [hm.same]
  · show Reaches _ (first entries k)
    rw [← first_congr hentries]
    exact hm.reached.snoc hcall

theorem Mounted.prepares (hm : Mounted t₀ disk calls kM kP t k) :
    t.header.sequence + 1 = UInt64.ofNat (k + 2) ∧
      t.header.entryCount + 1 = UInt32.ofNat (k + 1) ∧ t.header.entryCount.toNat = k := by
  rw [hm.header]
  refine ⟨?_, ?_, entryCount_sealed hm.good.le⟩
  · show UInt64.ofNat (k + 1) + 1 = UInt64.ofNat (k + 2)
    rw [← UInt64.toNat_inj]
    simp
  · show UInt32.ofNat k + 1 = UInt32.ofNat (k + 1)
    rw [← UInt32.toNat_inj]
    simp

variable {fates : AddFates} {badSector replacementSector : UInt32}

theorem add_keeps (hp : Placed t₀) (hs : Stored t₀ disk calls kM kP)
    (hm : Mounted t₀ disk calls kM kP t k) (badSector replacementSector : UInt32)
    (hmirror : fates.mirror ≠ .fails true) :
    let out := fat12RemapAdd t badSector replacementSector fates disk
    let calls' := calls ++ [⟨t.used, ⟨badSector, replacementSector, t.header.sequence + 1⟩,
      out.1 == some true⟩]
    ∃ kM' kP', Stored t₀ out.2.2 calls' kM' kP' ∧
      (out.1.isSome → ∃ k', Mounted t₀ out.2.2 calls' kM' kP' out.2.1 k') := by
  obtain ⟨header, entries, rfl⟩ : ∃ header entries,
      t = { t₀ with header := header, entries := entries } := ⟨_, _, hm.same⟩
  obtain ⟨hsequence, hcount, hindex⟩ := hm.prepares
  have hused := hm.used
  unfold fat12RemapAdd
  simp only [hsequence, hcount, hindex, hused]
  split
  next =>
    exact ⟨kM, kP, hs.snoc rfl, fun _ => ⟨k, hm.keep (fun _ _ => rfl) hm.agrees hm.ge hm.le rfl⟩⟩
  next hargs =>
    push Not at hargs
    obtain ⟨hbad, hreplacement, hne, hroom, hfree⟩ := hargs
    have hgood : Good (Function.update entries k
        ⟨badSector, replacementSector, UInt64.ofNat (k + 2)⟩) (k + 1) := by
      refine hm.good.enter hroom ⟨hbad, hreplacement, hne⟩ rfl fun i hi => ?_
      rw [Ne, Bool.not_eq_true, List.any_eq_false] at hfree
      exact Bool.eq_false_of_not_eq_true (hfree _ (List.mem_map_of_mem (List.mem_range.mpr hi)))
    generalize hentry : (⟨badSector, replacementSector, UInt64.ofNat (k + 2)⟩ : Fat12RemapEntry) =
      entry at hgood ⊢
    have hold : ∀ i < k, entries i = Function.update entries k entry i :=
      fun i hi => (Function.update_of_ne (by omega) _ _).symm
    -- the table sector with the new entry, and then the two headers over it
    have hwritten : ∀ i < k, onDisk t₀ (Function.update disk t₀.tableSector
        (encodeEntries (Function.update entries k entry) (k + 1))) i = entries i := by
      intro i hi
      unfold onDisk
      rw [Function.update_self, decode_encodeEntries _ hgood.le, if_pos (by omega), ← hold i hi]
    have hnew : ∀ i < k + 1, Function.update entries k entry i =
        onDisk t₀ (Function.update disk t₀.tableSector
          (encodeEntries (Function.update entries k entry) (k + 1))) i := by
      intro i hi
      unfold onDisk
      rw [Function.update_self, decode_encodeEntries _ hgood.le, if_pos hi]
    have htable := @Stored.table _ _ _ _ ⟨first entries k, entry, false⟩ _ _ _ hp hs hm _ hgood rfl rfl
      rfl
    generalize hdisk1 : Function.update disk t₀.tableSector
      (encodeEntries (Function.update entries k entry) (k + 1)) = disk1 at hwritten hnew htable
    have hreached : ∀ reported, Reaches (calls ++ [⟨first entries k, entry, reported⟩])
        (first (onDisk t₀ disk1) (k + 1)) := by
      intro reported
      refine reaches_new ?_
      rw [← first_congr hnew, first_succ, Function.update_self, first_congr hold]
    have hseal : sealed t₀.mediaFingerprint (Function.update entries k entry) (k + 1) =
        sealed t₀.mediaFingerprint (onDisk t₀ disk1) (k + 1) := sealed_congr hgood.le hnew
    have hgood' := hgood.congr hnew
    have hprimary := htable.writePrimary hp (Nat.le_succ_of_le hm.ge) hgood' (hreached false)
    have hheader : ∀ entries : Nat → Fat12RemapEntry,
        { prepareRemapHeader t₀.mediaFingerprint (UInt64.ofNat (k + 2)) (UInt32.ofNat (k + 1)) with
          crc32 := tableCrc (prepareRemapHeader t₀.mediaFingerprint (UInt64.ofNat (k + 2))
            (UInt32.ofNat (k + 1))) entries } = sealed t₀.mediaFingerprint entries (k + 1) :=
      fun _ => rfl
    have hkeepTable : ∀ reached : Bool,
        let disk' := if reached then disk1 else disk
        Stored t₀ disk' (calls ++ [⟨first entries k, entry, false⟩]) kM kP ∧
          Mounted t₀ disk' (calls ++ [⟨first entries k, entry, false⟩]) kM kP
            { t₀ with header := header, entries := Function.update entries k entry } k := by
      intro reached
      cases reached with
      | true => exact ⟨htable, hm.keep hold hwritten hm.ge hm.le rfl⟩
      | false => exact ⟨hs.snoc rfl, hm.keep hold hm.agrees hm.ge hm.le rfl⟩
    have hback : ∀ i < k, entries i =
        Function.update (Function.update entries k entry) k emptyRemapEntry i := by
      intro i hi
      rw [Function.update_of_ne (by omega)]
      exact hold i hi
    cases htold : fates.table with
    | fails reached =>
      obtain ⟨hstored, hmounted⟩ := hkeepTable reached
      simp only [writeVerified, hdisk1]
      exact ⟨kM, kP, hstored, fun _ => ⟨k, hmounted⟩⟩
    | stops reached =>
      simp only [writeVerified, hdisk1]
      exact ⟨kM, kP, (hkeepTable reached).1, nofun⟩
    | done =>
      simp only [writeVerified, hdisk1, writeHeaders, hheader, hseal]
      have hsame : onDisk t₀ (Function.update disk1 t₀.primarySector
          (sealed t₀.mediaFingerprint (onDisk t₀ disk1) (k + 1)).encode) = onDisk t₀ disk1 := by
        unfold onDisk
        rw [Function.update_of_ne hp.primary.symm]
      have hheld : (Function.update disk1 t₀.primarySector
          (sealed t₀.mediaFingerprint (onDisk t₀ disk1) (k + 1)).encode) t₀.primarySector =
          (sealed t₀.mediaFingerprint (onDisk t₀ disk1) (k + 1)).encode := Function.update_self ..
      generalize Function.update disk1 t₀.primarySector
        (sealed t₀.mediaFingerprint (onDisk t₀ disk1) (k + 1)).encode = disk2 at *
      have hother : ∀ i < k, onDisk t₀ disk2 i = entries i := by
        intro i hi
        rw [hsame]
        exact hwritten i hi
      cases hfirst : fates.primary with
      | fails reached =>
        cases reached with
        | true =>
          exact ⟨kM, k + 1, hprimary, fun _ =>
            ⟨k, hm.keep hback hother hm.ge (Nat.le_succ k) rfl⟩⟩
        | false =>
          exact ⟨kM, kP, htable, fun _ => ⟨k, hm.keep hback hwritten hm.ge hm.le rfl⟩⟩
      | stops reached =>
        cases reached with
        | true => exact ⟨kM, k + 1, hprimary, nofun⟩
        | false => exact ⟨kM, kP, htable, nofun⟩
      | done =>
        have hboth : ∀ reported, Stored t₀ (Function.update disk2 t₀.mirrorSector
            (sealed t₀.mediaFingerprint (onDisk t₀ disk1) (k + 1)).encode)
            (calls ++ [⟨first entries k, entry, reported⟩]) (k + 1) (k + 1) := by
          intro reported
          have hmirrored := @stored_mirror t₀ disk2 (k + 1) hp
          rw [hsame] at hmirrored
          apply hmirrored hgood'
          · rw [hheld, Fat12RemapHeader.decode_encode]
          · exact hreached reported
        cases hlast : fates.mirror with
        | fails reached =>
          cases reached with
          | true => exact absurd hlast hmirror
          | false =>
            exact ⟨kM, k + 1, hprimary, fun _ =>
              ⟨k, hm.keep hback hother hm.ge (Nat.le_succ k) rfl⟩⟩
        | stops reached =>
          cases reached with
          | true => exact ⟨k + 1, k + 1, hboth false, nofun⟩
          | false => exact ⟨kM, k + 1, hprimary, nofun⟩
        | done =>
          refine ⟨k + 1, k + 1, hboth true, fun _ => ⟨k + 1, ?_⟩⟩
          refine ⟨hseal.symm, ?_, hgood, fun i hi => ?_, ?_, le_rfl, le_rfl⟩
          · rfl
          · have hdisk3 : onDisk t₀ (Function.update disk2 t₀.mirrorSector
                (sealed t₀.mediaFingerprint (onDisk t₀ disk1) (k + 1)).encode) =
                onDisk t₀ disk1 := by
              rw [← hsame]
              unfold onDisk
              rw [Function.update_of_ne hp.mirror.symm]
            rw [hdisk3]
            exact (hnew i hi).symm
          · show Reaches _ (first (Function.update entries k entry) (k + 1))
            rw [first_congr hnew]
            exact hreached true

theorem add_failed (hempty : t.entries t.header.entryCount.toNat = emptyRemapEntry)
    (htable : ∀ reached, fates.table ≠ .fails reached)
    (hfailed : (fat12RemapAdd t badSector replacementSector fates disk).1 = some false) :
    (fat12RemapAdd t badSector replacementSector fates disk).2.1 = t := by
  have hback : ∀ e, Function.update (Function.update t.entries t.header.entryCount.toNat e)
      t.header.entryCount.toNat emptyRemapEntry = t.entries := by
    intro e
    rw [Function.update_idem, ← hempty, Function.update_eq_self]
  revert hfailed
  unfold fat12RemapAdd
  simp only
  split
  next => exact fun _ => rfl
  next =>
    cases hfate : fates.table with
    | fails reached => exact absurd hfate (htable reached)
    | stops reached => exact nofun
    | done =>
      simp only [writeVerified]
      split
      next => exact fun _ => by rw [hback]
      next told disk1 hnot heq =>
        intro hfailed
        obtain rfl : told = some false := hfailed
        exact (hnot rfl).elim

def Trimmed (t : Fat12RemapTable) : Prop :=
  ∀ i, t.header.entryCount.toNat ≤ i → t.entries i = emptyRemapEntry

theorem add_trimmed (ht : Trimmed t) (hm : Mounted t₀ disk calls kM kP t k)
    (htable : ∀ reached, fates.table ≠ .fails reached)
    (htold : (fat12RemapAdd t badSector replacementSector fates disk).1.isSome) :
    Trimmed (fat12RemapAdd t badSector replacementSector fates disk).2.1 := by
  cases hsuccess : (fat12RemapAdd t badSector replacementSector fates disk).1 with
  | none =>
    rw [hsuccess] at htold
    cases htold
  | some told =>
    cases told with
    | false =>
      rw [add_failed (ht _ le_rfl) htable hsuccess]
      exact ht
    | true =>
      obtain ⟨-, hcount, hindex⟩ := hm.prepares
      unfold Trimmed at ht
      rw [hindex] at ht
      revert hsuccess
      unfold fat12RemapAdd
      simp only [hcount, hindex]
      split
      next => exact nofun
      next hargs =>
        have hroom : k < fat12RemapMaxEntries := by
          push Not at hargs
          exact hargs.2.2.2.1
        cases hfate : fates.table with
        | fails reached => exact nofun
        | stops reached => exact nofun
        | done =>
          simp only [writeVerified]
          split
          next => exact nofun
          next =>
            intro _ i hi
            have hk : (UInt32.ofNat (k + 1)).toNat = k + 1 := by
              unfold fat12RemapMaxEntries at hroom
              rw [UInt32.toNat_ofNat']
              omega
            have hi' : (UInt32.ofNat (k + 1)).toNat ≤ i := hi
            rw [hk] at hi'
            show Function.update t.entries k _ i = emptyRemapEntry
            rw [Function.update_of_ne (by omega)]
            exact ht i (by omega)

end Media

variable {t₀ : Fat12RemapTable} {r : RemapRun}

/-- The run with its medium, and with the table in memory if there is one. -/
structure Sound (t₀ : Fat12RemapTable) (r : RemapRun) (trimmed : Prop) : Prop where
  medium : ∃ kM kP, Stored t₀ r.disk r.calls kM kP
  memory : ∀ t ∈ r.table, (∃ kM kP k, Stored t₀ r.disk r.calls kM kP ∧
    Mounted t₀ r.disk r.calls kM kP t k) ∧ (trimmed → Trimmed t)

variable {trimmed : Prop} {base : Nat} {fingerprint : UInt32}

theorem Sound.step (hp : Placed t₀) (h : Sound t₀ r trimmed) {step : RemapStep}
    (hsettled : step.Settled) (htabled : trimmed → step.Tabled) :
    Sound t₀ (r.step t₀ step) trimmed := by
  cases step with
  | load =>
    obtain ⟨kM, kP, hstored⟩ := h.medium
    obtain ⟨t, k, hloaded, hmounted, hempty⟩ := hstored.load
    refine ⟨⟨kM, kP, hstored⟩, fun t' ht' => ?_⟩
    simp only [RemapRun.step, hloaded, if_true] at ht'
    obtain rfl : t = t' := Option.some.inj ht'
    refine ⟨⟨kM, kP, k, hstored, hmounted⟩, fun _ i hi => hempty i ?_⟩
    rwa [hmounted.prepares.2.2] at hi
  | add badSector replacementSector fates =>
    cases htable : r.table with
    | none =>
      simp only [RemapRun.step, htable]
      exact h
    | some t =>
      obtain ⟨⟨kM, kP, k, hstored, hmounted⟩, htrimmed⟩ := h.memory t htable
      obtain ⟨kM', kP', hstored', hmounted'⟩ := add_keeps hp hstored hmounted badSector
        replacementSector hsettled
      simp only [RemapRun.step, htable]
      refine ⟨⟨kM', kP', hstored'⟩, fun t' ht' => ?_⟩
      split at ht'
      next htold =>
        obtain rfl := Option.some.inj ht'
        obtain ⟨k', hk'⟩ := hmounted' htold
        exact ⟨⟨kM', kP', k', hstored', hk'⟩,
          fun ht => add_trimmed (htrimmed ht) hmounted (htabled ht) htold⟩
      next => cases ht'

theorem Sound.run (hp : Placed t₀) {steps : List RemapStep} (h : Sound t₀ r trimmed)
    (hsettled : ∀ step ∈ steps, step.Settled) (htabled : trimmed → ∀ step ∈ steps, step.Tabled) :
    Sound t₀ (steps.foldl (RemapRun.step t₀) r) trimmed := by
  induction steps generalizing r with
  | nil => exact h
  | cons step steps ih =>
    have hstep := h.step hp (hsettled step List.mem_cons_self)
      (fun ht => htabled ht step List.mem_cons_self)
    exact ih hstep (fun s hs => hsettled s (List.mem_cons_of_mem _ hs))
      (fun ht s hs => htabled ht s (List.mem_cons_of_mem _ hs))

theorem format_placed (hformat : fat12RemapFormat base (base + 1) (base + 2) fingerprint = some t₀) :
    Placed t₀ ∧ t₀.header = sealed t₀.mediaFingerprint t₀.entries 0 ∧
      ∀ i, t₀.entries i = emptyRemapEntry := by
  unfold fat12RemapFormat at hformat
  split at hformat
  next => cases hformat
  next hargs =>
    push Not at hargs
    cases hformat
    exact ⟨⟨hargs.1, by simp, by simp, by simp⟩, rfl, fun _ => rfl⟩

theorem good_zero (entries : Nat → Fat12RemapEntry) : Good entries 0 :=
  ⟨Nat.zero_le _, fun i hi => absurd hi (Nat.not_lt_zero i),
    fun i hi => absurd hi (Nat.not_lt_zero i)⟩

theorem fresh_sound (hformat : fat12RemapFormat base (base + 1) (base + 2) fingerprint = some t₀)
    (disk : Floppy) (trimmed : Prop) : Sound t₀ (RemapRun.fresh t₀ disk) trimmed := by
  obtain ⟨hp, hheader, hempty⟩ := format_placed hformat
  have hreached : ∀ entries, Reaches [] (first entries 0) := fun _ => .inl ⟨rfl, by simp⟩
  have hstored : Stored t₀ (RemapRun.fresh t₀ disk).disk [] 0 0 := by
    refine ⟨?_, good_zero _, hreached _, le_rfl, Nat.zero_le _, t₀.entries, ?_,
      fun _ => ⟨good_zero _, hreached _⟩⟩
    · simp only [RemapRun.fresh]
      rw [Function.update_self, Fat12RemapHeader.decode_encode, hheader]
      exact sealed_congr (Nat.zero_le _) fun i hi => absurd hi (Nat.not_lt_zero i)
    · simp only [RemapRun.fresh]
      rw [Function.update_of_ne hp.headers, Function.update_self, Fat12RemapHeader.decode_encode,
        hheader]
  refine ⟨⟨0, 0, hstored⟩, fun t ht => ?_⟩
  obtain rfl : t₀ = t := Option.some.inj ht
  exact ⟨⟨0, 0, 0, hstored, hheader, rfl, good_zero _,
    fun i hi => absurd hi (Nat.not_lt_zero i), hreached _, le_rfl, le_rfl⟩, fun _ i _ => hempty i⟩

/-- A machine that starts again finds the table after some of the first calls, with every one that
reported success; a failed call spares the table in memory. -/
theorem remap_durable {base : Nat} {fingerprint : UInt32}
    (hformat : fat12RemapFormat base (base + 1) (base + 2) fingerprint = some t₀) (disk : Floppy)
    (steps : List RemapStep) (hsettled : ∀ step ∈ steps, step.Settled) :
    let r := steps.foldl (RemapRun.step t₀) (RemapRun.fresh t₀ disk)
    (∀ w : Fat12World, w.readFates = [] → w.medium.view = r.disk →
      ∃ t, fat12RemapLoad t₀ w = (true, t, w) ∧ Reaches r.calls t.used ∧ Unmixed t.used) ∧
    ∀ t ∈ r.table, Unmixed t.used ∧ ((∀ step ∈ steps, step.Tabled) →
      ∀ badSector replacementSector fates, (∀ reached, fates.table ≠ .fails reached) →
        (fat12RemapAdd t badSector replacementSector fates r.disk).1 = some false →
          (fat12RemapAdd t badSector replacementSector fates r.disk).2.1 = t) := by
  intro r
  have hp := (format_placed hformat).1
  have hsound : Sound t₀ r (∀ step ∈ steps, step.Tabled) :=
    (fresh_sound hformat disk _).run hp hsettled fun h => h
  refine ⟨fun w hreads hview => ?_, fun t ht => ?_⟩
  · obtain ⟨kM, kP, hstored⟩ := hsound.medium
    obtain ⟨t, k, hloaded, hmounted, -⟩ := hstored.load
    refine ⟨t, ?_, ?_, ?_⟩
    · rw [fat12RemapLoad_eq hp.fingerprint hreads, hview, hloaded]
    · rw [hmounted.used]
      exact hmounted.reached
    · rw [hmounted.used]
      exact hmounted.good.unmixed
  · obtain ⟨⟨kM, kP, k, -, hmounted⟩, htrimmed⟩ := hsound.memory t ht
    refine ⟨?_, fun htabled badSector replacementSector fates htable hfailed => ?_⟩
    · rw [hmounted.used]
      exact hmounted.good.unmixed
    · exact add_failed (htrimmed htabled _ le_rfl) htable hfailed

def sampleTable : Fat12RemapTable :=
  let header := prepareRemapHeader 7 1 0
  ⟨20, 21, 22, 7, { header with crc32 := tableCrc header fun _ => emptyRemapEntry },
    fun _ => emptyRemapEntry⟩

/-- The machine stops between the two headers of the second call. -/
def stoppedSteps : List RemapStep :=
  [.add 40 50 ⟨.done, .done, .done⟩, .add 41 51 ⟨.done, .done, .stops false⟩]

theorem stopped_between_headers :
    ∃ t, fat12RemapLoad sampleTable ⟨⟨(stoppedSteps.foldl (RemapRun.step sampleTable)
      (RemapRun.fresh sampleTable fun _ => zero)).disk, []⟩, [], [], []⟩ = (true, t,
        ⟨⟨(stoppedSteps.foldl (RemapRun.step sampleTable)
          (RemapRun.fresh sampleTable fun _ => zero)).disk, []⟩, [], [], []⟩) ∧
      Reaches (stoppedSteps.foldl (RemapRun.step sampleTable)
        (RemapRun.fresh sampleTable fun _ => zero)).calls t.used ∧ Unmixed t.used := by
  have hformat : fat12RemapFormat 20 (20 + 1) (20 + 2) 7 = some sampleTable := rfl
  have hsettled : ∀ step ∈ stoppedSteps, step.Settled := by
    simp [stoppedSteps, RemapStep.Settled]
  exact (remap_durable hformat _ stoppedSteps hsettled).1 _ rfl rfl

/-- The first entry reaches only the mirror, whose read-back fails, and the machine stops after the
table sector of the next call: neither header fits it. -/
def unsettledSteps : List RemapStep :=
  [.add 40 50 ⟨.done, .done, .done⟩, .add 41 51 ⟨.done, .done, .fails true⟩,
    .add 42 52 ⟨.done, .stops false, .done⟩]

/-- The table is lost, with the entry whose call reported success. -/
theorem both_headers_lost :
    let r := unsettledSteps.foldl (RemapRun.step sampleTable)
      (RemapRun.fresh sampleTable fun _ => zero)
    r.calls.map RemapCall.reported = [true, false, false] ∧
      (loadedRemap sampleTable r.disk).1 = false := by
  decide +kernel

end ReistOs.Remap
