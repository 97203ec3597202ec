import ReistOs.ResilientPool

namespace ReistOs.Pages

open PageState

section Tables

def AllSound (pool : Pool) (content : Nat → Page) (domains : Nat → UInt32 → Prop) : Prop :=
  ∀ i < pageCapacity, (pool.slots i).active = true → PageSound pool i (content i) (domains i)

/-- The handles that a pool has given out stay as they are. -/
structure SameHandles (before after : Pool) : Prop where
  active : ∀ i, (after.slots i).active = (before.slots i).active
  generation : ∀ i, (after.slots i).generation = (before.slots i).generation
  next : after.nextHandleGeneration = before.nextHandleGeneration

theorem SameHandles.refl (pool : Pool) : SameHandles pool pool :=
  ⟨fun _ => rfl, fun _ => rfl, rfl⟩

theorem SameHandles.trans {a b c : Pool} (h : SameHandles a b) (h' : SameHandles b c) :
    SameHandles a c :=
  ⟨fun i => (h'.active i).trans (h.active i), fun i => (h'.generation i).trans (h.generation i),
    h'.next.trans h.next⟩

variable {pool pool' : Pool} {slot : Nat} {bytes : Page} {domains : UInt32 → Prop}
  {content : Nat → Page} {all : Nat → UInt32 → Prop}

theorem PageSound.active (h : PageSound pool slot bytes domains) :
    (pool.slots slot).active = true := by
  obtain ⟨sequence, metadata, hold, -⟩ := h
  exact hold.active

theorem PageSound.mono {fewer : UInt32 → Prop} (h : PageSound pool slot bytes domains)
    (hsub : ∀ d, fewer d → domains d) : PageSound pool slot bytes fewer := by
  obtain ⟨sequence, metadata, hold, hmirrors, hshield⟩ := h
  exact ⟨sequence, metadata, hold, hmirrors, fun d hd => hshield d (hsub d hd)⟩

theorem SamePage.handles (h : SamePage slot pool pool')
    (hactive : (pool'.slots slot).active = (pool.slots slot).active) : SameHandles pool pool' := by
  refine ⟨?_, ?_, h.only.next⟩
  · intro i
    by_cases hi : i = slot
    · rw [hi, hactive]
    · rw [h.only.slots i hi]
  · intro i
    by_cases hi : i = slot
    · rw [hi, h.generation]
    · rw [h.only.slots i hi]

theorem allSound_update (hall : AllSound pool content all) (honly : OnlyAt slot pool pool')
    (hsound : PageSound pool' slot bytes domains) :
    AllSound pool' (Function.update content slot bytes) (Function.update all slot domains) := by
  intro i hi hactive
  by_cases his : i = slot
  · subst his
    rw [Function.update_self, Function.update_self]
    exact hsound
  · rw [Function.update_of_ne his, Function.update_of_ne his]
    rw [honly.slots i his] at hactive
    exact honly.pageSound his (hall i hi hactive)

theorem allSound_keep (hall : AllSound pool content all) (honly : OnlyAt slot pool pool')
    (hsound : PageSound pool' slot (content slot) (all slot)) : AllSound pool' content all := by
  have h := allSound_update hall honly hsound
  rwa [Function.update_eq_self, Function.update_eq_self] at h

end Tables

section Failing

variable {pool : Pool} {content : Nat → Page} {all : Nat → UInt32 → Prop}

theorem assessSlots_spec {slots : List Nat} (hslots : ∀ i ∈ slots, i < pageCapacity)
    (hall : AllSound pool content all) (aggregate : PageResult) :
    AllSound (assessSlots slots pool aggregate).2 content all ∧
      SameHandles pool (assessSlots slots pool aggregate).2 ∧
      (assessSlots slots pool aggregate).2.failedDomains = pool.failedDomains := by
  induction slots generalizing pool aggregate with
  | nil => exact ⟨hall, SameHandles.refl pool, rfl⟩
  | cons slot rest ih =>
    have hrest : ∀ i ∈ rest, i < pageCapacity := fun i hi => hslots i (List.mem_cons_of_mem _ hi)
    unfold assessSlots
    by_cases hactive : (pool.slots slot).active = false
    · rw [if_pos hactive]
      exact ih hrest hall aggregate
    · rw [if_neg hactive]
      have hon : (pool.slots slot).active = true := by simpa using hactive
      obtain ⟨sequence, metadata, hold, hmirrors, hshield⟩ :=
        hall slot (hslots slot List.mem_cons_self) hon
      obtain ⟨sequence', metadata', hold', hmirrors', hshield', hsame, -⟩ :=
        assess_spec hold hmirrors hshield
      rw [metadataRead_sealed hold.object hold.valid]
      simp only
      have hall' : AllSound (assess pool slot metadata).2 content all :=
        allSound_keep hall hsame.only ⟨sequence', metadata', hold', hmirrors', hshield'⟩
      have hhandles : SameHandles pool (assess pool slot metadata).2 :=
        hsame.handles (hold'.active.trans hold.active.symm)
      have hfailed := hsame.only.failed
      split
      next =>
        obtain ⟨hsound, hkeep, hdomains⟩ := ih hrest hall' .resultDegraded
        exact ⟨hsound, hhandles.trans hkeep, hdomains.trans hfailed⟩
      next =>
        obtain ⟨hsound, hkeep, hdomains⟩ := ih hrest hall' aggregate
        exact ⟨hsound, hhandles.trans hkeep, hdomains.trans hfailed⟩

theorem failDomain_spec (hall : AllSound pool content all) (domain : UInt32) :
    AllSound (failDomain pool domain).2 content (fun i d => all i d ∧ d = domain) ∧
      SameHandles pool (failDomain pool domain).2 ∧
      (∀ d, pool.failedDomains d = true → (failDomain pool domain).2.failedDomains d = true) ∧
      (domain < domainCount → (failDomain pool domain).2.failedDomains domain = true) := by
  have hunchanged : AllSound pool content fun i d => all i d ∧ d = domain := by
    intro i hi hactive
    exact (hall i hi hactive).mono fun d hd => hd.1
  unfold failDomain
  split
  next hlarge =>
    refine ⟨hunchanged, SameHandles.refl pool, fun _ h => h, ?_⟩
    intro h
    exact absurd hlarge (UInt32.not_le.mpr h)
  next =>
    split
    next hfailed => exact ⟨hunchanged, SameHandles.refl pool, fun _ h => h, fun _ => hfailed⟩
    next =>
      have hmarked : AllSound
          { pool with failedDomains := Function.update pool.failedDomains domain true } content
          fun i d => all i d ∧ d = domain := by
        intro i hi hactive
        have hslot : ({ pool with
            failedDomains := Function.update pool.failedDomains domain true } : Pool).slots i =
            pool.slots i := rfl
        apply pageSound_weaken hslot _ _ (fun _ hd => hd.1) (hall i hi hactive)
        · intro metadata replica _ _ hvalid
          refine ⟨rfl, ?_⟩
          unfold replicaValid at hvalid ⊢
          simp only [Bool.and_eq_true, Bool.not_eq_true'] at hvalid ⊢
          refine ⟨?_, hvalid.2⟩
          by_cases hd : metadata.domain replica = domain
          · rw [hd, Function.update_self] at hvalid
            exact absurd hvalid.1 (by simp)
          · rw [Function.update_of_ne hd] at hvalid
            exact hvalid.1
        · rintro metadata replica _ ⟨-, rfl⟩ hne
          unfold replicaValid
          simp only [Function.update_of_ne hne]
          rfl
      have hrange : ∀ i ∈ List.range pageCapacity, i < pageCapacity := by
        intro i hi
        exact List.mem_range.mp hi
      obtain ⟨hsound, hhandles, hfailed⟩ := assessSlots_spec hrange hmarked .ok
      refine ⟨hsound, ?_, ?_, ?_⟩
      · exact ⟨hhandles.active, hhandles.generation, hhandles.next⟩
      · intro d hd
        rw [hfailed]
        show Function.update pool.failedDomains domain true d = true
        by_cases he : d = domain
        · rw [he, Function.update_self]
        · rw [Function.update_of_ne he]
          exact hd
      · intro _
        rw [hfailed]
        exact Function.update_self _ _ _

end Failing

section Damage

/-- Faults in one domain: any bank there may come to hold anything. -/
def damage (pool : Pool) (domain : UInt32) (content : Nat → UInt32 → Page) : Pool :=
  { pool with
    storage := fun d i b => if d = domain then content i b else pool.storage d i b }

/-- What the damage does to a replica in use shows in its checksum. -/
def Detected (pool : Pool) (domain : UInt32) (content : Nat → UInt32 → Page) : Prop :=
  ∀ i < pageCapacity, ∀ sequence metadata, Holding pool i sequence metadata →
    ∀ replica : Fin 2, replica.val < metadata.replicaCount.toNat →
      metadata.domain replica = domain →
        content i (metadata.activeBank replica) = replicaPage pool i metadata replica ∨
          pageCrc32 (content i (metadata.activeBank replica)) ≠ metadata.replicaCrc32 replica

variable {pool : Pool} {content : Nat → Page} {all : Nat → UInt32 → Prop}

theorem damage_spec (hall : AllSound pool content all) {domain : UInt32}
    {garbage : Nat → UInt32 → Page} (hdetected : Detected pool domain garbage) :
    AllSound (damage pool domain garbage) content (fun i d => all i d ∧ d = domain) := by
  intro i hi hactive
  have hslot : (damage pool domain garbage).slots i = pool.slots i := rfl
  apply pageSound_weaken hslot _ _ (fun _ hd => hd.1) (hall i hi hactive)
  · rintro metadata replica hr ⟨sequence, hold⟩ hvalid
    by_cases hd : metadata.domain replica = domain
    · have hpage : replicaPage (damage pool domain garbage) i metadata replica =
          garbage i (metadata.activeBank replica) := if_pos hd
      rcases hdetected i hi sequence metadata hold replica hr hd with hsame | hcrc
      · have hpage' := hpage.trans hsame
        refine ⟨hpage', ?_⟩
        rw [← hvalid]
        exact (replicaValid_congr rfl rfl hpage' rfl).symm
      · unfold replicaValid at hvalid
        simp only [Bool.and_eq_true, decide_eq_true_eq] at hvalid
        rw [hpage] at hvalid
        exact absurd hvalid.2 hcrc
    · have hpage : replicaPage (damage pool domain garbage) i metadata replica =
          replicaPage pool i metadata replica := if_neg hd
      refine ⟨hpage, ?_⟩
      rw [← hvalid]
      exact (replicaValid_congr rfl rfl hpage rfl).symm
  · rintro metadata replica d ⟨-, rfl⟩ hne
    have hpage : replicaPage (damage pool d garbage) i metadata replica =
        replicaPage pool i metadata replica := if_neg hne
    exact replicaValid_congr rfl rfl hpage rfl

end Damage

section Creating

variable {pool : Pool} {initial : Page}

inductive CreateCase (pool : Pool) (initial : Page) : PageResult × Option Handle × Pool → Prop
  | refused (result : PageResult) (after : Pool) (hresult : result.succeeded = false)
      (hslots : after.slots = pool.slots)
      (hstorage : ∀ i d b, (pool.slots i).active = true → after.storage d i b = pool.storage d i b)
      (hfailed : after.failedDomains = pool.failedDomains)
      (hnext : pool.nextHandleGeneration.toNat ≤ after.nextHandleGeneration.toNat)
      (hreason : ((List.range pageCapacity).find? fun slot => !(pool.slots slot).active) = none ∨
        (pool.nextHandleGeneration = 0 ∨ pool.nextHandleGeneration = 0xFFFFFFFF) ∨
        ∀ first second, createDomains pool ≠ [first, second]) :
      CreateCase pool initial (result, none, after)
  | created (slot : Nat) (first second : UInt32) (after : Pool) (hslot : slot < pageCapacity)
      (hfind : ((List.range pageCapacity).find? fun slot => !(pool.slots slot).active) = some slot)
      (hdomains : createDomains pool = [first, second])
      (hold : Holding after slot 1 (newMetadata pool.nextHandleGeneration first second
        (pageCrc32 initial) (pageCrc32 initial)))
      (hpages : after.storage first slot 0 = initial ∧ after.storage second slot 0 = initial)
      (hfree : (pool.slots slot).active = false) (hnonzero : pool.nextHandleGeneration ≠ 0)
      (hnext : after.nextHandleGeneration.toNat = pool.nextHandleGeneration.toNat + 1)
      (hslots : ∀ i, i ≠ slot → after.slots i = pool.slots i)
      (hstorage : ∀ i d b, i ≠ slot → after.storage d i b = pool.storage d i b)
      (hfailed : after.failedDomains = pool.failedDomains)
      (hgeneration : (after.slots slot).generation = pool.nextHandleGeneration)
      (hsound : PageSound after slot initial fun _ => True) :
      CreateCase pool initial
        (.ok, some { slot := UInt32.ofNat slot, generation := pool.nextHandleGeneration }, after)

theorem storeInitial_keep (slot : Nat) {domain : UInt32} (domains : List UInt32)
    (h : pool.storage domain slot 0 = initial) :
    (storeInitial slot initial domains pool).storage domain slot 0 = initial := by
  induction domains generalizing pool with
  | nil => exact h
  | cons other rest ih =>
    apply ih
    by_cases ho : domain = other
    · rw [ho]
      exact setPage_here _ _ _
    · rw [setPage_elsewhere _ (fun h => ho h.1)]
      exact h

theorem storeInitial_spec (slot : Nat) (domains : List UInt32) :
    (storeInitial slot initial domains pool).slots = pool.slots ∧
      (storeInitial slot initial domains pool).failedDomains = pool.failedDomains ∧
      (storeInitial slot initial domains pool).nextHandleGeneration = pool.nextHandleGeneration ∧
      (∀ i d b, i ≠ slot → (storeInitial slot initial domains pool).storage d i b =
        pool.storage d i b) ∧
      ∀ d ∈ domains, (storeInitial slot initial domains pool).storage d slot 0 = initial := by
  induction domains generalizing pool with
  | nil => exact ⟨rfl, rfl, rfl, fun _ _ _ _ => rfl, fun _ h => by cases h⟩
  | cons domain rest ih =>
    obtain ⟨hslots, hfailed, hnext, hother, hfilled⟩ :=
      @ih (pool.setPage slot domain 0 initial)
    refine ⟨hslots, hfailed, hnext, ?_, ?_⟩
    · intro i d b hi
      exact (hother i d b hi).trans ((onlyAt_setPage pool slot domain 0 initial).storage d i b hi)
    · intro d hd
      rcases List.mem_cons.mp hd with rfl | hmem
      · exact storeInitial_keep slot rest (setPage_here _ _ _)
      · exact hfilled d hmem

variable {second generation : UInt32} {stored : Pool}

theorem createDomains_spec {first : UInt32} (h : createDomains pool = [first, second]) :
    first ≠ second ∧ (first < domainCount ∧ pool.failedDomains first = false) ∧
      second < domainCount ∧ pool.failedDomains second = false := by
  have hsublist : (createDomains pool).Sublist
      ([0, 1, 2].filter fun domain => !pool.failedDomains domain) := List.take_sublist _ _
  have hnodup : (createDomains pool).Nodup :=
    hsublist.nodup (List.Nodup.filter _ (by decide))
  have hgood : ∀ d ∈ createDomains pool, d < domainCount ∧ pool.failedDomains d = false := by
    intro d hd
    obtain ⟨hmem, hfailed⟩ := List.mem_filter.mp (hsublist.subset hd)
    refine ⟨?_, by simpa using hfailed⟩
    simp only [List.mem_cons, List.not_mem_nil, or_false] at hmem
    rcases hmem with rfl | rfl | rfl
    · decide
    · decide
    · decide
  rw [h] at hnodup hgood
  refine ⟨?_, hgood first (by simp), hgood second (by simp)⟩
  intro heq
  subst heq
  simp at hnodup

theorem created_holding {slot : Nat} {first : UInt32} (hgeneration : generation ≠ 0)
    (hne : first ≠ second) (hfirst : first < domainCount) (hsecond : second < domainCount) :
    Holding (stored.setSlot slot
      { active := true, generation := generation
        metadata := sealedObject 1
          (newMetadata generation first second (pageCrc32 initial) (pageCrc32 initial)) }) slot 1
      (newMetadata generation first second (pageCrc32 initial) (pageCrc32 initial)) := by
  have hvalid : fieldsValid
      (newMetadata generation first second (pageCrc32 initial) (pageCrc32 initial)) = true := by
    have hsingle : ¬ (healthy.code = degraded.code ∨
        healthy.code = rebuilding.code) := by decide
    have hbank : (0 : UInt32) < bankCount := by decide
    have hone : (1 : UInt32) ≠ 0 := by decide
    have hstate : healthy.code ≤ PageState.failed.code := by decide
    refine fieldsValid_iff.mpr ⟨⟨hgeneration, hone, hstate, UInt32.le_refl _, rfl, rfl⟩,
      fun _ => rfl, fun h => absurd h hsingle, ?_, fun _ => hne⟩
    intro replica _
    fin_cases replica
    · exact ⟨hfirst, hbank⟩
    · exact ⟨hsecond, hbank⟩
  have hslot : ∀ value, (stored.setSlot slot value).slots slot = value :=
    fun value => Function.update_self _ _ _
  refine ⟨?_, ?_, hvalid, ?_⟩
  · rw [hslot]
  · rw [hslot]
  · rw [hslot]
    rfl

theorem created_sound {slot : Nat} {first : UInt32} (hold : Holding stored slot 1
      (newMetadata generation first second (pageCrc32 initial) (pageCrc32 initial)))
    (hne : first ≠ second) (hpage1 : stored.storage first slot 0 = initial)
    (hpage2 : stored.storage second slot 0 = initial) (hup1 : stored.failedDomains first = false)
    (hup2 : stored.failedDomains second = false) :
    PageSound stored slot initial fun _ => True := by
  apply sound_of_holding hold
  · intro replica _
    fin_cases replica
    · exact ⟨hpage1, rfl, hup1⟩
    · exact ⟨hpage2, rfl, hup2⟩
  · intro domain _
    refine ⟨(by decide : healthy.code ≠ PageState.failed.code), ?_⟩
    by_cases hd : first = domain
    · exact ⟨1, (by decide : (1 : Fin 2).val < (2 : UInt32).toNat), fun h => hne (hd.trans h.symm)⟩
    · exact ⟨0, (by decide : (0 : Fin 2).val < (2 : UInt32).toNat), hd⟩

theorem create_cases (pool : Pool) (initial : Page) :
    CreateCase pool initial (create pool initial) := by
  unfold create
  cases hfind : (List.range pageCapacity).find? fun slot => !(pool.slots slot).active with
  | none => exact .refused _ _ rfl rfl (fun _ _ _ _ => rfl) rfl (Nat.le_refl _) (.inl hfind)
  | some slot =>
    have hslot : slot < pageCapacity := List.mem_range.mp (List.mem_of_find?_eq_some hfind)
    have hfree : (pool.slots slot).active = false := by
      simpa using List.find?_some hfind
    simp only
    split
    next hspent =>
      exact .refused _ _ rfl rfl (fun _ _ _ _ => rfl) rfl (Nat.le_refl _) (.inr (.inl hspent))
    next hgenerations =>
      push Not at hgenerations
      obtain ⟨hnonzero, hroom⟩ := hgenerations
      have hnext : (pool.nextHandleGeneration + 1).toNat = pool.nextHandleGeneration.toNat + 1 := by
        have hne : pool.nextHandleGeneration.toNat ≠ 4294967295 := fun h =>
          hroom (UInt32.toNat_inj.mp h)
        have hlt := pool.nextHandleGeneration.toNat_lt
        have hone : (1 : UInt32).toNat = 1 := rfl
        rw [UInt32.toNat_add]
        omega
      generalize hbase : ({ pool with
        nextHandleGeneration := pool.nextHandleGeneration + 1 } : Pool) = base
      have hbaseSlots : base.slots = pool.slots := by rw [← hbase]
      have hbaseStorage : base.storage = pool.storage := by rw [← hbase]
      have hbaseFailed : base.failedDomains = pool.failedDomains := by rw [← hbase]
      have hbaseNext : base.nextHandleGeneration.toNat = pool.nextHandleGeneration.toNat + 1 := by
        rw [← hbase]
        exact hnext
      obtain ⟨hslots, hfailed, hkeepNext, hother, hfilled⟩ :=
        @storeInitial_spec base initial slot (createDomains base)
      have hsameDomains : createDomains base = createDomains pool := by
        rw [← hbase]
        rfl
      have hrefused : (∀ first second, createDomains base ≠ [first, second]) →
          CreateCase pool initial (.errorFailed, none,
            (storeInitial slot initial (createDomains base) base).zeroStorage slot) := by
        intro hreason
        rw [hsameDomains] at hreason
        apply CreateCase.refused
        · rfl
        · exact hslots.trans hbaseSlots
        · intro i d b hactive
          have hi : i ≠ slot := by
            rintro rfl
            rw [hfree] at hactive
            cases hactive
          rw [(onlyAt_zeroStorage _ slot).storage d i b hi, hother i d b hi, hbaseStorage]
        · exact hfailed.trans hbaseFailed
        · show _ ≤ (storeInitial slot initial (createDomains base) base).nextHandleGeneration.toNat
          rw [hkeepNext, hbaseNext]
          omega
        · exact .inr (.inr hreason)
      cases hdomains : createDomains base with
      | nil =>
        rw [hdomains] at hrefused
        exact hrefused (by simp)
      | cons first rest =>
        cases rest with
        | nil =>
          rw [hdomains] at hrefused
          exact hrefused (by simp)
        | cons second more =>
          cases more with
          | cons third more =>
            rw [hdomains] at hrefused
            exact hrefused (by simp)
          | nil =>
            obtain ⟨hne, ⟨hfirst, hfirstUp⟩, hsecond, hsecondUp⟩ := createDomains_spec hdomains
            rw [hdomains] at hslots hfailed hkeepNext hother hfilled
            generalize storeInitial slot initial [first, second] base = stored at *
            have hpage1 : stored.storage first slot 0 = initial := hfilled first (by simp)
            have hpage2 : stored.storage second slot 0 = initial := hfilled second (by simp)
            simp only [init_sealed, hpage1, hpage2]
            rw [if_neg (by simp)]
            have hcollapse : ∀ object, (((stored.setSlot slot
                { stored.slots slot with generation := pool.nextHandleGeneration }).setMetadata slot
                object).setSlot slot { (((stored.setSlot slot
                { stored.slots slot with generation := pool.nextHandleGeneration }).setMetadata slot
                object).slots slot) with active := true }) =
                stored.setSlot slot { active := true, generation := pool.nextHandleGeneration
                                      metadata := object } := by
              intro object
              simp [Pool.setMetadata, Pool.setSlot]
            have hold : Holding (stored.setSlot slot
                { active := true, generation := pool.nextHandleGeneration
                  metadata := sealedObject 1 (newMetadata pool.nextHandleGeneration first second
                    (pageCrc32 initial) (pageCrc32 initial)) }) slot 1 _ :=
              created_holding hnonzero hne hfirst hsecond
            rw [hcollapse]
            apply CreateCase.created
            · exact hslot
            · exact hfind
            · rw [← hsameDomains]
              exact hdomains
            · exact hold
            · exact ⟨hpage1, hpage2⟩
            · exact hfree
            · exact hnonzero
            · exact (congrArg UInt32.toNat hkeepNext).trans hbaseNext
            · intro i hi
              rw [(onlyAt_setSlot stored slot _).slots i hi, hslots, hbaseSlots]
            · intro i d b hi
              rw [(onlyAt_setSlot stored slot _).storage d i b hi, hother i d b hi, hbaseStorage]
            · exact hfailed.trans hbaseFailed
            · show (Function.update stored.slots slot _ slot).generation = _
              rw [Function.update_self]
            · exact created_sound hold hne hpage1 hpage2 ((congrFun hfailed first).trans hfirstUp)
                ((congrFun hfailed second).trans hsecondUp)

end Creating

variable {pool : Pool} {handle : Handle} {bytes : Page} {domains : UInt32 → Prop}

theorem destroy_spec (hlive : Live pool handle)
    (hsound : PageSound pool handle.slot.toNat bytes domains) :
    (destroy pool handle).1 = .ok ∧ OnlyAt handle.slot.toNat pool (destroy pool handle).2 ∧
      (destroy pool handle).2.slots handle.slot.toNat = zeroSlot := by
  obtain ⟨sequence, metadata, hold, -⟩ := hsound
  unfold destroy
  rw [resolve_live hlive hold]
  refine ⟨rfl, ?_, Function.update_self _ _ _⟩
  exact (onlyAt_zeroStorage pool _).trans (onlyAt_setSlot _ _ _)

end ReistOs.Pages
