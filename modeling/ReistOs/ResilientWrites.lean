import ReistOs.ResilientOps

namespace ReistOs.Pages

open PageState

section Preparing

variable {slot : Nat} {metadata : Metadata} {source : Fin 2} {offset : Nat} {bytes : List UInt8}

/-- The candidate's fields after the loop over some of the replicas. -/
def prepared (metadata candidate : Metadata) (target : Page) (replicas : List (Fin 2)) : Metadata :=
  { candidate with
    activeBank := fun r => if r ∈ replicas then metadata.activeBank r ^^^ 1 else candidate.activeBank r
    replicaCrc32 := fun r => if r ∈ replicas then pageCrc32 target else candidate.replicaCrc32 r }

theorem sameView_inactive (hvalid : fieldsValid metadata = true) {pool : Pool} {replica : Fin 2}
    (hr : replica.val < metadata.replicaCount.toNat) (page : Page) :
    SameView slot metadata pool
      (pool.setPage slot (metadata.domain replica) (metadata.activeBank replica ^^^ 1) page) := by
  apply sameView_setPage
  rintro other hother ⟨hdomain, hbank⟩
  obtain rfl := domain_injective hvalid hother hr hdomain
  obtain ⟨-, -, -, hindex, -⟩ := fieldsValid_iff.mp hvalid
  exact (bank_flip (hindex other hother).2).1 hbank.symm

theorem prepare_spec (hvalid : fieldsValid metadata = true)
    (hsource : source.val < metadata.replicaCount.toNat) {replicas : List (Fin 2)}
    (hcounted : ∀ replica ∈ replicas, replica.val < metadata.replicaCount.toNat)
    (hnodup : replicas.Nodup) {candidate : Metadata} {pool : Pool} {target : Page}
    (htarget : target = overwrite (replicaPage pool slot metadata source) offset bytes) :
    SameView slot metadata pool
        (prepare slot metadata source offset bytes replicas candidate pool).2 ∧
      OnlyAt slot pool (prepare slot metadata source offset bytes replicas candidate pool).2 ∧
      (∀ d b, (∀ replica ∈ replicas, d ≠ metadata.domain replica) →
        (prepare slot metadata source offset bytes replicas candidate pool).2.storage d slot b =
          pool.storage d slot b) ∧
      (∀ replica ∈ replicas,
        (prepare slot metadata source offset bytes replicas candidate pool).2.storage
          (metadata.domain replica) slot (metadata.activeBank replica ^^^ 1) = target) ∧
      (prepare slot metadata source offset bytes replicas candidate pool).1 =
        prepared metadata candidate target replicas := by
  induction replicas generalizing candidate pool with
  | nil =>
    refine ⟨⟨rfl, rfl, fun _ _ => rfl⟩, OnlyAt.refl slot pool, fun _ _ _ => rfl, ?_, ?_⟩
    · intro replica hmem
      cases hmem
    · simp [prepare, prepared]
  | cons replica rest ih =>
    obtain ⟨hreplica, hrest⟩ := List.nodup_cons.mp hnodup
    have hr := hcounted replica List.mem_cons_self
    have hview : SameView slot metadata pool
        (pool.setPage slot (metadata.domain replica) (metadata.activeBank replica ^^^ 1) target) :=
      sameView_inactive hvalid hr target
    have htarget' : target = overwrite (replicaPage
        (pool.setPage slot (metadata.domain replica) (metadata.activeBank replica ^^^ 1) target) slot
        metadata source) offset bytes := by
      rw [hview.pages source hsource]
      exact htarget
    have hrec : SameView slot metadata _ (prepare slot metadata source offset bytes rest
        { candidate with
          activeBank := Function.update candidate.activeBank replica
            (metadata.activeBank replica ^^^ 1)
          replicaCrc32 := Function.update candidate.replicaCrc32 replica (pageCrc32 target) }
        _).2 ∧ _ :=
      ih (fun r hmem => hcounted r (List.mem_cons_of_mem _ hmem)) hrest htarget'
    obtain ⟨hview', honly, hother, hfilled, hfields⟩ := hrec
    unfold prepare
    simp only [← htarget]
    refine ⟨hview.trans hview', (onlyAt_setPage pool slot _ _ _).trans honly, ?_, ?_, ?_⟩
    · intro d b hd
      rw [hother d b fun r hmem => hd r (List.mem_cons_of_mem _ hmem)]
      apply setPage_elsewhere
      rintro ⟨hdomain, -⟩
      exact hd replica List.mem_cons_self hdomain
    · intro r hmem
      rcases List.mem_cons.mp hmem with rfl | hmem
      · rw [hother _ _ fun other hm hdomain => hreplica (by
          rw [domain_injective hvalid hr (hcounted other (List.mem_cons_of_mem _ hm)) hdomain]
          exact hm)]
        exact setPage_here _ _ _
      · exact hfilled r hmem
    · rw [hfields]
      unfold prepared
      congr 1
      · funext r
        by_cases heq : r = replica
        · subst heq
          simp [hreplica]
        · simp [heq]
      · funext r
        by_cases heq : r = replica
        · subst heq
          simp [hreplica]
        · simp [heq]

theorem mem_countedReplicas {replica : Fin 2} :
    replica ∈ countedReplicas metadata ↔ replica.val < metadata.replicaCount.toNat := by
  simp [countedReplicas]

theorem nodup_countedReplicas : (countedReplicas metadata).Nodup :=
  List.Nodup.filter _ (List.nodup_finRange 2)

theorem prepare_counted (hvalid : fieldsValid metadata = true)
    (hsome : 0 < metadata.replicaCount.toNat) (candidate : Metadata) (pool : Pool)
    {answer : Metadata × Pool}
    (hanswer : prepare slot metadata 0 offset bytes (countedReplicas metadata) candidate pool =
      answer) :
    SameView slot metadata pool answer.2 ∧ OnlyAt slot pool answer.2 ∧
      (∀ replica : Fin 2, replica.val < metadata.replicaCount.toNat →
        answer.2.storage (metadata.domain replica) slot (metadata.activeBank replica ^^^ 1) =
          overwrite (replicaPage pool slot metadata 0) offset bytes) ∧
      answer.1 = prepared metadata candidate
        (overwrite (replicaPage pool slot metadata 0) offset bytes) (countedReplicas metadata) := by
  subst hanswer
  have hsource : (0 : Fin 2).val < metadata.replicaCount.toNat := hsome
  obtain ⟨hview, honly, -, hfilled, hfields⟩ := prepare_spec hvalid hsource
    (fun r hmem => mem_countedReplicas.mp hmem) nodup_countedReplicas rfl
  exact ⟨hview, honly, fun r hr => hfilled r (mem_countedReplicas.mpr hr), hfields⟩

theorem fieldsValid_prepared (hvalid : fieldsValid metadata = true)
    (hdata : metadata.dataGeneration ≠ 0xFFFFFFFF) (target : Page) :
    fieldsValid (prepared metadata
      { metadata with dataGeneration := metadata.dataGeneration + 1 } target
      (countedReplicas metadata)) = true := by
  obtain ⟨⟨hhandle, -, hstate, hcount, hreserved⟩, hhealthy, hsingle, hindex, hdistinct⟩ :=
    fieldsValid_iff.mp hvalid
  have hnext : metadata.dataGeneration + 1 ≠ 0 := by
    intro h
    apply hdata
    have h' : metadata.dataGeneration = 0 - 1 := by
      rw [← h]
      simp
    rw [h']
    rfl
  refine fieldsValid_iff.mpr ⟨⟨hhandle, hnext, hstate, hcount, hreserved⟩, hhealthy, hsingle, ?_,
    hdistinct⟩
  intro replica hr
  obtain ⟨hdomain, hbank⟩ := hindex replica hr
  refine ⟨hdomain, ?_⟩
  have hmem : replica ∈ countedReplicas metadata := mem_countedReplicas.mpr hr
  simp only [prepared, if_pos hmem]
  exact (bank_flip hbank).2

end Preparing

section Publishing

variable {pool : Pool} {slot : Nat} {sequence : UInt32} {metadata : Metadata} {target : Page}
  {domains : UInt32 → Prop}

theorem sound_of_holding (hold : Holding pool slot sequence metadata)
    (hpages : ∀ replica : Fin 2, replica.val < metadata.replicaCount.toNat →
      replicaPage pool slot metadata replica = target ∧
        metadata.replicaCrc32 replica = pageCrc32 target ∧
        pool.failedDomains (metadata.domain replica) = false)
    (hshield : ∀ domain, domains domain → metadata.state ≠ PageState.failed.code ∧
      ∃ replica : Fin 2, replica.val < metadata.replicaCount.toNat ∧
        metadata.domain replica ≠ domain) : PageSound pool slot target domains := by
  have hsound : ∀ replica : Fin 2, replica.val < metadata.replicaCount.toNat →
      replicaValid pool slot metadata replica = true := by
    intro replica hr
    obtain ⟨hpage, hcrc, hfailed⟩ := hpages replica hr
    unfold replicaValid
    rw [hpage, hcrc, hfailed]
    simp
  refine ⟨sequence, metadata, hold, ?_, ?_⟩
  · intro replica hreplica
    exact (hpages replica (mem_validReplicas.mp hreplica).1).1
  · intro domain hd
    obtain ⟨hstate, hother⟩ := hshield domain hd
    exact ⟨hstate, hother, fun replica hr _ => hsound replica hr⟩

theorem sound_of_publish (hold : Holding pool slot sequence metadata) {next : Metadata}
    (hvalid : fieldsValid next = true) (hhandle : next.handleGeneration = metadata.handleGeneration)
    (hpages : ∀ replica : Fin 2, replica.val < next.replicaCount.toNat →
      replicaPage pool slot next replica = target ∧ next.replicaCrc32 replica = pageCrc32 target ∧
        pool.failedDomains (next.domain replica) = false)
    (hshield : ∀ domain, domains domain → next.state ≠ PageState.failed.code ∧
      ∃ replica : Fin 2, replica.val < next.replicaCount.toNat ∧ next.domain replica ≠ domain)
    (newSequence : UInt32) :
    PageSound (pool.setMetadata slot (sealedObject newSequence next)) slot target domains :=
  sound_of_holding (hold.publish hvalid hhandle newSequence) hpages hshield

end Publishing

section Writing

variable {pool : Pool} {handle : Handle} {bytes : Page} {domains : UInt32 → Prop}

theorem write_spec (hlive : Live pool handle)
    (hsound : PageSound pool handle.slot.toNat bytes domains) (offset : Nat) (new : List UInt8) :
    SamePage handle.slot.toNat pool (write pool handle offset new).2 ∧
      PageSound (write pool handle offset new).2 handle.slot.toNat
        (if (write pool handle offset new).1.succeeded = true then overwrite bytes offset new
          else bytes) domains ∧
      ((write pool handle offset new).1.succeeded = false → Spare pool handle.slot.toNat →
        Readable pool handle → Readable (write pool handle offset new).2 handle) := by
  unfold write
  split
  next => exact ⟨SamePage.refl _ _, hsound, fun _ _ h => h⟩
  next =>
    have hentry := entry_of_sound hlive hsound
    have hreadable : Readable pool handle →
        ∃ answer, (resolveAssess pool handle).1 = .ok answer := fun h => h
    generalize resolveAssess pool handle = entry at hentry hreadable ⊢
    cases hentry with
    | refused result after hresult hsame hafter =>
      simp only [hresult]
      refine ⟨hsame, hafter, ?_⟩
      intro _ _ h
      obtain ⟨answer, hanswer⟩ := hreadable h
      cases hanswer
    | entered assessment after sequence hresult hsource hsame hold hmirrors hready hshield hspare =>
      simp only
      by_cases hdata : assessment.metadata.dataGeneration = 0xFFFFFFFF
      · rw [if_pos hdata]
        refine ⟨hsame, ⟨sequence, assessment.metadata, hold, hmirrors, hshield⟩, ?_⟩
        intro _ h _
        exact readable_of_answerable (hlive.after hsame hold.active) hold hmirrors (hspare h)
      · rw [if_neg hdata, hsource]
        have hbytes : replicaPage after handle.slot.toNat assessment.metadata 0 = bytes := by
          apply hmirrors 0
          exact mem_validReplicas.mpr ⟨hready.some, hready.all 0 hready.some⟩
        generalize hanswer : prepare handle.slot.toNat assessment.metadata 0 offset new
          (countedReplicas assessment.metadata) _ after = answer
        obtain ⟨hview, honly, hfilled, hfields⟩ :=
          prepare_counted hold.valid hready.some _ after hanswer
        rw [hbytes] at hfilled hfields
        obtain ⟨candidate, stored⟩ := answer
        subst hfields
        have hcandidate := fieldsValid_prepared hold.valid hdata (overwrite bytes offset new)
        have hstored := hview.holding hold
        have hkeep : SamePage handle.slot.toNat after stored := by
          refine ⟨honly, ?_⟩
          rw [hview.slots]
        rw [metadataUpdate_sealed hstored.object hold.valid hcandidate]
        by_cases hspent : sequence + 1 = 0
        · rw [if_pos hspent]
          refine ⟨hsame.trans hkeep, ?_, ?_⟩
          · exact ⟨sequence, assessment.metadata, hstored, hview.mirrors hmirrors,
              fun d hd => hview.shielded (hshield d hd)⟩
          · intro _ h _
            obtain ⟨hstate, hreplicas⟩ := hspare h
            apply readable_of_answerable (hlive.after (hsame.trans hkeep) hstored.active) hstored
              (hview.mirrors hmirrors)
            rw [← hview.validReplicas] at hreplicas
            exact ⟨hstate, hreplicas⟩
        · rw [if_neg hspent]
          refine ⟨hsame.trans (hkeep.trans (samePage_setMetadata _ _ _)), ?_⟩
          -- the candidate is published: nothing is left to show about a failure
          have hsucceeded : (if (prepared assessment.metadata
              { assessment.metadata with
                dataGeneration := assessment.metadata.dataGeneration + 1 }
              (overwrite bytes offset new) (countedReplicas assessment.metadata)).state =
              degraded.code then PageResult.resultDegraded else .ok).succeeded = true := by
            split
            · rfl
            · rfl
          simp only [hsucceeded, if_true]
          refine ⟨?_, nofun⟩
          apply sound_of_publish hstored hcandidate rfl
          · intro replica hr
            have hmem : replica ∈ countedReplicas assessment.metadata :=
              mem_countedReplicas.mpr hr
            have hvalid := hready.all replica hr
            unfold replicaValid at hvalid
            simp only [Bool.and_eq_true, Bool.not_eq_true'] at hvalid
            refine ⟨?_, ?_, ?_⟩
            · unfold replicaPage
              simp only [prepared, if_pos hmem]
              exact hfilled replica hr
            · simp only [prepared, if_pos hmem]
            · rw [hview.failed]
              exact hvalid.1
          · intro d hd
            obtain ⟨hstate, hother, -⟩ := hshield d hd
            exact ⟨hstate, hother⟩

end Writing

variable {pool : Pool} {handle : Handle} {bytes : Page} {domains : UInt32 → Prop}

variable {metadata : Metadata} {replacement : UInt32}

theorem replacementDomain_spec (h : replacementDomain pool metadata = some replacement) :
    replacement < domainCount ∧ pool.failedDomains replacement = false ∧
      replacement ≠ metadata.domain 0 := by
  have hmem := List.mem_of_find?_eq_some h
  have htest := List.find?_some h
  simp only [Bool.and_eq_true, Bool.not_eq_true', decide_eq_true_eq] at htest
  refine ⟨?_, htest.1, htest.2⟩
  simp only [List.mem_cons, List.not_mem_nil, or_false] at hmem
  rcases hmem with rfl | rfl | rfl
  · decide
  · decide
  · decide

theorem fieldsValid_rebuilt (hvalid : fieldsValid metadata = true)
    (hsome : 0 < metadata.replicaCount.toNat)
    (hdomain : replacement < domainCount) (hne : replacement ≠ metadata.domain 0) (target : Page) :
    fieldsValid (rebuilt metadata replacement target) = true := by
  obtain ⟨⟨hhandle, hdata, -, -, hreserved⟩, -, -, hindex, -⟩ := fieldsValid_iff.mp hvalid
  have hsingle : ¬ (healthy.code = degraded.code ∨
      healthy.code = rebuilding.code) := by decide
  refine fieldsValid_iff.mpr ⟨⟨hhandle, hdata, (by decide : healthy.code ≤
    PageState.failed.code), UInt32.le_refl _, hreserved⟩, fun _ => rfl, fun h => absurd h hsingle,
    ?_, ?_⟩
  · intro replica _
    fin_cases replica
    · exact hindex 0 hsome
    · exact ⟨hdomain, (by decide : (0 : UInt32) < bankCount)⟩
  · intro _
    exact hne.symm

theorem counted_single (hcount : metadata.replicaCount = 1) {replica : Fin 2}
    (hr : replica.val < metadata.replicaCount.toNat) : replica = 0 := by
  rw [hcount] at hr
  have hone : (1 : UInt32).toNat = 1 := rfl
  apply Fin.ext
  show replica.val = 0
  omega

theorem rebuild_publish {slot : Nat} {first after published : Pool}
    {sequence : UInt32} (hready : Ready after slot metadata)
    (hmirrors : Mirrors after slot metadata bytes)
    (hshield : ∀ domain, domains domain → Shielded after slot metadata domain)
    (hcount : metadata.replicaCount = 1)
    (hold : Holding published slot sequence { metadata with state := PageState.rebuilding.code })
    (hdomain : replacement < domainCount) (hfailed : after.failedDomains replacement = false)
    (hne : replacement ≠ metadata.domain 0) (hsame : SamePage slot first published)
    (hstorage : published.storage = after.storage)
    (hdomains : published.failedDomains = after.failedDomains) :
    ∃ answer : Bool × Pool, metadataUpdate (published.setPage slot replacement 0 bytes) slot
        (rebuilt { metadata with state := PageState.rebuilding.code } replacement bytes) = answer ∧
      SamePage slot first answer.2 ∧
      PageSound answer.2 slot bytes (if answer.1 = true then fun _ => True else domains) := by
  have hview : SameView slot { metadata with state := rebuilding.code } published
      (published.setPage slot replacement 0 bytes) := by
    apply sameView_setPage
    rintro replica hr ⟨hd, -⟩
    obtain rfl := counted_single hcount hr
    exact hne hd.symm
  have hstored := hview.holding hold
  have hkeep : SamePage slot published (published.setPage slot replacement 0 bytes) :=
    ⟨onlyAt_setPage _ _ _ _ _, rfl⟩
  have hvalid := fieldsValid_rebuilt hold.valid hready.some hdomain hne bytes
  have hpage : replicaPage (published.setPage slot replacement 0 bytes) slot metadata 0 = bytes := by
    have hin := hview.pages 0 hready.some
    have hbytes := hmirrors 0 (mem_validReplicas.mpr ⟨hready.some, hready.all 0 hready.some⟩)
    calc replicaPage (published.setPage slot replacement 0 bytes) slot metadata 0
        = replicaPage published slot metadata 0 := hin
      _ = replicaPage after slot metadata 0 := by
        unfold replicaPage
        rw [hstorage]
      _ = bytes := hbytes
  have hsound := hready.all 0 hready.some
  unfold replicaValid at hsound
  simp only [Bool.and_eq_true, Bool.not_eq_true', decide_eq_true_eq] at hsound
  rw [metadataUpdate_sealed hstored.object hold.valid hvalid]
  by_cases hspent : sequence + 1 = 0
  · rw [if_pos hspent]
    refine ⟨_, rfl, hsame.trans hkeep, sequence, _, hstored, ?_, ?_⟩
    · intro replica hreplica
      obtain rfl := counted_single hcount (mem_validReplicas.mp hreplica).1
      exact hpage
    · intro domain hd
      obtain ⟨-, hother, hall⟩ := hshield domain hd
      have hstate : rebuilding.code ≠ PageState.failed.code := by decide
      refine ⟨hstate, hother, ?_⟩
      intro replica hr hne'
      have hunmoved : replicaPage published slot { metadata with state := rebuilding.code }
          replica = replicaPage after slot metadata replica := by
        unfold replicaPage
        rw [hstorage]
      have hstill : replicaValid published slot
          { metadata with state := rebuilding.code } replica =
          replicaValid after slot metadata replica :=
        replicaValid_congr rfl rfl hunmoved hdomains
      rw [hview.valid hr, hstill]
      exact hall replica hr hne'
  · rw [if_neg hspent]
    refine ⟨_, rfl, hsame.trans (hkeep.trans (samePage_setMetadata _ _ _)), ?_⟩
    have hstate : healthy.code ≠ PageState.failed.code := by decide
    apply sound_of_publish hstored hvalid rfl
    · intro replica _
      fin_cases replica
      · refine ⟨hpage, ?_, ?_⟩
        · show metadata.replicaCrc32 0 = pageCrc32 bytes
          rw [← hsound.2, hmirrors 0 (mem_validReplicas.mpr ⟨hready.some, hready.all 0 hready.some⟩)]
        · show published.failedDomains (metadata.domain 0) = false
          rw [hdomains]
          exact hsound.1
      · refine ⟨setPage_here _ _ _, rfl, ?_⟩
        show published.failedDomains replacement = false
        rw [hdomains]
        exact hfailed
    · intro domain _
      refine ⟨hstate, ?_⟩
      by_cases hd : metadata.domain 0 = domain
      · exact ⟨1, (by decide : (1 : Fin 2).val < (2 : UInt32).toNat), fun h => hne (h.trans hd.symm)⟩
      · exact ⟨0, (by decide : (0 : Fin 2).val < (2 : UInt32).toNat), hd⟩

theorem rebuild_spec (hlive : Live pool handle)
    (hsound : PageSound pool handle.slot.toNat bytes domains) :
    SamePage handle.slot.toNat pool (rebuild pool handle).2 ∧
      PageSound (rebuild pool handle).2 handle.slot.toNat bytes
        (if (rebuild pool handle).1.succeeded = true then fun _ => True else domains) := by
  have hentry := entry_of_sound hlive hsound
  unfold rebuild
  generalize resolveAssess pool handle = entry at hentry ⊢
  cases hentry with
  | refused result after hresult hsame hafter =>
    simp only [hresult]
    exact ⟨hsame, hafter⟩
  | entered assessment after sequence hresult hsource hsame hold hmirrors hready hshield hspare =>
    have hkept : PageSound after handle.slot.toNat bytes domains :=
      ⟨sequence, assessment.metadata, hold, hmirrors, hshield⟩
    simp only
    split
    next => exact ⟨hsame, hkept⟩
    next hstate =>
      push Not at hstate
      obtain ⟨hdegraded, hcount⟩ := hstate
      cases hreplacement : replacementDomain after assessment.metadata with
      | none => exact ⟨hsame, hkept⟩
      | some replacement =>
        obtain ⟨hdomain, hfailed, hne⟩ := replacementDomain_spec hreplacement
        obtain ⟨-, -, -, hindex, -⟩ := fieldsValid_iff.mp hold.valid
        obtain ⟨hdomain0, hbank0⟩ := hindex 0 hready.some
        have hrebuilding : fieldsValid
            { assessment.metadata with state := rebuilding.code } = true :=
          fieldsValid_single hold.valid rfl rfl rfl hcount (.inr rfl) hdomain0 hbank0
        rw [metadataUpdate_sealed hold.object hold.valid hrebuilding]
        by_cases hspent : sequence + 1 = 0
        · rw [if_pos hspent]
          exact ⟨hsame, hkept⟩
        · rw [if_neg hspent, hsource]
          have hbytes : replicaPage after handle.slot.toNat assessment.metadata 0 = bytes := by
            apply hmirrors 0
            exact mem_validReplicas.mpr ⟨hready.some, hready.all 0 hready.some⟩
          have hpublished := hold.publish hrebuilding rfl (sequence + 1)
          have hpublish : SamePage handle.slot.toNat after (after.setMetadata handle.slot.toNat
              (sealedObject (sequence + 1)
                { assessment.metadata with state := rebuilding.code })) :=
            samePage_setMetadata _ _ _
          have htarget : replicaPage (after.setMetadata handle.slot.toNat (sealedObject (sequence + 1)
              { assessment.metadata with state := rebuilding.code })) handle.slot.toNat
              { assessment.metadata with state := rebuilding.code } 0 = bytes := hbytes
          obtain ⟨⟨stored, final⟩, hupdate, hfinal, hsound'⟩ := rebuild_publish hready hmirrors
            hshield hcount hpublished hdomain hfailed hne (hsame.trans hpublish)
            (setMetadata_storage _) (setMetadata_failed _)
          simp only [htarget]
          rw [hupdate]
          cases stored with
          | false => exact ⟨hfinal, hsound'⟩
          | true => exact ⟨hfinal, hsound'⟩

end ReistOs.Pages
