import ReistOs.IpcRuns

/-! What the capabilities of `kernel/ipc/ipc.c` guarantee in every run. -/

namespace ReistOs

open Attempt

variable {s s' : IpcState} {slot : IpcSlot} {i j : IpcRecordSlot} {p q : IpcProcessSlot}
  {handle rights required : UInt32} {identity : IpcIdentity} {call : IpcCall}
  {r : Except IpcError IpcReply} {grants : List IpcGrant}

def latestRights (grants : List IpcGrant) (handle : UInt32) (identity : IpcIdentity) :
    Option UInt32 :=
  (grants.find? fun g => g.handle == handle && g.identity == identity).map IpcGrant.rights

theorem latestRights_same : latestRights (⟨handle, identity, rights⟩ :: grants) handle identity =
    some rights := by
  unfold latestRights
  rw [List.find?_cons_of_pos (by simp), Option.map_some]

theorem latestRights_other {g : IpcGrant} (h : g.handle = handle → g.identity ≠ identity) :
    latestRights (g :: grants) handle identity = latestRights grants handle identity := by
  unfold latestRights
  rw [List.find?_cons_of_neg]
  simpa using h

/-- Every record is of the last capability that its holder was given for the handle. -/
def Granted (s : IpcState) (grants : List IpcGrant) : Prop :=
  ∀ i, (s.records i).active = true →
    latestRights grants (s.records i).handle (s.records i).holderIdentity = some (s.records i).rights

variable {k : Fin ipcMaxCapabilitiesPerProcess} {reply : IpcReply}

theorem granted_grant (h : Granted s grants) (hgrant : Grantable s p k i handle slot rights) :
    Granted (s.grant p k i handle slot rights)
      (⟨handle, (s.processes p).identity, rights⟩ :: grants) := by
  intro j hj
  by_cases hji : j = i
  · subst hji
    rw [grant_records, if_pos rfl]
    exact latestRights_same
  · rw [grant_records, if_neg hji] at hj ⊢
    rw [latestRights_other]
    · exact h j hj
    · exact fun hhandle hidentity => hgrant.single j hj hhandle.symm hidentity.symm

theorem granted_faded (h : Granted s grants) (hfaded : Faded s s') : Granted s' grants := by
  intro j hj
  have hsame := hfaded.record j hj
  rw [hsame] at hj ⊢
  exact h j hj

theorem IpcMove.granted (hmove : IpcMove s call r s') (htables : IpcTables s)
    (h : Granted s grants) : Granted s' (s.grants call r ++ grants) := by
  cases hmove with
  | faded hfaded hr =>
    rw [hr]
    exact granted_faded h hfaded
  | @created p slot s1 k i hcreated =>
    have hbefore : Granted s1 grants := granted_faded h hcreated.faded
    have hopened : Granted (s1.opened p slot) grants := hbefore
    have hgrant := granted_grant hopened (hcreated.grantable htables)
    have hidentity : ((s1.opened p slot).processes p).identity = (s.processes p).identity :=
      hcreated.faded.identity p
    rw [hidentity] at hgrant
    exact hgrant
  | delegated hdelegated => exact granted_grant h hdelegated.grantable
  | stirred hstirred hr =>
    rw [hr]
    intro j hj
    rw [hstirred.records] at hj ⊢
    exact h j hj
  | started _ => exact h

def IpcState.Resolves (s : IpcState) (p : IpcProcessSlot) (handle : UInt32) : Prop :=
  ∃ required slot, (resolveCapability p handle required () 0 s).1 = .ok slot

theorem resolved_of_ok (h : IpcTables s)
    (hok : (resolveCapability p handle required () 0 s).1 = .ok slot) :
    s.Resolved p handle required slot := by
  have htriple : Triple (fun s' => s' = s) (resolveCapability p handle required)
      (fun slot s' => s' = s ∧ s.Resolved p handle required slot) (fun _ => Faded s) :=
    resolveCapability_triple h
  have hend := htriple () 0 s rfl
  rw [hok] at hend
  exact hend.2

theorem IpcState.Resolved.readable (h : s.Resolved p handle required slot) :
    ∃ i, (s.records i).active = true ∧ s.recordIntact i = true ∧ (s.records i).handle = handle ∧
      (s.records i).holderIdentity = (s.processes p).identity ∧
      (s.records i).rights &&& required = required := by
  obtain ⟨i, hrecord, -, hrights⟩ := h.record
  obtain ⟨hintact, hi, hhandle, hidentity⟩ := capabilityRecordFor_some hrecord
  exact ⟨i, hi, hintact, hhandle, hidentity, hrights⟩

theorem dead_unresolved (h : IpcTables s) (hdead : s.Dead handle) : ¬ s.Resolves p handle := by
  rintro ⟨required, slot, hok⟩
  have hresolved := resolved_of_ok h hok
  obtain ⟨slot', g, hhandle, hle, hinactive⟩ := hdead
  have hg : g ≤ ipcHandleGenerationMax := UInt32.le_trans hle (h.sound.bounded slot')
  obtain ⟨rfl, rfl⟩ := ipcMakeHandle_inj hg (h.sound.bounded slot)
    (hhandle.symm.trans hresolved.current)
  exact Bool.false_ne_true ((hinactive rfl).symm.trans hresolved.active)

theorem unheld_unresolved (h : IpcTables s) (hunheld : s.Unheld handle (s.processes p).identity) :
    ¬ s.Resolves p handle := by
  rintro ⟨required, slot, hok⟩
  obtain ⟨i, hi, hintact, hhandle, hidentity, -⟩ := (resolved_of_ok h hok).readable
  exact hunheld i hi hintact hhandle hidentity

theorem IpcMove.endpoints (hmove : IpcMove s call r s') (slot : IpcSlot) :
    (s.endpoints slot).generation ≤ (s'.endpoints slot).generation ∧
      ((s'.endpoints slot).active = true →
        (s'.endpoints slot).generation = (s.endpoints slot).generation →
          (s.endpoints slot).active = true) := by
  have hframe : ∀ {t : IpcState}, (t.endpoints slot).frame = (s.endpoints slot).frame →
      (s.endpoints slot).generation ≤ (t.endpoints slot).generation ∧
        ((t.endpoints slot).active = true →
          (t.endpoints slot).generation = (s.endpoints slot).generation →
            (s.endpoints slot).active = true) := by
    intro t ht
    obtain ⟨hactive, hgeneration, -⟩ := frame_eq ht
    rw [hgeneration, hactive]
    exact ⟨UInt32.le_refl _, fun h _ => h⟩
  cases hmove with
  | faded hfaded _ => exact ⟨hfaded.generation slot, fun hactive _ => hfaded.active hactive⟩
  | @created p opened s1 k i hcreated =>
    have hlater := hcreated.faded.generation slot
    show _ ≤ ((s1.opened p opened).endpoints slot).generation ∧
      (((s1.opened p opened).endpoints slot).active = true →
        ((s1.opened p opened).endpoints slot).generation = _ → _)
    by_cases hslot : slot = opened
    · subst hslot
      obtain ⟨hlt, -, -⟩ := succ_generation hcreated.bound
      have hnew : (s.endpoints slot).generation < (s1.endpoints slot).generation + 1 :=
        UInt32.lt_of_le_of_lt hlater hlt
      rw [opened_self]
      refine ⟨UInt32.le_of_lt hnew, fun _ heq => ?_⟩
      have hsame : (s1.endpoints slot).generation + 1 = (s.endpoints slot).generation := heq
      rw [hsame] at hnew
      exact absurd hnew (UInt32.lt_irrefl _)
    · have hsame : (s1.opened p opened).endpoints slot = s1.endpoints slot := by
        unfold IpcState.opened
        rw [endpoints_setEndpoint, if_neg hslot]
      rw [hsame]
      exact ⟨hlater, fun hactive _ => hcreated.faded.active hactive⟩
  | delegated hdelegated => exact hframe (delegated_frame slot)
  | stirred hstirred _ => exact hframe (hstirred.frames slot)
  | started _ => exact hframe rfl

theorem IpcMove.dead (hmove : IpcMove s call r s') (hdead : s.Dead handle) : s'.Dead handle := by
  obtain ⟨slot, g, hhandle, hle, hinactive⟩ := hdead
  obtain ⟨hlater, hstill⟩ := hmove.endpoints slot
  refine ⟨slot, g, hhandle, UInt32.le_trans hle hlater, fun heq => ?_⟩
  have hsame : g = (s.endpoints slot).generation := UInt32.le_antisymm hle (heq ▸ hlater)
  rw [Bool.eq_false_iff]
  intro hactive
  have hopen := hstill hactive (heq.symm.trans hsame)
  exact Bool.false_ne_true ((hinactive hsame).symm.trans hopen)

def IpcState.Issued (s : IpcState) (handle : UInt32) : Prop :=
  ∃ slot g, handle = ipcMakeHandle slot g ∧ g ≤ (s.endpoints slot).generation

theorem IpcMove.issued (hmove : IpcMove s call r s') (h : s.Issued handle) : s'.Issued handle := by
  obtain ⟨slot, g, hhandle, hle⟩ := h
  exact ⟨slot, g, hhandle, UInt32.le_trans hle (hmove.endpoints slot).1⟩

theorem IpcState.Created.fresh {s1 : IpcState}
    (h : s.Created p slot s1 k i) (htables : IpcTables s) (hissued : s.Issued handle) :
    s1.nextHandle slot ≠ handle := by
  intro hhandle
  obtain ⟨slot', g, hold, hle⟩ := hissued
  obtain ⟨hlt, hbound, -⟩ := succ_generation h.bound
  have hg : g ≤ ipcHandleGenerationMax := UInt32.le_trans hle (htables.sound.bounded slot')
  have hnew : ipcMakeHandle slot ((s1.endpoints slot).generation + 1) = ipcMakeHandle slot' g :=
    hhandle.trans hold
  obtain ⟨rfl, heq⟩ := ipcMakeHandle_inj hbound hg hnew
  rw [← heq] at hle
  have hlater := UInt32.le_trans hle (h.faded.generation slot)
  exact UInt32.not_lt.mpr hlater hlt

theorem IpcMove.grants_issued (hmove : IpcMove s call r s')
    (h : ∀ g ∈ grants, s.Issued g.handle) : ∀ g ∈ s.grants call r ++ grants, s'.Issued g.handle := by
  intro g hg
  rcases List.mem_append.mp hg with hnew | hold
  · cases hmove with
    | faded _ hr =>
      rw [hr] at hnew
      exact absurd hnew (List.not_mem_nil)
    | @created p slot s1 k i hcreated =>
      obtain rfl := List.mem_singleton.mp hnew
      refine ⟨slot, (s1.endpoints slot).generation + 1, rfl, ?_⟩
      show _ ≤ ((s1.opened p slot).endpoints slot).generation
      rw [opened_self]
      exact UInt32.le_refl _
    | @delegated source given target right slot k i hdelegated =>
      obtain rfl := List.mem_singleton.mp hnew
      refine ⟨slot, (s.endpoints slot).generation, hdelegated.resolved.current, ?_⟩
      rw [(frame_eq (delegated_frame slot)).2.1]
      exact UInt32.le_refl _
    | stirred _ hr =>
      rw [hr] at hnew
      exact absurd hnew (List.not_mem_nil)
    | started _ => exact absurd hnew (List.not_mem_nil)
  · exact hmove.issued (h g hold)

theorem IpcMove.unheld (hmove : IpcMove s call r s')
    (h : s.Unheld handle identity)
    (hnone : ∀ g ∈ s.grants call r, g.handle = handle → g.identity ≠ identity) :
    s'.Unheld handle identity := by
  have hfaded : ∀ {t}, Faded s t → t.Unheld handle identity := by
    intro t ht i hi hintact
    have hsame := ht.record i hi
    rw [hsame] at hi ⊢
    exact h i hi (ht.recordIntact i hintact)
  cases hmove with
  | faded ht _ => exact hfaded ht
  | @created p slot s1 k i hcreated =>
    intro j hj hintact
    by_cases hji : j = i
    · have hidentity : ((s1.opened p slot).processes p).identity = (s.processes p).identity :=
        hcreated.faded.identity p
      rw [grant_records, if_pos hji]
      intro hhandle
      show ((s1.opened p slot).processes p).identity ≠ identity
      rw [hidentity]
      exact hnone _ List.mem_cons_self hhandle
    · have hsame : ((s1.opened p slot).grant p k i (s1.nextHandle slot) slot ipcAllRights).records j =
          s1.records j := by
        rw [grant_records, if_neg hji]
        rfl
      rw [hsame] at hj ⊢
      exact hfaded hcreated.faded j hj hintact
  | @delegated source given target right slot k i hdelegated =>
    intro j hj hintact
    by_cases hji : j = i
    · rw [delegated_records, if_pos hji]
      exact hnone _ List.mem_cons_self
    · rw [delegated_records, if_neg hji] at hj ⊢
      exact h j hj hintact
  | stirred ht _ =>
    intro j hj hintact
    rw [ht.records] at hj ⊢
    rw [ht.recordIntact] at hintact
    exact h j hj hintact
  | started _ => exact h

theorem history_concat (s : IpcState) (calls : List IpcCall) (call : IpcCall) :
    s.history (calls ++ [call]) = ((s.history calls).1.after call,
      (s.history calls).1.grants call ((s.history calls).1.result call) ++ (s.history calls).2) := by
  unfold IpcState.history
  rw [List.foldl_append]
  rfl

theorem history_keeps {P : IpcState → List IpcGrant → Prop} (h : IpcTables s) (hstart : P s [])
    (hmove : ∀ s grants call r s', IpcTables s → IpcMove s call r s' → P s grants →
      P s' (s.grants call r ++ grants)) (calls : List IpcCall) :
    IpcTables (s.history calls).1 ∧ P (s.history calls).1 (s.history calls).2 := by
  induction calls using List.reverseRecOn with
  | nil => exact ⟨h, hstart⟩
  | append_singleton calls call ih =>
    obtain ⟨htables, hkept⟩ := ih
    have hstep := (step_after htables call).move htables
    rw [history_concat]
    exact ⟨hstep.tables htables, hmove _ _ _ _ _ htables hstep hkept⟩

theorem history_granted (calls : List IpcCall) :
    IpcTables (ipcInit.history calls).1 ∧
      Granted (ipcInit.history calls).1 (ipcInit.history calls).2 ∧
      ∀ g ∈ (ipcInit.history calls).2, (ipcInit.history calls).1.Issued g.handle := by
  apply history_keeps (P := fun s grants => Granted s grants ∧ ∀ g ∈ grants, s.Issued g.handle)
    tables_init
  · exact ⟨fun _ hi => absurd hi Bool.false_ne_true, by simp⟩
  · intro s grants call r s' htables hmove h
    exact ⟨hmove.granted htables h.1, hmove.grants_issued h.2⟩

theorem history_dead (h : IpcTables s) (hdead : s.Dead handle) (calls : List IpcCall) :
    ¬ (s.history calls).1.Resolves p handle := by
  obtain ⟨htables, hstill⟩ := history_keeps (P := fun s _ => s.Dead handle) h hdead
    (fun _ _ _ _ _ _ hmove => hmove.dead) calls
  exact dead_unresolved htables hstill

theorem history_unheld (h : IpcTables s) (hunheld : s.Unheld handle identity) (calls : List IpcCall)
    (hnone : ∀ g ∈ (s.history calls).2, g.handle = handle → g.identity ≠ identity)
    (hp : ((s.history calls).1.processes p).identity = identity) :
    ¬ (s.history calls).1.Resolves p handle := by
  obtain ⟨htables, hstill⟩ := history_keeps (P := fun s grants =>
    (∀ g ∈ grants, g.handle = handle → g.identity ≠ identity) → s.Unheld handle identity) h
    (fun _ => hunheld) (fun s grants call r s' _ hmove hkept hall => hmove.unheld
      (hkept fun g hg => hall g (List.mem_append_right _ hg))
      fun g hg => hall g (List.mem_append_left _ hg)) calls
  apply unheld_unresolved htables
  rw [hp]
  exact hstill hnone

/-- What holds of the capabilities of a state of a run, and of all that may follow. -/
structure CapabilitySafety (s : IpcState) (grants : List IpcGrant) : Prop where
  /-- A handle resolves only for the instance that it was given to, with the rights last given. -/
  resolves : ∀ p handle required slot,
    (resolveCapability p handle required () 0 s).1 = .ok slot →
      (s.endpoints slot).active = true ∧
      handle = ipcMakeHandle slot (s.endpoints slot).generation ∧
      ∃ rights, latestRights grants handle (s.processes p).identity = some rights ∧
        rights &&& required = required
  fresh : ∀ p handle, s.result (.create p) = .ok (.created handle) → ∀ g ∈ grants, g.handle ≠ handle
  delegates : ∀ source handle target rights reply,
    s.result (.delegate source handle target rights) = .ok reply →
      rights &&& ipcRightControl = 0 ∧
      ∃ given, latestRights grants handle (s.processes source).identity = some given ∧
        given &&& rights = rights
  single : ∀ i j, (s.records i).active = true → s.recordIntact i = true →
    (s.records j).active = true → s.recordIntact j = true →
    (s.records i).endpointSlot = (s.records j).endpointSlot →
    ((s.records i).IsControl ↔ (s.records j).IsControl) → i = j
  counted : ∀ slot, (s.endpoints slot).active = true →
    (s.endpoints slot).peerCapabilities = Set.ncard {i | s.PeerOf slot i} ∧
      Set.ncard {i | s.PeerOf slot i} ≤ 1
  recorded : ∀ p k, ((s.processes p).ipcCapabilities k).inUse = true → ∃ i,
    (s.records i).active = true ∧ (s.records i).holder = some p ∧
    (s.processes p).identity = (s.records i).holderIdentity ∧
    (s.processes p).ipcCapabilities k = (s.records i).capability
  held : ∀ i, (s.records i).active = true → s.recordIntact i = true → ∃ p k,
    (s.records i).holder = some p ∧ (s.processes p).identity = (s.records i).holderIdentity ∧
    (s.processes p).ipcCapabilities k = (s.records i).capability ∧
    ∀ k', (s.processes p).ipcCapabilities k' = (s.records i).capability → k' = k
  /-- Nobody uses the handle of an endpoint that is closed. -/
  closed : ∀ p handle reply, s.result (.close p handle) = .ok reply → ∀ later q,
    ¬ ((s.after (.close p handle)).history later).1.Resolves q handle
  quarantined : ∀ slot later q, ¬ ((s.after (.quarantine slot)).history later).1.Resolves q
    (ipcMakeHandle slot (s.endpoints slot).generation)
  orphaned : ∀ identity slot, identity.live = true → (s.endpoints slot).active = true →
    (s.endpoints slot).owner = identity → ∀ later q,
      ¬ ((s.after (.cleanup identity)).history later).1.Resolves q
        (ipcMakeHandle slot (s.endpoints slot).generation)
  /-- An instance that has released a handle uses it only when it is given it again. -/
  released : ∀ p handle reply, s.result (.release p handle) = .ok reply → ∀ later,
    (∀ g ∈ ((s.after (.release p handle)).history later).2, g.handle = handle →
      g.identity ≠ (s.processes p).identity) → ∀ q,
        (((s.after (.release p handle)).history later).1.processes q).identity =
          (s.processes p).identity →
        ¬ ((s.after (.release p handle)).history later).1.Resolves q handle
  cleaned : ∀ identity handle, identity.live = true → ∀ later,
    (∀ g ∈ ((s.after (.cleanup identity)).history later).2, g.handle = handle →
      g.identity ≠ identity) → ∀ q,
        (((s.after (.cleanup identity)).history later).1.processes q).identity = identity →
        ¬ ((s.after (.cleanup identity)).history later).1.Resolves q handle

theorem peers_counted (h : IpcTables s) (hactive : (s.endpoints slot).active = true) :
    (s.endpoints slot).peerCapabilities = Set.ncard {i | s.PeerOf slot i} ∧
      Set.ncard {i | s.PeerOf slot i} ≤ 1 := by
  by_cases hsome : ∃ i, s.PeerOf slot i
  · obtain ⟨i, hi⟩ := hsome
    have halone : {j | s.PeerOf slot j} = {i} := by
      ext j
      refine ⟨fun hj => ?_, fun hj => ?_⟩
      · have hcurrent := hi.current
        have hcurrent' := hj.current
        unfold IpcState.Current at hcurrent hcurrent'
        rw [hi.slot] at hcurrent
        rw [hj.slot] at hcurrent'
        apply h.sound.unique j i hj.active hi.active (hcurrent'.trans hcurrent.symm)
        exact ⟨fun hc => absurd hc hj.peer, fun hc => absurd hc hi.peer⟩
      · rw [Set.mem_singleton_iff.mp hj]
        exact hi
    rw [halone, Set.ncard_singleton]
    exact ⟨h.counted.one slot hactive ⟨i, hi⟩, le_refl 1⟩
  · have hempty : {i | s.PeerOf slot i} = ∅ := by
      ext j
      exact ⟨fun hj => absurd ⟨j, hj⟩ hsome, fun hj => absurd hj (Set.notMem_empty j)⟩
    rw [hempty, Set.ncard_empty]
    exact ⟨h.counted.zero slot hactive hsome, Nat.zero_le 1⟩

theorem granted_resolves (hgranted : Granted s grants)
    (hresolved : s.Resolved p handle required slot) :
    ∃ rights, latestRights grants handle (s.processes p).identity = some rights ∧
      rights &&& required = required := by
  obtain ⟨i, hi, -, hhandle, hidentity, hrights⟩ := hresolved.readable
  refine ⟨(s.records i).rights, ?_, hrights⟩
  rw [← hhandle, ← hidentity]
  exact hgranted i hi

theorem Faded.dead (h : Faded s s') (hgone : (s'.endpoints slot).active = false) :
    s'.Dead (ipcMakeHandle slot (s.endpoints slot).generation) :=
  ⟨slot, _, rfl, h.generation slot, fun _ => hgone⟩

theorem step_created (h : IpcTables s) (hok : s.result (.create p) = .ok (.created handle))
    (hissued : ∀ g ∈ grants, s.Issued g.handle) : ∀ g ∈ grants, g.handle ≠ handle := by
  have hstep := step_after h (.create p)
  rw [hok] at hstep
  generalize s.after (.create p) = s' at hstep
  cases hstep with
  | created hcreated => exact fun g hg heq => hcreated.fresh h (hissued g hg) heq.symm

theorem step_delegated {source target : IpcProcessSlot} (h : IpcTables s)
    (hok : s.result (.delegate source handle target rights) = .ok reply) :
    rights &&& ipcRightControl = 0 ∧ ∃ slot, s.Resolved source handle rights slot := by
  have hstep := step_after h (.delegate source handle target rights)
  rw [hok] at hstep
  generalize s.after (.delegate source handle target rights) = s' at hstep
  cases hstep with
  | waits hcall => exact hcall.elim
  | delegated hdelegated => exact ⟨hdelegated.peer, _, hdelegated.resolved⟩
  | damaged hdamages _ => exact hdamages.elim

theorem step_closed (h : IpcTables s)
    (hok : s.result (.close p handle) = .ok reply) : (s.after (.close p handle)).Dead handle := by
  have hstep := step_after h (.close p handle)
  rw [hok] at hstep
  generalize s.after (.close p handle) = s' at hstep ⊢
  cases hstep with
  | waits hcall => exact hcall.elim
  | closed hfaded hresolved hgone =>
    rw [hresolved.current]
    exact hfaded.dead hgone
  | damaged hdamages _ => exact hdamages.elim

theorem step_released (h : IpcTables s) (hok : s.result (.release p handle) = .ok reply) :
    (s.after (.release p handle)).Unheld handle (s.processes p).identity := by
  have hstep := step_after h (.release p handle)
  rw [hok] at hstep
  generalize s.after (.release p handle) = s' at hstep ⊢
  cases hstep with
  | waits hcall => exact hcall.elim
  | released _ _ hgone => exact hgone
  | damaged hdamages _ => exact hdamages.elim

theorem step_cleaned (h : IpcTables s) (hlive : identity.live = true) :
    Faded s (s.after (.cleanup identity)) ∧ (s.after (.cleanup identity)).Cleaned identity := by
  apply Triple.settles (P := fun s' => Faded s s' ∧ s'.Cleaned identity)
  exact done_triple (ipcProcessCleanup_triple h) (fun s' hs => ⟨hs.1, hs.2 hlive⟩)
    fun _ _ hf => hf

theorem step_quarantined (h : IpcTables s) :
    (s.after (.quarantine slot)).Dead (ipcMakeHandle slot (s.endpoints slot).generation) := by
  have hrevoked := quarantineEndpoint_revoked slot h.sound h.counted
  have hquarantined : Triple (fun t => t = s) (IpcCall.quarantine slot).exec
      (fun _ t => t.Dead (ipcMakeHandle slot (s.endpoints slot).generation)) fun _ _ => False :=
    Triple.update (Triple.done ((hrevoked.faded h).dead hrevoked.inactive))
  exact hquarantined.settles () 0

theorem ipcCapabilities_safe (calls : List IpcCall) :
    CapabilitySafety (ipcInit.history calls).1 (ipcInit.history calls).2 := by
  obtain ⟨h, hgranted, hissued⟩ := history_granted calls
  generalize (ipcInit.history calls).1 = s at h hgranted hissued ⊢
  generalize (ipcInit.history calls).2 = grants at hgranted hissued ⊢
  refine
    { resolves := ?_
      fresh := fun p handle hok => step_created h hok hissued
      delegates := ?_
      single := ?_
      counted := fun slot hactive => peers_counted h hactive
      recorded := h.sound.recorded
      held := ?_
      closed := ?_
      quarantined := ?_
      orphaned := ?_
      released := ?_
      cleaned := ?_ }
  · intro p handle required slot hok
    have hresolved := resolved_of_ok h hok
    exact ⟨hresolved.active, hresolved.current, granted_resolves hgranted hresolved⟩
  · intro source handle target rights reply hok
    obtain ⟨hpeer, slot, hresolved⟩ := step_delegated h hok
    exact ⟨hpeer, granted_resolves hgranted hresolved⟩
  · intro i j hi hintact hj hintact' hslot hkind
    have hcurrent := h.sound.current i hi hintact
    have hcurrent' := h.sound.current j hj hintact'
    unfold IpcState.Current at hcurrent hcurrent'
    rw [hslot] at hcurrent
    exact h.sound.unique i j hi hj (hcurrent.trans hcurrent'.symm) hkind
  · intro i hi hintact
    obtain ⟨p, k, hholder, hidentity, hcapability⟩ := h.sound.held i hi hintact
    refine ⟨p, k, hholder, hidentity, hcapability, fun k' hcapability' => ?_⟩
    apply h.sound.slots p k' k
    · rw [hcapability']
      rfl
    · rw [hcapability]
      rfl
    · rw [hcapability', hcapability]
  · intro p handle reply hok later q
    exact history_dead (tables_after h _) (step_closed h hok) later
  · intro slot later q
    exact history_dead (tables_after h _) (step_quarantined h) later
  · intro identity slot hlive hactive howner later q
    obtain ⟨hfaded, hcleaned⟩ := step_cleaned h hlive
    apply history_dead (tables_after h _) _ later
    apply hfaded.dead
    rw [Bool.eq_false_iff]
    intro hstill
    have hkept := hcleaned.endpoint slot hstill
    rw [(frame_eq (hfaded.frame hstill)).2.2] at hkept
    exact hkept howner
  · intro p handle reply hok later hnone q hq
    exact history_unheld (tables_after h _) (step_released h hok) later hnone hq
  · intro identity handle hlive later hnone q hq
    obtain ⟨-, hcleaned⟩ := step_cleaned h hlive
    exact history_unheld (tables_after h _) (hcleaned.unheld handle) later hnone hq

/-- The owner of an endpoint may give a handle to a peer again that has released it. -/
theorem ipcRelease_revived : ¬ ∀ (calls later : List IpcCall) (p : IpcProcessSlot) (handle : UInt32),
    (ipcInit.history calls).1.result (.release p handle) = .ok .done →
      ¬ (((ipcInit.history calls).1.after (.release p handle)).history later).1.Resolves p handle := by
  intro h
  apply h [.start firstProcess ⟨1, 1⟩, .start secondProcess ⟨2, 1⟩, .create firstProcess,
      .delegate firstProcess (ipcMakeHandle firstEndpoint 1) secondProcess 3]
    [.delegate firstProcess (ipcMakeHandle firstEndpoint 1) secondProcess 3] secondProcess
    (ipcMakeHandle firstEndpoint 1)
  · decide +kernel
  · exact ⟨3, firstEndpoint, by decide +kernel⟩

end ReistOs
