import ReistOs.TcpClosing

/-! Passive opens: listeners, the children that accept has not handed out, and the tuples of the
connections. -/

namespace ReistOs

namespace TcpControlBlock

def Unaccepted (c : TcpControlBlock) : Prop := c.accepted = false ∧ c.listenerSlot ≠ 0

instance (c : TcpControlBlock) : Decidable c.Unaccepted := by unfold Unaccepted; infer_instance

/-- A block with a connection: it has the address of a peer and is no listener. -/
def Connected (c : TcpControlBlock) : Prop :=
  c.active = true ∧ c.remoteIp ≠ 0 ∧ c.state ≠ .listen

def SameTuple (a b : TcpControlBlock) : Prop :=
  a.localPort = b.localPort ∧ a.remoteIp = b.remoteIp ∧ a.remotePort = b.remotePort

structure ParentOf (listener child : TcpControlBlock) : Prop where
  active : listener.active = true
  state : listener.state = .listen
  owner : listener.owner = child.owner
  localPort : listener.localPort = child.localPort

/-- A step that makes no new child, listener or connection of the block. -/
structure Quiet (c c' : TcpControlBlock) : Prop where
  active : c'.active = true → c.active = true
  owner : c'.active = true → c'.owner = c.owner
  tuple : c'.active = true → c'.SameTuple c
  backlog : c'.active = true → c'.backlog = c.backlog
  listens : c'.active = true → (c'.state = .listen ↔ c.state = .listen)
  unaccepted : c'.active = true → c'.Unaccepted → c.Unaccepted ∧ c'.listenerSlot = c.listenerSlot

theorem Quiet.refl (c : TcpControlBlock) : Quiet c c :=
  ⟨id, fun _ => rfl, fun _ => ⟨rfl, rfl, rfl⟩, fun _ => rfl, fun _ => Iff.rfl, fun _ h => ⟨h, rfl⟩⟩

theorem quiet_retire (c : TcpControlBlock) : Quiet c c.retire :=
  ⟨nofun, nofun, nofun, nofun, nofun, nofun⟩

theorem quiet_state {c c' : TcpControlBlock} (hactive : c'.active = c.active)
    (howner : c'.owner = c.owner) (htuple : c'.SameTuple c) (hbacklog : c'.backlog = c.backlog)
    (haccepted : c'.accepted = c.accepted) (hlistener : c'.listenerSlot = c.listenerSlot)
    (hstate : c'.state = .listen ↔ c.state = .listen) : Quiet c c' := by
  refine ⟨fun h => hactive ▸ h, fun _ => howner, fun _ => htuple, fun _ => hbacklog,
    fun _ => hstate, ?_⟩
  rintro _ ⟨hnot, hne⟩
  rw [haccepted] at hnot
  rw [hlistener] at hne
  exact ⟨⟨hnot, hne⟩, hlistener⟩

end TcpControlBlock

open TcpControlBlock TcpAnswer

def pendingOf (controls : TcpSlot → TcpControlBlock) (listener : TcpSlot) : Nat :=
  ((List.finRange tcpSocketMaxSockets).filter fun slot => (controls slot).childOf listener).length

/-- Every child that was not handed out has its listener, a listener is not such a child and has no
more of them than its backlog, and no two connections have the same tuple. -/
structure PassiveSound (controls : TcpSlot → TcpControlBlock) : Prop where
  parent : ∀ child, (controls child).active = true → (controls child).Unaccepted →
    ∃ listener : TcpSlot, (controls child).listenerSlot = listener + 1 ∧
      (controls listener).ParentOf (controls child)
  independent : ∀ slot, (controls slot).active = true → (controls slot).state = .listen →
    ¬ (controls slot).Unaccepted
  backlog : ∀ slot, (controls slot).active = true → (controls slot).state = .listen →
    pendingOf controls slot ≤ (controls slot).backlog.toNat
  tuples : ∀ a b, a ≠ b → (controls a).Connected → (controls b).Connected →
    ¬ (controls a).SameTuple (controls b)

def TcpTable.KeepsListeners (s : TcpTable) : TcpEvent → Prop
  | .listen owner handle _ _ now => ∀ slot, (s.sweepPassive now).resolve owner handle = some slot →
    ¬ ((s.sweepPassive now).controls slot).Unaccepted
  | .connect owner handle _ _ _ _ _ => ∀ slot, s.resolve owner handle = some slot →
    ¬ (s.controls slot).Unaccepted
  | .waitForAck wait now _ _ => ∀ slot, s.resolve wait.owner wait.handle = some slot →
    (s.controls slot).state = .listen → (s.controls slot).sendUnacknowledged ≠ wait.expectedAck →
    ¬ (wait.deadline ≤ now ∨ tcpMaxRetries ≤ wait.retry)
  | .closeEnd owner handle _ => ∀ slot, s.resolve owner handle = some slot →
    (s.controls slot).state ≠ .listen
  | .ingress (some segment) data address now _ => ¬ ingressInvalid segment data address →
    ∀ slot, (s.sweepPassive now).firstSlot (·.matchesTuple segment) = some slot →
      ((s.sweepPassive now).controls slot).state = .listen →
      segment.has tcpFlagRst = false ∧
        (((s.sweepPassive now).controls slot).Tail segment →
          ¬ ((s.sweepPassive now).controls slot).reachesFin segment)
  | _ => True

namespace TcpTable

variable {s : TcpTable} {event : TcpEvent} {controls controls' : TcpSlot → TcpControlBlock}
  {k : TcpSlot} {c : TcpControlBlock}

theorem pendingOf_mono (listener : TcpSlot)
    (h : ∀ slot, (controls' slot).childOf listener = true →
      (controls slot).childOf listener = true) :
    pendingOf controls' listener ≤ pendingOf controls listener :=
  (List.monotone_filter_right _ h).length_le

variable {listener : TcpSlot} {c' : TcpControlBlock} {segment : TcpSegment} {now : UInt64}
  {port : UInt16} {events : List TcpEvent} {owner : NetOwner} {outs : Bool} {timeoutMs ip : UInt32}
  {waited : Int}

theorem childOf_unaccepted (h : c.childOf listener = true) :
    c.Unaccepted ∧ c.listenerSlot = listener + 1 := by
  obtain ⟨-, haccepted, hlistener⟩ := childOf_iff.mp h
  exact ⟨⟨haccepted, by omega⟩, hlistener⟩

theorem childOf_of_quiet {c : TcpControlBlock} (h : Quiet c c')
    (hchild : c'.childOf listener = true) : c.childOf listener = true := by
  obtain ⟨hunaccepted, hlistener⟩ := childOf_unaccepted hchild
  have hactive := (childOf_iff.mp hchild).1
  obtain ⟨hbefore, hsame⟩ := h.unaccepted hactive hunaccepted
  exact childOf_iff.mpr ⟨h.active hactive, hbefore.1, hsame.symm.trans hlistener⟩

theorem passiveSound_quiet (h : PassiveSound controls)
    (hquiet : ∀ slot, Quiet (controls slot) (controls' slot))
    (horphans : ∀ listener child, (controls listener).active = true →
      (controls listener).state = .listen → (controls' child).childOf listener = true →
      (controls' listener).active = true) : PassiveSound controls' := by
  refine ⟨?_, ?_, ?_, ?_⟩
  · intro child hactive hunaccepted
    obtain ⟨hbefore, hsame⟩ := (hquiet child).unaccepted hactive hunaccepted
    obtain ⟨listener, hslot, hparent⟩ := h.parent child ((hquiet child).active hactive) hbefore
    have hchild : (controls' child).childOf listener = true :=
      childOf_iff.mpr ⟨hactive, hunaccepted.1, hsame.trans hslot⟩
    have hlive := horphans listener child hparent.active hparent.state hchild
    refine ⟨listener, hsame.trans hslot, hlive, ?_, ?_, ?_⟩
    · exact ((hquiet listener).listens hlive).mpr hparent.state
    · rw [(hquiet listener).owner hlive, (hquiet child).owner hactive]
      exact hparent.owner
    · rw [((hquiet listener).tuple hlive).1, ((hquiet child).tuple hactive).1]
      exact hparent.localPort
  · intro slot hactive hlisten hunaccepted
    exact h.independent slot ((hquiet slot).active hactive)
      (((hquiet slot).listens hactive).mp hlisten)
      ((hquiet slot).unaccepted hactive hunaccepted).1
  · intro slot hactive hlisten
    have hbound := h.backlog slot ((hquiet slot).active hactive)
      (((hquiet slot).listens hactive).mp hlisten)
    rw [(hquiet slot).backlog hactive]
    exact (pendingOf_mono slot fun child hchild => childOf_of_quiet (hquiet child) hchild).trans hbound
  · rintro a b hne ⟨hactiveA, hremoteA, hstateA⟩ ⟨hactiveB, hremoteB, hstateB⟩ hsame
    have htupleA := (hquiet a).tuple hactiveA
    have htupleB := (hquiet b).tuple hactiveB
    refine h.tuples a b hne ⟨(hquiet a).active hactiveA, ?_, ?_⟩
      ⟨(hquiet b).active hactiveB, ?_, ?_⟩ ?_
    · rw [← htupleA.2.1]
      exact hremoteA
    · exact mt ((hquiet a).listens hactiveA).mpr hstateA
    · rw [← htupleB.2.1]
      exact hremoteB
    · exact mt ((hquiet b).listens hactiveB).mpr hstateB
    · exact ⟨htupleA.1.symm.trans (hsame.1.trans htupleB.1),
        htupleA.2.1.symm.trans (hsame.2.1.trans htupleB.2.1),
        htupleA.2.2.symm.trans (hsame.2.2.trans htupleB.2.2)⟩

theorem pendingOf_update (k listener : TcpSlot) (c : TcpControlBlock) :
    pendingOf (Function.update controls k c) listener ≤ pendingOf controls listener + 1 := by
  have hsub : ((List.finRange tcpSocketMaxSockets).filter fun slot =>
        (Function.update controls k c slot).childOf listener) ⊆
      k :: (List.finRange tcpSocketMaxSockets).filter fun slot => (controls slot).childOf listener := by
    intro slot hslot
    by_cases he : slot = k
    · exact List.mem_cons.mpr (.inl he)
    · rw [List.mem_filter, Function.update_of_ne he] at hslot
      exact List.mem_cons_of_mem k (List.mem_filter.mpr hslot)
  exact (List.subperm_of_subset ((List.nodup_finRange _).filter _) hsub).length_le

theorem passiveSound_update (h : PassiveSound controls)
    (hold : ¬ ((controls k).active = true ∧ (controls k).state = .listen))
    (hparent : c.Unaccepted → ∃ listener : TcpSlot, listener ≠ k ∧
      c.listenerSlot = listener + 1 ∧ (controls listener).ParentOf c ∧
      pendingOf controls listener < (controls listener).backlog.toNat)
    (hlisten : c.state = .listen → ¬ c.Unaccepted)
    (htuple : c.Connected → ∀ b, b ≠ k → (controls b).Connected → ¬ c.SameTuple (controls b)) :
    PassiveSound (Function.update controls k c) := by
  have hother : ∀ slot, slot ≠ k → Function.update controls k c slot = controls slot :=
    fun slot hne => Function.update_of_ne hne c controls
  have hself : Function.update controls k c k = c := Function.update_self ..
  have hlive : ∀ listener child, (controls listener).ParentOf child → listener ≠ k := by
    intro listener child hp he
    rw [he] at hp
    exact hold ⟨hp.active, hp.state⟩
  refine ⟨?_, ?_, ?_, ?_⟩
  · intro child hactive hunaccepted
    by_cases he : child = k
    · rw [he, hself] at hunaccepted ⊢
      obtain ⟨listener, hne, hslot, hp, -⟩ := hparent hunaccepted
      refine ⟨listener, hslot, ?_⟩
      rw [hother listener hne]
      exact hp
    · rw [hother child he] at hactive hunaccepted ⊢
      obtain ⟨listener, hslot, hp⟩ := h.parent child hactive hunaccepted
      refine ⟨listener, hslot, ?_⟩
      rw [hother listener (hlive listener _ hp)]
      exact hp
  · intro slot hactive hstate
    by_cases he : slot = k
    · rw [he, hself] at hstate ⊢
      exact hlisten hstate
    · rw [hother slot he] at hactive hstate ⊢
      exact h.independent slot hactive hstate
  · intro slot hactive hstate
    by_cases he : slot = k
    · rw [he, hself] at hstate ⊢
      have hnone : pendingOf (Function.update controls k c) k ≤ pendingOf (fun _ => c.retire) k := by
        refine pendingOf_mono k ?_
        intro child hchild
        exfalso
        by_cases hk : child = k
        · rw [hk, hself] at hchild
          exact hlisten hstate (childOf_unaccepted hchild).1
        · rw [hother child hk] at hchild
          obtain ⟨hunaccepted, hslot⟩ := childOf_unaccepted hchild
          obtain ⟨listener, hsame, hp⟩ := h.parent child (childOf_iff.mp hchild).1 hunaccepted
          exact hlive listener _ hp (Fin.ext (by omega))
      have hzero : pendingOf (fun _ => c.retire) k = 0 := by
        unfold pendingOf
        rw [List.length_eq_zero_iff, List.filter_eq_nil_iff]
        intro child _ hchild
        exact absurd (childOf_iff.mp hchild).1 nofun
      omega
    · rw [hother slot he] at hactive hstate ⊢
      by_cases hchild : c.childOf slot = true
      · obtain ⟨hunaccepted, hslot⟩ := childOf_unaccepted hchild
        obtain ⟨listener, -, hsame, -, hroom⟩ := hparent hunaccepted
        have heq : listener = slot := Fin.ext (by omega)
        rw [heq] at hroom
        exact (pendingOf_update k slot c).trans hroom
      · refine (pendingOf_mono slot ?_).trans (h.backlog slot hactive hstate)
        intro child hc
        by_cases hk : child = k
        · rw [hk, hself] at hc
          exact absurd hc hchild
        · rwa [hother child hk] at hc
  · intro a b hne hconnectedA hconnectedB hsame
    by_cases ha : a = k
    · have hb : b ≠ k := fun he => hne (ha.trans he.symm)
      rw [ha, hself] at hconnectedA hsame
      rw [hother b hb] at hconnectedB hsame
      exact htuple hconnectedA b hb hconnectedB hsame
    · rw [hother a ha] at hconnectedA hsame
      by_cases hb : b = k
      · rw [hb, hself] at hconnectedB hsame
        exact htuple hconnectedB a ha hconnectedA
          ⟨hsame.1.symm, hsame.2.1.symm, hsame.2.2.symm⟩
      · rw [hother b hb] at hconnectedB hsame
        exact h.tuples a b hne hconnectedA hconnectedB hsame

theorem passiveSound_sweep (h : PassiveSound s.controls) (now : UInt64) :
    PassiveSound (s.sweepPassive now).controls := by
  refine passiveSound_quiet h ?_ ?_
  · intro slot
    rcases sweepPassive_cases now slot with he | he
    · rw [he]
      exact .refl _
    · rw [he]
      exact quiet_retire _
  · intro listener child hactive hlisten hchild
    have hnot := h.independent listener hactive hlisten
    have hkept : (s.controls listener).expired now = false := by
      by_contra hexpired
      apply hnot
      unfold TcpControlBlock.expired at hexpired
      simp only [Bool.not_eq_false, Bool.and_eq_true, Bool.not_eq_eq_eq_not, Bool.not_true,
        bne_iff_ne, ne_eq, decide_eq_true_eq] at hexpired
      exact ⟨hexpired.1.1.2, hexpired.1.2⟩
    show (if (s.controls listener).expired now then _ else s.controls listener).active = true
    rw [hkept]
    exact hactive

theorem passiveSound_block (h : PassiveSound controls) (hquiet : Quiet (controls k) c)
    (hlive : (controls k).active = true → (controls k).state = .listen → c.active = true) :
    PassiveSound (Function.update controls k c) := by
  refine passiveSound_quiet h ?_ ?_
  · intro slot
    by_cases he : slot = k
    · rw [he, Function.update_self]
      exact hquiet
    · rw [Function.update_of_ne he]
      exact .refl _
  · intro listener child hactive hlisten _
    by_cases he : listener = k
    · rw [he] at hactive hlisten ⊢
      rw [Function.update_self]
      exact hlive hactive hlisten
    · rw [Function.update_of_ne he]
      exact hactive

theorem takeSegment_fields (c : TcpControlBlock) (segment : TcpSegment) (bytes : List UInt8) :
    (c.takeSegment segment bytes).active = c.active ∧
      (c.takeSegment segment bytes).owner = c.owner ∧
      (c.takeSegment segment bytes).SameTuple c ∧
      (c.takeSegment segment bytes).backlog = c.backlog ∧
      (c.takeSegment segment bytes).accepted = c.accepted ∧
      (c.takeSegment segment bytes).listenerSlot = c.listenerSlot := by
  have hack : ∃ una window state, c.takeAck segment =
      { c with sendUnacknowledged := una, peerWindow := window, state := state } := by
    unfold takeAck
    split
    · exact ⟨_, _, _, rfl⟩
    · exact ⟨_, _, _, rfl⟩
  obtain ⟨una, window, state, hack⟩ := hack
  unfold takeSegment
  rw [hack]
  unfold takeData takeFin
  split <;> split <;> exact ⟨rfl, rfl, ⟨rfl, rfl, rfl⟩, rfl, rfl, rfl⟩

theorem tailState_listen (state : TcpState) (acked fin : Bool)
    (hfin : state = .listen → fin = false) :
    tailState state acked fin = .listen ↔ state = .listen := by
  revert hfin
  cases state <;> cases acked <;> cases fin <;> decide

theorem quiet_takes {bytes : List UInt8} (h : c.Takes segment bytes now c')
    (hlength : bytes.length = segment.length.toNat)
    (hlistens : c.state = .listen → segment.has tcpFlagRst = false ∧
      (c.Tail segment → ¬ c.reachesFin segment)) : Quiet c c' := by
  have hchanges : ∀ {before after : TcpState}, c.state = before → before ≠ .listen →
      after ≠ .listen → (after = .listen ↔ c.state = .listen) := by
    intro before after hbefore hnot hnot'
    rw [hbefore]
    exact ⟨fun he => absurd he hnot', fun he => absurd he hnot⟩
  cases h with
  | reset hrst =>
    have hnot : c.state ≠ .listen := by
      intro he
      rw [(hlistens he).1] at hrst
      cases hrst
    exact quiet_state rfl rfl ⟨rfl, rfl, rfl⟩ rfl rfl rfl (hchanges rfl hnot nofun)
  | active hrst hsent hanswer =>
    exact quiet_state rfl rfl ⟨rfl, rfl, rfl⟩ rfl rfl rfl (hchanges hsent nofun nofun)
  | passive hrst hreceived hcompletes =>
    exact quiet_state rfl rfl ⟨rfl, rfl, rfl⟩ rfl rfl rfl (hchanges hreceived nofun nofun)
  | passiveData hrst hreceived hcompletes hdata =>
    exact quiet_state rfl rfl ⟨rfl, rfl, rfl⟩ rfl rfl rfl (hchanges hreceived nofun nofun)
  | tail hrst hsent hreceived hack =>
    obtain ⟨hactive, howner, htuple, hbacklog, haccepted, hlistener⟩ :=
      takeSegment_fields c segment bytes
    refine quiet_state hactive howner htuple hbacklog haccepted hlistener ?_
    rw [takeSegment_state hlength]
    refine tailState_listen _ _ _ ?_
    intro he
    have hnofin := (hlistens he).2 ⟨hrst, hsent, hreceived, hack⟩
    exact decide_eq_false hnofin

theorem findListener_spec (h : s.findListener port = some listener) :
    (s.controls listener).active = true ∧ (s.controls listener).state = .listen ∧
      (s.controls listener).localPort = port := by
  have hfound := firstSlot_some h
  simpa [and_assoc] using hfound

theorem passiveSound_passive (h : PassiveSound s.controls)
    (hnone : s.firstSlot (·.matchesTuple segment) = none)
    (hlistener : s.findListener segment.destinationPort = some listener)
    (hroom : s.pendingChildren listener < (s.controls listener).backlog.toNat)
    (hfree : s.freeSlot = some k) :
    PassiveSound (Function.update s.controls k (s.passiveChild listener k segment now)) := by
  have hdead := freeSlot_inactive hfree
  obtain ⟨hactive, hstate, hport⟩ := findListener_spec hlistener
  refine passiveSound_update h ?_ ?_ ?_ ?_
  · rintro ⟨halive, -⟩
    rw [hdead] at halive
    cases halive
  · intro _
    refine ⟨listener, ?_, rfl, ⟨hactive, hstate, rfl, hport⟩, hroom⟩
    intro he
    rw [he, hdead] at hactive
    cases hactive
  · nofun
  · rintro - b hne ⟨hactiveB, -, -⟩ ⟨hlocal, hip, hremote⟩
    have hmatch : (s.controls b).matchesTuple segment = true :=
      matchesTuple_iff.mpr ⟨hactiveB, hip.symm, hlocal.symm, hremote.symm⟩
    have hnot := firstSlot_none hnone b
    rw [hmatch] at hnot
    cases hnot

theorem passiveSound_step (hkeeps : s.KeepsListeners event) (h : PassiveSound s.controls)
    (hstep : TcpStep s event controls) : PassiveSound controls := by
  have hswept := fun now => passiveSound_sweep h now
  cases hstep with
  | idle => exact h
  | swept now => exact hswept now
  | @opened owner handleOut now slot hpid hgeneration hout hfree =>
    have hdead := freeSlot_inactive hfree
    refine passiveSound_update (hswept now) ?_ (fun hu => absurd rfl hu.2) nofun ?_
    · rintro ⟨halive, -⟩
      rw [hdead] at halive
      cases halive
    · exact fun hc => absurd rfl hc.2.1
  | @listen owner handle port backlog now slot hport hbacklog hmax hslot hclosed hfree =>
    have hindependent := hkeeps slot hslot
    refine passiveSound_update (hswept now) ?_ (fun hu => absurd hu hindependent)
      (fun _ => hindependent) ?_
    · rintro ⟨-, hlisten⟩
      rw [hclosed] at hlisten
      cases hlisten
    · exact fun hc => absurd rfl hc.2.2
  | @accept owner listener outs timeoutMs started now waited index slot hindex hlisten hchild =>
    refine passiveSound_block (hswept now) ?_ (fun ha _ => ha)
    refine ⟨id, fun _ => rfl, fun _ => ⟨rfl, rfl, rfl⟩, fun _ => rfl, fun _ => Iff.rfl, ?_⟩
    exact fun _ hu => absurd rfl hu.2
  | @gaveUp wait now delivered waited slot hslot hstate hack hlate =>
    have hnot : (s.controls slot).state ≠ .listen :=
      fun hlisten => hkeeps slot hslot hlisten hack hlate
    refine passiveSound_block h ?_ (fun ha _ => ha)
    refine quiet_state rfl rfl ⟨rfl, rfl, rfl⟩ rfl rfl rfl ?_
    exact ⟨nofun, fun he => absurd he hnot⟩
  | @connect owner handle ip port timeoutMs clock started slot candidate initial hip hport hslot
      hclosed hfree =>
    have hindependent := hkeeps slot hslot
    refine passiveSound_update h ?_ (fun hu => absurd hu hindependent) nofun ?_
    · rintro ⟨-, hlisten⟩
      rw [hclosed] at hlisten
      cases hlisten
    · rintro - b hne ⟨hactive, -, -⟩ ⟨hlocal, -, -⟩
      exact hfree ⟨b, hne, hactive, hlocal.symm⟩
  | send =>
    refine passiveSound_block h ?_ (fun ha _ => ha)
    exact quiet_state rfl rfl ⟨rfl, rfl, rfl⟩ rfl rfl rfl Iff.rfl
  | receive =>
    refine passiveSound_block h ?_ (fun ha _ => ha)
    exact quiet_state rfl rfl ⟨rfl, rfl, rfl⟩ rfl rfl rfl Iff.rfl
  | @closeListener owner handle timeoutMs started slot hslot hlisten =>
    refine passiveSound_quiet h ?_ ?_
    · intro other
      unfold retireListener
      dsimp only
      split
      · exact quiet_retire _
      · exact .refl _
    · intro listener child hactive hstate hchild
      unfold retireListener at hchild ⊢
      dsimp only at hchild ⊢
      split
      next hretired =>
        exfalso
        rcases hretired with hunaccepted | he
        · exact h.independent listener hactive hstate (childOf_unaccepted hunaccepted).1
        · rw [he] at hchild
          split at hchild
          · exact absurd (childOf_iff.mp hchild).1 nofun
          next hkept => exact hkept (.inl hchild)
      next => exact hactive
  | closeNow hslot hstate =>
    exact passiveSound_block h (quiet_retire _) (fun _ hlisten => absurd hlisten hstate)
  | @closeStart owner handle timeoutMs started slot hslot hstate =>
    refine passiveSound_block h ?_ (fun ha _ => ha)
    refine quiet_state rfl rfl ⟨rfl, rfl, rfl⟩ rfl rfl rfl ?_
    have hnot : (s.controls slot).state ≠ .listen := by
      intro he
      rcases hstate with hstate | hstate <;> rw [hstate] at he <;> cases he
    have hnot' : (s.controls slot).finishing.state ≠ .listen := by
      show (if (s.controls slot).state = .closeWait then _ else _) ≠ _
      split <;> nofun
    exact ⟨fun he => absurd he hnot', fun he => absurd he hnot⟩
  | closeEnd hslot =>
    exact passiveSound_block h (quiet_retire _)
      (fun _ hlisten => absurd hlisten (hkeeps _ hslot))
  | @cleanup owner =>
    refine passiveSound_quiet h ?_ ?_
    · intro other
      unfold tcpSocketProcessCleanup
      dsimp only
      split
      · exact quiet_retire _
      · exact .refl _
    · intro listener child hactive hstate hchild
      unfold tcpSocketProcessCleanup at hchild ⊢
      dsimp only at hchild ⊢
      split at hchild
      · exact absurd (childOf_iff.mp hchild).1 nofun
      next hkept =>
        -- a child is retired with its listener: they have the same owner
        obtain ⟨hunaccepted, hslot⟩ := childOf_unaccepted hchild
        obtain ⟨parent, hsame, hp⟩ := h.parent child (childOf_iff.mp hchild).1 hunaccepted
        have heq : parent = listener := Fin.ext (by omega)
        rw [heq] at hp
        have hchildActive := (childOf_iff.mp hchild).1
        rw [if_neg]
        · exact hactive
        · intro howned
          rw [hp.owner] at howned
          rw [hchildActive] at hkept
          rw [hp.active] at howned
          exact hkept howned
  | @passive segment data address now delivered listener slot hvalid hnone hlistener hflags hlength
      hroom hfree =>
    exact passiveSound_passive (hswept now) hnone hlistener hroom hfree
  | @matched segment data address now delivered slot control hvalid hslot htakes =>
    have hquiet := quiet_takes htakes (length_bytes segment _) (hkeeps hvalid slot hslot)
    refine passiveSound_block (hswept now) hquiet ?_
    intro hactive _
    cases htakes with
    | tail => exact (takeSegment_fields _ segment _).1.trans hactive
    | reset => exact hactive
    | active => exact hactive
    | passive => exact hactive
    | passiveData => exact hactive
  | @undone owner handle slot hslot hstate =>
    refine passiveSound_block h (quiet_retire _) ?_
    intro _ hlisten
    rw [hstate] at hlisten
    cases hlisten

theorem passiveSound_run (hmeets : s.Meets KeepsListeners events) (h : PassiveSound s.controls) :
    PassiveSound (s.run events).controls :=
  run_induction (motive := fun t => PassiveSound t.controls)
    (fun t event hkeeps hsound => passiveSound_step hkeeps hsound (t.step_spec event)) hmeets h

theorem passiveSound_init : PassiveSound tcpSocketInit.controls :=
  ⟨nofun, nofun, nofun, fun _ _ _ hconnected => absurd hconnected.1 nofun⟩

/-! Accept, close and connect. -/

variable {handle : UInt32} {listener : UInt32} {started : UInt64}

theorem accept_accepted
    (h : (s.tcpSocketAccept owner listener outs timeoutMs started now waited).answer =
      .accepted handle ip port) :
    ∃ index slot, (s.sweepPassive now).resolve owner listener = some index ∧
      ((s.sweepPassive now).controls slot).childOf index = true ∧
      ((s.sweepPassive now).controls slot).state = .established ∧
      handle = tcpMakeHandle slot ((s.sweepPassive now).controls slot).generation ∧
      (s.tcpSocketAccept owner listener outs timeoutMs started now waited).table.controls slot =
        ((s.sweepPassive now).controls slot).handedOut := by
  unfold tcpSocketAccept at h ⊢
  split at h
  · cases h
  next hargs =>
    rw [if_neg hargs]
    dsimp only at h ⊢
    split at h
    · cases h
    next index hindex =>
      split at h
      · cases h
      next hlisten =>
        split at h
        next slot hslot =>
          obtain ⟨hchild, hestablished⟩ := establishedChild_spec hslot
          refine ⟨index, slot, hindex, hchild, hestablished,
            (accepted.inj h).1.symm, ?_⟩
          rw [if_neg hlisten]
          exact setControl_self _
        · split at h
          · cases h
          · split at h
            · cases h
            · split at h <;> cases h

theorem accept_hands {index slot : TcpSlot} (htime : timeoutMs ≤ tcpSocketMaxTimeoutMs)
    (hindex : (s.sweepPassive now).resolve owner listener = some index)
    (hlisten : ((s.sweepPassive now).controls index).state = .listen)
    (hchild : ((s.sweepPassive now).controls slot).childOf index = true)
    (hestablished : ((s.sweepPassive now).controls slot).state = .established) :
    ∃ handle ip port,
      (s.tcpSocketAccept owner listener true timeoutMs started now waited).answer =
        .accepted handle ip port := by
  have hargs : ¬ (!true ∨ tcpSocketMaxTimeoutMs < timeoutMs) := by
    rintro (h | h)
    · cases h
    · exact absurd htime (UInt32.not_le.mpr h)
  unfold tcpSocketAccept
  rw [if_neg hargs]
  dsimp only
  rw [hindex]
  dsimp only
  rw [if_neg (not_not.mpr hlisten)]
  cases hfound : (s.sweepPassive now).establishedChild index with
  | some found => exact ⟨_, _, _, rfl⟩
  | none =>
    have hnot := firstSlot_none hfound slot
    rw [hchild, hestablished] at hnot
    cases hnot

/-- The block `k` goes on with the same life. -/
def Lives (k : TcpSlot) (s : TcpTable) (event : TcpEvent) : Prop :=
  ((s.step event).controls k).active = true ∧
    ((s.step event).controls k).generation = (s.controls k).generation

theorem accepted_step (hlives : Lives k s event) (h : (s.controls k).accepted = true) :
    ((s.step event).controls k).accepted = true := by
  obtain ⟨hactive, hgeneration⟩ := hlives
  have hstep := blockStep (s.step_spec event) k
  generalize (s.step event).controls k = control at hstep hactive hgeneration ⊢
  cases hstep with
  | same => exact h
  | retired => cases hactive
  | opened => exact absurd hgeneration (tcpNextGeneration_ne _)
  | child => exact absurd hgeneration (tcpNextGeneration_ne _)
  | listening => exact h
  | handedOut => rfl
  | givenUp => exact h
  | connecting => exact h
  | sending => exact h
  | drained => exact h
  | finishing => exact h
  | @takes segment data address now delivered control hevent hvalid hslot hlive htakes =>
    cases htakes with
    | reset => exact h
    | active => exact h
    | passive => exact h
    | passiveData => exact h
    | tail => exact (takeSegment_fields _ segment _).2.2.2.2.1.trans h

theorem accepted_run (hlives : s.Meets (Lives k) events) (h : (s.controls k).accepted = true) :
    ((s.run events).controls k).accepted = true :=
  run_induction (motive := fun t => (t.controls k).accepted = true)
    (fun _ _ => accepted_step) hlives h

theorem accept_other (haccepted : (s.controls k).accepted = true)
    (h : (s.perform (.accept owner listener outs timeoutMs started now waited)).answer =
      .accepted handle ip port) :
    ∃ slot, slot ≠ k ∧
      handle = tcpMakeHandle slot ((s.sweepPassive now).controls slot).generation := by
  obtain ⟨index, slot, -, hchild, -, hhandle, -⟩ := accept_accepted h
  refine ⟨slot, ?_, hhandle⟩
  intro he
  obtain ⟨hactive, hnot, -⟩ := childOf_iff.mp hchild
  have hkept := sweepPassive_active hactive
  rw [hkept, he, haccepted] at hnot
  cases hnot

theorem connect_port (owner : NetOwner) (handle ip : UInt32) (port : UInt16) (timeoutMs : UInt32)
    (clock started : UInt64) :
    (s.perform (.connect owner handle ip port timeoutMs clock started)).answer ≠
      .returned (-98) := by
  show (s.tcpSocketConnect owner handle ip port timeoutMs clock started).answer ≠ _
  unfold tcpSocketConnect
  split
  · exact fun h => absurd (returned.inj h) (by decide)
  · split
    · exact fun h => absurd (returned.inj h) (by decide)
    next slot hslot =>
      dsimp only
      split
      · exact fun h => absurd (returned.inj h) (by decide)
      · obtain ⟨candidate, hfound, -⟩ := s.findPort_available slot (s.controls slot).generation
        rw [hfound]
        nofun

theorem close_listener {slot child : TcpSlot}
    (htime : timeoutMs ≤ tcpSocketMaxTimeoutMs) (hslot : s.resolve owner handle = some slot)
    (hlisten : (s.controls slot).state = .listen)
    (hchild : (s.controls child).childOf slot = true ∨ child = slot) :
    ((s.step (.close owner handle timeoutMs started)).controls child).active = false := by
  show ((s.tcpSocketClose owner handle timeoutMs started).table.controls child).active = false
  unfold tcpSocketClose
  rw [if_neg (UInt32.not_lt.mpr htime), hslot]
  dsimp only
  rw [if_pos hlisten]
  show (if (s.controls child).childOf slot = true ∨ child = slot then (s.controls child).retire
    else s.controls child).active = false
  rw [if_pos hchild]
  rfl

/-- In a run that turns no listener off and moves no child: every child has its listener, none has
more children than its backlog, no two connections share a tuple, closing a listener retires its
children, accept hands out an established child once, and connect finds a port. -/
theorem tcpPassive_sound (events : List TcpEvent)
    (hmeets : tcpSocketInit.Meets KeepsListeners events) :
    PassiveSound (tcpSocketInit.run events).controls ∧
    (∀ owner handle timeoutMs started slot child, timeoutMs ≤ tcpSocketMaxTimeoutMs →
      (tcpSocketInit.run events).resolve owner handle = some slot →
      ((tcpSocketInit.run events).controls slot).state = .listen →
      ((tcpSocketInit.run events).controls child).childOf slot = true ∨ child = slot →
      ((tcpSocketInit.run (events ++ [.close owner handle timeoutMs started])).controls
        child).active = false) ∧
    (∀ owner listener timeoutMs started now waited index slot,
      timeoutMs ≤ tcpSocketMaxTimeoutMs →
      ((tcpSocketInit.run events).sweepPassive now).resolve owner listener = some index →
      (((tcpSocketInit.run events).sweepPassive now).controls index).state = .listen →
      (((tcpSocketInit.run events).sweepPassive now).controls slot).childOf index = true →
      (((tcpSocketInit.run events).sweepPassive now).controls slot).state = .established →
      ∃ handle ip port, ((tcpSocketInit.run events).perform
        (.accept owner listener true timeoutMs started now waited)).answer =
          .accepted handle ip port) ∧
    (∀ owner listener outs timeoutMs started now waited handle ip port,
      ((tcpSocketInit.run events).perform
        (.accept owner listener outs timeoutMs started now waited)).answer =
          .accepted handle ip port →
      ∃ slot, handle = tcpMakeHandle slot
          (((tcpSocketInit.run events).sweepPassive now).controls slot).generation ∧
        (((tcpSocketInit.run events).sweepPassive now).controls slot).state = .established ∧
        ∀ later, Meets (Lives slot) (tcpSocketInit.run (events ++
            [.accept owner listener outs timeoutMs started now waited])) later →
          ∀ owner' listener' outs' timeoutMs' started' now' waited' handle' ip' port',
            ((tcpSocketInit.run (events ++
                [.accept owner listener outs timeoutMs started now waited] ++ later)).perform
              (.accept owner' listener' outs' timeoutMs' started' now' waited')).answer =
                .accepted handle' ip' port' →
            ∃ slot', slot' ≠ slot ∧ handle' = tcpMakeHandle slot'
              (((tcpSocketInit.run (events ++
                [.accept owner listener outs timeoutMs started now waited] ++ later)).sweepPassive
                  now').controls slot').generation) ∧
    (∀ owner handle ip port timeoutMs clock started,
      ((tcpSocketInit.run events).perform
        (.connect owner handle ip port timeoutMs clock started)).answer ≠ .returned (-98)) := by
  refine ⟨passiveSound_run hmeets passiveSound_init, ?_, ?_, ?_, ?_⟩
  · intro owner handle timeoutMs started slot child htime hslot hlisten hchild
    rw [run_snoc]
    exact close_listener htime hslot hlisten hchild
  · intro owner listener timeoutMs started now waited index slot htime hindex hlisten hchild
      hestablished
    exact accept_hands htime hindex hlisten hchild hestablished
  · intro owner listener outs timeoutMs started now waited handle ip port hanswer
    obtain ⟨index, slot, -, -, hestablished, hhandle, htable⟩ := accept_accepted hanswer
    refine ⟨slot, hhandle, hestablished, ?_⟩
    intro later hlives owner' listener' outs' timeoutMs' started' now' waited' handle' ip' port'
      hanswer'
    have haccepted : ((tcpSocketInit.run (events ++
        [.accept owner listener outs timeoutMs started now waited])).controls slot).accepted =
          true := by
      rw [run_snoc]
      have hafter := congrArg TcpControlBlock.accepted htable
      exact hafter
    rw [run_append] at hanswer' ⊢
    exact accept_other (accepted_run hlives haccepted) hanswer'
  · intro owner handle ip port timeoutMs clock started
    exact connect_port owner handle ip port timeoutMs clock started

/-! Runs of a server on port 8080. -/

def tcpServerReceives (sourceIp : UInt32) (sourcePort : UInt16) (sequence : UInt32)
    (flags : UInt8) : TcpEvent :=
  .ingress (some
    { version := tcpSocketAbiVersion
      structSize := tcpSocketSegmentSize
      sourceIp := sourceIp
      destinationIp := 0x0a000001
      sequence := sequence
      acknowledgement := 0
      sourcePort := sourcePort
      destinationPort := 8080
      window := 4096
      length := 0
      flags := flags
      reserved := [0, 0, 0] }) none 0x0a000001 2 true

/-- The client opens a socket and makes it a listener; a SYN of 10.0.0.3 opens a child. -/
def tcpServes : List TcpEvent :=
  [.opened tcpClient true 1, .listen tcpClient (tcpMakeHandle 0 1) 8080 1 1,
    tcpServerReceives 0x0a000003 5000 77 tcpFlagSyn]

theorem tcpPassive_sound_serves : PassiveSound (tcpSocketInit.run tcpServes).controls := by
  have hlisten : ∀ slot, (((tcpSocketInit.run (tcpServes.take 1)).sweepPassive 1).resolve tcpClient
      (tcpMakeHandle 0 1)) = some slot →
      ¬ (((tcpSocketInit.run (tcpServes.take 1)).sweepPassive 1).controls slot).Unaccepted := by
    decide
  have hidle : ∀ slot, (((tcpSocketInit.run (tcpServes.take 2)).sweepPassive 2).controls
      slot).remoteIp = 0 := by decide
  have hmeets : tcpSocketInit.Meets KeepsListeners tcpServes := by
    refine ⟨trivial, hlisten, ?_, trivial⟩
    intro _ slot hslot
    have hmatch := (matchesTuple_iff.mp (firstSlot_matches hslot)).2.1
    have hzero := hidle slot
    rw [show (((tcpSocketInit.run (tcpServes.take 2)).sweepPassive 2).controls slot).remoteIp =
      0x0a000003 from hmatch] at hzero
    cases hzero
  exact (tcpPassive_sound tcpServes hmeets).1

/-- The socket of the listener was connected to 10.0.0.2 before, and a RST of that peer comes. -/
def tcpServesAgain : List TcpEvent :=
  [.opened tcpClient true 1,
    .connect tcpClient (tcpMakeHandle 0 1) 0x0a000002 80 2000 1 1,
    tcpPeerSends 0 0 tcpFlagRst 0, .listen tcpClient (tcpMakeHandle 0 1) 8080 1 1,
    tcpServerReceives 0x0a000003 5000 77 tcpFlagSyn, tcpServerReceives 0x0a000002 80 0 tcpFlagRst]

/-- A segment of its former peer turns the listener off: its child refers to a CLOSED block, and to
a free one when the socket is closed. -/
theorem tcpPassive_orphan :
    (((tcpSocketInit.run tcpServesAgain).controls 1).active = true ∧
      ((tcpSocketInit.run tcpServesAgain).controls 1).Unaccepted ∧
      ((tcpSocketInit.run tcpServesAgain).controls 1).listenerSlot = 1 ∧
      ((tcpSocketInit.run tcpServesAgain).controls 0).state = .closed) ∧
    (((tcpSocketInit.run (tcpServesAgain ++
        [.close tcpClient (tcpMakeHandle 0 1) 0 3])).controls 1).childOf 0 = true ∧
      ((tcpSocketInit.run (tcpServesAgain ++
        [.close tcpClient (tcpMakeHandle 0 1) 0 3])).controls 0).active = false) := by
  decide

end TcpTable

end ReistOs
