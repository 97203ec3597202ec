import ReistOs.Transfer

/-! Hoare triples with a crash condition for calls to a fallible transport: it holds of the medium
after every event of the command, whatever the command reports. -/

namespace WriteBack

universe u v

variable {α : Type u} {β : Type v}

/-- A command: it reports success or failure. -/
abbrev Command (α : Type u) (β : Type v) := World α β → Bool × World α β

/-- The command reports success on a transport without faults. -/
def Healthy (c : Command α β) : Prop := ∀ w, w.fates = [] → (c w).1 = true ∧ (c w).2.fates = []

theorem Healthy.seq {c d : Command α β} (hc : Healthy c) (hd : Healthy d) :
    Healthy fun w => andThen (c w) d := by
  intro w hw
  obtain ⟨hok, hf⟩ := hc w hw
  simp only [andThen, hok, if_true]
  exact hd _ hf

theorem Healthy.of_emits {c : Command α β} {ws : List (α × β)} (hc : ∀ w, Emits w ws (c w)) :
    Healthy c := fun w hw => (hc w).healthy hw

variable [DecidableEq α]

/-- Where reads succeed: from `pre`, every medium on the way satisfies `crash`, and the
last one `post` if the command reports success. -/
def CrashTriple (pre crash post : Medium α β → Prop) (c : Command α β) : Prop :=
  ∀ w : World α β, w.readFates = [] → pre w.medium → ∃ es, w.Extends es (c w).2 ∧
    (∀ before, before <+: es → crash (w.medium.run before)) ∧
    ((c w).1 = true → post (w.medium.run es))

namespace CrashTriple

variable {pre pre' crash crash' mid post post' : Medium α β → Prop} {c d : Command α β}

theorem weaken (h : CrashTriple pre crash post c) (hpre : ∀ m, pre' m → pre m)
    (hcrash : ∀ m, crash m → crash' m) (hpost : ∀ m, post m → post' m) :
    CrashTriple pre' crash' post' c := by
  intro w hr hw
  obtain ⟨es, hx, hc, hp⟩ := h w hr (hpre _ hw)
  exact ⟨es, hx, fun p hp' => hcrash _ (hc p hp'), fun hok => hpost _ (hp hok)⟩

theorem result (h : CrashTriple pre crash post c) {w : World α β} (hr : w.readFates = [])
    (hw : pre w.medium) (hok : (c w).1 = true) : post (c w).2.medium := by
  obtain ⟨es, hx, -, hp⟩ := h w hr hw
  rw [hx.medium]
  exact hp hok

/-- A command that issues nothing. -/
theorem idle {r : Bool} (h : ∀ m, pre m → crash m) (hp : r = true → ∀ m, pre m → post m) :
    CrashTriple pre crash post (Prod.mk r) := by
  intro w _ hw
  refine ⟨[], World.Extends.refl w, ?_, fun hok => hp hok _ hw⟩
  intro before hb
  rw [List.prefix_nil.mp hb]
  exact h _ hw

theorem seq (hc : CrashTriple pre crash mid c) (hd : CrashTriple mid crash post d) :
    CrashTriple pre crash post fun w => andThen (c w) d := by
  intro w hr hw
  obtain ⟨es, hx, hcr, hm⟩ := hc w hr hw
  simp only [andThen]
  split
  next hok =>
    have hmed : (c w).2.medium = w.medium.run es := hx.medium
    obtain ⟨fs, hx', hcr', hp⟩ := hd (c w).2 (hx.readFates.trans hr) (by rw [hmed]; exact hm hok)
    refine ⟨es ++ fs, hx.trans hx', ?_, ?_⟩
    · intro before hb
      rcases prefix_append_cases hb with hl | ⟨q, hq, rfl⟩
      · exact hcr before hl
      · rw [Medium.run_append, ← hmed]; exact hcr' q hq
    · intro hb
      rw [Medium.run_append, ← hmed]; exact hp hb
  next hok => exact ⟨es, hx, hcr, fun h => absurd h hok⟩

/-- Commands that write given sectors in order keep what each single write and a flush
keep; a success leaves the written contents visible. -/
theorem of_emits {ws : List (α × β)} (hc : ∀ w, Emits w ws (c w)) (hpre : ∀ m, pre m → crash m)
    (hwrite : ∀ m, ∀ p ∈ ws, crash m → crash (m.step (.write p.1 p.2)))
    (hflush : ∀ m, crash m → crash (m.step .flush))
    (hpost : ∀ m m', pre m → crash m' → m'.view = applyWrites ws m.view → post m') :
    CrashTriple pre crash post c := by
  intro w _ hw
  obtain ⟨es, hx, hsub, hall⟩ := (hc w).events
  have keep : ∀ before, before <+: es → crash (w.medium.run before) := by
    intro before hb
    refine Medium.run_invariant (fun m a x => hwrite m (a, x)) hflush (hpre _ hw) fun p hp => ?_
    exact hsub.subset ((writesOf_sublist hb.sublist).subset hp)
  refine ⟨es, hx, keep, fun hok => hpost _ _ hw (keep es (List.prefix_refl es)) ?_⟩
  rw [Medium.view_run, hall hok]

/-- A settled success leaves an empty cache behind. -/
theorem settled (h : CrashTriple pre crash post c) (hs : ∀ w, Settled (c w)) :
    CrashTriple pre crash (fun m => post m ∧ m.cache = []) c := by
  intro w hr hw
  obtain ⟨es, hx, hcr, hp⟩ := h w hr hw
  refine ⟨es, hx, hcr, fun hok => ⟨hp hok, ?_⟩⟩
  rw [← hx.medium]
  exact hs w hok

/-- The same where a success leaves nothing in the cache. -/
theorem of_emits_settled {ws : List (α × β)} (hc : ∀ w, Emits w ws (c w))
    (hs : ∀ w, Settled (c w)) (hpre : ∀ m, pre m → crash m)
    (hwrite : ∀ m, ∀ p ∈ ws, crash m → crash (m.step (.write p.1 p.2)))
    (hflush : ∀ m, crash m → crash (m.step .flush))
    (hpost : ∀ m m', pre m → crash m' → m'.view = applyWrites ws m.view → m'.cache = [] → post m') :
    CrashTriple pre crash post c := by
  have h : CrashTriple pre crash
      (fun m' => ∃ m, pre m ∧ crash m' ∧ m'.view = applyWrites ws m.view) c :=
    of_emits hc hpre hwrite hflush fun m m' hm hm' hv => ⟨m, hm, hm', hv⟩
  refine (h.settled hs).weaken (fun _ hm => hm) (fun _ hm => hm) ?_
  rintro m' ⟨⟨m, hm, hm', hv⟩, hcache⟩
  exact hpost m m' hm hm' hv hcache

end CrashTriple

end WriteBack
