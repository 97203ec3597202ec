import ReistOs.ResilientTables

namespace ReistOs.Pages

/-- The operations on the pool, and the faults between them. -/
inductive Op where
  | create (initial : Page)
  | destroy (handle : Handle)
  | read (handle : Handle) (capacity : Nat)
  | write (handle : Handle) (offset : Nat) (bytes : List UInt8)
  | scrub (handle : Handle)
  | failDomain (domain : UInt32)
  | rebuild (handle : Handle)
  | fault (domain : UInt32) (garbage : Nat → UInt32 → Page)

/-- What the caller of an operation gets to see. -/
structure Outcome where
  result : PageResult
  handle : Option Handle
  bytes : Option Page

def perform (pool : Pool) : Op → Outcome × Pool
  | .create initial =>
    match create pool initial with
    | (result, handle, pool) => ({ result := result, handle := handle, bytes := none }, pool)
  | .destroy handle =>
    match destroy pool handle with
    | (result, pool) => ({ result := result, handle := none, bytes := none }, pool)
  | .read handle capacity =>
    match read pool handle capacity with
    | (answer, pool) => ({ result := answer.result, handle := none, bytes := answer.bytes }, pool)
  | .write handle offset bytes =>
    match write pool handle offset bytes with
    | (result, pool) => ({ result := result, handle := none, bytes := none }, pool)
  | .scrub handle =>
    match scrub pool handle with
    | ((result, _), pool) => ({ result := result, handle := none, bytes := none }, pool)
  | .failDomain domain =>
    match failDomain pool domain with
    | (result, pool) => ({ result := result, handle := none, bytes := none }, pool)
  | .rebuild handle =>
    match rebuild pool handle with
    | (result, pool) => ({ result := result, handle := none, bytes := none }, pool)
  | .fault domain garbage =>
    ({ result := .ok, handle := none, bytes := none }, damage pool domain garbage)

structure Event where
  op : Op
  outcome : Outcome

def Allowed (pool : Pool) : Op → Prop
  | .fault domain garbage => Detected pool domain garbage
  | _ => True

/-- The pools that operations and detectable faults lead to, with what happened on the way. -/
inductive Run : List Event → Pool → Prop
  | start : Run [] pagesInit
  | step {events : List Event} {pool : Pool} {op : Op} (h : Run events pool)
      (hallowed : Allowed pool op) :
      Run (events ++ [⟨op, (perform pool op).1⟩]) (perform pool op).2

section History

variable (handle : Handle)

def committedStep (bytes : Option Page) (event : Event) : Option Page :=
  match event.op with
  | .create initial => if event.outcome.handle = some handle then some initial else bytes
  | .write target offset new =>
    if target = handle ∧ event.outcome.result.succeeded = true then
      bytes.map fun page => overwrite page offset new
    else bytes
  | _ => bytes

/-- The bytes that the writes which reported success have given a page. -/
def committed (events : List Event) : Option Page := events.foldl (committedStep handle) none

/-- The domains hit by a fault or marked failed since the page was last whole. -/
def touchedStep (touched : List UInt32) (event : Event) : List UInt32 :=
  match event.op with
  | .create _ => if event.outcome.handle = some handle then [] else touched
  | .rebuild target =>
    if target = handle ∧ event.outcome.result.succeeded = true then [] else touched
  | .failDomain domain => domain :: touched
  | .fault domain _ => domain :: touched
  | _ => touched

def touched (events : List Event) : List UInt32 := events.foldl (touchedStep handle) []

def Destroyed (events : List Event) : Prop :=
  ∃ event ∈ events, event.op = .destroy handle ∧ event.outcome.result.succeeded = true

def MarkedFailed (events : List Event) (domain : UInt32) : Prop :=
  ∃ event ∈ events, event.op = .failDomain domain

theorem committed_snoc (events : List Event) (event : Event) :
    committed handle (events ++ [event]) = committedStep handle (committed handle events) event := by
  unfold committed
  rw [List.foldl_append]
  rfl

theorem touched_snoc (events : List Event) (event : Event) :
    touched handle (events ++ [event]) = touchedStep handle (touched handle events) event := by
  unfold touched
  rw [List.foldl_append]
  rfl

variable {handle}

variable {events : List Event}

theorem Destroyed.snoc {event : Event}
    (h : Destroyed handle (events ++ [event])) : Destroyed handle events ∨
      event.op = .destroy handle ∧ event.outcome.result.succeeded = true := by
  simpa [Destroyed, or_and_right, exists_or] using h

theorem MarkedFailed.snoc {event : Event} {domain : UInt32}
    (h : MarkedFailed (events ++ [event]) domain) :
    MarkedFailed events domain ∨ event.op = .failDomain domain := by
  simpa [MarkedFailed, or_and_right, exists_or] using h

end History

section Invariant

def slotHandle (pool : Pool) (slot : Nat) : Handle :=
  { slot := UInt32.ofNat slot, generation := (pool.slots slot).generation }

structure Kept (events : List Event) (pool : Pool) : Prop where
  pages : ∀ i < pageCapacity, (pool.slots i).active = true → ∃ bytes,
    committed (slotHandle pool i) events = some bytes ∧
      PageSound pool i bytes fun d => ∀ t ∈ touched (slotHandle pool i) events, t = d
  generations : ∀ i < pageCapacity, (pool.slots i).active = true →
    (pool.slots i).generation ≠ 0 ∧
      (pool.slots i).generation.toNat < pool.nextHandleGeneration.toNat
  destroyed : ∀ handle, Destroyed handle events →
    handle.generation.toNat < pool.nextHandleGeneration.toNat ∧ ¬ Live pool handle
  failed : ∀ domain, domain < domainCount → MarkedFailed events domain →
    pool.failedDomains domain = true

variable {handle : Handle} {events : List Event} {event : Event}

theorem slotHandle_live {pool : Pool} (h : Live pool handle) :
    slotHandle pool handle.slot.toNat = handle := by
  unfold slotHandle
  rw [h.generation, UInt32.ofNat_toNat]

theorem kept_start : Kept [] pagesInit := by
  refine ⟨?_, ?_, ?_, ?_⟩
  · intro i _ h
    cases h
  · intro i _ h
    cases h
  · rintro handle ⟨event, hmem, -⟩
    cases hmem
  · rintro domain _ ⟨event, hmem, -⟩
    cases hmem

theorem Kept.page {pool : Pool} (h : Kept events pool)
    (hlive : Live pool handle) : ∃ bytes, committed handle events = some bytes ∧
      PageSound pool handle.slot.toNat bytes fun d => ∀ t ∈ touched handle events, t = d := by
  have hpage := h.pages handle.slot.toNat hlive.slot hlive.active
  rwa [slotHandle_live hlive] at hpage

/-- An event that says nothing about the pages of a handle. -/
structure Silent (handle : Handle) (event : Event) : Prop where
  committed : ∀ bytes, committedStep handle bytes event = bytes
  touched : ∀ domains, touchedStep handle domains event = domains

theorem Silent.committed_eq (h : Silent handle event)
    (events : List Event) : Pages.committed handle (events ++ [event]) =
      Pages.committed handle events := by
  rw [committed_snoc, h.committed]

theorem Silent.touched_eq (h : Silent handle event)
    (events : List Event) : Pages.touched handle (events ++ [event]) =
      Pages.touched handle events := by
  rw [touched_snoc, h.touched]

/-- No page is given up and no domain marked by the event. -/
structure Plain (event : Event) : Prop where
  destroy : ∀ handle, event.op ≠ .destroy handle ∨ event.outcome.result.succeeded = false
  failDomain : ∀ domain, event.op ≠ .failDomain domain

theorem Plain.destroyed (h : Plain event)
    (hdestroyed : Destroyed handle (events ++ [event])) : Destroyed handle events := by
  rcases hdestroyed.snoc with hold | ⟨hop, hresult⟩
  · exact hold
  · rcases h.destroy handle with hne | hfailed
    · exact absurd hop hne
    · rw [hresult] at hfailed
      cases hfailed

theorem Plain.marked (h : Plain event) {domain : UInt32}
    (hmarked : MarkedFailed (events ++ [event]) domain) : MarkedFailed events domain := by
  rcases hmarked.snoc with hold | hop
  · exact hold
  · exact absurd hop (h.failDomain domain)

variable {events : List Event} {pool pool' : Pool} {event : Event}

theorem slotHandle_congr {i : Nat} (h : (pool'.slots i).generation = (pool.slots i).generation) :
    slotHandle pool' i = slotHandle pool i := by
  unfold slotHandle
  rw [h]

theorem live_congr (hactive : ∀ i, (pool'.slots i).active = (pool.slots i).active)
    (hgeneration : ∀ i, (pool'.slots i).generation = (pool.slots i).generation)
    (h : Live pool' handle) : Live pool handle := by
  refine ⟨h.slot, h.nonzero, ?_, ?_⟩
  · rw [← hactive]
    exact h.active
  · rw [← hgeneration]
    exact h.generation

theorem kept_handles (hkept : Kept events pool) (hhandles : SameHandles pool pool')
    (hpages : ∀ i < pageCapacity, (pool.slots i).active = true → ∃ bytes,
      committed (slotHandle pool i) (events ++ [event]) = some bytes ∧
        PageSound pool' i bytes fun d => ∀ t ∈ touched (slotHandle pool i) (events ++ [event]), t = d)
    (hdestroyed : ∀ handle, Destroyed handle (events ++ [event]) → Destroyed handle events)
    (hfailed : ∀ domain, domain < domainCount → MarkedFailed (events ++ [event]) domain →
      pool'.failedDomains domain = true) : Kept (events ++ [event]) pool' := by
  refine ⟨?_, ?_, ?_, hfailed⟩
  · intro i hi hactive
    rw [hhandles.active] at hactive
    rw [slotHandle_congr (hhandles.generation i)]
    exact hpages i hi hactive
  · intro i hi hactive
    rw [hhandles.active] at hactive
    rw [hhandles.generation, hhandles.next]
    exact hkept.generations i hi hactive
  · intro handle h
    obtain ⟨hgeneration, hdead⟩ := hkept.destroyed handle (hdestroyed handle h)
    rw [hhandles.next]
    exact ⟨hgeneration, fun hlive => hdead (live_congr hhandles.active hhandles.generation hlive)⟩

theorem slotHandle_ne {i : Nat} (hi : i < pageCapacity)
    (h : i ≠ handle.slot.toNat) : slotHandle pool i ≠ handle := by
  rintro rfl
  apply h
  have hlt : i < 4 := hi
  show i = (UInt32.ofNat i).toNat
  rw [UInt32.toNat_ofNat']
  omega

theorem kept_page (hkept : Kept events pool) (hlive : Live pool handle)
    (hsame : SamePage handle.slot.toNat pool pool') {bytes : Page} {domains : UInt32 → Prop}
    (hsound : PageSound pool' handle.slot.toNat bytes domains)
    (hcommitted : committed handle (events ++ [event]) = some bytes)
    (htouched : ∀ d, (∀ t ∈ touched handle (events ++ [event]), t = d) → domains d)
    (hsilent : ∀ other, other ≠ handle → Silent other event) (hplain : Plain event) :
    Kept (events ++ [event]) pool' := by
  have hactive : (pool'.slots handle.slot.toNat).active = (pool.slots handle.slot.toNat).active :=
    hsound.active.trans hlive.active.symm
  apply kept_handles hkept (hsame.handles hactive)
  · intro i hi hon
    by_cases his : i = handle.slot.toNat
    · subst his
      rw [slotHandle_live hlive]
      exact ⟨bytes, hcommitted, hsound.mono htouched⟩
    · have hne : slotHandle pool i ≠ handle := slotHandle_ne hi his
      have hother := hsilent _ hne
      obtain ⟨page, hpage, hkeep⟩ := hkept.pages i hi hon
      rw [hother.committed_eq, hother.touched_eq]
      exact ⟨page, hpage, hsame.only.pageSound his hkeep⟩
  · exact fun other h => hplain.destroyed h
  · intro domain hd hmarked
    rw [hsame.only.failed]
    exact hkept.failed domain hd (hplain.marked hmarked)

theorem kept_idle (hkept : Kept events pool) (hsame : pool' = pool)
    (hsilent : ∀ handle, Silent handle event) (hplain : Plain event) :
    Kept (events ++ [event]) pool' := by
  rw [hsame]
  apply kept_handles hkept (SameHandles.refl pool)
  · intro i hi hon
    rw [(hsilent _).committed_eq, (hsilent _).touched_eq]
    exact hkept.pages i hi hon
  · exact fun other h => hplain.destroyed h
  · exact fun domain hd hmarked => hkept.failed domain hd (hplain.marked hmarked)

end Invariant

variable {events : List Event} {pool : Pool}

variable {pool' : Pool} {event : Event} {domain : UInt32}

abbrev recorded (pool : Pool) (op : Op) : Event := ⟨op, (perform pool op).1⟩

abbrev KeptAfter (events : List Event) (pool : Pool) (op : Op) : Prop :=
  Kept (events ++ [recorded pool op]) (perform pool op).2

theorem if_other {α : Type} {target other : Handle} {succeeded : Bool} {a b : α}
    (h : other ≠ target ∨ succeeded = false) :
    (if target = other ∧ succeeded = true then a else b) = b := by
  apply if_neg
  rintro ⟨rfl, rfl⟩
  simp at h

theorem not_succeeded {result : PageResult}
    (h : result = .errorArgument ∨ result = .errorStale) : result.succeeded = false := by
  rcases h with rfl | rfl
  · rfl
  · rfl

section

variable (hkept : Kept events pool)
include hkept

theorem kept_quiet {handle : Handle} (hlive : Live pool handle)
    (hstep : ∀ bytes domains, PageSound pool handle.slot.toNat bytes domains →
      SamePage handle.slot.toNat pool pool' ∧ PageSound pool' handle.slot.toNat bytes domains)
    (hsilent : ∀ other, Silent other event) (hplain : Plain event) :
    Kept (events ++ [event]) pool' := by
  obtain ⟨bytes, hcommitted, hsound⟩ := hkept.page hlive
  obtain ⟨hsame, hafter⟩ := hstep bytes _ hsound
  apply kept_page hkept hlive hsame hafter
  · rw [(hsilent handle).committed_eq]
    exact hcommitted
  · rw [(hsilent handle).touched_eq]
    exact fun d h => h
  · exact fun other _ => hsilent other
  · exact hplain

theorem kept_read (handle : Handle) (capacity : Nat) :
    KeptAfter events pool (.read handle capacity) := by
  have hsilent : ∀ other, Silent other (recorded pool (.read handle capacity)) :=
    fun _ => ⟨fun _ => rfl, fun _ => rfl⟩
  have hplain : Plain (recorded pool (.read handle capacity)) :=
    ⟨fun _ => .inl (by simp), fun _ => by simp⟩
  by_cases hlive : Live pool handle
  · apply kept_quiet hkept hlive _ hsilent hplain
    intro bytes domains hsound
    obtain ⟨hsame, hafter, -⟩ := read_spec hlive hsound capacity
    exact ⟨hsame, hafter⟩
  · exact kept_idle hkept (dead_refused hlive capacity 0 []).1.1.2 hsilent hplain

theorem kept_scrub (handle : Handle) :
    KeptAfter events pool (.scrub handle) := by
  have hsilent : ∀ other, Silent other (recorded pool (.scrub handle)) :=
    fun _ => ⟨fun _ => rfl, fun _ => rfl⟩
  have hplain : Plain (recorded pool (.scrub handle)) :=
    ⟨fun _ => .inl (by simp), fun _ => by simp⟩
  by_cases hlive : Live pool handle
  · apply kept_quiet hkept hlive _ hsilent hplain
    intro bytes domains hsound
    exact scrub_spec hlive hsound
  · exact kept_idle hkept (dead_refused hlive 0 0 []).2.1.2 hsilent hplain

theorem kept_write (handle : Handle) (offset : Nat) (new : List UInt8) :
    KeptAfter events pool (.write handle offset new) := by
  have hplain : Plain (recorded pool (.write handle offset new)) :=
    ⟨fun _ => .inl (by simp), fun _ => by simp⟩
  have hsilent : ∀ other, (other ≠ handle ∨ (write pool handle offset new).1.succeeded = false) →
      Silent other (recorded pool (.write handle offset new)) :=
    fun other h => ⟨fun _ => if_other h, fun _ => rfl⟩
  by_cases hlive : Live pool handle
  · obtain ⟨bytes, hcommitted, hsound⟩ := hkept.page hlive
    obtain ⟨hsame, hafter, -⟩ := write_spec hlive hsound offset new
    have htouched : touched handle (events ++ [recorded pool (.write handle offset new)]) =
        touched handle events := touched_snoc _ _ _
    apply kept_page hkept hlive hsame hafter
    · rw [committed_snoc, hcommitted]
      by_cases hresult : (write pool handle offset new).1.succeeded = true
      · rw [if_pos hresult]
        exact if_pos ⟨rfl, hresult⟩
      · rw [if_neg hresult]
        exact if_neg fun h => hresult h.2
    · rw [htouched]
      exact fun d h => h
    · exact fun other hne => hsilent other (.inl hne)
    · exact hplain
  · obtain ⟨⟨-, hresult, hsame⟩, -⟩ := dead_refused hlive 0 offset new
    have hfailed : (write pool handle offset new).1.succeeded = false := not_succeeded (by simpa using hresult)
    exact kept_idle hkept hsame (fun other => hsilent other (.inr hfailed)) hplain

theorem kept_rebuild (handle : Handle) :
    KeptAfter events pool (.rebuild handle) := by
  have hplain : Plain (recorded pool (.rebuild handle)) :=
    ⟨fun _ => .inl (by simp), fun _ => by simp⟩
  have hsilent : ∀ other, (other ≠ handle ∨ (rebuild pool handle).1.succeeded = false) →
      Silent other (recorded pool (.rebuild handle)) :=
    fun other h => ⟨fun _ => rfl, fun _ => if_other h⟩
  by_cases hlive : Live pool handle
  · obtain ⟨bytes, hcommitted, hsound⟩ := hkept.page hlive
    obtain ⟨hsame, hafter⟩ := rebuild_spec hlive hsound
    apply kept_page hkept hlive hsame hafter
    · rw [committed_snoc]
      exact hcommitted
    · intro d hd
      rw [touched_snoc] at hd
      by_cases hresult : (rebuild pool handle).1.succeeded = true
      · rw [if_pos hresult]
        trivial
      · rw [if_neg hresult]
        have hkeep : touchedStep handle (touched handle events)
            (recorded pool (.rebuild handle)) = touched handle events := if_neg fun h => hresult h.2
        rwa [hkeep] at hd
    · exact fun other hne => hsilent other (.inl hne)
    · exact hplain
  · obtain ⟨-, -, ⟨hresult, hsame⟩, -⟩ := dead_refused hlive 0 0 []
    have hfailed : (rebuild pool handle).1.succeeded = false := not_succeeded (by simpa using hresult)
    exact kept_idle hkept hsame (fun other => hsilent other (.inr hfailed)) hplain

theorem Kept.allSound :
    AllSound pool (fun i => (committed (slotHandle pool i) events).getD zeroPage)
      fun i d => ∀ t ∈ touched (slotHandle pool i) events, t = d := by
  intro i hi hactive
  obtain ⟨bytes, hcommitted, hsound⟩ := hkept.pages i hi hactive
  simp only [hcommitted, Option.getD_some]
  exact hsound

theorem kept_loss (hhandles : SameHandles pool pool')
    (hall : AllSound pool' (fun i => (committed (slotHandle pool i) events).getD zeroPage)
      fun i d => (∀ t ∈ touched (slotHandle pool i) events, t = d) ∧ d = domain)
    (hcommitted : ∀ handle bytes, committedStep handle bytes event = bytes)
    (htouched : ∀ handle domains, touchedStep handle domains event = domain :: domains)
    (hdestroyed : ∀ handle, Destroyed handle (events ++ [event]) → Destroyed handle events)
    (hfailed : ∀ d, d < domainCount → MarkedFailed (events ++ [event]) d →
      pool'.failedDomains d = true) : Kept (events ++ [event]) pool' := by
  apply kept_handles hkept hhandles _ hdestroyed hfailed
  intro i hi hactive
  obtain ⟨bytes, hbytes, -⟩ := hkept.pages i hi hactive
  have hactive' := (hhandles.active i).trans hactive
  have hsound := hall i hi hactive'
  refine ⟨bytes, ?_, ?_⟩
  · rw [committed_snoc, hcommitted]
    exact hbytes
  · simp only [hbytes, Option.getD_some] at hsound
    apply hsound.mono
    intro d hd
    rw [touched_snoc, htouched] at hd
    exact ⟨fun t ht => hd t (List.mem_cons_of_mem _ ht), (hd domain List.mem_cons_self).symm⟩

end

theorem destroyed_old {handle : Handle} (hop : ∀ h, event.op ≠ .destroy h)
    (h : Destroyed handle (events ++ [event])) : Destroyed handle events := by
  rcases h.snoc with hold | ⟨hdestroy, -⟩
  · exact hold
  · exact absurd hdestroy (hop handle)

theorem kept_failDomain (hkept : Kept events pool) (domain : UInt32) :
    KeptAfter events pool (.failDomain domain) := by
  obtain ⟨hall, hhandles, hkeep, hmarked⟩ := failDomain_spec hkept.allSound domain
  apply kept_loss hkept hhandles hall
  · exact fun _ _ => rfl
  · exact fun _ _ => rfl
  · exact fun handle => destroyed_old (by simp)
  · intro d hd hevent
    rcases hevent.snoc with hold | hop
    · exact hkeep d (hkept.failed d hd hold)
    · cases hop
      exact hmarked hd

theorem kept_fault (hkept : Kept events pool) {garbage : Nat → UInt32 → Page}
    (hdetected : Detected pool domain garbage) :
    KeptAfter events pool (.fault domain garbage) := by
  apply kept_loss hkept _ (damage_spec hkept.allSound hdetected)
  · exact fun _ _ => rfl
  · exact fun _ _ => rfl
  · exact fun handle => destroyed_old (by simp)
  · intro d hd hevent
    rcases hevent.snoc with hold | hop
    · exact hkept.failed d hd hold
    · cases hop
  · exact ⟨fun _ => rfl, fun _ => rfl, rfl⟩

theorem kept_destroy (hkept : Kept events pool) (handle : Handle) :
    KeptAfter events pool (.destroy handle) := by
  have hsilent : ∀ other, Silent other (recorded pool (.destroy handle)) :=
    fun _ => ⟨fun _ => rfl, fun _ => rfl⟩
  by_cases hlive : Live pool handle
  · obtain ⟨bytes, hcommitted, hsound⟩ := hkept.page hlive
    obtain ⟨hresult, honly, hzero⟩ := destroy_spec hlive hsound
    show Kept _ (destroy pool handle).2
    have hoff : ((destroy pool handle).2.slots handle.slot.toNat).active = false := by
      rw [hzero]
      rfl
    have hother : ∀ i, ((destroy pool handle).2.slots i).active = true →
        i ≠ handle.slot.toNat := by
      rintro i hactive rfl
      rw [hoff] at hactive
      cases hactive
    refine ⟨?_, ?_, ?_, ?_⟩
    · intro i hi hactive
      have hne := hother i hactive
      rw [honly.slots i hne] at hactive
      obtain ⟨page, hpage, hkeep⟩ := hkept.pages i hi hactive
      rw [slotHandle_congr (congrArg Slot.generation (honly.slots i hne)),
        (hsilent _).committed_eq, (hsilent _).touched_eq]
      exact ⟨page, hpage, honly.pageSound hne hkeep⟩
    · intro i hi hactive
      have hne := hother i hactive
      rw [honly.slots i hne] at hactive ⊢
      rw [honly.next]
      exact hkept.generations i hi hactive
    · intro other hevent
      rw [honly.next]
      rcases hevent.snoc with hold | ⟨hop, -⟩
      · obtain ⟨hgeneration, hdead⟩ := hkept.destroyed other hold
        refine ⟨hgeneration, ?_⟩
        intro h
        have hne := hother _ h.active
        apply hdead
        refine ⟨h.slot, h.nonzero, ?_, ?_⟩
        · rw [← honly.slots _ hne]
          exact h.active
        · rw [← honly.slots _ hne]
          exact h.generation
      · cases hop
        have hbound := (hkept.generations _ hlive.slot hlive.active).2
        rw [hlive.generation] at hbound
        exact ⟨hbound, fun h => hother _ h.active rfl⟩
    · intro d hd hevent
      rw [honly.failed]
      rcases hevent.snoc with hold | hop
      · exact hkept.failed d hd hold
      · cases hop
  · obtain ⟨-, -, -, ⟨hresult, hsame⟩, -⟩ := dead_refused hlive 0 0 []
    have hfailed : (destroy pool handle).1.succeeded = false := not_succeeded (by simpa using hresult)
    have hplain : Plain (recorded pool (.destroy handle)) :=
      ⟨fun _ => .inr hfailed, fun _ => by simp⟩
    exact kept_idle hkept hsame hsilent hplain

theorem kept_create (hkept : Kept events pool) (initial : Page) :
    KeptAfter events pool (.create initial) := by
  have hplain : Plain (recorded pool (.create initial)) :=
    ⟨fun _ => .inl (by simp), fun _ => by simp⟩
  have hcases := create_cases pool initial
  have hperform : perform pool (.create initial) =
      (⟨(create pool initial).1, (create pool initial).2.1, none⟩, (create pool initial).2.2) := rfl
  rw [recorded, hperform] at hplain
  rw [KeptAfter, recorded, hperform]
  generalize create pool initial = answer at hcases hplain ⊢
  cases hcases with
  | refused result after hresult hslots hstorage hfailed hnext hreason =>
    have hsilent : ∀ other, Silent other ⟨.create initial, ⟨result, none, none⟩⟩ := by
      intro other
      refine ⟨?_, ?_⟩
      · intro bytes
        simp [committedStep]
      · intro domains
        simp [touchedStep]
    refine ⟨?_, ?_, ?_, ?_⟩
    · intro i hi hactive
      simp only [hslots] at hactive
      obtain ⟨page, hpage, hkeep⟩ := hkept.pages i hi hactive
      rw [slotHandle_congr (congrArg Slot.generation (congrFun hslots i)),
        (hsilent _).committed_eq, (hsilent _).touched_eq]
      exact ⟨page, hpage, pageSound_congr (congrFun hslots i)
        (fun d b => hstorage i d b hactive) hfailed hkeep⟩
    · intro i hi hactive
      simp only [hslots] at hactive ⊢
      obtain ⟨hnonzero, hbound⟩ := hkept.generations i hi hactive
      exact ⟨hnonzero, Nat.lt_of_lt_of_le hbound hnext⟩
    · intro other hdestroyed
      obtain ⟨hbound, hdead⟩ := hkept.destroyed other (hplain.destroyed hdestroyed)
      refine ⟨Nat.lt_of_lt_of_le hbound hnext, ?_⟩
      intro h
      exact hdead (live_congr (fun i => by rw [hslots]) (fun i => by rw [hslots]) h)
    · intro d hd hmarked
      simp only [hfailed]
      exact hkept.failed d hd (hplain.marked hmarked)
  | created slot first second after hslot hfind hdomains hold hpages hfree hnonzero hnext hslots
      hstorage hfailed hgeneration hsound =>
    have hnew : slotHandle after slot =
        { slot := UInt32.ofNat slot, generation := pool.nextHandleGeneration } := by
      unfold slotHandle
      rw [hgeneration]
    have hsilent : ∀ i < pageCapacity, i ≠ slot → Silent (slotHandle pool i)
        ⟨.create initial, ⟨.ok, some { slot := UInt32.ofNat slot
                                       generation := pool.nextHandleGeneration }, none⟩⟩ := by
      intro i hi his
      have hne : ({ slot := UInt32.ofNat slot, generation := pool.nextHandleGeneration } : Handle) ≠
          slotHandle pool i := by
        intro h
        have hnat := congrArg (fun handle => handle.slot.toNat) h
        have hi4 : i < 4 := hi
        have hslot4 : slot < 4 := hslot
        simp only [slotHandle, UInt32.toNat_ofNat'] at hnat
        omega
      refine ⟨?_, ?_⟩
      · intro bytes
        simp [committedStep, hne]
      · intro domains
        simp [touchedStep, hne]
    refine ⟨?_, ?_, ?_, ?_⟩
    · intro i hi hactive
      by_cases his : i = slot
      · subst his
        rw [hnew]
        refine ⟨initial, ?_, hsound.mono fun _ _ => trivial⟩
        rw [committed_snoc]
        simp [committedStep]
      · have hsame := hslots i his
        simp only [hsame] at hactive
        obtain ⟨page, hpage, hkeep⟩ := hkept.pages i hi hactive
        rw [slotHandle_congr (congrArg Slot.generation hsame),
          (hsilent i hi his).committed_eq, (hsilent i hi his).touched_eq]
        exact ⟨page, hpage, pageSound_congr hsame (fun d b => hstorage i d b his) hfailed hkeep⟩
    · intro i hi hactive
      simp only [hnext]
      by_cases his : i = slot
      · subst his
        simp only [hgeneration]
        exact ⟨hnonzero, Nat.lt_succ_self _⟩
      · simp only [hslots i his] at hactive ⊢
        obtain ⟨hne, hbound⟩ := hkept.generations i hi hactive
        exact ⟨hne, Nat.lt_succ_of_lt hbound⟩
    · intro other hdestroyed
      obtain ⟨hbound, hdead⟩ := hkept.destroyed other (hplain.destroyed hdestroyed)
      refine ⟨?_, ?_⟩
      · simp only [hnext]
        exact Nat.lt_succ_of_lt hbound
      · intro h
        by_cases his : other.slot.toNat = slot
        · have hsame := h.generation
          rw [his] at hsame
          simp only [hgeneration] at hsame
          rw [hsame] at hbound
          exact Nat.lt_irrefl _ hbound
        · apply hdead
          have hsame := hslots _ his
          refine ⟨h.slot, h.nonzero, ?_, ?_⟩
          · rw [← hsame]
            exact h.active
          · rw [← hsame]
            exact h.generation
    · intro d hd hmarked
      simp only [hfailed]
      exact hkept.failed d hd (hplain.marked hmarked)

theorem kept_step (hkept : Kept events pool) {op : Op} (hallowed : Allowed pool op) :
    KeptAfter events pool op := by
  cases op with
  | create initial => exact kept_create hkept initial
  | destroy handle => exact kept_destroy hkept handle
  | read handle capacity => exact kept_read hkept handle capacity
  | write handle offset bytes => exact kept_write hkept handle offset bytes
  | scrub handle => exact kept_scrub hkept handle
  | failDomain domain => exact kept_failDomain hkept domain
  | rebuild handle => exact kept_rebuild hkept handle
  | fault domain garbage => exact kept_fault hkept hallowed

theorem kept_run (h : Run events pool) : Kept events pool := by
  induction h with
  | start => exact kept_start
  | step hrun hallowed ih => exact kept_step ih hallowed

end ReistOs.Pages
