import ReistOs.ResilientWear

namespace ReistOs.Pages

section Reads

variable {pool : Pool} {handle : Handle} {capacity : Nat}

theorem resolve_error {result : PageResult} (h : (resolve pool handle).1 = .error result) :
    result.succeeded = false := by
  unfold resolve at h
  split at h
  next =>
    cases h
    rfl
  next =>
    simp only at h
    split at h
    next =>
      cases h
      rfl
    next =>
      split at h
      next =>
        cases h
        rfl
      next =>
        split at h
        next =>
          cases h
          rfl
        next => cases h

theorem resolveAssess_result (pool : Pool) (handle : Handle) :
    (∃ slot assessment after, resolveAssess pool handle = (.ok (slot, assessment), after) ∧
      assessment.result.succeeded = true) ∨
    ∃ result after, resolveAssess pool handle = (.error result, after) ∧
      result.succeeded = false := by
  have herror : ∀ result, (resolve pool handle).1 = .error result → result.succeeded = false :=
    fun result h => resolve_error h
  unfold resolveAssess
  generalize resolve pool handle = resolved at herror ⊢
  obtain ⟨resolved, after⟩ := resolved
  cases resolved with
  | error result => exact .inr ⟨result, after, rfl, herror result rfl⟩
  | ok found =>
    obtain ⟨slot, metadata⟩ := found
    simp only
    by_cases hresult : (assess after slot metadata).1.result.succeeded = true
    · rw [if_pos hresult]
      exact .inl ⟨slot, _, _, rfl, hresult⟩
    · rw [if_neg hresult]
      exact .inr ⟨_, _, rfl, by simpa using hresult⟩

theorem read_succeeded_iff : (read pool handle capacity).1.result.succeeded = true ↔
    pageSize ≤ capacity ∧ Readable pool handle := by
  unfold read
  by_cases hsmall : capacity < pageSize
  · rw [if_pos hsmall]
    constructor
    · intro h
      cases h
    · rintro ⟨hlarge, -⟩
      omega
  · rw [if_neg hsmall]
    unfold Readable
    rcases resolveAssess_result pool handle with ⟨slot, assessment, after, heq, hresult⟩ |
      ⟨result, after, heq, hresult⟩
    · rw [heq]
      exact ⟨fun _ => ⟨by omega, _, rfl⟩, fun _ => hresult⟩
    · rw [heq]
      constructor
      · intro h
        simp only [hresult] at h
        cases h
      · rintro ⟨-, answer, hanswer⟩
        cases hanswer

theorem read_source (h : (read pool handle capacity).1.result.succeeded = true) :
    ∃ domain slot bank, dataSource pool handle = some domain ∧
      (read pool handle capacity).1.bytes =
        some ((read pool handle capacity).2.storage domain slot bank) := by
  obtain ⟨hlarge, answer, hanswer⟩ := read_succeeded_iff.mp h
  unfold read dataSource
  rw [if_neg (Nat.not_lt.mpr hlarge)]
  generalize resolveAssess pool handle = entry at hanswer ⊢
  obtain ⟨entry, after⟩ := entry
  subst hanswer
  obtain ⟨slot, assessment⟩ := answer
  exact ⟨_, slot, _, rfl, rfl⟩

end Reads

section Survival

variable {pool : Pool} {handle : Handle} {bytes : Page} {domains : UInt32 → Prop}

theorem readable_of_shielded (hlive : Live pool handle)
    (hsound : PageSound pool handle.slot.toNat bytes domains) {domain : UInt32}
    (hdomain : domains domain) (hspare : Spare pool handle.slot.toNat) : Readable pool handle := by
  obtain ⟨sequence, metadata, hold, hmirrors, hshield⟩ := hsound
  obtain ⟨hstate, ⟨replica, hr, hne⟩, hall⟩ := hshield domain hdomain
  have hmem : replica ∈ validReplicas pool handle.slot.toNat metadata :=
    mem_validReplicas.mpr ⟨hr, hall replica hr hne⟩
  apply readable_of_answerable hlive hold hmirrors
  refine ⟨hstate, ?_⟩
  rcases validReplicas_cases pool handle.slot.toNat metadata with hnone | ⟨survivor, hone⟩ | hboth
  · rw [hnone] at hmem
    cases hmem
  · refine .inr ⟨survivor, hone, ?_⟩
    have hroom := hspare sequence metadata hold survivor hone
    apply next_ne_zero
    omega
  · exact .inl hboth

end Survival

variable {events : List Event} {pool : Pool}

def OnPage (handle : Handle) : Op → Prop
  | .destroy target => target = handle
  | .read target _ => target = handle
  | .write target _ _ => target = handle
  | .scrub target => target = handle
  | .rebuild target => target = handle
  | _ => False

variable {handle : Handle}

theorem onPage_only (hkept : Kept events pool) {op : Op} (h : OnPage handle op) :
    OnlyAt handle.slot.toNat pool (perform pool op).2 := by
  by_cases hlive : Live pool handle
  · obtain ⟨bytes, -, hsound⟩ := hkept.page hlive
    cases op with
    | destroy target =>
      obtain rfl : target = handle := h
      exact (destroy_spec hlive hsound).2.1
    | read target capacity =>
      obtain rfl : target = handle := h
      exact (read_spec hlive hsound capacity).1.only
    | write target offset new =>
      obtain rfl : target = handle := h
      exact (write_spec hlive hsound offset new).1.only
    | scrub target =>
      obtain rfl : target = handle := h
      exact (scrub_spec hlive hsound).1.only
    | rebuild target =>
      obtain rfl : target = handle := h
      exact (rebuild_spec hlive hsound).1.only
    | create initial => cases h
    | failDomain domain => cases h
    | fault domain garbage => cases h
  · have hsame : (perform pool op).2 = pool := by
      cases op with
      | destroy target =>
        obtain rfl : target = handle := h
        exact (dead_refused hlive 0 0 []).2.2.2.1.2
      | read target capacity =>
        obtain rfl : target = handle := h
        exact (dead_refused hlive capacity 0 []).1.1.2
      | write target offset new =>
        obtain rfl : target = handle := h
        exact (dead_refused hlive 0 offset new).1.2.2
      | scrub target =>
        obtain rfl : target = handle := h
        exact (dead_refused hlive 0 0 []).2.1.2
      | rebuild target =>
        obtain rfl : target = handle := h
        exact (dead_refused hlive 0 0 []).2.2.1.2
      | create initial => cases h
      | failDomain domain => cases h
      | fault domain garbage => cases h
    rw [hsame]
    exact OnlyAt.refl _ _

theorem onPage_dead (hdead : ¬ Live pool handle) {op : Op} (h : OnPage handle op) :
    (perform pool op).1.result ∈ [PageResult.errorArgument, .errorStale] := by
  cases op with
  | destroy target =>
    obtain rfl : target = handle := h
    exact (dead_refused hdead 0 0 []).2.2.2.1.1
  | read target capacity =>
    obtain rfl : target = handle := h
    exact (dead_refused hdead capacity 0 []).1.1.1
  | write target offset new =>
    obtain rfl : target = handle := h
    exact (dead_refused hdead 0 offset new).1.2.1
  | scrub target =>
    obtain rfl : target = handle := h
    exact (dead_refused hdead 0 0 []).2.1.1
  | rebuild target =>
    obtain rfl : target = handle := h
    exact (dead_refused hdead 0 0 []).2.2.1.1
  | create initial => cases h
  | failDomain domain => cases h
  | fault domain garbage => cases h

theorem create_keeps (initial : Page) {i : Nat} (hactive : (pool.slots i).active = true) :
    (perform pool (.create initial)).2.slots i = pool.slots i ∧
      ∀ d b, (perform pool (.create initial)).2.storage d i b = pool.storage d i b := by
  have hcases := create_cases pool initial
  have hperform : (perform pool (.create initial)).2 = (create pool initial).2.2 := rfl
  rw [hperform]
  generalize create pool initial = answer at hcases ⊢
  cases hcases with
  | refused result after hresult hslots hstorage hfailed hnext hreason =>
    exact ⟨congrFun hslots i, fun d b => hstorage i d b hactive⟩
  | created slot first second after hslot hfind hdomains hold hpages hfree hnonzero hnext hslots
      hstorage hfailed hgeneration hsound =>
    have hne : i ≠ slot := by
      rintro rfl
      rw [hfree] at hactive
      cases hactive
    exact ⟨hslots i hne, fun d b => hstorage i d b hne⟩

theorem live_of_readable (h : Readable pool handle) : Live pool handle := by
  by_contra hdead
  obtain ⟨result, -, heq⟩ := resolveAssess_dead hdead
  obtain ⟨answer, hanswer⟩ := h
  rw [heq] at hanswer
  cases hanswer

/-- Every page on its last sound replica can still publish its metadata twice. -/
def SparePool (pool : Pool) : Prop := ∀ i < pageCapacity, Spare pool i

/-- What the pages of a pool promise after a run, as long as no metadata sequence is spent. -/
theorem pages_survive (hrun : Run events pool) (hspare : SparePool pool) (handle : Handle) :
    -- a successful read returns the bytes that the successful writes have given the page
    (∀ capacity, (read pool handle capacity).1.result.succeeded = true → ∃ bytes,
      committed handle events = some bytes ∧ (read pool handle capacity).1.bytes = some bytes) ∧
    -- a failed write leaves a readable page readable, with the bytes it had
    (∀ offset new capacity, (read pool handle capacity).1.result.succeeded = true →
      (write pool handle offset new).1.succeeded = false →
        (read (write pool handle offset new).2 handle capacity).1.result.succeeded = true ∧
          (read (write pool handle offset new).2 handle capacity).1.bytes =
            committed handle events) ∧
    -- a page whose faults since it was last whole lie in one domain can be read
    (∀ capacity, pageSize ≤ capacity → Live pool handle →
      (∃ domain, ∀ t ∈ touched handle events, t = domain) →
        (read pool handle capacity).1.result.succeeded = true) ∧
    -- no bytes come from a domain that was marked failed
    (∀ domain, domain < domainCount → MarkedFailed events domain →
      dataSource pool handle ≠ some domain) ∧
    (∀ capacity, (read pool handle capacity).1.result.succeeded = true →
      ∃ domain slot bank, dataSource pool handle = some domain ∧
        (read pool handle capacity).1.bytes =
          some ((read pool handle capacity).2.storage domain slot bank)) ∧
    -- an operation on one page changes no other slot, a creation no page at all
    (∀ op, OnPage handle op → OnlyAt handle.slot.toNat pool (perform pool op).2) ∧
    (∀ initial i, (pool.slots i).active = true →
      (perform pool (.create initial)).2.slots i = pool.slots i ∧
        ∀ d b, (perform pool (.create initial)).2.storage d i b = pool.storage d i b) ∧
    -- the handle of a destroyed page is refused by every operation
    (Destroyed handle events → ∀ op, OnPage handle op →
      (perform pool op).1.result ∈ [PageResult.errorArgument, .errorStale]) := by
  have hkept := kept_run hrun
  refine ⟨?_, ?_, ?_, ?_, fun capacity h => read_source h, fun op h => onPage_only hkept h,
    fun initial i h => create_keeps initial h, ?_⟩
  · intro capacity hread
    have hlive := live_of_readable (read_succeeded_iff.mp hread).2
    obtain ⟨bytes, hcommitted, hsound⟩ := hkept.page hlive
    exact ⟨bytes, hcommitted, (read_spec hlive hsound capacity).2.2 hread⟩
  · intro offset new capacity hread hwrite
    obtain ⟨hlarge, hreadable⟩ := read_succeeded_iff.mp hread
    have hlive := live_of_readable hreadable
    obtain ⟨bytes, hcommitted, hsound⟩ := hkept.page hlive
    obtain ⟨hsame, hafter, hstill⟩ := write_spec hlive hsound offset new
    rw [hwrite] at hafter
    have hlive' := hlive.after hsame hafter.active
    have hread' : (read (write pool handle offset new).2 handle capacity).1.result.succeeded =
        true := read_succeeded_iff.mpr ⟨hlarge, hstill hwrite (hspare _ hlive.slot) hreadable⟩
    refine ⟨hread', ?_⟩
    rw [hcommitted]
    exact (read_spec hlive' hafter capacity).2.2 hread'
  · rintro capacity hlarge hlive ⟨domain, htouched⟩
    obtain ⟨bytes, -, hsound⟩ := hkept.page hlive
    exact read_succeeded_iff.mpr
      ⟨hlarge, readable_of_shielded hlive hsound htouched (hspare _ hlive.slot)⟩
  · intro domain hdomain hmarked hsource
    have hfailed := hkept.failed domain hdomain hmarked
    by_cases hlive : Live pool handle
    · obtain ⟨bytes, -, hsound⟩ := hkept.page hlive
      rw [dataSource_sound hlive hsound hsource] at hfailed
      cases hfailed
    · rw [(dead_refused hlive 0 0 []).2.2.2.2] at hsource
      cases hsource
  · intro hdestroyed op hop
    exact onPage_dead (hkept.destroyed handle hdestroyed).2 hop

/-- A pool in which the first page has just been created keeps its promises. -/
theorem first_page_survives : ∃ events pool, Run events pool ∧
    events.map Event.op = [.create zeroPage] ∧
    ((read pool firstHandle 4096).1.result.succeeded = true ∧
      (read pool firstHandle 4096).1.bytes = some zeroPage) ∧
    ∀ op, OnPage firstHandle op → OnlyAt 0 pool (perform pool op).2 := by
  have hallowed : Allowed pagesInit (.create zeroPage) := trivial
  have hrun := Run.start.step hallowed
  obtain ⟨hhandle, hfirst⟩ := create_first zeroPage
  have hspare : SparePool (perform pagesInit (.create zeroPage)).2 := fun i _ => hfirst.spare i
  obtain ⟨hread, -, hreadable, -, -, honly, -⟩ := pages_survive hrun hspare firstHandle
  have hshown : (perform pagesInit (.create zeroPage)).1.handle = some firstHandle := hhandle
  have hlarge : pageSize ≤ 4096 := Nat.le_refl _
  have htouched : ∀ t ∈ touched firstHandle
      ([] ++ [⟨.create zeroPage, (perform pagesInit (.create zeroPage)).1⟩]), t = 0 := by
    rw [touched_snoc]
    simp [touchedStep, hshown]
  have hgood := hreadable 4096 hlarge hfirst.live ⟨0, htouched⟩
  refine ⟨_, _, hrun, rfl, ⟨hgood, ?_⟩, honly⟩
  obtain ⟨bytes, hbytes, hanswer⟩ := hread 4096 hgood
  rw [committed_snoc] at hbytes
  simp only [committedStep, if_pos hshown] at hbytes
  rw [hanswer, hbytes]

/-- A page on its last replica is readable until reads have worn its metadata down to one sequence:
the write that spends it fails and takes the page along. -/
theorem worn_page_lost : ∃ events pool, Run events pool ∧
    events.map Event.op = [.create zeroPage, .failDomain 0] ++
      List.replicate 4294967292 (.read firstHandle 4096) ∧
    (∀ t ∈ touched firstHandle events, t = 0) ∧
    (read pool firstHandle 4096).1.result.succeeded = true ∧
    (write pool firstHandle 0 [1]).1.succeeded = false ∧
    (read (write pool firstHandle 0 [1]).2 firstHandle 4096).1.result.succeeded = false := by
  have hallowed : Allowed pagesInit (.create zeroPage) := trivial
  obtain ⟨hhandle, hfirst⟩ := create_first zeroPage
  have hcreated := Run.start.step hallowed
  have hmarked : Allowed (perform pagesInit (.create zeroPage)).2 (.failDomain 0) := trivial
  have hrun := hcreated.step hmarked
  have hworn : Worn (perform (perform pagesInit (.create zeroPage)).2 (.failDomain 0)).2
      firstHandle 2 := by
    rw [perform_failDomain, perform_create]
    exact hfirst.failDomain
  have hlarge : pageSize ≤ 4096 := Nat.le_refl _
  have htwo : (2 : UInt32).toNat = 2 := rfl
  obtain ⟨events, pool, sequence, hrun', hops, htouched, hworn', hsequence⟩ :=
    worn_reads hrun hworn hlarge 4294967292 (by omega)
  have hnext : sequence.toNat + 1 < 2 ^ 32 := by omega
  have hlast := next_toNat hnext
  have hspent : sequence + 1 + 1 = 0 := by
    apply UInt32.toNat_inj.mp
    have hone : (1 : UInt32).toNat = 1 := rfl
    have hzero : (0 : UInt32).toNat = 0 := rfl
    rw [UInt32.toNat_add, hlast]
    omega
  have hargs : ¬ (([1] : List UInt8).length = 0 ∨ 0 > pageSize ∨
      ([1] : List UInt8).length > pageSize - 0) := by decide
  obtain ⟨hfailed, hafter⟩ := worn_write hworn' (next_ne_zero hnext) hspent 0 hargs
  have hshown : (perform pagesInit (.create zeroPage)).1.handle = some firstHandle := hhandle
  refine ⟨events, pool, hrun', hops, ?_, (worn_read hworn' (next_ne_zero hnext) hlarge).1, hfailed,
    spent_read hafter hspent 4096⟩
  intro t ht
  rw [htouched, touched_snoc, touched_snoc] at ht
  simpa [touchedStep, hshown, touched] using ht

end ReistOs.Pages
