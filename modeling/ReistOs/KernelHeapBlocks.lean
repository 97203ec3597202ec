import ReistOs.KernelHeap

namespace ReistOs.KernelHeap

open Frames Block

/-- In order of addresses without overlap, and not both free side by side. -/
def Precedes (a b : Block) : Prop :=
  a.stop ≤ b.address ∧ (a.free = true → b.free = true → a.stop ≠ b.address)

instance : Trans Precedes Precedes Precedes where
  trans := by
    intro a b c hab hbc
    have hle := hab.1
    have hle' := hbc.1
    have hsize : b.address < b.stop := by
      unfold Block.stop Block.payload memoryBlockSize
      omega
    exact ⟨by omega, fun _ _ => by omega⟩

/-- A block on the grid of sixteen bytes that ends within the address space. -/
structure Aligned (b : Block) : Prop where
  address : b.address % 16 = 0
  size : b.size % 16 = 0
  ge : minAllocation ≤ b.size
  le : b.stop ≤ sizeMax

structure Laid (blocks : List Block) : Prop where
  chain : blocks.IsChain Precedes
  aligned : ∀ b ∈ blocks, Aligned b

def Block.Has (b : Block) (x : Nat) : Prop := b.address ≤ x ∧ x < b.stop

def Covers (blocks : List Block) (x : Nat) : Prop := ∃ b ∈ blocks, b.Has x

def livesOf (blocks : List Block) : List Block := blocks.filter fun b => !b.free

variable {blocks before after mid : List Block} {a b c : Block} {x size : Nat}

theorem covers_cons : Covers (b :: blocks) x ↔ b.Has x ∨ Covers blocks x :=
  List.exists_mem_cons_iff _ _ _

theorem covers_append : Covers (before ++ after) x ↔ Covers before x ∨ Covers after x := by
  unfold Covers
  simp only [List.mem_append, or_and_right, exists_or]

theorem not_covers_nil : ¬ Covers [] x := fun ⟨_, hb, _⟩ => (by cases hb)

theorem livesOf_append : livesOf (before ++ after) = livesOf before ++ livesOf after :=
  List.filter_append _ _

theorem livesOf_cons : livesOf (b :: blocks) = if b.free then livesOf blocks else b :: livesOf blocks := by
  unfold livesOf
  rw [List.filter_cons]
  cases b.free <;> rfl

theorem mem_livesOf : b ∈ livesOf blocks ↔ b ∈ blocks ∧ b.free = false := by
  unfold livesOf
  rw [List.mem_filter, Bool.not_eq_true']

theorem Laid.append (h : Laid before) (h' : Laid after)
    (hjoin : ∀ a ∈ before.getLast?, ∀ b ∈ after.head?, Precedes a b) : Laid (before ++ after) :=
  ⟨List.isChain_append.mpr ⟨h.chain, h'.chain, hjoin⟩, fun b hb =>
    (List.mem_append.mp hb).elim (h.aligned b) (h'.aligned b)⟩

theorem Laid.split (h : Laid (before ++ after)) : Laid before ∧ Laid after ∧
    ∀ a ∈ before.getLast?, ∀ b ∈ after.head?, Precedes a b := by
  obtain ⟨hfirst, hsecond, hjoin⟩ := List.isChain_append.mp h.chain
  exact ⟨⟨hfirst, fun b hb => h.aligned b (List.mem_append_left _ hb)⟩,
    ⟨hsecond, fun b hb => h.aligned b (List.mem_append_right _ hb)⟩, hjoin⟩

theorem Laid.cons (h : Laid blocks) (hb : Aligned b) (hjoin : ∀ c ∈ blocks.head?, Precedes b c) :
    Laid (b :: blocks) :=
  ⟨List.isChain_cons.mpr ⟨hjoin, h.chain⟩, fun c hc =>
    (List.mem_cons.mp hc).elim (fun heq => heq ▸ hb) (h.aligned c)⟩

theorem Laid.uncons (h : Laid (b :: blocks)) :
    Aligned b ∧ Laid blocks ∧ ∀ c ∈ blocks.head?, Precedes b c := by
  obtain ⟨hjoin, hchain⟩ := List.isChain_cons.mp h.chain
  exact ⟨h.aligned b List.mem_cons_self,
    ⟨hchain, fun c hc => h.aligned c (List.mem_cons_of_mem _ hc)⟩, hjoin⟩

theorem Laid.nil : Laid [] := ⟨List.IsChain.nil, fun _ hb => (by cases hb)⟩

theorem Laid.ne_of_mem (h : Laid (before ++ b :: after)) (hc : c ∈ before ∨ c ∈ after) : c ≠ b := by
  rintro rfl
  have hpairs := List.pairwise_append.mp (List.isChain_iff_pairwise.mp h.chain)
  have hself : ¬ Precedes c c := fun hself => by
    have hle := hself.1
    unfold stop payload memoryBlockSize at hle
    omega
  rcases hc with hc | hc
  · exact hself (hpairs.2.2 c hc c List.mem_cons_self)
  · exact hself ((List.pairwise_cons.mp hpairs.2.1).1 c hc)

theorem Laid.disjoint (h : Laid blocks) (ha : a ∈ blocks) (hb : b ∈ blocks) (hne : a ≠ b) :
    a.stop ≤ b.address ∨ b.stop ≤ a.address := by
  have hpairs : blocks.Pairwise fun a b => a.stop ≤ b.address ∨ b.stop ≤ a.address :=
    (List.isChain_iff_pairwise.mp h.chain).imp fun hprecedes => Or.inl hprecedes.1
  have hsymm : Std.Symm fun a b : Block => a.stop ≤ b.address ∨ b.stop ≤ a.address :=
    ⟨fun _ _ hor => hor.symm⟩
  exact hpairs.forall ha hb hne

theorem Laid.sum_le (h : Laid blocks) :
    (blocks.map Block.size).sum + (blocks.head?.map Block.address).getD 0 ≤ sizeMax := by
  induction blocks with
  | nil => exact Nat.zero_le _
  | cons b blocks ih =>
    obtain ⟨hb, htail, hjoin⟩ := h.uncons
    have hle := hb.le
    have hrest := ih htail
    unfold stop payload memoryBlockSize at hle
    rw [List.map_cons, List.sum_cons]
    show b.size + (blocks.map size).sum + b.address ≤ sizeMax
    cases blocks with
    | nil =>
      rw [List.map_nil, List.sum_nil]
      omega
    | cons c rest =>
      have hnext := (hjoin c rfl).1
      unfold stop payload memoryBlockSize at hnext
      have hhead : ((c :: rest).map size).sum + c.address ≤ sizeMax := hrest
      omega

theorem Laid.lives_le (h : Laid blocks) : ((livesOf blocks).map Block.size).sum ≤ sizeMax := by
  have hle : ((livesOf blocks).map size).sum ≤ (blocks.map size).sum :=
    (List.filter_sublist.map size).sum_le_sum fun _ _ => Nat.zero_le _
  have hall := h.sum_le
  omega

theorem Laid.replace {old : List Block} (h : Laid (before ++ (old ++ after))) (hmid : Laid mid)
    (hold : old ≠ []) (hne : mid ≠ [])
    (hhead : ∀ o ∈ old.head?, ∀ m ∈ mid.head?, m.address = o.address ∧
      (m.free = true → o.free = true))
    (hlast : ∀ o ∈ old.getLast?, ∀ m ∈ mid.getLast?, m.stop = o.stop ∧
      (m.free = true → o.free = true)) : Laid (before ++ (mid ++ after)) := by
  obtain ⟨hbefore, hrest, hjoin⟩ := h.split
  obtain ⟨-, hafter, hnext⟩ := hrest.split
  obtain ⟨first, hfirst⟩ : ∃ o, o ∈ old.head? := ⟨old.head hold, List.head?_eq_some_head hold⟩
  obtain ⟨last, hend⟩ : ∃ o, o ∈ old.getLast? :=
    ⟨old.getLast hold, List.getLast?_eq_some_getLast hold⟩
  refine hbefore.append (hmid.append hafter fun m hm c hc => ?_) fun p hp m hm => ?_
  · obtain ⟨hstop, hfree⟩ := hlast last hend m hm
    obtain ⟨hle, hapart⟩ := hnext last hend c hc
    exact ⟨by omega, fun hmfree hcfree => by rw [hstop]; exact hapart (hfree hmfree) hcfree⟩
  · have hm' : m ∈ mid.head? := by
      rw [← List.head?_append_of_ne_nil mid hne]
      exact hm
    have hfirst' : first ∈ (old ++ after).head? := by
      rw [List.head?_append_of_ne_nil old hold]
      exact hfirst
    obtain ⟨haddress, hfree⟩ := hhead first hfirst m hm'
    obtain ⟨hle, hapart⟩ := hjoin p hp first hfirst'
    exact ⟨by omega, fun hpfree hmfree => by rw [haddress]; exact hapart hpfree (hfree hmfree)⟩

theorem breakAt_some {p : Block → Bool} (h : breakAt p blocks = some (before, b, after)) :
    blocks = before ++ b :: after ∧ p b = true ∧ ∀ c ∈ before, p c = false := by
  induction blocks generalizing before with
  | nil => cases h
  | cons c blocks ih =>
    unfold breakAt at h
    split at h
    next hp =>
      obtain ⟨rfl, rfl, rfl⟩ : _ ∧ _ ∧ _ := by simpa using h
      exact ⟨rfl, hp, fun c hc => (by cases hc)⟩
    next hp =>
      obtain ⟨⟨before', b', after'⟩, hbreak, heq⟩ := Option.map_eq_some_iff.mp h
      obtain ⟨rfl, rfl, rfl⟩ : _ ∧ _ ∧ _ := by simpa using heq
      obtain ⟨rfl, hb, hbefore⟩ := ih hbreak
      refine ⟨rfl, hb, fun d hd => ?_⟩
      rcases List.mem_cons.mp hd with rfl | hd
      · simpa using hp
      · exact hbefore d hd

theorem breakAt_none {p : Block → Bool} (h : breakAt p blocks = none) :
    ∀ c ∈ blocks, p c = false := by
  induction blocks with
  | nil => exact fun c hc => (by cases hc)
  | cons c blocks ih =>
    unfold breakAt at h
    split at h
    next => cases h
    next hp =>
      intro d hd
      rcases List.mem_cons.mp hd with rfl | hd
      · simpa using hp
      · exact ih (Option.map_eq_none_iff.mp h) d hd

theorem split_spec (hb : Aligned b) (hsize : size % 16 = 0) (hpositive : minAllocation ≤ size)
    (hle : size ≤ b.size) :
    Laid ({ (splitBlock b size).1 with free := false } :: (splitBlock b size).2) ∧
      (splitBlock b size).1.address = b.address ∧ size ≤ (splitBlock b size).1.size ∧
      livesOf (splitBlock b size).2 = [] ∧
      (∀ m ∈ ({ (splitBlock b size).1 with free := false } :: (splitBlock b size).2).getLast?,
        m.stop = b.stop) ∧
      ∀ x, Covers ({ (splitBlock b size).1 with free := false } :: (splitBlock b size).2) x ↔
        b.Has x := by
  have haddress := hb.address
  have hgrid := hb.size
  have hstop := hb.le
  unfold stop payload memoryBlockSize at hstop
  unfold splitBlock
  dsimp only
  split
  next hsmall =>
    refine ⟨Laid.nil.cons ⟨hb.address, hb.size, hb.ge, hb.le⟩ fun c hc => (by cases hc), rfl, hle,
      rfl, fun m hm => ?_, fun x => ?_⟩
    · rw [List.getLast?_singleton, Option.mem_some_iff] at hm
      rw [← hm]
      rfl
    · rw [covers_cons, or_iff_left not_covers_nil]
      rfl
  next hlarge =>
    unfold memoryBlockSize minAllocation at hlarge
    have hrest : Aligned ⟨b.address + memoryBlockSize + size, b.size - size - memoryBlockSize,
        true⟩ := by
      refine ⟨?_, ?_, ?_, ?_⟩
      all_goals
        simp only [stop, payload, memoryBlockSize, minAllocation]
        omega
    have hfirst : Aligned { b with size := size, free := false } := by
      refine ⟨haddress, hsize, hpositive, ?_⟩
      simp only [stop, payload, memoryBlockSize]
      omega
    refine ⟨(Laid.nil.cons hrest fun c hc => (by cases hc)).cons hfirst fun c hc => ?_, rfl,
      le_rfl, rfl, fun m hm => ?_, fun x => ?_⟩
    · obtain rfl := Option.some.inj hc
      exact ⟨le_rfl, nofun⟩
    · rw [List.getLast?_cons_cons, List.getLast?_singleton, Option.mem_some_iff] at hm
      rw [← hm]
      simp only [stop, payload, memoryBlockSize]
      omega
    · rw [covers_cons, covers_cons, or_iff_left not_covers_nil]
      simp only [Block.Has, stop, payload, memoryBlockSize]
      omega

theorem joinNext_spec (hfree : b.free = true) (hb : Aligned b) (h : Laid after)
    (hnext : ∀ n ∈ after.head?, b.stop ≤ n.address) :
    ∃ b' rest, joinNext b after = b' :: rest ∧ b'.address = b.address ∧ b'.free = true ∧
      Laid (b' :: rest) ∧ livesOf rest = livesOf after ∧
      ∀ x, Covers (b' :: rest) x ↔ b.Has x ∨ Covers after x := by
  cases after with
  | nil =>
    refine ⟨b, [], rfl, rfl, hfree, Laid.nil.cons hb fun c hc => (by cases hc), rfl, fun x => ?_⟩
    rw [covers_cons]
  | cons n rest =>
    have hle := hnext n rfl
    obtain ⟨hn, hrest, hjoin⟩ := h.uncons
    simp only [joinNext]
    split
    next hadjacent =>
      rw [Bool.and_eq_true] at hadjacent
      obtain ⟨hnfree, heq⟩ := hadjacent
      have hstop : b.stop = n.address := by simpa [blocksAreAdjacent] using heq
      have hend : ({ b with size := b.size + (memoryBlockSize + n.size) } : Block).stop = n.stop := by
        simp only [stop, payload, memoryBlockSize] at hstop ⊢
        omega
      have hsizes : b.size % 16 = 0 ∧ n.size % 16 = 0 := ⟨hb.size, hn.size⟩
      have hge := hb.ge
      have haligned : Aligned { b with size := b.size + (memoryBlockSize + n.size) } := by
        refine ⟨hb.address, ?_, ?_, by rw [hend]; exact hn.le⟩
        · show (b.size + (memoryBlockSize + n.size)) % 16 = 0
          unfold memoryBlockSize
          omega
        · show minAllocation ≤ b.size + (memoryBlockSize + n.size)
          omega
      refine ⟨_, rest, rfl, rfl, hfree, hrest.cons haligned fun c hc => ?_, ?_, fun x => ?_⟩
      · obtain ⟨hcle, hapart⟩ := hjoin c hc
        exact ⟨by rw [hend]; exact hcle, fun _ hcfree => by rw [hend]; exact hapart hnfree hcfree⟩
      · rw [livesOf_cons, hnfree, if_pos rfl]
      · rw [covers_cons, covers_cons, ← or_assoc]
        refine or_congr_left ?_
        unfold Block.Has
        rw [hend]
        have hbsize : b.address ≤ b.stop := by
          unfold stop payload
          omega
        have hnsize : n.address ≤ n.stop := by
          unfold stop payload
          omega
        show b.address ≤ x ∧ x < n.stop ↔ _
        omega
    next happart =>
      refine ⟨b, n :: rest, rfl, rfl, hfree, h.cons hb fun c hc => ?_, rfl, fun x => ?_⟩
      · obtain rfl := Option.some.inj hc
        refine ⟨hle, fun _ hnfree heq => happart ?_⟩
        rw [hnfree, Bool.true_and]
        simpa [blocksAreAdjacent] using heq
      · rw [covers_cons]

theorem place_spec (hfree : b.free = true) (hb : Aligned b) (hbefore : Laid before)
    (hafter : Laid after) (hprevious : ∀ p ∈ before.getLast?, p.stop ≤ b.address)
    (hnext : ∀ n ∈ after.head?, b.stop ≤ n.address) :
    Laid (joinPrevious before (joinNext b after)) ∧
      livesOf (joinPrevious before (joinNext b after)) = livesOf (before ++ after) ∧
      ∀ x, Covers (joinPrevious before (joinNext b after)) x ↔
        b.Has x ∨ Covers (before ++ after) x := by
  obtain ⟨b', rest, heq, haddress, hfree', hlaid, hlives, hcovers⟩ :=
    joinNext_spec hfree hb hafter hnext
  rw [heq]
  rcases List.eq_nil_or_concat before with rfl | ⟨front, p, rfl⟩
  · refine ⟨hlaid, ?_, fun x => ?_⟩
    · show livesOf (b' :: rest) = livesOf after
      rw [livesOf_cons, hfree', if_pos rfl, hlives]
    · exact hcovers x
  · rw [List.concat_eq_append] at hbefore hprevious ⊢
    have hple := hprevious p (by simp)
    obtain ⟨hfront, hp, hjoin⟩ := hbefore.split
    obtain ⟨hp, -, -⟩ := hp.uncons
    obtain ⟨hb', hrest, hbehind⟩ := hlaid.uncons
    unfold joinPrevious
    simp only [List.getLast?_append, List.getLast?_singleton, Option.some_or, List.dropLast_concat]
    split
    next hadjacent =>
      rw [Bool.and_eq_true] at hadjacent
      obtain ⟨hpfree, hadj⟩ := hadjacent
      have hstop : p.stop = b'.address := by simpa [blocksAreAdjacent] using hadj
      have hend : ({ p with size := p.size + (memoryBlockSize + b'.size) } : Block).stop =
          b'.stop := by
        simp only [stop, payload, memoryBlockSize] at hstop ⊢
        omega
      have hsizes : p.size % 16 = 0 ∧ b'.size % 16 = 0 := ⟨hp.size, hb'.size⟩
      have hge := hp.ge
      have haligned : Aligned { p with size := p.size + (memoryBlockSize + b'.size) } := by
        refine ⟨hp.address, ?_, ?_, by rw [hend]; exact hb'.le⟩
        · show (p.size + (memoryBlockSize + b'.size)) % 16 = 0
          unfold memoryBlockSize
          omega
        · show minAllocation ≤ p.size + (memoryBlockSize + b'.size)
          omega
      refine ⟨hfront.append (hrest.cons haligned fun c hc => ?_) fun q hq m hm => ?_, ?_,
        fun x => ?_⟩
      · obtain ⟨hcle, hapart⟩ := hbehind c hc
        exact ⟨by rw [hend]; exact hcle, fun _ hcfree => by rw [hend]; exact hapart hfree' hcfree⟩
      · obtain rfl := Option.some.inj hm
        exact hjoin q hq p rfl
      · rw [livesOf_append, livesOf_append, livesOf_append, livesOf_cons, livesOf_cons, hpfree,
          if_pos rfl, if_pos rfl, hlives]
        exact (congrArg (· ++ livesOf after) (List.append_nil _)).symm
      · rw [covers_append, covers_append, covers_append, covers_cons, covers_cons,
          or_iff_left not_covers_nil]
        have hsame := hcovers x
        rw [covers_cons] at hsame
        have hpsize : p.address ≤ p.stop := by
          unfold stop payload
          omega
        have hbsize : b'.address ≤ b'.stop := by
          unfold stop payload
          omega
        have hjoined : ({ p with size := p.size + (memoryBlockSize + b'.size) } : Block).Has x ↔
            p.Has x ∨ b'.Has x := by
          unfold Block.Has
          rw [hend]
          show p.address ≤ x ∧ x < b'.stop ↔ _
          omega
        rw [hjoined]
        tauto
    next happart =>
      refine ⟨hbefore.append hlaid fun q hq m hm => ?_, ?_, fun x => ?_⟩
      · obtain rfl : p = q := by simpa using hq
        obtain rfl := Option.some.inj hm
        refine ⟨by rw [haddress]; exact hple, fun hpfree _ heq => happart ?_⟩
        rw [hpfree, Bool.true_and]
        simpa [blocksAreAdjacent] using heq
      · rw [livesOf_append, livesOf_cons, hfree', if_pos rfl, hlives, ← livesOf_append]
      · rw [covers_append, hcovers]
        simp only [covers_append]
        tauto

end ReistOs.KernelHeap
