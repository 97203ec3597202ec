import Mathlib.Tactic

/-! A ledger of letters that are posted in boxes, and read out of them in any order. Letters are
named by the order in which they were posted. -/

structure Post (Box Agent Letter : Type) where
  box : Box
  sender : Agent
  letter : Letter

structure Delivery (Agent Letter : Type) where
  index : Nat
  reader : Agent
  letter : Letter

/-- All that was posted, what waits in each box, all that was read, and how many letters there had
been when a box was last emptied. -/
structure Mail (Box Agent Letter : Type) where
  sent : List (Post Box Agent Letter)
  waiting : Box → List Nat
  delivered : List (Delivery Agent Letter)
  emptied : Box → Nat

namespace Mail

variable {Box Agent Letter : Type} {m : Mail Box Agent Letter} {b c : Box}
  {sender reader : Agent} {letter : Letter} {offset i : Nat} {post : Post Box Agent Letter}

def empty : Mail Box Agent Letter := ⟨[], fun _ => [], [], fun _ => 0⟩

/-- The boxes lose what waits in them. -/
def discard (m : Mail Box Agent Letter) (lost : Box → Bool) : Mail Box Agent Letter :=
  { m with
    waiting := fun b => if lost b then [] else m.waiting b
    emptied := fun b => if lost b then m.sent.length else m.emptied b }

/-- What waits in a box, with its senders. -/
def letters (m : Mail Box Agent Letter) (b : Box) : List (Option (Letter × Agent)) :=
  (m.waiting b).map fun i => (m.sent[i]?).map fun post => (post.letter, post.sender)

/-- The letters of one sender in one box. -/
def Along (p q : Post Box Agent Letter) : Prop := p.box = q.box ∧ p.sender = q.sender

/-- A letter is read once at most, as posted and not by its sender; those of one sender in one box
in their order; none is lost but where its box was emptied. -/
structure Sound (m : Mail Box Agent Letter) : Prop where
  boxed : ∀ b, ∀ i ∈ m.waiting b, ∃ post, m.sent[i]? = some post ∧ post.box = b
  ordered : ∀ b, (m.waiting b).Pairwise (· < ·)
  past : ∀ d ∈ m.delivered, ∃ post, m.sent[d.index]? = some post ∧ d.letter = post.letter ∧
    d.reader ≠ post.sender ∧ d.index ∉ m.waiting post.box
  once : (m.delivered.map Delivery.index).Nodup
  first : ∀ d ∈ m.delivered, ∀ b, ∀ i ∈ m.waiting b, ∀ p q, m.sent[d.index]? = some p →
    m.sent[i]? = some q → Along p q → d.index < i
  sequence : m.delivered.Pairwise fun d d' => ∀ p q, m.sent[d.index]? = some p →
    m.sent[d'.index]? = some q → Along p q → d.index < d'.index
  kept : ∀ i post, m.sent[i]? = some post → i ∈ m.waiting post.box ∨
    (∃ d ∈ m.delivered, d.index = i) ∨ i < m.emptied post.box

theorem sound_empty : Sound (empty : Mail Box Agent Letter) where
  boxed _ _ hi := absurd hi List.not_mem_nil
  ordered _ := List.Pairwise.nil
  past _ hd := absurd hd List.not_mem_nil
  once := List.nodup_nil
  first _ hd := absurd hd List.not_mem_nil
  sequence := List.Pairwise.nil
  kept _ _ hi := by simp [empty] at hi

theorem Sound.below (h : m.Sound) (hi : i ∈ m.waiting b) : i < m.sent.length := by
  obtain ⟨post, hpost, -⟩ := h.boxed b i hi
  exact (List.getElem?_eq_some_iff.mp hpost).1

theorem Sound.discard (h : m.Sound) (lost : Box → Bool) : (m.discard lost).Sound := by
  have hmem : ∀ c j, j ∈ (m.discard lost).waiting c → lost c = false ∧ j ∈ m.waiting c := by
    intro c j hj
    unfold Mail.discard at hj
    dsimp only at hj
    split at hj
    next => exact absurd hj List.not_mem_nil
    next hc => exact ⟨by simpa using hc, hj⟩
  refine
    { boxed := fun c j hj => h.boxed c j (hmem c j hj).2
      ordered := ?_
      past := ?_
      once := h.once
      first := fun d hd c j hj => h.first d hd c j (hmem c j hj).2
      sequence := h.sequence
      kept := ?_ }
  · intro c
    unfold Mail.discard
    dsimp only
    split
    next => exact List.Pairwise.nil
    next => exact h.ordered c
  · intro d hd
    obtain ⟨p, hp, hl, hr, hgone⟩ := h.past d hd
    exact ⟨p, hp, hl, hr, fun hj => hgone (hmem _ _ hj).2⟩
  · intro j p hj
    unfold Mail.discard
    dsimp only
    split
    next => exact .inr (.inr (List.getElem?_eq_some_iff.mp hj).1)
    next => exact h.kept j p hj

theorem letters_place (h : (m.letters b)[offset]? = some (some (letter, sender))) :
    ∃ i post, (m.waiting b)[offset]? = some i ∧ m.sent[i]? = some post ∧ post.letter = letter ∧
      post.sender = sender := by
  unfold letters at h
  rw [List.getElem?_map, Option.map_eq_some_iff] at h
  obtain ⟨i, hi, hpost⟩ := h
  obtain ⟨post, hpost, hsame⟩ := Option.map_eq_some_iff.mp hpost
  exact ⟨i, post, hi, hpost, congrArg Prod.fst hsame, congrArg Prod.snd hsame⟩

theorem letters_of_place (hi : (m.waiting b)[offset]? = some i) (hpost : m.sent[i]? = some post) :
    (m.letters b)[offset]? = some (some (post.letter, post.sender)) := by
  unfold letters
  rw [List.getElem?_map, hi, Option.map_some, hpost, Option.map_some]

theorem letters_discard {lost : Box → Bool} :
    (m.discard lost).letters b = if lost b then [] else m.letters b := by
  unfold letters discard
  dsimp only
  split
  · rfl
  · rfl

section Later

/-- `m'` comes after `m`: more was posted and read, and what had been posted before and is read or
waits now was waiting then. -/
structure Later (m m' : Mail Box Agent Letter) : Prop where
  sent : ∃ posts, m'.sent = m.sent ++ posts
  delivered : ∃ read, m'.delivered = m.delivered ++ read ∧ ∀ d ∈ read, d.index < m.sent.length →
    ∃ b, d.index ∈ m.waiting b
  waiting : ∀ b, ∀ i ∈ m'.waiting b, i < m.sent.length → i ∈ m.waiting b

variable {m' : Mail Box Agent Letter}

theorem Later.refl (m : Mail Box Agent Letter) : Later m m where
  sent := ⟨[], (List.append_nil _).symm⟩
  delivered := ⟨[], (List.append_nil _).symm, fun _ hd => absurd hd List.not_mem_nil⟩
  waiting _ _ hi _ := hi

theorem Later.length_le (h : Later m m') : m.sent.length ≤ m'.sent.length := by
  obtain ⟨posts, hposts⟩ := h.sent
  rw [hposts, List.length_append]
  omega

theorem Later.discard (h : Later m m') (lost : Box → Bool) : Later m (m'.discard lost) where
  sent := h.sent
  delivered := h.delivered
  waiting := by
    intro c j hj hold
    unfold Mail.discard at hj
    dsimp only at hj
    split at hj
    next => exact absurd hj List.not_mem_nil
    next => exact h.waiting c j hj hold

end Later

variable [DecidableEq Box]

def send (m : Mail Box Agent Letter) (b : Box) (sender : Agent) (letter : Letter) :
    Mail Box Agent Letter :=
  { m with
    sent := m.sent ++ [⟨b, sender, letter⟩]
    waiting := Function.update m.waiting b (m.waiting b ++ [m.sent.length]) }

/-- The reader takes the letter at an offset of the box. -/
def take (m : Mail Box Agent Letter) (b : Box) (offset : Nat) (reader : Agent) (letter : Letter) :
    Mail Box Agent Letter :=
  match (m.waiting b)[offset]? with
  | none => m
  | some i =>
    { m with
      waiting := Function.update m.waiting b ((m.waiting b).eraseIdx offset)
      delivered := m.delivered ++ [⟨i, reader, letter⟩] }

theorem send_waiting : (m.send b sender letter).waiting c =
    if c = b then m.waiting b ++ [m.sent.length] else m.waiting c := Function.update_apply ..

theorem send_old (h : m.sent[i]? = some post) : (m.send b sender letter).sent[i]? = some post := by
  have hlt : i < m.sent.length := (List.getElem?_eq_some_iff.mp h).1
  unfold send
  rw [List.getElem?_append_left hlt]
  exact h

theorem send_new : (m.send b sender letter).sent[m.sent.length]? = some ⟨b, sender, letter⟩ := by
  unfold send
  rw [List.getElem?_append_right (le_refl _), Nat.sub_self]
  rfl

/-- A letter is an earlier one, or the new one. -/
theorem send_sent (h : (m.send b sender letter).sent[i]? = some post) :
    m.sent[i]? = some post ∨ (i = m.sent.length ∧ post = ⟨b, sender, letter⟩) := by
  rcases Nat.lt_trichotomy i m.sent.length with hlt | rfl | hgt
  · left
    unfold send at h
    rw [List.getElem?_append_left hlt] at h
    exact h
  · right
    rw [send_new] at h
    exact ⟨rfl, (Option.some.inj h).symm⟩
  · exfalso
    have hbound := (List.getElem?_eq_some_iff.mp h).1
    unfold send at hbound
    rw [List.length_append, List.length_singleton] at hbound
    omega

theorem letters_send (h : m.Sound) : (m.send b sender letter).letters c =
    if c = b then m.letters b ++ [some (letter, sender)] else m.letters c := by
  have hold : ∀ i ∈ m.waiting c, ((m.send b sender letter).sent[i]?).map
      (fun post => (post.letter, post.sender)) =
        (m.sent[i]?).map fun post => (post.letter, post.sender) := by
    intro i hi
    obtain ⟨post, hpost, -⟩ := h.boxed c i hi
    rw [send_old hpost, hpost]
  unfold letters
  rw [send_waiting]
  split
  next hc =>
    subst hc
    rw [List.map_append, List.map_congr_left hold, List.map_singleton, send_new]
    rfl
  next => exact List.map_congr_left hold

theorem Sound.send (h : m.Sound) (b : Box) (sender : Agent) (letter : Letter) :
    (m.send b sender letter).Sound := by
  have hmem : ∀ c i, i ∈ (m.send b sender letter).waiting c →
      i ∈ m.waiting c ∨ (c = b ∧ i = m.sent.length) := by
    intro c i hi
    rw [send_waiting] at hi
    split at hi
    next hc =>
      subst hc
      rcases List.mem_append.mp hi with hold | hnew
      · exact .inl hold
      · exact .inr ⟨rfl, List.mem_singleton.mp hnew⟩
    next => exact .inl hi
  have hread : ∀ d ∈ m.delivered, ∃ post, m.sent[d.index]? = some post ∧
      ∀ p, (m.send b sender letter).sent[d.index]? = some p → p = post := by
    intro d hd
    obtain ⟨post, hpost, -⟩ := h.past d hd
    refine ⟨post, hpost, fun p hp => ?_⟩
    rw [send_old hpost] at hp
    exact (Option.some.inj hp).symm
  refine
    { boxed := ?_
      ordered := ?_
      past := ?_
      once := h.once
      first := ?_
      sequence := ?_
      kept := ?_ }
  · intro c i hi
    rcases hmem c i hi with hold | ⟨rfl, rfl⟩
    · obtain ⟨post, hpost, hbox⟩ := h.boxed c i hold
      exact ⟨post, send_old hpost, hbox⟩
    · exact ⟨_, send_new, rfl⟩
  · intro c
    rw [send_waiting]
    split
    next =>
      rw [List.pairwise_append]
      refine ⟨h.ordered b, List.pairwise_singleton _ _, fun i hi j hj => ?_⟩
      rw [List.mem_singleton.mp hj]
      exact h.below hi
    next => exact h.ordered c
  · intro d hd
    obtain ⟨post, hpost, hletter, hreader, hgone⟩ := h.past d hd
    refine ⟨post, send_old hpost, hletter, hreader, fun hi => ?_⟩
    rcases hmem _ _ hi with hold | ⟨-, hnew⟩
    · exact hgone hold
    · have hlt := (List.getElem?_eq_some_iff.mp hpost).1
      omega
  · intro d hd c i hi p q hp hq halong
    obtain ⟨post, hpost, hsame⟩ := hread d hd
    obtain rfl := hsame p hp
    rcases hmem c i hi with hold | ⟨-, rfl⟩
    · obtain ⟨post', hpost', -⟩ := h.boxed c i hold
      rw [send_old hpost'] at hq
      obtain rfl := Option.some.inj hq
      exact h.first d hd c i hold _ _ hpost hpost' halong
    · exact (List.getElem?_eq_some_iff.mp hpost).1
  · refine h.sequence.imp_of_mem fun hd hd' hbefore p q hp hq halong => ?_
    obtain ⟨post, hpost, hsame⟩ := hread _ hd
    obtain ⟨post', hpost', hsame'⟩ := hread _ hd'
    obtain rfl := hsame p hp
    obtain rfl := hsame' q hq
    exact hbefore _ _ hpost hpost' halong
  · intro i post hi
    rcases send_sent hi with hold | ⟨rfl, rfl⟩
    · rcases h.kept i post hold with hwaits | hrest
      · left
        rw [send_waiting]
        split
        next hbox =>
          rw [hbox] at hwaits
          exact List.mem_append_left _ hwaits
        next => exact hwaits
      · exact .inr hrest
    · left
      rw [send_waiting, if_pos rfl]
      exact List.mem_append_right _ (List.mem_singleton.mpr rfl)

theorem take_eq (h : (m.waiting b)[offset]? = some i) : m.take b offset reader letter =
    { m with
      waiting := Function.update m.waiting b ((m.waiting b).eraseIdx offset)
      delivered := m.delivered ++ [⟨i, reader, letter⟩] } := by
  unfold take
  rw [h]

theorem letters_take (h : (m.waiting b)[offset]? = some i) :
    (m.take b offset reader letter).letters c =
      if c = b then (m.letters b).eraseIdx offset else m.letters c := by
  rw [take_eq h]
  unfold letters
  dsimp only
  rw [Function.update_apply]
  split
  · rw [List.eraseIdx_map]
  · rfl

/-- What a reader takes is the first letter that is not its own. -/
theorem Sound.take (h : m.Sound) (hplace : (m.waiting b)[offset]? = some i)
    (hpost : m.sent[i]? = some post) (hletter : letter = post.letter) (hreader : reader ≠ post.sender)
    (hpassed : ∀ o, o < offset → ∀ j q, (m.waiting b)[o]? = some j → m.sent[j]? = some q →
      q.sender = reader) : (m.take b offset reader letter).Sound := by
  rw [take_eq hplace]
  have hwaits : i ∈ m.waiting b := List.mem_of_getElem? hplace
  have hbox : post.box = b := by
    obtain ⟨post', hpost', hbox⟩ := h.boxed b i hwaits
    rw [hpost] at hpost'
    obtain rfl := Option.some.inj hpost'
    exact hbox
  have hwaiting : ∀ c, Function.update m.waiting b ((m.waiting b).eraseIdx offset) c =
      if c = b then (m.waiting b).eraseIdx offset else m.waiting c := fun c =>
    Function.update_apply ..
  have hmem : ∀ c j, j ∈ Function.update m.waiting b ((m.waiting b).eraseIdx offset) c →
      j ∈ m.waiting c := by
    intro c j hj
    rw [hwaiting] at hj
    split at hj
    next hc =>
      rw [hc]
      exact List.mem_of_mem_eraseIdx hj
    next => exact hj
  refine
    { boxed := fun c j hj => h.boxed c j (hmem c j hj)
      ordered := ?_
      past := ?_
      once := ?_
      first := ?_
      sequence := ?_
      kept := ?_ }
  · intro c
    dsimp only
    rw [hwaiting]
    split
    next => exact (h.ordered b).sublist (List.eraseIdx_sublist ..)
    next => exact h.ordered c
  · intro d hd
    rcases List.mem_append.mp hd with hold | hnew
    · obtain ⟨p, hp, hl, hr, hgone⟩ := h.past d hold
      exact ⟨p, hp, hl, hr, fun hj => hgone (hmem _ _ hj)⟩
    · obtain rfl := List.mem_singleton.mp hnew
      refine ⟨post, hpost, hletter, hreader, fun hj => ?_⟩
      dsimp only at hj
      rw [hwaiting, if_pos hbox, List.mem_eraseIdx_iff_getElem?] at hj
      obtain ⟨o, ho, hat⟩ := hj
      have hnodup : (m.waiting b).Nodup := (h.ordered b).imp Nat.ne_of_lt
      exact ho ((List.getElem?_inj (List.getElem?_eq_some_iff.mp hat).1 hnodup).mp (hat.trans hplace.symm))
  · rw [List.map_append, List.map_singleton, List.nodup_append]
    refine ⟨h.once, List.nodup_singleton _, fun j hj j' hj' heq => ?_⟩
    obtain ⟨d, hd, rfl⟩ := List.mem_map.mp hj
    have hsame : d.index = i := heq.trans (List.mem_singleton.mp hj')
    obtain ⟨p, hp, -, -, hgone⟩ := h.past d hd
    rw [hsame, hpost] at hp
    obtain rfl := Option.some.inj hp
    rw [hsame, hbox] at hgone
    exact hgone hwaits
  · intro d hd c j hj p q hp hq halong
    have hjold := hmem c j hj
    rcases List.mem_append.mp hd with hold | hnew
    · exact h.first d hold c j hjold p q hp hq halong
    · obtain rfl := List.mem_singleton.mp hnew
      have hp' : some p = some post := hp.symm.trans hpost
      obtain rfl := Option.some.inj hp'
      obtain ⟨q', hq', hqbox⟩ := h.boxed c j hjold
      have hsame : some q' = some q := hq'.symm.trans hq
      obtain rfl := Option.some.inj hsame
      have hc : c = b := by rw [← hqbox, ← halong.1, hbox]
      subst hc
      dsimp only at hj
      rw [hwaiting, if_pos rfl, List.mem_eraseIdx_iff_getElem?] at hj
      obtain ⟨o, ho, hat⟩ := hj
      show i < j
      rcases Nat.lt_trichotomy o offset with hlt | heq | hgt
      · -- what the reader has passed over is its own
        have hown := hpassed o hlt j _ hat hq
        rw [← halong.2] at hown
        exact absurd hown.symm hreader
      · exact absurd heq ho
      · obtain ⟨hol, hoj⟩ := List.getElem?_eq_some_iff.mp hat
        obtain ⟨hil, hii⟩ := List.getElem?_eq_some_iff.mp hplace
        have hless := List.pairwise_iff_getElem.mp (h.ordered c) offset o hil hol hgt
        omega
  · rw [List.pairwise_append]
    refine ⟨h.sequence, List.pairwise_singleton _ _, fun d hd d' hd' p q hp hq halong => ?_⟩
    obtain rfl := List.mem_singleton.mp hd'
    exact h.first d hd b i hwaits p q hp hq halong
  · intro j p hj
    by_cases hji : j = i
    · right
      left
      exact ⟨_, List.mem_append_right _ (List.mem_singleton.mpr rfl), hji.symm⟩
    · rcases h.kept j p hj with hstill | ⟨d, hd, hindex⟩ | hlost
      · left
        dsimp only
        rw [hwaiting]
        split
        next hc =>
          rw [hc] at hstill
          obtain ⟨o, hat⟩ := List.getElem?_of_mem hstill
          rw [List.mem_eraseIdx_iff_getElem?]
          refine ⟨o, ?_, hat⟩
          rintro rfl
          rw [hplace] at hat
          exact hji (Option.some.inj hat).symm
        next => exact hstill
      · exact .inr (.inl ⟨d, List.mem_append_left _ hd, hindex⟩)
      · exact .inr (.inr hlost)

variable {m' : Mail Box Agent Letter}

theorem Later.send (h : Later m m') (b : Box) (sender : Agent) (letter : Letter) :
    Later m (m'.send b sender letter) where
  sent := by
    obtain ⟨posts, hposts⟩ := h.sent
    refine ⟨posts ++ [⟨b, sender, letter⟩], ?_⟩
    unfold Mail.send
    rw [hposts, List.append_assoc]
  delivered := h.delivered
  waiting := by
    intro c j hj hold
    rw [send_waiting] at hj
    split at hj
    next hc =>
      rcases List.mem_append.mp hj with hwaits | hnew
      · rw [hc]
        exact h.waiting b j hwaits hold
      · have hlen := h.length_le
        have hj' := List.mem_singleton.mp hnew
        omega
    next => exact h.waiting c j hj hold

theorem Later.take (h : Later m m') (b : Box) (offset : Nat) (reader : Agent) (letter : Letter) :
    Later m (m'.take b offset reader letter) := by
  rcases hplace : (m'.waiting b)[offset]? with _ | i
  · have hsame : m'.take b offset reader letter = m' := by
      unfold Mail.take
      rw [hplace]
    rw [hsame]
    exact h
  · rw [take_eq hplace]
    refine
      { sent := h.sent
        delivered := ?_
        waiting := ?_ }
    · obtain ⟨read, hread, hold⟩ := h.delivered
      refine ⟨read ++ [⟨i, reader, letter⟩], ?_, ?_⟩
      · dsimp only
        rw [hread, List.append_assoc]
      · intro d hd hlt
        rcases List.mem_append.mp hd with hbefore | hnew
        · exact hold d hbefore hlt
        · obtain rfl := List.mem_singleton.mp hnew
          exact ⟨b, h.waiting b i (List.mem_of_getElem? hplace) hlt⟩
    · intro c j hj hlt
      dsimp only at hj
      rw [Function.update_apply] at hj
      split at hj
      next hc =>
        rw [hc]
        exact h.waiting b j (List.mem_of_mem_eraseIdx hj) hlt
      next => exact h.waiting c j hj hlt

end Mail
