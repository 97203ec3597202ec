import ReistOs.WriteBack

/-! Calls to a transport that may fail: how each call ends is drawn from a schedule,
and the medium is the run of all events issued so far. -/

namespace WriteBack

universe u v

variable {α : Type u} {β : Type v}

/-- How a call ends. A failed call may still have issued some of its commands. -/
structure Fate where
  ok : Bool
  hit : Nat → Bool

/-- A medium in use: its history and the outcomes of the calls to come. Calls and
reads past the end of their schedules succeed. -/
structure World (α : Type u) (β : Type v) where
  origin : Medium α β
  log : List (Event α β)
  fates : List Fate
  readFates : List Bool

namespace World

def draw (w : World α β) : Fate × World α β :=
  match w.fates with
  | [] => (⟨true, fun _ => true⟩, w)
  | f :: fs => (f, { w with fates := fs })

def emit (w : World α β) (es : List (Event α β)) : World α β := { w with log := w.log ++ es }

/-- The commands of a call that reach the medium. -/
def issued (f : Fate) (es : List (Event α β)) : List (Event α β) :=
  if f.ok then es else (es.zipIdx.filter fun p => f.hit p.2).map Prod.fst

/-- A call that sends commands and reports its fate. -/
def send (w : World α β) (es : List (Event α β)) : Bool × World α β :=
  (w.draw.1.ok, w.draw.2.emit (issued w.draw.1 es))

def write (w : World α β) (a : α) (x : β) : Bool × World α β := w.send [.write a x, .flush]

def writeDeferred (w : World α β) (ws : List (α × β)) : Bool × World α β :=
  w.send (ws.map fun p => .write p.1 p.2)

def flush (w : World α β) : Bool × World α β := w.send [.flush]

variable [DecidableEq α]

def medium (w : World α β) : Medium α β := w.origin.run w.log

def read (w : World α β) (a : α) : Option β × World α β :=
  match w.readFates with
  | [] => (some (w.medium.view a), w)
  | ok :: rest => (if ok then some (w.medium.view a) else none, { w with readFates := rest })

end World

/-- The next call is made only after a success. -/
def andThen (r : Bool × World α β) (next : World α β → Bool × World α β) : Bool × World α β :=
  if r.1 then next r.2 else r

/-- One call per sector, up to the first failure. -/
def sendEach (call : World α β → α → β → Bool × World α β) :
    List (α × β) → World α β → Bool × World α β
  | [], w => (true, w)
  | p :: ps, w => andThen (call w p.1 p.2) (sendEach call ps)

/-- A success leaves nothing in the volatile cache. -/
def Settled [DecidableEq α] (r : Bool × World α β) : Prop := r.1 = true → r.2.medium.cache = []

/-- The second world continues the first one with the given events. -/
structure World.Extends (w : World α β) (es : List (Event α β)) (w' : World α β) : Prop where
  origin : w'.origin = w.origin
  log : w'.log = w.log ++ es
  readFates : w'.readFates = w.readFates

theorem World.Extends.refl (w : World α β) : w.Extends [] w := ⟨rfl, by simp, rfl⟩

variable {w w' w'' : World α β} {es fs : List (Event α β)} {r : Bool × World α β}
  {ws vs : List (α × β)}

theorem World.Extends.trans (h : w.Extends es w') (h' : w'.Extends fs w'') :
    w.Extends (es ++ fs) w'' :=
  ⟨h'.origin.trans h.origin, by rw [h'.log, h.log, List.append_assoc],
    h'.readFates.trans h.readFates⟩

theorem World.Extends.unique (h : w.Extends es w') (h' : w.Extends fs w') : es = fs :=
  List.append_cancel_left (h.log.symm.trans h'.log)

theorem World.Extends.medium [DecidableEq α] (h : w.Extends es w') :
    w'.medium = w.medium.run es := by
  unfold World.medium
  rw [h.origin, h.log, Medium.run_append]

theorem World.read_of_readFates [DecidableEq α] (h : w.readFates = []) (a : α) :
    w.read a = (some (w.medium.view a), w) := by
  simp [World.read, h]

/-- The outcome of calls that together write a list of sectors in order: all of them
on success, some of them on failure. -/
structure Emits (w : World α β) (ws : List (α × β)) (r : Bool × World α β) : Prop where
  events : ∃ es, w.Extends es r.2 ∧ List.Sublist (writesOf es) ws ∧ (r.1 = true → writesOf es = ws)
  healthy : w.fates = [] → r.1 = true ∧ r.2.fates = []

theorem sublist_issued (f : Fate) (es : List (Event α β)) : List.Sublist (World.issued f es) es := by
  unfold World.issued
  split
  · exact List.Sublist.refl _
  · have h := (List.filter_sublist (p := fun p : Event α β × Nat => f.hit p.2)
      (l := es.zipIdx)).map Prod.fst
    simpa [List.zipIdx_map_fst] using h

theorem writesOf_sublist (h : List.Sublist es fs) :
    List.Sublist (writesOf es) (writesOf fs) := by
  induction h with
  | slnil => exact List.Sublist.refl _
  | cons e _ ih => cases e with
    | write a x => exact ih.cons _
    | flush => exact ih
  | cons_cons e _ ih => cases e with
    | write a x => exact ih.cons_cons _
    | flush => exact ih

@[simp] theorem writesOf_map_write (ws : List (α × β)) :
    writesOf (ws.map fun p => Event.write p.1 p.2) = ws := by
  induction ws with
  | nil => rfl
  | cons w ws ih => simp [writesOf, ih]

theorem draw_origin (w : World α β) : w.draw.2.origin = w.origin := by
  unfold World.draw; split <;> rfl

theorem draw_log (w : World α β) : w.draw.2.log = w.log := by
  unfold World.draw; split <;> rfl

theorem draw_readFates (w : World α β) : w.draw.2.readFates = w.readFates := by
  unfold World.draw; split <;> rfl

theorem draw_healthy (h : w.fates = []) :
    w.draw.1.ok = true ∧ w.draw.2.fates = [] := by
  simp [World.draw, h]

theorem emits_send (w : World α β) (es : List (Event α β)) :
    Emits w (writesOf es) (w.send es) where
  events := by
    refine ⟨World.issued w.draw.1 es, ⟨draw_origin w, ?_, draw_readFates w⟩,
      writesOf_sublist (sublist_issued _ _), ?_⟩
    · simp [World.send, World.emit, draw_log]
    · intro h
      simp only [World.send] at h
      simp [World.issued, h]
  healthy := fun h => draw_healthy h

theorem settled_send [DecidableEq α] (h : ∃ fs, es = fs ++ [Event.flush]) :
    Settled (w.send es) := by
  obtain ⟨fs, rfl⟩ := h
  intro hok
  simp only [World.send] at hok ⊢
  simp [World.medium, World.emit, World.issued, hok, ← List.append_assoc, Medium.run_append,
    Medium.step]

variable {next : World α β → Bool × World α β} {call : World α β → α → β → Bool × World α β}

theorem Settled.andThen [DecidableEq α] (h : ∀ w, Settled (next w)) : Settled (andThen r next) := by
  unfold WriteBack.andThen
  split
  next => exact h _
  next hr => exact fun hb => absurd hb hr

/-- Nothing is issued after a settled call. -/
theorem Settled.andThen_done [DecidableEq α] (h : Settled r) :
    Settled (WriteBack.andThen r (Prod.mk true)) := by
  unfold WriteBack.andThen
  split
  next hr => exact fun _ => h hr
  next hr => exact h

theorem Emits.done (w : World α β) : Emits w [] (true, w) where
  events := ⟨[], World.Extends.refl w, List.Sublist.refl _, fun _ => rfl⟩
  healthy := fun h => ⟨rfl, h⟩

theorem Emits.andThen (h : Emits w ws r)
    (hn : ∀ w', Emits w' vs (next w')) : Emits w (ws ++ vs) (andThen r next) := by
  obtain ⟨⟨es, hx, hs, hall⟩, hh⟩ := h
  cases hr : r.1 with
  | false =>
    refine ⟨⟨es, ?_⟩, fun hw => absurd ((hh hw).1.symm.trans hr) (by simp)⟩
    simp only [WriteBack.andThen, hr, Bool.false_eq_true, ↓reduceIte, false_implies, and_true]
    exact ⟨hx, hs.trans (List.sublist_append_left _ _)⟩
  | true =>
    obtain ⟨⟨fs, hx', hs', hall'⟩, hh'⟩ := hn r.2
    simp only [WriteBack.andThen, hr, ↓reduceIte]
    refine ⟨⟨es ++ fs, hx.trans hx', ?_, ?_⟩, fun hw => hh' (hh hw).2⟩
    · rw [writesOf_append]; exact hs.append hs'
    · intro hb; rw [writesOf_append, hall hr, hall' hb]

theorem emits_sendEach
    (h : ∀ w a x, Emits w [(a, x)] (call w a x)) (ws : List (α × β)) (w : World α β) :
    Emits w ws (sendEach call ws w) := by
  induction ws generalizing w with
  | nil => exact Emits.done w
  | cons p ps ih => exact (h w p.1 p.2).andThen ih

theorem settled_sendEach [DecidableEq α]
    (h : ∀ w a x, Settled (call w a x)) (hne : ws ≠ []) (w : World α β) :
    Settled (sendEach call ws w) := by
  induction ws generalizing w with
  | nil => exact absurd rfl hne
  | cons p ps ih =>
    cases ps with
    | nil =>
      intro hok
      unfold sendEach andThen at hok ⊢
      split at hok
      next hr => rw [if_pos hr]; exact h w p.1 p.2 hr
      next hr => exact absurd hok hr
    | cons q qs => exact Settled.andThen fun w' => ih (by simp) w'

/-- A fault-free continuation that wrote the given sectors in order. -/
structure World.Wrote (w : World α β) (ws : List (α × β)) (w' : World α β) : Prop where
  events : ∃ es, w.Extends es w' ∧ writesOf es = ws
  fates : w'.fates = w.fates

theorem World.Wrote.refl (w : World α β) : w.Wrote [] w := ⟨⟨[], World.Extends.refl w, rfl⟩, rfl⟩

theorem World.Wrote.trans (h : w.Wrote ws w') (h' : w'.Wrote vs w'') : w.Wrote (ws ++ vs) w'' := by
  obtain ⟨⟨es, hx, rfl⟩, hf⟩ := h
  obtain ⟨⟨fs, hx', rfl⟩, hf'⟩ := h'
  exact ⟨⟨es ++ fs, hx.trans hx', writesOf_append es fs⟩, hf'.trans hf⟩

theorem World.Wrote.readFates (h : w.Wrote ws w') :
    w'.readFates = w.readFates := by
  obtain ⟨⟨es, hx, -⟩, -⟩ := h
  exact hx.readFates

theorem World.Wrote.view [DecidableEq α] (h : w.Wrote ws w') :
    w'.medium.view = applyWrites ws w.medium.view := by
  obtain ⟨⟨es, hx, rfl⟩, -⟩ := h
  rw [hx.medium, Medium.view_run]

/-- Without faults a single write succeeds. -/
theorem World.write_healthy (h : w.fates = []) (a : α) (x : β) :
    (w.write a x).1 = true ∧ w.Wrote [(a, x)] (w.write a x).2 := by
  have he := emits_send w [.write a x, .flush]
  obtain ⟨hok, hf⟩ := he.healthy h
  obtain ⟨es, hx, -, hall⟩ := he.events
  exact ⟨hok, ⟨es, hx, hall hok⟩, hf.trans h.symm⟩

end WriteBack
