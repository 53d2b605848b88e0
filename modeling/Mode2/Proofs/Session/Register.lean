import Mode2.Proofs.Session.Order

/-!
# A register of dialogs

Scheduled dialogs bear no mark that would tell one from another. The register gives each a
number when it is scheduled, keeps how it came about, and notes its activations with the
applets that were called. It follows the stack operation by operation, so that whether a
dialog is activated twice can be read off from it.
-/

namespace Mode2

/-- How a dialog came to be scheduled. -/
inductive Origin
  /-- As a new dialog, perhaps with an applet. -/
  | scheduled (applet : Option Applet)
  /-- As the continuation of another dialog. -/
  | continued
deriving DecidableEq, Repr

/-- The applet that a dialog was scheduled with. -/
def Origin.applet? : Origin → Option Applet
  | scheduled applet => applet
  | continued => none

/-- A scheduled dialog in the register. -/
structure Entry where
  number : Nat
  origin : Origin
  session : Session
deriving DecidableEq, Repr

/-- The activation of a dialog, with the applet that was called for it. -/
structure Activation where
  number : Nat
  origin : Origin
  called : Applet
deriving DecidableEq, Repr

/-- The dialogs of a node and what was done with them. -/
structure Register where
  /-- The scheduled dialogs, top first. -/
  entries : List Entry
  /-- The number of the next dialog. -/
  next : Nat
  /-- The activations, the latest first. -/
  activations : List Activation
deriving DecidableEq, Repr

namespace Entry

/-- An entry placed before the first one that is due later. -/
def place (e : Entry) : List Entry → List Entry
  | [] => [e]
  | f :: rest =>
      if e.session.counter < f.session.counter then e :: f :: rest else f :: place e rest

theorem map_session_place (e : Entry) (l : List Entry) :
    (place e l).map session = SessionStack.place e.session (l.map session) := by
  induction l with
  | nil => rfl
  | cons f rest ih =>
      unfold place
      rw [List.map_cons, SessionStack.place]
      split
      · rfl
      · rw [List.map_cons, ih]

theorem perm_place (e : Entry) (l : List Entry) : (place e l).Perm (e :: l) := by
  induction l with
  | nil => exact .refl _
  | cons f rest ih =>
      unfold place
      split
      · exact .refl _
      · exact (ih.cons f).trans (.swap e f rest)

theorem place_under_due {f : Entry} (hdue : f.session.counter = 0) (e : Entry)
    (rest : List Entry) : place e (f :: rest) = f :: place e rest := by
  have hnot : ¬ e.session.counter < f.session.counter := by
    rw [hdue]
    exact Nat.not_lt_zero _
  rw [place, if_neg hnot]

end Entry

namespace Register

/-! ## Following the stack -/

/-- Nothing is scheduled and nothing has been done. -/
def empty : Register :=
  ⟨[], 0, []⟩

/-- The dialogs as the node has them. -/
def sessions (r : Register) : List Session :=
  r.entries.map Entry.session

/-- A dialog is scheduled. -/
def enter (r : Register) (origin : Origin) (s : Session) : Register :=
  { r with entries := Entry.place ⟨r.next, origin, s⟩ r.entries, next := r.next + 1 }

/-- The top is replaced and stays the same dialog. -/
def store (r : Register) (s : Session) : Register :=
  { r with entries := r.entries.modifyHead fun e => { e with session := s } }

/-- The top is removed. -/
def pop (r : Register) : Register :=
  { r with entries := r.entries.tail }

/-- Every dialog is dropped. -/
def flush (r : Register) : Register :=
  { r with entries := [] }

/-- Time passes for every dialog. -/
def elapse (r : Register) (elapsed : Ticks) : Register :=
  { r with entries := r.entries.map fun e => { e with session := e.session.age elapsed } }

/-- The top is activated, and an applet is called for it. -/
def activate (r : Register) (called : Applet) : Register :=
  { r with activations :=
      (r.entries.head?.map fun e => ⟨e.number, e.origin, called⟩).toList ++ r.activations }

/-- New dialogs are scheduled, one after the other. -/
inductive Enters (r : Register) (stack : SessionStack) : Register → SessionStack → Prop
  | refl : Enters r stack r stack
  | schedule {r' : Register} {between after : SessionStack} {applet : Option Applet}
      {wait : Ticks} {subnet channel : UInt8} {netState : NetState} {s : Session} :
      Enters r stack r' between →
      between.schedule applet wait subnet channel netState = .ok (s, after) →
      Enters r stack (r'.enter (.scheduled applet) s) after

/-- Whatever is scheduled can be entered. -/
theorem exists_enters (r : Register) {stack after : SessionStack} (h : stack.Schedules after) :
    ∃ r', Enters r stack r' after := by
  induction h with
  | refl => exact ⟨r, .refl⟩
  | schedule _ hschedule ih =>
      obtain ⟨r', henters⟩ := ih
      exact ⟨_, .schedule henters hschedule⟩

@[simp] theorem sessions_enter (r : Register) (origin : Origin) (s : Session) :
    (r.enter origin s).sessions = SessionStack.place s r.sessions :=
  Entry.map_session_place _ _

@[simp] theorem sessions_store (r : Register) (s : Session) :
    (r.store s).sessions = r.sessions.set 0 s := by
  unfold store sessions
  cases r.entries <;> rfl

@[simp] theorem sessions_pop (r : Register) : r.pop.sessions = r.sessions.tail := by
  unfold pop sessions
  cases r.entries <;> rfl

@[simp] theorem sessions_flush (r : Register) : r.flush.sessions = [] := rfl

@[simp] theorem sessions_elapse (r : Register) (elapsed : Ticks) :
    (r.elapse elapsed).sessions = r.sessions.map (Session.age elapsed) := by
  simp [elapse, sessions]

theorem Enters.sessions {r r' : Register} {stack after : SessionStack}
    (h : Enters r stack r' after) (hsame : r.sessions = stack.sessions) :
    r'.sessions = after.sessions := by
  induction h with
  | refl => exact hsame
  | schedule _ hschedule ih =>
      rw [sessions_enter, ih, SessionStack.sessions_schedule hschedule]

/-! ## Registers in order -/

/-- Numbers are not used twice, a dialog is activated once at most, and the applet that is
called is the one it was scheduled with. -/
structure Orderly (r : Register) : Prop where
  numbers : (r.entries.map Entry.number).Nodup
  entered : ∀ e ∈ r.entries, e.number < r.next
  noted : ∀ a ∈ r.activations, a.number < r.next
  once : (r.activations.map Activation.number).Nodup
  called : ∀ a ∈ r.activations, a.called = a.origin.applet?.getD .idle

/-- The dialog has not been activated and has the applet it was scheduled with. -/
def Awaits (r : Register) (e : Entry) : Prop :=
  e.number ∉ r.activations.map Activation.number ∧ e.session.applet = e.origin.applet?

/-- No dialog is being worked on. -/
def Idle (r : Register) : Prop :=
  ∀ e ∈ r.entries, r.Awaits e

/-- The top, which is due, has been activated, and only the top. -/
structure Active (r : Register) (e : Entry) : Prop where
  top : ∃ rest, r.entries = e :: rest ∧ ∀ f ∈ rest, r.Awaits f
  due : e.session.counter = 0
  activated : ∃ a ∈ r.activations, a.number = e.number ∧ a.origin = e.origin

variable {r r' : Register} {e : Entry} {s : Session} {origin : Origin} {stack after : SessionStack}

theorem orderly_empty : empty.Orderly where
  numbers := .nil
  entered _ he := absurd he List.not_mem_nil
  noted _ ha := absurd ha List.not_mem_nil
  once := .nil
  called _ ha := absurd ha List.not_mem_nil

theorem idle_empty : empty.Idle :=
  fun _ he => absurd he List.not_mem_nil

theorem applet_schedule {applet : Option Applet} {wait : Ticks} {subnet channel : UInt8}
    {netState : NetState}
    (h : stack.schedule applet wait subnet channel netState = .ok (s, after)) :
    s.applet = applet := by
  unfold SessionStack.schedule at h
  dsimp only at h
  generalize stack.insert _ = inserted at h
  cases inserted with
  | error cause => cases h
  | ok inserted =>
      cases h
      rfl

theorem Orderly.enter (h : r.Orderly) (origin : Origin) (s : Session) :
    (r.enter origin s).Orderly where
  numbers := by
    have hperm := (Entry.perm_place ⟨r.next, origin, s⟩ r.entries).map Entry.number
    refine hperm.nodup_iff.mpr (List.nodup_cons.mpr ⟨?_, h.numbers⟩)
    rintro hmem
    obtain ⟨e, he, hnumber⟩ := List.mem_map.mp hmem
    exact absurd (h.entered e he) (by simp [hnumber])
  entered := by
    intro e he
    rcases List.mem_cons.mp ((Entry.perm_place _ _).mem_iff.mp he) with rfl | he
    · exact Nat.lt_succ_self _
    · exact Nat.lt_succ_of_lt (h.entered e he)
  noted a ha := Nat.lt_succ_of_lt (h.noted a ha)
  once := h.once
  called := h.called

/-- A new dialog has not been activated. -/
theorem Orderly.awaits_next (h : r.Orderly) (happlet : s.applet = origin.applet?) :
    (r.enter origin s).Awaits ⟨r.next, origin, s⟩ := by
  refine ⟨?_, happlet⟩
  rintro hmem
  obtain ⟨a, ha, hnumber⟩ := List.mem_map.mp hmem
  exact absurd (h.noted a ha) (by simp [hnumber])

theorem Idle.enter (h : r.Idle) (horderly : r.Orderly) (happlet : s.applet = origin.applet?) :
    (r.enter origin s).Idle := by
  intro e he
  rcases List.mem_cons.mp ((Entry.perm_place _ _).mem_iff.mp he) with rfl | he
  · exact horderly.awaits_next happlet
  · exact h e he

theorem Active.enter (h : r.Active e) (horderly : r.Orderly)
    (happlet : s.applet = origin.applet?) : (r.enter origin s).Active e where
  top := by
    obtain ⟨rest, hentries, hrest⟩ := h.top
    refine ⟨Entry.place ⟨r.next, origin, s⟩ rest, ?_, ?_⟩
    · unfold Register.enter
      rw [hentries, Entry.place_under_due h.due]
    · intro f hf
      rcases List.mem_cons.mp ((Entry.perm_place _ _).mem_iff.mp hf) with rfl | hf
      · exact horderly.awaits_next happlet
      · exact hrest f hf
  due := h.due
  activated := h.activated

theorem Enters.orderly (h : Enters r stack r' after) (hr : r.Orderly) : r'.Orderly := by
  induction h with
  | refl => exact hr
  | schedule _ _ ih => exact ih.enter _ _

theorem Enters.idle (h : Enters r stack r' after) (hr : r.Orderly) (hidle : r.Idle) : r'.Idle := by
  induction h with
  | refl => exact hidle
  | schedule henters hschedule ih => exact ih.enter (henters.orderly hr) (applet_schedule hschedule)

theorem Enters.active (h : Enters r stack r' after) (hr : r.Orderly) (hactive : r.Active e) :
    r'.Active e := by
  induction h with
  | refl => exact hactive
  | schedule henters hschedule ih => exact ih.enter (henters.orderly hr) (applet_schedule hschedule)

theorem Orderly.store (h : r.Orderly) (s : Session) : (r.store s).Orderly where
  numbers := by
    have hsame : (r.store s).entries.map Entry.number = r.entries.map Entry.number := by
      unfold Register.store
      cases r.entries <;> rfl
    rw [hsame]
    exact h.numbers
  entered := by
    intro e he
    unfold Register.store at he
    cases hentries : r.entries with
    | nil => simp [hentries] at he
    | cons f rest =>
        rw [hentries, List.modifyHead_cons] at he
        rcases List.mem_cons.mp he with rfl | he
        · exact h.entered f (by simp [hentries])
        · exact h.entered e (by simp [hentries, he])
  noted := h.noted
  once := h.once
  called := h.called

theorem Active.store (h : r.Active e) (hdue : s.counter = 0) :
    (r.store s).Active { e with session := s } where
  top := by
    obtain ⟨rest, hentries, hrest⟩ := h.top
    refine ⟨rest, ?_, hrest⟩
    rw [Register.store, hentries, List.modifyHead_cons]
  due := hdue
  activated := h.activated

theorem Orderly.pop (h : r.Orderly) : r.pop.Orderly where
  numbers := by
    unfold Register.pop
    rw [List.map_tail]
    exact h.numbers.tail
  entered e he := h.entered e (List.mem_of_mem_tail he)
  noted := h.noted
  once := h.once
  called := h.called

/-- When the dialog that was worked on is gone, none is. -/
theorem Active.pop (h : r.Active e) : r.pop.Idle := by
  obtain ⟨rest, hentries, hrest⟩ := h.top
  intro f hf
  rw [Register.pop, hentries] at hf
  exact hrest f hf

theorem Orderly.flush (h : r.Orderly) : r.flush.Orderly where
  numbers := .nil
  entered _ he := absurd he List.not_mem_nil
  noted := h.noted
  once := h.once
  called := h.called

theorem Orderly.elapse (h : r.Orderly) (elapsed : Ticks) : (r.elapse elapsed).Orderly where
  numbers := by
    have hsame : (r.elapse elapsed).entries.map Entry.number = r.entries.map Entry.number := by
      simp [Register.elapse]
    rw [hsame]
    exact h.numbers
  entered := by
    intro e he
    obtain ⟨f, hf, rfl⟩ := List.mem_map.mp he
    exact h.entered f hf
  noted := h.noted
  once := h.once
  called := h.called

theorem Idle.elapse (h : r.Idle) (elapsed : Ticks) : (r.elapse elapsed).Idle := by
  intro e he
  obtain ⟨f, hf, rfl⟩ := List.mem_map.mp he
  exact h f hf

theorem Active.elapse (h : r.Active e) (elapsed : Ticks) : (r.elapse elapsed).Active e where
  top := by
    obtain ⟨rest, hentries, hrest⟩ := h.top
    refine ⟨rest.map fun f => { f with session := f.session.age elapsed }, ?_, ?_⟩
    · rw [Register.elapse, hentries, List.map_cons, Session.age_of_due h.due]
    · intro f hf
      obtain ⟨g, hg, rfl⟩ := List.mem_map.mp hf
      exact hrest g hg
  due := h.due
  activated := h.activated

/-- The dialog on top is noted, with the applet that is called for it. -/
theorem activations_activate {rest : List Entry} (hentries : r.entries = e :: rest)
    (called : Applet) :
    (r.activate called).activations = ⟨e.number, e.origin, called⟩ :: r.activations := by
  simp [Register.activate, hentries]

/-- The activation of a dialog that has not been activated. -/
theorem Orderly.activate (h : r.Orderly) (hidle : r.Idle) {rest : List Entry}
    (hentries : r.entries = e :: rest) {called : Applet}
    (hcalled : called = e.origin.applet?.getD .idle) : (r.activate called).Orderly := by
  have hmem : e ∈ r.entries := by simp [hentries]
  have hnoted := activations_activate hentries called
  refine ⟨h.numbers, h.entered, ?_, ?_, ?_⟩
  · rw [hnoted]
    rintro a (_ | ⟨_, ha⟩)
    · exact h.entered e hmem
    · exact h.noted a ha
  · rw [hnoted]
    exact List.nodup_cons.mpr ⟨(hidle e hmem).1, h.once⟩
  · rw [hnoted]
    rintro a (_ | ⟨_, ha⟩)
    · exact hcalled
    · exact h.called a ha

theorem Idle.activate (h : r.Idle) (horderly : r.Orderly) {rest : List Entry}
    (hentries : r.entries = e :: rest) (hdue : e.session.counter = 0) (called : Applet) :
    (r.activate called).Active e := by
  have hnoted := activations_activate hentries called
  have hothers : e.number ∉ rest.map Entry.number := by
    have hnumbers := horderly.numbers
    rw [hentries] at hnumbers
    exact (List.nodup_cons.mp hnumbers).1
  refine ⟨⟨rest, hentries, ?_⟩, hdue, ⟨e.number, e.origin, called⟩, by simp [hnoted], rfl, rfl⟩
  intro f hf
  obtain ⟨hfresh, happlet⟩ := h f (by simp [hentries, hf])
  refine ⟨?_, happlet⟩
  rw [hnoted, List.map_cons, List.mem_cons]
  rintro (hsame | hmem)
  · exact hothers (List.mem_map.mpr ⟨f, hf, hsame⟩)
  · exact hfresh hmem

end Register

end Mode2
