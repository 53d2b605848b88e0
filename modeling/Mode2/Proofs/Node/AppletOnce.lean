import Mode2.Proofs.Node.ActiveDialog
import Mode2.Proofs.Node.TopDialog
import Mode2.Proofs.Session.Register

/-!
# Applets are called once

A register is kept along every run. It shows that each dialog is activated at most once,
when the applet that it was scheduled with is called: from then on the dialog is on top of
a node that is not idle, or gone. That takes applets which leave it at that when their
dialog is due; one that puts its own dialog off sees it activated again. The dialog has no
applet any more, unless its own is one of the host's and sets another.
-/

namespace Mode2

variable {W : Type} {env : Environment W} {custom : CustomApplets W}

/-- When it is called for a dialog without an applet, the host's applet of this number may
set this one in it. -/
def CustomApplets.Sets (custom : CustomApplets W) (id : Nat) (applet : Applet) : Prop :=
  ∃ s n, s.applet = none ∧ (custom id s n).1.applet = some applet

/-- The register once an active dialog has been worked on: the dialog is gone if the node
has become idle. -/
def Register.close (r : Register) (phase : Phase) : Register :=
  if phase = .idle then r.pop else r

/-- A run from the start with the register that is kept of it. -/
inductive History (custom : CustomApplets W) (config : Config) (world : W) :
    Register → Node W → Prop
  | start : History custom config world .empty (.start config world)
  /-- The host has a dialog scheduled, or is refused. -/
  | request {r r' : Register} {n : Node W} {env : Environment W} {input : Input} :
      History custom config world r n → input.Requests →
      r.Enters n.sessions r' (n.step env custom input).sessions →
      History custom config world r' (n.step env custom input)
  | flush {r : Register} {n : Node W} {env : Environment W} :
      History custom config world r n →
      History custom config world r.flush (n.step env custom .flush)
  /-- No dialog is active, and none is to be activated. -/
  | wait {r : Register} {n : Node W} {env : Environment W} {input : Input} :
      History custom config world r n → input.Acts → n.phase = .idle →
      (∀ elapsed, input = .run elapsed →
        ∀ t ∈ (n.sessions.elapse elapsed).top?, t.counter ≠ 0) →
      History custom config world (r.elapse input.elapsed) (n.step env custom input)
  /-- The top is due and is activated. Its applet may have dialogs scheduled; then the top
  becomes what the applet has made of it. -/
  | activate {r r' : Register} {n k : Node W} {env : Environment W} {elapsed : Ticks}
      {s t : Session} :
      History custom config world r n → n.phase = .idle →
      (n.sessions.elapse elapsed).top? = some t → t.counter = 0 →
      ({ n with sessions := n.sessions.elapse elapsed } : Node W).runApplet env custom t = (s, k) →
      ((r.elapse elapsed).activate (t.applet.getD .idle)).Enters (n.sessions.elapse elapsed)
        r' k.sessions →
      History custom config world
        ((r'.store s).close (n.step env custom (.run elapsed)).phase)
        (n.step env custom (.run elapsed))
  /-- The active dialog, which is the top, is worked on. -/
  | work {r : Register} {n : Node W} {env : Environment W} {input : Input} {s : Session} :
      History custom config world r n → input.Acts → n.phase ≠ .idle →
      (Reaction.step env custom n input).node.sessions =
        (n.sessions.elapse input.elapsed).setTop s →
      History custom config world
        (((r.elapse input.elapsed).store s).close (n.step env custom input).phase)
        (n.step env custom input)
  /-- The active dialog is to answer, and a continuation of it is scheduled. -/
  | answer {r : Register} {n : Node W} {env : Environment W} {input : Input}
      {s copy : Session} {wait : Ticks} {netState : NetState} :
      History custom config world r n → input.Acts → n.phase ≠ .idle →
      (Reaction.step env custom n input).node.sessions.top? = some s →
      ((n.sessions.elapse input.elapsed).setTop s).scheduleCopy s wait netState =
        .ok (copy, (Reaction.step env custom n input).node.sessions) →
      History custom config world
        ((((r.elapse input.elapsed).store s).enter .continued copy).close
          (n.step env custom input).phase)
        (n.step env custom input)

namespace Node

variable {n : Node W}

/-- An input on which the node acts works on the active dialog. -/
theorem attends_step {input : Input} (hacts : input.Acts) (hactive : n.phase ≠ .idle) {t : Session}
    (htop : (n.sessions.elapse input.elapsed).top? = some t) :
    (Reaction.step env custom n input).Attends (n.sessions.elapse input.elapsed) t := by
  cases input with
  | run elapsed => exact Reaction.attends_run htop hactive
  | event event =>
      rw [SessionStack.elapse_event] at htop ⊢
      exact Reaction.attends_onEvent htop hactive event
  | schedule | scheduleScan | scheduleBeacon | flush => cases hacts

end Node

/-- Applets leave their dialogs without another applet, unless they are the host's. -/
theorem Applet.applet_run (env : Environment W) (custom : CustomApplets W) (applet : Applet)
    (s : Session) (n : Node W) :
    (applet.run env custom s n).1.applet = s.applet ∨ ∃ id, applet = .custom id := by
  cases applet with
  | idle =>
      refine .inl ?_
      change (runIdle s n).1.applet = s.applet
      unfold runIdle
      split <;> rfl
  | scan => exact .inl rfl
  | beacon =>
      refine .inl ?_
      change (runBeacon env s n).1.applet = s.applet
      have hkept := Exchange.kept_stageBeacon env.onlyRadio_unit (scheduleNextBeacon n).config
        ((scheduleNextBeacon n).exchange (beaconSession (scheduleNextBeacon n).config s))
      unfold runBeacon
      dsimp only
      split
      next x hrun => exact congrArg (·.2.2.2) (hkept.of_ok hrun).slot
      next cause x hrun => exact congrArg (·.2.2.2) (hkept.of_error hrun).slot
  | custom id => exact .inr ⟨id, rfl⟩

/-- An activated dialog is left without an applet, unless its own is one of the host's and
sets the one that it has. -/
theorem Node.applet_runApplet (env : Environment W) (custom : CustomApplets W) (t : Session)
    (n : Node W) :
    (n.runApplet env custom t).1.applet = none ∨ ∃ id applet, t.applet = some (.custom id) ∧
      custom.Sets id applet ∧ (n.runApplet env custom t).1.applet = some applet := by
  -- Its applet has been taken from the dialog before it is called.
  rcases Applet.applet_run env custom (t.applet.getD .idle)
    { t with applet := none, netState.fresh := false }
    { n with access := { n.access with
        txChannels := .empty, params := n.config.contention.params } } with hkept | ⟨id, hid⟩
  · exact .inl hkept
  · cases hset : (n.runApplet env custom t).1.applet with
    | none => exact .inl rfl
    | some applet =>
        refine .inr ⟨id, applet, ?_, ?_, rfl⟩
        · cases happlet : t.applet with
          | none => simp [happlet] at hid
          | some called => simpa [happlet] using hid
        · unfold runApplet at hset
          rw [hid] at hset
          exact ⟨_, _, rfl, hset⟩

theorem Node.counter_runApplet (hcustom : custom.Disciplined) (env : Environment W) (t : Session)
    (n : Node W) : (n.runApplet env custom t).1.counter = t.counter :=
  (Applet.effect_run hcustom env _ _ _).counter

theorem SessionStack.applet_scheduleCopy {stack after : SessionStack} {s copy : Session}
    {wait : Ticks} {netState : NetState}
    (h : stack.scheduleCopy s wait netState = .ok (copy, after)) : copy.applet = none := by
  unfold scheduleCopy at h
  dsimp only at h
  generalize stack.insert _ = inserted at h
  cases inserted with
  | error cause => cases h
  | ok inserted =>
      cases h
      rfl

/-! ## The register follows the node -/

namespace Register

variable {r r' : Register} {n m k : Node W} {e : Entry} {s t : Session}

/-- The dialog has no applet any more, unless the one that it was scheduled with is the
host's and sets the one that it has. -/
def Cleared (custom : CustomApplets W) (e : Entry) : Prop :=
  e.session.applet = none ∨ ∃ id applet, e.origin.applet? = some (.custom id) ∧
    custom.Sets id applet ∧ e.session.applet = some applet

/-- The register shows the dialogs of the node, of which the top has been activated if the
node is not idle, and no other. -/
structure Follows (custom : CustomApplets W) (r : Register) (n : Node W) : Prop where
  sessions : r.sessions = n.sessions.sessions
  orderly : r.Orderly
  idle : n.phase = .idle → r.Idle
  active : n.phase ≠ .idle → ∃ e, r.Active e ∧ Cleared custom e

theorem follows_close (hcloses : k.Closes m) (hsessions : r.sessions = k.sessions.sessions)
    (horderly : r.Orderly) (hactive : r.Active e) (hcleared : Cleared custom e) :
    (r.close m.phase).Follows custom m := by
  unfold close
  rcases hcloses with ⟨hphase, hsame⟩ | ⟨hphase, hpopped⟩
  · rw [if_neg hphase]
    exact ⟨by rw [hsessions, hsame], horderly, fun hidle => absurd hidle hphase,
      fun _ => ⟨e, hactive, hcleared⟩⟩
  · rw [if_pos hphase]
    exact ⟨by rw [sessions_pop, hsessions, hpopped, SessionStack.sessions_pop], horderly.pop,
      fun _ => hactive.pop, fun hbusy => absurd hphase hbusy⟩

theorem Follows.request (h : r.Follows custom n) {after : SessionStack}
    (henters : r.Enters n.sessions r' after) :
    r'.Follows custom { n with sessions := after } where
  sessions := henters.sessions h.sessions
  orderly := henters.orderly h.orderly
  idle hidle := henters.idle h.orderly (h.idle hidle)
  active hbusy := by
    obtain ⟨e, hactive, hcleared⟩ := h.active hbusy
    exact ⟨e, henters.active h.orderly hactive, hcleared⟩

theorem Follows.elapse (h : r.Follows custom n) (elapsed : Ticks) :
    (r.elapse elapsed).Follows custom { n with sessions := n.sessions.elapse elapsed } where
  sessions := by rw [sessions_elapse, h.sessions, SessionStack.sessions_elapse]
  orderly := h.orderly.elapse elapsed
  idle hidle := (h.idle hidle).elapse elapsed
  active hbusy := by
    obtain ⟨e, hactive, hcleared⟩ := h.active hbusy
    exact ⟨e, hactive.elapse elapsed, hcleared⟩

/-- The dialog that is due is activated. -/
theorem Follows.activate (hcustom : custom.Disciplined) (h : r.Follows custom n)
    (hidle : n.phase = .idle) (htop : n.sessions.top? = some t) (hdue : t.counter = 0)
    (hran : n.runApplet env custom t = (s, k))
    (henters : (r.activate (t.applet.getD .idle)).Enters n.sessions r' k.sessions) :
    ((r'.store s).close (n.activate env custom).phase).Follows custom (n.activate env custom) := by
  obtain ⟨rest, hsessions⟩ := SessionStack.exists_of_top? htop
  obtain ⟨e, entries, hentries, rfl⟩ : ∃ e entries, r.entries = e :: entries ∧ e.session = t := by
    have hsame := h.sessions.trans hsessions
    unfold Register.sessions at hsame
    obtain ⟨e, entries, hentries, he, -⟩ := List.map_eq_cons_iff.mp hsame
    exact ⟨e, entries, hentries, he⟩
  have hidle' := h.idle hidle
  -- The dialog has not been activated before, so that it still has the applet it came with.
  have happlet : e.session.applet = e.origin.applet? := (hidle' e (by simp [hentries])).2
  have horderly : (r.activate (e.session.applet.getD .idle)).Orderly :=
    h.orderly.activate hidle' hentries (by rw [happlet])
  have hactive := hidle'.activate h.orderly hentries hdue (e.session.applet.getD .idle)
  have hcloses : Node.Closes _ (n.activate env custom) := Node.closes_activate htop hdue
  rw [hran] at hcloses
  have hcounter := Node.counter_runApplet hcustom env e.session n
  have hset := Node.applet_runApplet env custom e.session n
  rw [hran] at hcounter hset
  refine follows_close hcloses ?_ ((henters.orderly horderly).store s)
    ((henters.active horderly hactive).store (hcounter.trans hdue)) ?_
  · rw [sessions_store, henters.sessions h.sessions]
    rfl
  · rw [happlet] at hset
    exact hset

theorem Follows.exists_top (h : r.Follows custom n) (hbusy : n.phase ≠ .idle) :
    ∃ t, n.sessions.top? = some t ∧ t.counter = 0 := by
  obtain ⟨e, hactive, -⟩ := h.active hbusy
  obtain ⟨entries, hentries, -⟩ := hactive.top
  have hsame := h.sessions
  rw [Register.sessions, hentries, List.map_cons] at hsame
  exact ⟨e.session, SessionStack.top?_eq hsame.symm, hactive.due⟩

/-- The active dialog is worked on: it stays on top, due and as cleared as it was. -/
theorem Follows.stored (h : r.Follows custom n) {input : Input} (hacts : input.Acts)
    (hbusy : n.phase ≠ .idle)
    (hstored : (Reaction.step env custom n input).node.sessions.top? = some s) :
    ((r.elapse input.elapsed).store s).Orderly ∧
      ((r.elapse input.elapsed).store s).sessions =
        ((n.sessions.elapse input.elapsed).setTop s).sessions ∧
      (∃ e, ((r.elapse input.elapsed).store s).Active e ∧ Cleared custom e) ∧
      (Reaction.step env custom n input).node.Closes (n.step env custom input) := by
  have haged := h.elapse input.elapsed
  obtain ⟨e, hactive, hcleared⟩ := haged.active hbusy
  obtain ⟨entries, hentries, -⟩ := hactive.top
  have htop : (n.sessions.elapse input.elapsed).top? = some e.session := by
    have hsame := haged.sessions
    rw [Register.sessions, hentries, List.map_cons] at hsame
    exact SessionStack.top?_eq hsame.symm
  have hattends : (Reaction.step env custom n input).Attends _ e.session :=
    Node.attends_step hacts hbusy htop
  obtain ⟨u, hslot, hu⟩ := hattends.reworks.top htop hactive.due
  obtain rfl : u = s := Option.some.inj (hu.symm.trans hstored)
  have hcounter : u.counter = 0 := (Session.counter_of_slot hslot).trans hactive.due
  have happlet : u.applet = e.session.applet := congrArg (·.2.2.2) hslot
  have hcloses : (Reaction.step env custom n input).node.Closes
      ((Reaction.step env custom n input).complete env) := hattends.active.closes
  rw [Reaction.complete_step] at hcloses
  refine ⟨haged.orderly.store u, ?_, ⟨_, hactive.store hcounter, ?_⟩, hcloses⟩
  · rw [sessions_store, haged.sessions]
    rfl
  · unfold Cleared
    rw [happlet]
    exact hcleared

end Register

/-- Along every run the register follows the node. -/
theorem History.follows {config : Config} {world : W} (hcustom : custom.Disciplined)
    {r : Register} {n : Node W} (h : History custom config world r n) : r.Follows custom n := by
  induction h with
  | start =>
      exact ⟨rfl, Register.orderly_empty, fun _ => Register.idle_empty, fun h => absurd rfl h⟩
  | request _ hrequests henters ih =>
      obtain ⟨sessions, -, heq⟩ := Node.schedules_step hrequests
      rw [heq] at henters ⊢
      exact ih.request henters
  | flush _ ih =>
      exact ⟨rfl, ih.orderly.flush, fun _ _ he => absurd he List.not_mem_nil,
        fun h => absurd rfl h⟩
  | wait _ hacts hidle hwait ih =>
      rw [Node.step_of_wait hacts hidle hwait]
      exact ih.elapse _
  | @activate r r' n k env elapsed s t _ hidle htop hdue hran henters ih =>
      have hstep : n.step env custom (.run elapsed) =
          ({ n with sessions := n.sessions.elapse elapsed } : Node W).activate env custom :=
        Node.run_of_idle hidle elapsed
      rw [hstep]
      exact (ih.elapse elapsed).activate hcustom hidle htop hdue hran henters
  | work _ hacts hbusy hstored ih =>
      -- That the active dialog is due keeps it on top, whatever has been scheduled meanwhile.
      obtain ⟨t, htop, -⟩ := (ih.elapse _).exists_top hbusy
      obtain ⟨rest, hsessions⟩ := SessionStack.exists_of_top? htop
      obtain ⟨horderly, hsame, ⟨e, hactive, hcleared⟩, hcloses⟩ := ih.stored hacts hbusy
        (hstored ▸ SessionStack.top?_eq (SessionStack.sessions_setTop hsessions _))
      exact Register.follows_close hcloses (by rw [hsame, hstored]) horderly hactive hcleared
  | answer _ hacts hbusy hstored hcopy ih =>
      obtain ⟨horderly, hsame, ⟨e, hactive, hcleared⟩, hcloses⟩ := ih.stored hacts hbusy hstored
      have happlet := SessionStack.applet_scheduleCopy hcopy
      refine Register.follows_close hcloses ?_ (horderly.enter .continued _)
        (hactive.enter horderly happlet) hcleared
      rw [Register.sessions_enter, hsame, SessionStack.sessions_scheduleCopy hcopy]

/-! ## Keeping the register -/

namespace History

variable {config : Config} {world : W} {r : Register} {n : Node W}

theorem exists_idle (hcustom : custom.Disciplined) (h : History custom config world r n)
    (env : Environment W) {input : Input} (hacts : input.Acts) (hidle : n.phase = .idle) :
    ∃ r', History custom config world r' (n.step env custom input) := by
  cases input with
  | run elapsed =>
      by_cases hdue : ∃ t, (n.sessions.elapse elapsed).top? = some t ∧ t.counter = 0
      · obtain ⟨t, htop, hcounter⟩ := hdue
        have hschedules := (Applet.effect_run hcustom env (t.applet.getD .idle)
          { t with applet := none, netState.fresh := false }
          { n with
            sessions := n.sessions.elapse elapsed
            access := { n.access with
              txChannels := .empty, params := n.config.contention.params } }).sessions
        obtain ⟨r', henters⟩ := Register.exists_enters
          ((r.elapse elapsed).activate (t.applet.getD .idle)) hschedules
        exact ⟨_, h.activate hidle htop hcounter rfl henters⟩
      · refine ⟨_, h.wait hacts hidle ?_⟩
        rintro _ ⟨⟩ t htop hcounter
        exact hdue ⟨t, htop, hcounter⟩
  | event event => exact ⟨_, h.wait hacts hidle nofun⟩
  | schedule | scheduleScan | scheduleBeacon | flush => cases hacts

theorem exists_busy (hcustom : custom.Disciplined) (h : History custom config world r n)
    (env : Environment W) {input : Input} (hacts : input.Acts) (hbusy : n.phase ≠ .idle) :
    ∃ r', History custom config world r' (n.step env custom input) := by
  obtain ⟨t, htop, hdue⟩ := ((h.follows hcustom).elapse input.elapsed).exists_top hbusy
  have hattends : (Reaction.step env custom n input).Attends _ t :=
    Node.attends_step hacts hbusy htop
  obtain ⟨s, hslot, heq | ⟨wait, netState, copy, hcopy⟩⟩ := hattends.reworks
  · exact ⟨_, h.work hacts hbusy heq⟩
  · have hcounter : s.counter = 0 := (Session.counter_of_slot hslot).trans hdue
    exact ⟨_, h.answer hacts hbusy (SessionStack.top?_of_scheduleCopy htop hcounter hcopy) hcopy⟩

/-- The register can be kept on through every input. -/
theorem exists_step (hcustom : custom.Disciplined) (h : History custom config world r n)
    (env : Environment W) (input : Input) :
    ∃ r', History custom config world r' (n.step env custom input) := by
  rcases input.requests_or_acts with hrequests | hacts | rfl
  · obtain ⟨sessions, hschedules, heq⟩ : ∃ sessions, n.sessions.Schedules sessions ∧
        n.step env custom input = { n with sessions } := Node.schedules_step hrequests
    obtain ⟨r', henters⟩ := r.exists_enters hschedules
    exact ⟨r', h.request hrequests (by rw [heq]; exact henters)⟩
  · by_cases hidle : n.phase = .idle
    · exact h.exists_idle hcustom env hacts hidle
    · exact h.exists_busy hcustom env hacts hidle
  · exact ⟨_, h.flush⟩

theorem exists_of_reaches {Given : Environment W → Input → Prop} (hcustom : custom.Disciplined)
    (hrun : Node.Reaches custom Given (.start config world) n) :
    ∃ r, History custom config world r n := by
  induction hrun with
  | refl => exact ⟨_, .start⟩
  | @step m env input _ _ ih =>
      obtain ⟨r, hr⟩ := ih
      exact hr.exists_step hcustom env input

end History

namespace Node

variable {config : Config} {world : W} {n : Node W}

/-- In every run whose applets do not change when their own dialog is due and otherwise
only schedule dialogs, a register can be kept, and it shows: no dialog is activated twice.
At its activation the applet that it was scheduled with is called, or the idle one if there
is none. From then on the dialog is gone, or on top of a node that is not idle; then it has no
applet, unless its own is the host's and sets the one that it has. Continuations have no
applet. -/
theorem applet_once (hcustom : custom.Disciplined)
    (hrun : Reaches custom (fun _ _ => True) (start config world) n) :
    (∃ r, History custom config world r n) ∧
      ∀ r, History custom config world r n →
        r.sessions = n.sessions.sessions ∧
        (r.activations.map Activation.number).Nodup ∧
        (∀ a ∈ r.activations, a.called = a.origin.applet?.getD .idle) ∧
        (n.phase ≠ .idle → ∃ e, r.entries.head? = some e ∧
          e.number ∈ r.activations.map Activation.number) ∧
        (∀ e ∈ r.entries, e.number ∈ r.activations.map Activation.number →
          n.phase ≠ .idle ∧ r.entries.head? = some e ∧ Register.Cleared custom e) ∧
        ∀ e ∈ r.entries, e.origin = .continued → e.session.applet = none := by
  refine ⟨History.exists_of_reaches hcustom hrun, fun r h => ?_⟩
  obtain ⟨hsessions, horderly, hidle, hactive⟩ := h.follows hcustom
  refine ⟨hsessions, horderly.once, horderly.called, ?_, ?_, ?_⟩
  · intro hbusy
    obtain ⟨e, ⟨⟨rest, hentries, -⟩, -, a, ha, hnumber, -⟩, -⟩ := hactive hbusy
    exact ⟨e, by rw [hentries, List.head?_cons], List.mem_map.mpr ⟨a, ha, hnumber⟩⟩
  · intro e he hactivated
    -- Of the dialogs left, at most the one on top has been activated.
    by_cases hphase : n.phase = .idle
    · exact absurd hactivated (hidle hphase e he).1
    · obtain ⟨f, ⟨⟨rest, hentries, hrest⟩, -, -⟩, hcleared⟩ := hactive hphase
      rw [hentries] at he
      rcases List.mem_cons.mp he with rfl | he
      · exact ⟨hphase, by rw [hentries, List.head?_cons], hcleared⟩
      · exact absurd hactivated (hrest e he).1
  · intro e he horigin
    by_cases hphase : n.phase = .idle
    · rw [(hidle hphase e he).2, horigin, Origin.applet?]
    · obtain ⟨f, ⟨⟨rest, hentries, hrest⟩, -, -⟩, hcleared⟩ := hactive hphase
      rw [hentries] at he
      rcases List.mem_cons.mp he with rfl | he
      · refine hcleared.resolve_right ?_
        rintro ⟨id, applet, hid, -⟩
        simp [horigin, Origin.applet?] at hid
      · rw [(hrest e he).2, horigin, Origin.applet?]

/-- A scan that listens has been activated, and the applet of scans has been called. -/
theorem applet_once_scan :
    ∃ (n : Node Unit) (r : Register), History (fun _ s n => (s, n)) .default () r n ∧
      n.phase = .listening ∧ r.activations = [⟨0, .scheduled (some .scan), .scan⟩] ∧
      (r.activations.map Activation.number).Nodup ∧
      ∀ e ∈ r.entries, e.number ∈ r.activations.map Activation.number →
        n.phase ≠ .idle ∧ r.entries.head? = some e ∧
          Register.Cleared (W := Unit) (fun _ s n => (s, n)) e := by
  have hcustom : CustomApplets.Disciplined (W := Unit) fun _ s n => (s, n) :=
    fun _ _ _ => ⟨rfl, .refl⟩
  let scheduled := (start .default ()).step .obliging (fun _ s n => (s, n)) (.scheduleScan 0)
  have hscheduled : History (fun _ s n => (s, n)) .default () _ scheduled :=
    History.start.request trivial (.schedule .refl rfl)
  have hactivated : History (fun _ s n => (s, n)) .default () _
      (scheduled.step .obliging (fun _ s n => (s, n)) (.run 0)) :=
    hscheduled.activate rfl rfl rfl rfl .refl
  obtain ⟨-, hkept⟩ := applet_once hcustom
    (.step (.step .refl trivial) trivial : Reaches (fun _ s n => (s, n)) (fun _ _ => True)
      (start .default ()) (scheduled.step .obliging (fun _ s n => (s, n)) (.run 0)))
  obtain ⟨-, honce, -, -, hgone, -⟩ := hkept _ hactivated
  exact ⟨_, _, hactivated, by decide, by decide, honce, hgone⟩

/-- Applets that put their own dialog off. -/
def postponingApplets : CustomApplets W := fun _ s n => ({ s with counter := 5 }, n)

/-- Applets that set the applet of scans in their dialog and do nothing else. -/
def handingOnApplets : CustomApplets W := fun _ s n => ({ s with applet := some .scan }, n)

/-- A dialog that is put off by its own applet makes way for another one while it is active,
and is activated again. One whose own applet sets another keeps that while it is active, even
if the applets otherwise do as they should. -/
theorem applet_once_postponed_handed_on :
    (∃ (n : Node Unit) (r : Register), History postponingApplets .default () r n ∧
      ¬(r.activations.map Activation.number).Nodup) ∧
    CustomApplets.Disciplined (W := Unit) handingOnApplets ∧
    ∃ (n : Node Unit) (r : Register), History handingOnApplets .default () r n ∧
      ∃ e ∈ r.entries, e.number ∈ r.activations.map Activation.number ∧
        e.session.applet = some .scan := by
  let env : Environment Unit := .obliging
  let request : Input := .schedule (some (.custom 0)) 0 0xF0 0x10 { substate := .requestRx }
  refine ⟨?_, fun _ _ _ => ⟨rfl, .refl⟩, ?_⟩
  · let first := (start .default ()).step env postponingApplets request
    let active := first.step env postponingApplets (.run 0)
    let second := active.step env postponingApplets
      (.schedule none 0 0xF0 0x11 { substate := .requestRx })
    let ended := second.step env postponingApplets (.event .timeout)
    let again := ended.step env postponingApplets (.run 5)
    have hfirst : History postponingApplets .default () _ first :=
      History.start.request trivial (.schedule .refl rfl)
    have hactive : History postponingApplets .default () _ active :=
      hfirst.activate rfl rfl rfl rfl .refl
    have hsecond : History postponingApplets .default () _ second :=
      hactive.request trivial (.schedule .refl rfl)
    -- What has been put off is not on top any more: the window's end takes the other dialog away.
    have hended : History postponingApplets .default () _ ended :=
      hsecond.work trivial (by decide) rfl
    have hagain : History postponingApplets .default () _ again :=
      hended.activate rfl rfl rfl rfl .refl
    exact ⟨again, _, hagain, by decide⟩
  · let scheduled := (start .default ()).step env handingOnApplets request
    let active := scheduled.step env handingOnApplets (.run 0)
    have hscheduled : History handingOnApplets .default () _ scheduled :=
      History.start.request trivial (.schedule .refl rfl)
    have hactive : History handingOnApplets .default () _ active :=
      hscheduled.activate rfl rfl rfl rfl .refl
    exact ⟨active, _, hactive, _, .head _, by decide, rfl⟩

end Node

end Mode2
