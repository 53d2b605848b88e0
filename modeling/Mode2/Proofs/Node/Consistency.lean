import Mode2.Proofs.Node.Applets
import Mode2.Proofs.Node.Contention

/-!
# Nodes whose phase fits their dialogs

Whenever a node is not idle, the dialog that it works on is the top of its scheduled
dialogs and due, and the phase fits what the dialog does: a dialog that is being
transmitted has a frame and a channel, a dialog that listens awaits a request or
responses. Each operation on the active dialog leaves a node of that kind, and leaves
the dialogs under the active one alone.
-/

namespace Mode2

variable {W : Type}

/-- The dialog sends a request or a response. -/
def Substate.IsSending (s : Substate) : Prop :=
  s = .requestTx ∨ s = .responseTx

/-- The dialog waits for a request or for responses. -/
def Substate.IsAwaiting (s : Substate) : Prop :=
  s = .requestRx ∨ s = .responseRx

namespace Node

/-- The phase of a node fits its dialogs. -/
structure Consistent (n : Node W) : Prop where
  ordered : Schedule.Ordered n.sessions.sessions
  active : n.phase ≠ .idle → ∃ t, n.sessions.top? = some t ∧ t.counter = 0
  transmitting : n.phase.IsTransmitting →
    (∃ t, n.sessions.top? = some t ∧ t.netState.substate.IsSending) ∧
      n.network.outbound.isEmpty = false ∧ n.access.txChannel?.isSome = true
  listening : n.phase = .listening →
    ∃ t, n.sessions.top? = some t ∧ t.netState.substate.IsAwaiting
  waiting : n.phase = .pausing ∨ n.phase = .listening → 0 < n.countdown.count

namespace Consistent

variable {n m : Node W}

theorem of_idle (hordered : Schedule.Ordered n.sessions.sessions) (hphase : n.phase = .idle) :
    n.Consistent where
  ordered := hordered
  active h := absurd hphase h
  transmitting h := absurd hphase h.ne_idle
  listening h := by simp [hphase] at h
  waiting h := by simp [hphase] at h

theorem of_transmitting {t : Session} {rest : List Session}
    (hsessions : n.sessions.sessions = t :: rest) (hdue : t.counter = 0)
    (hrest : Schedule.Ordered rest) (hphase : n.phase.IsTransmitting)
    (hsends : t.netState.substate.IsSending) (hframe : n.network.outbound.isEmpty = false)
    (hchannel : n.access.txChannel?.isSome = true) (hattempt : n.isDue = false) :
    n.Consistent where
  ordered := hsessions ▸ hrest.cons_due hdue
  active _ := ⟨t, SessionStack.top?_eq hsessions, hdue⟩
  transmitting _ := ⟨⟨t, SessionStack.top?_eq hsessions, hsends⟩, hframe, hchannel⟩
  listening h := absurd h hphase.ne_listening
  waiting h := countdown_pos_of_not_due (h.resolve_right hphase.ne_listening) hattempt

theorem of_listening {t : Session} {rest : List Session}
    (hsessions : n.sessions.sessions = t :: rest) (hdue : t.counter = 0)
    (hrest : Schedule.Ordered rest) (hphase : n.phase = .listening)
    (hawaits : t.netState.substate.IsAwaiting) (hcountdown : 0 < n.countdown.count) :
    n.Consistent where
  ordered := hsessions ▸ hrest.cons_due hdue
  active _ := ⟨t, SessionStack.top?_eq hsessions, hdue⟩
  transmitting h := absurd hphase h.ne_listening
  listening _ := ⟨t, SessionStack.top?_eq hsessions, hawaits⟩
  waiting _ := hcountdown

/-- The active dialog of a node that is not idle, and the dialogs under it. -/
theorem exists_active (h : n.Consistent) (hphase : n.phase ≠ .idle) :
    ∃ t rest, n.sessions.sessions = t :: rest ∧ t.counter = 0 ∧ Schedule.Ordered rest := by
  obtain ⟨t, htop, hdue⟩ := h.active hphase
  obtain ⟨rest, hsessions⟩ := SessionStack.exists_of_top? htop
  have hordered := h.ordered
  rw [hsessions] at hordered
  exact ⟨t, rest, hsessions, hdue, hordered.tail⟩

/-- Changing the dialogs under the top, or the idle ones, keeps a node consistent. -/
theorem of_same (h : n.Consistent) (hordered : Schedule.Ordered m.sessions.sessions)
    (hphase : m.phase = n.phase)
    (htop : ∀ t, n.phase ≠ .idle → n.sessions.top? = some t → t.counter = 0 →
      m.sessions.top? = some t)
    (hcountdown : m.countdown = n.countdown) (hnetwork : m.network = n.network)
    (haccess : m.access = n.access) : m.Consistent where
  ordered := hordered
  active hactive := by
    rw [hphase] at hactive
    obtain ⟨t, ht, hdue⟩ := h.active hactive
    exact ⟨t, htop t hactive ht hdue, hdue⟩
  transmitting htransmitting := by
    rw [hphase] at htransmitting
    have hactive := htransmitting.ne_idle
    -- The dialog that sends is the one on top, which is due and so keeps its place.
    obtain ⟨⟨t, ht, hsends⟩, hframe, hchannel⟩ := h.transmitting htransmitting
    obtain ⟨u, hu, hdue⟩ := h.active hactive
    obtain rfl : u = t := Option.some.inj (hu.symm.trans ht)
    exact ⟨⟨u, htop u hactive hu hdue, hsends⟩, hnetwork ▸ hframe, haccess ▸ hchannel⟩
  listening hlistening := by
    rw [hphase] at hlistening
    have hactive : n.phase ≠ .idle := by simp [hlistening]
    obtain ⟨t, ht, hawaits⟩ := h.listening hlistening
    obtain ⟨u, hu, hdue⟩ := h.active hactive
    obtain rfl : u = t := Option.some.inj (hu.symm.trans ht)
    exact ⟨u, htop u hactive hu hdue, hawaits⟩
  waiting hwaiting := by
    rw [hphase] at hwaiting
    rw [hcountdown]
    exact h.waiting hwaiting

end Consistent

/-! ## Work on the active dialog -/

/-- The node is consistent, and of its dialogs those under the top are `rest`: the top
has been worked on or has ended. -/
structure Handled (rest : List Session) (m : Node W) : Prop where
  consistent : m.Consistent
  sessions : m.sessions.sessions = rest ∨ ∃ t, m.sessions.sessions = t :: rest

variable {env : Environment W} {n m : Node W} {t : Session} {rest : List Session}

theorem handled_of_ended (hrest : Schedule.Ordered rest)
    (hsessions : n.sessions.sessions = t :: rest) (h : Ended n m) : Handled rest m := by
  have hrested : m.sessions.sessions = rest := by simp [h.sessions, hsessions]
  exact ⟨.of_idle (hrested ▸ hrest) h.phase, .inl hrested⟩

theorem handled_endSession (hrest : Schedule.Ordered rest)
    (hsessions : n.sessions.sessions = t :: rest) : Handled rest (n.endSession env) :=
  handled_of_ended hrest hsessions (ended_endSession n)

theorem handled_listen (hrest : Schedule.Ordered rest) (hsessions : n.sessions.sessions = t :: rest)
    (hdue : t.counter = 0) (hawaits : t.netState.substate.IsAwaiting) (channel : UInt8)
    (timeout : Ticks) : Handled rest (n.listen env channel timeout) := by
  unfold listen
  split
  next world _ =>
    refine ⟨.of_listening hsessions hdue hrest rfl hawaits ?_, .inr ⟨t, hsessions⟩⟩
    have hslack : watchdogSlack.count = 16 := rfl
    simp only [Span.count_add, hslack]
    omega
  next cause world _ => exact handled_endSession (n := { n with world }) hrest hsessions

theorem handled_of_contended (hrest : Schedule.Ordered rest)
    (hsessions : n.sessions.sessions = t :: rest) (hdue : t.counter = 0)
    (hsends : t.netState.substate.IsSending) (hframe : n.network.outbound.isEmpty = false)
    (h : Contended n m) (hattempt : m.isDue = false) : Handled rest m := by
  rcases h with hended | htransmits
  · exact handled_of_ended hrest hsessions hended
  · have hsame : m.sessions.sessions = t :: rest := by rw [htransmits.sessions, hsessions]
    refine ⟨.of_transmitting hsame hdue hrest htransmits.phase hsends ?_ htransmits.channel
      hattempt, .inr ⟨t, hsame⟩⟩
    rw [htransmits.network]
    exact hframe

theorem handled_settle (hrest : Schedule.Ordered rest) (hsessions : n.sessions.sessions = t :: rest)
    (hdue : t.counter = 0) (hsends : t.netState.substate.IsSending)
    (hframe : n.network.outbound.isEmpty = false) (h : Contended n m) :
    Handled rest (m.settle env) :=
  handled_of_contended hrest hsessions hdue hsends hframe (contended_settle h) (isDue_settle m)

/-- Beginning to send either finds nothing staged or contends with a channel. -/
theorem handled_beginSending (hrest : Schedule.Ordered rest)
    (hsessions : n.sessions.sessions = t :: rest) (hdue : t.counter = 0)
    (hsends : t.netState.substate.IsSending) (s : Session) :
    Handled rest (n.beginSending env s) := by
  unfold beginSending
  split
  · exact handled_endSession hrest hsessions
  next hframe =>
    dsimp only
    have hchannels := n.access.channels_ne_nil_of_default s.channel
    generalize (if n.access.txChannels.channels = [] then _ else n.access) = access at hchannels ⊢
    refine handled_settle (n := n) hrest hsessions hdue hsends (by simpa using hframe) ?_
    refine .inr ⟨.inl rfl, rfl, rfl, ?_⟩
    exact ChannelAccess.isSome_txChannel?_beginSequence env.random access _ n.world hchannels

/-! ## Activation -/

theorem handled_engage (hrest : Schedule.Ordered rest) (hsessions : n.sessions.sessions = t :: rest)
    (hdue : t.counter = 0) : Handled rest (n.engage env t) := by
  unfold engage
  split
  next hsubstate => exact handled_beginSending hrest hsessions hdue (.inl hsubstate) t
  next hsubstate => exact handled_listen hrest hsessions hdue (.inl hsubstate) _ _
  · exact handled_endSession hrest hsessions
  · exact handled_endSession hrest hsessions

/-! ## Frames -/

/-- A response goes out under its dialog; at most a continuation is placed below it. -/
theorem handled_beginResponding (hrest : Schedule.Ordered rest)
    (hsessions : n.sessions.sessions = t :: rest) (hdue : t.counter = 0)
    (hsends : t.netState.substate.IsSending) :
    ∃ rest', Schedule.Grows rest rest' ∧ Handled rest' (n.beginResponding env t) := by
  unfold beginResponding
  dsimp only
  split
  · generalize hcopy : n.sessions.scheduleCopy t _ _ = copied
    cases copied with
    | error cause =>
        refine ⟨rest, .refl, handled_beginSending hrest ?_ hdue hsends t⟩
        exact hsessions
    | ok scheduled =>
        obtain ⟨s, sessions⟩ := scheduled
        have hplaced := SessionStack.sessions_scheduleCopy hcopy
        rw [hsessions, Schedule.place_under_due hdue] at hplaced
        refine ⟨_, .place s .refl, handled_beginSending (hrest.place s) ?_ hdue hsends t⟩
        exact hplaced
  · refine ⟨rest, .refl, handled_beginSending hrest ?_ hdue hsends t⟩
    exact hsessions

theorem handled_proceed (hrest : Schedule.Ordered rest)
    (hsessions : n.sessions.sessions = t :: rest) {s : Session} (hdue : s.counter = 0) :
    ∃ rest', Schedule.Grows rest rest' ∧ Handled rest' (n.proceed env s) := by
  have hstored : ∀ u : Session, (n.storeTop u).sessions.sessions = u :: rest :=
    SessionStack.sessions_setTop hsessions
  unfold proceed
  split
  next hsubstate => exact handled_beginResponding hrest (hstored s) hdue (.inr hsubstate)
  next hsubstate =>
    refine ⟨rest, .refl, ?_⟩
    dsimp only
    split
    · exact handled_endSession hrest hsessions
    · refine handled_listen hrest (hstored _) ?_ (.inr ?_) _ _
      · exact hdue
      · exact hsubstate
  next hsubstate =>
    refine ⟨rest, .refl, ?_⟩
    split
    · exact handled_listen hrest (hstored s) hdue (.inl hsubstate) _ _
    · exact handled_endSession hrest hsessions
  · exact ⟨rest, .refl, handled_endSession hrest hsessions⟩

theorem handled_process (hrest : Schedule.Ordered rest)
    (hsessions : n.sessions.sessions = t :: rest) (hdue : t.counter = 0) (frame : List UInt8) :
    ∃ rest', Schedule.Grows rest rest' ∧ Handled rest' (n.process env frame t) := by
  unfold process
  split
  · exact ⟨rest, .refl, handled_endSession hrest hsessions⟩
  next inbound _ =>
    dsimp only
    generalize hx : Node.exchange { n with network := { n.network with inbound } } t = x
    have hkept := Exchange.kept_receive env.onlyRadio_unit n.config x
    have hcounter : (x.receive env n.config).2.session.counter = 0 := by
      rw [Session.counter_of_slot hkept.slot, ← hx]
      exact hdue
    split
    · exact ⟨rest, .refl, handled_endSession hrest hsessions⟩
    · refine handled_proceed (t := t) hrest ?_ hcounter
      exact hsessions

theorem handled_relisten (hrest : Schedule.Ordered rest)
    (hsessions : n.sessions.sessions = t :: rest) {s : Session} (hdue : s.counter = 0) :
    Handled rest (n.relisten env s) := by
  unfold relisten
  split
  next access hsubstate _ =>
    exact handled_listen hrest (SessionStack.sessions_setTop hsessions s) hdue (.inl hsubstate) _ _
  · exact handled_endSession hrest hsessions

/-! ## Transmissions -/

theorem handled_retry (hrest : Schedule.Ordered rest) (hsessions : n.sessions.sessions = t :: rest)
    (hdue : t.counter = 0) (hsends : t.netState.substate.IsSending)
    (hframe : n.network.outbound.isEmpty = false) (hchannel : n.access.txChannel?.isSome = true) :
    Handled rest ((n.retry env).settle env) :=
  handled_settle hrest hsessions hdue hsends hframe (contended_retry hchannel)

theorem handled_afterRequest (hrest : Schedule.Ordered rest)
    (hsessions : n.sessions.sessions = t :: rest) (hdue : t.counter = 0)
    (hsends : t.netState.substate.IsSending) (hframe : n.network.outbound.isEmpty = false)
    (hchannel : n.access.txChannel?.isSome = true) : Handled rest (n.afterRequest env t) := by
  unfold afterRequest
  split
  next access haccess =>
    refine handled_settle (n := n) hrest hsessions hdue hsends hframe ?_
    rw [← ChannelAccess.txChannel?_spendRetry haccess] at hchannel
    exact .inr ⟨.inl rfl, rfl, rfl, hchannel⟩
  · split
    · exact handled_endSession hrest hsessions
    · dsimp only
      generalize hs : (if ContentionParams.isArbitrated n.access.params = true then _ else _) = s
      have hresponse : s.counter = 0 ∧ s.netState.substate = .responseRx := by
        rw [← hs]
        split <;> exact ⟨hdue, rfl⟩
      exact handled_listen hrest (SessionStack.sessions_setTop hsessions s) hresponse.1
        (.inr hresponse.2) _ _

/-! ## Inputs to a node that does not transmit -/

/-- Nothing has happened to the active dialog: time may have passed, and the radio may have
been put to rest. -/
structure Lapses (env : Environment W) (n m : Node W) : Prop where
  phase : m.phase = n.phase
  access : m.access = n.access
  network : m.network = n.network
  world : m.world = n.world ∨ m.world = (env.radio.idle n.world).2

theorem lapses_self (env : Environment W) (n : Node W) : Lapses env n n :=
  ⟨rfl, rfl, rfl, .inl rfl⟩

theorem lapses_of_requests (env : Environment W) (custom : CustomApplets W) {input : Input}
    (hrequests : input.Requests) (n : Node W) : Lapses env n (n.step env custom input) := by
  obtain ⟨sessions, -, heq⟩ : ∃ sessions, n.sessions.Schedules sessions ∧
      n.step env custom input = { n with sessions } := schedules_step hrequests
  rw [heq]
  exact ⟨rfl, rfl, rfl, .inl rfl⟩

/-- A listening node processes a frame, goes on after nothing usable has arrived, or listens
on. -/
theorem step_of_listening (env : Environment W) (custom : CustomApplets W) (hn : n.Consistent)
    (hphase : n.phase = .listening) {input : Input} (hacts : input.Acts) :
    (∃ frame s, input = .event (.received frame true) ∧ n.sessions.top? = some s ∧
      n.step env custom input = n.process env frame s) ∨
    (∃ m s, Lapses env n m ∧ n.step env custom input = m.relisten env s) ∨
    Lapses env n (n.step env custom input) := by
  obtain ⟨t, rest, hsessions, -, -⟩ := hn.exists_active (by simp [hphase])
  have htop := SessionStack.top?_eq hsessions
  cases input with
  | run elapsed =>
      have haged : (n.sessions.elapse elapsed).top? = some (t.age elapsed) :=
        SessionStack.top?_eq (by rw [SessionStack.sessions_elapse, hsessions, List.map_cons])
      cases hcloses : (n.countdown - elapsed).isZero with
      | true =>
          refine .inr (.inl ⟨{ n with
            sessions := n.sessions.elapse elapsed
            countdown := n.countdown - elapsed
            world := (env.radio.idle n.world).2 }, (t.age elapsed).withConnected false,
            ⟨rfl, rfl, rfl, .inr rfl⟩, ?_⟩)
          simp only [step, run, hphase, hcloses, onTimeout, haged, if_true]
      | false =>
          have hstep : n.step env custom (.run elapsed) = { n with
              sessions := n.sessions.elapse elapsed
              countdown := n.countdown - elapsed } := by
            simp [step, run, hphase, hcloses]
          rw [hstep]
          exact .inr (.inr ⟨rfl, rfl, rfl, .inl rfl⟩)
  | event event =>
      cases event with
      | received frame intact =>
          cases intact with
          | true =>
              exact .inl ⟨frame, t, rfl, htop, by simp [step, onEvent, onFrame, hphase, htop]⟩
          | false =>
              exact .inr (.inl ⟨n, t, lapses_self env n,
                by simp [step, onEvent, onFrame, hphase, htop]⟩)
      | timeout =>
          exact .inr (.inl ⟨n, t.withConnected false, lapses_self env n,
            by simp [step, onEvent, onTimeout, hphase, htop]⟩)
      | assessed clear =>
          have hstep : n.step env custom (.event (.assessed clear)) = n := by
            simp [step, onEvent, onAssessed, hphase]
          rw [hstep]
          exact .inr (.inr (lapses_self env n))
      | sent success =>
          have hstep : n.step env custom (.event (.sent success)) = n := by
            simp [step, onEvent, onSent, hphase]
          rw [hstep]
          exact .inr (.inr (lapses_self env n))
  | schedule | scheduleScan | scheduleBeacon | flush => cases hacts

end Node

end Mode2
