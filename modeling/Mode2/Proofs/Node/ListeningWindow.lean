import Mode2.Proofs.Node.Appletless
import Mode2.Proofs.Node.Arrivals
import Mode2.Proofs.Node.RadioConduct

/-!
# The window of a dialog that listens

A dialog without an applet that waits for a request asks for no window and for no retries.
Activation resets neither, so that it listens for as long as the last dialog that asked for
a window, and listens again as often as there are retries left. Only where both are as at
the beginning it listens as scans do, once.
-/

namespace Mode2

variable {W : Type} {env : Environment W} {custom : CustomApplets W}
  {calls : W → List RadioCall}

namespace Node

/-- The radio is asked to listen, and then at most put to rest. -/
theorem calls_listen (h : env.Records calls) (channel : UInt8) (timeout : Ticks) (n : Node W) :
    ∃ later accepted, calls (n.listen env channel timeout).world =
      later ++ .listen channel timeout accepted :: calls n.world := by
  have hasks := h.listen channel timeout n.world
  unfold listen
  rcases hlisten : env.radio.listen channel timeout n.world with ⟨cause | _, world⟩
  all_goals rw [hlisten] at hasks
  · refine ⟨[.idle], false, ?_⟩
    change calls (env.radio.idle world).2 = _
    rw [h.idle, hasks]
    rfl
  · exact ⟨[], true, hasks⟩

/-! ## How a window closes -/

/-- The window closes without a usable frame: nothing came, what came is damaged, or the
watchdog steps in. -/
def ClosesWindow (n : Node W) : Input → Prop
  | .event .timeout => True
  | .event (.received _ intact) => intact = false
  | .run elapsed => n.countdown ≤ elapsed
  | _ => False

variable {n : Node W} {t : Session} {elapsed : Ticks}

theorem relisten_of_spent (hspent : n.access.spendRetry = none) (s : Session) :
    n.relisten env s = n.endSession env := by
  unfold relisten
  rw [hspent]
  cases s.netState.substate <;> rfl

theorem onTimeout_of_spent {s : Session} (hphase : n.phase = .listening)
    (htop : n.sessions.top? = some s) (hspent : n.access.spendRetry = none) :
    n.onTimeout env = n.endSession env := by
  unfold onTimeout
  rw [if_pos hphase, htop]
  exact relisten_of_spent hspent _

/-- What listens without retries ends with its window. -/
theorem endsDialog_of_closes {s : Session} {input : Input} (hphase : n.phase = .listening)
    (htop : (n.sessions.elapse input.elapsed).top? = some s) (hretries : n.access.retries = 0)
    (hcloses : n.ClosesWindow input) : EndsDialog n (n.step env custom input) input := by
  have hspent : n.access.spendRetry = none := by simp [ChannelAccess.spendRetry, hretries]
  cases input with
  | run elapsed =>
      have hclosed : (n.countdown - elapsed).isZero = true :=
        (Span.isZero_iff _).mpr (Span.ext (Nat.sub_eq_zero_of_le hcloses))
      have hstep : n.step env custom (.run elapsed) =
          ({ n with
            sessions := n.sessions.elapse elapsed
            countdown := n.countdown - elapsed
            world := (env.radio.idle n.world).2 } : Node W).onTimeout env := by
        simp [step, run, hphase, hclosed]
      have hended : ∀ m : Node W, m.phase = .listening → m.sessions.top? = some s →
          m.access = n.access → m.onTimeout env = m.endSession env := by
        intro m hm htop haccess
        exact onTimeout_of_spent hm htop (haccess ▸ hspent)
      rw [hstep, hended]
      · exact ⟨rfl, rfl⟩
      · exact hphase
      · exact htop
      · rfl
  | event event =>
      rw [SessionStack.elapse_event] at htop
      unfold EndsDialog
      rw [SessionStack.elapse_event]
      cases event with
      | timeout =>
          change (n.onTimeout env).phase = _ ∧ (n.onTimeout env).sessions = _
          rw [onTimeout_of_spent hphase htop hspent]
          exact ⟨rfl, rfl⟩
      | received frame intact =>
          obtain rfl : intact = false := hcloses
          have hstep : n.step env custom (.event (.received frame false)) = n.endSession env := by
            simp [step, onEvent, onFrame, hphase, htop, relisten_of_spent hspent]
          rw [hstep]
          exact ⟨rfl, rfl⟩
      | assessed | sent => cases hcloses
  | schedule | scheduleScan | scheduleBeacon | flush => cases hcloses

/-! ## Listening as scans do -/

/-- The dialog listens for the window of scans, and ends with that window if no usable
frame arrives in it, whatever the environments are. -/
structure ListensAsScans (custom : CustomApplets (Recorded W)) (elapsed : Ticks) (t : Session)
    (n : Node (Recorded W)) : Prop where
  window : ∀ env : Environment W, ∃ later accepted,
    (n.step env.recorded custom (.run elapsed)).world.calls =
      later ++ .listen t.channel n.config.scan.timeout accepted :: n.world.calls
  closes : ∀ (env env' : Environment W) (input : Input) (m : Node (Recorded W)),
    m = n.step env.recorded custom (.run elapsed) → m.phase = .listening →
      m.ClosesWindow input → EndsDialog m (m.step env'.recorded custom input) input

theorem listenWindow_eq_iff :
    n.listenWindow = n.config.scan.timeout ↔
      n.access.rxTimeout = 0 ∨ n.access.rxTimeout = n.config.scan.timeout := by
  unfold listenWindow
  by_cases hzero : n.access.rxTimeout = 0
  · simp [hzero]
  · simp [hzero]

/-- The window that the radio was asked for can be read off its calls. -/
theorem timeout_eq_of_calls {later calls : List RadioCall} {channel : UInt8}
    {timeout timeout' : Ticks} {accepted accepted' : Bool}
    (h : .listen channel timeout accepted :: calls =
      later ++ .listen channel timeout' accepted' :: calls) : timeout = timeout' := by
  have hsingle : [RadioCall.listen channel timeout accepted] =
      later ++ [.listen channel timeout' accepted'] :=
    List.append_cancel_right (by simpa using h)
  cases later with
  | nil =>
      simp only [List.nil_append, List.cons.injEq, RadioCall.listen.injEq] at hsingle
      exact hsingle.1.2.1
  | cons call later => simp at hsingle

variable {n : Node (Recorded W)} {custom : CustomApplets (Recorded W)}

/-- With a retry left a dialog that waits for a request listens again, if the radio lets
it. -/
theorem onTimeout_of_retries {s : Session} (hphase : n.phase = .listening)
    (htop : n.sessions.top? = some s)
    (hsubstate : s.netState.substate = .requestRx) (hretries : n.access.retries ≠ 0) :
    (n.onTimeout Environment.obliging.recorded).phase = .listening := by
  unfold onTimeout
  rw [if_pos hphase, htop]
  unfold relisten ChannelAccess.spendRetry
  have hstill : (s.withConnected false).netState.substate = .requestRx := hsubstate
  rw [if_neg hretries]
  dsimp only
  rw [hstill]
  rfl

/-- A dialog without an applet that is due and waits for a request listens for the window
that the last dialog has left, if it has left one. It listens as scans do exactly when no
other window is left and no retries are. -/
theorem listensAsScans_iff (h : n.Appletless .requestRx elapsed t) :
    (∀ env : Environment W, ∃ later accepted,
      (n.step env.recorded custom (.run elapsed)).world.calls =
        later ++ .listen t.channel n.listenWindow accepted :: n.world.calls) ∧
    (n.ListensAsScans custom elapsed t ↔
      (n.access.rxTimeout = 0 ∨ n.access.rxTimeout = n.config.scan.timeout) ∧
        n.access.retries = 0) := by
  have hlistens : ∀ env : Environment W, ∃ later accepted,
      (n.step env.recorded custom (.run elapsed)).world.calls =
        later ++ .listen t.channel n.listenWindow accepted :: n.world.calls := by
    intro env
    rw [h.listens]
    exact calls_listen env.records_recorded _ _ _
  obtain ⟨rest, hsessions⟩ := h.sessions_storeTop t.begun
  refine ⟨hlistens, ⟨fun hscans => ⟨?_, ?_⟩, ?_⟩⟩
  · obtain ⟨later, accepted, hcalls⟩ := hscans.window .obliging
    rw [h.listens] at hcalls
    exact listenWindow_eq_iff.mp (timeout_eq_of_calls hcalls)
  · -- With a retry left, the obliging radio would be asked to listen again.
    obtain ⟨m, hm⟩ : ∃ m : Node (Recorded W), m = ((n.prepared elapsed).storeTop
        t.begun).listen Environment.obliging.recorded t.channel
          n.listenWindow := ⟨_, rfl⟩
    have hphase : m.phase = .listening := by rw [hm]; rfl
    obtain ⟨hidle, -⟩ := hscans.closes .obliging .obliging (.event .timeout) m
      (hm.trans (h.listens _ _).symm) hphase trivial
    by_cases hretries : n.access.retries = 0
    · exact hretries
    · have htop : m.sessions.top? = some t.begun := by
        rw [hm]
        exact SessionStack.top?_eq hsessions
      have hagain := onTimeout_of_retries hphase htop h.substate (by rw [hm]; exact hretries)
      cases hagain.symm.trans hidle
  · rintro ⟨hwindow, hretries⟩
    refine ⟨fun env => ?_, fun env env' input m hstep hphase hcloses => ?_⟩
    · obtain ⟨later, accepted, hcalls⟩ := hlistens env
      rw [listenWindow_eq_iff.mpr hwindow] at hcalls
      exact ⟨later, accepted, hcalls⟩
    · rw [h.listens] at hstep
      rw [hstep] at hphase
      have hlistening := listen_of_listening hphase
      rw [← hstep] at hphase hlistening
      have haged : (m.sessions.elapse input.elapsed).sessions = _ :=
        (congrArg (fun m => (m.sessions.elapse input.elapsed).sessions) hlistening).trans
          (congrArg (List.map (Session.age input.elapsed)) hsessions)
      refine endsDialog_of_closes hphase (SessionStack.top?_eq haged) ?_ hcloses
      rw [hlistening]
      exact hretries

/-- Applets that ask for a window of their own and for a retry. -/
def windowApplets : CustomApplets W := fun _ s n =>
  (s, { n with access := { n.access with rxTimeout := 5, retries := 1 } })

/-- The window of a dialog whose frame was dropped is left to the next dialog. -/
theorem listensAsScans_iff_dropped :
    ∃ (n : Node (Recorded Unit)) (t : Session),
      Reaches windowApplets (fun env _ => ∃ plain : Environment Unit, env = plain.recorded)
        (start .default ⟨(), []⟩) n ∧
      n.Appletless .requestRx 0 t ∧ ¬n.ListensAsScans windowApplets 0 t := by
  let env : Environment (Recorded Unit) := Environment.obliging.recorded
  let first : Node (Recorded Unit) := (start .default ⟨(), []⟩).step env windowApplets
    (.schedule (some (.custom 0)) 0 0xF0 0x10 { substate := .requestRx })
  let n := ((first.step env windowApplets (.run 0)).step env windowApplets
    (.event (.received [0] true))).step env windowApplets
      (.schedule none 0 0xF0 0x10 { substate := .requestRx })
  let t : Session :=
    { counter := 0, channel := 0x10, netState := { substate := .requestRx }, flags := .none,
      dialogId := 1, subnet := 0xF0, extra := 0, applet := none }
  have hrun : Reaches windowApplets
      (fun env _ => ∃ plain : Environment Unit, env = plain.recorded) (start .default ⟨(), []⟩) n :=
    .step (.step (.step (.step .refl ⟨_, rfl⟩) ⟨_, rfl⟩) ⟨_, rfl⟩) ⟨_, rfl⟩
  have hlistener : n.Appletless .requestRx 0 t :=
    ⟨by decide +kernel, by decide +kernel, rfl, rfl, rfl, rfl⟩
  have hiff : n.ListensAsScans windowApplets 0 t ↔ _ := (listensAsScans_iff hlistener).2
  refine ⟨n, t, hrun, hlistener, fun hscans => ?_⟩
  have hretries : n.access.retries = 0 := (hiff.mp hscans).2
  revert hretries
  decide +kernel

end Node

end Mode2
