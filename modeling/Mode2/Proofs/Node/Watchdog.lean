import Mode2.Proofs.Node.AppletOnce
import Mode2.Proofs.Node.Appletless
import Mode2.Proofs.Node.BoundedWindows
import Mode2.Proofs.Node.TopDialog
import Mode2.Proofs.Node.Waiting

/-!
# The watchdog

The radio closes a window by itself and reports it. Should the report not come, the watchdog
does so some ticks later: once the window and its slack have passed, in as many parts as the
host likes, the radio is put to rest, and the dialog is over or listens for a new window.
-/

namespace Mode2

variable {W : Type}

/-- The radio does not report: time passes, or the host asks for a dialog. -/
def Input.IsQuiet : Input → Prop
  | .run _ | .schedule .. | .scheduleScan _ | .scheduleBeacon _ => True
  | .event _ | .flush => False

namespace Node

variable {env : Environment W} {custom : CustomApplets W} {config : Config} {world : W}
  {n k : Node W} {calls : W → List RadioCall}

/-- The node after all the inputs, each in its environment. -/
def afterAll (custom : CustomApplets W) (n : Node W) (inputs : List (Environment W × Input)) :
    Node W :=
  inputs.foldl (fun n given => n.step given.1 custom given.2) n

/-- The ticks that pass with all the inputs. -/
def ticksPassed (inputs : List (Environment W × Input)) : Nat :=
  inputs.foldr (fun given passed => given.2.elapsed.count + passed) 0

/-- When these ticks have passed, the watchdog has put the radio to rest, and the dialog on top
is over or listens for a new window. -/
def WatchdogActs (calls : W → List RadioCall) (n : Node W) (elapsed : Ticks) (m : Node W) :
    Prop :=
  ∃ later, calls m.world = later ++ .idle :: calls n.world ∧
    (EndsDialog n m (.run elapsed) ∨
      m.phase = .listening ∧ ∃ channel timeout, later = [.listen channel timeout true] ∧
        m.countdown = timeout + watchdogSlack)

/-- With the input that completes the window and its slack the watchdog acts. Until then the
node listens, and nothing around it is touched. -/
def WatchdogCloses (calls : W → List RadioCall) (custom : CustomApplets W) (n : Node W)
    (inputs : List (Environment W × Input)) : Prop :=
  ∃ before env elapsed after, inputs = before ++ (env, .run elapsed) :: after ∧
    ticksPassed before < n.countdown.count ∧
    n.countdown.count ≤ ticksPassed before + elapsed.count ∧
    (n.afterAll custom before).phase = .listening ∧
    (n.afterAll custom before).world = n.world ∧
    WatchdogActs calls (n.afterAll custom before) elapsed
      ((n.afterAll custom before).step env custom (.run elapsed))

theorem watchdogActs_endSession (h : env.Records calls) {elapsed : Ticks}
    (hpop : k.sessions.pop = (n.sessions.elapse elapsed).pop) (later : List RadioCall)
    (hcalls : calls k.world = later ++ .idle :: calls n.world) :
    WatchdogActs calls n elapsed (k.endSession env) :=
  ⟨.idle :: later, (h.idle k.world).trans (congrArg _ hcalls), .inl ⟨rfl, hpop⟩⟩

/-- Whoever is to listen again does so for a new window, or is refused. -/
theorem watchdogActs_listen (h : env.Records calls) {elapsed : Ticks}
    (hpop : k.sessions.pop = (n.sessions.elapse elapsed).pop)
    (hcalls : calls k.world = .idle :: calls n.world) (channel : UInt8) (timeout : Ticks) :
    WatchdogActs calls n elapsed (k.listen env channel timeout) := by
  have hasks := h.listen channel timeout k.world
  rw [hcalls] at hasks
  cases hradio : (env.radio.listen channel timeout k.world).1 with
  | ok accepted =>
      rw [hradio] at hasks
      rw [listen_of_accepted hradio]
      exact ⟨[_], hasks, .inr ⟨rfl, channel, timeout, rfl, rfl⟩⟩
  | error cause =>
      rw [hradio] at hasks
      rw [listen_of_refused hradio]
      exact watchdogActs_endSession h hpop [_] hasks

theorem watchdogActs_relisten (h : env.Records calls) {elapsed : Ticks}
    (hsessions : k.sessions = n.sessions.elapse elapsed)
    (hcalls : calls k.world = .idle :: calls n.world) (s : Session) :
    WatchdogActs calls n elapsed (k.relisten env s) := by
  have hpop : k.sessions.pop = (n.sessions.elapse elapsed).pop :=
    congrArg SessionStack.pop hsessions
  unfold relisten
  split
  · refine watchdogActs_listen h ?_ ?_ _ _
    · exact (SessionStack.pop_setTop k.sessions s).trans hpop
    · exact hcalls
  · exact watchdogActs_endSession h hpop [] hcalls

/-- Once the window and its slack have passed, the watchdog acts. -/
theorem watchdogActs_of_over (h : env.Records calls) (hn : n.Consistent)
    (hphase : n.phase = .listening) {elapsed : Ticks} (hover : n.countdown ≤ elapsed) :
    WatchdogActs calls n elapsed (n.step env custom (.run elapsed)) := by
  obtain ⟨t, htop, -⟩ := hn.active (by simp [hphase])
  have hzero : (n.countdown - elapsed).isZero = true :=
    (Span.isZero_iff _).mpr (Span.ext (Nat.sub_eq_zero_of_le hover))
  have hstep : n.step env custom (.run elapsed) = ({ n with
      sessions := n.sessions.elapse elapsed
      countdown := n.countdown - elapsed
      world := (env.radio.idle n.world).2 } : Node W).relisten env
        ((t.age elapsed).withConnected false) := by
    simp [step, run, hphase, hzero, onTimeout, SessionStack.top?_elapse htop]
  rw [hstep]
  exact watchdogActs_relisten h rfl (h.idle n.world) _

/-- As long as something is left of the window, a quiet input only takes away from it. -/
theorem step_of_left (env : Environment W) (custom : CustomApplets W)
    (hphase : n.phase = .listening) {input : Input} (hquiet : input.IsQuiet)
    (hleft : input.elapsed < n.countdown) :
    (n.step env custom input).phase = .listening ∧
      (n.step env custom input).world = n.world ∧
      (n.step env custom input).countdown = n.countdown - input.elapsed := by
  have hrequests : input.Requests → input.elapsed = 0 →
      (n.step env custom input).phase = .listening ∧
        (n.step env custom input).world = n.world ∧
        (n.step env custom input).countdown = n.countdown - input.elapsed := by
    intro hrequests hzero
    obtain ⟨sessions, -, heq⟩ : ∃ sessions, n.sessions.Schedules sessions ∧
        n.step env custom input = { n with sessions } := schedules_step hrequests
    rw [heq, hzero]
    exact ⟨hphase, rfl, Span.ext (by simp)⟩
  cases input with
  | run elapsed =>
      have hwakeup : n.nextWakeup = n.countdown := by simp [nextWakeup, hphase]
      have hage : n.step env custom (.run elapsed) = n.age elapsed :=
        run_of_early env custom (hwakeup.symm ▸ hleft)
      rw [hage]
      exact ⟨hphase, rfl, by simp [age, hphase, Input.elapsed]⟩
  | schedule | scheduleScan | scheduleBeacon => exact hrequests trivial rfl
  | event | flush => cases hquiet

/-- A quiet input before the window is over is one more until the watchdog acts. -/
theorem WatchdogCloses.cons {input : Input} {inputs : List (Environment W × Input)}
    (hphase : n.phase = .listening) (hquiet : input.IsQuiet) (hleft : input.elapsed < n.countdown)
    (h : WatchdogCloses calls custom (n.step env custom input) inputs) :
    WatchdogCloses calls custom n ((env, input) :: inputs) := by
  obtain ⟨-, hworld, hcountdown⟩ := step_of_left env custom hphase hquiet hleft
  obtain ⟨before, env', elapsed, after, rfl, hearly, hover, hlistens, huntouched, hacts⟩ := h
  rw [Span.lt_def] at hleft
  rw [hcountdown, Span.count_sub] at hearly hover
  have hbefore : ticksPassed ((env, input) :: before) =
      input.elapsed.count + ticksPassed before := rfl
  refine ⟨(env, input) :: before, env', elapsed, after, rfl, ?_, ?_, hlistens,
    huntouched.trans hworld, hacts⟩
  · rw [hbefore]
    omega
  · rw [hbefore]
    omega

/-- However the ticks are cut into pieces, once they have passed the watchdog has closed the
window. -/
theorem watchdogCloses_of_passed (hcustom : custom.Disciplined) (hn : n.Consistent)
    (hphase : n.phase = .listening) (inputs : List (Environment W × Input))
    (hquiet : ∀ given ∈ inputs, given.1.Records calls ∧ given.2.IsQuiet)
    (hpassed : n.countdown.count ≤ ticksPassed inputs) :
    WatchdogCloses calls custom n inputs := by
  have hopen := hn.waiting (.inr hphase)
  induction inputs generalizing n with
  | nil => exact absurd hpassed (Nat.not_le.mpr hopen)
  | cons given inputs ih =>
      obtain ⟨env, input⟩ := given
      obtain ⟨⟨hrecords, hinput⟩, hrest⟩ := List.forall_mem_cons.mp hquiet
      have htotal : n.countdown.count ≤ input.elapsed.count + ticksPassed inputs := hpassed
      by_cases hleft : input.elapsed < n.countdown
      · -- The window is still open: what is left of it passes with the other inputs.
        obtain ⟨hstill, -, hcountdown⟩ := step_of_left env custom hphase hinput hleft
        have hnext : (n.step env custom input).Consistent := hn.step hcustom input
        refine (ih hnext hstill hrest ?_ (hnext.waiting (.inr hstill))).cons hphase hinput hleft
        rw [hcountdown]
        exact Nat.sub_le_iff_le_add'.mpr htotal
      · have hover : n.countdown ≤ input.elapsed := Nat.not_lt.mp hleft
        cases input with
        | run elapsed =>
            refine ⟨[], env, elapsed, inputs, rfl, hopen, ?_, hphase, rfl,
              watchdogActs_of_over hrecords hn hphase hover⟩
            exact Nat.le_trans hover (Nat.le_add_left _ _)
        | schedule | scheduleScan | scheduleBeacon => exact absurd hover (Nat.not_le.mpr hopen)
        | event | flush => cases hinput

/-- In every run whose applets do not change when their own dialog is due and otherwise only
schedule dialogs, whatever else they do: since the applet has run that an input calls, if it
calls one, the radio is asked to listen only for windows that are the one of scans or no longer
than the one that has been asked for, and that are not empty unless the one of scans is; and
once it has accepted, the node listens with the watchdog on the window and its slack. And while
a node listens and the radio does not report, the watchdog ends the dialog or opens a new window
with the input that completes the countdown, however the ticks are cut into pieces. -/
theorem windows_bounded (hcustom : custom.Disciplined)
    (hrun : Reaches custom (fun env _ => env.Records calls) (start config world) n) :
    (∀ (env : Environment W) (input : Input), env.Records calls →
      OpensWindows calls (calls (n.afterApplet env custom input).world)
        (n.step env custom input)) ∧
    (n.phase = .listening → ∀ inputs : List (Environment W × Input),
      (∀ given ∈ inputs, given.1.Records calls ∧ given.2.IsQuiet) →
      n.countdown.count ≤ ticksPassed inputs → WatchdogCloses calls custom n inputs) := by
  obtain ⟨hn, hkeeps⟩ := keepsWindow_of_reaches hcustom hrun
  refine ⟨fun env input h => (opensWindows_step h hn hkeeps input).2, fun hphase inputs => ?_⟩
  exact watchdogCloses_of_passed hcustom hn hphase inputs

/-- A scan with a retry listens, for 128 ticks more when nothing has come. Of its 144 ticks 100
pass, a beacon is asked for, and with the others the watchdog acts. -/
theorem windows_bounded_scan :
    ∃ (env : Environment (Recorded Unit)) (n : Node (Recorded Unit)),
      let custom : CustomApplets (Recorded Unit) := fun _ s n => (s, n)
      let m := n.step env custom (.event .timeout)
      n.phase = .listening ∧ n.countdown = 144 ∧
      m.world.calls = .listen 0x10 128 true :: n.world.calls ∧ m.config.scan.timeout ≠ 0 ∧
      OpensWindows Recorded.calls n.world.calls m ∧
      WatchdogCloses Recorded.calls custom n
        [(env, .run 100), (env, .scheduleBeacon 5), (env, .run 44)] := by
  let env : Environment (Recorded Unit) := Environment.obliging.recorded
  let custom : CustomApplets (Recorded Unit) := fun _ s n => (s, n)
  let config : Config := { Config.default with scan.retries := 1 }
  let n := ((start config ⟨(), []⟩).step env custom (.scheduleScan 0)).step env custom (.run 0)
  have hcustom : custom.Disciplined := fun _ _ _ => ⟨rfl, .refl⟩
  have hrecords : env.Records Recorded.calls := Environment.records_recorded _
  have hrun : Reaches custom (fun env _ => env.Records Recorded.calls) (start config ⟨(), []⟩) n :=
    .step (.step .refl hrecords) hrecords
  have hphase : n.phase = .listening := by decide
  obtain ⟨hwindows, hwatchdog⟩ := windows_bounded hcustom hrun
  refine ⟨env, n, hphase, by decide, by decide, by decide, hwindows env (.event .timeout) hrecords,
    hwatchdog hphase _ ?_ (by decide)⟩
  simp [hrecords, Input.IsQuiet]

/-- A dialog that waits for responses gets in front of one that has been put off by its own
applet while it listens. With the first frame the radio is asked to listen for the rest of a
window that the other dialog has opened: not for that of scans, and longer than anybody has
asked for. -/
theorem windows_bounded_postponed :
    ∃ (env : Environment (Recorded Unit)) (n : Node (Recorded Unit)) (frame : List UInt8),
      let m := n.step env postponingApplets (.event (.received frame true))
      Reaches postponingApplets (fun env _ => env.Records Recorded.calls)
        (start .default ⟨(), []⟩) n ∧
      env.Records Recorded.calls ∧ m.config.scan.timeout ≠ 0 ∧
      m.world.calls = .listen 0x10 125 true :: n.world.calls ∧ ¬m.OpensWindow 125 true := by
  let env : Environment (Recorded Unit) := Environment.obliging.recorded
  have hrecords : env.Records Recorded.calls := Environment.records_recorded _
  let scheduled := (start .default ⟨(), []⟩ : Node (Recorded Unit)).step env postponingApplets
    (.schedule (some (.custom 0)) 0 0xF0 0x10 { substate := .requestRx })
  let listening := scheduled.step env postponingApplets (.run 0)
  let overtaken := listening.step env postponingApplets
    (.schedule none 0 0xF0 0x10 { substate := .responseRx, listening := true })
  let n := overtaken.step env postponingApplets (.run 3)
  let frame : List UInt8 := [0x0A, 0x00, 0xF0, 0x12, 0x05, 0xAA, 0xBB, 0x00, 0x00, 0x00]
  let m := n.step env postponingApplets (.event (.received frame true))
  have hrun : Reaches postponingApplets (fun env _ => env.Records Recorded.calls)
      (start .default ⟨(), []⟩) n :=
    .step (.step (.step (.step .refl hrecords) hrecords) hrecords) hrecords
  have hbeyond : ¬(125 = m.config.scan.timeout ∨ 125 ≤ m.access.rxTimeout) := by decide +kernel
  exact ⟨env, n, frame, hrun, hrecords, by decide +kernel, by decide +kernel,
    fun h => hbeyond h.bounded⟩

end Node

end Mode2
