import Mode2.Node.Mailbox
import Mode2.Node.Task
import Mode2.Proofs.Session.Order

/-!
# Runs of a node

A run is whatever the host and the radio do with a node, one thing after another: the
host schedules dialogs, lets the node run and flushes it, the radio reports. The
environment may be another one each time. The applets that the host supplies are the
same throughout, and are expected to keep to what applets are for.
-/

namespace Mode2

variable {W : Type}

/-- What the host and the radio do with a node. -/
inductive Input
  | schedule (applet : Option Applet) (wait : Ticks) (subnet channel : UInt8) (netState : NetState)
  | scheduleScan (wait : Ticks)
  | scheduleBeacon (wait : Ticks)
  | run (elapsed : Ticks)
  | event (event : RadioEvent)
  | flush
deriving DecidableEq, Repr

/-- The ticks that pass with an input. -/
def Input.elapsed : Input → Ticks
  | .run elapsed => elapsed
  | _ => 0

/-- The host asks for a dialog. -/
def Input.Requests : Input → Prop
  | .schedule .. | .scheduleScan _ | .scheduleBeacon _ => True
  | .run _ | .event _ | .flush => False

/-- The node gets to act. -/
def Input.Acts : Input → Prop
  | .run _ | .event _ => True
  | .schedule .. | .scheduleScan _ | .scheduleBeacon _ | .flush => False

/-- No time passes with an event of the radio. -/
theorem SessionStack.elapse_event (stack : SessionStack) (event : RadioEvent) :
    stack.elapse (Input.event event).elapsed = stack :=
  stack.elapse_zero

theorem Input.requests_or_acts (input : Input) :
    input.Requests ∨ input.Acts ∨ input = .flush := by
  cases input <;> simp [Requests, Acts]

/-- What an applet may do: rewrite its dialog, but not when it is due; set up the
layers; and schedule further dialogs. -/
structure Applet.Effect (s : Session) (n : Node W) (result : Session × Node W) : Prop where
  counter : result.1.counter = s.counter
  sessions : n.sessions.Schedules result.2.sessions

/-- The host's applets keep to what applets are for. -/
def CustomApplets.Disciplined (custom : CustomApplets W) : Prop :=
  ∀ id s n, Applet.Effect s n (custom id s n)

/-- The host's applets do not take all dialogs away from a node. -/
def CustomApplets.KeepsDialogs (custom : CustomApplets W) : Prop :=
  ∀ id s n, n.sessions.sessions ≠ [] → (custom id s n).2.sessions.sessions ≠ []

namespace Node

/-- A request of the host that is refused changes nothing. -/
def accept (n : Node W) : Except SessionError (Node W) → Node W
  | .ok m => m
  | .error _ => n

/-- The node after an input. -/
def step (env : Environment W) (custom : CustomApplets W) (n : Node W) : Input → Node W
  | .schedule applet wait subnet channel netState =>
      n.accept (n.schedule applet wait subnet channel netState)
  | .scheduleScan wait => n.accept (n.scheduleScan wait)
  | .scheduleBeacon wait => n.accept (n.scheduleBeacon wait)
  | .run elapsed => n.run env custom elapsed
  | .event event => n.onEvent env event
  | .flush => n.flush env

/-- A run from `n`, each input in an environment such that both satisfy `Given`, may
lead to a node. -/
inductive Reaches (custom : CustomApplets W) (Given : Environment W → Input → Prop) (n : Node W) :
    Node W → Prop
  | refl : Reaches custom Given n n
  | step {m : Node W} {env : Environment W} {input : Input} :
      Reaches custom Given n m → Given env input → Reaches custom Given n (m.step env custom input)

variable {env : Environment W} {custom : CustomApplets W}

/-- One input after the other is a run. -/
theorem reaches_foldl {start n : Node W} (env : Environment W) (inputs : List Input)
    (hrun : Reaches custom (fun _ _ => True) start n) :
    Reaches custom (fun _ _ => True) start (inputs.foldl (step env custom) n) := by
  induction inputs generalizing n with
  | nil => exact hrun
  | cons input inputs ih => exact ih (.step hrun trivial)

theorem run_of_idle {n : Node W} (hphase : n.phase = .idle) (elapsed : Ticks) :
    n.run env custom elapsed =
      ({ n with sessions := n.sessions.elapse elapsed } : Node W).activate env custom := by
  unfold run
  dsimp only
  split
  · rfl
  all_goals simp_all

/-! ## Scheduling -/

theorem schedule_eq_ok {n m : Node W} {applet : Option Applet} {wait : Ticks}
    {subnet channel : UInt8} {netState : NetState}
    (h : n.schedule applet wait subnet channel netState = .ok m) :
    ∃ s sessions, n.sessions.schedule applet wait subnet channel netState = .ok (s, sessions) ∧
      m = { n with sessions } := by
  unfold schedule at h
  cases hschedule : n.sessions.schedule applet wait subnet channel netState with
  | error cause =>
      rw [hschedule] at h
      cases h
  | ok scheduled =>
      rw [hschedule] at h
      cases h
      exact ⟨scheduled.1, scheduled.2, rfl, rfl⟩

/-- Scheduling adds at most a dialog and changes nothing else. -/
theorem accept_schedule (n : Node W) (applet : Option Applet) (wait : Ticks)
    (subnet channel : UInt8) (netState : NetState) :
    ∃ sessions, n.sessions.Schedules sessions ∧
      n.accept (n.schedule applet wait subnet channel netState) = { n with sessions } := by
  cases hschedule : n.schedule applet wait subnet channel netState with
  | error cause => exact ⟨n.sessions, .refl, rfl⟩
  | ok m =>
      obtain ⟨s, sessions, hok, rfl⟩ := schedule_eq_ok hschedule
      exact ⟨sessions, .schedule .refl hok, rfl⟩

/-- A request of the host has at most a dialog scheduled. -/
theorem schedules_step {n : Node W} {input : Input} (hrequests : input.Requests) :
    ∃ sessions, n.sessions.Schedules sessions ∧
      n.step env custom input = { n with sessions } := by
  cases input with
  | schedule applet wait subnet channel netState => exact n.accept_schedule _ _ _ _ _
  | scheduleScan wait => exact n.accept_schedule _ _ _ _ _
  | scheduleBeacon wait => exact n.accept_schedule _ _ _ _ _
  | run | event | flush => cases hrequests

/-! ## Idle nodes -/

/-- An idle node without a dialog that is due only lets time pass. -/
theorem step_of_wait {n : Node W} {input : Input} (hacts : input.Acts) (hidle : n.phase = .idle)
    (hwait : ∀ elapsed, input = .run elapsed →
      ∀ t ∈ (n.sessions.elapse elapsed).top?, t.counter ≠ 0) :
    n.step env custom input = { n with sessions := n.sessions.elapse input.elapsed } := by
  cases input with
  | run elapsed =>
      have hnone := hwait elapsed rfl
      change n.run env custom elapsed = _
      rw [run_of_idle hidle]
      unfold activate
      split
      · rfl
      next t htop => exact if_neg (by simpa using hnone t htop)
  | event event =>
      have hstray : n.onEvent env event = n := by
        cases event <;> simp [onEvent, onFrame, onTimeout, onAssessed, onSent, hidle]
      rw [SessionStack.elapse_event]
      exact hstray
  | schedule | scheduleScan | scheduleBeacon | flush => cases hacts

end Node

end Mode2
