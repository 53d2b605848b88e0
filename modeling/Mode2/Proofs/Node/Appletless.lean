import Mode2.Proofs.Node.Retries

/-!
# Dialogs without an applet

A dialog without an applet is only checked for something to do when it is activated: if it
is to send and nothing lies in the queue it is scrapped. Otherwise it goes on as it was
scheduled, with whatever earlier dialogs have left of the access to channels and of the
queue.
-/

namespace Mode2

variable {W : Type} {env : Environment W}

/-- A dialog that has begun is not fresh any more. -/
def Session.begun (s : Session) : Session :=
  { s with netState.fresh := false }

namespace Node

/-- A dialog without an applet that is due on top of an idle node. -/
structure Appletless (substate : Substate) (elapsed : Ticks) (t : Session) (n : Node W) :
    Prop where
  idle : n.phase = .idle
  top : (n.sessions.elapse elapsed).top? = some t
  due : t.counter = 0
  applet : t.applet = none
  substate : t.netState.substate = substate
  kept : t.netState.scrapped = false

/-- The node as an applet finds it when its dialog has become due. -/
def prepared (elapsed : Ticks) (n : Node W) : Node W :=
  { n with
    sessions := n.sessions.elapse elapsed
    access := { n.access with
      txChannels := .empty, params := n.config.contention.params } }

variable {n : Node W} {t : Session} {elapsed : Ticks}

theorem engage_of_requestRx {s : Session} (hsubstate : s.netState.substate = .requestRx)
    (n : Node W) : n.engage env s = n.listen env s.channel n.listenWindow := by
  unfold engage
  rw [hsubstate]

theorem engage_of_requestTx {s : Session} (hsubstate : s.netState.substate = .requestTx)
    (n : Node W) : n.engage env s = n.beginSending env s := by
  unfold engage
  rw [hsubstate]

namespace Appletless

variable {substate : Substate}

/-- Without an applet, a dialog is only checked for something to do. -/
theorem runApplet (h : n.Appletless substate elapsed t) (env : Environment W)
    (custom : CustomApplets W) :
    ({ n with sessions := n.sessions.elapse elapsed } : Node W).runApplet env custom t =
      Applet.runIdle t.begun (n.prepared elapsed) := by
  unfold Node.runApplet
  rw [h.applet]
  change Applet.runIdle { t with applet := none, netState.fresh := false } _ = _
  rw [← h.applet]
  rfl

/-- A dialog that has something to do only stops being fresh. -/
theorem runApplet_of_busy (h : n.Appletless substate elapsed t)
    (hbusy : ¬(substate = .requestTx ∧ n.network.outbound.isEmpty)) (env : Environment W)
    (custom : CustomApplets W) :
    ({ n with sessions := n.sessions.elapse elapsed } : Node W).runApplet env custom t =
      (t.begun, n.prepared elapsed) := by
  rw [h.runApplet, Applet.runIdle]
  rw [← h.substate] at hbusy
  exact if_neg hbusy

/-- A dialog that has something to do is worked on as it was scheduled. -/
theorem step (h : n.Appletless substate elapsed t)
    (hbusy : ¬(substate = .requestTx ∧ n.network.outbound.isEmpty)) (env : Environment W)
    (custom : CustomApplets W) :
    n.step env custom (.run elapsed) =
      ((n.prepared elapsed).storeTop t.begun).engage env t.begun := by
  change n.run env custom elapsed = _
  rw [run_of_idle h.idle, activate_eq env custom h.top h.due, h.runApplet_of_busy hbusy]
  exact if_neg (by simp [Session.begun, h.kept])

/-- The dialog listens on its channel, for the window that the access to channels has. -/
theorem listens (h : n.Appletless .requestRx elapsed t) (env : Environment W)
    (custom : CustomApplets W) :
    n.step env custom (.run elapsed) =
      ((n.prepared elapsed).storeTop t.begun).listen env t.channel n.listenWindow := by
  rw [h.step (by simp)]
  exact engage_of_requestRx h.substate _

theorem sessions_storeTop (h : n.Appletless substate elapsed t) (s : Session) :
    ∃ rest, ((n.prepared elapsed).storeTop s).sessions.sessions = s :: rest := by
  obtain ⟨rest, hsessions⟩ := SessionStack.exists_of_top? h.top
  exact ⟨rest, SessionStack.sessions_setTop hsessions _⟩

/-- A dialog that is to send and for which nothing lies in the queue is scrapped. -/
theorem scraps (h : n.Appletless .requestTx elapsed t)
    (hempty : n.network.outbound.isEmpty = true) (env : Environment W)
    (custom : CustomApplets W) :
    n.step env custom (.run elapsed) = (n.prepared elapsed).endSession env := by
  have hscrapped : Applet.runIdle t.begun (n.prepared elapsed) =
      (t.begun.scrap, n.prepared elapsed) := if_pos ⟨h.substate, hempty⟩
  change n.run env custom elapsed = _
  rw [run_of_idle h.idle, activate_eq env custom h.top h.due, h.runApplet, hscrapped]
  rfl

/-- A dialog that is to send sends whatever lies in the queue. -/
theorem sends (h : n.Appletless .requestTx elapsed t)
    (hframe : n.network.outbound.isEmpty = false) (env : Environment W)
    (custom : CustomApplets W) :
    n.step env custom (.run elapsed) =
      ((n.prepared elapsed).storeTop t.begun).beginSending env t.begun := by
  rw [h.step (by simp [hframe])]
  exact engage_of_requestTx h.substate _

end Appletless

/-- The dialog is over. -/
def EndsDialog (n m : Node W) (input : Input) : Prop :=
  m.phase = .idle ∧ m.sessions = (n.sessions.elapse input.elapsed).pop

end Node

end Mode2
