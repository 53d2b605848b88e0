import Mode2.Proofs.Node.Contention
import Mode2.Proofs.Node.Run

/-!
# What a node tries again

A node that does not get on may try again: listen once more, send a request once more,
attempt a failed transmission again, or contend anew. It keeps no record of that. Here
each operation of a node comes with the retries that it makes, noted where the node
goes on after them; without the notes it is the operation itself.
-/

namespace Mode2

variable {W : Type}

/-- What is tried again. -/
inductive Retry
  /-- Listening, after a window without a usable frame. -/
  | listening
  /-- Sending a request that has gone out. -/
  | repetition
  /-- A transmission that failed. -/
  | transmission
  /-- Contention, after its window was used up. -/
  | contention
deriving DecidableEq, Repr

/-! ## Operations in parts -/

namespace Node

/-- The node in the first pause of the contention for the staged frame. -/
def begun (env : Environment W) (s : Session) (n : Node W) : Node W :=
  let access :=
    if n.access.txChannels.channels = [] then n.access.setTxChannel s.channel else n.access
  let frameTime :=
    airTime n.network.outbound.length (access.txChannel?.getD s.channel)
  let begun := access.beginSequence env.random frameTime n.world
  { n with access := begun.1.2, world := begun.2 }.pause begun.1.1

theorem beginSending_eq (env : Environment W) (s : Session) (n : Node W) :
    n.beginSending env s =
      if n.network.outbound.isEmpty then n.endSession env else (n.begun env s).settle env := rfl

theorem isSome_txChannel?_begun (env : Environment W) (s : Session) (n : Node W) :
    (n.begun env s).access.txChannel?.isSome = true :=
  ChannelAccess.isSome_txChannel?_beginSequence env.random _ _ n.world
    (n.access.channels_ne_nil_of_default s.channel)

/-- The node that is about to send the response of a dialog. -/
def responding (s : Session) (n : Node W) : Node W :=
  let follower := n.sessions.followerWait
  let window :=
    if follower ≠ .never ∧ follower.toClocks < n.access.window then follower.toClocks
    else n.access.window
  let n := { n with access := { n.access with window, retries := 0 } }
  if s.flags.listen then
    let netState : NetState :=
      { substate := .requestRx, connected := s.netState.connected,
        datastream := s.netState.datastream }
    let sessions :=
      match n.sessions.scheduleCopy s window.toTicks netState with
      | .ok (_, sessions) => sessions
      | .error _ => n.sessions
    { n with sessions, access := { n.access with rxTimeout := n.config.scan.timeout } }
  else n

theorem beginResponding_eq (env : Environment W) (s : Session) (n : Node W) :
    n.beginResponding env s = (n.responding s).beginSending env s := rfl

theorem retries_responding (s : Session) (n : Node W) : (n.responding s).access.retries = 0 := by
  unfold responding
  dsimp only
  split <;> rfl

theorem world_responding (s : Session) (n : Node W) : (n.responding s).world = n.world := by
  unfold responding
  dsimp only
  split <;> rfl

theorem network_responding (s : Session) (n : Node W) :
    (n.responding s).network = n.network := by
  unfold responding
  dsimp only
  split <;> rfl

theorem params_responding (s : Session) (n : Node W) :
    (n.responding s).access.params = n.access.params := by
  unfold responding
  dsimp only
  split <;> rfl

theorem sessions_responding_ne_nil {n : Node W} (s : Session) (h : n.sessions.sessions ≠ []) :
    (n.responding s).sessions.sessions ≠ [] := by
  unfold responding
  dsimp only
  split
  · dsimp only
    split
    next copied sessions hcopy =>
      rw [SessionStack.sessions_scheduleCopy hcopy]
      exact Schedule.place_ne_nil copied _
    · exact h
  · exact h

/-- What the applet of a dialog that is due makes of the dialog and of the node. -/
def runApplet (env : Environment W) (custom : CustomApplets W) (t : Session) (n : Node W) :
    Session × Node W :=
  (t.applet.getD .idle).run env custom { t with applet := none, netState.fresh := false }
    { n with access := { n.access with
        txChannels := .empty, params := n.config.contention.params } }

theorem activate_eq (env : Environment W) (custom : CustomApplets W) {n : Node W} {t : Session}
    (htop : n.sessions.top? = some t) (hdue : t.counter = 0) :
    n.activate env custom =
      if (n.runApplet env custom t).1.netState.scrapped then
        (n.runApplet env custom t).2.endSession env
      else
        ((n.runApplet env custom t).2.storeTop (n.runApplet env custom t).1).engage env
          (n.runApplet env custom t).1 := by
  unfold activate
  rw [htop]
  dsimp only
  rw [if_pos (by simp [hdue])]
  rfl

end Node

/-! ## Operations with their retries -/

/-- A node with the retries made to get there, in their order. -/
structure Tallied (W : Type) where
  retries : List Retry
  node : Node W

namespace Tallied

/-- A node that is reached without a retry. -/
def plain (n : Node W) : Tallied W :=
  ⟨[], n⟩

@[simp] theorem retries_plain (n : Node W) : (plain n).retries = [] := rfl

@[simp] theorem node_plain (n : Node W) : (plain n).node = n := rfl

/-- Go on from the node. -/
def andThen (t next : Tallied W) : Tallied W :=
  ⟨t.retries ++ next.retries, next.node⟩

theorem retries_andThen (t next : Tallied W) :
    (t.andThen next).retries = t.retries ++ next.retries := rfl

theorem node_andThen (t next : Tallied W) : (t.andThen next).node = next.node := rfl

variable (env : Environment W) (custom : CustomApplets W)

/-- After a failed transmission. -/
def retry (n : Node W) : Tallied W :=
  match n.access.spendRetry with
  | some access => ⟨[.transmission], { n with access }.pause access.guardTime⟩
  | none => plain (n.endSession env)

/-- Put the frame on a channel. -/
def send (channel : UInt8) (n : Node W) : Tallied W :=
  match env.radio.transmit channel n.network.outbound.written n.world with
  | (.ok (), world) => plain { n with world, phase := .sending }
  | (.error _, world) => retry env { n with world }

/-- After a busy channel: the next pause of the sequence, or the first of another. -/
def yieldChannel (n : Node W) : Tallied W :=
  let next := n.access.nextPause env.random n.world
  match next.1.1 with
  | some length =>
      plain ({ n with access := next.1.2.nextTxChannel, world := next.2 }.pause length)
  | none =>
      match next.1.2.spendRetry with
      | some spent =>
          let begun := spent.beginSequence env.random spent.frameTime next.2
          ⟨[.contention], { n with access := begun.1.2, world := begun.2 }.pause begun.1.1⟩
      | none => plain ({ n with access := next.1.2, world := next.2 }.endSession env)

/-- One attempt to get the frame onto the channel. -/
def attempt (n : Node W) : Tallied W :=
  match n.access.txChannel? with
  | none => plain (n.endSession env)
  | some channel =>
      if n.access.algorithm = .uncontended then send env channel n
      else
        match env.radio.assess channel n.world with
        | (.ok (), world) => plain { n with world, phase := .assessing }
        | (.error _, world) => yieldChannel env { n with world }

/-- Attempts as long as one is due. -/
def settle (n : Node W) : Tallied W :=
  if n.isDue then
    let next := n.attempt env
    if _h : next.isDue then (attempt env n).andThen (settle next) else attempt env n
  else plain n
termination_by n.access.budget
decreasing_by exact n.budget_attempt env ‹_›

/-- The attempts that are due follow. -/
def settled (t : Tallied W) : Tallied W :=
  t.andThen (settle env t.node)

/-- Begin to contend for a channel with the staged frame. -/
def beginSending (s : Session) (n : Node W) : Tallied W :=
  if n.network.outbound.isEmpty then plain (n.endSession env) else settle env (n.begun env s)

/-- Start what the applet of the active dialog has decided. -/
def engage (s : Session) (n : Node W) : Tallied W :=
  match s.netState.substate with
  | .requestTx => beginSending env s n
  | .requestRx => plain (n.listen env s.channel n.listenWindow)
  | .responseTx | .responseRx => plain (n.endSession env)

/-- Activate the top dialog if it is due. -/
def activate (n : Node W) : Tallied W :=
  match n.sessions.top? with
  | none => plain n
  | some t =>
      if t.counter.isZero then
        match n.runApplet env custom t with
        | (s, k) =>
            if s.netState.scrapped then plain (k.endSession env) else engage env s (k.storeTop s)
      else plain n

/-- Go on with the active dialog after its frame was processed. To listen on after a
frame is no retry. -/
def proceed (s : Session) (n : Node W) : Tallied W :=
  match s.netState.substate with
  | .responseTx => beginSending env s ((n.storeTop s).responding s)
  | .requestTx | .requestRx | .responseRx => plain (n.proceed env s)

/-- A frame arrived in the active dialog. -/
def process (frame : List UInt8) (s : Session) (n : Node W) : Tallied W :=
  match FrameQueue.load frame with
  | .error _ => plain (n.endSession env)
  | .ok inbound =>
      let n := { n with network := { n.network with inbound } }
      match (n.exchange s).receive env n.config with
      | (score, x) =>
          let n := n.resume x.toLayers
          if score < 0 ∨ x.session.netState.scrapped = true then plain (n.endSession env)
          else proceed env x.session n

/-- Nothing usable arrived. -/
def relisten (s : Session) (n : Node W) : Tallied W :=
  match s.netState.substate, n.access.spendRetry with
  | .requestRx, some access =>
      ⟨[.listening], ({ n with access }.storeTop s).listen env s.channel n.listenWindow⟩
  | _, _ => plain (n.endSession env)

/-- The radio received a frame. -/
def onFrame (frame : List UInt8) (intact : Bool) (n : Node W) : Tallied W :=
  if n.phase = .listening then
    match n.sessions.top? with
    | none => plain { n with phase := .idle }
    | some s => if intact then process env frame s n else relisten env s n
  else plain n

/-- The radio's window closed without a frame. -/
def onTimeout (n : Node W) : Tallied W :=
  if n.phase = .listening then
    match n.sessions.top? with
    | none => plain { n with phase := .idle }
    | some s => relisten env (s.withConnected false) n
  else plain n

/-- The channel was assessed. -/
def onAssessed (clear : Bool) (n : Node W) : Tallied W :=
  if n.phase = .assessing then
    match n.access.txChannel? with
    | some channel =>
        if clear then (send env channel n).settled env else (yieldChannel env n).settled env
    | none => (yieldChannel env n).settled env
  else plain n

/-- After the request went out. Without a retry it is not sent again. -/
def afterRequest (s : Session) (n : Node W) : Tallied W :=
  match n.access.spendRetry with
  | some access => settled env ⟨[.repetition], { n with access }.pause access.guardTime⟩
  | none => plain (n.afterRequest env s)

/-- The transmission ended. -/
def onSent (success : Bool) (n : Node W) : Tallied W :=
  if n.phase = .sending then
    if success then
      match n.sessions.top? with
      | none => plain { n with phase := .idle }
      | some s =>
          match s.netState.substate with
          | .requestTx => afterRequest env s n
          | .requestRx | .responseTx | .responseRx => plain (n.endSession env)
    else (retry env n).settled env
  else plain n

/-- React to a report. -/
def onEvent (n : Node W) : RadioEvent → Tallied W
  | .received frame intact => onFrame env frame intact n
  | .timeout => onTimeout env n
  | .assessed clear => onAssessed env clear n
  | .sent success => onSent env success n

/-- Let `elapsed` ticks pass. -/
def run (elapsed : Ticks) (n : Node W) : Tallied W :=
  let n := { n with sessions := n.sessions.elapse elapsed }
  match n.phase with
  | .idle => activate env custom n
  | .pausing => settle env { n with countdown := n.countdown - elapsed }
  | .listening =>
      let n := { n with countdown := n.countdown - elapsed }
      if n.countdown.isZero then onTimeout env { n with world := (env.radio.idle n.world).2 }
      else plain n
  | .assessing | .sending => plain n

/-- The node after an input, and the retries made on it. -/
def step (n : Node W) (input : Input) : Tallied W :=
  match input with
  | .run elapsed => run env custom elapsed n
  | .event event => onEvent env n event
  | .schedule .. | .scheduleScan _ | .scheduleBeacon _ | .flush => plain (n.step env custom input)

/-! ## The operations themselves -/

variable {env custom}

@[simp] theorem node_retry (n : Node W) : (retry env n).node = n.retry env := by
  cases hspent : n.access.spendRetry <;> simp [retry, Node.retry, hspent]

@[simp] theorem node_send (channel : UInt8) (n : Node W) :
    (send env channel n).node = n.send env channel := by
  rcases hsent : env.radio.transmit channel n.network.outbound.written n.world with ⟨_ | _, world⟩
    <;> simp [send, Node.send, hsent]

@[simp] theorem node_yieldChannel (n : Node W) :
    (yieldChannel env n).node = n.yieldChannel env := by
  cases hnext : (n.access.nextPause env.random n.world).1.1 with
  | some length => simp [yieldChannel, Node.yieldChannel, ChannelAccess.afterBusy, hnext]
  | none =>
      cases hspent : (n.access.nextPause env.random n.world).1.2.spendRetry <;>
        simp [yieldChannel, Node.yieldChannel, ChannelAccess.afterBusy, hnext, hspent]

@[simp] theorem node_attempt (n : Node W) : (attempt env n).node = n.attempt env := by
  cases hchannel : n.access.txChannel? with
  | none => simp [attempt, Node.attempt, hchannel]
  | some channel =>
      by_cases halgorithm : n.access.algorithm = .uncontended
      · simp [attempt, Node.attempt, hchannel, halgorithm]
      · rcases hassessed : env.radio.assess channel n.world with ⟨_ | _, world⟩ <;>
          simp [attempt, Node.attempt, hchannel, halgorithm, hassessed]

theorem settle_of_attempts {n : Node W} (hdue : n.isDue = true)
    (hnext : (n.attempt env).isDue = true) :
    settle env n = (attempt env n).andThen (settle env (n.attempt env)) := by
  rw [settle, if_pos hdue]
  exact dif_pos hnext

theorem settle_of_attempt {n : Node W} (hdue : n.isDue = true)
    (hdone : (n.attempt env).isDue = false) : settle env n = attempt env n := by
  rw [settle, if_pos hdue]
  exact dif_neg (by simp [hdone])

theorem settle_of_not_due {n : Node W} (hdue : n.isDue = false) : settle env n = plain n := by
  rw [settle, if_neg (by simp [hdue])]

@[simp] theorem node_settle (n : Node W) : (settle env n).node = n.settle env := by
  induction n using Node.settle.induct env with
  | case1 n hdue next hnext ih =>
      rw [settle_of_attempts hdue hnext, node_andThen, Node.settle_of_attempts hdue hnext]
      exact ih
  | case2 n hdue next hnext =>
      have hdone : (n.attempt env).isDue = false := by simpa using hnext
      rw [settle_of_attempt hdue hdone, Node.settle_of_attempt hdue hdone, node_attempt]
  | case3 n hdue =>
      have hdone : n.isDue = false := by simpa using hdue
      rw [settle_of_not_due hdone, Node.settle_of_not_due hdone, node_plain]

@[simp] theorem node_settled (t : Tallied W) : (t.settled env).node = t.node.settle env := by
  rw [settled, node_andThen, node_settle]

@[simp] theorem node_beginSending (s : Session) (n : Node W) :
    (beginSending env s n).node = n.beginSending env s := by
  rw [Node.beginSending_eq, beginSending]
  split <;> simp

@[simp] theorem node_engage (s : Session) (n : Node W) :
    (engage env s n).node = n.engage env s := by
  cases hsubstate : s.netState.substate <;> simp [engage, Node.engage, hsubstate]

@[simp] theorem node_activate (n : Node W) :
    (activate env custom n).node = n.activate env custom := by
  cases htop : n.sessions.top? with
  | none => simp [activate, Node.activate, htop]
  | some t =>
      by_cases hdue : t.counter = 0
      · rw [Node.activate_eq env custom htop hdue]
        by_cases hscrapped : (n.runApplet env custom t).1.netState.scrapped = true <;>
          simp [activate, htop, hdue, hscrapped]
      · simp [activate, Node.activate, htop, hdue]

@[simp] theorem node_proceed (s : Session) (n : Node W) :
    (proceed env s n).node = n.proceed env s := by
  cases hsubstate : s.netState.substate with
  | responseTx => simp [proceed, Node.proceed, hsubstate, Node.beginResponding_eq]
  | requestTx | requestRx | responseRx => simp [proceed, hsubstate]

@[simp] theorem node_process (frame : List UInt8) (s : Session) (n : Node W) :
    (process env frame s n).node = n.process env frame s := by
  cases hload : FrameQueue.load frame with
  | error cause => simp [process, Node.process, hload]
  | ok inbound =>
      simp only [process, Node.process, hload]
      split <;> simp

@[simp] theorem node_relisten (s : Session) (n : Node W) :
    (relisten env s n).node = n.relisten env s := by
  cases hsubstate : s.netState.substate <;> cases hspent : n.access.spendRetry <;>
    simp [relisten, Node.relisten, hsubstate, hspent]

@[simp] theorem node_onFrame (frame : List UInt8) (intact : Bool) (n : Node W) :
    (onFrame env frame intact n).node = n.onFrame env frame intact := by
  by_cases hphase : n.phase = .listening
  · cases htop : n.sessions.top? with
    | none => simp [onFrame, Node.onFrame, hphase, htop]
    | some s => cases intact <;> simp [onFrame, Node.onFrame, hphase, htop]
  · simp [onFrame, Node.onFrame, hphase]

@[simp] theorem node_onTimeout (n : Node W) : (onTimeout env n).node = n.onTimeout env := by
  by_cases hphase : n.phase = .listening
  · cases htop : n.sessions.top? <;> simp [onTimeout, Node.onTimeout, hphase, htop]
  · simp [onTimeout, Node.onTimeout, hphase]

@[simp] theorem node_onAssessed (clear : Bool) (n : Node W) :
    (onAssessed env clear n).node = n.onAssessed env clear := by
  by_cases hphase : n.phase = .assessing
  · cases hchannel : n.access.txChannel? with
    | none => simp [onAssessed, Node.onAssessed, hphase, hchannel]
    | some channel => cases clear <;> simp [onAssessed, Node.onAssessed, hphase, hchannel]
  · simp [onAssessed, Node.onAssessed, hphase]

@[simp] theorem node_afterRequest (s : Session) (n : Node W) :
    (afterRequest env s n).node = n.afterRequest env s := by
  cases hspent : n.access.spendRetry with
  | some access => simp [afterRequest, Node.afterRequest, hspent]
  | none => simp [afterRequest, hspent]

@[simp] theorem node_onSent (success : Bool) (n : Node W) :
    (onSent env success n).node = n.onSent env success := by
  by_cases hphase : n.phase = .sending
  · cases success with
    | false => simp [onSent, Node.onSent, hphase]
    | true =>
        cases htop : n.sessions.top? with
        | none => simp [onSent, Node.onSent, hphase, htop]
        | some s =>
            cases hsubstate : s.netState.substate <;>
              simp [onSent, Node.onSent, hphase, htop, hsubstate]
  · simp [onSent, Node.onSent, hphase]

@[simp] theorem node_onEvent (n : Node W) (event : RadioEvent) :
    (onEvent env n event).node = n.onEvent env event := by
  cases event <;> simp [onEvent, Node.onEvent]

@[simp] theorem node_run (elapsed : Ticks) (n : Node W) :
    (run env custom elapsed n).node = n.run env custom elapsed := by
  cases hphase : n.phase with
  | listening =>
      by_cases hcountdown : (n.countdown - elapsed).isZero = true <;>
        simp [run, Node.run, hphase, hcountdown]
  | idle | pausing | assessing | sending => simp [run, Node.run, hphase]

/-- Without the notes, an input does to a node what it always does. -/
@[simp] theorem node_step (n : Node W) (input : Input) :
    (step env custom n input).node = n.step env custom input := by
  cases input <;> simp [step, Node.step]

end Tallied

end Mode2
