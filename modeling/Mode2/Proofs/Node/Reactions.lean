import Mode2.Proofs.Node.Retries

/-!
# What an input comes down to

Whatever happens to a node, there are few ways in which it goes on: the node waits, the
active dialog ends, the radio is to listen, or the node contends for a channel. Here the
operations of a node stop short of that, with what is left to do; done, it is the
operation itself.
-/

namespace Mode2

variable {W : Type}

/-- The parts of contention. Each may lead to another one at once. -/
inductive Move
  /-- Pause before an attempt. -/
  | pause (length : Clocks)
  /-- Make an attempt. -/
  | attempt
  /-- Put the frame on a channel. -/
  | send (channel : UInt8)
  /-- Go on after a busy channel. -/
  | yieldChannel
  /-- Go on after a failed transmission. -/
  | retry
deriving DecidableEq, Repr

/-- The node after a part of contention; an attempt may be due. -/
def Node.perform (env : Environment W) (n : Node W) : Move → Node W
  | .pause length => n.pause length
  | .attempt => n.attempt env
  | .send channel => n.send env channel
  | .yieldChannel => n.yieldChannel env
  | .retry => n.retry env

/-- What is left to do, and the node that is to do it. -/
inductive Reaction (W : Type)
  /-- Nothing. -/
  | rests (n : Node W)
  /-- To end the active dialog. -/
  | ends (n : Node W)
  /-- To listen on a channel for a time. -/
  | listens (channel : UInt8) (timeout : Ticks) (n : Node W)
  /-- To contend for a channel, beginning with this part. -/
  | contends (move : Move) (n : Node W)

namespace Reaction

/-- The node before that is done. -/
def node : Reaction W → Node W
  | rests n | ends n | listens _ _ n | contends _ n => n

/-- The node after that has been done. -/
def complete (env : Environment W) : Reaction W → Node W
  | rests n => n
  | ends n => n.endSession env
  | listens channel timeout n => n.listen env channel timeout
  | contends move n => (n.perform env move).settle env

@[simp] theorem complete_rests (env : Environment W) (n : Node W) :
    (rests n).complete env = n := rfl

@[simp] theorem complete_ends (env : Environment W) (n : Node W) :
    (ends n).complete env = n.endSession env := rfl

@[simp] theorem complete_listens (env : Environment W) (channel : UInt8) (timeout : Ticks)
    (n : Node W) : (listens channel timeout n).complete env = n.listen env channel timeout := rfl

@[simp] theorem complete_contends (env : Environment W) (move : Move) (n : Node W) :
    (contends move n).complete env = (n.perform env move).settle env := rfl

variable (env : Environment W) (custom : CustomApplets W)

/-- Begin to contend for a channel with the staged frame. -/
def beginSending (s : Session) (n : Node W) : Reaction W :=
  if n.network.outbound.isEmpty then ends n
  else
    let access :=
      if n.access.txChannels.channels = [] then n.access.setTxChannel s.channel else n.access
    let frameTime :=
      airTime n.network.outbound.length (access.txChannel?.getD s.channel)
    let begun := access.beginSequence env.random frameTime n.world
    contends (.pause begun.1.1) { n with access := begun.1.2, world := begun.2 }

/-- Start what the applet of the active dialog has decided. -/
def engage (s : Session) (n : Node W) : Reaction W :=
  match s.netState.substate with
  | .requestTx => beginSending env s n
  | .requestRx => listens s.channel n.listenWindow n
  | .responseTx | .responseRx => ends n

/-- Activate the top dialog if it is due. -/
def activate (n : Node W) : Reaction W :=
  match n.sessions.top? with
  | none => rests n
  | some t =>
      if t.counter.isZero then
        match n.runApplet env custom t with
        | (s, k) => if s.netState.scrapped then ends k else engage env s (k.storeTop s)
      else rests n

/-- Go on with the active dialog after its frame was processed. -/
def proceed (s : Session) (n : Node W) : Reaction W :=
  match s.netState.substate with
  | .responseTx => beginSending env s ((n.storeTop s).responding s)
  | .responseRx =>
      let remaining := n.countdown - watchdogSlack
      if !s.netState.listening || remaining.isZero then ends n
      else listens s.channel remaining (n.storeTop { s with dialogId := s.dialogId - 1 })
  | .requestRx =>
      if s.netState.datastream then listens s.channel n.listenWindow (n.storeTop s) else ends n
  | .requestTx => ends n

/-- A frame arrived in the active dialog. -/
def process (frame : List UInt8) (s : Session) (n : Node W) : Reaction W :=
  match FrameQueue.load frame with
  | .error _ => ends n
  | .ok inbound =>
      let n := { n with network := { n.network with inbound } }
      match (n.exchange s).receive env n.config with
      | (score, x) =>
          let n := n.resume x.toLayers
          if score < 0 ∨ x.session.netState.scrapped = true then ends n
          else proceed env x.session n

/-- Nothing usable arrived. -/
def relisten (s : Session) (n : Node W) : Reaction W :=
  match s.netState.substate, n.access.spendRetry with
  | .requestRx, some access => listens s.channel n.listenWindow ({ n with access }.storeTop s)
  | _, _ => ends n

/-- The radio received a frame. -/
def onFrame (frame : List UInt8) (intact : Bool) (n : Node W) : Reaction W :=
  if n.phase = .listening then
    match n.sessions.top? with
    | none => rests { n with phase := .idle }
    | some s => if intact then process env frame s n else relisten s n
  else rests n

/-- The radio's window closed without a frame. -/
def onTimeout (n : Node W) : Reaction W :=
  if n.phase = .listening then
    match n.sessions.top? with
    | none => rests { n with phase := .idle }
    | some s => relisten (s.withConnected false) n
  else rests n

/-- The channel was assessed. -/
def onAssessed (clear : Bool) (n : Node W) : Reaction W :=
  if n.phase = .assessing then
    match n.access.txChannel? with
    | some channel => if clear then contends (.send channel) n else contends .yieldChannel n
    | none => contends .yieldChannel n
  else rests n

/-- After the request went out. -/
def afterRequest (s : Session) (n : Node W) : Reaction W :=
  match n.access.spendRetry with
  | some access => contends (.pause access.guardTime) { n with access }
  | none =>
      if n.access.rxTimeout.isZero || s.netState.scrapped then ends n
      else
        let s := s.withSubstate .responseRx
        let s :=
          if ContentionParams.isArbitrated n.access.params then
            { s with netState.listening := true }
          else s
        listens s.channel n.access.rxTimeout (n.storeTop s)

/-- The transmission ended. -/
def onSent (success : Bool) (n : Node W) : Reaction W :=
  if n.phase = .sending then
    if success then
      match n.sessions.top? with
      | none => rests { n with phase := .idle }
      | some s =>
          match s.netState.substate with
          | .requestTx => afterRequest s n
          | .requestRx | .responseTx | .responseRx => ends n
    else contends .retry n
  else rests n

/-- React to a report. -/
def onEvent (n : Node W) : RadioEvent → Reaction W
  | .received frame intact => onFrame env frame intact n
  | .timeout => onTimeout n
  | .assessed clear => onAssessed clear n
  | .sent success => onSent success n

/-- Let `elapsed` ticks pass. -/
def run (elapsed : Ticks) (n : Node W) : Reaction W :=
  let n := { n with sessions := n.sessions.elapse elapsed }
  match n.phase with
  | .idle => activate env custom n
  | .pausing =>
      let n := { n with countdown := n.countdown - elapsed }
      if n.countdown.isZero then contends .attempt n else rests n
  | .listening =>
      let n := { n with countdown := n.countdown - elapsed }
      if n.countdown.isZero then onTimeout { n with world := (env.radio.idle n.world).2 }
      else rests n
  | .assessing | .sending => rests n

/-- What an input comes down to. -/
def step (n : Node W) (input : Input) : Reaction W :=
  match input with
  | .run elapsed => run env custom elapsed n
  | .event event => onEvent env n event
  | .schedule .. | .scheduleScan _ | .scheduleBeacon _ | .flush => rests (n.step env custom input)

/-! ## The operations themselves -/

variable {env custom}

@[simp] theorem complete_beginSending (s : Session) (n : Node W) :
    (beginSending env s n).complete env = n.beginSending env s := by
  rw [Node.beginSending_eq, beginSending]
  split <;> rfl

@[simp] theorem complete_engage (s : Session) (n : Node W) :
    (engage env s n).complete env = n.engage env s := by
  cases hsubstate : s.netState.substate <;> simp [engage, Node.engage, hsubstate]

@[simp] theorem complete_activate (n : Node W) :
    (activate env custom n).complete env = n.activate env custom := by
  cases htop : n.sessions.top? with
  | none => simp [activate, Node.activate, htop]
  | some t =>
      by_cases hdue : t.counter = 0
      · rw [Node.activate_eq env custom htop hdue]
        by_cases hscrapped : (n.runApplet env custom t).1.netState.scrapped = true
        · simp [activate, htop, hdue, hscrapped]
        · simp [activate, htop, hdue, hscrapped]
      · simp [activate, Node.activate, htop, hdue]

@[simp] theorem complete_proceed (s : Session) (n : Node W) :
    (proceed env s n).complete env = n.proceed env s := by
  cases hsubstate : s.netState.substate with
  | requestTx => simp [proceed, Node.proceed, hsubstate]
  | requestRx =>
      cases hstream : s.netState.datastream <;>
        simp [proceed, Node.proceed, hsubstate, hstream, Node.listenWindow]
  | responseTx => simp [proceed, Node.proceed, hsubstate, Node.beginResponding_eq]
  | responseRx =>
      simp only [proceed, Node.proceed, hsubstate]
      split <;> rfl

@[simp] theorem complete_process (frame : List UInt8) (s : Session) (n : Node W) :
    (process env frame s n).complete env = n.process env frame s := by
  cases hload : FrameQueue.load frame with
  | error cause => simp [process, Node.process, hload]
  | ok inbound =>
      simp only [process, Node.process, hload]
      split
      · rfl
      · simp

@[simp] theorem complete_relisten (s : Session) (n : Node W) :
    (relisten s n).complete env = n.relisten env s := by
  cases hsubstate : s.netState.substate <;> cases hspent : n.access.spendRetry <;>
    simp [relisten, Node.relisten, hsubstate, hspent]

@[simp] theorem complete_onFrame (frame : List UInt8) (intact : Bool) (n : Node W) :
    (onFrame env frame intact n).complete env = n.onFrame env frame intact := by
  by_cases hphase : n.phase = .listening
  · cases htop : n.sessions.top? with
    | none => simp [onFrame, Node.onFrame, hphase, htop]
    | some s => cases intact <;> simp [onFrame, Node.onFrame, hphase, htop]
  · simp [onFrame, Node.onFrame, hphase]

@[simp] theorem complete_onTimeout (n : Node W) :
    (onTimeout n).complete env = n.onTimeout env := by
  by_cases hphase : n.phase = .listening
  · cases htop : n.sessions.top? with
    | none => simp [onTimeout, Node.onTimeout, hphase, htop]
    | some s => simp [onTimeout, Node.onTimeout, hphase, htop]
  · simp [onTimeout, Node.onTimeout, hphase]

@[simp] theorem complete_onAssessed (clear : Bool) (n : Node W) :
    (onAssessed clear n).complete env = n.onAssessed env clear := by
  by_cases hphase : n.phase = .assessing
  · cases hchannel : n.access.txChannel? with
    | none => simp [onAssessed, Node.onAssessed, hphase, hchannel, Node.perform]
    | some channel =>
        cases clear <;>
          simp [onAssessed, Node.onAssessed, hphase, hchannel, Node.perform]
  · simp [onAssessed, Node.onAssessed, hphase]

@[simp] theorem complete_afterRequest (s : Session) (n : Node W) :
    (afterRequest s n).complete env = n.afterRequest env s := by
  cases hspent : n.access.spendRetry with
  | some access => simp [afterRequest, Node.afterRequest, hspent, Node.perform]
  | none =>
      simp only [afterRequest, Node.afterRequest, hspent]
      split <;> rfl

@[simp] theorem complete_onSent (success : Bool) (n : Node W) :
    (onSent success n).complete env = n.onSent env success := by
  by_cases hphase : n.phase = .sending
  · cases success with
    | false => simp [onSent, Node.onSent, hphase, Node.perform]
    | true =>
        cases htop : n.sessions.top? with
        | none => simp [onSent, Node.onSent, hphase, htop]
        | some s =>
            cases hsubstate : s.netState.substate <;>
              simp [onSent, Node.onSent, hphase, htop, hsubstate]
  · simp [onSent, Node.onSent, hphase]

@[simp] theorem complete_onEvent (n : Node W) (event : RadioEvent) :
    (onEvent env n event).complete env = n.onEvent env event := by
  cases event <;> simp [onEvent, Node.onEvent]

end Reaction

/-- Attempts in a row begin with one of them. -/
theorem Node.settle_of_due {env : Environment W} {n : Node W} (hdue : n.isDue = true) :
    n.settle env = (n.attempt env).settle env := by
  cases hnext : (n.attempt env).isDue with
  | true => exact settle_of_attempts hdue hnext
  | false => rw [settle_of_attempt hdue hnext, settle_of_not_due hnext]

namespace Reaction

variable {env : Environment W} {custom : CustomApplets W}

@[simp] theorem complete_run (elapsed : Ticks) (n : Node W) :
    (run env custom elapsed n).complete env = n.run env custom elapsed := by
  cases hphase : n.phase with
  | idle => simp [run, Node.run, hphase]
  | pausing =>
      simp only [run, Node.run, hphase]
      split
      next hzero => exact (Node.settle_of_due (by simpa [Node.isDue] using hzero)).symm
      next hleft =>
        have hwaits : (n.countdown - elapsed).isZero = false := Bool.eq_false_iff.mpr hleft
        rw [complete_rests, Node.settle_of_not_due (by simp [Node.isDue, hwaits])]
  | listening =>
      simp only [run, Node.run, hphase]
      split
      · simp
      · rfl
  | assessing | sending => simp [run, Node.run, hphase]

/-- What is left to do of an input, done, is the input. -/
@[simp] theorem complete_step (n : Node W) (input : Input) :
    (step env custom n input).complete env = n.step env custom input := by
  cases input <;> simp [step, Node.step]

end Reaction

end Mode2
