import Mode2.Node.Contend

/-!
# Radio events

What the radio reports moves the active dialog on. A report that the node is not
waiting for is passed over.
-/

namespace Mode2.Node

variable {W : Type}

/-- Send the response that has been staged. It contends within its window, but no
longer than until the next dialog is due. A dialog that keeps listening continues
after that window, when there is a slot for it. -/
def beginResponding (env : Environment W) (s : Session) (n : Node W) : Node W :=
  let follower := n.sessions.followerWait
  let window :=
    if follower ≠ .never ∧ follower.toClocks < n.access.window then follower.toClocks
    else n.access.window
  let n := { n with access := { n.access with window, retries := 0 } }
  let n :=
    if s.flags.listen then
      let netState : NetState :=
        { substate := .requestRx, connected := s.netState.connected,
          datastream := s.netState.datastream }
      let sessions :=
        match n.sessions.scheduleCopy s window.toTicks netState with
        | .ok (_, sessions) => sessions
        | .error _ => n.sessions
      { n with sessions, access := { n.access with rxTimeout := n.config.scan.timeout } }
    else n
  n.beginSending env s

/-- Go on with the active dialog after its frame was processed. -/
def proceed (env : Environment W) (s : Session) (n : Node W) : Node W :=
  match s.netState.substate with
  | .responseTx => (n.storeTop s).beginResponding env s
  | .responseRx =>
      let remaining := n.countdown - watchdogSlack
      if !s.netState.listening || remaining.isZero then n.endSession env
      else
        -- Every responder answers the same request, hence with the same dialog ID.
        let s := { s with dialogId := s.dialogId - 1 }
        (n.storeTop s).listen env s.channel remaining
  | .requestRx =>
      if s.netState.datastream then (n.storeTop s).listen env s.channel n.listenWindow
      else n.endSession env
  | .requestTx => n.endSession env

/-- A frame arrived in the active dialog. -/
def process (env : Environment W) (frame : List UInt8) (s : Session) (n : Node W) : Node W :=
  match FrameQueue.load frame with
  | .error _ => n.endSession env
  | .ok inbound =>
      let n := { n with network := { n.network with inbound } }
      match (n.exchange s).receive env n.config with
      | (score, x) =>
          let n := n.resume x.toLayers
          if score < 0 ∨ x.session.netState.scrapped = true then n.endSession env
          else n.proceed env x.session

/-- Nothing usable arrived: a dialog that waits for requests listens again for one
retry, any other ends. -/
def relisten (env : Environment W) (s : Session) (n : Node W) : Node W :=
  match s.netState.substate, n.access.spendRetry with
  | .requestRx, some access =>
      ({ n with access }.storeTop s).listen env s.channel n.listenWindow
  | _, _ => n.endSession env

/-- The radio received a frame, from its length byte to its checksum. -/
def onFrame (env : Environment W) (frame : List UInt8) (intact : Bool) (n : Node W) : Node W :=
  if n.phase = .listening then
    match n.sessions.top? with
    | none => { n with phase := .idle }
    | some s =>
        if intact then n.process env frame s else n.relisten env s
  else n

/-- The radio's window closed without a frame. Whoever listens again listens to
anybody. -/
def onTimeout (env : Environment W) (n : Node W) : Node W :=
  if n.phase = .listening then
    match n.sessions.top? with
    | none => { n with phase := .idle }
    | some s => n.relisten env (s.withConnected false)
  else n

/-- The channel was assessed. -/
def onAssessed (env : Environment W) (clear : Bool) (n : Node W) : Node W :=
  if n.phase = .assessing then
    match n.access.txChannel? with
    | some channel =>
        if clear then (n.send env channel).settle env else (n.yieldChannel env).settle env
    | none => (n.yieldChannel env).settle env
  else n

/-- After the request went out: send it again for one retry, wait for responses, or
end. -/
def afterRequest (env : Environment W) (s : Session) (n : Node W) : Node W :=
  match n.access.spendRetry with
  | some access => ({ n with access }.pause access.guardTime).settle env
  | none =>
      if n.access.rxTimeout.isZero || s.netState.scrapped then n.endSession env
      else
        let s := s.withSubstate .responseRx
        let s :=
          if ContentionParams.isArbitrated n.access.params then
            { s with netState.listening := true }
          else s
        (n.storeTop s).listen env s.channel n.access.rxTimeout

/-- The transmission ended. -/
def onSent (env : Environment W) (success : Bool) (n : Node W) : Node W :=
  if n.phase = .sending then
    if success then
      match n.sessions.top? with
      | none => { n with phase := .idle }
      | some s =>
          match s.netState.substate with
          | .requestTx => n.afterRequest env s
          | .requestRx | .responseTx | .responseRx => n.endSession env
    else (n.retry env).settle env
  else n

end Mode2.Node
