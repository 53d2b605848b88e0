import Mode2.Exchange.Receive
import Mode2.Session.Stack

/-!
# Nodes

A node works on one dialog at a time, the top of its scheduled dialogs. Its phase
says what it is waiting for: time to pass, or the radio to report.
-/

namespace Mode2

/-- What a node is waiting for. -/
inductive Phase
  /-- No dialog is active. -/
  | idle
  /-- A pause before the next transmission attempt. -/
  | pausing
  /-- Whether the channel is clear. -/
  | assessing
  /-- The end of a transmission. -/
  | sending
  /-- A frame, or the end of the window for it. -/
  | listening
deriving DecidableEq, Repr

/-- A node with the world around it. -/
structure Node (W : Type) extends Layers W where
  config : Config
  sessions : SessionStack
  phase : Phase
  /-- Ticks until the pause ends or the watchdog closes the window. -/
  countdown : Ticks

/-- What the watchdog grants the radio beyond the window itself. -/
def watchdogSlack : Ticks := 16

namespace Node

variable {W : Type}

/-- A node that has just been started. -/
def start (config : Config) (world : W) : Node W where
  access := .initial config.contention.guardTime.toClocks
  network := {}
  transport := {}
  world := world
  config := config
  sessions := .empty
  phase := .idle
  countdown := 0

/-- The processing of a frame in a dialog of the node. -/
def exchange (n : Node W) (s : Session) : Exchange W :=
  { toLayers := n.toLayers, session := s }

/-- The node after the processing of a frame. -/
def resume (n : Node W) (layers : Layers W) : Node W :=
  { n with toLayers := layers }

/-- Schedule a new dialog. -/
def schedule (n : Node W) (applet : Option Applet) (wait : Ticks) (subnet channel : UInt8)
    (netState : NetState) : Except SessionError (Node W) :=
  (n.sessions.schedule applet wait subnet channel netState).map fun (_, sessions) =>
    { n with sessions }

/-- Schedule a background scan. -/
def scheduleScan (n : Node W) (wait : Ticks) : Except SessionError (Node W) :=
  n.schedule (some .scan) wait n.config.subnet n.config.scan.channel
    { substate := .requestRx, fresh := true }

/-- Schedule a beacon, which schedules the next one while beacons are enabled. -/
def scheduleBeacon (n : Node W) (wait : Ticks) : Except SessionError (Node W) :=
  n.schedule (some .beacon) wait n.config.beaconSubnet n.config.beacon.channel
    { substate := .requestTx, fresh := true }

/-- Write the active dialog back to the top. -/
def storeTop (n : Node W) (s : Session) : Node W :=
  { n with sessions := n.sessions.setTop s }

/-- Rest: the radio is idle and nothing is waited for. -/
def rest (env : Environment W) (n : Node W) : Node W :=
  { n with world := (env.radio.idle n.world).2, phase := .idle, countdown := 0 }

/-- End the active dialog. -/
def endSession (env : Environment W) (n : Node W) : Node W :=
  { n with sessions := n.sessions.pop }.rest env

/-- Drop every dialog. -/
def flush (env : Environment W) (n : Node W) : Node W :=
  { n with sessions := n.sessions.flush }.rest env

/-- Ticks until the node has to run next; `never` while only the radio can go on. -/
def nextWakeup (n : Node W) : Ticks :=
  match n.phase with
  | .idle =>
      match n.sessions.top? with
      | some s => s.counter
      | none => .never
  | .pausing | .listening => n.countdown
  | .assessing | .sending => .never

/-- How long a listening dialog listens: as its applet asked, else as scans do. -/
def listenWindow (n : Node W) : Ticks :=
  if n.access.rxTimeout.isZero then n.config.scan.timeout else n.access.rxTimeout

/-- Listen, with a watchdog over the radio's own timeout. -/
def listen (env : Environment W) (channel : UInt8) (timeout : Ticks) (n : Node W) : Node W :=
  match env.radio.listen channel timeout n.world with
  | (.ok (), world) =>
      { n with world, phase := .listening, countdown := timeout + watchdogSlack }
  | (.error _, world) => { n with world }.endSession env

end Node

end Mode2
