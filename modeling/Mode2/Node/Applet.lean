import Mode2.Node.Basic

/-!
# Applets

An applet runs once, when its dialog is activated. It decides in which direction
the dialog goes, sets up the access to channels, and stages the frame of a request.
-/

namespace Mode2

variable {W : Type}

/-- The applets that the host supplies, by their numbers. -/
abbrev CustomApplets (W : Type) := Nat → Session → Node W → Session × Node W

namespace Exchange

/-- Append to the outgoing frame; what does not fit ends the staging. -/
def appendOutbound (writer : QueueM Unit) : ExchangeM W Error Unit := fun x =>
  match writer.run x.network.outbound with
  | .ok () queue => .ok () { x with network.outbound := queue }
  | .error cause queue => .error (.queue cause) { x with network.outbound := queue }

/-- Begin a broadcast with its header. -/
def beginBroadcast (c : Config) : ExchangeM W Error Unit := fun x =>
  match x.network.stageHeader c x.session .broadcast false with
  | .error cause => .error (.frame cause) x
  | .ok (session, network) => .ok () { x with session, network }

/-- The options of a beacon: contend as configured, and want no response. -/
def beaconOptions (c : Config) : UInt8 :=
  Command.noResponseBit ||| (c.contention.params &&& Command.contentionBits)

/-- The request of a beacon: an announcement that wants no response and leaves no
window for one, with the call that its own data answers. -/
def beaconRequest (c : Config) : QueueM Unit := do
  writeRequest (Command.directCode ||| Command.announceFile) (some (beaconOptions c)) 0
  QueueM.append [c.beacon.maxBytes, c.beacon.file, 0]

/-- Append the announced file. -/
def appendAnnouncement (env : Environment W) (c : Config) : ExchangeM W Error Unit := fun x =>
  let call := Call.ofFile c.beacon.file c.beacon.maxBytes
  match env.answer .guest call x.network.outbound x.world with
  | ((score, outbound), world) =>
      let x := { x with network.outbound := outbound, world }
      if score = .fileError then .error (.file .notFound) x
      else if score < 0 then .error (.queue .full) x
      else .ok () x

/-- Complete the outgoing frame. -/
def completeFrame (env : Environment W) : ExchangeM W Error Unit := fun x =>
  match x.network.complete env.cipher x.world with
  | ((.error cause, network), world) => .error (.frame cause) { x with network, world }
  | ((.ok (), network), world) => .ok () { x with network, world }

/-- Stage a beacon. -/
def stageBeacon (env : Environment W) (c : Config) : ExchangeM W Error Unit := do
  beginBroadcast c
  appendOutbound (beaconRequest c)
  appendAnnouncement env c
  completeFrame env

end Exchange

namespace Applet

/-- A dialog that is to send and has nothing staged has nothing to do. -/
def runIdle (s : Session) (n : Node W) : Session × Node W :=
  if s.netState.substate = .requestTx ∧ n.network.outbound.isEmpty then (s.scrap, n) else (s, n)

/-- Listen for requests on the channel of the background scan. -/
def runScan (s : Session) (n : Node W) : Session × Node W :=
  let scan := n.config.scan
  ({ (s.withSubstate .requestRx).withConnected false with channel := scan.channel },
    { n with access := { n.access with
        rxTimeout := scan.timeout
        retries := scan.retries
        params := n.config.contention.params } })

/-- Schedule the next beacon, when there is a slot for it. -/
def scheduleNextBeacon (n : Node W) : Node W :=
  if n.config.beacon.enabled then
    match n.scheduleBeacon n.config.beacon.interval with
    | .ok n => n
    | .error _ => n
  else n

/-- The dialog of a beacon. -/
def beaconSession (c : Config) (s : Session) : Session :=
  { (s.withSubstate .requestTx).withConnected false with
    subnet := c.beaconSubnet
    channel := c.beacon.channel
    flags := { virtualIds := c.hasVirtualId } }

/-- The access to channels that a beacon asks for. -/
def beaconAccess (c : Config) (a : ChannelAccess) : ChannelAccess :=
  { a with
    retries := c.beacon.retries
    window := c.beacon.window.toClocks
    rxTimeout := 0
    params := c.contention.params }.setTxChannel c.beacon.channel

/-- Announce the beacon's file and see to the next beacon. A beacon that cannot be
staged leaves nothing behind. -/
def runBeacon (env : Environment W) (s : Session) (n : Node W) : Session × Node W :=
  let n := scheduleNextBeacon n
  match (Exchange.stageBeacon env n.config).run (n.exchange (beaconSession n.config s)) with
  | .ok () x =>
      (x.session, n.resume { x.toLayers with access := beaconAccess n.config x.access })
  | .error _ x =>
      (x.session.scrap, n.resume { x.toLayers with network.outbound := .empty })

/-- Run an applet on its dialog. -/
def run (env : Environment W) (custom : CustomApplets W) (applet : Applet) (s : Session)
    (n : Node W) : Session × Node W :=
  match applet with
  | .idle => runIdle s n
  | .scan => runScan s n
  | .beacon => runBeacon env s n
  | .custom id => custom id s n

end Applet

end Mode2
