import Mode2.Exchange.Header
import Mode2.Exchange.Request

/-!
# Receiving frames

A frame whose header is accepted goes to the transport layer, to the datastream of
its dialog, or to the router. The score of a dropped frame is negative.
-/

namespace Mode2.Exchange

variable {W : Type}

/-- Keep a response that is awaited, and remember who sent it. -/
def acceptResponse (x : Exchange W) : Score × Exchange W :=
  if x.session.netState.substate = .responseRx then
    (0, { x with
      transport.acks := x.transport.acks.record x.network.peer
      transport.response := x.network.inbound.unread.take responseCapacity })
  else (.rejected, x)

/-- Append the rest of the frame to the datastream of its dialog. -/
def continueDatastream (x : Exchange W) : Score × Exchange W :=
  if x.session.netState.connected && x.session.netState.datastream then
    match x.transport.datastream.append? x.network.inbound.unread with
    | some datastream => (0, { x with transport.datastream := datastream })
    | none => (.rejected, x)
  else (.rejected, x)

/-- The command byte and its options. -/
def commandBytes : QueueM Command := do
  let code ← QueueM.readByte
  let options ←
    if Octet.hasAny code Command.optionsBit then QueueM.readByte else pure 0
  return { code, options }

/-- Process the data of a frame that is meant for this device. -/
def handleData (env : Environment W) (c : Config) : ExchangeM W Score Score := do
  ExchangeM.modifyTransport Transport.reset
  let command ← ExchangeM.inbound .rejected commandBytes
  ExchangeM.modifyTransport fun t => { t with command }
  match Command.kindOf? command.code with
  | some .response => fun x =>
      match acceptResponse x with
      | (score, x) => .ok score x
  | some (.request kind) => handleRequest env c kind
  | some .control | none => throw .rejected

/-- Process the data of a frame that is meant for this device, to its score. -/
def dispatch (env : Environment W) (c : Config) (x : Exchange W) : Score × Exchange W :=
  ExchangeM.score (handleData env c) x

/-- Hand a frame that is meant for another device to the router. -/
def forward (env : Environment W) (x : Exchange W) : Score × Exchange W :=
  match env.router with
  | none => (.rejected, x)
  | some judge =>
      let result := judge x.network.route x.network.inbound.unread x.world
      (result.1, { x with world := result.2 })

/-- Process the inbound frame. -/
def receive (env : Environment W) (c : Config) (x : Exchange W) : Score × Exchange W :=
  match (HeaderM.read env c).run x with
  | .error _ x => (.rejected, x)
  | .ok .local x => x.dispatch env c
  | .ok .datastream x => x.continueDatastream
  | .ok .forward x => x.forward env

/-- Read a call from the inbound frame and append its return to the outgoing one. -/
def answerCall (env : Environment W) (user : User) (isSeries : Bool) (x : Exchange W) :
    Score × Exchange W :=
  let steps : ExchangeM W Score Score := do
    let call ← ExchangeM.inbound .rejected (Call.parse isSeries)
    let outbound := (← get).network.outbound
    let (score, outbound) ← ExchangeM.perform (env.answer user call outbound)
    ExchangeM.modifyNetwork fun n => { n with outbound }
    return score
  ExchangeM.score steps x

end Mode2.Exchange
