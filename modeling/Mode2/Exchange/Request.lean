import Mode2.ChannelAccess.Backoff
import Mode2.Exchange.Response
import Mode2.Query.Compare
import Mode2.Time.WindowCode

/-!
# Requests

A request says how and within which window to answer. An arbitrated request is
acted on only by devices that it does not list as having answered and whose files
satisfy its queries. Then its operation is carried out and answered.
-/

namespace Mode2.Exchange

variable {W : Type}

/-- On whose behalf a frame acts: whoever secured it holds a key. -/
def user (x : Exchange W) : User :=
  if x.network.header.isSecured then .member else .guest

/-- The contention parameters of the response to a request. -/
def responseParams (command : Command) (kind : RequestKind) : UInt8 :=
  (command.options &&& Command.contentionBits) |||
    Octet.maskIf (kind != .direct) ContentionParams.arbitratedBit

/-- The channels that a request lists for its response. -/
def channelList : QueueM (List UInt8) := do
  let count ← QueueM.readByte
  QueueM.read count.toNat

/-- Read how to answer: the window, and the channels. Without a list, or with an
empty one, the response goes out on the channel of the dialog. -/
def readResponseWindow (kind : RequestKind) : ExchangeM W Score Unit := do
  let x ← get
  ExchangeM.modifyAccess fun a =>
    { a with params := responseParams x.transport.command kind, retries := 0, rxTimeout := 0 }
  let code ← ExchangeM.inbound .rejected QueueM.readByte
  ExchangeM.modifyAccess fun a => { a with window := (WindowCode.decode code).toClocks }
  if Octet.hasAny code channelListBit then
    let channels ← ExchangeM.inbound .rejected channelList
    if channels = [] then
      ExchangeM.modifyAccess (·.setTxChannel x.session.channel)
    else
      ExchangeM.modifyAccess fun a => { a with txChannels := .ofList channels }
  else
    ExchangeM.modifyAccess (·.setTxChannel x.session.channel)

/-- Stay quiet when the request lists this device as having answered. -/
def checkAcks (c : Config) : ExchangeM W Score Unit := do
  let virtualIds := (← get).session.flags.virtualIds
  if ← ExchangeM.inbound .rejected (AckList.scan c.isNamedBy virtualIds) then
    ExchangeM.modifySession fun s => { s with flags.listen := false }
    throw .rejected

/-- Read a query and its target. -/
def queryParts (isSeries : Bool) : QueueM (Template × Target) := do
  let template ← Template.parse
  let target ← Target.parse isSeries
  return (template, target)

/-- Read a query and run it; a negative score ends the processing. -/
def runQuery (env : Environment W) (user : User) (isSeries : Bool) : ExchangeM W Score Score := do
  let (template, target) ← ExchangeM.inbound .rejected (queryParts isSeries)
  ExchangeM.modifyTransport fun t => { t with template, target }
  let score ← ExchangeM.perform (env.query user template target)
  if score < 0 then throw score
  return score

/-- Everything that an arbitrated request has to pass. The score is that of its last
query, which all devices run; the first request of a dialog has a query before it
that is local to the dialog. -/
def runQueries (env : Environment W) (c : Config) (kind : RequestKind) (group : OperationGroup)
    (user : User) : ExchangeM W Score Score := do
  let isSeries := group == .seriesCollection
  match kind with
  | .direct => return 0
  | .initial =>
      let _ ← runQuery env user isSeries
      runQuery env user isSeries
  | .subsequent =>
      checkAcks c
      runQuery env user isSeries

/-- Answer the call in the frame. -/
def replyToCall (env : Environment W) (c : Config) (user : User) : ExchangeM W Score Unit := do
  let isSeries := (← get).transport.command.callsSeries
  let call ← ExchangeM.inbound .rejected (Call.parse isSeries)
  respond env c (.answer env user call)

/-- The ports of a datagram: destination and source. -/
def datagramPorts : QueueM (UInt8 × UInt8) := do
  let destination ← QueueM.readByte
  let source ← QueueM.readByte
  return (destination, source)

/-- Deliver the datagram in the frame; when nobody takes it, it is dropped. -/
def replyToDatagram (env : Environment W) (c : Config) : ExchangeM W Score Unit := do
  let (destination, source) ← ExchangeM.inbound .rejected datagramPorts
  let n := (← get).network
  match env.datagrams with
  | none => throw .rejected
  | some deliver =>
      if ← ExchangeM.perform (deliver n.peer source destination n.inbound.unread) then
        respond env c .none
      else throw .rejected

/-- Begin a datastream. -/
def openDatastream (env : Environment W) (c : Config) : ExchangeM W Score Unit := do
  ExchangeM.modifySession fun s => { s with netState.datastream := true, flags.listen := true }
  ExchangeM.modifyTransport fun t => { t with datastream := .empty }
  respond env c .none

/-- Carry out an operation and stage its response. -/
def carryOut (env : Environment W) (c : Config) (group : OperationGroup) (user : User) :
    ExchangeM W Score Unit :=
  match group with
  | .announcement | .fileCollection | .seriesCollection => replyToCall env c user
  | .datagram => replyToDatagram env c
  | .datastream => openDatastream env c
  | .reserved => throw .rejected

/-- Process a request whose command has been read. -/
def handleRequest (env : Environment W) (c : Config) (kind : RequestKind) :
    ExchangeM W Score Score := do
  let x ← get
  let group := x.transport.command.group
  if group = .reserved then
    throw .rejected
  readResponseWindow kind
  let score ← runQueries env c kind group x.user
  carryOut env c group x.user
  return score

end Mode2.Exchange
