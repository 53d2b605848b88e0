import Mode2.ChannelAccess.Basic
import Mode2.Network.Stage
import Mode2.Transport.Basic

/-!
# Exchanges

What one inbound frame may touch: the dialog in which it arrives, the layers of
the node, and the world. Processing runs in steps that may end early; whatever the
steps before the end have changed remains changed.
-/

namespace Mode2

/-- The layers of a node and the world around it. -/
structure Layers (W : Type) where
  access : ChannelAccess
  network : NetworkLayer
  transport : Transport
  world : W

/-- The layers with the dialog being processed. -/
structure Exchange (W : Type) extends Layers W where
  session : Session

/-- Steps of processing a frame, which may end early with an `ε`. -/
abbrev ExchangeM (W ε : Type) := EStateM ε (Exchange W)

namespace ExchangeM

variable {W ε α : Type}

/-- Read from the inbound frame; what is not there ends the processing. -/
def inbound (ending : ε) (reader : QueueM α) : ExchangeM W ε α := fun x =>
  match reader.run x.network.inbound with
  | .ok value queue => .ok value { x with network.inbound := queue }
  | .error _ queue => .error ending { x with network.inbound := queue }

/-- Change the dialog. -/
def modifySession (change : Session → Session) : ExchangeM W ε Unit :=
  modify fun x => { x with session := change x.session }

/-- Change the network layer. -/
def modifyNetwork (change : NetworkLayer → NetworkLayer) : ExchangeM W ε Unit :=
  modify fun x => { x with network := change x.network }

/-- Change the transport layer. -/
def modifyTransport (change : Transport → Transport) : ExchangeM W ε Unit :=
  modify fun x => { x with transport := change x.transport }

/-- Change the access to channels. -/
def modifyAccess (change : ChannelAccess → ChannelAccess) : ExchangeM W ε Unit :=
  modify fun x => { x with access := change x.access }

/-- Let the world act. -/
def perform (operation : StateM W α) : ExchangeM W ε α := fun x =>
  let result := operation x.world
  .ok result.1 { x with world := result.2 }

end ExchangeM

/-- The score of steps whose early end is a score too. -/
def ExchangeM.score {W : Type} (steps : ExchangeM W Score Score) (x : Exchange W) :
    Score × Exchange W :=
  match steps.run x with
  | .ok score x | .error score x => (score, x)

end Mode2
