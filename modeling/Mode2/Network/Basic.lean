import Mode2.Device.Id
import Mode2.Frame.Info
import Mode2.Frame.Length
import Mode2.Frame.Route
import Mode2.FrameQueue.Script

/-!
# The network layer

Two frames, one on its way out and one on its way in, and what the last frame
received said about its sender and its route.
-/

namespace Mode2

/-- The part of the outgoing frame that is to be encrypted. -/
structure SecuredRegion where
  keyIndex : UInt8
  /-- Position of its first byte. -/
  start : Nat
deriving DecidableEq, Repr

/-- The state of the network layer. -/
structure NetworkLayer where
  outbound : FrameQueue := .empty
  inbound : FrameQueue := .empty
  /-- Sender of the last frame received, to whom unicast frames go. -/
  peer : DeviceId := .none
  route : Route := {}
  header : Header := {}
  /-- Link-control byte of the outgoing frame. -/
  linkControl : UInt8 := 0
  secured : Option SecuredRegion := none
deriving DecidableEq, Repr

namespace NetworkLayer

/-- Free bytes for data once the footer has its room. -/
def payloadSpace (n : NetworkLayer) : Nat :=
  n.outbound.space - footerLength

end NetworkLayer

end Mode2
