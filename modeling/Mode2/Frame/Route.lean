import Mode2.Device.Id
import Mode2.Octet

/-!
# Routing blocks

A frame that travels over several hops says how many hops remain, and may name the
device it comes from and the device it is meant for.
-/

namespace Mode2

/-- The contents of a routing block. -/
structure Route where
  hopCode : UInt8 := 0
  /-- Present on the air when the hop code announces it. -/
  hopExtension : UInt8 := 0
  origin : Option DeviceId := none
  destination : Option DeviceId := none
deriving DecidableEq, Repr

namespace Route

/-- Hop-code bit: an extension byte follows. -/
def extensionBit : UInt8 := 0x80

/-- Hop-code bit: the origin is named. -/
def originBit : UInt8 := 0x40

/-- Hop-code bit: the destination is named. -/
def destinationBit : UInt8 := 0x20

/-- Hop-code bits that count the hops. -/
def countBits : UInt8 := 0x0F

/-- Hops that the frame may still travel. -/
def hopsRemaining (r : Route) : UInt8 :=
  r.hopCode &&& countBits

/-- The bytes of an ID that may be missing. -/
def idBytes : Option DeviceId → List UInt8
  | some id => id.bytes
  | none => []

/-- The hop code that announces exactly what the block holds. -/
def announcedCode (r : Route) : UInt8 :=
  r.hopCode &&& (extensionBit ||| countBits) ||| Octet.maskIf r.origin.isSome originBit |||
    Octet.maskIf r.destination.isSome destinationBit

/-- The bytes of a routing block. -/
def encode (r : Route) : List UInt8 :=
  r.announcedCode ::
    (if Octet.hasAny r.hopCode extensionBit then [r.hopExtension] else []) ++
      idBytes r.origin ++ idBytes r.destination

end Route

end Mode2
