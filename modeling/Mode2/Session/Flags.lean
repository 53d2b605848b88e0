import Mode2.Octet

/-!
# Dialog flags

The options of a dialog. Two bits of their byte have no meaning and are kept as
they are.
-/

namespace Mode2

/-- The options of a dialog. -/
structure DialogFlags where
  /-- Keep listening after the response. -/
  listen : Bool := false
  /-- Link-layer security. -/
  linkSecurity : Bool := false
  /-- Network-layer security. -/
  networkSecurity : Bool := false
  /-- Devices are named by virtual IDs. -/
  virtualIds : Bool := false
  /-- Frames carry a routing block. -/
  route : Bool := false
  /-- Block coding is active. -/
  blockCoding : Bool := false
  /-- The bits without a meaning. -/
  unassigned : Bool × Bool := (false, false)
deriving DecidableEq, Repr

namespace DialogFlags

/-- No option is set. -/
def none : DialogFlags := {}

/-- The byte of the options. -/
def toByte (f : DialogFlags) : UInt8 :=
  Octet.maskIf f.listen 0x80 ||| Octet.maskIf f.linkSecurity 0x40 |||
    Octet.maskIf f.networkSecurity 0x20 ||| Octet.maskIf f.virtualIds 0x10 |||
    Octet.maskIf f.unassigned.1 0x08 ||| Octet.maskIf f.unassigned.2 0x04 |||
    Octet.maskIf f.route 0x02 ||| Octet.maskIf f.blockCoding 0x01

/-- The options with a byte. -/
def ofByte (byte : UInt8) : DialogFlags where
  listen := Octet.hasAny byte 0x80
  linkSecurity := Octet.hasAny byte 0x40
  networkSecurity := Octet.hasAny byte 0x20
  virtualIds := Octet.hasAny byte 0x10
  unassigned := (Octet.hasAny byte 0x08, Octet.hasAny byte 0x04)
  route := Octet.hasAny byte 0x02
  blockCoding := Octet.hasAny byte 0x01

/-- Frames of the dialog are secured. -/
def isSecured (f : DialogFlags) : Bool :=
  f.linkSecurity || f.networkSecurity

/-- Both kinds of security are asked for, which no frame can carry. -/
def isConflicting (f : DialogFlags) : Bool :=
  f.linkSecurity && f.networkSecurity

end DialogFlags

end Mode2
