import Mode2.Octet

/-!
# Frame info

The byte of a header that says what else the header holds, and the bits of the
extension byte that may follow it.
-/

namespace Mode2

/-- Whom a frame addresses. -/
inductive Addressing
  | unicast
  | broadcast
  | anycast
  | multicast
deriving DecidableEq, Repr

/-- The bits of an addressing mode within the frame info. -/
def Addressing.toBits : Addressing → UInt8
  | .unicast => 0x00
  | .broadcast => 0x02
  | .anycast => 0x04
  | .multicast => 0x06

/-- The addressing mode within a frame info byte. -/
def Addressing.ofBits (byte : UInt8) : Addressing :=
  if byte &&& 0x06 = 0x00 then .unicast
  else if byte &&& 0x06 = 0x02 then .broadcast
  else if byte &&& 0x06 = 0x04 then .anycast
  else .multicast

/-- What a header announces. -/
structure FrameInfo where
  listen : Bool := false
  linkSecurity : Bool := false
  networkSecurity : Bool := false
  /-- Devices are named by virtual IDs. -/
  virtualIds : Bool := false
  /-- An extension byte follows. -/
  extended : Bool := false
  addressing : Addressing := .unicast
  /-- The frame continues a datastream; nothing follows its dialog ID but data. -/
  datastream : Bool := false
deriving DecidableEq, Repr

namespace FrameInfo

/-- The byte of a frame info. -/
def toByte (i : FrameInfo) : UInt8 :=
  Octet.maskIf i.listen 0x80 ||| Octet.maskIf i.linkSecurity 0x40 |||
    Octet.maskIf i.networkSecurity 0x20 ||| Octet.maskIf i.virtualIds 0x10 |||
    Octet.maskIf i.extended 0x08 ||| i.addressing.toBits ||| Octet.maskIf i.datastream 0x01

/-- The frame info with a byte. -/
def ofByte (byte : UInt8) : FrameInfo where
  listen := Octet.hasAny byte 0x80
  linkSecurity := Octet.hasAny byte 0x40
  networkSecurity := Octet.hasAny byte 0x20
  virtualIds := Octet.hasAny byte 0x10
  extended := Octet.hasAny byte 0x08
  addressing := .ofBits byte
  datastream := Octet.hasAny byte 0x01

/-- The frame carries a secured region. -/
def isSecured (i : FrameInfo) : Bool :=
  i.linkSecurity || i.networkSecurity

end FrameInfo

namespace Extension

/-- Extension bit: a routing block follows. -/
def routeBit : UInt8 := 0x80

/-- Extension bit: block coding is active. -/
def blockCodingBit : UInt8 := 0x40

/-- Extension bit: the response reports a failure. -/
def nackBit : UInt8 := 0x20

end Extension

/-- What is remembered of the last header received. -/
structure Header where
  subnet : UInt8 := 0
  info : FrameInfo := {}
  /-- The extension byte, or zero. -/
  extension : UInt8 := 0
  dialogId : UInt8 := 0
  /-- The key of a secured frame. -/
  keyIndex : Option UInt8 := none
deriving DecidableEq, Repr

/-- The frame was secured. -/
def Header.isSecured (h : Header) : Bool :=
  h.keyIndex.isSome

end Mode2
