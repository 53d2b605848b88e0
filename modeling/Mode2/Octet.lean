/-!
# Octets

Bit tests on the bytes of a frame, and the two-byte numbers that frames carry
most significant byte first.
-/

namespace Mode2.Octet

/-- Some bit of `mask` is set in `byte`. -/
def hasAny (byte mask : UInt8) : Bool :=
  byte &&& mask != 0

/-- Every bit of `mask` is set in `byte`. -/
def hasAll (byte mask : UInt8) : Bool :=
  byte &&& mask == mask

/-- The bits of `mask` when `set` holds, none otherwise. -/
def maskIf (set : Bool) (mask : UInt8) : UInt8 :=
  if set then mask else 0

/-- The two bytes of a number, most significant first. -/
def ofShort (value : UInt16) : List UInt8 :=
  [(value >>> 8).toUInt8, value.toUInt8]

/-- The number whose most significant byte is `high`. -/
def toShort (high low : UInt8) : UInt16 :=
  (high.toUInt16 <<< 8) ||| low.toUInt16

end Mode2.Octet
