import Mode2.Octet

/-!
# Contention parameters

One byte says how a request contends for its channel and whether the dialog is
arbitrated.
-/

namespace Mode2

/-- How the pause before a transmission attempt is chosen. -/
inductive Algorithm
  /-- A random pause in a window that halves each round. -/
  | rigd
  /-- A random first pause, then one frame after the other. -/
  | raind
  /-- No first pause, then one frame after the other. -/
  | aind
  /-- Transmit without listening first. -/
  | uncontended
deriving DecidableEq, Repr

namespace ContentionParams

/-- Bit of transmission without listening first. -/
def uncontendedBit : UInt8 := 0x08

/-- Bit of an arbitrated dialog. -/
def arbitratedBit : UInt8 := 0x04

/-- Bits that select among the other algorithms. -/
def algorithmBits : UInt8 := 0x30

/-- The bits that have a meaning. -/
def knownBits : UInt8 := algorithmBits ||| uncontendedBit ||| arbitratedBit

/-- The algorithm that the parameters select. The reserved selection behaves as
`rigd`. -/
def algorithm (params : UInt8) : Algorithm :=
  if Octet.hasAny params uncontendedBit then .uncontended
  else if params &&& algorithmBits = 0x10 then .raind
  else if params &&& algorithmBits = 0x20 then .aind
  else .rigd

/-- The dialog is arbitrated. -/
def isArbitrated (params : UInt8) : Bool :=
  Octet.hasAny params arbitratedBit

end ContentionParams

end Mode2
