import Mode2.FrameQueue.Script

/-!
# Query targets

The data that a query or a call is about: one file or an ordered series of files,
read as one stretch of bytes from an offset on.
-/

namespace Mode2

/-- The most files in a series. -/
def maxSeries : Nat := 8

/-- Files and an offset into their joined bytes. -/
structure Target where
  isSeries : Bool := false
  ids : List UInt8 := []
  offset : UInt16 := 0
deriving DecidableEq, Repr

namespace Target

/-- One file. -/
def ofFile (id offset : UInt8) : Target :=
  { isSeries := false, ids := [id], offset := offset.toUInt16 }

/-- The files that take part: of a target that is no series, the first only. -/
def participating (isSeries : Bool) (ids : List UInt8) : List UInt8 :=
  if isSeries then ids else ids.take 1

/-- The files that take part in the target. -/
def files (t : Target) : List UInt8 :=
  participating t.isSeries t.ids

/-- The bytes of a target: a file with a one-byte offset, or a counted series with
a two-byte offset. -/
def encode (t : Target) : List UInt8 :=
  if t.isSeries then UInt8.ofNat t.ids.length :: t.ids ++ Octet.ofShort t.offset
  else t.ids ++ [t.offset.toUInt8]

/-- Read a target. -/
def parse (isSeries : Bool) : QueueM Target := do
  if isSeries then
    let count ← QueueM.readByte
    if maxSeries < count.toNat then
      throw .capacity
    let ids ← QueueM.read count.toNat
    let offset ← QueueM.readShort
    return { isSeries := true, ids, offset }
  else
    let id ← QueueM.readByte
    let offset ← QueueM.readByte
    return .ofFile id offset

end Target

end Mode2
