import Mode2.Query.Target
import Mode2.Query.Template
import Mode2.Transport.AckList
import Mode2.Transport.Command

/-!
# The transport layer

The command being processed with its query, and what outlives a frame: the devices
that answered, the datastream received so far, and the last response.
-/

namespace Mode2

/-- The bytes of a datastream that are kept. -/
def datastreamCapacity : Nat := 512

/-- The bytes of a response that are kept. -/
def responseCapacity : Nat := 128

/-- A datastream as received so far. -/
structure Datastream where
  bytes : List UInt8
  length_le : bytes.length ≤ datastreamCapacity
deriving DecidableEq, Repr

namespace Datastream

/-- Nothing has been received. -/
def empty : Datastream :=
  ⟨[], Nat.zero_le _⟩

instance : Inhabited Datastream := ⟨empty⟩

/-- The datastream with a segment appended; `none` when there is no room for all
of it. -/
def append? (d : Datastream) (segment : List UInt8) : Option Datastream :=
  if h : (d.bytes ++ segment).length ≤ datastreamCapacity then some ⟨d.bytes ++ segment, h⟩
  else none

end Datastream

/-- The state of the transport layer. -/
structure Transport where
  command : Command := {}
  template : Template := {}
  target : Target := {}
  acks : AckList := .empty
  datastream : Datastream := .empty
  response : List UInt8 := []
deriving DecidableEq, Repr

namespace Transport

/-- Forget the command of an earlier frame. -/
def reset (t : Transport) : Transport :=
  { t with command := {}, template := {}, target := {} }

/-- Forget who has answered. -/
def clearAcks (t : Transport) : Transport :=
  { t with acks := .empty }

/-- Hand over the datastream received so far; another one begins. -/
def takeDatastream (t : Transport) : List UInt8 × Transport :=
  (t.datastream.bytes, { t with datastream := .empty })

end Transport

/-- Timeout-byte flag: a list of response channels follows. -/
def channelListBit : UInt8 := 0x80

/-- Append the beginning of a request: its command, its options if given, and the
code of its response window. -/
def writeRequest (code : UInt8) (options : Option UInt8) (window : UInt8) : QueueM Unit := do
  match options with
  | some options =>
      QueueM.push (code ||| Command.optionsBit)
      QueueM.push options
  | none => QueueM.push (code &&& ~~~Command.optionsBit)
  QueueM.push (window &&& ~~~channelListBit)

end Mode2
