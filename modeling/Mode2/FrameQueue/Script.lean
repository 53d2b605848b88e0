import Mode2.FrameQueue.Basic

/-!
# Sequences of queue operations

Encoders and parsers run several queue operations in a row and stop at the first
refusal. What was read or written before the refusal remains read or written, and
the queue as it then stands is part of the outcome.
-/

namespace Mode2

/-- A sequence of operations on one queue that may stop at a refusal. -/
abbrev QueueM := EStateM QueueError FrameQueue

namespace QueueM

/-- Run an operation that only changes the queue. -/
def change (operation : FrameQueue → Except QueueError FrameQueue) : QueueM Unit :=
  fun q =>
    match operation q with
    | .ok rest => .ok () rest
    | .error cause => .error cause q

/-- Run an operation that reads from the queue. -/
def take {α : Type} (operation : FrameQueue → Except QueueError (α × FrameQueue)) : QueueM α :=
  fun q =>
    match operation q with
    | .ok (value, rest) => .ok value rest
    | .error cause => .error cause q

def readByte : QueueM UInt8 :=
  take FrameQueue.readByte

def readShort : QueueM UInt16 :=
  take FrameQueue.readShort

def read (n : Nat) : QueueM (List UInt8) :=
  take (·.read n)

def push (byte : UInt8) : QueueM Unit :=
  change (·.push byte)

def append (bytes : List UInt8) : QueueM Unit :=
  change (·.append bytes)

def appendShort (value : UInt16) : QueueM Unit :=
  change (·.appendShort value)

end QueueM

end Mode2
