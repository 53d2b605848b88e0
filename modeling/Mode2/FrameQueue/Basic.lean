import Mode2.Error
import Mode2.Octet

/-!
# Frame queues

A queue holds one frame. It is written at its end, up to a limit, and read from
a cursor that moves on its own: a codec writes a header, patches bytes behind the
end and reads the same frame from its start. The queue is the bytes already read,
the bytes still unread, and the limit. An operation that is refused yields no
queue at all, so a refusal changes nothing.
-/

namespace Mode2

/-- The bytes that a queue has room for. -/
def queueCapacity : Nat := 256

/-- One frame, split at the read cursor, with the limit on its length. -/
structure FrameQueue where
  consumed : List UInt8
  unread : List UInt8
  limit : Nat
  length_le_limit : consumed.length + unread.length ≤ limit
  limit_le_capacity : limit ≤ queueCapacity
deriving DecidableEq, Repr

namespace FrameQueue

/-- A queue without bytes and without a limit of its own. -/
def empty : FrameQueue :=
  ⟨[], [], queueCapacity, Nat.zero_le _, Nat.le_refl _⟩

instance : Inhabited FrameQueue := ⟨empty⟩

/-! ## Inspection -/

/-- All bytes of the frame. -/
def written (q : FrameQueue) : List UInt8 :=
  q.consumed ++ q.unread

/-- How many bytes the frame has. -/
def length (q : FrameQueue) : Nat :=
  q.consumed.length + q.unread.length

/-- The read cursor: how many bytes have been read. -/
def cursor (q : FrameQueue) : Nat :=
  q.consumed.length

/-- How many bytes are unread. -/
def remaining (q : FrameQueue) : Nat :=
  q.unread.length

/-- Free bytes before the limit. -/
def space (q : FrameQueue) : Nat :=
  q.limit - q.length

/-- The frame has no bytes. -/
def isEmpty (q : FrameQueue) : Bool :=
  q.consumed.isEmpty && q.unread.isEmpty

/-- The byte at a position of the frame. -/
def byteAt (q : FrameQueue) (position : Nat) : Option UInt8 :=
  q.written[position]?

@[simp] theorem length_written (q : FrameQueue) : q.written.length = q.length := by
  simp [written, length]

theorem length_add_space (q : FrameQueue) : q.length + q.space = q.limit := by
  have := q.length_le_limit
  simp only [space, length]
  omega

/-! ## Limits and cursor moves -/

/-- Place the write limit, counted from the start of the frame. -/
def setLimit (q : FrameQueue) (limit : Nat) : Except QueueError FrameQueue :=
  if h : limit ≤ queueCapacity ∧ q.length ≤ limit then
    .ok ⟨q.consumed, q.unread, limit, h.2, h.1⟩
  else
    .error .capacity

/-- The same bytes with the cursor moved to `position`, or to the end when the
frame is shorter. -/
def splitAt (q : FrameQueue) (position : Nat) : FrameQueue :=
  ⟨q.written.take position, q.written.drop position, q.limit, by
    rw [← List.length_append, List.take_append_drop, length_written]
    exact q.length_le_limit, q.limit_le_capacity⟩

/-- Move the read cursor to a position of the frame. -/
def seek (q : FrameQueue) (position : Nat) : Except QueueError FrameQueue :=
  if position ≤ q.length then .ok (q.splitAt position) else .error .underrun

/-- Drop all bytes past the first `length`; the cursor stays within the frame. -/
def truncate (q : FrameQueue) (length : Nat) : Except QueueError FrameQueue :=
  if length ≤ q.length then
    .ok ⟨q.consumed.take length, q.unread.take (length - q.consumed.length), q.limit, by
      have := q.length_le_limit
      simp only [List.length_take]
      omega, q.limit_le_capacity⟩
  else
    .error .underrun

/-! ## Writing -/

/-- Append bytes at the end of the frame. -/
def append (q : FrameQueue) (bytes : List UInt8) : Except QueueError FrameQueue :=
  if h : bytes.length ≤ q.space then
    .ok ⟨q.consumed, q.unread ++ bytes, q.limit, by
      have := q.length_add_space
      simp only [length, List.length_append] at *
      omega, q.limit_le_capacity⟩
  else
    .error .full

/-- Append one byte. -/
def push (q : FrameQueue) (byte : UInt8) : Except QueueError FrameQueue :=
  q.append [byte]

/-- Append a two-byte number, most significant byte first. -/
def appendShort (q : FrameQueue) (value : UInt16) : Except QueueError FrameQueue :=
  q.append (Octet.ofShort value)

/-- A fresh queue that holds `bytes`, ready to be read. -/
def load (bytes : List UInt8) : Except QueueError FrameQueue :=
  if bytes.length ≤ queueCapacity then empty.append bytes else .error .capacity

/-- Replace a byte of the frame. -/
def setByte (q : FrameQueue) (position : Nat) (byte : UInt8) : Except QueueError FrameQueue :=
  if position < q.length then
    .ok ⟨(q.written.set position byte).take q.cursor,
      (q.written.set position byte).drop q.cursor, q.limit, by
      rw [← List.length_append, List.take_append_drop, List.length_set, length_written]
      exact q.length_le_limit, q.limit_le_capacity⟩
  else
    .error .underrun

/-- The bytes of the frame from a position on. -/
def region (q : FrameQueue) (start : Nat) : Except QueueError (List UInt8) :=
  if start ≤ q.length then .ok (q.written.drop start) else .error .underrun

/-- Replace the end of the frame by as many other bytes. -/
def setRegion (q : FrameQueue) (bytes : List UInt8) : FrameQueue :=
  let all := q.written.take (q.length - bytes.length) ++ bytes.take q.length
  ⟨all.take q.cursor, all.drop q.cursor, q.limit, by
    have := q.length_le_limit
    rw [← List.length_append, List.take_append_drop]
    simp only [all, List.length_append, List.length_take, length_written, length] at *
    omega, q.limit_le_capacity⟩

/-! ## Reading -/

/-- Read the next `n` bytes. -/
def read (q : FrameQueue) (n : Nat) : Except QueueError (List UInt8 × FrameQueue) :=
  if n ≤ q.remaining then
    .ok (q.unread.take n, ⟨q.consumed ++ q.unread.take n, q.unread.drop n, q.limit, by
      have := q.length_le_limit
      simp only [List.length_append, List.length_take, List.length_drop]
      omega, q.limit_le_capacity⟩)
  else
    .error .underrun

/-- Pass over the next `n` bytes. -/
def skip (q : FrameQueue) (n : Nat) : Except QueueError FrameQueue :=
  (q.read n).map (·.2)

/-- Read the next byte. -/
def readByte (q : FrameQueue) : Except QueueError (UInt8 × FrameQueue) :=
  match h : q.unread with
  | [] => .error .underrun
  | byte :: rest =>
      .ok (byte, ⟨q.consumed ++ [byte], rest, q.limit, by
        have := q.length_le_limit
        rw [h] at this
        simp only [List.length_append, List.length_cons, List.length_nil] at *
        omega, q.limit_le_capacity⟩)

/-- Read a two-byte number, most significant byte first. A single byte left over
stays unread. -/
def readShort (q : FrameQueue) : Except QueueError (UInt16 × FrameQueue) :=
  match q.read 2 with
  | .ok ([high, low], rest) => .ok (Octet.toShort high low, rest)
  | .ok _ | .error _ => .error .underrun

end FrameQueue

end Mode2
