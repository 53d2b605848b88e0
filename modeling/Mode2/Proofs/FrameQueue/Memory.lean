import Mode2.Proofs.FrameQueue.Tape

/-!
# A queue in memory

In memory a queue is an array of which nothing is ever cleared, and four marks that are moved
along it. An access beyond the array and a difference of marks below zero are faults, that end
the program. There are none: whatever is left in the array, the marks enclose the bytes of a
tape, and every sequence of operations is answered as it is on the tape.
-/

namespace Mode2

/-- The array and the marks of a queue. -/
structure QueueMemory where
  data : List UInt8
  front : Nat
  back : Nat
  getCursor : Nat
  putCursor : Nat
  length_data : data.length = queueCapacity

namespace QueueMemory

/-! ## Accesses -/

/-- How far one mark is past another; a fault if it is not. -/
def distance (mark start : Nat) : Option Nat :=
  if start ≤ mark then some (mark - start) else none

/-- The bytes between two marks. -/
def slice (m : QueueMemory) (start stop : Nat) : Option (List UInt8) :=
  if start ≤ stop ∧ stop ≤ queueCapacity then some ((m.data.take stop).drop start) else none

/-- The memory with bytes stored from a mark on, over what was there. -/
def store (m : QueueMemory) (start : Nat) (bytes : List UInt8) : Option QueueMemory :=
  if h : start + bytes.length ≤ queueCapacity then
    some { m with
      data := m.data.take start ++ bytes ++ m.data.drop (start + bytes.length)
      length_data := by
        have := m.length_data
        simp only [List.length_append, List.length_take, List.length_drop]
        omega }
  else
    none

/-! ## Operations -/

/-- The memory of a new queue. -/
def fresh : QueueMemory :=
  ⟨List.replicate queueCapacity 0, 0, queueCapacity, 0, 0, List.length_replicate⟩

/-- The marks are set back; the array keeps what it holds. -/
def empty (m : QueueMemory) : QueueMemory :=
  { m with front := 0, back := queueCapacity, getCursor := 0, putCursor := 0 }

variable (m : QueueMemory)

/-! Unless it ends in a fault, an operation yields its answer or the cause of its refusal, and
the memory, that may have been changed in either case. -/

def write (bytes : List UInt8) : Option (Except QueueError QueueAnswer × QueueMemory) := do
  let space ← distance m.back m.putCursor
  if bytes.length > space then
    return (.error .full, m)
  else
    let stored ← m.store m.putCursor bytes
    return (.ok .done, { stored with putCursor := m.putCursor + bytes.length })

def push (byte : UInt8) : Option (Except QueueError QueueAnswer × QueueMemory) := do
  let space ← distance m.back m.putCursor
  if space < 1 then
    return (.error .full, m)
  else
    let stored ← m.store m.putCursor [byte]
    return (.ok .done, { stored with putCursor := m.putCursor + 1 })

def load (bytes : List UInt8) : Option (Except QueueError QueueAnswer × QueueMemory) :=
  if bytes.length > queueCapacity then some (.error .capacity, m) else m.empty.write bytes

def setLimit (limit : Nat) : Option (Except QueueError QueueAnswer × QueueMemory) :=
  let back := m.front + limit
  if back > queueCapacity ∨ back < m.putCursor then some (.error .capacity, m)
  else some (.ok .done, { m with back })

def truncate (length : Nat) : Option (Except QueueError QueueAnswer × QueueMemory) :=
  let stop := m.front + length
  if stop > m.putCursor then some (.error .underrun, m)
  else some (.ok .done, { m with putCursor := stop, getCursor := min m.getCursor stop })

def seek (position : Nat) : Option (Except QueueError QueueAnswer × QueueMemory) :=
  if position < m.front ∨ position > m.putCursor then some (.error .underrun, m)
  else some (.ok .done, { m with getCursor := position })

def skip (n : Nat) : Option (Except QueueError QueueAnswer × QueueMemory) := do
  let remaining ← distance m.putCursor m.getCursor
  if n > remaining then return (.error .underrun, m)
  else return (.ok .done, { m with getCursor := m.getCursor + n })

def byteAt (position : Nat) : Option (Except QueueError QueueAnswer × QueueMemory) :=
  if position < m.putCursor then do
    let byte ← m.data[position]?
    return (.ok (.octet? (some byte)), m)
  else
    some (.ok (.octet? none), m)

def setByte (position : Nat) (byte : UInt8) :
    Option (Except QueueError QueueAnswer × QueueMemory) :=
  if position < m.front ∨ position ≥ m.putCursor then
    some (.error .underrun, m)
  else do
    let stored ← m.store position [byte]
    return (.ok .done, stored)

def edit (start : Nat) (change : List UInt8 → List UInt8) :
    Option (Except QueueError (List UInt8) × QueueMemory) :=
  if start < m.front ∨ start > m.putCursor then
    some (.error .underrun, m)
  else do
    let bytes ← m.slice start m.putCursor
    let stored ← m.store start (change bytes)
    return (.ok bytes, stored)

def readByte : Option (Except QueueError UInt8 × QueueMemory) := do
  let remaining ← distance m.putCursor m.getCursor
  if remaining < 1 then
    return (.error .underrun, m)
  else
    let byte ← m.data[m.getCursor]?
    return (.ok byte, { m with getCursor := m.getCursor + 1 })

def read (n : Nat) : Option (Except QueueError (List UInt8) × QueueMemory) := do
  let remaining ← distance m.putCursor m.getCursor
  if n > remaining then
    return (.error .underrun, m)
  else
    let bytes ← m.slice m.getCursor (m.getCursor + n)
    return (.ok bytes, { m with getCursor := m.getCursor + n })

/-- The bytes read are copied over a buffer; a fault if it has not as many. -/
def readInto (buffer : List UInt8) : Option (Except QueueError (List UInt8) × QueueMemory) := do
  let result ← m.read buffer.length
  match result.1 with
  | .error cause => return (.error cause, result.2)
  | .ok bytes => if bytes.length = buffer.length then return (.ok bytes, result.2) else none

/-- What an operation has yielded, as an answer. -/
def answered {α : Type} (answer : α → QueueAnswer)
    (outcome : Option (Except QueueError α × QueueMemory)) :
    Option (Except QueueError QueueAnswer × QueueMemory) :=
  outcome.map (Prod.map (Except.map answer) id)

/-- The operations in memory by their names. -/
def perform (op : QueueOp) : Option (Except QueueError QueueAnswer × QueueMemory) :=
  match op with
  | .empty => some (.ok .done, m.empty)
  | .load bytes => m.load bytes
  | .setLimit limit => m.setLimit limit
  | .truncate length => m.truncate length
  | .seek position => m.seek position
  | .skip n => m.skip n
  | .byteAt position => m.byteAt position
  | .push byte => m.push byte
  | .appendShort value => m.write (Octet.ofShort value)
  | .append bytes => m.write bytes
  | .setByte position byte => m.setByte position byte
  | .edit start change _ => answered .octets (m.edit start change)
  | .readByte => answered .octet m.readByte
  | .readShort =>
      answered (fun bytes => .short (Octet.toShort (bytes.headD 0) (bytes.getD 1 0)))
        (m.readInto [0, 0])
  | .read n => answered .octets (m.read n)
  | .readInto buffer => answered .octets (m.readInto buffer)

/-- What the queue shows. -/
def view : Option QueueView := do
  let written ← m.slice m.front m.putCursor
  let unread ← m.slice m.getCursor m.putCursor
  let length ← distance m.putCursor m.front
  let remaining ← distance m.putCursor m.getCursor
  let space ← distance m.back m.putCursor
  return {
    written, unread, cursor := m.getCursor, length, remaining, space
    isEmpty := m.putCursor == m.front }

/-- A byte is written as the list of that byte is. -/
theorem push_eq_write (byte : UInt8) : m.push byte = m.write [byte] := by
  simp [push, write]

/-- Operations in a row, up to the first fault. -/
def run : List QueueOp → QueueMemory →
    Option (List (Except QueueError QueueAnswer) × QueueMemory)
  | [], m => some ([], m)
  | op :: ops, m => do
      let (answer, m) ← m.perform op
      let (later, m) ← run ops m
      return (answer :: later, m)

/-! ## The tape in memory -/

/-- The memory holds a tape: its bytes stand at the start of the array, whatever comes after
them, and the marks enclose them. -/
structure Holds (m : QueueMemory) (t : Tape) : Prop where
  data : t.written <+: m.data
  front : m.front = 0
  back : m.back = t.limit
  getCursor : m.getCursor = t.position
  putCursor : m.putCursor = t.written.length

theorem fresh_holds : fresh.Holds Tape.blank :=
  ⟨List.nil_prefix, rfl, rfl, rfl, rfl⟩

theorem empty_holds (m : QueueMemory) : m.empty.Holds Tape.blank :=
  ⟨List.nil_prefix, rfl, rfl, rfl, rfl⟩

/-- The operation in memory does what is done on the tape, and changes nothing if it is refused
there. -/
def Follows {α : Type} (m : QueueMemory) (outcome : Option (Except QueueError α × QueueMemory)) :
    Except QueueError (α × Tape) → Prop
  | .ok (answer, t) => ∃ m', outcome = some (.ok answer, m') ∧ m'.Holds t
  | .error cause => outcome = some (.error cause, m)

theorem Follows.answered {α : Type} {m : QueueMemory}
    {outcome : Option (Except QueueError α × QueueMemory)} {x : Except QueueError (α × Tape)}
    (h : Follows m outcome x) (answer : α → QueueAnswer) :
    Follows m (QueueMemory.answered answer outcome)
      (x.map fun result => (answer result.1, result.2)) := by
  cases x with
  | error cause => exact h ▸ rfl
  | ok result =>
      obtain ⟨m', rfl, hholds⟩ := h
      exact ⟨m', rfl, hholds⟩

theorem distance_of_le {mark start : Nat} (h : start ≤ mark) :
    distance mark start = some (mark - start) :=
  if_pos h

/-- Up to the end of the tape the array shows its bytes. -/
theorem slice_of_held {m : QueueMemory} {bytes : List UInt8} (h : bytes <+: m.data)
    {start stop : Nat} (hstart : start ≤ stop) (hstop : stop ≤ bytes.length) :
    m.slice start stop = some ((bytes.take stop).drop start) := by
  obtain ⟨stale, hdata⟩ := h
  have hfits : stop ≤ queueCapacity := by
    rw [← m.length_data, ← hdata, List.length_append]
    omega
  rw [slice, if_pos ⟨hstart, hfits⟩, ← hdata, List.take_append_of_le_length hstop]

/-- Within the tape the array has its byte. -/
theorem getElem?_of_held {bytes data : List UInt8} (h : bytes <+: data) {position : Nat}
    (hthere : position < bytes.length) : data[position]? = some bytes[position] := by
  obtain ⟨stale, rfl⟩ := h
  rw [List.getElem?_append_left hthere, List.getElem?_eq_getElem hthere]

/-- Bytes that are stored within the tape or right behind it stand between the bytes of the
tape before them and those after them; the marks stay. -/
theorem store_of_held {m : QueueMemory} {bytes other : List UInt8} (h : bytes <+: m.data)
    {start : Nat} (hstart : start ≤ bytes.length) (hfits : start + other.length ≤ queueCapacity) :
    ∃ data hdata, m.store start other = some { m with data, length_data := hdata } ∧
      bytes.take start ++ other ++ bytes.drop (start + other.length) <+: data := by
  obtain ⟨stale, hdata⟩ := h
  rw [store, dif_pos hfits]
  refine ⟨_, _, rfl, ?_⟩
  simp only [← hdata, List.take_append_of_le_length hstart, List.drop_append]
  rw [← List.append_assoc]
  exact List.prefix_append _ _

namespace Holds

variable {m : QueueMemory} {t : Tape}

theorem write (h : m.Holds t) (bytes : List UInt8) :
    Follows m (m.write bytes) ((t.write bytes).map (.done, ·)) := by
  have hlength := t.length_le
  have hlimit := t.limit_le
  obtain ⟨data, front, back, getCursor, putCursor, hcapacity⟩ := m
  obtain ⟨hdata, rfl, rfl, rfl, rfl⟩ := h
  unfold QueueMemory.write Tape.write
  dsimp only
  rw [distance_of_le hlength, Option.bind_eq_bind, Option.bind_some]
  by_cases hfits : t.written.length + bytes.length ≤ t.limit
  · obtain ⟨data', hcapacity', hstored, hdata'⟩ :=
      store_of_held hdata (Nat.le_refl _) (Nat.le_trans hfits hlimit)
    have hend : t.written.drop (t.written.length + bytes.length) = [] :=
      List.drop_eq_nil_of_le (Nat.le_add_right _ _)
    rw [hend, List.append_nil, List.take_length] at hdata'
    rw [dif_pos hfits, if_neg (by omega), hstored]
    exact ⟨_, rfl, hdata', rfl, rfl, rfl, List.length_append.symm⟩
  · rw [dif_neg hfits, if_pos (by omega)]
    rfl

theorem load (m : QueueMemory) (bytes : List UInt8) :
    Follows m (m.load bytes) ((Tape.load bytes).map (.done, ·)) := by
  unfold QueueMemory.load Tape.load
  by_cases hfits : bytes.length ≤ queueCapacity
  · -- The array keeps what it holds, but with the marks set back it holds the blank tape.
    have hwrite := m.empty_holds.write bytes
    unfold Tape.write at hwrite
    rw [dif_pos (by simpa [Tape.blank] using hfits)] at hwrite
    rw [dif_pos hfits, if_neg (by omega)]
    exact hwrite
  · rw [dif_neg hfits, if_pos (by omega)]
    rfl

theorem setLimit (h : m.Holds t) (limit : Nat) :
    Follows m (m.setLimit limit) ((t.setLimit limit).map (.done, ·)) := by
  obtain ⟨data, front, back, getCursor, putCursor, hcapacity⟩ := m
  obtain ⟨hdata, rfl, rfl, rfl, rfl⟩ := h
  unfold QueueMemory.setLimit Tape.setLimit
  simp only [Nat.zero_add]
  by_cases hfits : limit ≤ queueCapacity ∧ t.written.length ≤ limit
  · rw [dif_pos hfits, if_neg (by omega)]
    exact ⟨_, rfl, hdata, rfl, rfl, rfl, rfl⟩
  · rw [dif_neg hfits, if_pos (by omega)]
    rfl

theorem truncate (h : m.Holds t) (length : Nat) :
    Follows m (m.truncate length) ((t.truncate length).map (.done, ·)) := by
  obtain ⟨data, front, back, getCursor, putCursor, hcapacity⟩ := m
  obtain ⟨hdata, rfl, rfl, rfl, rfl⟩ := h
  unfold QueueMemory.truncate Tape.truncate
  simp only [Nat.zero_add]
  by_cases hshort : length ≤ t.written.length
  · rw [dif_pos hshort, if_neg (by omega)]
    have hkept := List.take_prefix length t.written
    exact ⟨_, rfl, hkept.trans hdata, rfl, rfl, rfl, (List.length_take_of_le hshort).symm⟩
  · rw [dif_neg hshort, if_pos (by omega)]
    rfl

theorem seek (h : m.Holds t) (position : Nat) :
    Follows m (m.seek position) ((t.seek position).map (.done, ·)) := by
  obtain ⟨data, front, back, getCursor, putCursor, hcapacity⟩ := m
  obtain ⟨hdata, rfl, rfl, rfl, rfl⟩ := h
  unfold QueueMemory.seek Tape.seek
  by_cases hthere : position ≤ t.written.length
  · rw [dif_pos hthere, if_neg (by simpa using hthere)]
    exact ⟨_, rfl, hdata, rfl, rfl, rfl, rfl⟩
  · rw [dif_neg hthere, if_pos (by simpa using hthere)]
    rfl

theorem skip (h : m.Holds t) (n : Nat) :
    Follows m (m.skip n) ((t.take n).map fun result => (.done, result.2)) := by
  have hposition := t.position_le
  obtain ⟨data, front, back, getCursor, putCursor, hcapacity⟩ := m
  obtain ⟨hdata, rfl, rfl, rfl, rfl⟩ := h
  unfold QueueMemory.skip Tape.take
  dsimp only
  rw [distance_of_le hposition, Option.bind_eq_bind, Option.bind_some]
  by_cases hthere : t.position + n ≤ t.written.length
  · rw [dif_pos hthere, if_neg (by omega)]
    exact ⟨_, rfl, hdata, rfl, rfl, rfl, rfl⟩
  · rw [dif_neg hthere, if_pos (by omega)]
    rfl

theorem byteAt (h : m.Holds t) (position : Nat) :
    Follows m (m.byteAt position) (.ok (.octet? t.written[position]?, t)) := by
  unfold QueueMemory.byteAt
  rw [h.putCursor]
  by_cases hthere : position < t.written.length
  · rw [if_pos hthere, getElem?_of_held h.data hthere, List.getElem?_eq_getElem hthere]
    exact ⟨m, rfl, h⟩
  · rw [if_neg hthere, List.getElem?_eq_none (Nat.le_of_not_lt hthere)]
    exact ⟨m, rfl, h⟩

theorem readByte (h : m.Holds t) :
    Follows m m.readByte ((t.take 1).map fun result => (result.1.headD 0, result.2)) := by
  have hposition := t.position_le
  obtain ⟨data, front, back, getCursor, putCursor, hcapacity⟩ := m
  obtain ⟨hdata, rfl, rfl, rfl, rfl⟩ := h
  unfold QueueMemory.readByte Tape.take
  dsimp only
  rw [distance_of_le hposition, Option.bind_eq_bind, Option.bind_some]
  by_cases hthere : t.position + 1 ≤ t.written.length
  · rw [dif_pos hthere, if_neg (by omega), getElem?_of_held hdata hthere,
      List.drop_eq_getElem_cons hthere]
    exact ⟨_, rfl, hdata, rfl, rfl, rfl, rfl⟩
  · rw [dif_neg hthere, if_pos (by omega)]
    rfl

theorem setByte (h : m.Holds t) (position : Nat) (byte : UInt8) :
    Follows m (m.setByte position byte) ((t.setByte position byte).map (.done, ·)) := by
  have hlength := t.length_le
  have hlimit := t.limit_le
  obtain ⟨data, front, back, getCursor, putCursor, hcapacity⟩ := m
  obtain ⟨hdata, rfl, rfl, rfl, rfl⟩ := h
  unfold QueueMemory.setByte Tape.setByte
  dsimp only
  by_cases hthere : position < t.written.length
  · have hfits : position + [byte].length ≤ queueCapacity :=
      Nat.le_trans hthere (Nat.le_trans hlength hlimit)
    obtain ⟨data', hcapacity', hstored, hdata'⟩ :=
      store_of_held hdata (Nat.le_of_lt hthere) hfits
    rw [if_pos hthere, if_neg (by omega), hstored]
    refine ⟨_, rfl, ?_, rfl, rfl, rfl, List.length_set.symm⟩
    change t.written.set position byte <+: data'
    rw [List.set_eq_take_append_cons_drop, if_pos hthere]
    simpa using hdata'
  · rw [if_neg hthere, if_pos (by omega)]
    rfl

theorem edit (h : m.Holds t) (start : Nat) (change : List UInt8 → List UInt8)
    (keeps : ∀ bytes, (change bytes).length = bytes.length) :
    Follows m (m.edit start change) (t.edit start change keeps) := by
  have hlength := t.length_le
  have hlimit := t.limit_le
  obtain ⟨data, front, back, getCursor, putCursor, hcapacity⟩ := m
  obtain ⟨hdata, rfl, rfl, rfl, rfl⟩ := h
  unfold QueueMemory.edit Tape.edit
  dsimp only
  by_cases hthere : start ≤ t.written.length
  · have hbytes : start + (change (t.written.drop start)).length = t.written.length := by
      rw [keeps, List.length_drop]
      omega
    have hfits : start + (change (t.written.drop start)).length ≤ queueCapacity :=
      hbytes ▸ Nat.le_trans hlength hlimit
    obtain ⟨data', hcapacity', hstored, hdata'⟩ := store_of_held hdata hthere hfits
    rw [hbytes, List.drop_length, List.append_nil] at hdata'
    rw [if_pos hthere, if_neg (by omega), slice_of_held hdata hthere (Nat.le_refl _),
      List.take_length, Option.bind_eq_bind, Option.bind_some, hstored]
    exact ⟨_, rfl, hdata', rfl, rfl, rfl, (Tape.length_edited keeps start).symm⟩
  · rw [if_neg hthere, if_pos (by omega)]
    rfl

theorem read (h : m.Holds t) (n : Nat) : Follows m (m.read n) (t.take n) := by
  have hposition := t.position_le
  obtain ⟨data, front, back, getCursor, putCursor, hcapacity⟩ := m
  obtain ⟨hdata, rfl, rfl, rfl, rfl⟩ := h
  unfold QueueMemory.read Tape.take
  dsimp only
  rw [distance_of_le hposition, Option.bind_eq_bind, Option.bind_some]
  by_cases hthere : t.position + n ≤ t.written.length
  · have hbytes : (t.written.take (t.position + n)).drop t.position =
        (t.written.drop t.position).take n := by
      rw [List.drop_take, Nat.add_sub_cancel_left]
    rw [dif_pos hthere, if_neg (by omega), slice_of_held hdata (Nat.le_add_right _ _) hthere,
      hbytes]
    exact ⟨_, rfl, hdata, rfl, rfl, rfl, rfl⟩
  · rw [dif_neg hthere, if_pos (by omega)]
    rfl

theorem readInto (h : m.Holds t) (buffer : List UInt8) :
    Follows m (m.readInto buffer) (t.take buffer.length) := by
  have hread := h.read buffer.length
  unfold QueueMemory.readInto
  cases htake : t.take buffer.length with
  | error cause =>
      rw [htake] at hread
      rw [hread]
      rfl
  | ok result =>
      obtain ⟨bytes, t'⟩ := result
      rw [htake] at hread
      obtain ⟨m', hm', hholds⟩ := hread
      rw [hm']
      refine ⟨m', ?_, hholds⟩
      simp [Tape.length_of_take htake]

/-- Each operation finds in memory what it finds on the tape. -/
theorem perform (h : m.Holds t) (op : QueueOp) : Follows m (m.perform op) (t.perform op) := by
  cases op with
  | empty => exact ⟨m.empty, rfl, m.empty_holds⟩
  | load bytes => exact load m bytes
  | setLimit limit => exact h.setLimit limit
  | truncate length => exact h.truncate length
  | seek position => exact h.seek position
  | skip n => exact h.skip n
  | byteAt position => exact h.byteAt position
  | push byte =>
      rw [QueueMemory.perform, push_eq_write]
      exact h.write [byte]
  | appendShort value =>
      rw [QueueMemory.perform, Octet.ofShort_eq]
      exact h.write _
  | append bytes => exact h.write bytes
  | setByte position byte => exact h.setByte position byte
  | edit start change keeps => exact (h.edit start change keeps).answered .octets
  | readByte =>
      have hread := h.readByte.answered .octet
      rw [Tape.perform_readByte]
      cases htake : t.take 1 <;> rw [htake] at hread <;> exact hread
  | readShort =>
      rw [Tape.perform_readShort]
      exact (h.readInto [0, 0]).answered _
  | read n => exact (h.read n).answered .octets
  | readInto buffer => exact (h.readInto buffer).answered .octets

theorem step (h : m.Holds t) (op : QueueOp) :
    ∃ m', m.perform op = some ((refusable (Tape.perform op) t).1, m') ∧
      m'.Holds (refusable (Tape.perform op) t).2 := by
  have hop := h.perform op
  unfold refusable
  cases hperform : t.perform op with
  | ok result =>
      rw [hperform] at hop
      exact hop
  | error cause =>
      rw [hperform] at hop
      exact ⟨m, hop, h⟩

/-- A refused operation has changed nothing, in the array neither. -/
theorem refused (h : m.Holds t) {op : QueueOp} {cause : QueueError} {m' : QueueMemory}
    (hrefused : m.perform op = some (.error cause, m')) : m' = m := by
  have hop := h.perform op
  cases hperform : t.perform op with
  | ok result =>
      rw [hperform] at hop
      obtain ⟨_, hanswered, -⟩ := hop
      rw [hrefused] at hanswered
      cases hanswered
  | error _ =>
      rw [hperform] at hop
      rw [hrefused] at hop
      cases hop
      rfl

/-- Operations in a row find in memory what they find on the tape, without a fault. -/
theorem run (h : m.Holds t) (ops : List QueueOp) :
    ∃ m', m.run ops = some ((t.run ops).1, m') ∧ m'.Holds (t.run ops).2 := by
  induction ops generalizing m t with
  | nil => exact ⟨m, rfl, h⟩
  | cons op ops ih =>
      -- Refused or not, the operation leaves memory and tape in step.
      obtain ⟨next, hnext, hholds⟩ := h.step op
      obtain ⟨last, hlast, hholds⟩ := ih hholds
      refine ⟨last, ?_, hholds⟩
      simp only [QueueMemory.run, hnext, hlast, Option.bind_eq_bind, Option.bind_some]
      rfl

theorem view (h : m.Holds t) : m.view = some t.view := by
  have hposition := t.position_le
  have hlength := t.length_le
  obtain ⟨data, front, back, getCursor, putCursor, hcapacity⟩ := m
  obtain ⟨hdata, rfl, rfl, rfl, rfl⟩ := h
  unfold QueueMemory.view Tape.view
  simp only
  rw [slice_of_held hdata (Nat.zero_le _) (Nat.le_refl _),
    slice_of_held hdata hposition (Nat.le_refl _), distance_of_le (Nat.zero_le _),
    distance_of_le hposition, distance_of_le hlength]
  have hempty : (t.written.length == 0) = t.written.isEmpty := by
    cases t.written <;> rfl
  simp [hempty]

end Holds

end QueueMemory

/-- A queue is a tape. Every sequence of operations on a new queue, whatever their arguments,
is answered by the queue, and in memory without a fault, as it is on the blank tape. Then the
tape is in order, and the queue shows its bytes, the unread ones, the position and the space
that is left. An operation that is refused changes nothing in memory, and what is left in the
array behind the tape has no influence on the answers to come. -/
theorem FrameQueue.runs_as_tape (ops : List QueueOp) :
    let t := (Tape.blank.run ops).2
    t.position ≤ t.written.length ∧ t.written.length ≤ t.limit ∧ t.limit ≤ queueCapacity ∧
      (FrameQueue.empty.run ops).1 = (Tape.blank.run ops).1 ∧
      (FrameQueue.empty.run ops).2.view = t.view ∧
      ∃ m, QueueMemory.fresh.run ops = some ((Tape.blank.run ops).1, m) ∧
        m.Holds t ∧ m.view = some t.view ∧
        (∀ op cause m', m.perform op = some (.error cause, m') → m' = m) ∧
        ∀ (other : QueueMemory), other.Holds t →
          ∀ later, ∃ other', other.run later = some ((t.run later).1, other') := by
  intro t
  have hqueue : Prod.map id FrameQueue.tape (FrameQueue.empty.run ops) = Tape.blank.run ops :=
    FrameQueue.empty.tape_run ops
  obtain ⟨m, hm, hholds⟩ := QueueMemory.fresh_holds.run ops
  refine ⟨t.position_le, t.length_le, t.limit_le, congrArg Prod.fst hqueue, ?_, m, hm, hholds,
    hholds.view, fun op cause m' => hholds.refused, fun other hother later => ?_⟩
  · rw [← FrameQueue.view_tape]
    exact congrArg (fun result => Tape.view result.2) hqueue
  · obtain ⟨other', hrun, -⟩ := hother.run later
    exact ⟨other', hrun⟩

end Mode2
