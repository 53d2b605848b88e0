import Mathlib.Data.List.Basic
import Mode2.Proofs.FrameQueue.Written
import Mode2.Proofs.Octet

/-!
# A queue as a tape

To its users a queue is a tape: the bytes that have been written, the position of the next byte
to read, and how long the tape may become. Every operation is given by what it does to these
three, and a queue answers every sequence of operations as its tape does.
-/

namespace Mode2

/-! ## Operations and answers -/

/-- An operation on a queue, with its arguments. -/
inductive QueueOp
  | empty
  | load (bytes : List UInt8)
  | setLimit (limit : Nat)
  | truncate (length : Nat)
  | seek (position : Nat)
  | skip (n : Nat)
  | byteAt (position : Nat)
  | push (byte : UInt8)
  | appendShort (value : UInt16)
  | append (bytes : List UInt8)
  | setByte (position : Nat) (byte : UInt8)
  /-- The bytes from a position on are lent out, and come back changed but as many. -/
  | edit (start : Nat) (change : List UInt8 → List UInt8)
      (keeps : ∀ bytes, (change bytes).length = bytes.length)
  | readByte
  | readShort
  | read (n : Nat)
  /-- As many bytes are read as the buffer has. -/
  | readInto (buffer : List UInt8)

/-- What an operation yields. -/
inductive QueueAnswer
  | done
  | octet (byte : UInt8)
  | octet? (byte : Option UInt8)
  | short (value : UInt16)
  | octets (bytes : List UInt8)
deriving DecidableEq, Repr

/-- What a queue shows without being changed. -/
structure QueueView where
  written : List UInt8
  unread : List UInt8
  cursor : Nat
  length : Nat
  remaining : Nat
  space : Nat
  isEmpty : Bool
deriving DecidableEq, Repr

/-- A refused operation yields its cause, and nothing has changed. -/
def refusable {σ : Type} (operation : σ → Except QueueError (QueueAnswer × σ)) (s : σ) :
    Except QueueError QueueAnswer × σ :=
  match operation s with
  | .ok (answer, s') => (.ok answer, s')
  | .error cause => (.error cause, s)

/-- The answers to operations in a row, and what they lead to. -/
def answers {σ : Type} (step : QueueOp → σ → Except QueueError QueueAnswer × σ) :
    List QueueOp → σ → List (Except QueueError QueueAnswer) × σ
  | [], s => ([], s)
  | op :: ops, s =>
      let result := step op s
      let later := answers step ops result.2
      (result.1 :: later.1, later.2)

/-- Where one kind of state shows as another and each step shows as a step, so do all steps in a
row, with the same answers. -/
theorem answers_map {σ τ : Type} {step : QueueOp → σ → Except QueueError QueueAnswer × σ}
    {shown : QueueOp → τ → Except QueueError QueueAnswer × τ} {f : σ → τ}
    (h : ∀ op s, Prod.map id f (step op s) = shown op (f s)) (ops : List QueueOp) (s : σ) :
    Prod.map id f (answers step ops s) = answers shown ops (f s) := by
  induction ops generalizing s with
  | nil => rfl
  | cons op ops ih =>
      simp only [answers, ← h op s, Prod.map_fst, Prod.map_snd, ← ih]
      rfl

namespace FrameQueue

/-- The operations of a queue by their names. -/
def perform (op : QueueOp) (q : FrameQueue) : Except QueueError (QueueAnswer × FrameQueue) :=
  match op with
  | .empty => .ok (.done, empty)
  | .load bytes => (load bytes).map (.done, ·)
  | .setLimit limit => (q.setLimit limit).map (.done, ·)
  | .truncate length => (q.truncate length).map (.done, ·)
  | .seek position => (q.seek position).map (.done, ·)
  | .skip n => (q.skip n).map (.done, ·)
  | .byteAt position => .ok (.octet? (q.byteAt position), q)
  | .push byte => (q.push byte).map (.done, ·)
  | .appendShort value => (q.appendShort value).map (.done, ·)
  | .append bytes => (q.append bytes).map (.done, ·)
  | .setByte position byte => (q.setByte position byte).map (.done, ·)
  | .edit start change _ =>
      (q.region start).map fun bytes => (.octets bytes, q.setRegion (change bytes))
  | .readByte => q.readByte.map fun result => (.octet result.1, result.2)
  | .readShort => q.readShort.map fun result => (.short result.1, result.2)
  | .read n => (q.read n).map fun result => (.octets result.1, result.2)
  | .readInto buffer => (q.read buffer.length).map fun result => (.octets result.1, result.2)

def view (q : FrameQueue) : QueueView :=
  { written := q.written
    unread := q.unread
    cursor := q.cursor
    length := q.length
    remaining := q.remaining
    space := q.space
    isEmpty := q.isEmpty }

/-- Operations in a row, whether they are refused or not. -/
def run : List QueueOp → FrameQueue → List (Except QueueError QueueAnswer) × FrameQueue :=
  answers fun op => refusable (perform op)

end FrameQueue

/-! ## Tapes -/

/-- The bytes that have been written, the position of the next byte to read, and the length up
to which bytes may be written. -/
@[ext]
structure Tape where
  written : List UInt8
  position : Nat
  limit : Nat
  position_le : position ≤ written.length
  length_le : written.length ≤ limit
  limit_le : limit ≤ queueCapacity

namespace Tape

/-- Nothing written, and the whole capacity to write in. -/
def blank : Tape :=
  ⟨[], 0, queueCapacity, Nat.le_refl _, Nat.zero_le _, Nat.le_refl _⟩

/-- Bytes that fit are written at the end, all of them or none. -/
def write (t : Tape) (bytes : List UInt8) : Except QueueError Tape :=
  if h : t.written.length + bytes.length ≤ t.limit then
    .ok { t with
      written := t.written ++ bytes
      position_le := by
        rw [List.length_append]
        exact Nat.le_add_right_of_le t.position_le
      length_le := by rwa [List.length_append] }
  else
    .error .full

/-- The next bytes are read if there are as many, and the position moves past them. -/
def take (t : Tape) (n : Nat) : Except QueueError (List UInt8 × Tape) :=
  if h : t.position + n ≤ t.written.length then
    .ok ((t.written.drop t.position).take n, { t with
      position := t.position + n
      position_le := h })
  else
    .error .underrun

theorem length_of_take {t t' : Tape} {n : Nat} {bytes : List UInt8}
    (h : t.take n = .ok (bytes, t')) : bytes.length = n := by
  unfold take at h
  split at h
  next hthere =>
    cases h
    rw [List.length_take_of_le]
    rw [List.length_drop]
    omega
  · cases h

/-- The number whose most significant byte comes first. -/
def bigEndian (bytes : List UInt8) : Nat :=
  bytes.foldl (fun value byte => 256 * value + byte.toNat) 0

/-- A tape with nothing but the given bytes, none of them read. -/
def load (bytes : List UInt8) : Except QueueError Tape :=
  if h : bytes.length ≤ queueCapacity then
    .ok ⟨bytes, 0, queueCapacity, Nat.zero_le _, h, Nat.le_refl _⟩
  else
    .error .capacity

/-- The limit is placed behind all bytes and within the capacity. -/
def setLimit (t : Tape) (limit : Nat) : Except QueueError Tape :=
  if h : limit ≤ queueCapacity ∧ t.written.length ≤ limit then
    .ok { t with limit, length_le := h.2, limit_le := h.1 }
  else
    .error .capacity

/-- The first bytes are kept, and the position is pulled back to them. -/
def truncate (t : Tape) (length : Nat) : Except QueueError Tape :=
  if h : length ≤ t.written.length then
    .ok { t with
      written := t.written.take length
      position := min t.position length
      position_le := by
        rw [List.length_take_of_le h]
        exact Nat.min_le_right _ _
      length_le := Nat.le_trans (List.length_take_le' _ _) t.length_le }
  else
    .error .underrun

def seek (t : Tape) (position : Nat) : Except QueueError Tape :=
  if h : position ≤ t.written.length then .ok { t with position, position_le := h }
  else .error .underrun

/-- As many other bytes are put in the place of those that have been written. -/
def rewrite (t : Tape) (bytes : List UInt8) (h : bytes.length = t.written.length) : Tape :=
  { t with
    written := bytes
    position_le := h ▸ t.position_le
    length_le := h ▸ t.length_le }

def setByte (t : Tape) (position : Nat) (byte : UInt8) : Except QueueError Tape :=
  if position < t.written.length then
    .ok (t.rewrite (t.written.set position byte) List.length_set)
  else
    .error .underrun

theorem length_edited {bytes : List UInt8} {change : List UInt8 → List UInt8}
    (keeps : ∀ bytes, (change bytes).length = bytes.length) (start : Nat) :
    (bytes.take start ++ change (bytes.drop start)).length = bytes.length := by
  rw [List.length_append, keeps, ← List.length_append, List.take_append_drop]

/-- The bytes from a position on are shown, and changed into as many others. -/
def edit (t : Tape) (start : Nat) (change : List UInt8 → List UInt8)
    (keeps : ∀ bytes, (change bytes).length = bytes.length) :
    Except QueueError (List UInt8 × Tape) :=
  if start ≤ t.written.length then
    .ok (t.written.drop start, t.rewrite _ (length_edited keeps start))
  else
    .error .underrun

/-- What each operation does to a tape. -/
def perform (op : QueueOp) (t : Tape) : Except QueueError (QueueAnswer × Tape) :=
  match op with
  | .empty => .ok (.done, blank)
  | .load bytes => (load bytes).map (.done, ·)
  | .setLimit limit => (t.setLimit limit).map (.done, ·)
  | .truncate length => (t.truncate length).map (.done, ·)
  | .seek position => (t.seek position).map (.done, ·)
  | .skip n => (t.take n).map fun result => (.done, result.2)
  | .byteAt position => .ok (.octet? t.written[position]?, t)
  | .push byte => (t.write [byte]).map (.done, ·)
  | .appendShort value =>
      (t.write [UInt8.ofNat (value.toNat / 256), UInt8.ofNat value.toNat]).map (.done, ·)
  | .append bytes => (t.write bytes).map (.done, ·)
  | .setByte position byte => (t.setByte position byte).map (.done, ·)
  | .edit start change keeps =>
      (t.edit start change keeps).map fun result => (.octets result.1, result.2)
  | .readByte => (t.take 1).map fun result => (.octet (UInt8.ofNat (bigEndian result.1)), result.2)
  | .readShort =>
      (t.take 2).map fun result => (.short (UInt16.ofNat (bigEndian result.1)), result.2)
  | .read n => (t.take n).map fun result => (.octets result.1, result.2)
  | .readInto buffer => (t.take buffer.length).map fun result => (.octets result.1, result.2)

/-- One byte taken is the number that it stands for. -/
theorem perform_readByte (t : Tape) :
    t.perform .readByte = (t.take 1).map fun result => (.octet (result.1.headD 0), result.2) := by
  unfold perform
  cases htake : t.take 1 with
  | error cause => rfl
  | ok result =>
      obtain ⟨bytes, t'⟩ := result
      obtain ⟨byte, rfl⟩ := List.length_eq_one_iff.mp (length_of_take htake)
      simp [Except.map, bigEndian]

/-- Two bytes taken are the number that has the first as its most significant one. -/
theorem perform_readShort (t : Tape) :
    t.perform .readShort = (t.take 2).map fun result =>
      (.short (Octet.toShort (result.1.headD 0) (result.1.getD 1 0)), result.2) := by
  unfold perform
  cases htake : t.take 2 with
  | error cause => rfl
  | ok result =>
      obtain ⟨bytes, t'⟩ := result
      obtain ⟨high, low, rfl⟩ := List.length_eq_two.mp (length_of_take htake)
      have hshort : Octet.toShort high low = UInt16.ofNat (bigEndian [high, low]) := by
        apply UInt16.toNat_inj.mp
        have hhigh := high.toNat_lt
        have hlow := low.toNat_lt
        rw [Octet.toNat_toShort, UInt16.toNat_ofNat_of_lt']
        · simp [bigEndian]
        · simp only [bigEndian, List.foldl_cons, List.foldl_nil, UInt16.size]
          omega
      simp [Except.map, hshort]

def view (t : Tape) : QueueView :=
  { written := t.written
    unread := t.written.drop t.position
    cursor := t.position
    length := t.written.length
    remaining := t.written.length - t.position
    space := t.limit - t.written.length
    isEmpty := t.written.isEmpty }

/-- Operations in a row, whether they are refused or not. -/
def run : List QueueOp → Tape → List (Except QueueError QueueAnswer) × Tape :=
  answers fun op => refusable (perform op)

end Tape

/-! ## The tape of a queue -/

namespace FrameQueue

/-- What has been read and what is unread stand on the tape in one piece. -/
def tape (q : FrameQueue) : Tape :=
  { written := q.written
    position := q.cursor
    limit := q.limit
    position_le := by
      rw [length_written]
      exact Nat.le_add_right _ _
    length_le := by
      rw [length_written]
      exact q.length_le_limit
    limit_le := q.limit_le_capacity }

theorem view_tape (q : FrameQueue) : q.tape.view = q.view := by
  have hunread : q.written.drop q.cursor = q.unread := List.drop_left
  have hremaining : q.length - q.cursor = q.remaining := by
    simp [length, cursor, remaining]
  have hempty : q.written.isEmpty = q.isEmpty := by
    cases hconsumed : q.consumed <;> simp [written, isEmpty, hconsumed]
  simp only [Tape.view, view, tape, hunread, length_written, hremaining, hempty, space]

variable (q : FrameQueue)

theorem length_tape : q.tape.written.length = q.length :=
  q.length_written

/-- Bytes are appended to the queue as they are written on its tape. -/
theorem tape_append (bytes : List UInt8) : (q.append bytes).map tape = q.tape.write bytes := by
  have hfits : bytes.length ≤ q.space ↔ q.tape.written.length + bytes.length ≤ q.tape.limit := by
    have := q.length_add_space
    simp only [tape, length_written]
    omega
  unfold append Tape.write
  split
  next h =>
    rw [dif_pos (hfits.mp h)]
    simp [Except.map, tape, written, cursor]
  next h =>
    rw [dif_neg (mt hfits.mpr h)]
    rfl

/-- Bytes are read from the queue as they are taken from its tape. -/
theorem tape_read (n : Nat) : (q.read n).map (Prod.map id tape) = q.tape.take n := by
  have hthere : n ≤ q.remaining ↔ q.tape.position + n ≤ q.tape.written.length := by
    simp only [tape, length_written, length, cursor, remaining]
    omega
  have hunread : q.tape.written.drop q.tape.position = q.unread := List.drop_left
  unfold read Tape.take
  split
  next h =>
    have hlength : (q.unread.take n).length = n := List.length_take_of_le h
    rw [dif_pos (hthere.mp h), hunread]
    simp [Except.map, tape, written, cursor, hlength]
  next h =>
    rw [dif_neg (mt hthere.mpr h)]
    rfl

theorem readByte_eq_read :
    q.readByte = (q.read 1).map fun result => (result.1.headD 0, result.2) := by
  unfold readByte read
  split
  next h =>
    have hnone : ¬1 ≤ q.remaining := by simp [remaining, h]
    rw [if_neg hnone]
    rfl
  next byte rest h =>
    have hone : 1 ≤ q.remaining := by simp [remaining, h]
    rw [if_pos hone]
    simp [Except.map, h]

theorem readShort_eq_read :
    q.readShort = (q.read 2).map fun result =>
      (Octet.toShort (result.1.headD 0) (result.1.getD 1 0), result.2) := by
  unfold readShort
  split
  next high low rest h =>
    rw [h]
    rfl
  next bytes rest hshort h =>
    -- Whoever has read two bytes has two bytes.
    exfalso
    unfold read at h
    split at h
    next htwo =>
      cases h
      rcases hunread : q.unread with _ | ⟨high, _ | ⟨low, rest⟩⟩
      · simp [remaining, hunread] at htwo
      · simp [remaining, hunread] at htwo
      · exact hshort high low _ (Prod.ext (by simp [hunread]) rfl)
    · cases h
  next cause h =>
    rw [h]
    unfold read at h
    split at h
    · cases h
    · cases h
      rfl

theorem tape_load (bytes : List UInt8) : (load bytes).map tape = Tape.load bytes := by
  unfold load Tape.load
  by_cases h : bytes.length ≤ queueCapacity
  · have hfits : empty.tape.written.length + bytes.length ≤ empty.tape.limit := by
      simpa [tape, written, empty] using h
    rw [if_pos h, dif_pos h, tape_append, Tape.write, dif_pos hfits]
    rfl
  · rw [if_neg h, dif_neg h]
    rfl

theorem tape_setLimit (limit : Nat) : (q.setLimit limit).map tape = q.tape.setLimit limit := by
  unfold setLimit Tape.setLimit
  by_cases h : limit ≤ queueCapacity ∧ q.length ≤ limit
  · rw [dif_pos h, dif_pos (by rwa [length_tape])]
    rfl
  · rw [dif_neg h, dif_neg (by rwa [length_tape])]
    rfl

theorem tape_truncate (length : Nat) : (q.truncate length).map tape = q.tape.truncate length := by
  unfold truncate Tape.truncate
  by_cases h : length ≤ q.length
  · rw [if_pos h, dif_pos (by rwa [length_tape])]
    simp [Except.map, tape, written, cursor, List.take_append, Nat.min_comm]
  · rw [if_neg h, dif_neg (by rwa [length_tape])]
    rfl

theorem tape_seek (position : Nat) : (q.seek position).map tape = q.tape.seek position := by
  unfold seek Tape.seek
  by_cases h : position ≤ q.length
  · have hposition : (q.splitAt position).cursor = position := by
      rw [cursor, splitAt, List.length_take_of_le (by rwa [length_written])]
    have hwritten : (q.splitAt position).written = q.written := List.take_append_drop _ _
    rw [if_pos h, dif_pos (by rwa [length_tape])]
    exact congrArg Except.ok (Tape.ext hwritten hposition rfl)
  · rw [if_neg h, dif_neg (by rwa [length_tape])]
    rfl

theorem cursor_setByte {q' : FrameQueue} {position : Nat} {byte : UInt8}
    (h : q.setByte position byte = .ok q') : q'.cursor = q.cursor := by
  unfold setByte at h
  split at h
  · cases h
    simp only [cursor, written, List.length_take, List.length_set, List.length_append]
    omega
  · cases h

theorem cursor_setRegion (bytes : List UInt8) : (q.setRegion bytes).cursor = q.cursor := by
  simp only [setRegion, cursor, List.length_take, List.length_append, length_written, length]
  omega

theorem tape_setByte (position : Nat) (byte : UInt8) :
    (q.setByte position byte).map tape = q.tape.setByte position byte := by
  unfold Tape.setByte
  rw [length_tape]
  by_cases h : position < q.length
  · cases hset : q.setByte position byte with
    | ok q' =>
        rw [if_pos h]
        exact congrArg Except.ok
          (Tape.ext (written_setByte hset) (q.cursor_setByte hset) (limit_setByte hset))
    | error cause => simp [setByte, h] at hset
  · rw [setByte, if_neg h, if_neg h]
    rfl

theorem tape_edit (start : Nat) (change : List UInt8 → List UInt8)
    (keeps : ∀ bytes, (change bytes).length = bytes.length) :
    (q.region start).map (fun bytes => (bytes, (q.setRegion (change bytes)).tape)) =
      q.tape.edit start change keeps := by
  unfold region Tape.edit
  by_cases h : start ≤ q.length
  · have hdrop : (q.written.drop start).length = q.length - start := by simp
    have hle : (change (q.written.drop start)).length ≤ q.length := by
      rw [keeps, hdrop]
      exact Nat.sub_le _ _
    have hwritten := q.written_setRegion hle
    rw [keeps, hdrop, Nat.sub_sub_self h] at hwritten
    rw [if_pos h, if_pos (by rwa [length_tape])]
    exact congrArg Except.ok (Prod.ext rfl (Tape.ext hwritten (q.cursor_setRegion _) rfl))
  · rw [if_neg h, if_neg (by rwa [length_tape])]
    rfl

/-- An answer put beside what an operation yields says nothing about the queue. -/
theorem map_beside {α : Type} (x : Except QueueError (α × FrameQueue)) (answer : α → QueueAnswer) :
    (x.map fun result => (answer result.1, result.2)).map (Prod.map id tape) =
      (x.map (Prod.map id tape)).map fun result => (answer result.1, result.2) := by
  cases x <;> rfl

theorem map_done (x : Except QueueError FrameQueue) :
    (x.map (QueueAnswer.done, ·)).map (Prod.map id tape) = (x.map tape).map (.done, ·) := by
  cases x <;> rfl

/-- Each operation answers as on the tape, and does to the tape what is said of it. -/
theorem tape_perform (op : QueueOp) :
    (q.perform op).map (Prod.map id tape) = q.tape.perform op := by
  cases op with
  | empty => rfl
  | byteAt position => rfl
  | load bytes => rw [perform, map_done, tape_load]; rfl
  | setLimit limit => rw [perform, map_done, tape_setLimit]; rfl
  | truncate length => rw [perform, map_done, tape_truncate]; rfl
  | seek position => rw [perform, map_done, tape_seek]; rfl
  | skip n =>
      rw [perform, map_done, Tape.perform, ← tape_read, skip]
      cases q.read n <;> rfl
  | push byte => rw [perform, map_done, push, tape_append]; rfl
  | appendShort value =>
      rw [perform, map_done, appendShort, tape_append, Octet.ofShort_eq]; rfl
  | append bytes => rw [perform, map_done, tape_append]; rfl
  | setByte position byte => rw [perform, map_done, tape_setByte]; rfl
  | edit start change keeps =>
      rw [perform, Tape.perform, ← tape_edit]
      cases q.region start <;> rfl
  | readByte =>
      rw [perform, Tape.perform_readByte, readByte_eq_read, ← tape_read]
      cases q.read 1 <;> rfl
  | readShort =>
      rw [perform, Tape.perform_readShort, readShort_eq_read, ← tape_read]
      cases q.read 2 <;> rfl
  | read n => rw [perform, map_beside, tape_read]; rfl
  | readInto buffer => rw [perform, map_beside, tape_read]; rfl

/-- A refusal leaves the tape as it leaves the queue. -/
theorem tape_refusable (op : QueueOp) :
    Prod.map id tape (refusable (perform op) q) = refusable (Tape.perform op) q.tape := by
  unfold refusable
  rw [← tape_perform]
  cases q.perform op <;> rfl

/-- A queue gives the answers of its tape, operation by operation. -/
theorem tape_run (ops : List QueueOp) : Prod.map id tape (q.run ops) = q.tape.run ops :=
  answers_map (fun op q => q.tape_refusable op) ops q

end FrameQueue

end Mode2
