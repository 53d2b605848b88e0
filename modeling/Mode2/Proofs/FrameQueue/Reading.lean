import Mode2.Frame.Length
import Mode2.Proofs.FrameQueue.Written
import Mode2.Proofs.Steps

/-!
# Reading a frame

What reading does when the bytes that are asked for are the next unread ones.
-/

namespace Mode2

namespace FrameQueue

variable {q : FrameQueue} {bytes rest : List UInt8}

theorem read_of_unread {n : Nat} (h : q.unread = bytes ++ rest) (hn : bytes.length = n) :
    ∃ q', q.read n = .ok (bytes, q') ∧ q'.unread = rest := by
  have hle : n ≤ q.remaining := by
    simp only [remaining, h, List.length_append]
    omega
  have htake : q.unread.take n = bytes := by
    rw [h, ← hn, List.take_left]
  have hdrop : q.unread.drop n = rest := by
    rw [h, ← hn, List.drop_left]
  unfold read
  rw [if_pos hle]
  obtain rfl := htake
  exact ⟨_, rfl, hdrop⟩

/-- Bytes that have been read were the next unread ones. -/
theorem unread_of_read {q' : FrameQueue} {n : Nat} (h : q.read n = .ok (bytes, q')) :
    bytes.length = n ∧ q.unread = bytes ++ q'.unread := by
  unfold read at h
  split at h
  next hthere =>
    cases h
    exact ⟨List.length_take_of_le hthere, (List.take_append_drop n q.unread).symm⟩
  · cases h

theorem readByte_of_unread {byte : UInt8} (h : q.unread = byte :: rest) :
    ∃ q', q.readByte = .ok (byte, q') ∧ q'.unread = rest := by
  unfold readByte
  split
  next hnil =>
    rw [h] at hnil
    cases hnil
  next first others hcons =>
    rw [h] at hcons
    cases hcons
    exact ⟨_, rfl, rfl⟩

/-- A byte that has been read was the next unread one. -/
theorem unread_of_readByte {q' : FrameQueue} {byte : UInt8} (h : q.readByte = .ok (byte, q')) :
    q.unread = byte :: q'.unread := by
  unfold readByte at h
  split at h
  · cases h
  next first others hcons =>
    cases h
    exact hcons

/-- Replacing all unread bytes by as many others leaves what has been read. -/
theorem setRegion_of_unread (h : bytes.length = q.unread.length) :
    q.setRegion bytes =
      ⟨q.consumed, bytes, q.limit, h ▸ q.length_le_limit, q.limit_le_capacity⟩ := by
  have hlength : q.length - bytes.length = q.consumed.length := by
    simp only [length, h]
    omega
  have hall : bytes.length ≤ q.length := by
    simp only [length, h]
    omega
  simp only [setRegion, cursor, hlength, List.take_of_length_le hall, written, List.take_left,
    List.drop_left]

theorem unread_setRegion (h : bytes.length = q.unread.length) :
    (q.setRegion bytes).unread = bytes := by
  rw [setRegion_of_unread h]

theorem truncate_of_le {length : Nat} (h : length ≤ q.length) :
    ∃ q', q.truncate length = .ok q' ∧ q'.written = q.written.take length := by
  unfold truncate
  rw [if_pos h]
  exact ⟨_, rfl, List.take_append.symm⟩

theorem seek_zero (q : FrameQueue) : ∃ q', q.seek 0 = .ok q' ∧ q'.unread = q.written :=
  ⟨q.splitAt 0, rfl, rfl⟩

/-- A frame that has been cut off, and whose first bytes have been passed over. -/
theorem parts_of_cut {q' : FrameQueue} {length n : Nat}
    (h : (do
        let queue ← q.truncate length
        let queue ← queue.seek 0
        queue.skip n) = .ok q') :
    q'.consumed = (q.written.take length).take n ∧ q'.unread = (q.written.take length).drop n ∧
      q'.limit = q.limit := by
  obtain ⟨truncated, htruncated, h⟩ := exists_ok_of_bind h
  obtain ⟨sought, hsought, h⟩ := exists_ok_of_bind h
  have hcut : truncated.written = q.written.take length ∧ truncated.limit = q.limit := by
    unfold truncate at htruncated
    split at htruncated
    · cases htruncated
      exact ⟨List.take_append.symm, rfl⟩
    · cases htruncated
  obtain rfl : truncated.splitAt 0 = sought := Except.ok.inj hsought
  unfold skip read at h
  split at h
  · cases h
    exact ⟨by simp [splitAt, hcut.1], by simp [splitAt, hcut.1], hcut.2⟩
  · cases h

theorem unread_of_cut {q' : FrameQueue} {length n : Nat}
    (h : (do
        let queue ← q.truncate length
        let queue ← queue.seek 0
        queue.skip n) = .ok q') :
    q'.unread = (q.written.take length).drop n :=
  (parts_of_cut h).2.1

/-- A frame that has more bytes can be cut off, and its first bytes can be passed over. -/
theorem exists_cut (q : FrameQueue) {length n : Nat} (hn : n ≤ length)
    (hlength : length ≤ q.length) :
    ∃ q', (do
        let queue ← q.truncate length
        let queue ← queue.seek 0
        queue.skip n) = .ok q' := by
  obtain ⟨truncated, htruncated, hwritten⟩ := truncate_of_le hlength
  obtain ⟨sought, hsought, hunread⟩ := truncated.seek_zero
  have hbytes : (sought.unread.take n).length = n := by
    rw [hunread, hwritten, List.length_take, List.length_take, length_written]
    omega
  obtain ⟨skipped, hskipped, -⟩ :=
    read_of_unread (q := sought) (List.take_append_drop n sought.unread).symm hbytes
  refine ⟨skipped, ?_⟩
  rw [htruncated]
  change (truncated.seek 0 >>= fun queue => queue.skip n) = _
  rw [hsought]
  change sought.skip n = _
  unfold skip
  rw [hskipped]
  rfl

/-- Cutting a frame off after its body and passing over the first two bytes. -/
theorem cut_of_written {first second : UInt8} {body footer : List UInt8}
    (h : q.written = first :: second :: (body ++ footer)) :
    ∃ q', (do
        let queue ← q.truncate (q.length - footer.length)
        let queue ← queue.seek 0
        queue.skip 2) = .ok q' ∧ q'.unread = body := by
  have hlength : q.length - footer.length = (first :: second :: body).length := by
    simp only [length_eq, h, List.length_cons, List.length_append]
    omega
  have htwo : 2 ≤ q.length - footer.length := by
    rw [hlength]
    simp
  obtain ⟨skipped, hskipped⟩ := q.exists_cut htwo (Nat.sub_le _ _)
  refine ⟨skipped, hskipped, ?_⟩
  rw [unread_of_cut hskipped, hlength, h, ← List.cons_append, ← List.cons_append, List.take_left]
  rfl

end FrameQueue

namespace QueueM

variable {α : Type} {q q' : FrameQueue}

theorem eq_ok_of_take {operation : FrameQueue → Except QueueError (α × FrameQueue)} {value : α}
    (h : take operation q = .ok value q') : operation q = .ok (value, q') := by
  unfold take at h
  split at h
  next heq =>
    cases h
    exact heq
  · cases h

end QueueM

end Mode2
