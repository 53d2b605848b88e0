import Mode2.Network.Stage
import Mode2.Proofs.FrameQueue.Written
import Mode2.Proofs.Steps

/-!
# Frames from header to footer

A header opens a frame: there is a header in it, and its limit is one that frames keep.
Whatever is appended leaves it open, and the footer completes it.
-/

namespace Mode2

variable {W : Type}

/-- The frame has a length that frames have, and its first byte is its length. -/
def IsCompleteFrame (frame : List UInt8) : Prop :=
  minHeader + footerLength ≤ frame.length ∧ frame.length ≤ maxFrame ∧
    frame.head? = some (UInt8.ofNat frame.length)

instance (frame : List UInt8) : Decidable (IsCompleteFrame frame) :=
  inferInstanceAs (Decidable (_ ∧ _ ∧ _))

namespace FrameQueue

variable {q q' : FrameQueue} {bytes : List UInt8}

/-- The frame has a header and room for no more than frames hold. -/
structure IsOpen (q : FrameQueue) : Prop where
  header : minHeader ≤ q.length
  limit : q.limit ≤ maxFrame

theorem IsOpen.append (h : q.IsOpen) (happend : q.append bytes = .ok q') : q'.IsOpen := by
  refine ⟨?_, ?_⟩
  · rw [length_append happend]
    exact Nat.le_trans h.header (Nat.le_add_right _ _)
  · rw [limit_append happend]
    exact h.limit

theorem IsOpen.setRegion (h : q.IsOpen) (bytes : List UInt8) : (q.setRegion bytes).IsOpen := by
  refine ⟨?_, h.limit⟩
  rw [length_setRegion]
  exact h.header

/-- A complete frame has bytes. -/
theorem isEmpty_of_complete (h : IsCompleteFrame q.written) : q.isEmpty = false := by
  cases hempty : q.isEmpty with
  | false => rfl
  | true =>
      obtain ⟨hconsumed, hunread⟩ : q.consumed = [] ∧ q.unread = [] := by
        simpa [isEmpty] using hempty
      obtain ⟨hlength, -⟩ := h
      simp [written, hconsumed, hunread, minHeader, footerLength] at hlength

/-- Nothing is staged, or a frame that is complete. -/
def IsFinished (q : FrameQueue) : Prop :=
  q.isEmpty = true ∨ IsCompleteFrame q.written

instance (q : FrameQueue) : Decidable q.IsFinished :=
  inferInstanceAs (Decidable (_ ∨ _))

end FrameQueue

theorem Session.frameLimit_le (s : Session) : s.frameLimit ≤ maxFrame := by
  unfold frameLimit
  split
  · decide
  · exact Nat.le_refl _

namespace NetworkLayer

theorem minHeader_le_clearHeader (c : Config) (s : Session) (addressing : Addressing)
    (nack : Bool) : minHeader ≤ (clearHeader c s addressing nack).length := by
  simp only [clearHeader, minHeader, List.length_append, List.length_cons, List.length_nil]
  omega

theorem isOpen_stageHeader {n m : NetworkLayer} {c : Config} {s t : Session}
    {addressing : Addressing} {nack : Bool}
    (h : n.stageHeader c s addressing nack = .ok (t, m)) : m.outbound.IsOpen := by
  unfold stageHeader at h
  split at h
  · cases h
  dsimp only at h
  split at h
  · cases h
  next queue hqueue =>
    cases h
    obtain ⟨fresh, hfresh, hheader⟩ := exists_ok_of_bind hqueue
    obtain ⟨-, -, hlimit⟩ := FrameQueue.setLimit_empty hfresh
    refine ⟨?_, ?_⟩
    · rw [FrameQueue.length_append hheader, List.length_append]
      have := minHeader_le_clearHeader c s.advanceDialog addressing nack
      omega
    · rw [FrameQueue.limit_append hheader, hlimit]
      exact s.advanceDialog.frameLimit_le

/-- The footer completes an open frame. -/
theorem isCompleteFrame_appendFooter {n m : NetworkLayer} (hopen : n.outbound.IsOpen)
    (h : n.appendFooter = .ok m) : IsCompleteFrame m.outbound.written := by
  unfold appendFooter at h
  obtain ⟨reserved, hreserved, h⟩ := exists_ok_of_bind h
  obtain ⟨counted, hcounted, h⟩ := exists_ok_of_bind h
  obtain ⟨finished, hfinished, h⟩ := exists_ok_of_bind h
  cases h
  have hlength : finished.length = n.outbound.length + footerLength := by
    rw [FrameQueue.length_setByte hfinished, FrameQueue.length_setByte hcounted,
      FrameQueue.length_append hreserved, List.length_replicate]
  have hlimit : finished.limit ≤ maxFrame := by
    rw [FrameQueue.limit_setByte hfinished, FrameQueue.limit_setByte hcounted,
      FrameQueue.limit_append hreserved]
    exact hopen.limit
  have hheader := hopen.header
  have hbound := finished.length_le_limit
  refine ⟨?_, ?_, ?_⟩
  · rw [FrameQueue.length_written, hlength]
    omega
  · rw [FrameQueue.length_written]
    exact Nat.le_trans hbound hlimit
  -- Only the second byte is set after the length was filled in.
  rw [FrameQueue.length_written, FrameQueue.length_setByte hfinished,
    FrameQueue.length_setByte hcounted, FrameQueue.written_setByte hfinished,
    FrameQueue.written_setByte hcounted]
  cases hwritten : reserved.written with
  | nil =>
      rw [FrameQueue.written_append hreserved] at hwritten
      simp [footerLength] at hwritten
  | cons first rest => rfl

theorem isOpen_encryptRegion {n : NetworkLayer} (hopen : n.outbound.IsOpen)
    (cipher : Option (Cipher W)) (w : W) : (n.encryptRegion cipher w).1.2.outbound.IsOpen := by
  unfold encryptRegion
  split
  · exact hopen
  · exact hopen
  · split
    · exact hopen
    · exact hopen.setRegion _

theorem isCompleteFrame_complete {n m : NetworkLayer} {cipher : Option (Cipher W)} {w w' : W}
    (hopen : n.outbound.IsOpen) (h : n.complete cipher w = ((.ok (), m), w')) :
    IsCompleteFrame m.outbound.written := by
  have hencrypted := isOpen_encryptRegion hopen cipher w
  unfold complete at h
  split at h
  · cases h
  next encrypted world hregion =>
    rw [hregion] at hencrypted
    split at h
    · cases h
    next completed hfooter =>
      cases h
      exact isCompleteFrame_appendFooter hencrypted hfooter

end NetworkLayer

end Mode2
