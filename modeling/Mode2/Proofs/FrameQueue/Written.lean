import Mode2.FrameQueue.Script

/-!
# The bytes of a frame under its operations

What each operation on a queue does to the bytes of the frame and to its limit, without
regard to where the read cursor stands.
-/

namespace Mode2.FrameQueue

variable {q q' : FrameQueue} {bytes : List UInt8}

theorem length_eq (q : FrameQueue) : q.length = q.written.length :=
  q.length_written.symm

theorem length_pos (h : q.isEmpty = false) : 0 < q.length := by
  rw [length, ← List.length_append, List.length_pos_iff]
  intro hnil
  obtain ⟨hconsumed, hunread⟩ := List.append_eq_nil_iff.mp hnil
  simp [isEmpty, hconsumed, hunread] at h

/-! ## Writing -/

theorem written_append (h : q.append bytes = .ok q') : q'.written = q.written ++ bytes := by
  unfold append at h
  split at h
  · cases h
    simp [written]
  · cases h

theorem limit_append (h : q.append bytes = .ok q') : q'.limit = q.limit := by
  unfold append at h
  split at h
  · cases h
    rfl
  · cases h

theorem cursor_append (h : q.append bytes = .ok q') : q'.cursor = q.cursor := by
  unfold append at h
  split at h
  · cases h
    rfl
  · cases h

theorem length_append (h : q.append bytes = .ok q') : q'.length = q.length + bytes.length := by
  rw [length_eq, written_append h, List.length_append, length_written]

theorem space_append (h : q.append bytes = .ok q') : q'.space = q.space - bytes.length := by
  have hbefore := q.length_add_space
  have hafter := q'.length_add_space
  rw [length_append h, limit_append h] at hafter
  omega

/-- Bytes that can be appended fit. -/
theorem length_le_space_of_append (h : q.append bytes = .ok q') : bytes.length ≤ q.space := by
  have hlimit := q'.length_le_limit
  have hspace := q.length_add_space
  rw [← length.eq_def, length_append h, limit_append h] at hlimit
  omega

/-- Bytes are appended where there is room for them. -/
theorem exists_append (h : bytes.length ≤ q.space) : ∃ q', q.append bytes = .ok q' := by
  unfold append
  rw [dif_pos h]
  exact ⟨_, rfl⟩

theorem append_nil (q : FrameQueue) : q.append [] = .ok q := by
  simp [append]

/-- Bytes appended in two parts are appended together. -/
theorem append_append {q₁ q₂ : FrameQueue} {first second : List UInt8}
    (hfirst : q.append first = .ok q₁) (hsecond : q₁.append second = .ok q₂) :
    q.append (first ++ second) = .ok q₂ := by
  unfold append at hfirst hsecond
  split at hfirst
  next hfits =>
    cases hfirst
    split at hsecond
    next hfits' =>
      cases hsecond
      have hboth : (first ++ second).length ≤ q.space := by
        simp only [space, length, List.length_append] at hfits hfits' ⊢
        omega
      unfold append
      rw [dif_pos hboth]
      simp only [List.append_assoc]
    · cases hsecond
  · cases hfirst

/-- Bytes are appended together as in two parts. -/
theorem append_append_iff {first second : List UInt8} : q.append (first ++ second) = .ok q' ↔
    ∃ q₁, q.append first = .ok q₁ ∧ q₁.append second = .ok q' := by
  refine ⟨fun h => ?_, fun ⟨q₁, hfirst, hsecond⟩ => append_append hfirst hsecond⟩
  have hfits := length_le_space_of_append h
  rw [List.length_append] at hfits
  obtain ⟨q₁, hfirst⟩ := exists_append (Nat.le_of_add_right_le hfits)
  have hrest : second.length ≤ q₁.space := by
    rw [space_append hfirst]
    omega
  obtain ⟨q₂, hsecond⟩ := exists_append hrest
  have hboth := append_append hfirst hsecond
  rw [h] at hboth
  cases hboth
  exact ⟨q₁, hfirst, hsecond⟩

theorem written_setByte {position : Nat} {byte : UInt8} (h : q.setByte position byte = .ok q') :
    q'.written = q.written.set position byte := by
  unfold setByte at h
  split at h
  · cases h
    simp [written]
  · cases h

theorem limit_setByte {position : Nat} {byte : UInt8} (h : q.setByte position byte = .ok q') :
    q'.limit = q.limit := by
  unfold setByte at h
  split at h
  · cases h
    rfl
  · cases h

theorem length_setByte {position : Nat} {byte : UInt8} (h : q.setByte position byte = .ok q') :
    q'.length = q.length := by
  rw [length_eq, written_setByte h, List.length_set, length_written]

theorem written_setRegion (q : FrameQueue) (h : bytes.length ≤ q.length) :
    (q.setRegion bytes).written = q.written.take (q.length - bytes.length) ++ bytes := by
  simp only [setRegion, written, List.take_append_drop]
  rw [List.take_of_length_le h]

@[simp] theorem length_setRegion (q : FrameQueue) (bytes : List UInt8) :
    (q.setRegion bytes).length = q.length := by
  rw [length_eq]
  simp only [setRegion, written, List.take_append_drop, List.length_append, List.length_take,
    length]
  omega

/-! ## Fresh queues -/

theorem setLimit_empty {limit : Nat} (h : empty.setLimit limit = .ok q) :
    q.consumed = [] ∧ q.unread = [] ∧ q.limit = limit := by
  unfold setLimit at h
  split at h
  · cases h
    exact ⟨rfl, rfl, rfl⟩
  · cases h

theorem limit_load (h : load bytes = .ok q) : q.limit = queueCapacity := by
  unfold load at h
  split at h
  · exact limit_append h
  · cases h

theorem load_eq_ok (h : load bytes = .ok q) : q.consumed = [] ∧ q.unread = bytes := by
  unfold load at h
  split at h
  · unfold append at h
    split at h
    · cases h
      exact ⟨rfl, rfl⟩
    · cases h
  · cases h

theorem exists_load (h : bytes.length ≤ queueCapacity) : ∃ q, load bytes = .ok q := by
  unfold load
  rw [if_pos h]
  exact exists_append h

theorem written_of_load (h : load bytes = .ok q) : q.written = bytes := by
  obtain ⟨hconsumed, hunread⟩ := load_eq_ok h
  rw [written, hconsumed, hunread, List.nil_append]

/-- Whatever a queue holds can be loaded into another. -/
theorem exists_load_written (q : FrameQueue) : ∃ q', load q.written = .ok q' := by
  refine exists_load ?_
  rw [length_written]
  exact Nat.le_trans q.length_le_limit q.limit_le_capacity

end Mode2.FrameQueue
