import Mode2.Proofs.FrameQueue.Reading
import Mode2.Proofs.Octet

/-!
# Readers and what they accept

A reader is told by how values are spelled: it accepts the spelling of a value in front of
whatever follows, and nothing else. Readers put together accept the spellings one after the
other.
-/

namespace Mode2.QueueM

variable {α β : Type}

/-- The reader accepts exactly the bytes that spell a value, and leaves the rest unread. -/
structure ReadsAs (reader : QueueM α) (Spells : α → List UInt8 → Prop) : Prop where
  accepts : ∀ {q : FrameQueue} {value : α} {bytes rest : List UInt8}, Spells value bytes →
    q.unread = bytes ++ rest → ∃ q', reader q = .ok value q' ∧ q'.unread = rest
  spelled : ∀ {q q' : FrameQueue} {value : α}, reader q = .ok value q' →
    ∃ bytes, Spells value bytes ∧ q.unread = bytes ++ q'.unread

namespace ReadsAs

variable {reader : QueueM α} {Spells : α → List UInt8 → Prop}

/-- Bytes that a frame has room for begin with the spelling of one value at most. -/
theorem unique (h : ReadsAs reader Spells) {value value' : α} {bytes bytes' rest rest' : List UInt8}
    (hfits : (bytes ++ rest).length ≤ queueCapacity) (hvalue : Spells value bytes)
    (hvalue' : Spells value' bytes') (heq : bytes ++ rest = bytes' ++ rest') :
    value = value' ∧ rest = rest' := by
  -- One queue holds the bytes, and the reader, being a function, reads one value from it.
  obtain ⟨q, hload⟩ := FrameQueue.exists_load hfits
  obtain ⟨-, hq⟩ := FrameQueue.load_eq_ok hload
  obtain ⟨q₁, hread, rfl⟩ := h.accepts hvalue hq
  obtain ⟨q₂, hread', rfl⟩ := h.accepts hvalue' (hq.trans heq)
  rw [hread] at hread'
  cases hread'
  exact ⟨rfl, rfl⟩

/-- The same spellings in other words. -/
theorem congr (h : ReadsAs reader Spells) {Spells' : α → List UInt8 → Prop}
    (hiff : ∀ value bytes, Spells' value bytes ↔ Spells value bytes) : ReadsAs reader Spells' where
  accepts hvalue hq := h.accepts ((hiff _ _).mp hvalue) hq
  spelled hread :=
    let ⟨bytes, hvalue, hq⟩ := h.spelled hread
    ⟨bytes, (hiff _ _).mpr hvalue, hq⟩

theorem pure (value : α) :
    ReadsAs (Pure.pure value : QueueM α) fun value' bytes => value' = value ∧ bytes = [] where
  accepts := by
    rintro q _ _ rest ⟨rfl, rfl⟩ hq
    exact ⟨q, rfl, hq⟩
  spelled := by
    intro q q' value' hread
    cases hread
    exact ⟨[], ⟨rfl, rfl⟩, rfl⟩

/-- A reader that always refuses reads what cannot be spelled. -/
theorem refused (h : ∀ q, ∃ cause q', reader q = .error cause q')
    (hspells : ∀ value bytes, ¬Spells value bytes) : ReadsAs reader Spells where
  accepts hvalue := (hspells _ _ hvalue).elim
  spelled := by
    intro q q' value hread
    obtain ⟨cause, q', hrefused⟩ := h q
    rw [hrefused] at hread
    cases hread

theorem bind (h : ReadsAs reader Spells) {next : α → QueueM β}
    {Spells' : α → β → List UInt8 → Prop} (hnext : ∀ value, ReadsAs (next value) (Spells' value)) :
    ReadsAs (reader >>= next) fun result bytes => ∃ value first second,
      Spells value first ∧ Spells' value result second ∧ bytes = first ++ second where
  accepts := by
    rintro q result _ rest ⟨value, first, second, hfirst, hsecond, rfl⟩ hq
    rw [List.append_assoc] at hq
    obtain ⟨q₁, hread, hq₁⟩ := h.accepts hfirst hq
    obtain ⟨q₂, hread', hq₂⟩ := (hnext value).accepts hsecond hq₁
    refine ⟨q₂, ?_, hq₂⟩
    change EStateM.bind reader next q = _
    unfold EStateM.bind
    rw [hread]
    exact hread'
  spelled := by
    intro q q' result hread
    change EStateM.bind reader next q = _ at hread
    unfold EStateM.bind at hread
    split at hread
    next value q₁ hfirst =>
      obtain ⟨first, hspells, hq⟩ := h.spelled hfirst
      obtain ⟨second, hspells', hq₁⟩ := (hnext value).spelled hread
      exact ⟨first ++ second, ⟨value, first, second, hspells, hspells', rfl⟩, by
        rw [hq, hq₁, List.append_assoc]⟩
    · cases hread

end ReadsAs

/-! ## Bytes and numbers -/

theorem take_eq_ok {operation : FrameQueue → Except QueueError (α × FrameQueue)}
    {q q' : FrameQueue} {value : α} (h : operation q = .ok (value, q')) :
    take operation q = .ok value q' := by
  rw [take, h]

theorem readByte_readsAs : ReadsAs readByte fun byte bytes => bytes = [byte] where
  accepts := by
    rintro q byte _ rest rfl hq
    obtain ⟨q', hread, hrest⟩ := FrameQueue.readByte_of_unread hq
    exact ⟨q', take_eq_ok hread, hrest⟩
  spelled := by
    intro q q' byte hread
    exact ⟨[byte], rfl, FrameQueue.unread_of_readByte (eq_ok_of_take hread)⟩

theorem read_readsAs (n : Nat) :
    ReadsAs (read n) fun value bytes => bytes = value ∧ value.length = n where
  accepts := by
    rintro q value _ rest ⟨rfl, hlength⟩ hq
    obtain ⟨q', hread, hrest⟩ := FrameQueue.read_of_unread hq hlength
    exact ⟨q', take_eq_ok hread, hrest⟩
  spelled := by
    intro q q' value hread
    obtain ⟨hlength, hq⟩ := FrameQueue.unread_of_read (eq_ok_of_take hread)
    exact ⟨value, ⟨rfl, hlength⟩, hq⟩

theorem readShort_readsAs : ReadsAs readShort fun value bytes => bytes = Octet.ofShort value where
  accepts := by
    rintro q value _ rest rfl hq
    obtain ⟨q', hread, hrest⟩ := FrameQueue.read_of_unread hq (n := 2) rfl
    refine ⟨q', take_eq_ok ?_, hrest⟩
    rw [FrameQueue.readShort, hread]
    exact congrArg (fun value => Except.ok (value, q')) (Octet.toShort_of_ofShort rfl)
  spelled := by
    intro q q' value hread
    have hread := eq_ok_of_take hread
    unfold FrameQueue.readShort at hread
    split at hread
    next high low rest htwo =>
      cases hread
      obtain ⟨-, hq⟩ := FrameQueue.unread_of_read htwo
      exact ⟨[high, low], (Octet.ofShort_toShort high low).symm, hq⟩
    all_goals cases hread

end Mode2.QueueM
