import Mode2.Proofs.FrameQueue.Tape
import Mode2.Proofs.Query.Grammar

/-!
# Decoding queries and calls

What stands in front of a reader begins with the encoding of one value, or gives a length or a
count that is too large, or is the beginning of an encoding that breaks off. The readers of
queries and calls tell which of the three it is, and take exactly the bytes of the encoding.
-/

namespace Mode2

variable {α : Type}

/-- The bytes are the beginning of an encoding that goes on. -/
def BreaksOff (Valid : α → Prop) (encode : α → List UInt8) (bytes : List UInt8) : Prop :=
  ∃ value more, Valid value ∧ more ≠ [] ∧ encode value = bytes ++ more

/-- Bytes that are too few can be filled up. -/
theorem exists_filled_up {bytes : List UInt8} {n : Nat} (h : bytes.length < n) :
    ∃ more, more ≠ [] ∧ (bytes ++ more).length = n := by
  refine ⟨List.replicate (n - bytes.length) 0, ?_, ?_⟩
  · rw [Ne, List.replicate_eq_nil_iff]
    omega
  · rw [List.length_append, List.length_replicate]
    omega

namespace FrameQueue

/-- The same frame under the same limit, wherever the cursor stands. -/
structure SameBytes (q q' : FrameQueue) : Prop where
  written_eq : q'.written = q.written
  limit_eq : q'.limit = q.limit

theorem SameBytes.refl (q : FrameQueue) : q.SameBytes q := ⟨rfl, rfl⟩

theorem SameBytes.trans {q q₁ q₂ : FrameQueue} (h : q.SameBytes q₁) (h' : q₁.SameBytes q₂) :
    q.SameBytes q₂ :=
  ⟨h'.written_eq.trans h.written_eq, h'.limit_eq.trans h.limit_eq⟩

theorem length_unread_le (q : FrameQueue) : q.unread.length ≤ queueCapacity :=
  Nat.le_trans (Nat.le_add_left _ _) (Nat.le_trans q.length_le_limit q.limit_le_capacity)

/-- Bytes that are no longer unread have been consumed. -/
theorem SameBytes.consumed_eq {q q' : FrameQueue} {bytes : List UInt8} (h : q.SameBytes q')
    (hunread : q.unread = bytes ++ q'.unread) : q'.consumed = q.consumed ++ bytes := by
  have hwritten := h.written_eq
  rw [written, written, hunread, ← List.append_assoc] at hwritten
  exact List.append_cancel_right hwritten

end FrameQueue

namespace QueueM

open FrameQueue

/-- The reader decodes values from their encodings: it takes an encoding from the front of the
unread bytes and leaves the rest of them, and the front can be read in one way only. Other
bytes are refused, either because they give a size that is too large, or because they break
off. -/
structure Decodes (reader : QueueM α) (Valid : α → Prop) (encode : α → List UInt8)
    (Oversized : List UInt8 → Prop) : Prop where
  ok_iff : ∀ {q q' : FrameQueue} {value : α}, reader q = .ok value q' ↔
    Valid value ∧ q.unread = encode value ++ q'.unread ∧
      q'.consumed = q.consumed ++ encode value ∧ q'.limit = q.limit
  unique : ∀ {q : FrameQueue} {value value' : α} {rest rest' : List UInt8},
    Valid value → q.unread = encode value ++ rest →
      Valid value' → q.unread = encode value' ++ rest' → value = value' ∧ rest = rest'
  capacity_iff : ∀ {q : FrameQueue},
    (∃ q', reader q = .error .capacity q') ↔ Oversized q.unread
  underrun_iff : ∀ {q : FrameQueue},
    (∃ q', reader q = .error .underrun q') ↔ BreaksOff Valid encode q.unread
  decided : ∀ q, (∃ value q', reader q = .ok value q') ∨
    (∃ q', reader q = .error .capacity q') ∨ ∃ q', reader q = .error .underrun q'

/-! ## Refusals -/

section Ends

variable {q : FrameQueue} {bad : QueueError → FrameQueue → Prop}

/-- An operation that reads some bytes yields what it makes of them, or there are too few. -/
theorem ends_take {operation : FrameQueue → Except QueueError (α × FrameQueue)} {n : Nat}
    {f : List UInt8 → α} {good : α → FrameQueue → Prop}
    (hoperation : operation q = (q.read n).map fun result => (f result.1, result.2))
    (hread : ∀ bytes q', bytes.length = n → q.unread = bytes ++ q'.unread → q.SameBytes q' →
      good (f bytes) q')
    (hshort : q.unread.length < n → bad .underrun q) : Ends (take operation) q good bad := by
  unfold Ends take
  dsimp only [EStateM.run]
  rw [hoperation, FrameQueue.read]
  by_cases hthere : n ≤ q.remaining
  · rw [if_pos hthere]
    exact hread _ _ (List.length_take_of_le hthere) (List.take_append_drop n _).symm
      ⟨by simp [written], rfl⟩
  · rw [if_neg hthere]
    exact hshort (Nat.lt_of_not_le hthere)

theorem ends_read {n : Nat} {good : List UInt8 → FrameQueue → Prop}
    (hread : ∀ bytes q', bytes.length = n → q.unread = bytes ++ q'.unread → q.SameBytes q' →
      good bytes q')
    (hshort : q.unread.length < n → bad .underrun q) : Ends (read n) q good bad :=
  ends_take (f := id) (by cases q.read n <;> rfl) hread hshort

theorem ends_readByte {good : UInt8 → FrameQueue → Prop}
    (hread : ∀ byte q', q.unread = byte :: q'.unread → q.SameBytes q' → good byte q')
    (hnone : q.unread = [] → bad .underrun q) : Ends readByte q good bad := by
  refine ends_take (f := (·.headD 0)) q.readByte_eq_read (fun bytes q' hlength hunread hsame => ?_)
    fun hlength => ?_
  · obtain ⟨byte, rfl⟩ := List.length_eq_one_iff.mp hlength
    exact hread byte q' hunread hsame
  · exact hnone (List.length_eq_zero_iff.mp (Nat.lt_one_iff.mp hlength))

theorem ends_readShort {good : UInt16 → FrameQueue → Prop}
    (hread : ∀ value q', q.unread = Octet.ofShort value ++ q'.unread → q.SameBytes q' →
      good value q')
    (hshort : q.unread.length < 2 → bad .underrun q) : Ends readShort q good bad := by
  refine ends_take (f := fun bytes => Octet.toShort (bytes.headD 0) (bytes.getD 1 0))
    q.readShort_eq_read (fun bytes q' hlength hunread hsame => ?_) hshort
  obtain ⟨high, low, rfl⟩ := List.length_eq_two.mp hlength
  refine hread _ q' ?_ hsame
  rw [Octet.ofShort_toShort, hunread]
  rfl

end Ends

/-- A reader decodes encodings if it reads what is spelled by them, takes nothing out of the
frame, and tells why it refuses what it refuses. No size within an encoding may be too large. -/
theorem Decodes.of_reads {reader : QueueM α} {Valid : α → Prop} {encode : α → List UInt8}
    {Oversized : List UInt8 → Prop}
    (hreads : ReadsAs reader fun value bytes => Valid value ∧ bytes = encode value)
    (hfits : ∀ {value}, Valid value → (encode value).length ≤ queueCapacity)
    (hends : ∀ q, Ends reader q (fun _ q' => q.SameBytes q') fun cause _ =>
      cause = .capacity ∧ Oversized q.unread ∨
        cause = .underrun ∧ BreaksOff Valid encode q.unread)
    (hsizes : ∀ {value bytes more rest}, Valid value → Oversized bytes →
      bytes ++ more ≠ encode value ++ rest) :
    Decodes reader Valid encode Oversized := by
  have hok : ∀ {q q' value}, reader q = .ok value q' ↔ Valid value ∧
      q.unread = encode value ++ q'.unread ∧ q'.consumed = q.consumed ++ encode value ∧
        q'.limit = q.limit := by
    intro q q' value
    constructor
    · intro hread
      obtain ⟨_, ⟨hvalid, rfl⟩, hunread⟩ := hreads.spelled hread
      have hsame : q.SameBytes q' := (hends q).of_ok hread
      exact ⟨hvalid, hunread, hsame.consumed_eq hunread, hsame.limit_eq⟩
    · rintro ⟨hvalid, hunread, hconsumed, hlimit⟩
      obtain ⟨q₁, hread, hrest⟩ := hreads.accepts ⟨hvalid, rfl⟩ hunread
      have hsame : q.SameBytes q₁ := (hends q).of_ok hread
      have hconsumed₁ := hsame.consumed_eq (hunread.trans (by rw [hrest]))
      have hlimit₁ := hsame.limit_eq
      obtain rfl : q₁ = q' := by
        obtain ⟨consumed, unread, limit, _, _⟩ := q'
        obtain ⟨consumed₁, unread₁, limit₁, _, _⟩ := q₁
        simp_all
      exact hread
  have hunique : ∀ {value value' : α} {rest rest' : List UInt8},
      Valid value → Valid value' → (encode value ++ rest).length ≤ queueCapacity →
      encode value ++ rest = encode value' ++ rest' → value = value' ∧ rest = rest' :=
    fun hvalid hvalid' hfits heq => hreads.unique hfits ⟨hvalid, rfl⟩ ⟨hvalid', rfl⟩ heq
  have hcases : ∀ q, (∃ value q', reader q = .ok value q') ∨
      (∃ q', reader q = .error .capacity q') ∨ ∃ q', reader q = .error .underrun q' := by
    intro q
    cases hread : reader q with
    | ok value q' => exact .inl ⟨value, q', rfl⟩
    | error cause q' =>
        rcases (hends q).of_error hread with ⟨rfl, -⟩ | ⟨rfl, -⟩
        · exact .inr (.inl ⟨q', rfl⟩)
        · exact .inr (.inr ⟨q', rfl⟩)
  have hcapacity : ∀ {q q'}, reader q = .error .capacity q' → Oversized q.unread := by
    intro q q' hread
    rcases (hends q).of_error hread with ⟨-, hsize⟩ | ⟨hcause, -⟩
    · exact hsize
    · cases hcause
  have hunderrun : ∀ {q q'}, reader q = .error .underrun q' →
      BreaksOff Valid encode q.unread := by
    intro q q' hread
    rcases (hends q).of_error hread with ⟨hcause, -⟩ | ⟨-, hbreaks⟩
    · cases hcause
    · exact hbreaks
  refine ⟨hok, ?_, ?_, ?_, hcases⟩
  · intro q value value' rest rest' hvalid hunread hvalid' hunread'
    refine hunique hvalid hvalid' ?_ (hunread.symm.trans hunread')
    rw [← hunread]
    exact q.length_unread_le
  · intro q
    constructor
    · rintro ⟨q', hread⟩
      exact hcapacity hread
    · intro hsize
      rcases hcases q with ⟨value, q', hread⟩ | h | ⟨q', hread⟩
      · obtain ⟨hvalid, hunread, -⟩ := hok.mp hread
        exact (hsizes hvalid hsize ((List.append_nil _).trans hunread)).elim
      · exact h
      · obtain ⟨value, more, hvalid, -, hencode⟩ := hunderrun hread
        exact (hsizes hvalid hsize (hencode.symm.trans (List.append_nil _).symm)).elim
  · intro q
    constructor
    · rintro ⟨q', hread⟩
      exact hunderrun hread
    · rintro ⟨value, more, hvalid, hmore, h⟩
      rcases hcases q with ⟨value', q', hread⟩ | ⟨q', hread⟩ | h'
      · obtain ⟨hvalid', hunread, -⟩ := hok.mp hread
        rw [hunread, List.append_assoc] at h
        rw [← List.append_nil (encode value)] at h
        have hfits : (encode value ++ []).length ≤ queueCapacity := by
          rw [List.append_nil]
          exact hfits hvalid
        obtain ⟨-, hnone⟩ := hunique hvalid hvalid' hfits h
        exact absurd (List.append_eq_nil_iff.mp hnone.symm).2 hmore
      · exact (hsizes hvalid (hcapacity hread) (h.symm.trans (List.append_nil _).symm)).elim
      · exact h'

end QueueM

/-! ## Templates -/

namespace Template

/-- The length of a comparison is given, and it is too large. -/
def Oversized (bytes : List UInt8) : Prop :=
  ∃ length code rest, bytes = length :: code :: rest ∧ code &&& typeBits ≠ 0 ∧
    maxToken < length.toNat

theorem length_encode_le {t : Template} (hwell : t.WellFormed) :
    t.encode.length ≤ queueCapacity := by
  unfold encode
  split
  · exact Nat.le_of_ble_eq_true rfl
  next hcode =>
    obtain ⟨hlength, hmask, hvalue⟩ := hwell.compared hcode
    rw [maxToken] at hlength
    rw [queueCapacity]
    split <;> simp only [List.length_cons, List.length_append, List.length_nil] <;> omega

/-- How many bytes a comparison takes after its length and code. -/
def tokenLength (length code : UInt8) : Nat :=
  (if Octet.hasAny code maskBit then length.toNat else 0) + length.toNat

/-- What is too short for a comparison breaks off. -/
theorem breaksOff_of_short {length code : UInt8} (hcode : code &&& typeBits ≠ 0)
    (hlength : length.toNat ≤ maxToken) {bytes : List UInt8}
    (hshort : bytes.length < tokenLength length code) :
    BreaksOff WellFormed encode (length :: code :: bytes) := by
  obtain ⟨more, hmore, hfull⟩ := exists_filled_up hshort
  unfold tokenLength at hfull
  by_cases hmasked : Octet.hasAny code maskBit = true
  · rw [if_pos hmasked] at hfull
    refine ⟨{ length, code, mask := (bytes ++ more).take length.toNat,
              value := (bytes ++ more).drop length.toNat }, more, ?_, hmore, ?_⟩
    · refine ⟨(absurd · hcode), fun _ => ⟨hlength, ?_, ?_⟩, fun _ hnone => ?_⟩
      · exact List.length_take_of_le (by omega)
      · change ((bytes ++ more).drop length.toNat).length = length.toNat
        rw [List.length_drop]
        omega
      · exact absurd hmasked (by simp [hnone])
    · simp [encode, hcode, hmasked, List.take_append_drop]
  · rw [if_neg hmasked, Nat.zero_add] at hfull
    refine ⟨{ length, code, mask := List.replicate length.toNat 0xFF, value := bytes ++ more },
      more, ?_, hmore, ?_⟩
    · exact ⟨(absurd · hcode), fun _ => ⟨hlength, List.length_replicate, hfull⟩, fun _ _ => rfl⟩
    · simp [encode, hcode, hmasked]

/-- A comparison is refused when it is too long, or when there are too few bytes for it. -/
theorem ends_body (length code : UInt8) (q : FrameQueue) :
    Ends (do
      if code &&& typeBits = 0 then
        return { length, code }
      if maxToken < length.toNat then
        throw .capacity
      let mask ← if Octet.hasAny code maskBit then QueueM.read length.toNat
        else pure (List.replicate length.toNat 0xFF)
      let value ← QueueM.read length.toNat
      return ({ length, code, mask, value } : Template)) q (fun _ q' => q.SameBytes q')
      fun cause _ => code &&& typeBits ≠ 0 ∧
        (cause = .capacity ∧ maxToken < length.toNat ∨ cause = .underrun ∧
          length.toNat ≤ maxToken ∧ q.unread.length < tokenLength length code) := by
  by_cases hcode : code &&& typeBits = 0
  · simp only [if_pos hcode]
    exact .pure (.refl q)
  by_cases hlong : maxToken < length.toNat
  · simp only [if_neg hcode, if_pos hlong]
    exact .bind (.throw ⟨hcode, .inl ⟨rfl, hlong⟩⟩)
  simp only [if_neg hcode, if_neg hlong, tokenLength]
  have hlength := Nat.le_of_not_lt hlong
  by_cases hmasked : Octet.hasAny code maskBit = true
  · simp only [if_pos hmasked]
    refine .bind (QueueM.ends_read (fun mask q₁ hmask hq₁ hsame₁ => ?_) fun hshort =>
      ⟨hcode, .inr ⟨rfl, hlength, by omega⟩⟩)
    refine .bind (QueueM.ends_read (fun value q₂ hvalue hq₂ hsame₂ => .pure (hsame₁.trans hsame₂))
      fun hshort => ⟨hcode, .inr ⟨rfl, hlength, ?_⟩⟩)
    rw [hq₁, List.length_append]
    omega
  · simp only [if_neg hmasked]
    refine .bind (.pure (.bind (QueueM.ends_read (fun value q₁ hvalue hq₁ hsame₁ => .pure hsame₁)
      fun hshort => ⟨hcode, .inr ⟨rfl, hlength, by omega⟩⟩)))

theorem ends_parse (q : FrameQueue) : Ends parse q (fun _ q' => q.SameBytes q') fun cause _ =>
    cause = .capacity ∧ Oversized q.unread ∨
      cause = .underrun ∧ BreaksOff WellFormed encode q.unread := by
  -- A template of another type needs nothing behind its code, so zeros complete it.
  have hzero : (0 : UInt8) &&& typeBits = 0 := by decide
  have hbare : ∀ length, WellFormed { length, code := 0 } := fun length =>
    ⟨fun _ => ⟨rfl, rfl⟩, (absurd hzero ·), (absurd hzero ·)⟩
  refine .bind (QueueM.ends_readByte (fun length q₁ hq₁ hsame₁ => ?_) fun hnone => ?_)
  · refine .bind (QueueM.ends_readByte (fun code q₂ hq₂ hsame₂ => ?_) fun hnone => ?_)
    · refine (ends_body length code q₂).imp (fun _ q₃ hsame₃ => hsame₁.trans (hsame₂.trans hsame₃))
        fun cause q₃ ⟨hcode, hrefused⟩ => ?_
      rw [hq₁, hq₂]
      rcases hrefused with ⟨rfl, hlong⟩ | ⟨rfl, hlength, hshort⟩
      · exact .inl ⟨rfl, length, code, q₂.unread, rfl, hcode, hlong⟩
      · exact .inr ⟨rfl, breaksOff_of_short hcode hlength hshort⟩
    · exact .inr ⟨rfl, _, [0], hbare length, List.cons_ne_nil _ _, by simp [encode, hq₁, hnone]⟩
  · exact .inr ⟨rfl, _, [0, 0], hbare 0, List.cons_ne_nil _ _, by simp [encode, hnone]⟩

theorem not_oversized_encode {t : Template} (hwell : t.WellFormed) {bytes more rest : List UInt8}
    (hsize : Oversized bytes) : bytes ++ more ≠ t.encode ++ rest := by
  rintro heq
  obtain ⟨length, code, bytes, rfl, hcode, hlong⟩ := hsize
  obtain ⟨rfl, hrest⟩ := List.cons.inj heq
  obtain ⟨rfl, -⟩ := List.cons.inj hrest
  exact absurd (hwell.compared hcode).1 (Nat.not_le_of_lt hlong)

theorem decodes_parse : QueueM.Decodes parse WellFormed encode Oversized :=
  .of_reads parse_readsAs length_encode_le ends_parse fun hwell hsize =>
    not_oversized_encode hwell hsize

end Template

/-! ## Targets -/

namespace Target

variable {isSeries : Bool}

/-- The count of a series is given, and it is too large. -/
def Oversized (isSeries : Bool) (bytes : List UInt8) : Prop :=
  isSeries = true ∧ ∃ count rest, bytes = count :: rest ∧ maxSeries < count.toNat

theorem length_encode_le {t : Target} (hwell : t.WellFormed isSeries) :
    t.encode.length ≤ maxSeries + 3 := by
  rw [encode, hwell.isSeries_eq, maxSeries]
  cases isSeries with
  | false =>
      have hone := (hwell.single rfl).1
      simp [hone]
  | true =>
      have hmax : t.ids.length ≤ 8 := hwell.series rfl
      simp [Octet.ofShort]
      omega

/-- What is too short for a series breaks off. -/
theorem breaksOff_of_short {count : UInt8} (hcount : count.toNat ≤ maxSeries)
    {bytes : List UInt8} (hshort : bytes.length < count.toNat + 2) :
    BreaksOff (WellFormed true) encode (count :: bytes) := by
  obtain ⟨more, hmore, hfull⟩ := exists_filled_up hshort
  have hids : ((bytes ++ more).take count.toNat).length = count.toNat :=
    List.length_take_of_le (by omega)
  obtain ⟨high, low, hoffset⟩ : ∃ high low, (bytes ++ more).drop count.toNat = [high, low] :=
    List.length_eq_two.mp (by rw [List.length_drop, hfull, Nat.add_sub_cancel_left])
  refine ⟨{ isSeries := true, ids := (bytes ++ more).take count.toNat,
            offset := Octet.toShort high low }, more, ?_, hmore, ?_⟩
  · exact ⟨rfl, fun _ => Nat.le_trans (Nat.le_of_eq hids) hcount, (nomatch ·)⟩
  · simp only [encode, if_true, hids, UInt8.ofNat_toNat, Octet.ofShort_toShort, ← hoffset]
    rw [List.cons_append, List.take_append_drop, List.cons_append]

theorem exists_wellFormed (isSeries : Bool) : ∃ t : Target, t.WellFormed isSeries := by
  cases isSeries with
  | false => exact ⟨ofFile 0 0, rfl, (nomatch ·), fun _ => ⟨rfl, Nat.le_of_ble_eq_true rfl⟩⟩
  | true => exact ⟨{ isSeries := true }, rfl, fun _ => Nat.zero_le _, (nomatch ·)⟩

theorem ends_single (q : FrameQueue) :
    Ends (do
      let id ← QueueM.readByte
      let offset ← QueueM.readByte
      return ofFile id offset) q (fun _ q' => q.SameBytes q') fun cause _ =>
      cause = .underrun ∧ BreaksOff (WellFormed false) encode q.unread := by
  have hzero : ∀ id, (ofFile id 0).WellFormed false := fun id =>
    ⟨rfl, (nomatch ·), fun _ => ⟨rfl, Nat.le_of_ble_eq_true rfl⟩⟩
  refine .bind (QueueM.ends_readByte (fun id q₁ hq₁ hsame₁ => ?_) fun hnone => ?_)
  · refine .bind (QueueM.ends_readByte (fun offset q₂ _ hsame₂ => .pure (hsame₁.trans hsame₂))
      fun hnone => ?_)
    exact ⟨rfl, _, [0], hzero id, List.cons_ne_nil _ _, by simp [encode, ofFile, hq₁, hnone]⟩
  · exact ⟨rfl, _, [0, 0], hzero 0, List.cons_ne_nil _ _, by simp [encode, ofFile, hnone]⟩

theorem ends_series (q : FrameQueue) :
    Ends (do
      let count ← QueueM.readByte
      if maxSeries < count.toNat then
        throw .capacity
      let ids ← QueueM.read count.toNat
      let offset ← QueueM.readShort
      return ({ isSeries := true, ids, offset } : Target)) q (fun _ q' => q.SameBytes q')
      fun cause _ => cause = .capacity ∧ Oversized true q.unread ∨
        cause = .underrun ∧ BreaksOff (WellFormed true) encode q.unread := by
  refine .bind (QueueM.ends_readByte (fun count q₁ hq₁ hsame₁ => ?_) fun hnone => ?_)
  · rw [hq₁]
    by_cases hlong : maxSeries < count.toNat
    · simp only [if_pos hlong]
      exact .bind (.throw (.inl ⟨rfl, rfl, count, q₁.unread, rfl, hlong⟩))
    simp only [if_neg hlong]
    have hcount := Nat.le_of_not_lt hlong
    refine .bind (QueueM.ends_read (fun ids q₂ hids hq₂ hsame₂ => ?_) fun hshort =>
      .inr ⟨rfl, breaksOff_of_short hcount (by omega)⟩)
    refine .bind (QueueM.ends_readShort (fun offset q₃ _ hsame₃ =>
      .pure (hsame₁.trans (hsame₂.trans hsame₃))) fun hshort =>
      .inr ⟨rfl, breaksOff_of_short hcount ?_⟩)
    rw [hq₂, List.length_append]
    omega
  · refine .inr ⟨rfl, { isSeries := true }, [0, 0, 0], ?_, List.cons_ne_nil _ _, ?_⟩
    · exact ⟨rfl, fun _ => Nat.zero_le _, (nomatch ·)⟩
    · simp [encode, hnone, Octet.ofShort]

theorem ends_parse (isSeries : Bool) (q : FrameQueue) :
    Ends (parse isSeries) q (fun _ q' => q.SameBytes q') fun cause _ =>
      cause = .capacity ∧ Oversized isSeries q.unread ∨
        cause = .underrun ∧ BreaksOff (WellFormed isSeries) encode q.unread := by
  cases isSeries with
  | false => exact (ends_single q).imp (fun _ _ h => h) fun _ _ h => .inr h
  | true => exact ends_series q

theorem not_oversized_encode {t : Target} (hwell : t.WellFormed isSeries)
    {bytes more rest : List UInt8} (hsize : Oversized isSeries bytes) :
    bytes ++ more ≠ t.encode ++ rest := by
  rintro heq
  obtain ⟨rfl, count, bytes, rfl, hlong⟩ := hsize
  have hmax : t.ids.length ≤ 8 := hwell.series rfl
  rw [encode, if_pos hwell.isSeries_eq] at heq
  obtain ⟨rfl, -⟩ := List.cons.inj heq
  rw [UInt8.toNat_ofNat', maxSeries] at hlong
  omega

theorem decodes_parse (isSeries : Bool) :
    QueueM.Decodes (parse isSeries) (WellFormed isSeries) encode (Oversized isSeries) :=
  .of_reads (parse_readsAs isSeries)
    (fun hwell => Nat.le_trans (length_encode_le hwell) (Nat.le_of_ble_eq_true rfl))
    (ends_parse isSeries) fun hwell hsize => not_oversized_encode hwell hsize

end Target

/-! ## Calls -/

namespace Call

variable {isSeries : Bool}

/-- The call is one that can stand in a frame. -/
def WellFormed (isSeries : Bool) (c : Call) : Prop :=
  c.target.WellFormed isSeries

/-- The count of a series is given behind the size of the answer, and it is too large. -/
def Oversized (isSeries : Bool) (bytes : List UInt8) : Prop :=
  ∃ maxBytes rest, bytes = maxBytes :: rest ∧ Target.Oversized isSeries rest

theorem parse_readsAs (isSeries : Bool) :
    QueueM.ReadsAs (parse isSeries) fun c bytes => c.WellFormed isSeries ∧ bytes = c.encode := by
  refine .congr (.bind QueueM.readByte_readsAs fun maxBytes =>
    .bind (Target.parse_readsAs isSeries) fun target => .pure _) fun c bytes => ?_
  constructor
  · rintro ⟨hwell, rfl⟩
    exact ⟨c.maxBytes, [_], _, rfl, ⟨c.target, _, [], ⟨hwell, rfl⟩, ⟨rfl, rfl⟩,
      (List.append_nil _).symm⟩, rfl⟩
  · rintro ⟨maxBytes, _, _, rfl, ⟨target, _, _, ⟨hwell, rfl⟩, ⟨rfl, rfl⟩, rfl⟩, rfl⟩
    rw [List.append_nil]
    exact ⟨hwell, rfl⟩

theorem ends_parse (isSeries : Bool) (q : FrameQueue) :
    Ends (parse isSeries) q (fun _ q' => q.SameBytes q') fun cause _ =>
      cause = .capacity ∧ Oversized isSeries q.unread ∨
        cause = .underrun ∧ BreaksOff (WellFormed isSeries) encode q.unread := by
  refine .bind (QueueM.ends_readByte (fun maxBytes q₁ hq₁ hsame₁ => ?_) fun hnone => ?_)
  · refine .bind ((Target.ends_parse isSeries q₁).imp
      (fun target q₂ hsame₂ => .pure (hsame₁.trans hsame₂)) fun cause q₂ hrefused => ?_)
    rw [hq₁]
    rcases hrefused with ⟨rfl, hsize⟩ | ⟨rfl, target, more, hwell, hmore, hencode⟩
    · exact .inl ⟨rfl, maxBytes, q₁.unread, rfl, hsize⟩
    · exact .inr ⟨rfl, { maxBytes, target }, more, hwell, hmore, congrArg _ hencode⟩
  · obtain ⟨target, hwell⟩ := Target.exists_wellFormed isSeries
    rw [hnone]
    exact .inr ⟨rfl, { target }, _, hwell, List.cons_ne_nil _ _, rfl⟩

theorem not_oversized_encode {c : Call} (hwell : c.WellFormed isSeries)
    {bytes more rest : List UInt8} (hsize : Oversized isSeries bytes) :
    bytes ++ more ≠ c.encode ++ rest := by
  rintro heq
  obtain ⟨maxBytes, bytes, rfl, hsize⟩ := hsize
  exact Target.not_oversized_encode hwell hsize (List.cons.inj heq).2

theorem decodes_parse (isSeries : Bool) :
    QueueM.Decodes (parse isSeries) (WellFormed isSeries) encode (Oversized isSeries) :=
  .of_reads (parse_readsAs isSeries)
    (fun hwell => Nat.le_trans (Nat.succ_le_succ (Target.length_encode_le hwell))
      (Nat.le_of_ble_eq_true rfl))
    (ends_parse isSeries) fun hwell hsize => not_oversized_encode hwell hsize

end Call

/-- Templates, targets and calls are decoded from their encodings. A comparison may be no longer
than `maxToken`, a series no longer than `maxSeries`. -/
theorem decodes_queries_and_calls (isSeries : Bool) :
    QueueM.Decodes Template.parse Template.WellFormed Template.encode Template.Oversized ∧
      QueueM.Decodes (Target.parse isSeries) (Target.WellFormed isSeries) Target.encode
        (Target.Oversized isSeries) ∧
      QueueM.Decodes (Call.parse isSeries) (Call.WellFormed isSeries) Call.encode
        (Call.Oversized isSeries) :=
  ⟨Template.decodes_parse, Target.decodes_parse isSeries, Call.decodes_parse isSeries⟩

end Mode2
