import Mode2.Exchange.Receive
import Mode2.Proofs.Exchange.HeaderSteps
import Mode2.Proofs.Exchange.Undisturbed

/-!
# Segments of a datastream

A frame that continues a datastream carries nothing but a dialog ID and a segment. A dialog
that takes part in the datastream accepts exactly the next ID, appends the segment as a
whole, and drops the frame otherwise.
-/

namespace Mode2

variable {W : Type}

/-- The frame continues a datastream, as far as its frame info has arrived. -/
def IsSegment (frame : List UInt8) : Prop :=
  ∀ byte, frame[3]? = some byte → (FrameInfo.ofByte byte).datastream = true

/-- A part of a datastream, with the dialog ID of the frame that carries it. -/
structure Segment where
  dialogId : UInt8
  payload : List UInt8
deriving DecidableEq, Repr

/-- The segment of a frame that is no longer than a queue, when its first byte counts a
header, a footer and no more bytes than have arrived. -/
def Segment.ofFrame? (frame : List UInt8) : Option Segment :=
  match frame with
  | length :: _ :: _ :: _ :: dialogId :: rest =>
      if minHeader + footerLength ≤ length.toNat ∧ length.toNat ≤ frame.length ∧
          frame.length ≤ queueCapacity then
        some ⟨dialogId, rest.take (length.toNat - (minHeader + footerLength))⟩
      else none
  | _ => none

/-- A frame with a segment fits a queue, and its first byte counts no more than has
arrived. -/
theorem Segment.exists_length {frame : List UInt8} {segment : Segment}
    (h : ofFrame? frame = some segment) :
    ∃ first, frame[0]? = some first ∧ minHeader + footerLength ≤ first.toNat ∧
      first.toNat ≤ frame.length ∧ frame.length ≤ queueCapacity := by
  unfold ofFrame? at h
  split at h
  next first _ _ _ _ _ =>
    split at h
    next hwhole => exact ⟨first, rfl, hwhole⟩
    · cases h
  · cases h

/-- The datastream with the segment of a frame appended, if the frame carries the dialog ID
after `dialogId` and there is room for the whole segment. -/
def Datastream.extend? (d : Datastream) (dialogId : UInt8) (frame : List UInt8) :
    Option Datastream :=
  match Segment.ofFrame? frame with
  | some segment =>
      if segment.dialogId = dialogId + 1 then d.append? segment.payload else none
  | none => none

/-- Frames that carry one dialog ID after the other, from the one after `dialogId` on, and
with them these bytes. -/
inductive Carries : UInt8 → List (List UInt8) → List UInt8 → Prop
  | nil {dialogId : UInt8} : Carries dialogId [] []
  | cons {dialogId : UInt8} {frame payload bytes : List UInt8} {frames : List (List UInt8)} :
      Segment.ofFrame? frame = some ⟨dialogId + 1, payload⟩ →
      Carries (dialogId + 1) frames bytes → Carries dialogId (frame :: frames) (payload ++ bytes)

/-- The frames carry one dialog ID after the other, and there is room for their bytes. -/
def Datastream.Fits (d : Datastream) (dialogId : UInt8) (frames : List (List UInt8)) : Prop :=
  ∃ bytes, Carries dialogId frames bytes ∧ (d.bytes ++ bytes).length ≤ datastreamCapacity

namespace Datastream

variable {d d' : Datastream} {dialogId : UInt8} {frame : List UInt8} {frames : List (List UInt8)}

theorem append?_eq_some {payload : List UInt8} (h : d.append? payload = some d') :
    d'.bytes = d.bytes ++ payload := by
  unfold append? at h
  split at h
  · cases h
    rfl
  · cases h

theorem exists_append? {payload : List UInt8}
    (h : (d.bytes ++ payload).length ≤ datastreamCapacity) :
    ∃ d', d.append? payload = some d' := by
  unfold append?
  rw [dif_pos h]
  exact ⟨_, rfl⟩

/-- A frame extends a datastream by its segment. -/
theorem extend?_eq_some (h : d.extend? dialogId frame = some d') :
    ∃ payload, Segment.ofFrame? frame = some ⟨dialogId + 1, payload⟩ ∧
      d'.bytes = d.bytes ++ payload := by
  unfold extend? at h
  split at h
  next segment hsome =>
    split at h
    next hnext => exact ⟨segment.payload, by rw [hsome, ← hnext], append?_eq_some h⟩
    · cases h
  · cases h

/-- Frames fit when the first one extends the datastream and the others fit after that. -/
theorem fits_cons :
    d.Fits dialogId (frame :: frames) ↔
      ∃ d', d.extend? dialogId frame = some d' ∧ d'.Fits (dialogId + 1) frames := by
  constructor
  · rintro ⟨_, hcarries, hroom⟩
    cases hcarries with
    | @cons _ _ payload bytes _ hsome hrest =>
        rw [← List.append_assoc] at hroom
        have hfirst : (d.bytes ++ payload).length ≤ datastreamCapacity := by
          rw [List.length_append] at hroom
          omega
        obtain ⟨d', hd'⟩ := exists_append? hfirst
        refine ⟨d', ?_, bytes, hrest, ?_⟩
        · unfold extend?
          rw [hsome]
          exact (if_pos rfl).trans hd'
        · rw [append?_eq_some hd']
          exact hroom
  · rintro ⟨d', hextends, bytes, hcarries, hroom⟩
    obtain ⟨payload, hsome, hbytes⟩ := extend?_eq_some hextends
    refine ⟨payload ++ bytes, .cons hsome hcarries, ?_⟩
    rw [← List.append_assoc, ← hbytes]
    exact hroom

/-- With some frames, those at their beginning fit. -/
theorem Fits.of_append {later : List (List UInt8)} (h : d.Fits dialogId (frames ++ later)) :
    d.Fits dialogId frames := by
  induction frames generalizing d dialogId with
  | nil => exact ⟨[], .nil, by simpa using d.length_le⟩
  | cons frame frames ih =>
      obtain ⟨d', hextends, hrest⟩ := fits_cons.mp h
      exact fits_cons.mpr ⟨d', hextends, ih hrest⟩

end Datastream

theorem FrameQueue.length_written_le (q : FrameQueue) : q.written.length ≤ queueCapacity := by
  have hlimit := q.length_le_limit
  have hcapacity := q.limit_le_capacity
  rw [length_written, length]
  omega

/-- A frame with a whole header, taken apart. -/
theorem exists_of_header {frame : List UInt8} (h : minHeader ≤ frame.length) :
    ∃ length control subnet info dialogId rest,
      frame = length :: control :: subnet :: info :: dialogId :: rest := by
  match frame, h with
  | length :: control :: subnet :: info :: dialogId :: rest, _ =>
      exact ⟨length, control, subnet, info, dialogId, rest, rfl⟩

/-- What is left of the first `n` bytes of a frame when the footer has been cut off and the
length and the control byte have been read. -/
theorem drop_take_of_header {length control subnet info dialogId : UInt8} {rest : List UInt8}
    {n : Nat} (h : minHeader + footerLength ≤ n) :
    ((length :: control :: subnet :: info :: dialogId :: rest).take (n - footerLength)).drop 2 =
      subnet :: info :: dialogId :: rest.take (n - (minHeader + footerLength)) := by
  obtain ⟨k, rfl⟩ := Nat.exists_eq_add_of_le h
  have hbody : minHeader + footerLength + k - footerLength = k + 5 := by
    unfold minHeader footerLength
    omega
  rw [hbody, Nat.add_sub_cancel_left]
  rfl

namespace HeaderM

variable {x : Exchange W} {frame : List UInt8}

/-- In a dialog that takes part in a datastream, the header of a segment is accepted
exactly when it carries the next dialog ID; then the segment is all that is left. -/
theorem ends_read_segment (env : Environment W) (c : Config)
    (hwritten : x.network.inbound.written = frame) (hsegment : IsSegment frame)
    (hconnected : x.session.netState.connected = true) :
    Ends (read env c) x
      (fun destination y => destination = .datastream ∧ ∃ segment queue,
        Segment.ofFrame? frame = some segment ∧ segment.dialogId = x.session.dialogId + 1 ∧
          queue.unread = segment.payload ∧
          y = { x with
            session := { x.session with dialogId := segment.dialogId }
            network.inbound := queue })
      (fun _ _ => ∀ segment, Segment.ofFrame? frame = some segment →
        segment.dialogId ≠ x.session.dialogId + 1) := by
  have hlength : x.network.inbound.length = frame.length := by
    rw [FrameQueue.length_eq, hwritten]
  have hfirst : x.network.inbound.byteAt 0 = frame[0]? := by
    rw [FrameQueue.byteAt, hwritten]
  unfold read
  refine Ends.bind (ends_openFrame_cut.imp ?_ ?_)
  · rintro _ opened ⟨first, queue, hbyte, hmin, hmax, ⟨-, hunread, -⟩, rfl⟩
    rw [hwritten] at hunread
    rw [hlength] at hmax
    obtain ⟨length, control, subnet, info, dialogId, rest, rfl⟩ :=
      exists_of_header (Nat.le_of_add_right_le (Nat.le_trans hmin hmax))
    obtain rfl : first = length := Option.some.inj (hbyte.symm.trans hfirst)
    have hsome : Segment.ofFrame? (first :: control :: subnet :: info :: dialogId :: rest) =
        some ⟨dialogId, rest.take (first.toNat - (minHeader + footerLength))⟩ :=
      if_pos ⟨hmin, hmax, hwritten ▸ x.network.inbound.length_written_le⟩
    rw [drop_take_of_header hmin] at hunread
    refine Ends.bind (ends_octet hunread fun q₁ h₁ => ?_)
    refine Ends.bind (ends_octet h₁ fun q₂ h₂ => ?_)
    rw [if_pos (hsegment info rfl)]
    refine Ends.bind (ends_octet h₂ fun q₃ h₃ => ?_)
    refine Ends.bind (Ends.get ?_)
    dsimp only
    rw [if_neg (by simp [hconnected])]
    refine Ends.bind (Ends.bind (Ends.get ?_))
    dsimp only
    rw [if_pos hconnected]
    split
    next hnext =>
      exact ExchangeM.ends_modifySession (Ends.pure ⟨rfl, _, q₃, hsome, hnext, h₃, rfl⟩)
    next hnext =>
      refine Ends.throw fun segment hother => ?_
      obtain rfl := Option.some.inj (hsome.symm.trans hother)
      exact hnext
  · rintro _ _ hrefused segment hsome
    obtain ⟨first, hcount, hmin, hmax, -⟩ := Segment.exists_length hsome
    rcases hrefused first (hfirst.trans hcount) with hshort | hlong
    · exact absurd hmin (Nat.not_le.mpr hshort)
    · exact absurd hmax (Nat.not_le.mpr (hlength ▸ hlong))

end HeaderM

namespace Exchange

variable {x : Exchange W} {frame : List UInt8}

/-- A segment that extends the datastream is taken and advances the dialog. Any other is
dropped and leaves the datastream as it was. -/
theorem receive_segment (env : Environment W) (c : Config)
    (hwritten : x.network.inbound.written = frame) (hsegment : IsSegment frame)
    (hconnected : x.session.netState.connected = true)
    (hstream : x.session.netState.datastream = true) :
    match x.transport.datastream.extend? x.session.dialogId frame with
    | some d => ∃ queue, x.receive env c = (0, { x with
        session := { x.session with dialogId := x.session.dialogId + 1 }
        network.inbound := queue
        transport.datastream := d })
    | none => (x.receive env c).1 < 0 ∧ (x.receive env c).2.transport = x.transport := by
  have hread := HeaderM.ends_read_segment env c hwritten hsegment hconnected
  have hsame := (readsHeader_awaiting env).moves_read c x
  have hrejected : (Score.rejected : Score) < 0 := by decide
  unfold receive Datastream.extend?
  cases hrun : (HeaderM.read env c).run x with
  | error cause y =>
      have hother := hread.of_error hrun
      obtain ⟨htransport, -⟩ := hsame.of_error hrun
      cases hsome : Segment.ofFrame? frame with
      | none => exact ⟨hrejected, htransport⟩
      | some segment =>
          dsimp only
          rw [if_neg (hother segment hsome)]
          exact ⟨hrejected, htransport⟩
  | ok destination y =>
      obtain ⟨rfl, segment, queue, hsome, hnext, hunread, rfl⟩ := hread.of_ok hrun
      rw [hsome]
      dsimp only
      rw [if_pos hnext]
      unfold continueDatastream
      dsimp only
      rw [if_pos (by simp [hconnected, hstream]), hunread]
      cases x.transport.datastream.append? segment.payload with
      | some d => exact ⟨queue, by rw [hnext]⟩
      | none => exact ⟨hrejected, rfl⟩

end Exchange

end Mode2
