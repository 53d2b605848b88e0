import Mode2.Proofs.Exchange.Heard

/-!
# Frames that a dialog admits

A dialog admits a frame whose header is in order up to its dialog ID, and whose subnet and
dialog ID follow the dialog. Until then reading the header has changed nothing but the read
cursor; from then on the dialog is that of the frame, whatever becomes of the rest of the
header.
-/

namespace Mode2

variable {W : Type} {env : Environment W} {c : Config} {x y z : Exchange W} {s : Session}

/-- The frame without its footer, if its first byte counts a whole frame that is there. -/
def openedFrame? (frame : List UInt8) : Option (List UInt8) :=
  frame[0]?.bind fun length =>
    if minHeader + footerLength ≤ length.toNat ∧ length.toNat ≤ frame.length then
      some (frame.take (length.toNat - footerLength))
    else none

/-- The frame is for this dialog: opened, it shows a subnet and a dialog ID that follow the
dialog. A datastream has to be in a dialog already, any other frame may be secured in one
way only. -/
def Session.Admits (s : Session) (c : Config) (frame : List UInt8) : Prop :=
  ∃ opened subnet byte dialogId, openedFrame? frame = some opened ∧
    opened[2]? = some subnet ∧ opened[3]? = some byte ∧ carriedDialog? opened = some dialogId ∧
    (if (FrameInfo.ofByte byte).datastream then s.netState.connected
      else !((FrameInfo.ofByte byte).linkSecurity && (FrameInfo.ofByte byte).networkSecurity)) =
        true ∧
    s.Follows c subnet dialogId

/-- The bytes of the opened frame are those of the frame. -/
theorem getElem?_of_openedFrame? {frame opened : List UInt8} (h : openedFrame? frame = some opened)
    {i : Nat} {byte : UInt8} (hbyte : opened[i]? = some byte) : frame[i]? = some byte := by
  unfold openedFrame? at h
  obtain ⟨length, -, h⟩ := Option.bind_eq_some_iff.mp h
  split at h
  · cases h
    rw [List.getElem?_take] at hbyte
    split at hbyte
    · exact hbyte
    · cases hbyte
  · cases h

theorem carriedDialog?_of_openedFrame? {frame opened : List UInt8} {dialogId : UInt8}
    (h : openedFrame? frame = some opened) (hid : carriedDialog? opened = some dialogId) :
    carriedDialog? frame = some dialogId := by
  unfold carriedDialog? at hid ⊢
  cases hbyte : opened[3]? with
  | none => simp [hbyte] at hid
  | some byte =>
      rw [getElem?_of_openedFrame? h hbyte]
      simp only [hbyte, Option.map_some] at hid ⊢
      split at hid
      next hextended =>
        rw [if_pos hextended]
        exact getElem?_of_openedFrame? h hid
      next hplain =>
        rw [if_neg hplain]
        exact getElem?_of_openedFrame? h hid

namespace Session.Admits

variable {frame : List UInt8}

/-- A settled dialog admits only the next dialog ID. -/
theorem carriedDialog? (h : s.Admits c frame) (hconnected : s.netState.connected = true) :
    carriedDialog? frame = some (s.dialogId + 1) := by
  obtain ⟨opened, subnet, byte, dialogId, hopened, -, -, hid, -, hfollows⟩ := h
  unfold Session.Follows at hfollows
  rw [if_pos hconnected] at hfollows
  exact hfollows ▸ carriedDialog?_of_openedFrame? hopened hid

/-- A dialog that is not settled admits only frames from a matching subnet, and no
datastream. -/
theorem subnet (h : s.Admits c frame) (hconnected : s.netState.connected = false) :
    ∃ subnet byte, frame[2]? = some subnet ∧ frame[3]? = some byte ∧
      (FrameInfo.ofByte byte).datastream = false ∧ subnetMatches subnet c.subnet = true := by
  obtain ⟨opened, subnet, byte, dialogId, hopened, hsubnet, hbyte, -, hkind, hfollows⟩ := h
  unfold Session.Follows at hfollows
  rw [if_neg (by simp [hconnected])] at hfollows
  refine ⟨subnet, byte, getElem?_of_openedFrame? hopened hsubnet,
    getElem?_of_openedFrame? hopened hbyte, ?_, hfollows⟩
  cases hstream : (FrameInfo.ofByte byte).datastream with
  | true => simp [hstream, hconnected] at hkind
  | false => rfl

end Session.Admits

namespace Exchange

/-- Nothing but the read cursor has moved. -/
def OnlyReads (x y : Exchange W) : Prop :=
  ∃ queue, y = { x with network.inbound := queue }

theorem readsFrame_onlyReads : ReadsFrame (OnlyReads (W := W)) where
  refl x := ⟨x.network.inbound, rfl⟩
  trans := by
    rintro x _ _ ⟨queue, rfl⟩ ⟨queue', rfl⟩
    exact ⟨queue', rfl⟩
  inbound _ queue := ⟨queue, rfl⟩

/-- The dialog is in the same state, apart from its flags. -/
structure SameDialog (x y : Exchange W) : Prop where
  dialogId : y.session.dialogId = x.session.dialogId
  netState : y.session.netState = x.session.netState
  slot : y.session.slot = x.session.slot

theorem sameDialog_composes : Composes (SameDialog (W := W)) where
  refl _ := ⟨rfl, rfl, rfl⟩
  trans h h' := ⟨h'.dialogId.trans h.dialogId, h'.netState.trans h.netState, h'.slot.trans h.slot⟩

/-- The rest of a header changes no more of the dialog than its flags. -/
theorem readsRest_sameDialog (env : Environment W) : ReadsRest env SameDialog where
  toComposes := sameDialog_composes
  inbound _ _ := ⟨rfl, rfl, rfl⟩
  header _ _ _ _ := ⟨rfl, rfl, rfl⟩
  flags _ _ := ⟨rfl, rfl, rfl⟩
  decrypt _ _ _ _ _ := ⟨rfl, rfl, rfl⟩

theorem Enters.same {id : UInt8} (h : x.Enters id y) (hsame : SameDialog y z) : x.Enters id z where
  dialogId := hsame.dialogId.trans h.dialogId
  next := h.next
  netState := hsame.netState.trans h.netState
  slot := hsame.slot.trans h.slot

/-- The frame has not been admitted and only the read cursor has moved; or it has, and the
dialog is that of the frame. -/
inductive Considered (x : Exchange W) (c : Config) (frame : List UInt8) (y : Exchange W) : Prop
  | ignored (admits : ¬x.session.Admits c frame) (reads : x.OnlyReads y)
  | settled (admits : x.session.Admits c frame) (id : UInt8) (enters : x.Enters id y)

/-- Whoever enters a dialog sees that its state or its ID is another one. -/
theorem Enters.changed {id : UInt8} (h : x.Enters id y) :
    ¬(y.session.netState = x.session.netState ∧ y.session.dialogId = x.session.dialogId) := by
  rintro ⟨hstate, hid⟩
  -- The state is the same only in a settled dialog, and there the ID moves on.
  have hconnected : x.session.netState.connected = true := by rw [← hstate, h.netState]
  have hnext := h.next hconnected
  rw [← h.dialogId, hid] at hnext
  exact absurd hnext (by simp)

end Exchange

namespace HeaderM

/-! ## Reading up to the dialog ID -/

section Opened

variable {frame rest : List UInt8} {first second subnet byte : UInt8}

/-- What is left to check of a frame whose subnet and frame info have been read. -/
theorem admits_iff (hopened : openedFrame? frame = some (first :: second :: subnet :: byte :: rest)) :
    s.Admits c frame ↔
      (if (FrameInfo.ofByte byte).datastream then s.netState.connected
        else !((FrameInfo.ofByte byte).linkSecurity && (FrameInfo.ofByte byte).networkSecurity)) =
          true ∧
      ∃ dialogId, (if (FrameInfo.ofByte byte).extended && !(FrameInfo.ofByte byte).datastream then
          rest[1]? else rest[0]?) = some dialogId ∧ s.Follows c subnet dialogId := by
  constructor
  · rintro ⟨opened, subnet', byte', dialogId, hopened', hsubnet, hbyte, hid, hkind, hfollows⟩
    obtain rfl := Option.some.inj (hopened.symm.trans hopened')
    obtain rfl : subnet = subnet' := by simpa using hsubnet
    obtain rfl : byte = byte' := by simpa using hbyte
    exact ⟨hkind, dialogId, by simpa [carriedDialog?] using hid, hfollows⟩
  · rintro ⟨hkind, dialogId, hid, hfollows⟩
    exact ⟨_, subnet, byte, dialogId, hopened, rfl, rfl, by simpa [carriedDialog?] using hid,
      hkind, hfollows⟩

/-- The octet that follows has been read, or there is none; only the read cursor has moved. -/
theorem ends_octet_onlyReads (hz : x.OnlyReads z) :
    Ends octet z
      (fun byte y => z.network.inbound.unread = byte :: y.network.inbound.unread ∧ x.OnlyReads y)
      (fun _ y => z.network.inbound.unread = [] ∧ x.OnlyReads y) := by
  have hreads := Exchange.readsFrame_onlyReads (W := W)
  refine (ends_octet_unread.and (hreads.moves_octet z)).imp ?_ ?_
  · exact fun _ _ ⟨hunread, hy⟩ => ⟨hunread, hreads.trans hz hy⟩
  · exact fun _ _ ⟨hunread, hy⟩ => ⟨hunread, hreads.trans hz hy⟩

theorem ends_optional_octet_onlyReads (announced : Bool) (hz : x.OnlyReads z) :
    Ends (optional announced octet) z
      (fun _ y => y.network.inbound.unread =
        z.network.inbound.unread.drop (if announced then 1 else 0) ∧ x.OnlyReads y)
      (fun _ y => announced = true ∧ z.network.inbound.unread = [] ∧ x.OnlyReads y) := by
  apply ends_optional
  · rintro rfl
    refine (ends_octet_onlyReads hz).imp ?_ fun _ _ h => ⟨rfl, h⟩
    rintro byte y ⟨hunread, hy⟩
    exact ⟨by rw [hunread]; rfl, hy⟩
  · rintro rfl
    exact ⟨rfl, hz⟩

/-- With its dialog ID a frame is admitted or ignored. -/
theorem ends_followDialog_considered {α : Type} {dialogId : UInt8} {next : HeaderM W α}
    (hz : x.OnlyReads z)
    (hadmits : x.session.Admits c frame ↔ x.session.Follows c subnet dialogId)
    (hnext : Moves Exchange.SameDialog next) :
    Ends (followDialog c subnet dialogId >>= fun _ => next) z
      (fun _ _ => x.session.Admits c frame) (fun _ y => x.Considered c frame y) := by
  obtain ⟨queue, rfl⟩ := hz
  refine Ends.bind ((ends_followDialog_enters c subnet dialogId).imp ?_ ?_)
  · rintro _ y ⟨hfollows, henters, -⟩
    have hx : x.Enters dialogId y := henters.congr rfl rfl
    refine (hnext y).imp (fun _ _ _ => hadmits.mpr hfollows) ?_
    exact fun _ k hsame => .settled (hadmits.mpr hfollows) dialogId (hx.same hsame)
  · rintro _ y ⟨hother, rfl⟩
    exact .ignored (fun h => hother (hadmits.mp h)) ⟨queue, rfl⟩

theorem ends_readDatastream_considered
    (hopened : openedFrame? frame = some (first :: second :: subnet :: byte :: rest))
    (hstream : (FrameInfo.ofByte byte).datastream = true) (hz : x.OnlyReads z)
    (hrest : z.network.inbound.unread = rest) :
    Ends (readDatastream c subnet) z (fun _ _ => x.session.Admits c frame)
      (fun _ y => x.Considered c frame y) := by
  have hadmits := admits_iff (s := x.session) (c := c) hopened
  simp only [hstream, if_true, Bool.not_true, Bool.and_false, Bool.false_eq_true, if_false]
    at hadmits
  refine Ends.bind ((ends_octet_onlyReads hz).imp ?_ ?_)
  · rintro dialogId y ⟨hunread, hy⟩
    obtain rfl : rest = dialogId :: y.network.inbound.unread := hrest.symm.trans hunread
    refine Ends.bind (Ends.get ?_)
    have hconnected : y.session.netState.connected = x.session.netState.connected := by
      obtain ⟨queue, rfl⟩ := hy
      rfl
    rw [hconnected]
    split
    next hunsettled =>
      refine Ends.bind (Ends.throw (.ignored (fun h => ?_) hy))
      simp [(hadmits.mp h).1] at hunsettled
    next hsettled =>
      refine ends_followDialog_considered hy (hadmits.trans ?_)
        (.pure Exchange.sameDialog_composes _)
      simpa using fun _ => hsettled
  · rintro _ y ⟨hnone, hy⟩
    refine .ignored (fun h => ?_) hy
    obtain ⟨-, dialogId, hid, -⟩ := hadmits.mp h
    simp [← hrest, hnone] at hid

theorem ends_readAddressed_considered
    (hopened : openedFrame? frame = some (first :: second :: subnet :: byte :: rest))
    (hplain : (FrameInfo.ofByte byte).datastream = false) (hz : x.OnlyReads z)
    (hrest : z.network.inbound.unread = rest) :
    Ends (readAddressed env c subnet (FrameInfo.ofByte byte)) z
      (fun _ _ => x.session.Admits c frame) (fun _ y => x.Considered c frame y) := by
  have hadmits := admits_iff (s := x.session) (c := c) hopened
  simp only [hplain, Bool.not_false, Bool.and_true, Bool.false_eq_true, if_false] at hadmits
  unfold readAddressed
  refine Ends.bind ((ends_optional_octet_onlyReads _ hz).imp ?_ ?_)
  · rintro extension y ⟨hskipped, hy⟩
    rw [hrest] at hskipped
    have hplace : (if (FrameInfo.ofByte byte).extended = true then rest[1]? else rest[0]?) =
        y.network.inbound.unread[0]? := by
      rw [hskipped, List.getElem?_drop]
      split <;> rfl
    rw [hplace] at hadmits
    dsimp only
    split
    next hboth =>
      refine Ends.bind (Ends.throw (.ignored (fun h => ?_) hy))
      have hone := (hadmits.mp h).1
      rw [hboth] at hone
      cases hone
    next hone =>
      refine Ends.bind ((ends_octet_onlyReads hy).imp ?_ ?_)
      · rintro dialogId k ⟨hunread, hk⟩
        refine ends_followDialog_considered hk (hadmits.trans ?_)
          ((Exchange.readsRest_sameDialog env).moves_readRest c subnet _ _ dialogId)
        have hkind : (!((FrameInfo.ofByte byte).linkSecurity &&
            (FrameInfo.ofByte byte).networkSecurity)) = true := by
          rw [Bool.eq_false_iff.mpr hone]
          rfl
        rw [hunread, hkind]
        simp
      · rintro _ k ⟨hnone, hk⟩
        refine .ignored (fun h => ?_) hk
        obtain ⟨-, dialogId, hid, -⟩ := hadmits.mp h
        simp [hnone] at hid
  · rintro _ y ⟨hextended, hnone, hy⟩
    refine .ignored (fun h => ?_) hy
    obtain ⟨-, dialogId, hid, -⟩ := hadmits.mp h
    simp [hextended, ← hrest, hnone] at hid

end Opened

/-- A frame that is opened has all the fields that every header has; one that is not has not
arrived as a whole. -/
theorem ends_openFrame_opened (x : Exchange W) :
    Ends openFrame x
      (fun _ y => x.OnlyReads y ∧ ∃ first second subnet byte rest,
        openedFrame? x.network.inbound.written =
          some (first :: second :: subnet :: byte :: rest) ∧
        y.network.inbound.unread = subnet :: byte :: rest)
      (fun _ y => x.OnlyReads y ∧ openedFrame? x.network.inbound.written = none) := by
  refine (ends_openFrame_cut.and (Exchange.readsFrame_onlyReads.moves_openFrame x)).imp ?_ ?_
  · rintro _ y ⟨⟨length, queue, hlength, hmin, hmax, ⟨-, hunread, -⟩, rfl⟩, hy⟩
    have hopened : openedFrame? x.network.inbound.written =
        some (x.network.inbound.written.take (length.toNat - footerLength)) := by
      simp only [openedFrame?, show x.network.inbound.written[0]? = some length from hlength,
        Option.bind_some, FrameQueue.length_written]
      exact if_pos ⟨hmin, hmax⟩
    have hcount : 4 ≤ (x.network.inbound.written.take (length.toNat - footerLength)).length := by
      unfold minHeader footerLength at hmin
      rw [List.length_take, FrameQueue.length_written, footerLength]
      omega
    generalize x.network.inbound.written.take (length.toNat - footerLength) = opened at *
    -- A frame too short for the four fields is not opened.
    rcases opened with _ | ⟨first, _ | ⟨second, _ | ⟨subnet, _ | ⟨byte, rest⟩⟩⟩⟩
    case cons.cons.cons.cons =>
      exact ⟨hy, first, second, subnet, byte, rest, hopened, hunread⟩
    all_goals simp at hcount
  · rintro _ y ⟨hshort, hy⟩
    refine ⟨hy, ?_⟩
    unfold openedFrame?
    cases hlength : x.network.inbound.written[0]? with
    | none => rfl
    | some length =>
        have := hshort length hlength
        rw [Option.bind_some, FrameQueue.length_written]
        exact if_neg (by omega)

/-- Whoever accepts the header of a frame has admitted the frame; whoever rejects it has
ignored the frame, or has entered its dialog all the same. -/
theorem ends_read_considered (env : Environment W) (c : Config) (x : Exchange W) :
    Ends (read env c) x (fun _ _ => x.session.Admits c x.network.inbound.written)
      (fun _ y => x.Considered c x.network.inbound.written y) := by
  have hreads := Exchange.readsFrame_onlyReads (W := W)
  unfold read
  refine Ends.bind ((ends_openFrame_opened x).imp ?_ ?_)
  · rintro _ y ⟨hy, first, second, subnet, byte, rest, hopened, hunread⟩
    refine Ends.bind (ends_octet hunread fun queue hqueue => ?_)
    refine Ends.bind (ends_octet hqueue fun queue' hqueue' => ?_)
    have hz := hreads.trans hy ⟨queue', rfl⟩
    dsimp only
    split
    next hstream => exact ends_readDatastream_considered hopened hstream hz hqueue'
    next hplain =>
      exact ends_readAddressed_considered hopened (by simpa using hplain) hz hqueue'
  · rintro _ y ⟨hy, hnone⟩
    refine .ignored ?_ hy
    rintro ⟨opened, subnet, byte, dialogId, hopened, -⟩
    rw [hnone] at hopened
    cases hopened

end HeaderM

end Mode2
