import Mode2.Proofs.Exchange.Admission
import Mode2.Proofs.Exchange.Responding

/-!
# Dialogs go on frame by frame

A dialog whose peer is settled takes only the frame with its next ID, whatever kind of frame
it is, and goes on with that ID or, when it responds, with the one after. Any other frame
leaves no trace but the read cursor. A dialog whose peer is not settled takes only frames
from a matching subnet, and no datastream.

The dialog takes the ID of a frame as soon as it is read. What is wrong with the rest of the
header rejects the frame, and the dialog has moved on all the same.
-/

namespace Mode2.Exchange

variable {W : Type} {env : Environment W} {c : Config} {x y : Exchange W}

/-- The dialog goes on with an ID; nothing has been staged for it. -/
structure GoesOn (id : UInt8) (out : FrameQueue) (substate : Substate) (y : Exchange W) : Prop where
  connected : y.session.netState.connected = true
  dialogId : y.session.dialogId = id
  outbound : y.network.outbound = out
  substate : y.session.netState.substate = substate

/-- The dialog goes on with the next ID: a response has been staged in it. -/
structure HasAnswered (env : Environment W) (c : Config) (id : UInt8) (y : Exchange W) : Prop where
  staged : ∃ (z : Exchange W) (body : List UInt8), z.session.dialogId = id ∧
    Responds env c z.network z.session body y
  substate : y.session.netState.substate = .responseTx
  dialogId : y.session.dialogId = id + 1

variable {id : UInt8} {out : FrameQueue} {substate : Substate}

/-- Until a response is staged the dialog goes on with the same ID. -/
theorem holdsUntilResponse_goesOn (env : Environment W) :
    HoldsUntilResponse env (GoesOn (W := W) id out substate) where
  toComposes := preserves_composes _
  inbound _ _ h := { h with }
  transport _ _ _ h := { h with }
  access _ _ _ h := { h with }
  listen _ h := { h with }
  query _ _ _ _ h := { h with }
  world _ _ h := { h with }
  response _ _ _ h := { h with }
  scrap _ h := { h with }
  stream _ h := { h with }

/-- Reading a header leaves the outgoing frame and whose turn it is. -/
theorem readsHeader_outgoing (env : Environment W) :
    ReadsHeader env fun x y => y.network.outbound = x.network.outbound ∧
      y.session.netState.substate = x.session.netState.substate where
  refl _ := ⟨rfl, rfl⟩
  trans h h' := ⟨h'.1.trans h.1, h'.2.trans h.2⟩
  inbound _ _ := ⟨rfl, rfl⟩
  header _ _ _ _ := ⟨rfl, rfl⟩
  dialog _ _ _ _ _ := ⟨rfl, rfl⟩
  decrypt _ _ _ _ _ := ⟨rfl, rfl⟩

theorem goesOn_or_hasAnswered_dispatch (hx : x.GoesOn id out substate)
    (hscore : 0 ≤ (x.dispatch env c).1) :
    (x.dispatch env c).2.GoesOn id out substate ∨ (x.dispatch env c).2.HasAnswered env c id := by
  rcases (holdsUntilResponse_goesOn env).waits_or_responds_dispatch c hx hscore with
    ⟨-, hsame⟩ | hresponds
  · exact .inl hsame
  · cases hwanted : (x.dispatch env c).2.transport.command.has Command.noResponseBit with
    | true => exact .inl (hresponds.unwanted hwanted)
    | false =>
        obtain ⟨z, body, hz, hbody, hsession⟩ := hresponds.wanted hwanted
        refine .inr ⟨⟨z, body, hz.dialogId, hbody⟩, by rw [hsession]; rfl, ?_⟩
        rw [hsession, Session.advanceDialog, if_pos hz.connected]
        exact congrArg (· + 1) hz.dialogId

/-- A frame that is accepted is admitted, and the dialog goes on with the ID of the frame, or
with the next one when a response to it has been staged. -/
theorem admits_of_accepted (env : Environment W) (c : Config) (x : Exchange W)
    (hscore : 0 ≤ (x.receive env c).1) :
    x.session.Admits c x.network.inbound.written ∧
      ∃ id, carriedDialog? x.network.inbound.written = some id ∧
        ((x.receive env c).2.GoesOn id x.network.outbound x.session.netState.substate ∨
          (x.receive env c).2.HasAnswered env c id) := by
  have hread := HeaderM.ends_read_enters (x := x) env c
  have hkept := (readsHeader_outgoing env).moves_read c x
  unfold receive at hscore ⊢
  cases hrun : (HeaderM.read env c).run x with
  | error cause y =>
      rw [hrun] at hscore
      exact absurd hscore (Int.not_le.mpr (Int.negSucc_lt_zero 0))
  | ok destination y =>
      -- The header has settled the ID; what takes the frame from here on keeps it or responds.
      obtain ⟨⟨id, hid, henters⟩, -⟩ := hread.of_ok hrun
      obtain ⟨houtbound, hsubstate⟩ := hkept.of_ok hrun
      refine ⟨(HeaderM.ends_read_considered env c x).of_ok hrun, id, hid, ?_⟩
      have hy : y.GoesOn id x.network.outbound x.session.netState.substate :=
        ⟨by rw [henters.netState], henters.dialogId, houtbound, hsubstate⟩
      rw [hrun] at hscore
      cases destination with
      | «local» => exact goesOn_or_hasAnswered_dispatch hy hscore
      | datastream =>
          left
          dsimp only [continueDatastream]
          split
          · split
            · exact { hy with }
            · exact hy
          · exact hy
      | forward =>
          left
          dsimp only [forward]
          split
          · exact hy
          · exact { hy with }

/-- A frame that is not admitted is rejected, and nothing but the read cursor has moved. -/
theorem rejected_of_not_admits (env : Environment W)
    (h : ¬x.session.Admits c x.network.inbound.written) :
    ∃ queue, x.receive env c = (.rejected, { x with network.inbound := queue }) := by
  have hread := HeaderM.ends_read_considered env c x
  unfold receive
  cases hrun : (HeaderM.read env c).run x with
  | ok destination y => exact absurd (hread.of_ok hrun) h
  | error cause y =>
      cases hread.of_error hrun with
      | ignored _ hreads =>
          obtain ⟨queue, rfl⟩ := hreads
          exact ⟨queue, rfl⟩
      | settled hadmits => exact absurd hadmits h

/-- The dialog still matches the same frames, and frames it sends still say the same of it. -/
def KeepsDialog (x y : Exchange W) : Prop :=
  y.session.netState = x.session.netState ∧ y.session.dialogId = x.session.dialogId ∧
    y.session.subnet = x.session.subnet ∧ y.session.flags = x.session.flags

instance : Decidable (KeepsDialog x y) :=
  inferInstanceAs (Decidable (_ ∧ _ ∧ _ ∧ _))

/-- A frame with a header that is rejected is dropped. The dialog is kept as it was exactly
when it does not admit the frame: all that is checked after the dialog ID is checked too
late. -/
theorem rejection_keeps_dialog_iff {cause : Rejection}
    (hrejected : (HeaderM.read env c).run x = .error cause y) :
    x.receive env c = (.rejected, y) ∧
      (x.KeepsDialog y ↔ ¬x.session.Admits c x.network.inbound.written) := by
  refine ⟨by unfold receive; rw [hrejected], ?_⟩
  cases (HeaderM.ends_read_considered env c x).of_error hrejected with
  | ignored hignored hreads =>
      obtain ⟨queue, rfl⟩ := hreads
      exact iff_of_true ⟨rfl, rfl, rfl, rfl⟩ hignored
  | settled hadmits id henters =>
      exact iff_of_false (fun hkeeps => henters.changed ⟨hkeeps.1, hkeeps.2.1⟩)
        (not_not_intro hadmits)

/-- A device that has just begun to listen has moved on to the dialog of a frame that is for
another device. -/
theorem rejection_keeps_dialog_iff_other_device :
    let x : Exchange Unit :=
      ⟨⟨.initial 5,
          { inbound := ⟨[], [0x0B, 0x00, 0xF0, 0x10, 0x05, 0xAA, 0xBB, 0x56, 0x78, 0x00, 0x00], 256,
              by decide, by decide⟩ },
          {}, ()⟩,
        ⟨0, 0x10, { substate := .requestRx }, .none, 0, 0xF0, 0, none⟩⟩
    ∃ y, (HeaderM.read .obliging .default).run x = .error .address y ∧
      x.receive .obliging .default = (.rejected, y) ∧ ¬x.KeepsDialog y ∧
        y.session.dialogId = 5 ∧ x.session.Admits .default x.network.inbound.written := by
  intro x
  have hrejected : (HeaderM.read .obliging .default).run x =
      .error .address (x.receive .obliging .default).2 := by
    with_unfolding_all rfl
  have hchanged : ¬x.KeepsDialog (x.receive .obliging .default).2 := by decide +kernel
  obtain ⟨hreceive, hkeeps⟩ := rejection_keeps_dialog_iff hrejected
  exact ⟨_, hrejected, hreceive, hchanged, by decide +kernel,
    not_not.mp fun hignored => hchanged (hkeeps.mpr hignored)⟩

/-- A settled dialog accepts only a frame that carries its next ID, and goes on with that
ID, or with the one after when a response has been staged; a frame that carries any other ID
is rejected without a trace. A dialog that is not settled accepts only frames from a matching
subnet, and no datastream. -/
theorem dialog_goes_on (env : Environment W) (c : Config) (x : Exchange W) :
    (x.session.netState.connected = true →
      (0 ≤ (x.receive env c).1 →
        carriedDialog? x.network.inbound.written = some (x.session.dialogId + 1) ∧
          ((x.receive env c).2.GoesOn (x.session.dialogId + 1) x.network.outbound
              x.session.netState.substate ∨
            (x.receive env c).2.HasAnswered env c (x.session.dialogId + 1))) ∧
      (carriedDialog? x.network.inbound.written ≠ some (x.session.dialogId + 1) →
        ∃ queue, x.receive env c = (.rejected, { x with network.inbound := queue }))) ∧
    (x.session.netState.connected = false → 0 ≤ (x.receive env c).1 →
      ∃ subnet byte, x.network.inbound.written[2]? = some subnet ∧
        x.network.inbound.written[3]? = some byte ∧
        (FrameInfo.ofByte byte).datastream = false ∧ subnetMatches subnet c.subnet = true) := by
  refine ⟨fun hconnected => ⟨fun hscore => ?_, fun hother => ?_⟩, fun hunsettled hscore => ?_⟩
  · obtain ⟨hadmits, id, hid, hgoes⟩ := admits_of_accepted env c x hscore
    have hnext := hadmits.carriedDialog? hconnected
    obtain rfl := Option.some.inj (hid.symm.trans hnext)
    exact ⟨hnext, hgoes⟩
  · exact rejected_of_not_admits env fun hadmits => hother (hadmits.carriedDialog? hconnected)
  · exact (admits_of_accepted env c x hscore).1.subnet hunsettled

/-- A dialog with the ID 4 responds to a frame with the ID 5 and goes on with 6, one with the
ID 3 drops the frame, and one that is not settled accepts it. -/
theorem dialog_goes_on_request :
    let env : Environment Unit := .obliging
    let request : List UInt8 :=
      [0x0D, 0x00, 0xF0, 0x12, 0x05, 0xAA, 0xBB, 0xA8, 0x20, 0x02, 0x00, 0x00, 0x00]
    let x (connected : Bool) (dialogId : UInt8) : Exchange Unit :=
      ⟨⟨.initial 5, { inbound := ⟨[], request, 256, by decide, by decide⟩ }, {}, ()⟩,
        ⟨0, 0x10, { substate := .requestRx, connected }, .none, dialogId, 0xF0, 0, none⟩⟩
    0 ≤ ((x true 4).receive env .default).1 ∧ carriedDialog? request = some 5 ∧
      ((x true 4).receive env .default).2.HasAnswered env .default 5 ∧
      (∃ queue, (x true 3).receive env .default =
        (.rejected, { x true 3 with network.inbound := queue })) ∧
      0 ≤ ((x false 0).receive env .default).1 ∧ subnetMatches 0xF0 Config.default.subnet = true := by
  intro env request x
  have haccepted : 0 ≤ ((x true 4).receive env .default).1 := by decide +kernel
  have hopens : 0 ≤ ((x false 0).receive env .default).1 := by decide +kernel
  obtain ⟨hnext, hgoes⟩ := ((dialog_goes_on env .default (x true 4)).1 rfl).1 haccepted
  have hanswered : ((x true 4).receive env .default).2.HasAnswered env .default 5 :=
    hgoes.resolve_left fun hsame => absurd hsame.dialogId (by decide +kernel)
  obtain ⟨subnet, byte, hsubnet, -, -, hmatches⟩ :=
    (dialog_goes_on env .default (x false 0)).2 rfl hopens
  obtain rfl : 0xF0 = subnet := Option.some.inj hsubnet
  exact ⟨haccepted, hnext, hanswered,
    ((dialog_goes_on env .default (x true 3)).1 rfl).2 (by decide +kernel), hopens, hmatches⟩

end Mode2.Exchange
