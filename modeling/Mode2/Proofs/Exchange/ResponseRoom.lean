import Mode2.Proofs.Exchange.Responding
import Mode2.Proofs.Network.Headroom
import Mode2.Proofs.Query.Decoding
import Mode2.Proofs.Query.Returns

/-!
# Responses fit

Behind the longest header a frame has room for the operation, for a return that lists
as many files as a call may name, and for the footer. So a response is never given up
for want of room, neither at its header nor half way, when the dialog has advanced and
there would be no frame to show for it.
-/

namespace Mode2

variable {V : Type}

/-! ## Returns -/

theorem Target.headerLength_le {t : Target} (h : t.ids.length ≤ maxSeries) :
    t.headerLength ≤ 27 := by
  have hfiles : t.files.length ≤ t.ids.length := by
    unfold files participating
    split
    · exact Nat.le_refl _
    · exact List.length_take_le' 1 t.ids
  have hmax : maxSeries = 8 := rfl
  unfold headerLength
  split <;> omega

/-- A call that is read from a frame names no more files than a series may have. -/
theorem Call.length_ids_le {isSeries : Bool} {queue rest : FrameQueue} {call : Call}
    (h : (parse isSeries).run queue = .ok call rest) : call.target.ids.length ≤ maxSeries := by
  obtain ⟨-, ⟨hwell, -⟩, -⟩ := (parse_readsAs isSeries).spelled h
  cases isSeries with
  | false =>
      rw [(Target.WellFormed.single hwell rfl).1]
      decide
  | true => exact Target.WellFormed.series hwell rfl

namespace Environment

/-- Where there is room for the header of a return and the footer, the return is not
rejected and leaves the footer its room. -/
theorem answer_fits (env : Environment V) (user : User) (call : Call) {queue : FrameQueue} (w : V)
    (hroom : call.target.headerLength + footerLength ≤ queue.space) :
    (env.answer user call queue w).1.1 ≠ .rejected ∧
      (0 ≤ (env.answer user call queue w).1.1 →
        footerLength ≤ (env.answer user call queue w).1.2.space) := by
  refine answer_of_ends (P := fun score r => score ≠ .rejected ∧
    (0 ≤ score → footerLength ≤ r.queue.space)) ?_
  refine Ends.bind ((ends_appendHeader env user call.target _).imp ?_ ?_)
  · rintro total r₁ ⟨lengths, hreported, -, -, hheader⟩
    refine (ends_appendData env user call total r₁).imp ?_ fun _ _ hnever => hnever.elim
    rintro score r₂ ⟨data, hdata, hclear, hscore⟩
    have hspace₁ := FrameQueue.space_append hheader
    have hspace₂ := FrameQueue.space_append hdata
    rw [Target.length_returnHeader hreported.length_eq] at hspace₁
    dsimp only at hspace₁
    refine ⟨?_, fun _ => by omega⟩
    rcases hscore with rfl | rfl <;> nofun
  · rintro score r₁ hdeclines
    cases hdeclines with
    | refused => exact ⟨nofun, nofun⟩
    | full hfull =>
        have hspace := queue.length_add_space
        dsimp only at hfull
        omega

end Environment

namespace Exchange

variable {env : Environment V} {c : Config} {x y z : Exchange V}

/-! ## From the header to the footer -/

/-- The bodies that responses have: nothing, or the return of a call. -/
inductive IsResponseBody (env : Environment V) : ResponseBody V → Prop
  | none : IsResponseBody env .none
  | answer (user : User) {call : Call} (h : call.target.ids.length ≤ maxSeries) :
      IsResponseBody env (.answer env user call)

theorem IsResponseBody.appends {body : ResponseBody V} (h : IsResponseBody env body) :
    body.Appends := by
  cases h with
  | none => exact appends_none
  | answer user => exact appends_answer user _

/-- A response has been begun: behind a header of no more than `longestHeader` bytes and
the operation there is the rest of the frame. -/
structure HasBegun (x y : Exchange V) : Prop where
  header : minHeader ≤ y.network.outbound.length
  region : ∀ region ∈ y.network.secured, region.start ≤ y.network.outbound.length
  length : y.network.outbound.length ≤ NetworkLayer.longestHeader + 1
  limit : y.network.outbound.limit = x.session.frameLimit

theorem beginResponse_of_conflict (c : Config) (h : x.session.flags.isConflicting = true) :
    (beginResponse c).run x = .error .rejected x := by
  unfold beginResponse
  dsimp only [EStateM.run]
  rw [NetworkLayer.stageHeader_of_conflict _ _ _ _ h]

theorem beginBroadcast_of_conflict (c : Config) (h : x.session.flags.isConflicting = true) :
    (beginBroadcast c).run x = .error (.frame .securityConflict) x := by
  unfold beginBroadcast
  dsimp only [EStateM.run]
  rw [NetworkLayer.stageHeader_of_conflict _ _ _ _ h]

theorem exists_hasBegun (c : Config) (h : x.session.flags.isConflicting = false) :
    ∃ y, (beginResponse c).run x = .ok () y ∧ HasBegun x y := by
  obtain ⟨n, hstage, hshort, hlimit⟩ := x.network.exists_short_stageHeader c .unicast
    (x.transport.command.has Command.nackBit) h
  have hlong := NetworkLayer.longestHeader_lt_frameLimit x.session
  have hspace := n.outbound.length_add_space
  have hfits : [Command.responseCode ||| x.transport.command.operation].length ≤
      n.outbound.space := by
    rw [List.length_singleton]
    omega
  obtain ⟨queue, hpush⟩ := FrameQueue.exists_append hfits
  have hlength := FrameQueue.length_append hpush
  have hheader := (NetworkLayer.isOpen_stageHeader hstage).header
  have hheaded := NetworkLayer.headed_of_stageHeader hstage
  rw [List.length_singleton] at hlength
  refine ⟨{ x with
    session := x.session.advanceDialog, network := { n with outbound := queue } }, ?_, ?_, ?_, ?_, ?_⟩
  · unfold beginResponse FrameQueue.push
    dsimp only [EStateM.run]
    rw [hstage]
    dsimp only
    rw [hpush]
  · dsimp only
    omega
  · intro region hregion
    have hstart : region.start ≤ n.outbound.length := by
      rw [FrameQueue.length_eq, hheaded.written, List.length_append]
      dsimp only at hregion
      rw [hheaded.secured] at hregion
      split at hregion
      · cases hregion
        exact Nat.le_add_right _ _
      · cases hregion
    dsimp only
    omega
  · dsimp only
    omega
  · exact (FrameQueue.limit_append hpush).trans hlimit

/-- Behind the operation there is room for any return that a call asks for. -/
theorem HasBegun.room (h : HasBegun x y) : 29 ≤ y.network.outbound.space := by
  have hlength := h.length
  have hspace := y.network.outbound.length_add_space
  have hlimit : 221 ≤ x.session.frameLimit := by
    unfold Session.frameLimit
    split <;> decide
  rw [h.limit] at hspace
  unfold NetworkLayer.longestHeader at hlength
  omega

theorem HasBegun.answer_ne_rejected (h : HasBegun x y) (env : Environment V) (user : User)
    {call : Call} (hcall : call.target.ids.length ≤ maxSeries) (w : V) :
    (env.answer user call y.network.outbound w).1.1 ≠ .rejected := by
  have hroom := h.room
  have hheader := Target.headerLength_le hcall
  exact (env.answer_fits user call w (by unfold footerLength; omega)).1

/-- However long its body is, a response has room for its footer. -/
theorem HasBegun.hasRoom (h : HasBegun x y) {body : ResponseBody V}
    (hbody : IsResponseBody env body) (happend : (appendBody body).run y = .ok () z) :
    z.network.HasRoom := by
  have hroom := h.room
  have hspace : 0 ≤ (body y.network.outbound y.world).1.1 →
      footerLength ≤ (body y.network.outbound y.world).1.2.space := by
    intro hscore
    cases hbody with
    | none => exact Nat.le_trans (by decide) hroom
    | answer user hcall =>
        have hheader := Target.headerLength_le hcall
        exact (env.answer_fits user _ y.world (by unfold footerLength; omega)).2 hscore
  obtain ⟨bytes, hbytes⟩ : ∃ bytes,
      y.network.outbound.append bytes = .ok (body y.network.outbound y.world).1.2 :=
    hbody.appends _ _
  have hlength := FrameQueue.length_append hbytes
  unfold appendBody at happend
  rcases hresult : body y.network.outbound y.world with ⟨⟨score, outbound⟩, world⟩
  rw [hresult] at hspace hlength
  dsimp only [EStateM.run] at happend hspace hlength
  rw [hresult] at happend
  dsimp only at happend
  by_cases hscore : score < 0
  · rw [if_pos hscore] at happend
    cases happend
  · rw [if_neg hscore] at happend
    cases happend
    refine ⟨?_, fun region hregion => ?_, hspace (Int.not_lt.mp hscore)⟩
    · have hheader := h.header
      dsimp only
      omega
    · have hstart := h.region region hregion
      dsimp only
      omega

/-! ## Responses that have been staged -/

open NetworkLayer (IsFramed)

theorem Responds.isFramed {n : NetworkLayer} {s : Session} {body : List UInt8}
    (h : Responds env c n s body y) : IsFramed c s.frameLimit y.network.outbound.written := by
  obtain ⟨t, headed, queue, w, w', hstage, happend, hcomplete⟩ := h
  exact NetworkLayer.isFramed_complete hstage happend hcomplete

theorem isFramed_respond {body : ResponseBody V} (hbody : IsResponseBody env body)
    (hrun : (respond env c body).run x = .ok () y)
    (hwanted : x.transport.command.has Command.noResponseBit = false) :
    IsFramed c x.session.frameLimit y.network.outbound.written := by
  obtain ⟨hstaged, hscrapped⟩ := (ends_respond c hbody.appends).of_ok hrun
  cases hdone : y.transport.command.has Command.noResponseBit with
  | false =>
      obtain ⟨⟨bytes, hresponds⟩, -⟩ := hstaged hdone
      exact hresponds.isFramed
  | true =>
      rw [hscrapped hdone] at hdone
      exact absurd hdone (by rw [hwanted]; exact Bool.false_ne_true)

/-- A dialog that had nothing to respond and has afterwards, has a frame under its limit. -/
theorem isFramed_receive {slot : Ticks × UInt8 × UInt8 × Option Applet} (hx : x.Unanswered slot)
    (hscore : 0 ≤ (x.receive env c).1)
    (hsubstate : (x.receive env c).2.session.netState.substate = .responseTx) :
    IsFramed c (x.receive env c).2.session.frameLimit
      (x.receive env c).2.network.outbound.written := by
  obtain ⟨y, -, hy, heq⟩ := exists_local_of_unanswered env c hx hscore hsubstate
  rw [heq] at hscore hsubstate ⊢
  have hresponds :=
    (holdsUntilResponse_unanswered env).exists_responds_dispatch c hy hscore hsubstate
  cases hwanted : (y.dispatch env c).2.transport.command.has Command.noResponseBit with
  | false =>
      obtain ⟨z, body, -, hbody, hsession⟩ := hresponds.wanted hwanted
      have hlimit : (y.dispatch env c).2.session.frameLimit = z.session.frameLimit := by
        rw [hsession]
        exact Session.frameLimit_advanceDialog z.session
      rw [hlimit]
      exact hbody.isFramed
  | true => exact absurd hsubstate (hresponds.unwanted hwanted).2

/-- Headers and responses always fit. A header is refused only when both kinds of security
are asked for, and then nothing changes; every other is short. Behind it a response never
runs out of room, whichever files a call names and whatever the cipher and the files do,
and once it is staged the frame keeps the limit of its dialog. -/
theorem responses_fit (env : Environment V) (c : Config) :
    (∀ (n : NetworkLayer) (s : Session) (addressing : Addressing) (nack : Bool),
      (s.flags.isConflicting = true →
        n.stageHeader c s addressing nack = .error .securityConflict) ∧
      (s.flags.isConflicting = false → ∃ m,
        n.stageHeader c s addressing nack = .ok (s.advanceDialog, m) ∧
          m.outbound.length ≤ 41 ∧
          m.outbound.limit = if s.flags.blockCoding then 221 else 254)) ∧
    (∀ x : Exchange V, x.session.flags.isConflicting = true →
      (beginResponse c).run x = .error .rejected x ∧
      (beginBroadcast c).run x = .error (.frame .securityConflict) x) ∧
    (∀ x : Exchange V, x.session.flags.isConflicting = false → ∃ y,
      (beginResponse c).run x = .ok () y ∧
      (∀ (user : User) (call : Call) (w : V), call.target.ids.length ≤ maxSeries →
        (env.answer user call y.network.outbound w).1.1 ≠ .rejected) ∧
      ∀ (body : ResponseBody V) (z : Exchange V), IsResponseBody env body →
        (appendBody body).run y = .ok () z →
        ∀ w cause, (z.network.complete env.cipher w).1.1 ≠ .error (.overflow cause)) ∧
    (∀ (isSeries : Bool) (queue rest : FrameQueue) (call : Call),
      (Call.parse isSeries).run queue = .ok call rest → call.target.ids.length ≤ maxSeries) ∧
    (∀ (x y : Exchange V) (body : ResponseBody V), IsResponseBody env body →
      (respond env c body).run x = .ok () y →
      x.transport.command.has Command.noResponseBit = false →
        IsFramed c x.session.frameLimit y.network.outbound.written) ∧
    (∀ x : Exchange V, x.session.netState.substate ≠ .responseTx →
      0 ≤ (x.receive env c).1 → (x.receive env c).2.session.netState.substate = .responseTx →
        IsFramed c (x.receive env c).2.session.frameLimit
          (x.receive env c).2.network.outbound.written) := by
  refine ⟨fun n s addressing nack => ⟨fun h => ?_, fun h => ?_⟩, fun x h => ⟨?_, ?_⟩,
    fun x h => ?_, fun _ _ _ _ h => Call.length_ids_le h, fun x y body hbody hrun hwanted => ?_,
    fun x hx hscore hsubstate => ?_⟩
  · exact n.stageHeader_of_conflict c addressing nack h
  · exact n.exists_short_stageHeader c addressing nack h
  · exact beginResponse_of_conflict c h
  · exact beginBroadcast_of_conflict c h
  · obtain ⟨y, hrun, hbegun⟩ := exists_hasBegun c h
    refine ⟨y, hrun, fun user call w hcall => ?_, fun body z hbody happend w cause => ?_⟩
    · exact hbegun.answer_ne_rejected env user hcall w
    · exact (hbegun.hasRoom hbody happend).complete_ne_overflow env.cipher w cause
  · exact isFramed_respond hbody hrun hwanted
  · exact isFramed_receive ⟨rfl, hx⟩ hscore hsubstate

/-- The first file of a device is asked for in a dialog that allows for block coding. -/
theorem responses_fit_block_coded :
    let env : Environment (Archived _ _ Unit) := Archive.table.serve .obliging
    let frame : List UInt8 :=
      [0x0F, 0x00, 0xF0, 0x1A, 0x40, 0x01, 0xAA, 0xBB, 0x20, 0x00, 0x04, 0x01, 0x00, 0x00, 0x00]
    let x : Exchange (Archived _ _ Unit) :=
      ⟨⟨.initial 5, { inbound := ⟨[], frame, 256, by decide, by decide⟩ }, {}, Archive.twoFiles⟩,
        ⟨0, 0x10, { substate := .requestRx }, .none, 0, 0xF0, 0, none⟩⟩
    let y := (x.receive env .default).2
    let conflicting : DialogFlags := { linkSecurity := true, networkSecurity := true }
    (x.network.stageHeader .default { x.session with flags := conflicting } .broadcast false =
        .error .securityConflict) ∧
      y.session.frameLimit = 221 ∧ IsFramed .default 221 y.network.outbound.written := by
  intro env frame x y conflicting
  have hlimit : y.session.frameLimit = 221 := by decide +kernel
  obtain ⟨hheaders, -, -, -, -, hreceived⟩ := responses_fit env .default
  have hframed := hreceived x (by decide) (by decide +kernel) (by decide +kernel)
  exact ⟨(hheaders x.network _ .broadcast false).1 rfl, hlimit, hlimit ▸ hframed⟩

end Exchange

end Mode2
