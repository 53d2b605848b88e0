import Mode2.Proofs.Exchange.Joining
import Mode2.Proofs.Exchange.Staged

/-!
# Responses

A device that accepts a request and is asked for a response stages it in the dialog of
the requester: a frame for the requester, with the operation of the request and a body.
-/

namespace Mode2

variable {V : Type}

/-- A body only appends to the frame. -/
def ResponseBody.Appends (body : ResponseBody V) : Prop :=
  ∀ (queue : FrameQueue) (w : V), ∃ bytes, queue.append bytes = .ok (body queue w).1.2

namespace Exchange

/-- A frame has been accepted that asks for a response, and it is the dialog's turn to
send it. -/
def HasResponded (result : Score × Exchange V) : Prop :=
  0 ≤ result.1 ∧ result.2.session.netState.substate = .responseTx ∧
    result.2.transport.command.has Command.noResponseBit = false

instance (result : Score × Exchange V) : Decidable (HasResponded result) :=
  inferInstanceAs (Decidable (_ ∧ _ ∧ _))

/-- The outgoing frame is the response to the command being processed, with this body,
of a device with configuration `c` whose network layer and dialog were `n` and `s`. -/
def Responds (env : Environment V) (c : Config) (n : NetworkLayer) (s : Session)
    (body : List UInt8) (y : Exchange V) : Prop :=
  ∃ t headed queue w w',
    n.stageHeader c s .unicast (y.transport.command.has Command.nackBit) = .ok (t, headed) ∧
    headed.outbound.append ((Command.responseCode ||| y.transport.command.operation) :: body) =
      .ok queue ∧
    ({ headed with outbound := queue } : NetworkLayer).complete env.cipher w =
      ((.ok (), y.network), w')

variable {env : Environment V} {c c' : Config} {t : Session} {x : Exchange V}

/-- A response that has been staged is a complete frame. -/
theorem Responds.isCompleteFrame {n : NetworkLayer} {s : Session} {body : List UInt8}
    {y : Exchange V} (h : Responds env c n s body y) :
    IsCompleteFrame y.network.outbound.written := by
  obtain ⟨t, headed, queue, w, w', hheader, happend, hcomplete⟩ := h
  have hopen := (NetworkLayer.isOpen_stageHeader hheader).append happend
  exact NetworkLayer.isCompleteFrame_complete (n := { headed with outbound := queue }) hopen
    hcomplete

theorem ends_beginResponse_staged (c : Config) :
    Ends (beginResponse c) x
      (fun _ y => ∃ s n, x.network.stageHeader c x.session .unicast
          (x.transport.command.has Command.nackBit) = .ok (s, n) ∧
        ∃ queue, n.outbound.append [Command.responseCode ||| x.transport.command.operation] =
          .ok queue ∧ y = { x with session := s, network := { n with outbound := queue } })
      fun _ _ => True := by
  unfold Ends beginResponse
  dsimp only [EStateM.run]
  cases hstage : x.network.stageHeader c x.session .unicast
      (x.transport.command.has Command.nackBit) with
  | error cause => trivial
  | ok staged =>
      obtain ⟨s, n⟩ := staged
      dsimp only [FrameQueue.push]
      cases hpush : n.outbound.append
          [Command.responseCode ||| x.transport.command.operation] with
      | error cause => trivial
      | ok queue => exact ⟨s, n, rfl, queue, hpush, rfl⟩

theorem ends_appendBody_appended {body : ResponseBody V} (hbody : body.Appends) :
    Ends (appendBody body) x
      (fun _ y => ∃ bytes queue w, x.network.outbound.append bytes = .ok queue ∧
        y = { x with network.outbound := queue, world := w })
      fun _ _ => True := by
  obtain ⟨bytes, hbytes⟩ := hbody x.network.outbound x.world
  unfold Ends appendBody
  dsimp only [EStateM.run]
  rcases hresult : body x.network.outbound x.world with ⟨⟨score, outbound⟩, world⟩
  rw [hresult] at hbytes
  dsimp only
  by_cases hscore : score < 0
  · rw [if_pos hscore]
    trivial
  · rw [if_neg hscore]
    exact ⟨bytes, outbound, world, hbytes, rfl⟩

theorem ends_endResponse_completed :
    Ends (endResponse env) x
      (fun _ y => ∃ w', x.network.complete env.cipher x.world = ((.ok (), y.network), w') ∧
        y.transport = x.transport ∧ y.session = x.session.withSubstate .responseTx)
      fun _ _ => True := by
  unfold Ends endResponse
  dsimp only [EStateM.run]
  rcases hresult : x.network.complete env.cipher x.world with ⟨⟨outcome, network⟩, world⟩
  cases outcome with
  | error cause => trivial
  | ok _ => exact ⟨world, rfl, rfl, rfl⟩

/-- A response that is wanted and does not fail is staged from its header to its footer, and
it is the dialog's turn to send it; one that is not wanted ends the dialog. -/
theorem ends_respond (c : Config) {body : ResponseBody V} (hbody : body.Appends) :
    Ends (respond env c body) x
      (fun _ y =>
        (y.transport.command.has Command.noResponseBit = false →
          (∃ bytes, Responds env c x.network x.session bytes y) ∧
            y.session = x.session.advanceDialog.withSubstate .responseTx) ∧
        (y.transport.command.has Command.noResponseBit = true →
          y = { x with session := x.session.scrap }))
      fun _ _ => True := by
  refine Ends.bind (Ends.get ?_)
  split
  next hunwanted =>
    refine ⟨fun hwanted => ?_, fun _ => rfl⟩
    exact absurd hunwanted (by rw [hwanted]; exact Bool.false_ne_true)
  next hwanted =>
    refine Ends.bind ((ends_beginResponse_staged c).imp ?_ fun _ _ h => h)
    rintro _ _ ⟨s, n, hstage, begun, hbegun, rfl⟩
    refine Ends.bind ((ends_appendBody_appended hbody).imp ?_ fun _ _ h => h)
    rintro _ _ ⟨bytes, queue, w, happend, rfl⟩
    refine ends_endResponse_completed.imp ?_ fun _ _ h => h
    rintro _ y ⟨w', hcomplete, htransport, hsession⟩
    refine ⟨fun _ => ⟨⟨bytes, s, n, queue, w, w', ?_, ?_, hcomplete⟩, ?_⟩, fun hunwanted => ?_⟩
    · rw [htransport]
      exact hstage
    · rw [htransport]
      exact FrameQueue.append_append hbegun happend
    · rw [hsession, NetworkLayer.session_stageHeader hstage]
    · exact absurd (htransport ▸ hunwanted) hwanted

/-- The property holds of whatever is done before a response is staged, or instead. -/
structure HoldsUntilResponse (env : Environment V) (P : Exchange V → Prop) : Prop
    extends Prepares env (Preserves P) where
  world : ∀ x world, P x → P { x with world }
  response : ∀ x acks response, P x →
    P { x with transport.acks := acks, transport.response := response }
  scrap : ∀ x, P x → P { x with session := x.session.scrap }
  stream : ∀ x, P x →
    P { x with session := { x.session with netState.datastream := true, flags.listen := true } }

/-- A response that is wanted has been staged in a state with the property, whose dialog has
advanced with it; otherwise the property still holds. -/
structure RespondsFrom (env : Environment V) (c : Config) (P : Exchange V → Prop)
    (y : Exchange V) : Prop where
  wanted : y.transport.command.has Command.noResponseBit = false →
    ∃ (z : Exchange V) (body : List UInt8), P z ∧ Responds env c z.network z.session body y ∧
      y.session = z.session.advanceDialog.withSubstate .responseTx
  unwanted : y.transport.command.has Command.noResponseBit = true → P y

theorem appends_none : (ResponseBody.none : ResponseBody V).Appends :=
  fun queue _ => ⟨[], queue.append_nil⟩

theorem appends_answer (user : User) (call : Call) : (ResponseBody.answer env user call).Appends :=
  fun queue w => env.exists_append_answer user call queue w

namespace HoldsUntilResponse

variable {P : Exchange V → Prop} (hholds : HoldsUntilResponse env P)

include hholds

theorem ends_respond_from (c : Config) {body : ResponseBody V} (hbody : body.Appends) (hx : P x) :
    Ends (respond env c body) x (fun _ y => RespondsFrom env c P y) fun _ _ => True := by
  refine (ends_respond c hbody).imp ?_ fun _ _ h => h
  rintro _ y ⟨hwanted, hunwanted⟩
  refine ⟨fun h => ?_, fun h => ?_⟩
  · obtain ⟨⟨bytes, hbytes⟩, hsession⟩ := hwanted h
    exact ⟨x, bytes, hx, hbytes, hsession⟩
  · rw [hunwanted h]
    exact hholds.scrap x hx

theorem ends_carryOut_from (c : Config) (group : OperationGroup) (user : User) (hx : P x) :
    Ends (carryOut env c group user) x (fun _ y => RespondsFrom env c P y) fun _ _ => True := by
  have hcall : Ends (replyToCall env c user) x (fun _ y => RespondsFrom env c P y)
      fun _ _ => True := by
    refine Ends.bind (Ends.get (Ends.bind_of_run fun call y hrun => ?_))
    have hy := (ExchangeM.moves_inbound hholds.inbound _ _ x).of_ok hrun hx
    exact hholds.ends_respond_from c (appends_answer user call) hy
  cases group with
  | announcement | fileCollection | seriesCollection => exact hcall
  | datagram =>
      refine Ends.bind_of_run fun ports y hrun => Ends.bind (Ends.get ?_)
      have hy := (ExchangeM.moves_inbound hholds.inbound _ _ x).of_ok hrun hx
      dsimp only
      split
      · exact Ends.throw trivial
      · refine Ends.bind (ExchangeM.ends_perform ?_)
        split
        · exact hholds.ends_respond_from c appends_none (hholds.world y _ hy)
        · exact Ends.throw trivial
  | datastream =>
      refine Ends.bind (ExchangeM.ends_modifySession ?_)
      refine Ends.bind (ExchangeM.ends_modifyTransport ?_)
      exact hholds.ends_respond_from c appends_none (hholds.transport _ _ rfl (hholds.stream x hx))
  | reserved => exact Ends.throw trivial

theorem ends_handleRequest_from (c : Config) (kind : RequestKind) (hx : P x) :
    Ends (handleRequest env c kind) x (fun _ y => RespondsFrom env c P y) fun _ _ => True := by
  refine Ends.bind (Ends.get ?_)
  dsimp only
  split
  · exact Ends.bind (Ends.throw trivial)
  refine Ends.bind_of_run fun _ y hrun => ?_
  have hy := (hholds.moves_readResponseWindow kind x).of_ok hrun hx
  refine Ends.bind_of_run fun score z hrun => ?_
  have hz := (hholds.moves_runQueries c kind _ _ y).of_ok hrun hy
  refine Ends.bind ((hholds.ends_carryOut_from c _ _ hz).imp ?_ fun _ _ h => h)
  exact fun _ _ hresponds => Ends.pure hresponds

/-- A frame that is accepted is a response that was awaited, or is responded to. -/
theorem ends_handleData_from (c : Config) (hx : P x) :
    Ends (handleData env c) x
      (fun score y => score < 0 ∨ (y.session.netState.substate = .responseRx ∧ P y) ∨
        RespondsFrom env c P y)
      fun _ _ => True := by
  refine Ends.bind (ExchangeM.ends_modifyTransport ?_)
  refine Ends.bind_of_run fun command y hrun => ?_
  have hy := (ExchangeM.moves_inbound hholds.inbound _ _ _).of_ok hrun
    (hholds.transport x x.transport.reset rfl hx)
  have hcommand := hholds.transport y { y.transport with command } rfl hy
  refine Ends.bind (ExchangeM.ends_modifyTransport ?_)
  split
  · unfold Ends acceptResponse
    dsimp only [EStateM.run]
    by_cases hwaits : y.session.netState.substate = .responseRx
    · rw [if_pos hwaits]
      exact .inr (.inl ⟨hwaits, hholds.response _ _ _ hcommand⟩)
    · rw [if_neg hwaits]
      exact .inl (Int.negSucc_lt_zero 0)
  · refine (hholds.ends_handleRequest_from c _ hcommand).imp ?_ fun _ _ h => h
    exact fun _ _ hresponds => .inr (.inr hresponds)
  · exact Ends.throw trivial
  · exact Ends.throw trivial

/-- Whoever accepts the data of a frame has taken it for a response that was awaited, or
responds to it. -/
theorem waits_or_responds_dispatch (c : Config) (hx : P x) (hscore : 0 ≤ (x.dispatch env c).1) :
    ((x.dispatch env c).2.session.netState.substate = .responseRx ∧ P (x.dispatch env c).2) ∨
      RespondsFrom env c P (x.dispatch env c).2 := by
  rcases accepted_of_ends (hholds.ends_handleData_from c hx) hscore with hdropped | haccepted
  · exact absurd hscore (Int.not_le.mpr hdropped)
  · exact haccepted

/-- Whoever processes the data of a frame and has a response to send has staged it. -/
theorem exists_responds_dispatch (c : Config) (hx : P x) (hscore : 0 ≤ (x.dispatch env c).1)
    (hsubstate : (x.dispatch env c).2.session.netState.substate = .responseTx) :
    RespondsFrom env c P (x.dispatch env c).2 := by
  rcases hholds.waits_or_responds_dispatch c hx hscore with ⟨hwaits, -⟩ | hresponds
  · exact absurd (hwaits.symm.trans hsubstate) (by decide)
  · exact hresponds

end HoldsUntilResponse

/-! ## Responses to frames that were sent -/

theorem holdsUntilResponse_joined (env : Environment V) (c : Config) (t : Session) :
    HoldsUntilResponse env (Joined (V := V) c t) where
  toPrepares := prepares_joined env c t
  world _ _ h := { h with }
  response _ _ _ h := { h with }
  scrap _ h := { h with }
  stream _ h := { h with }

/-- Whoever responds to a frame without a routing block has joined the dialog of its
sender and responds there. -/
theorem exists_responds {W : Type} {n headed sent : NetworkLayer} {s : Session}
    {addressing : Addressing} {nack : Bool} {payload : List UInt8} {queue : FrameQueue}
    {cipher : Option (Cipher W)} {w w' : W}
    (hheader : n.stageHeader c s addressing nack = .ok (t, headed))
    (hpayload : headed.outbound.append payload = .ok queue)
    (hfooter : ({ headed with outbound := queue } : NetworkLayer).complete cipher w =
      ((.ok (), sent), w'))
    (hroute : s.routes c = false)
    (hcipher : ∀ enc ∈ cipher, ∀ dec ∈ env.cipher, enc.IsInvertedBy dec)
    (hinbound : x.network.inbound.written = sent.outbound.written)
    (hresponded : HasResponded (x.receive env c')) :
    ∃ (z : Exchange V) (body : List UInt8), z.Joined c t ∧
      Responds env c' z.network z.session body (x.receive env c').2 := by
  have hread : Ends (HeaderM.read env c') x _ _ :=
    HeaderM.ends_read_joined hheader hpayload hfooter hroute hcipher hinbound
  have hdrops : ¬ 0 ≤ Score.rejected := Int.not_le.mpr (Int.negSucc_lt_zero 0)
  unfold receive at hresponded ⊢
  cases hrun : (HeaderM.read env c').run x with
  | error cause y =>
      rw [hrun] at hresponded
      exact absurd hresponded.1 hdrops
  | ok destination y =>
      obtain ⟨rfl, hjoined⟩ := hread.of_ok hrun
      rw [hrun] at hresponded
      dsimp only at hresponded ⊢
      have hresponds := (holdsUntilResponse_joined env c t).exists_responds_dispatch c' hjoined
        hresponded.1 hresponded.2.1
      obtain ⟨z, body, hz, hbody, -⟩ := hresponds.wanted hresponded.2.2
      exact ⟨z, body, hz, hbody⟩

/-! ## Responses in a dialog that awaits a frame -/

/-- The dialog is in this place of the schedule and has nothing to respond. -/
def Unanswered (slot : Ticks × UInt8 × UInt8 × Option Applet) (x : Exchange V) : Prop :=
  x.session.slot = slot ∧ x.session.netState.substate ≠ .responseTx

variable {slot : Ticks × UInt8 × UInt8 × Option Applet}

theorem readsHeader_unanswered (env : Environment V) :
    ReadsHeader env (Preserves (Unanswered (V := V) slot)) where
  toComposes := preserves_composes _
  inbound _ _ h := h
  header _ _ _ _ h := h
  dialog _ _ _ _ _ h := h
  decrypt _ _ _ _ _ h := h

theorem holdsUntilResponse_unanswered (env : Environment V) :
    HoldsUntilResponse env (Unanswered (V := V) slot) where
  toComposes := preserves_composes _
  inbound _ _ h := h
  transport _ _ _ h := h
  access _ _ _ h := h
  listen _ h := h
  query _ _ _ _ h := h
  world _ _ h := h
  response _ _ _ h := h
  scrap _ h := h
  stream _ h := h

/-- A dialog that had nothing to respond and has afterwards, has taken its frame for one
for this device. -/
theorem exists_local_of_unanswered (env : Environment V) (c : Config) (hx : x.Unanswered slot)
    (hscore : 0 ≤ (x.receive env c).1)
    (hsubstate : (x.receive env c).2.session.netState.substate = .responseTx) :
    ∃ y, (HeaderM.read env c).run x = .ok .local y ∧ y.Unanswered slot ∧
      x.receive env c = y.dispatch env c := by
  have hdrops : ¬ 0 ≤ Score.rejected := Int.not_le.mpr (Int.negSucc_lt_zero 0)
  have hread : Ends (HeaderM.read env c) x _ _ :=
    ReadsHeader.moves_read (R := Preserves (Unanswered slot)) (readsHeader_unanswered env) c x
  unfold receive at hscore hsubstate ⊢
  split at hscore
  next heq => exact absurd hscore hdrops
  next y heq => exact ⟨y, heq, hread.of_ok heq hx, rfl⟩
  next y heq =>
    rw [heq] at hsubstate
    have hy := (hread.of_ok heq hx).2
    refine absurd hsubstate ?_
    dsimp only [continueDatastream]
    split
    · split <;> exact hy
    · exact hy
  next y heq =>
    rw [heq] at hsubstate
    have hy := (hread.of_ok heq hx).2
    refine absurd hsubstate ?_
    dsimp only [forward]
    split <;> exact hy

/-- A dialog that had nothing to respond and has afterwards, has staged its response. -/
theorem exists_responds_of_unanswered (env : Environment V) (c : Config) (hx : x.Unanswered slot)
    (hscore : 0 ≤ (x.receive env c).1)
    (hsubstate : (x.receive env c).2.session.netState.substate = .responseTx) :
    ∃ (z : Exchange V) (body : List UInt8), z.Unanswered slot ∧
      Responds env c z.network z.session body (x.receive env c).2 := by
  obtain ⟨y, -, hy, heq⟩ := exists_local_of_unanswered env c hx hscore hsubstate
  rw [heq] at hscore hsubstate ⊢
  have hresponds :=
    (holdsUntilResponse_unanswered env).exists_responds_dispatch c hy hscore hsubstate
  cases hwanted : (y.dispatch env c).2.transport.command.has Command.noResponseBit with
  | false =>
      obtain ⟨z, body, hz, hbody, -⟩ := hresponds.wanted hwanted
      exact ⟨z, body, hz, hbody⟩
  | true => exact absurd hsubstate (hresponds.unwanted hwanted).2

/-- The unread rest of the frame begins with the command of a request. -/
def HoldsRequest (x : Exchange V) : Prop :=
  ∃ command queue kind, commandBytes x.network.inbound = .ok command queue ∧
    Command.kindOf? command.code = some (.request kind)

/-- Only a request changes the dialog. -/
theorem ends_handleData_request (env : Environment V) (c : Config) (x : Exchange V) :
    Ends (handleData env c) x (fun _ y => y.session = x.session ∨ x.HoldsRequest)
      fun _ _ => True := by
  refine Ends.bind (ExchangeM.ends_modifyTransport ?_)
  refine Ends.bind_of_run fun command y hrun => ?_
  obtain ⟨queue, hread, rfl⟩ := ExchangeM.exists_of_inbound hrun
  refine Ends.bind (ExchangeM.ends_modifyTransport ?_)
  split
  · unfold Ends acceptResponse
    dsimp only [EStateM.run]
    split <;> exact .inl rfl
  next kind hkind => exact Ends.of_run fun _ _ _ => .inr ⟨command, queue, kind, hread, hkind⟩
  · exact Ends.throw trivial
  · exact Ends.throw trivial

/-- A dialog that had nothing to respond and has afterwards, has received a request. -/
theorem exists_request_of_unanswered (env : Environment V) (c : Config) (hx : x.Unanswered slot)
    (hscore : 0 ≤ (x.receive env c).1)
    (hsubstate : (x.receive env c).2.session.netState.substate = .responseTx) :
    ∃ y, (HeaderM.read env c).run x = .ok .local y ∧ y.HoldsRequest := by
  obtain ⟨y, hread, hy, heq⟩ := exists_local_of_unanswered env c hx hscore hsubstate
  refine ⟨y, hread, ?_⟩
  rw [heq] at hscore hsubstate
  apply (accepted_of_ends (ends_handleData_request env c y) hscore).resolve_left
  intro hsame
  exact hy.2 (hsame ▸ hsubstate)

end Exchange

end Mode2
