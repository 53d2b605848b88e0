import Mode2.Proofs.Exchange.Responding
import Mode2.Proofs.File.Table

/-!
# Requests are understood, and so are their responses

A device that has asked understands whatever another device stages in response: it
accepts the frame as the next of its dialog, keeps its body, and remembers who sent it.
-/

namespace Mode2

variable {W V : Type}

/-! ## The command of a response -/

namespace Command

theorem optionsBit_response (command : Command) :
    Octet.hasAny (responseCode ||| command.operation) optionsBit = false := by
  have hbits : (0x0F : UInt8) &&& optionsBit = 0 := by decide
  simp [Octet.hasAny, responseCode, operation, operationBits, UInt8.and_assoc, hbits]

theorem kindOf?_response (command : Command) :
    kindOf? (responseCode ||| command.operation) = some .response := by
  have hbits : (0x0F : UInt8) &&& kindBits = 0 := by decide
  have hzero : (responseCode ||| command.operation) &&& kindBits = 0 := by
    simp [responseCode, operation, operationBits, UInt8.and_assoc, hbits]
  unfold kindOf?
  rw [if_pos hzero]

end Command

/-- A device that answers is remembered, unless eight others are. -/
theorem AckList.mem_record (acks : AckList) (id : DeviceId) :
    id ∈ (acks.record id).ids ∨ id ∉ acks.ids ∧ acks.ids.length = ackCapacity := by
  unfold record
  split
  · exact .inl (List.mem_append_right _ List.mem_cons_self)
  next hrefused =>
    by_cases hmem : id ∈ acks.ids
    · exact .inl hmem
    · have hfull : ¬ acks.ids.length < ackCapacity := fun hroom => hrefused ⟨hmem, hroom⟩
      exact .inr ⟨hmem, Nat.le_antisymm acks.length_le (Nat.le_of_not_lt hfull)⟩

namespace Exchange

variable {env : Environment W} {x : Exchange W} {bad : Score → Exchange W → Prop}

/-- An awaited response is kept, and its sender remembered. -/
theorem ends_handleData_response (c : Config) {command : Command} {body : List UInt8}
    (hunread : x.network.inbound.unread = (Command.responseCode ||| command.operation) :: body)
    (hwaits : x.session.netState.substate = .responseRx) :
    Ends (handleData env c) x
      (fun score y => score = 0 ∧ y.network.header = x.network.header ∧
        y.transport.response = body.take responseCapacity ∧
        y.transport.acks = x.transport.acks.record x.network.peer) bad := by
  obtain ⟨queue, hread, hbody⟩ := FrameQueue.readByte_of_unread hunread
  have hbyte : QueueM.readByte.run x.network.inbound =
      .ok (Command.responseCode ||| command.operation) queue := by
    unfold QueueM.readByte QueueM.take
    dsimp only [EStateM.run]
    rw [hread]
  have hcommand : commandBytes.run x.network.inbound =
      .ok { code := Command.responseCode ||| command.operation, options := 0 } queue := by
    unfold commandBytes
    rw [EStateM.run_bind, hbyte]
    dsimp only
    rw [command.optionsBit_response]
    rfl
  refine Ends.bind (ExchangeM.ends_modifyTransport ?_)
  refine Ends.bind (ExchangeM.ends_inbound hcommand ?_)
  refine Ends.bind (ExchangeM.ends_modifyTransport ?_)
  rw [Command.kindOf?_response]
  unfold Ends acceptResponse
  dsimp only [EStateM.run]
  rw [if_pos hwaits, hbody]
  exact ⟨rfl, rfl, rfl, rfl⟩

/-- A response to the device that has asked for it is read by that device as it was staged. -/
theorem exists_recovered_response {c c' : Config} {env' : Environment V} {n : NetworkLayer}
    {s : Session} {y : Exchange V} {body : List UInt8} {z : Exchange W}
    (hresponds : Responds env' c' n s body y) (hsettled : s.netState.connected = true)
    (hroute : s.routes c' = true → n.route.HasWidth s.flags.virtualIds)
    (hpeer : c.Owns n.peer s.flags.virtualIds)
    (hcipher : s.flags.isSecured = true → ∀ enc ∈ env'.cipher,
      ∃ dec, env.cipher = some dec ∧ enc.IsInvertedBy dec)
    (hinbound : z.network.inbound.written = y.network.outbound.written)
    (hconnected : z.session.netState.connected = true) (hdialog : z.session.dialogId = s.dialogId) :
    ∃ destination z', (HeaderM.read env c).run z = .ok destination z' ∧
      Recovered c' c n s.advanceDialog .unicast (y.transport.command.has Command.nackBit)
        ((Command.responseCode ||| y.transport.command.operation) :: body) destination z' := by
  obtain ⟨s', headed, queue, v, v', hstage, happend, hcomplete⟩ := hresponds
  obtain rfl := NetworkLayer.session_stageHeader hstage
  have hfollow : z.session.Follows c s.advanceDialog.subnet s.advanceDialog.dialogId := by
    unfold Session.Follows Session.advanceDialog
    rw [if_pos hconnected, if_pos hsettled, hdialog]
  exact (HeaderM.ends_read hstage happend hcomplete hroute (fun _ => hpeer) hcipher hfollow
    hinbound).exists_ok

/-- A device that waits for responses keeps one that its header leaves to it, and remembers
who sent it. -/
theorem receive_local_response {c : Config} {command : Command} {body : List UInt8}
    {z z' : Exchange W} (hrun : (HeaderM.read env c).run z = .ok .local z')
    (hpayload : z'.network.inbound.unread = (Command.responseCode ||| command.operation) :: body)
    (hwaits : z.session.netState.substate = .responseRx) :
    (z.receive env c).1 = 0 ∧ (z.receive env c).2.network.header = z'.network.header ∧
      (z.receive env c).2.transport.response = body.take responseCapacity ∧
      (z.receive env c).2.transport.acks = z.transport.acks.record z'.network.peer := by
  obtain ⟨htransport, hsubstate⟩ := ((readsHeader_awaiting env).moves_read c z).of_ok hrun
  have hdata : Ends (handleData env c) z' _ fun _ _ => False :=
    ends_handleData_response c hpayload (hsubstate.trans hwaits)
  obtain ⟨score, result, hrun', rfl, hheader, hresponse, hacks⟩ := hdata.exists_ok
  have hreceive : z.receive env c = (0, result) := by
    unfold receive
    rw [hrun]
    unfold dispatch ExchangeM.score
    dsimp only
    rw [hrun']
  rw [hreceive]
  exact ⟨rfl, hheader, hresponse, by rw [hacks, htransport]⟩

/-- A response in the dialog in which a device has asked is accepted by that device. -/
theorem receive_response {c c' : Config} {env' : Environment V} {t : Session} {x : Exchange V}
    {y : Exchange V} {body : List UInt8} {z : Exchange W} (hjoined : x.Joined c t)
    (hresponds : Responds env' c' x.network x.session body y)
    (hassigned : t.flags.virtualIds = true → c.hasVirtualId = true)
    (hcipher : t.flags.isSecured = true → ∀ enc ∈ env'.cipher,
      ∃ dec, env.cipher = some dec ∧ enc.IsInvertedBy dec)
    (hinbound : z.network.inbound.written = y.network.outbound.written)
    (hwaits : z.session.netState.substate = .responseRx)
    (hconnected : z.session.netState.connected = true) (hdialog : z.session.dialogId = t.dialogId) :
    (z.receive env c).1 = 0 ∧
      (z.receive env c).2.network.header.dialogId = t.dialogId + 1 ∧
      (z.receive env c).2.transport.response = body.take responseCapacity ∧
      (z.receive env c).2.transport.acks =
        z.transport.acks.record (c'.localId t.flags.virtualIds) := by
  have hroutes : x.session.routes c' = false := by
    unfold Session.routes
    rw [hjoined.route, Bool.false_and]
  have hpeer : c.Owns x.network.peer x.session.flags.virtualIds := by
    rw [hjoined.virtualIds]
    exact ⟨hjoined.peer, hassigned⟩
  obtain ⟨destination, z', hrun, hrecovered⟩ :=
    exists_recovered_response hresponds hjoined.connected
      (fun hroutes' => nomatch hroutes.symm.trans hroutes') hpeer (hjoined.secured ▸ hcipher)
      hinbound hconnected (hdialog.trans hjoined.dialogId.symm)
  have hlocal : destination = .local := by
    rw [hrecovered.destination, if_neg]
    simpa [Session.routes] using hroutes
  subst hlocal
  obtain ⟨hscore, hheader, hresponse, hacks⟩ :=
    receive_local_response hrun hrecovered.payload hwaits
  refine ⟨hscore, ?_, hresponse, ?_⟩
  · rw [hheader, hrecovered.header]
    unfold Session.advanceDialog
    rw [if_pos hjoined.connected, hjoined.dialogId]
  · rw [hacks, hrecovered.peer, Session.flags_advanceDialog, hjoined.virtualIds]

/-- A secured frame is completed by means of a cipher. -/
theorem exists_cipher_of_complete {n headed sent : NetworkLayer} {c : Config} {s t : Session}
    {addressing : Addressing} {nack : Bool} {payload : List UInt8} {queue : FrameQueue}
    {cipher : Option (Cipher W)} {w w' : W}
    (hheader : n.stageHeader c s addressing nack = .ok (t, headed))
    (hpayload : headed.outbound.append payload = .ok queue)
    (hfooter : ({ headed with outbound := queue } : NetworkLayer).complete cipher w =
      ((.ok (), sent), w'))
    (hsecured : s.flags.isSecured = true) : ∃ enc, cipher = some enc := by
  have hheaded := NetworkLayer.headed_of_stageHeader hheader
  obtain ⟨rest, hseals, -⟩ := NetworkLayer.written_complete hheaded hpayload hfooter
  have hregion := hheaded.secured
  rw [if_pos hsecured] at hregion
  cases hseals with
  | clear hnone =>
      rw [hnone] at hregion
      cases hregion
  | @encrypted region enc _ hcipher _ => exact ⟨enc, hcipher⟩

/-- Requests and responses interoperate. A device with configuration `c` has sent a request
without a routing block; a device with configuration `c'` has responded to it. Then the
requester, when it waits for a response under the dialog ID of its request, accepts what the
responder has staged: it is a response for the requester under the next dialog ID, its body
is kept as far as there is room, and the responder is remembered unless eight others are. -/
theorem understands_response {c c' : Config} {env : Environment W} {env' : Environment V}
    {n headed sent : NetworkLayer} {s t : Session} {addressing : Addressing} {nack : Bool}
    {payload : List UInt8} {queue inbound : FrameQueue} {w w' : W}
    (hheader : n.stageHeader c s addressing nack = .ok (t, headed))
    (hpayload : headed.outbound.append payload = .ok queue)
    (hfooter : ({ headed with outbound := queue } : NetworkLayer).complete env.cipher w =
      ((.ok (), sent), w'))
    (hroute : s.routes c = false)
    (hassigned : s.flags.virtualIds = true → c.hasVirtualId = true)
    (hciphers : ∀ cipher ∈ env.cipher, ∀ cipher' ∈ env'.cipher,
      cipher.IsInvertedBy cipher' ∧ cipher'.IsInvertedBy cipher)
    (hload : FrameQueue.load sent.outbound.written = .ok inbound) (x : Exchange V)
    (hresponded : HasResponded (({ x with network.inbound := inbound } : Exchange V).receive env' c'))
    (z : Exchange W) (hwaits : z.session.netState.substate = .responseRx)
    (hconnected : z.session.netState.connected = true)
    (hdialog : z.session.dialogId = t.dialogId) :
    let y := (({ x with network.inbound := inbound } : Exchange V).receive env' c').2
    ∃ (n' : NetworkLayer) (s' : Session) (body : List UInt8) (response : FrameQueue),
      Responds env' c' n' s' body y ∧ n'.peer = c.localId s.flags.virtualIds ∧
      FrameQueue.load y.network.outbound.written = .ok response ∧
      let result := ({ z with network.inbound := response } : Exchange W).receive env c
      result.1 = 0 ∧ result.2.network.header.dialogId = t.dialogId + 1 ∧
        result.2.transport.response = body.take responseCapacity ∧
        (c'.localId s.flags.virtualIds ∈ result.2.transport.acks.ids ∨
          c'.localId s.flags.virtualIds ∉ z.transport.acks.ids ∧
            z.transport.acks.ids.length = ackCapacity) := by
  intro y
  have hflags : t.flags = s.flags := by
    rw [NetworkLayer.session_stageHeader hheader, Session.flags_advanceDialog]
  obtain ⟨joined, body, hjoined, hresponds⟩ :=
    exists_responds (x := { x with network.inbound := inbound }) hheader hpayload hfooter hroute
      (fun enc henc dec hdec => (hciphers enc henc dec hdec).1) (FrameQueue.written_of_load hload)
      hresponded
  obtain ⟨response, hresponse⟩ := y.network.outbound.exists_load_written
  refine ⟨joined.network, joined.session, body, response, hresponds, ?_, hresponse, ?_⟩
  · rw [hjoined.peer, hflags]
  obtain ⟨hscore, hid, hbody, hacks⟩ :=
    receive_response (z := { z with network.inbound := response }) hjoined hresponds
      (hflags ▸ hassigned)
      (fun hsecured enc henc =>
        have ⟨dec, hdec⟩ := exists_cipher_of_complete hheader hpayload hfooter (hflags ▸ hsecured)
        ⟨dec, hdec, (hciphers dec hdec enc henc).2⟩)
      (FrameQueue.written_of_load hresponse) hwaits hconnected hdialog
  refine ⟨hscore, hid, hbody, ?_⟩
  rw [hacks, hflags]
  exact z.transport.acks.mem_record _

/-- A secured call for a file that only members may read, and the secured response. -/
theorem understands_response_secured :
    let c : Config := { Config.default with identity.vid := #v[0xAA, 0xBB], keyIndex := 2 }
    let c' : Config := { Config.default with identity.vid := #v[0x12, 0x34], keyIndex := 7 }
    let env : Environment Unit :=
      { Environment.obliging with cipher := some (HeaderM.maskingCipher 0x5A) }
    let env' := Archive.table.serve env
    let inbound : FrameQueue :=
      ⟨[], [0x0F, 0x7F, 0xF0, 0x34, 3, 2, 0xF2, 0xE3, 0x7C, 0x50, 0x5C, 0x3B, 0x58, 0, 0], 256,
        by decide, by decide⟩
    let x : Exchange (Archived _ _ Unit) :=
      ⟨⟨.initial 5, { inbound }, {}, ⟨[(0x63, 0x20)], fun _ => [1, 2, 3], [], ()⟩⟩,
        ⟨0, 0x10, { substate := .requestRx }, .none, 0, 0xF0, 0, none⟩⟩
    let z : Exchange Unit :=
      ⟨⟨.initial 5, {}, {}, ()⟩,
        ⟨0, 0x10, { substate := .responseRx, connected := true }, .none, 3, 0xF0, 0, none⟩⟩
    let y := (x.receive env' c').2
    y.network.outbound.written =
        [0x14, 0x7F, 0xF0, 0x30, 4, 7, 0x4F, 0x69, 0xF7, 0xE6, 0x59, 0x3E, 0x5D, 0x5E, 0x5D, 0x5C,
          0x5F, 0x5E, 0, 0] ∧
      ∃ (n' : NetworkLayer) (s' : Session) (body : List UInt8) (response : FrameQueue),
        Responds env' c' n' s' body y ∧ n'.peer = c.localId true ∧
        FrameQueue.load y.network.outbound.written = .ok response ∧
        let result := ({ z with network.inbound := response } : Exchange Unit).receive env c
        result.1 = 0 ∧ result.2.network.header.dialogId = 4 ∧
          result.2.transport.response = body.take responseCapacity ∧
          (c'.localId true ∈ result.2.transport.acks.ids ∨
            c'.localId true ∉ z.transport.acks.ids ∧ z.transport.acks.ids.length = ackCapacity) := by
  intro c c' env env' inbound x z y
  let s : Session :=
    ⟨0, 0x10, { substate := .requestTx }, { networkSecurity := true, virtualIds := true }, 3, 0xF0,
      0, none⟩
  let headed : NetworkLayer :=
    { outbound := ⟨[], [0, 0, 0xF0, 0x34, 3, 2, 0xAA, 0xBB], 254, by decide, by decide⟩
      linkControl := 0x7F
      secured := some ⟨2, 6⟩ }
  let queue : FrameQueue :=
    ⟨[], headed.outbound.unread ++ [0x24, 8, 4, 0x63, 0], 254, by decide, by decide⟩
  let sent : NetworkLayer :=
    { headed with outbound := ⟨[], inbound.unread, 254, by decide, by decide⟩ }
  have hheader : ({} : NetworkLayer).stageHeader c s .anycast false =
      .ok (s.advanceDialog, headed) := by decide +kernel
  have hpayload : headed.outbound.append [0x24, 8, 4, 0x63, 0] = .ok queue := by decide +kernel
  have hfooter : ({ headed with outbound := queue } : NetworkLayer).complete env.cipher () =
      ((.ok (), sent), ()) := rfl
  have hciphers : ∀ cipher ∈ env.cipher, ∀ cipher' ∈ env'.cipher,
      cipher.IsInvertedBy cipher' ∧ cipher'.IsInvertedBy cipher := by
    rintro _ ⟨⟩ _ ⟨⟩
    exact ⟨fun key bytes w v => HeaderM.isInvertedBy_maskingCipher 0x5A key bytes w v.outside,
      fun key bytes w v => HeaderM.isInvertedBy_maskingCipher 0x5A key bytes w.outside v⟩
  refine ⟨by decide +kernel, ?_⟩
  exact understands_response hheader hpayload hfooter rfl (fun _ => by decide) hciphers (by decide)
    x (by decide +kernel) z rfl rfl rfl

end Exchange

end Mode2
