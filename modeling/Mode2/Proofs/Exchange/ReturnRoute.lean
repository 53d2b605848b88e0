import Mode2.Proofs.Exchange.Heard
import Mode2.Proofs.Exchange.Interoperation

/-!
# The way back of a response

A response to a request with a routing block has a routing block as well, and it is that of
the request: its destination is still the device that has responded. A requester that takes
part in routing therefore hands the response on like any other frame that is for somebody
else, and waits in vain. Only where one of the two does not take part in routing, or the
request had no other destination, the response arrives.
-/

namespace Mode2.Exchange

variable {W V : Type}

/-! ## What a response is made from -/

/-- The dialog, the sender and the route are as the header of the request has settled them
in `y`. Whether the dialog listens after the response is still open. -/
structure KeepsTo (y z : Exchange V) : Prop where
  connected : z.session.netState.connected = true
  dialogId : z.session.dialogId = y.session.dialogId
  flags : z.session.flags = { y.session.flags with listen := z.session.flags.listen }
  peer : z.network.peer = y.network.peer
  route : z.network.route = y.network.route

/-- Nothing that is done before a response is staged departs from the header of the
request. -/
theorem holdsUntilResponse_keepsTo (env : Environment V) (y : Exchange V) :
    HoldsUntilResponse env (KeepsTo y) where
  toComposes := preserves_composes _
  inbound _ _ h := { h with }
  transport _ _ _ h := { h with }
  access _ _ _ h := { h with }
  listen x h :=
    { h with
      flags := by
        change { x.session.flags with listen := false } = _
        rw [h.flags] }
  query _ _ _ _ h := { h with }
  world _ _ h := { h with }
  response _ _ _ h := { h with }
  scrap _ h := { h with }
  stream x h :=
    { h with
      flags := by
        change { x.session.flags with listen := true } = _
        rw [h.flags] }

variable {env : Environment W} {env' : Environment V} {c c' : Config} {x y : Exchange V}
  {z : Exchange W}

theorem exists_responds_keepsTo (hread : (HeaderM.read env' c').run x = .ok .local y)
    (hresponded : HasResponded (x.receive env' c')) :
    y.Heard ∧ ∃ (m : Exchange V) (body : List UInt8), KeepsTo y m ∧
      Responds env' c' m.network m.session body (x.receive env' c').2 := by
  obtain ⟨-, hheard⟩ := (HeaderM.ends_read_enters (x := x) env' c').of_ok hread
  have hy := hheard nofun
  rw [receive_of_local hread] at hresponded ⊢
  have hsame : KeepsTo y y := ⟨hy.connected, rfl, rfl, rfl, rfl⟩
  have hresponds := (holdsUntilResponse_keepsTo env' y).exists_responds_dispatch c' hsame
    hresponded.1 hresponded.2.1
  obtain ⟨m, body, hm, hbody, -⟩ := hresponds.wanted hresponded.2.2
  exact ⟨hy, m, body, hm, hbody⟩

/-! ## Where the response goes -/

/-- The response of device `c'` to the request that it has read leads away from device `c`:
both take part in routing, and the request names a destination other than `c`. -/
def LeadsAway (c c' : Config) (y : Exchange V) : Prop :=
  y.session.routes c' = true ∧ c.multihop = true ∧
    ∃ id, y.network.route.destination = some id ∧ c.isNamedBy id.bytes = false

/-- With distinct IDs, a response to a request whose destination is the responder always
leads away from the requester. -/
theorem leadsAway_of_distinct {id : DeviceId} (huid : c.identity.uid ≠ c'.identity.uid)
    (hvid : c.identity.vid ≠ c'.identity.vid) (hmultihop : c.multihop = true)
    (hmultihop' : c'.multihop = true) (hroute : y.session.flags.route = true)
    (hdestination : y.network.route.destination = some id)
    (hnamed : c'.isNamedBy id.bytes = true) : LeadsAway c c' y := by
  refine ⟨?_, hmultihop, id, hdestination, ?_⟩
  · unfold Session.routes
    rw [hroute, hmultihop', Bool.and_true]
  · unfold Config.isNamedBy at hnamed ⊢
    split at hnamed
    next hshort =>
      rw [if_pos hshort]
      simp only [Bool.and_eq_true, beq_iff_eq] at hnamed
      have hother : (id.bytes == c.identity.vid.toList) = false := by
        rw [hnamed.2, beq_eq_false_iff_ne]
        exact fun hsame => hvid (Vector.toList_inj.mp hsame).symm
      rw [hother, Bool.and_false]
    next hlong =>
      rw [if_neg hlong]
      simp only [Bool.and_eq_true, beq_iff_eq] at hnamed
      have hother : (id.bytes == c.identity.uid.toList) = false := by
        rw [hnamed.2, beq_eq_false_iff_ne]
        exact fun hsame => huid (Vector.toList_inj.mp hsame).symm
      rw [hother, Bool.and_false]

/-- A device passes a frame on when it takes part in routing and the route names somebody
else. -/
theorem destinationOf_cases (c : Config) (route : Route) :
    (HeaderM.destinationOf c route = .forward ∧ c.multihop = true ∧
        ∃ id, route.destination = some id ∧ c.isNamedBy id.bytes = false) ∨
      (HeaderM.destinationOf c route = .local ∧
        ∀ id, c.multihop = true → route.destination = some id → c.isNamedBy id.bytes = true) := by
  unfold HeaderM.destinationOf
  split
  next id hid =>
    split
    next hother =>
      rw [Bool.and_eq_true, Bool.not_eq_true'] at hother
      exact .inl ⟨rfl, hother.1, id, hid, hother.2⟩
    next hours =>
      refine .inr ⟨rfl, fun id' hmultihop hid' => ?_⟩
      obtain rfl := Option.some.inj (hid.symm.trans hid')
      simpa [hmultihop] using hours
  next hnone => exact .inr ⟨rfl, fun id _ hid => by cases hnone.symm.trans hid⟩

/-- A response goes on to the router exactly when it leads away. -/
theorem destination_of_keepsTo {m : Exchange V} {nack : Bool} {payload : List UInt8}
    {destination : Destination} (hkeeps : KeepsTo y m)
    (hrecovered : Recovered c' c m.network m.session.advanceDialog .unicast nack payload
      destination z) :
    LeadsAway c c' y ∧ destination = .forward ∨ ¬LeadsAway c c' y ∧ destination = .local := by
  have hroutes : m.session.advanceDialog.routes c' = y.session.routes c' := by
    unfold Session.routes
    rw [Session.flags_advanceDialog, hkeeps.flags]
  have hdestination := hrecovered.destination
  have hroute := hrecovered.route
  unfold LeadsAway
  rw [hroutes] at hdestination hroute
  cases hrouted : y.session.routes c' with
  | false =>
      rw [hrouted] at hdestination
      exact .inr ⟨nofun, hdestination⟩
  | true =>
      rw [hrouted, if_pos rfl] at hdestination hroute
      have hnamed : z.network.route.destination = y.network.route.destination := by
        rw [hroute.destination, hkeeps.route]
      rcases destinationOf_cases c z.network.route with
        ⟨hforward, hmultihop, id, hid, hother⟩ | ⟨hlocal, hours⟩
      · exact .inl ⟨⟨rfl, hmultihop, id, hnamed ▸ hid, hother⟩, hdestination.trans hforward⟩
      · refine .inr ⟨?_, hdestination.trans hlocal⟩
        rintro ⟨-, hmultihop, id, hid, hother⟩
        cases (hours id hmultihop (hnamed.trans hid)).symm.trans hother

/-- A device that waits for the response to its request, of which device `c'` has read the
header as in `y`, gets the response when that does not lead away. Otherwise it hands the
response to its router, keeps nothing of it and does not remember who has responded. -/
theorem response_arrives_iff (env : Environment W) (c : Config) (z : Exchange W)
    (hread : (HeaderM.read env' c').run x = .ok .local y)
    (hresponded : HasResponded (x.receive env' c'))
    (hasker : c.Owns y.network.peer y.session.flags.virtualIds)
    (hcipher : y.session.flags.isSecured = true → ∀ enc ∈ env'.cipher,
      ∃ dec, env.cipher = some dec ∧ enc.IsInvertedBy dec)
    (hinbound : z.network.inbound.written = (x.receive env' c').2.network.outbound.written)
    (hwaits : z.session.netState.substate = .responseRx)
    (hconnected : z.session.netState.connected = true)
    (hdialog : carriedDialog? x.network.inbound.written = some z.session.dialogId) :
    ∃ (n : NetworkLayer) (s : Session) (body : List UInt8),
      Responds env' c' n s body (x.receive env' c').2 ∧
      (¬LeadsAway c c' y →
        (z.receive env c).1 = 0 ∧
        (z.receive env c).2.transport.response = body.take responseCapacity ∧
        (z.receive env c).2.transport.acks =
          z.transport.acks.record (c'.localId y.session.flags.virtualIds)) ∧
      (LeadsAway c c' y → ∃ z', (HeaderM.read env c).run z = .ok .forward z' ∧
        z.receive env c = z'.forward env ∧ (z.receive env c).2.transport = z.transport) := by
  obtain ⟨hheard, m, body, hkeeps, hresponds⟩ := exists_responds_keepsTo hread hresponded
  obtain ⟨⟨id, hcarried, henters⟩, -⟩ := (HeaderM.ends_read_enters (x := x) env' c').of_ok hread
  have hnext : z.session.dialogId = m.session.dialogId := by
    rw [hkeeps.dialogId, henters.dialogId]
    exact Option.some.inj (hdialog.symm.trans hcarried)
  have hvirtual : m.session.flags.virtualIds = y.session.flags.virtualIds := by
    rw [hkeeps.flags]
  have hsecured : m.session.flags.isSecured = y.session.flags.isSecured := by
    rw [hkeeps.flags]
    rfl
  have hwidth : m.network.route.HasWidth m.session.flags.virtualIds := by
    rw [hkeeps.route, hvirtual]
    exact hheard.width
  have howns : c.Owns m.network.peer m.session.flags.virtualIds := by
    rw [hkeeps.peer, hvirtual]
    exact hasker
  obtain ⟨destination, z', hrun, hrecovered⟩ := exists_recovered_response hresponds
    hkeeps.connected (fun _ => hwidth) howns (hsecured ▸ hcipher) hinbound hconnected hnext
  obtain ⟨htransport, -⟩ := ((readsHeader_awaiting env).moves_read c z).of_ok hrun
  refine ⟨m.network, m.session, body, hresponds, ?_⟩
  rcases destination_of_keepsTo hkeeps hrecovered with ⟨haway, rfl⟩ | ⟨hhome, rfl⟩
  · have hforward : z.receive env c = z'.forward env := by
      unfold receive
      rw [hrun]
    refine ⟨fun hhome => absurd haway hhome, fun _ => ⟨z', hrun, hforward, ?_⟩⟩
    rw [hforward, ← htransport]
    unfold forward
    split <;> rfl
  · refine ⟨fun _ => ?_, fun haway => absurd haway hhome⟩
    obtain ⟨hscore, -, hresponse, hacks⟩ :=
      receive_local_response hrun hrecovered.payload hwaits
    refine ⟨hscore, hresponse, ?_⟩
    rw [hacks, hrecovered.peer, Session.flags_advanceDialog, hvirtual]

/-- A request to begin a datastream, on a route that ends at the device that is asked. -/
def routedRequest : List UInt8 :=
  [0x12, 0x7F, 0xF0, 0x1A, 0x80, 0x05, 0xAA, 0xBB, 0x61, 0xAA, 0xBB, 0x12, 0x34, 0x28, 0x00, 0x00,
    0x00, 0x00]

/-- The response to a routed request is dropped by the requester, which has no router. -/
theorem response_arrives_iff_routed :
    let c : Config := { Config.default with identity.vid := #v[0xAA, 0xBB], multihop := true }
    let c' : Config :=
      { Config.default with
        identity := { uid := #v[0, 0, 0, 0, 0, 0, 0, 2], vid := #v[0x12, 0x34] }
        multihop := true }
    let env : Environment Unit := Environment.obliging
    let x : Exchange Unit :=
      ⟨⟨.initial 5, { inbound := ⟨[], routedRequest, 256, by decide, by decide⟩ }, {}, ()⟩,
        ⟨0, 0x10, { substate := .requestRx }, .none, 0, 0xF0, 0, none⟩⟩
    let z : Exchange Unit :=
      ⟨⟨.initial 5, { inbound := (x.receive env c').2.network.outbound }, {}, ()⟩,
        ⟨0, 0x10, { substate := .responseRx, connected := true }, .none, 5, 0xF0, 0, none⟩⟩
    HasResponded (x.receive env c') ∧
      ∃ y, (HeaderM.read env c').run x = .ok .local y ∧ LeadsAway c c' y ∧
        (z.receive env c).1 < 0 ∧ (z.receive env c).2.transport = z.transport := by
  intro c c' env x z
  let y : Exchange Unit :=
    ⟨⟨.initial 5,
        { inbound := ⟨routedRequest.take 13, [0x28, 0x00, 0x00], 256, by decide, by decide⟩
          peer := .ofVirtual #v[0xAA, 0xBB]
          route := { hopCode := 0x61, origin := some (.ofVirtual #v[0xAA, 0xBB])
                     destination := some (.ofVirtual #v[0x12, 0x34]) }
          header := { subnet := 0xF0, info := .ofByte 0x1A, extension := 0x80, dialogId := 5 } },
        {}, ()⟩,
      ⟨0, 0x10, { substate := .requestRx, connected := true },
        { virtualIds := true, route := true }, 5, 0xF0, 0, none⟩⟩
  have hread : (HeaderM.read env c').run x = .ok .local y := by
    with_unfolding_all rfl
  have hresponded : HasResponded (x.receive env c') := by decide +kernel
  have hleads : LeadsAway c c' y :=
    leadsAway_of_distinct (by decide) (by decide) rfl rfl rfl rfl (by decide)
  obtain ⟨n, s, body, -, -, haway⟩ :=
    response_arrives_iff env c z hread hresponded (by decide) nofun rfl rfl rfl (by decide)
  obtain ⟨z', -, hforward, hkept⟩ := haway hleads
  refine ⟨hresponded, y, hread, hleads, ?_, hkept⟩
  rw [hforward]
  exact Int.negSucc_lt_zero 0

end Mode2.Exchange
