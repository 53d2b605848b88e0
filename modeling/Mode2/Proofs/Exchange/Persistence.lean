import Mode2.Proofs.Exchange.Acknowledgements
import Mode2.Proofs.Exchange.SameFrame
import Mode2.Proofs.Exchange.Segments

/-!
# What outlives a frame

The devices that have answered, the last response and the datastream received so far outlive the
frames that have brought them. A response changes the first two, and only when one is awaited; a
segment continues the datastream, and a request that the device passes may begin another. Of the
request that is processed nothing is left for the next frame.
-/

namespace Mode2

variable {W : Type} {env : Environment W} {c : Config} {x y : Exchange W}

/-- What a transport layer remembers beyond the request being processed. -/
def Transport.lasting (t : Transport) : AckList × List UInt8 × Datastream :=
  (t.acks, t.response, t.datastream)

theorem Transport.lasting_eq {t : Transport} {acks : AckList} {response : List UInt8}
    {datastream : Datastream} : t.lasting = (acks, response, datastream) ↔
      t.acks = acks ∧ t.response = response ∧ t.datastream = datastream := by
  simp [lasting]

theorem AckList.mem_or_eq_of_record {acks : AckList} {id peer : DeviceId}
    (h : id ∈ (acks.record peer).ids) : id ∈ acks.ids ∨ id = peer := by
  unfold record at h
  split at h
  · simpa using h
  · exact .inl h

/-! ## Segments -/

namespace HeaderM

/-- Only a frame that says so continues a datastream. -/
theorem isSegment_of_read (hread : (read env c).run x = .ok .datastream y) :
    IsSegment x.network.inbound.written := by
  have hends : Ends (read env c) x
      (fun destination _ => destination = .datastream → IsSegment x.network.inbound.written)
      fun _ _ => True := by
    unfold read
    apply Ends.bind
    apply (ends_openFrame_opened x).imp ?_ fun _ _ _ => trivial
    rintro _ _ ⟨⟨queue, rfl⟩, first, second, subnet, byte, rest, hopened, hunread⟩
    apply Ends.bind
    apply ends_octet hunread
    intro queue' hqueue'
    apply Ends.bind
    apply ends_octet hqueue'
    intro queue'' _
    dsimp only
    split
    next hstream =>
      refine Ends.of_run fun _ _ _ _ byte' hbyte' => ?_
      obtain rfl := Option.some.inj ((getElem?_of_openedFrame? hopened rfl).symm.trans hbyte')
      exact hstream
    next hplain =>
      apply (ends_readAddressed_fields env c subnet (by simpa using hplain) _).imp ?_
        fun _ _ h => h
      rintro destination z ⟨f, -, -, -, -, -, rfl⟩ hstream
      unfold destinationOf at hstream
      split at hstream
      · split at hstream <;> cases hstream
      · cases hstream
  exact hends.of_ok hread rfl

/-- Only a dialog that has been settled takes part in a datastream. -/
theorem connected_of_read (hread : (read env c).run x = .ok .datastream y) :
    x.session.netState.connected = true := by
  obtain ⟨opened, subnet, byte, dialogId, hopened, -, hbyte, -, hkind, -⟩ :=
    (ends_read_considered env c x).of_ok hread
  rw [if_pos (isSegment_of_read hread byte (getElem?_of_openedFrame? hopened hbyte))] at hkind
  exact hkind

end HeaderM

namespace Exchange

/-- The frame is the next segment of the datastream that the dialog takes part in, and this is
its payload. -/
structure IsNextSegment (x : Exchange W) (payload : List UInt8) : Prop where
  segment : IsSegment x.network.inbound.written
  carried : Segment.ofFrame? x.network.inbound.written = some ⟨x.session.dialogId + 1, payload⟩
  connected : x.session.netState.connected = true
  datastream : x.session.netState.datastream = true

/-! ## Responses and requests -/

/-- The frame, whose header has been read, is a response with this body. -/
def CarriesResponse (x : Exchange W) (body : List UInt8) : Prop :=
  ∃ command : Command, command.WellFormed ∧ Command.kindOf? command.code = some .response ∧
    x.network.inbound.unread = command.encode ++ body

/-- The frame, whose header has been read, is a request to begin a datastream that the device
passes. A request without arbitration has nothing to pass. -/
def CarriesInvitation (env : Environment W) (c : Config) (x : Exchange W) : Prop :=
  ∃ kind a, x.Carries kind a ∧ a.command.group = .datastream ∧
    a.screening.Passes env c x.user x.world

/-- What has been processed of the data of a frame up to a score has changed what outlives it as
the frame asks for. -/
inductive Lasts (env : Environment W) (c : Config) (x : Exchange W) (score : Score)
    (y : Exchange W) : Prop
  | same (unawaited : ∀ body, x.session.netState.substate = .responseRx → ¬x.CarriesResponse body)
      (lasting : y.transport.lasting = x.transport.lasting)
  | response (body : List UInt8) (carries : x.CarriesResponse body)
      (awaited : x.session.netState.substate = .responseRx) (accepted : score = 0)
      (lasting : y.transport.lasting =
        (x.transport.acks.record x.network.peer, body.take responseCapacity,
          x.transport.datastream))
  | opened (unawaited : ∀ body, ¬x.CarriesResponse body) (invited : x.CarriesInvitation env c)
      (lasting : y.transport.lasting =
        (x.transport.acks, x.transport.response, .empty))

theorem asksQueries_lasting (env : Environment W) :
    AsksQueries env fun x y => y.transport.lasting = x.transport.lasting where
  refl _ := rfl
  trans h h' := h'.trans h
  inbound _ _ := rfl
  parts _ _ _ := rfl
  listen _ := rfl
  query _ _ _ _ := rfl

/-- The queries of a request have been passed, if there are any, when they have been run. -/
theorem ends_runQueries_screened (c : Config) (kind : RequestKind) (group : OperationGroup)
    (user : User) :
    Ends (runQueries env c kind group user) x
      (fun _ _ => ∃ s : Screening,
        s.WellFormed kind x.session.flags.virtualIds (group == .seriesCollection) ∧
        (∃ rest, x.network.inbound.unread = s.encode kind ++ rest) ∧
        s.Passes env c user x.world)
      fun _ _ => True := by
  by_cases hkind : kind = .direct
  · subst hkind
    refine Ends.pure ⟨⟨[], []⟩, ⟨⟨Nat.succ_pos _, ?_⟩, fun _ => rfl, rfl, ?_⟩, ⟨_, rfl⟩, ?_, ?_⟩
    all_goals exact List.forall_mem_nil _
  · apply (ends_runQueries_admits c hkind group user).imp
    · rintro score _ ⟨s, hwell, hspelled, hpasses, -⟩
      exact ⟨s, hwell, hspelled, hpasses⟩
    · exact fun _ _ _ => trivial

/-- Behind its command, the request invites to a datastream, and the device passes it. -/
def InvitesBehind (env : Environment W) (c : Config) (x : Exchange W) (kind : RequestKind) : Prop :=
  x.transport.command.group = .datastream ∧ ∃ (w : WindowField) (s : Screening) (rest : List UInt8),
    w.WellFormed ∧
    s.WellFormed kind x.session.flags.virtualIds (x.transport.command.group == .seriesCollection) ∧
    x.network.inbound.unread = w.encode ++ (s.encode kind ++ rest) ∧
    s.Passes env c x.user x.world

/-- However a request ends, the devices that have answered and the last response stay, and so
does the datastream unless it is invited to begin another. -/
theorem ends_handleRequest_lasting (env : Environment W) (c : Config) (kind : RequestKind)
    (x : Exchange W) :
    let kept (y : Exchange W) : Prop := y.transport.lasting = x.transport.lasting ∨
      x.InvitesBehind env c kind ∧
        y.transport.lasting = (x.transport.acks, x.transport.response, .empty)
    Ends (handleRequest env c kind) x (fun _ => kept) fun _ => kept := by
  intro kept
  apply Ends.bind
  apply Ends.get
  dsimp only
  split
  · exact Ends.bind (Ends.throw (.inl rfl))
  apply Ends.bind
  apply (ends_readResponseWindow_spelled kind).imp
  · rintro _ _ ⟨w, queue, access, hwindow, hunread, -, rfl⟩
    apply Ends.bind
    apply ((ends_runQueries_screened c kind _ _).and
      ((asksQueries_lasting env).moves_runQueries c kind _ _ _)).imp
    · rintro score y ⟨⟨s, hwell, ⟨rest, hrest⟩, hpasses⟩, hlasting⟩
      -- The request has been passed, and carrying it out clears the datastream or does not.
      have hcarried : ∀ z : Exchange W,
          z.transport = y.transport.afterOperation x.transport.command.group → kept z := by
        intro z hz
        unfold Transport.afterOperation at hz
        split at hz
        next hgroup =>
          have hinvites : x.InvitesBehind env c kind :=
            ⟨hgroup, w, s, rest, hwindow, hwell, by rw [hunread, ← hrest], hpasses⟩
          obtain ⟨hacks, hresponse, -⟩ := Transport.lasting_eq.mp hlasting
          have hopened : z.transport.lasting =
              (x.transport.acks, x.transport.response, .empty) := by
            rw [hz]
            exact Transport.lasting_eq.mpr ⟨hacks, hresponse, rfl⟩
          exact .inr ⟨hinvites, hopened⟩
        next hother => exact .inl (hz ▸ hlasting)
      apply Ends.bind
      apply (moves_carryOut_transport env c x.transport.command.group x.user y).imp
      · exact fun _ z hz => Ends.pure (hcarried z hz)
      · exact fun _ z hz => hcarried z hz
    · rintro _ y ⟨-, hlasting⟩
      exact .inl hlasting
  · rintro _ _ ⟨-, queue, access, rfl⟩
    exact .inl rfl

/-- A frame whose command has been read is a response with what is left, or is none. -/
theorem carriesResponse_iff {command : Command} {queue : FrameQueue} {body : List UInt8}
    (hread : commandBytes x.network.inbound = .ok command queue) :
    x.CarriesResponse body ↔
      Command.kindOf? command.code = some .response ∧ body = queue.unread := by
  constructor
  · rintro ⟨command', hwell, hkind, hunread⟩
    obtain ⟨queue', hread', hqueue'⟩ := commandBytes_readsAs.accepts ⟨hwell, rfl⟩ hunread
    rw [hread] at hread'
    cases hread'
    exact ⟨hkind, hqueue'.symm⟩
  · rintro ⟨hkind, rfl⟩
    obtain ⟨_, ⟨hwell, rfl⟩, hunread⟩ := commandBytes_readsAs.spelled hread
    exact ⟨command, hwell, hkind, hunread⟩

theorem not_carriesResponse {cause : QueueError} {queue : FrameQueue}
    (hread : commandBytes x.network.inbound = .error cause queue) (body : List UInt8) :
    ¬x.CarriesResponse body := by
  rintro ⟨command, hwell, -, hunread⟩
  obtain ⟨queue', hread', -⟩ := commandBytes_readsAs.accepts ⟨hwell, rfl⟩ hunread
  rw [hread] at hread'
  cases hread'

/-- A response has one body. -/
theorem CarriesResponse.unique {body body' : List UInt8} (h : x.CarriesResponse body)
    (h' : x.CarriesResponse body') : body = body' := by
  cases hread : commandBytes x.network.inbound with
  | error cause queue => exact absurd h (not_carriesResponse hread body)
  | ok command queue =>
      rw [((carriesResponse_iff hread).mp h).2, ((carriesResponse_iff hread).mp h').2]

/-- The data of a frame changes what outlives it only as an awaited response, or as a request
that begins a datastream. -/
theorem ends_handleData_lasts (env : Environment W) (c : Config) (x : Exchange W) :
    Ends (handleData env c) x (Lasts env c x) (Lasts env c x) := by
  apply Ends.bind
  apply ExchangeM.ends_modifyTransport
  apply Ends.bind
  cases hread : commandBytes x.network.inbound with
  | error cause queue =>
      simp only [Ends, ExchangeM.inbound, EStateM.run, hread]
      exact .same (fun body _ => not_carriesResponse hread body) rfl
  | ok command queue =>
      have hnone : Command.kindOf? command.code ≠ some .response →
          ∀ body, ¬x.CarriesResponse body :=
        fun hkind body h => hkind ((carriesResponse_iff hread).mp h).1
      refine ExchangeM.ends_inbound hread (Ends.bind (ExchangeM.ends_modifyTransport ?_))
      split
      next hkind =>
        simp only [Ends, acceptResponse, EStateM.run]
        split
        next hawaited =>
          exact .response queue.unread ((carriesResponse_iff hread).mpr ⟨hkind, rfl⟩) hawaited rfl
            rfl
        next hother => exact .same (fun _ hawaited => absurd hawaited hother) rfl
      next kind hkind =>
        have hno := hnone (by simp [hkind])
        obtain ⟨_, ⟨hwell, rfl⟩, hunread⟩ := commandBytes_readsAs.spelled hread
        apply (ends_handleRequest_lasting env c kind _).imp
        all_goals
          rintro score y (hlasting | ⟨⟨hgroup, w, s, rest, hwindow, hscreening, hrest, hpasses⟩,
            hlasting⟩)
          · exact .same (fun body _ => hno body) hlasting
          · have hcarries : x.Carries kind ⟨command, w, s⟩ := by
              refine ⟨⟨hwell, hkind, hwindow, hscreening⟩, rest, ?_⟩
              dsimp only at hrest
              rw [hunread, hrest, Arbitration.encode]
              simp only [List.append_assoc]
            exact .opened hno ⟨kind, _, hcarries, hgroup, hpasses⟩ hlasting
      next hkind => exact .same (fun body _ => hnone (by simp [hkind]) body) rfl
      next hkind => exact .same (fun body _ => hnone (by simp [hkind]) body) rfl

/-! ## Whole frames -/

/-- The frame is a response from this device and with this body, and it arrives when one is
awaited. -/
def IsAwaitedResponse (env : Environment W) (c : Config) (x : Exchange W) (peer : DeviceId)
    (body : List UInt8) : Prop :=
  x.session.netState.substate = .responseRx ∧ ∃ m : Exchange W,
    (HeaderM.read env c).run x = .ok .local m ∧ m.network.peer = peer ∧ m.CarriesResponse body

/-- The frame is a request to begin a datastream that the device passes. -/
def IsInvitation (env : Environment W) (c : Config) (x : Exchange W) : Prop :=
  ∃ m : Exchange W, (HeaderM.read env c).run x = .ok .local m ∧ m.CarriesInvitation env c

/-- A response has one sender and one body. -/
theorem IsAwaitedResponse.unique {peer peer' : DeviceId} {body body' : List UInt8}
    (h : x.IsAwaitedResponse env c peer body) (h' : x.IsAwaitedResponse env c peer' body') :
    peer = peer' ∧ body = body' := by
  obtain ⟨-, m, hread, rfl, hcarries⟩ := h
  obtain ⟨-, m', hread', rfl, hcarries'⟩ := h'
  rw [hread] at hread'
  cases hread'
  exact ⟨rfl, hcarries.unique hcarries'⟩

/-- What outlives a frame has been changed as the frame asks for. -/
inductive Survives (env : Environment W) (c : Config) (x : Exchange W) (score : Score)
    (y : Exchange W) : Prop
  | same (unawaited : ∀ peer body, ¬x.IsAwaitedResponse env c peer body)
      (lasting : y.transport.lasting = x.transport.lasting)
  | response (peer : DeviceId) (body : List UInt8)
      (awaited : x.IsAwaitedResponse env c peer body) (accepted : score = 0)
      (lasting : y.transport.lasting =
        (x.transport.acks.record peer, body.take responseCapacity, x.transport.datastream))
  | segment (payload : List UInt8) (next : x.IsNextSegment payload) (accepted : score = 0)
      (unawaited : ∀ peer body, ¬x.IsAwaitedResponse env c peer body) (datastream : Datastream)
      (bytes : datastream.bytes = x.transport.datastream.bytes ++ payload)
      (lasting : y.transport.lasting = (x.transport.acks, x.transport.response, datastream))
  | opened (unawaited : ∀ peer body, ¬x.IsAwaitedResponse env c peer body)
      (invited : x.IsInvitation env c)
      (lasting : y.transport.lasting = (x.transport.acks, x.transport.response, .empty))

/-- Only a frame for this device is a response. -/
theorem not_isAwaitedResponse {destination : Destination}
    (hread : (HeaderM.read env c).run x = .ok destination y) (hother : destination ≠ .local)
    (peer : DeviceId) (body : List UInt8) : ¬x.IsAwaitedResponse env c peer body := by
  rintro ⟨-, m, hlocal, -⟩
  rw [hread] at hlocal
  cases hlocal
  exact hother rfl

theorem survives_of_local (hread : (HeaderM.read env c).run x = .ok .local y) :
    Survives env c x (x.receive env c).1 (x.receive env c).2 := by
  obtain ⟨htransport, hsubstate⟩ := ((readsHeader_awaiting env).moves_read c x).of_ok hread
  have hlasts := ExchangeM.score_of_ends (ends_handleData_lasts env c y)
  have hcarries : ∀ {peer body}, x.IsAwaitedResponse env c peer body →
      y.session.netState.substate = .responseRx ∧ y.CarriesResponse body := by
    rintro peer body ⟨hawaited, m, hlocal, -, hcarries⟩
    rw [hread] at hlocal
    cases hlocal
    exact ⟨hsubstate.trans hawaited, hcarries⟩
  rw [receive_of_local hread, dispatch]
  cases hlasts with
  | same unawaited lasting =>
      refine .same (fun peer body h => ?_) (htransport ▸ lasting)
      exact unawaited body (hcarries h).1 (hcarries h).2
  | response body carries awaited accepted lasting =>
      refine .response y.network.peer body ?_ accepted (htransport ▸ lasting)
      exact ⟨hsubstate.symm.trans awaited, y, hread, rfl, carries⟩
  | opened unawaited invited lasting =>
      refine .opened (fun peer body h => ?_) ⟨y, hread, invited⟩ (htransport ▸ lasting)
      exact unawaited body (hcarries h).2

theorem survives_of_datastream (hread : (HeaderM.read env c).run x = .ok .datastream y) :
    Survives env c x (x.receive env c).1 (x.receive env c).2 := by
  have hother := not_isAwaitedResponse hread (by decide)
  by_cases hstream : x.session.netState.datastream = true
  · have hsegment := HeaderM.isSegment_of_read hread
    have hconnected := HeaderM.connected_of_read hread
    have hextended := receive_segment env c rfl hsegment hconnected hstream
    cases hext : x.transport.datastream.extend? x.session.dialogId x.network.inbound.written with
    | none =>
        rw [hext] at hextended
        exact .same hother (congrArg Transport.lasting hextended.2)
    | some d =>
        rw [hext] at hextended
        obtain ⟨queue, hreceive⟩ := hextended
        obtain ⟨payload, hcarried, hbytes⟩ := Datastream.extend?_eq_some hext
        rw [hreceive]
        exact .segment payload ⟨hsegment, hcarried, hconnected, hstream⟩ rfl hother d hbytes rfl
  · -- The header leaves whether the dialog takes part in a datastream.
    obtain ⟨⟨id, -, henters⟩, -⟩ := (HeaderM.ends_read_enters env c).of_ok hread
    obtain ⟨htransport, -⟩ := ((readsHeader_awaiting env).moves_read c x).of_ok hread
    have hidle : y.session.netState.datastream = false := by
      rw [henters.netState]
      exact Bool.eq_false_iff.mpr hstream
    apply Survives.same hother
    simp [receive, hread, continueDatastream, hidle, htransport]

/-- What outlives a frame is changed by a response that is awaited, by the next segment of a
datastream, and by an invitation to another one, and by no other frame. -/
theorem survives_receive (env : Environment W) (c : Config) (x : Exchange W) :
    Survives env c x (x.receive env c).1 (x.receive env c).2 := by
  have hheader := (readsHeader_awaiting env).moves_read c x
  cases hread : (HeaderM.read env c).run x with
  | error cause y =>
      have hnone : ∀ peer body, ¬x.IsAwaitedResponse env c peer body := by
        rintro peer body ⟨-, m, hlocal, -⟩
        rw [hread] at hlocal
        cases hlocal
      rw [receive, hread]
      exact .same hnone (congrArg Transport.lasting (hheader.of_error hread).1)
  | ok destination y =>
      cases destination with
      | «local» => exact survives_of_local hread
      | datastream => exact survives_of_datastream hread
      | forward =>
          have hkept : (y.forward env).2.transport = y.transport := by
            unfold forward
            split <;> rfl
          apply Survives.same (not_isAwaitedResponse hread (by decide))
          rw [receive, hread]
          exact congrArg Transport.lasting (hkept.trans (hheader.of_ok hread).1)

/-- Whatever frame arrives in whatever dialog, of what outlives frames it changes no more than it
may. The devices that have answered and the last response change only if the frame is a response
and one is awaited; then at most its sender is added, and the beginning of its body is kept. The
datastream changes only by the whole payload of the next segment, in a dialog that takes part in
it, or by a request to begin another one that the device passes. And whenever a frame is for this
device, the request that it leaves behind depends on nothing but the frame and the answers of the
cipher and the queries: not on the dialog, nor on what frames before it have left in any layer. -/
theorem receive_transport (env : Environment W) (c : Config) (x : Exchange W) :
    let t := x.transport
    let t' := (x.receive env c).2.transport
    (∀ peer body, x.IsAwaitedResponse env c peer body →
      (x.receive env c).1 = 0 ∧ t'.response = body.take responseCapacity ∧
        t'.acks = t.acks.record peer ∧ ∀ id ∈ t'.acks.ids, id ∈ t.acks.ids ∨ id = peer) ∧
    ((∀ peer body, ¬x.IsAwaitedResponse env c peer body) →
      t'.response = t.response ∧ t'.acks = t.acks) ∧
    (t'.datastream = t.datastream ∨
      (∃ payload, x.IsNextSegment payload ∧ (x.receive env c).1 = 0 ∧
        t'.datastream.bytes = t.datastream.bytes ++ payload) ∨
      x.IsInvitation env c ∧ t'.datastream = .empty) ∧
    ∀ Like : W → W → Prop, env.CannotTell Like → ∀ x' m m' : Exchange W,
      x.network.inbound.written = x'.network.inbound.written → Like x.world x'.world →
      (HeaderM.read env c).run x = .ok .local m → (HeaderM.read env c).run x' = .ok .local m' →
      t'.inFlight = (x'.receive env c).2.transport.inFlight := by
  intro t t'
  have hsurvives := survives_receive env c x
  refine ⟨?_, ?_, ?_, ?_⟩
  · intro peer body hresponse
    cases hsurvives with
    | same unawaited _ | segment _ _ _ unawaited | opened unawaited _ _ =>
        exact absurd hresponse (unawaited peer body)
    | response peer' body' hresponse' accepted lasting =>
        obtain ⟨rfl, rfl⟩ := hresponse.unique hresponse'
        obtain ⟨hacks, hbody, -⟩ := Transport.lasting_eq.mp lasting
        refine ⟨accepted, hbody, hacks, fun id hid => ?_⟩
        exact AckList.mem_or_eq_of_record (hacks ▸ hid)
  · intro hnone
    cases hsurvives with
    | response peer body hresponse => exact absurd hresponse (hnone peer body)
    | same _ lasting | segment _ _ _ _ _ _ lasting | opened _ _ lasting =>
        obtain ⟨hacks, hbody, -⟩ := Transport.lasting_eq.mp lasting
        exact ⟨hbody, hacks⟩
  · cases hsurvives with
    | same _ lasting | response _ _ _ _ lasting => exact .inl (Transport.lasting_eq.mp lasting).2.2
    | segment payload next accepted _ d bytes lasting =>
        have hd : t'.datastream = d := (Transport.lasting_eq.mp lasting).2.2
        exact .inr (.inl ⟨payload, next, accepted, hd ▸ bytes⟩)
    | opened _ invited lasting =>
        exact .inr (.inr ⟨invited, (Transport.lasting_eq.mp lasting).2.2⟩)
  · intro Like h x' m m' hwritten hworld hread hread'
    exact inFlight_receive h hwritten hworld hread hread'

/-- A response arrives at a transport layer that has processed a query, in a dialog that waits for
it and in one that does not. -/
theorem receive_transport_response :
    let inbound : FrameQueue :=
      ⟨[], [0x0C, 0x00, 0xF0, 0x12, 0x05, 0xAA, 0xBB, 0x02, 0x2A, 0x2B, 0x00, 0x00], 256,
        Nat.le_of_ble_eq_true rfl, Nat.le_refl _⟩
    let old : Transport :=
      { command := ⟨0x40, 0⟩, template := ⟨2, 0x21, [0xFF, 0xFF], [0x00, 0x2A]⟩,
        target := .ofFile 3 0, response := [0x11] }
    let x (t : Transport) (substate : Substate) : Exchange Unit :=
      ⟨⟨.initial 5, { inbound }, t, ()⟩, ⟨0, 0x10, { substate }, .none, 0, 0xF0, 0, none⟩⟩
    let after (t : Transport) (substate : Substate) : Transport :=
      ((x t substate).receive .obliging .default).2.transport
    let peer := DeviceId.ofVirtual #v[0xAA, 0xBB]
    (x old .responseRx).IsAwaitedResponse .obliging .default peer [0x2A, 0x2B] ∧
      (after old .responseRx).response = [0x2A, 0x2B] ∧
      (after old .responseRx).acks.ids = [peer] ∧
      (after old .requestRx).response = [0x11] ∧ (after old .requestRx).acks.ids = [] ∧
      (after old .requestRx).inFlight = (after {} .responseRx).inFlight := by
  intro inbound old x after peer
  have hlocal : ∀ t substate, substate = .responseRx ∨ substate = .requestRx →
      ∃ m, (HeaderM.read .obliging .default).run (x t substate) = .ok .local m ∧
        m.network.peer = peer ∧ m.network.inbound.unread = [0x02, 0x2A, 0x2B] := by
    rintro t _ (rfl | rfl)
    · exact ⟨_, rfl, rfl, rfl⟩
    · exact ⟨_, rfl, rfl, rfl⟩
  obtain ⟨m, hread, hpeer, hunread⟩ := hlocal old .responseRx (.inl rfl)
  obtain ⟨m', hread', -, -⟩ := hlocal old .requestRx (.inr rfl)
  obtain ⟨m'', hread'', -, -⟩ := hlocal {} .responseRx (.inl rfl)
  have hresponse : (x old .responseRx).IsAwaitedResponse .obliging .default peer [0x2A, 0x2B] :=
    ⟨rfl, m, hread, hpeer, ⟨0x02, 0⟩, fun _ => rfl, by decide, hunread⟩
  have hnone : ∀ peer body,
      ¬(x old .requestRx).IsAwaitedResponse .obliging .default peer body :=
    fun _ _ h => absurd h.1 (by decide)
  obtain ⟨hkept, -⟩ := receive_transport .obliging .default (x old .responseRx)
  obtain ⟨-, hbody, hacks, -⟩ := hkept peer _ hresponse
  obtain ⟨-, hignored, -, hinFlight⟩ := receive_transport .obliging .default (x old .requestRx)
  obtain ⟨hbody', hacks'⟩ := hignored hnone
  have hsame := hinFlight (· = ·) (Environment.cannotTell_eq _) (x {} .responseRx) m' m'' rfl rfl
    hread' hread''
  exact ⟨hresponse, hbody, congrArg AckList.ids hacks, hbody', congrArg AckList.ids hacks', hsame⟩

end Exchange

end Mode2
