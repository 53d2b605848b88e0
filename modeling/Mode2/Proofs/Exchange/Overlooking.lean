import Mode2.Exchange.Receive
import Mode2.Proofs.Exchange.HeaderSteps
import Mode2.Proofs.FrameQueue.LinkControl
import Mode2.Proofs.Overlooks

/-!
# Changes that the processing of a frame overlooks

A change of the world or of the frame that the single steps of processing overlook is
overlooked by the whole: by the header after the frame has been opened, and by the data, on
behalf of whom the header names.
-/

namespace Mode2

variable {W α : Type} {env : Environment W} {c : Config} {change : Exchange W → Exchange W}
  {P : Exchange W → Prop}

/-- Reading from the frame overlooks the change, and so do changes of the dialog. -/
structure OverlooksFrame (change : Exchange W → Exchange W) (P : Exchange W → Prop) : Prop where
  session : ∀ x, (change x).session = x.session
  inbound : ∀ {ε α : Type} (ending : ε) {reader : QueueM α}, reader.LooksAhead →
    Overlooks change P (ExchangeM.inbound ending reader)
  modifySession : ∀ {ε : Type} (f : Session → Session),
    Overlooks change P (ExchangeM.modifySession f : ExchangeM W ε Unit)

/-- The steps of reading a header overlook the change. -/
structure OverlooksHeader (env : Environment W) (change : Exchange W → Exchange W)
    (P : Exchange W → Prop) : Prop extends OverlooksFrame change P where
  peer : ∀ peer, Overlooks change P
    (ExchangeM.modifyNetwork fun n => { n with peer } : HeaderM W Unit)
  header : ∀ header, Overlooks change P
    (ExchangeM.modifyNetwork fun n => { n with header, route := {} } : HeaderM W Unit)
  route : ∀ route, Overlooks change P
    (ExchangeM.modifyNetwork fun n => { n with route } : HeaderM W Unit)
  decryptRest : Overlooks change P (HeaderM.decryptRest env)

/-- The steps of processing data on behalf of a user overlook the change. -/
structure OverlooksData (env : Environment W) (c : Config) (user : User)
    (change : Exchange W → Exchange W) (P : Exchange W → Prop) : Prop
    extends OverlooksFrame change P where
  transport : ∀ x, (change x).transport = x.transport
  peer : ∀ x, (change x).network.peer = x.network.peer
  unread : ∀ x, (change x).network.inbound.unread = x.network.inbound.unread
  sender : ∀ x, (change x).user = x.user
  acts : ∀ x, P x → x.user = user
  modifyTransport : ∀ f, Overlooks change P
    (ExchangeM.modifyTransport f : ExchangeM W Score Unit)
  modifyAccess : ∀ f, Overlooks change P (ExchangeM.modifyAccess f : ExchangeM W Score Unit)
  query : ∀ template target, Overlooks change P
    (ExchangeM.perform (env.query user template target) : ExchangeM W Score Score)
  deliver : ∀ deliver ∈ env.datagrams, ∀ id source destination bytes, Overlooks change P
    (ExchangeM.perform (deliver id source destination bytes) : ExchangeM W Score Bool)
  beginResponse : Overlooks change P (Exchange.beginResponse c)
  appendNone : Overlooks change P (Exchange.appendBody (ResponseBody.none : ResponseBody W))
  appendAnswer : ∀ call, Overlooks change P (Exchange.appendBody (.answer env user call))
  endResponse : Overlooks change P (Exchange.endResponse env)

/-! ## Headers -/

/-- The header of a frame that has been opened. -/
def HeaderM.readOpened (env : Environment W) (c : Config) : HeaderM W Destination := do
  let subnet ← octet
  let info := FrameInfo.ofByte (← octet)
  if info.datastream then readDatastream c subnet
  else readAddressed env c subnet info

namespace OverlooksHeader

open HeaderM

theorem octet (h : OverlooksHeader env change P) : Overlooks change P (octet : HeaderM W UInt8) :=
  h.inbound _ QueueM.looksAhead_readByte

theorem deviceId (h : OverlooksHeader env change P) (virtualIds : Bool) :
    Overlooks change P (deviceId virtualIds : HeaderM W DeviceId) := by
  refine .bind (h.inbound _ (QueueM.looksAhead_read _)) fun bytes => ?_
  split
  · exact .pure _
  · exact .throw _

theorem optional (announced : Bool) {field : HeaderM W α} (h : Overlooks change P field) :
    Overlooks change P (optional announced field) :=
  .ite (.map _ h) (.pure _)

theorem followDialog (h : OverlooksHeader env change P) (subnet dialogId : UInt8) :
    Overlooks change P (followDialog c subnet dialogId : HeaderM W Unit) := by
  refine .get_bind (fun x => by rw [h.session]) fun x _ => ?_
  exact .ite (.ite (h.modifySession _) (.throw _)) (.ite (h.modifySession _) (.throw _))

theorem routingBlock (h : OverlooksHeader env change P) (virtualIds : Bool) :
    Overlooks change P (HeaderM.route virtualIds : HeaderM W Route) := by
  refine .bind h.octet fun hopCode => ?_
  refine .bind (optional _ h.octet) fun hopExtension => ?_
  refine .bind (optional _ (h.deviceId _)) fun origin => ?_
  exact .bind (optional _ (h.deviceId _)) fun _ => .pure _

theorem readRoute (h : OverlooksHeader env change P) (header : Header) :
    Overlooks change P (readRoute c header) := by
  refine .bind (h.header header) fun _ => .ite ?_ (.pure _)
  refine .bind (h.routingBlock _) fun route => ?_
  exact .bind (h.route route) fun _ => .pure _

theorem readAddressed (h : OverlooksHeader env change P) (subnet : UInt8) (info : FrameInfo) :
    Overlooks change P (readAddressed env c subnet info) := by
  unfold HeaderM.readAddressed
  refine .bind (optional _ h.octet) fun extension => ?_
  dsimp only
  refine .ite (.bind (.throw _) fun _ => ?_) ?_
  -- The check before has two ends, but the steps after it are the same.
  all_goals
    refine .bind h.octet fun dialogId => ?_
    refine .bind (h.followDialog subnet dialogId) fun _ => ?_
    refine .bind (h.modifySession _) fun _ => ?_
    refine .bind (optional _ h.decryptRest) fun keyIndex => ?_
    refine .bind (h.deviceId _) fun peer => ?_
    refine .bind (h.peer peer) fun _ => .ite ?_ (h.readRoute _)
    refine .bind (h.deviceId _) fun target => ?_
    exact .ite (.bind (.throw _) fun _ => h.readRoute _) (h.readRoute _)

theorem readOpened (h : OverlooksHeader env change P) (c : Config) :
    Overlooks change P (readOpened env c) := by
  refine .bind h.octet fun subnet => .bind h.octet fun byte => ?_
  refine .ite ?_ (h.readAddressed _ _)
  refine .bind h.octet fun dialogId => ?_
  refine .get_bind (fun x => by rw [h.session]) fun x _ => ?_
  have hfollow : Overlooks change P (do
      HeaderM.followDialog c subnet dialogId
      return .datastream : HeaderM W Destination) :=
    .bind (h.followDialog _ _) fun _ => .pure _
  exact .ite (.bind (.throw _) fun _ => hfollow) hfollow

end OverlooksHeader

/-! ## Data -/

namespace OverlooksData

open Exchange

variable {user : User}

theorem readResponseWindow (h : OverlooksData env c user change P) (kind : RequestKind) :
    Overlooks change P (readResponseWindow kind : ExchangeM W Score Unit) := by
  refine .get_bind (fun x => by rw [h.session, h.transport]) fun x _ => ?_
  refine .bind (h.modifyAccess _) fun _ => ?_
  refine .bind (h.inbound _ QueueM.looksAhead_readByte) fun code => ?_
  refine .bind (h.modifyAccess _) fun _ => .ite ?_ (h.modifyAccess _)
  refine .bind (h.inbound _ looksAhead_channelList) fun channels => ?_
  exact .ite (h.modifyAccess _) (h.modifyAccess _)

theorem checkAcks (h : OverlooksData env c user change P) :
    Overlooks change P (checkAcks c : ExchangeM W Score Unit) := by
  refine .get_bind (fun x => by rw [h.session]) fun x _ => ?_
  refine .bind (h.inbound _ (AckList.looksAhead_scan _ _)) fun listed => .ite ?_ (.pure _)
  exact .bind (h.modifySession _) fun _ => .throw _

theorem runQuery (h : OverlooksData env c user change P) (isSeries : Bool) :
    Overlooks change P (runQuery env user isSeries) := by
  refine .bind (h.inbound _ (looksAhead_queryParts isSeries)) fun parts => ?_
  refine .bind (h.modifyTransport _) fun _ => ?_
  refine .bind (h.query _ _) fun score => ?_
  exact .ite (.bind (.throw _) fun _ => .pure _) (.pure _)

theorem runQueries (h : OverlooksData env c user change P) (kind : RequestKind)
    (group : OperationGroup) : Overlooks change P (runQueries env c kind group user) := by
  have hquery := h.runQuery (group == .seriesCollection)
  cases kind with
  | direct => exact .pure _
  | initial => exact .bind hquery fun _ => hquery
  | subsequent => exact .bind h.checkAcks fun _ => hquery

theorem respond (h : OverlooksData env c user change P) {body : ResponseBody W}
    (hbody : Overlooks change P (appendBody body)) :
    Overlooks change P (respond env c body) := by
  refine .get_bind (fun x => by rw [h.transport]) fun x _ => .ite (h.modifySession _) ?_
  exact .bind h.beginResponse fun _ => .bind hbody fun _ => h.endResponse

theorem carryOut (h : OverlooksData env c user change P) (group : OperationGroup) :
    Overlooks change P (carryOut env c group user) := by
  have hcall : Overlooks change P (replyToCall env c user) := by
    refine .get_bind (fun x => by rw [h.transport]) fun x _ => ?_
    exact .bind (h.inbound _ (Call.looksAhead_parse _)) fun call => h.respond (h.appendAnswer call)
  have hnone : Overlooks change P (Exchange.respond env c .none) := h.respond h.appendNone
  cases group with
  | announcement | fileCollection | seriesCollection => exact hcall
  | datagram =>
      refine .bind (h.inbound _ looksAhead_datagramPorts) fun ports => ?_
      refine .get_bind (fun x => by dsimp only; rw [h.peer, h.unread]) fun x _ => ?_
      dsimp only
      split
      · exact .throw _
      next deliver hdeliver =>
        refine .bind (h.deliver deliver hdeliver _ _ _ _) fun taken => ?_
        exact .ite hnone (.throw _)
  | datastream =>
      refine .bind (h.modifySession _) fun _ => ?_
      exact .bind (h.modifyTransport _) fun _ => hnone
  | reserved => exact .throw _

/-- A request is processed on behalf of the user that its header names. -/
theorem handleRequest (h : OverlooksData env c user change P) (kind : RequestKind) :
    Overlooks change P (handleRequest env c kind) := by
  refine .get_bind (fun x => by rw [h.transport, h.sender]) fun x hx => ?_
  dsimp only
  rw [h.acts x hx]
  refine .ite (.bind (.throw _) fun _ => ?_) ?_
  all_goals
    refine .bind (h.readResponseWindow kind) fun _ => ?_
    refine .bind (h.runQueries kind _) fun score => ?_
    exact .bind (h.carryOut _) fun _ => .pure _

/-- Accepting a response looks at the dialog, the sender and the unread bytes, and changes the
transport layer alone. -/
theorem acceptResponse (h : OverlooksData env c user change P) :
    Overlooks change P
      (fun x => .ok x.acceptResponse.1 x.acceptResponse.2 : ExchangeM W Score Score) := by
  have hsteps : (fun x => .ok x.acceptResponse.1 x.acceptResponse.2 : ExchangeM W Score Score) =
      (do
        let x ← get
        if x.session.netState.substate = .responseRx then
          ExchangeM.modifyTransport fun t => { t with
            acks := t.acks.record x.network.peer
            response := x.network.inbound.unread.take responseCapacity }
          return 0
        else return .rejected : ExchangeM W Score Score) := by
    funext x
    change _ = (if x.session.netState.substate = .responseRx then _ else _ :
      ExchangeM W Score Score) x
    unfold Exchange.acceptResponse
    split <;> rfl
  rw [hsteps]
  refine .get_bind (fun x => by rw [h.session, h.peer, h.unread]) fun x _ => ?_
  exact .ite (.bind (h.modifyTransport _) fun _ => .pure _) (.pure _)

theorem handleData (h : OverlooksData env c user change P) :
    Overlooks change P (handleData env c) := by
  refine .bind (h.modifyTransport _) fun _ => ?_
  refine .bind (h.inbound _ looksAhead_commandBytes) fun command => ?_
  refine .bind (h.modifyTransport _) fun _ => ?_
  split
  · exact h.acceptResponse
  · exact h.handleRequest _
  · exact .throw _
  · exact .throw _

/-- The data comes to the same, whether the change is made before or after it. -/
theorem dispatch (h : OverlooksData env c user change P) {x : Exchange W} (hx : P x) :
    (change x).dispatch env c = ((x.dispatch env c).1, change (x.dispatch env c).2) := by
  have hdata := h.handleData x hx
  unfold Exchange.dispatch ExchangeM.score
  cases hrun : (Exchange.handleData env c).run x with
  | ok score y => rw [(hdata.of_ok hrun).1]
  | error score y => rw [(hdata.of_error hrun).1]

end OverlooksData

end Mode2
