import Mode2.Exchange.Receive
import Mode2.Proofs.Exchange.HeaderSteps
import Mode2.Proofs.Steps

/-!
# What processing a frame may change

Reading a header changes the network layer's view of the frame, the dialog that it
belongs to, and the world by decrypting. Preparing a request changes how it is to be
answered. Answering stages a frame and may hand data on. A relation that holds of each
such change holds of the whole.
-/

namespace Mode2

variable {W α : Type} {env : Environment W} {R : Exchange W → Exchange W → Prop}

/-- What the schedule and the host know of a dialog. -/
def Session.slot (s : Session) : Ticks × UInt8 × UInt8 × Option Applet :=
  (s.counter, s.channel, s.extra, s.applet)

theorem Session.counter_of_slot {s t : Session} (h : t.slot = s.slot) : t.counter = s.counter :=
  congrArg Prod.fst h

theorem Session.channel_of_slot {s t : Session} (h : t.slot = s.slot) : t.channel = s.channel :=
  congrArg (fun slot => slot.2.1) h

@[simp] theorem Session.slot_advanceDialog (s : Session) : s.advanceDialog.slot = s.slot := by
  unfold advanceDialog
  split <;> rfl

/-- Processing a frame changes nothing about whose turn it is in the dialog, unless it
becomes the dialog's turn to respond. -/
def Session.MayFollow (t s : Session) : Prop :=
  t.netState.substate = s.netState.substate ∨ t.netState.substate = .responseTx

theorem Session.mayFollow_advanceDialog (s : Session) : s.advanceDialog.MayFollow s := by
  unfold advanceDialog
  split <;> exact .inl rfl

/-- A frame for this device goes to its transport layer. -/
theorem Exchange.receive_of_local {c : Config} {x y : Exchange W}
    (hread : (HeaderM.read env c).run x = .ok .local y) : x.receive env c = y.dispatch env c := by
  rw [receive, hread]

/-- The relation holds of whatever reading from the inbound frame changes. -/
structure ReadsFrame (R : Exchange W → Exchange W → Prop) : Prop extends Composes R where
  inbound : ∀ x queue, R x { x with network.inbound := queue }

/-- The relation holds of whatever reading a header changes after its dialog ID. -/
structure ReadsRest (env : Environment W) (R : Exchange W → Exchange W → Prop) : Prop
    extends ReadsFrame R where
  header : ∀ x peer header route,
    R x { x with network.peer := peer, network.header := header, network.route := route }
  flags : ∀ x flags, R x { x with session.flags := flags }
  decrypt : ∀ cipher ∈ env.cipher, ∀ key bytes x,
    R x { x with world := (cipher.decrypt key bytes x.world).2 }

/-- The relation holds of whatever reading a header changes. -/
structure ReadsHeader (env : Environment W) (R : Exchange W → Exchange W → Prop) : Prop
    extends ReadsFrame R where
  header : ∀ x peer header route,
    R x { x with network.peer := peer, network.header := header, network.route := route }
  dialog : ∀ x connected subnet dialogId flags,
    R x { x with session := { x.session with
      netState.connected := connected, subnet, dialogId, flags } }
  decrypt : ∀ cipher ∈ env.cipher, ∀ key bytes x,
    R x { x with world := (cipher.decrypt key bytes x.world).2 }

/-- The relation holds of whatever the queries of a request change. -/
structure RunsQueries (env : Environment W) (R : Exchange W → Exchange W → Prop) : Prop
    extends ReadsFrame R where
  transport : ∀ x transport, transport.acks = x.transport.acks → R x { x with transport }
  listen : ∀ x, R x { x with session.flags.listen := false }
  query : ∀ user template target x,
    R x { x with world := (env.query user template target x.world).2 }

/-- The relation holds of whatever the queries of a request change, and of the transport layer
these are the last query and its target alone. -/
structure AsksQueries (env : Environment W) (R : Exchange W → Exchange W → Prop) : Prop
    extends ReadsFrame R where
  parts : ∀ x template target,
    R x { x with transport.template := template, transport.target := target }
  listen : ∀ x, R x { x with session.flags.listen := false }
  query : ∀ user template target x,
    R x { x with world := (env.query user template target x.world).2 }

/-- The relation holds of whatever reading how to answer a request changes. -/
structure ReadsWindow (R : Exchange W → Exchange W → Prop) : Prop extends ReadsFrame R where
  params : ∀ x params,
    R x { x with access := { x.access with params, retries := 0, rxTimeout := 0 } }
  window : ∀ x window, R x { x with access.window := window }
  single : ∀ x channel, R x { x with access := x.access.setTxChannel channel }
  channels : ∀ x channels, R x { x with access.txChannels := channels }

/-- The relation holds of whatever changes before a request is carried out. -/
structure Prepares (env : Environment W) (R : Exchange W → Exchange W → Prop) : Prop
    extends RunsQueries env R where
  access : ∀ x access, access.retries ≤ x.access.retries → R x { x with access }

/-- The relation holds of whatever answering a request changes, which leaves the transport layer
alone. -/
structure Replies (env : Environment W) (R : Exchange W → Exchange W → Prop) : Prop
    extends Composes R where
  network : ∀ x network, R x { x with network }
  session : ∀ x s, s.slot = x.session.slot → s.MayFollow x.session → R x { x with session := s }
  answer : ∀ user call queue x, R x { x with world := (env.answer user call queue x.world).2 }
  complete : ∀ x, R x { x with world := (x.network.complete env.cipher x.world).2 }
  datagrams : ∀ deliver ∈ env.datagrams, ∀ id source destination bytes x,
    R x { x with world := (deliver id source destination bytes x.world).2 }

/-- The relation holds of whatever carrying out a request changes. -/
structure CarriesOut (env : Environment W) (R : Exchange W → Exchange W → Prop) : Prop
    extends Composes R where
  network : ∀ x network, R x { x with network }
  transport : ∀ x transport, transport.acks = x.transport.acks → R x { x with transport }
  session : ∀ x s, s.slot = x.session.slot → s.MayFollow x.session → R x { x with session := s }
  answer : ∀ user call queue x, R x { x with world := (env.answer user call queue x.world).2 }
  complete : ∀ x, R x { x with world := (x.network.complete env.cipher x.world).2 }
  datagrams : ∀ deliver ∈ env.datagrams, ∀ id source destination bytes x,
    R x { x with world := (deliver id source destination bytes x.world).2 }

/-- The relation holds of whatever processing a request changes. -/
structure HandlesRequest (env : Environment W) (R : Exchange W → Exchange W → Prop) : Prop
    extends CarriesOut env R where
  access : ∀ x access, access.retries ≤ x.access.retries → R x { x with access }
  query : ∀ user template target x,
    R x { x with world := (env.query user template target x.world).2 }

/-- The relation holds of whatever processing the data of a frame changes. Only responses
change which devices are remembered. -/
structure HandlesData (env : Environment W) (R : Exchange W → Exchange W → Prop) : Prop
    extends HandlesRequest env R where
  response : ∀ x acks response,
    R x { x with transport.acks := acks, transport.response := response }

/-- The relation holds of whatever processing a frame changes. -/
structure ReceivesFrame (env : Environment W) (R : Exchange W → Exchange W → Prop) : Prop
    extends HandlesData env R where
  decrypt : ∀ cipher ∈ env.cipher, ∀ key bytes x,
    R x { x with world := (cipher.decrypt key bytes x.world).2 }
  router : ∀ judge ∈ env.router, ∀ route bytes x,
    R x { x with world := (judge route bytes x.world).2 }

/-! ## Headers -/

namespace ReadsFrame

theorem moves_octet (h : ReadsFrame R) : Moves R (HeaderM.octet : HeaderM W UInt8) :=
  ExchangeM.moves_inbound h.inbound _ _

theorem moves_deviceId (h : ReadsFrame R) (virtualIds : Bool) :
    Moves R (HeaderM.deviceId virtualIds : HeaderM W DeviceId) := by
  refine .bind h.toComposes (ExchangeM.moves_inbound h.inbound _ _) fun bytes => ?_
  split
  · exact .pure h.toComposes _
  · exact .throw h.toComposes _

theorem moves_optional (h : ReadsFrame R) (announced : Bool) {field : HeaderM W α}
    (hfield : Moves R field) : Moves R (HeaderM.optional announced field) :=
  .ite (.map h.toComposes _ hfield) (.pure h.toComposes _)

theorem moves_openFrame (h : ReadsFrame R) : Moves R (HeaderM.openFrame : HeaderM W Unit) := by
  have hR := h.toComposes
  refine .bind hR (.get hR) fun x => ?_
  dsimp only
  split
  · exact .throw hR _
  · split
    · exact .bind hR (.throw hR _) fun _ => ExchangeM.moves_inbound h.inbound _ _
    · exact ExchangeM.moves_inbound h.inbound _ _

theorem moves_route (h : ReadsFrame R) (virtualIds : Bool) :
    Moves R (HeaderM.route virtualIds : HeaderM W Route) := by
  have hR := h.toComposes
  refine .bind hR h.moves_octet fun hopCode => ?_
  refine .bind hR (h.moves_optional _ h.moves_octet) fun hopExtension => ?_
  refine .bind hR (h.moves_optional _ (h.moves_deviceId _)) fun origin => ?_
  exact .bind hR (h.moves_optional _ (h.moves_deviceId _)) fun _ => .pure hR _

theorem moves_decryptRest (h : ReadsFrame R) (hdecrypt : ∀ cipher ∈ env.cipher, ∀ key bytes x,
    R x { x with world := (cipher.decrypt key bytes x.world).2 }) :
    Moves R (HeaderM.decryptRest env) := by
  have hR := h.toComposes
  refine .bind hR h.moves_octet fun keyIndex => ?_
  split
  · exact .throw hR _
  next cipher hcipher =>
    refine .bind hR (.get hR) fun x => ?_
    refine .bind hR (ExchangeM.moves_perform (hdecrypt cipher hcipher keyIndex _)) fun out => ?_
    refine .bind hR (ExchangeM.moves_modifyNetwork fun _ => h.inbound _ _) fun _ => ?_
    exact .ite (.pure hR _) (.throw hR _)

end ReadsFrame

namespace ReadsRest

open ExchangeM

theorem moves_readRoute (h : ReadsRest env R) (c : Config) (header : Header) :
    Moves R (HeaderM.readRoute c header) := by
  have hR := h.toComposes
  refine .bind hR (moves_modifyNetwork fun _ => h.header _ _ _ _) fun _ => .ite ?_ (.pure hR _)
  refine .bind hR (h.moves_route _) fun _ => ?_
  exact .bind hR (moves_modifyNetwork fun _ => h.header _ _ _ _) fun _ => .pure hR _

theorem moves_readRest (h : ReadsRest env R) (c : Config) (subnet : UInt8) (info : FrameInfo)
    (extension dialogId : UInt8) :
    Moves R (HeaderM.readRest env c subnet info extension dialogId) := by
  have hR := h.toComposes
  refine .bind hR (moves_modifySession fun x => h.flags x _) fun _ => ?_
  refine .bind hR (h.moves_optional _ (h.moves_decryptRest h.decrypt)) fun keyIndex => ?_
  refine .bind hR (h.moves_deviceId _) fun peer => ?_
  refine .bind hR (moves_modifyNetwork fun _ => h.header _ _ _ _) fun _ =>
    .ite ?_ (h.moves_readRoute c _)
  refine .bind hR (h.moves_deviceId _) fun target => ?_
  exact .ite (.bind hR (.throw hR _) fun _ => h.moves_readRoute c _) (h.moves_readRoute c _)

end ReadsRest

namespace ReadsHeader

open ExchangeM

theorem readsRest (h : ReadsHeader env R) : ReadsRest env R where
  toReadsFrame := h.toReadsFrame
  header := h.header
  flags x flags :=
    h.dialog x x.session.netState.connected x.session.subnet x.session.dialogId flags
  decrypt := h.decrypt

theorem moves_followDialog (h : ReadsHeader env R) (c : Config) (subnet dialogId : UInt8) :
    Moves R (HeaderM.followDialog c subnet dialogId : HeaderM W Unit) := by
  have hR := h.toComposes
  refine .bind hR (.get hR) fun x => ?_
  refine .ite (.ite ?_ (.throw hR _)) (.ite ?_ (.throw hR _))
  · exact moves_modifySession fun _ => h.dialog _ _ _ _ _
  · exact moves_modifySession fun _ => h.dialog _ _ _ _ _

theorem moves_readAddressed (h : ReadsHeader env R) (c : Config) (subnet : UInt8)
    (info : FrameInfo) : Moves R (HeaderM.readAddressed env c subnet info) := by
  have hR := h.toComposes
  unfold HeaderM.readAddressed
  refine .bind hR (h.moves_optional _ h.moves_octet) fun extension => ?_
  dsimp only
  refine .ite (.bind hR (.throw hR _) fun _ => ?_) ?_
  -- The check before has two ends, but the steps after it are the same.
  all_goals
    refine .bind hR h.moves_octet fun dialogId => ?_
    refine .bind hR (h.moves_followDialog c subnet dialogId) fun _ => ?_
    exact h.readsRest.moves_readRest c subnet info _ dialogId

theorem moves_read (h : ReadsHeader env R) (c : Config) : Moves R (HeaderM.read env c) := by
  have hR := h.toComposes
  refine .bind hR h.moves_openFrame fun _ => ?_
  refine .bind hR h.moves_octet fun subnet => ?_
  refine .bind hR h.moves_octet fun byte => ?_
  refine .ite ?_ (h.moves_readAddressed c _ _)
  refine .bind hR h.moves_octet fun dialogId => ?_
  refine .bind hR (.get hR) fun x => ?_
  have hfollow : Moves R (do
      HeaderM.followDialog c subnet dialogId
      return .datastream : HeaderM W Destination) :=
    .bind hR (h.moves_followDialog _ _ _) fun _ => .pure hR _
  exact .ite (.bind hR (.throw hR _) fun _ => hfollow) hfollow

end ReadsHeader

/-! ## Requests -/

namespace AsksQueries

open ExchangeM

theorem moves_checkAcks (h : AsksQueries env R) (c : Config) :
    Moves R (Exchange.checkAcks c : ExchangeM W Score Unit) := by
  have hR := h.toComposes
  refine .bind hR (.get hR) fun x => ?_
  refine .bind hR (moves_inbound h.inbound _ _) fun listed => .ite ?_ (.pure hR _)
  exact .bind hR (moves_modifySession h.listen) fun _ => .throw hR _

theorem moves_runQuery (h : AsksQueries env R) (user : User) (isSeries : Bool) :
    Moves R (Exchange.runQuery env user isSeries) := by
  have hR := h.toComposes
  refine .bind hR (moves_inbound h.inbound _ _) fun parts => ?_
  refine .bind hR (moves_modifyTransport fun x => h.parts x _ _) fun _ => ?_
  refine .bind hR (moves_perform (h.query user _ _)) fun score => ?_
  exact .ite (.bind hR (.throw hR _) fun _ => .pure hR _) (.pure hR _)

theorem moves_runQueries (h : AsksQueries env R) (c : Config) (kind : RequestKind)
    (group : OperationGroup) (user : User) :
    Moves R (Exchange.runQueries env c kind group user) := by
  have hR := h.toComposes
  have hquery := h.moves_runQuery user (group == .seriesCollection)
  cases kind with
  | direct => exact .pure hR _
  | initial => exact .bind hR hquery fun _ => hquery
  | subsequent => exact .bind hR (h.moves_checkAcks c) fun _ => hquery

end AsksQueries

namespace RunsQueries

theorem asksQueries (h : RunsQueries env R) : AsksQueries env R where
  toReadsFrame := h.toReadsFrame
  parts x _ _ := h.transport x _ rfl
  listen := h.listen
  query := h.query

theorem moves_runQueries (h : RunsQueries env R) (c : Config) (kind : RequestKind)
    (group : OperationGroup) (user : User) :
    Moves R (Exchange.runQueries env c kind group user) :=
  h.asksQueries.moves_runQueries c kind group user

end RunsQueries

theorem ReadsWindow.moves_readResponseWindow (h : ReadsWindow R) (kind : RequestKind) :
    Moves R (Exchange.readResponseWindow kind : ExchangeM W Score Unit) := by
  have hR := h.toComposes
  have hsingle : ∀ channel : UInt8,
      Moves R (ExchangeM.modifyAccess (·.setTxChannel channel) : ExchangeM W Score Unit) :=
    fun channel => ExchangeM.moves_modifyAccess fun x => h.single x channel
  refine .bind hR (.get hR) fun x => ?_
  refine .bind hR (ExchangeM.moves_modifyAccess fun x => h.params x _) fun _ => ?_
  refine .bind hR (ExchangeM.moves_inbound h.inbound _ _) fun code => ?_
  refine .bind hR (ExchangeM.moves_modifyAccess fun x => h.window x _) fun _ =>
    .ite ?_ (hsingle _)
  refine .bind hR (ExchangeM.moves_inbound h.inbound _ _) fun channels => ?_
  exact .ite (hsingle _) (ExchangeM.moves_modifyAccess fun x => h.channels x _)

/-- Reading how to answer gives up the retries at first, and nothing brings them back. -/
theorem Prepares.readsWindow (h : Prepares env R) : ReadsWindow R where
  toReadsFrame := h.toReadsFrame
  params x _ := h.access x _ UInt8.zero_le
  window x _ := h.access x _ (UInt8.le_refl _)
  single x _ := h.access x _ (UInt8.le_refl _)
  channels x _ := h.access x _ (UInt8.le_refl _)

theorem Prepares.moves_readResponseWindow (h : Prepares env R) (kind : RequestKind) :
    Moves R (Exchange.readResponseWindow kind : ExchangeM W Score Unit) :=
  h.readsWindow.moves_readResponseWindow kind

/-! ## Responses, and whole frames -/

theorem NetworkLayer.session_stageHeader {n n' : NetworkLayer} {c : Config} {s s' : Session}
    {addressing : Addressing} {nack : Bool}
    (h : n.stageHeader c s addressing nack = .ok (s', n')) : s' = s.advanceDialog := by
  unfold stageHeader at h
  split at h
  · cases h
  · dsimp only at h
    split at h
    · cases h
    · cases h
      rfl

namespace Replies

open ExchangeM

theorem moves_beginResponse (h : Replies env R) (c : Config) :
    Moves R (Exchange.beginResponse c : ExchangeM W Score Unit) := by
  intro x
  unfold Ends Exchange.beginResponse
  dsimp only [EStateM.run]
  cases hstage : x.network.stageHeader c x.session .unicast
      (x.transport.command.has Command.nackBit) with
  | error cause => exact h.refl x
  | ok staged =>
      obtain ⟨s, n⟩ := staged
      obtain rfl := NetworkLayer.session_stageHeader hstage
      have hadvanced := h.session x _ (Session.slot_advanceDialog _)
        (Session.mayFollow_advanceDialog _)
      dsimp only
      cases n.outbound.push (Command.responseCode ||| x.transport.command.operation) with
      | error cause => exact h.trans hadvanced (h.network _ n)
      | ok outbound => exact h.trans hadvanced (h.network _ { n with outbound })

theorem moves_appendBody (h : Replies env R) {body : ResponseBody W}
    (hbody : ∀ queue x, R x { x with world := (body queue x.world).2 }) :
    Moves R (Exchange.appendBody body) := by
  intro x
  have hworld := hbody x.network.outbound x
  unfold Ends Exchange.appendBody
  dsimp only [EStateM.run]
  cases hresult : body x.network.outbound x.world with
  | mk result w =>
      rw [hresult] at hworld
      obtain ⟨score, outbound⟩ := result
      have happended := h.trans hworld (h.network _ { x.network with outbound })
      dsimp only
      by_cases hscore : score < 0
      · rw [if_pos hscore]
        exact happended
      · rw [if_neg hscore]
        exact happended

theorem moves_endResponse (h : Replies env R) : Moves R (Exchange.endResponse env) := by
  intro x
  have hworld := h.complete x
  unfold Ends Exchange.endResponse
  dsimp only [EStateM.run]
  cases hresult : x.network.complete env.cipher x.world with
  | mk result w =>
      rw [hresult] at hworld
      obtain ⟨outcome, network⟩ := result
      have hcompleted := h.trans hworld (h.network _ network)
      cases outcome with
      | error cause => exact hcompleted
      | ok _ =>
          exact h.trans hcompleted
            (h.session _ (x.session.withSubstate .responseTx) rfl (.inr rfl))

theorem moves_respond (h : Replies env R) (c : Config) {body : ResponseBody W}
    (hbody : ∀ queue x, R x { x with world := (body queue x.world).2 }) :
    Moves R (Exchange.respond env c body) := by
  have hR := h.toComposes
  refine .bind hR (.get hR) fun x => .ite ?_ ?_
  · exact moves_modifySession fun _ => h.session _ _ rfl (.inl rfl)
  refine .bind hR (h.moves_beginResponse c) fun _ => ?_
  exact .bind hR (h.moves_appendBody hbody) fun _ => h.moves_endResponse

theorem moves_replyToCall (h : Replies env R) (c : Config) (user : User) :
    Moves R (Exchange.replyToCall env c user) := by
  have hR := h.toComposes
  refine .bind hR (.get hR) fun x => ?_
  refine .bind hR (moves_inbound (fun x _ => h.network x _) _ _) fun call => ?_
  exact h.moves_respond c (h.answer user call)

theorem moves_replyToDatagram (h : Replies env R) (c : Config) :
    Moves R (Exchange.replyToDatagram env c) := by
  have hR := h.toComposes
  refine .bind hR (moves_inbound (fun x _ => h.network x _) _ _) fun ports => ?_
  refine .bind hR (.get hR) fun x => ?_
  dsimp only
  split
  · exact .throw hR _
  next deliver hdeliver =>
    refine .bind hR (moves_perform (h.datagrams deliver hdeliver _ _ _ _)) fun taken => ?_
    exact .ite (h.moves_respond c fun _ x => h.refl x) (.throw hR _)

end Replies

namespace CarriesOut

open ExchangeM

theorem replies (h : CarriesOut env R) : Replies env R where
  toComposes := h.toComposes
  network := h.network
  session := h.session
  answer := h.answer
  complete := h.complete
  datagrams := h.datagrams

theorem moves_carryOut (h : CarriesOut env R) (c : Config) (group : OperationGroup)
    (user : User) : Moves R (Exchange.carryOut env c group user) := by
  have hR := h.toComposes
  cases group with
  | announcement | fileCollection | seriesCollection => exact h.replies.moves_replyToCall c user
  | datagram => exact h.replies.moves_replyToDatagram c
  | datastream =>
      refine .bind hR (moves_modifySession fun _ => h.session _ _ rfl (.inl rfl)) fun _ => ?_
      refine .bind hR (moves_modifyTransport fun x => h.transport x _ rfl) fun _ => ?_
      exact h.replies.moves_respond c fun _ x => h.refl x
  | reserved => exact .throw hR _

variable {c : Config} {kind : RequestKind}

theorem moves_handleRequest (h : CarriesOut env R) (hwindow : ReadsWindow R)
    (hqueries : RunsQueries env R) : Moves R (Exchange.handleRequest env c kind) := by
  have hR := h.toComposes
  refine .bind hR (.get hR) fun x => ?_
  dsimp only
  refine .ite (.bind hR (.throw hR _) fun _ => ?_) ?_
  all_goals
    refine .bind hR (hwindow.moves_readResponseWindow kind) fun _ => ?_
    refine .bind hR (hqueries.moves_runQueries c kind _ _) fun score => ?_
    exact .bind hR (h.moves_carryOut c _ _) fun _ => .pure hR _

/-- The relation holds of the processing of the data of a frame if it holds of that of a
request and of keeping a response. -/
theorem moves_handleData (h : CarriesOut env R)
    (hresponse : ∀ x acks response,
      R x { x with transport.acks := acks, transport.response := response })
    (hrequest : ∀ kind, Moves R (Exchange.handleRequest env c kind)) :
    Moves R (Exchange.handleData env c) := by
  have hR := h.toComposes
  refine .bind hR (moves_modifyTransport fun x => h.transport x _ rfl) fun _ => ?_
  refine .bind hR (moves_inbound (fun x _ => h.network x _) _ _) fun command => ?_
  refine .bind hR (moves_modifyTransport fun x => h.transport x _ rfl) fun _ => ?_
  split
  · intro x
    unfold Ends Exchange.acceptResponse
    dsimp only [EStateM.run]
    by_cases hwaits : x.session.netState.substate = .responseRx
    · rw [if_pos hwaits]
      exact hresponse x _ _
    · rw [if_neg hwaits]
      exact h.refl x
  · exact hrequest _
  · exact .throw hR _
  · exact .throw hR _

/-- The relation holds of the processing of a frame if it holds of that of its header and of
its data, and of having it judged by the router. -/
theorem receive (h : CarriesOut env R) (hheader : ReadsHeader env R)
    (hdata : Moves R (Exchange.handleData env c))
    (hrouter : ∀ judge ∈ env.router, ∀ route bytes x,
      R x { x with world := (judge route bytes x.world).2 })
    (x : Exchange W) : R x (x.receive env c).2 := by
  have hread := hheader.moves_read c x
  unfold Exchange.receive
  split
  next heq => exact hread.of_error heq
  next y heq => exact h.trans (hread.of_ok heq) (score_of_ends (hdata y))
  next y heq =>
    refine h.trans (hread.of_ok heq) ?_
    unfold Exchange.continueDatastream
    split
    · split
      · exact h.transport y _ rfl
      · exact h.refl y
    · exact h.refl y
  next y heq =>
    refine h.trans (hread.of_ok heq) ?_
    unfold Exchange.forward
    split
    · exact h.refl y
    next judge hjudge => exact hrouter judge hjudge _ _ y

end CarriesOut

namespace HandlesRequest

theorem prepares (h : HandlesRequest env R) : Prepares env R where
  toComposes := h.toComposes
  inbound x _ := h.network x _
  transport := h.transport
  access := h.access
  listen x := h.session x _ rfl (.inl rfl)
  query := h.query

theorem moves_handleRequest (h : HandlesRequest env R) (c : Config) (kind : RequestKind) :
    Moves R (Exchange.handleRequest env c kind) :=
  h.toCarriesOut.moves_handleRequest h.prepares.readsWindow h.prepares.toRunsQueries

end HandlesRequest

/-- The relation holds of the processing of the data of any frame. -/
theorem HandlesData.moves_handleData (h : HandlesData env R) (c : Config) :
    Moves R (Exchange.handleData env c) :=
  h.toCarriesOut.moves_handleData h.response (h.moves_handleRequest c)

namespace ReceivesFrame

theorem readsHeader (h : ReceivesFrame env R) : ReadsHeader env R where
  toComposes := h.toComposes
  inbound x _ := h.network x _
  header x _ _ _ := h.network x _
  dialog x _ _ _ _ := h.session x _ rfl (.inl rfl)
  decrypt := h.decrypt

/-- The relation holds of the processing of any frame. -/
theorem receive (h : ReceivesFrame env R) (c : Config) (x : Exchange W) :
    R x (x.receive env c).2 :=
  h.toCarriesOut.receive h.readsHeader (h.moves_handleData c) h.router x

end ReceivesFrame

end Mode2
