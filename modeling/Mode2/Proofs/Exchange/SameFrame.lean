import Mode2.Proofs.Agreement
import Mode2.Proofs.Exchange.Arbitration
import Mode2.Proofs.Exchange.Sender

/-!
# The same frame in two exchanges

A frame may arrive in different dialogs, at layers that other frames have left in different
states. Whoever accepts it then reads the same fields, and if it is meant for this device the
same command and queries are read from it and run, on behalf of the same user.
-/

namespace Mode2

variable {W α : Type} {env : Environment W} {Like : W → W → Prop} {x x' : Exchange W}

/-- Neither the cipher nor a query tells worlds apart that are alike, nor does asking them make
such worlds differ. -/
structure Environment.CannotTell (env : Environment W) (Like : W → W → Prop) : Prop where
  decrypt : ∀ cipher ∈ env.cipher, ∀ key bytes {w w'}, Like w w' →
    (cipher.decrypt key bytes w).1 = (cipher.decrypt key bytes w').1 ∧
      Like (cipher.decrypt key bytes w).2 (cipher.decrypt key bytes w').2
  query : ∀ user template target {w w'}, Like w w' →
    (env.query user template target w).1 = (env.query user template target w').1 ∧
      Like (env.query user template target w).2 (env.query user template target w').2

/-- Nothing tells a world from itself. -/
theorem Environment.cannotTell_eq (env : Environment W) : env.CannotTell (· = ·) where
  decrypt _ _ _ _ _ _ h := h ▸ ⟨rfl, rfl⟩
  query _ _ _ _ _ h := h ▸ ⟨rfl, rfl⟩

/-! ## Steps -/

namespace ExchangeM

variable {ε : Type} {sure : Prop} {E : Exchange W → Exchange W → Prop}

/-- The same unread bytes are read in the same way. -/
theorem agree_inbound {S : α → Exchange W → Exchange W → Prop} {reader : QueueM α}
    {Spells : α → List UInt8 → Prop} (hreads : QueueM.ReadsAs reader Spells)
    (hunread : x.network.inbound.unread = x'.network.inbound.unread)
    (hread : ∀ value (queue queue' : FrameQueue), queue.unread = queue'.unread →
      S value { x with network.inbound := queue } { x' with network.inbound := queue' })
    (hstop : sure → ∀ queue queue' : FrameQueue,
      E { x with network.inbound := queue } { x' with network.inbound := queue' })
    (ending : ε) :
    Agree sure E S (inbound ending reader : ExchangeM W ε α) x (inbound ending reader) x' := by
  cases hrun : reader x.network.inbound with
  | ok value queue =>
      obtain ⟨bytes, hspells, hsplit⟩ := hreads.spelled hrun
      obtain ⟨queue', hrun', hqueue'⟩ := hreads.accepts hspells (hunread ▸ hsplit)
      exact ends_inbound hrun (ends_inbound hrun' ⟨rfl, hread value queue queue' hqueue'.symm⟩)
  | error cause queue =>
      cases hrun' : reader x'.network.inbound with
      | ok value' queue' =>
          obtain ⟨bytes, hspells, hsplit⟩ := hreads.spelled hrun'
          obtain ⟨_, haccepted, -⟩ := hreads.accepts hspells (hunread ▸ hsplit)
          rw [hrun] at haccepted
          cases haccepted
      | error cause' queue' =>
          simp only [Agree, Ends, inbound, EStateM.run, hrun, hrun']
          exact fun hsure => hstop hsure queue queue'

/-- Worlds that give the same answer lead on in the same way. -/
theorem agree_perform {S : α → Exchange W → Exchange W → Prop} {operation : StateM W α}
    (hvalue : (operation x.world).1 = (operation x'.world).1)
    (h : S (operation x.world).1 { x with world := (operation x.world).2 }
      { x' with world := (operation x'.world).2 }) :
    Agree sure E S (perform operation : ExchangeM W ε α) x (perform operation) x' :=
  ⟨hvalue, h⟩

variable {S : Unit → Exchange W → Exchange W → Prop}

theorem agree_modifySession {change change' : Session → Session}
    (h : S () { x with session := change x.session } { x' with session := change' x'.session }) :
    Agree sure E S (modifySession change : ExchangeM W ε Unit) x (modifySession change') x' :=
  ⟨rfl, h⟩

theorem agree_modifyNetwork {change change' : NetworkLayer → NetworkLayer}
    (h : S () { x with network := change x.network } { x' with network := change' x'.network }) :
    Agree sure E S (modifyNetwork change : ExchangeM W ε Unit) x (modifyNetwork change') x' :=
  ⟨rfl, h⟩

theorem agree_modifyTransport {change change' : Transport → Transport}
    (h : S () { x with transport := change x.transport }
      { x' with transport := change' x'.transport }) :
    Agree sure E S (modifyTransport change : ExchangeM W ε Unit) x (modifyTransport change') x' :=
  ⟨rfl, h⟩

theorem agree_modifyAccess {change change' : ChannelAccess → ChannelAccess}
    (h : S () { x with access := change x.access } { x' with access := change' x'.access }) :
    Agree sure E S (modifyAccess change : ExchangeM W ε Unit) x (modifyAccess change') x' :=
  ⟨rfl, h⟩

end ExchangeM

/-! ## Headers -/

namespace Exchange

/-- The same bytes are unread, and the worlds are alike. -/
structure SameData (Like : W → W → Prop) (x x' : Exchange W) : Prop where
  unread : x.network.inbound.unread = x'.network.inbound.unread
  world : Like x.world x'.world

/-- The same data is there, and the frame names devices by IDs of the same kind. -/
structure SameOptions (Like : W → W → Prop) (x x' : Exchange W) : Prop
    extends SameData Like x x' where
  virtualIds : x.session.flags.virtualIds = x'.session.flags.virtualIds

/-- The relation tells what is unread of the frame, and goes on when both read on. -/
structure TellsFrame (S : Exchange W → Exchange W → Prop) : Prop where
  unread : ∀ {x x'}, S x x' → x.network.inbound.unread = x'.network.inbound.unread
  inbound : ∀ {x x'} {queue queue' : FrameQueue}, S x x' → queue.unread = queue'.unread →
    S { x with network.inbound := queue } { x' with network.inbound := queue' }

theorem tellsFrame_sameData : TellsFrame (SameData Like) where
  unread h := h.unread
  inbound h hunread := ⟨hunread, h.world⟩

theorem tellsFrame_sameOptions : TellsFrame (SameOptions Like) where
  unread h := h.unread
  inbound h hunread := ⟨⟨hunread, h.world⟩, h.virtualIds⟩

end Exchange

/-- As far as they accept the header, two runs of a step yield the same and leave states that
are related. -/
def Accept (S : α → Exchange W → Exchange W → Prop) (field : HeaderM W α) (x x' : Exchange W) :
    Prop :=
  Agree False (fun _ _ => True) S field x field x'

theorem accept_optional {S : Exchange W → Exchange W → Prop} (announced : Bool)
    {field : HeaderM W α} (hfield : Accept (fun _ => S) field x x') (h : S x x') :
    Accept (fun _ => S) (HeaderM.optional announced field) x x' := by
  cases announced with
  | false => exact .pure h
  | true => exact Agree.bind hfield fun value y y' hy => .pure hy

namespace Exchange.TellsFrame

open ExchangeM HeaderM

variable {S : Exchange W → Exchange W → Prop} (hS : TellsFrame S)

include hS

theorem accept_inbound {reader : QueueM α} {Spells : α → List UInt8 → Prop}
    (hreads : QueueM.ReadsAs reader Spells) (h : S x x') (ending : Rejection) :
    Accept (fun _ => S) (ExchangeM.inbound ending reader) x x' :=
  agree_inbound hreads (hS.unread h) (fun _ _ _ hunread => hS.inbound h hunread) nofun ending

theorem accept_octet (h : S x x') : Accept (fun _ => S) octet x x' :=
  hS.accept_inbound QueueM.readByte_readsAs h _

theorem accept_deviceId (virtualIds : Bool) (h : S x x') :
    Accept (fun _ => S) (deviceId virtualIds) x x' := by
  apply Agree.bind (hS.accept_inbound (QueueM.read_readsAs _) h _)
  intro bytes y y' hy
  split
  · exact .pure hy
  · exact .throw nofun

theorem accept_route (virtualIds : Bool) (h : S x x') :
    Accept (fun _ => S) (HeaderM.route virtualIds) x x' := by
  apply Agree.bind (hS.accept_octet h)
  intro hopCode y y' h
  apply Agree.bind (accept_optional _ (hS.accept_octet h) h)
  intro hopExtension y y' h
  apply Agree.bind (accept_optional _ (hS.accept_deviceId _ h) h)
  intro origin y y' h
  apply Agree.bind (accept_optional _ (hS.accept_deviceId _ h) h)
  intro destination y y' h
  exact .pure h

end Exchange.TellsFrame

namespace Exchange

open ExchangeM HeaderM

/-- The rest of the frame is decrypted to the same bytes. -/
theorem accept_decryptRest (h : env.CannotTell Like) (hsame : SameOptions Like x x') :
    Accept (fun _ => SameOptions Like) (decryptRest env) x x' := by
  apply Agree.bind (tellsFrame_sameOptions.accept_octet hsame)
  intro key y y' hy
  split
  · exact .throw nofun
  next cipher hcipher =>
    apply Agree.get_bind
    dsimp only
    rw [← hy.unread]
    obtain ⟨hvalue, hworld⟩ := h.decrypt cipher hcipher key y.network.inbound.unread hy.world
    have hout : Agree False (fun _ _ => True)
        (fun _ z z' => z.network.inbound.unread = y.network.inbound.unread ∧ SameOptions Like z z')
        (perform (cipher.decrypt key y.network.inbound.unread) : HeaderM W _) y
        (perform (cipher.decrypt key y.network.inbound.unread)) y' :=
      agree_perform hvalue ⟨rfl, ⟨hy.unread, hworld⟩, hy.virtualIds⟩
    apply Agree.bind hout
    rintro out z z' ⟨hkept, hz⟩
    have hlength : out.bytes.length = z.network.inbound.unread.length := by
      rw [out.length_eq, hkept]
    apply Agree.bind (S := fun _ => SameOptions Like)
    · apply agree_modifyNetwork
      refine ⟨⟨?_, hz.world⟩, hz.virtualIds⟩
      dsimp only
      rw [FrameQueue.unread_setRegion hlength, FrameQueue.unread_setRegion (hz.unread ▸ hlength)]
    · intro _ m m' hm
      split
      · exact .pure hm
      · exact .throw nofun

/-- The end of a header is read in the same way. -/
theorem accept_readRoute (c : Config) (header : Header) (h : SameOptions Like x x') :
    Accept (fun _ => SameOptions Like) (readRoute c header) x x' := by
  have hremember : ∀ {x x' : Exchange W} {change : NetworkLayer → NetworkLayer},
      SameOptions Like x x' → (∀ n, (change n).inbound = n.inbound) →
        Accept (fun _ => SameOptions Like) (modifyNetwork change) x x' := by
    intro x x' change h hchange
    apply agree_modifyNetwork
    refine ⟨⟨?_, h.world⟩, h.virtualIds⟩
    dsimp only
    rw [hchange, hchange, h.unread]
  refine Agree.bind (hremember h fun _ => rfl) ?_
  intro _ y y' hy
  split
  · apply Agree.bind (tellsFrame_sameOptions.accept_route _ hy)
    intro route z z' hz
    exact Agree.bind (hremember hz fun _ => rfl) fun _ _ _ h => .pure h
  · exact .pure hy

/-- Whatever the dialogs, the header after its dialog ID is read in the same way, and gives them
the same options. -/
theorem accept_readRest (h : env.CannotTell Like) (c : Config) (subnet : UInt8) (info : FrameInfo)
    (extension dialogId : UInt8) (hsame : SameData Like x x') :
    Accept (fun _ => SameOptions Like) (readRest env c subnet info extension dialogId) x x' := by
  have hS : TellsFrame (SameOptions Like) := tellsFrame_sameOptions
  apply Agree.bind (S := fun _ => SameOptions Like)
  -- The dialogs may differ in everything, but from here on both have the options of the frame.
  · exact agree_modifySession ⟨⟨hsame.unread, hsame.world⟩, rfl⟩
  intro _ y y' hy
  apply Agree.bind (accept_optional _ (accept_decryptRest h hy) hy)
  intro key y y' hy
  apply Agree.bind (hS.accept_deviceId _ hy)
  intro peer y y' hy
  apply Agree.bind (S := fun _ => SameOptions Like)
  · exact agree_modifyNetwork ⟨⟨hy.unread, hy.world⟩, hy.virtualIds⟩
  intro _ y y' hy
  split
  · apply Agree.bind (hS.accept_deviceId _ hy)
    intro target z z' hz
    split
    · exact .throw_bind nofun
    · exact accept_readRoute c _ hz
  · exact accept_readRoute c _ hy

/-- A dialog that follows a frame still has the frame in front of it. -/
theorem accept_followDialog (c : Config) (subnet dialogId : UInt8) (hsame : SameData Like x x') :
    Accept (fun _ => SameData Like) (followDialog c subnet dialogId) x x' := by
  apply Agree.of_ends id (ends_followDialog_session c subnet dialogId x)
    (ends_followDialog_session c subnet dialogId x')
  rintro _ _ _ _ ⟨s, rfl⟩ ⟨s', rfl⟩
  exact ⟨rfl, hsame.unread, hsame.world⟩

theorem accept_readAddressed (h : env.CannotTell Like) (c : Config) (subnet : UInt8)
    (info : FrameInfo) (hsame : SameData Like x x') :
    Accept (fun _ => SameOptions Like) (readAddressed env c subnet info) x x' := by
  have hS : TellsFrame (SameData Like) := tellsFrame_sameData
  unfold readAddressed
  apply Agree.bind (accept_optional _ (hS.accept_octet hsame) hsame)
  intro extension y y' hy
  dsimp only
  split
  · exact .throw_bind nofun
  apply Agree.bind (hS.accept_octet hy)
  intro dialogId y y' hy
  apply Agree.bind (accept_followDialog c subnet dialogId hy)
  intro _ y y' hy
  exact accept_readRest h c subnet info _ dialogId hy

/-- The same frame is cut to the same bytes. -/
theorem accept_openFrame (hwritten : x.network.inbound.written = x'.network.inbound.written)
    (hworld : Like x.world x'.world) : Accept (fun _ => SameData Like) openFrame x x' := by
  apply Agree.of_ends id (ends_openFrame_cut.imp (fun _ _ h => h) fun _ _ _ => trivial)
    (ends_openFrame_cut.imp (fun _ _ h => h) fun _ _ _ => trivial)
  rintro _ _ _ _ ⟨byte, queue, hbyte, -, -, ⟨-, hunread, -⟩, rfl⟩
    ⟨byte', queue', hbyte', -, -, ⟨-, hunread', -⟩, rfl⟩
  unfold FrameQueue.byteAt at hbyte hbyte'
  rw [← hwritten] at hbyte' hunread'
  obtain rfl := Option.some.inj (hbyte.symm.trans hbyte')
  exact ⟨rfl, hunread.trans hunread'.symm, hworld⟩

/-- Whoever accepts the header of a frame sends the frame on in the same direction. If it
continues no datastream, the same data is left, under the same options. -/
theorem accept_read (h : env.CannotTell Like) (c : Config)
    (hwritten : x.network.inbound.written = x'.network.inbound.written)
    (hworld : Like x.world x'.world) :
    Accept (fun destination y y' => destination ≠ .datastream → SameOptions Like y y')
      (HeaderM.read env c) x x' := by
  have hS : TellsFrame (SameData Like) := tellsFrame_sameData
  unfold HeaderM.read
  apply Agree.bind (accept_openFrame hwritten hworld)
  intro _ y y' hy
  apply Agree.bind (hS.accept_octet hy)
  intro subnet y y' hy
  apply Agree.bind (hS.accept_octet hy)
  intro byte y y' hy
  dsimp only
  split
  · apply Agree.of_ends id (ends_readDatastream_enters c subnet)
      (ends_readDatastream_enters c subnet)
    rintro _ _ _ _ ⟨rfl, -⟩ ⟨rfl, -⟩
    exact ⟨rfl, fun hother => absurd rfl hother⟩
  · exact (accept_readAddressed h c subnet _ hy).imp fun _ _ _ hsame _ => hsame

/-- Frames for this device that are spelled the same leave it the same data under the same
options, from the same user. -/
theorem sameOptions_of_read (h : env.CannotTell Like) {c : Config}
    (hwritten : x.network.inbound.written = x'.network.inbound.written)
    (hworld : Like x.world x'.world) {y y' : Exchange W}
    (hread : (HeaderM.read env c).run x = .ok .local y)
    (hread' : (HeaderM.read env c).run x' = .ok .local y') :
    SameOptions Like y y' ∧ y.user = y'.user := by
  have hlocal : Destination.local ≠ .datastream := by decide
  constructor
  · exact ((accept_read h c hwritten hworld).of_ok hread hread').2 hlocal
  · have huser : y.user = x.network.inbound.sender := HeaderM.user_of_read hread hlocal
    have huser' : y'.user = x'.network.inbound.sender := HeaderM.user_of_read hread' hlocal
    rw [huser, huser', FrameQueue.sender, FrameQueue.sender, FrameQueue.byteAt,
      FrameQueue.byteAt, hwritten]

end Exchange

/-! ## Data -/

/-- The request being processed: its command, its last query, and the target of that. -/
def Transport.inFlight (t : Transport) : Command × Template × Target :=
  (t.command, t.template, t.target)

/-- The transport layer behind an operation, which begins a datastream or leaves it alone. -/
def Transport.afterOperation (t : Transport) (group : OperationGroup) : Transport :=
  if group = .datastream then { t with datastream := .empty } else t

@[simp] theorem Transport.inFlight_afterOperation (t : Transport) (group : OperationGroup) :
    (t.afterOperation group).inFlight = t.inFlight := by
  unfold afterOperation
  split <;> rfl

namespace Exchange

open ExchangeM

/-- The same data is there, under the same options and from the same user, and the same request
is being processed. -/
structure SameRequest (Like : W → W → Prop) (x x' : Exchange W) : Prop
    extends SameOptions Like x x' where
  user : x.user = x'.user
  inFlight : x.transport.inFlight = x'.transport.inFlight

/-- Two runs of a step on the data of a frame both go on or both stop, and the same request is
being processed. -/
def Handle (Like : W → W → Prop) (steps steps' : ExchangeM W Score α) (x x' : Exchange W) : Prop :=
  Agree True (fun y y' => y.transport.inFlight = y'.transport.inFlight)
    (fun _ => SameRequest Like) steps x steps' x'

theorem handle_inbound {reader : QueueM α} {Spells : α → List UInt8 → Prop}
    (hreads : QueueM.ReadsAs reader Spells) (h : SameRequest Like x x') :
    Handle Like (inbound .rejected reader) (inbound .rejected reader) x x' :=
  agree_inbound hreads h.unread
    (fun _ _ _ hunread => ⟨⟨⟨hunread, h.world⟩, h.virtualIds⟩, h.user, h.inFlight⟩)
    (fun _ _ _ => h.inFlight) _

theorem handle_modifyAccess {change change' : ChannelAccess → ChannelAccess}
    (h : SameRequest Like x x') : Handle Like (modifyAccess change) (modifyAccess change') x x' :=
  agree_modifyAccess ⟨⟨⟨h.unread, h.world⟩, h.virtualIds⟩, h.user, h.inFlight⟩

theorem handle_readResponseWindow (kind : RequestKind) (h : SameRequest Like x x') :
    Handle Like (readResponseWindow kind) (readResponseWindow kind) x x' := by
  apply Agree.get_bind
  refine Agree.bind (handle_modifyAccess h) ?_
  intro _ y y' hy
  apply Agree.bind (handle_inbound QueueM.readByte_readsAs hy)
  intro code y y' hy
  refine Agree.bind (handle_modifyAccess hy) ?_
  intro _ y y' hy
  split
  · apply Agree.bind (handle_inbound channelList_readsAs hy)
    intro channels y y' hy
    split
    · exact handle_modifyAccess hy
    · exact handle_modifyAccess hy
  · exact handle_modifyAccess hy

theorem handle_checkAcks (c : Config) (h : SameRequest Like x x') :
    Handle Like (checkAcks c) (checkAcks c) x x' := by
  apply Agree.get_bind
  dsimp only
  rw [← h.virtualIds]
  apply Agree.bind (handle_inbound (AckList.scan_readsAs _ _) h)
  intro listed y y' hy
  split
  · apply Agree.bind (S := fun _ y y' => y.transport.inFlight = y'.transport.inFlight)
    · exact agree_modifySession hy.inFlight
    · exact fun _ _ _ h => .throw fun _ => h
  · exact .pure hy

theorem handle_runQuery (h : env.CannotTell Like) (user : User) (isSeries : Bool)
    (hsame : SameRequest Like x x') :
    Handle Like (runQuery env user isSeries) (runQuery env user isSeries) x x' := by
  apply Agree.bind (handle_inbound (queryParts_readsAs isSeries) hsame)
  intro ⟨template, target⟩ y y' hy
  apply Agree.bind (S := fun _ => SameRequest Like)
  · have hcommand : y.transport.command = y'.transport.command := congrArg Prod.fst hy.inFlight
    apply agree_modifyTransport
    refine ⟨⟨⟨hy.unread, hy.world⟩, hy.virtualIds⟩, hy.user, ?_⟩
    unfold Transport.inFlight
    rw [hcommand]
  intro _ y y' hy
  obtain ⟨hvalue, hworld⟩ := h.query user template target hy.world
  apply Agree.bind (S := fun _ => SameRequest Like)
  · exact agree_perform hvalue ⟨⟨⟨hy.unread, hworld⟩, hy.virtualIds⟩, hy.user, hy.inFlight⟩
  intro score y y' hy
  split
  · exact .throw_bind fun _ => hy.inFlight
  · exact .pure hy

theorem handle_runQueries (h : env.CannotTell Like) (c : Config) (kind : RequestKind)
    (group : OperationGroup) (user : User) (hsame : SameRequest Like x x') :
    Handle Like (runQueries env c kind group user) (runQueries env c kind group user) x x' := by
  have hquery : ∀ {y y' : Exchange W}, SameRequest Like y y' → Handle Like
      (runQuery env user (group == .seriesCollection))
      (runQuery env user (group == .seriesCollection)) y y' := handle_runQuery h user _
  cases kind with
  | direct => exact .pure hsame
  | initial => exact Agree.bind (hquery hsame) fun _ _ _ hy => hquery hy
  | subsequent => exact Agree.bind (handle_checkAcks c hsame) fun _ _ _ hy => hquery hy

/-- Answering leaves the transport layer alone. -/
theorem replies_transport (env : Environment W) :
    Replies env fun x y => y.transport = x.transport where
  refl _ := rfl
  trans h h' := h'.trans h
  network _ _ := rfl
  session _ _ _ _ := rfl
  answer _ _ _ _ := rfl
  complete _ := rfl
  datagrams _ _ _ _ _ _ _ := rfl

/-- Whether or not a request can be answered, it begins a datastream if it asks for one, and
changes nothing else in the transport layer. -/
theorem moves_carryOut_transport (env : Environment W) (c : Config) (group : OperationGroup)
    (user : User) :
    Moves (fun x y => y.transport = x.transport.afterOperation group)
      (carryOut env c group user) := by
  have hreplies := replies_transport env
  cases group with
  | announcement | fileCollection | seriesCollection => exact hreplies.moves_replyToCall c user
  | datagram => exact hreplies.moves_replyToDatagram c
  | datastream =>
      intro x
      apply Ends.bind
      apply ends_modifySession
      apply Ends.bind
      apply ends_modifyTransport
      exact hreplies.moves_respond c (fun _ _ => rfl) _
  | reserved => exact fun _ => rfl

/-- One device may be able to answer where the other is not, but neither changes the request. -/
theorem meet_carryOut (env : Environment W) (c : Config) (group : OperationGroup) (user : User)
    (h : x.transport.inFlight = x'.transport.inFlight) (score : Score) :
    Meet (fun y y' => y.transport.inFlight = y'.transport.inFlight)
      (do carryOut env c group user; return score) x
      (do carryOut env c group user; return score) x' := by
  apply Meet.of_moves (fun x : Exchange W => x.transport.inFlight) h
  intro x
  apply Ends.bind
  apply (moves_carryOut_transport env c group user x).imp
  · intro _ y hy
    apply Ends.pure
    simp [hy]
  · intro _ y hy
    simp [hy]

theorem meet_handleRequest (h : env.CannotTell Like) (c : Config) (kind : RequestKind)
    (hsame : SameRequest Like x x') :
    Meet (fun y y' => y.transport.inFlight = y'.transport.inFlight)
      (handleRequest env c kind) x (handleRequest env c kind) x' := by
  have hcommand : x.transport.command = x'.transport.command := congrArg Prod.fst hsame.inFlight
  apply Meet.get_bind
  dsimp only
  rw [← hcommand, ← hsame.user]
  split
  · exact .throw_bind hsame.inFlight
  apply Agree.meet (handle_readResponseWindow kind hsame)
  intro _ y y' hy
  apply Agree.meet (handle_runQueries h c kind _ _ hy)
  intro score z z' hz
  exact meet_carryOut env c _ _ hz.inFlight score

/-- Whatever request the transport layers have been left with, processing the same data leaves
them with the same one. -/
theorem meet_handleData (h : env.CannotTell Like) (c : Config) (hsame : SameOptions Like x x')
    (huser : x.user = x'.user) :
    Meet (fun y y' => y.transport.inFlight = y'.transport.inFlight)
      (handleData env c) x (handleData env c) x' := by
  apply Agree.meet (S := fun _ => SameRequest Like)
  -- Both forget their request at first; nothing else of the transport layers is compared.
  · exact agree_modifyTransport ⟨⟨⟨hsame.unread, hsame.world⟩, hsame.virtualIds⟩, huser, rfl⟩
  intro _ y y' hy
  apply Agree.meet (handle_inbound commandBytes_readsAs hy)
  intro command z z' hz
  apply Agree.meet (S := fun _ => SameRequest Like)
  · apply agree_modifyTransport
    refine ⟨⟨⟨hz.unread, hz.world⟩, hz.virtualIds⟩, hz.user, ?_⟩
    have hquery := congrArg Prod.snd hz.inFlight
    exact congrArg (Prod.mk command) hquery
  intro _ m m' hm
  split
  · apply Meet.of_moves (fun x : Exchange W => x.transport.inFlight) hm.inFlight
    intro x
    unfold Ends acceptResponse
    dsimp only [EStateM.run]
    by_cases hwaits : x.session.netState.substate = .responseRx
    · rw [if_pos hwaits]
      rfl
    · rw [if_neg hwaits]
  · exact meet_handleRequest h c _ hm
  · exact .throw hm.inFlight
  · exact .throw hm.inFlight

/-- Frames for this device that are spelled the same leave the same request in the transport
layer, whatever frames have come before them. -/
theorem inFlight_receive (h : env.CannotTell Like) {c : Config}
    (hwritten : x.network.inbound.written = x'.network.inbound.written)
    (hworld : Like x.world x'.world) {y y' : Exchange W}
    (hread : (HeaderM.read env c).run x = .ok .local y)
    (hread' : (HeaderM.read env c).run x' = .ok .local y') :
    (x.receive env c).2.transport.inFlight = (x'.receive env c).2.transport.inFlight := by
  obtain ⟨hsame, huser⟩ := sameOptions_of_read h hwritten hworld hread hread'
  have hmeet := ExchangeM.score_of_ends (meet_handleData h c hsame huser)
  rw [receive_of_local hread, receive_of_local hread']
  exact ExchangeM.score_of_ends hmeet

end Exchange

end Mode2
