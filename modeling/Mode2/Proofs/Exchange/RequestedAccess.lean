import Mode2.Proofs.Exchange.Grammar
import Mode2.Proofs.Exchange.Responding

/-!
# How a request has its response sent

Behind its command a request says in which window its response is to contend, and on which
channels. Whoever accepts the request contends for its response so, whatever the queries of the
request are and whatever is done to carry it out.
-/

namespace Mode2

variable {W : Type} {env : Environment W} {x y : Exchange W}

namespace WindowField

/-- The channels of the response: those that are listed, as many as there is room for, or the
channel of the dialog when none is. -/
def responseChannels (w : WindowField) (dialog : UInt8) : List UInt8 :=
  if w.channels = [] then [dialog] else w.channels.take channelCapacity

theorem responseChannels_ne_nil (w : WindowField) (dialog : UInt8) :
    w.responseChannels dialog ≠ [] := by
  unfold responseChannels
  split
  · exact List.cons_ne_nil dialog []
  next hlisted => simpa [channelCapacity] using hlisted

/-- The access to channels is that of a response to a request with this command and field, in a
dialog on a channel. -/
structure Grants (w : WindowField) (kind : RequestKind) (command : Command) (dialog : UInt8)
    (a : ChannelAccess) : Prop where
  window : a.window = (WindowCode.decode w.code).toClocks
  channels : a.txChannels.channels = w.responseChannels dialog
  params : a.params = Exchange.responseParams command kind

end WindowField

namespace Exchange

/-- The frame, whose header has been read, is a request with this command, which says so how to
answer. -/
def Requests (x : Exchange W) (kind : RequestKind) (command : Command) (w : WindowField) : Prop :=
  command.WellFormed ∧ Command.kindOf? command.code = some (.request kind) ∧ w.WellFormed ∧
    ∃ rest, x.network.inbound.unread = command.encode ++ w.encode ++ rest

/-- Whatever is read has been spelled, and only the frame has been read on. -/
theorem ends_inbound_spelled {α : Type} {reader : QueueM α} {Spells : α → List UInt8 → Prop}
    (h : QueueM.ReadsAs reader Spells) :
    Ends (ExchangeM.inbound .rejected reader : ExchangeM W Score α) x
      (fun value y => ∃ bytes queue, Spells value bytes ∧
        x.network.inbound.unread = bytes ++ queue.unread ∧
        y = { x with network.inbound := queue })
      fun cause y => cause < 0 ∧ ∃ queue, y = { x with network.inbound := queue } := by
  unfold Ends ExchangeM.inbound
  dsimp only [EStateM.run]
  cases hread : reader x.network.inbound with
  | ok value queue =>
      obtain ⟨bytes, hvalue, hunread⟩ := h.spelled hread
      exact ⟨bytes, queue, hvalue, hunread, rfl⟩
  | error cause queue => exact ⟨Int.negSucc_lt_zero 0, queue, rfl⟩

/-- The field has been read, and nothing but the access to channels is changed, as it says. -/
theorem ends_readResponseWindow_spelled (kind : RequestKind) :
    Ends (readResponseWindow kind) x
      (fun _ y => ∃ (w : WindowField) (queue : FrameQueue) (access : ChannelAccess),
        w.WellFormed ∧ x.network.inbound.unread = w.encode ++ queue.unread ∧
        w.Grants kind x.transport.command x.session.channel access ∧
        y = { x with access, network.inbound := queue })
      fun cause y => cause < 0 ∧ ∃ (queue : FrameQueue) (access : ChannelAccess),
        y = { x with access, network.inbound := queue } := by
  refine Ends.bind (Ends.get (Ends.bind (ExchangeM.ends_modifyAccess ?_)))
  refine Ends.bind ((ends_inbound_spelled QueueM.readByte_readsAs).imp ?_ ?_)
  · rintro code _ ⟨_, queue, rfl, hunread, rfl⟩
    refine Ends.bind (ExchangeM.ends_modifyAccess ?_)
    dsimp only at hunread ⊢
    by_cases hlists : Octet.hasAny code channelListBit = true
    · rw [if_pos hlists]
      refine Ends.bind ((ends_inbound_spelled channelList_readsAs).imp ?_ ?_)
      · rintro channels _ ⟨_, queue', ⟨hcounted, rfl⟩, hunread', rfl⟩
        dsimp only at hunread' ⊢
        have hwell : WindowField.WellFormed ⟨code, channels⟩ :=
          ⟨hcounted, fun hnone => absurd hlists (by simp [hnone])⟩
        have hencode : x.network.inbound.unread =
            WindowField.encode ⟨code, channels⟩ ++ queue'.unread := by
          rw [hunread, hunread', WindowField.encode, if_pos hlists]
          simp
        split
        next hnone =>
          exact ⟨_, queue', _, hwell, hencode, ⟨rfl, (if_pos hnone).symm, rfl⟩, rfl⟩
        next hlisted =>
          exact ⟨_, queue', _, hwell, hencode, ⟨rfl, (if_neg hlisted).symm, rfl⟩, rfl⟩
      · rintro cause _ ⟨hcause, queue', rfl⟩
        exact ⟨hcause, queue', _, rfl⟩
    · rw [if_neg hlists]
      have hwell : WindowField.WellFormed ⟨code, []⟩ := ⟨Nat.succ_pos _, fun _ => rfl⟩
      have hencode : x.network.inbound.unread = WindowField.encode ⟨code, []⟩ ++ queue.unread := by
        rw [hunread, WindowField.encode, if_neg hlists]
      exact ⟨_, queue, _, hwell, hencode, ⟨rfl, rfl, rfl⟩, rfl⟩
  · rintro cause _ ⟨hcause, queue, rfl⟩
    exact ⟨hcause, queue, _, rfl⟩

theorem runsQueries_access (env : Environment W) :
    RunsQueries env fun x y => y.access = x.access where
  refl _ := rfl
  trans h h' := h'.trans h
  inbound _ _ := rfl
  transport _ _ _ := rfl
  listen _ := rfl
  query _ _ _ _ := rfl

theorem carriesOut_access (env : Environment W) :
    CarriesOut env fun x y => y.access = x.access where
  refl _ := rfl
  trans h h' := h'.trans h
  network _ _ := rfl
  transport _ _ _ := rfl
  session _ _ _ _ := rfl
  answer _ _ _ _ := rfl
  complete _ := rfl
  datagrams _ _ _ _ _ _ _ := rfl

/-- Neither the queries nor carrying the request out change how to answer. -/
theorem ends_handleRequest_granted (c : Config) (kind : RequestKind) :
    Ends (handleRequest env c kind) x
      (fun _ y => ∃ (w : WindowField) (rest : List UInt8), w.WellFormed ∧
        x.network.inbound.unread = w.encode ++ rest ∧
        w.Grants kind x.transport.command x.session.channel y.access)
      fun _ _ => True := by
  refine Ends.bind (Ends.get ?_)
  dsimp only
  split
  · exact Ends.bind (Ends.throw trivial)
  refine Ends.bind ((ends_readResponseWindow_spelled kind).imp ?_ fun _ _ _ => trivial)
  rintro _ _ ⟨w, queue, access, hwell, hunread, hgrants, rfl⟩
  refine Ends.bind_of_run fun score z hrun => Ends.bind_of_run fun _ m hrun' => Ends.pure ?_
  have hqueried := ((runsQueries_access env).moves_runQueries c kind _ _ _).of_ok hrun
  have hcarried := ((carriesOut_access env).moves_carryOut c _ _ z).of_ok hrun'
  exact ⟨w, queue.unread, hwell, hunread, by rw [hcarried, hqueried]; exact hgrants⟩

theorem ends_handleData_granted (c : Config) (hrequest : x.HoldsRequest) :
    Ends (handleData env c) x
      (fun _ y => ∃ kind command w, x.Requests kind command w ∧
        w.Grants kind command x.session.channel y.access)
      fun _ _ => True := by
  obtain ⟨command, queue, kind, hread, hkind⟩ := hrequest
  obtain ⟨bytes, ⟨hcommand, rfl⟩, hunread⟩ := commandBytes_readsAs.spelled hread
  refine Ends.bind (ExchangeM.ends_modifyTransport ?_)
  refine Ends.bind (ExchangeM.ends_inbound hread (Ends.bind (ExchangeM.ends_modifyTransport ?_)))
  rw [hkind]
  refine (ends_handleRequest_granted c kind).imp ?_ fun _ _ h => h
  rintro _ y ⟨w, rest, hwell, hunread', hgrants⟩
  refine ⟨kind, command, w, ⟨hcommand, hkind, hwell, rest, ?_⟩, hgrants⟩
  rw [hunread, hunread', List.append_assoc]

/-- Whoever has accepted a request contends for its response as the request says. -/
theorem grants_receive (c : Config) (hread : (HeaderM.read env c).run x = .ok .local y)
    (hrequest : y.HoldsRequest) (hscore : 0 ≤ (x.receive env c).1) :
    ∃ kind command w, y.Requests kind command w ∧
      w.Grants kind command y.session.channel (x.receive env c).2.access := by
  rw [receive_of_local hread] at hscore ⊢
  exact accepted_of_ends (ends_handleData_granted c hrequest) hscore

/-- The contention window is one that a code stands for. -/
def GrantsWindow (x : Exchange W) : Prop :=
  ∃ code, x.access.window = (WindowCode.decode code).toClocks

/-- Whoever has accepted a request contends for its response in the window that the request
grants. -/
theorem grantsWindow_receive (c : Config) (hread : (HeaderM.read env c).run x = .ok .local y)
    (hrequest : y.HoldsRequest) (hscore : 0 ≤ (x.receive env c).1) :
    (x.receive env c).2.GrantsWindow := by
  obtain ⟨_, _, w, -, hgrants⟩ := grants_receive c hread hrequest hscore
  exact ⟨w.code, hgrants.window⟩

end Exchange

end Mode2
