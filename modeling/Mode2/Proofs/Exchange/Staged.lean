import Mode2.Node.Applet
import Mode2.Proofs.Exchange.Undisturbed
import Mode2.Proofs.Query.Receiver

/-!
# Frames that are staged in answer to frames

Processing a frame either leaves the outgoing frame as it was or completes a new one,
unless it fails. A response that fails half way is left in the queue as far as it got.
A beacon is completed or fails.
-/

namespace Mode2

variable {W α β : Type} {env : Environment W}

namespace Exchange

/-- The outgoing frame is as it was or complete. -/
def Restaged (x y : Exchange W) : Prop :=
  y.network.outbound = x.network.outbound ∨ IsCompleteFrame y.network.outbound.written

/-- The steps restage the outgoing frame or fail with a negative score. -/
def Stages (steps : ExchangeM W Score α) : Prop :=
  ∀ x, Ends steps x (fun _ y => Restaged x y) (fun cause _ => cause < 0)

namespace Stages

theorem pure (value : α) : Stages (pure value : ExchangeM W Score α) :=
  fun _ => .inl rfl

theorem throw {cause : Score} (h : cause < 0) : Stages (throw cause : ExchangeM W Score α) :=
  fun _ => h

theorem get : Stages (get : ExchangeM W Score (Exchange W)) :=
  fun _ => .inl rfl

theorem bind {steps : ExchangeM W Score α} {next : α → ExchangeM W Score β} (h : Stages steps)
    (hnext : ∀ value, Stages (next value)) : Stages (steps >>= next) := by
  intro x
  refine Ends.bind ((h x).imp ?_ fun _ _ hcause => hcause)
  intro value y hxy
  refine (hnext value y).imp ?_ fun _ _ hcause => hcause
  intro _ z hyz
  rcases hyz with hsame | hcomplete
  · rcases hxy with hsame' | hcomplete
    · exact .inl (hsame.trans hsame')
    · exact .inr (hsame ▸ hcomplete)
  · exact .inr hcomplete

theorem ite {c : Prop} [Decidable c] {first second : ExchangeM W Score α} (hfirst : Stages first)
    (hsecond : Stages second) : Stages (if c then first else second) := by
  split
  · exact hfirst
  · exact hsecond

theorem inbound (reader : QueueM α) :
    Stages (ExchangeM.inbound .rejected reader : ExchangeM W Score α) := by
  intro x
  unfold Ends ExchangeM.inbound
  dsimp only [EStateM.run]
  cases reader x.network.inbound with
  | ok value queue => exact .inl rfl
  | error cause queue => exact Int.negSucc_lt_zero 0

theorem modifySession (change : Session → Session) :
    Stages (ExchangeM.modifySession change : ExchangeM W Score Unit) :=
  fun _ => .inl rfl

theorem modifyTransport (change : Transport → Transport) :
    Stages (ExchangeM.modifyTransport change : ExchangeM W Score Unit) :=
  fun _ => .inl rfl

theorem modifyAccess (change : ChannelAccess → ChannelAccess) :
    Stages (ExchangeM.modifyAccess change : ExchangeM W Score Unit) :=
  fun _ => .inl rfl

theorem perform (operation : StateM W α) :
    Stages (ExchangeM.perform operation : ExchangeM W Score α) :=
  fun _ => .inl rfl

theorem rejected : Stages (MonadExcept.throw Score.rejected : ExchangeM W Score α) :=
  throw (Int.negSucc_lt_zero 0)

end Stages

/-! ## Requests -/

theorem stages_readResponseWindow (kind : RequestKind) :
    Stages (readResponseWindow kind : ExchangeM W Score Unit) := by
  refine .bind .get fun x => .bind (.modifyAccess _) fun _ => .bind (.inbound _) fun code => ?_
  refine .bind (.modifyAccess _) fun _ => .ite ?_ (.modifyAccess _)
  exact .bind (.inbound _) fun _ => .ite (.modifyAccess _) (.modifyAccess _)

theorem stages_checkAcks (c : Config) : Stages (checkAcks c : ExchangeM W Score Unit) := by
  refine .bind .get fun x => .bind (.inbound _) fun listed => .ite ?_ (.pure _)
  exact .bind (.modifySession _) fun _ => .rejected

theorem stages_runQuery (user : User) (isSeries : Bool) :
    Stages (runQuery env user isSeries) := by
  refine .bind (.inbound _) fun parts => .bind (.modifyTransport _) fun _ => ?_
  refine .bind (.perform _) fun score => ?_
  dsimp only
  split
  next hscore => exact .bind (.throw hscore) fun _ => .pure _
  · exact .pure _

theorem stages_runQueries (c : Config) (kind : RequestKind) (group : OperationGroup) (user : User) :
    Stages (runQueries env c kind group user) := by
  unfold runQueries
  cases kind with
  | direct => exact .pure _
  | initial => exact .bind (stages_runQuery user _) fun _ => stages_runQuery user _
  | subsequent => exact .bind (stages_checkAcks c) fun _ => stages_runQuery user _

/-! ## Responses -/

theorem ends_beginResponse (c : Config) (x : Exchange W) :
    Ends (beginResponse c) x (fun _ y => y.network.outbound.IsOpen) (fun cause _ => cause < 0) := by
  unfold Ends beginResponse
  dsimp only [EStateM.run]
  cases hstage : x.network.stageHeader c x.session .unicast
      (x.transport.command.has Command.nackBit) with
  | error cause => exact Int.negSucc_lt_zero 0
  | ok staged =>
      have hopen := NetworkLayer.isOpen_stageHeader (t := staged.1) (m := staged.2) hstage
      dsimp only [FrameQueue.push]
      cases hpush : staged.2.outbound.append
          [Command.responseCode ||| x.transport.command.operation] with
      | error cause => exact Int.negSucc_lt_zero 0
      | ok outbound => exact hopen.append hpush

theorem ends_appendBody {body : ResponseBody W}
    (hbody : ∀ queue w, queue.IsOpen → (body queue w).1.2.IsOpen) {x : Exchange W}
    (hopen : x.network.outbound.IsOpen) :
    Ends (appendBody body) x (fun _ y => y.network.outbound.IsOpen)
      (fun cause _ => cause < 0) := by
  have hextended := hbody x.network.outbound x.world hopen
  unfold Ends appendBody
  dsimp only [EStateM.run]
  rcases hresult : body x.network.outbound x.world with ⟨⟨score, outbound⟩, world⟩
  rw [hresult] at hextended
  dsimp only
  by_cases hscore : score < 0
  · rw [if_pos hscore]
    exact hscore
  · rw [if_neg hscore]
    exact hextended

theorem ends_endResponse {x : Exchange W} (hopen : x.network.outbound.IsOpen) :
    Ends (endResponse env) x (fun _ y => IsCompleteFrame y.network.outbound.written)
      (fun cause _ => cause < 0) := by
  unfold Ends endResponse
  dsimp only [EStateM.run]
  rcases hresult : x.network.complete env.cipher x.world with ⟨⟨outcome, network⟩, world⟩
  cases outcome with
  | error cause => exact Int.negSucc_lt_zero 0
  | ok _ => exact NetworkLayer.isCompleteFrame_complete hopen hresult

theorem stages_respond (c : Config) {body : ResponseBody W}
    (hbody : ∀ queue w, queue.IsOpen → (body queue w).1.2.IsOpen) :
    Stages (respond env c body) := by
  refine .bind .get fun x => .ite (.modifySession _) ?_
  intro x
  refine Ends.bind ((ends_beginResponse c x).imp ?_ fun _ _ hcause => hcause)
  intro _ y hy
  refine Ends.bind ((ends_appendBody hbody hy).imp ?_ fun _ _ hcause => hcause)
  intro _ z hz
  exact (ends_endResponse hz).imp (fun _ _ hcomplete => .inr hcomplete) fun _ _ hcause => hcause

theorem stages_respond_none (c : Config) : Stages (respond env c .none) :=
  stages_respond c fun _ _ hopen => hopen

theorem stages_carryOut (c : Config) (group : OperationGroup) (user : User) :
    Stages (carryOut env c group user) := by
  have hcall : Stages (replyToCall env c user) := by
    refine .bind .get fun x => .bind (.inbound _) fun call => ?_
    exact stages_respond c fun queue w hopen => env.isOpen_answer user call w hopen
  unfold carryOut
  cases group with
  | announcement => exact hcall
  | fileCollection => exact hcall
  | seriesCollection => exact hcall
  | datagram =>
      refine .bind (.inbound _) fun ports => .bind .get fun x => ?_
      dsimp only
      split
      · exact .rejected
      · exact .bind (.perform _) fun taken => .ite (stages_respond_none c) .rejected
  | datastream =>
      refine .bind (.modifySession _) fun _ => .bind (.modifyTransport _) fun _ => ?_
      exact stages_respond_none c
  | reserved => exact .rejected

theorem stages_handleRequest (c : Config) (kind : RequestKind) :
    Stages (handleRequest env c kind) := by
  refine .bind .get fun x => ?_
  dsimp only
  refine .ite (.bind .rejected fun _ => ?_) ?_
  -- The check before has two ends, but the steps after it are the same.
  all_goals
    refine .bind (stages_readResponseWindow kind) fun _ => ?_
    refine .bind (stages_runQueries c kind _ _) fun score => ?_
    exact .bind (stages_carryOut c _ _) fun _ => .pure _

theorem stages_handleData (c : Config) : Stages (handleData env c) := by
  refine .bind (.modifyTransport _) fun _ => .bind (.inbound _) fun command => ?_
  refine .bind (.modifyTransport _) fun _ => ?_
  split
  · intro x
    unfold Ends acceptResponse
    dsimp only [EStateM.run]
    by_cases hwaits : x.session.netState.substate = .responseRx
    · rw [if_pos hwaits]
      exact .inl rfl
    · rw [if_neg hwaits]
      exact .inl rfl
  · exact stages_handleRequest c _
  · exact .rejected
  · exact .rejected

/-- Accepted data has been processed to the end. -/
theorem accepted_of_ends {c : Config} {x : Exchange W} {good : Score → Exchange W → Prop}
    {bad : Score → Exchange W → Prop} (h : Ends (handleData env c) x good bad)
    (hscore : 0 ≤ (x.dispatch env c).1) : good (x.dispatch env c).1 (x.dispatch env c).2 := by
  have hends : Ends (handleData env c) x (fun score y => 0 ≤ score → good score y)
      fun cause y => 0 ≤ cause → good cause y :=
    (h.and (stages_handleData c x)).imp (fun _ _ hy _ => hy.1)
      fun _ _ hy hcause => absurd hy.2 (Int.not_lt.mpr hcause)
  exact ExchangeM.score_of_ends hends hscore

/-! ## Whole frames -/

/-- A frame that is not dropped has been answered completely or not at all. -/
theorem restaged_receive (env : Environment W) (c : Config) (x : Exchange W)
    (hscore : 0 ≤ (x.receive env c).1) : Restaged x (x.receive env c).2 := by
  have hread := undisturbed_read env.onlyRadio_unit c x
  unfold receive at hscore ⊢
  split
  next heq =>
    rw [heq] at hscore
    exact absurd hscore (Int.not_le.mpr (Int.negSucc_lt_zero 0))
  next y heq =>
    rw [heq] at hscore
    have hsame := (hread.of_ok heq).outbound
    exact (accepted_of_ends (stages_handleData c y) hscore).imp_left (·.trans hsame)
  next y heq =>
    have hsame := (hread.of_ok heq).outbound
    unfold continueDatastream
    split
    · split <;> exact .inl hsame
    · exact .inl hsame
  next y heq =>
    have hsame := (hread.of_ok heq).outbound
    unfold forward
    split <;> exact .inl hsame

/-! ## Beacons -/

theorem ends_beginBroadcast (c : Config) (x : Exchange W) :
    Ends (beginBroadcast c) x (fun _ y => y.network.outbound.IsOpen) (fun _ _ => True) := by
  unfold Ends beginBroadcast
  dsimp only [EStateM.run]
  cases hstage : x.network.stageHeader c x.session .broadcast false with
  | error cause => trivial
  | ok staged => exact NetworkLayer.isOpen_stageHeader (t := staged.1) (m := staged.2) hstage

/-- Appending leaves an open frame open, also when it does not fit. -/
theorem staysOpen_queueAppend (bytes : List UInt8) :
    Moves (Preserves FrameQueue.IsOpen) (QueueM.append bytes) := by
  intro q
  unfold Ends QueueM.append QueueM.change
  dsimp only [EStateM.run]
  cases happend : q.append bytes with
  | error cause => exact id
  | ok queue => exact fun hopen => hopen.append happend

theorem staysOpen_beaconRequest (c : Config) :
    Moves (Preserves FrameQueue.IsOpen) (beaconRequest c) := by
  have hR := preserves_composes FrameQueue.IsOpen
  refine .bind hR ?_ fun _ => staysOpen_queueAppend _
  refine .bind hR (staysOpen_queueAppend _) fun _ => ?_
  exact .bind hR (staysOpen_queueAppend _) fun _ => staysOpen_queueAppend _

theorem ends_appendRequest (c : Config) {x : Exchange W} (hopen : x.network.outbound.IsOpen) :
    Ends (appendOutbound (beaconRequest c)) x (fun _ y => y.network.outbound.IsOpen)
      (fun _ _ => True) := by
  have hrequest := staysOpen_beaconRequest c x.network.outbound
  unfold Ends appendOutbound
  dsimp only [EStateM.run]
  cases hresult : beaconRequest c x.network.outbound with
  | ok value queue => exact hrequest.of_ok hresult hopen
  | error cause queue => trivial

theorem ends_appendAnnouncement (c : Config) {x : Exchange W} (hopen : x.network.outbound.IsOpen) :
    Ends (appendAnnouncement env c) x (fun _ y => y.network.outbound.IsOpen)
      (fun _ _ => True) := by
  have hextended := env.isOpen_answer .guest (Call.ofFile c.beacon.file c.beacon.maxBytes)
    x.world hopen
  unfold Ends appendAnnouncement
  dsimp only [EStateM.run]
  rcases hresult : env.answer .guest (Call.ofFile c.beacon.file c.beacon.maxBytes)
    x.network.outbound x.world with ⟨⟨score, outbound⟩, world⟩
  rw [hresult] at hextended
  dsimp only
  by_cases hfile : score = .fileError
  · rw [if_pos hfile]
    trivial
  · rw [if_neg hfile]
    by_cases hscore : score < 0
    · rw [if_pos hscore]
      trivial
    · rw [if_neg hscore]
      exact hextended

theorem ends_completeFrame {x : Exchange W} (hopen : x.network.outbound.IsOpen) :
    Ends (completeFrame env) x (fun _ y => IsCompleteFrame y.network.outbound.written)
      (fun _ _ => True) := by
  unfold Ends completeFrame
  dsimp only [EStateM.run]
  rcases hresult : x.network.complete env.cipher x.world with ⟨⟨outcome, network⟩, world⟩
  cases outcome with
  | error cause => trivial
  | ok _ => exact NetworkLayer.isCompleteFrame_complete hopen hresult

theorem ends_stageBeacon (c : Config) (x : Exchange W) :
    Ends (stageBeacon env c) x (fun _ y => IsCompleteFrame y.network.outbound.written)
      (fun _ _ => True) := by
  refine Ends.bind ((ends_beginBroadcast c x).imp ?_ fun _ _ _ => trivial)
  intro _ y hy
  refine Ends.bind ((ends_appendRequest c hy).imp ?_ fun _ _ _ => trivial)
  intro _ z hz
  refine Ends.bind ((ends_appendAnnouncement c hz).imp ?_ fun _ _ _ => trivial)
  intro _ k hk
  exact ends_completeFrame hk

end Exchange

end Mode2
