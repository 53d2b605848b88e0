import Mode2.Proofs.Exchange.Heard
import Mode2.Proofs.Exchange.Staged

/-!
# Frames after which a dialog waits on

A request that is carried out is answered or ends the dialog. A dialog that waits for
responses and goes on waiting has therefore taken a frame that leaves it as its header has
settled it; and a device is remembered only as the sender of a response.
-/

namespace Mode2.Exchange

variable {W : Type} {env : Environment W} {x : Exchange W}

/-! ## Requests end the waiting -/

/-- It is the dialog's turn to respond, or its removal has been requested. -/
def StopsWaiting (x : Exchange W) : Prop :=
  x.session.netState.substate = .responseTx ∨ x.session.netState.scrapped = true

theorem ends_respond_stops (c : Config) (body : ResponseBody W) :
    Ends (respond env c body) x (fun _ y => y.StopsWaiting) fun _ _ => True := by
  refine Ends.bind (Ends.get ?_)
  split
  · exact .inr rfl
  refine Ends.bind_of_run fun _ y _ => Ends.bind_of_run fun _ z _ => ?_
  unfold Ends endResponse
  dsimp only [EStateM.run]
  rcases z.network.complete env.cipher z.world with ⟨⟨cause | _, network⟩, world⟩
  · trivial
  · exact .inl rfl

theorem ends_carryOut_stops (c : Config) (group : OperationGroup) (user : User) :
    Ends (carryOut env c group user) x (fun _ y => y.StopsWaiting) fun _ _ => True := by
  have hcall : Ends (replyToCall env c user) x (fun _ y => y.StopsWaiting) fun _ _ => True :=
    Ends.bind (Ends.get (Ends.bind_of_run fun _ _ _ => ends_respond_stops c _))
  cases group with
  | announcement | fileCollection | seriesCollection => exact hcall
  | datagram =>
      refine Ends.bind_of_run fun ports y _ => Ends.bind (Ends.get ?_)
      dsimp only
      split
      · exact Ends.throw trivial
      · refine Ends.bind (ExchangeM.ends_perform ?_)
        split
        · exact ends_respond_stops c _
        · exact Ends.throw trivial
  | datastream =>
      refine Ends.bind (ExchangeM.ends_modifySession ?_)
      exact Ends.bind (ExchangeM.ends_modifyTransport (ends_respond_stops c _))
  | reserved => exact Ends.throw trivial

theorem ends_handleRequest_stops (c : Config) (kind : RequestKind) :
    Ends (handleRequest env c kind) x (fun _ y => y.StopsWaiting) fun _ _ => True := by
  refine Ends.bind (Ends.get ?_)
  dsimp only
  split
  · exact Ends.bind (Ends.throw trivial)
  refine Ends.bind_of_run fun _ y _ => Ends.bind_of_run fun score z _ => ?_
  refine Ends.bind ((ends_carryOut_stops c _ _).imp ?_ fun _ _ h => h)
  exact fun _ _ hstops => Ends.pure hstops

/-! ## Frames that are accepted -/

/-- The devices that are remembered are the same, or the sender of the frame has been
recorded among them. -/
def Records (x y : Exchange W) : Prop :=
  y.transport.acks = x.transport.acks ∨
    y.transport.acks = x.transport.acks.record y.network.peer

theorem ends_handleData_waits (c : Config) :
    Ends (handleData env c) x
      (fun _ y => y.session = x.session ∧ y.access = x.access ∧ x.Records y ∨ y.StopsWaiting)
      fun _ _ => True := by
  refine Ends.bind (ExchangeM.ends_modifyTransport ?_)
  refine Ends.bind_of_run fun command y hrun => ?_
  obtain ⟨queue, -, rfl⟩ := ExchangeM.exists_of_inbound hrun
  refine Ends.bind (ExchangeM.ends_modifyTransport ?_)
  split
  · unfold Ends acceptResponse
    dsimp only [EStateM.run]
    split
    · exact .inl ⟨rfl, rfl, .inr rfl⟩
    · exact .inl ⟨rfl, rfl, .inl rfl⟩
  · exact (ends_handleRequest_stops c _).imp (fun _ _ => .inr) fun _ _ h => h
  · exact Ends.throw trivial
  · exact Ends.throw trivial

/-- Reading a header leaves the access to channels. -/
theorem readsHeader_access (env : Environment W) :
    ReadsHeader env fun x y => y.access = x.access where
  refl _ := rfl
  trans h h' := h'.trans h
  inbound _ _ := rfl
  header _ _ _ _ := rfl
  dialog _ _ _ _ _ := rfl
  decrypt _ _ _ _ _ := rfl

/-- Whoever keeps waiting after a frame has only entered the dialog of its header, and has
recorded at most the sender of the frame. The access to channels is as it was: only requests
set a window for their responses. -/
theorem exists_enters_of_waits (env : Environment W) (c : Config)
    (hscore : 0 ≤ (x.receive env c).1) (hwaits : ¬(x.receive env c).2.StopsWaiting) :
    ∃ id, carriedDialog? x.network.inbound.written = some id ∧
      x.Enters id (x.receive env c).2 ∧ x.Records (x.receive env c).2 ∧
      (x.receive env c).2.access = x.access := by
  have hread := HeaderM.ends_read_enters (x := x) env c
  have hsame := (readsHeader_awaiting env).moves_read c x
  have hunasked := (readsHeader_access env).moves_read c x
  unfold receive at hscore hwaits ⊢
  cases hrun : (HeaderM.read env c).run x with
  | error cause y =>
      rw [hrun] at hscore
      exact absurd hscore (Int.not_le.mpr (Int.negSucc_lt_zero 0))
  | ok destination y =>
      obtain ⟨⟨id, hid, henters⟩, -⟩ := hread.of_ok hrun
      obtain ⟨htransport, -⟩ := hsame.of_ok hrun
      have haccess : y.access = x.access := hunasked.of_ok hrun
      rw [hrun] at hscore hwaits
      refine ⟨id, hid, ?_⟩
      have hkept : ∀ z : Exchange W, z.session = y.session → z.transport.acks = y.transport.acks →
          z.access = y.access → x.Enters id z ∧ x.Records z ∧ z.access = x.access :=
        fun z hsession hacks hz => ⟨henters.congr rfl hsession,
          .inl (hacks.trans (congrArg Transport.acks htransport)), hz.trans haccess⟩
      cases destination with
      | «local» =>
          obtain ⟨hsession, hz, hrecords⟩ :=
            (accepted_of_ends (ends_handleData_waits c) hscore).resolve_right hwaits
          refine ⟨henters.congr rfl hsession, ?_, hz.trans haccess⟩
          unfold Records at hrecords ⊢
          rw [← htransport]
          exact hrecords
      | datastream =>
          dsimp only [continueDatastream]
          split
          · split <;> exact hkept _ rfl rfl rfl
          · exact hkept _ rfl rfl rfl
      | forward =>
          dsimp only [forward]
          split <;> exact hkept _ rfl rfl rfl

end Mode2.Exchange
