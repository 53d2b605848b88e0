import Mode2.Proofs.Exchange.Heard
import Mode2.Proofs.Exchange.RoundTrip

/-!
# Joining a dialog

Whoever accepts a frame that has been sent is from then on in the dialog of its sender:
under the same dialog ID, with the same kind of IDs and the same security, and with the
sender as its peer. Preparing the answer to a request changes none of that.
-/

namespace Mode2

variable {W V : Type}

/-- The dialog is that in which a device with configuration `c` has sent a frame, when its
dialog was `t`. -/
structure Exchange.Joined (c : Config) (t : Session) (x : Exchange V) : Prop where
  dialogId : x.session.dialogId = t.dialogId
  connected : x.session.netState.connected = true
  virtualIds : x.session.flags.virtualIds = t.flags.virtualIds
  secured : x.session.flags.isSecured = t.flags.isSecured
  route : x.session.flags.route = false
  peer : x.network.peer = c.localId t.flags.virtualIds

namespace HeaderM

open ExchangeM (ends_modifySession ends_modifyNetwork)

variable {x : Exchange V}

/-- A frame is unsealed, or dropped for want of a cipher. -/
theorem ends_unseal_or_drop {good : Option UInt8 → Exchange V → Prop} {env : Environment V}
    {n : NetworkLayer} {cipher : Option (Cipher W)} {w : W} {body rest : List UInt8}
    {secured : Bool} {key : UInt8} {start : Nat} (hseals : n.Seals cipher w body rest)
    (hsecured : n.secured = if secured then some ⟨key, start⟩ else none)
    (hcipher : ∀ enc ∈ cipher, ∀ dec ∈ env.cipher, enc.IsInvertedBy dec)
    (h : x.network.inbound.unread = (if secured then [key] else []) ++ rest)
    (hgood : ∀ (queue : FrameQueue) (v : V), queue.unread = body →
      good (if secured then some key else none) { x with network.inbound := queue, world := v }) :
    Ends (optional secured (decryptRest env)) x good fun _ _ => True := by
  cases hdec : env.cipher with
  | some dec =>
      exact ends_unseal hseals hsecured (fun _ enc henc => ⟨dec, hdec, hcipher enc henc dec hdec⟩)
        h hgood
  | none =>
      cases secured with
      | false => exact ends_unseal hseals hsecured (fun hfalse => nomatch hfalse) h hgood
      | true =>
          refine Ends.bind (Ends.bind_of_run fun _ _ _ => ?_)
          rw [hdec]
          exact Ends.throw trivial

theorem ends_readAddressed_joined {c c' : Config} {env : Environment V} {n headed : NetworkLayer}
    {s : Session} {addressing : Addressing} {nack : Bool} {payload rest : List UInt8}
    {cipher : Option (Cipher W)} {w : W} {start : Nat}
    (hseals : headed.Seals cipher w (n.addressHeader c s addressing ++ payload) rest)
    (hsecured : headed.secured = if s.flags.isSecured then some ⟨c.keyIndex, start⟩ else none)
    (hroute : s.routes c = false)
    (hcipher : ∀ enc ∈ cipher, ∀ dec ∈ env.cipher, enc.IsInvertedBy dec)
    (h : x.network.inbound.unread =
      (if s.extension c nack != 0 then [s.extension c nack] else []) ++ s.dialogId ::
        ((if s.flags.isSecured then [c.keyIndex] else []) ++ rest)) :
    Ends (readAddressed env c' s.subnet (s.frameInfo c addressing nack)) x
      (fun destination y => destination = .local ∧ y.Joined c s) fun _ _ => True := by
  -- What is left once the sender is known: nothing of the dialog changes any more.
  have htail : ∀ (y : Exchange V) keyIndex, y.Joined c s →
      Ends (readRoute c'
          { subnet := s.subnet
            info := s.frameInfo c addressing nack
            extension := s.extension c nack
            dialogId := s.dialogId
            keyIndex }) y
        (fun destination z => destination = .local ∧ z.Joined c s) fun _ _ => True := by
    intro y keyIndex hy
    refine Ends.bind (ends_modifyNetwork ?_)
    dsimp only
    rw [s.routeBit_extension, hroute]
    exact Ends.pure ⟨rfl, { hy with }⟩
  unfold readAddressed
  refine Ends.bind (ends_optional_octet h ?_)
  intro q₁ h₁
  rw [s.getD_extension]
  dsimp only
  split
  · exact Ends.bind (Ends.throw trivial)
  refine Ends.bind (ends_octet h₁ ?_)
  intro q₂ h₂
  refine Ends.bind
    ((ends_followDialog_enters c' s.subnet s.dialogId).imp ?_ fun _ _ _ => trivial)
  rintro _ y ⟨-, henters, hnetwork⟩
  have hconnected : y.session.netState.connected = true := by rw [henters.netState]
  refine Ends.bind (ends_modifySession ?_)
  rw [flagsOf_frameInfo, hroute]
  have h₃ : y.network.inbound.unread =
      (if s.flags.isSecured then [c.keyIndex] else []) ++ rest := by
    rw [hnetwork]
    exact h₂
  refine Ends.bind (ends_unseal_or_drop hseals hsecured hcipher h₃ ?_)
  intro q₄ v h₄
  unfold NetworkLayer.addressHeader at h₄
  simp only [List.append_assoc] at h₄
  refine Ends.bind (ends_deviceId (c.length_localId s.flags.virtualIds) h₄ ?_)
  intro q₅ h₅
  refine Ends.bind (ends_modifyNetwork ?_)
  split
  · refine Ends.bind_of_run fun target z hrun => ?_
    have hreads : ReadsFrame (Preserves (Exchange.Joined (V := V) c s)) :=
      { preserves_composes _ with inbound := fun _ _ h => { h with } }
    have hjoined : z.Joined c s :=
      ((hreads.moves_deviceId _ _).of_ok hrun) ⟨henters.dialogId, hconnected, rfl, rfl, rfl, rfl⟩
    split
    · exact Ends.bind (Ends.throw trivial)
    · exact htail z _ hjoined
  · exact htail _ _ ⟨henters.dialogId, hconnected, rfl, rfl, rfl, rfl⟩

/-- Whoever accepts a frame without a routing block joins the dialog of its sender. -/
theorem ends_read_joined {c c' : Config} {env : Environment V} {n headed sent : NetworkLayer}
    {s t : Session} {addressing : Addressing} {nack : Bool} {payload : List UInt8}
    {queue : FrameQueue} {cipher : Option (Cipher W)} {w w' : W}
    (hheader : n.stageHeader c s addressing nack = .ok (t, headed))
    (hpayload : headed.outbound.append payload = .ok queue)
    (hfooter : ({ headed with outbound := queue } : NetworkLayer).complete cipher w =
      ((.ok (), sent), w'))
    (hroute : s.routes c = false)
    (hcipher : ∀ enc ∈ cipher, ∀ dec ∈ env.cipher, enc.IsInvertedBy dec)
    (h : x.network.inbound.written = sent.outbound.written) :
    Ends (read env c') x (fun destination y => destination = .local ∧ y.Joined c t)
      fun _ _ => True := by
  have hheaded := NetworkLayer.headed_of_stageHeader hheader
  obtain rfl := hheaded.session
  have hsecured := hheaded.secured
  rw [← s.flags_advanceDialog] at hsecured
  refine ends_read_clear hheader hpayload hfooter h fun rest inbound hseals hunread => ?_
  refine ends_readAddressed_joined hseals hsecured ?_ hcipher hunread
  simpa [Session.routes] using hroute

end HeaderM

namespace Exchange

/-- Preparing the answer to a request keeps to the dialog. -/
theorem prepares_joined (env : Environment V) (c : Config) (t : Session) :
    Prepares env (Preserves (Joined (V := V) c t)) where
  toComposes := preserves_composes _
  inbound _ _ h := { h with }
  transport _ _ _ h := { h with }
  access _ _ _ h := { h with }
  listen _ h := { h with }
  query _ _ _ _ h := { h with }

end Exchange

end Mode2
