import Mode2.Proofs.Exchange.Responding
import Mode2.Proofs.Node.Arrivals
import Mode2.Proofs.Node.Reactions
import Mode2.Proofs.Node.StagedFrames
import Mode2.Proofs.Node.TopDialog

/-!
# Dialogs that wait for responses

Whoever has sent a request waits for responses, and a response is taken only by a dialog
that waits for one. Requests are not held against the direction of the dialog: one that
fits the dialog is answered also by a dialog that waits for responses, which then sends in
place of waiting on.
-/

namespace Mode2

variable {W : Type} {env : Environment W} {calls : W → List RadioCall}

/-- The radio is asked for the use of a channel. -/
def RadioCall.SeeksChannel : RadioCall → Prop
  | .assess .. | .transmit .. => True
  | .listen .. | .idle => False

/-- From one world to the other the radio has not been asked for the use of a channel. -/
def LeavesChannels (calls : W → List RadioCall) (w w' : W) : Prop :=
  ∃ new, calls w' = new ++ calls w ∧ ∀ call ∈ new, ¬call.SeeksChannel

/-- From one world to the other the radio has been asked for the use of a channel. -/
def UsesChannels (calls : W → List RadioCall) (w w' : W) : Prop :=
  ∃ new, calls w' = new ++ calls w ∧ ∃ call ∈ new, call.SeeksChannel

theorem LeavesChannels.not_uses {w w' : W} (h : LeavesChannels calls w w') :
    ¬UsesChannels calls w w' := by
  obtain ⟨new, hcalls, hnone⟩ := h
  rintro ⟨new', hcalls', call, hmem, hseeks⟩
  obtain rfl : new = new' := List.append_cancel_right (hcalls.symm.trans hcalls')
  exact hnone call hmem hseeks

namespace Node

variable {n m k : Node W} {s t : Session} {frame : List UInt8}

/-- The dialog on top of `n` has ended, or it waits for further responses; and the radio
has not been asked for the use of a channel. -/
structure KeepsWaiting (calls : W → List RadioCall) (n m : Node W) : Prop where
  dialog : m.phase = .idle ∧ m.sessions = n.sessions.pop ∨
    m.phase = .listening ∧
      ∃ t, m.sessions = n.sessions.setTop t ∧ t.netState.substate = .responseRx
  silent : LeavesChannels calls n.world m.world

/-- The frame is taken for a request to this device, and the response to it is staged. -/
def AnswersRequest (env : Environment W) (frame : List UInt8) (s : Session) (n : Node W) : Prop :=
  ∃ inbound, FrameQueue.load frame = .ok inbound ∧
    (∃ x, (HeaderM.read env n.config).run (n.arrival inbound s) = .ok .local x ∧
      x.HoldsRequest) ∧
    let result := (n.arrival inbound s).receive env n.config
    0 ≤ result.1 ∧ result.2.session.netState.scrapped = false ∧
      result.2.session.netState.substate = .responseTx

/-! ## Frames that are not answered -/

theorem keepsWaiting_endSession (h : env.Records calls) (hsessions : k.sessions = n.sessions)
    (hcalls : calls k.world = calls n.world) : KeepsWaiting calls n (k.endSession env) where
  dialog := .inl ⟨rfl, congrArg SessionStack.pop hsessions⟩
  silent := ⟨[.idle], (h.idle k.world).trans (congrArg _ hcalls), by simp [RadioCall.SeeksChannel]⟩

theorem keepsWaiting_listen (h : env.Records calls) (hsessions : k.sessions = n.sessions)
    (hcalls : calls k.world = calls n.world) (hwaits : t.netState.substate = .responseRx)
    (channel : UInt8) (timeout : Ticks) :
    KeepsWaiting calls n ((k.storeTop t).listen env channel timeout) := by
  have hasks := h.listen channel timeout (k.storeTop t).world
  rw [show calls (k.storeTop t).world = calls n.world from hcalls] at hasks
  cases hradio : (env.radio.listen channel timeout (k.storeTop t).world).1 with
  | ok accepted =>
      rw [hradio] at hasks
      rw [listen_of_accepted hradio]
      refine ⟨.inr ⟨rfl, t, congrArg (SessionStack.setTop · t) hsessions, hwaits⟩, ?_⟩
      exact ⟨[.listen channel timeout true], hasks, by simp [RadioCall.SeeksChannel]⟩
  | error cause =>
      rw [hradio] at hasks
      rw [listen_of_refused hradio]
      refine ⟨.inl ⟨rfl, ?_⟩, [.idle, .listen channel timeout false], ?_, ?_⟩
      · exact (SessionStack.pop_setTop _ _).trans (congrArg SessionStack.pop hsessions)
      · exact (h.idle _).trans (congrArg _ hasks)
      · simp [RadioCall.SeeksChannel]

/-- A dialog that still waits for responses listens on or ends. -/
theorem keepsWaiting_proceed (h : env.Records calls) (hsessions : k.sessions = n.sessions)
    (hcalls : calls k.world = calls n.world) (hwaits : t.netState.substate = .responseRx) :
    KeepsWaiting calls n (k.proceed env t) := by
  unfold proceed
  rw [hwaits]
  dsimp only
  split
  · exact keepsWaiting_endSession h hsessions hcalls
  · apply keepsWaiting_listen h hsessions hcalls
    exact hwaits

/-! ## Frames that are answered -/

/-- An attempt begins with asking for the use of a channel. -/
theorem usesChannels_attempt (h : env.Records calls) (hdialog : n.sessions.sessions ≠ [])
    (hframe : n.network.outbound.isEmpty = false)
    (hchannel : n.access.txChannel?.isSome = true) :
    UsesChannels calls n.world (n.attempt env).world := by
  obtain ⟨channel, hsome⟩ := Option.isSome_iff_exists.mp hchannel
  have hfirst : ∀ {call : RadioCall} {m : Node W}, call.SeeksChannel →
      Conduct calls (call :: calls n.world) m → UsesChannels calls n.world m.world := by
    rintro call m hseeks ⟨-, -, new, hcalls, -⟩
    exact ⟨new ++ [call], by simp [hcalls], call, by simp, hseeks⟩
  unfold attempt
  rw [hsome]
  dsimp only
  split
  · obtain ⟨accepted, hsent⟩ := conduct_send h hdialog hframe channel
    exact hfirst (by trivial) hsent
  · have hcalls := h.assess channel n.world
    split
    next world heq =>
      rw [heq] at hcalls
      exact ⟨[_], hcalls, _, List.mem_singleton.mpr rfl, by trivial⟩
    next cause world heq =>
      rw [heq] at hcalls
      have hyield := conduct_yieldChannel (n := { n with world }) h hdialog hframe
      rw [hcalls] at hyield
      exact hfirst (by trivial) hyield

/-- Whoever has a frame to send is going to transmit it, or has tried to. -/
theorem transmits_or_usesChannels (h : env.Records calls) (hdialog : n.sessions.sessions ≠ [])
    (hframe : n.network.outbound.isEmpty = false) (s : Session) :
    (n.beginSending env s).phase.IsTransmitting ∨
      UsesChannels calls n.world (n.beginSending env s).world := by
  rw [beginSending_eq, if_neg (by simp [hframe])]
  cases hdue : (n.begun env s).isDue with
  | false =>
      rw [settle_of_not_due hdue]
      exact .inl (.inl rfl)
  | true =>
      have hcalls : calls (n.begun env s).world = calls n.world :=
        ChannelAccess.view_beginSequence h.random _ _ n.world
      obtain ⟨new, hnew, hseeks⟩ := usesChannels_attempt (n := n.begun env s) h hdialog hframe
        (isSome_txChannel?_begun env s n)
      have hattempt := conduct_attempt (n := n.begun env s) h hdialog hframe
      obtain ⟨-, -, later, hlater, -⟩ :=
        conduct_settle h (.of_agrees hattempt.attended hattempt.agrees rfl)
      rw [settle_of_due hdue]
      refine .inr ⟨later ++ new, ?_, ?_⟩
      · rw [hlater, hnew, hcalls, List.append_assoc]
      · obtain ⟨call, hmem, hcall⟩ := hseeks
        exact ⟨call, List.mem_append_right later hmem, hcall⟩

theorem not_keepsWaiting_of_transmits (hphase : m.phase.IsTransmitting) :
    ¬KeepsWaiting calls n m := by
  intro hkeeps
  rcases hkeeps.dialog with ⟨hidle, -⟩ | ⟨hlistens, -⟩
  · exact hphase.ne_idle hidle
  · exact hphase.ne_listening hlistens

/-- A dialog that responds does not wait on. -/
theorem not_keepsWaiting_proceed (h : env.Records calls) (hdialog : k.sessions.sessions ≠ [])
    (hcalls : calls k.world = calls n.world) (hframe : k.network.outbound.isEmpty = false)
    (hresponds : t.netState.substate = .responseTx) :
    ¬KeepsWaiting calls n (k.proceed env t) := by
  have heq : k.proceed env t = ((k.storeTop t).responding t).beginSending env t := by
    simp only [proceed, hresponds, beginResponding_eq]
  have hnetwork : ((k.storeTop t).responding t).network = k.network := network_responding t _
  have hworld : ((k.storeTop t).responding t).world = k.world := world_responding t _
  have hready : ((k.storeTop t).responding t).sessions.sessions ≠ [] :=
    sessions_responding_ne_nil t (SessionStack.setTop_ne_nil hdialog t)
  rw [heq]
  rcases transmits_or_usesChannels h hready (hnetwork ▸ hframe) t with hphase | huses
  · exact not_keepsWaiting_of_transmits hphase
  · intro hkeeps
    apply hkeeps.silent.not_uses
    unfold UsesChannels at huses ⊢
    rw [hworld, hcalls] at huses
    exact huses

/-! ## Exactly the requests that are answered -/

theorem not_keepsWaiting_of_answersRequest (h : env.Records calls) (htop : n.sessions.top? = some s)
    (hwaits : s.netState.substate = .responseRx) (hanswers : n.AnswersRequest env frame s) :
    ¬KeepsWaiting calls n (n.process env frame s) := by
  obtain ⟨inbound, hload, -, hscore, hkept, hresponds⟩ := hanswers
  have hunanswered : (n.arrival inbound s).Unanswered s.slot :=
    ⟨rfl, by rw [show (n.arrival inbound s).session = s from rfl, hwaits]; decide⟩
  obtain ⟨z, body, -, hresponse⟩ :=
    Exchange.exists_responds_of_unanswered env n.config hunanswered hscore hresponds
  have hcalls := (Exchange.kept_receive h.toOnlyRadio n.config (n.arrival inbound s)).view
  obtain ⟨rest, hsessions⟩ := SessionStack.exists_of_top? htop
  rw [process_of_load hload]
  dsimp only
  rw [if_neg (by simp [hkept, Int.not_lt.mpr hscore])]
  apply not_keepsWaiting_proceed h _ hcalls
    (FrameQueue.isEmpty_of_complete hresponse.isCompleteFrame) hresponds
  simp [resume, hsessions]

theorem keepsWaiting_of_not_answersRequest (h : env.Records calls)
    (hwaits : s.netState.substate = .responseRx) (hanswers : ¬n.AnswersRequest env frame s) :
    KeepsWaiting calls n (n.process env frame s) := by
  cases hload : FrameQueue.load frame with
  | error cause =>
      rw [process_of_oversized hload]
      exact keepsWaiting_endSession h rfl rfl
  | ok inbound =>
      have hunanswered : (n.arrival inbound s).Unanswered s.slot :=
        ⟨rfl, by rw [show (n.arrival inbound s).session = s from rfl, hwaits]; decide⟩
      have hcalls := (Exchange.kept_receive h.toOnlyRadio n.config (n.arrival inbound s)).view
      have hturn := Exchange.mayFollow_receive env n.config (n.arrival inbound s)
      have hrequest := Exchange.exists_request_of_unanswered env n.config hunanswered
      rw [process_of_load hload]
      dsimp only
      split
      · exact keepsWaiting_endSession h rfl hcalls
      next hgoes =>
        obtain ⟨hscore, hkept⟩ := not_or.mp hgoes
        refine keepsWaiting_proceed h rfl hcalls ?_
        refine (hturn.resolve_right fun hresponds => hanswers ?_).trans hwaits
        exact ⟨inbound, hload, hrequest (Int.not_lt.mp hscore) hresponds, Int.not_lt.mp hscore,
          by simpa using hkept, hresponds⟩

/-- A dialog that waits for responses ends or waits on after a frame, and asks for no
channel, exactly when the frame is no request that it answers. -/
theorem keepsWaiting_iff {env : Environment W} {custom : CustomApplets (Recorded W)}
    {n : Node (Recorded W)} {s : Session} (hphase : n.phase = .listening)
    (htop : n.sessions.top? = some s) (hwaits : s.netState.substate = .responseRx)
    (frame : List UInt8) :
    KeepsWaiting Recorded.calls n
        (n.step env.recorded custom (.event (.received frame true))) ↔
      ¬n.AnswersRequest env.recorded frame s := by
  have hstep : n.step env.recorded custom (.event (.received frame true)) =
      n.process env.recorded frame s := onFrame_of_listening hphase htop frame
  rw [hstep]
  constructor
  · intro hkeeps hanswers
    exact not_keepsWaiting_of_answersRequest env.records_recorded htop hwaits hanswers hkeeps
  · exact keepsWaiting_of_not_answersRequest env.records_recorded hwaits

/-- Applets that stage a frame of one byte and ask for a window for responses. -/
def askingApplets : CustomApplets W := fun _ s n =>
  (s, { n with
    access := { n.access with rxTimeout := 100 }
    network.outbound := ⟨[], [0], queueCapacity, Nat.le_of_ble_eq_true rfl, Nat.le_refl _⟩ })

/-- A request to begin a datastream. -/
def streamRequest : List UInt8 :=
  [0x0C, 0x00, 0xF0, 0x12, 0x05, 0xAA, 0xBB, 0x28, 0x00, 0x00, 0x00, 0x00]

/-- A dialog that waits for responses answers the request of another device, and assesses
the channel for it. -/
theorem keepsWaiting_iff_request :
    ∃ (n : Node (Recorded Unit)) (s : Session),
      Reaches askingApplets (fun env _ => ∃ plain : Environment Unit, env = plain.recorded)
        (start .default ⟨(), []⟩) n ∧
      n.phase = .listening ∧ n.sessions.top? = some s ∧ s.netState.substate = .responseRx ∧
      n.AnswersRequest Environment.obliging.recorded streamRequest s ∧
      ¬KeepsWaiting Recorded.calls n
        (n.step Environment.obliging.recorded askingApplets
          (.event (.received streamRequest true))) := by
  let env : Environment (Recorded Unit) := Environment.obliging.recorded
  let n : Node (Recorded Unit) := ((((start .default ⟨(), []⟩).step env askingApplets
    (.schedule (some (.custom 0)) 0 0xF0 0x10 { substate := .requestTx })).step env askingApplets
      (.run 0)).step env askingApplets (.event (.assessed true))).step env askingApplets
        (.event (.sent true))
  let s : Session :=
    { counter := 0, channel := 0x10, netState := { substate := .responseRx }, flags := .none,
      dialogId := 0, subnet := 0xF0, extra := 0, applet := none }
  have hrun : Reaches askingApplets
      (fun env _ => ∃ plain : Environment Unit, env = plain.recorded) (start .default ⟨(), []⟩) n :=
    .step (.step (.step (.step .refl ⟨_, rfl⟩) ⟨_, rfl⟩) ⟨_, rfl⟩) ⟨_, rfl⟩
  have hphase : n.phase = .listening := by decide +kernel
  have htop : n.sessions.top? = some s := by decide +kernel
  have hassesses :
      (n.step env askingApplets (.event (.received streamRequest true))).phase = .assessing := by
    decide +kernel
  have hstops : ¬KeepsWaiting Recorded.calls n
      (n.step env askingApplets (.event (.received streamRequest true))) :=
    not_keepsWaiting_of_transmits (.inr (.inl hassesses))
  have hiff : KeepsWaiting Recorded.calls n
      (n.step env askingApplets (.event (.received streamRequest true))) ↔ _ :=
    keepsWaiting_iff hphase htop rfl streamRequest
  exact ⟨n, s, hrun, hphase, htop, rfl, not_not.mp fun hno => hstops (hiff.mpr hno), hstops⟩

end Node

end Mode2
