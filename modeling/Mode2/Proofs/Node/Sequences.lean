import Mode2.Proofs.Exchange.ChannelPosition
import Mode2.Proofs.Node.Appletless
import Mode2.Proofs.Node.ResponseTiming
import Mode2.Proofs.Node.RetryBudget

/-!
# Sequences of attempts

A sequence of attempts begins where a request or a response has been staged. A node that
does not transmit either begins one or goes on without transmitting, and then it keeps its
position in the list of channels or goes back to the first one. Hence whatever other position
it has was left by an earlier sequence that ended there.
-/

namespace Mode2

variable {W : Type} {env : Environment W} {custom : CustomApplets W}

/-- The host's applets leave the position in the list of channels alone, unless they set a
single channel. -/
def CustomApplets.KeepsPosition (custom : CustomApplets W) : Prop :=
  ∀ (id : Nat) (s : Session) (n : Node W),
    n.access.KeepsPosition (custom id s n).2.access

namespace Applet

theorem keepsPosition_beacon (env : Environment W) (s : Session) (n : Node W) :
    n.access.KeepsPosition (runBeacon env s n).2.access := by
  obtain ⟨sessions, -, heq⟩ := scheduleNextBeacon_eq n
  have haccess := (Exchange.carriesOut_access env).moves_stageBeacon n.config
    (({ n with sessions } : Node W).exchange (beaconSession n.config s))
  unfold runBeacon
  rw [heq]
  dsimp only
  split
  · exact .inr rfl
  next hrun => exact .of_eq (haccess.of_error hrun)

/-- Every applet leaves the position alone or goes back to the first one, if those of the
host do. -/
theorem keepsPosition_run (hkeeps : custom.KeepsPosition) (env : Environment W) (applet : Applet)
    (s : Session) (n : Node W) : n.access.KeepsPosition (applet.run env custom s n).2.access := by
  cases applet with
  | idle =>
      simp only [run, runIdle]
      split <;> exact .inl rfl
  | scan => exact .inl rfl
  | beacon => exact keepsPosition_beacon env s n
  | custom id => exact hkeeps id s n

end Applet

theorem Activates.keepsPosition {n k : Node W} {s : Session} {elapsed : Ticks}
    (hkeeps : custom.KeepsPosition) (h : Activates env custom elapsed n s k) :
    n.access.KeepsPosition k.access := by
  obtain ⟨-, t, -, -, hran⟩ := h
  rw [← show (Node.runApplet env custom t _).2 = k from congrArg Prod.snd hran]
  exact Applet.keepsPosition_run hkeeps env _ _ _

namespace Node

variable {n m k : Node W} {s : Session} {input : Input}

/-! ## Where sequences begin -/

/-- With the input a sequence of attempts begins, for the dialog `s` of a node that has come
to be `k`: the applet of a dialog that is due has left a request, or a response to a frame
has been staged. -/
inductive Begins (env : Environment W) (custom : CustomApplets W) (n : Node W) :
    Input → Session → Node W → Prop
  | request {elapsed : Ticks} {s : Session} {k : Node W} :
      Activates env custom elapsed n s k → s.netState.scrapped = false →
      s.netState.substate = .requestTx → k.network.outbound.isEmpty = false →
      Begins env custom n (.run elapsed) s (k.storeTop s)
  | response {s : Session} {frame : List UInt8} :
      n.phase = .listening → n.sessions.top? = some s → s.netState.substate ≠ .responseTx →
      n.AnswersRequest env frame s →
      Begins env custom n (.event (.received frame true)) (n.processed env frame s).session
        ((n.answering env frame s).responding (n.processed env frame s).session)

theorem keepsPosition_responding (s : Session) (n : Node W) :
    n.access.KeepsPosition (n.responding s).access := by
  unfold responding
  dsimp only
  split <;> exact .inl rfl

theorem keepsPosition_answering (env : Environment W) (frame : List UInt8) (s : Session)
    (n : Node W) : n.access.KeepsPosition (n.answering env frame s).access := by
  cases hload : FrameQueue.load frame with
  | error cause =>
      simp only [answering, processed, hload]
      exact .inl rfl
  | ok inbound =>
      simp only [answering, processed, hload]
      exact Exchange.keepsPosition_receive env n.config (n.arrival inbound s)

namespace Begins

/-- The node is then in the first pause of the sequence, or further on if that is over at
once. -/
theorem step_eq (h : Begins env custom n input s k) :
    n.step env custom input = (k.begun env s).settle env := by
  cases h with
  | request hactivates hkept hrequests hframe =>
      rw [hactivates.step_eq, hkept, if_neg Bool.false_ne_true, engage_of_requestTx hrequests,
        beginSending_eq]
      exact if_neg (by simpa [storeTop] using hframe)
  | response hphase htop hwaits hanswers =>
      exact step_of_answersRequest hphase htop hwaits hanswers

theorem not_transmitting (h : Begins env custom n input s k) : ¬n.phase.IsTransmitting := by
  cases h with
  | request hactivates => exact fun hsends => hsends.ne_idle hactivates.idle
  | response hphase => exact fun hsends => hsends.ne_listening hphase

/-- The position in the list of channels is not settled for a sequence until it begins. -/
theorem keepsPosition (hkeeps : custom.KeepsPosition) (h : Begins env custom n input s k) :
    n.access.KeepsPosition k.access := by
  cases h with
  | @request elapsed s k hactivates =>
      have hkept : n.access.KeepsPosition k.access := hactivates.keepsPosition hkeeps
      exact hkept
  | response =>
      exact ChannelAccess.keepsPosition_composes.trans (keepsPosition_answering _ _ _ _)
        (keepsPosition_responding _ _)

/-- There is a frame to send. -/
theorem isEmpty_outbound (h : Begins env custom n input s k) :
    k.network.outbound.isEmpty = false := by
  cases h with
  | request _ _ _ hframe => exact hframe
  | response _ _ hwaits hanswers =>
      rw [network_responding]
      exact isEmpty_of_answersRequest hwaits hanswers

end Begins

/-! ## Where none begins -/

/-- The node does not transmit, and its position in the list of channels is kept. -/
structure KeepsQuiet (n m : Node W) : Prop where
  phase : ¬m.phase.IsTransmitting
  position : n.access.KeepsPosition m.access

theorem KeepsQuiet.after (h : KeepsQuiet k m) (hposition : n.access.KeepsPosition k.access) :
    KeepsQuiet n m where
  phase := h.phase
  position := ChannelAccess.keepsPosition_composes.trans hposition h.position

theorem keepsQuiet_endSession (n : Node W) : KeepsQuiet n (n.endSession env) where
  phase hsends := hsends.ne_idle rfl
  position := .inl rfl

theorem keepsQuiet_listen (env : Environment W) (channel : UInt8) (timeout : Ticks) (n : Node W) :
    KeepsQuiet n (n.listen env channel timeout) := by
  unfold listen
  split
  · exact ⟨fun hsends => hsends.ne_listening rfl, .inl rfl⟩
  · exact ⟨fun hsends => hsends.ne_idle rfl, .inl rfl⟩

theorem keepsQuiet_relisten (s : Session) (n : Node W) : KeepsQuiet n (n.relisten env s) := by
  unfold relisten
  split
  next access _ hspent =>
    have hlistens := keepsQuiet_listen env s.channel n.listenWindow
      (({ n with access } : Node W).storeTop s)
    exact hlistens.after (.of_spendRetry hspent)
  · exact keepsQuiet_endSession n

/-- Whoever has nothing to respond listens on or ends. -/
theorem keepsQuiet_proceed (hsubstate : s.netState.substate ≠ .responseTx) (n : Node W) :
    KeepsQuiet n (n.proceed env s) := by
  have hlistens : ∀ t channel timeout, KeepsQuiet n ((n.storeTop t).listen env channel timeout) :=
    fun t channel timeout => (keepsQuiet_listen env channel timeout (n.storeTop t)).after (.inl rfl)
  unfold proceed
  split
  next hresponds => exact absurd hresponds hsubstate
  · dsimp only
    split
    · exact keepsQuiet_endSession n
    · exact hlistens _ _ _
  · split
    · exact hlistens _ _ _
    · exact keepsQuiet_endSession n
  · exact keepsQuiet_endSession n

/-! ## One or the other -/

/-- After a frame a listening node begins to send its response, or goes on without
transmitting. -/
theorem begins_or_keepsQuiet_received (hphase : n.phase = .listening)
    (htop : n.sessions.top? = some s) (hwaits : s.netState.substate ≠ .responseTx)
    (frame : List UInt8) :
    (∃ t k, Begins env custom n (.event (.received frame true)) t k) ∨
    KeepsQuiet n (n.process env frame s) := by
  cases hload : FrameQueue.load frame with
  | error cause =>
      rw [process_of_oversized hload]
      exact .inr (keepsQuiet_endSession n)
  | ok inbound =>
      have hresult : n.processed env frame s = ((n.arrival inbound s).receive env n.config).2 :=
        processed_of_load hload
      have hkeeps : n.access.KeepsPosition (n.processed env frame s).access :=
        keepsPosition_answering env frame s n
      rw [process_of_load hload]
      dsimp only
      rw [← hresult]
      split
      · exact .inr ((keepsQuiet_endSession _).after hkeeps)
      next hgoes =>
        obtain ⟨hscore, hkept⟩ := not_or.mp hgoes
        by_cases hresponds : (n.processed env frame s).session.netState.substate = .responseTx
        · rw [hresult] at hresponds hkept
          have hanswers : n.AnswersRequest env frame s := answersRequest_of_responds hload hwaits
            (Int.not_lt.mp hscore) (by simpa using hkept) hresponds
          exact .inl ⟨_, _, .response hphase htop hwaits hanswers⟩
        · exact .inr ((keepsQuiet_proceed hresponds _).after hkeeps)

/-- An activated dialog begins to send its request, or goes on without transmitting. -/
theorem begins_or_keepsQuiet_activated (hkeeps : custom.KeepsPosition) {elapsed : Ticks}
    (hactivates : Activates env custom elapsed n s k) :
    (∃ t k, Begins env custom n (.run elapsed) t k) ∨
    KeepsQuiet n (n.step env custom (.run elapsed)) := by
  have hposition := hactivates.keepsPosition hkeeps
  have hstored : ∀ m, KeepsQuiet (k.storeTop s) m → KeepsQuiet n m :=
    fun m hkept => hkept.after hposition
  rw [hactivates.step_eq]
  cases hscrapped : s.netState.scrapped with
  | true => exact .inr ((keepsQuiet_endSession k).after hposition)
  | false =>
      rw [if_neg Bool.false_ne_true]
      cases hsubstate : s.netState.substate with
      | requestTx =>
          cases hframe : k.network.outbound.isEmpty with
          | true =>
              rw [engage_of_requestTx hsubstate, beginSending_eq,
                if_pos (show (k.storeTop s).network.outbound.isEmpty = true from hframe)]
              exact .inr (hstored _ (keepsQuiet_endSession _))
          | false => exact .inl ⟨_, _, .request hactivates hscrapped hsubstate hframe⟩
      | requestRx =>
          rw [engage_of_requestRx hsubstate]
          exact .inr (hstored _ (keepsQuiet_listen _ _ _ _))
      | responseTx | responseRx =>
          simp only [engage, hsubstate]
          exact .inr (hstored _ (keepsQuiet_endSession _))

/-- With any input a node that does not transmit begins a sequence of attempts, or goes on
without transmitting. -/
theorem begins_or_keepsQuiet (hkeeps : custom.KeepsPosition) (hn : n.Consistent)
    (hquiet : ¬n.phase.IsTransmitting) (input : Input) :
    (∃ s k, Begins env custom n input s k) ∨ KeepsQuiet n (n.step env custom input) := by
  have hlapses : ∀ m, Lapses env n m → KeepsQuiet n m := fun m hm =>
    ⟨hm.phase ▸ hquiet, .of_eq hm.access⟩
  cases hphase : n.phase with
  | idle =>
      rcases activates_or_lapses env custom hphase input with
        ⟨elapsed, s, k, rfl, hactivates⟩ | hm
      · exact begins_or_keepsQuiet_activated hkeeps hactivates
      · exact .inr (hlapses _ hm)
  | listening =>
      rcases input.requests_or_acts with hrequests | hacts | rfl
      · exact .inr (hlapses _ (lapses_of_requests env custom hrequests n))
      · rcases step_of_listening env custom hn hphase hacts with
          ⟨frame, s, rfl, htop, heq⟩ | ⟨m, s, hm, heq⟩ | hm
        · have hwaits : s.netState.substate ≠ .responseTx := fun hresponds =>
            hn.unanswered hphase (by simp [substate?, htop, hresponds])
          rw [heq]
          exact begins_or_keepsQuiet_received hphase htop hwaits frame
        · rw [heq]
          exact .inr ((keepsQuiet_relisten s m).after (hlapses m hm).position)
        · exact .inr (hlapses _ hm)
      · exact .inr ⟨fun hsends => hsends.ne_idle rfl, .inl rfl⟩
  | pausing => exact absurd (.inl hphase) hquiet
  | assessing => exact absurd (.inr (.inl hphase)) hquiet
  | sending => exact absurd (.inr (.inr hphase)) hquiet

/-! ## Where positions come from -/

/-- With the input a sequence of attempts ends that was going on, or that begins with it. -/
def EndsSequence (env : Environment W) (custom : CustomApplets W) (n : Node W) (input : Input) :
    Prop :=
  (n.phase.IsTransmitting ∨ ∃ s k, Begins env custom n input s k) ∧
    ¬(n.step env custom input).phase.IsTransmitting

/-- Whoever does not transmit, and is not at the first position in the list of channels, has
not moved since a sequence ended at this position. -/
theorem exists_endsSequence {Given : Environment W → Input → Prop} {start : Node W}
    (hcustom : custom.Disciplined) (hkeeps : custom.KeepsPosition) (hstart : start.Consistent)
    (hfirst : start.access.txIndex = 0) (hrun : Reaches custom Given start n)
    (hquiet : ¬n.phase.IsTransmitting) (hposition : n.access.txIndex ≠ 0) :
    ∃ m env input, Reaches custom Given start m ∧ EndsSequence env custom m input ∧
      (m.step env custom input).access.txIndex = n.access.txIndex ∧
      Reaches custom Given (m.step env custom input) n := by
  induction hrun with
  | refl => exact absurd hfirst hposition
  | @step m env input hreached hgiven ih =>
      by_cases hends : EndsSequence env custom m input
      · exact ⟨m, env, input, hreached, hends, rfl, .refl⟩
      · have hwaits : ¬m.phase.IsTransmitting := fun hsends => hends ⟨.inl hsends, hquiet⟩
        rcases begins_or_keepsQuiet hkeeps (hstart.reaches hcustom hreached) hwaits input with
          hbegins | hkept
        · exact absurd ⟨.inr hbegins, hquiet⟩ hends
        · -- Nothing but the position of `m` has been kept.
          have hsame := hkept.position.eq_of_ne hposition
          obtain ⟨m', env', input', hreached', hends', hindex, hlater⟩ :=
            ih hwaits (hsame ▸ hposition)
          exact ⟨m', env', input', hreached', hends', hindex.trans hsame.symm,
            .step hlater hgiven⟩

end Node

end Mode2
