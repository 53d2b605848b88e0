import Mode2.Proofs.ChannelAccess.Draws
import Mode2.Proofs.Environment.Record
import Mode2.Proofs.Node.Applets
import Mode2.Proofs.Node.Retries

/-!
# How a node uses its radio

The last call of the radio fits what the node waits for. A frame goes out only on a
channel that was assessed by the call before it and has been found clear, unless the
dialog does not listen first.
-/

namespace Mode2

variable {W : Type}

/-- The host's applets leave the radio to the node. -/
def CustomApplets.Silent (custom : CustomApplets W) (calls : W → List RadioCall) : Prop :=
  ∀ id s n, calls (custom id s n).2.world = calls n.world

namespace Node

variable {env : Environment W} {custom : CustomApplets W} {n m : Node W}
  {calls : W → List RadioCall} {before : List RadioCall}

/-! ## Dialogs that are attended to -/

/-- A node that is not idle has a dialog to attend to, and one that transmits a dialog
has a frame for it. -/
structure Attended (n : Node W) : Prop where
  dialog : n.phase ≠ .idle → n.sessions.sessions ≠ []
  frame : n.phase.IsTransmitting → n.network.outbound.isEmpty = false

namespace Attended

theorem of_idle (hphase : n.phase = .idle) : n.Attended where
  dialog h := absurd hphase h
  frame h := absurd hphase h.ne_idle

theorem of_listening (hphase : n.phase = .listening) (hdialog : n.sessions.sessions ≠ []) :
    n.Attended where
  dialog _ := hdialog
  frame h := absurd hphase h.ne_listening

theorem of_staged (hdialog : n.sessions.sessions ≠ [])
    (hframe : n.network.outbound.isEmpty = false) : n.Attended :=
  ⟨fun _ => hdialog, fun _ => hframe⟩

theorem exists_top (h : n.Attended) (hphase : n.phase ≠ .idle) :
    ∃ t, n.sessions.top? = some t := by
  obtain ⟨t, rest, hsessions⟩ := List.exists_cons_of_ne_nil (h.dialog hphase)
  exact ⟨t, SessionStack.top?_eq hsessions⟩

/-- What a node that transmits has to go on with. -/
theorem transmitting (h : n.Attended) (hphase : n.phase.IsTransmitting) :
    n.sessions.sessions ≠ [] ∧ n.network.outbound.isEmpty = false :=
  ⟨h.dialog hphase.ne_idle, h.frame hphase⟩

end Attended

/-! ## Calls that fit the phase -/

/-- The last call of the radio fits the phase. -/
structure Agrees (calls : W → List RadioCall) (n : Node W) : Prop where
  idle : n.phase = .idle → ∀ call ∈ (calls n.world).head?, call = .idle
  listening : n.phase = .listening →
    ∃ channel timeout, (calls n.world).head? = some (.listen channel timeout true)
  assessing : n.phase = .assessing → ∃ channel,
    n.access.txChannel? = some channel ∧ (calls n.world).head? = some (.assess channel true)
  sending : n.phase = .sending → ∃ channel,
    (calls n.world).head? = some (.transmit channel n.network.outbound.written true)

namespace Agrees

theorem of_idle (hphase : n.phase = .idle) (hcalls : calls n.world = .idle :: before) :
    Agrees calls n where
  idle _ := by simp [hcalls]
  listening h := by simp [hphase] at h
  assessing h := by simp [hphase] at h
  sending h := by simp [hphase] at h

theorem of_pausing (hphase : n.phase = .pausing) : Agrees calls n where
  idle h := by simp [hphase] at h
  listening h := by simp [hphase] at h
  assessing h := by simp [hphase] at h
  sending h := by simp [hphase] at h

theorem of_listening (hphase : n.phase = .listening) {channel : UInt8} {timeout : Ticks}
    (hcalls : calls n.world = .listen channel timeout true :: before) : Agrees calls n where
  idle h := by simp [hphase] at h
  listening _ := ⟨channel, timeout, by simp [hcalls]⟩
  assessing h := by simp [hphase] at h
  sending h := by simp [hphase] at h

theorem of_assessing (hphase : n.phase = .assessing) {channel : UInt8}
    (hchannel : n.access.txChannel? = some channel)
    (hcalls : calls n.world = .assess channel true :: before) : Agrees calls n where
  idle h := by simp [hphase] at h
  listening h := by simp [hphase] at h
  assessing _ := ⟨channel, hchannel, by simp [hcalls]⟩
  sending h := by simp [hphase] at h

theorem of_sending (hphase : n.phase = .sending) {channel : UInt8}
    (hcalls : calls n.world = .transmit channel n.network.outbound.written true :: before) :
    Agrees calls n where
  idle h := by simp [hphase] at h
  listening h := by simp [hphase] at h
  assessing h := by simp [hphase] at h
  sending _ := ⟨channel, by simp [hcalls]⟩

end Agrees

/-! ## Listening before talking -/

/-- The radio may be handed the staged frame, if there is one. -/
def Stages (m : Node W) (frame : List UInt8) : Prop :=
  m.network.outbound.isEmpty = false ∧ frame = m.network.outbound.written

/-- The radio may be handed the staged frame by a dialog that does not listen first. -/
def Allows (m : Node W) (call : RadioCall) : Prop :=
  ∀ frame ∈ call.frame?, m.Stages frame ∧ m.access.algorithm = .uncontended

theorem Allows.of_steady {k : Node W} (h : Steady m k) {call : RadioCall} (hm : m.Allows call) :
    k.Allows call := by
  intro frame hframe
  obtain ⟨hstaged, halgorithm⟩ := hm frame hframe
  unfold Stages ChannelAccess.algorithm at *
  rw [h.network, h.params]
  exact ⟨hstaged, halgorithm⟩

/-- The last call fits the phase, and since the calls `before` the radio has been handed
at most the staged frame, by a dialog that does not listen first. -/
structure Conduct (calls : W → List RadioCall) (before : List RadioCall) (m : Node W) : Prop where
  attended : m.Attended
  agrees : Agrees calls m
  careful : ∃ new, calls m.world = new ++ before ∧ ∀ call ∈ new, m.Allows call

namespace Conduct

theorem of_agrees (hm : m.Attended) (h : Agrees calls m) (hcalls : calls m.world = before) :
    Conduct calls before m :=
  ⟨hm, h, [], hcalls, by simp⟩

theorem cons {call : RadioCall} (h : Conduct calls (call :: before) m) (hcall : m.Allows call) :
    Conduct calls before m := by
  obtain ⟨hm, hagrees, new, hcalls, hnew⟩ := h
  refine ⟨hm, hagrees, new ++ [call], by simp [hcalls], ?_⟩
  intro call' hmem
  rcases List.mem_append.mp hmem with hmem | hmem
  · exact hnew call' hmem
  · obtain rfl := List.mem_singleton.mp hmem
    exact hcall

/-- A call that hands over no frame is always allowed. -/
theorem cons_silent {call : RadioCall} (h : Conduct calls (call :: before) m)
    (hcall : call.frame? = none) : Conduct calls before m := by
  refine h.cons fun frame hframe => ?_
  rw [hcall] at hframe
  cases hframe

theorem of_call (hm : m.Attended) (h : Agrees calls m) {call : RadioCall}
    (hcalls : calls m.world = call :: before) (hcall : call.frame? = none) :
    Conduct calls before m :=
  (of_agrees hm h hcalls).cons_silent hcall

theorem trans {k : Node W} (h : Conduct calls before m) (h' : Conduct calls (calls m.world) k)
    (hsteady : Steady m k) : Conduct calls before k := by
  obtain ⟨-, -, first, hfirst, hcareful⟩ := h
  obtain ⟨hk, hagrees, second, hsecond, hcareful'⟩ := h'
  refine ⟨hk, hagrees, second ++ first, by rw [hsecond, hfirst, List.append_assoc], ?_⟩
  intro call hmem
  rcases List.mem_append.mp hmem with hmem | hmem
  · exact hcareful' call hmem
  · exact (hcareful call hmem).of_steady hsteady

end Conduct

theorem conduct_endSession (h : env.Records calls) (n : Node W) :
    Conduct calls (calls n.world) (n.endSession env) :=
  .of_call (.of_idle rfl) (.of_idle rfl (h.idle n.world)) (h.idle n.world) rfl

theorem conduct_listen (h : env.Records calls) (hdialog : n.sessions.sessions ≠ [])
    (channel : UInt8) (timeout : Ticks) :
    Conduct calls (calls n.world) (n.listen env channel timeout) := by
  have hcalls := h.listen channel timeout n.world
  unfold listen
  split
  next world heq =>
    rw [heq] at hcalls
    exact .of_call (.of_listening rfl hdialog) (.of_listening rfl hcalls) hcalls rfl
  next cause world heq =>
    rw [heq] at hcalls
    have hended := conduct_endSession h { n with world }
    rw [hcalls] at hended
    exact hended.cons_silent rfl

/-! ## Contention -/

section Contention

theorem conduct_pause (n : Node W) (hdialog : n.sessions.sessions ≠ [])
    (hframe : n.network.outbound.isEmpty = false) (length : Clocks) :
    Conduct calls (calls n.world) (n.pause length) :=
  .of_agrees (.of_staged hdialog hframe) (.of_pausing rfl) rfl

variable (h : env.Records calls) (hdialog : n.sessions.sessions ≠ [])
  (hframe : n.network.outbound.isEmpty = false)

include h hdialog hframe

theorem conduct_retry : Conduct calls (calls n.world) (n.retry env) := by
  unfold retry
  split
  next access _ => exact conduct_pause { n with access } hdialog hframe _
  · exact conduct_endSession h n

theorem conduct_yieldChannel : Conduct calls (calls n.world) (n.yieldChannel env) := by
  unfold yieldChannel
  dsimp only
  rw [← ChannelAccess.view_afterBusy h.random n.access n.world]
  split
  · refine conduct_pause { n with access := _, world := _ } ?_ ?_ _
    · exact hdialog
    · exact hframe
  · exact conduct_endSession h { n with access := _, world := _ }

/-- The frame is handed to the radio once; whatever follows is not a transmission. -/
theorem conduct_send (channel : UInt8) :
    ∃ accepted, Conduct calls
      (.transmit channel n.network.outbound.written accepted :: calls n.world)
      (n.send env channel) := by
  have hcalls := h.transmit channel n.network.outbound.written n.world
  unfold send
  split
  next world heq =>
    rw [heq] at hcalls
    exact ⟨true, .of_agrees (.of_staged hdialog hframe) (.of_sending rfl hcalls) hcalls⟩
  next cause world heq =>
    rw [heq] at hcalls
    have hretry := conduct_retry (n := { n with world }) h hdialog hframe
    rw [hcalls] at hretry
    exact ⟨false, hretry⟩

/-- An attempt transmits only when the dialog does not listen first. -/
theorem conduct_attempt : Conduct calls (calls n.world) (n.attempt env) := by
  unfold attempt
  split
  · exact conduct_endSession h n
  next channel hchannel =>
    split
    next halgorithm =>
      obtain ⟨accepted, hsent⟩ := conduct_send h hdialog hframe channel
      refine hsent.cons (Allows.of_steady (steady_send n channel) fun frame hhanded => ?_)
      obtain rfl := Option.some.inj hhanded
      exact ⟨⟨hframe, rfl⟩, halgorithm⟩
    · have hcalls := h.assess channel n.world
      split
      next world heq =>
        rw [heq] at hcalls
        exact .of_call (.of_staged hdialog hframe) (.of_assessing rfl hchannel hcalls) hcalls rfl
      next cause world heq =>
        rw [heq] at hcalls
        have hyield := conduct_yieldChannel (n := { n with world }) h hdialog hframe
        rw [hcalls] at hyield
        exact hyield.cons_silent rfl

end Contention

/-- Attempts in a row keep the frame and the way to contend, which decide for all of
them. -/
theorem conduct_settle (h : env.Records calls) (hm : Conduct calls before m) :
    Conduct calls before (m.settle env) := by
  refine settle_induct ?_ hm
  intro k hdue hk
  -- An attempt is due only in a pause, where there are a dialog and its frame.
  have hphase : k.phase = .pausing := by
    have := (Bool.and_eq_true_iff.mp hdue).1
    simpa using this
  obtain ⟨hdialog, hframe⟩ := hk.attended.transmitting (.inl hphase)
  exact hk.trans (conduct_attempt h hdialog hframe) (steady_attempt k)

theorem conduct_beginSending (h : env.Records calls) (hdialog : n.sessions.sessions ≠ [])
    (s : Session) : Conduct calls (calls n.world) (n.beginSending env s) := by
  unfold beginSending
  split
  · exact conduct_endSession h n
  next hframe =>
    dsimp only
    generalize (if n.access.txChannels.channels = [] then _ else n.access) = access
    generalize airTime _ _ = frameTime
    have hcalls := ChannelAccess.view_beginSequence h.random access frameTime n.world
    rw [← hcalls]
    refine conduct_settle h (conduct_pause { n with access := _, world := _ } ?_ ?_ _)
    · exact hdialog
    · simpa using hframe

/-! ## The active dialog -/

theorem calls_runApplet (h : env.Records calls) (hsilent : custom.Silent calls) (applet : Applet)
    (s : Session) (n : Node W) : calls (applet.run env custom s n).2.world = calls n.world := by
  cases applet with
  | idle =>
      change calls (Applet.runIdle s n).2.world = calls n.world
      unfold Applet.runIdle
      split <;> rfl
  | scan => rfl
  | beacon =>
      obtain ⟨sessions, -, heq⟩ := Applet.scheduleNextBeacon_eq n
      have hkept := Exchange.kept_stageBeacon h.toOnlyRadio n.config
        (({ n with sessions } : Node W).exchange (Applet.beaconSession n.config s))
      unfold Applet.run Applet.runBeacon
      rw [heq]
      dsimp only
      split
      next x hrun => exact (hkept.of_ok hrun).view
      next cause x hrun => exact (hkept.of_error hrun).view
  | custom id => exact hsilent id s n

theorem conduct_engage (h : env.Records calls) (hdialog : n.sessions.sessions ≠ []) (s : Session) :
    Conduct calls (calls n.world) (n.engage env s) := by
  unfold engage
  split
  · exact conduct_beginSending h hdialog s
  · exact conduct_listen h hdialog _ _
  · exact conduct_endSession h n
  · exact conduct_endSession h n

theorem conduct_activate (h : env.Records calls) (hsilent : custom.Silent calls)
    (hkeeps : custom.KeepsDialogs) (hn : n.Attended) (hagrees : Agrees calls n) :
    Conduct calls (calls n.world) (n.activate env custom) := by
  unfold activate
  split
  · exact .of_agrees hn hagrees rfl
  next s htop =>
    split
    · dsimp only
      generalize hprepared : ({ n with access := _ } : Node W) = prepared
      generalize ({ s with applet := none, netState.fresh := false } : Session) = fresh
      have hprepared_dialog : prepared.sessions.sessions ≠ [] := by
        obtain ⟨rest, hsessions⟩ := SessionStack.exists_of_top? htop
        simp [← hprepared, hsessions]
      have hcalls := calls_runApplet h hsilent (s.applet.getD .idle) fresh prepared
      have hdialog := Applet.keepsDialogs_run hkeeps env (s.applet.getD .idle) fresh prepared
        hprepared_dialog
      generalize (s.applet.getD .idle).run env custom fresh prepared = result at hcalls hdialog ⊢
      obtain ⟨t, k⟩ := result
      have hworld : calls n.world = calls k.world := by
        rw [hcalls, ← hprepared]
      rw [hworld]
      dsimp only
      split
      · exact conduct_endSession h k
      · exact conduct_engage h (n := k.storeTop t) (SessionStack.setTop_ne_nil hdialog t) t
    · exact .of_agrees hn hagrees rfl

theorem conduct_beginResponding (h : env.Records calls) (hdialog : n.sessions.sessions ≠ [])
    (s : Session) : Conduct calls (calls n.world) (n.beginResponding env s) := by
  rw [beginResponding_eq, ← world_responding s n]
  exact conduct_beginSending h (sessions_responding_ne_nil s hdialog) s

theorem conduct_proceed (h : env.Records calls) (hdialog : n.sessions.sessions ≠ [])
    (s : Session) : Conduct calls (calls n.world) (n.proceed env s) := by
  have hstored : ∀ u : Session, (n.storeTop u).sessions.sessions ≠ [] :=
    SessionStack.setTop_ne_nil hdialog
  unfold proceed
  split
  · exact conduct_beginResponding h (hstored s) s
  · dsimp only
    split
    · exact conduct_endSession h n
    · exact conduct_listen h (hstored _) _ _
  · split
    · exact conduct_listen h (hstored s) _ _
    · exact conduct_endSession h n
  · exact conduct_endSession h n

/-- Processing a frame makes no call; what follows from it does. -/
theorem conduct_process (h : env.Records calls) (hdialog : n.sessions.sessions ≠ [])
    (frame : List UInt8) (s : Session) :
    Conduct calls (calls n.world) (n.process env frame s) := by
  unfold process
  split
  · exact conduct_endSession h n
  next inbound _ =>
    dsimp only
    generalize hx : Node.exchange { n with network := { n.network with inbound } } s = x
    have hkept := Exchange.kept_receive h.toOnlyRadio n.config x
    have hworld : calls n.world = calls (x.receive env n.config).2.world := by
      rw [hkept.view, ← hx]
      rfl
    rw [hworld]
    split
    · exact conduct_endSession h (Node.resume _ (x.receive env n.config).2.toLayers)
    · exact conduct_proceed h (n := Node.resume _ (x.receive env n.config).2.toLayers) hdialog _

theorem conduct_relisten (h : env.Records calls) (hdialog : n.sessions.sessions ≠ [])
    (s : Session) : Conduct calls (calls n.world) (n.relisten env s) := by
  unfold relisten
  split
  next access _ _ =>
    exact conduct_listen h (n := { n with access }.storeTop s)
      (SessionStack.setTop_ne_nil hdialog s) _ _
  · exact conduct_endSession h n

/-! ## Reports of the radio -/

theorem conduct_onFrame (h : env.Records calls) (hn : n.Attended) (hagrees : Agrees calls n)
    (frame : List UInt8) (intact : Bool) :
    Conduct calls (calls n.world) (n.onFrame env frame intact) := by
  unfold onFrame
  split
  next hphase =>
    have hactive : n.phase ≠ .idle := by simp [hphase]
    obtain ⟨t, htop⟩ := hn.exists_top hactive
    rw [htop]
    dsimp only
    split
    · exact conduct_process h (hn.dialog hactive) frame t
    · exact conduct_relisten h (hn.dialog hactive) t
  · exact .of_agrees hn hagrees rfl

theorem conduct_onTimeout (h : env.Records calls) (hn : n.Attended) (hagrees : Agrees calls n) :
    Conduct calls (calls n.world) (n.onTimeout env) := by
  unfold onTimeout
  split
  next hphase =>
    have hactive : n.phase ≠ .idle := by simp [hphase]
    obtain ⟨t, htop⟩ := hn.exists_top hactive
    rw [htop]
    exact conduct_relisten h (hn.dialog hactive) _
  · exact .of_agrees hn hagrees rfl

theorem conduct_onAssessed_busy (h : env.Records calls) (hn : n.Attended)
    (hagrees : Agrees calls n) : Conduct calls (calls n.world) (n.onAssessed env false) := by
  unfold onAssessed
  split
  next hphase =>
    obtain ⟨hdialog, hframe⟩ := hn.transmitting (.inr (.inl hphase))
    have hyield : Conduct calls (calls n.world) ((n.yieldChannel env).settle env) :=
      conduct_settle h (conduct_yieldChannel h hdialog hframe)
    split
    · rw [if_neg Bool.false_ne_true]
      exact hyield
    · exact hyield
  · exact .of_agrees hn hagrees rfl

/-- The frame goes out on the channel that was assessed. -/
theorem conduct_onAssessed_clear (h : env.Records calls) (hn : n.Attended)
    (hagrees : Agrees calls n) (hphase : n.phase = .assessing) :
    ∃ channel accepted, (calls n.world).head? = some (.assess channel true) ∧
      Steady n (n.onAssessed env true) ∧
      Conduct calls (.transmit channel n.network.outbound.written accepted :: calls n.world)
        (n.onAssessed env true) := by
  obtain ⟨channel, hchannel, hassessed⟩ := hagrees.assessing hphase
  obtain ⟨hdialog, hframe⟩ := hn.transmitting (.inr (.inl hphase))
  obtain ⟨accepted, hsent⟩ := conduct_send h hdialog hframe channel
  unfold onAssessed
  rw [if_pos hphase, hchannel]
  dsimp only
  rw [if_pos rfl]
  exact ⟨channel, accepted, hassessed, steady_settle (steady_send n channel),
    conduct_settle h hsent⟩

theorem conduct_afterRequest (h : env.Records calls) (hdialog : n.sessions.sessions ≠ [])
    (hframe : n.network.outbound.isEmpty = false) (s : Session) :
    Conduct calls (calls n.world) (n.afterRequest env s) := by
  unfold afterRequest
  split
  next access _ =>
    exact conduct_settle h (conduct_pause { n with access } hdialog hframe _)
  · split
    · exact conduct_endSession h n
    · exact conduct_listen h (n := n.storeTop _) (SessionStack.setTop_ne_nil hdialog _) _ _

theorem conduct_onSent (h : env.Records calls) (hn : n.Attended) (hagrees : Agrees calls n)
    (success : Bool) : Conduct calls (calls n.world) (n.onSent env success) := by
  unfold onSent
  split
  next hphase =>
    obtain ⟨hdialog, hframe⟩ := hn.transmitting (.inr (.inr hphase))
    split
    · obtain ⟨t, htop⟩ := hn.exists_top (by simp [hphase])
      rw [htop]
      dsimp only
      split
      · exact conduct_afterRequest h hdialog hframe t
      all_goals exact conduct_endSession h n
    · exact conduct_settle h (conduct_retry h hdialog hframe)
  · exact .of_agrees hn hagrees rfl

/-! ## Runs -/

theorem conduct_run (h : env.Records calls) (hsilent : custom.Silent calls)
    (hkeeps : custom.KeepsDialogs) (hn : n.Attended) (hagrees : Agrees calls n)
    (elapsed : Ticks) : Conduct calls (calls n.world) (n.run env custom elapsed) := by
  have hdialog : n.phase ≠ .idle → (n.sessions.elapse elapsed).sessions ≠ [] := by
    intro hactive
    simpa using hn.dialog hactive
  have haged : Attended { n with sessions := n.sessions.elapse elapsed } :=
    ⟨hdialog, hn.frame⟩
  have hagrees' : Agrees calls { n with sessions := n.sessions.elapse elapsed } :=
    ⟨hagrees.idle, hagrees.listening, hagrees.assessing, hagrees.sending⟩
  unfold run
  dsimp only
  split
  · exact conduct_activate h hsilent hkeeps haged hagrees'
  next hphase =>
    exact conduct_settle h (.of_agrees ⟨hdialog, hn.frame⟩ (.of_pausing hphase) rfl)
  next hphase =>
    have hlistens := hdialog (by simp [hphase])
    split
    -- The watchdog puts the radio to rest, which is one more call, before it goes on.
    · have hcalls := h.idle n.world
      have hrelisten : ∀ k : Node W, k.world = (env.radio.idle n.world).2 →
          k.sessions.sessions ≠ [] → ∀ s, Conduct calls (calls n.world) (k.relisten env s) := by
        intro k hk hkdialog s
        have hconduct := conduct_relisten h hkdialog s
        rw [hk, hcalls] at hconduct
        exact hconduct.cons_silent rfl
      unfold onTimeout
      rw [if_pos hphase]
      obtain ⟨t, htop⟩ := haged.exists_top (by simp [hphase])
      rw [htop]
      exact hrelisten _ rfl hlistens _
    · refine .of_agrees (.of_listening hphase hlistens) ?_ rfl
      exact ⟨hagrees.idle, hagrees.listening, hagrees.assessing, hagrees.sending⟩
  · exact .of_agrees haged hagrees' rfl
  · exact .of_agrees haged hagrees' rfl

/-- The channel is found clear. -/
def IsCleared (n : Node W) (input : Input) : Prop :=
  n.phase = .assessing ∧ input = .event (.assessed true)

theorem conduct_step (h : env.Records calls) (hsilent : custom.Silent calls)
    (hkeeps : custom.KeepsDialogs) (hn : n.Attended) (hagrees : Agrees calls n) {input : Input}
    (hinput : ¬n.IsCleared input) : Conduct calls (calls n.world) (n.step env custom input) := by
  have hschedule : ∀ applet wait subnet channel netState, Conduct calls (calls n.world)
      (n.accept (n.schedule applet wait subnet channel netState)) := by
    intro applet wait subnet channel netState
    obtain ⟨sessions, hschedules, heq⟩ := n.accept_schedule applet wait subnet channel netState
    rw [heq]
    refine .of_agrees ⟨?_, hn.frame⟩ ?_ rfl
    · exact fun hactive => hschedules.grows.ne_nil (hn.dialog hactive)
    · exact ⟨hagrees.idle, hagrees.listening, hagrees.assessing, hagrees.sending⟩
  cases input with
  | schedule applet wait subnet channel netState =>
      exact hschedule applet wait subnet channel netState
  | scheduleScan wait => exact hschedule _ wait _ _ _
  | scheduleBeacon wait => exact hschedule _ wait _ _ _
  | run elapsed => exact conduct_run h hsilent hkeeps hn hagrees elapsed
  | event event =>
      cases event with
      | received frame intact => exact conduct_onFrame h hn hagrees frame intact
      | timeout => exact conduct_onTimeout h hn hagrees
      | assessed clear =>
          cases clear with
          | false => exact conduct_onAssessed_busy h hn hagrees
          | true =>
              have hphase : n.phase ≠ .assessing := fun hphase => hinput ⟨hphase, rfl⟩
              change Conduct calls (calls n.world) (n.onAssessed env true)
              unfold onAssessed
              rw [if_neg hphase]
              exact .of_agrees hn hagrees rfl
      | sent success => exact conduct_onSent h hn hagrees success
  | flush => exact .of_call (.of_idle rfl) (.of_idle rfl (h.idle n.world)) (h.idle n.world) rfl

/-- What the radio is asked in one input: when a transmission is asked for by a dialog
that listens first, it is the first call, on the channel that was just found clear. How
a dialog contends is settled before its first attempt and stays the same from then on,
so that the node after the input still shows it. -/
def ListensFirst (calls : W → List RadioCall) (n : Node W) (input : Input) (m : Node W) : Prop :=
  ∃ new, calls m.world = new ++ calls n.world ∧
    ∀ later channel frame accepted earlier,
      new = later ++ .transmit channel frame accepted :: earlier →
      m.access.algorithm ≠ .uncontended →
      earlier = [] ∧ n.IsCleared input ∧ (calls n.world).head? = some (.assess channel true)

theorem Conduct.listensFirst (h : Conduct calls (calls n.world) m) (input : Input) :
    ListensFirst calls n input m := by
  obtain ⟨new, hcalls, hcareful⟩ := h.careful
  refine ⟨new, hcalls, ?_⟩
  intro later channel frame accepted earlier hnew halgorithm
  have hmem : RadioCall.transmit channel frame accepted ∈ new := by simp [hnew]
  exact absurd (hcareful _ hmem _ rfl).2 halgorithm

/-- The node is attended and its last call fits the phase. -/
def Behaves (calls : W → List RadioCall) (n : Node W) : Prop :=
  n.Attended ∧ Agrees calls n

theorem listensFirst_step (h : env.Records calls) (hsilent : custom.Silent calls)
    (hkeeps : custom.KeepsDialogs) (hn : Behaves calls n) (input : Input) :
    Behaves calls (n.step env custom input) ∧
      ListensFirst calls n input (n.step env custom input) := by
  obtain ⟨hattended, hagrees⟩ := hn
  by_cases hinput : n.IsCleared input
  · obtain ⟨hphase, rfl⟩ := hinput
    obtain ⟨channel, accepted, hassessed, -, hconduct⟩ :=
      conduct_onAssessed_clear h hattended hagrees hphase
    obtain ⟨hattended', hagrees', new, hcalls, hcareful⟩ := hconduct
    refine ⟨⟨hattended', hagrees'⟩,
      new ++ [.transmit channel n.network.outbound.written accepted], ?_, ?_⟩
    · rw [List.append_assoc]
      exact hcalls
    intro later channel' frame' accepted' earlier hnew halgorithm
    -- The calls after the first are no transmissions, so the one found is the first.
    rcases List.eq_nil_or_concat earlier with rfl | ⟨init, last, rfl⟩
    · obtain ⟨-, hlast⟩ := List.append_inj' hnew rfl
      cases hlast
      exact ⟨rfl, ⟨hphase, rfl⟩, hassessed⟩
    · have hlast : new ++ [.transmit channel n.network.outbound.written accepted] =
          (later ++ .transmit channel' frame' accepted' :: init) ++ [last] := by
        simpa using hnew
      obtain ⟨hinit, -⟩ := List.append_inj' hlast rfl
      have hmem : RadioCall.transmit channel' frame' accepted' ∈ new := by simp [hinit]
      exact absurd (hcareful _ hmem _ rfl).2 halgorithm
  · have hconduct : Conduct calls (calls n.world) (n.step env custom input) :=
      conduct_step h hsilent hkeeps hattended hagrees hinput
    exact ⟨⟨hconduct.attended, hconduct.agrees⟩, hconduct.listensFirst input⟩

/-- The radio is never handed anything but the staged frame. -/
theorem handed_step (h : env.Records calls) (hsilent : custom.Silent calls)
    (hkeeps : custom.KeepsDialogs) (hn : Behaves calls n) (input : Input) :
    ∃ new, calls (n.step env custom input).world = new ++ calls n.world ∧
      ∀ call ∈ new, ∀ frame ∈ call.frame?, (n.step env custom input).Stages frame := by
  obtain ⟨hattended, hagrees⟩ := hn
  by_cases hinput : n.IsCleared input
  · obtain ⟨hphase, rfl⟩ := hinput
    obtain ⟨channel, accepted, -, hsteady, -, -, new, hcalls, hcareful⟩ :=
      conduct_onAssessed_clear h hattended hagrees hphase
    refine ⟨new ++ [.transmit channel n.network.outbound.written accepted], ?_, ?_⟩
    · rw [List.append_assoc]
      exact hcalls
    intro call hmem frame hframe
    rcases List.mem_append.mp hmem with hmem | hmem
    · exact (hcareful call hmem frame hframe).1
    · obtain rfl := List.mem_singleton.mp hmem
      obtain rfl := Option.some.inj hframe
      have hstaged := hattended.frame (.inr (.inl hphase))
      change (n.onAssessed env true).Stages n.network.outbound.written
      unfold Stages
      rw [hsteady.network]
      exact ⟨hstaged, rfl⟩
  · have hconduct : Conduct calls (calls n.world) (n.step env custom input) :=
      conduct_step h hsilent hkeeps hattended hagrees hinput
    obtain ⟨new, hcalls, hcareful⟩ := hconduct.careful
    exact ⟨new, hcalls, fun call hmem frame hframe => (hcareful call hmem frame hframe).1⟩

theorem Behaves.reaches {Given : Environment W → Input → Prop}
    (hgiven : ∀ env input, Given env input → env.Records calls) (hsilent : custom.Silent calls)
    (hkeeps : custom.KeepsDialogs) (hn : Behaves calls n) (hrun : Reaches custom Given n m) :
    Behaves calls m := by
  induction hrun with
  | refl => exact hn
  | @step m env input _ hinput ih =>
      exact (listensFirst_step (hgiven env input hinput) hsilent hkeeps ih input).1

theorem behaves_start (config : Config) (world : W) :
    Behaves Recorded.calls (start config (⟨world, []⟩ : Recorded W)) := by
  refine ⟨.of_idle rfl, ⟨?_, nofun, nofun, nofun⟩⟩
  intro _
  simp [start]

/-- In every run whose applets leave the radio to the node and do not take all dialogs away
from it, the last call of the radio fits the phase; and whatever comes next, a dialog that
listens first transmits only right after the channel of the transmission was assessed and
found clear. -/
theorem listen_before_talk {custom : CustomApplets (Recorded W)} {config : Config} {world : W}
    {n : Node (Recorded W)} (hsilent : custom.Silent Recorded.calls)
    (hkeeps : custom.KeepsDialogs)
    (hrun : Reaches custom (fun env _ => ∃ plain : Environment W, env = plain.recorded)
      (start config ⟨world, []⟩) n) :
    Agrees Recorded.calls n ∧ ∀ (env : Environment W) (input : Input),
      ListensFirst Recorded.calls n input (n.step env.recorded custom input) := by
  have hn : Behaves Recorded.calls n := by
    refine (behaves_start config world).reaches ?_ hsilent hkeeps hrun
    rintro _ _ ⟨plain, rfl⟩
    exact plain.records_recorded
  refine ⟨hn.2, ?_⟩
  intro env input
  exact (listensFirst_step env.records_recorded hsilent hkeeps hn input).2

/-- Applets that stage a frame of one byte and do nothing else. -/
def stagingApplets (byte : UInt8) : CustomApplets W := fun _ s n =>
  (s, { n with
    network.outbound := ⟨[], [byte], queueCapacity, Nat.le_of_ble_eq_true rfl, Nat.le_refl _⟩ })

/-- A dialog that has staged a byte assesses its channel, which is found clear. -/
theorem listen_before_talk_staged :
    ∃ n : Node (Recorded Unit), n.phase = .assessing ∧ Agrees Recorded.calls n ∧
      ListensFirst Recorded.calls n (.event (.assessed true))
        (n.step Environment.obliging.recorded (stagingApplets 0) (.event (.assessed true))) := by
  have hsilent : CustomApplets.Silent (stagingApplets (W := Recorded Unit) 0) Recorded.calls :=
    fun _ _ _ => rfl
  have hkeeps : CustomApplets.KeepsDialogs (stagingApplets (W := Recorded Unit) 0) :=
    fun _ _ _ h => h
  have hrun : Reaches (stagingApplets 0) (fun env _ => ∃ plain : Environment Unit,
      env = plain.recorded) (start .default ⟨(), []⟩)
      (((start .default ⟨(), []⟩).step Environment.obliging.recorded (stagingApplets 0)
          (.schedule (some (.custom 0)) 0 0xF0 0x10 { substate := .requestTx })).step
        Environment.obliging.recorded (stagingApplets 0) (.run 0)) :=
    .step (.step .refl ⟨_, rfl⟩) ⟨_, rfl⟩
  obtain ⟨hagrees, hlistens⟩ := listen_before_talk hsilent hkeeps hrun
  refine ⟨_, ?_, hagrees, hlistens .obliging (.event (.assessed true))⟩
  decide +kernel

end Node

end Mode2
