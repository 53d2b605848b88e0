import Mode2.Proofs.Exchange.Staged
import Mode2.Proofs.Node.RadioConduct
import Mode2.Proofs.Node.Retries

/-!
# The frames that the radio is handed

With the applets of the library, whatever an input stages anew is complete, except that
a frame which is received and dropped may leave a response that was not finished. Such
a response stays in the queue until a dialog without an applet sends it.
-/

namespace Mode2

variable {W : Type}

/-- The host supplies no applets. -/
def CustomApplets.none : CustomApplets W := fun _ s n => (s, n)

theorem CustomApplets.keepsDialogs_none : (none : CustomApplets W).KeepsDialogs :=
  fun _ _ _ h => h

theorem CustomApplets.silent_none (calls : W → List RadioCall) :
    (none : CustomApplets W).Silent calls :=
  fun _ _ _ => rfl

namespace Node

variable {env : Environment W} {n m : Node W} {calls : W → List RadioCall}

/-! ## What leaves the frames of a node alone -/

theorem steady_endSession (n : Node W) : Steady n (n.endSession env) :=
  ⟨rfl, rfl⟩

theorem steady_storeTop (n : Node W) (s : Session) : Steady n (n.storeTop s) :=
  ⟨rfl, rfl⟩

theorem steady_listen (n : Node W) (channel : UInt8) (timeout : Ticks) :
    Steady n (n.listen env channel timeout) := by
  unfold listen
  split <;> exact ⟨rfl, rfl⟩

theorem steady_beginSending (n : Node W) (s : Session) : Steady n (n.beginSending env s) := by
  unfold beginSending
  split
  · exact steady_endSession n
  · refine steady_settle ⟨rfl, ?_⟩
    refine (ChannelAccess.params_beginSequence env.random _ _ n.world).trans ?_
    split <;> rfl

theorem steady_engage (n : Node W) (s : Session) : Steady n (n.engage env s) := by
  unfold engage
  split
  · exact steady_beginSending n s
  · exact steady_listen n _ _
  all_goals exact steady_endSession n

theorem steady_beginResponding (n : Node W) (s : Session) :
    Steady n (n.beginResponding env s) := by
  have hsend : ∀ k : Node W, Steady n k → Steady n (k.beginSending env s) :=
    fun k hk => hk.trans (steady_beginSending k s)
  unfold beginResponding
  dsimp only
  split <;> exact hsend _ ⟨rfl, rfl⟩

theorem steady_proceed (n : Node W) (s : Session) : Steady n (n.proceed env s) := by
  have hlisten : ∀ t channel timeout, Steady n ((n.storeTop t).listen env channel timeout) :=
    fun t _ _ => (steady_storeTop n t).trans (steady_listen _ _ _)
  unfold proceed
  split
  · exact (steady_storeTop n s).trans (steady_beginResponding _ s)
  · dsimp only
    split
    · exact steady_endSession n
    · exact hlisten _ _ _
  · split
    · exact hlisten _ _ _
    · exact steady_endSession n
  · exact steady_endSession n

theorem steady_relisten (n : Node W) (s : Session) : Steady n (n.relisten env s) := by
  unfold relisten
  split
  next access _ haccess =>
    have hspent : Steady n { n with access } := ⟨rfl, ChannelAccess.params_spendRetry haccess⟩
    exact hspent.trans ((steady_storeTop _ s).trans (steady_listen _ _ _))
  · exact steady_endSession n

theorem steady_onTimeout (n : Node W) : Steady n (n.onTimeout env) := by
  unfold onTimeout
  split
  · split
    · exact ⟨rfl, rfl⟩
    · exact steady_relisten n _
  · exact ⟨rfl, rfl⟩

theorem steady_onAssessed (n : Node W) (clear : Bool) : Steady n (n.onAssessed env clear) := by
  have hyield : Steady n ((n.yieldChannel env).settle env) :=
    steady_settle (steady_yieldChannel n)
  unfold onAssessed
  split
  · split
    next channel _ =>
      split
      · exact steady_settle (steady_send n channel)
      · exact hyield
    · exact hyield
  · exact ⟨rfl, rfl⟩

theorem steady_afterRequest (n : Node W) (s : Session) : Steady n (n.afterRequest env s) := by
  unfold afterRequest
  split
  next access haccess => exact steady_settle ⟨rfl, ChannelAccess.params_spendRetry haccess⟩
  · split
    · exact steady_endSession n
    · exact (steady_storeTop n _).trans (steady_listen _ _ _)

theorem steady_onSent (n : Node W) (success : Bool) : Steady n (n.onSent env success) := by
  unfold onSent
  split
  · split
    · split
      · exact ⟨rfl, rfl⟩
      · split
        · exact steady_afterRequest n _
        all_goals exact steady_endSession n
    · exact steady_settle (steady_retry n)
  · exact ⟨rfl, rfl⟩

/-! ## What an input stages -/

/-- The outgoing frame is as before or finished. -/
def Renewed (n m : Node W) : Prop :=
  m.network.outbound = n.network.outbound ∨ m.network.outbound.IsFinished

theorem Renewed.of_steady (h : Steady n m) : Renewed n m :=
  .inl (by rw [h.network])

theorem Renewed.trans_steady {k : Node W} (h : Renewed n m) (h' : Steady m k) : Renewed n k := by
  unfold Renewed
  rw [h'.network]
  exact h

/-- The dialog is over, and the radio was only put to rest. -/
structure Drops (calls : W → List RadioCall) (n m : Node W) : Prop where
  phase : m.phase = .idle
  calls : calls m.world = .idle :: calls n.world

/-- A beacon is staged completely or not at all. -/
theorem renewed_runApplet (env : Environment W) (applet : Applet) (s : Session) (n : Node W) :
    Renewed n (applet.run env .none s n).2 := by
  cases applet with
  | idle =>
      change Renewed n (Applet.runIdle s n).2
      unfold Applet.runIdle
      split <;> exact .inl rfl
  | scan => exact .inl rfl
  | beacon =>
      change Renewed n (Applet.runBeacon env s n).2
      unfold Applet.runBeacon
      dsimp only
      split
      next x hrun => exact .inr (.inr ((Exchange.ends_stageBeacon _ _).of_ok hrun))
      next cause x _ => exact .inr (.inl rfl)
  | custom id => exact .inl rfl

theorem renewed_activate (n : Node W) : Renewed n (n.activate env .none) := by
  unfold activate
  split
  · exact .inl rfl
  next s _ =>
    split
    · dsimp only
      generalize hprepared : ({ n with access := _ } : Node W) = prepared
      generalize ({ s with applet := Option.none, netState.fresh := false } : Session) = fresh
      have hrenewed := renewed_runApplet env (s.applet.getD .idle) fresh prepared
      generalize (s.applet.getD .idle).run env .none fresh prepared = result at hrenewed ⊢
      obtain ⟨t, k⟩ := result
      have hk : Renewed n k := by
        rw [← hprepared] at hrenewed
        exact hrenewed
      dsimp only
      split
      · exact hk.trans_steady (steady_endSession k)
      · exact hk.trans_steady ((steady_storeTop k t).trans (steady_engage _ t))
    · exact .inl rfl

theorem drops_endSession (h : env.Records calls) (hcalls : calls m.world = calls n.world) :
    Drops calls n (m.endSession env) := by
  refine ⟨rfl, ?_⟩
  rw [← hcalls]
  exact h.idle m.world

/-- Only a frame that is dropped may leave a response unfinished. -/
theorem renewed_process (h : env.Records calls) (n : Node W) (frame : List UInt8) (s : Session) :
    Renewed n (n.process env frame s) ∨ Drops calls n (n.process env frame s) := by
  unfold process
  split
  · exact .inl (.of_steady (steady_endSession n))
  next inbound _ =>
    dsimp only
    generalize hx : Node.exchange { n with network := { n.network with inbound } } s = x
    have hkept := Exchange.kept_receive h.toOnlyRadio n.config x
    have hrestaged := Exchange.restaged_receive env n.config x
    generalize x.receive env n.config = result at hkept hrestaged ⊢
    obtain ⟨score, y⟩ := result
    have hworld : calls y.world = calls n.world := by
      rw [hkept.view, ← hx]
      rfl
    dsimp only at hrestaged ⊢
    -- Only a frame that is dropped may have left a response half staged.
    by_cases hdropped : score < 0
    · rw [if_pos (.inl hdropped)]
      exact .inr (drops_endSession h hworld)
    · have hrenewed : Renewed n
          (({ n with network := { n.network with inbound } } : Node W).resume y.toLayers) := by
        rw [← hx] at hrestaged
        exact (hrestaged (Int.not_lt.mp hdropped)).imp_right .inr
      split
      · exact .inl (hrenewed.trans_steady (steady_endSession _))
      · exact .inl (hrenewed.trans_steady (steady_proceed _ _))

/-- An input leaves the frames of a node finished, unless it is a frame that is
dropped. -/
theorem renewed_step (h : env.Records calls) (hn : n.Attended) (input : Input) :
    Renewed n (n.step env .none input) ∨
      (∃ frame, input = .event (.received frame true)) ∧ n.phase = .listening ∧
        Drops calls n (n.step env .none input) := by
  have hschedule : ∀ applet wait subnet channel netState,
      Renewed n (n.accept (n.schedule applet wait subnet channel netState)) := by
    intro applet wait subnet channel netState
    obtain ⟨sessions, -, heq⟩ := n.accept_schedule applet wait subnet channel netState
    rw [heq]
    exact .inl rfl
  cases input with
  | schedule applet wait subnet channel netState =>
      exact .inl (hschedule applet wait subnet channel netState)
  | scheduleScan wait => exact .inl (hschedule _ wait _ _ _)
  | scheduleBeacon wait => exact .inl (hschedule _ wait _ _ _)
  | run elapsed =>
      refine .inl ?_
      have hclosed : ∀ k : Node W, Steady n k → Renewed n (k.onTimeout env) :=
        fun k hk => .of_steady (hk.trans (steady_onTimeout k))
      change Renewed n (n.run env .none elapsed)
      unfold run
      dsimp only
      split
      · exact renewed_activate { n with sessions := _ }
      · exact .of_steady (steady_settle ⟨rfl, rfl⟩)
      · split
        · exact hclosed _ ⟨rfl, rfl⟩
        · exact .inl rfl
      all_goals exact .inl rfl
  | event event =>
      cases event with
      | received frame intact =>
          change Renewed n (n.onFrame env frame intact) ∨
            _ ∧ _ ∧ Drops calls n (n.onFrame env frame intact)
          unfold onFrame
          split
          next hphase =>
            obtain ⟨t, htop⟩ := hn.exists_top (by simp [hphase])
            rw [htop]
            cases intact with
            | true =>
                refine (renewed_process h n frame t).imp_right fun hdrops => ?_
                exact ⟨⟨frame, rfl⟩, hphase, hdrops⟩
            | false => exact .inl (.of_steady (steady_relisten n t))
          · exact .inl (.inl rfl)
      | timeout => exact .inl (.of_steady (steady_onTimeout n))
      | assessed clear => exact .inl (.of_steady (steady_onAssessed n clear))
      | sent success => exact .inl (.of_steady (steady_onSent n success))
  | flush => exact .inl (.inl rfl)

/-! ## What the radio is handed -/

/-- From `n` to `m` the radio is handed a frame. -/
def Hands (calls : W → List RadioCall) (n m : Node W) (frame : List UInt8) : Prop :=
  ∃ new, calls m.world = new ++ calls n.world ∧ ∃ call ∈ new, frame ∈ call.frame?

/-- A frame that is handed over is complete, unless it lay in the queue unfinished. -/
theorem complete_of_hands (h : env.Records calls) (hn : Behaves calls n) {input : Input}
    {frame : List UInt8} (hhands : Hands calls n (n.step env .none input) frame) :
    IsCompleteFrame frame ∨
      frame = n.network.outbound.written ∧ ¬n.network.outbound.IsFinished := by
  obtain ⟨new, hnew, call, hcall, hframe⟩ := hhands
  obtain ⟨new', hnew', hstages⟩ :=
    handed_step h (CustomApplets.silent_none calls) CustomApplets.keepsDialogs_none hn input
  obtain rfl : new = new' := List.append_cancel_right (hnew.symm.trans hnew')
  obtain ⟨hstaged, hwritten⟩ := hstages call hcall frame hframe
  rcases renewed_step h hn.1 input with (hsame | hfinished) | ⟨-, -, hdrops⟩
  · rw [hsame] at hstaged hwritten
    by_cases hfinished : n.network.outbound.IsFinished
    · rcases hfinished with hempty | hcomplete
      · rw [hempty] at hstaged
        cases hstaged
      · exact .inl (hwritten ▸ hcomplete)
    · exact .inr ⟨hwritten, hfinished⟩
  · rcases hfinished with hempty | hcomplete
    · rw [hempty] at hstaged
      cases hstaged
    · exact .inl (hwritten ▸ hcomplete)
  · have hidle : new = [.idle] := List.append_cancel_right (hnew.symm.trans hdrops.calls)
    rw [hidle] at hcall
    obtain rfl := List.mem_singleton.mp hcall
    cases hframe

theorem finished_step (h : env.Records calls) (hn : n.Attended)
    (hfinished : n.network.outbound.IsFinished) (input : Input) :
    (n.step env .none input).network.outbound.IsFinished ∨
      (∃ frame, input = .event (.received frame true)) ∧ n.phase = .listening ∧
        Drops calls n (n.step env .none input) := by
  rcases renewed_step h hn input with (hsame | hfinished') | hdropped
  · exact .inl (hsame ▸ hfinished)
  · exact .inl hfinished'
  · exact .inr hdropped

/-- Without frames that arrive, a finished queue stays finished, and all that the radio
is handed is complete. -/
theorem finished_reaches {Given : Environment W → Input → Prop}
    (hgiven : ∀ env input, Given env input → env.Records calls ∧
      ∀ frame, input ≠ .event (.received frame true))
    (hn : Behaves calls n) (hfinished : n.network.outbound.IsFinished)
    (hrun : Reaches .none Given n m) :
    m.network.outbound.IsFinished ∧ ∃ new, calls m.world = new ++ calls n.world ∧
      ∀ call ∈ new, ∀ frame ∈ call.frame?, IsCompleteFrame frame := by
  have hkeeps := CustomApplets.keepsDialogs_none (W := W)
  have hsilent := CustomApplets.silent_none calls
  induction hrun with
  | refl => exact ⟨hfinished, [], rfl, by simp⟩
  | @step m env input hreached hinput ih =>
      obtain ⟨hrecords, hnoframe⟩ := hgiven env input hinput
      obtain ⟨hm, earlier, hearlier, hcomplete⟩ := ih
      have hbehaves := hn.reaches (fun _ _ hg => (hgiven _ _ hg).1) hsilent hkeeps hreached
      obtain ⟨later, hlater, hstages⟩ := handed_step hrecords hsilent hkeeps hbehaves input
      have hfinished' := finished_step hrecords hbehaves.1 hm input
      refine ⟨hfinished'.resolve_right ?_, later ++ earlier, ?_, ?_⟩
      · rintro ⟨⟨frame, hframe⟩, -⟩
        exact hnoframe frame hframe
      · rw [hlater, hearlier, List.append_assoc]
      intro call hmem frame hframe
      rcases List.mem_append.mp hmem with hmem | hmem
      · have hhands : Hands calls m (m.step env .none input) frame :=
          ⟨later, hlater, call, hmem, hframe⟩
        exact (complete_of_hands hrecords hbehaves hhands).resolve_right
          fun hunfinished => hunfinished.2 hm
      · exact hcomplete call hmem frame hframe

/-! ## How an unfinished frame gets out -/

/-- The radio is transmitting or about to be told to. -/
def IsOnAir (n : Node W) : Prop :=
  n.phase = .sending ∨ n.phase = .assessing

/-- Where the radio accepts everything, an attempt gets on the air. -/
theorem isOnAir_attempt_obliging {n : Node (Recorded W)}
    (hchannel : n.access.txChannel?.isSome = true) :
    (n.attempt Environment.obliging.recorded).IsOnAir := by
  obtain ⟨channel, hsome⟩ := Option.isSome_iff_exists.mp hchannel
  unfold attempt
  rw [hsome]
  dsimp only
  split
  · exact .inl rfl
  · exact .inr rfl

/-- There the first attempt is made at once and is the last. -/
theorem beginSending_obliging {n : Node (Recorded W)}
    (hframe : n.network.outbound.isEmpty = false) (s : Session) :
    n.beginSending Environment.obliging.recorded s =
      (n.begun Environment.obliging.recorded s).attempt Environment.obliging.recorded := by
  have hzero : ∀ w, ((Environment.obliging : Environment W).recorded.random w).1 = 0 :=
    fun _ => rfl
  rw [beginSending_eq, if_neg (by simp [hframe])]
  apply settle_of_attempt
  · simp only [isDue, begun, pause, ChannelAccess.beginSequence_of_zero hzero]
    rfl
  · rcases isOnAir_attempt_obliging (isSome_txChannel?_begun Environment.obliging.recorded s n) with
      hphase | hphase <;> rw [isDue, hphase] <;> rfl

theorem isOnAir_beginSending_obliging {n : Node (Recorded W)}
    (hframe : n.network.outbound.isEmpty = false) (s : Session) :
    (n.beginSending Environment.obliging.recorded s).IsOnAir := by
  rw [beginSending_obliging hframe]
  exact isOnAir_attempt_obliging (isSome_txChannel?_begun _ s n)

/-- A dialog without an applet that is to send sends whatever is staged. -/
theorem activate_of_staged {custom : CustomApplets W} {t : Session} {rest : List Session}
    (hsessions : n.sessions.sessions = t :: rest) (hdue : t.counter = 0)
    (happlet : t.applet = Option.none) (hsends : t.netState.substate = .requestTx)
    (hscrapped : t.netState.scrapped = false) (hframe : n.network.outbound.isEmpty = false) :
    ∃ (k : Node W) (s : Session), k.network = n.network ∧
      n.activate env custom = k.beginSending env s := by
  unfold activate
  rw [SessionStack.top?_eq hsessions]
  dsimp only
  rw [if_pos (by simpa using hdue)]
  generalize hprepared : ({ n with access := _ } : Node W) = prepared
  generalize hfresh : ({ t with applet := Option.none, netState.fresh := false } : Session) = fresh
  have hstaged : prepared.network = n.network := by rw [← hprepared]
  have hidle : (t.applet.getD .idle).run env custom fresh prepared = (fresh, prepared) := by
    rw [happlet]
    change Applet.runIdle fresh prepared = _
    unfold Applet.runIdle
    rw [if_neg (by simp [hstaged, hframe])]
  rw [hidle]
  dsimp only
  rw [if_neg (by simp [← hfresh, hscrapped])]
  unfold engage
  rw [show fresh.netState.substate = .requestTx by rw [← hfresh]; exact hsends]
  exact ⟨prepared.storeTop fresh, fresh, hstaged, rfl⟩

/-- A dialog without an applet that is to send. -/
def bareRequest : Input :=
  .schedule Option.none 0 0 0 { substate := .requestTx }

/-- The environment in which an unfinished frame is shown to get out. -/
def recordedObliging : Environment (Recorded W) :=
  (Environment.obliging : Environment W).recorded

/-- After a flush, a dialog without an applet gets what is staged on the air. -/
theorem exists_isOnAir {n : Node (Recorded W)} (hframe : n.network.outbound.isEmpty = false) :
    ∃ (k : Node (Recorded W)) (s : Session), k.network = n.network ∧
      ((n.flush recordedObliging).step recordedObliging .none bareRequest).step recordedObliging
        .none (.run 0) = k.beginSending recordedObliging s := by
  generalize hm : (n.flush recordedObliging).step recordedObliging .none bareRequest = m
  have hnetwork : m.network = n.network := by
    rw [← hm]
    rfl
  have hphase : m.phase = .idle := by
    rw [← hm]
    rfl
  change ∃ (k : Node (Recorded W)) (s : Session), k.network = n.network ∧
    m.run recordedObliging .none 0 = k.beginSending recordedObliging s
  rw [run_of_idle hphase]
  have hsessions : ∃ t, (m.sessions.elapse 0).sessions = [t] ∧ t.counter = 0 ∧
      t.applet = Option.none ∧ t.netState.substate = .requestTx ∧
      t.netState.scrapped = false := by
    rw [← hm]
    exact ⟨_, rfl, rfl, rfl, rfl, rfl⟩
  obtain ⟨t, hsessions, hdue, happlet, hsends, hscrapped⟩ := hsessions
  rw [← hnetwork] at hframe ⊢
  exact activate_of_staged (n := { m with sessions := m.sessions.elapse 0 }) hsessions hdue
    happlet hsends hscrapped hframe

/-- An input other than a frame that arrives intact, with a record of the radio calls. -/
def Quiet (env : Environment (Recorded W)) (input : Input) : Prop :=
  (∃ plain : Environment W, env = plain.recorded) ∧ ∀ frame, input ≠ .event (.received frame true)

theorem Quiet.records {env : Environment (Recorded W)} {input : Input} (h : Quiet env input) :
    env.Records Recorded.calls := by
  obtain ⟨⟨plain, rfl⟩, -⟩ := h
  exact plain.records_recorded

/-- An unfinished frame is handed to the radio when a dialog without an applet is to
send, though no frame arrives any more. -/
theorem exists_hands {n : Node (Recorded W)} (hn : Behaves Recorded.calls n)
    (hframe : n.network.outbound.isEmpty = false) :
    ∃ m, Reaches .none Quiet n m ∧ Hands Recorded.calls n m n.network.outbound.written := by
  have hkeeps := CustomApplets.keepsDialogs_none (W := Recorded W)
  have hsilent := CustomApplets.silent_none (W := Recorded W) Recorded.calls
  have hrecords : (recordedObliging (W := W)).Records Recorded.calls :=
    Environment.obliging.records_recorded
  have hquiet : ∀ input : Input, (∀ frame, input ≠ .event (.received frame true)) →
      Quiet (recordedObliging (W := W)) input := fun _ h => ⟨⟨_, rfl⟩, h⟩
  obtain ⟨k, s, hk, hbegun⟩ := exists_isOnAir hframe
  have hscheduled : Reaches .none Quiet n
      ((n.flush recordedObliging).step recordedObliging .none bareRequest) :=
    .step (.step .refl (hquiet .flush nofun)) (hquiet bareRequest nofun)
  have hreached := hscheduled.step (hquiet (.run 0) nofun)
  -- The flush comes first, so that no call before it is the last one.
  obtain ⟨later, hlater, -⟩ := handed_step hrecords hsilent hkeeps
    (hn.reaches (fun _ _ => Quiet.records) hsilent hkeeps hscheduled) (.run 0)
  rw [hbegun] at hreached hlater
  have honair : (k.beginSending recordedObliging s).IsOnAir :=
    isOnAir_beginSending_obliging (by rw [hk, hframe]) s
  have hstaged : (k.beginSending recordedObliging s).network = n.network :=
    (steady_beginSending k s).network.trans hk
  generalize k.beginSending recordedObliging s = g at hreached hlater honair hstaged
  obtain ⟨hg, hagrees⟩ := hn.reaches (fun _ _ => Quiet.records) hsilent hkeeps hreached
  have hcalls : g.world.calls = (later ++ [.idle]) ++ n.world.calls := by
    rw [hlater, List.append_assoc]
    rfl
  rcases honair with hphase | hphase
  · obtain ⟨channel, hhead⟩ := hagrees.sending hphase
    refine ⟨g, hreached, later ++ [.idle], hcalls,
      .transmit channel g.network.outbound.written true, ?_, ?_⟩
    · rw [hcalls] at hhead
      cases later with
      | nil => cases hhead
      | cons call later =>
          obtain rfl := Option.some.inj hhead
          exact List.mem_cons_self
    · rw [hstaged]
      rfl
  · obtain ⟨channel, accepted, -, -, -, -, new, hnew, -⟩ :=
      conduct_onAssessed_clear hrecords hg hagrees hphase
    refine ⟨_, hreached.step (hquiet (.event (.assessed true)) nofun),
      new ++ .transmit channel g.network.outbound.written accepted :: (later ++ [.idle]), ?_,
      .transmit channel g.network.outbound.written accepted, ?_, ?_⟩
    · rw [List.append_assoc, List.cons_append, ← hcalls]
      exact hnew
    · simp
    · rw [hstaged]
      rfl

/-- With the applets of the library, the radio can be handed a frame that is not
complete exactly when the queue holds one that was left unfinished: from there it gets
out though no frame arrives any more. One input hands over complete frames and what
was unfinished before; and only a frame that arrives and is dropped leaves one. -/
theorem incomplete_frame_iff {config : Config} {world : W} {n : Node (Recorded W)}
    (hrun : Reaches .none (fun env _ => ∃ plain : Environment W, env = plain.recorded)
      (start config ⟨world, []⟩) n) :
    ((∃ m frame, Reaches .none Quiet n m ∧ Hands Recorded.calls n m frame ∧
        ¬IsCompleteFrame frame) ↔ ¬n.network.outbound.IsFinished) ∧
      ∀ (env : Environment W) (input : Input),
        (∀ frame, Hands Recorded.calls n (n.step env.recorded .none input) frame →
          IsCompleteFrame frame ∨
            frame = n.network.outbound.written ∧ ¬n.network.outbound.IsFinished) ∧
        (n.network.outbound.IsFinished →
          (n.step env.recorded .none input).network.outbound.IsFinished ∨
            (∃ frame, input = .event (.received frame true)) ∧ n.phase = .listening ∧
              Drops Recorded.calls n (n.step env.recorded .none input)) := by
  have hn : Behaves Recorded.calls n := by
    refine (behaves_start config world).reaches ?_ (CustomApplets.silent_none _)
      CustomApplets.keepsDialogs_none hrun
    rintro _ _ ⟨plain, rfl⟩
    exact plain.records_recorded
  refine ⟨⟨?_, ?_⟩, ?_⟩
  · rintro ⟨m, frame, hreached, ⟨new, hnew, call, hcall, hframe⟩, hincomplete⟩ hfinished
    obtain ⟨-, new', hnew', hcomplete⟩ :=
      finished_reaches (fun _ _ h => ⟨h.records, h.2⟩) hn hfinished hreached
    obtain rfl : new = new' := List.append_cancel_right (hnew.symm.trans hnew')
    exact hincomplete (hcomplete call hcall frame hframe)
  · intro hunfinished
    have hframe : n.network.outbound.isEmpty = false := by
      cases hempty : n.network.outbound.isEmpty with
      | true => exact absurd (.inl hempty) hunfinished
      | false => rfl
    obtain ⟨m, hreached, hhands⟩ := exists_hands hn hframe
    exact ⟨m, _, hreached, hhands, fun hcomplete => hunfinished (.inr hcomplete)⟩
  · intro env input
    exact ⟨fun frame hhands => complete_of_hands env.records_recorded hn hhands,
      fun hfinished => finished_step env.records_recorded hn.1 hfinished input⟩

/-- A request that calls for four bytes of a file that does not exist. -/
def missingFileRequest : List UInt8 :=
  [0x0E, 0x00, 0xF0, 0x12, 0x05, 0xAA, 0xBB, 0x20, 0x00, 0x04, 0x63, 0x00, 0x00, 0x00]

/-- After a request for a file that does not exist, the radio is handed the beginning of
the response. -/
theorem incomplete_frame_missing_file :
    ∃ n : Node (Recorded Unit),
      Reaches .none (fun env _ => ∃ plain : Environment Unit, env = plain.recorded)
        (start .default ⟨(), []⟩) n ∧
      ∃ m frame, Reaches .none Quiet n m ∧ Hands Recorded.calls n m frame ∧
        ¬IsCompleteFrame frame := by
  have hrun : Reaches .none (fun env _ => ∃ plain : Environment Unit, env = plain.recorded)
      (start .default ⟨(), []⟩)
      ((((start .default ⟨(), []⟩).step recordedObliging .none (.scheduleScan 0)).step
        recordedObliging .none (.run 0)).step recordedObliging .none
          (.event (.received missingFileRequest true))) :=
    .step (.step (.step .refl ⟨_, rfl⟩) ⟨_, rfl⟩) ⟨_, rfl⟩
  obtain ⟨hiff, -⟩ := incomplete_frame_iff hrun
  refine ⟨_, hrun, hiff.mpr ?_⟩
  decide +kernel

end Node

end Mode2
