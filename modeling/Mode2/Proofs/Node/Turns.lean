import Mode2.Proofs.Node.Consistency
import Mode2.Proofs.Node.Handovers

/-!
# What one input does for the active dialog

Whatever happens to a node at work, there are few things that it can do for its dialog:
wait, go on sending, listen or end, or begin to answer. Each is described by the retries
made, the frames handed to the radio and what is left of the retries, which is all that
the books of a dialog need to know.
-/

namespace Mode2

variable {W : Type} {env : Environment W} {calls : W → List RadioCall}

/-- What the dialog on top of the schedule is doing. -/
def Node.substate? (n : Node W) : Option Substate :=
  n.sessions.top?.map (·.netState.substate)

theorem Environment.Records.handed_of_lapses (h : env.Records calls) {n m : Node W}
    (hlapses : Node.Lapses env n m) :
    handedFrames calls m.world = handedFrames calls n.world := by
  rcases hlapses.world with hsame | hrested
  · rw [hsame]
  · rw [hrested]
    exact h.handed_idle n.world

namespace Node

/-! ## The few things to do -/

/-- The dialog still transmits its frame, or has ended. -/
structure StillSends (n m : Node W) : Prop where
  network : m.network = n.network
  phase : m.phase = .idle ∨ m.phase.IsTransmitting ∧ m.substate? = n.substate?

theorem Contended.stillSends {n m : Node W} (h : Contended n m) : StillSends n m := by
  rcases h with hended | htransmits
  · exact ⟨hended.network, .inl hended.phase⟩
  · refine ⟨htransmits.network, .inr ⟨htransmits.phase, ?_⟩⟩
    rw [substate?, htransmits.sessions, substate?]

/-- The dialog listens or has ended, and nothing was handed over. -/
structure StandsBy (calls : W → List RadioCall) (n m : Node W) : Prop where
  phase : m.phase = .listening ∨ m.phase = .idle
  retries : m.access.retries = n.access.retries
  network : m.network = n.network
  handed : handedFrames calls m.world = handedFrames calls n.world

theorem standsBy_endSession (h : env.Records calls) (n : Node W) :
    StandsBy calls n (n.endSession env) :=
  ⟨.inr rfl, rfl, rfl, h.handed_idle n.world⟩

theorem standsBy_listen (h : env.Records calls) (channel : UInt8) (timeout : Ticks) (n : Node W) :
    StandsBy calls n (n.listen env channel timeout) := by
  have hlisten := h.handed_listen channel timeout n.world
  rcases hasked : env.radio.listen channel timeout n.world with ⟨cause | _, world⟩
  all_goals rw [hasked] at hlisten
  · have heq : n.listen env channel timeout = ({ n with world } : Node W).endSession env := by
      simp [listen, hasked]
    have hended := standsBy_endSession h { n with world }
    rw [heq]
    exact ⟨hended.phase, hended.retries, hended.network, hended.handed.trans hlisten⟩
  · have heq : n.listen env channel timeout =
        { n with world, phase := .listening, countdown := timeout + watchdogSlack } := by
      simp [listen, hasked]
    rw [heq]
    exact ⟨.inl rfl, rfl, rfl, hlisten⟩

/-- What an input can do for the active dialog. -/
inductive Turn (calls : W → List RadioCall) (n : Node W) (t : Tallied W) : Prop
  /-- The dialog goes on waiting. -/
  | waits (retries : t.retries = []) (phase : t.node.phase = n.phase)
      (access : t.node.access.retries = n.access.retries)
      (network : t.node.network = n.network)
      (handed : handedFrames calls t.node.world = handedFrames calls n.world)
      (substate : t.node.substate? = n.substate?)
  /-- Its transmission goes on. -/
  | sends (phase : n.phase.IsTransmitting) (still : StillSends n t.node)
      (pays : Pays calls n.phase.free n t)
  /-- It listens or ends. -/
  | standsBy (phase : t.node.phase = .listening ∨ t.node.phase = .idle)
      (unanswered : t.node.phase = .listening → n.substate? ≠ some .responseTx)
      (retries : t.retries.length + t.node.access.retries.toNat ≤ n.access.retries.toNat)
      (network : n.phase = .listening ∨ t.node.network = n.network)
      (handed : handedFrames calls t.node.world = handedFrames calls n.world)
  /-- It begins to send a response, for which there are no retries. -/
  | answers (m : Node W) (phase : n.phase = .listening)
      (unanswered : n.substate? ≠ some .responseTx)
      (substate : m.substate? = some .responseTx) (spent : m.access.retries = 0)
      (handed : handedFrames calls m.world = handedFrames calls n.world)
      (still : StillSends m t.node) (pays : Pays calls 0 m t)

variable {n m : Node W} {t : Tallied W} {s : Session} {rest : List Session}

namespace Turn

/-- Only so much matters of the node before. -/
theorem congr (h : Turn calls m t) (hphase : m.phase = n.phase)
    (hretries : m.access.retries = n.access.retries) (hnetwork : m.network = n.network)
    (hhanded : handedFrames calls m.world = handedFrames calls n.world)
    (hsubstate : m.substate? = n.substate?) : Turn calls n t := by
  cases h with
  | waits retries phase access network handed substate =>
      exact .waits retries (phase.trans hphase) (access.trans hretries) (network.trans hnetwork)
        (handed.trans hhanded) (substate.trans hsubstate)
  | sends phase still pays =>
      rw [hphase] at phase pays
      apply Turn.sends phase _ (pays.congr hretries hnetwork hhanded)
      exact ⟨still.network.trans hnetwork, hsubstate ▸ still.phase⟩
  | standsBy phase unanswered retries network handed =>
      rw [hsubstate] at unanswered
      rw [hretries] at retries
      rw [hphase, hnetwork] at network
      exact .standsBy phase unanswered retries network (handed.trans hhanded)
  | answers k phase unanswered substate spent handed still pays =>
      rw [hphase] at phase
      rw [hsubstate] at unanswered
      exact .answers k phase unanswered substate spent (handed.trans hhanded) still pays

theorem of_standsBy (h : StandsBy calls m t.node)
    (hretries : t.retries.length + m.access.retries.toNat ≤ n.access.retries.toNat)
    (hnetwork : n.phase = .listening ∨ m.network = n.network)
    (hhanded : handedFrames calls m.world = handedFrames calls n.world)
    (hunanswered : t.node.phase = .listening → n.substate? ≠ some .responseTx) :
    Turn calls n t := by
  apply Turn.standsBy h.phase hunanswered
  · rw [h.retries]
    exact hretries
  · exact hnetwork.imp_right h.network.trans
  · exact h.handed.trans hhanded

theorem of_standsBy_plain {k : Node W} (h : StandsBy calls m k)
    (hretries : m.access.retries.toNat ≤ n.access.retries.toNat)
    (hnetwork : n.phase = .listening ∨ m.network = n.network)
    (hhanded : handedFrames calls m.world = handedFrames calls n.world)
    (hunanswered : k.phase = .listening → n.substate? ≠ some .responseTx) :
    Turn calls n (.plain k) :=
  of_standsBy h (by simpa using hretries) hnetwork hhanded hunanswered

theorem of_idle (hphase : t.node.phase = .idle)
    (hretries : t.retries.length + t.node.access.retries.toNat ≤ n.access.retries.toNat)
    (hnetwork : n.phase = .listening ∨ t.node.network = n.network)
    (hhanded : handedFrames calls t.node.world = handedFrames calls n.world) : Turn calls n t :=
  .standsBy (.inr hphase) (fun hlistens => by simp [hphase] at hlistens) hretries hnetwork hhanded

end Turn

/-- Time may pass and dialogs may be scheduled. -/
theorem turn_plain {n : Node W} {sessions : SessionStack} (countdown : Ticks)
    (hsubstate : ({ n with sessions } : Node W).substate? = n.substate?) :
    Turn calls n (.plain { n with sessions, countdown }) :=
  .waits rfl rfl rfl rfl rfl hsubstate

theorem turn_self (n : Node W) : Turn calls n (.plain n) :=
  turn_plain n.countdown rfl

theorem turn_endSession (h : env.Records calls) (n : Node W) :
    Turn calls n (.plain (n.endSession env)) :=
  .of_idle rfl (Nat.le_of_eq (Nat.zero_add _)) (.inr rfl) (h.handed_idle n.world)

/-! ## Transmissions -/

theorem Contended.turn (hphase : n.phase.IsTransmitting) (hcontended : Contended n t.node)
    (hpays : Pays calls n.phase.free n t) : Turn calls n t :=
  .sends hphase hcontended.stillSends hpays

theorem contended_begun (s : Session) (n : Node W) : Contended n (n.begun env s) :=
  .inr ⟨.inl rfl, rfl, rfl, isSome_txChannel?_begun env s n⟩

theorem stillSends_beginSending (s : Session) (n : Node W) :
    StillSends n (n.beginSending env s) := by
  rw [beginSending_eq]
  split
  · exact ⟨rfl, .inl rfl⟩
  · exact (contended_settle (contended_begun s n)).stillSends

theorem turn_onAssessed (h : env.Records calls) (hn : n.Consistent) (clear : Bool) :
    Turn calls n (.onAssessed env clear n) := by
  by_cases hphase : n.phase = .assessing
  · obtain ⟨-, -, hchannel⟩ := hn.transmitting (.inr (.inl hphase))
    have hyields : Turn calls n ((Tallied.yieldChannel env n).settled env) := by
      apply Contended.turn (.inr (.inl hphase))
      · rw [Tallied.node_settled, Tallied.node_yieldChannel]
        exact contended_settle (contended_yieldChannel hchannel)
      · rw [hphase]
        apply Tallied.pays_settled h (Tallied.pays_yieldChannel h n)
        rw [Tallied.node_yieldChannel]
        exact (steady_yieldChannel n).network
    have hsends : ∀ channel, Turn calls n ((Tallied.send env channel n).settled env) := by
      intro channel
      apply Contended.turn (.inr (.inl hphase))
      · rw [Tallied.node_settled, Tallied.node_send]
        exact contended_settle (contended_send hchannel channel)
      · rw [hphase]
        apply Tallied.pays_settled h (Tallied.pays_send h channel n)
        rw [Tallied.node_send]
        exact (steady_send n channel).network
    rw [Tallied.onAssessed, if_pos hphase]
    split
    · split
      · exact hsends _
      · exact hyields
    · exact hyields
  · rw [Tallied.onAssessed, if_neg hphase]
    exact turn_self n

/-- Without a retry the dialog listens for responses or ends. -/
theorem standsBy_afterRequest (h : env.Records calls) (hspent : n.access.spendRetry = none)
    (s : Session) : StandsBy calls n (n.afterRequest env s) := by
  unfold afterRequest
  rw [hspent]
  dsimp only
  split
  · exact standsBy_endSession h n
  · have hlistens := standsBy_listen h
    exact { hlistens _ _ (n.storeTop _) with }

theorem turn_afterRequest (h : env.Records calls) (hphase : n.phase = .sending)
    (hchannel : n.access.txChannel?.isSome = true)
    (hsubstate : n.substate? = some .requestTx) (s : Session) :
    Turn calls n (.afterRequest env s n) := by
  cases hspent : n.access.spendRetry with
  | some access =>
      have hretries := ChannelAccess.retries_spendRetry hspent
      have heq : Tallied.afterRequest env s n = Tallied.settled env
          ⟨[.repetition], ({ n with access } : Node W).pause access.guardTime⟩ := by
        simp [Tallied.afterRequest, hspent]
      rw [heq]
      apply Contended.turn (.inr (.inr hphase))
      · rw [← ChannelAccess.txChannel?_spendRetry hspent] at hchannel
        rw [Tallied.node_settled]
        exact contended_settle (.inr ⟨.inl rfl, rfl, rfl, hchannel⟩)
      · have hfree : n.phase.free = 1 := by rw [hphase, Phase.free]
        rw [hfree]
        refine Tallied.pays_settled h ?_ rfl
        apply Pays.of_same
        · dsimp only [pause, List.length_singleton]
          omega
        · rfl
        · exact Nat.le_refl 1
  | none =>
      have heq : Tallied.afterRequest env s n = .plain (n.afterRequest env s) := by
        simp [Tallied.afterRequest, hspent]
      rw [heq]
      apply Turn.of_standsBy_plain (standsBy_afterRequest h hspent s) (Nat.le_refl _) (.inr rfl) rfl
      intro _
      simp [hsubstate]

theorem turn_onSent (h : env.Records calls) (hn : n.Consistent) (success : Bool) :
    Turn calls n (.onSent env success n) := by
  by_cases hphase : n.phase = .sending
  · obtain ⟨⟨u, htop, -⟩, -, hchannel⟩ := hn.transmitting (.inr (.inr hphase))
    rw [Tallied.onSent, if_pos hphase]
    cases success with
    | false =>
        rw [if_neg Bool.false_ne_true]
        apply Contended.turn (.inr (.inr hphase))
        · rw [Tallied.node_settled, Tallied.node_retry]
          exact contended_settle (contended_retry hchannel)
        · rw [hphase]
          apply Tallied.pays_settled h (Tallied.pays_retry h n)
          rw [Tallied.node_retry]
          exact (steady_retry n).network
    | true =>
        rw [if_pos rfl, htop]
        dsimp only
        split
        next hsubstate =>
          apply turn_afterRequest h hphase hchannel
          simp [substate?, htop, hsubstate]
        all_goals exact turn_endSession h n
  · rw [Tallied.onSent, if_neg hphase]
    exact turn_self n

/-! ## Frames -/

/-- The continuation of a dialog is placed under it. -/
theorem substate?_responding (hsessions : n.sessions.sessions = s :: rest) (hdue : s.counter = 0) :
    (n.responding s).substate? = some s.netState.substate := by
  have hsame : n.substate? = some s.netState.substate := by
    rw [substate?, SessionStack.top?_eq hsessions, Option.map_some]
  unfold responding
  dsimp only
  split
  · generalize hcopy : n.sessions.scheduleCopy s _ _ = copied
    cases copied with
    | error cause => exact hsame
    | ok scheduled =>
        obtain ⟨copy, sessions⟩ := scheduled
        have hplaced := SessionStack.sessions_scheduleCopy hcopy
        rw [hsessions, Schedule.place_under_due hdue] at hplaced
        simp [substate?, SessionStack.top?_eq hplaced]
  · exact hsame

/-- Whoever has nothing to send listens on or ends. -/
theorem standsBy_proceed (h : env.Records calls) (hsubstate : s.netState.substate ≠ .responseTx)
    (n : Node W) : StandsBy calls n (n.proceed env s) := by
  have hlistens := standsBy_listen h
  cases hcase : s.netState.substate with
  | responseTx => exact absurd hcase hsubstate
  | requestTx =>
      simp only [proceed, hcase]
      exact standsBy_endSession h n
  | requestRx =>
      simp only [proceed, hcase]
      split
      · exact { hlistens _ _ (n.storeTop _) with }
      · exact standsBy_endSession h n
  | responseRx =>
      simp only [proceed, hcase]
      split
      · exact standsBy_endSession h n
      · exact { hlistens _ _ (n.storeTop _) with }

/-- Going on after a frame in a dialog that has not answered yet. -/
theorem turn_proceed (h : env.Records calls) (hphase : n.phase = .listening)
    (hunanswered : n.substate? ≠ some .responseTx) {u : Session}
    (hsessions : m.sessions.sessions = u :: rest) (hdue : s.counter = 0)
    (hretries : m.access.retries.toNat ≤ n.access.retries.toNat)
    (hhanded : handedFrames calls m.world = handedFrames calls n.world) :
    Turn calls n (.proceed env s m) := by
  by_cases hsubstate : s.netState.substate = .responseTx
  · have heq : Tallied.proceed env s m =
        .beginSending env s ((m.storeTop s).responding s) := by
      simp [Tallied.proceed, hsubstate]
    rw [heq]
    have hstored : (m.storeTop s).sessions.sessions = s :: rest :=
      SessionStack.sessions_setTop hsessions s
    apply Turn.answers ((m.storeTop s).responding s) hphase hunanswered
    · rw [substate?_responding hstored hdue, hsubstate]
    · exact retries_responding s _
    · rw [world_responding]
      exact hhanded
    · rw [Tallied.node_beginSending]
      exact stillSends_beginSending s _
    · exact Tallied.pays_beginSending h s _
  · have heq : Tallied.proceed env s m = .plain (m.proceed env s) := by
      cases hcase : s.netState.substate <;> simp_all [Tallied.proceed]
    rw [heq]
    exact .of_standsBy_plain (standsBy_proceed h hsubstate m) hretries (.inl hphase) hhanded
      fun _ => hunanswered

theorem turn_process (h : env.Records calls) (hphase : n.phase = .listening)
    (hunanswered : n.substate? ≠ some .responseTx) (hsessions : n.sessions.sessions = s :: rest)
    (hdue : s.counter = 0) (frame : List UInt8) : Turn calls n (.process env frame s n) := by
  cases hload : FrameQueue.load frame with
  | error cause =>
      simp only [Tallied.process, hload]
      exact turn_endSession h n
  | ok inbound =>
      simp only [Tallied.process, hload]
      generalize hx : Node.exchange { n with network := { n.network with inbound } } s = x
      have hkept := Exchange.kept_receive h.toOnlyRadio n.config x
      have hretries := UInt8.le_iff_toNat_le.mp (Exchange.retries_receive env n.config x)
      have hcounter := Session.counter_of_slot hkept.slot
      have hhanded := handedFrames_of_calls hkept.view
      subst hx
      split
      · exact .of_idle rfl (Nat.le_trans (Nat.le_of_eq (Nat.zero_add _)) hretries) (.inl hphase)
          ((h.handed_idle _).trans hhanded)
      · exact turn_proceed h hphase hunanswered hsessions (hcounter.trans hdue) hretries hhanded

theorem turn_relisten (h : env.Records calls) (hunanswered : n.substate? ≠ some .responseTx)
    (s : Session) : Turn calls n (.relisten env s n) := by
  by_cases hlistens : s.netState.substate = .requestRx ∧ n.access.spendRetry ≠ none
  · obtain ⟨hsubstate, hspends⟩ := hlistens
    obtain ⟨access, hspent⟩ := Option.ne_none_iff_exists'.mp hspends
    have hretries := ChannelAccess.retries_spendRetry hspent
    have heq : Tallied.relisten env s n = ⟨[.listening],
        (({ n with access } : Node W).storeTop s).listen env s.channel n.listenWindow⟩ := by
      simp [Tallied.relisten, hsubstate, hspent]
    rw [heq]
    apply Turn.of_standsBy (standsBy_listen h _ _ _)
    · dsimp only [storeTop, List.length_singleton]
      omega
    · exact .inr rfl
    · rfl
    · exact fun _ => hunanswered
  · have heq : Tallied.relisten env s n = .plain (n.endSession env) := by
      cases hsubstate : s.netState.substate <;> cases hspent : n.access.spendRetry <;>
        simp_all [Tallied.relisten]
    rw [heq]
    exact turn_endSession h n

/-- A dialog that listens has not answered. -/
theorem Consistent.unanswered (hn : n.Consistent) (hphase : n.phase = .listening) :
    n.substate? ≠ some .responseTx := by
  obtain ⟨u, htop, hawaits⟩ := hn.listening hphase
  rcases hawaits with hawaits | hawaits <;> simp [substate?, htop, hawaits]

theorem turn_onFrame (h : env.Records calls) (hn : n.Consistent) (frame : List UInt8)
    (intact : Bool) : Turn calls n (.onFrame env frame intact n) := by
  by_cases hphase : n.phase = .listening
  · obtain ⟨u, rest, hsessions, hdue, -⟩ := hn.exists_active (by simp [hphase])
    rw [Tallied.onFrame, if_pos hphase, SessionStack.top?_eq hsessions]
    cases intact with
    | true => exact turn_process h hphase (hn.unanswered hphase) hsessions hdue frame
    | false => exact turn_relisten h (hn.unanswered hphase) u
  · rw [Tallied.onFrame, if_neg hphase]
    exact turn_self n

theorem turn_onTimeout (h : env.Records calls)
    (hunanswered : n.phase = .listening → n.substate? ≠ some .responseTx) :
    Turn calls n (.onTimeout env n) := by
  by_cases hphase : n.phase = .listening
  · rw [Tallied.onTimeout, if_pos hphase]
    cases n.sessions.top? with
    | none => exact .of_idle rfl (Nat.le_of_eq (Nat.zero_add _)) (.inr rfl) rfl
    | some u => exact turn_relisten h (hunanswered hphase) _
  · rw [Tallied.onTimeout, if_neg hphase]
    exact turn_self n

/-! ## Inputs -/

theorem substate?_elapse (n : Node W) (elapsed : Ticks) :
    ({ n with sessions := n.sessions.elapse elapsed } : Node W).substate? = n.substate? := by
  cases hsessions : n.sessions.sessions with
  | nil => simp [substate?, SessionStack.top?, hsessions]
  | cons t rest => simp [substate?, SessionStack.top?, hsessions, Session.age]

theorem turn_run (h : env.Records calls) {custom : CustomApplets W} (hn : n.Consistent)
    (hactive : n.phase ≠ .idle) (elapsed : Ticks) :
    Turn calls n (.run env custom elapsed n) := by
  have hsubstate := n.substate?_elapse elapsed
  cases hphase : n.phase with
  | idle => exact absurd hphase hactive
  | pausing =>
      obtain ⟨-, -, hchannel⟩ := hn.transmitting (.inl hphase)
      have hturn : ∀ m : Node W, m.phase = .pausing → m.access = n.access →
          Turn calls m (.settle env m) := by
        intro m hm haccess
        apply Contended.turn (.inl hm)
        · rw [Tallied.node_settle]
          exact contended_settle (.inr ⟨.inl hm, rfl, rfl, by rw [haccess]; exact hchannel⟩)
        · rw [hm]
          exact Tallied.pays_settle h m
      simp only [Tallied.run, hphase]
      have hsettles := hturn { n with
        sessions := n.sessions.elapse elapsed
        phase := .pausing
        countdown := n.countdown - elapsed } rfl rfl
      exact hsettles.congr hphase.symm rfl rfl rfl hsubstate
  | listening =>
      simp only [Tallied.run, hphase]
      split
      · have hunanswered := hn.unanswered hphase
        rw [← hsubstate] at hunanswered
        have hturn := turn_onTimeout h (n := { n with
          sessions := n.sessions.elapse elapsed
          phase := .listening
          countdown := n.countdown - elapsed
          world := (env.radio.idle n.world).2 }) fun _ => hunanswered
        exact hturn.congr hphase.symm rfl rfl (h.handed_idle n.world) hsubstate
      · rw [← hphase]
        exact turn_plain _ hsubstate
  | assessing | sending =>
      simp only [Tallied.run, hphase]
      rw [← hphase]
      exact turn_plain _ hsubstate

/-- Every input does one of these things for the active dialog. -/
theorem turn_step (h : env.Records calls) {custom : CustomApplets W} (hn : n.Consistent)
    (hactive : n.phase ≠ .idle) (input : Input) : Turn calls n (.step env custom n input) := by
  have hschedule : ∀ applet wait subnet channel netState,
      Turn calls n (.plain (n.accept (n.schedule applet wait subnet channel netState))) := by
    intro applet wait subnet channel netState
    obtain ⟨sessions, hschedules, heq⟩ := n.accept_schedule applet wait subnet channel netState
    obtain ⟨u, rest, hsessions, hdue, -⟩ := hn.exists_active hactive
    have hgrows := hschedules.grows
    rw [hsessions] at hgrows
    -- The active dialog is due, so what is scheduled comes under it.
    obtain ⟨rest', -, hplaced⟩ := hgrows.cons_due hdue
    rw [heq]
    apply turn_plain
    simp [substate?, SessionStack.top?_eq hsessions, SessionStack.top?_eq hplaced]
  cases input with
  | schedule applet wait subnet channel netState =>
      exact hschedule applet wait subnet channel netState
  | scheduleScan wait => exact hschedule _ wait _ _ _
  | scheduleBeacon wait => exact hschedule _ wait _ _ _
  | run elapsed => exact turn_run h hn hactive elapsed
  | event event =>
      cases event with
      | received frame intact => exact turn_onFrame h hn frame intact
      | timeout => exact turn_onTimeout h hn.unanswered
      | assessed clear => exact turn_onAssessed h hn clear
      | sent success => exact turn_onSent h hn success
  | flush =>
      exact .of_idle rfl (Nat.le_of_eq (Nat.zero_add _)) (.inr rfl) (h.handed_idle n.world)

end Node

end Mode2
