import Mode2.Proofs.Exchange.Responding
import Mode2.Proofs.Node.Appletless
import Mode2.Proofs.Node.RetryBudget
import Mode2.Proofs.Node.StagedFrames

/-!
# Where the frames of a dialog come from

All dialogs stage their frames in one queue. What is sent as a response has been staged
in the same dialog, in answer to a frame that it received. What is sent as a request is
whatever the applet of the dialog has left in the queue, and no dialog empties the queue
when it ends. Without an applet a dialog that is to send is therefore scrapped only
before the first frame was staged; later it sends the last frame of another dialog.
-/

namespace Mode2

variable {W : Type} {env : Environment W} {custom : CustomApplets W}
  {calls : W → List RadioCall}

namespace Node

variable {n m : Node W} {t : Tallied W}

/-! ## Answers to frames -/

/-- The frame, received in the dialog on top, is answered with a response that is staged
in this dialog from its header on. -/
def Replies (env : Environment W) (n : Node W) (frame response : List UInt8) : Prop :=
  ∃ (s : Session) (inbound : FrameQueue) (z : Exchange W) (body : List UInt8),
    n.sessions.top? = some s ∧ FrameQueue.load frame = .ok inbound ∧
    z.session.slot = s.slot ∧
    let result :=
      (Node.exchange { n with network := { n.network with inbound } } s).receive env n.config
    0 ≤ result.1 ∧ Exchange.Responds env n.config z.network z.session body result.2 ∧
      response = result.2.network.outbound.written

/-- Nothing was handed over, and nothing is about to be. -/
structure Withholds (calls : W → List RadioCall) (n m : Node W) : Prop where
  phase : ¬m.phase.IsTransmitting
  handed : handedFrames calls m.world = handedFrames calls n.world

theorem StandsBy.withholds (h : StandsBy calls n m) : Withholds calls n m where
  phase hsends := h.phase.elim hsends.ne_listening hsends.ne_idle
  handed := h.handed

theorem withholds_endSession (h : env.Records calls) (n : Node W) :
    Withholds calls n (n.endSession env) :=
  (standsBy_endSession h n).withholds

theorem withholds_relisten (h : env.Records calls) (s : Session) (n : Node W) :
    Withholds calls n (n.relisten env s) := by
  unfold relisten
  split
  next access _ _ =>
    have hlistens := standsBy_listen h s.channel n.listenWindow
      (({ n with access } : Node W).storeTop s)
    exact ⟨hlistens.withholds.phase, hlistens.handed⟩
  · exact withholds_endSession h n

/-- Whoever has nothing to respond hands nothing over after a frame. -/
theorem withholds_or_replies_process (h : env.Records calls) {s : Session}
    (htop : n.sessions.top? = some s) (hunanswered : s.netState.substate ≠ .responseTx)
    (frame : List UInt8) :
    Withholds calls n (n.process env frame s) ∨
      n.Replies env frame (n.process env frame s).network.outbound.written := by
  cases hload : FrameQueue.load frame with
  | error cause =>
      simp only [process, hload]
      exact .inl (withholds_endSession h n)
  | ok inbound =>
      simp only [process, hload]
      generalize hx : Node.exchange { n with network := { n.network with inbound } } s = x
      have hunanswered' : x.Unanswered s.slot := by
        rw [← hx]
        exact ⟨rfl, hunanswered⟩
      have hhanded : handedFrames calls (x.receive env n.config).2.world =
          handedFrames calls n.world := by
        rw [handedFrames_of_calls (Exchange.kept_receive h.toOnlyRadio n.config x).view, ← hx]
        rfl
      have hresponds := Exchange.exists_responds_of_unanswered env n.config hunanswered'
      generalize hresult : x.receive env n.config = result at hhanded hresponds ⊢
      split
      · exact .inl ⟨(withholds_endSession h _).phase, (h.handed_idle _).trans hhanded⟩
      next hgoes =>
        have hscore : 0 ≤ result.1 := Int.not_lt.mp fun hneg => hgoes (.inl hneg)
        by_cases hsubstate : result.2.session.netState.substate = .responseTx
        · obtain ⟨z, body, hz, hbody⟩ := hresponds hscore hsubstate
          refine .inr ⟨s, inbound, z, body, htop, hload, hz.1, ?_⟩
          rw [hx, hresult]
          have hsteady : Steady (n.resume result.2.toLayers)
              ((n.resume result.2.toLayers).proceed env result.2.session) := steady_proceed _ _
          exact ⟨hscore, hbody, congrArg (fun network => network.outbound.written) hsteady.network⟩
        · have hstands := standsBy_proceed h hsubstate (n.resume result.2.toLayers)
          exact .inl ⟨hstands.withholds.phase, hstands.handed.trans hhanded⟩

/-- A node that listens hands nothing over unless it answers a frame. -/
theorem withholds_or_replies (h : env.Records calls) (custom : CustomApplets W)
    (hn : n.Consistent) (hphase : n.phase = .listening) (input : Input) :
    Withholds calls n (n.step env custom input) ∨
      ∃ frame, input = .event (.received frame true) ∧
        n.Replies env frame (n.step env custom input).network.outbound.written := by
  have hlapses : ∀ m, Lapses env n m → Withholds calls n m := fun m hm =>
    ⟨fun hsends => hsends.ne_listening (hm.phase.trans hphase), h.handed_of_lapses hm⟩
  rcases input.requests_or_acts with hrequests | hacts | rfl
  · exact .inl (hlapses _ (lapses_of_requests env custom hrequests n))
  · rcases step_of_listening env custom hn hphase hacts with
      ⟨frame, s, rfl, htop, heq⟩ | ⟨m, s, hm, heq⟩ | hm
    · have hunanswered : s.netState.substate ≠ .responseTx := fun hresponds =>
        hn.unanswered hphase (by simp [substate?, htop, hresponds])
      rw [heq]
      refine (withholds_or_replies_process h htop hunanswered frame).imp_right ?_
      exact fun hreplies => ⟨frame, rfl, hreplies⟩
    · have hrelistens := withholds_relisten h s m
      rw [heq]
      exact .inl ⟨hrelistens.phase, hrelistens.handed.trans (h.handed_of_lapses hm)⟩
    · exact .inl (hlapses _ hm)
  · exact .inl ⟨fun hsends => hsends.ne_idle rfl, h.handed_idle n.world⟩

/-! ## What an input hands over -/

/-- Whatever is handed over lies in the queue afterwards. -/
theorem Turn.handed (hturn : Turn calls n t) :
    ∃ count, handedFrames calls t.node.world =
      List.replicate count t.node.network.outbound.written ++ handedFrames calls n.world := by
  cases hturn with
  | waits retries phase access network handed substate => exact ⟨0, handed⟩
  | sends phase still pays =>
      obtain ⟨-, count, hcount, -⟩ := pays
      exact ⟨count, by rw [still.network]; exact hcount⟩
  | standsBy phase unanswered retries network handed => exact ⟨0, handed⟩
  | answers k phase unanswered substate spent handed still pays =>
      obtain ⟨-, count, hcount, -⟩ := pays
      exact ⟨count, by rw [still.network, ← handed]; exact hcount⟩

/-- A dialog that transmits keeps to its frame. -/
theorem Turn.transmitting (hturn : Turn calls n t) (hphase : n.phase.IsTransmitting) :
    t.node.network = n.network ∧
      (t.node.phase.IsTransmitting → t.node.substate? = n.substate?) := by
  cases hturn with
  | waits retries phase access network handed substate => exact ⟨network, fun _ => substate⟩
  | sends phase still pays =>
      refine ⟨still.network, fun hsends => ?_⟩
      rcases still.phase with hidle | ⟨-, hsame⟩
      · exact absurd hidle hsends.ne_idle
      · exact hsame
  | standsBy phase unanswered retries network handed =>
      refine ⟨network.resolve_left hphase.ne_listening, fun hsends => ?_⟩
      exact absurd phase (not_or.mpr ⟨hsends.ne_listening, hsends.ne_idle⟩)
  | answers k phase unanswered substate spent handed still pays =>
      exact absurd phase hphase.ne_listening

end Node

/-! ## Responses -/

namespace Course

variable {n m k : Node W} {s : Session} {t : Tallied W} {ledger : Ledger}

/-- In the course of a dialog so far, the response was staged in answer to a frame that
the dialog received. -/
inductive Replied (calls : W → List RadioCall) (custom : CustomApplets W) (n : Node W)
    (s : Session) (k : Node W) (response : List UInt8) : Ledger → Node W → Prop
  | reply {ledger : Ledger} {m : Node W} {env : Environment W} {frame : List UInt8} :
      Course calls custom n s k ledger m → m.phase = .listening → env.Records calls →
      m.Replies env frame response →
      Replied calls custom n s k response
        (ledger.extend calls m (.step env custom m (.event (.received frame true))))
        (m.step env custom (.event (.received frame true)))
  | step {ledger : Ledger} {m : Node W} {env : Environment W} (input : Input) :
      Replied calls custom n s k response ledger m → m.phase ≠ .idle → env.Records calls →
      Replied calls custom n s k response (ledger.extend calls m (.step env custom m input))
        (m.step env custom input)

/-- The responses so far were staged in the course of the dialog, and so is the one that
is being sent. -/
structure Sourced (calls : W → List RadioCall) (custom : CustomApplets W) (n : Node W)
    (s : Session) (k : Node W) (ledger : Ledger) (m : Node W) : Prop where
  responses : ∀ f ∈ ledger.responses, Replied calls custom n s k f ledger m
  staged : m.phase.IsTransmitting → m.substate? = some .responseTx →
    Replied calls custom n s k m.network.outbound.written ledger m

namespace Sourced

theorem of_nil (hnone : ledger.responses = [])
    (hrequest : m.phase.IsTransmitting → m.substate? ≠ some .responseTx) :
    Sourced calls custom n s k ledger m where
  responses f hf := by
    rw [hnone] at hf
    exact absurd hf List.not_mem_nil
  staged hsends hresponse := absurd hresponse (hrequest hsends)

/-- A new response lies in the queue, and is none as long as a request is sent. -/
theorem mem_responses_extend (hturn : Node.Turn calls m t) {f : List UInt8}
    (hf : f ∈ (ledger.extend calls m t).responses) :
    f ∈ ledger.responses ∨
      m.substate? ≠ some .requestTx ∧ f = t.node.network.outbound.written := by
  obtain ⟨count, hcount⟩ := hturn.handed
  by_cases hsubstate : m.substate? = some .requestTx
  · rw [Ledger.extend_of_request hsubstate hcount] at hf
    exact .inl hf
  · rw [Ledger.extend_of_response hsubstate hcount] at hf
    rcases List.mem_append.mp hf with hf | hf
    · exact .inr ⟨hsubstate, List.eq_of_mem_replicate hf⟩
    · exact .inl hf

/-- Every input keeps to responses that were staged in the dialog. -/
theorem step (h : Sourced calls custom n s k ledger m) (hrecords : env.Records calls)
    (hm : m.Consistent) (hactive : m.phase ≠ .idle) (hcourse : Course calls custom n s k ledger m)
    (input : Input) :
    Sourced calls custom n s k (ledger.extend calls m (.step env custom m input))
      (m.step env custom input) := by
  have hturn : Node.Turn calls m (.step env custom m input) :=
    Node.turn_step hrecords hm hactive input
  have hlater : ∀ f, Replied calls custom n s k f ledger m → Replied calls custom n s k f
      (ledger.extend calls m (.step env custom m input)) (m.step env custom input) :=
    fun f hf => .step input hf hactive hrecords
  have hresponses : ∀ f ∈ (ledger.extend calls m (.step env custom m input)).responses, _ :=
    fun f hf => mem_responses_extend hturn hf
  rw [Tallied.node_step] at hresponses
  by_cases hphase : m.phase = .listening
  · rcases Node.withholds_or_replies hrecords custom hm hphase input with
      hsilent | ⟨frame, rfl, hreplies⟩
    · refine ⟨fun f hf => ?_, fun hsends => absurd hsends hsilent.phase⟩
      rw [Ledger.extend_of_same (by rw [Tallied.node_step]; exact hsilent.handed)] at hf
      exact hlater f (h.responses f hf)
    · have hreplied := Replied.reply hcourse hphase hrecords hreplies
      refine ⟨fun f hf => ?_, fun _ _ => hreplied⟩
      rcases hresponses f hf with hf | ⟨-, rfl⟩
      · exact hlater f (h.responses f hf)
      · exact hreplied
  · have hsends : m.phase.IsTransmitting := by
      cases hcase : m.phase <;> simp_all [Phase.IsTransmitting]
    obtain ⟨⟨u, htop, hsending⟩, -, -⟩ := hm.transmitting hsends
    obtain ⟨hnetwork, hsubstate⟩ := hturn.transmitting hsends
    rw [Tallied.node_step] at hnetwork hsubstate
    refine ⟨fun f hf => ?_, fun hstill hresponse => ?_⟩
    · rcases hresponses f hf with hf | ⟨hresponse, rfl⟩
      · exact hlater f (h.responses f hf)
      · rw [hnetwork]
        refine hlater _ (h.staged hsends ?_)
        rcases hsending with hrequest | hresponds
        · exact absurd (by simp [Node.substate?, htop, hrequest]) hresponse
        · simp [Node.substate?, htop, hresponds]
    · rw [hnetwork]
      exact hlater _ (h.staged hsends ((hsubstate hstill).symm.trans hresponse))

end Sourced

/-- What the applet has left is sent as a request, or nothing is. -/
theorem withholds_or_requests (h : env.Records calls) (hcustom : custom.Disciplined)
    {elapsed : Ticks} (hactivates : Activates env custom elapsed n s k) :
    Node.Withholds calls (k.storeTop s) (n.step env custom (.run elapsed)) ∨
      (k.storeTop s).substate? = some .requestTx ∧
        Node.StillSends (k.storeTop s) (n.step env custom (.run elapsed)) := by
  have hstored := hactivates.substate?_storeTop hcustom
  rw [hactivates.step_eq]
  split
  · have hended := Node.withholds_endSession h k
    exact .inl ⟨hended.phase, hended.handed⟩
  · cases hsubstate : s.netState.substate with
    | requestTx =>
        refine .inr ⟨hsubstate ▸ hstored, ?_⟩
        simp only [Node.engage, hsubstate]
        exact Node.stillSends_beginSending s _
    | requestRx =>
        simp only [Node.engage, hsubstate]
        exact .inl (Node.standsBy_listen h _ _ _).withholds
    | responseTx | responseRx =>
        simp only [Node.engage, hsubstate]
        exact .inl (Node.withholds_endSession h _)

/-- Before the first frame is received no response is sent. -/
theorem sourced_activate (h : env.Records calls) (hcustom : custom.Disciplined) {elapsed : Ticks}
    (hactivates : Activates env custom elapsed n s k) :
    Sourced calls custom n s k
      (Ledger.empty.extend calls (k.storeTop s) (.step env custom n (.run elapsed)))
      (n.step env custom (.run elapsed)) := by
  rcases withholds_or_requests h hcustom hactivates with hsilent | ⟨hsubstate, hstill⟩
  · refine .of_nil ?_ fun hsends => absurd hsends hsilent.phase
    rw [Ledger.extend_of_same (by rw [Tallied.node_step]; exact hsilent.handed)]
    rfl
  · refine .of_nil ?_ fun hsends => ?_
    · rw [Ledger.extend, if_pos hsubstate]
      rfl
    · rcases hstill.phase with hidle | ⟨-, hsame⟩
      · exact absurd hidle hsends.ne_idle
      · simp [hsame, hsubstate]

/-- Whatever is sent as a response in the course of a dialog was staged in this course. -/
theorem sourced (hcustom : custom.Disciplined) (hn : n.Consistent)
    (hcourse : Course calls custom n s k ledger m) : Sourced calls custom n s k ledger m := by
  induction hcourse with
  | activate hrecords hactivates => exact sourced_activate hrecords hcustom hactivates
  | step input hcourse hactive hrecords ih =>
      obtain ⟨hm, -⟩ := hcourse.balanced hcustom hn
      exact ih.step hrecords hm hactive hcourse input

/-! ## Whatever is handed over -/

/-- An idle node activates a dialog or hands nothing over. -/
theorem withholds_or_activates (h : env.Records calls) (custom : CustomApplets W)
    (hidle : n.phase = .idle) (input : Input) :
    ((n.step env custom input).phase = .idle ∧
      handedFrames calls (n.step env custom input).world = handedFrames calls n.world) ∨
    ∃ elapsed s k, input = .run elapsed ∧ Activates env custom elapsed n s k := by
  rcases activates_or_lapses env custom hidle input with hactivates | hlapses
  · exact .inr hactivates
  · exact .inl ⟨hlapses.phase.trans hidle, h.handed_of_lapses hlapses⟩

/-- A node that is not idle is in the course of a dialog. -/
theorem exists_of_active {Given : Environment W → Input → Prop} {start : Node W}
    (hgiven : ∀ env input, Given env input → env.Records calls) (hstart : start.phase = .idle)
    (hrun : Node.Reaches custom Given start m) (hactive : m.phase ≠ .idle) :
    ∃ n s k ledger, Node.Reaches custom Given start n ∧
      Course calls custom n s k ledger m := by
  induction hrun with
  | refl => exact absurd hstart hactive
  | @step m env input hreached hinput ih =>
      have hrecords := hgiven env input hinput
      by_cases hidle : m.phase = .idle
      · rcases withholds_or_activates hrecords custom hidle input with ⟨hrests, -⟩ | hactivates
        · exact absurd hrests hactive
        · obtain ⟨elapsed, s, k, rfl, hactivates⟩ := hactivates
          exact ⟨m, s, k, _, hreached, .activate hrecords hactivates⟩
      · obtain ⟨n, s, k, ledger, hn, hcourse⟩ := ih hidle
        exact ⟨n, s, k, _, hn, hcourse.step input hidle hrecords⟩

theorem mem_newFrames {frame : List UInt8} (h : Node.Hands calls n m frame) :
    frame ∈ newFrames calls n.world m.world := by
  obtain ⟨new, hnew, call, hcall, hframe⟩ := h
  have hhanded : handedFrames calls m.world =
      new.filterMap RadioCall.frame? ++ handedFrames calls n.world := by
    rw [handedFrames, hnew, List.filterMap_append, handedFrames]
  rw [newFrames_eq hhanded]
  exact List.mem_filterMap.mpr ⟨call, hcall, hframe⟩

theorem mem_extend {frame : List UInt8} (h : frame ∈ newFrames calls m.world t.node.world) :
    frame ∈ (ledger.extend calls m t).requests ∨ frame ∈ (ledger.extend calls m t).responses := by
  unfold Ledger.extend
  dsimp only
  split
  · exact .inl (List.mem_append_left _ h)
  · exact .inr (List.mem_append_left _ h)

/-- Whatever frame is handed over in a run is in the books of a dialog. -/
theorem exists_of_hands {Given : Environment W → Input → Prop} {start : Node W}
    (hgiven : ∀ env input, Given env input → env.Records calls) (hstart : start.phase = .idle)
    (hsilent : custom.Silent calls) (hrun : Node.Reaches custom Given start m)
    (h : env.Records calls) {input : Input} {frame : List UInt8}
    (hhands : Node.Hands calls m (m.step env custom input) frame) :
    ∃ n s k ledger, Node.Reaches custom Given start n ∧
      Course calls custom n s k ledger (m.step env custom input) ∧
      (frame ∈ ledger.requests ∨ frame ∈ ledger.responses) := by
  have hnew := mem_newFrames hhands
  by_cases hidle : m.phase = .idle
  · rcases withholds_or_activates h custom hidle input with ⟨-, hsame⟩ | hactivates
    · simp [newFrames, hsame] at hnew
    · obtain ⟨elapsed, s, k, rfl, hactivates⟩ := hactivates
      refine ⟨m, s, k, _, hrun, .activate h hactivates, mem_extend ?_⟩
      -- The applet has left the radio alone.
      obtain ⟨-, u, -, -, hran⟩ := hactivates
      have hworld : calls k.world = calls m.world := by
        rw [← show (Node.runApplet env custom u _).2 = k from congrArg Prod.snd hran]
        exact Node.calls_runApplet h hsilent _ _ _
      rw [Tallied.node_step]
      unfold newFrames at hnew ⊢
      rw [show handedFrames calls (k.storeTop s).world = _ from handedFrames_of_calls hworld]
      exact hnew
  · obtain ⟨n, s, k, ledger, hn, hcourse⟩ := exists_of_active hgiven hstart hrun hidle
    refine ⟨n, s, k, _, hn, hcourse.step input hidle h, mem_extend ?_⟩
    rw [Tallied.node_step]
    exact hnew

end Course

/-! ## Requests without an applet -/

namespace Node

variable {n : Node W} {t : Session} {elapsed : Ticks}

/-- Without an applet nothing is staged. -/
theorem Appletless.network_runApplet {substate : Substate} (h : n.Appletless substate elapsed t)
    {s : Session} {k : Node W} (hactivates : Activates env custom elapsed n s k) :
    k.network = n.network := by
  obtain ⟨-, u, htop, -, hran⟩ := hactivates
  obtain rfl : u = t := Option.some.inj (htop.symm.trans h.top)
  rw [h.runApplet] at hran
  have hsame : ∀ (s : Session) (m : Node W), (Applet.runIdle s m).2 = m := by
    intro s m
    unfold Applet.runIdle
    split <;> rfl
  rw [← show (Applet.runIdle _ _).2 = k from congrArg Prod.snd hran, hsame]
  rfl

/-- Whatever the environment is, the dialog ends without a channel assessed or a frame
handed over. -/
def ScrapsAtOnce (custom : CustomApplets (Recorded W)) (elapsed : Ticks)
    (n : Node (Recorded W)) : Prop :=
  ∀ env : Environment W,
    (n.step env.recorded custom (.run elapsed)).world.calls = .idle :: n.world.calls ∧
      EndsDialog n (n.step env.recorded custom (.run elapsed)) (.run elapsed)

/-! ### Where the radio accepts everything -/

section Obliging

variable {n m : Node (Recorded W)} {custom : CustomApplets (Recorded W)}

theorem handed_attempt_obliging (hphase : (n.attempt recordedObliging).phase = .sending) :
    handedFrames Recorded.calls (n.attempt recordedObliging).world =
      n.network.outbound.written :: handedFrames Recorded.calls n.world := by
  unfold attempt at hphase ⊢
  split at hphase
  · cases hphase
  · split at hphase
    next huncontended =>
      rw [if_pos huncontended]
      rfl
    · cases hphase

theorem handed_beginSending_obliging (hframe : n.network.outbound.isEmpty = false) {s : Session}
    (hphase : (n.beginSending recordedObliging s).phase = .sending) :
    handedFrames Recorded.calls (n.beginSending recordedObliging s).world =
      n.network.outbound.written :: handedFrames Recorded.calls n.world := by
  have hrandom := (Environment.obliging (W := W)).records_recorded.random
  have heq : n.beginSending recordedObliging s =
      (n.begun recordedObliging s).attempt recordedObliging := beginSending_obliging hframe s
  rw [heq] at hphase ⊢
  refine (handed_attempt_obliging hphase).trans ?_
  refine congrArg (n.network.outbound.written :: ·) (handedFrames_of_calls ?_)
  exact ChannelAccess.view_beginSequence hrandom _ _ n.world

/-- Once the channel is found clear, the frame is handed over. -/
theorem handed_onAssessed_obliging (hphase : m.phase = .assessing)
    (hchannel : m.access.txChannel?.isSome = true) :
    handedFrames Recorded.calls (m.onAssessed recordedObliging true).world =
      m.network.outbound.written :: handedFrames Recorded.calls m.world := by
  obtain ⟨channel, hsome⟩ := Option.isSome_iff_exists.mp hchannel
  unfold onAssessed
  rw [if_pos hphase, hsome]
  have hsent : (m.send recordedObliging channel).isDue = false := rfl
  dsimp only
  rw [if_pos rfl, settle_of_not_due hsent]
  rfl

theorem mem_requests_extend {ledger : Ledger} {t : Tallied (Recorded W)} {frame : List UInt8}
    (hsubstate : n.substate? = some .requestTx)
    (hhanded : handedFrames Recorded.calls t.node.world =
      frame :: handedFrames Recorded.calls n.world) :
    frame ∈ (ledger.extend Recorded.calls n t).requests := by
  have hnew : handedFrames Recorded.calls t.node.world =
      [frame] ++ handedFrames Recorded.calls n.world := hhanded
  rw [Ledger.extend_of_request hsubstate hnew]
  exact List.mem_cons_self

/-- What lies in the queue is sent by a dialog without an applet that is to send. -/
theorem Appletless.exists_course (hcustom : custom.Disciplined) (hn : n.Consistent)
    (h : n.Appletless .requestTx elapsed t) (hframe : n.network.outbound.isEmpty = false) :
    ∃ (s : Session) (k m : Node (Recorded W)) (ledger : Ledger),
      Activates recordedObliging custom elapsed n s k ∧
      Course Recorded.calls custom n s k ledger m ∧
      n.network.outbound.written ∈ ledger.requests := by
  have hrecords : (recordedObliging (W := W)).Records Recorded.calls :=
    Environment.obliging.records_recorded
  have hactivates : Activates recordedObliging custom elapsed n t.begun (n.prepared elapsed) :=
    ⟨h.idle, t, h.top, h.due, h.runApplet_of_busy (by simp [hframe]) _ _⟩
  have hcourse := Course.activate hrecords hactivates
  have hsubstate : ((n.prepared elapsed).storeTop t.begun).substate? = some .requestTx :=
    (hactivates.substate?_storeTop hcustom).trans (congrArg some h.substate)
  -- From here on only what is staged and the dialog on top matter of the node.
  obtain ⟨g, hsends, hstaged, hdialog⟩ : ∃ g : Node (Recorded W),
      n.step recordedObliging custom (.run elapsed) = g.beginSending recordedObliging t.begun ∧
      g.network = n.network ∧ g = (n.prepared elapsed).storeTop t.begun :=
    ⟨_, h.sends hframe recordedObliging custom, rfl, rfl⟩
  rw [← hdialog] at hcourse hsubstate
  rw [← hstaged] at hframe ⊢
  have honair : (n.step recordedObliging custom (.run elapsed)).IsOnAir := by
    rw [hsends]
    exact isOnAir_beginSending_obliging hframe t.begun
  rcases honair with hphase | hphase
  · refine ⟨_, _, _, _, hactivates, hcourse, mem_requests_extend hsubstate ?_⟩
    rw [Tallied.node_step]
    rw [hsends] at hphase ⊢
    exact handed_beginSending_obliging hframe hphase
  · -- The frame is handed over with the next report, which the dialog lives to see.
    have hm : (n.step recordedObliging custom (.run elapsed)).Consistent := hn.step hcustom _
    obtain ⟨-, -, hchannel⟩ := hm.transmitting (.inr (.inl hphase))
    have hassessed := hcourse.step (.event (.assessed true)) (by simp [hphase]) hrecords
    have hstill : StillSends g (n.step recordedObliging custom (.run elapsed)) := by
      rw [hsends]
      exact stillSends_beginSending _ _
    have hsame := (hstill.phase.resolve_left (by simp [hphase])).2
    refine ⟨_, _, _, _, hactivates, hassessed, mem_requests_extend (hsame.trans hsubstate) ?_⟩
    rw [Tallied.node_step, ← hstill.network]
    exact handed_onAssessed_obliging hphase hchannel

/-- In every run whose applets do not change when their own dialog is due and otherwise only
schedule dialogs, whatever a dialog sends as a response was staged in it, and whatever it
sends as a request is what its applet has left in the queue; if the applets also leave the
radio to the node, every frame on the air is one of these. A dialog without an applet has
nothing staged. If it is to send it is scrapped exactly when the queue is empty, and
otherwise sends what an earlier dialog has left there. -/
theorem frame_origins {config : Config} {world : W} (hcustom : custom.Disciplined)
    (hrun : Reaches custom (fun env _ => ∃ plain : Environment W, env = plain.recorded)
      (start config ⟨world, []⟩) n) :
    (∀ s k ledger m, Course Recorded.calls custom n s k ledger m →
      (∀ frame ∈ ledger.requests, frame = k.network.outbound.written) ∧
      ∀ frame ∈ ledger.responses,
        Course.Replied Recorded.calls custom n s k frame ledger m) ∧
    (custom.Silent Recorded.calls → ∀ (env : Environment W) (input : Input) (frame : List UInt8),
      Hands Recorded.calls n (n.step env.recorded custom input) frame →
      ∃ n' s k ledger,
        Reaches custom (fun env _ => ∃ plain : Environment W, env = plain.recorded)
          (start config ⟨world, []⟩) n' ∧
        Course Recorded.calls custom n' s k ledger (n.step env.recorded custom input) ∧
        (frame ∈ ledger.requests ∨ frame ∈ ledger.responses)) ∧
    ∀ elapsed t, n.Appletless .requestTx elapsed t →
      (∀ env s k, Activates env custom elapsed n s k → k.network = n.network) ∧
      (n.ScrapsAtOnce custom elapsed ↔ n.network.outbound.isEmpty = true) ∧
      (n.network.outbound.isEmpty = false → ∃ env s k ledger m,
        Activates env custom elapsed n s k ∧ Course Recorded.calls custom n s k ledger m ∧
        n.network.outbound.written ∈ ledger.requests) := by
  have hn : n.Consistent := (consistent_start config _).reaches hcustom hrun
  have hrecords : ∀ env : Environment (Recorded W), (∃ plain : Environment W,
      env = plain.recorded) → env.Records Recorded.calls := by
    rintro _ ⟨plain, rfl⟩
    exact plain.records_recorded
  refine ⟨fun s k ledger m hcourse => ?_, fun hsilent env input frame hhands => ?_,
    fun elapsed t h => ⟨?_, ⟨fun hscraps => ?_, ?_⟩, ?_⟩⟩
  · obtain ⟨-, hbalanced⟩ := hcourse.balanced hcustom hn
    exact ⟨hbalanced.same, (hcourse.sourced hcustom hn).responses⟩
  · exact Course.exists_of_hands (fun env _ => hrecords env) rfl hsilent hrun
      env.records_recorded hhands
  · exact fun env s k hactivates => h.network_runApplet hactivates
  · -- The obliging radio would be on the air.
    obtain ⟨-, hidle, -⟩ := hscraps .obliging
    cases hframe : n.network.outbound.isEmpty with
    | true => rfl
    | false =>
        rw [h.sends hframe] at hidle
        have honair : IsOnAir _ := isOnAir_beginSending_obliging
          (n := (n.prepared elapsed).storeTop t.begun) hframe t.begun
        rcases honair with hphase | hphase <;> cases hidle.symm.trans hphase
  · intro hempty env
    rw [h.scraps hempty]
    exact ⟨rfl, rfl, rfl⟩
  · intro hframe
    obtain ⟨s, k, m, ledger, hactivates, hcourse, hsent⟩ := h.exists_course hcustom hn hframe
    exact ⟨_, s, k, ledger, m, hactivates, hcourse, hsent⟩

/-- A frame that was sent successfully is sent once more by a dialog without an applet. -/
theorem frame_origins_leftover :
    ∃ (n : Node (Recorded Unit)) (t : Session),
      Reaches (stagingApplets 7) (fun env _ => ∃ plain : Environment Unit, env = plain.recorded)
        (start .default ⟨(), []⟩) n ∧
      n.Appletless .requestTx 0 t ∧ ¬n.ScrapsAtOnce (stagingApplets 7) 0 ∧
      ∃ env s k ledger m, Activates env (stagingApplets 7) 0 n s k ∧
        Course Recorded.calls (stagingApplets 7) n s k ledger m ∧ [7] ∈ ledger.requests := by
  let env : Environment (Recorded Unit) := Environment.obliging.recorded
  let custom : CustomApplets (Recorded Unit) := stagingApplets 7
  let scheduled : Node (Recorded Unit) := (start .default ⟨(), []⟩).step env custom
    (.schedule (some (.custom 0)) 0 0xF0 0x10 { substate := .requestTx })
  let assessing := scheduled.step env custom (.run 0)
  let sent := (assessing.step env custom (.event (.assessed true))).step env custom
    (.event (.sent true))
  let n := sent.step env custom (.schedule none 0 0xF0 0x10 { substate := .requestTx })
  let t : Session :=
    { counter := 0, channel := 0x10, netState := { substate := .requestTx }, flags := .none,
      dialogId := 1, subnet := 0xF0, extra := 0, applet := none }
  have hcustom : custom.Disciplined := fun _ _ _ => ⟨rfl, .refl⟩
  have hrun : Reaches custom (fun env _ => ∃ plain : Environment Unit, env = plain.recorded)
      (start .default ⟨(), []⟩) n :=
    .step (.step (.step (.step (.step .refl ⟨_, rfl⟩) ⟨_, rfl⟩) ⟨_, rfl⟩) ⟨_, rfl⟩) ⟨_, rfl⟩
  have hbare : n.Appletless .requestTx 0 t :=
    ⟨by decide +kernel, by decide +kernel, rfl, rfl, rfl, rfl⟩
  have hstaged : n.network.outbound.written = [7] := by decide +kernel
  obtain ⟨-, -, hbares⟩ := frame_origins hcustom hrun
  obtain ⟨-, hiff, hsends⟩ := hbares 0 t hbare
  refine ⟨n, t, hrun, hbare, fun hscraps => ?_, ?_⟩
  · have hempty := hiff.mp hscraps
    revert hempty
    decide +kernel
  · rw [← hstaged]
    exact hsends (by decide +kernel)

end Obliging

end Node

end Mode2
