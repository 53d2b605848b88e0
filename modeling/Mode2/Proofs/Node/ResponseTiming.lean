import Mode2.Proofs.Exchange.RequestedAccess
import Mode2.Proofs.Node.PunctualRuns
import Mode2.Proofs.Node.Requesters
import Mode2.Proofs.Node.Turns

/-!
# Responses in their window

A response contends in the window that its request grants, but no longer than until the
next dialog is due. When the host lets the node run exactly when it asks to, the pauses of
halving windows end within that window, whatever is drawn and however busy the channels
are. Pauses of one frame each do so only if the window has room for every one of them
rounded to ticks, and that is not so whenever it has room for all the frames.
-/

namespace Mode2

variable {W : Type}

namespace Node

variable {env : Environment W} {custom : CustomApplets W} {n k : Node W} {s : Session}
  {frame : List UInt8}

/-! ## The window -/

/-- The window of a response: the one that was granted, or the time until the dialog after
the top one is due, whichever is shorter. -/
def responseWindow (n : Node W) : Clocks :=
  if n.sessions.followerWait ≠ .never ∧ n.sessions.followerWait.toClocks < n.access.window then
    n.sessions.followerWait.toClocks
  else n.access.window

theorem window_responding (s : Session) (n : Node W) :
    (n.responding s).access.window = n.responseWindow := by
  unfold responding
  dsimp only
  split <;> rfl

/-- A window that was granted in whole ticks stays so, and ends before the next dialog is
due. -/
theorem exists_responseWindow {granted : Ticks} (h : n.access.window = granted.toClocks) :
    ∃ window : Ticks, n.responseWindow = window.toClocks ∧
      window.count ≤ n.sessions.followerWait.count := by
  unfold responseWindow
  split
  · exact ⟨_, rfl, Nat.le_refl _⟩
  next hlong =>
    by_cases hle : granted.count ≤ n.sessions.followerWait.count
    · exact ⟨granted, h, hle⟩
    · -- Both are at the end of the register's range.
      refine ⟨n.sessions.followerWait, ?_, Nat.le_refl _⟩
      have hbound := granted.count_lt
      have hshort : n.sessions.followerWait ≠ .never := by
        intro hnever
        rw [hnever, Span.count_never] at hle
        omega
      have hsame : ¬n.sessions.followerWait.toClocks < n.access.window :=
        fun hlt => hlong ⟨hshort, hlt⟩
      rw [h, Span.lt_def] at hsame
      rw [h]
      apply Span.ext
      simp only [Ticks.count_toClocks] at hsame ⊢
      omega

/-! ## Frames that are answered -/

/-- What the processing of a frame makes of its dialog and of the layers. -/
def processed (env : Environment W) (frame : List UInt8) (s : Session) (n : Node W) :
    Exchange W :=
  match FrameQueue.load frame with
  | .ok inbound => ((n.arrival inbound s).receive env n.config).2
  | .error _ => n.exchange s

/-- The node that goes on after the processing of a frame. -/
def answering (env : Environment W) (frame : List UInt8) (s : Session) (n : Node W) : Node W :=
  (n.resume (n.processed env frame s).toLayers).storeTop (n.processed env frame s).session

/-- The node in the first pause for its response to a frame. -/
def firstPause (env : Environment W) (frame : List UInt8) (s : Session) (n : Node W) : Node W :=
  ((n.answering env frame s).responding (n.processed env frame s).session).begun env
    (n.processed env frame s).session

theorem processed_of_load {inbound : FrameQueue} (hload : FrameQueue.load frame = .ok inbound) :
    n.processed env frame s = ((n.arrival inbound s).receive env n.config).2 := by
  simp [processed, hload]

/-- Whoever answers a frame has a frame to send. -/
theorem isEmpty_of_answersRequest (hwaits : s.netState.substate ≠ .responseTx)
    (hanswers : n.AnswersRequest env frame s) :
    (n.processed env frame s).network.outbound.isEmpty = false := by
  obtain ⟨inbound, hload, -, hscore, -, hresponds⟩ := hanswers
  have hunanswered : (n.arrival inbound s).Unanswered s.slot := ⟨rfl, hwaits⟩
  obtain ⟨z, body, -, hresponse⟩ :=
    Exchange.exists_responds_of_unanswered env n.config hunanswered hscore hresponds
  rw [processed_of_load hload]
  exact FrameQueue.isEmpty_of_complete hresponse.isCompleteFrame

/-- A node that answers a frame contends for a channel. -/
theorem step_of_answersRequest (hphase : n.phase = .listening)
    (htop : n.sessions.top? = some s) (hwaits : s.netState.substate ≠ .responseTx)
    (hanswers : n.AnswersRequest env frame s) :
    n.step env custom (.event (.received frame true)) = (n.firstPause env frame s).settle env := by
  have hframe := isEmpty_of_answersRequest hwaits hanswers
  obtain ⟨inbound, hload, -, hscore, hkept, hresponds⟩ := hanswers
  have hproceeds : n.step env custom (.event (.received frame true)) =
      (n.resume (n.processed env frame s).toLayers).proceed env (n.processed env frame s).session := by
    rw [processed_of_load hload]
    refine (onFrame_of_listening hphase htop frame).trans ((process_of_load hload).trans ?_)
    exact if_neg (by simp [hkept, Int.not_lt.mpr hscore])
  rw [← processed_of_load hload] at hresponds
  rw [hproceeds, proceed, hresponds]
  dsimp only
  rw [beginResponding_eq, beginSending_eq, network_responding]
  exact if_neg (by simp [storeTop, resume, hframe])

/-- Whoever has a response to send after a frame has answered a request. -/
theorem answersRequest_of_responds {inbound : FrameQueue}
    (hload : FrameQueue.load frame = .ok inbound) (hwaits : s.netState.substate ≠ .responseTx)
    (hscore : 0 ≤ ((n.arrival inbound s).receive env n.config).1)
    (hkept : ((n.arrival inbound s).receive env n.config).2.session.netState.scrapped = false)
    (hresponds : ((n.arrival inbound s).receive env n.config).2.session.netState.substate =
      .responseTx) : n.AnswersRequest env frame s := by
  have hunanswered : (n.arrival inbound s).Unanswered s.slot := ⟨rfl, hwaits⟩
  have hrequest := Exchange.exists_request_of_unanswered env n.config hunanswered hscore hresponds
  exact ⟨inbound, hload, hrequest, hscore, hkept, hresponds⟩

/-- A response contends in a window of whole ticks. -/
theorem exists_window_of_answersRequest (hanswers : n.AnswersRequest env frame s) :
    ∃ window : Ticks, (n.answering env frame s).responseWindow = window.toClocks ∧
      window.count ≤ (n.answering env frame s).sessions.followerWait.count := by
  obtain ⟨inbound, hload, ⟨y, hread, hrequest⟩, hscore, -, -⟩ := hanswers
  obtain ⟨code, hcode⟩ := Exchange.grantsWindow_receive n.config hread hrequest hscore
  rw [← processed_of_load hload] at hcode
  have hgranted : (n.answering env frame s).access.window = (WindowCode.decode code).toClocks :=
    hcode
  exact exists_responseWindow hgranted

/-! ## The first pause -/

theorem params_begun (s : Session) (n : Node W) :
    (n.begun env s).access.params = n.access.params := by
  refine (ChannelAccess.params_beginSequence env.random _ _ n.world).trans ?_
  split <;> rfl

theorem retries_begun (s : Session) (n : Node W) :
    (n.begun env s).access.retries = n.access.retries := by
  refine (ChannelAccess.retries_beginSequence env.random _ _ n.world).trans ?_
  split <;> rfl

/-- The pauses of halving windows are to end within the window. -/
theorem pauseLeft_begun_of_rigd (s : Session) (hrigd : n.access.algorithm = .rigd) :
    (n.begun env s).pauseLeft ≤ n.access.window.count / clocksPerTick := by
  have hfirst : ∀ a : ChannelAccess, a.window = n.access.window → a.params = n.access.params →
      ∀ frameTime, (a.beginSequence env.random frameTime n.world).1.1.toTicks.count +
          (a.beginSequence env.random frameTime n.world).1.2.ticksLeft ≤
        n.access.window.count / clocksPerTick := fun a hwindow hparams frameTime => by
    rw [← hwindow]
    exact ChannelAccess.ticksLeft_beginSequence_of_rigd env.random frameTime n.world
      ((ChannelAccess.algorithm_of_params hparams).trans hrigd)
  rw [pauseLeft_of_pausing rfl]
  apply hfirst
  · split <;> rfl
  · split <;> rfl

theorem phase_firstPause : (n.firstPause env frame s).phase = .pausing := rfl

theorem algorithm_firstPause :
    (n.firstPause env frame s).access.algorithm = (n.answering env frame s).access.algorithm := by
  apply ChannelAccess.algorithm_of_params
  rw [firstPause, params_begun, params_responding]

/-- A response has no retries. -/
theorem contendsOnce_firstPause
    (halgorithm : (n.answering env frame s).access.algorithm ≠ .uncontended) :
    (n.firstPause env frame s).ContendsOnce where
  algorithm := by
    rw [algorithm_firstPause]
    exact halgorithm
  retries := by rw [firstPause, retries_begun, retries_responding]

theorem advances_firstPause
    (halgorithm : (n.answering env frame s).access.algorithm ≠ .uncontended) :
    Advances (n.firstPause env frame s).pauseLeft (n.firstPause env frame s)
      ((n.firstPause env frame s).settle env) := by
  have honce := contendsOnce_firstPause halgorithm
  have hchannel : (n.firstPause env frame s).access.txChannel?.isSome = true :=
    isSome_txChannel?_begun env _ _
  exact advances_settle honce ⟨.refl _, rfl, honce.retries, .inr ⟨.inl phase_firstPause, hchannel⟩⟩

/-- Whatever the radio reports, the pauses for a response take no more ticks than were left
in its first pause. -/
theorem waited_le_pauseLeft
    (halgorithm : (n.answering env frame s).access.algorithm ≠ .uncontended) {waited : Nat}
    (hpunctual : Punctual custom ((n.firstPause env frame s).settle env) waited k) :
    waited ≤ (n.firstPause env frame s).pauseLeft :=
  (advances_firstPause halgorithm).waited_le (contendsOnce_firstPause halgorithm) hpunctual

/-- If all of them are of one frame each, they take that many ticks in some run. -/
theorem exists_punctual_firstPause (custom : CustomApplets W)
    (hconstant : (n.answering env frame s).access.HasConstantPauses) :
    ∃ k : Node W, Punctual custom ((n.firstPause env frame s).settle env)
      (n.firstPause env frame s).pauseLeft k := by
  have halgorithm : (n.answering env frame s).access.algorithm ≠ .uncontended := by
    rcases hconstant with h | h <;> simp [h]
  have hadvances := advances_firstPause halgorithm
  have hkept : (n.firstPause env frame s).access.HasConstantPauses := by
    rw [ChannelAccess.HasConstantPauses, algorithm_firstPause]
    exact hconstant
  rw [← hadvances.left.eq hkept]
  rcases hadvances.goes with hidle | ⟨hgoes, hchannel⟩
  · rw [pauseLeft_of_idle hidle]
    exact ⟨_, .refl⟩
  · refine exists_punctual custom ?_ hchannel ?_ (isDue_settle _) hgoes
    · exact (contendsOnce_firstPause halgorithm).of_params hadvances.params hadvances.retries
    · rw [ChannelAccess.HasConstantPauses, ChannelAccess.algorithm_of_params hadvances.params]
      exact hkept

/-! ## Responses on time -/

/-- The pauses of halving windows take no more ticks than their window has, whatever is
drawn; a response that contends with such pauses, in a window of whole ticks that ends
before the next dialog is due, makes no attempt after that window when the host lets the
node run exactly when it asks to. -/
theorem halving_pauses_fit :
    (∀ (W : Type) (source : RandomSource W) (w : W) (a b : ChannelAccess) (frameTime : Clocks)
        (pauses : List Clocks),
      a.algorithm = .rigd →
      ChannelAccess.Grants (a.beginSequence source frameTime w).1.2 pauses b →
      ChannelAccess.totalTicks ((a.beginSequence source frameTime w).1.1 :: pauses) ≤
        a.window.count / clocksPerTick) ∧
    ∀ (W : Type) (env : Environment W) (custom : CustomApplets W) (n : Node W) (s : Session)
        (frame : List UInt8),
      n.phase = .listening → n.sessions.top? = some s → s.netState.substate ≠ .responseTx →
      n.AnswersRequest env frame s → (n.answering env frame s).access.algorithm = .rigd →
      ∃ window : Ticks, (n.answering env frame s).responseWindow = window.toClocks ∧
        window.count ≤ (n.answering env frame s).sessions.followerWait.count ∧
        ∀ (waited : Nat) (m : Node W),
          Punctual custom (n.step env custom (.event (.received frame true))) waited m →
          waited ≤ window.count := by
  refine ⟨fun W source w a b frameTime pauses hrigd hgrants =>
    ChannelAccess.totalTicks_le_window source frameTime w hrigd hgrants, ?_⟩
  intro W env custom n s frame hphase htop hwaits hanswers hrigd
  obtain ⟨window, hwindow, hfollower⟩ := exists_window_of_answersRequest hanswers
  refine ⟨window, hwindow, hfollower, fun waited m hpunctual => ?_⟩
  rw [step_of_answersRequest hphase htop hwaits hanswers] at hpunctual
  calc waited
      ≤ (n.firstPause env frame s).pauseLeft :=
        waited_le_pauseLeft (by rw [hrigd]; decide) hpunctual
    _ ≤ ((n.answering env frame s).responding
          (n.processed env frame s).session).access.window.count / clocksPerTick :=
        pauseLeft_begun_of_rigd _
          ((ChannelAccess.algorithm_of_params (params_responding _ _)).trans hrigd)
    _ ≤ window.count := by
        rw [window_responding, hwindow, Ticks.count_toClocks, clocksPerTick]
        omega

/-- An environment whose radio accepts everything and whose random words are all alike. -/
def drawing (word : UInt32) : Environment W :=
  { Environment.obliging with random := fun w => (word, w) }

/-- A dialog that waits for responses on a fast channel. -/
def awaitingSession : Session where
  counter := 0
  channel := 0x20
  netState := { substate := .responseRx }
  flags := .none
  dialogId := 0
  subnet := 0xF0
  extra := 0
  applet := none

/-- A node that works on this dialog. -/
def awaiting : Node Unit :=
  ((((start .default ()).step .obliging askingApplets
    (.schedule (some (.custom 0)) 0 0xF0 0x20 { substate := .requestTx })).step .obliging
      askingApplets (.run 0)).step .obliging askingApplets (.event (.assessed true))).step
        .obliging askingApplets (.event (.sent true))

theorem reaches_awaiting : Reaches askingApplets (fun _ _ => True) (start .default ()) awaiting :=
  .step (.step (.step (.step .refl trivial) trivial) trivial) trivial

theorem phase_awaiting : awaiting.phase = .listening := by decide +kernel

theorem top?_awaiting : awaiting.sessions.top? = some awaitingSession := by decide +kernel

/-- A request to begin a datastream, with the way to contend for its response and the code of
the window for that. -/
def contendedRequest (options code : UInt8) : List UInt8 :=
  [0x0D, 0x00, 0xF0, 0x12, 0x05, 0xAA, 0xBB, 0xA8, options, code, 0x00, 0x00, 0x00]

theorem load_contendedRequest (options code : UInt8) :
    FrameQueue.load (contendedRequest options code) =
      .ok ⟨[], contendedRequest options code, queueCapacity, Nat.le_of_ble_eq_true rfl,
        Nat.le_refl _⟩ := rfl

/-- Contention in halving windows, the first of eight ticks. -/
def eightTicks : ChannelAccess :=
  { ChannelAccess.initial 0 with window := 256 }

/-- The node after such a request, drawing the word 127. -/
def answeringHigh : Node Unit :=
  awaiting.step (drawing 127) askingApplets (.event (.received (contendedRequest 0x00 0x08) true))

/-- High words drawn in a window of eight ticks: pauses of 127, 63 and 31 clock units take
seven ticks, and a response whose first pause takes four of them ends its pauses in time. -/
theorem halving_pauses_fit_high_words :
    (∃ b : ChannelAccess, eightTicks.algorithm = .rigd ∧
      ChannelAccess.Grants (eightTicks.beginSequence (drawing 127).random 57 ()).1.2 [63, 31] b ∧
      ChannelAccess.totalTicks
        ((eightTicks.beginSequence (drawing 127).random 57 ()).1.1 :: [63, 31]) = 7 ∧
      ChannelAccess.totalTicks
          ((eightTicks.beginSequence (drawing 127).random 57 ()).1.1 :: [63, 31]) ≤
        eightTicks.window.count / clocksPerTick) ∧
    ∃ (s : Session) (window : Ticks) (m : Node Unit),
      Reaches askingApplets (fun _ _ => True) (start .default ()) awaiting ∧
      awaiting.phase = .listening ∧ awaiting.sessions.top? = some s ∧
      s.netState.substate ≠ .responseTx ∧
      awaiting.AnswersRequest (drawing 127) (contendedRequest 0x00 0x08) s ∧
      (awaiting.answering (drawing 127) (contendedRequest 0x00 0x08) s).access.algorithm = .rigd ∧
      (awaiting.answering (drawing 127) (contendedRequest 0x00 0x08) s).responseWindow =
        window.toClocks ∧
      Punctual askingApplets answeringHigh 4 m ∧
      ∀ (waited : Nat) (m : Node Unit), Punctual askingApplets answeringHigh waited m →
        waited ≤ window.count := by
  have hrigd : eightTicks.algorithm = .rigd := by decide +kernel
  have hgrants : ChannelAccess.Grants
      (eightTicks.beginSequence (drawing 127).random 57 ()).1.2 [63, 31] _ :=
    .step (drawing 63).random () (by decide +kernel)
      (.step (drawing 31).random () (by decide +kernel) (.refl _))
  have hanswers : awaiting.AnswersRequest (drawing 127) (contendedRequest 0x00 0x08)
      awaitingSession :=
    answersRequest_of_responds (load_contendedRequest _ _) (by decide) (by decide +kernel)
      (by decide +kernel) (by decide +kernel)
  have hphase : answeringHigh.phase = .pausing := by decide +kernel
  have hwakeup : answeringHigh.nextWakeup.count = 4 := by decide +kernel
  have hpauses := (Punctual.refl : Punctual askingApplets answeringHigh 0 answeringHigh).wake
    (drawing 127) hphase
  rw [hwakeup] at hpauses
  obtain ⟨window, hwindow, -, hfits⟩ := halving_pauses_fit.2 Unit (drawing 127) askingApplets
    awaiting awaitingSession (contendedRequest 0x00 0x08) phase_awaiting top?_awaiting (by decide)
    hanswers (by decide +kernel)
  refine ⟨⟨_, hrigd, hgrants, by decide +kernel, ?_⟩, awaitingSession, window, _,
    reaches_awaiting, phase_awaiting, top?_awaiting, by decide, hanswers, by decide +kernel,
    hwindow, hpauses, hfits⟩
  exact halving_pauses_fit.1 Unit (drawing 127).random () eightTicks _ 57 _ hrigd hgrants

/-- A response that contends with pauses of one frame each makes no attempt after its
window, however busy the channels are, exactly when the window has room for the first pause
and all the others, each rounded to ticks. -/
theorem constant_pauses_fit_iff (custom : CustomApplets W) (hphase : n.phase = .listening)
    (htop : n.sessions.top? = some s) (hwaits : s.netState.substate ≠ .responseTx)
    (hanswers : n.AnswersRequest env frame s)
    (hconstant : (n.answering env frame s).access.HasConstantPauses) :
    ∃ window : Ticks, (n.answering env frame s).responseWindow = window.toClocks ∧
      window.count ≤ (n.answering env frame s).sessions.followerWait.count ∧
      ((∀ (waited : Nat) (m : Node W),
          Punctual custom (n.step env custom (.event (.received frame true))) waited m →
          waited ≤ window.count) ↔
        (n.firstPause env frame s).countdown.count +
            (n.firstPause env frame s).access.framePauses *
              (n.firstPause env frame s).access.frameTime.toTicks.count ≤
          window.count) := by
  obtain ⟨window, hwindow, hfollower⟩ := exists_window_of_answersRequest hanswers
  have hleft : (n.firstPause env frame s).pauseLeft =
      (n.firstPause env frame s).countdown.count +
        (n.firstPause env frame s).access.framePauses *
          (n.firstPause env frame s).access.frameTime.toTicks.count := by
    rw [pauseLeft_of_pausing phase_firstPause, ChannelAccess.ticksLeft_of_constant]
    rw [ChannelAccess.HasConstantPauses, algorithm_firstPause]
    exact hconstant
  refine ⟨window, hwindow, hfollower, ?_⟩
  rw [step_of_answersRequest hphase htop hwaits hanswers, ← hleft]
  constructor
  · intro hfits
    obtain ⟨k, hpunctual⟩ := exists_punctual_firstPause custom hconstant
    exact hfits _ k hpunctual
  · intro hroom waited m hpunctual
    have halgorithm : (n.answering env frame s).access.algorithm ≠ .uncontended := by
      rcases hconstant with h | h <;> simp [h]
    exact Nat.le_trans (waited_le_pauseLeft halgorithm hpunctual) hroom

/-- A response of twelve bytes takes half a tick on a fast channel. In a window of two ticks,
which has room for four such frames, it is still attempted when three ticks have passed. -/
theorem constant_pauses_fit_iff_late :
    ∃ (n : Node Unit) (s : Session) (window : Ticks),
      Reaches askingApplets (fun _ _ => True) (start .default ()) n ∧
      n.phase = .listening ∧ n.sessions.top? = some s ∧ s.netState.substate ≠ .responseTx ∧
      n.AnswersRequest .obliging (contendedRequest 0x20 0x02) s ∧
      (n.answering .obliging (contendedRequest 0x20 0x02) s).access.HasConstantPauses ∧
      (n.answering .obliging (contendedRequest 0x20 0x02) s).responseWindow = window.toClocks ∧
      window.count = 2 ∧
      ¬∀ (waited : Nat) (m : Node Unit), Punctual askingApplets
        (n.step .obliging askingApplets (.event (.received (contendedRequest 0x20 0x02) true)))
        waited m → waited ≤ window.count := by
  have hanswers : awaiting.AnswersRequest .obliging (contendedRequest 0x20 0x02)
      awaitingSession :=
    answersRequest_of_responds (load_contendedRequest _ _) (by decide) (by decide +kernel)
      (by decide +kernel) (by decide +kernel)
  have hconstant : (awaiting.answering .obliging (contendedRequest 0x20 0x02)
      awaitingSession).access.HasConstantPauses := .inr (by decide +kernel)
  have hclocks : (awaiting.answering .obliging (contendedRequest 0x20 0x02)
      awaitingSession).responseWindow.count = 64 := by decide +kernel
  have hticks : (awaiting.firstPause .obliging (contendedRequest 0x20 0x02)
        awaitingSession).countdown.count +
      (awaiting.firstPause .obliging (contendedRequest 0x20 0x02)
          awaitingSession).access.framePauses *
        (awaiting.firstPause .obliging (contendedRequest 0x20 0x02)
          awaitingSession).access.frameTime.toTicks.count = 3 := by decide +kernel
  obtain ⟨window, hwindow, -, hfits⟩ := constant_pauses_fit_iff askingApplets
    phase_awaiting top?_awaiting (by decide) hanswers hconstant
  have hcount : window.count = 2 := by
    rw [hwindow, Ticks.count_toClocks] at hclocks
    omega
  refine ⟨awaiting, _, window, reaches_awaiting, phase_awaiting, top?_awaiting, by decide,
    hanswers, hconstant, hwindow, hcount, fun hnever => ?_⟩
  have hroom := hfits.mp hnever
  omega

end Node

end Mode2
