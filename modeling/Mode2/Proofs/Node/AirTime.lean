import Mode2.Proofs.ChannelAccess.Shuffling
import Mode2.Proofs.Node.Sequences

/-!
# The air time of a frame

How long a frame takes depends on the rate of its channel. A sequence of attempts begins on
the first channel of the list, but the air time of its frame is reckoned beforehand, at the
position in the list that is left of an earlier sequence. It is the one of the first attempt
exactly when the channels at both positions have the same rate.
-/

namespace Mode2

variable {W : Type}

/-! ## Rates -/

theorem byteTime_cases (channel : UInt8) : byteTime channel = 1311 ∨ byteTime channel = 4719 := by
  unfold byteTime
  split
  · exact .inl rfl
  · exact .inr rfl

/-- No frame is so long that the register could not hold its air time. -/
theorem count_airTime {bytes : Nat} (hle : bytes ≤ queueCapacity) (channel : UInt8) :
    (airTime bytes channel).count = (bytes * byteTime channel + 999) / 1000 := by
  have hbytes : bytes ≤ 256 := hle
  rw [airTime, Span.count_saturate]
  rcases byteTime_cases channel with hfast | hslow
  · rw [hfast]
    omega
  · rw [hslow]
    omega

/-- The air time of a frame tells the rates apart. -/
theorem airTime_eq_iff {bytes : Nat} (hpos : 0 < bytes) (hle : bytes ≤ queueCapacity)
    (channel channel' : UInt8) :
    airTime bytes channel = airTime bytes channel' ↔ byteTime channel = byteTime channel' := by
  constructor
  · intro hsame
    have hcount := congrArg Span.count hsame
    rw [count_airTime hle, count_airTime hle] at hcount
    rcases byteTime_cases channel with hrate | hrate <;>
      rcases byteTime_cases channel' with hrate' | hrate' <;> rw [hrate, hrate'] at hcount ⊢ <;>
      omega
  · intro hsame
    rw [airTime, airTime, hsame]

namespace ChannelAccess

theorem frameTime_beginSequence (source : RandomSource W) (a : ChannelAccess) (frameTime : Clocks)
    (w : W) : (a.beginSequence source frameTime w).1.2.frameTime = frameTime := by
  unfold beginSequence firstPause
  dsimp only
  split <;> rfl

/-- A sequence begins on the first channel of the list, which no shuffling moves. -/
theorem txChannel?_beginSequence (source : RandomSource W) (a : ChannelAccess)
    (frameTime : Clocks) (w : W) :
    (a.beginSequence source frameTime w).1.2.txChannel? = a.txChannels.channels.head? := by
  unfold beginSequence
  rw [txChannel?_firstPause]
  exact List.head?_eq_getElem?.symm.trans (Shuffle.head?_tail source a.txChannels.channels w)

end ChannelAccess

namespace Node

variable {env : Environment W} {custom : CustomApplets W} {n k : Node W} {s : Session}
  {input : Input}

/-! ## Two channels -/

/-- The channel of the first attempt: the first one of the list, or the channel of the dialog
when none is listed. -/
def firstChannel (s : Session) (n : Node W) : UInt8 :=
  n.access.txChannels.channels.headD s.channel

/-- The channel at which the air time is reckoned: the one at the position in the list, or the
channel of the dialog when there is none. -/
def reckonedChannel (s : Session) (n : Node W) : UInt8 :=
  n.access.txChannel?.getD s.channel

theorem frameTime_begun (s : Session) (n : Node W) :
    (n.begun env s).access.frameTime =
      airTime n.network.outbound.length (n.reckonedChannel s) := by
  refine (ChannelAccess.frameTime_beginSequence env.random _ _ n.world).trans ?_
  split
  next hnone =>
    have hchannel : n.access.txChannel? = none := by simp [ChannelAccess.txChannel?, hnone]
    rw [reckonedChannel, hchannel]
    rfl
  · rfl

theorem txChannel?_begun (s : Session) (n : Node W) :
    (n.begun env s).access.txChannel? = some (n.firstChannel s) := by
  refine (ChannelAccess.txChannel?_beginSequence env.random _ _ n.world).trans ?_
  split
  next hnone => simp [firstChannel, hnone, ChannelAccess.setTxChannel, ChannelList.single]
  next hsome =>
    obtain ⟨channel, rest, hlist⟩ := List.exists_cons_of_ne_nil hsome
    simp [firstChannel, hlist]

theorem reckonedChannel_of_first (hfirst : n.access.txIndex = 0) (s : Session) :
    n.reckonedChannel s = n.firstChannel s := by
  rw [reckonedChannel, firstChannel, ChannelAccess.txChannel?, hfirst,
    ← List.head?_eq_getElem?, List.headD_eq_head?_getD]

/-! ## Air times that fit -/

theorem frameTime_begun_eq_iff (hframe : n.network.outbound.isEmpty = false) (s : Session)
    (channel : UInt8) :
    (n.begun env s).access.frameTime = airTime n.network.outbound.length channel ↔
      byteTime (n.reckonedChannel s) = byteTime channel := by
  rw [frameTime_begun]
  apply airTime_eq_iff
  · exact FrameQueue.length_pos hframe
  · exact Nat.le_trans n.network.outbound.length_le_limit n.network.outbound.limit_le_capacity

/-- Whenever a sequence of attempts begins, in whatever state and with whatever channels, its
first attempt is on the first channel of the list. The air time is that of the frame on this
channel exactly when the channel at the position left in the list has the same rate. Where it
has not, and the host's applets keep to what applets are for and leave the position alone, it
was left by an earlier sequence that ended there. -/
theorem air_time_iff {config : Config} {world : W}
    (hrun : Reaches custom (fun _ _ => True) (start config world) n)
    (hbegins : Begins env custom n input s k) :
    n.step env custom input = (k.begun env s).settle env ∧
    (k.begun env s).access.txChannel? = some (k.firstChannel s) ∧
    ((k.begun env s).access.frameTime = airTime k.network.outbound.length (k.firstChannel s) ↔
      byteTime (k.reckonedChannel s) = byteTime (k.firstChannel s)) ∧
    (custom.Disciplined → custom.KeepsPosition →
      byteTime (k.reckonedChannel s) ≠ byteTime (k.firstChannel s) →
      k.access.txIndex ≠ 0 ∧
      ∃ (m : Node W) (env' : Environment W) (input' : Input),
        Reaches custom (fun _ _ => True) (start config world) m ∧
        EndsSequence env' custom m input' ∧
        (m.step env' custom input').access.txIndex = k.access.txIndex ∧
        Reaches custom (fun _ _ => True) (m.step env' custom input') n) := by
  refine ⟨hbegins.step_eq, txChannel?_begun s k, ?_, fun hcustom hkeeps hrates => ?_⟩
  · exact frameTime_begun_eq_iff hbegins.isEmpty_outbound s _
  · have hposition : k.access.txIndex ≠ 0 := fun hfirst =>
      hrates (congrArg byteTime (reckonedChannel_of_first hfirst s))
    have hsame := (hbegins.keepsPosition hkeeps).eq_of_ne hposition
    obtain ⟨m, env', input', hreached, hends, hindex, hlater⟩ :=
      exists_endsSequence hcustom hkeeps (consistent_start config world) rfl hrun
        hbegins.not_transmitting (hsame ▸ hposition)
    exact ⟨hposition, m, env', input', hreached, hends, hindex.trans hsame.symm, hlater⟩

/-- A request to begin a datastream that asks for the response on a slow channel, or else on
a fast one. -/
def twoRatesRequest : List UInt8 :=
  [0x0F, 0x00, 0xF0, 0x12, 0x05, 0xAA, 0xBB, 0x28, 0x88, 0x02, 0x10, 0x20, 0x00, 0x00, 0x00]

/-- A response went out on the second channel of its list, the first one being busy. The
next response is to be attempted on the slow first channel, with the air time that it would
take on the fast second one. -/
theorem air_time_iff_leftover :
    ∃ (n : Node Unit) (s : Session) (k : Node Unit),
      Reaches .none (fun _ _ => True) (start .default ()) n ∧
      Begins .obliging .none n (.event (.received twoRatesRequest true)) s k ∧
      k.firstChannel s = 0x10 ∧
      (k.begun .obliging s).access.frameTime ≠ airTime k.network.outbound.length 0x10 ∧
      ∃ (m : Node Unit) (env : Environment Unit) (input : Input),
        Reaches .none (fun _ _ => True) (start .default ()) m ∧
        EndsSequence env .none m input ∧ (m.step env .none input).access.txIndex = 1 := by
  let received : Input := .event (.received twoRatesRequest true)
  let inputs : List Input := [.scheduleScan 0, .run 0, received, .event (.assessed false),
    .event (.assessed true), .event (.sent true), .flush, .scheduleScan 0, .run 0]
  let n : Node Unit := inputs.foldl (step .obliging .none) (start .default ())
  let t : Session :=
    { counter := 0, channel := 0x10, netState := { substate := .requestRx }, flags := .none,
      dialogId := 1, subnet := 0xF0, extra := 0, applet := none }
  have hrun : Reaches .none (fun _ _ => True) (start .default ()) n :=
    reaches_foldl .obliging inputs .refl
  have hphase : n.phase = .listening := by decide +kernel
  have htop : n.sessions.top? = some t := by decide +kernel
  have hload : FrameQueue.load twoRatesRequest = .ok ⟨[], twoRatesRequest, queueCapacity,
      Nat.le_of_ble_eq_true rfl, Nat.le_refl _⟩ := rfl
  have hanswers : n.AnswersRequest .obliging twoRatesRequest t :=
    answersRequest_of_responds hload (by decide) (by decide +kernel) (by decide +kernel)
      (by decide +kernel)
  have hbegins : Begins .obliging .none n received _ _ :=
    .response hphase htop (by decide) hanswers
  obtain ⟨-, -, hiff, horigin⟩ := air_time_iff hrun hbegins
  have hfirst : ((n.answering .obliging twoRatesRequest t).responding
      (n.processed .obliging twoRatesRequest t).session).firstChannel
        (n.processed .obliging twoRatesRequest t).session = 0x10 := by decide +kernel
  have hreckoned : ((n.answering .obliging twoRatesRequest t).responding
      (n.processed .obliging twoRatesRequest t).session).reckonedChannel
        (n.processed .obliging twoRatesRequest t).session = 0x20 := by decide +kernel
  rw [hfirst, hreckoned] at hiff horigin
  obtain ⟨-, m, env, input, hreached, hends, hindex, -⟩ :=
    horigin (fun _ _ _ => ⟨rfl, .refl⟩) (fun _ _ _ => .inl rfl) (by decide)
  refine ⟨n, _, _, hrun, hbegins, hfirst, fun hsame => ?_, m, env, input, hreached, hends, ?_⟩
  · exact absurd (hiff.mp hsame) (by decide)
  · rw [hindex]
    decide +kernel

end Node

end Mode2
