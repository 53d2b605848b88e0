import Mode2.Proofs.ChannelAccess.ChannelOrder
import Mode2.Proofs.Node.AirTime
import Mode2.Proofs.Node.Handovers
import Mode2.Proofs.Node.PunctualRuns
import Mode2.Proofs.Node.ResponseSchedule

/-!
# The channels of a response

A response is attempted on the channels that its request lists, and on no others. It has no
retries, hence one sequence of attempts only, and its list is shuffled once, when the sequence
begins. From then on every attempt moves on by one channel, whatever the radio reports and
whatever the host does; so they go round in the list.
-/

namespace Mode2

variable {W : Type} {env : Environment W} {custom : CustomApplets W}
  {calls : W → List RadioCall}

/-! ## Attempts in a record -/

/-- The channel whose use the radio is asked for. -/
def RadioCall.soughtChannel? : RadioCall → Option UInt8
  | .assess channel _ | .transmit channel _ _ => some channel
  | .listen .. | .idle => none

/-- So many attempts are made by these calls, the latest of which comes first. An attempt is on
the channel whose turn it is: it assesses the channel, and the frame may then go out there; or
the frame goes out at once, where channels are not assessed. -/
inductive Attempts (assesses : Prop) (channel? : Nat → Option UInt8) :
    Nat → List RadioCall → Prop
  | none : Attempts assesses channel? 0 []
  | other {count : Nat} {made : List RadioCall} {call : RadioCall} :
      Attempts assesses channel? count made → ¬call.SeeksChannel →
      Attempts assesses channel? count (call :: made)
  | assess {count : Nat} {made : List RadioCall} {channel : UInt8} {accepted : Bool} :
      Attempts assesses channel? count made → assesses → channel? count = some channel →
      Attempts assesses channel? (count + 1) (.assess channel accepted :: made)
  | followUp {count : Nat} {made : List RadioCall} {channel : UInt8} {frame : List UInt8}
      {accepted : Bool} :
      Attempts assesses channel? (count + 1) made → assesses → channel? count = some channel →
      Attempts assesses channel? (count + 1) (.transmit channel frame accepted :: made)
  | atOnce {count : Nat} {made : List RadioCall} {channel : UInt8} {frame : List UInt8}
      {accepted : Bool} :
      Attempts assesses channel? count made → ¬assesses → channel? count = some channel →
      Attempts assesses channel? (count + 1) (.transmit channel frame accepted :: made)

namespace Attempts

variable {assesses : Prop} {channel? : Nat → Option UInt8} {count : Nat}
  {made : List RadioCall}

/-- Every call for a channel belongs to one of the attempts. -/
theorem exists_turn (h : Attempts assesses channel? count made) {call : RadioCall}
    (hcall : call ∈ made) {channel : UInt8} (hsought : call.soughtChannel? = some channel) :
    ∃ k < count, channel? k = some channel := by
  induction h with
  | none => cases hcall
  | other _ hother ih =>
      rcases List.mem_cons.mp hcall with rfl | hearlier
      · cases call with
        | assess | transmit => exact absurd trivial hother
        | listen | idle => cases hsought
      · exact ih hearlier
  | @assess count _ _ _ _ _ hturn ih | @atOnce count _ _ _ _ _ _ hturn ih =>
      rcases List.mem_cons.mp hcall with rfl | hearlier
      · exact ⟨count, Nat.lt_succ_self count, hturn.trans hsought⟩
      · obtain ⟨k, hk, hchannel⟩ := ih hearlier
        exact ⟨k, Nat.lt_succ_of_lt hk, hchannel⟩
  | @followUp count _ _ _ _ _ _ hturn ih =>
      rcases List.mem_cons.mp hcall with rfl | hearlier
      · exact ⟨count, Nat.lt_succ_self count, hturn.trans hsought⟩
      · exact ih hearlier

/-- Only the channels of the attempts matter. -/
theorem congr {channel?' : Nat → Option UInt8} (h : Attempts assesses channel? count made)
    (hsame : ∀ k, channel? k = channel?' k) : Attempts assesses channel?' count made := by
  rwa [← funext hsame]

end Attempts

/-! ## Contention for a response -/

variable {before : List RadioCall} {params : UInt8} {channels : List UInt8} {count : Nat}

/-- The access to channels in the only sequence of a frame: how it contends and on which
channels, without retries. -/
structure ChannelAccess.OneSequence (params : UInt8) (channels : List UInt8)
    (a : ChannelAccess) : Prop where
  params : a.params = params
  channels : a.txChannels.channels = channels
  retries : a.retries = 0

/-- So many attempts have been made since the record was `before`, on these channels one after
the other and again from the first. -/
def Made (calls : W → List RadioCall) (before : List RadioCall) (params : UInt8)
    (channels : List UInt8) (count : Nat) (w : W) : Prop :=
  ∃ new, calls w = new ++ before ∧
    Attempts (ContentionParams.algorithm params ≠ .uncontended)
      (fun k => channels[k % channels.length]?) count new

theorem Made.congr {w w' : W} (h : Made calls before params channels count w)
    (hcalls : calls w' = calls w) : Made calls before params channels count w' := by
  unfold Made
  rwa [hcalls]

/-- One more call carries the attempts on as it carries on whatever calls made them. -/
theorem Made.call {w w' : W} (h : Made calls before params channels count w) {call : RadioCall}
    (hcalls : calls w' = call :: calls w) {later : Nat}
    (hcall : ∀ new, Attempts (ContentionParams.algorithm params ≠ .uncontended)
        (fun k => channels[k % channels.length]?) count new →
      Attempts (ContentionParams.algorithm params ≠ .uncontended)
        (fun k => channels[k % channels.length]?) later (call :: new)) :
    Made calls before params channels later w' := by
  obtain ⟨new, hnew, hattempts⟩ := h
  exact ⟨call :: new, by rw [hcalls, hnew, List.cons_append], hcall new hattempts⟩

theorem Made.other {w w' : W} (h : Made calls before params channels count w) {call : RadioCall}
    (hcalls : calls w' = call :: calls w) (hother : ¬call.SeeksChannel) :
    Made calls before params channels count w' :=
  h.call hcalls fun _ hattempts => hattempts.other hother

namespace ChannelAccess.OneSequence

variable {a : ChannelAccess}

theorem spendRetry (h : a.OneSequence params channels) : a.spendRetry = none :=
  if_pos h.retries

theorem nextPause (h : a.OneSequence params channels) (source : RandomSource W) (w : W) :
    (a.nextPause source w).1.2.OneSequence params channels where
  params := (params_nextPause source a w).trans h.params
  channels := (congrArg (·.channels) (txChannels_nextPause source a w)).trans h.channels
  retries := (retries_nextPause source a w).trans h.retries

theorem txChannel? (h : a.OneSequence params channels) (hlist : channels ≠ [])
    (hindex : a.txIndex = count % channels.length) :
    ∃ channel, a.txChannel? = some channel ∧
      channels[count % channels.length]? = some channel := by
  have hlt : count % channels.length < channels.length :=
    Nat.mod_lt _ (List.length_pos_iff.mpr hlist)
  exact ⟨_, by rw [ChannelAccess.txChannel?, h.channels, hindex, List.getElem?_eq_getElem hlt],
    List.getElem?_eq_getElem hlt⟩

end ChannelAccess.OneSequence

namespace Node

variable {n m : Node W}

/-- A node in the only sequence of its frame, after so many attempts: a pause leads to the next
channel, and what is being assessed is the channel of the last attempt. -/
structure TakesTurns (calls : W → List RadioCall) (before : List RadioCall) (params : UInt8)
    (channels : List UInt8) (count : Nat) (m : Node W) : Prop where
  made : Made calls before params channels count m.world
  access : m.access.OneSequence params channels
  pausing : m.phase = .pausing → m.access.txIndex = count % channels.length
  assessing : m.phase = .assessing → ContentionParams.algorithm params ≠ .uncontended ∧
    ∃ earlier, count = earlier + 1 ∧ m.access.txIndex = earlier % channels.length

theorem takesTurns_endSession (h : env.Records calls)
    (hmade : Made calls before params channels count m.world)
    (haccess : m.access.OneSequence params channels) :
    TakesTurns calls before params channels count (m.endSession env) where
  made := hmade.other (h.idle m.world) (by simp [RadioCall.SeeksChannel])
  access := haccess
  pausing hphase := by cases hphase
  assessing hphase := by cases hphase

theorem takesTurns_listen (h : env.Records calls)
    (hmade : Made calls before params channels count m.world)
    (haccess : m.access.OneSequence params channels) (channel : UInt8) (timeout : Ticks) :
    TakesTurns calls before params channels count (m.listen env channel timeout) := by
  have hasked := hmade.other (h.listen channel timeout m.world)
    (by simp [RadioCall.SeeksChannel])
  cases hradio : (env.radio.listen channel timeout m.world).1 with
  | ok accepted =>
      rw [listen_of_accepted hradio]
      exact ⟨hasked, haccess, (by cases ·), (by cases ·)⟩
  | error cause =>
      rw [listen_of_refused hradio]
      exact takesTurns_endSession h hasked haccess

/-- Without a retry a failed transmission ends the dialog. -/
theorem takesTurns_retry (h : env.Records calls)
    (hmade : Made calls before params channels count m.world)
    (haccess : m.access.OneSequence params channels) :
    TakesTurns calls before params channels count (m.retry env) := by
  unfold retry
  rw [haccess.spendRetry]
  exact takesTurns_endSession h hmade haccess

theorem takesTurns_send (h : env.Records calls) (haccess : m.access.OneSequence params channels)
    {channel : UInt8} (hmade : ∀ w accepted,
      calls w = .transmit channel m.network.outbound.written accepted :: calls m.world →
      Made calls before params channels count w) :
    TakesTurns calls before params channels count (m.send env channel) := by
  have hcalls := h.transmit channel m.network.outbound.written m.world
  unfold send
  split
  next world heq =>
    rw [heq] at hcalls
    exact ⟨hmade _ _ hcalls, haccess, (by cases ·), (by cases ·)⟩
  next cause world heq =>
    rw [heq] at hcalls
    exact takesTurns_retry (m := { m with world }) h (hmade _ _ hcalls) haccess

/-- After a busy channel the next one has its turn. -/
theorem takesTurns_yieldChannel (h : env.Records calls) (hlist : channels ≠ [])
    (hmade : Made calls before params channels (count + 1) m.world)
    (haccess : m.access.OneSequence params channels)
    (hindex : m.access.txIndex = count % channels.length) :
    TakesTurns calls before params channels (count + 1) (m.yieldChannel env) := by
  have hmade' := hmade.congr (ChannelAccess.view_afterBusy h.random m.access m.world)
  have hnext := haccess.nextPause env.random m.world
  unfold yieldChannel
  dsimp only
  cases hpause : (m.access.nextPause env.random m.world).1.1 with
  | some length =>
      rw [ChannelAccess.afterBusy_of_pause hpause] at hmade' ⊢
      dsimp only at hmade' ⊢
      rw [ChannelAccess.nextTxChannel_of_ne_nil (by rwa [hnext.channels])]
      refine ⟨hmade', ⟨hnext.params, hnext.channels, hnext.retries⟩, fun _ => ?_, (by cases ·)⟩
      simp only [pause]
      rw [hnext.channels, ChannelAccess.txIndex_nextPause, hindex, Nat.mod_add_mod]
  | none =>
      rw [ChannelAccess.afterBusy_of_no_pause haccess.retries hpause] at hmade' ⊢
      exact takesTurns_endSession (m := { m with access := _, world := _ }) h hmade' hnext

/-- An attempt is on the channel whose turn it is. -/
theorem takesTurns_attempt (h : env.Records calls) (hlist : channels ≠ [])
    (hm : TakesTurns calls before params channels count m) (hphase : m.phase = .pausing) :
    TakesTurns calls before params channels (count + 1) (m.attempt env) := by
  obtain ⟨channel, hchannel, hturn⟩ := hm.access.txChannel? hlist (hm.pausing hphase)
  unfold attempt
  rw [hchannel]
  dsimp only
  rw [ChannelAccess.algorithm, hm.access.params]
  split
  next halgorithm =>
    exact takesTurns_send h hm.access fun w accepted hcalls =>
      hm.made.call hcalls fun _ hattempts => hattempts.atOnce (not_not.mpr halgorithm) hturn
  next halgorithm =>
    have hmade := hm.made.call (h.assess channel m.world) fun _ hattempts =>
      hattempts.assess halgorithm hturn
    split
    next world heq =>
      rw [heq] at hmade
      exact ⟨hmade, hm.access, (by cases ·), fun _ => ⟨halgorithm, count, rfl, hm.pausing hphase⟩⟩
    next cause world heq =>
      rw [heq] at hmade
      exact takesTurns_yieldChannel (m := { m with world }) h hlist hmade hm.access
        (hm.pausing hphase)

theorem exists_takesTurns_settle (h : env.Records calls) (hlist : channels ≠ [])
    (hm : TakesTurns calls before params channels count m) :
    ∃ later, TakesTurns calls before params channels later (m.settle env) := by
  refine settle_induct (P := fun k => ∃ later, TakesTurns calls before params channels later k)
    ?_ ⟨count, hm⟩
  rintro k hdue ⟨later, hk⟩
  exact ⟨later + 1, takesTurns_attempt h hlist hk (Tallied.phase_of_due hdue)⟩

/-! ## Inputs while the node transmits -/

theorem exists_takesTurns_onAssessed (h : env.Records calls) (hlist : channels ≠ [])
    (hm : TakesTurns calls before params channels count m) (clear : Bool) :
    ∃ later, TakesTurns calls before params channels later (m.onAssessed env clear) := by
  unfold onAssessed
  split
  next hphase =>
    obtain ⟨halgorithm, earlier, rfl, hindex⟩ := hm.assessing hphase
    obtain ⟨channel, hchannel, hturn⟩ := hm.access.txChannel? hlist hindex
    rw [hchannel]
    dsimp only
    split
    · have hsent : TakesTurns calls before params channels (earlier + 1) (m.send env channel) :=
        takesTurns_send h hm.access fun w accepted hcalls =>
          hm.made.call hcalls fun _ hattempts => hattempts.followUp halgorithm hturn
      exact exists_takesTurns_settle h hlist hsent
    · exact exists_takesTurns_settle h hlist
        (takesTurns_yieldChannel h hlist hm.made hm.access hindex)
  · exact ⟨count, hm⟩

/-- Without a retry there is nothing to send again. -/
theorem takesTurns_afterRequest (h : env.Records calls)
    (hm : TakesTurns calls before params channels count m) (s : Session) :
    TakesTurns calls before params channels count (m.afterRequest env s) := by
  unfold afterRequest
  rw [hm.access.spendRetry]
  dsimp only
  split
  · exact takesTurns_endSession h hm.made hm.access
  · exact takesTurns_listen (m := m.storeTop _) h hm.made hm.access _ _

theorem exists_takesTurns_onSent (h : env.Records calls) (hlist : channels ≠ [])
    (hm : TakesTurns calls before params channels count m) (success : Bool) :
    ∃ later, TakesTurns calls before params channels later (m.onSent env success) := by
  unfold onSent
  split
  · split
    · split
      · exact ⟨count, hm.made, hm.access, (by cases ·), (by cases ·)⟩
      next s _ =>
        split
        · exact ⟨count, takesTurns_afterRequest h hm s⟩
        all_goals exact ⟨count, takesTurns_endSession h hm.made hm.access⟩
    · exact exists_takesTurns_settle h hlist (takesTurns_retry h hm.made hm.access)
  · exact ⟨count, hm⟩

/-- Whatever happens while a node transmits, its attempts take turns. -/
theorem exists_takesTurns_step (h : env.Records calls) (hlist : channels ≠ [])
    (hm : TakesTurns calls before params channels count m) (hphase : m.phase.IsTransmitting)
    (input : Input) :
    ∃ later, TakesTurns calls before params channels later (m.step env custom input) := by
  rcases input.requests_or_acts with hrequests | hacts | rfl
  · obtain ⟨sessions, -, heq⟩ : ∃ sessions, m.sessions.Schedules sessions ∧
        m.step env custom input = { m with sessions } := schedules_step hrequests
    rw [heq]
    exact ⟨count, hm.made, hm.access, hm.pausing, hm.assessing⟩
  · cases input with
    | run elapsed =>
        change ∃ later, TakesTurns calls before params channels later (m.run env custom elapsed)
        unfold run
        dsimp only
        split
        next hidle => exact absurd hidle hphase.ne_idle
        · exact exists_takesTurns_settle h hlist ⟨hm.made, hm.access, hm.pausing, hm.assessing⟩
        next hlistening => exact absurd hlistening hphase.ne_listening
        all_goals exact ⟨count, hm.made, hm.access, hm.pausing, hm.assessing⟩
    | event event =>
        cases event with
        | received frame intact =>
            refine ⟨count, ?_⟩
            change TakesTurns calls before params channels count (m.onFrame env frame intact)
            rwa [onFrame, if_neg hphase.ne_listening]
        | timeout =>
            refine ⟨count, ?_⟩
            change TakesTurns calls before params channels count (m.onTimeout env)
            rwa [onTimeout, if_neg hphase.ne_listening]
        | assessed clear => exact exists_takesTurns_onAssessed h hlist hm clear
        | sent success => exact exists_takesTurns_onSent h hlist hm success
    | schedule | scheduleScan | scheduleBeacon | flush => cases hacts
  · exact ⟨count, hm.made.other (h.idle m.world) (by simp [RadioCall.SeeksChannel]), hm.access,
      (by cases ·), (by cases ·)⟩

/-- A run from `n` on for as long as it transmits, in environments that keep a record. -/
inductive TransmitsOn (calls : W → List RadioCall) (custom : CustomApplets W) (n : Node W) :
    Node W → Prop
  | refl : TransmitsOn calls custom n n
  | step {m : Node W} {env : Environment W} {input : Input} :
      TransmitsOn calls custom n m → m.phase.IsTransmitting → env.Records calls →
      TransmitsOn calls custom n (m.step env custom input)

theorem TransmitsOn.exists_takesTurns (hlist : channels ≠ [])
    (hn : ∃ count, TakesTurns calls before params channels count n)
    (hrun : TransmitsOn calls custom n m) :
    ∃ count, TakesTurns calls before params channels count m := by
  induction hrun with
  | refl => exact hn
  | step _ hphase henv ih =>
      obtain ⟨count, hm⟩ := ih
      exact exists_takesTurns_step henv hlist hm hphase _

/-! ## The rounds of a response -/

theorem txChannels_responding (s : Session) (n : Node W) :
    (n.responding s).access.txChannels = n.access.txChannels := by
  unfold responding
  dsimp only
  split <;> rfl

/-- A sequence without retries begins with its first channel, in a list that is shuffled for
it. -/
theorem exists_takesTurns_begun (h : env.Records calls) {listed : List UInt8}
    (hlist : listed ≠ []) (haccess : n.access.OneSequence params listed) (s : Session) :
    ∃ channels order, TakesTurns calls (calls n.world) params channels 0 (n.begun env s) ∧
      channels ≠ [] ∧ GoesRound listed.length order ∧
      ∀ k, channels[k % channels.length]? = listed[order k]? := by
  have hown : ¬n.access.txChannels.channels = [] := by rwa [haccess.channels]
  have hlength : (Shuffle.tail env.random listed n.world).1.length = listed.length :=
    (Shuffle.perm_tail env.random listed n.world).length_eq
  obtain ⟨order, hrounds, horder⟩ := Shuffle.exists_goesRound env.random hlist n.world
  refine ⟨(Shuffle.tail env.random listed n.world).1, order, ?_, ?_, hrounds, ?_⟩
  · unfold begun
    rw [if_neg hown]
    refine ⟨⟨[], ?_, .none⟩, ⟨?_, ?_, ?_⟩, fun _ => ?_, (by cases ·)⟩
    · exact ChannelAccess.view_beginSequence h.random _ _ n.world
    · exact (ChannelAccess.params_beginSequence env.random _ _ n.world).trans haccess.params
    · exact (ChannelAccess.channels_beginSequence env.random _ _ n.world).trans
        (by rw [haccess.channels])
    · exact (ChannelAccess.retries_beginSequence env.random _ _ n.world).trans haccess.retries
    · exact (ChannelAccess.txIndex_beginSequence env.random _ _ n.world).trans
        (Nat.zero_mod _).symm
  · intro hempty
    rw [hempty] at hlength
    exact hlist (List.length_eq_zero_iff.mp hlength.symm)
  · intro k
    rw [hlength]
    exact horder k

theorem calls_answering (h : env.Records calls) (frame : List UInt8) (s : Session) (n : Node W) :
    calls (n.answering env frame s).world = calls n.world := by
  cases hload : FrameQueue.load frame with
  | ok inbound =>
      have hkept := Exchange.kept_receive h.toOnlyRadio n.config (n.arrival inbound s)
      simp only [answering, processed_of_load hload]
      exact hkept.view
  | error cause =>
      simp only [answering, processed, hload]
      rfl

/-- The attempts of a response go round in the channels that its request lists, up to eight of
them, or in the channel of the dialog if none is listed. Whichever radio reports and inputs of
the host come while the node transmits, the radio is asked for no other channel; the first
attempt is on the channel that is listed first, and as many attempts in a row as there are
channels are at each position of the list once. -/
theorem attempts_go_round {s : Session} {frame : List UInt8} (hn : n.Consistent)
    (h : env.Records calls) (hphase : n.phase = .listening) (htop : n.sessions.top? = some s)
    (hanswers : n.AnswersRequest env frame s) :
    ∃ (kind : RequestKind) (command : Command) (w : WindowField) (order : Nat → Nat),
      n.Requests env frame s kind command w ∧
      GoesRound (w.responseChannels s.channel).length order ∧
      ∀ m, TransmitsOn calls custom (n.step env custom (.event (.received frame true))) m →
        ∃ count new, calls m.world = new ++ calls n.world ∧
          Attempts
            (ContentionParams.algorithm (Exchange.responseParams command kind) ≠ .uncontended)
            (fun k => (w.responseChannels s.channel)[order k]?) count new ∧
          ∀ call ∈ new, ∀ channel ∈ call.soughtChannel?,
            channel ∈ w.responseChannels s.channel := by
  have hwaits : s.netState.substate ≠ .responseTx := fun hresponds =>
    hn.unanswered hphase (by simp [substate?, htop, hresponds])
  obtain ⟨kind, command, w, hrequests, hgrants⟩ := exists_grants_of_answersRequest hanswers
  let reply := (n.processed env frame s).session
  let k := (n.answering env frame s).responding reply
  have haccess : k.access.OneSequence (Exchange.responseParams command kind)
      (w.responseChannels s.channel) :=
    ⟨(params_responding reply _).trans hgrants.params,
      (congrArg (·.channels) (txChannels_responding reply _)).trans hgrants.channels,
      retries_responding reply _⟩
  have hcalls : calls k.world = calls n.world :=
    (congrArg calls (world_responding reply _)).trans (calls_answering h frame s n)
  obtain ⟨channels, order, hbegun, hlist, hrounds, horder⟩ :=
    exists_takesTurns_begun h (w.responseChannels_ne_nil s.channel) haccess reply
  rw [hcalls] at hbegun
  refine ⟨kind, command, w, order, hrequests, hrounds, fun m hrun => ?_⟩
  rw [step_of_answersRequest hphase htop hwaits hanswers] at hrun
  obtain ⟨count, hm⟩ := hrun.exists_takesTurns hlist (exists_takesTurns_settle h hlist hbegun)
  obtain ⟨new, hnew, hattempts⟩ := hm.made
  have hlisted := hattempts.congr horder
  refine ⟨count, new, hnew, hlisted, fun call hcall channel hsought => ?_⟩
  obtain ⟨turn, -, hturn⟩ := hlisted.exists_turn hcall hsought
  exact List.mem_of_getElem? hturn

/-- The first of two channels is busy, and the response is attempted on the other one. -/
theorem attempts_go_round_second_channel :
    let env : Environment (Recorded Unit) := Environment.obliging.recorded
    let received : Input := .event (.received twoRatesRequest true)
    ∃ (n : Node (Recorded Unit)) (s : Session) (m : Node (Recorded Unit)) (listed : List UInt8)
      (order : Nat → Nat) (assesses : Prop),
      n.Consistent ∧ env.Records Recorded.calls ∧ n.phase = .listening ∧
      n.sessions.top? = some s ∧ n.AnswersRequest env twoRatesRequest s ∧
      TransmitsOn Recorded.calls .none (n.step env .none received) m ∧
      GoesRound listed.length order ∧
      m.world.calls = [.assess 0x20 true, .assess 0x10 true] ++ n.world.calls ∧
      Attempts assesses (fun k => listed[order k]?) 2 [.assess 0x20 true, .assess 0x10 true] := by
  intro env received
  let n : Node (Recorded Unit) :=
    [Input.scheduleScan 0, .run 0].foldl (step env .none) (start .default ⟨(), []⟩)
  let s : Session :=
    { counter := 0, channel := 0x10, netState := { substate := .requestRx }, flags := .none,
      dialogId := 0, subnet := 0xF0, extra := 0, applet := none }
  have hrun : Reaches .none (fun _ _ => True) (start .default ⟨(), []⟩) n :=
    reaches_foldl env _ .refl
  have hn : n.Consistent :=
    (consistent_start .default _).reaches (fun _ _ _ => ⟨rfl, .refl⟩) hrun
  have hrecords : env.Records Recorded.calls := Environment.records_recorded _
  have hphase : n.phase = .listening := by decide +kernel
  have htop : n.sessions.top? = some s := by decide +kernel
  have hload : FrameQueue.load twoRatesRequest = .ok ⟨[], twoRatesRequest, queueCapacity,
      Nat.le_of_ble_eq_true rfl, Nat.le_refl _⟩ := rfl
  have hanswers : n.AnswersRequest env twoRatesRequest s :=
    answersRequest_of_responds hload (by decide) (by decide +kernel) (by decide +kernel)
      (by decide +kernel)
  obtain ⟨kind, command, w, order, -, hrounds, hreached⟩ :=
    @attempts_go_round _ env .none _ _ _ _ hn hrecords hphase htop hanswers
  have hassessing : (n.step env .none received).phase.IsTransmitting :=
    .inr (.inl (by decide +kernel))
  have hlater : TransmitsOn Recorded.calls .none (n.step env .none received)
      ((n.step env .none received).step env .none (.event (.assessed false))) :=
    .step .refl hassessing hrecords
  obtain ⟨count, new, hnew, hattempts, -⟩ := hreached _ hlater
  have hcalls :
      ((n.step env .none received).step env .none (.event (.assessed false))).world.calls =
        [.assess 0x20 true, .assess 0x10 true] ++ n.world.calls := by decide +kernel
  obtain rfl : new = [.assess 0x20 true, .assess 0x10 true] :=
    List.append_cancel_right (hnew.symm.trans hcalls)
  have hcount : count = 2 := by
    cases hattempts with
    | other _ hother => exact absurd trivial hother
    | assess hfirst =>
        cases hfirst with
        | other _ hother => exact absurd trivial hother
        | assess hnone =>
            cases hnone
            rfl
  rw [hcount] at hattempts
  exact ⟨n, s, _, _, order, _, hn, hrecords, hphase, htop, hanswers, hlater, hrounds, hcalls,
    hattempts⟩

end Node

end Mode2
