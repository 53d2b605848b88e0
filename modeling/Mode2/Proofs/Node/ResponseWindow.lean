import Mode2.Proofs.Environment.Record
import Mode2.Proofs.Exchange.Awaiting
import Mode2.Proofs.Node.Appletless
import Mode2.Proofs.Node.Arrivals
import Mode2.Proofs.Node.RadioConduct
import Mode2.Proofs.Node.TopDialog

/-!
# The window for responses

After an arbitrated request a dialog takes responses for as long as its applet has asked
for. The watchdog counts the time from the end of the transmission on, with some slack;
each response that is accepted before the window is over has the radio listen for the rest
of it, and a later one ends the dialog. All of them carry the same dialog ID. It is the one
after that of the request, unless the request has left open which dialog it belongs to: the
first response settles that then.
-/

namespace Mode2

variable {W : Type}

/-- The radio accepts to listen. -/
def Environment.Listens (env : Environment W) : Prop :=
  ∀ channel timeout w, (env.radio.listen channel timeout w).1 = .ok ()

/-- At most the device itself is new when a device is recorded. -/
theorem AckList.exists_of_record (acks : AckList) (id : DeviceId) :
    ∃ new, (acks.record id).ids = acks.ids ++ new ∧ ∀ i ∈ new, i = id := by
  unfold record
  split
  · exact ⟨[id], rfl, fun _ hi => List.mem_singleton.mp hi⟩
  · exact ⟨[], (List.append_nil _).symm, nofun⟩

namespace Node

variable {env : Environment W} {custom : CustomApplets W} {n m k : Node W} {s t u : Session}
  {frame : List UInt8}

/-! ## The window opens -/

/-- Attempts at transmission do not lead to listening. -/
theorem phase_attempt_ne_listening (n : Node W) : (n.attempt env).phase ≠ .listening := by
  have hretry : ∀ k : Node W, (k.retry env).phase ≠ .listening := by
    intro k
    unfold retry
    split <;> simp [pause, endSession, rest]
  have hyield : ∀ k : Node W, (k.yieldChannel env).phase ≠ .listening := by
    intro k
    unfold yieldChannel
    dsimp only
    split <;> simp [pause, endSession, rest]
  unfold attempt
  split
  · simp [endSession, rest]
  · split
    · unfold send
      split
      · simp
      · exact hretry _
    · split
      · simp
      · exact hyield _

theorem phase_settle_ne_listening (h : n.phase ≠ .listening) :
    (n.settle env).phase ≠ .listening :=
  settle_induct (P := fun k => k.phase ≠ .listening)
    (fun m _ _ => phase_attempt_ne_listening m) h

/-- The dialog on top waits for responses, for the whole window that was asked for. -/
structure AwaitsResponses (n : Node W) (t : Session) : Prop where
  top : n.sessions.top? = some t
  substate : t.netState.substate = .responseRx
  asked : n.access.rxTimeout ≠ 0
  countdown : n.countdown = n.access.rxTimeout + watchdogSlack

/-- Whoever listens after a request waits for responses to it. -/
theorem exists_awaits_of_afterRequest (htop : n.sessions.top? = some s)
    (hlistens : (n.afterRequest env s).phase = .listening) :
    ∃ t, (n.afterRequest env s).AwaitsResponses t := by
  unfold afterRequest at hlistens ⊢
  cases hspent : n.access.spendRetry with
  | some access =>
      -- The request is repeated, which does not lead to listening.
      rw [hspent] at hlistens
      refine absurd hlistens (phase_settle_ne_listening ?_)
      simp [pause]
  | none =>
      simp only [hspent] at hlistens ⊢
      split at hlistens
      · cases hlistens
      next hgoes =>
        rw [if_neg hgoes]
        generalize ht : (if ContentionParams.isArbitrated n.access.params = true then _ else _) = t
          at hlistens ⊢
        have hwaits : t.netState.substate = .responseRx := by
          rw [← ht]
          split <;> rfl
        have hasked : n.access.rxTimeout ≠ 0 := by
          intro hzero
          apply hgoes
          simp [hzero]
        rw [listen_of_listening hlistens]
        exact ⟨t, SessionStack.top?_setTop htop t, hwaits, hasked, rfl⟩

/-- Whoever listens after a transmission waits for responses to it. -/
theorem exists_awaits_of_onSent (hsending : n.phase = .sending)
    (hlistens : (n.onSent env true).phase = .listening) :
    ∃ t, (n.onSent env true).AwaitsResponses t := by
  unfold onSent at hlistens ⊢
  rw [if_pos hsending, if_pos rfl] at hlistens ⊢
  cases htop : n.sessions.top? with
  | none =>
      rw [htop] at hlistens
      cases hlistens
  | some s =>
      cases hsubstate : s.netState.substate with
      | requestTx =>
          simp only [htop, hsubstate] at hlistens ⊢
          exact exists_awaits_of_afterRequest htop hlistens
      | requestRx | responseTx | responseRx =>
          simp only [htop, hsubstate] at hlistens
          cases hlistens

/-! ## Frames that are accepted -/

/-- The frame is taken, and the dialog neither responds to it, as it does to requests, nor
is to be removed. -/
def Accepts (env : Environment W) (frame : List UInt8) (s : Session) (n : Node W) : Prop :=
  ∃ inbound, FrameQueue.load frame = .ok inbound ∧
    let result := (n.arrival inbound s).receive env n.config
    0 ≤ result.1 ∧ ¬result.2.StopsWaiting

/-- The node `k` has taken a frame in the dialog `s`, which is now `u` and still waits for
responses with the dialog ID of the frame. -/
structure Takes (frame : List UInt8) (s : Session) (n : Node W) (u : Session) (k : Node W) :
    Prop where
  carries : carriedDialog? frame = some (u.dialogId + 1)
  dialogId : s.netState.connected = true → u.dialogId = s.dialogId
  slot : u.slot = s.slot
  netState : u.netState = { s.netState with connected := true }
  sessions : k.sessions = n.sessions
  countdown : k.countdown = n.countdown
  acks : k.transport.acks = n.transport.acks ∨
    k.transport.acks = n.transport.acks.record k.network.peer

/-- After a frame that is accepted, the node listens for the rest of the window if there is
one. -/
theorem exists_takes_of_accepts {V : Type} {view : W → V} (h : env.OnlyRadio view)
    (hphase : n.phase = .listening) (htop : n.sessions.top? = some s)
    (hwaits : s.netState.substate = .responseRx) (haccepts : n.Accepts env frame s) :
    ∃ k u, Takes frame s n u k ∧ view k.world = view n.world ∧
      n.onFrame env frame true =
        if !s.netState.listening || (n.countdown - watchdogSlack).isZero then k.endSession env
        else (k.storeTop u).listen env s.channel (n.countdown - watchdogSlack) := by
  obtain ⟨inbound, hload, hscore, hgoes⟩ := haccepts
  have hkept := Exchange.kept_receive h n.config (n.arrival inbound s)
  have hturn := Exchange.mayFollow_receive env n.config (n.arrival inbound s)
  obtain ⟨id, hid, henters, hrecords, -⟩ :=
    Exchange.exists_enters_of_waits env n.config hscore hgoes
  rw [onFrame_of_listening hphase htop, process_of_load hload]
  generalize (n.arrival inbound s).receive env n.config = result at *
  obtain ⟨score, y⟩ := result
  obtain ⟨hresponds, hscrapped⟩ := not_or.mp hgoes
  have hstill : y.session.netState.substate = .responseRx :=
    (hturn.resolve_right hresponds).trans hwaits
  have hchannel : y.session.channel = s.channel := Session.channel_of_slot hkept.slot
  have hlistening : y.session.netState.listening = s.netState.listening := by
    rw [henters.netState]
    rfl
  -- The response is the same one to everybody: its dialog ID is expected again.
  refine ⟨n.resume y.toLayers, { y.session with dialogId := y.session.dialogId - 1 },
    ⟨?_, ?_, hkept.slot, henters.netState, rfl, rfl, hrecords⟩, hkept.view, ?_⟩
  · rw [UInt8.sub_add_cancel, henters.dialogId, ← FrameQueue.written_of_load hload]
    exact hid
  · intro hconnected
    change y.session.dialogId - 1 = s.dialogId
    rw [henters.dialogId, henters.next hconnected]
    simp [arrival, exchange]
  · rw [if_neg (not_or.mpr ⟨Int.not_lt.mpr hscore, hscrapped⟩)]
    unfold proceed
    rw [hstill]
    dsimp only
    rw [hlistening, hchannel]
    rfl

/-! ## The window runs -/

/-- With a dialog that waits for responses the watchdog counts down, and at zero the dialog
is over. -/
theorem run_of_waits (env : Environment W) (custom : CustomApplets W)
    (hphase : n.phase = .listening) (htop : n.sessions.top? = some s)
    (hwaits : s.netState.substate = .responseRx) (elapsed : Ticks) :
    let m := n.step env custom (.run elapsed)
    if elapsed < n.countdown then
      m = { n with sessions := n.sessions.elapse elapsed, countdown := n.countdown - elapsed }
    else EndsDialog n m (.run elapsed) := by
  have hstep : n.step env custom (.run elapsed) = n.run env custom elapsed := rfl
  rw [hstep]
  unfold run
  rw [hphase]
  dsimp only
  by_cases hleft : elapsed < n.countdown
  · have hcounts : (n.countdown - elapsed).isZero = false := by
      rw [Span.lt_def] at hleft
      simp only [Span.isZero, Span.count_sub, beq_eq_false_iff_ne, ne_eq]
      omega
    rw [if_pos hleft, if_neg (by simp [hcounts])]
  · have hover : n.countdown - elapsed = 0 := by
      rw [Span.lt_def] at hleft
      exact Span.ext (by simp only [Span.count_sub, Span.count_zero]; omega)
    have haged := SessionStack.top?_elapse htop elapsed
    have hsubstate : (s.age elapsed).netState.substate = .responseRx := hwaits
    rw [if_neg hleft, if_pos (by simp [hover])]
    unfold onTimeout relisten
    simp only [haged, Session.withConnected, hsubstate]
    exact ⟨rfl, rfl⟩

/-- From `n` on, time has passed and frames have been accepted, while the dialog has been
listening. Beside each frame stands the device that the network layer has taken for its
sender. -/
inductive Collects (custom : CustomApplets (Recorded W)) (n : Node (Recorded W)) :
    Nat → List (List UInt8 × DeviceId) → Node (Recorded W) → Prop
  | opens : Collects custom n 0 [] n
  | runs {passed : Nat} {responses : List (List UInt8 × DeviceId)} {m : Node (Recorded W)}
      (env : Environment W) (elapsed : Ticks) :
      Collects custom n passed responses m →
      (m.step env.recorded custom (.run elapsed)).phase = .listening →
      Collects custom n (passed + elapsed.count) responses
        (m.step env.recorded custom (.run elapsed))
  | accepts {passed : Nat} {responses : List (List UInt8 × DeviceId)} {m : Node (Recorded W)}
      {t : Session} (env : Environment W) (frame : List UInt8) :
      Collects custom n passed responses m → env.Listens → m.sessions.top? = some t →
      m.Accepts env.recorded frame t →
      (m.step env.recorded custom (.event (.received frame true))).phase = .listening →
      Collects custom n passed
        (responses ++
          [(frame, (m.step env.recorded custom (.event (.received frame true))).network.peer)])
        (m.step env.recorded custom (.event (.received frame true)))

/-- The dialog `s` has gathered responses: it stays on top with its channel, and all of them
carry the dialog ID after its own, which it had from the beginning if it was settled then.
The devices that have newly been recorded are senders of responses. -/
structure Gathers (n : Node W) (s : Session) (responses : List (List UInt8 × DeviceId))
    (m : Node W) (t : Session) : Prop where
  top : m.sessions.top? = some t
  channel : t.channel = s.channel
  dialogId : s.netState.connected = true ∨ responses = [] → t.dialogId = s.dialogId
  carries : ∀ response ∈ responses, carriedDialog? response.1 = some (t.dialogId + 1)
  nodup : m.transport.acks.ids.Nodup
  recorded : ∃ new, m.transport.acks.ids = n.transport.acks.ids ++ new ∧
    ∀ id ∈ new, ∃ frame, (frame, id) ∈ responses

/-- The window of the dialog is open, of which this much time has passed. -/
structure InWindow (n : Node W) (s : Session) (passed : Nat)
    (responses : List (List UInt8 × DeviceId)) (m : Node W) (t : Session) : Prop
    extends Gathers n s responses m t where
  phase : m.phase = .listening
  countdown : passed + m.countdown.count = n.access.rxTimeout.count + watchdogSlack.count
  left : 0 < m.countdown.count
  substate : t.netState.substate = .responseRx
  listening : t.netState.listening = true
  connected : s.netState.connected = true ∨ responses ≠ [] → t.netState.connected = true

/-- A frame that is accepted carries the dialog ID of the earlier ones, and at most its
sender is recorded. Within the window the radio is to listen for the rest of it, and
afterwards the dialog is over. -/
structure TakesResponse (frame : List UInt8) (s t : Session)
    (responses : List (List UInt8 × DeviceId)) (passed window : Nat) (n m : Node (Recorded W)) :
    Prop where
  carries : s.netState.connected = true ∨ responses ≠ [] →
    carriedDialog? frame = some (t.dialogId + 1)
  recorded : m.transport.acks = n.transport.acks ∨
    m.transport.acks = n.transport.acks.record m.network.peer
  relistens : passed < window → m.phase = .listening ∧ ∃ timeout : Ticks,
    timeout.count = window - passed ∧
      m.world.calls = .listen s.channel timeout true :: n.world.calls
  ends : window ≤ passed → EndsDialog n m (.event (.received frame true))

section Window

variable {plain : Environment W} {custom : CustomApplets (Recorded W)}
  {n m k : Node (Recorded W)} {responses : List (List UInt8 × DeviceId)} {passed : Nat}

theorem inWindow_opens (hsending : n.phase = .sending)
    (hlistens : (n.onSent plain.recorded true).phase = .listening)
    (htop : (n.onSent plain.recorded true).sessions.top? = some s)
    (hfurther : s.netState.listening = true)
    (hwindow : (n.onSent plain.recorded true).access.rxTimeout.count < 0xFFFFFFF0) :
    InWindow (n.onSent plain.recorded true) s 0 [] (n.onSent plain.recorded true) s := by
  obtain ⟨t, hawaits⟩ := exists_awaits_of_onSent hsending hlistens
  obtain rfl : s = t := Option.some.inj (htop.symm.trans hawaits.top)
  have hcount : watchdogSlack.count = 16 := rfl
  refine ⟨⟨htop, rfl, fun _ => rfl, nofun, AckList.nodup _, [], (List.append_nil _).symm, nofun⟩,
    hlistens, ?_, ?_, hawaits.substate, hfurther, ?_⟩
  · rw [hawaits.countdown, Span.count_add]
    omega
  · rw [hawaits.countdown, Span.count_add]
    omega
  · rintro (hconnected | hne)
    · exact hconnected
    · exact absurd rfl hne

/-- Time that passes within the window leaves the window open. -/
theorem InWindow.runs (h : InWindow n s passed responses m t) (elapsed : Ticks)
    (hleft : elapsed < m.countdown) :
    InWindow n s (passed + elapsed.count) responses
      { m with sessions := m.sessions.elapse elapsed, countdown := m.countdown - elapsed }
      (t.age elapsed) := by
  have hcountdown := h.countdown
  rw [Span.lt_def] at hleft
  refine ⟨⟨SessionStack.top?_elapse h.top elapsed, h.channel, h.dialogId, h.carries, h.nodup,
    h.recorded⟩, h.phase, ?_, ?_, h.substate, h.listening, h.connected⟩
  · change _ + (m.countdown.count - elapsed.count) = _
    omega
  · change 0 < m.countdown.count - elapsed.count
    omega

/-- A frame that is accepted is gathered with the earlier ones. -/
theorem Gathers.takes (h : Gathers n s responses m t)
    (hconnected : s.netState.connected = true ∨ responses ≠ [] → t.netState.connected = true)
    (htakes : Takes frame t m u k) :
    Gathers n s (responses ++ [(frame, k.network.peer)]) (k.storeTop u) u := by
  have hsame : s.netState.connected = true ∨ responses ≠ [] → u.dialogId = t.dialogId :=
    fun hbefore => htakes.dialogId (hconnected hbefore)
  refine ⟨?_, ?_, ?_, ?_, AckList.nodup _, ?_⟩
  · apply SessionStack.top?_setTop
    rw [htakes.sessions, h.top]
  · rw [← h.channel]
    exact Session.channel_of_slot htakes.slot
  · rintro (hbefore | hnone)
    · rw [hsame (.inl hbefore), h.dialogId (.inl hbefore)]
    · simp at hnone
  · intro response hmem
    rcases List.mem_append.mp hmem with hearlier | hlast
    · rw [hsame (.inr (List.ne_nil_of_mem hearlier))]
      exact h.carries response hearlier
    · rw [List.mem_singleton.mp hlast]
      exact htakes.carries
  · obtain ⟨new, hnew, hsenders⟩ := h.recorded
    obtain ⟨latest, hlatest, hsender⟩ : ∃ latest,
        k.transport.acks.ids = m.transport.acks.ids ++ latest ∧
          ∀ id ∈ latest, id = k.network.peer := by
      rcases htakes.acks with hacks | hacks
      · exact ⟨[], by simp [hacks], nofun⟩
      · rw [hacks]
        exact AckList.exists_of_record _ _
    refine ⟨new ++ latest, by rw [← List.append_assoc, ← hnew]; exact hlatest, ?_⟩
    intro id hmem
    rcases List.mem_append.mp hmem with hearlier | hlast
    · obtain ⟨frame, hframe⟩ := hsenders id hearlier
      exact ⟨frame, List.mem_append_left _ hframe⟩
    · rw [hsender id hlast]
      exact ⟨frame, List.mem_append_right _ (List.mem_singleton.mpr rfl)⟩

/-- What is left of the countdown without the slack is the rest of the window. -/
theorem InWindow.count_rest (h : InWindow n s passed responses m t) :
    (m.countdown - watchdogSlack).count = n.access.rxTimeout.count - passed := by
  have hslack : watchdogSlack.count = 16 := rfl
  have hcountdown := h.countdown
  rw [Span.count_sub]
  omega

/-- Listening for the rest of the window leaves the window open. -/
theorem InWindow.relistens (h : InWindow n s passed responses m t)
    (hwindow : n.access.rxTimeout.count < 0xFFFFFFF0) (hopen : passed < n.access.rxTimeout.count)
    (htakes : Takes frame t m u k) (world : Recorded W) :
    InWindow n s passed (responses ++ [(frame, k.network.peer)])
      { k.storeTop u with
        world
        phase := .listening
        countdown := m.countdown - watchdogSlack + watchdogSlack } u := by
  obtain ⟨htop, hchannel, hdialog, hcarries, hnodup, hrecorded⟩ :=
    h.toGathers.takes h.connected htakes
  have hslack : watchdogSlack.count = 16 := rfl
  refine ⟨⟨htop, hchannel, hdialog, hcarries, hnodup, hrecorded⟩, rfl, ?_, ?_, ?_, ?_, ?_⟩
  · rw [Span.count_add, h.count_rest]
    omega
  · rw [Span.count_add, h.count_rest]
    omega
  · rw [htakes.netState]
    exact h.substate
  · rw [htakes.netState]
    exact h.listening
  · intro _
    rw [htakes.netState]

/-- A frame that is accepted within the window leaves the rest of it open, and one that is
accepted later ends the dialog. -/
theorem InWindow.accepts (h : InWindow n s passed responses m t)
    (hwindow : n.access.rxTimeout.count < 0xFFFFFFF0) (hlistens : plain.Listens)
    (haccepts : m.Accepts plain.recorded frame t) :
    let after := m.onFrame plain.recorded frame true
    TakesResponse frame s t responses passed n.access.rxTimeout.count m after ∧
      (passed < n.access.rxTimeout.count → ∃ u,
        InWindow n s passed (responses ++ [(frame, after.network.peer)]) after u) := by
  obtain ⟨k, u, htakes, hcalls, hafter⟩ :=
    exists_takes_of_accepts plain.records_recorded.toOnlyRadio h.phase h.top h.substate haccepts
  have hcarries : s.netState.connected = true ∨ responses ≠ [] →
      carriedDialog? frame = some (t.dialogId + 1) := by
    intro hbefore
    rw [← htakes.dialogId (h.connected hbefore), htakes.carries]
  have hrest := h.count_rest
  dsimp only
  rw [hafter, h.listening]
  generalize htimeout : m.countdown - watchdogSlack = timeout at hrest
  by_cases hopen : passed < n.access.rxTimeout.count
  · have hsome : timeout.isZero = false := by
      simp only [Span.isZero, hrest, beq_eq_false_iff_ne, ne_eq]
      omega
    have haccepted : (plain.recorded.radio.listen t.channel timeout (k.storeTop u).world).1 =
      .ok () := hlistens _ _ _
    have hasked := plain.records_recorded.listen t.channel timeout (k.storeTop u).world
    rw [haccepted, h.channel] at hasked
    rw [if_neg (by simp [hsome]), listen_of_accepted haccepted]
    refine ⟨⟨hcarries, htakes.acks, fun _ => ⟨rfl, timeout, hrest, ?_⟩, fun hover => ?_⟩,
      fun _ => ⟨u, ?_⟩⟩
    · rw [← hcalls, h.channel]
      exact hasked
    · exact absurd hopen (Nat.not_lt.mpr hover)
    · subst htimeout
      exact h.relistens hwindow hopen htakes _
  · have hnone : timeout.isZero = true := by
      simp only [Span.isZero, hrest, beq_iff_eq]
      omega
    rw [if_pos (by simp [hnone])]
    refine ⟨⟨hcarries, htakes.acks, fun hbefore => absurd hbefore hopen, fun _ => ⟨rfl, ?_⟩⟩,
      fun hbefore => absurd hbefore hopen⟩
    rw [SessionStack.elapse_event]
    exact congrArg SessionStack.pop htakes.sessions

/-- As long as the dialog listens, its window is open. -/
theorem inWindow_of_collects (hopens : InWindow n s 0 [] n s)
    (hwindow : n.access.rxTimeout.count < 0xFFFFFFF0)
    (hcollects : Collects custom n passed responses m) :
    ∃ t, InWindow n s passed responses m t := by
  induction hcollects with
  | opens => exact ⟨s, hopens⟩
  | @runs passed responses m env elapsed _ hphase ih =>
      obtain ⟨t, ht⟩ := ih
      have hrun := run_of_waits env.recorded custom ht.phase ht.top ht.substate elapsed
      dsimp only at hrun
      split at hrun
      next hleft =>
        rw [hrun]
        exact ⟨_, ht.runs elapsed hleft⟩
      next hover =>
        rw [hrun.1] at hphase
        cases hphase
  | @accepts passed responses m t env frame _ hlistens htop haccepts hphase ih =>
      obtain ⟨t', ht⟩ := ih
      obtain rfl : t = t' := Option.some.inj (htop.symm.trans ht.top)
      obtain ⟨htaken, hopen⟩ := ht.accepts hwindow hlistens haccepts
      refine hopen (Nat.lt_of_not_le fun hover => ?_)
      cases hphase.symm.trans (htaken.ends hover).1

/-- A dialog that waits for further responses after its transmission gathers them until
its window is over: each that is accepted before has the radio listen for the rest of the
window, the first one after ends the dialog, and so does the watchdog once the slack is over
as well. The dialog keeps its ID, and every response carries the next one, if the ID was
settled with the request; else the first response settles it. Every device is recorded once,
and only as the sender of a response. -/
theorem gathers_of_collects {n₀ : Node (Recorded W)}
    (hsending : n₀.phase = .sending)
    (hn : n = n₀.step plain.recorded custom (.event (.sent true)))
    (hlistens : n.phase = .listening) (htop : n.sessions.top? = some s)
    (hfurther : s.netState.listening = true)
    (hwindow : n.access.rxTimeout.count < 0xFFFFFFF0)
    (hcollects : Collects custom n passed responses m) :
    s.netState.substate = .responseRx ∧ ∃ t, Gathers n s responses m t ∧
      (∀ (env : Environment W) (elapsed : Ticks),
        let after := m.step env.recorded custom (.run elapsed)
        if passed + elapsed.count < n.access.rxTimeout.count + watchdogSlack.count then
          after.phase = .listening
        else EndsDialog m after (.run elapsed)) ∧
      ∀ (env : Environment W) (frame : List UInt8), env.Listens →
        m.Accepts env.recorded frame t →
          TakesResponse frame s t responses passed n.access.rxTimeout.count m
            (m.step env.recorded custom (.event (.received frame true))) := by
  have hopens : InWindow n s 0 [] n s := by
    subst hn
    exact inWindow_opens hsending hlistens htop hfurther hwindow
  obtain ⟨t, ht⟩ := inWindow_of_collects hopens hwindow hcollects
  refine ⟨hopens.substate, t, ht.toGathers, fun env elapsed => ?_,
    fun env frame hobliges haccepts => (ht.accepts hwindow hobliges haccepts).1⟩
  have hrun := run_of_waits env.recorded custom ht.phase ht.top ht.substate elapsed
  have hleft : elapsed < m.countdown ↔
      passed + elapsed.count < n.access.rxTimeout.count + watchdogSlack.count := by
    rw [← ht.countdown, Span.lt_def, Nat.add_lt_add_iff_left]
  dsimp only at hrun ⊢
  simp only [hleft] at hrun
  split at hrun
  next hopen =>
    rw [if_pos hopen, hrun]
    exact ht.phase
  next hover =>
    rw [if_neg hover]
    exact hrun

end Window

/-- Applets that stage a frame of one byte and arrange for responses to it. -/
def callingApplets : CustomApplets W := fun id s n =>
  let staged := stagingApplets 0 id s n
  (staged.1, { staged.2 with
    access := { staged.2.access with rxTimeout := 100, params := ContentionParams.arbitratedBit } })

/-- A node that sends the frame of its calling applet. -/
def calling (netState : NetState) : Node (Recorded Unit) :=
  (((start .default ⟨(), []⟩).step Environment.obliging.recorded callingApplets
    (.schedule (some (.custom 0)) 0 0xF0 0x10 netState)).step Environment.obliging.recorded
      callingApplets (.run 0)).step Environment.obliging.recorded callingApplets
        (.event (.assessed true))

/-- A response with a dialog ID. -/
def answerWith (dialogId : UInt8) : List UInt8 :=
  [0x0A, 0x00, 0xF0, 0x12, dialogId, 0xAA, 0xBB, 0x02, 0x00, 0x00]

theorem load_answerWith (dialogId : UInt8) :
    FrameQueue.load (answerWith dialogId) =
      .ok ⟨[], answerWith dialogId, queueCapacity, Nat.le_of_ble_eq_true rfl, Nat.le_refl _⟩ := rfl

/-- The response with the next dialog ID is gathered 30 ticks into the window. -/
theorem gathers_of_collects_answer :
    ∃ (n m : Node (Recorded Unit)) (s t : Session) (sender : DeviceId),
      n = (calling { substate := .requestTx, connected := true }).step
        Environment.obliging.recorded callingApplets (.event (.sent true)) ∧
      Collects callingApplets n 30 [(answerWith 1, sender)] m ∧
      s.netState.substate = .responseRx ∧ Gathers n s [(answerWith 1, sender)] m t ∧
      m.world.calls = .listen 0x10 70 true :: n.world.calls := by
  let env : Environment (Recorded Unit) := Environment.obliging.recorded
  let n₀ : Node (Recorded Unit) := calling { substate := .requestTx, connected := true }
  let n := n₀.step env callingApplets (.event (.sent true))
  let k := n.step env callingApplets (.run 30)
  let m := k.step env callingApplets (.event (.received (answerWith 1) true))
  let s : Session :=
    { counter := 0, channel := 0x10,
      netState := { substate := .responseRx, connected := true, listening := true },
      flags := .none, dialogId := 0, subnet := 0xF0, extra := 0, applet := none }
  have hsending : n₀.phase = .sending := by decide +kernel
  have hphase : n.phase = .listening := by decide +kernel
  have htop : n.sessions.top? = some s := by decide +kernel
  have haged : k.sessions.top? = some s := by decide +kernel
  have haccepts : k.Accepts env (answerWith 1) s :=
    ⟨_, load_answerWith 1, by decide +kernel, by unfold Exchange.StopsWaiting; decide +kernel⟩
  have hcollects : Collects callingApplets n 30 [(answerWith 1, m.network.peer)] m :=
    .accepts .obliging (answerWith 1) (.runs .obliging 30 .opens (by decide +kernel))
      (fun _ _ _ => rfl) haged haccepts (by decide +kernel)
  obtain ⟨hwaits, t, hgathers, -⟩ :=
    gathers_of_collects hsending rfl hphase htop rfl (by decide +kernel) hcollects
  exact ⟨n, m, s, t, m.network.peer, rfl, hcollects, hwaits, hgathers, by decide +kernel⟩

/-- A dialog whose ID is not settled with its request gathers a response with another ID
than the next, and keeps the one before that. -/
theorem gathers_another_dialog :
    ∃ (n m : Node (Recorded Unit)) (s t : Session) (sender : DeviceId),
      Reaches callingApplets (fun env _ => ∃ plain : Environment Unit, env = plain.recorded)
        (start .default ⟨(), []⟩) (calling { substate := .requestTx }) ∧
      (calling { substate := .requestTx }).phase = .sending ∧
      n = (calling { substate := .requestTx }).step
        Environment.obliging.recorded callingApplets (.event (.sent true)) ∧
      n.phase = .listening ∧ n.sessions.top? = some s ∧
      s.netState.substate = .responseRx ∧ s.netState.listening = true ∧
      n.access.rxTimeout.count = 100 ∧
      Collects callingApplets n 30 [(answerWith 9, sender)] m ∧ m.sessions.top? = some t ∧
      t.dialogId ≠ s.dialogId ∧ carriedDialog? (answerWith 9) ≠ some (s.dialogId + 1) := by
  let env : Environment (Recorded Unit) := Environment.obliging.recorded
  let n := (calling { substate := .requestTx }).step env callingApplets (.event (.sent true))
  let k := n.step env callingApplets (.run 30)
  let m := k.step env callingApplets (.event (.received (answerWith 9) true))
  let s : Session :=
    { counter := 0, channel := 0x10, netState := { substate := .responseRx, listening := true },
      flags := .none, dialogId := 0, subnet := 0xF0, extra := 0, applet := none }
  let t : Session :=
    { s with
      netState.connected := true, flags := { DialogFlags.none with virtualIds := true }
      dialogId := 8 }
  have hrun : Reaches callingApplets
      (fun env _ => ∃ plain : Environment Unit, env = plain.recorded) (start .default ⟨(), []⟩)
      (calling { substate := .requestTx }) :=
    .step (.step (.step .refl ⟨_, rfl⟩) ⟨_, rfl⟩) ⟨_, rfl⟩
  have haged : k.sessions.top? = some s := by decide +kernel
  have haccepts : k.Accepts env (answerWith 9) s :=
    ⟨_, load_answerWith 9, by decide +kernel, by unfold Exchange.StopsWaiting; decide +kernel⟩
  have hcollects : Collects callingApplets n 30 [(answerWith 9, m.network.peer)] m :=
    .accepts .obliging (answerWith 9) (.runs .obliging 30 .opens (by decide +kernel))
      (fun _ _ _ => rfl) haged haccepts (by decide +kernel)
  exact ⟨n, m, s, t, m.network.peer, hrun, by decide +kernel, rfl, by decide +kernel,
    by decide +kernel, rfl, rfl, by decide +kernel, hcollects, by decide +kernel, by decide,
    by decide⟩

end Node

end Mode2
