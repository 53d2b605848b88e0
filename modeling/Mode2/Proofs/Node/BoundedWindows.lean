import Mode2.Proofs.Exchange.Awaiting
import Mode2.Proofs.Node.ActiveDialog
import Mode2.Proofs.Node.Arrivals
import Mode2.Proofs.Node.RadioConduct
import Mode2.Proofs.Node.Reactions

/-!
# Windows within bounds

The radio is asked to listen in several places: for the window that an applet has asked for,
for that of scans where none has, and for the rest of a window in which a response has come.
None of these windows is empty, and each is the one of scans or no longer than the one that has
been asked for. For the rest of a window this is so because the frames that leave a dialog
waiting for responses also leave the window that its applet has asked for.
-/

namespace Mode2

variable {W : Type}

/-- The radio is asked to listen. -/
def RadioCall.Listens : RadioCall → Prop
  | .listen .. => True
  | .assess .. | .transmit .. | .idle => False

theorem SessionStack.eq_of_top?_setTop {stack : SessionStack} {s t : Session}
    (h : (stack.setTop s).top? = some t) : t = s := by
  unfold top? setTop at h
  cases hsessions : stack.sessions with
  | nil => simp [hsessions] at h
  | cons u rest => simpa [hsessions, eq_comm] using h

namespace Node

variable {env : Environment W} {custom : CustomApplets W} {n m k : Node W} {s : Session}
  {calls : W → List RadioCall} {before : List RadioCall} {timeout : Ticks}

/-! ## Windows -/

/-- The radio is asked to listen for a window that is the one of scans or no longer than the one
that has been asked for, and that is not empty unless the one of scans is. Once the radio has
accepted, the watchdog counts down the window and its slack. -/
structure OpensWindow (m : Node W) (timeout : Ticks) (accepted : Bool) : Prop where
  nonempty : m.config.scan.timeout ≠ 0 → timeout ≠ 0
  bounded : timeout = m.config.scan.timeout ∨ timeout ≤ m.access.rxTimeout
  watched : accepted = true → m.phase = .listening ∧ m.countdown = timeout + watchdogSlack

/-- Since the calls `before`, the radio has been asked to listen for such windows only. -/
def OpensWindows (calls : W → List RadioCall) (before : List RadioCall) (m : Node W) : Prop :=
  ∃ new, calls m.world = new ++ before ∧
    ∀ channel timeout accepted, .listen channel timeout accepted ∈ new →
      m.OpensWindow timeout accepted

/-- The node once the applet of the dialog on top has run, if that is due. -/
def briefed (env : Environment W) (custom : CustomApplets W) (n : Node W) : Node W :=
  match n.sessions.top? with
  | none => n
  | some t => if t.counter.isZero then (n.runApplet env custom t).2 else n

/-- The node once the applet has run that the input calls, if it calls one. -/
def afterApplet (env : Environment W) (custom : CustomApplets W) (n : Node W) : Input → Node W
  | .run elapsed =>
      if n.phase = .idle then
        ({ n with sessions := n.sessions.elapse elapsed } : Node W).briefed env custom
      else n
  | _ => n

/-- Where responses are awaited, no more is left of the window than has been asked for. -/
def KeepsWindow (n : Node W) : Prop :=
  n.phase = .listening → ∀ t, n.sessions.top? = some t → t.netState.substate = .responseRx →
    n.countdown - watchdogSlack ≤ n.access.rxTimeout

/-- The node may listen for this long. -/
structure Grants (n : Node W) (timeout : Ticks) : Prop where
  nonempty : n.config.scan.timeout ≠ 0 → timeout ≠ 0
  bounded : timeout = n.config.scan.timeout ∨ timeout ≤ n.access.rxTimeout
  responses : ∀ t, n.sessions.top? = some t → t.netState.substate = .responseRx →
    timeout ≤ n.access.rxTimeout

theorem keepsWindow_of_not_listening (h : n.phase ≠ .listening) : n.KeepsWindow :=
  fun hphase => absurd hphase h

/-- A dialog that waits for a request may listen as its applet asked, or as scans do. -/
theorem grants_listenWindow (hconfig : k.config = n.config)
    (hasked : k.access.rxTimeout = n.access.rxTimeout)
    (hwaits : ∀ t, k.sessions.top? = some t → t.netState.substate = .requestRx) :
    k.Grants n.listenWindow := by
  have hnone : ∀ t, k.sessions.top? = some t → t.netState.substate ≠ .responseRx := by
    intro t htop
    rw [hwaits t htop]
    decide
  unfold listenWindow
  rw [← hconfig, ← hasked]
  by_cases hzero : k.access.rxTimeout = 0
  · rw [if_pos (by simpa using hzero)]
    exact ⟨id, .inl rfl, fun t htop hsubstate => absurd hsubstate (hnone t htop)⟩
  · rw [if_neg (by simpa using hzero)]
    exact ⟨fun _ => hzero, .inr (Nat.le_refl _), fun _ _ _ => Nat.le_refl _⟩

theorem opensWindows_self (h : calls m.world = before) : OpensWindows calls before m :=
  ⟨[], h, nofun⟩

/-- Time that passes only takes away from a window. -/
theorem KeepsWindow.elapse (h : n.KeepsWindow) (elapsed : Ticks) (world : W) :
    ({ n with
      sessions := n.sessions.elapse elapsed
      countdown := n.countdown - elapsed
      world } : Node W).KeepsWindow := by
  intro hphase t htop hsubstate
  have haged : n.sessions.top?.map (Session.age elapsed) = some t := by
    simpa [SessionStack.top?, List.head?_map] using htop
  obtain ⟨u, hu, rfl⟩ := Option.map_eq_some_iff.mp haged
  have hleft := h hphase u hu hsubstate
  rw [Span.le_def] at hleft ⊢
  simp only [Span.count_sub] at hleft ⊢
  omega

/-- A request of the host leaves the dialog on top of a listening node. -/
theorem KeepsWindow.schedules (h : n.KeepsWindow) (hn : n.Consistent) {sessions : SessionStack}
    (hschedules : n.sessions.Schedules sessions) : ({ n with sessions } : Node W).KeepsWindow := by
  intro hphase t htop
  obtain ⟨u, rest, hsessions, hdue, -⟩ := hn.exists_active (by rw [hphase]; decide)
  have hgrows := hschedules.grows
  rw [hsessions] at hgrows
  obtain ⟨rest', -, hafter⟩ := hgrows.cons_due hdue
  obtain rfl : t = u := Option.some.inj (htop.symm.trans (SessionStack.top?_eq hafter))
  exact h hphase t (SessionStack.top?_eq hsessions)

/-! ## Listening -/

/-- Whoever may listen for a time and does so opens a window. -/
theorem opensWindows_listen (h : env.Records calls) (hgrants : n.Grants timeout)
    (channel : UInt8) :
    (n.listen env channel timeout).KeepsWindow ∧
      OpensWindows calls (calls n.world) (n.listen env channel timeout) := by
  have hasks := h.listen channel timeout n.world
  cases hradio : (env.radio.listen channel timeout n.world).1 with
  | ok accepted =>
      rw [hradio] at hasks
      rw [listen_of_accepted hradio]
      refine ⟨fun _ t htop hsubstate => ?_, [.listen channel timeout true], hasks, ?_⟩
      · have hasked := hgrants.responses t htop hsubstate
        rw [Span.le_def] at hasked ⊢
        simp only [Span.count_sub, Span.count_add]
        omega
      · intro channel' timeout' accepted' hmem
        cases List.mem_singleton.mp hmem
        exact ⟨hgrants.nonempty, hgrants.bounded, fun _ => ⟨rfl, rfl⟩⟩
  | error cause =>
      rw [hradio] at hasks
      rw [listen_of_refused hradio]
      refine ⟨keepsWindow_of_not_listening (by simp [endSession, rest]),
        [.idle, .listen channel timeout false], (h.idle _).trans (congrArg _ hasks), ?_⟩
      intro channel' timeout' accepted' hmem
      obtain ⟨-, rfl, rfl⟩ : channel' = channel ∧ timeout' = timeout ∧ accepted' = false := by
        simpa using hmem
      exact ⟨hgrants.nonempty, hgrants.bounded, nofun⟩

/-! ## Contention -/

/-- The node does not listen, and since the calls `before` the radio has not been asked to. -/
structure Deaf (calls : W → List RadioCall) (before : List RadioCall) (m : Node W) : Prop where
  phase : m.phase ≠ .listening
  calls : ∃ new, calls m.world = new ++ before ∧ ∀ call ∈ new, ¬call.Listens

theorem Deaf.keepsWindow (h : Deaf calls before m) : m.KeepsWindow :=
  keepsWindow_of_not_listening h.phase

theorem Deaf.opensWindows (h : Deaf calls before m) : OpensWindows calls before m := by
  obtain ⟨-, new, hcalls, hnone⟩ := h
  exact ⟨new, hcalls, fun _ _ _ hmem => absurd trivial (hnone _ hmem)⟩

theorem Deaf.cons {call : RadioCall} (h : Deaf calls (call :: before) m) (hcall : ¬call.Listens) :
    Deaf calls before m := by
  obtain ⟨hphase, new, hcalls, hnone⟩ := h
  refine ⟨hphase, new ++ [call], by simp [hcalls], ?_⟩
  intro call' hmem
  rcases List.mem_append.mp hmem with hmem | hmem
  · exact hnone call' hmem
  · rwa [List.mem_singleton.mp hmem]

theorem deaf_self (hphase : m.phase ≠ .listening) (hcalls : calls m.world = before) :
    Deaf calls before m :=
  ⟨hphase, [], hcalls, nofun⟩

theorem Deaf.trans (h : Deaf calls before m) (h' : Deaf calls (calls m.world) k) :
    Deaf calls before k := by
  obtain ⟨-, first, hfirst, hnone⟩ := h
  obtain ⟨hphase, second, hsecond, hnone'⟩ := h'
  refine ⟨hphase, second ++ first, by rw [hsecond, hfirst, List.append_assoc], ?_⟩
  intro call hmem
  rcases List.mem_append.mp hmem with hmem | hmem
  · exact hnone' call hmem
  · exact hnone call hmem

section Contention

variable (h : env.Records calls)

include h

theorem deaf_endSession (n : Node W) : Deaf calls (calls n.world) (n.endSession env) :=
  (deaf_self (by simp [endSession, rest]) (h.idle n.world)).cons nofun

theorem deaf_retry (n : Node W) : Deaf calls (calls n.world) (n.retry env) := by
  unfold retry
  split
  · exact deaf_self (by simp [pause]) rfl
  · exact deaf_endSession h n

theorem deaf_yieldChannel (n : Node W) : Deaf calls (calls n.world) (n.yieldChannel env) := by
  unfold yieldChannel
  dsimp only
  rw [← ChannelAccess.view_afterBusy h.random n.access n.world]
  split
  · exact deaf_self (by simp [pause]) rfl
  · exact deaf_endSession h { n with access := _, world := _ }

theorem deaf_send (channel : UInt8) (n : Node W) :
    Deaf calls (calls n.world) (n.send env channel) := by
  have hcalls := h.transmit channel n.network.outbound.written n.world
  unfold send
  split
  next world heq =>
    rw [heq] at hcalls
    exact (deaf_self (by simp) hcalls).cons nofun
  next cause world heq =>
    rw [heq] at hcalls
    have hretry := deaf_retry h { n with world }
    rw [hcalls] at hretry
    exact hretry.cons nofun

theorem deaf_attempt (n : Node W) : Deaf calls (calls n.world) (n.attempt env) := by
  unfold attempt
  split
  · exact deaf_endSession h n
  next channel _ =>
    split
    · exact deaf_send h channel n
    · have hcalls := h.assess channel n.world
      split
      next world heq =>
        rw [heq] at hcalls
        exact (deaf_self (by simp) hcalls).cons nofun
      next cause world heq =>
        rw [heq] at hcalls
        have hyield := deaf_yieldChannel h { n with world }
        rw [hcalls] at hyield
        exact hyield.cons nofun

/-- Contention does not lead to listening. -/
theorem deaf_perform (move : Move) (n : Node W) :
    Deaf calls (calls n.world) ((n.perform env move).settle env) := by
  refine settle_induct (fun k _ hk => hk.trans (deaf_attempt h k)) ?_
  cases move with
  | pause length => exact deaf_self (by simp [perform, pause]) rfl
  | attempt => exact deaf_attempt h n
  | send channel => exact deaf_send h channel n
  | yieldChannel => exact deaf_yieldChannel h n
  | retry => exact deaf_retry h n

end Contention

end Node

namespace Reaction

open Node

variable {env : Environment W} {custom : CustomApplets W} {n : Node W} {s : Session}
  {calls : W → List RadioCall} {before : List RadioCall} {r : Reaction W}

/-- The node may listen for as long as it is to, and keeps to its window otherwise. -/
def Bounded : Reaction W → Prop
  | rests n => n.KeepsWindow
  | ends _ | contends _ _ => True
  | listens _ timeout n => n.Grants timeout

/-- The radio has had the calls `before` when this is left to do. -/
structure Follows (calls : W → List RadioCall) (before : List RadioCall) (r : Reaction W) :
    Prop where
  calls : calls r.node.world = before
  bounded : r.Bounded

/-- What is left to do, done, opens windows within bounds only. -/
theorem Follows.complete (hr : r.Follows calls before) (h : env.Records calls) :
    (r.complete env).KeepsWindow ∧ OpensWindows calls before (r.complete env) := by
  obtain ⟨hcalls, hbounded⟩ := hr
  rw [← hcalls]
  cases r with
  | rests n => exact ⟨hbounded, opensWindows_self rfl⟩
  | ends n => exact ⟨(deaf_endSession h n).keepsWindow, (deaf_endSession h n).opensWindows⟩
  | listens channel timeout n => exact opensWindows_listen h hbounded channel
  | contends move n =>
      exact ⟨(deaf_perform h move n).keepsWindow, (deaf_perform h move n).opensWindows⟩

/-! ## Activation -/

theorem follows_beginSending (h : env.Records calls) (s : Session) (n : Node W) :
    (beginSending env s n).Follows calls (calls n.world) := by
  unfold beginSending
  split
  · exact ⟨rfl, trivial⟩
  · exact ⟨ChannelAccess.view_beginSequence h.random _ _ n.world, trivial⟩

theorem follows_engage (h : env.Records calls) (s : Session) (n : Node W) :
    (engage env s (n.storeTop s)).Follows calls (calls n.world) := by
  unfold engage
  split
  · exact follows_beginSending h s (n.storeTop s)
  next hsubstate =>
    refine ⟨rfl, grants_listenWindow rfl rfl fun t htop => ?_⟩
    rw [SessionStack.eq_of_top?_setTop htop, hsubstate]
  · exact ⟨rfl, trivial⟩
  · exact ⟨rfl, trivial⟩

theorem follows_activate (h : env.Records calls) (hidle : n.phase = .idle) :
    (activate env custom n).Follows calls (calls (n.briefed env custom).world) := by
  have hkeeps : n.KeepsWindow := keepsWindow_of_not_listening (by simp [hidle])
  unfold activate briefed
  cases n.sessions.top? with
  | none => exact ⟨rfl, hkeeps⟩
  | some t =>
      dsimp only
      by_cases hdue : t.counter.isZero = true
      · rw [if_pos hdue, if_pos hdue]
        split
        · exact ⟨rfl, trivial⟩
        · exact follows_engage h _ (n.runApplet env custom t).2
      · rw [if_neg hdue, if_neg hdue]
        exact ⟨rfl, hkeeps⟩

/-! ## Frames -/

theorem follows_proceed (h : env.Records calls)
    (hleft : s.netState.substate = .responseRx →
      n.countdown - watchdogSlack ≤ n.access.rxTimeout) :
    (proceed env s n).Follows calls (calls n.world) := by
  unfold proceed
  split
  · have hsending := follows_beginSending h s ((n.storeTop s).responding s)
    rw [world_responding] at hsending
    exact hsending
  next hsubstate =>
    dsimp only
    split
    · exact ⟨rfl, trivial⟩
    next hopen =>
      rw [Bool.or_eq_true, not_or] at hopen
      have hnonzero : n.countdown - watchdogSlack ≠ 0 := fun hzero => hopen.2 (by simp [hzero])
      exact ⟨rfl, fun _ => hnonzero, .inr (hleft hsubstate), fun _ _ _ => hleft hsubstate⟩
  next hsubstate =>
    split
    · refine ⟨rfl, grants_listenWindow rfl rfl fun t htop => ?_⟩
      rw [SessionStack.eq_of_top?_setTop htop, hsubstate]
    · exact ⟨rfl, trivial⟩
  · exact ⟨rfl, trivial⟩

theorem process_of_load {frame : List UInt8} {inbound : FrameQueue}
    (hload : FrameQueue.load frame = .ok inbound) :
    process env frame s n =
      let result := (n.arrival inbound s).receive env n.config
      if result.1 < 0 ∨ result.2.session.netState.scrapped = true then
        ends (n.resume result.2.toLayers)
      else proceed env result.2.session (n.resume result.2.toLayers) := by
  unfold process
  rw [hload]
  rfl

/-- A dialog that still waits for responses after a frame has waited for them before, in the
same window. -/
theorem follows_process (h : env.Records calls) (hkeeps : n.KeepsWindow)
    (hphase : n.phase = .listening) (htop : n.sessions.top? = some s) (frame : List UInt8) :
    (process env frame s n).Follows calls (calls n.world) := by
  cases hload : FrameQueue.load frame with
  | error cause =>
      unfold process
      rw [hload]
      exact ⟨rfl, trivial⟩
  | ok inbound =>
      have hview := (Exchange.kept_receive h.toOnlyRadio n.config (n.arrival inbound s)).view
      have hturn := Exchange.mayFollow_receive env n.config (n.arrival inbound s)
      have hwaits := Exchange.exists_enters_of_waits (x := n.arrival inbound s) env n.config
      rw [process_of_load hload]
      generalize (n.arrival inbound s).receive env n.config = result at *
      obtain ⟨score, x⟩ := result
      dsimp only at *
      split
      · exact ⟨hview, trivial⟩
      next haccepted =>
        obtain ⟨hscore, hkept⟩ := not_or.mp haccepted
        have hproceeds := follows_proceed (n := n.resume x.toLayers) (s := x.session) h ?_
        · rw [show calls (n.resume x.toLayers).world = calls n.world from hview] at hproceeds
          exact hproceeds
        · intro hsubstate
          have hresponds : x.session.netState.substate ≠ .responseTx := by simp [hsubstate]
          have hwaited : s.netState.substate = .responseRx :=
            (hturn.resolve_right hresponds).symm.trans hsubstate
          obtain ⟨-, -, -, -, haccess⟩ :=
            hwaits (Int.not_lt.mp hscore) (not_or.mpr ⟨hresponds, hkept⟩)
          change n.countdown - watchdogSlack ≤ x.access.rxTimeout
          rw [show x.access = n.access from haccess]
          exact hkeeps hphase s htop hwaited

theorem follows_relisten (s : Session) (n : Node W) :
    (relisten s n).Follows calls (calls n.world) := by
  unfold relisten
  split
  next access hsubstate hspent =>
    have hasked : access.rxTimeout = n.access.rxTimeout := by
      rw [ChannelAccess.spendRetry_eq_some hspent]
    refine ⟨rfl, grants_listenWindow rfl hasked fun t htop => ?_⟩
    rw [SessionStack.eq_of_top?_setTop htop, hsubstate]
  · exact ⟨rfl, trivial⟩

theorem follows_onFrame (h : env.Records calls) (hkeeps : n.KeepsWindow) (frame : List UInt8)
    (intact : Bool) : (onFrame env frame intact n).Follows calls (calls n.world) := by
  unfold onFrame
  split
  next hphase =>
    split
    · exact ⟨rfl, keepsWindow_of_not_listening (by simp)⟩
    next htop =>
      split
      · exact follows_process h hkeeps hphase htop frame
      · exact follows_relisten _ n
  · exact ⟨rfl, hkeeps⟩

theorem follows_onTimeout (hkeeps : n.KeepsWindow) :
    (onTimeout n).Follows calls (calls n.world) := by
  unfold onTimeout
  split
  · split
    · exact ⟨rfl, keepsWindow_of_not_listening (by simp)⟩
    · exact follows_relisten _ n
  · exact ⟨rfl, hkeeps⟩

/-! ## Transmissions -/

theorem follows_onAssessed (hkeeps : n.KeepsWindow) (clear : Bool) :
    (onAssessed clear n).Follows calls (calls n.world) := by
  unfold onAssessed
  split
  · split
    · split <;> exact ⟨rfl, trivial⟩
    · exact ⟨rfl, trivial⟩
  · exact ⟨rfl, hkeeps⟩

theorem follows_afterRequest (s : Session) (n : Node W) :
    (afterRequest s n).Follows calls (calls n.world) := by
  unfold afterRequest
  split
  · exact ⟨rfl, trivial⟩
  · split
    · exact ⟨rfl, trivial⟩
    next hwaits =>
      rw [Bool.or_eq_true, not_or] at hwaits
      have hnonzero : n.access.rxTimeout ≠ 0 := fun hzero => hwaits.1 (by simp [hzero])
      exact ⟨rfl, fun _ => hnonzero, .inr (Nat.le_refl _), fun _ _ _ => Nat.le_refl _⟩

theorem follows_onSent (hkeeps : n.KeepsWindow) (success : Bool) :
    (onSent success n).Follows calls (calls n.world) := by
  unfold onSent
  split
  · split
    · split
      · exact ⟨rfl, keepsWindow_of_not_listening (by simp)⟩
      · split
        · exact follows_afterRequest _ n
        all_goals exact ⟨rfl, trivial⟩
    · exact ⟨rfl, trivial⟩
  · exact ⟨rfl, hkeeps⟩

/-! ## Inputs -/

theorem follows_onEvent (h : env.Records calls) (hkeeps : n.KeepsWindow) (event : RadioEvent) :
    (onEvent env n event).Follows calls (calls n.world) := by
  cases event with
  | received frame intact => exact follows_onFrame h hkeeps frame intact
  | timeout => exact follows_onTimeout hkeeps
  | assessed clear => exact follows_onAssessed hkeeps clear
  | sent success => exact follows_onSent hkeeps success

theorem follows_run (h : env.Records calls) (hkeeps : n.KeepsWindow) (elapsed : Ticks) :
    ∃ new, (∀ call ∈ new, ¬call.Listens) ∧ (run env custom elapsed n).Follows calls
      (new ++ calls (n.afterApplet env custom (.run elapsed)).world) := by
  have hbusy : n.phase ≠ .idle → n.afterApplet env custom (.run elapsed) = n :=
    fun hphase => if_neg hphase
  unfold run
  dsimp only
  split
  next hphase =>
    have hbriefed : n.afterApplet env custom (.run elapsed) =
        ({ n with sessions := n.sessions.elapse elapsed } : Node W).briefed env custom :=
      if_pos hphase
    rw [hbriefed]
    exact ⟨[], nofun, follows_activate h hphase⟩
  next hphase =>
    rw [hbusy (by simp [hphase])]
    refine ⟨[], nofun, ?_⟩
    split
    · exact ⟨rfl, trivial⟩
    · exact ⟨rfl, keepsWindow_of_not_listening (by simp [hphase])⟩
  next hphase =>
    rw [hbusy (by simp [hphase])]
    split
    · -- The watchdog puts the radio to rest, and that is the one call before the dialog goes on.
      refine ⟨[.idle], by simp [RadioCall.Listens], ?_⟩
      rw [List.singleton_append, ← h.idle n.world]
      exact follows_onTimeout (hkeeps.elapse elapsed _)
    · exact ⟨[], nofun, rfl, hkeeps.elapse elapsed _⟩
  all_goals
    next hphase =>
      rw [hbusy (by simp [hphase])]
      exact ⟨[], nofun, rfl, keepsWindow_of_not_listening (by simp [hphase])⟩

theorem follows_step (h : env.Records calls) (hn : n.Consistent) (hkeeps : n.KeepsWindow)
    (input : Input) :
    ∃ new, (∀ call ∈ new, ¬call.Listens) ∧ (step env custom n input).Follows calls
      (new ++ calls (n.afterApplet env custom input).world) := by
  have hrequests : input.Requests → (rests (n.step env custom input)).Follows calls
      (calls n.world) := by
    intro hrequests
    obtain ⟨sessions, hschedules, heq⟩ : ∃ sessions, n.sessions.Schedules sessions ∧
        n.step env custom input = { n with sessions } := schedules_step hrequests
    rw [heq]
    exact ⟨rfl, hkeeps.schedules hn hschedules⟩
  cases input with
  | run elapsed => exact follows_run h hkeeps elapsed
  | event event => exact ⟨[], nofun, follows_onEvent h hkeeps event⟩
  | schedule | scheduleScan | scheduleBeacon => exact ⟨[], nofun, hrequests trivial⟩
  | flush =>
      refine ⟨[.idle], by simp [RadioCall.Listens], h.idle n.world, ?_⟩
      exact keepsWindow_of_not_listening (by simp [Node.step, flush, rest])

end Reaction

namespace Node

variable {env : Environment W} {custom : CustomApplets W} {config : Config} {world : W}
  {n m k : Node W} {calls : W → List RadioCall}

/-! ## Runs -/

/-- One input opens windows within bounds only, and keeps the node to its window. -/
theorem opensWindows_step (h : env.Records calls) (hn : n.Consistent) (hkeeps : n.KeepsWindow)
    (input : Input) :
    (n.step env custom input).KeepsWindow ∧
      OpensWindows calls (calls (n.afterApplet env custom input).world)
        (n.step env custom input) := by
  obtain ⟨new, hnone, hfollows⟩ : ∃ new, (∀ call ∈ new, ¬call.Listens) ∧
      (Reaction.step env custom n input).Follows calls
        (new ++ calls (n.afterApplet env custom input).world) :=
    Reaction.follows_step h hn hkeeps input
  have hcomplete := hfollows.complete h
  rw [Reaction.complete_step] at hcomplete
  obtain ⟨hstill, later, hcalls, hwindows⟩ := hcomplete
  refine ⟨hstill, later ++ new, by rw [hcalls, List.append_assoc], ?_⟩
  intro channel timeout accepted hmem
  rcases List.mem_append.mp hmem with hmem | hmem
  · exact hwindows channel timeout accepted hmem
  · exact absurd trivial (hnone _ hmem)

/-- In every run whose applets do not change when their own dialog is due and otherwise only
schedule dialogs, a node that listens has a dialog that does, and keeps to its window. -/
theorem keepsWindow_of_reaches (hcustom : custom.Disciplined)
    (hrun : Reaches custom (fun env _ => env.Records calls) (start config world) n) :
    n.Consistent ∧ n.KeepsWindow := by
  induction hrun with
  | refl => exact ⟨consistent_start config world, keepsWindow_of_not_listening (by simp [start])⟩
  | step _ h ih =>
      obtain ⟨hn, hkeeps⟩ := ih
      exact ⟨hn.step hcustom _, (opensWindows_step h hn hkeeps _).1⟩

end Node

end Mode2
