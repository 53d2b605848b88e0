import Mode2.Proofs.Exchange.RequestedAccess
import Mode2.Proofs.Node.ActiveDialog
import Mode2.Proofs.Node.ResponseTiming
import Mode2.Proofs.Session.DueQueue

/-!
# The schedule of a node that responds

A response contends in the window that its request asks for, but only until the next dialog is
due. A dialog that keeps listening is continued after that window: the continuation takes a free
slot between the other dialogs, none of which is moved or put off, and none of which it delays.
Without a free slot there is no continuation, and the response goes out all the same.
-/

namespace Mode2

variable {W : Type} {env : Environment W} {custom : CustomApplets W}

/-! ## Placing a dialog -/

/-- A dialog is placed between those that are due no later than it and those that are due
later. -/
theorem Schedule.exists_place (s : Session) {l : List Session} (h : Ordered l) :
    ∃ before after, l = before ++ after ∧ SessionStack.place s l = before ++ s :: after ∧
      (∀ u ∈ before, u.counter ≤ s.counter) ∧ ∀ u ∈ after, s.counter < u.counter := by
  induction l with
  | nil => exact ⟨[], [], rfl, rfl, List.forall_mem_nil _, List.forall_mem_nil _⟩
  | cons t rest ih =>
      obtain ⟨hfirst, hrest⟩ := List.pairwise_cons.mp h
      by_cases hlt : s.counter < t.counter
      · refine ⟨[], t :: rest, rfl, by rw [SessionStack.place, if_pos hlt]; rfl,
          List.forall_mem_nil _, List.forall_mem_cons.mpr ⟨hlt, fun u hu => ?_⟩⟩
        exact Nat.lt_of_lt_of_le hlt (hfirst u hu)
      · obtain ⟨before, after, rfl, hplaced, hearlier, hlater⟩ := ih hrest
        refine ⟨t :: before, after, rfl, by rw [SessionStack.place, if_neg hlt, hplaced]; rfl,
          List.forall_mem_cons.mpr ⟨Nat.le_of_not_lt hlt, hearlier⟩, hlater⟩

@[simp] theorem SessionStack.follower?_setTop (stack : SessionStack) (s : Session) :
    (stack.setTop s).follower? = stack.follower? := by
  simp [setTop, follower?]

@[simp] theorem SessionStack.followerWait_setTop (stack : SessionStack) (s : Session) :
    (stack.setTop s).followerWait = stack.followerWait := by
  rw [followerWait, followerWait, follower?_setTop]

/-- The dialog as it goes on after its response: it listens for requests, and of its state no
more is left than who its peer is and whether it carries a datastream. -/
def Session.continuation (s : Session) (window : Clocks) : Session :=
  { s with
    counter := window.toTicks
    netState :=
      { substate := .requestRx
        connected := s.netState.connected
        datastream := s.netState.datastream }
    applet := none }

namespace Node

variable {n : Node W} {s : Session} {frame : List UInt8}

/-! ## The window of a response -/

/-- A wait too long for the register of windows does not shorten any window. -/
theorem count_responseWindow (n : Node W) :
    n.responseWindow.count =
      min n.access.window.count n.sessions.followerWait.toClocks.count := by
  have hwindow := n.access.window.count_lt
  unfold responseWindow
  split
  next hshort => exact (Nat.min_eq_right (Nat.le_of_lt hshort.2)).symm
  next hlong =>
    by_cases hnever : n.sessions.followerWait = .never
    · rw [hnever, Ticks.count_toClocks, Span.count_never]
      omega
    · have hge : ¬n.sessions.followerWait.toClocks.count < n.access.window.count :=
        fun hlt => hlong ⟨hnever, hlt⟩
      omega

theorem responseWindow_of_no_follower (hnone : n.sessions.follower? = none) :
    n.responseWindow = n.access.window := by
  have hnever : n.sessions.followerWait = .never := by simp [SessionStack.followerWait, hnone]
  exact if_neg fun h => h.1 hnever

/-- Rounding a window to ticks does not take it beyond the next dialog. -/
theorem toTicks_responseWindow_le {granted : Ticks}
    (hgranted : n.access.window = granted.toClocks) :
    n.responseWindow.toTicks ≤ n.sessions.followerWait := by
  obtain ⟨window, hwindow, hle⟩ := exists_responseWindow hgranted
  rw [hwindow, Span.le_def, Clocks.count_toTicks, Ticks.count_toClocks]
  omega

/-! ## The dialogs of a node that responds -/

/-- A dialog that keeps listening is continued if a slot is free. -/
theorem sessions_responding (s : Session) (n : Node W) :
    (n.responding s).sessions.sessions =
      if s.flags.listen = true ∧ n.sessions.sessions.length < sessionCapacity then
        SessionStack.place (s.continuation n.responseWindow) n.sessions.sessions
      else n.sessions.sessions := by
  have hwindow : (if n.sessions.followerWait ≠ .never ∧
      n.sessions.followerWait.toClocks < n.access.window then n.sessions.followerWait.toClocks
      else n.access.window) = n.responseWindow := rfl
  unfold responding
  dsimp only
  rw [hwindow]
  by_cases hlisten : s.flags.listen = true
  · rw [if_pos hlisten]
    unfold SessionStack.scheduleCopy
    dsimp only
    by_cases hfree : n.sessions.sessions.length < sessionCapacity
    · rw [if_pos ⟨hlisten, hfree⟩, SessionStack.insert_of_free hfree]
      rfl
    · rw [if_neg fun h => hfree h.2, SessionStack.insert_of_full hfree]
      rfl
  · rw [if_neg hlisten, if_neg fun h => hlisten h.1]

/-- What stands under a dialog that responds: the dialogs that stood there, and among them its
continuation when it keeps listening and a slot was free. -/
inductive Continues (reply : Session) (window : Clocks) (length : Nat) (others : List Session) :
    List Session → Prop
  | alone (h : ¬(reply.flags.listen = true ∧ length < sessionCapacity)) :
      Continues reply window length others others
  | continued {before after : List Session} (listens : reply.flags.listen = true)
      (free : length < sessionCapacity) (split : others = before ++ after)
      (earlier : ∀ u ∈ before, u.counter ≤ (reply.continuation window).counter)
      (later : ∀ u ∈ after, (reply.continuation window).counter < u.counter) :
      Continues reply window length others (before ++ reply.continuation window :: after)

/-- The dialog that responds stays on top, due, and its continuation goes under it. -/
theorem exists_continues {reply : Session} {rest : List Session} (hdue : reply.counter = 0)
    (hrest : Schedule.Ordered rest) (hsessions : n.sessions.sessions = reply :: rest) :
    ∃ under, (n.responding reply).sessions.sessions = reply :: under ∧
      Continues reply n.responseWindow n.sessions.sessions.length rest under := by
  rw [sessions_responding]
  by_cases hcontinues :
      reply.flags.listen = true ∧ n.sessions.sessions.length < sessionCapacity
  · rw [if_pos hcontinues]
    obtain ⟨before, after, hsplit, hplaced, hearlier, hlater⟩ :=
      Schedule.exists_place (reply.continuation n.responseWindow) hrest
    refine ⟨_, ?_, .continued hcontinues.1 hcontinues.2 hsplit hearlier hlater⟩
    rw [hsessions, Schedule.place_under_due hdue, hplaced]
  · rw [if_neg hcontinues]
    exact ⟨rest, hsessions, .alone hcontinues⟩

/-! ## What the request asks for -/

/-- The frame is a request to this device with this command, which says so how to answer. -/
def Requests (env : Environment W) (frame : List UInt8) (s : Session) (n : Node W)
    (kind : RequestKind) (command : Command) (w : WindowField) : Prop :=
  ∃ inbound y, FrameQueue.load frame = .ok inbound ∧
    (HeaderM.read env n.config).run (n.arrival inbound s) = .ok .local y ∧
    y.Requests kind command w

/-- A frame that is answered is a request, and its response contends as it says. -/
theorem exists_grants_of_answersRequest (hanswers : n.AnswersRequest env frame s) :
    ∃ kind command w, n.Requests env frame s kind command w ∧
      w.Grants kind command s.channel (n.answering env frame s).access := by
  obtain ⟨inbound, hload, ⟨y, hread, hrequest⟩, hscore, -, -⟩ := hanswers
  obtain ⟨kind, command, w, hrequests, hgrants⟩ :=
    Exchange.grants_receive n.config hread hrequest hscore
  have hslot := ((Exchange.undisturbed_read env.onlyRadio_unit n.config _).of_ok hread).slot
  rw [Session.channel_of_slot hslot, ← processed_of_load hload] at hgrants
  exact ⟨kind, command, w, ⟨inbound, y, hload, hread, hrequests⟩, hgrants⟩

theorem slot_processed (env : Environment W) (frame : List UInt8) (s : Session) (n : Node W) :
    (n.processed env frame s).session.slot = s.slot := by
  unfold processed
  split
  · exact (Exchange.kept_receive env.onlyRadio_unit n.config _).slot
  · rfl

/-! ## Responses and the schedule -/

/-- A response contends in the window that its request asks for, or until the next dialog is due
if that is sooner. The other dialogs stay as they are and in their order; at most the continuation
of the dialog joins them, which is due no later than the next of them, and it does so exactly when
the dialog keeps listening and a slot is free. With or without it the response contends. -/
theorem responds_on_schedule (hn : n.Consistent) (hphase : n.phase = .listening)
    (htop : n.sessions.top? = some s) (hanswers : n.AnswersRequest env frame s) :
    let reply := (n.processed env frame s).session
    let m := n.step env custom (.event (.received frame true))
    ∃ (kind : RequestKind) (command : Command) (w : WindowField) (window : Clocks)
      (under : List Session) (k : Node W),
      n.Requests env frame s kind command w ∧
      window.count = min (WindowCode.decode w.code).toClocks.count
        n.sessions.followerWait.toClocks.count ∧
      (n.sessions.follower? = none → window = (WindowCode.decode w.code).toClocks) ∧
      Continues reply window n.sessions.sessions.length n.sessions.sessions.tail under ∧
      (reply.continuation window).counter ≤ n.sessions.followerWait ∧
      k.access.window = window ∧ k.sessions.sessions = reply :: under ∧
      k.network = (n.processed env frame s).network ∧
      m = (k.begun env reply).settle env ∧
      (m.phase.IsTransmitting ∧ m.sessions.sessions = reply :: under ∨
        m.phase = .idle ∧ m.sessions.sessions = under) := by
  intro reply m
  obtain ⟨t, rest, hsessions, hdue, hrest⟩ := hn.exists_active (by simp [hphase])
  obtain rfl : t = s := Option.some.inj ((SessionStack.top?_eq hsessions).symm.trans htop)
  have hwaits : t.netState.substate ≠ .responseTx := fun hresponds =>
    hn.unanswered hphase (by simp [substate?, htop, hresponds])
  obtain ⟨kind, command, w, hrequests, hgrants⟩ := exists_grants_of_answersRequest hanswers
  let answering := n.answering env frame t
  let k := answering.responding reply
  have hreply : reply.counter = 0 :=
    (Session.counter_of_slot (slot_processed env frame t n)).trans hdue
  have hanswering : answering.sessions.sessions = reply :: rest :=
    SessionStack.sessions_setTop hsessions reply
  have hfollower? : answering.sessions.follower? = n.sessions.follower? :=
    n.sessions.follower?_setTop reply
  have hfollower : answering.sessions.followerWait = n.sessions.followerWait :=
    n.sessions.followerWait_setTop reply
  have hwindow : answering.responseWindow.count =
      min (WindowCode.decode w.code).toClocks.count n.sessions.followerWait.toClocks.count := by
    rw [count_responseWindow, hgrants.window, hfollower]
  obtain ⟨under, hunder, hcontinues⟩ := exists_continues hreply hrest hanswering
  have hstep : m = (k.begun env reply).settle env :=
    step_of_answersRequest hphase htop hwaits hanswers
  have hcontended : Contended k m := by
    rw [hstep]
    exact contended_settle (.inr ⟨.inl rfl, rfl, rfl, isSome_txChannel?_begun env reply k⟩)
  refine ⟨kind, command, w, answering.responseWindow, under, k, hrequests, hwindow,
    fun hnone => ?_, ?_, ?_, window_responding reply _, hunder, network_responding reply _,
    hstep, ?_⟩
  · rw [responseWindow_of_no_follower (hfollower?.trans hnone), hgrants.window]
  · rw [hsessions]
    rw [hanswering] at hcontinues
    exact hcontinues
  · rw [← hfollower]
    exact toTicks_responseWindow_le hgrants.window
  · rcases hcontended with hended | htransmits
    · refine .inr ⟨hended.phase, ?_⟩
      rw [hended.sessions, SessionStack.sessions_pop, hunder, List.tail_cons]
    · exact .inl ⟨htransmits.phase, by rw [htransmits.sessions, hunder]⟩

/-- A request to begin a datastream asks for a window of sixteen ticks, but a scan is due in
eight. The scan stays where it is, and the dialog goes on no later. -/
theorem responds_on_schedule_before_scan :
    let request := contendedRequest 0x00 0x14
    ∃ (n : Node Unit) (s scan : Session) (window : Clocks) (before after : List Session),
      Reaches .none (fun _ _ => True) (start .default ()) n ∧ n.phase = .listening ∧
      n.sessions.sessions = [s, scan] ∧ n.AnswersRequest .obliging request s ∧
      let reply := (n.processed .obliging request s).session
      let m := n.step .obliging .none (.event (.received request true))
      window.count ≤ 256 ∧ (reply.continuation window).counter ≤ 8 ∧
        [scan] = before ++ after ∧
        m.sessions.sessions = reply :: (before ++ reply.continuation window :: after) := by
  intro request
  let inputs : List Input := [.scheduleScan 0, .run 0, .scheduleScan 8]
  let n : Node Unit := inputs.foldl (step .obliging .none) (start .default ())
  let s : Session :=
    { counter := 0, channel := 0x10, netState := { substate := .requestRx }, flags := .none,
      dialogId := 0, subnet := 0xF0, extra := 0, applet := none }
  let scan : Session :=
    { counter := 8, channel := 0x10, netState := { substate := .requestRx, fresh := true },
      flags := .none, dialogId := 1, subnet := 0xF0, extra := 0, applet := some .scan }
  have hrun : Reaches .none (fun _ _ => True) (start .default ()) n :=
    reaches_foldl .obliging inputs .refl
  have hn : n.Consistent := (consistent_start .default ()).reaches (fun _ _ _ => ⟨rfl, .refl⟩) hrun
  have hphase : n.phase = .listening := by decide +kernel
  have hsessions : n.sessions.sessions = [s, scan] := by decide +kernel
  have hwait : n.sessions.followerWait = 8 := by decide +kernel
  have hanswers : n.AnswersRequest .obliging request s :=
    answersRequest_of_responds (load_contendedRequest _ _) (by decide) (by decide +kernel)
      (by decide +kernel) (by decide +kernel)
  have hlistens : (n.processed .obliging request s).session.flags.listen = true := by
    decide +kernel
  have hphase' : (n.step .obliging .none (.event (.received request true))).phase =
      .assessing := by decide +kernel
  obtain ⟨-, -, w, window, under, k, -, hwindow, -, hcontinues, hcounter, -, -, -, -, hafter⟩ :=
    @responds_on_schedule _ _ .none _ _ _ hn hphase (SessionStack.top?_eq hsessions) hanswers
  rw [hwait] at hwindow hcounter
  rw [hsessions] at hcontinues
  rcases hafter with ⟨-, hunder⟩ | ⟨hidle, -⟩
  · cases hcontinues with
    | alone hfull => exact absurd ⟨hlistens, by decide⟩ hfull
    | continued _ _ hsplit _ _ =>
        exact ⟨n, s, scan, window, _, _, hrun, hphase, hsessions, hanswers,
          hwindow ▸ Nat.min_le_right _ _, hcounter, hsplit, hunder⟩
  · rw [hphase'] at hidle
    cases hidle

end Node

end Mode2
