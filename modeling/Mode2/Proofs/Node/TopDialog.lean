import Mode2.Proofs.Node.Consistency
import Mode2.Proofs.Node.Reactions

/-!
# What an input makes of the top dialog

While a node is not idle, an input changes of its dialogs only the one on top, which keeps
its slot, and adds at most a continuation of it. Then the node goes on with that dialog,
or it ends the dialog and is idle.
-/

namespace Mode2

variable {W : Type} {env : Environment W} {custom : CustomApplets W}

@[simp] theorem SessionStack.setTop_top {stack : SessionStack} {t : Session}
    (h : stack.top? = some t) : stack.setTop t = stack := by
  obtain ⟨rest, hsessions⟩ := exists_of_top? h
  unfold setTop
  congr
  simp [hsessions]

theorem SessionStack.top?_setTop {stack : SessionStack} {t : Session} (h : stack.top? = some t)
    (s : Session) : (stack.setTop s).top? = some s := by
  obtain ⟨rest, hsessions⟩ := exists_of_top? h
  exact top?_eq (sessions_setTop hsessions s)

theorem SessionStack.top?_elapse {stack : SessionStack} {t : Session} (h : stack.top? = some t)
    (elapsed : Ticks) : (stack.elapse elapsed).top? = some (t.age elapsed) := by
  obtain ⟨rest, hsessions⟩ := exists_of_top? h
  exact top?_eq (by rw [sessions_elapse, hsessions, List.map_cons])

/-- A continuation is placed under the dialog that it continues. -/
theorem SessionStack.top?_of_scheduleCopy {stack after : SessionStack} {s t copy : Session}
    {wait : Ticks} {netState : NetState} (htop : stack.top? = some t) (hdue : s.counter = 0)
    (hcopy : (stack.setTop s).scheduleCopy s wait netState = .ok (copy, after)) :
    after.top? = some s := by
  obtain ⟨rest, hsessions⟩ := exists_of_top? htop
  have hplaced := sessions_scheduleCopy hcopy
  rw [sessions_setTop hsessions, Schedule.place_under_due hdue] at hplaced
  exact top?_eq hplaced

theorem SessionStack.pop_setTop (stack : SessionStack) (s : Session) :
    (stack.setTop s).pop = stack.pop := by
  have htail : (stack.sessions.set 0 s).tail = stack.sessions.tail := by
    cases stack.sessions <;> rfl
  unfold setTop pop
  congr 1

namespace Node

/-! ## Going on or ending -/

/-- The node goes on with its top dialog, or it ends the dialog and is idle. -/
def Closes (n m : Node W) : Prop :=
  m.phase ≠ .idle ∧ m.sessions = n.sessions ∨ m.phase = .idle ∧ m.sessions = n.sessions.pop

theorem Closes.of_sessions {n n' m : Node W} (h : Closes n' m)
    (hsessions : n'.sessions = n.sessions) : Closes n m := by
  unfold Closes
  rw [← hsessions]
  exact h

theorem closes_endSession (n : Node W) : Closes n (n.endSession env) :=
  .inr ⟨rfl, rfl⟩

theorem closes_listen (channel : UInt8) (timeout : Ticks) (n : Node W) :
    Closes n (n.listen env channel timeout) := by
  unfold listen
  split
  · exact .inl ⟨nofun, rfl⟩
  next cause world _ => exact closes_endSession { n with world }

theorem closes_retry (n : Node W) : Closes n (n.retry env) := by
  unfold retry
  split
  · exact .inl ⟨nofun, rfl⟩
  · exact closes_endSession n

theorem closes_send (channel : UInt8) (n : Node W) : Closes n (n.send env channel) := by
  unfold send
  split
  · exact .inl ⟨nofun, rfl⟩
  next cause world _ => exact closes_retry { n with world }

theorem closes_yieldChannel (n : Node W) : Closes n (n.yieldChannel env) := by
  unfold yieldChannel
  dsimp only
  split
  · exact .inl ⟨nofun, rfl⟩
  · exact .inr ⟨rfl, rfl⟩

theorem closes_attempt (n : Node W) : Closes n (n.attempt env) := by
  unfold attempt
  split
  · exact closes_endSession n
  · split
    · exact closes_send _ n
    · split
      · exact .inl ⟨nofun, rfl⟩
      next cause world _ => exact closes_yieldChannel { n with world }

theorem closes_perform (move : Move) (n : Node W) : Closes n (n.perform env move) := by
  cases move with
  | pause length => exact .inl ⟨nofun, rfl⟩
  | attempt => exact closes_attempt n
  | send channel => exact closes_send channel n
  | yieldChannel => exact closes_yieldChannel n
  | retry => exact closes_retry n

theorem closes_settle {n m : Node W} (h : Closes n m) : Closes n (m.settle env) := by
  refine settle_induct (fun k hdue hk => ?_) h
  rcases hk with ⟨-, hsessions⟩ | ⟨hidle, -⟩
  · exact (closes_attempt k).of_sessions hsessions
  · simp [isDue, hidle] at hdue

end Node

namespace Reaction

/-! ## Work on the top -/

/-- The top dialog has been replaced by one in the same slot, of which a continuation may
have been scheduled. -/
def Reworks (stack : SessionStack) (t : Session) (after : SessionStack) : Prop :=
  ∃ s, s.slot = t.slot ∧ (after = stack.setTop s ∨
    ∃ wait netState copy, (stack.setTop s).scheduleCopy s wait netState = .ok (copy, after))

theorem Reworks.of_top {stack : SessionStack} {t : Session} (htop : stack.top? = some t) :
    Reworks stack t stack :=
  ⟨t, rfl, .inl (SessionStack.setTop_top htop).symm⟩

theorem Reworks.stored {stack : SessionStack} {s t : Session} (hslot : s.slot = t.slot) :
    Reworks stack t (stack.setTop s) :=
  ⟨s, hslot, .inl rfl⟩

/-- A node with nothing left to do is not idle. -/
def StaysActive : Reaction W → Prop
  | rests n => n.phase ≠ .idle
  | ends _ | listens _ _ _ | contends _ _ => True

/-- What is left to do, done, goes on with the top dialog or ends it. -/
theorem StaysActive.closes {r : Reaction W} (h : r.StaysActive) :
    r.node.Closes (r.complete env) := by
  cases r with
  | rests m => exact .inl ⟨h, rfl⟩
  | ends m => exact Node.closes_endSession m
  | listens channel timeout m => exact Node.closes_listen channel timeout m
  | contends move m => exact Node.closes_settle (Node.closes_perform move m)

/-- The dialog that is worked on stays on top. -/
theorem Reworks.top {stack after : SessionStack} {t : Session} (h : Reworks stack t after)
    (htop : stack.top? = some t) (hdue : t.counter = 0) :
    ∃ s, s.slot = t.slot ∧ after.top? = some s := by
  obtain ⟨rest, hsessions⟩ := SessionStack.exists_of_top? htop
  obtain ⟨s, hslot, rfl | ⟨wait, netState, copy, hcopy⟩⟩ := h
  · exact ⟨s, hslot, SessionStack.top?_eq (SessionStack.sessions_setTop hsessions s)⟩
  · have hcounter : s.counter = 0 := (Session.counter_of_slot hslot).trans hdue
    exact ⟨s, hslot, SessionStack.top?_of_scheduleCopy htop hcounter hcopy⟩

/-- Only the top is worked on, and the node stays active unless something is left to do. -/
structure Attends (stack : SessionStack) (t : Session) (r : Reaction W) : Prop where
  reworks : Reworks stack t r.node.sessions
  active : r.StaysActive

variable {stack : SessionStack} {n : Node W} {s t : Session}

theorem attends_rests (htop : n.sessions.top? = some t) (hphase : n.phase ≠ .idle) :
    (rests n).Attends n.sessions t :=
  ⟨.of_top htop, hphase⟩

theorem attends_ends (htop : n.sessions.top? = some t) : (ends n).Attends n.sessions t :=
  ⟨.of_top htop, trivial⟩

theorem attends_contends (htop : n.sessions.top? = some t) (move : Move) :
    (contends move n).Attends n.sessions t :=
  ⟨.of_top htop, trivial⟩

theorem sessions_beginSending (s : Session) (n : Node W) :
    (beginSending env s n).node.sessions = n.sessions := by
  unfold beginSending
  split <;> rfl

theorem active_beginSending (s : Session) (n : Node W) :
    (beginSending env s n).StaysActive := by
  unfold beginSending
  split <;> trivial

theorem sessions_engage (s : Session) (n : Node W) :
    (engage env s n).node.sessions = n.sessions := by
  unfold engage
  split
  · exact sessions_beginSending s n
  all_goals rfl

theorem active_engage (s : Session) (n : Node W) : (engage env s n).StaysActive := by
  unfold engage
  split
  · exact active_beginSending s n
  all_goals trivial

/-- A response is sent by the dialog itself, and its continuation is a copy of it. -/
theorem attends_beginResponding (hslot : s.slot = t.slot) :
    (beginSending env s ((n.storeTop s).responding s)).Attends n.sessions t := by
  refine ⟨?_, active_beginSending _ _⟩
  rw [sessions_beginSending]
  unfold Node.responding
  dsimp only
  split
  · generalize hcopy : (n.storeTop s).sessions.scheduleCopy s _ _ = copied
    cases copied with
    | error cause => exact .stored hslot
    | ok scheduled => exact ⟨s, hslot, .inr ⟨_, _, scheduled.1, hcopy⟩⟩
  · exact .stored hslot

theorem attends_proceed (htop : n.sessions.top? = some t) (hslot : s.slot = t.slot) :
    (proceed env s n).Attends n.sessions t := by
  unfold proceed
  split
  · exact attends_beginResponding hslot
  · dsimp only
    split
    · exact attends_ends htop
    · exact ⟨.stored hslot, trivial⟩
  · split
    · exact ⟨.stored hslot, trivial⟩
    · exact attends_ends htop
  · exact attends_ends htop

theorem attends_process (htop : n.sessions.top? = some t) (frame : List UInt8) :
    (process env frame t n).Attends n.sessions t := by
  unfold process
  split
  · exact attends_ends htop
  next inbound _ =>
    dsimp only
    generalize hx : Node.exchange { n with network := { n.network with inbound } } t = x
    have hkept := Exchange.kept_receive env.onlyRadio_unit n.config x
    have hslot : (x.receive env n.config).2.session.slot = t.slot := by
      rw [hkept.slot, ← hx]
      rfl
    split
    · exact ⟨.of_top htop, trivial⟩
    · have hproceeds : ∀ (m : Node W) (u : Session), m.sessions = n.sessions → u.slot = t.slot →
          (proceed env u m).Attends n.sessions t := by
        intro m u hm hu
        rw [← hm] at htop ⊢
        exact attends_proceed htop hu
      exact hproceeds _ _ rfl hslot

theorem attends_relisten (htop : n.sessions.top? = some t) (hslot : s.slot = t.slot) :
    (relisten s n).Attends n.sessions t := by
  unfold relisten
  split
  · exact ⟨.stored hslot, trivial⟩
  · exact attends_ends htop

theorem attends_afterRequest (htop : n.sessions.top? = some t) :
    (afterRequest t n).Attends n.sessions t := by
  unfold afterRequest
  split
  · exact ⟨.of_top htop, trivial⟩
  · split
    · exact attends_ends htop
    · dsimp only
      generalize hs : (if ContentionParams.isArbitrated n.access.params = true then _ else _) = s
      have hslot : s.slot = t.slot := by
        rw [← hs]
        split <;> rfl
      exact ⟨.stored hslot, trivial⟩

theorem attends_onFrame (htop : n.sessions.top? = some t) (hphase : n.phase ≠ .idle)
    (frame : List UInt8) (intact : Bool) :
    (onFrame env frame intact n).Attends n.sessions t := by
  unfold onFrame
  split
  · rw [htop]
    dsimp only
    split
    · exact attends_process htop frame
    · exact attends_relisten htop rfl
  · exact attends_rests htop hphase

theorem attends_onTimeout (htop : n.sessions.top? = some t) (hphase : n.phase ≠ .idle) :
    (onTimeout n).Attends n.sessions t := by
  unfold onTimeout
  split
  · rw [htop]
    exact attends_relisten htop rfl
  · exact attends_rests htop hphase

theorem attends_onAssessed (htop : n.sessions.top? = some t) (hphase : n.phase ≠ .idle)
    (clear : Bool) : (onAssessed clear n).Attends n.sessions t := by
  unfold onAssessed
  split
  · split
    · split <;> exact attends_contends htop _
    · exact attends_contends htop _
  · exact attends_rests htop hphase

theorem attends_onSent (htop : n.sessions.top? = some t) (hphase : n.phase ≠ .idle)
    (success : Bool) : (onSent success n).Attends n.sessions t := by
  unfold onSent
  split
  · split
    · rw [htop]
      dsimp only
      split
      · exact attends_afterRequest htop
      all_goals exact attends_ends htop
    · exact attends_contends htop _
  · exact attends_rests htop hphase

/-- Whatever the radio reports to a node with an active dialog. -/
theorem attends_onEvent (htop : n.sessions.top? = some t) (hphase : n.phase ≠ .idle)
    (event : RadioEvent) : (onEvent env n event).Attends n.sessions t := by
  cases event with
  | received frame intact => exact attends_onFrame htop hphase frame intact
  | timeout => exact attends_onTimeout htop hphase
  | assessed clear => exact attends_onAssessed htop hphase clear
  | sent success => exact attends_onSent htop hphase success

/-- However much time passes with an active dialog. -/
theorem attends_run {elapsed : Ticks} (htop : (n.sessions.elapse elapsed).top? = some t)
    (hphase : n.phase ≠ .idle) :
    (run env custom elapsed n).Attends (n.sessions.elapse elapsed) t := by
  have hrests : ∀ m : Node W, m.sessions = n.sessions.elapse elapsed → m.phase ≠ .idle →
      (rests m).Attends (n.sessions.elapse elapsed) t := by
    rintro m hm hactive
    rw [← hm] at htop ⊢
    exact attends_rests htop hactive
  unfold run
  dsimp only
  split
  next hidle => exact absurd hidle hphase
  · split
    · exact ⟨.of_top htop, trivial⟩
    · exact hrests _ rfl hphase
  · split
    · exact attends_onTimeout (n := { n with sessions := _, countdown := _, world := _ })
        htop hphase
    · exact hrests _ rfl hphase
  all_goals exact hrests _ rfl hphase

end Reaction

namespace Node

theorem closes_engage (s : Session) (n : Node W) : Closes n (n.engage env s) := by
  have hactive : (Reaction.engage env s n).StaysActive := Reaction.active_engage s n
  have hcloses : (Reaction.engage env s n).node.Closes ((Reaction.engage env s n).complete env) :=
    hactive.closes
  rw [Reaction.complete_engage] at hcloses
  exact hcloses.of_sessions (Reaction.sessions_engage s n)

/-- Once its applet has returned, the node goes on with the dialog or ends it. -/
theorem closes_activate {n : Node W} {t : Session} (htop : n.sessions.top? = some t)
    (hdue : t.counter = 0) :
    Closes ((n.runApplet env custom t).2.storeTop (n.runApplet env custom t).1)
      (n.activate env custom) := by
  rw [activate_eq env custom htop hdue]
  split
  · exact .inr ⟨rfl, (SessionStack.pop_setTop _ _).symm⟩
  · exact closes_engage _ _

end Node

end Mode2
