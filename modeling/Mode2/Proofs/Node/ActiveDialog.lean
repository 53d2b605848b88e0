import Mode2.Proofs.Node.Consistency

/-!
# The active dialog

Every input of a run keeps a node consistent. One input ends at most one dialog, the
one on top that is being worked on; the other dialogs only grow older, and new ones
are placed among them.
-/

namespace Mode2.Node

variable {W : Type} {env : Environment W} {custom : CustomApplets W} {n m : Node W}

/-! ## Activation -/

/-- The dialog that is due is activated; its applet may have scheduled others. -/
theorem handled_activate (hcustom : custom.Disciplined) {t : Session} {rest : List Session}
    (hrest : Schedule.Ordered rest) (hsessions : n.sessions.sessions = t :: rest)
    (hdue : t.counter = 0) :
    ∃ rest', Schedule.Grows rest rest' ∧ Handled rest' (n.activate env custom) := by
  unfold activate
  rw [SessionStack.top?_eq hsessions]
  dsimp only
  rw [if_pos (by simpa using hdue)]
  -- Of the applet no more is used than what applets may do.
  generalize hprepared : ({ n with access := _ } : Node W) = prepared
  generalize hfresh : ({ t with applet := none, netState.fresh := false } : Session) = fresh
  have heffect := Applet.effect_run hcustom env (t.applet.getD .idle) fresh prepared
  generalize (t.applet.getD .idle).run env custom fresh prepared = result at heffect ⊢
  obtain ⟨s, k⟩ := result
  have hcounter : s.counter = 0 := by
    rw [heffect.counter, ← hfresh]
    exact hdue
  have hgrows : Schedule.Grows (t :: rest) k.sessions.sessions := by
    rw [← hsessions]
    simpa [← hprepared] using heffect.sessions.grows
  obtain ⟨rest', hrest', hk⟩ := hgrows.cons_due hdue
  refine ⟨rest', hrest', ?_⟩
  dsimp only
  split
  · exact handled_endSession (hrest'.ordered hrest) hk
  · exact handled_engage (hrest'.ordered hrest) (SessionStack.sessions_setTop hk s) hcounter

/-! ## What becomes of the dialogs -/

/-- New dialogs are placed among those before; or, when the node is `busy`, the one on
top, which is due, is worked on. -/
def Served (busy : Prop) (before after : List Session) : Prop :=
  Schedule.Grows before after ∨
    busy ∧ (∃ t rest, before = t :: rest ∧ t.counter = 0) ∧ Schedule.Worked before after

/-- What becomes of a consistent node whose dialogs are `before`. -/
structure Answers (busy : Prop) (before : List Session) (m : Node W) : Prop where
  consistent : m.Consistent
  served : Served busy before m.sessions.sessions

theorem answers_self (h : n.Consistent) (busy : Prop) : Answers busy n.sessions.sessions n :=
  ⟨h, .inl .refl⟩

theorem answers_schedules (h : n.Consistent) {sessions : SessionStack}
    (hschedules : n.sessions.Schedules sessions) (busy : Prop) :
    Answers busy n.sessions.sessions { n with sessions } := by
  have hgrows := hschedules.grows
  refine ⟨h.of_same (hgrows.ordered h.ordered) rfl ?_ rfl rfl rfl, .inl hgrows⟩
  intro t _ htop hdue
  obtain ⟨rest, hsessions⟩ := SessionStack.exists_of_top? htop
  rw [hsessions] at hgrows
  obtain ⟨rest', _, hafter⟩ := hgrows.cons_due hdue
  exact SessionStack.top?_eq hafter

theorem consistent_flush (n : Node W) : (n.flush env).Consistent :=
  .of_idle List.Pairwise.nil rfl

theorem answers_of_handled {busy : Prop} (hbusy : busy) {t : Session} {rest : List Session}
    (hsessions : n.sessions.sessions = t :: rest) (hdue : t.counter = 0)
    (h : ∃ rest', Schedule.Grows rest rest' ∧ Handled rest' m) :
    Answers busy n.sessions.sessions m := by
  obtain ⟨rest', hgrows, hhandled⟩ := h
  refine ⟨hhandled.consistent, .inr ⟨hbusy, ⟨t, rest, hsessions, hdue⟩, ?_⟩⟩
  rw [hsessions]
  exact ⟨rest', hgrows, hhandled.sessions⟩

/-! ## Reports of the radio -/

theorem answers_onFrame (h : n.Consistent) (frame : List UInt8) (intact : Bool) :
    Answers (n.phase ≠ .idle) n.sessions.sessions (n.onFrame env frame intact) := by
  unfold onFrame
  split
  next hphase =>
    have hbusy : n.phase ≠ .idle := by simp [hphase]
    obtain ⟨t, rest, hsessions, hdue, hrest⟩ := h.exists_active hbusy
    rw [SessionStack.top?_eq hsessions]
    refine answers_of_handled hbusy hsessions hdue ?_
    dsimp only
    split
    · exact handled_process hrest hsessions hdue frame
    · exact ⟨rest, .refl, handled_relisten hrest hsessions hdue⟩
  · exact answers_self h _

theorem answers_onTimeout (h : n.Consistent) :
    Answers (n.phase ≠ .idle) n.sessions.sessions (n.onTimeout env) := by
  unfold onTimeout
  split
  next hphase =>
    have hbusy : n.phase ≠ .idle := by simp [hphase]
    obtain ⟨t, rest, hsessions, hdue, hrest⟩ := h.exists_active hbusy
    rw [SessionStack.top?_eq hsessions]
    refine answers_of_handled hbusy hsessions hdue ⟨rest, .refl, ?_⟩
    exact handled_relisten hrest hsessions hdue
  · exact answers_self h _

/-- A consistent node that transmits, with its active dialog. -/
theorem Consistent.exists_sending (h : n.Consistent) (hphase : n.phase.IsTransmitting) :
    ∃ t rest, n.sessions.sessions = t :: rest ∧ t.counter = 0 ∧ Schedule.Ordered rest ∧
      t.netState.substate.IsSending ∧ n.network.outbound.isEmpty = false ∧
      n.access.txChannel?.isSome = true := by
  obtain ⟨t, rest, hsessions, hdue, hrest⟩ := h.exists_active hphase.ne_idle
  obtain ⟨⟨u, hu, hsends⟩, hframe, hchannel⟩ := h.transmitting hphase
  obtain rfl : t = u := Option.some.inj ((SessionStack.top?_eq hsessions).symm.trans hu)
  exact ⟨t, rest, hsessions, hdue, hrest, hsends, hframe, hchannel⟩

theorem answers_onAssessed (h : n.Consistent) (clear : Bool) :
    Answers (n.phase ≠ .idle) n.sessions.sessions (n.onAssessed env clear) := by
  unfold onAssessed
  split
  next hphase =>
    have hbusy : n.phase ≠ .idle := by simp [hphase]
    obtain ⟨t, rest, hsessions, hdue, hrest, hsends, hframe, hchannel⟩ :=
      h.exists_sending (.inr (.inl hphase))
    refine answers_of_handled hbusy hsessions hdue ⟨rest, .refl, ?_⟩
    have hyield : Handled rest ((n.yieldChannel env).settle env) :=
      handled_settle hrest hsessions hdue hsends hframe (contended_yieldChannel hchannel)
    split
    next channel _ =>
      split
      · exact handled_settle hrest hsessions hdue hsends hframe (contended_send hchannel channel)
      · exact hyield
    · exact hyield
  · exact answers_self h _

theorem answers_onSent (h : n.Consistent) (success : Bool) :
    Answers (n.phase ≠ .idle) n.sessions.sessions (n.onSent env success) := by
  unfold onSent
  split
  next hphase =>
    have hbusy : n.phase ≠ .idle := by simp [hphase]
    obtain ⟨t, rest, hsessions, hdue, hrest, hsends, hframe, hchannel⟩ :=
      h.exists_sending (.inr (.inr hphase))
    refine answers_of_handled hbusy hsessions hdue ⟨rest, .refl, ?_⟩
    split
    · rw [SessionStack.top?_eq hsessions]
      dsimp only
      split
      · exact handled_afterRequest hrest hsessions hdue hsends hframe hchannel
      all_goals exact handled_endSession hrest hsessions
    · exact handled_retry hrest hsessions hdue hsends hframe hchannel
  · exact answers_self h _

theorem answers_onEvent (h : n.Consistent) (event : RadioEvent) :
    Answers (n.phase ≠ .idle) n.sessions.sessions (n.onEvent env event) := by
  cases event with
  | received frame intact => exact answers_onFrame h frame intact
  | timeout => exact answers_onTimeout h
  | assessed clear => exact answers_onAssessed h clear
  | sent success => exact answers_onSent h success

/-! ## Time -/

theorem Consistent.elapse (h : n.Consistent) (elapsed : Ticks) :
    Consistent { n with sessions := n.sessions.elapse elapsed } := by
  refine h.of_same (h.ordered.age elapsed) rfl ?_ rfl rfl rfl
  intro t _ htop hdue
  obtain ⟨rest, hsessions⟩ := SessionStack.exists_of_top? htop
  have haged : (n.sessions.elapse elapsed).sessions = t :: rest.map (Session.age elapsed) := by
    rw [SessionStack.sessions_elapse, hsessions, List.map_cons, Session.age_of_due hdue]
  exact SessionStack.top?_eq haged

/-- A pause that is shortened may end; then the dialog goes on with the next attempt. -/
theorem answers_pausing (h : n.Consistent) (hphase : n.phase = .pausing) (elapsed : Ticks) :
    Answers True n.sessions.sessions
      (({ n with countdown := n.countdown - elapsed } : Node W).settle env) := by
  obtain ⟨t, rest, hsessions, hdue, hrest, hsends, hframe, hchannel⟩ :=
    h.exists_sending (.inl hphase)
  refine answers_of_handled trivial hsessions hdue ⟨rest, .refl, ?_⟩
  exact handled_settle hrest hsessions hdue hsends hframe
    (.inr ⟨.inl hphase, rfl, rfl, hchannel⟩)

/-- The watchdog closes a window that the radio has left open. -/
theorem answers_listening (h : n.Consistent) (hphase : n.phase = .listening) (elapsed : Ticks) :
    Answers True n.sessions.sessions
      (let n := { n with countdown := n.countdown - elapsed }
      if n.countdown.isZero then
        ({ n with world := (env.radio.idle n.world).2 } : Node W).onTimeout env
      else n) := by
  obtain ⟨t, rest, hsessions, hdue, hrest⟩ := h.exists_active (by simp [hphase])
  dsimp only
  split
  · unfold onTimeout
    rw [if_pos hphase, SessionStack.top?_eq hsessions]
    dsimp only
    refine answers_of_handled trivial hsessions hdue ⟨rest, .refl, ?_⟩
    refine handled_relisten (t := t) hrest ?_ ?_
    · exact hsessions
    · exact hdue
  next hopen =>
    obtain ⟨u, hu, hawaits⟩ := h.listening hphase
    obtain rfl : t = u := Option.some.inj ((SessionStack.top?_eq hsessions).symm.trans hu)
    refine ⟨.of_listening hsessions hdue hrest hphase hawaits ?_, .inl .refl⟩
    apply Nat.pos_of_ne_zero
    intro hzero
    exact hopen ((Span.isZero_iff _).mpr (Span.ext hzero))

theorem answers_activate (hcustom : custom.Disciplined) (h : n.Consistent) :
    Answers True n.sessions.sessions (n.activate env custom) := by
  cases hsessions : n.sessions.sessions with
  | nil =>
      unfold activate
      rw [show n.sessions.top? = none by simp [SessionStack.top?, hsessions], ← hsessions]
      exact answers_self h True
  | cons t rest =>
      rw [← hsessions]
      by_cases hdue : t.counter = 0
      · have hrest := h.ordered
        rw [hsessions] at hrest
        exact answers_of_handled trivial hsessions hdue
          (handled_activate hcustom hrest.tail hsessions hdue)
      · unfold activate
        rw [SessionStack.top?_eq hsessions]
        dsimp only
        rw [if_neg (by simpa using hdue)]
        exact answers_self h True

theorem answers_run (hcustom : custom.Disciplined) (h : n.Consistent) (elapsed : Ticks) :
    Answers True (n.sessions.sessions.map (Session.age elapsed)) (n.run env custom elapsed) := by
  have haged := h.elapse elapsed
  unfold run
  dsimp only
  rw [← SessionStack.sessions_elapse]
  split
  · exact answers_activate hcustom haged
  next hphase => exact answers_pausing haged hphase elapsed
  next hphase => exact answers_listening haged hphase elapsed
  all_goals exact answers_self haged True

/-! ## Runs -/

/-- The node has something to do: a dialog is active, or the node is let run. -/
def Busy (n : Node W) (input : Input) : Prop :=
  n.phase ≠ .idle ∨ ∃ elapsed, input = .run elapsed

theorem Answers.of_busy {busy busy' : Prop} {before : List Session} (h : Answers busy before m)
    (himp : busy → busy') : Answers busy' before m :=
  ⟨h.consistent, h.served.imp_right (And.imp_left himp)⟩

/-- What an input makes of a consistent node. -/
theorem answers_step (hcustom : custom.Disciplined) (h : n.Consistent) {input : Input}
    (hinput : input ≠ .flush) :
    Answers (n.Busy input) (n.sessions.sessions.map (Session.age input.elapsed))
      (n.step env custom input) := by
  have hunaged : n.sessions.sessions.map (Session.age 0) = n.sessions.sessions := by
    rw [show Session.age 0 = id from funext Session.age_zero, List.map_id]
  have hschedule : ∀ applet wait subnet channel netState,
      Answers (n.Busy input) n.sessions.sessions
        (n.accept (n.schedule applet wait subnet channel netState)) := by
    intro applet wait subnet channel netState
    obtain ⟨sessions, hsessions, heq⟩ := n.accept_schedule applet wait subnet channel netState
    rw [heq]
    exact answers_schedules h hsessions _
  cases input with
  | schedule applet wait subnet channel netState =>
      dsimp only [Input.elapsed]
      rw [hunaged]
      exact hschedule applet wait subnet channel netState
  | scheduleScan wait =>
      dsimp only [Input.elapsed]
      rw [hunaged]
      exact hschedule _ wait _ _ _
  | scheduleBeacon wait =>
      dsimp only [Input.elapsed]
      rw [hunaged]
      exact hschedule _ wait _ _ _
  | run elapsed => exact (answers_run hcustom h elapsed).of_busy fun _ => .inr ⟨elapsed, rfl⟩
  | event event =>
      dsimp only [Input.elapsed]
      rw [hunaged]
      exact (answers_onEvent h event).of_busy .inl
  | flush => exact absurd rfl hinput

theorem Consistent.step (hcustom : custom.Disciplined) (h : n.Consistent) (input : Input) :
    (n.step env custom input).Consistent := by
  by_cases hflush : input = .flush
  · rw [hflush]
    exact consistent_flush n
  · exact (answers_step hcustom h hflush).consistent

theorem Consistent.reaches {Given : Environment W → Input → Prop} (hcustom : custom.Disciplined)
    (h : n.Consistent) (hrun : Reaches custom Given n m) : m.Consistent := by
  induction hrun with
  | refl => exact h
  | step _ _ ih => exact ih.step hcustom _

theorem consistent_start (config : Config) (world : W) : (start config world).Consistent :=
  .of_idle List.Pairwise.nil rfl

/-- In every run whose applets do not change when their own dialog is due and otherwise only
schedule dialogs, the phase of the node fits its dialogs, of which there are at most four.
An input other than a flush ends at most the dialog on top, and only one that is due and
being worked on; all others stay and grow older. -/
theorem active_dialog {config : Config} {world : W} (hcustom : custom.Disciplined)
    (hrun : Reaches custom (fun _ _ => True) (start config world) n) :
    n.sessions.sessions.length ≤ sessionCapacity ∧ n.Consistent ∧
      ∀ (env : Environment W) (input : Input), input ≠ .flush →
        Served (n.Busy input) (n.sessions.sessions.map (Session.age input.elapsed))
          (n.step env custom input).sessions.sessions := by
  have hconsistent := (consistent_start config world).reaches hcustom hrun
  refine ⟨n.sessions.length_le, hconsistent, ?_⟩
  intro env input hinput
  exact (answers_step hcustom hconsistent hinput).served

/-- A node that listens in a scan is reached, and it hears nothing. -/
theorem active_dialog_scan :
    ∃ n : Node Unit, n.phase = .listening ∧ n.Consistent ∧
      Served (n.Busy (.event .timeout)) (n.sessions.sessions.map (Session.age 0))
        (n.step .obliging (fun _ s n => (s, n)) (.event .timeout)).sessions.sessions := by
  have hcustom : CustomApplets.Disciplined (W := Unit) fun _ s n => (s, n) :=
    fun _ _ _ => ⟨rfl, .refl⟩
  have hrun : Reaches (fun _ s n => (s, n)) (fun _ _ => True) (start .default ())
      ((((start .default ()).step .obliging (fun _ s n => (s, n)) (.scheduleScan 0)).step
        .obliging (fun _ s n => (s, n)) (.run 0))) :=
    .step (.step .refl trivial) trivial
  obtain ⟨-, hconsistent, hserved⟩ := active_dialog hcustom hrun
  exact ⟨_, by decide, hconsistent, hserved .obliging (.event .timeout) (by decide)⟩

end Mode2.Node
