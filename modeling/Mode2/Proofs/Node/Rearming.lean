import Mode2.Proofs.Node.AppletOnce
import Mode2.Proofs.Session.DueQueue

/-!
# Beacons that see to the next one

A beacon schedules the next one before it is sent, while its own dialog still holds a slot.
With three other dialogs scheduled there is no slot left for the next beacon, although one
is about to become free. If none of those three is a beacon either, then that beacon was the
last one: nothing but the host ever schedules another.
-/

namespace Mode2

variable {W : Type} {env : Environment W} {custom : CustomApplets W}

namespace Schedule

/-- A beacon is scheduled, and due within the interval. -/
def HasBeacon (interval : Ticks) (l : List Session) : Prop :=
  ∃ s ∈ l, s.applet = some .beacon ∧ s.counter ≤ interval

/-- No beacon is scheduled. -/
def Beaconless (l : List Session) : Prop :=
  ∀ s ∈ l, s.applet ≠ some .beacon

variable {interval : Ticks} {s : Session} {l : List Session}

/-- Dialogs without an applet, such as active ones, are no beacons. -/
theorem hasBeacon_cons_of_cleared (hcleared : s.applet = none) :
    HasBeacon interval (s :: l) ↔ HasBeacon interval l := by
  simp [HasBeacon, hcleared]

theorem hasBeacon_place (happlet : s.applet = some .beacon) (hcounter : s.counter = interval) :
    HasBeacon interval (SessionStack.place s l) :=
  ⟨s, mem_place.mpr (.inl rfl), happlet, hcounter ▸ Nat.le_refl _⟩

theorem Beaconless.not_hasBeacon (h : Beaconless l) : ¬HasBeacon interval l := by
  rintro ⟨s, hs, happlet, -⟩
  exact h s hs happlet

theorem Beaconless.place (h : Beaconless l) (hs : s.applet ≠ some .beacon) :
    Beaconless (SessionStack.place s l) := by
  intro u hu
  rcases mem_place.mp hu with rfl | hu
  · exact hs
  · exact h u hu

theorem Beaconless.set_zero (h : Beaconless l) (hs : s.applet ≠ some .beacon) :
    Beaconless (l.set 0 s) := by
  intro u hu
  rcases List.mem_or_eq_of_mem_set hu with hu | rfl
  · exact h u hu
  · exact hs

theorem Beaconless.tail (h : Beaconless l) : Beaconless l.tail :=
  fun u hu => h u (List.mem_of_mem_tail hu)

theorem Beaconless.age (h : Beaconless l) (elapsed : Ticks) :
    Beaconless (l.map (Session.age elapsed)) := by
  intro u hu
  obtain ⟨s, hs, rfl⟩ := List.mem_map.mp hu
  exact h s hs

end Schedule

open Schedule

/-! ## The next beacon -/

namespace Applet

variable {n : Node W}

/-- The next beacon takes a free slot. -/
theorem scheduleNextBeacon_of_free (henabled : n.config.beacon.enabled = true)
    (hfree : n.sessions.sessions.length < sessionCapacity) :
    ∃ s, s.applet = some .beacon ∧ s.counter = n.config.beacon.interval ∧
      (scheduleNextBeacon n).sessions.sessions = SessionStack.place s n.sessions.sessions := by
  unfold scheduleNextBeacon Node.scheduleBeacon Node.schedule SessionStack.schedule
  rw [if_pos henabled]
  dsimp only
  rw [SessionStack.insert_of_free hfree]
  exact ⟨_, rfl, rfl, rfl⟩

/-- Without a free slot there is no next beacon. -/
theorem scheduleNextBeacon_of_full (hfull : ¬n.sessions.sessions.length < sessionCapacity) :
    scheduleNextBeacon n = n := by
  unfold scheduleNextBeacon Node.scheduleBeacon Node.schedule SessionStack.schedule
  dsimp only
  rw [SessionStack.insert_of_full hfull]
  split <;> rfl

theorem sessions_runBeacon (env : Environment W) (s : Session) (n : Node W) :
    (runBeacon env s n).2.sessions = (scheduleNextBeacon n).sessions := by
  unfold runBeacon
  dsimp only
  split <;> rfl

end Applet

namespace Node

variable {n : Node W} {t : Session}

/-- What stands under a beacon once it has been activated: the dialogs that stood there, and
among them the next beacon if a slot was free. -/
def Rearms (interval : Ticks) (before under : List Session) : Prop :=
  (before.length < sessionCapacity ∧
    ∃ s, s.applet = some .beacon ∧ s.counter = interval ∧
      under = SessionStack.place s before.tail) ∨
  (¬before.length < sessionCapacity ∧ under = before.tail)

theorem Rearms.hasBeacon_iff {interval : Ticks} {before under : List Session}
    (h : Rearms interval before under) :
    HasBeacon interval under ↔
      before.length < sessionCapacity ∨ HasBeacon interval before.tail := by
  rcases h with ⟨hfree, s, happlet, hcounter, rfl⟩ | ⟨hfull, rfl⟩
  · exact iff_of_true (hasBeacon_place happlet hcounter) (.inl hfree)
  · simp [hfull]

/-- The beacon itself stays on top, due, while the next one is scheduled. -/
theorem rearms_runApplet (env : Environment W) (custom : CustomApplets W)
    (htop : n.sessions.top? = some t) (hdue : t.counter = 0)
    (happlet : t.applet = some .beacon) (henabled : n.config.beacon.enabled = true) :
    ∃ under, (n.runApplet env custom t).2.sessions.sessions = t :: under ∧
      Rearms n.config.beacon.interval n.sessions.sessions under := by
  obtain ⟨rest, hsessions⟩ := SessionStack.exists_of_top? htop
  let prepared : Node W :=
    { n with access := { n.access with
        txChannels := .empty, params := n.config.contention.params } }
  have hruns : (n.runApplet env custom t).2.sessions =
      (Applet.scheduleNextBeacon prepared).sessions := by
    rw [runApplet, happlet]
    exact Applet.sessions_runBeacon env _ prepared
  rw [hruns]
  by_cases hfree : n.sessions.sessions.length < sessionCapacity
  · obtain ⟨s, hs, hcounter, hplaced⟩ :=
      Applet.scheduleNextBeacon_of_free (n := prepared) henabled hfree
    refine ⟨SessionStack.place s rest, ?_, .inl ⟨hfree, s, hs, hcounter, by rw [hsessions]; rfl⟩⟩
    rw [hplaced, show prepared.sessions.sessions = t :: rest from hsessions, place_under_due hdue]
  · rw [Applet.scheduleNextBeacon_of_full (n := prepared) hfree]
    exact ⟨rest, hsessions, .inr ⟨hfree, by rw [hsessions]; rfl⟩⟩

/-- An activated beacon has ended, or stays on top without an applet. -/
theorem exists_rearms_activate (env : Environment W) (custom : CustomApplets W)
    (htop : n.sessions.top? = some t) (hdue : t.counter = 0)
    (happlet : t.applet = some .beacon) (henabled : n.config.beacon.enabled = true) :
    ∃ under, Rearms n.config.beacon.interval n.sessions.sessions under ∧
      ((n.activate env custom).sessions.sessions = under ∨
        ∃ s, s.applet = none ∧ (n.activate env custom).sessions.sessions = s :: under) := by
  obtain ⟨under, hran, hrearms⟩ := rearms_runApplet env custom htop hdue happlet henabled
  have hstored := SessionStack.sessions_setTop hran (n.runApplet env custom t).1
  have hcleared : (n.runApplet env custom t).1.applet = none :=
    (applet_runApplet env custom t n).resolve_right (by simp [happlet])
  refine ⟨under, hrearms, ?_⟩
  have hcloses : Closes _ (n.activate env custom) := closes_activate htop hdue
  rcases hcloses with ⟨-, hsame⟩ | ⟨-, hpopped⟩
  · exact .inr ⟨_, hcleared, by rw [hsame]; exact hstored⟩
  · refine .inl ?_
    rw [hpopped, SessionStack.sessions_pop]
    exact congrArg List.tail hstored

end Node

/-! ## Nodes without a beacon -/

/-- The host asks for a beacon. -/
def Input.RequestsBeacon : Input → Prop
  | .schedule applet .. => applet = some .beacon
  | .scheduleBeacon _ => True
  | .scheduleScan _ | .run _ | .event _ | .flush => False

/-- The host's applets schedule no beacons. -/
def CustomApplets.SchedulesNoBeacon (custom : CustomApplets W) : Prop :=
  ∀ id s n, (s.applet ≠ some .beacon → (custom id s n).1.applet ≠ some .beacon) ∧
    (Beaconless n.sessions.sessions → Beaconless (custom id s n).2.sessions.sessions)

namespace Node

variable {n m : Node W} {t : Session}

theorem beaconless_accept_schedule (h : Beaconless n.sessions.sessions) {applet : Option Applet}
    (happlet : applet ≠ some .beacon) (wait : Ticks) (subnet channel : UInt8)
    (netState : NetState) :
    Beaconless (n.accept (n.schedule applet wait subnet channel netState)).sessions.sessions := by
  by_cases hfree : n.sessions.sessions.length < sessionCapacity
  · unfold schedule SessionStack.schedule
    dsimp only
    rw [SessionStack.insert_of_free hfree]
    exact h.place happlet
  · unfold schedule SessionStack.schedule
    dsimp only
    rw [SessionStack.insert_of_full hfree]
    exact h

/-- Other applets than that of beacons schedule no beacon. -/
theorem beaconless_runApplet (hcustom : custom.SchedulesNoBeacon) (env : Environment W)
    (h : Beaconless n.sessions.sessions) (ht : t.applet ≠ some .beacon) :
    Beaconless (n.runApplet env custom t).2.sessions.sessions ∧
      (n.runApplet env custom t).1.applet ≠ some .beacon := by
  unfold runApplet
  cases happlet : t.applet.getD .idle with
  | idle =>
      unfold Applet.run Applet.runIdle
      dsimp only
      split <;> exact ⟨h, nofun⟩
  | scan => exact ⟨h, nofun⟩
  | beacon =>
      cases hnone : t.applet with
      | none => simp [hnone] at happlet
      | some applet => simp_all
  | custom id =>
      obtain ⟨hdialog, hothers⟩ := hcustom id _ _
      exact ⟨hothers h, hdialog nofun⟩

theorem Closes.beaconless (hcloses : n.Closes m) (h : Beaconless n.sessions.sessions) :
    Beaconless m.sessions.sessions := by
  rcases hcloses with ⟨-, hsame⟩ | ⟨-, hpopped⟩
  · exact hsame ▸ h
  · rw [hpopped]
    exact h.tail

theorem beaconless_activate (hcustom : custom.SchedulesNoBeacon)
    (h : Beaconless n.sessions.sessions) :
    Beaconless (n.activate env custom).sessions.sessions := by
  by_cases hdue : ∃ t, n.sessions.top? = some t ∧ t.counter = 0
  · obtain ⟨t, htop, hcounter⟩ := hdue
    obtain ⟨rest, hsessions⟩ := SessionStack.exists_of_top? htop
    have ht : t.applet ≠ some .beacon := h t (by simp [hsessions])
    obtain ⟨hothers, hdialog⟩ := beaconless_runApplet hcustom env h ht
    exact (closes_activate htop hcounter).beaconless (hothers.set_zero hdialog)
  · have hwaits : n.activate env custom = n := by
      unfold activate
      split
      · rfl
      next t htop => exact if_neg fun hzero => hdue ⟨t, htop, by simpa using hzero⟩
    rw [hwaits]
    exact h

/-- Work on the active dialog schedules at most a continuation of it. -/
theorem beaconless_of_active (hn : n.Consistent) (h : Beaconless n.sessions.sessions)
    {input : Input} (hacts : input.Acts) (hbusy : n.phase ≠ .idle) :
    Beaconless (n.step env custom input).sessions.sessions := by
  have haged := h.age input.elapsed
  obtain ⟨t, htop, -⟩ := (hn.elapse input.elapsed).active hbusy
  have hattends : (Reaction.step env custom n input).Attends _ t := attends_step hacts hbusy htop
  obtain ⟨s, hslot, hreworked⟩ := hattends.reworks
  have hs : s.applet ≠ some .beacon := by
    obtain ⟨rest, hsessions⟩ := SessionStack.exists_of_top? htop
    rw [show s.applet = t.applet from congrArg (·.2.2.2) hslot]
    exact haged t (by rw [← SessionStack.sessions_elapse]; exact hsessions ▸ List.mem_cons_self)
  have hcloses : Closes _ ((Reaction.step env custom n input).complete env) :=
    hattends.active.closes
  rw [Reaction.complete_step] at hcloses
  refine hcloses.beaconless ?_
  rcases hreworked with hstored | ⟨wait, netState, copy, hcopy⟩
  · rw [hstored]
    exact haged.set_zero hs
  · have hcleared := SessionStack.applet_scheduleCopy hcopy
    rw [SessionStack.sessions_scheduleCopy hcopy]
    exact (haged.set_zero hs).place (by simp [hcleared])

/-- No input brings a beacon back, except a request of the host for one. -/
theorem beaconless_step (hcustom : custom.SchedulesNoBeacon) (hn : n.Consistent)
    (h : Beaconless n.sessions.sessions) {input : Input} (hinput : ¬input.RequestsBeacon) :
    Beaconless (n.step env custom input).sessions.sessions := by
  cases input with
  | schedule applet wait subnet channel netState =>
      exact beaconless_accept_schedule h hinput wait subnet channel netState
  | scheduleScan wait =>
      have hscan : some Applet.scan ≠ some .beacon := nofun
      exact beaconless_accept_schedule h hscan wait _ _ _
  | scheduleBeacon wait => exact absurd trivial hinput
  | run elapsed =>
      by_cases hphase : n.phase = .idle
      · have hstep : n.step env custom (.run elapsed) =
            ({ n with sessions := n.sessions.elapse elapsed } : Node W).activate env custom :=
          run_of_idle hphase elapsed
        rw [hstep]
        exact beaconless_activate hcustom (h.age elapsed)
      · exact beaconless_of_active hn h trivial hphase
  | event event =>
      by_cases hphase : n.phase = .idle
      · have hstep : n.step env custom (.event event) =
            { n with sessions := n.sessions.elapse 0 } := step_of_wait trivial hphase nofun
        rw [hstep]
        exact h.age 0
      · exact beaconless_of_active hn h trivial hphase
  | flush => exact fun _ hs => absurd hs List.not_mem_nil

/-- A node without a beacon gets none by itself. -/
theorem beaconless_of_reaches (hdisciplined : custom.Disciplined)
    (hcustom : custom.SchedulesNoBeacon) (hn : n.Consistent) (h : Beaconless n.sessions.sessions)
    (hrun : Reaches custom (fun _ input => ¬input.RequestsBeacon) n m) :
    Beaconless m.sessions.sessions := by
  induction hrun with
  | refl => exact h
  | @step k env input hreached hinput ih =>
      exact beaconless_step hcustom (hn.reaches hdisciplined hreached) ih hinput

/-- While beacons are enabled, the activation of one leaves a beacon scheduled within the
interval exactly when it finds a free slot or such a beacon is already scheduled. When it
finds neither a slot nor another beacon, none is scheduled ever after, unless the host or one
of its applets asks for one. -/
theorem beacons_go_on_iff {elapsed : Ticks} (hphase : n.phase = .idle)
    (htop : (n.sessions.elapse elapsed).top? = some t) (hdue : t.counter = 0)
    (happlet : t.applet = some .beacon) (henabled : n.config.beacon.enabled = true) :
    let others := (n.sessions.elapse elapsed).sessions.tail
    let after := n.step env custom (.run elapsed)
    (HasBeacon n.config.beacon.interval after.sessions.sessions ↔
      n.sessions.sessions.length < sessionCapacity ∨
        HasBeacon n.config.beacon.interval others) ∧
    (¬n.sessions.sessions.length < sessionCapacity → Beaconless others →
      n.Consistent → custom.Disciplined → custom.SchedulesNoBeacon →
      ∀ m, Reaches custom (fun _ input => ¬input.RequestsBeacon) after m →
        Beaconless m.sessions.sessions) := by
  intro others after
  let aged : Node W := { n with sessions := n.sessions.elapse elapsed }
  have hlength : aged.sessions.sessions.length = n.sessions.sessions.length := List.length_map ..
  obtain ⟨under, hrearms, hafter⟩ : ∃ under,
      Rearms n.config.beacon.interval aged.sessions.sessions under ∧
        (after.sessions.sessions = under ∨
          ∃ s, s.applet = none ∧ after.sessions.sessions = s :: under) := by
    rw [show after = aged.activate env custom from run_of_idle hphase elapsed]
    exact exists_rearms_activate (n := aged) env custom htop hdue happlet henabled
  refine ⟨?_, fun hfull hothers hn hdisciplined hcustom m hrun => ?_⟩
  · rw [← hlength, ← hrearms.hasBeacon_iff]
    rcases hafter with hended | ⟨s, hcleared, hgoes⟩
    · rw [hended]
    · rw [hgoes, hasBeacon_cons_of_cleared hcleared]
  · refine beaconless_of_reaches hdisciplined hcustom (hn.step hdisciplined _) ?_ hrun
    obtain ⟨-, rfl⟩ := hrearms.resolve_left fun hfree => hfull (hlength ▸ hfree.1)
    rcases hafter with hended | ⟨s, hcleared, hgoes⟩
    · rw [hended]
      exact hothers
    · rw [hgoes]
      exact List.forall_mem_cons.mpr ⟨by simp [hcleared], hothers⟩

/-- A device that beacons. -/
def beaconing : Config :=
  { Config.default with beacon.enabled := true }

/-- A beacon that is due while three scans are scheduled is the last one. -/
theorem beacons_go_on_iff_three_scans :
    let env : Environment Unit := .obliging
    let custom : CustomApplets Unit := fun _ s n => (s, n)
    let inputs : List Input :=
      [.scheduleBeacon 0, .scheduleScan 100, .scheduleScan 100, .scheduleScan 100]
    let n := inputs.foldl (step env custom) (start beaconing ())
    let after := n.step env custom (.run 0)
    Reaches custom (fun _ _ => True) (start beaconing ()) n ∧ n.phase = .idle ∧
      (∃ t, (n.sessions.elapse 0).top? = some t ∧ t.counter = 0 ∧ t.applet = some .beacon) ∧
      ¬HasBeacon beaconing.beacon.interval after.sessions.sessions ∧
      ∀ m, Reaches custom (fun _ input => ¬input.RequestsBeacon) after m →
        Beaconless m.sessions.sessions := by
  intro env custom inputs n after
  have hcustom : custom.Disciplined := fun _ _ _ => ⟨rfl, .refl⟩
  have hnone : custom.SchedulesNoBeacon := fun _ _ _ => ⟨id, id⟩
  have hrun : Reaches custom (fun _ _ => True) (start beaconing ()) n := reaches_foldl env _ .refl
  have hconsistent : n.Consistent := (consistent_start beaconing ()).reaches hcustom hrun
  have hphase : n.phase = .idle := by decide +kernel
  have htop : (n.sessions.elapse 0).top? =
      some { counter := 0, channel := 0x10, netState := { substate := .requestTx, fresh := true },
             flags := .none, dialogId := 0, subnet := 0xF0, extra := 0,
             applet := some .beacon } := by decide +kernel
  have hfull : ¬n.sessions.sessions.length < sessionCapacity := by decide +kernel
  have hothers : Beaconless (n.sessions.elapse 0).sessions.tail := by
    unfold Beaconless
    decide +kernel
  obtain ⟨hiff, hnever⟩ := @beacons_go_on_iff _ env custom _ _ _ hphase htop rfl rfl
    (show n.config.beacon.enabled = true by decide +kernel)
  have hlost : ¬HasBeacon n.config.beacon.interval after.sessions.sessions :=
    fun h => (hiff.mp h).elim hfull hothers.not_hasBeacon
  exact ⟨hrun, hphase, ⟨_, htop, rfl, rfl⟩, hlost,
    hnever hfull hothers hconsistent hcustom hnone⟩

end Node

end Mode2
