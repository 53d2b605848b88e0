import Mode2.Proofs.Environment.Record
import Mode2.Proofs.Node.Contention
import Mode2.Proofs.Node.Run

/-!
# Waiting in parts

Until its next wakeup a node only grows older: no dialog is activated, and whatever surrounds
the node is left alone. So the host may let time pass early, and in as many parts as it likes;
what happens in the end, and when, is the same as if it had passed at once.
-/

namespace Mode2

namespace Span

variable {r : Resolution}

/-- Lengths taken away one after the other are taken away together, also where the register
has come to its end. -/
theorem sub_sub (a b c : Span r) : a - b - c = a - (b + c) := by
  have hrange := a.count_lt
  apply ext
  simp only [count_sub, count_add]
  omega

theorem add_zero (a : Span r) : a + 0 = a := by
  have hrange := a.count_lt
  apply ext
  simp only [count_add, count_zero]
  omega

theorem add_never (a : Span r) : a + never = never := by
  apply ext
  simp only [count_add, count_never]
  omega

/-- What is left of a length makes up for what has passed of it. -/
theorem add_sub_of_le {a b : Span r} (h : a ≤ b) : a + (b - a) = b := by
  have hrange := b.count_lt
  rw [le_def] at h
  apply ext
  simp only [count_add, count_sub]
  omega

theorem le_of_lt {a b : Span r} (h : a < b) : a ≤ b :=
  Nat.le_of_lt h

theorem lt_of_add_lt {a b c : Span r} (h : a + b < c) : a < c := by
  have hrange := c.count_lt
  simp only [lt_def, count_add] at h ⊢
  omega

theorem lt_of_add_lt_add {a b c : Span r} (h : a + b < a + c) : b < c := by
  simp only [lt_def, count_add] at h ⊢
  omega

end Span

theorem Session.age_age (s : Session) (first second : Ticks) :
    (s.age first).age second = s.age (first + second) :=
  congrArg (fun counter => { s with counter }) (Span.sub_sub _ _ _)

theorem SessionStack.elapse_elapse (stack : SessionStack) (first second : Ticks) :
    (stack.elapse first).elapse second = stack.elapse (first + second) := by
  have hsessions : ((stack.elapse first).elapse second).sessions =
      (stack.elapse (first + second)).sessions := by
    simp only [sessions_elapse, List.map_map]
    exact List.map_congr_left fun s _ => s.age_age first second
  unfold elapse at hsessions ⊢
  congr

namespace Node

variable {W : Type}

/-- The node when some time has passed and nothing else has happened: its dialogs are due
earlier, and the pause or the window that it is in has less left. -/
def age (elapsed : Ticks) (n : Node W) : Node W :=
  { n with
    sessions := n.sessions.elapse elapsed
    countdown :=
      if n.phase = .pausing ∨ n.phase = .listening then n.countdown - elapsed else n.countdown }

theorem age_age (n : Node W) (first second : Ticks) :
    (n.age first).age second = n.age (first + second) := by
  unfold age
  dsimp only
  rw [SessionStack.elapse_elapse]
  split
  · rw [Span.sub_sub]
  · rfl

theorem age_zero (n : Node W) : n.age 0 = n := by
  have hcountdown : n.countdown - 0 = n.countdown := Span.ext (by simp)
  unfold age
  rw [SessionStack.elapse_zero, hcountdown, ite_self]

/-! ## One part -/

/-- The next wakeup comes no later for the time that has passed, and no earlier. -/
theorem nextWakeup_age {n : Node W} {elapsed : Ticks} (h : elapsed ≤ n.nextWakeup) :
    elapsed + (n.age elapsed).nextWakeup = n.nextWakeup := by
  cases hphase : n.phase with
  | idle =>
      cases htop : n.sessions.top? with
      | none =>
          have hafter : (n.sessions.elapse elapsed).top? = none := by
            simpa [SessionStack.top?] using htop
          simp only [nextWakeup, age, hphase, htop, hafter, Span.add_never]
      | some t =>
          obtain ⟨rest, hsessions⟩ := SessionStack.exists_of_top? htop
          have hafter : (n.sessions.elapse elapsed).top? = some (t.age elapsed) := by
            simp [SessionStack.top?, hsessions]
          simp only [nextWakeup, hphase, htop] at h
          simp only [nextWakeup, age, hphase, htop, hafter]
          exact Span.add_sub_of_le h
  | pausing | listening =>
      simp only [nextWakeup, hphase] at h
      simp only [nextWakeup, age, hphase, or_true, true_or, if_true]
      exact Span.add_sub_of_le h
  | assessing | sending => simp only [nextWakeup, age, hphase, Span.add_never]

variable (env : Environment W) (custom : CustomApplets W)

/-- What a node does when it runs, once the time has passed. -/
def wake (n : Node W) : Node W :=
  match n.phase with
  | .idle => n.activate env custom
  | .pausing => n.settle env
  | .listening =>
      if n.countdown.isZero then
        { n with world := (env.radio.idle n.world).2 }.onTimeout env
      else n
  | .assessing | .sending => n

/-- First the time passes, then the node acts. -/
theorem run_eq_wake (n : Node W) (elapsed : Ticks) :
    n.run env custom elapsed = (n.age elapsed).wake env custom := by
  unfold run wake age
  cases hphase : n.phase <;> simp

/-- A node whose next wakeup is still to come has nothing to do. -/
theorem wake_of_early {n : Node W} (h : n.nextWakeup ≠ 0) : n.wake env custom = n := by
  unfold nextWakeup at h
  unfold wake
  cases hphase : n.phase with
  | idle =>
      unfold activate
      cases htop : n.sessions.top? with
      | none => rfl
      | some t =>
          rw [hphase, htop] at h
          exact if_neg (by simpa using h)
  | pausing =>
      rw [hphase] at h
      exact settle_of_not_due (by simpa [isDue, hphase, Bool.eq_false_iff] using h)
  | listening =>
      rw [hphase] at h
      exact if_neg (by simpa using h)
  | assessing | sending => rfl

/-- Before its next wakeup a node only grows older. The radio, the random words, the files and
the applets are not asked, whatever they are. -/
theorem run_of_early {n : Node W} {elapsed : Ticks} (h : elapsed < n.nextWakeup) :
    n.run env custom elapsed = n.age elapsed := by
  rw [run_eq_wake]
  apply wake_of_early
  intro hdue
  have hlater := nextWakeup_age (Span.le_of_lt h)
  rw [hdue, Span.add_zero] at hlater
  rw [hlater] at h
  exact Nat.lt_irrefl _ h

/-- Time that has passed before is added to the time that passes. -/
theorem run_age (n : Node W) (first second : Ticks) :
    (n.age first).run env custom second = n.run env custom (first + second) := by
  rw [run_eq_wake, run_eq_wake, age_age]

/-! ## Many parts -/

/-- The host lets a node run: what surrounds the node then, and the time that has passed. -/
structure Slice (W : Type) where
  env : Environment W
  custom : CustomApplets W
  elapsed : Ticks

/-- The time that passes with all parts together. -/
def Slice.total (slices : List (Slice W)) : Ticks :=
  slices.foldr (fun slice rest => slice.elapsed + rest) 0

/-- The node after it has run once with each part. -/
def runSlices (n : Node W) (slices : List (Slice W)) : Node W :=
  slices.foldl (fun n slice => n.run slice.env slice.custom slice.elapsed) n

/-- As long as all parts together end before the next wakeup, the node only grows older. -/
theorem runSlices_of_early {n : Node W} {slices : List (Slice W)}
    (h : Slice.total slices < n.nextWakeup) :
    n.runSlices slices = n.age (Slice.total slices) := by
  induction slices generalizing n with
  | nil => exact n.age_zero.symm
  | cons slice rest ih =>
      change slice.elapsed + Slice.total rest < n.nextWakeup at h
      have hfirst := Span.lt_of_add_lt h
      -- The wakeup has come as much nearer as time has passed.
      have hrest : Slice.total rest < (n.age slice.elapsed).nextWakeup := by
        rw [← nextWakeup_age (Span.le_of_lt hfirst)] at h
        exact Span.lt_of_add_lt_add h
      calc
        n.runSlices (slice :: rest)
            = (n.age slice.elapsed).runSlices rest := by
              rw [← run_of_early slice.env slice.custom hfirst]
              rfl
        _ = (n.age slice.elapsed).age (Slice.total rest) := ih hrest
        _ = n.age (Slice.total (slice :: rest)) := n.age_age _ _

/-- Time may be split. Parts that end before the next wakeup leave the node as it was but for
its age: no world is changed, no random word drawn and no applet called. The wakeup stays where
it was, and whenever the node runs next, the outcome is that of all the time passing at once. -/
theorem run_in_parts {n : Node W} {slices : List (Slice W)}
    (h : Slice.total slices < n.nextWakeup) :
    n.runSlices slices = n.age (Slice.total slices) ∧
      Slice.total slices + (n.runSlices slices).nextWakeup = n.nextWakeup ∧
      ∀ (env : Environment W) (custom : CustomApplets W) (elapsed : Ticks),
        (n.runSlices slices).run env custom elapsed =
          n.run env custom (Slice.total slices + elapsed) := by
  have hage := runSlices_of_early h
  refine ⟨hage, ?_, fun env custom elapsed => ?_⟩
  · rw [hage]
    exact nextWakeup_age (Span.le_of_lt h)
  · rw [hage, run_age]

/-- A scan that listens for 144 ticks is looked after twice before they are over, and ends with
the rest of them as it would have ended at once. -/
theorem run_in_parts_scan :
    ∃ (n : Node (Recorded Unit)) (slices : List (Slice (Recorded Unit))),
      Slice.total slices = 50 ∧ Slice.total slices < n.nextWakeup ∧
      n.runSlices slices = n.age 50 ∧ (n.runSlices slices).nextWakeup = 94 ∧
      let ended := (n.runSlices slices).run Environment.obliging.recorded (fun _ s n => (s, n)) 94
      ended = n.run Environment.obliging.recorded (fun _ s n => (s, n)) 144 ∧
        ended.phase = .idle ∧ ended.world.calls = .idle :: .idle :: n.world.calls := by
  let env : Environment (Recorded Unit) := Environment.obliging.recorded
  let custom : CustomApplets (Recorded Unit) := fun _ s n => (s, n)
  let n : Node (Recorded Unit) :=
    ((start .default ⟨(), []⟩).step env custom (.scheduleScan 0)).run env custom 0
  let slices : List (Slice (Recorded Unit)) := [⟨env, custom, 20⟩, ⟨env, custom, 30⟩]
  have hearly : Slice.total slices < n.nextWakeup := by decide
  obtain ⟨hage, -, hlater⟩ := run_in_parts hearly
  exact ⟨n, slices, by decide, hearly, hage, by decide, hlater env custom 94, by decide, by decide⟩

end Node

end Mode2
