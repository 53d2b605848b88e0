import Mode2.Proofs.ChannelAccess.PauseTimes
import Mode2.Proofs.Environment.View
import Mode2.Proofs.Node.Contention
import Mode2.Proofs.Node.Run

/-!
# Contention on time

A node that contends for a channel asks to run when its pause ends. When the host lets it
run exactly then, the ticks that pass are those of its pauses, and the ticks that further
pauses may take are a potential: every pause is paid for out of it. Without retries there
is one sequence of pauses only. If all of its pauses are of one frame each, some run uses
the potential up, namely the one in which every channel is busy.
-/

namespace Mode2

variable {W : Type}

namespace ChannelAccess

variable {a : ChannelAccess} {source : RandomSource W} {w : W}

/-! ## Busy channels without retries -/

theorem afterBusy_of_pause {pause : Clocks} (hpause : (a.nextPause source w).1.1 = some pause) :
    a.afterBusy source w =
      ((some pause, (a.nextPause source w).1.2.nextTxChannel), (a.nextPause source w).2) := by
  simp [afterBusy, hpause]

theorem afterBusy_of_no_pause (hretries : a.retries = 0)
    (hnone : (a.nextPause source w).1.1 = none) :
    a.afterBusy source w = ((none, (a.nextPause source w).1.2), (a.nextPause source w).2) := by
  simp [afterBusy, hnone, spendRetry, hretries]

end ChannelAccess

namespace Node

variable {env : Environment W} {custom : CustomApplets W} {n m k : Node W}

/-- From `n` on, for as long as it transmits, the host lets the node run exactly when it
asks to, and its pauses take `waited` ticks until the node is `m`. -/
inductive Punctual (custom : CustomApplets W) (n : Node W) : Nat → Node W → Prop
  | refl : Punctual custom n 0 n
  | wake {waited : Nat} {m : Node W} (env : Environment W) :
      Punctual custom n waited m → m.phase = .pausing →
      Punctual custom n (waited + m.nextWakeup.count) (m.step env custom (.run m.nextWakeup))
  | step {waited : Nat} {m : Node W} (env : Environment W) (input : Input) :
      Punctual custom n waited m → m.phase.IsTransmitting → (∀ elapsed, input ≠ .run elapsed) →
      Punctual custom n waited (m.step env custom input)

theorem Punctual.trans {first second : Nat} (h : Punctual custom n first m)
    (h' : Punctual custom m second k) : Punctual custom n (first + second) k := by
  induction h' with
  | refl => exact h
  | wake env _ hphase ih => exact Nat.add_assoc _ _ _ ▸ ih.wake env hphase
  | step env input _ hphase hrun ih => exact ih.step env input hphase hrun

/-- The ticks that pauses may still take. -/
def pauseLeft (n : Node W) : Nat :=
  match n.phase with
  | .pausing => n.countdown.count + n.access.ticksLeft
  | .assessing => n.access.ticksLeft
  | .idle | .sending | .listening => 0

theorem pauseLeft_of_pausing (h : n.phase = .pausing) :
    n.pauseLeft = n.countdown.count + n.access.ticksLeft := by
  simp [pauseLeft, h]

theorem pauseLeft_of_assessing (h : n.phase = .assessing) : n.pauseLeft = n.access.ticksLeft := by
  simp [pauseLeft, h]

theorem pauseLeft_of_idle (h : n.phase = .idle) : n.pauseLeft = 0 := by
  simp [pauseLeft, h]

theorem pauseLeft_of_due (h : n.isDue = true) : n.pauseLeft = n.access.ticksLeft := by
  simp only [isDue, Bool.and_eq_true, beq_iff_eq, Span.isZero_iff] at h
  simp [pauseLeft_of_pausing h.1, h.2]

/-- The node listens before it talks, and has no retries. -/
structure ContendsOnce (n : Node W) : Prop where
  algorithm : n.access.algorithm ≠ .uncontended
  retries : n.access.retries = 0

theorem ContendsOnce.of_params (h : n.ContendsOnce) (hparams : m.access.params = n.access.params)
    (hretries : m.access.retries = 0) : m.ContendsOnce :=
  ⟨by rw [ChannelAccess.algorithm_of_params hparams]; exact h.algorithm, hretries⟩

/-! ## Attempts -/

/-- Contention has gone on from `n` to `m`: it has ended, or it pauses or assesses a
channel; and what is left for pauses comes from `total` ticks. -/
structure Advances (total : Nat) (n m : Node W) : Prop where
  left : ChannelAccess.Within n.access.HasConstantPauses m.pauseLeft total
  params : m.access.params = n.access.params
  retries : m.access.retries = 0
  goes : m.phase = .idle ∨
    (m.phase = .pausing ∨ m.phase = .assessing) ∧ m.access.txChannel?.isSome = true

theorem Advances.trans {total : Nat} (h : Advances total n m)
    (h' : Advances m.pauseLeft m k) : Advances total n k where
  left := by
    have hleft := h'.left
    rw [ChannelAccess.HasConstantPauses, ChannelAccess.algorithm_of_params h.params] at hleft
    exact hleft.trans h.left
  params := h'.params.trans h.params
  retries := h'.retries
  goes := h'.goes

/-- Whoever yields a busy channel pauses out of the window that is left, or ends. -/
theorem advances_yieldChannel (h : n.ContendsOnce) (hchannel : n.access.txChannel?.isSome = true) :
    Advances n.access.ticksLeft n (n.yieldChannel env) := by
  have hparams := ChannelAccess.params_nextPause env.random n.access n.world
  have hretries := (ChannelAccess.retries_nextPause env.random n.access n.world).trans h.retries
  have hnext := ChannelAccess.isSome_txChannel?_afterBusy env.random n.world hchannel
  unfold yieldChannel
  cases hpause : (n.access.nextPause env.random n.world).1.1 with
  | some pause =>
      rw [ChannelAccess.afterBusy_of_pause hpause] at hnext ⊢
      refine ⟨?_, (ChannelAccess.params_nextTxChannel _).trans hparams,
        (ChannelAccess.retries_nextTxChannel _).trans hretries, .inr ⟨.inl rfl, hnext⟩⟩
      rw [pauseLeft_of_pausing rfl]
      dsimp only [Node.pause]
      rw [ChannelAccess.ticksLeft_nextTxChannel]
      exact ChannelAccess.ticksLeft_nextPause env.random n.world h.algorithm hpause
  | none =>
      rw [ChannelAccess.afterBusy_of_no_pause h.retries hpause]
      refine ⟨⟨Nat.zero_le _, fun hconstant => ?_⟩, hparams, hretries, .inl rfl⟩
      exact (ChannelAccess.ticksLeft_of_no_pause env.random n.world hconstant hpause).symm

theorem advances_attempt (h : n.ContendsOnce) (hdue : n.isDue = true)
    (hchannel : n.access.txChannel?.isSome = true) :
    Advances n.pauseLeft n (n.attempt env) := by
  obtain ⟨channel, hsome⟩ := Option.isSome_iff_exists.mp hchannel
  rw [pauseLeft_of_due hdue]
  unfold attempt
  rw [hsome]
  dsimp only
  rw [if_neg h.algorithm]
  split
  · exact ⟨.refl _, rfl, h.retries, .inr ⟨.inr rfl, hchannel⟩⟩
  next cause world _ =>
    have hyield : Advances n.access.ticksLeft { n with world }
        (({ n with world } : Node W).yieldChannel env) :=
      advances_yieldChannel (n := { n with world }) ⟨h.algorithm, h.retries⟩ hchannel
    exact ⟨hyield.left, hyield.params, hyield.retries, hyield.goes⟩

/-- Attempts in a row take no pause that the window does not have. -/
theorem advances_settle {total : Nat} (h : n.ContendsOnce) (hadvances : Advances total n m) :
    Advances total n (m.settle env) := by
  refine settle_induct (fun k hdue hk => ?_) hadvances
  have hchannel : k.access.txChannel?.isSome = true := by
    rcases hk.goes with hidle | ⟨-, hchannel⟩
    · simp [isDue, hidle] at hdue
    · exact hchannel
  exact hk.trans (advances_attempt (h.of_params hk.params hk.retries) hdue hchannel)

/-! ## Every run within the time that is left -/

/-- When its pause ends, a node makes the attempts that are due. -/
theorem step_of_wake (hphase : m.phase = .pausing) :
    m.step env custom (.run m.nextWakeup) =
      ({ m with sessions := m.sessions.elapse m.countdown, countdown := 0 } : Node W).settle
        env := by
  have hwakeup : m.nextWakeup = m.countdown := by simp [nextWakeup, hphase]
  have hzero : m.countdown - m.countdown = 0 := Span.ext (by simp)
  simp only [step, run, hwakeup, hphase, hzero]

/-- The node waits out its pauses within `bound` ticks, of which `waited` are over. -/
structure KeepsTime (bound waited : Nat) (m : Node W) : Prop where
  time : waited + m.pauseLeft ≤ bound
  once : m.phase.IsTransmitting → m.ContendsOnce ∧ m.access.txChannel?.isSome = true

theorem KeepsTime.of_done {bound waited : Nat} (hwaited : waited ≤ bound)
    (hphase : m.phase = .idle ∨ m.phase = .listening) : KeepsTime bound waited m where
  time := by rcases hphase with h | h <;> simp [pauseLeft, h, hwaited]
  once hsends := by
    rcases hphase with h | h
    · exact absurd h hsends.ne_idle
    · exact absurd h hsends.ne_listening

theorem Advances.keepsTime {bound waited total : Nat} (h : Advances total n m)
    (honce : n.ContendsOnce) (htime : waited + total ≤ bound) : KeepsTime bound waited m where
  time := Nat.le_trans (Nat.add_le_add_left h.left.le waited) htime
  once hsends := by
    rcases h.goes with hidle | ⟨-, hchannel⟩
    · exact absurd hidle hsends.ne_idle
    · exact ⟨honce.of_params h.params h.retries, hchannel⟩

theorem KeepsTime.wake {bound waited : Nat} (h : KeepsTime bound waited m)
    (hphase : m.phase = .pausing) :
    KeepsTime bound (waited + m.nextWakeup.count) (m.step env custom (.run m.nextWakeup)) := by
  obtain ⟨⟨halgorithm, hretries⟩, hchannel⟩ := h.once (.inl hphase)
  have hwakeup : m.nextWakeup = m.countdown := by simp [nextWakeup, hphase]
  have htime := h.time
  rw [pauseLeft_of_pausing hphase] at htime
  let due : Node W := { m with sessions := m.sessions.elapse m.countdown, countdown := 0 }
  have honce : due.ContendsOnce := ⟨halgorithm, hretries⟩
  have hleft : due.pauseLeft = m.access.ticksLeft :=
    (pauseLeft_of_pausing (n := due) hphase).trans (Nat.zero_add _)
  have hdue : Advances due.pauseLeft due due :=
    ⟨.refl _, rfl, hretries, .inr ⟨.inl hphase, hchannel⟩⟩
  rw [step_of_wake hphase, hwakeup]
  apply (advances_settle honce hdue).keepsTime honce
  omega

theorem keepsTime_retry {bound waited : Nat} (honce : m.ContendsOnce) (hwaited : waited ≤ bound) :
    KeepsTime bound waited ((m.retry env).settle env) := by
  have hended : m.retry env = m.endSession env := by
    simp [retry, ChannelAccess.spendRetry, honce.retries]
  rw [hended, settle_of_not_due (isDue_endSession env m)]
  exact .of_done hwaited (.inl rfl)

theorem KeepsTime.onAssessed {bound waited : Nat} (h : KeepsTime bound waited m)
    (hphase : m.phase = .assessing) (clear : Bool) :
    KeepsTime bound waited (m.onAssessed env clear) := by
  obtain ⟨honce, hchannel⟩ := h.once (.inr (.inl hphase))
  have hwaited : waited ≤ bound := Nat.le_trans (Nat.le_add_right _ _) h.time
  obtain ⟨channel, hsome⟩ := Option.isSome_iff_exists.mp hchannel
  unfold Node.onAssessed
  rw [if_pos hphase, hsome]
  dsimp only
  split
  · unfold send
    split
    · rw [settle_of_not_due (by rfl)]
      refine ⟨hwaited, fun _ => ⟨⟨honce.algorithm, honce.retries⟩, hchannel⟩⟩
    next cause world _ => exact keepsTime_retry ⟨honce.algorithm, honce.retries⟩ hwaited
  · have htime := h.time
    rw [pauseLeft_of_assessing hphase] at htime
    exact (advances_settle honce (advances_yieldChannel honce hchannel)).keepsTime honce htime

theorem KeepsTime.onSent {bound waited : Nat} (h : KeepsTime bound waited m)
    (hphase : m.phase = .sending) (success : Bool) :
    KeepsTime bound waited (m.onSent env success) := by
  obtain ⟨honce, -⟩ := h.once (.inr (.inr hphase))
  have hwaited : waited ≤ bound := Nat.le_trans (Nat.le_add_right _ _) h.time
  have hended : KeepsTime bound waited (m.endSession env) := .of_done hwaited (.inl rfl)
  have hspent : m.access.spendRetry = none := by simp [ChannelAccess.spendRetry, honce.retries]
  have hlistens : ∀ (channel : UInt8) (timeout : Ticks) (k : Node W),
      KeepsTime bound waited (k.listen env channel timeout) := by
    intro channel timeout k
    unfold listen
    split
    · exact .of_done hwaited (.inr rfl)
    · exact .of_done hwaited (.inl rfl)
  unfold Node.onSent
  rw [if_pos hphase]
  split
  · split
    · exact .of_done hwaited (.inl rfl)
    · split
      · unfold afterRequest
        rw [hspent]
        dsimp only
        split
        · exact hended
        · exact hlistens _ _ _
      all_goals exact hended
  · exact keepsTime_retry honce hwaited

/-- No time passes with what the radio and the host do otherwise. -/
theorem KeepsTime.step {bound waited : Nat} (h : KeepsTime bound waited m)
    (hsends : m.phase.IsTransmitting) {input : Input} (hrun : ∀ elapsed, input ≠ .run elapsed) :
    KeepsTime bound waited (m.step env custom input) := by
  have hscheduled : ∀ {input : Input}, input.Requests →
      KeepsTime bound waited (m.step env custom input) := by
    intro input hrequests
    obtain ⟨sessions, -, heq⟩ :
        ∃ sessions, m.sessions.Schedules sessions ∧ m.step env custom input = { m with sessions } :=
      schedules_step hrequests
    rw [heq]
    exact ⟨h.time, fun hsends => ⟨⟨(h.once hsends).1.1, (h.once hsends).1.2⟩, (h.once hsends).2⟩⟩
  cases input with
  | schedule applet wait subnet channel netState => exact hscheduled trivial
  | scheduleScan wait => exact hscheduled trivial
  | scheduleBeacon wait => exact hscheduled trivial
  | run elapsed => exact absurd rfl (hrun elapsed)
  | flush => exact .of_done (Nat.le_trans (Nat.le_add_right _ _) h.time) (.inl rfl)
  | event event =>
      have hstays : ∀ k : Node W, k = m → KeepsTime bound waited k := fun _ hk => hk ▸ h
      cases event with
      | received frame intact =>
          exact hstays _ (by simp [Node.step, onEvent, onFrame, hsends.ne_listening])
      | timeout => exact hstays _ (by simp [Node.step, onEvent, onTimeout, hsends.ne_listening])
      | assessed clear =>
          by_cases hphase : m.phase = .assessing
          · exact h.onAssessed hphase clear
          · exact hstays _ (by simp [Node.step, onEvent, Node.onAssessed, hphase])
      | sent success =>
          by_cases hphase : m.phase = .sending
          · exact h.onSent hphase success
          · exact hstays _ (by simp [Node.step, onEvent, Node.onSent, hphase])

theorem Punctual.keepsTime {bound waited : Nat} (hpunctual : Punctual custom n waited m)
    (h : KeepsTime bound 0 n) : KeepsTime bound waited m := by
  induction hpunctual with
  | refl => exact h
  | wake env _ hphase ih => exact ih.wake hphase
  | step env input _ hsends hrun ih => exact ih.step hsends hrun

/-- Whatever the radio reports, pauses take no more ticks than there were for them. -/
theorem Advances.waited_le {total waited : Nat} (h : Advances total n m) (honce : n.ContendsOnce)
    (hpunctual : Punctual custom m waited k) : waited ≤ total :=
  Nat.le_trans (Nat.le_add_right _ _) <|
    (hpunctual.keepsTime (h.keepsTime honce (Nat.le_of_eq (Nat.zero_add total)))).time

/-! ## The run in which every channel is busy -/

/-- A radio that accepts everything assesses the channel when an attempt is due. -/
theorem settle_obliging (h : n.ContendsOnce) (hdue : n.isDue = true)
    (hchannel : n.access.txChannel?.isSome = true) :
    n.settle .obliging = { n with phase := .assessing } := by
  obtain ⟨channel, hsome⟩ := Option.isSome_iff_exists.mp hchannel
  have heq : n.attempt .obliging = { n with phase := .assessing } := by
    unfold attempt
    rw [hsome]
    dsimp only
    rw [if_neg h.algorithm]
    rfl
  rw [settle_of_attempt hdue (by rw [heq]; rfl), heq]

/-- However long a pause is, the channel is assessed after it. -/
theorem exists_punctual_assessing (custom : CustomApplets W) (h : n.ContendsOnce)
    (hchannel : n.access.txChannel?.isSome = true) (hphase : n.phase = .pausing) :
    ∃ m : Node W, Punctual custom (n.settle .obliging) n.countdown.count m ∧
      m.phase = .assessing ∧ m.access = n.access := by
  cases hdue : n.isDue with
  | true =>
      have hzero : n.countdown.count = 0 := by
        simp only [isDue, hphase, Span.isZero, Bool.and_eq_true, beq_iff_eq] at hdue
        exact hdue.2
      rw [settle_obliging h hdue hchannel, hzero]
      exact ⟨_, .refl, rfl, rfl⟩
  | false =>
      have hwakeup : n.nextWakeup = n.countdown := by simp [nextWakeup, hphase]
      have hassesses := settle_obliging
        (n := { n with sessions := n.sessions.elapse n.countdown, countdown := 0 })
        ⟨h.algorithm, h.retries⟩ (by simp [isDue, hphase, Span.isZero]) hchannel
      have hwake := (Punctual.refl : Punctual custom n 0 n).wake .obliging hphase
      rw [step_of_wake hphase, hassesses, hwakeup, Nat.zero_add] at hwake
      rw [settle_of_not_due hdue]
      exact ⟨_, hwake, rfl, rfl⟩

/-- A node that yields a channel and does not end has paid for its pause. -/
theorem budget_yieldChannel_of_pausing (halgorithm : n.access.algorithm ≠ .uncontended)
    (hactive : (n.yieldChannel env).phase ≠ .idle) :
    (n.yieldChannel env).phase = .pausing ∧
      (n.yieldChannel env).access.budget < n.access.budget := by
  have hpaid := ChannelAccess.budget_afterBusy env.random n.access n.world halgorithm
  unfold yieldChannel at hactive ⊢
  dsimp only at hactive ⊢
  split at hactive
  next length hlength => exact ⟨rfl, hpaid (by simp [hlength])⟩
  · exact absurd rfl hactive

/-- A node that finds every channel busy uses up all the ticks that are left for pauses of
one frame each. -/
theorem exists_punctual_of_assessing (custom : CustomApplets W) (h : n.ContendsOnce)
    (hchannel : n.access.txChannel?.isSome = true) (hconstant : n.access.HasConstantPauses)
    (hphase : n.phase = .assessing) : ∃ m : Node W, Punctual custom n n.pauseLeft m := by
  -- Every pause is paid for out of the budget, so that busy channels come to an end.
  induction hbudget : n.access.budget using Nat.strongRecOn generalizing n with
  | ind budget ih =>
  obtain ⟨channel, hsome⟩ := Option.isSome_iff_exists.mp hchannel
  let yielded : Node W := n.yieldChannel .obliging
  have hadvances : Advances n.access.ticksLeft n yielded := advances_yieldChannel h hchannel
  have hbusy : Punctual custom n 0 (yielded.settle .obliging) := by
    have hstep := (Punctual.refl : Punctual custom n 0 n).step .obliging (.event (.assessed false))
      (.inr (.inl hphase)) nofun
    simpa [Node.step, onEvent, Node.onAssessed, hphase, hsome] using hstep
  rw [pauseLeft_of_assessing hphase, ← hadvances.left.eq hconstant]
  rcases hadvances.goes with hidle | ⟨hgoes, hnext⟩
  · rw [pauseLeft_of_idle hidle]
    exact ⟨_, hbusy⟩
  have honce : yielded.ContendsOnce := h.of_params hadvances.params hadvances.retries
  have hgoing : yielded.phase ≠ .idle := by
    rcases hgoes with hgoes | hgoes <;> simp [hgoes]
  obtain ⟨hpausing, hpaid⟩ := budget_yieldChannel_of_pausing h.algorithm hgoing
  obtain ⟨m, hpauses, hassesses, haccess⟩ :=
    exists_punctual_assessing custom honce hnext hpausing
  obtain ⟨k, hrest⟩ := ih m.access.budget (by rw [haccess, ← hbudget]; exact hpaid)
    ⟨haccess ▸ honce.algorithm, haccess ▸ honce.retries⟩ (haccess ▸ hnext)
    (by
      rw [haccess, ChannelAccess.HasConstantPauses,
        ChannelAccess.algorithm_of_params hadvances.params]
      exact hconstant) hassesses rfl
  refine ⟨k, ?_⟩
  rw [pauseLeft_of_assessing hassesses, haccess] at hrest
  rw [pauseLeft_of_pausing hpausing, ← Nat.zero_add (_ + _)]
  exact hbusy.trans (hpauses.trans hrest)

/-- A node that pauses or assesses a channel, and then finds every channel busy, uses up all
the ticks that are left for pauses of one frame each. -/
theorem exists_punctual (custom : CustomApplets W) (h : n.ContendsOnce)
    (hchannel : n.access.txChannel?.isSome = true) (hconstant : n.access.HasConstantPauses)
    (hdue : n.isDue = false) (hphase : n.phase = .pausing ∨ n.phase = .assessing) :
    ∃ m : Node W, Punctual custom n n.pauseLeft m := by
  rcases hphase with hphase | hphase
  · obtain ⟨m, hpauses, hassesses, haccess⟩ :=
      exists_punctual_assessing custom h hchannel hphase
    rw [settle_of_not_due hdue] at hpauses
    obtain ⟨k, hrest⟩ := exists_punctual_of_assessing custom (n := m)
      ⟨haccess ▸ h.algorithm, haccess ▸ h.retries⟩ (haccess ▸ hchannel) (haccess ▸ hconstant)
      hassesses
    rw [pauseLeft_of_assessing hassesses, haccess] at hrest
    rw [pauseLeft_of_pausing hphase]
    exact ⟨k, hpauses.trans hrest⟩
  · exact exists_punctual_of_assessing custom h hchannel hconstant hphase

end Node

end Mode2
