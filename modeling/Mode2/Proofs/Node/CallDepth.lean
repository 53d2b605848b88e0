import Mode2.Proofs.Node.RadioConduct
import Mode2.Proofs.Node.Reactions

/-!
# How deep contention nests

The parts of contention call one another: a pause too short to count calls for an
attempt, an attempt that the radio refuses goes on as after a busy channel or a failed
transmission, and these call for a pause. Here the calls are made explicit, with a limit
on how deep they may nest. Every round is paid for out of the budget of the access to
channels, so a limit that the budget determines is never met, whatever the radio answers
and the random source yields.
-/

namespace Mode2

variable {W : Type} {env : Environment W} {custom : CustomApplets W}

/-! ## Parts that call one another -/

/-- How a part of contention ends: with a node, or by calling another part. -/
inductive PartEnd (W : Type)
  | done (n : Node W)
  | calls (move : Move) (n : Node W)

namespace Move

/-- What a part of contention does itself. -/
def start (env : Environment W) (n : Node W) : Move → PartEnd W
  | pause length =>
      if (n.pause length).isDue then .calls attempt (n.pause length) else .done (n.pause length)
  | attempt =>
      match n.access.txChannel? with
      | none => .done (n.endSession env)
      | some channel =>
          if n.access.algorithm = .uncontended then .calls (send channel) n
          else
            match env.radio.assess channel n.world with
            | (.ok (), world) => .done { n with world, phase := .assessing }
            | (.error _, world) => .calls yieldChannel { n with world }
  | send channel =>
      match env.radio.transmit channel n.network.outbound.written n.world with
      | (.ok (), world) => .done { n with world, phase := .sending }
      | (.error _, world) => .calls retry { n with world }
  | yieldChannel =>
      let next := n.access.afterBusy env.random n.world
      let n := { n with access := next.1.2, world := next.2 }
      match next.1.1 with
      | some length => .calls (pause length) n
      | none => .done (n.endSession env)
  | retry =>
      match n.access.spendRetry with
      | some access => .calls (pause access.guardTime) { n with access }
      | none => .done (n.endSession env)

/-- How deep the calls of a part may nest: a round of an attempt, a transmission, a retry
and a pause takes four calls and part of the budget. Who does not listen first may pass
over a busy channel for free, but only once. -/
def depth (a : ChannelAccess) : Move → Nat
  | pause _ => 4 * a.budget + 5
  | attempt => 4 * a.budget + 4
  | send _ => 4 * a.budget + 3
  | retry => 4 * a.budget + 2
  | yieldChannel =>
      if a.algorithm = .uncontended then 4 * a.budget + 6 else 4 * a.budget + 2

end Move

namespace Node

/-- A part of contention with all the parts that are called; `none` when the calls nest
deeper than `depth`. -/
def contendWithin (env : Environment W) : (depth : Nat) → Move → Node W → Option (Node W)
  | 0, _, _ => none
  | depth + 1, move, n =>
      match move.start env n with
      | .done m => some m
      | .calls next m => contendWithin env depth next m

end Node

/-! ## What a call costs -/

/-- Without listening first, a busy channel costs nothing. -/
theorem ChannelAccess.budget_afterBusy_uncontended (source : RandomSource W) (a : ChannelAccess)
    (w : W) (halgorithm : a.algorithm = .uncontended) :
    (a.afterBusy source w).1.2.budget = a.budget := by
  unfold afterBusy nextPause
  simp only [halgorithm]
  exact budget_nextTxChannel a

namespace Move

theorem depth_pos (a : ChannelAccess) (move : Move) : 0 < move.depth a := by
  cases move <;> simp only [depth]
  case yieldChannel => split <;> omega
  all_goals omega

theorem depth_le (a : ChannelAccess) (move : Move) : move.depth a ≤ 4 * a.budget + 6 := by
  cases move <;> simp only [depth]
  case yieldChannel => split <;> omega
  all_goals omega

/-- A part that is called nests less deep than its caller. -/
theorem depth_lt_of_calls {n m : Node W} {move next : Move}
    (h : move.start env n = .calls next m) : next.depth m.access < move.depth n.access := by
  cases move with
  | pause length =>
      simp only [start] at h
      split at h
      · cases h
        simp [depth, Node.pause]
      · cases h
  | attempt =>
      simp only [start] at h
      split at h
      · cases h
      split at h
      · cases h
        simp [depth]
      next halgorithm =>
        split at h
        · cases h
        · cases h
          simp [depth, halgorithm]
  | send channel =>
      simp only [start] at h
      split at h
      · cases h
      · cases h
        simp [depth]
  | yieldChannel =>
      simp only [start] at h
      split at h
      next length hlength =>
        cases h
        by_cases halgorithm : n.access.algorithm = .uncontended
        · have hfree := ChannelAccess.budget_afterBusy_uncontended env.random n.access n.world
            halgorithm
          simp only [depth, if_pos halgorithm]
          omega
        · have hpaid := ChannelAccess.budget_afterBusy env.random n.access n.world halgorithm
            (by simp [hlength])
          simp only [depth, if_neg halgorithm]
          omega
      · cases h
  | retry =>
      simp only [start] at h
      split at h
      next access haccess =>
        cases h
        have hpaid := ChannelAccess.budget_lt_of_retries (ChannelAccess.retries_spendRetry haccess)
        simp only [depth]
        omega
      · cases h

end Move

/-! ## What the calls come to -/

/-- The node after a part of contention and whatever it calls. -/
def PartEnd.settle (env : Environment W) : PartEnd W → Node W
  | .done n => n
  | .calls move n => (n.perform env move).settle env

namespace Node

variable {n : Node W} {move : Move}

theorem settle_of_not_pausing (h : n.phase ≠ .pausing) : n.settle env = n :=
  settle_of_not_due (by simp [isDue, h])

/-- Calling the parts one after another is making attempts as long as one is due. -/
theorem settle_perform (n : Node W) (move : Move) :
    (n.perform env move).settle env = (move.start env n).settle env := by
  have hended : ∀ m : Node W, (m.endSession env).settle env = m.endSession env := fun m =>
    settle_of_not_pausing (n := m.endSession env) nofun
  cases move with
  | pause length =>
      cases hdue : (n.pause length).isDue with
      | true =>
          simp only [perform, Move.start, hdue, if_pos, PartEnd.settle]
          exact settle_of_due hdue
      | false =>
          simp only [perform, Move.start, hdue, Bool.false_eq_true, if_false, PartEnd.settle]
          exact settle_of_not_due hdue
  | attempt =>
      cases hchannel : n.access.txChannel? with
      | none => simp [perform, attempt, Move.start, hchannel, PartEnd.settle, hended]
      | some channel =>
          by_cases halgorithm : n.access.algorithm = .uncontended
          · simp [perform, attempt, Move.start, hchannel, halgorithm, PartEnd.settle]
          · rcases hassessed : env.radio.assess channel n.world with ⟨_ | _, world⟩
            · simp [perform, attempt, Move.start, hchannel, halgorithm, hassessed, PartEnd.settle]
            · simp [perform, attempt, Move.start, hchannel, halgorithm, hassessed, PartEnd.settle,
                settle_of_not_pausing]
  | send channel =>
      rcases hsent : env.radio.transmit channel n.network.outbound.written n.world with
        ⟨_ | _, world⟩
      · simp [perform, send, Move.start, hsent, PartEnd.settle]
      · simp [perform, send, Move.start, hsent, PartEnd.settle, settle_of_not_pausing]
  | yieldChannel =>
      cases hnext : (n.access.afterBusy env.random n.world).1.1 <;>
        simp [perform, yieldChannel, Move.start, hnext, PartEnd.settle, hended]
  | retry =>
      cases hspent : n.access.spendRetry <;>
        simp [perform, retry, Move.start, hspent, PartEnd.settle, hended]

/-- Within the depth that the budget determines the calls come to an end, the one that
attempts in a row come to. -/
theorem contendWithin_eq {depth : Nat} (hdepth : move.depth n.access ≤ depth) :
    contendWithin env depth move n = some ((n.perform env move).settle env) := by
  induction depth generalizing move n with
  | zero => exact absurd (move.depth_pos n.access) (Nat.not_lt.mpr hdepth)
  | succ depth ih =>
      -- What is called nests less deep, so that the level spent on the call is enough.
      unfold contendWithin
      rw [settle_perform]
      cases hstart : move.start env n with
      | done m => rfl
      | calls next m =>
          have hless := Move.depth_lt_of_calls hstart
          exact ih (by omega)

/-! ## How contention leaves a node -/

/-- The node has a reason to wait: time that is left of a pause, the radio, or nothing
to do. -/
def IsWaiting (n : Node W) : Prop :=
  n.phase = .pausing ∧ 0 < n.countdown.count ∨ n.phase = .assessing ∨ n.phase = .sending ∨
    n.phase = .idle

theorem isWaiting_of_done {m : Node W} (h : move.start env n = .done m) : m.IsWaiting := by
  cases move with
  | pause length =>
      simp only [Move.start] at h
      split at h
      · cases h
      next hdue =>
        cases h
        exact .inl ⟨rfl, countdown_pos_of_not_due rfl (by simpa using hdue)⟩
  | attempt =>
      simp only [Move.start] at h
      split at h
      · cases h
        exact .inr (.inr (.inr rfl))
      split at h
      · cases h
      split at h
      · cases h
        exact .inr (.inl rfl)
      · cases h
  | send channel =>
      simp only [Move.start] at h
      split at h
      · cases h
        exact .inr (.inr (.inl rfl))
      · cases h
  | yieldChannel =>
      simp only [Move.start] at h
      split at h
      · cases h
      · cases h
        exact .inr (.inr (.inr rfl))
  | retry =>
      simp only [Move.start] at h
      split at h
      · cases h
      · cases h
        exact .inr (.inr (.inr rfl))

theorem isWaiting_of_contendWithin {depth : Nat} {m : Node W}
    (h : contendWithin env depth move n = some m) : m.IsWaiting := by
  induction depth generalizing move n with
  | zero => cases h
  | succ depth ih =>
      unfold contendWithin at h
      cases hstart : move.start env n with
      | done k =>
          rw [hstart] at h
          cases h
          exact isWaiting_of_done hstart
      | calls next k =>
          rw [hstart] at h
          exact ih h

/-- Whatever the radio answers and the random source yields: when an input leads a node
to contend for a channel, the calls nest at most as deep as the budget determines, and
they come to an end in which the node has a reason to wait. -/
theorem contention_terminates (env : Environment W) (custom : CustomApplets W) (n : Node W)
    (input : Input) {move : Move} {m : Node W}
    (h : Reaction.step env custom n input = .contends move m) :
    (∀ depth, 4 * m.access.budget + 6 ≤ depth →
      contendWithin env depth move m = some (n.step env custom input)) ∧
      (n.step env custom input).IsWaiting := by
  have hcomplete : (Reaction.step env custom n input).complete env = n.step env custom input :=
    Reaction.complete_step n input
  rw [h, Reaction.complete_contends] at hcomplete
  rw [← hcomplete]
  have hends : ∀ depth, 4 * m.access.budget + 6 ≤ depth →
      contendWithin env depth move m = some ((m.perform env move).settle env) := fun _ hdepth =>
    contendWithin_eq (Nat.le_trans (move.depth_le m.access) hdepth)
  exact ⟨hends, isWaiting_of_contendWithin (hends _ (Nat.le_refl _))⟩

/-- An environment whose radio neither assesses a channel nor transmits. -/
def refusing : Environment W :=
  { Environment.obliging with
    radio := { Environment.obliging.radio with
      assess := fun _ w => (.error .busy, w)
      transmit := fun _ _ w => (.error .busy, w) } }

/-- Applets that stage a frame of one byte, to be sent within a window, with a retry. -/
def contendingApplets (byte : UInt8) : CustomApplets W := fun id s n =>
  stagingApplets byte id s { n with access := { n.access with window := 64, retries := 1 } }

/-- A dialog that is never let on the air uses up its window and its retry at once. -/
theorem contention_terminates_refused :
    ∃ n m : Node Unit,
      Reaction.step refusing (contendingApplets 7) n (.run 0) = .contends (.pause 0) m ∧
      (∀ depth, 4 * m.access.budget + 6 ≤ depth →
        contendWithin refusing depth (.pause 0) m =
          some (n.step refusing (contendingApplets 7) (.run 0))) ∧
      (n.step refusing (contendingApplets 7) (.run 0)).IsWaiting := by
  let n := (start .default ()).step refusing (contendingApplets 7)
    (.schedule (some (.custom 0)) 0 0xF0 0x10 { substate := .requestTx })
  have hcontends : Reaction.step refusing (contendingApplets 7) n (.run 0) =
      .contends (.pause 0) (Reaction.step refusing (contendingApplets 7) n (.run 0)).node := by
    with_unfolding_all rfl
  exact ⟨n, _, hcontends, contention_terminates refusing (contendingApplets 7) n (.run 0) hcontends⟩

end Node

end Mode2
