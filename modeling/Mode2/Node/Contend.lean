import Mode2.ChannelAccess.Budget
import Mode2.Node.Basic
import Mode2.Time.AirTime

/-!
# Contending for a channel

A pause ends with an attempt: the channel is assessed, or the frame goes out at
once when the dialog does not listen first. An attempt that fails leads to another
pause, and a pause too short to count in ticks to the next attempt at once. Every
such round uses up part of the contention window or one of the retries, so the
attempts come to an end.
-/

namespace Mode2.Node

variable {W : Type}

/-- Pause before the next attempt. -/
def pause (length : Clocks) (n : Node W) : Node W :=
  { n with phase := .pausing, countdown := length.toTicks }

/-- A pause has ended and the next attempt is due. -/
def isDue (n : Node W) : Bool :=
  n.phase == .pausing && n.countdown.isZero

/-- After a failed transmission: pause for a retry, or give up. -/
def retry (env : Environment W) (n : Node W) : Node W :=
  match n.access.spendRetry with
  | some access => { n with access }.pause access.guardTime
  | none => n.endSession env

/-- Put the frame on a channel. -/
def send (env : Environment W) (channel : UInt8) (n : Node W) : Node W :=
  match env.radio.transmit channel n.network.outbound.written n.world with
  | (.ok (), world) => { n with world, phase := .sending }
  | (.error _, world) => { n with world }.retry env

/-- After a busy channel: pause before the next attempt, or give up. -/
def yieldChannel (env : Environment W) (n : Node W) : Node W :=
  let next := n.access.afterBusy env.random n.world
  let n := { n with access := next.1.2, world := next.2 }
  match next.1.1 with
  | some length => n.pause length
  | none => n.endSession env

/-- One attempt to get the frame onto the channel. -/
def attempt (env : Environment W) (n : Node W) : Node W :=
  match n.access.txChannel? with
  | none => n.endSession env
  | some channel =>
      if n.access.algorithm = .uncontended then n.send env channel
      else
        match env.radio.assess channel n.world with
        | (.ok (), world) => { n with world, phase := .assessing }
        | (.error _, world) => { n with world }.yieldChannel env

/-! ## Rounds are paid for -/

theorem isDue_endSession (env : Environment W) (n : Node W) :
    (n.endSession env).isDue = false := rfl

theorem budget_retry (env : Environment W) (n : Node W) (hdue : (n.retry env).isDue = true) :
    (n.retry env).access.budget < n.access.budget := by
  unfold retry at hdue ⊢
  split at hdue
  next access haccess =>
    exact ChannelAccess.budget_lt_of_retries (ChannelAccess.retries_spendRetry haccess)
  · rw [isDue_endSession] at hdue
    cases hdue

theorem budget_send (env : Environment W) (channel : UInt8) (n : Node W)
    (hdue : (n.send env channel).isDue = true) :
    (n.send env channel).access.budget < n.access.budget := by
  unfold send at hdue ⊢
  split at hdue
  · cases hdue
  next world _ => exact budget_retry env { n with world } hdue

theorem budget_yieldChannel (env : Environment W) (n : Node W)
    (halgorithm : n.access.algorithm ≠ .uncontended)
    (hdue : (n.yieldChannel env).isDue = true) :
    (n.yieldChannel env).access.budget < n.access.budget := by
  have hpaid := ChannelAccess.budget_afterBusy env.random n.access n.world halgorithm
  unfold yieldChannel at hdue ⊢
  dsimp only at hdue ⊢
  split at hdue
  next length hlength => exact hpaid (by simp [hlength])
  · rw [isDue_endSession] at hdue
    cases hdue

/-- A round that leaves another attempt due has been paid for. -/
theorem budget_attempt (env : Environment W) (n : Node W)
    (hdue : (n.attempt env).isDue = true) :
    (n.attempt env).access.budget < n.access.budget := by
  unfold attempt at hdue ⊢
  split at hdue
  · rw [isDue_endSession] at hdue
    cases hdue
  next channel _ =>
    split at hdue
    next halgorithm =>
      rw [if_pos halgorithm]
      exact budget_send env channel n hdue
    next halgorithm =>
      rw [if_neg halgorithm]
      split at hdue
      · cases hdue
      next world _ => exact budget_yieldChannel env { n with world } halgorithm hdue

/-! ## Attempts until the node has to wait -/

/-- Make attempts as long as one is due. -/
def settle (env : Environment W) (n : Node W) : Node W :=
  if n.isDue then
    let next := n.attempt env
    if _h : next.isDue then next.settle env else next
  else n
termination_by n.access.budget
decreasing_by exact budget_attempt env n ‹_›

/-- Begin to contend for a channel with the staged frame; without a frame the dialog
has nothing to do. The channel of the dialog is used unless others are set. -/
def beginSending (env : Environment W) (s : Session) (n : Node W) : Node W :=
  if n.network.outbound.isEmpty then n.endSession env
  else
    let access :=
      if n.access.txChannels.channels = [] then n.access.setTxChannel s.channel else n.access
    let frameTime :=
      airTime n.network.outbound.length (access.txChannel?.getD s.channel)
    let begun := access.beginSequence env.random frameTime n.world
    ({ n with access := begun.1.2, world := begun.2 }.pause begun.1.1).settle env

end Mode2.Node
