import Mode2.Node.Radio
import Mode2.Proofs.Node.Contention

/-!
# Frames that arrive in a dialog

A frame that arrives while the node listens is processed in the dialog on top. When it is
dropped the dialog ends; otherwise the node goes on with the dialog as the frame has left
it.
-/

namespace Mode2.Node

variable {W : Type} {env : Environment W} {n : Node W} {s : Session} {frame : List UInt8}

/-- The processing of a frame that has arrived in a dialog. -/
def arrival (inbound : FrameQueue) (s : Session) (n : Node W) : Exchange W :=
  Node.exchange { n with network := { n.network with inbound } } s

theorem process_of_load {inbound : FrameQueue} (hload : FrameQueue.load frame = .ok inbound) :
    n.process env frame s =
      let result := (n.arrival inbound s).receive env n.config
      if result.1 < 0 ∨ result.2.session.netState.scrapped = true then
        (n.resume result.2.toLayers).endSession env
      else (n.resume result.2.toLayers).proceed env result.2.session := by
  unfold process
  rw [hload]
  rfl

theorem process_of_oversized {cause : QueueError} (hload : FrameQueue.load frame = .error cause) :
    n.process env frame s = n.endSession env := by
  unfold process
  rw [hload]

/-- A frame that arrives intact while the node listens is processed. -/
theorem onFrame_of_listening (hphase : n.phase = .listening) (htop : n.sessions.top? = some s)
    (frame : List UInt8) : n.onFrame env frame true = n.process env frame s := by
  simp [onFrame, hphase, htop]

/-- Frames that arrive while the node does not listen are passed over. -/
theorem onFrame_of_not_listening (hphase : n.phase ≠ .listening) (frame : List UInt8)
    (intact : Bool) : n.onFrame env frame intact = n :=
  if_neg hphase

/-- A radio that accepts to listen listens. -/
theorem listen_of_accepted {channel : UInt8} {timeout : Ticks}
    (haccepted : (env.radio.listen channel timeout n.world).1 = .ok ()) :
    n.listen env channel timeout =
      { n with
        world := (env.radio.listen channel timeout n.world).2
        phase := .listening
        countdown := timeout + watchdogSlack } := by
  unfold listen
  split
  next heq => rw [heq]
  next heq =>
    rw [heq] at haccepted
    cases haccepted

/-- A radio that refuses to listen ends the dialog. -/
theorem listen_of_refused {channel : UInt8} {timeout : Ticks} {cause : RadioError}
    (hrefused : (env.radio.listen channel timeout n.world).1 = .error cause) :
    n.listen env channel timeout =
      { n with world := (env.radio.listen channel timeout n.world).2 }.endSession env := by
  unfold listen
  split
  next heq =>
    rw [heq] at hrefused
    cases hrefused
  next heq => rw [heq]

/-- Whoever listens now has had the radio listen. -/
theorem listen_of_listening {channel : UInt8} {timeout : Ticks}
    (h : (n.listen env channel timeout).phase = .listening) :
    n.listen env channel timeout =
      { n with
        world := (env.radio.listen channel timeout n.world).2
        phase := .listening
        countdown := timeout + watchdogSlack } := by
  apply listen_of_accepted
  unfold listen at h
  split at h
  next heq => rw [heq]
  · cases h

end Mode2.Node
