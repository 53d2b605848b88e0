import Mode2.Proofs.ChannelAccess.Draws
import Mode2.Proofs.Node.Applets
import Mode2.Proofs.Node.Reactions

/-!
# What a node does to the world

A node reaches the world by what its environment offers: it uses the radio, draws random
words, encrypts and decrypts, hands frames and datagrams on, and runs queries and calls
against the files. A relation that holds of each of these holds of whatever the node does.
-/

namespace Mode2

variable {W : Type} {env : Environment W} {custom : CustomApplets W} {R : W → W → Prop}

/-- The relation holds of whatever the world is asked for; files are reached by queries and
calls only. -/
structure Environment.Drives (env : Environment W) (R : W → W → Prop) : Prop
    extends Composes R where
  listen : ∀ channel timeout w, R w (env.radio.listen channel timeout w).2
  assess : ∀ channel w, R w (env.radio.assess channel w).2
  transmit : ∀ channel frame w, R w (env.radio.transmit channel frame w).2
  idle : ∀ w, R w (env.radio.idle w).2
  query : ∀ user template target w, R w (env.query user template target w).2
  answer : ∀ user call queue w, R w (env.answer user call queue w).2
  random : ∀ w, R w (env.random w).2
  encrypt : ∀ cipher ∈ env.cipher, ∀ key bytes w, R w (cipher.encrypt key bytes w).2
  decrypt : ∀ cipher ∈ env.cipher, ∀ key bytes w, R w (cipher.decrypt key bytes w).2
  router : ∀ judge ∈ env.router, ∀ route bytes w, R w (judge route bytes w).2
  datagrams : ∀ deliver ∈ env.datagrams, ∀ id source destination bytes w,
    R w (deliver id source destination bytes w).2

/-- The relation holds of what the host's applets do. -/
def CustomApplets.Drive (custom : CustomApplets W) (R : W → W → Prop) : Prop :=
  ∀ id s (n : Node W), R n.world (custom id s n).2.world

namespace Environment.Drives

/-! ## Frames -/

theorem receivesFrame (h : env.Drives R) : ReceivesFrame env fun x y => R x.world y.world where
  refl x := h.refl x.world
  trans hxy hyz := h.trans hxy hyz
  network x _ := h.refl x.world
  transport x _ _ := h.refl x.world
  session x _ _ _ := h.refl x.world
  answer user call queue x := h.answer user call queue x.world
  complete x := NetworkLayer.encrypts_complete h.refl h.encrypt x.network x.world
  datagrams deliver hdeliver id source destination bytes x :=
    h.datagrams deliver hdeliver id source destination bytes x.world
  access x _ _ := h.refl x.world
  query user template target x := h.query user template target x.world
  response x _ _ := h.refl x.world
  decrypt cipher hcipher key bytes x := h.decrypt cipher hcipher key bytes x.world
  router judge hjudge route bytes x := h.router judge hjudge route bytes x.world

/-! ## Applets -/

theorem runBeacon (h : env.Drives R) (s : Session) (n : Node W) :
    R n.world (Applet.runBeacon env s n).2.world := by
  obtain ⟨sessions, -, heq⟩ := Applet.scheduleNextBeacon_eq n
  have hstaged := h.receivesFrame.moves_stageBeacon n.config
    (({ n with sessions } : Node W).exchange (Applet.beaconSession n.config s))
  unfold Applet.runBeacon
  rw [heq]
  dsimp only
  split
  next x hrun => exact hstaged.of_ok hrun
  next cause x hrun => exact hstaged.of_error hrun

theorem runApplet (h : env.Drives R) (hcustom : custom.Drive R) (t : Session) (n : Node W) :
    R n.world (n.runApplet env custom t).2.world := by
  have hrun : ∀ (applet : Applet) (s : Session) (n : Node W),
      R n.world (applet.run env custom s n).2.world := by
    intro applet s n
    cases applet with
    | idle =>
        simp only [Applet.run, Applet.runIdle]
        split <;> exact h.refl n.world
    | scan => exact h.refl n.world
    | beacon => exact h.runBeacon s n
    | custom id => exact hcustom id s n
  exact hrun _ _ { n with access := { n.access with
    txChannels := .empty, params := n.config.contention.params } }

/-! ## Contention -/

theorem endSession (h : env.Drives R) (n : Node W) : R n.world (n.endSession env).world :=
  h.idle n.world

theorem listens (h : env.Drives R) (channel : UInt8) (timeout : Ticks) (n : Node W) :
    R n.world (n.listen env channel timeout).world := by
  have hlisten := h.listen channel timeout n.world
  unfold Node.listen
  split
  next heq =>
    rw [heq] at hlisten
    exact hlisten
  next world heq =>
    rw [heq] at hlisten
    exact h.trans hlisten (h.idle world)

theorem retry (h : env.Drives R) (n : Node W) : R n.world (n.retry env).world := by
  unfold Node.retry
  split
  · exact h.refl n.world
  · exact h.endSession n

theorem send (h : env.Drives R) (channel : UInt8) (n : Node W) :
    R n.world (n.send env channel).world := by
  have htransmit := h.transmit channel n.network.outbound.written n.world
  unfold Node.send
  split
  next heq =>
    rw [heq] at htransmit
    exact htransmit
  next world heq =>
    rw [heq] at htransmit
    exact h.trans htransmit (h.retry { n with world })

theorem yieldChannel (h : env.Drives R) (n : Node W) :
    R n.world (n.yieldChannel env).world := by
  have hnext := ChannelAccess.draws_afterBusy h.toComposes h.random n.access n.world
  unfold Node.yieldChannel
  dsimp only
  split
  · exact hnext
  · exact h.trans hnext (h.idle _)

theorem attempt (h : env.Drives R) (n : Node W) : R n.world (n.attempt env).world := by
  unfold Node.attempt
  split
  · exact h.endSession n
  next channel _ =>
    split
    · exact h.send channel n
    · have hassess := h.assess channel n.world
      split
      next heq =>
        rw [heq] at hassess
        exact hassess
      next world heq =>
        rw [heq] at hassess
        exact h.trans hassess (h.yieldChannel { n with world })

theorem perform (h : env.Drives R) (move : Move) (n : Node W) :
    R n.world (n.perform env move).world := by
  cases move with
  | pause length => exact h.refl n.world
  | attempt => exact h.attempt n
  | send channel => exact h.send channel n
  | yieldChannel => exact h.yieldChannel n
  | retry => exact h.retry n

theorem settle (h : env.Drives R) (n : Node W) : R n.world (n.settle env).world :=
  Node.settle_induct (P := fun m => R n.world m.world)
    (fun m _ hm => h.trans hm (h.attempt m)) (h.refl n.world)

/-- Whatever is left to do, the relation holds of it. -/
theorem complete (h : env.Drives R) (reaction : Reaction W) :
    R reaction.node.world (reaction.complete env).world := by
  cases reaction with
  | rests n => exact h.refl n.world
  | ends n => exact h.endSession n
  | listens channel timeout n => exact h.listens channel timeout n
  | contends move n => exact h.trans (h.perform move n) (h.settle _)

/-! ## Reactions -/

theorem beginSending (h : env.Drives R) (s : Session) (n : Node W) :
    R n.world (Reaction.beginSending env s n).node.world := by
  unfold Reaction.beginSending
  split
  · exact h.refl n.world
  · exact ChannelAccess.draws_beginSequence h.toComposes h.random _ _ n.world

theorem engage (h : env.Drives R) (s : Session) (n : Node W) :
    R n.world (Reaction.engage env s n).node.world := by
  unfold Reaction.engage
  split
  · exact h.beginSending s n
  all_goals exact h.refl n.world

theorem activate (h : env.Drives R) (hcustom : custom.Drive R) (n : Node W) :
    R n.world (Reaction.activate env custom n).node.world := by
  unfold Reaction.activate
  split
  · exact h.refl n.world
  next t _ =>
    have happlet := h.runApplet hcustom t n
    split
    · dsimp only
      split
      · exact happlet
      · exact h.trans happlet (h.engage _ ((n.runApplet env custom t).2.storeTop _))
    · exact h.refl n.world

theorem proceed (h : env.Drives R) (s : Session) (n : Node W) :
    R n.world (Reaction.proceed env s n).node.world := by
  unfold Reaction.proceed
  split
  · have hsending := h.beginSending s ((n.storeTop s).responding s)
    rw [Node.world_responding] at hsending
    exact hsending
  · dsimp only
    split <;> exact h.refl n.world
  · split <;> exact h.refl n.world
  · exact h.refl n.world

theorem process (h : env.Drives R) (frame : List UInt8) (s : Session) (n : Node W) :
    R n.world (Reaction.process env frame s n).node.world := by
  unfold Reaction.process
  split
  · exact h.refl n.world
  next inbound _ =>
    have hreceived := h.receivesFrame.receive n.config
      (({ n with network := { n.network with inbound } } : Node W).exchange s)
    have hproceeds : ∀ (x : Exchange W) (m : Node W),
        R x.world (Reaction.proceed env x.session (m.resume x.toLayers)).node.world :=
      fun x m => h.proceed x.session (m.resume x.toLayers)
    dsimp only
    split
    · exact hreceived
    · exact h.trans hreceived (hproceeds _ _)

theorem relisten (h : env.Drives R) (s : Session) (n : Node W) :
    R n.world (Reaction.relisten s n).node.world := by
  unfold Reaction.relisten
  split <;> exact h.refl n.world

theorem onTimeout (h : env.Drives R) (n : Node W) :
    R n.world (Reaction.onTimeout n).node.world := by
  unfold Reaction.onTimeout
  split
  · split
    · exact h.refl n.world
    · exact h.relisten _ n
  · exact h.refl n.world

theorem onFrame (h : env.Drives R) (frame : List UInt8) (intact : Bool) (n : Node W) :
    R n.world (Reaction.onFrame env frame intact n).node.world := by
  unfold Reaction.onFrame
  split
  · split
    · exact h.refl n.world
    · split
      · exact h.process frame _ n
      · exact h.relisten _ n
  · exact h.refl n.world

theorem onEvent (h : env.Drives R) (n : Node W) (event : RadioEvent) :
    R n.world (Reaction.onEvent env n event).node.world := by
  cases event with
  | received frame intact => exact h.onFrame frame intact n
  | timeout => exact h.onTimeout n
  | assessed clear =>
      simp only [Reaction.onEvent, Reaction.onAssessed]
      split
      · split
        · split <;> exact h.refl n.world
        · exact h.refl n.world
      · exact h.refl n.world
  | sent success =>
      simp only [Reaction.onEvent, Reaction.onSent, Reaction.afterRequest]
      split
      · split
        · split
          · exact h.refl n.world
          · split
            · split
              · exact h.refl n.world
              · split <;> exact h.refl n.world
            all_goals exact h.refl n.world
        · exact h.refl n.world
      · exact h.refl n.world

theorem run (h : env.Drives R) (hcustom : custom.Drive R) (elapsed : Ticks) (n : Node W) :
    R n.world (Reaction.run env custom elapsed n).node.world := by
  unfold Reaction.run
  dsimp only
  split
  · exact h.activate hcustom { n with sessions := n.sessions.elapse elapsed }
  · split <;> exact h.refl n.world
  · split
    · exact h.trans (h.idle n.world) (h.onTimeout { n with
        sessions := n.sessions.elapse elapsed
        countdown := n.countdown - elapsed
        world := (env.radio.idle n.world).2 })
    · exact h.refl n.world
  all_goals exact h.refl n.world

/-- The relation holds of whatever the node does with an input. -/
theorem step (h : env.Drives R) (hcustom : custom.Drive R) (n : Node W) (input : Input) :
    R n.world (n.step env custom input).world := by
  have hreacts : R n.world (Reaction.step env custom n input).node.world := by
    have hscheduled : input.Requests → R n.world (n.step env custom input).world := by
      intro hrequests
      obtain ⟨sessions, -, heq⟩ : ∃ sessions, n.sessions.Schedules sessions ∧
          n.step env custom input = { n with sessions } := Node.schedules_step hrequests
      rw [heq]
      exact h.refl n.world
    cases input with
    | run elapsed => exact h.run hcustom elapsed n
    | event event => exact h.onEvent n event
    | flush => exact h.idle n.world
    | schedule | scheduleScan | scheduleBeacon => exact hscheduled trivial
  rw [← Reaction.complete_step]
  exact h.trans hreacts (h.complete _)

end Environment.Drives

end Mode2
