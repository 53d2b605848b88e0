import Mode2.Node.Applet
import Mode2.Node.Radio

/-!
# The task of a node

The host lets the node run now and then and says how much time has passed. The node
ages its dialogs, activates the one that is due, ends pauses and watches over
windows, and says when it has to run again.
-/

namespace Mode2.Node

variable {W : Type}

/-- Start what the applet of the active dialog has decided. -/
def engage (env : Environment W) (s : Session) (n : Node W) : Node W :=
  match s.netState.substate with
  | .requestTx => n.beginSending env s
  | .requestRx => n.listen env s.channel n.listenWindow
  | .responseTx | .responseRx => n.endSession env

/-- Activate the top dialog if it is due. Each request picks its own channels and
contends as configured unless its applet decides otherwise. -/
def activate (env : Environment W) (custom : CustomApplets W) (n : Node W) : Node W :=
  match n.sessions.top? with
  | none => n
  | some s =>
      if s.counter.isZero then
        let prepared :=
          { n with access := { n.access with
              txChannels := .empty, params := n.config.contention.params } }
        let fresh := { s with applet := none, netState.fresh := false }
        match (s.applet.getD .idle).run env custom fresh prepared with
        | (s, n) =>
            if s.netState.scrapped then n.endSession env else (n.storeTop s).engage env s
      else n

/-- Let `elapsed` ticks pass. -/
def run (env : Environment W) (custom : CustomApplets W) (elapsed : Ticks) (n : Node W) : Node W :=
  let n := { n with sessions := n.sessions.elapse elapsed }
  match n.phase with
  | .idle => n.activate env custom
  | .pausing => { n with countdown := n.countdown - elapsed }.settle env
  | .listening =>
      let n := { n with countdown := n.countdown - elapsed }
      if n.countdown.isZero then
        { n with world := (env.radio.idle n.world).2 }.onTimeout env
      else n
  | .assessing | .sending => n

end Mode2.Node
