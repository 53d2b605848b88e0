import Mode2.Session.Flags
import Mode2.Session.NetState
import Mode2.Time.Span

/-!
# Dialogs

A dialog is scheduled with the ticks until it is due. When it comes up, its applet
runs once and decides what the dialog does.
-/

namespace Mode2

/-- What runs once when a dialog is activated. -/
inductive Applet
  /-- Nothing, unless there is nothing to do. -/
  | idle
  /-- Listen for requests. -/
  | scan
  /-- Announce a file. -/
  | beacon
  /-- Behaviour that the host supplies under a number. -/
  | custom (id : Nat)
deriving DecidableEq, Repr

/-- One dialog. -/
structure Session where
  /-- Ticks until the dialog is due. -/
  counter : Ticks
  channel : UInt8
  netState : NetState
  flags : DialogFlags
  dialogId : UInt8
  subnet : UInt8
  /-- A byte for the applet's own use. -/
  extra : UInt8
  applet : Option Applet
deriving DecidableEq, Repr

namespace Session

/-- The dialog with its removal requested. -/
def scrap (s : Session) : Session :=
  { s with netState.scrapped := true }

/-- The dialog with another substate. -/
def withSubstate (s : Session) (substate : Substate) : Session :=
  { s with netState.substate := substate }

/-- The dialog with its peer settled or not. -/
def withConnected (s : Session) (connected : Bool) : Session :=
  { s with netState.connected := connected }

end Session

end Mode2
