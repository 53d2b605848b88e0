import Mode2.Node.Radio

/-!
# The mailbox of the radio

The radio reports from an interrupt. Its reports wait in a mailbox until the node
runs; a report that finds the mailbox full is lost.
-/

namespace Mode2

/-- What the radio reports. -/
inductive RadioEvent
  | received (frame : List UInt8) (intact : Bool)
  | timeout
  | assessed (clear : Bool)
  | sent (success : Bool)
deriving DecidableEq, Repr

/-- The reports that a mailbox holds. -/
def mailboxCapacity : Nat := 4

/-- Reports that wait for the node, oldest first. -/
structure Mailbox where
  events : List RadioEvent
  length_le : events.length ≤ mailboxCapacity
deriving DecidableEq, Repr

namespace Mailbox

/-- Nothing was reported. -/
def empty : Mailbox :=
  ⟨[], Nat.zero_le _⟩

instance : Inhabited Mailbox := ⟨empty⟩

/-- A report arrives; `none` when there is no room for it. -/
def post? (m : Mailbox) (event : RadioEvent) : Option Mailbox :=
  if h : (m.events ++ [event]).length ≤ mailboxCapacity then some ⟨m.events ++ [event], h⟩
  else none

end Mailbox

namespace Node

variable {W : Type}

/-- React to a report. -/
def onEvent (env : Environment W) (n : Node W) : RadioEvent → Node W
  | .received frame intact => n.onFrame env frame intact
  | .timeout => n.onTimeout env
  | .assessed clear => n.onAssessed env clear
  | .sent success => n.onSent env success

/-- React to all reports that wait, oldest first. -/
def drain (env : Environment W) (mailbox : Mailbox) (n : Node W) : Node W :=
  mailbox.events.foldl (onEvent env) n

end Node

end Mode2
