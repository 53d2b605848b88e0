import Mode2.Error
import Mode2.Session.Basic

/-!
# Scheduled dialogs

At most four dialogs are scheduled. The top is the one that is due first; among
dialogs that are due together, the one scheduled first. A request that finds no
free slot is refused and disturbs nothing.
-/

namespace Mode2

/-- The slots for dialogs. -/
def sessionCapacity : Nat := 4

/-- The scheduled dialogs, top first, and the ID of the next new dialog. -/
structure SessionStack where
  sessions : List Session
  nextDialog : UInt8
  length_le : sessions.length ≤ sessionCapacity
deriving DecidableEq, Repr

namespace SessionStack

/-- Nothing is scheduled. -/
def empty : SessionStack :=
  ⟨[], 0, Nat.zero_le _⟩

instance : Inhabited SessionStack := ⟨empty⟩

/-- A dialog placed before the first one that is due later. -/
def place (s : Session) : List Session → List Session
  | [] => [s]
  | t :: rest => if s.counter < t.counter then s :: t :: rest else t :: place s rest

@[simp] theorem length_place (s : Session) (l : List Session) :
    (place s l).length = l.length + 1 := by
  induction l with
  | nil => rfl
  | cons t rest ih =>
      unfold place
      split
      · rfl
      · simp [ih]

/-- Schedule a dialog. -/
def insert (stack : SessionStack) (s : Session) : Except SessionError SessionStack :=
  if h : stack.sessions.length < sessionCapacity then
    .ok ⟨place s stack.sessions, stack.nextDialog, by
      simp only [length_place]
      omega⟩
  else
    .error .full

/-- Schedule a new dialog `wait` ticks from now, under the next dialog ID. -/
def schedule (stack : SessionStack) (applet : Option Applet) (wait : Ticks) (subnet channel : UInt8)
    (netState : NetState) : Except SessionError (Session × SessionStack) := do
  let s : Session :=
    { counter := wait, channel, netState, flags := .none, dialogId := stack.nextDialog, subnet,
      extra := 0, applet }
  let stack ← stack.insert s
  return (s, { stack with nextDialog := stack.nextDialog + 1 })

/-- Schedule a continuation of a dialog. It has no applet. -/
def scheduleCopy (stack : SessionStack) (source : Session) (wait : Ticks) (netState : NetState) :
    Except SessionError (Session × SessionStack) := do
  let s := { source with counter := wait, netState, applet := none }
  return (s, ← stack.insert s)

/-- The dialog that is due first. -/
def top? (stack : SessionStack) : Option Session :=
  stack.sessions.head?

/-- Replace the top, which keeps its place. -/
def setTop (stack : SessionStack) (s : Session) : SessionStack :=
  { stack with
    sessions := stack.sessions.set 0 s
    length_le := by simpa using stack.length_le }

/-- Remove the top. -/
def pop (stack : SessionStack) : SessionStack :=
  { stack with
    sessions := stack.sessions.tail
    length_le := by
      have := stack.length_le
      simp only [List.length_tail]
      omega }

/-- The dialog after the top. -/
def follower? (stack : SessionStack) : Option Session :=
  stack.sessions[1]?

/-- Ticks until the dialog after the top is due. -/
def followerWait (stack : SessionStack) : Ticks :=
  match stack.follower? with
  | some s => s.counter
  | none => .never

/-- Let time pass for every dialog. -/
def elapse (stack : SessionStack) (elapsed : Ticks) : SessionStack :=
  { stack with
    sessions := stack.sessions.map fun s => { s with counter := s.counter - elapsed }
    length_le := by simpa using stack.length_le }

/-- Drop every dialog; the dialog IDs go on. -/
def flush (stack : SessionStack) : SessionStack :=
  { stack with sessions := [], length_le := Nat.zero_le _ }

end SessionStack

end Mode2
