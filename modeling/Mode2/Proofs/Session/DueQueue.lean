import Mathlib.Data.List.Forall2
import Mode2.Proofs.Session.Order

/-!
# Scheduled dialogs as a queue by due time

A scheduled dialog only knows how long it still has to wait, and a wait that has run
out stays at zero however long ago that was. The queue here keeps what the counters
forget: for every dialog the moment at which it is due, as a number of ticks since
the beginning, and its place in the order of arrival. Through every use of the stack
the dialogs stand in the order of these moments, those of one moment in the order of
their arrival, also when all of them are long overdue.
-/

namespace Mode2

/-- One use of the stack. -/
inductive StackOperation
  | schedule (applet : Option Applet) (wait : Ticks) (subnet channel : UInt8) (netState : NetState)
  | scheduleCopy (source : Session) (wait : Ticks) (netState : NetState)
  | pop
  | elapse (elapsed : Ticks)
  | flush

/-- The use brings in a dialog. -/
def StackOperation.inserts : StackOperation → Bool
  | .schedule .. | .scheduleCopy .. => true
  | .pop | .elapse _ | .flush => false

namespace SessionStack

/-- What an insertion leaves and answers. One that is refused leaves the stack as it was. -/
def settled (stack : SessionStack) :
    Except SessionError (Session × SessionStack) → SessionStack × Except SessionError Unit
  | .ok (_, after) => (after, .ok ())
  | .error cause => (stack, .error cause)

/-- The stack after one use, and the answer. -/
def perform (stack : SessionStack) : StackOperation → SessionStack × Except SessionError Unit
  | .schedule applet wait subnet channel netState =>
      stack.settled (stack.schedule applet wait subnet channel netState)
  | .scheduleCopy source wait netState => stack.settled (stack.scheduleCopy source wait netState)
  | .pop => (stack.pop, .ok ())
  | .elapse elapsed => (stack.elapse elapsed, .ok ())
  | .flush => (stack.flush, .ok ())

/-- The stack after uses one after the other. -/
def performAll (stack : SessionStack) (operations : List StackOperation) : SessionStack :=
  operations.foldl (fun stack operation => (stack.perform operation).1) stack

theorem insert_of_free {stack : SessionStack} (h : stack.sessions.length < sessionCapacity)
    (s : Session) :
    stack.insert s = .ok ⟨place s stack.sessions, stack.nextDialog, by
      rw [length_place]
      exact h⟩ :=
  dif_pos h

theorem insert_of_full {stack : SessionStack} (h : ¬ stack.sessions.length < sessionCapacity)
    (s : Session) : stack.insert s = .error .full :=
  dif_neg h

/-- A stack without a free slot refuses every dialog and stays as it is. -/
theorem perform_full {stack : SessionStack} {operation : StackOperation}
    (hinserts : operation.inserts) (hfull : stack.sessions.length = sessionCapacity) :
    stack.perform operation = (stack, .error .full) := by
  have hrefused : ∀ s, stack.insert s = .error .full := insert_of_full (by omega)
  cases operation with
  | schedule => rw [perform, schedule, hrefused]; rfl
  | scheduleCopy => rw [perform, scheduleCopy, hrefused]; rfl
  | pop | elapse | flush => cases hinserts

end SessionStack

/-- A dialog that has arrived and not left: as it was scheduled, the moment at which it
is due, and the number of dialogs that arrived before it. -/
structure Pending where
  session : Session
  due : Nat
  serial : Nat
deriving DecidableEq

namespace Pending

/-- The first of two is due earlier, or at the same moment and arrived earlier. -/
def Before (p q : Pending) : Prop :=
  p.due < q.due ∨ p.due = q.due ∧ p.serial < q.serial

instance (p q : Pending) : Decidable (p.Before q) :=
  inferInstanceAs (Decidable (p.due < q.due ∨ p.due = q.due ∧ p.serial < q.serial))

/-- A scheduled dialog at the moment `now`: its counter has the ticks until it is due,
or zero, and nothing else has changed. -/
def Shows (now : Nat) (p : Pending) (s : Session) : Prop :=
  s.counter.count = p.due - now ∧ s = { p.session with counter := s.counter }

theorem Before.asymm {p q : Pending} (h : p.Before q) : ¬ q.Before p := by
  unfold Before at *
  omega

theorem Before.irrefl (p : Pending) : ¬ p.Before p := by
  unfold Before
  omega

/-- Nothing but the distance to the due time changes as time passes. -/
theorem Shows.age {now : Nat} {p : Pending} {s : Session} (h : p.Shows now s) (elapsed : Ticks) :
    p.Shows (now + elapsed.count) (s.age elapsed) := by
  obtain ⟨hcounter, hsession⟩ := h
  refine ⟨?_, ?_⟩
  · rw [Session.age, Span.count_sub, hcounter, Nat.sub_sub]
  · rw [hsession]
    rfl

end Pending

/-- The dialogs that wait, in the order of their arrival. -/
structure DueQueue where
  /-- Ticks since the beginning. -/
  now : Nat
  waiting : List Pending
  nextDialog : UInt8
  /-- Dialogs that have arrived since the beginning. -/
  arrived : Nat

namespace DueQueue

/-- Nothing has arrived. -/
def empty : DueQueue :=
  ⟨0, [], 0, 0⟩

/-- A dialog arrives while a slot is free, to be due when its counter has run out. -/
def accept (queue : DueQueue) (s : Session) (nextDialog : UInt8) :
    DueQueue × Except SessionError Unit :=
  if queue.waiting.length < sessionCapacity then
    ({ queue with
       waiting := queue.waiting ++ [⟨s, queue.now + s.counter.count, queue.arrived⟩]
       arrived := queue.arrived + 1
       nextDialog }, .ok ())
  else
    (queue, .error .full)

/-- The queue after one use, and the answer. -/
def perform (queue : DueQueue) : StackOperation → DueQueue × Except SessionError Unit
  | .schedule applet wait subnet channel netState =>
      queue.accept
        { counter := wait, channel, netState, flags := .none, dialogId := queue.nextDialog, subnet,
          extra := 0, applet }
        (queue.nextDialog + 1)
  | .scheduleCopy source wait netState =>
      queue.accept { source with counter := wait, netState, applet := none } queue.nextDialog
  -- Whoever has someone before him waits on.
  | .pop =>
      ({ queue with
         waiting := queue.waiting.filter fun p => queue.waiting.any fun q => q.Before p }, .ok ())
  | .elapse elapsed => ({ queue with now := queue.now + elapsed.count }, .ok ())
  | .flush => ({ queue with waiting := [] }, .ok ())

/-- The queue after uses one after the other. -/
def performAll (queue : DueQueue) (operations : List StackOperation) : DueQueue :=
  operations.foldl (fun queue operation => (queue.perform operation).1) queue

/-- The stack lists exactly the waiting dialogs, in the order of their due times and those
of one due time in the order of their arrival, each with the time that it still waits. -/
def Lists (queue : DueQueue) (sessions : List Session) : Prop :=
  ∃ order : List Pending, order.Perm queue.waiting ∧ order.Pairwise Pending.Before ∧
    List.Forall₂ (Pending.Shows queue.now) order sessions

/-! ## Placing by the counters -/

/-- A dialog placed by its counter stands at its place by due time, below the dialogs of
the same due time, which arrived earlier. -/
theorem exists_order_place {now : Nat} {p : Pending} {s : Session} {order : List Pending}
    {sessions : List Session} (hshows : p.Shows now s) (hnow : now ≤ p.due)
    (hordered : order.Pairwise Pending.Before)
    (hsessions : List.Forall₂ (Pending.Shows now) order sessions)
    (hlast : ∀ q ∈ order, q.serial < p.serial) :
    ∃ order', order'.Perm (p :: order) ∧ order'.Pairwise Pending.Before ∧
      List.Forall₂ (Pending.Shows now) order' (SessionStack.place s sessions) := by
  induction hsessions with
  | nil => exact ⟨[p], .refl _, List.pairwise_singleton _ p, .cons hshows .nil⟩
  | @cons q t rest sessions hq hrest ih =>
      obtain ⟨hfirst, hordered'⟩ := List.pairwise_cons.mp hordered
      have hcounter : s.counter < t.counter ↔ p.due < q.due := by
        rw [Span.lt_def, hshows.1, hq.1]
        -- The new dialog is not overdue, so a longer wait is a later due time.
        omega
      unfold SessionStack.place
      split
      next hlt =>
        have hdue : p.due < q.due := hcounter.mp hlt
        refine ⟨p :: q :: rest, .refl _, List.pairwise_cons.mpr ⟨?_, hordered⟩,
          .cons hshows (.cons hq hrest)⟩
        intro u hu
        rcases List.mem_cons.mp hu with rfl | hu
        · exact .inl hdue
        · have hle := hfirst u hu
          unfold Pending.Before at *
          omega
      next hge =>
        have hdue : q.due ≤ p.due := Nat.le_of_not_lt fun h => hge (hcounter.mpr h)
        obtain ⟨order', hperm, hordered'', hshown⟩ :=
          ih hordered' fun u hu => hlast u (List.mem_cons_of_mem q hu)
        refine ⟨q :: order', (hperm.cons q).trans (.swap p q rest),
          List.pairwise_cons.mpr ⟨?_, hordered''⟩, .cons hq hshown⟩
        intro u hu
        rcases List.mem_cons.mp (hperm.mem_iff.mp hu) with rfl | hu
        · have hserial := hlast q List.mem_cons_self
          unfold Pending.Before
          omega
        · exact hfirst u hu

/-- The dialogs that have someone before them are all but the first. -/
theorem filter_any_before {first : Pending} {rest : List Pending}
    (hordered : (first :: rest).Pairwise Pending.Before) :
    ((first :: rest).filter fun p => (first :: rest).any fun q => q.Before p) = rest := by
  obtain ⟨hfirst, -⟩ := List.pairwise_cons.mp hordered
  have hleaves : ((first :: rest).any fun q => q.Before first) = false := by
    simp only [List.any_eq_false, decide_eq_true_eq, List.mem_cons]
    rintro q (rfl | hq)
    · exact Pending.Before.irrefl q
    · exact (hfirst q hq).asymm
  have hstay : ∀ p ∈ rest, ((first :: rest).any fun q => q.Before p) = true := by
    intro p hp
    exact List.any_eq_true.mpr ⟨first, List.mem_cons_self, decide_eq_true (hfirst p hp)⟩
  rw [List.filter_cons_of_neg (by simp [hleaves]), List.filter_eq_self.mpr hstay]

/-! ## The stack and the queue -/

/-- The stack holds what the queue holds. -/
structure Represents (queue : DueQueue) (stack : SessionStack) : Prop where
  lists : queue.Lists stack.sessions
  nextDialog : stack.nextDialog = queue.nextDialog
  /-- Who waits has arrived. -/
  serial_lt : ∀ p ∈ queue.waiting, p.serial < queue.arrived

variable {queue : DueQueue} {stack : SessionStack}

theorem Represents.length_eq (h : queue.Represents stack) :
    stack.sessions.length = queue.waiting.length := by
  obtain ⟨order, hperm, -, hshown⟩ := h.lists
  rw [← hshown.length_eq, hperm.length_eq]

/-- A dialog arrives in both while a slot is free. -/
theorem Represents.place (h : queue.Represents stack) (s : Session) (nextDialog : UInt8)
    (hfree : stack.sessions.length < sessionCapacity) (stack' : SessionStack)
    (hsessions : stack'.sessions = SessionStack.place s stack.sessions)
    (hnext : stack'.nextDialog = nextDialog) :
    (queue.accept s nextDialog).1.Represents stack' ∧ (queue.accept s nextDialog).2 = .ok () := by
  unfold DueQueue.accept
  rw [if_pos (h.length_eq ▸ hfree)]
  refine ⟨⟨?_, hnext, ?_⟩, rfl⟩
  · obtain ⟨order, hperm, hordered, hshown⟩ := h.lists
    have hnew : (⟨s, queue.now + s.counter.count, queue.arrived⟩ : Pending).Shows queue.now s :=
      ⟨(Nat.add_sub_cancel_left _ _).symm, rfl⟩
    obtain ⟨order', hperm', hordered', hshown'⟩ :=
      exists_order_place hnew (Nat.le_add_right _ _) hordered hshown
        fun q hq => h.serial_lt q (hperm.mem_iff.mp hq)
    refine ⟨order', hperm'.trans ?_, hordered', hsessions ▸ hshown'⟩
    exact (hperm.cons _).trans (List.perm_append_singleton _ _).symm
  · intro p hp
    rcases List.mem_append.mp hp with hp | hp
    · exact Nat.lt_succ_of_lt (h.serial_lt p hp)
    · rw [List.mem_singleton.mp hp]
      exact Nat.lt_succ_self _

/-- Without a free slot the queue refuses as the stack does. -/
theorem Represents.accept_full (h : queue.Represents stack) (s : Session) (nextDialog : UInt8)
    (hfull : ¬ stack.sessions.length < sessionCapacity) :
    queue.accept s nextDialog = (queue, .error .full) :=
  if_neg (h.length_eq ▸ hfull)

theorem Represents.pop (h : queue.Represents stack) :
    (queue.perform .pop).1.Represents stack.pop := by
  obtain ⟨order, hperm, hordered, hshown⟩ := h.lists
  have hwaiting : (order.filter fun p => order.any fun q => q.Before p).Perm
      (queue.perform .pop).1.waiting := by
    have hany : (fun p : Pending => order.any fun q => q.Before p) =
        fun p => queue.waiting.any fun q => q.Before p := funext fun p => hperm.any_eq
    rw [hany]
    exact hperm.filter _
  refine ⟨⟨order.tail, ?_, hordered.tail, ?_⟩, h.nextDialog, ?_⟩
  · cases order with
    | nil => exact hwaiting
    | cons first rest => exact filter_any_before hordered ▸ hwaiting
  · rw [SessionStack.sessions_pop]
    generalize stack.sessions = sessions at hshown
    cases hshown with
    | nil => exact .nil
    | cons _ hrest => exact hrest
  · intro p hp
    exact h.serial_lt p (List.mem_of_mem_filter hp)

theorem Represents.elapse (h : queue.Represents stack) (elapsed : Ticks) :
    (queue.perform (.elapse elapsed)).1.Represents (stack.elapse elapsed) := by
  obtain ⟨order, hperm, hordered, hshown⟩ := h.lists
  refine ⟨⟨order, hperm, hordered, ?_⟩, h.nextDialog, h.serial_lt⟩
  rw [SessionStack.sessions_elapse, List.forall₂_map_right_iff]
  exact hshown.imp fun p s hs => hs.age elapsed

theorem Represents.flush (h : queue.Represents stack) :
    (queue.perform .flush).1.Represents stack.flush :=
  ⟨⟨[], .refl _, .nil, .nil⟩, h.nextDialog, fun _ hp => absurd hp List.not_mem_nil⟩

/-- One use keeps stack and queue together, and both give the same answer. -/
theorem Represents.perform (h : queue.Represents stack) (operation : StackOperation) :
    (queue.perform operation).1.Represents (stack.perform operation).1 ∧
      (queue.perform operation).2 = (stack.perform operation).2 := by
  cases operation with
  | schedule applet wait subnet channel netState =>
      rw [DueQueue.perform, ← h.nextDialog, SessionStack.perform]
      by_cases hfree : stack.sessions.length < sessionCapacity
      · rw [SessionStack.schedule, SessionStack.insert_of_free hfree]
        exact h.place _ _ hfree _ rfl rfl
      · rw [SessionStack.schedule, SessionStack.insert_of_full hfree, h.accept_full _ _ hfree]
        exact ⟨h, rfl⟩
  | scheduleCopy source wait netState =>
      rw [DueQueue.perform, SessionStack.perform]
      by_cases hfree : stack.sessions.length < sessionCapacity
      · rw [SessionStack.scheduleCopy, SessionStack.insert_of_free hfree]
        exact h.place _ _ hfree _ rfl h.nextDialog
      · rw [SessionStack.scheduleCopy, SessionStack.insert_of_full hfree, h.accept_full _ _ hfree]
        exact ⟨h, rfl⟩
  | pop => exact ⟨h.pop, rfl⟩
  | elapse elapsed => exact ⟨h.elapse elapsed, rfl⟩
  | flush => exact ⟨h.flush, rfl⟩

/-- Stack and queue stay together through any uses. -/
theorem Represents.performAll (h : queue.Represents stack) (operations : List StackOperation) :
    (queue.performAll operations).Represents (stack.performAll operations) := by
  induction operations generalizing queue stack with
  | nil => exact h
  | cons operation _ ih => exact ih (h.perform operation).1

theorem represents_empty : empty.Represents .empty where
  lists := ⟨[], .refl _, .nil, .nil⟩
  nextDialog := rfl
  serial_lt _ hp := absurd hp List.not_mem_nil

end DueQueue

/-- The stack is a stable queue by due time. After any uses it lists exactly the dialogs that
arrived and neither were popped nor flushed, by due time and within one due time in the order
of arrival, each with the time that is left to it; there are at most four. The next use is
answered as the queue answers it, and a full stack refuses a further dialog and stays as
it is. -/
theorem SessionStack.performAll_lists (operations : List StackOperation) :
    let stack := SessionStack.empty.performAll operations
    let queue := DueQueue.empty.performAll operations
    queue.Lists stack.sessions ∧ stack.sessions.length ≤ 4 ∧
      stack.nextDialog = queue.nextDialog ∧
      ∀ operation : StackOperation,
        (stack.perform operation).2 = (queue.perform operation).2 ∧
          (operation.inserts → stack.sessions.length = 4 →
            stack.perform operation = (stack, .error .full)) := by
  have h := DueQueue.represents_empty.performAll operations
  refine ⟨h.lists, SessionStack.length_le _, h.nextDialog, fun operation => ?_⟩
  exact ⟨(h.perform operation).2.symm, perform_full⟩

/-- Of two overdue dialogs the one that was due first goes first, although both counters are
at zero; a third goes under them, and with the fourth the stack is full. -/
theorem SessionStack.performAll_lists_overdue :
    let requests : NetState := { substate := .requestTx }
    let operations : List StackOperation :=
      [.schedule none 5 0xA0 0 requests, .schedule none 3 0xB0 0 requests, .elapse 9,
        .schedule none 0 0xC0 0 requests, .schedule none 7 0xD0 0 requests]
    let stack := SessionStack.empty.performAll operations
    stack.sessions.map (fun s => (s.subnet, s.counter.count)) =
        [(0xB0, 0), (0xA0, 0), (0xC0, 0), (0xD0, 7)] ∧
      stack.perform (.schedule none 0 0xE0 0 requests) = (stack, .error .full) := by
  intro requests operations stack
  have h := performAll_lists operations
  exact ⟨by decide, (h.2.2.2 (.schedule none 0 0xE0 0 requests)).2 rfl (by decide)⟩

end Mode2
