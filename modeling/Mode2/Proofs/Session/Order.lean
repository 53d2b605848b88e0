import Mode2.Session.Stack

/-!
# The order of scheduled dialogs

Scheduled dialogs stand in the order in which they are due. Placing a dialog and
letting time pass keep that order, and a dialog placed under one that is due leaves
it on top. Work on the top dialog may change or remove it and may schedule others;
of the remaining dialogs it changes nothing.
-/

namespace Mode2

/-- The dialog after some time has passed. -/
def Session.age (elapsed : Ticks) (s : Session) : Session :=
  { s with counter := s.counter - elapsed }

@[simp] theorem Session.age_zero (s : Session) : s.age 0 = s := by
  have hcounter : s.counter - 0 = s.counter := Span.ext (by simp)
  rw [age, hcounter]

/-- A dialog that is due stays as it is. -/
theorem Session.age_of_due {s : Session} (h : s.counter = 0) (elapsed : Ticks) :
    s.age elapsed = s := by
  have hcounter : s.counter - elapsed = s.counter := Span.ext (by simp [h])
  rw [age, hcounter]

namespace Schedule

/-! ## Order -/

/-- Dialogs stand in the order in which they are due. -/
def Ordered (l : List Session) : Prop :=
  l.Pairwise fun s t => s.counter ≤ t.counter

theorem mem_place {s u : Session} {l : List Session} :
    u ∈ SessionStack.place s l ↔ u = s ∨ u ∈ l := by
  induction l with
  | nil => simp [SessionStack.place]
  | cons t rest ih =>
      unfold SessionStack.place
      split
      · simp
      · rw [List.mem_cons, ih, List.mem_cons]
        exact or_left_comm

theorem place_ne_nil (s : Session) (l : List Session) : SessionStack.place s l ≠ [] :=
  List.ne_nil_of_mem (mem_place.mpr (.inl rfl))

theorem Ordered.place {l : List Session} (h : Ordered l) (s : Session) :
    Ordered (SessionStack.place s l) := by
  induction l with
  | nil => exact List.pairwise_singleton _ s
  | cons t rest ih =>
      obtain ⟨hhead, hrest⟩ := List.pairwise_cons.mp h
      unfold SessionStack.place
      split
      next hlt =>
        refine List.pairwise_cons.mpr ⟨?_, h⟩
        intro u hu
        rcases List.mem_cons.mp hu with rfl | hu
        · exact Nat.le_of_lt hlt
        · exact Nat.le_trans (Nat.le_of_lt hlt) (hhead u hu)
      next hge =>
        refine List.pairwise_cons.mpr ⟨?_, ih hrest⟩
        intro u hu
        rcases mem_place.mp hu with rfl | hu
        · exact Nat.le_of_not_lt hge
        · exact hhead u hu

theorem Ordered.age {l : List Session} (h : Ordered l) (elapsed : Ticks) :
    Ordered (l.map (Session.age elapsed)) := by
  refine List.pairwise_map.mpr (List.Pairwise.imp ?_ h)
  intro s t hle
  exact Nat.sub_le_sub_right hle _

theorem Ordered.tail {l : List Session} (h : Ordered l) : Ordered l.tail :=
  List.Pairwise.tail h

/-- A dialog that is due now goes before all others. -/
theorem Ordered.cons_due {l : List Session} (h : Ordered l) {s : Session} (hs : s.counter = 0) :
    Ordered (s :: l) := by
  refine List.pairwise_cons.mpr ⟨?_, h⟩
  intro t _
  rw [hs]
  exact Nat.zero_le _

theorem place_under_due {t : Session} (ht : t.counter = 0) (s : Session) (rest : List Session) :
    SessionStack.place s (t :: rest) = t :: SessionStack.place s rest := by
  have hnot : ¬ s.counter < t.counter := by
    rw [ht]
    exact Nat.not_lt_zero _
  rw [SessionStack.place, if_neg hnot]

/-! ## Growth -/

/-- The second list is the first with further dialogs placed into it. -/
inductive Grows (l : List Session) : List Session → Prop
  | refl : Grows l l
  | place {l' : List Session} (s : Session) : Grows l l' → Grows l (SessionStack.place s l')

theorem Grows.ordered {l l' : List Session} (h : Grows l l') (hl : Ordered l) : Ordered l' := by
  induction h with
  | refl => exact hl
  | place s _ ih => exact ih.place s

/-- A dialog that is due stays on top of whatever is placed. -/
theorem Grows.cons_due {t : Session} (ht : t.counter = 0) {rest l : List Session}
    (h : Grows (t :: rest) l) : ∃ rest', Grows rest rest' ∧ l = t :: rest' := by
  -- Nothing is due before `t`, so each dialog finds its place among the others.
  induction h with
  | refl => exact ⟨rest, .refl, rfl⟩
  | place s _ ih =>
      obtain ⟨rest', hgrows, rfl⟩ := ih
      exact ⟨_, hgrows.place s, place_under_due ht s rest'⟩

/-- Placing dialogs leaves some scheduled. -/
theorem Grows.ne_nil {l l' : List Session} (h : Grows l l') (hl : l ≠ []) : l' ≠ [] := by
  cases h with
  | refl => exact hl
  | place s _ => exact place_ne_nil s _

theorem Grows.sublist {l l' : List Session} (h : Grows l l') : l.Sublist l' := by
  induction h with
  | refl => exact List.Sublist.refl l
  | @place l' s _ ih => exact ih.trans (sublist_place s l')
where
  sublist_place (s : Session) (l : List Session) : l.Sublist (SessionStack.place s l) := by
    induction l with
    | nil => exact List.nil_sublist _
    | cons t rest ih =>
        unfold SessionStack.place
        split
        · exact List.sublist_cons_self s _
        · exact ih.cons_cons t

/-! ## Work on the top dialog -/

/-- Work on the top dialog: it is changed or gone, and dialogs may have been placed
among the others. -/
def Worked (before after : List Session) : Prop :=
  ∃ rest, Grows before.tail rest ∧ (after = rest ∨ ∃ t, after = t :: rest)

/-- The dialogs under the top are still there, unchanged and in their order. -/
theorem Worked.sublist {before after : List Session} (h : Worked before after) :
    before.tail.Sublist after := by
  obtain ⟨rest, hgrows, rfl | ⟨t, rfl⟩⟩ := h
  · exact hgrows.sublist
  · exact hgrows.sublist.trans (List.sublist_cons_self t rest)

end Schedule

namespace SessionStack

@[simp] theorem sessions_pop (stack : SessionStack) :
    stack.pop.sessions = stack.sessions.tail := rfl

@[simp] theorem sessions_flush (stack : SessionStack) : stack.flush.sessions = [] := rfl

@[simp] theorem sessions_elapse (stack : SessionStack) (elapsed : Ticks) :
    (stack.elapse elapsed).sessions = stack.sessions.map (Session.age elapsed) := rfl

theorem elapse_zero (stack : SessionStack) : stack.elapse 0 = stack := by
  have hsame : stack.sessions.map (Session.age 0) = stack.sessions := by
    rw [show Session.age 0 = id from funext Session.age_zero, List.map_id]
  unfold elapse
  congr

theorem sessions_setTop {stack : SessionStack} {t : Session} {rest : List Session}
    (h : stack.sessions = t :: rest) (s : Session) : (stack.setTop s).sessions = s :: rest := by
  simp [setTop, h]

theorem setTop_ne_nil {stack : SessionStack} (h : stack.sessions ≠ []) (s : Session) :
    (stack.setTop s).sessions ≠ [] := by
  obtain ⟨t, rest, hsessions⟩ := List.exists_cons_of_ne_nil h
  rw [sessions_setTop hsessions]
  exact List.cons_ne_nil s rest

theorem top?_eq {stack : SessionStack} {t : Session} {rest : List Session}
    (h : stack.sessions = t :: rest) : stack.top? = some t := by
  simp [top?, h]

theorem exists_of_top? {stack : SessionStack} {t : Session} (h : stack.top? = some t) :
    ∃ rest, stack.sessions = t :: rest := by
  cases hsessions : stack.sessions with
  | nil => simp [top?, hsessions] at h
  | cons s rest =>
      simp only [top?, hsessions, List.head?_cons, Option.some.injEq] at h
      exact ⟨rest, by rw [h]⟩

theorem sessions_insert {stack stack' : SessionStack} {s : Session}
    (h : stack.insert s = .ok stack') : stack'.sessions = place s stack.sessions := by
  unfold insert at h
  split at h
  · cases h
    rfl
  · cases h

theorem sessions_schedule {stack stack' : SessionStack} {applet : Option Applet} {wait : Ticks}
    {subnet channel : UInt8} {netState : NetState} {s : Session}
    (h : stack.schedule applet wait subnet channel netState = .ok (s, stack')) :
    stack'.sessions = place s stack.sessions := by
  unfold schedule at h
  dsimp only at h
  generalize hinsert : stack.insert _ = inserted at h
  cases inserted with
  | error cause => cases h
  | ok inserted =>
      cases h
      have hplaced := sessions_insert hinsert
      exact hplaced

theorem sessions_scheduleCopy {stack stack' : SessionStack} {source s : Session} {wait : Ticks}
    {netState : NetState} (h : stack.scheduleCopy source wait netState = .ok (s, stack')) :
    stack'.sessions = place s stack.sessions := by
  unfold scheduleCopy at h
  dsimp only at h
  generalize hinsert : stack.insert _ = inserted at h
  cases inserted with
  | error cause => cases h
  | ok inserted =>
      cases h
      exact sessions_insert hinsert

/-- New dialogs have been scheduled, and nothing else has happened. -/
inductive Schedules (stack : SessionStack) : SessionStack → Prop
  | refl : Schedules stack stack
  | schedule {between after : SessionStack} {applet : Option Applet} {wait : Ticks}
      {subnet channel : UInt8} {netState : NetState} {s : Session} :
      Schedules stack between →
      between.schedule applet wait subnet channel netState = .ok (s, after) →
      Schedules stack after

theorem Schedules.grows {stack stack' : SessionStack} (h : stack.Schedules stack') :
    Schedule.Grows stack.sessions stack'.sessions := by
  induction h with
  | refl => exact .refl
  | schedule _ hschedule ih =>
      rw [sessions_schedule hschedule]
      exact ih.place _

end SessionStack

end Mode2
