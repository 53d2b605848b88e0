import Mode2.Proofs.Environment.Accesses
import Mode2.Proofs.Environment.Trace

/-!
# Handles of open files

A file that is visited is opened for reading, looked at under its handle, and closed. Calls that
keep to one visit after the other leave no handle open, never have two open at once, and never
write.
-/

namespace Mode2

variable {W : Type}

/-- The call looks at an open file. -/
inductive PortCall.LooksAt (file : Handle) : PortCall → Prop
  | length : LooksAt file (.length file)
  | modifiers : LooksAt file (.modifiers file)
  | read (offset : UInt16) : LooksAt file (.read file offset)

/-- The call is none of the files'. -/
inductive PortCall.Elsewhere : PortCall → Prop
  | radio (call : RadioCall) : Elsewhere (.radio call)
  | random : Elsewhere .random
  | encrypt (key : UInt8) (bytes : List UInt8) : Elsewhere (.encrypt key bytes)
  | decrypt (key : UInt8) (bytes : List UInt8) : Elsewhere (.decrypt key bytes)
  | route (route : Route) (bytes : List UInt8) : Elsewhere (.route route bytes)
  | deliver (id : DeviceId) (source destination : UInt8) (bytes : List UInt8) :
      Elsewhere (.deliver id source destination bytes)

/-- Calls that visit files one after the other: each file that could be opened is only looked
at, under the handle that it has been given, and then closed under the same handle. -/
inductive BalancedCalls : List PortCall → Prop
  | nil : BalancedCalls []
  | elsewhere {call : PortCall} {calls : List PortCall} (hcall : call.Elsewhere)
      (h : BalancedCalls calls) : BalancedCalls (call :: calls)
  | refused (id : UInt8) (user : User) {calls : List PortCall} (h : BalancedCalls calls) :
      BalancedCalls (.openFile id .read user none :: calls)
  | visit (id : UInt8) (user : User) {file : Handle} {looks calls : List PortCall}
      (hlooks : ∀ call ∈ looks, call.LooksAt file) (h : BalancedCalls calls) :
      BalancedCalls (.openFile id .read user (some file) :: (looks ++ .close file :: calls))

namespace BalancedCalls

variable {calls calls' : List PortCall}

theorem append (h : BalancedCalls calls) (h' : BalancedCalls calls') :
    BalancedCalls (calls ++ calls') := by
  induction h with
  | nil => exact h'
  | elsewhere hcall _ ih => exact .elsewhere hcall ih
  | refused id user _ ih => exact .refused id user ih
  | visit id user hlooks _ ih =>
      rw [List.cons_append, List.append_assoc]
      exact .visit id user hlooks ih

end BalancedCalls

namespace Traced

/-- From one world to the other, files have been visited one after the other. -/
abbrev Balanced : Traced W → Traced W → Prop :=
  Between BalancedCalls

theorem balanced_composes : Composes (Balanced (W := W)) :=
  between_composes .nil .append

/-- A call of another port leaves the files alone. -/
theorem balanced_elsewhere {α : Type} {call : α → PortCall} (h : ∀ answer, (call answer).Elsewhere)
    (operation : StateM W α) (t : Traced W) : Balanced t (noting call operation t).2 :=
  between_noting (fun answer => .elsewhere (h answer) .nil) operation t

/-- A file has been opened and looked at; the visits before it are over. -/
def Holds (file : Handle) (t t' : Traced W) : Prop :=
  ∃ (id : UInt8) (user : User) (calls looks : List PortCall), BalancedCalls calls ∧
    (∀ call ∈ looks, call.LooksAt file) ∧
      t'.trace = t.trace ++ (calls ++ .openFile id .read user (some file) :: looks)

/-- One more look. -/
theorem Holds.look {file : Handle} {t t' : Traced W} (h : Holds file t t') {call : PortCall}
    (hcall : call.LooksAt file) (world : W) : Holds file t ⟨world, t'.trace ++ [call]⟩ := by
  obtain ⟨id, user, calls, looks, hcalls, hlooks, htrace⟩ := h
  refine ⟨id, user, calls, looks ++ [call], hcalls, ?_, by simp [htrace]⟩
  intro other hother
  rcases List.mem_append.mp hother with hold | hnew
  · exact hlooks other hold
  · rw [List.mem_singleton.mp hnew]
    exact hcall

/-- The visit ends when the file is closed. -/
theorem Holds.close {file : Handle} {t t' : Traced W} (h : Holds file t t') (world : W) :
    Balanced t ⟨world, t'.trace ++ [.close file]⟩ := by
  obtain ⟨id, user, calls, looks, hcalls, hlooks, htrace⟩ := h
  refine ⟨_, ?_, hcalls.append (.visit id user hlooks .nil)⟩
  simp [htrace]

/-- From one world to the other, files have been visited one after the other, the last one
being still open if a file is. -/
def Visited : Option Handle → Traced W → Traced W → Prop
  | none => Balanced
  | some file => Holds file

/-- The trace of visits shows them. -/
theorem visited_of_visits {env : Environment W} {start t : Traced W} {held : Option Handle}
    (h : env.traced.Visits start held t) : Visited held start t := by
  induction h with
  | refl => exact balanced_composes.refl start
  | @openFile t id user _ ih =>
      obtain ⟨calls, htrace, hcalls⟩ := ih
      have hcall : (env.traced.files.openFile id .read user t).2.trace = t.trace ++
          [.openFile id .read user (env.traced.files.openFile id .read user t).1.toOption] := rfl
      rw [htrace, List.append_assoc] at hcall
      cases hopened : (env.traced.files.openFile id .read user t).1.toOption with
      | none =>
          rw [hopened] at hcall
          exact ⟨_, hcall, hcalls.append (.refused id user .nil)⟩
      | some file =>
          rw [hopened] at hcall
          exact ⟨id, user, calls, [], hcalls, List.forall_mem_nil _, hcall⟩
  | length _ ih => exact ih.look .length _
  | modifiers _ ih => exact ih.look .modifiers _
  | read offset _ ih => exact ih.look (.read offset) _
  | close _ ih => exact ih.close _

end Traced

end Mode2
