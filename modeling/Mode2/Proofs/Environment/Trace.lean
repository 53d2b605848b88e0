import Mode2.Proofs.Environment.Record
import Mode2.Proofs.Steps

/-!
# A trace of all calls

The world may keep a trace of everything that it is asked for, in order. Any environment can
be made to keep one, and behaves as before otherwise.
-/

namespace Mode2

variable {W α : Type}

/-- What the world is asked for. -/
inductive PortCall
  | radio (call : RadioCall)
  /-- With the handle of the file when it could be opened. -/
  | openFile (id : UInt8) (access : Access) (user : User) (opened : Option Handle)
  | length (file : Handle)
  | modifiers (file : Handle)
  | read (file : Handle) (offset : UInt16)
  | write (file : Handle) (offset word : UInt16)
  | close (file : Handle)
  | random
  | encrypt (key : UInt8) (bytes : List UInt8)
  | decrypt (key : UInt8) (bytes : List UInt8)
  | route (route : Route) (bytes : List UInt8)
  | deliver (id : DeviceId) (source destination : UInt8) (bytes : List UInt8)
deriving DecidableEq, Repr

/-- A world with the trace of its calls, the first one first. -/
structure Traced (W : Type) where
  world : W
  trace : List PortCall

namespace Traced

/-- An operation with the call that it is traced as. -/
def noting (call : α → PortCall) (operation : StateM W α) : StateM (Traced W) α := fun t =>
  ((operation t.world).1,
    { world := (operation t.world).2, trace := t.trace ++ [call (operation t.world).1] })

/-- The calls from one world to the other have a property. -/
def Between (P : List PortCall → Prop) (t t' : Traced W) : Prop :=
  ∃ calls, t'.trace = t.trace ++ calls ∧ P calls

theorem between_composes {P : List PortCall → Prop} (hnil : P [])
    (happend : ∀ {calls calls'}, P calls → P calls' → P (calls ++ calls')) :
    Composes (Between (W := W) P) where
  refl _ := ⟨[], (List.append_nil _).symm, hnil⟩
  trans := by
    rintro t t' t'' ⟨calls, htrace, hcalls⟩ ⟨calls', htrace', hcalls'⟩
    exact ⟨calls ++ calls', by rw [htrace', htrace, List.append_assoc], happend hcalls hcalls'⟩

/-- A single call has the property. -/
theorem between_noting {P : List PortCall → Prop} {call : α → PortCall}
    (h : ∀ answer, P [call answer]) (operation : StateM W α) (t : Traced W) :
    Between P t (noting call operation t).2 :=
  ⟨[call (operation t.world).1], rfl, h _⟩

end Traced

namespace Environment

open Traced

/-- The environment that also traces its calls. -/
def traced (env : Environment W) : Environment (Traced W) where
  radio :=
    { listen := fun channel timeout =>
        noting (fun answer => .radio (.listen channel timeout answer.isOk))
          (env.radio.listen channel timeout)
      assess := fun channel =>
        noting (fun answer => .radio (.assess channel answer.isOk)) (env.radio.assess channel)
      transmit := fun channel frame =>
        noting (fun answer => .radio (.transmit channel frame answer.isOk))
          (env.radio.transmit channel frame)
      idle := noting (fun _ => .radio .idle) env.radio.idle }
  files :=
    { openFile := fun id access user =>
        noting (fun answer => .openFile id access user answer.toOption)
          (env.files.openFile id access user)
      length := fun file => noting (fun _ => .length file) (env.files.length file)
      modifiers := fun file => noting (fun _ => .modifiers file) (env.files.modifiers file)
      read := fun file offset => noting (fun _ => .read file offset) (env.files.read file offset)
      write := fun file offset word =>
        noting (fun _ => .write file offset word) (env.files.write file offset word)
      close := fun file => noting (fun _ => .close file) (env.files.close file) }
  authorize := env.authorize
  random := noting (fun _ => .random) env.random
  cipher := env.cipher.map fun cipher =>
    { encrypt := fun key bytes => noting (fun _ => .encrypt key bytes) (cipher.encrypt key bytes)
      decrypt := fun key bytes => noting (fun _ => .decrypt key bytes) (cipher.decrypt key bytes) }
  router := env.router.map fun judge route bytes =>
    noting (fun _ => .route route bytes) (judge route bytes)
  datagrams := env.datagrams.map fun deliver id source destination bytes =>
    noting (fun _ => .deliver id source destination bytes) (deliver id source destination bytes)

end Environment

end Mode2
