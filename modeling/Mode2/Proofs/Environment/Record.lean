import Mode2.Proofs.Environment.View

/-!
# A record of the radio calls

The world may keep a record of what the radio was asked and whether it accepted. Any
environment can be made to keep one, and behaves as before otherwise.
-/

namespace Mode2

variable {W : Type}

/-- What the radio was asked, and whether it accepted. -/
inductive RadioCall
  | listen (channel : UInt8) (timeout : Ticks) (accepted : Bool)
  | assess (channel : UInt8) (accepted : Bool)
  | transmit (channel : UInt8) (frame : List UInt8) (accepted : Bool)
  | idle
deriving DecidableEq, Repr

/-- The frame that the radio is handed. -/
def RadioCall.frame? : RadioCall → Option (List UInt8)
  | .transmit _ frame _ => some frame
  | _ => none

/-- The world keeps the calls of the radio, the latest first, and nothing else of the
environment touches the record. -/
structure Environment.Records (env : Environment W) (calls : W → List RadioCall) : Prop
    extends env.OnlyRadio calls where
  listen : ∀ channel timeout w, calls (env.radio.listen channel timeout w).2 =
    .listen channel timeout (env.radio.listen channel timeout w).1.isOk :: calls w
  assess : ∀ channel w, calls (env.radio.assess channel w).2 =
    .assess channel (env.radio.assess channel w).1.isOk :: calls w
  transmit : ∀ channel frame w, calls (env.radio.transmit channel frame w).2 =
    .transmit channel frame (env.radio.transmit channel frame w).1.isOk :: calls w
  idle : ∀ w, calls (env.radio.idle w).2 = .idle :: calls w

/-- A world with a record of the radio calls, the latest first. -/
structure Recorded (W : Type) where
  world : W
  calls : List RadioCall

namespace Recorded

/-- An operation that the record does not see. -/
def unseen {α : Type} (operation : StateM W α) : StateM (Recorded W) α := fun r =>
  ((operation r.world).1, { r with world := (operation r.world).2 })

/-- An operation of the radio, with the call that it is recorded as. -/
def seen {α : Type} (call : α → RadioCall) (operation : StateM W α) : StateM (Recorded W) α :=
  fun r =>
    ((operation r.world).1,
      { world := (operation r.world).2, calls := call (operation r.world).1 :: r.calls })

end Recorded

namespace Environment

open Recorded

/-- The environment that also records the radio calls. -/
def recorded (env : Environment W) : Environment (Recorded W) where
  radio :=
    { listen := fun channel timeout =>
        seen (.listen channel timeout ·.isOk) (env.radio.listen channel timeout)
      assess := fun channel => seen (.assess channel ·.isOk) (env.radio.assess channel)
      transmit := fun channel frame =>
        seen (.transmit channel frame ·.isOk) (env.radio.transmit channel frame)
      idle := seen (fun _ => .idle) env.radio.idle }
  files :=
    { openFile := fun id access user => unseen (env.files.openFile id access user)
      length := fun file => unseen (env.files.length file)
      modifiers := fun file => unseen (env.files.modifiers file)
      read := fun file offset => unseen (env.files.read file offset)
      write := fun file offset word => unseen (env.files.write file offset word)
      close := fun file => unseen (env.files.close file) }
  authorize := env.authorize
  random := unseen env.random
  cipher := env.cipher.map fun cipher =>
    { encrypt := fun key bytes => unseen (cipher.encrypt key bytes)
      decrypt := fun key bytes => unseen (cipher.decrypt key bytes) }
  router := env.router.map fun judge route bytes => unseen (judge route bytes)
  datagrams := env.datagrams.map fun deliver id source destination bytes =>
    unseen (deliver id source destination bytes)

theorem records_recorded (env : Environment W) : env.recorded.Records Recorded.calls where
  openFile _ _ _ _ := rfl
  length _ _ := rfl
  modifiers _ _ := rfl
  read _ _ _ := rfl
  close _ _ := rfl
  random _ := rfl
  encrypt cipher hcipher key bytes w := by
    obtain ⟨cipher, -, rfl⟩ := Option.map_eq_some_iff.mp hcipher
    rfl
  decrypt cipher hcipher key bytes w := by
    obtain ⟨cipher, -, rfl⟩ := Option.map_eq_some_iff.mp hcipher
    rfl
  router judge hjudge route bytes w := by
    obtain ⟨judge, -, rfl⟩ := Option.map_eq_some_iff.mp hjudge
    rfl
  datagrams deliver hdeliver id source destination bytes w := by
    obtain ⟨deliver, -, rfl⟩ := Option.map_eq_some_iff.mp hdeliver
    rfl
  listen _ _ _ := rfl
  assess _ _ := rfl
  transmit _ _ _ := rfl
  idle _ := rfl

end Environment

end Mode2
