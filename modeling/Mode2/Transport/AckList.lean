import Mode2.Device.Id
import Mode2.FrameQueue.Script

/-!
# Acknowledged devices

A requester remembers which devices have answered and lists them in its next
request, so that they stay quiet.
-/

namespace Mode2

/-- The devices that are remembered. -/
def ackCapacity : Nat := 8

/-- Devices that have answered, in order of their first answers. -/
structure AckList where
  ids : List DeviceId
  nodup : ids.Nodup
  length_le : ids.length ≤ ackCapacity
deriving DecidableEq, Repr

namespace AckList

/-- Nobody has answered. -/
def empty : AckList :=
  ⟨[], List.nodup_nil, Nat.zero_le _⟩

instance : Inhabited AckList := ⟨empty⟩

/-- Remember a device, unless it is known or there is no room. -/
def record (acks : AckList) (id : DeviceId) : AckList :=
  if h : id ∉ acks.ids ∧ acks.ids.length < ackCapacity then
    ⟨acks.ids ++ [id], by
      rw [List.nodup_append]
      refine ⟨acks.nodup, by simp, ?_⟩
      intro a ha b hb
      rw [List.mem_singleton] at hb
      intro hab
      exact h.1 (hb ▸ hab ▸ ha), by
      have := h.2
      simp only [List.length_append, List.length_cons, List.length_nil]
      omega⟩
  else acks

/-- The devices named by IDs of one kind. -/
def ofKind (acks : AckList) (virtualIds : Bool) : List DeviceId :=
  acks.ids.filter fun id => id.bytes.length == DeviceId.widthOf virtualIds

/-- Append IDs one after the other. -/
def writeIds : List DeviceId → QueueM Unit
  | [] => pure ()
  | id :: rest => do
      QueueM.append id.bytes
      writeIds rest

/-- Append the list of devices that a request names: their number and their IDs. -/
def write (acks : AckList) (virtualIds : Bool) : QueueM Unit := do
  QueueM.push (UInt8.ofNat (acks.ofKind virtualIds).length)
  writeIds (acks.ofKind virtualIds)

/-- Look through `n` IDs for one that satisfies `isNamed`. -/
def scanIds (isNamed : List UInt8 → Bool) (width : Nat) : Nat → QueueM Bool
  | 0 => pure false
  | n + 1 => do
      let id ← QueueM.read width
      let later ← scanIds isNamed width n
      return isNamed id || later

/-- Read a list of devices and say whether it holds an ID that satisfies
`isNamed`. -/
def scan (isNamed : List UInt8 → Bool) (virtualIds : Bool) : QueueM Bool := do
  let count ← QueueM.readByte
  scanIds isNamed (DeviceId.widthOf virtualIds) count.toNat

end AckList

end Mode2
