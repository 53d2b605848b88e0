/-!
# Device IDs

A device is named by an eight-byte universal ID, fixed at manufacture, or by a
two-byte virtual ID that a network assigns. Before any frame has arrived there is
no peer to name, and its ID is empty.
-/

namespace Mode2

/-- The ID of a device: empty, virtual or universal. -/
structure DeviceId where
  bytes : List UInt8
  width : bytes.length = 0 ∨ bytes.length = 2 ∨ bytes.length = 8
deriving DecidableEq, Repr

namespace DeviceId

theorem ext {a b : DeviceId} (h : a.bytes = b.bytes) : a = b := by
  cases a
  cases b
  cases h
  rfl

/-- No device. -/
def none : DeviceId :=
  ⟨[], .inl rfl⟩

instance : Inhabited DeviceId := ⟨none⟩

/-- A virtual ID. -/
def ofVirtual (id : Vector UInt8 2) : DeviceId :=
  ⟨id.toList, .inr (.inl (by simp))⟩

/-- A universal ID. -/
def ofUniversal (id : Vector UInt8 8) : DeviceId :=
  ⟨id.toList, .inr (.inr (by simp))⟩

/-- The ID with these bytes; only two or eight bytes name a device. -/
def ofBytes? (bytes : List UInt8) : Option DeviceId :=
  if h : bytes.length = 2 ∨ bytes.length = 8 then some ⟨bytes, .inr h⟩ else Option.none

/-- The ID is a virtual one. -/
def isVirtual (id : DeviceId) : Bool :=
  id.bytes.length == 2

/-- The ID names no device. -/
def isEmpty (id : DeviceId) : Bool :=
  id.bytes.isEmpty

/-- The bytes that an ID of the chosen kind takes. -/
def widthOf (isVirtual : Bool) : Nat :=
  if isVirtual then 2 else 8

theorem length_le (id : DeviceId) : id.bytes.length ≤ 8 := by
  have := id.width
  omega

end DeviceId

end Mode2
