import Mode2.Config.Basic
import Mode2.Device.Id
import Mode2.Octet

/-!
# Addresses of this device

Which IDs name the device and which subnets reach it.
-/

namespace Mode2

/-- The ID that the device puts into its frames. -/
def Config.localId (c : Config) (isVirtual : Bool) : DeviceId :=
  if isVirtual then .ofVirtual c.identity.vid else .ofUniversal c.identity.uid

/-- The bytes are an ID of this device. An all-zero virtual ID is not assigned and
names nobody, whether it stands in the frame or in the configuration. -/
def Config.isNamedBy (c : Config) (id : List UInt8) : Bool :=
  if id.length = 2 then
    c.hasVirtualId && id != [0, 0] && id == c.identity.vid.toList
  else
    id.length == 8 && id == c.identity.uid.toList

/-- A frame's subnet reaches a device: the specifier in its high half is the
device's or the wildcard, and the device carries every bit of the mask in its low
half. -/
def subnetMatches (frame device : UInt8) : Bool :=
  (frame >>> 4 == 0x0F || frame >>> 4 == device >>> 4) &&
    Octet.hasAll device (frame &&& 0x0F)

end Mode2
