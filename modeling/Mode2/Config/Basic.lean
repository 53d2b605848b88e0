import Mode2.ChannelAccess.Params
import Mode2.Error
import Mode2.Frame.Length
import Mode2.Time.Span

/-!
# Configuration

What a network provisions on a device: who it is, which frames it accepts, how it
contends for channels, and when it beacons and scans. A configuration outside its
ranges is refused, never adjusted.
-/

namespace Mode2

/-- Who the device is. An all-zero virtual ID is not assigned. -/
structure Identity where
  uid : Vector UInt8 8
  vid : Vector UInt8 2
deriving DecidableEq, Repr

/-- Defaults for channel contention. -/
structure ContentionConfig where
  /-- Contention parameters of requests that originate here. -/
  params : UInt8
  /-- Pause between attempts made without collision avoidance. -/
  guardTime : Ticks
deriving DecidableEq, Repr

/-- The beacon schedule. -/
structure BeaconConfig where
  enabled : Bool
  channel : UInt8
  /-- The file announced in each beacon. -/
  file : UInt8
  maxBytes : UInt8
  /-- Ticks from one beacon to the next. -/
  interval : Ticks
  retries : UInt8
  /-- Contention window of each beacon. -/
  window : Ticks
deriving DecidableEq, Repr

/-- The background scan. -/
structure ScanConfig where
  channel : UInt8
  timeout : Ticks
  retries : UInt8
deriving DecidableEq, Repr

/-- Everything that a device is provisioned with. -/
structure Config where
  identity : Identity
  /-- Subnet that filters requests. -/
  subnet : UInt8
  /-- Subnet of outgoing beacons. -/
  beaconSubnet : UInt8
  /-- Link-control byte of every outgoing frame. -/
  linkControl : UInt8
  /-- Key of secured frames. -/
  keyIndex : UInt8
  /-- Honour routing blocks. -/
  multihop : Bool
  contention : ContentionConfig
  beacon : BeaconConfig
  scan : ScanConfig
deriving DecidableEq, Repr

namespace Config

/-- The configuration of a device that has not been provisioned. -/
def default : Config where
  identity :=
    { uid := #v[0x00, 0x0B, 0x57, 0x00, 0x00, 0x00, 0x00, 0x01]
      vid := #v[0x00, 0x00] }
  subnet := 0xF0
  beaconSubnet := 0xF0
  linkControl := 0x7F
  keyIndex := 0
  multihop := false
  contention := { params := 0, guardTime := 5 }
  beacon :=
    { enabled := false, channel := 0x10, file := 1, maxBytes := 16, interval := 4096,
      retries := 1, window := 32 }
  scan := { channel := 0x10, timeout := 128, retries := 0 }

instance : Inhabited Config := ⟨default⟩

/-- The network has assigned a virtual ID. -/
def hasVirtualId (c : Config) : Bool :=
  c.identity.vid != #v[0, 0]

/-- The configuration satisfies a range check. -/
def satisfies (c : Config) : ConfigRule → Bool
  | .uidNonZero => c.identity.uid != #v[0, 0, 0, 0, 0, 0, 0, 0]
  | .contentionBits => !Octet.hasAny c.contention.params (~~~ContentionParams.knownBits)
  | .beaconFits => c.beacon.maxBytes.toNat ≤ maxFrame
  | .beaconInterval => !c.beacon.enabled || !c.beacon.interval.isZero
  | .scanTimeout => !c.scan.timeout.isZero

/-- The range checks, in the order in which they are made. -/
def rules : List ConfigRule :=
  [.uidNonZero, .contentionBits, .beaconFits, .beaconInterval, .scanTimeout]

/-- The first range check that fails, if any. -/
def validate (c : Config) : Except ConfigError Unit :=
  match rules.find? (fun rule => !c.satisfies rule) with
  | some rule => .error (.invalid rule)
  | none => .ok ()

/-- A configuration that passed its range checks. -/
def validated (c : Config) : Except ConfigError Config := do
  c.validate
  return c

end Config

end Mode2
