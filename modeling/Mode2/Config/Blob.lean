import Mode2.Config.Basic
import Mode2.Varint

/-!
# Configuration blobs

The form in which a configuration is kept in non-volatile storage: its fields in a
fixed order without names, bytes and truth values as single bytes, lengths of time
as variable-length numbers. Bytes after the last field are not looked at.
-/

namespace Mode2

namespace Blob

/-- A reader of the front of a blob. -/
abbrev Reader (α : Type) := StateT (List UInt8) Option α

def flag (value : Bool) : List UInt8 :=
  [if value then 1 else 0]

def ticks (value : Ticks) : List UInt8 :=
  Varint.encode value.count

def config (c : Config) : List UInt8 :=
  c.identity.uid.toList ++ c.identity.vid.toList ++
    [c.subnet, c.beaconSubnet, c.linkControl, c.keyIndex] ++ flag c.multihop ++
    c.contention.params :: ticks c.contention.guardTime ++
    flag c.beacon.enabled ++ [c.beacon.channel, c.beacon.file, c.beacon.maxBytes] ++
    ticks c.beacon.interval ++ c.beacon.retries :: ticks c.beacon.window ++
    c.scan.channel :: ticks c.scan.timeout ++ [c.scan.retries]

def octet? : Reader UInt8
  | [] => none
  | byte :: rest => some (byte, rest)

def flag? : Reader Bool := do
  match ← octet? with
  | 0 => return false
  | 1 => return true
  | _ => failure

def ticks? : Reader Ticks := fun bytes => do
  let (count, rest) ← Varint.decode bytes
  return (.saturate count, rest)

def octets? (n : Nat) : Reader (Vector UInt8 n) := fun bytes =>
  if h : (bytes.take n).toArray.size = n then some (⟨(bytes.take n).toArray, h⟩, bytes.drop n)
  else none

def config? : Reader Config := do
  let uid ← octets? 8
  let vid ← octets? 2
  let subnet ← octet?
  let beaconSubnet ← octet?
  let linkControl ← octet?
  let keyIndex ← octet?
  let multihop ← flag?
  let contention := { params := ← octet?, guardTime := ← ticks? }
  let beacon := {
    enabled := ← flag?, channel := ← octet?, file := ← octet?, maxBytes := ← octet?
    interval := ← ticks?, retries := ← octet?, window := ← ticks? }
  let scan := { channel := ← octet?, timeout := ← ticks?, retries := ← octet? }
  return {
    identity := { uid, vid }
    subnet, beaconSubnet, linkControl, keyIndex, multihop, contention, beacon, scan }

end Blob

/-- The blob of a configuration. -/
def Config.toBlob (c : Config) : List UInt8 :=
  Blob.config c

/-- The configuration at the start of a blob, if it passes its range checks. -/
def Config.ofBlob (blob : List UInt8) : Except ConfigError Config :=
  match Blob.config?.run blob with
  | some (c, _) => c.validated
  | none => .error .corrupted

end Mode2
