import Mode2.Config.Basic
import Mode2.Json.Value

/-!
# Configuration documents

A configuration is provisioned as a JSON document: one record for each part, its
fields in a fixed order, lengths of time as bare numbers of ticks. Reading refuses
a document that is not a configuration, and then a configuration that fails a
range check.
-/

namespace Mode2

open Json (Token Value)

namespace Document

/-! ## Writing -/

/-- A name or text without characters that need an escape. -/
def text (name : String) : Token :=
  .text (name.toList.map Char.toNat)

/-- Items separated by commas. -/
def separated : List (List Token) → List Token
  | [] => []
  | [item] => item
  | item :: rest => item ++ .comma :: separated rest

/-- A record. -/
def record (fields : List (String × List Token)) : List Token :=
  .openObject ::
    separated (fields.map fun (name, value) => text name :: .colon :: value) ++ [.closeObject]

def octet (value : UInt8) : List Token :=
  [.natural value.toNat]

def ticks (value : Ticks) : List Token :=
  [.natural value.count]

def octets (bytes : List UInt8) : List Token :=
  .openArray :: separated (bytes.map octet) ++ [.closeArray]

def identity (i : Identity) : List Token :=
  record [("uid", octets i.uid.toList), ("vid", octets i.vid.toList)]

def contention (c : ContentionConfig) : List Token :=
  record [("params", octet c.params), ("tg", ticks c.guardTime)]

def beacon (b : BeaconConfig) : List Token :=
  record
    [("enabled", [.bool b.enabled]), ("channel", octet b.channel), ("isf_id", octet b.file),
      ("max_bytes", octet b.maxBytes), ("interval", ticks b.interval),
      ("redundants", octet b.retries), ("window", ticks b.window)]

def scan (s : ScanConfig) : List Token :=
  record
    [("channel", octet s.channel), ("timeout", ticks s.timeout), ("redundants", octet s.retries)]

def config (c : Config) : List Token :=
  record
    [("device", identity c.identity), ("subnet", octet c.subnet),
      ("beacon_subnet", octet c.beaconSubnet), ("tx_eirp", octet c.linkControl),
      ("key_index", octet c.keyIndex), ("multihop", [.bool c.multihop]),
      ("csma", contention c.contention), ("beacon", beacon c.beacon), ("scan", scan c.scan)]

/-! ## Reading -/

def octet? (value : Value) : Option UInt8 :=
  (value.naturalBelow? 256).map UInt8.ofNat

def ticks? (value : Value) : Option Ticks :=
  (value.naturalBelow? 0x100000000).map .saturate

def octets? (n : Nat) (value : Value) : Option (Vector UInt8 n) := do
  let bytes ← value.array? octet?
  if h : bytes.toArray.size = n then some ⟨bytes.toArray, h⟩ else none

def identity? (value : Value) : Option Identity := do
  let [uid, vid] ← value.record? ["uid", "vid"] | none
  return { uid := ← octets? 8 uid, vid := ← octets? 2 vid }

def contention? (value : Value) : Option ContentionConfig := do
  let [params, guardTime] ← value.record? ["params", "tg"] | none
  return { params := ← octet? params, guardTime := ← ticks? guardTime }

def beacon? (value : Value) : Option BeaconConfig := do
  let [enabled, channel, file, maxBytes, interval, retries, window] ← value.record?
    ["enabled", "channel", "isf_id", "max_bytes", "interval", "redundants", "window"] | none
  return {
    enabled := ← enabled.bool?
    channel := ← octet? channel
    file := ← octet? file
    maxBytes := ← octet? maxBytes
    interval := ← ticks? interval
    retries := ← octet? retries
    window := ← ticks? window }

def scan? (value : Value) : Option ScanConfig := do
  let [channel, timeout, retries] ← value.record? ["channel", "timeout", "redundants"] | none
  return { channel := ← octet? channel, timeout := ← ticks? timeout, retries := ← octet? retries }

def config? (value : Value) : Option Config := do
  let [device, subnet, beaconSubnet, linkControl, keyIndex, multihop, csma, beacon, scan] ←
    value.record? ["device", "subnet", "beacon_subnet", "tx_eirp", "key_index", "multihop", "csma",
      "beacon", "scan"] | none
  return {
    identity := ← identity? device
    subnet := ← octet? subnet
    beaconSubnet := ← octet? beaconSubnet
    linkControl := ← octet? linkControl
    keyIndex := ← octet? keyIndex
    multihop := ← multihop.bool?
    contention := ← contention? csma
    beacon := ← beacon? beacon
    scan := ← scan? scan }

end Document

/-- The document of a configuration, without blanks. -/
def Config.toDocument (c : Config) : String :=
  .ofList ((Document.config c).flatMap Token.render)

/-- The configuration that a document spells, if it passes its range checks. -/
def Config.ofDocument (document : String) : Except ConfigError Config :=
  match Value.ofText document.toList >>= Document.config? with
  | some c => c.validated
  | none => .error .corrupted

end Mode2
