import Mathlib.Data.List.Basic
import Mode2.Config.Blob
import Mode2.Proofs.Varint

/-!
# Blobs are read back

Every reader of a blob takes exactly the bytes that its writer produced and leaves
what follows. Readers in sequence take the bytes of their writers one after the
other, so a configuration is read back field by field.
-/

namespace Mode2.Blob

variable {α β : Type}

/-- `reader` takes `bytes` as `value`, whatever follows them. -/
def Reads (reader : Reader α) (bytes : List UInt8) (value : α) : Prop :=
  ∀ rest, reader (bytes ++ rest) = some (value, rest)

theorem Reads.pure (value : α) : Reads (pure value) [] value :=
  fun _ => rfl

theorem Reads.bind {reader : Reader α} {next : α → Reader β} {bytes later : List UInt8}
    {value : α} {result : β} (h : Reads reader bytes value)
    (hnext : Reads (next value) later result) :
    Reads (reader >>= next) (bytes ++ later) result := by
  intro rest
  have hrun : (reader >>= next) (bytes ++ later ++ rest) =
      (reader (bytes ++ (later ++ rest))).bind fun (value, rest) => next value rest := by
    rw [List.append_assoc]
    rfl
  rw [hrun, h (later ++ rest)]
  exact hnext rest

/-! ## Fields -/

theorem reads_octet (byte : UInt8) : Reads octet? [byte] byte :=
  fun _ => rfl

theorem reads_flag (value : Bool) : Reads flag? (flag value) value := by
  cases value <;> exact fun _ => rfl

theorem reads_ticks (value : Ticks) : Reads ticks? (ticks value) value := by
  intro rest
  simp [ticks?, ticks, Varint.decode_encode rest value.count_lt]

theorem reads_octets {n : Nat} (bytes : Vector UInt8 n) :
    Reads (octets? n) bytes.toList bytes := by
  intro rest
  have hlength : bytes.toList.length = n := by simp
  have htake : (bytes.toList ++ rest).take n = bytes.toList := List.take_left' hlength
  have hdrop : (bytes.toList ++ rest).drop n = rest := List.drop_left' hlength
  have hsize : ((bytes.toList ++ rest).take n).toArray.size = n := by rw [htake]; simp
  rw [octets?, dif_pos hsize, hdrop]
  congr 2
  apply Vector.toList_inj.mp
  simp [htake]

/-! ## Configurations -/

/-- The blob as the fields in the order in which they are read. -/
theorem config_eq (c : Config) :
    config c = c.identity.uid.toList ++ (c.identity.vid.toList ++ ([c.subnet] ++
      ([c.beaconSubnet] ++ ([c.linkControl] ++ ([c.keyIndex] ++ (flag c.multihop ++
      ([c.contention.params] ++ (ticks c.contention.guardTime ++
      (flag c.beacon.enabled ++ ([c.beacon.channel] ++ ([c.beacon.file] ++
      ([c.beacon.maxBytes] ++ (ticks c.beacon.interval ++ ([c.beacon.retries] ++
      (ticks c.beacon.window ++ ([c.scan.channel] ++ (ticks c.scan.timeout ++
      ([c.scan.retries] ++ [])))))))))))))))))) := by
  simp [config]

theorem reads_config (c : Config) : Reads config? (config c) c := by
  rw [config_eq]
  exact (reads_octets c.identity.uid).bind <| (reads_octets c.identity.vid).bind <|
    (reads_octet c.subnet).bind <| (reads_octet c.beaconSubnet).bind <|
    (reads_octet c.linkControl).bind <| (reads_octet c.keyIndex).bind <|
    (reads_flag c.multihop).bind <| (reads_octet c.contention.params).bind <|
    (reads_ticks c.contention.guardTime).bind <| (reads_flag c.beacon.enabled).bind <|
    (reads_octet c.beacon.channel).bind <| (reads_octet c.beacon.file).bind <|
    (reads_octet c.beacon.maxBytes).bind <| (reads_ticks c.beacon.interval).bind <|
    (reads_octet c.beacon.retries).bind <| (reads_ticks c.beacon.window).bind <|
    (reads_octet c.scan.channel).bind <| (reads_ticks c.scan.timeout).bind <|
    (reads_octet c.scan.retries).bind <| .pure c

end Mode2.Blob
