import Mode2.Config.Document
import Mode2.Proofs.Json.Building
import Mode2.Proofs.Json.Scanning

/-!
# Documents are read back

What a part of a configuration is written as spells a JSON value, from which the
part is read back. Lists and records spell values as soon as what stands in them
does, so a document follows from its numbers and truth values, part by part.
-/

namespace Mode2.Document

open Json (Token Value Scans Builds Delimits Builder Open)

/-- The tokens are scanned back from their text, and the value is built from them. -/
structure Spells (tokens : List Token) (value : Value) : Prop where
  scans : Scans tokens
  builds : Builds tokens value

theorem Spells.ofText {tokens : List Token} {value : Value} (h : Spells tokens value) :
    Value.ofText (tokens.flatMap Token.render) = some value := by
  simp [Value.ofText, h.scans.scan, h.builds.ofTokens]

theorem spells_natural (n : Nat) : Spells [.natural n] (.natural n) :=
  ⟨Json.scans_natural n, Json.builds_scalar rfl⟩

theorem spells_bool (value : Bool) : Spells [.bool value] (.bool value) :=
  ⟨Json.scans_bool value, Json.builds_scalar rfl⟩

/-- Items between commas are scanned in front of what closes them. -/
theorem scans_separated {close : Token} (hclose : Delimits close) (items : List (List Token))
    (h : ∀ item ∈ items, Scans item) : Scans (separated items ++ [close]) := by
  induction items using separated.induct with
  | case1 => exact .cons hclose .nil
  | case2 item => exact (h item (by simp)).append_cons hclose .nil
  | case3 item rest hne ih =>
    have hrest := ih fun item hitem => h item (List.mem_cons_of_mem _ hitem)
    rw [separated, List.append_assoc, List.cons_append]
    · exact (h item (by simp)).append_cons (Json.delimits_punctuation (by decide)) hrest
    · exact hne

/-! ## Lists -/

section Lists

variable {α : Type} {write : α → List Token} {value : α → Value}

/-- The items from one on, in a list that holds `done` already. -/
theorem foldlM_items (item : α) (items : List α) (done : List Value) (outer : List Open)
    (h : ∀ a ∈ item :: items, Builds (write a) (value a)) :
    (separated ((item :: items).map write) ++ [Token.closeArray]).foldlM Builder.step
        ⟨.array done :: outer, .value⟩ =
      some ⟨outer, .complete (.array (done.reverse ++ (item :: items).map value))⟩ := by
  induction items generalizing item done with
  | nil =>
    rw [List.map_singleton, separated, List.foldlM_append, h item (by simp)]
    simp [Builder.step]
  | cons next items ih =>
    have hrest := ih next (value item :: done) fun a ha => h a (List.mem_cons_of_mem _ ha)
    have hsep : separated ((item :: next :: items).map write) =
        write item ++ .comma :: separated ((next :: items).map write) := rfl
    rw [hsep, List.append_assoc, List.foldlM_append, h item (by simp)]
    simpa [Builder.step] using hrest

theorem exists_separated_cons (item : List Token) (rest : List (List Token)) :
    ∃ more, separated (item :: rest) = item ++ more := by
  cases rest with
  | nil => exact ⟨[], (List.append_nil item).symm⟩
  | cons next rest => exact ⟨_, rfl⟩

theorem spells_array (items : List α) (h : ∀ a ∈ items, Spells (write a) (value a)) :
    Spells (.openArray :: separated (items.map write) ++ [.closeArray])
      (.array (items.map value)) := by
  refine ⟨?_, fun outer => ?_⟩
  · refine .cons (Json.delimits_punctuation (by decide)) (scans_separated ?_ _ ?_)
    · exact Json.delimits_punctuation (by decide)
    · simpa using fun a ha => (h a ha).scans
  · cases items with
    | nil => rfl
    | cons item items =>
      have hbuilds : ∀ a ∈ item :: items, Builds (write a) (value a) :=
        fun a ha => (h a ha).builds
      have hitems := foldlM_items item items [] outer hbuilds
      obtain ⟨more, hmore⟩ := exists_separated_cons (write item) (items.map write)
      rw [List.map_cons, hmore, List.append_assoc] at hitems
      rw [List.map_cons, hmore, List.cons_append, List.append_assoc]
      exact ((hbuilds item List.mem_cons_self).foldlM_firstItem _ outer).trans hitems

end Lists

/-! ## Records -/

/-- A field of a record, as it is written and as it is read. -/
structure Entry where
  name : String
  written : List Token
  value : Value
  spells : Spells written value

namespace Entry

/-- The tokens of a field. -/
def tokens (e : Entry) : List Token :=
  text e.name :: .colon :: e.written

/-- The code units of a field's name. -/
def key (e : Entry) : List Nat :=
  e.name.toList.map Char.toNat

/-- Names that are written as they are and tell the fields of a record apart. -/
def AreNames (names : List String) : Prop :=
  names.Nodup ∧ ∀ name ∈ names, ∀ c ∈ name.toList, Json.IsPlain c

instance (names : List String) : Decidable (AreNames names) :=
  decidable_of_iff (names.Nodup ∧ names.all fun name => name.toList.all fun c => Json.IsPlain c)
    (by simp [AreNames])

end Entry

theorem foldlM_entries (entry : Entry) (entries : List Entry) (done : List (List Nat × Value))
    (outer : List Open) :
    (separated ((entry :: entries).map Entry.tokens) ++ [Token.closeObject]).foldlM Builder.step
        ⟨outer, .key done⟩ =
      some ⟨outer, .complete (.object
        (done.reverse ++ (entry :: entries).map fun e : Entry => (e.key, e.value)))⟩ := by
  -- After its name and the colon a field is a value in front of whatever follows.
  have hentry : ∀ (e : Entry) (done : List (List Nat × Value)) (rest : List Token),
      (e.tokens ++ rest).foldlM Builder.step ⟨outer, .key done⟩ =
        rest.foldlM Builder.step ⟨.object done e.key :: outer, .complete e.value⟩ := by
    intro e done rest
    have hvalue := e.spells.builds (.object done e.key :: outer)
    have hopen : (e.tokens ++ rest).foldlM Builder.step ⟨outer, .key done⟩ =
        (e.written ++ rest).foldlM Builder.step ⟨.object done e.key :: outer, .value⟩ := rfl
    rw [hopen, List.foldlM_append, hvalue]
    rfl
  induction entries generalizing entry done with
  | nil =>
    rw [List.map_singleton, separated, hentry]
    simp [Builder.step]
  | cons next entries ih =>
    have hrest := ih next ((entry.key, entry.value) :: done)
    have hsep : separated ((entry :: next :: entries).map Entry.tokens) =
        entry.tokens ++ .comma :: separated ((next :: entries).map Entry.tokens) := rfl
    rw [hsep, List.append_assoc, hentry]
    simpa [Builder.step] using hrest

/-- A record spells a value in which each field is found by its name. -/
theorem exists_record (entries : List Entry) (h : Entry.AreNames (entries.map Entry.name)) :
    ∃ value, Spells (record (entries.map fun e => (e.name, e.written))) value ∧
      value.record? (entries.map Entry.name) = some (entries.map Entry.value) := by
  obtain ⟨hnodup, hplain⟩ := h
  have hrecord : record (entries.map fun e => (e.name, e.written)) =
      .openObject :: separated (entries.map Entry.tokens) ++ [.closeObject] := by
    rw [record, List.map_map]
    rfl
  refine ⟨.object (entries.map fun e => (e.key, e.value)), ⟨?_, fun outer => ?_⟩, ?_⟩
  · rw [hrecord]
    refine .cons (Json.delimits_punctuation (by decide)) (scans_separated ?_ _ ?_)
    · exact Json.delimits_punctuation (by decide)
    · intro tokens htokens
      obtain ⟨e, he, rfl⟩ := List.mem_map.mp htokens
      exact .cons (Json.delimits_text (hplain e.name (List.mem_map_of_mem he)))
        (.cons (Json.delimits_punctuation (by decide)) e.spells.scans)
  · rw [hrecord]
    cases entries with
    | nil => rfl
    | cons entry entries =>
      have hentries := foldlM_entries entry entries [] outer
      obtain ⟨more, hmore⟩ := exists_separated_cons entry.tokens (entries.map Entry.tokens)
      rw [List.map_cons, hmore, List.append_assoc] at hentries
      rw [List.map_cons, hmore, List.cons_append, List.append_assoc]
      -- A first name is taken like every further one.
      exact hentries
  · have hparts := @Value.record?_object (entries.map fun e => (e.name, e.value))
      (by simpa [Function.comp_def] using hnodup)
    simpa [Function.comp_def, Entry.key] using hparts

/-! ## Parts of a configuration -/

/-- The tokens spell a value that is read as `part`. -/
def Carries {α : Type} (tokens : List Token) (read : Value → Option α) (part : α) : Prop :=
  ∃ value, Spells tokens value ∧ read value = some part

theorem carries_octet (byte : UInt8) : Carries (octet byte) octet? byte := by
  refine ⟨.natural byte.toNat, spells_natural _, ?_⟩
  have hlt : byte.toNat < 256 := byte.toNat_lt
  simp [octet?, Value.naturalBelow?, hlt]

theorem carries_ticks (t : Ticks) : Carries (ticks t) ticks? t := by
  refine ⟨.natural t.count, spells_natural _, ?_⟩
  have hlt := t.count_lt
  simp [ticks?, Value.naturalBelow?, hlt]

theorem carries_bool (value : Bool) : Carries [.bool value] Value.bool? value :=
  ⟨.bool value, spells_bool value, rfl⟩

theorem carries_octets {n : Nat} (bytes : Vector UInt8 n) :
    Carries (octets bytes.toList) (octets? n) bytes := by
  have hoctet : ∀ b ∈ bytes.toList, Spells (octet b) (.natural b.toNat) :=
    fun b _ => spells_natural b.toNat
  refine ⟨_, spells_array bytes.toList hoctet, ?_⟩
  have hread : (Value.array (bytes.toList.map fun b => .natural b.toNat)).array? octet? =
      some (bytes.toList.map id) := Json.mapM_map_eq_some fun b _ => by
    have hlt : b.toNat < 256 := b.toNat_lt
    simp [octet?, Value.naturalBelow?, hlt]
  have hbytes : bytes.toList.toArray = bytes.toArray := Array.toArray_toList
  simp [octets?, hread, hbytes]

theorem carries_identity (i : Identity) : Carries (identity i) identity? i := by
  obtain ⟨uid, huid, readUid⟩ := carries_octets i.uid
  obtain ⟨vid, hvid, readVid⟩ := carries_octets i.vid
  let entries : List Entry := [⟨"uid", _, uid, huid⟩, ⟨"vid", _, vid, hvid⟩]
  obtain ⟨value, hspells, hparts⟩ := exists_record entries
    (show Entry.AreNames ["uid", "vid"] by decide)
  have hparts : value.record? ["uid", "vid"] = some [uid, vid] := hparts
  exact ⟨value, hspells, by simp [identity?, hparts, readUid, readVid]⟩

theorem carries_contention (c : ContentionConfig) : Carries (contention c) contention? c := by
  obtain ⟨params, hparams, readParams⟩ := carries_octet c.params
  obtain ⟨guardTime, hguard, readGuard⟩ := carries_ticks c.guardTime
  let entries : List Entry := [⟨"params", _, params, hparams⟩, ⟨"tg", _, guardTime, hguard⟩]
  obtain ⟨value, hspells, hparts⟩ := exists_record entries
    (show Entry.AreNames ["params", "tg"] by decide)
  have hparts : value.record? ["params", "tg"] = some [params, guardTime] := hparts
  exact ⟨value, hspells, by simp [contention?, hparts, readParams, readGuard]⟩

theorem carries_beacon (b : BeaconConfig) : Carries (beacon b) beacon? b := by
  obtain ⟨enabled, henabled, readEnabled⟩ := carries_bool b.enabled
  obtain ⟨channel, hchannel, readChannel⟩ := carries_octet b.channel
  obtain ⟨file, hfile, readFile⟩ := carries_octet b.file
  obtain ⟨maxBytes, hmax, readMax⟩ := carries_octet b.maxBytes
  obtain ⟨interval, hinterval, readInterval⟩ := carries_ticks b.interval
  obtain ⟨retries, hretries, readRetries⟩ := carries_octet b.retries
  obtain ⟨window, hwindow, readWindow⟩ := carries_ticks b.window
  let names := ["enabled", "channel", "isf_id", "max_bytes", "interval", "redundants", "window"]
  let entries : List Entry :=
    [⟨"enabled", _, enabled, henabled⟩, ⟨"channel", _, channel, hchannel⟩,
      ⟨"isf_id", _, file, hfile⟩, ⟨"max_bytes", _, maxBytes, hmax⟩,
      ⟨"interval", _, interval, hinterval⟩, ⟨"redundants", _, retries, hretries⟩,
      ⟨"window", _, window, hwindow⟩]
  obtain ⟨value, hspells, hparts⟩ := exists_record entries
    (show Entry.AreNames names by decide)
  have hparts : value.record? names =
    some [enabled, channel, file, maxBytes, interval, retries, window] := hparts
  exact ⟨value, hspells, by
    simp [beacon?, names, hparts, readEnabled, readChannel, readFile, readMax, readInterval,
      readRetries, readWindow]⟩

theorem carries_scan (s : ScanConfig) : Carries (scan s) scan? s := by
  obtain ⟨channel, hchannel, readChannel⟩ := carries_octet s.channel
  obtain ⟨timeout, htimeout, readTimeout⟩ := carries_ticks s.timeout
  obtain ⟨retries, hretries, readRetries⟩ := carries_octet s.retries
  let entries : List Entry :=
    [⟨"channel", _, channel, hchannel⟩, ⟨"timeout", _, timeout, htimeout⟩,
      ⟨"redundants", _, retries, hretries⟩]
  obtain ⟨value, hspells, hparts⟩ := exists_record entries
    (show Entry.AreNames ["channel", "timeout", "redundants"] by decide)
  have hparts : value.record? ["channel", "timeout", "redundants"] =
    some [channel, timeout, retries] := hparts
  exact ⟨value, hspells, by simp [scan?, hparts, readChannel, readTimeout, readRetries]⟩

theorem carries_config (c : Config) : Carries (config c) config? c := by
  obtain ⟨device, hdevice, readDevice⟩ := carries_identity c.identity
  obtain ⟨subnet, hsubnet, readSubnet⟩ := carries_octet c.subnet
  obtain ⟨beaconSubnet, hbeaconSubnet, readBeaconSubnet⟩ := carries_octet c.beaconSubnet
  obtain ⟨linkControl, hlinkControl, readLinkControl⟩ := carries_octet c.linkControl
  obtain ⟨keyIndex, hkeyIndex, readKeyIndex⟩ := carries_octet c.keyIndex
  obtain ⟨multihop, hmultihop, readMultihop⟩ := carries_bool c.multihop
  obtain ⟨csma, hcsma, readCsma⟩ := carries_contention c.contention
  obtain ⟨beacon, hbeacon, readBeacon⟩ := carries_beacon c.beacon
  obtain ⟨scan, hscan, readScan⟩ := carries_scan c.scan
  let names := ["device", "subnet", "beacon_subnet", "tx_eirp", "key_index", "multihop", "csma",
    "beacon", "scan"]
  let entries : List Entry :=
    [⟨"device", _, device, hdevice⟩, ⟨"subnet", _, subnet, hsubnet⟩,
      ⟨"beacon_subnet", _, beaconSubnet, hbeaconSubnet⟩,
      ⟨"tx_eirp", _, linkControl, hlinkControl⟩, ⟨"key_index", _, keyIndex, hkeyIndex⟩,
      ⟨"multihop", _, multihop, hmultihop⟩, ⟨"csma", _, csma, hcsma⟩,
      ⟨"beacon", _, beacon, hbeacon⟩, ⟨"scan", _, scan, hscan⟩]
  obtain ⟨value, hspells, hparts⟩ := exists_record entries
    (show Entry.AreNames names by decide)
  have hparts : value.record? names =
    some [device, subnet, beaconSubnet, linkControl, keyIndex, multihop, csma, beacon, scan] :=
    hparts
  exact ⟨value, hspells, by
    simp [config?, names, hparts, readDevice, readSubnet, readBeaconSubnet, readLinkControl,
      readKeyIndex, readMultihop, readCsma, readBeacon, readScan]⟩

end Mode2.Document
