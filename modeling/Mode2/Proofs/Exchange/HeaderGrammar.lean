import Mode2.Exchange.Header
import Mode2.Proofs.Exchange.HeaderSteps
import Mode2.Proofs.FrameQueue.Grammar

/-!
# The bytes of header fields

The fields of a header are read from exactly the bytes that spell them: single bytes, the IDs
of devices, fields that are there only when they were announced, and routing blocks.
-/

namespace Mode2

variable {W α β : Type}

/-! ## Routing blocks -/

namespace Route

/-- The bytes of a routing block as it arrives. -/
def spelling (r : Route) : List UInt8 :=
  r.hopCode :: ((if Octet.hasAny r.hopCode extensionBit then [r.hopExtension] else []) ++
    (idBytes r.origin ++ idBytes r.destination))

/-- The hop code announces what the block holds. -/
structure IsBlock (virtualIds : Bool) (r : Route) : Prop where
  extension : Octet.hasAny r.hopCode extensionBit = false → r.hopExtension = 0
  origin : r.origin.isSome = Octet.hasAny r.hopCode originBit
  destination : r.destination.isSome = Octet.hasAny r.hopCode destinationBit
  width : r.HasWidth virtualIds

end Route

namespace HeaderM

/-! ## Fields -/

/-- What is read has been spelled by the next bytes, and only the frame has been read on. -/
def Spelled (field : HeaderM W α) (Spells : α → List UInt8 → Prop) : Prop :=
  ∀ x, Ends field x
    (fun value y => ∃ bytes queue, Spells value bytes ∧
      x.network.inbound.unread = bytes ++ queue.unread ∧
      y = { x with network.inbound := queue })
    fun _ _ => True

/-- A field that is there exactly when it was announced. -/
def SpellsOptional (announced : Bool) (Spells : α → List UInt8 → Prop) (value : Option α)
    (bytes : List UInt8) : Prop :=
  match value with
  | some a => announced = true ∧ Spells a bytes
  | none => announced = false ∧ bytes = []

/-- The bytes are an ID of the kind that the frame uses. -/
def SpellsId (virtualIds : Bool) (id : DeviceId) (bytes : List UInt8) : Prop :=
  bytes = id.bytes ∧ id.bytes.length = DeviceId.widthOf virtualIds

namespace Spelled

theorem pure (value : α) :
    Spelled (Pure.pure value : HeaderM W α) fun value' bytes => value' = value ∧ bytes = [] :=
  fun x => ⟨[], x.network.inbound, ⟨rfl, rfl⟩, rfl, rfl⟩

theorem bind {field : HeaderM W α} {Spells : α → List UInt8 → Prop} (h : Spelled field Spells)
    {next : α → HeaderM W β} {Spells' : α → β → List UInt8 → Prop}
    (hnext : ∀ value, Spelled (next value) (Spells' value)) :
    Spelled (field >>= next) fun result bytes => ∃ value first second,
      Spells value first ∧ Spells' value result second ∧ bytes = first ++ second := by
  intro x
  refine Ends.bind ((h x).imp ?_ fun _ _ h => h)
  rintro value _ ⟨first, queue, hfirst, hunread, rfl⟩
  refine (hnext value _).imp ?_ fun _ _ h => h
  rintro result _ ⟨second, queue', hsecond, hunread', rfl⟩
  refine ⟨first ++ second, queue', ⟨value, first, second, hfirst, hsecond, rfl⟩, ?_, rfl⟩
  rw [hunread, hunread', List.append_assoc]

/-- The same spellings in other words. -/
theorem imp {field : HeaderM W α} {Spells Spells' : α → List UInt8 → Prop}
    (h : Spelled field Spells) (himp : ∀ value bytes, Spells value bytes → Spells' value bytes) :
    Spelled field Spells' := by
  intro x
  refine (h x).imp ?_ fun _ _ h => h
  rintro value _ ⟨bytes, queue, hspells, hunread, rfl⟩
  exact ⟨bytes, queue, himp value bytes hspells, hunread, rfl⟩

theorem optional (announced : Bool) {field : HeaderM W α} {Spells : α → List UInt8 → Prop}
    (h : Spelled field Spells) :
    Spelled (HeaderM.optional announced field) (SpellsOptional announced Spells) := by
  cases announced with
  | false => exact (pure none).imp fun _ _ ⟨hnone, hbytes⟩ => by rw [hnone]; exact ⟨rfl, hbytes⟩
  | true =>
      intro x
      refine Ends.bind ((h x).imp ?_ fun _ _ h => h)
      rintro value _ ⟨bytes, queue, hspells, hunread, rfl⟩
      exact ⟨bytes, queue, ⟨rfl, hspells⟩, hunread, rfl⟩

end Spelled

theorem spelled_inbound {reader : QueueM α} {Spells : α → List UInt8 → Prop}
    (h : QueueM.ReadsAs reader Spells) :
    Spelled (ExchangeM.inbound .truncated reader : HeaderM W α) Spells := by
  refine fun x => Ends.of_run fun value y hrun => ?_
  obtain ⟨queue, hread, rfl⟩ := ExchangeM.exists_of_inbound hrun
  obtain ⟨bytes, hspells, hunread⟩ := h.spelled hread
  exact ⟨bytes, queue, hspells, hunread, rfl⟩

theorem spelled_octet : Spelled (octet : HeaderM W UInt8) fun byte bytes => bytes = [byte] :=
  spelled_inbound QueueM.readByte_readsAs

theorem spelled_deviceId (virtualIds : Bool) :
    Spelled (deviceId virtualIds : HeaderM W DeviceId) (SpellsId virtualIds) := by
  intro x
  refine Ends.bind ((spelled_inbound (QueueM.read_readsAs _) x).imp ?_ fun _ _ h => h)
  rintro bytes _ ⟨_, queue, ⟨rfl, hlength⟩, hunread, rfl⟩
  split
  next id hid =>
    unfold DeviceId.ofBytes? at hid
    split at hid
    · cases hid
      exact Ends.pure ⟨_, queue, ⟨rfl, hlength⟩, hunread, rfl⟩
    · cases hid
  · exact Ends.throw trivial

theorem idBytes_of_spellsOptional {announced virtualIds : Bool} {id : Option DeviceId}
    {bytes : List UInt8} (h : SpellsOptional announced (SpellsId virtualIds) id bytes) :
    bytes = Route.idBytes id ∧ id.isSome = announced ∧
      ∀ i ∈ id, i.bytes.length = DeviceId.widthOf virtualIds := by
  cases id with
  | none => exact ⟨h.2, h.1.symm, nofun⟩
  | some i =>
      obtain ⟨hannounced, rfl, hwidth⟩ := h
      refine ⟨rfl, hannounced.symm, ?_⟩
      rintro _ ⟨⟩
      exact hwidth

theorem spelled_route (virtualIds : Bool) :
    Spelled (route virtualIds : HeaderM W Route) fun r bytes =>
      bytes = r.spelling ∧ r.IsBlock virtualIds := by
  refine Spelled.imp (.bind spelled_octet fun hopCode =>
    .bind (.optional _ spelled_octet) fun hopExtension =>
    .bind (.optional _ (spelled_deviceId virtualIds)) fun origin =>
    .bind (.optional _ (spelled_deviceId virtualIds)) fun destination => .pure _) ?_
  rintro _ _ ⟨hopCode, _, _, rfl, ⟨hopExtension, _, _, hextension, ⟨origin, _, _, horigin,
    ⟨destination, _, _, hdestination, ⟨rfl, rfl⟩, rfl⟩, rfl⟩, rfl⟩, rfl⟩
  obtain ⟨rfl, hnamed, howidth⟩ := idBytes_of_spellsOptional horigin
  obtain ⟨rfl, hmeant, hdwidth⟩ := idBytes_of_spellsOptional hdestination
  have hwidth : ∀ id, origin = some id ∨ destination = some id →
      id.bytes.length = DeviceId.widthOf virtualIds := by
    rintro id (hid | hid)
    · exact howidth id hid
    · exact hdwidth id hid
  cases hopExtension with
  | none =>
      obtain ⟨hnone, rfl⟩ := hextension
      exact ⟨by simp [Route.spelling, hnone], fun _ => rfl, hnamed, hmeant, hwidth⟩
  | some extension =>
      obtain ⟨hsome, rfl⟩ := hextension
      refine ⟨by simp [Route.spelling, hsome], fun hnone => ?_, hnamed, hmeant, hwidth⟩
      rw [hsome] at hnone
      cases hnone

end HeaderM

end Mode2
