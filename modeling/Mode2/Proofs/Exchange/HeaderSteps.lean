import Mode2.Exchange.Header
import Mode2.Proofs.Frame.Bits
import Mode2.Proofs.FrameQueue.Reading
import Mode2.Proofs.Network.Sent
import Mode2.Proofs.Steps

/-!
# Reading a header that is there

Each step of reading a header succeeds when the bytes that it looks for come next, and
leaves the bytes after them.
-/

namespace Mode2

variable {W V α : Type}

/-- A route as it arrives: its hop code announces exactly what is there. -/
structure Route.CarriedAs (sent received : Route) : Prop where
  code : received.hopCode &&& (extensionBit ||| countBits) =
    sent.hopCode &&& (extensionBit ||| countBits)
  reserved : Octet.hasAny received.hopCode 0x10 = false
  originBit : Octet.hasAny received.hopCode originBit = sent.origin.isSome
  destinationBit : Octet.hasAny received.hopCode destinationBit = sent.destination.isSome
  extension : received.hopExtension =
    if Octet.hasAny sent.hopCode extensionBit then sent.hopExtension else 0
  origin : received.origin = sent.origin
  destination : received.destination = sent.destination

/-- The IDs that a routing block names are of the kind that the frame uses. -/
def Route.HasWidth (r : Route) (virtualIds : Bool) : Prop :=
  ∀ id, r.origin = some id ∨ r.destination = some id →
    id.bytes.length = DeviceId.widthOf virtualIds

/-- What the one cipher encrypts the other decrypts. -/
def Cipher.IsInvertedBy (enc : Cipher W) (dec : Cipher V) : Prop :=
  ∀ key bytes w v, (enc.encrypt key bytes w).1.success = true →
    (dec.decrypt key (enc.encrypt key bytes w).1.bytes v).1.success = true ∧
      (dec.decrypt key (enc.encrypt key bytes w).1.bytes v).1.bytes = bytes

/-- A frame with this subnet and dialog ID is the next of the dialog, or its first. -/
def Session.Follows (s : Session) (c : Config) (subnet dialogId : UInt8) : Prop :=
  if s.netState.connected then dialogId = s.dialogId + 1
  else subnetMatches subnet c.subnet = true

instance (s : Session) (c : Config) (subnet dialogId : UInt8) :
    Decidable (s.Follows c subnet dialogId) :=
  inferInstanceAs (Decidable (ite _ _ _))

namespace HeaderM

open ExchangeM (ends_inbound ends_perform ends_modifySession ends_modifyNetwork)

/-- The end of a header: what is remembered of it, and the routing block if there is one. -/
def readRoute (c : Config) (header : Header) : HeaderM W Destination := do
  ExchangeM.modifyNetwork fun n => { n with header, route := {} }
  if Octet.hasAny header.extension Extension.routeBit then
    let route ← route header.info.virtualIds
    ExchangeM.modifyNetwork fun n => { n with route }
    return destinationOf c route
  return .local

/-- The header after its dialog ID. -/
def readRest (env : Environment W) (c : Config) (subnet : UInt8) (info : FrameInfo)
    (extension dialogId : UInt8) : HeaderM W Destination := do
  ExchangeM.modifySession fun s => { s with flags := flagsOf info extension }
  let keyIndex ← optional info.isSecured (decryptRest env)
  let peer ← deviceId info.virtualIds
  ExchangeM.modifyNetwork fun n => { n with peer }
  if info.addressing = .unicast then
    let target ← deviceId info.virtualIds
    if !c.isNamedBy target.bytes then
      throw .address
  readRoute c { subnet, info, extension, dialogId, keyIndex }

variable {x : Exchange W} {rest : List UInt8} {bad : Rejection → Exchange W → Prop}

/-! ## Fields -/

theorem ends_octet {good : UInt8 → Exchange W → Prop} {byte : UInt8}
    (h : x.network.inbound.unread = byte :: rest)
    (hgood : ∀ queue : FrameQueue, queue.unread = rest →
      good byte { x with network.inbound := queue }) :
    Ends octet x good bad := by
  obtain ⟨queue, hread, hunread⟩ := FrameQueue.readByte_of_unread h
  refine ends_inbound ?_ (hgood queue hunread)
  unfold QueueM.readByte QueueM.take
  rw [hread]

/-- The octet that has been read was the next unread one; none is read when there is none. -/
theorem ends_octet_unread :
    Ends octet x (fun byte y => x.network.inbound.unread = byte :: y.network.inbound.unread)
      fun _ _ => x.network.inbound.unread = [] := by
  cases hunread : x.network.inbound.unread with
  | nil =>
      have hread : Ends octet x (fun byte y => [] = byte :: y.network.inbound.unread)
          fun _ _ => True := by
        refine Ends.of_run fun byte y hrun => ?_
        obtain ⟨queue, hread, rfl⟩ := ExchangeM.exists_of_inbound hrun
        rw [← hunread]
        exact FrameQueue.unread_of_readByte (QueueM.eq_ok_of_take hread)
      exact hread.imp (fun _ _ h => h) fun _ _ _ => rfl
  | cons byte rest => exact ends_octet hunread fun queue hqueue => by rw [hqueue]

theorem ends_deviceId {good : DeviceId → Exchange W → Prop} {virtualIds : Bool} {id : DeviceId}
    (hwidth : id.bytes.length = DeviceId.widthOf virtualIds)
    (h : x.network.inbound.unread = id.bytes ++ rest)
    (hgood : ∀ queue : FrameQueue, queue.unread = rest →
      good id { x with network.inbound := queue }) :
    Ends (deviceId virtualIds) x good bad := by
  obtain ⟨queue, hread, hunread⟩ := FrameQueue.read_of_unread h hwidth
  have hid : DeviceId.ofBytes? id.bytes = some id := by
    unfold DeviceId.ofBytes?
    rw [dif_pos]
    rw [hwidth]
    cases virtualIds with
    | true => exact .inl rfl
    | false => exact .inr rfl
  have hbytes : QueueM.read (DeviceId.widthOf virtualIds) x.network.inbound =
      .ok id.bytes queue := by
    unfold QueueM.read QueueM.take
    dsimp only
    rw [hread]
  refine Ends.bind (ends_inbound hbytes ?_)
  rw [hid]
  exact hgood queue hunread

theorem ends_optional {good : Option α → Exchange W → Prop} {announced : Bool}
    {field : HeaderM W α}
    (hfield : announced = true → Ends field x (fun v y => good (some v) y) bad)
    (hnone : announced = false → good none x) : Ends (optional announced field) x good bad := by
  unfold optional
  cases announced with
  | true => exact Ends.bind (hfield rfl)
  | false => exact hnone rfl

theorem ends_optional_octet {good : Option UInt8 → Exchange W → Prop} {announced : Bool}
    {byte : UInt8} (h : x.network.inbound.unread = (if announced then [byte] else []) ++ rest)
    (hgood : ∀ queue : FrameQueue, queue.unread = rest →
      good (if announced then some byte else none) { x with network.inbound := queue }) :
    Ends (optional announced octet) x good bad := by
  apply ends_optional
  · rintro rfl
    exact ends_octet h hgood
  · rintro rfl
    exact hgood x.network.inbound h

theorem ends_optional_deviceId {good : Option DeviceId → Exchange W → Prop} {virtualIds : Bool}
    {id : Option DeviceId}
    (hwidth : ∀ i, id = some i → i.bytes.length = DeviceId.widthOf virtualIds)
    (h : x.network.inbound.unread = Route.idBytes id ++ rest)
    (hgood : ∀ queue : FrameQueue, queue.unread = rest →
      good id { x with network.inbound := queue }) :
    Ends (optional id.isSome (deviceId virtualIds)) x good bad := by
  cases id with
  | none => exact hgood x.network.inbound h
  | some i => exact Ends.bind (ends_deviceId (hwidth i rfl) h hgood)

/-- A routing block is read as it was encoded. -/
theorem ends_route {good : Route → Exchange W → Prop} {virtualIds : Bool} {r : Route}
    (hwidth : r.HasWidth virtualIds) (h : x.network.inbound.unread = r.encode ++ rest)
    (hgood : ∀ (received : Route) (queue : FrameQueue), r.CarriedAs received →
      queue.unread = rest → good received { x with network.inbound := queue }) :
    Ends (route virtualIds) x good bad := by
  unfold Route.encode at h
  simp only [List.cons_append, List.append_assoc] at h
  refine Ends.bind (ends_octet h ?_)
  intro q₁ h₁
  refine Ends.bind ?_
  rw [r.extensionBit_announcedCode]
  refine ends_optional_octet h₁ ?_
  intro q₂ h₂
  refine Ends.bind ?_
  rw [r.originBit_announcedCode]
  refine ends_optional_deviceId (fun i hi => hwidth i (.inl hi)) h₂ ?_
  intro q₃ h₃
  refine Ends.bind ?_
  rw [r.destinationBit_announcedCode]
  refine ends_optional_deviceId (fun i hi => hwidth i (.inr hi)) h₃ ?_
  intro q₄ h₄
  refine hgood _ q₄ ?_ h₄
  refine ⟨r.announcedCode_and, r.reservedBit_announcedCode, r.originBit_announcedCode,
    r.destinationBit_announcedCode, ?_, rfl, rfl⟩
  dsimp only
  split <;> rfl

/-! ## The whole frame -/

/-- The footer is cut off a frame that is as long as its first byte says. -/
theorem ends_openFrame {good : Unit → Exchange W → Prop} {second : UInt8} {body footer : List UInt8}
    (h : x.network.inbound.written =
      UInt8.ofNat x.network.inbound.length :: second :: (body ++ footer))
    (hfooter : footer.length = footerLength)
    (hmin : minHeader + footerLength ≤ x.network.inbound.length)
    (hmax : x.network.inbound.length < 256)
    (hgood : ∀ queue : FrameQueue, queue.unread = body →
      good () { x with network.inbound := queue }) :
    Ends openFrame x good bad := by
  have hcount : (UInt8.ofNat x.network.inbound.length).toNat = x.network.inbound.length :=
    UInt8.toNat_ofNat_of_lt' hmax
  obtain ⟨queue, hcut, hunread⟩ := FrameQueue.cut_of_written h
  rw [hfooter] at hcut
  refine Ends.bind (Ends.get ?_)
  dsimp only
  rw [show x.network.inbound.byteAt 0 = some (UInt8.ofNat x.network.inbound.length) by
    simp [FrameQueue.byteAt, h]]
  dsimp only
  rw [hcount, if_neg (by omega)]
  refine ends_inbound ?_ (hgood queue hunread)
  unfold QueueM.change
  dsimp only
  rw [hcut]

/-- A frame is opened exactly when its first byte counts a whole frame that has arrived.
Then the footer and whatever follows it are cut off. -/
theorem ends_openFrame_cut :
    Ends openFrame x
      (fun _ y => ∃ byte queue, x.network.inbound.byteAt 0 = some byte ∧
        minHeader + footerLength ≤ byte.toNat ∧ byte.toNat ≤ x.network.inbound.length ∧
        (queue.consumed = (x.network.inbound.written.take (byte.toNat - footerLength)).take 2 ∧
          queue.unread = (x.network.inbound.written.take (byte.toNat - footerLength)).drop 2 ∧
          queue.limit = x.network.inbound.limit) ∧
        y = { x with network.inbound := queue })
      (fun _ _ => ∀ byte, x.network.inbound.byteAt 0 = some byte →
        byte.toNat < minHeader + footerLength ∨ x.network.inbound.length < byte.toNat) := by
  refine Ends.bind (Ends.get ?_)
  dsimp only
  split
  next hnone =>
    refine Ends.throw fun byte hbyte => ?_
    rw [hnone] at hbyte
    cases hbyte
  next byte hbyte =>
    split
    next hlength =>
      refine Ends.bind (Ends.throw fun byte' hbyte' => ?_)
      obtain rfl := Option.some.inj (hbyte.symm.trans hbyte')
      exact hlength
    next hlength =>
      obtain ⟨hmin, hmax⟩ := not_or.mp hlength
      unfold minHeader footerLength at hmin
      have htwo : 2 ≤ byte.toNat - footerLength := by
        unfold footerLength
        omega
      have hcount : byte.toNat - footerLength ≤ x.network.inbound.length := by omega
      obtain ⟨queue, hcut⟩ := x.network.inbound.exists_cut htwo hcount
      have hopens : QueueM.change (fun queue => do
          let queue ← queue.truncate (byte.toNat - footerLength)
          let queue ← queue.seek 0
          queue.skip 2) x.network.inbound = .ok () queue := by
        unfold QueueM.change
        dsimp only
        rw [hcut]
      have hparts := FrameQueue.parts_of_cut hcut
      refine ends_inbound hopens ⟨byte, queue, hbyte, ?_, by omega, hparts, rfl⟩
      unfold minHeader footerLength
      omega

/-! ## The dialog -/

theorem ends_followDialog {good : Unit → Exchange W → Prop} {c : Config} {subnet dialogId : UInt8}
    (h : x.session.Follows c subnet dialogId)
    (hgood : ∀ s : Session, s.dialogId = dialogId → good () { x with session := s }) :
    Ends (followDialog c subnet dialogId) x good bad := by
  refine Ends.bind (Ends.get ?_)
  unfold Session.Follows at h
  dsimp only
  split
  next hconnected =>
    rw [if_pos hconnected] at h
    rw [if_pos h]
    exact hgood { x.session with dialogId } rfl
  next hconnected =>
    rw [if_neg hconnected] at h
    rw [if_pos h]
    exact hgood { x.session.withConnected true with subnet, dialogId } rfl

/-! ## Decryption -/

theorem ends_decryptRest {good : UInt8 → Exchange W → Prop} {env : Environment W} {dec : Cipher W}
    {key : UInt8} {sealedRest plain : List UInt8} (hcipher : env.cipher = some dec)
    (h : x.network.inbound.unread = key :: sealedRest)
    (hdecrypt : ∀ w, (dec.decrypt key sealedRest w).1.success = true ∧
      (dec.decrypt key sealedRest w).1.bytes = plain)
    (hgood : ∀ (queue : FrameQueue) (w : W), queue.unread = plain →
      good key { x with network.inbound := queue, world := w }) :
    Ends (decryptRest env) x good bad := by
  refine Ends.bind (ends_octet h ?_)
  intro queue hqueue
  rw [hcipher]
  dsimp only
  refine Ends.bind (Ends.get ?_)
  dsimp only
  rw [hqueue]
  obtain ⟨hsuccess, hbytes⟩ := hdecrypt x.world
  refine Ends.bind (ends_perform (Ends.bind (ends_modifyNetwork ?_)))
  rw [if_pos hsuccess]
  refine Ends.pure (hgood _ _ ?_)
  rw [← hbytes]
  refine FrameQueue.unread_setRegion ?_
  rw [(dec.decrypt key sealedRest x.world).1.length_eq, hqueue]

/-- The rest of a frame is read as it was before it was sealed, if it was. -/
theorem ends_unseal {good : Option UInt8 → Exchange W → Prop} {env : Environment W}
    {n : NetworkLayer} {cipher : Option (Cipher V)} {v : V} {body : List UInt8} {secured : Bool}
    {key : UInt8} {start : Nat} (hseals : n.Seals cipher v body rest)
    (hsecured : n.secured = if secured then some ⟨key, start⟩ else none)
    (hcipher : secured = true → ∀ enc, cipher = some enc →
      ∃ dec, env.cipher = some dec ∧ enc.IsInvertedBy dec)
    (h : x.network.inbound.unread = (if secured then [key] else []) ++ rest)
    (hgood : ∀ (queue : FrameQueue) (w : W), queue.unread = body →
      good (if secured then some key else none) { x with network.inbound := queue, world := w }) :
    Ends (optional secured (decryptRest env)) x good bad := by
  apply ends_optional
  · rintro rfl
    cases hseals with
    | clear hnone =>
        rw [hnone] at hsecured
        cases hsecured
    | @encrypted region enc hregion hsome hsuccess =>
        rw [hregion] at hsecured
        cases hsecured
        obtain ⟨dec, hdec, hinverts⟩ := hcipher rfl enc hsome
        exact ends_decryptRest hdec h (fun w => hinverts key body v w hsuccess) hgood
  · rintro rfl
    cases hseals with
    | clear _ => exact hgood x.network.inbound x.world h
    | encrypted hregion =>
        rw [hregion] at hsecured
        cases hsecured

end HeaderM

end Mode2
