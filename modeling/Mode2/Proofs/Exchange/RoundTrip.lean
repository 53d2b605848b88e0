import Mathlib.Control.Monad.Basic
import Mode2.Proofs.Environment.View
import Mode2.Proofs.Exchange.HeaderSteps

/-!
# Frames arrive as they were sent

Whatever the header of a frame holds, and whether or not the frame is secured, the
device that it reaches reads the same header and the same payload.
-/

namespace Mode2

variable {W V : Type}

open Octet

/-! ## The extension byte -/

namespace Session

theorem routeBit_extension (s : Session) (c : Config) (nack : Bool) :
    hasAny (s.extension c nack) Extension.routeBit = s.routes c := by
  unfold extension
  rw [hasAny_or, hasAny_or, hasAny_maskIf, hasAny_maskIf, hasAny_maskIf,
    show hasAny Extension.routeBit Extension.routeBit = true from rfl,
    show hasAny Extension.blockCodingBit Extension.routeBit = false from rfl,
    show hasAny Extension.nackBit Extension.routeBit = false from rfl]
  simp

theorem blockCodingBit_extension (s : Session) (c : Config) (nack : Bool) :
    hasAny (s.extension c nack) Extension.blockCodingBit = s.flags.blockCoding := by
  unfold extension
  rw [hasAny_or, hasAny_or, hasAny_maskIf, hasAny_maskIf, hasAny_maskIf,
    show hasAny Extension.routeBit Extension.blockCodingBit = false from rfl,
    show hasAny Extension.blockCodingBit Extension.blockCodingBit = true from rfl,
    show hasAny Extension.nackBit Extension.blockCodingBit = false from rfl]
  simp

/-- An extension byte that is left out stands for zero, and only zero is left out. -/
theorem getD_extension (s : Session) (c : Config) (addressing : Addressing) (nack : Bool) :
    (if (s.frameInfo c addressing nack).extended = true then some (s.extension c nack)
      else none).getD 0 = s.extension c nack := by
  split
  · rfl
  next hzero =>
    have hzero' : s.extension c nack = 0 := by simpa [frameInfo] using hzero
    exact hzero'.symm

end Session

/-! ## Addresses -/

namespace Config

theorem length_localId (c : Config) (virtualIds : Bool) :
    (c.localId virtualIds).bytes.length = DeviceId.widthOf virtualIds := by
  cases virtualIds <;> simp [localId, DeviceId.ofVirtual, DeviceId.ofUniversal, DeviceId.widthOf]

/-- The ID is the device's own one of this kind; a virtual ID has to be assigned. -/
def Owns (c : Config) (id : DeviceId) (virtualIds : Bool) : Prop :=
  id = c.localId virtualIds ∧ (virtualIds = true → c.hasVirtualId = true)

instance (c : Config) (id : DeviceId) (virtualIds : Bool) : Decidable (c.Owns id virtualIds) :=
  inferInstanceAs (Decidable (_ ∧ _))

/-- A device answers to the IDs that it owns. -/
theorem isNamedBy_of_owns {c : Config} {id : DeviceId} {virtualIds : Bool}
    (h : c.Owns id virtualIds) : c.isNamedBy id.bytes = true := by
  obtain ⟨rfl, hassigned⟩ := h
  cases virtualIds with
  | true =>
      have hvid := hassigned rfl
      have hne : c.identity.vid.toList ≠ [0, 0] := by
        intro hzero
        have : c.identity.vid = #v[0, 0] := Vector.toList_inj.mp hzero
        simp [hasVirtualId, this] at hvid
      simp [isNamedBy, localId, DeviceId.ofVirtual, hvid, hne]
  | false => simp [isNamedBy, localId, DeviceId.ofUniversal]

/-- A device answers to no other ID of the same kind. -/
theorem isNamedBy_iff_owns {c : Config} {id : DeviceId} {virtualIds : Bool}
    (hwidth : id.bytes.length = DeviceId.widthOf virtualIds) :
    c.isNamedBy id.bytes = true ↔ c.Owns id virtualIds := by
  constructor
  · intro hnamed
    cases virtualIds with
    | true =>
        have htwo : id.bytes.length = 2 := hwidth
        simp only [isNamedBy, if_pos htwo, Bool.and_eq_true, beq_iff_eq] at hnamed
        exact ⟨DeviceId.ext hnamed.2, fun _ => hnamed.1.1⟩
    | false =>
        have height : id.bytes.length = 8 := hwidth
        have hne : ¬id.bytes.length = 2 := by omega
        simp only [isNamedBy, if_neg hne, Bool.and_eq_true, beq_iff_eq] at hnamed
        exact ⟨DeviceId.ext hnamed.2, nofun⟩
  · exact isNamedBy_of_owns

end Config

/-! ## What the receiver knows -/

/-- The receiver, with configuration `c'`, knows the header, the sender, the route and
the payload of the frame that went out in the dialog `s` of a device with configuration
`c`, and whom the frame is for. -/
structure Recovered (c c' : Config) (n : NetworkLayer) (s : Session) (addressing : Addressing)
    (nack : Bool) (payload : List UInt8) (destination : Destination) (y : Exchange V) : Prop where
  header : y.network.header =
    { subnet := s.subnet
      info := s.frameInfo c addressing nack
      extension := s.extension c nack
      dialogId := s.dialogId
      keyIndex := if s.flags.isSecured then some c.keyIndex else none }
  peer : y.network.peer = c.localId s.flags.virtualIds
  flags : y.session.flags = { s.flags with route := s.routes c, unassigned := (false, false) }
  dialogId : y.session.dialogId = s.dialogId
  route : if s.routes c then n.route.CarriedAs y.network.route else y.network.route = {}
  payload : y.network.inbound.unread = payload
  destination : destination =
    if s.routes c then HeaderM.destinationOf c' y.network.route else .local

namespace HeaderM

open ExchangeM (ends_modifySession ends_modifyNetwork)

variable {x : Exchange V} {bad : Rejection → Exchange V → Prop}

theorem flagsOf_frameInfo (c : Config) (s : Session) (addressing : Addressing) (nack : Bool) :
    flagsOf (s.frameInfo c addressing nack) (s.extension c nack) =
      { s.flags with route := s.routes c, unassigned := (false, false) } := by
  unfold flagsOf
  rw [s.routeBit_extension, s.blockCodingBit_extension]
  rfl

/-- The end of a header: the routing block, if the extension announces one. -/
theorem ends_readRoute {c c' : Config} {n : NetworkLayer} {s : Session} {addressing : Addressing}
    {nack : Bool} {payload : List UInt8}
    (hroute : s.routes c = true → n.route.HasWidth s.flags.virtualIds)
    (hpeer : x.network.peer = c.localId s.flags.virtualIds)
    (hflags : x.session.flags =
      { s.flags with route := s.routes c, unassigned := (false, false) })
    (hdialog : x.session.dialogId = s.dialogId)
    (h : x.network.inbound.unread = (if s.routes c then n.route.encode else []) ++ payload) :
    Ends (readRoute c'
        { subnet := s.subnet
          info := s.frameInfo c addressing nack
          extension := s.extension c nack
          dialogId := s.dialogId
          keyIndex := if s.flags.isSecured then some c.keyIndex else none }) x
      (fun destination y => Recovered c c' n s addressing nack payload destination y) bad := by
  refine Ends.bind (ends_modifyNetwork ?_)
  dsimp only
  rw [s.routeBit_extension]
  split
  next hroutes =>
    rw [if_pos hroutes] at h
    refine Ends.bind (ends_route (hroute hroutes) h ?_)
    intro received queue hcarried hunread
    refine Ends.bind (ends_modifyNetwork (Ends.pure ?_))
    refine ⟨rfl, hpeer, hflags, hdialog, ?_, hunread, ?_⟩
    · rw [if_pos hroutes]
      exact hcarried
    · rw [if_pos hroutes]
  next hroutes =>
    rw [if_neg hroutes] at h
    refine Ends.pure ⟨rfl, hpeer, hflags, hdialog, ?_, h, ?_⟩
    · rw [if_neg hroutes]
    · rw [if_neg hroutes]

theorem ends_readAddressed {c c' : Config} {env : Environment V} {n headed : NetworkLayer}
    {s : Session} {addressing : Addressing} {nack : Bool} {payload rest : List UInt8}
    {cipher : Option (Cipher W)} {w : W} {start : Nat}
    (hseals : headed.Seals cipher w (n.addressHeader c s addressing ++ payload) rest)
    (hsecured : headed.secured = if s.flags.isSecured then some ⟨c.keyIndex, start⟩ else none)
    (hconflict : s.flags.isConflicting = false)
    (hroute : s.routes c = true → n.route.HasWidth s.flags.virtualIds)
    (htarget : addressing = .unicast → c'.Owns n.peer s.flags.virtualIds)
    (hcipher : s.flags.isSecured = true → ∀ enc, cipher = some enc →
      ∃ dec, env.cipher = some dec ∧ enc.IsInvertedBy dec)
    (hfollow : x.session.Follows c' s.subnet s.dialogId)
    (h : x.network.inbound.unread =
      (if s.extension c nack != 0 then [s.extension c nack] else []) ++ s.dialogId ::
        ((if s.flags.isSecured then [c.keyIndex] else []) ++ rest)) :
    Ends (readAddressed env c' s.subnet (s.frameInfo c addressing nack)) x
      (fun destination y => Recovered c c' n s addressing nack payload destination y) bad := by
  unfold readAddressed
  refine Ends.bind (ends_optional_octet h ?_)
  intro q₁ h₁
  rw [s.getD_extension]
  dsimp only
  have hboth : ¬((s.frameInfo c addressing nack).linkSecurity &&
      (s.frameInfo c addressing nack).networkSecurity) = true := by
    change ¬s.flags.isConflicting = true
    rw [hconflict]
    exact Bool.false_ne_true
  rw [if_neg hboth]
  refine Ends.bind (ends_octet h₁ ?_)
  intro q₂ h₂
  refine Ends.bind (ends_followDialog hfollow ?_)
  intro followed hfollowed
  refine Ends.bind (ends_modifySession ?_)
  refine Ends.bind (ends_unseal hseals hsecured hcipher h₂ ?_)
  intro q₃ v h₃
  -- What was sealed is in the clear again.
  unfold NetworkLayer.addressHeader at h₃
  simp only [List.append_assoc] at h₃
  refine Ends.bind (ends_deviceId (c.length_localId s.flags.virtualIds) h₃ ?_)
  intro q₄ h₄
  refine Ends.bind (ends_modifyNetwork ?_)
  split
  next haddressing =>
    change addressing = .unicast at haddressing
    have hwidth : n.peer.bytes.length = DeviceId.widthOf s.flags.virtualIds := by
      rw [(htarget haddressing).1]
      exact c'.length_localId s.flags.virtualIds
    rw [if_pos haddressing] at h₄
    refine Ends.bind (ends_deviceId hwidth h₄ ?_)
    intro q₅ h₅
    rw [Config.isNamedBy_of_owns (htarget haddressing)]
    exact ends_readRoute hroute rfl (flagsOf_frameInfo c s addressing nack) hfollowed h₅
  next haddressing =>
    change ¬addressing = .unicast at haddressing
    rw [if_neg haddressing] at h₄
    exact ends_readRoute hroute rfl (flagsOf_frameInfo c s addressing nack) hfollowed h₄

/-- Up to its extension byte a frame that has been sent is read as it was staged. -/
theorem ends_read_clear {c c' : Config} {env : Environment V} {n headed sent : NetworkLayer}
    {s t : Session} {addressing : Addressing} {nack : Bool} {payload : List UInt8}
    {queue : FrameQueue} {cipher : Option (Cipher W)} {w w' : W}
    {good : Destination → Exchange V → Prop}
    (hheader : n.stageHeader c s addressing nack = .ok (t, headed))
    (hpayload : headed.outbound.append payload = .ok queue)
    (hfooter : ({ headed with outbound := queue } : NetworkLayer).complete cipher w =
      ((.ok (), sent), w'))
    (h : x.network.inbound.written = sent.outbound.written)
    (hrest : ∀ (rest : List UInt8) (inbound : FrameQueue),
      headed.Seals cipher w (n.addressHeader c t addressing ++ payload) rest →
      inbound.unread = (if t.extension c nack != 0 then [t.extension c nack] else []) ++
        t.dialogId :: ((if t.flags.isSecured then [c.keyIndex] else []) ++ rest) →
      Ends (readAddressed env c' t.subnet (t.frameInfo c addressing nack))
        { x with network.inbound := inbound } good bad) :
    Ends (read env c') x good bad := by
  have hheaded := NetworkLayer.headed_of_stageHeader hheader
  obtain ⟨rest, hseals, hwritten⟩ := NetworkLayer.written_complete hheaded hpayload hfooter
  obtain ⟨hmin, hmax, -⟩ := NetworkLayer.isCompleteFrame_complete
    ((NetworkLayer.isOpen_stageHeader hheader).append hpayload) hfooter
  have hlength : x.network.inbound.length = sent.outbound.length := by
    rw [FrameQueue.length_eq, h, FrameQueue.length_written]
  rw [FrameQueue.length_written] at hmin hmax
  unfold read
  rw [← h, ← hlength] at hwritten
  refine Ends.bind (ends_openFrame hwritten List.length_replicate ?_ ?_ ?_)
  · rw [hlength]
    exact hmin
  · rw [hlength]
    exact Nat.lt_of_le_of_lt hmax (by decide)
  intro q₁ h₁
  unfold NetworkLayer.clearRest at h₁
  simp only [List.cons_append, List.append_assoc] at h₁
  refine Ends.bind (ends_octet h₁ ?_)
  intro q₂ h₂
  refine Ends.bind (ends_octet h₂ ?_)
  intro q₃ h₃
  rw [FrameInfo.ofByte_toByte]
  -- Frames that are staged with a header are never datastream frames.
  dsimp only
  rw [show (t.frameInfo c addressing nack).datastream = false from rfl,
    if_neg Bool.false_ne_true]
  exact hrest rest q₃ hseals h₃

/-- A frame that has been sent is read as it was staged. -/
theorem ends_read {c c' : Config} {env : Environment V} {n headed sent : NetworkLayer}
    {s t : Session} {addressing : Addressing} {nack : Bool} {payload : List UInt8}
    {queue : FrameQueue} {cipher : Option (Cipher W)} {w w' : W}
    (hheader : n.stageHeader c s addressing nack = .ok (t, headed))
    (hpayload : headed.outbound.append payload = .ok queue)
    (hfooter : ({ headed with outbound := queue } : NetworkLayer).complete cipher w =
      ((.ok (), sent), w'))
    (hroute : s.routes c = true → n.route.HasWidth s.flags.virtualIds)
    (htarget : addressing = .unicast → c'.Owns n.peer s.flags.virtualIds)
    (hcipher : s.flags.isSecured = true → ∀ enc, cipher = some enc →
      ∃ dec, env.cipher = some dec ∧ enc.IsInvertedBy dec)
    (hfollow : x.session.Follows c' t.subnet t.dialogId)
    (h : x.network.inbound.written = sent.outbound.written) :
    Ends (read env c') x
      (fun destination y => Recovered c c' n t addressing nack payload destination y) bad := by
  have hheaded := NetworkLayer.headed_of_stageHeader hheader
  obtain rfl := hheaded.session
  have hsecured := hheaded.secured
  rw [← s.flags_advanceDialog] at hsecured
  refine ends_read_clear hheader hpayload hfooter h fun rest inbound hseals hunread => ?_
  refine ends_readAddressed hseals hsecured ?_ ?_ ?_ ?_ hfollow hunread
  · rw [Session.flags_advanceDialog]
    exact hheaded.conflict
  · simpa [Session.routes] using hroute
  · simpa using htarget
  · simpa using hcipher

/-- A frame that has been sent is accepted by the device that it is for, which recovers
all that it carries: its header, its sender, its route and its payload. -/
theorem recovers_sent {c c' : Config} {env : Environment V} {n headed sent : NetworkLayer}
    {s t : Session} {addressing : Addressing} {nack : Bool} {payload : List UInt8}
    {queue : FrameQueue} {cipher : Option (Cipher W)} {w w' : W}
    (hheader : n.stageHeader c s addressing nack = .ok (t, headed))
    (hpayload : headed.outbound.append payload = .ok queue)
    (hfooter : ({ headed with outbound := queue } : NetworkLayer).complete cipher w =
      ((.ok (), sent), w'))
    (hroute : s.routes c = true → n.route.HasWidth s.flags.virtualIds)
    (htarget : addressing = .unicast → c'.Owns n.peer s.flags.virtualIds)
    (hcipher : s.flags.isSecured = true → ∀ enc, cipher = some enc →
      ∃ dec, env.cipher = some dec ∧ enc.IsInvertedBy dec)
    (hfollow : x.session.Follows c' t.subnet t.dialogId) :
    ∃ inbound destination y, FrameQueue.load sent.outbound.written = .ok inbound ∧
      (read env c').run { x with network.inbound := inbound } = .ok destination y ∧
      Recovered c c' n t addressing nack payload destination y := by
  have hlength : sent.outbound.written.length ≤ queueCapacity := by
    rw [FrameQueue.length_written]
    exact Nat.le_trans sent.outbound.length_le_limit sent.outbound.limit_le_capacity
  obtain ⟨inbound, hload⟩ := FrameQueue.exists_load hlength
  have hwritten : inbound.written = sent.outbound.written := by
    obtain ⟨hconsumed, hunread⟩ := FrameQueue.load_eq_ok hload
    rw [FrameQueue.written, hconsumed, hunread, List.nil_append]
  have hends : Ends (read env c') { x with network.inbound := inbound }
      (fun destination y => Recovered c c' n t addressing nack payload destination y)
      (fun _ _ => False) :=
    ends_read hheader hpayload hfooter hroute htarget hcipher hfollow hwritten
  obtain ⟨destination, y, hrun, hrecovered⟩ := hends.exists_ok
  exact ⟨inbound, destination, y, hload, hrun, hrecovered⟩

/-- A cipher that flips the bits of a mask and of the key. -/
def maskingCipher (mask : UInt8) : Cipher W where
  encrypt key bytes w := (⟨bytes.map (· ^^^ (mask ^^^ key)), true, List.length_map _⟩, w)
  decrypt key bytes w := (⟨bytes.map (· ^^^ (mask ^^^ key)), true, List.length_map _⟩, w)

theorem isInvertedBy_maskingCipher (mask : UInt8) :
    (maskingCipher mask : Cipher W).IsInvertedBy (maskingCipher mask : Cipher V) := by
  intro key bytes w v _
  refine ⟨rfl, ?_⟩
  dsimp only [maskingCipher]
  rw [List.map_map]
  refine List.map_id'' ?_ bytes
  intro byte
  dsimp only [Function.comp_apply]
  rw [UInt8.xor_assoc, UInt8.xor_self, UInt8.xor_zero]

/-- A secured frame for one device, with a routing block, arrives. -/
theorem recovers_sent_masked :
    let c : Config :=
      { Config.default with identity.vid := #v[0xAA, 0xBB], keyIndex := 2, multihop := true }
    let c' : Config := { Config.default with identity.vid := #v[0x12, 0x34] }
    let flags : DialogFlags := { networkSecurity := true, virtualIds := true, route := true }
    let s : Session := ⟨0, 0x10, { substate := .requestTx }, flags, 3, 0xF0, 0, none⟩
    let route : Route :=
      { hopCode := 0x8F, hopExtension := 7, origin := some (.ofVirtual #v[0x56, 0x78]) }
    let n : NetworkLayer := { peer := c'.localId true, route }
    let x : Exchange Unit := ⟨⟨.initial 5, {}, {}, ()⟩, s⟩
    ∃ inbound destination y,
      FrameQueue.load [0x13, 0x7F, 0xF0, 0x38, 0x80, 3, 2, 0xF2, 0xE3, 0x4A, 0x6C, 0x97, 0x5F,
        0x0E, 0x20, 0x0D, 0x3E, 0, 0] = .ok inbound ∧
      (read { Environment.obliging with cipher := some (maskingCipher 0x5A) } c').run
        { x with network.inbound := inbound } = .ok destination y ∧
      Recovered c c' n s.advanceDialog .unicast false [0x55, 0x66] destination y := by
  intro c c' flags s route n x
  let headed : NetworkLayer :=
    { n with
      outbound := ⟨[], [0, 0, 0xF0, 0x38, 0x80, 3, 2, 0xAA, 0xBB, 0x12, 0x34, 0xCF, 7, 0x56, 0x78],
        254, by decide, by decide⟩
      linkControl := 0x7F
      secured := some ⟨2, 7⟩ }
  let queue : FrameQueue :=
    ⟨[], headed.outbound.unread ++ [0x55, 0x66], 254, by decide, by decide⟩
  let sent : NetworkLayer :=
    { headed with
      outbound := ⟨[], [0x13, 0x7F, 0xF0, 0x38, 0x80, 3, 2, 0xF2, 0xE3, 0x4A, 0x6C, 0x97, 0x5F,
        0x0E, 0x20, 0x0D, 0x3E, 0, 0], 254, by decide, by decide⟩ }
  have hheader : n.stageHeader c s .unicast false = .ok (s.advanceDialog, headed) := by
    decide +kernel
  have hpayload : headed.outbound.append [0x55, 0x66] = .ok queue := by decide +kernel
  have hfooter : ({ headed with outbound := queue } : NetworkLayer).complete
      (some (maskingCipher 0x5A)) () = ((.ok (), sent), ()) := rfl
  refine recovers_sent hheader hpayload hfooter ?_ ?_ ?_ ?_
  · rintro - id (hid | hid)
    · cases hid
      rfl
    · cases hid
  · intro _
    decide
  · intro _ enc henc
    cases henc
    exact ⟨_, rfl, isInvertedBy_maskingCipher 0x5A⟩
  · decide

end HeaderM

end Mode2
