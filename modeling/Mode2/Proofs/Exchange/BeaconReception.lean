import Mode2.Proofs.Exchange.BeaconFrame
import Mode2.Proofs.Exchange.Declined
import Mode2.Proofs.Query.Decoding

/-!
# Beacons as they are heard

A device that waits for the first frame of a dialog reads a beacon of its subnet as what it
begins with: a call that wants no response. The return behind the call is not looked at. The
dialog ends, no frame is staged and no file is opened.
-/

namespace Mode2

open QueueM (readByte_readsAs)

variable {V : Type} {c c' : Config} {env : Environment V} {x : Exchange V}

namespace Config

/-- The command of a beacon. -/
def beaconCommand (c : Config) : Command :=
  { code := 0xA0, options := 0x01 ||| (c.contention.params &&& 0x38) }

theorem beaconCommand_hasOptions (c : Config) :
    Octet.hasAny c.beaconCommand.code Command.optionsBit = true :=
  show Octet.hasAny 0xA0 Command.optionsBit = true by decide

theorem kindOf?_beaconCommand (c : Config) :
    Command.kindOf? c.beaconCommand.code = some (.request .direct) :=
  show Command.kindOf? 0xA0 = some (.request .direct) by decide

theorem group_beaconCommand (c : Config) : c.beaconCommand.group = .announcement :=
  show Command.groupOf (0xA0 &&& Command.operationBits) = .announcement by decide

/-- A beacon declines its response, however devices are to contend. -/
theorem beaconCommand_declines (c : Config) :
    c.beaconCommand.has Command.noResponseBit = true := by
  rw [Command.has, beaconCommand, Octet.hasAny_or]
  rfl

/-- The call of a beacon is one for a single file. -/
theorem wellFormed_beaconCall (c : Config) :
    (Call.ofFile c.beacon.file c.beacon.maxBytes).WellFormed c.beaconCommand.callsSeries := by
  have hsingle : c.beaconCommand.callsSeries = false :=
    show Octet.hasAny (0xA0 &&& Command.operationBits) 0x01 = false by decide
  rw [hsingle]
  exact ⟨rfl, nofun, fun _ => ⟨rfl, show (0 : UInt8).toUInt16.toNat < 256 by decide⟩⟩

theorem beaconCall_eq (c : Config) : c.beaconCall =
    c.beaconCommand.encode ++ 0 :: (Call.ofFile c.beacon.file c.beacon.maxBytes).encode := by
  rw [Command.encode, if_pos c.beaconCommand_hasOptions]
  rfl

end Config

namespace HeaderM

/-- Whoever a beacon reaches before another frame of the dialog finds the call in it and what
stands behind the call. -/
theorem ends_read_beaconFrame {dialogId : UInt8} {file checksum : List UInt8}
    {bad : Rejection → Exchange V → Prop} (hchecksum : checksum.length = footerLength)
    (hwritten : x.network.inbound.written = c.beaconFrame dialogId file checksum)
    (hunconnected : x.session.netState.connected = false)
    (hsubnet : subnetMatches c.beaconSubnet c'.subnet = true) :
    Ends (read env c') x
      (fun destination y => destination = .local ∧
        y.network.inbound.unread =
          c.beaconCall ++ (c.beaconReturn file.length ++ c.beaconData dialogId file) ∧
        y.network.outbound = x.network.outbound ∧ y.world = x.world) bad := by
  obtain ⟨hmin, hmax, -⟩ :=
    hwritten ▸ c.isCompleteFrame_beaconFrame dialogId file checksum hchecksum
  rw [FrameQueue.length_written] at hmin hmax
  let info : FrameInfo := { virtualIds := c.hasVirtualId, addressing := .broadcast }
  let payload := c.beaconCall ++ (c.beaconReturn file.length ++ c.beaconData dialogId file)
  have hinfo : FrameInfo.ofByte (if c.hasVirtualId then 0x12 else 0x02) = info := by
    dsimp only [info]
    cases c.hasVirtualId <;> decide
  have hopened : x.network.inbound.written =
      UInt8.ofNat x.network.inbound.length :: c.linkControl ::
        ((c.beaconSubnet :: (if c.hasVirtualId then 0x12 else 0x02) :: dialogId ::
          ((c.localId c.hasVirtualId).bytes ++ payload)) ++ checksum) := by
    have hlength := congrArg List.length hwritten
    rw [FrameQueue.length_written] at hlength
    rw [hlength, hwritten]
    simp [Config.beaconFrame, Config.beaconFront, Config.beaconHeader, payload, Nat.add_comm]
  unfold read
  refine Ends.bind (ends_openFrame hopened hchecksum hmin (Nat.lt_of_le_of_lt hmax (by decide)) ?_)
  intro q₁ h₁
  refine Ends.bind (ends_octet h₁ ?_)
  intro q₂ h₂
  refine Ends.bind (ends_octet h₂ ?_)
  intro q₃ h₃
  rw [hinfo]
  -- There is neither an extension byte nor a key, and a broadcast names nobody.
  refine Ends.bind (ends_optional (absurd · Bool.false_ne_true) fun _ => ?_)
  refine Ends.bind (ends_octet h₃ ?_)
  intro q₄ h₄
  refine Ends.bind (ends_followDialog ?_ ?_)
  · rw [Session.Follows, hunconnected, if_neg Bool.false_ne_true]
    exact hsubnet
  intro s _
  refine Ends.bind (ExchangeM.ends_modifySession ?_)
  refine Ends.bind (ends_optional (absurd · Bool.false_ne_true) fun _ => ?_)
  refine Ends.bind (ends_deviceId (c.length_localId c.hasVirtualId) h₄ ?_)
  intro q₅ h₅
  refine Ends.bind (ExchangeM.ends_modifyNetwork ?_)
  exact Ends.bind (ExchangeM.ends_modifyNetwork (Ends.pure ⟨rfl, h₅, rfl, rfl⟩))

end HeaderM

namespace Exchange

/-- Nothing comes of a frame but the end of its dialog. -/
structure EndedQuietly (x y : Exchange V) : Prop where
  scrapped : y.session.netState.scrapped = true
  outbound : y.network.outbound = x.network.outbound
  world : y.world = x.world

/-- A call without arbitration that declines its response is read but not answered, and what
stands behind it is not looked at. -/
theorem ends_handleData_unanswered {command : Command} {call : Call} {code : UInt8}
    {rest : List UInt8} {bad : Score → Exchange V → Prop}
    (hoptions : Octet.hasAny command.code Command.optionsBit = true)
    (hkind : Command.kindOf? command.code = some (.request .direct))
    (hgroup : command.group = .announcement)
    (hdeclined : command.has Command.noResponseBit = true)
    (hunlisted : Octet.hasAny code channelListBit = false)
    (hwell : call.WellFormed command.callsSeries)
    (hunread : x.network.inbound.unread = command.encode ++ (code :: (call.encode ++ rest))) :
    Ends (handleData env c) x (fun score y => score = 0 ∧ EndedQuietly x y) bad := by
  have hcommand : command.WellFormed := fun hnone => absurd hoptions (by simp [hnone])
  obtain ⟨q₁, hread₁, h₁⟩ := commandBytes_readsAs.accepts ⟨hcommand, rfl⟩ hunread
  obtain ⟨q₂, hread₂, h₂⟩ := readByte_readsAs.accepts (show [code] = [code] from rfl) h₁
  obtain ⟨q₃, hread₃, -⟩ := (Call.parse_readsAs command.callsSeries).accepts ⟨hwell, rfl⟩ h₂
  refine Ends.bind (ExchangeM.ends_modifyTransport (Ends.bind ?_))
  refine ExchangeM.ends_inbound hread₁ (Ends.bind (ExchangeM.ends_modifyTransport ?_))
  dsimp only
  rw [hkind]
  refine Ends.bind (Ends.get ?_)
  dsimp only
  rw [hgroup, if_neg (by decide)]
  -- The window and the channel of the response are read, although there will be none.
  refine Ends.bind (Ends.bind (Ends.get (Ends.bind (ExchangeM.ends_modifyAccess (Ends.bind ?_)))))
  refine ExchangeM.ends_inbound hread₂ (Ends.bind (ExchangeM.ends_modifyAccess ?_))
  rw [hunlisted, if_neg Bool.false_ne_true]
  refine ExchangeM.ends_modifyAccess (Ends.bind (Ends.pure (Ends.bind ?_)))
  refine Ends.bind (Ends.get (Ends.bind (ExchangeM.ends_inbound hread₃ ?_)))
  exact ends_respond_declined c _ hdeclined (Ends.pure ⟨rfl, rfl, rfl, rfl⟩)

/-- A beacon ends the dialog in which it is the first frame to arrive, and nothing else comes
of it. -/
theorem receive_beaconFrame (env : Environment V) {dialogId : UInt8} {file checksum : List UInt8}
    (hchecksum : checksum.length = footerLength)
    (hwritten : x.network.inbound.written = c.beaconFrame dialogId file checksum)
    (hunconnected : x.session.netState.connected = false)
    (hsubnet : subnetMatches c.beaconSubnet c'.subnet = true) :
    (x.receive env c').1 = 0 ∧ EndedQuietly x (x.receive env c').2 := by
  have hread : Ends (HeaderM.read env c') x _ fun _ _ => False :=
    HeaderM.ends_read_beaconFrame hchecksum hwritten hunconnected hsubnet
  obtain ⟨destination, y, hrun, rfl, hunread, houtbound, hworld⟩ := hread.exists_ok
  rw [c.beaconCall_eq, List.append_assoc, List.cons_append] at hunread
  have hends : Ends (handleData env c') y (fun score z => score = 0 ∧ EndedQuietly y z)
      fun score z => score = 0 ∧ EndedQuietly y z :=
    ends_handleData_unanswered c.beaconCommand_hasOptions c.kindOf?_beaconCommand
      c.group_beaconCommand c.beaconCommand_declines (show Octet.hasAny 0 _ = false by decide)
      c.wellFormed_beaconCall hunread
  unfold receive
  rw [hrun]
  obtain ⟨hscore, hended⟩ := ExchangeM.score_of_ends hends
  exact ⟨hscore, hended.scrapped, hended.outbound.trans houtbound, hended.world.trans hworld⟩

end Exchange

end Mode2
