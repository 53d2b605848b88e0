import Mode2.Proofs.Exchange.BeaconReception
import Mode2.Proofs.Exchange.Staged
import Mode2.Proofs.Node.Applets

/-!
# Beacons

The applet of a beacon stages the frame that announces the configured file, when guests may read
the file, and nothing when they may not. Whoever hears the frame before any other of the dialog
makes nothing of it but to end the dialog.
-/

namespace Mode2

variable {W : Type} {env : Environment W}

namespace Exchange

theorem isBeaconDialog_beaconSession (c : Config) (s : Session) :
    IsBeaconDialog c (Applet.beaconSession c s) :=
  ⟨rfl, rfl, rfl⟩

end Exchange

namespace Applet

variable (s : Session) (n : Node W)

/-- Whether or not there is a slot for the next beacon, this one is staged in the same exchange. -/
theorem exchange_scheduleNextBeacon :
    (scheduleNextBeacon n).config = n.config ∧
      (scheduleNextBeacon n).exchange s = n.exchange s := by
  obtain ⟨sessions, -, heq⟩ := scheduleNextBeacon_eq n
  rw [heq]
  exact ⟨rfl, rfl⟩

/-- A beacon that is staged goes out in its dialog; one that cannot be staged leaves nothing
behind. -/
theorem runBeacon_of_ends {P : Session → List UInt8 → Prop} {Q : Prop}
    (h : Ends (Exchange.stageBeacon env n.config) (n.exchange (beaconSession n.config s))
      (fun _ y => P y.session y.network.outbound.written) fun _ _ => Q) :
    P (runBeacon env s n).1 (runBeacon env s n).2.network.outbound.written ∨
      Q ∧ (runBeacon env s n).1.netState.scrapped = true ∧
        (runBeacon env s n).2.network.outbound = .empty := by
  obtain ⟨hconfig, hexchange⟩ := exchange_scheduleNextBeacon (beaconSession n.config s) n
  unfold runBeacon
  dsimp only
  rw [hconfig, hexchange]
  cases hrun : (Exchange.stageBeacon env n.config).run (n.exchange (beaconSession n.config s)) with
  | ok _ y => exact .inl (h.of_ok hrun)
  | error _ y => exact .inr ⟨h.of_error hrun, rfl, rfl⟩

/-- A beacon is exact and harmless. From files with contents, a beacon about one that guests may
read is staged as the frame that announces its length and its first bytes, in a dialog that goes
on. About a file that guests may not read nothing is staged and the dialog ends; and however files
fail, there is either a complete frame or none. A node that hears such a frame before any other of
the dialog, in a matching subnet, accepts it and ends the dialog. It stages nothing for it, and
its world is as before: no file has been opened. -/
theorem beacon_exact_and_harmless (env : Environment W) (custom : CustomApplets W) (s : Session)
    (n : Node W) :
    let c := n.config
    let result := Applet.beacon.run env custom s n
    let frame := result.2.network.outbound.written
    (∀ contents : UInt8 → List UInt8, env.Holds .guest n.world contents →
      (∀ w, env.Visits n.world none w → env.MayRead .guest c.beacon.file w) →
      result.1 = (beaconSession c s).withConnected true ∧
        frame = c.beaconFrame s.dialogId (contents c.beacon.file) [0, 0] ∧
          IsCompleteFrame frame) ∧
      (¬env.MayRead .guest c.beacon.file n.world →
        result.1.netState.scrapped = true ∧ result.2.network.outbound = .empty) ∧
      (IsCompleteFrame frame ∨
        result.1.netState.scrapped = true ∧ result.2.network.outbound = .empty) ∧
      ∀ (dialogId : UInt8) (file checksum : List UInt8), checksum.length = footerLength →
        ∀ (V : Type) (hearing : Environment V) (c' : Config) (x : Exchange V),
          x.session.netState.connected = false → subnetMatches c.beaconSubnet c'.subnet = true →
          ∃ inbound, FrameQueue.load (c.beaconFrame dialogId file checksum) = .ok inbound ∧
            let heard := Exchange.receive hearing c' { x with network.inbound := inbound }
            heard.1 = 0 ∧ heard.2.session.netState.scrapped = true ∧
              heard.2.network.outbound = x.network.outbound ∧ heard.2.world = x.world := by
  intro c result frame
  have hdialog := Exchange.isBeaconDialog_beaconSession c s
  refine ⟨fun contents hholds hread => ?_, fun hrefused => ?_, ?_, ?_⟩
  · have hstaged := hdialog.ends_stageBeacon_announced (x := n.exchange (beaconSession c s))
      hholds hread
    obtain ⟨hsession, hframe⟩ := (runBeacon_of_ends s n (P := fun session written =>
      session = (beaconSession c s).withConnected true ∧
        written = c.beaconFrame s.dialogId (contents c.beacon.file) [0, 0])
      hstaged).resolve_right And.left
    refine ⟨hsession, hframe, ?_⟩
    change IsCompleteFrame (runBeacon env s n).2.network.outbound.written
    rw [hframe]
    exact c.isCompleteFrame_beaconFrame _ _ _ rfl
  · have hdropped := hdialog.ends_stageBeacon_refused (x := n.exchange (beaconSession c s)) hrefused
    exact ((runBeacon_of_ends s n (P := fun _ _ => False) hdropped).resolve_left id).2
  · have hstaged : Ends (Exchange.stageBeacon env c) (n.exchange (beaconSession c s))
        (fun _ y => IsCompleteFrame y.network.outbound.written) fun _ _ => True :=
      Exchange.ends_stageBeacon c _
    exact (runBeacon_of_ends s n (P := fun _ => IsCompleteFrame) hstaged).imp_right And.right
  · intro dialogId file checksum hchecksum V hearing c' x hunconnected hsubnet
    obtain ⟨-, hmax, -⟩ := c.isCompleteFrame_beaconFrame dialogId file checksum hchecksum
    obtain ⟨inbound, hload⟩ := FrameQueue.exists_load (Nat.le_trans hmax (by decide))
    obtain ⟨hscore, hended⟩ := Exchange.receive_beaconFrame hearing
      (x := { x with network.inbound := inbound }) hchecksum (FrameQueue.written_of_load hload)
      hunconnected hsubnet
    exact ⟨inbound, hload, hscore, hended.scrapped, hended.outbound, hended.world⟩

/-- A device announces a file of three bytes, or one that it does not have; and a device of the
same subnet hears the beacon. -/
theorem beacon_exact_and_harmless_three_bytes :
    let env := Archive.table.serve .obliging
    let custom : CustomApplets _ := fun _ s n => (s, n)
    let n := Node.start Config.default Archive.twoFiles
    let m := Node.start { Config.default with beacon.file := 9 } Archive.twoFiles
    let s : Session :=
      { counter := 0, channel := 0x10, netState := { substate := .requestTx, fresh := true },
        flags := .none, dialogId := 7, subnet := 0xF0, extra := 0, applet := some .beacon }
    let x : Exchange Unit := (Node.start Config.default ()).exchange s
    let frame : List UInt8 :=
      [28, 0x7F, 0xF0, 0x02, 7, 0x00, 0x0B, 0x57, 0x00, 0x00, 0x00, 0x00, 0x01] ++
        [0xA0, 0x01, 0x00, 16, 1, 0] ++ [1, 0, 3, 0] ++ [10, 11, 12] ++ [0, 0]
    env.Holds .guest n.world Archive.twoFiles.contents ∧
      (∀ w, env.Visits n.world none w → env.MayRead .guest n.config.beacon.file w) ∧
      (Applet.beacon.run env custom s n).2.network.outbound.written = frame ∧
      ¬env.MayRead .guest m.config.beacon.file m.world ∧
      (Applet.beacon.run env custom s m).1.netState.scrapped = true ∧
      x.session.netState.connected = false ∧
      ∃ inbound, FrameQueue.load frame = .ok inbound ∧
        let heard := Exchange.receive .obliging Config.default { x with network.inbound := inbound }
        heard.1 = 0 ∧ heard.2.session.netState.scrapped = true := by
  intro env custom n m s x frame
  have hholds : env.Holds .guest n.world Archive.twoFiles.contents := Archive.holds_twoFiles
  have hread : ∀ w, env.Visits n.world none w → env.MayRead .guest n.config.beacon.file w :=
    fun w => Archive.mayRead_twoFiles (List.mem_cons_self)
  have hmissing : ¬env.MayRead .guest m.config.beacon.file m.world := by
    rintro ⟨file, w', hopen, -⟩
    cases hopen
  obtain ⟨hexact, -, -, hheard⟩ := beacon_exact_and_harmless env custom s n
  obtain ⟨-, hframe, -⟩ := hexact _ hholds hread
  have hbytes : n.config.beaconFrame 7 (Archive.twoFiles.contents 1) [0, 0] = frame := by decide
  obtain ⟨-, hdropped, -⟩ := beacon_exact_and_harmless env custom s m
  obtain ⟨inbound, hload, hscore, hscrapped, -⟩ := hheard 7 (Archive.twoFiles.contents 1) [0, 0] rfl
    Unit .obliging Config.default x rfl (by decide)
  exact ⟨hholds, hread, hframe.trans hbytes, hmissing, (hdropped hmissing).1, rfl, inbound,
    hbytes ▸ hload, hscore, hscrapped⟩

end Applet

end Mode2
