import Mode2.Node.Applet
import Mode2.Proofs.Exchange.RoundTrip
import Mode2.Proofs.Query.Returns

/-!
# The frame of a beacon

A beacon announces a file: its frame is a request that declines its response, with the call for
the beginning of the file and with the return that answers it. About a file that guests may read
it is staged byte by byte as told here; about any other it is not staged.
-/

namespace Mode2

variable {W : Type} {c : Config}

/-! ## Its bytes -/

namespace Config

/-- The header of a beacon behind its length: link control, subnet, the frame info of a broadcast,
the dialog ID and the ID of the device, its virtual one if that is assigned. -/
def beaconHeader (c : Config) (dialogId : UInt8) : List UInt8 :=
  [c.linkControl, c.beaconSubnet, if c.hasVirtualId then 0x12 else 0x02, dialogId] ++
    (c.localId c.hasVirtualId).bytes

/-- The request of a beacon: an announcement that declines its response and leaves no window for
one, and the call for the beginning of the file. -/
def beaconCall (c : Config) : List UInt8 :=
  [0xA0, 0x01 ||| (c.contention.params &&& 0x38), 0x00, c.beacon.maxBytes, c.beacon.file, 0x00]

/-- The return of a beacon up to its data: the file with its length, most significant byte first,
from its beginning on. -/
def beaconReturn (c : Config) (length : Nat) : List UInt8 :=
  c.beacon.file :: Octet.ofShort (UInt16.ofNat length) ++ [0x00]

/-- What the frame of a beacon holds between its length and its data. -/
def beaconFront (c : Config) (dialogId : UInt8) (length : Nat) : List UInt8 :=
  c.beaconHeader dialogId ++ c.beaconCall ++ c.beaconReturn length

/-- The data of a beacon: the first bytes of the file, as many as the call accepts, as the file
has, and as the frame has room for before its checksum. -/
def beaconData (c : Config) (dialogId : UInt8) (file : List UInt8) : List UInt8 :=
  let room := maxFrame - (1 + (c.beaconFront dialogId file.length).length + footerLength)
  file.take (min c.beacon.maxBytes.toNat (min file.length room))

/-- The frame of a beacon under a dialog ID, about a file with these bytes. -/
def beaconFrame (c : Config) (dialogId : UInt8) (file checksum : List UInt8) : List UInt8 :=
  let rest := c.beaconFront dialogId file.length ++ c.beaconData dialogId file ++ checksum
  UInt8.ofNat (1 + rest.length) :: rest

variable (dialogId : UInt8) (file checksum : List UInt8)

theorem length_beaconFront (c : Config) (length : Nat) :
    (c.beaconFront dialogId length).length = 14 + DeviceId.widthOf c.hasVirtualId := by
  simp only [beaconFront, beaconHeader, beaconCall, beaconReturn, Octet.ofShort,
    List.length_append, List.length_cons, List.length_nil, length_localId]
  omega

theorem widthOf_le (virtualIds : Bool) : DeviceId.widthOf virtualIds ≤ 8 := by
  cases virtualIds <;> decide

/-- However long the file is, the frame has room for its data and a footer. -/
theorem length_beaconData_lt (c : Config) : (c.beaconFront dialogId file.length).length +
    (c.beaconData dialogId file).length + footerLength < maxFrame := by
  have hwidth := widthOf_le c.hasVirtualId
  rw [beaconData, List.length_take, length_beaconFront]
  simp only [footerLength, maxFrame]
  omega

theorem isCompleteFrame_beaconFrame (c : Config) (hchecksum : checksum.length = footerLength) :
    IsCompleteFrame (c.beaconFrame dialogId file checksum) := by
  have hdata := c.length_beaconData_lt dialogId file
  have hlength : (c.beaconFrame dialogId file checksum).length =
      1 + (c.beaconFront dialogId file.length ++ c.beaconData dialogId file ++ checksum).length :=
    Nat.add_comm _ _
  refine ⟨?_, ?_, by rw [hlength]; rfl⟩
  all_goals
    rw [hlength, List.length_append, List.length_append, hchecksum]
    rw [length_beaconFront] at hdata ⊢
    simp only [minHeader, footerLength] at hdata ⊢
    omega

end Config

/-! ## Staging it -/

namespace QueueM

/-- The writer appends these bytes wherever there is room for them. -/
def Appends (writer : QueueM Unit) (bytes : List UInt8) : Prop :=
  ∀ q q' : FrameQueue, q.append bytes = .ok q' → writer q = .ok () q'

theorem appends_append (bytes : List UInt8) : Appends (append bytes) bytes := by
  intro q q' happend
  unfold append change
  dsimp only
  rw [happend]

theorem Appends.bind {writer writer' : QueueM Unit} {bytes bytes' : List UInt8}
    (h : Appends writer bytes) (h' : Appends writer' bytes') :
    Appends (writer >>= fun _ => writer') (bytes ++ bytes') := by
  intro q q' happend
  obtain ⟨q₁, hfirst, hsecond⟩ := FrameQueue.append_append_iff.mp happend
  change EStateM.bind writer _ q = _
  unfold EStateM.bind
  rw [h q q₁ hfirst]
  exact h' q₁ q' hsecond

end QueueM

namespace Exchange

variable {env : Environment W} {x : Exchange W}

/-- The request of a beacon appends its command, the window that it leaves, and its call. -/
theorem appends_beaconRequest (c : Config) : (beaconRequest c).Appends c.beaconCall := by
  have hrequest : (writeRequest (Command.directCode ||| Command.announceFile)
      (some (beaconOptions c)) 0).Appends [0xA0, beaconOptions c, 0x00] :=
    (QueueM.appends_append [0xA0]).bind
      ((QueueM.appends_append [beaconOptions c]).bind (QueueM.appends_append [0x00]))
  exact hrequest.bind (QueueM.appends_append _)

/-- The dialog of a beacon before its frame is staged. -/
structure IsBeaconDialog (c : Config) (s : Session) : Prop where
  subnet : s.subnet = c.beaconSubnet
  flags : s.flags = { virtualIds := c.hasVirtualId }
  unconnected : s.netState.connected = false

namespace IsBeaconDialog

variable {s : Session}

theorem extension (h : IsBeaconDialog c s) : s.extension c false = 0 := by
  simp [Session.extension, Session.routes, h.flags, Octet.maskIf]

theorem toByte_frameInfo (h : IsBeaconDialog c s) :
    (s.frameInfo c .broadcast false).toByte = if c.hasVirtualId then 0x12 else 0x02 := by
  unfold Session.frameInfo
  rw [h.extension, h.flags]
  cases c.hasVirtualId <;> decide

theorem advanceDialog (h : IsBeaconDialog c s) :
    s.advanceDialog = s.withConnected true := by
  unfold Session.advanceDialog
  rw [h.unconnected, if_neg Bool.false_ne_true]

/-- The clear part of the header and the address behind it are the header of a beacon. -/
theorem header (h : IsBeaconDialog c s) (n : NetworkLayer) :
    c.linkControl :: (NetworkLayer.clearRest c s.advanceDialog .broadcast false ++
      n.addressHeader c s.advanceDialog .broadcast) = c.beaconHeader s.dialogId := by
  rw [h.advanceDialog, NetworkLayer.clearRest, NetworkLayer.addressHeader]
  have hextension : (s.withConnected true).extension c false = 0 := h.extension
  have hinfo : ((s.withConnected true).frameInfo c .broadcast false).toByte =
      if c.hasVirtualId then 0x12 else 0x02 := h.toByte_frameInfo
  have hflags : (s.withConnected true).flags = { virtualIds := c.hasVirtualId } := h.flags
  have hroutes : (s.withConnected true).routes c = false := by simp [Session.routes, hflags]
  have hsubnet : (s.withConnected true).subnet = c.beaconSubnet := h.subnet
  rw [hextension, hinfo, hroutes, hflags, hsubnet]
  simp [Config.beaconHeader, DialogFlags.isSecured, Session.withConnected]

end IsBeaconDialog

/-- The return of a beacon's call, in a frame that has its header and the call in front of it. -/
theorem announced {contents : UInt8 → List UInt8} {w : W} (dialogId : UInt8)
    {queue : FrameQueue} (h : env.Holds .guest w contents)
    (hread : ∀ w', env.Visits w none w' → env.MayRead .guest c.beacon.file w')
    (hspace : queue.space = maxFrame - (1 + (c.beaconHeader dialogId ++ c.beaconCall).length)) :
    let file := contents c.beacon.file
    let result := (env.answer .guest (.ofFile c.beacon.file c.beacon.maxBytes) queue w).1
    0 ≤ result.1 ∧ footerLength ≤ result.2.space ∧
      queue.append (c.beaconReturn file.length ++ c.beaconData dialogId file) = .ok result.2 := by
  intro file result
  let call := Call.ofFile c.beacon.file c.beacon.maxBytes
  have hreturn : (c.beaconReturn file.length).length = 4 := rfl
  have hdata := c.length_beaconData_lt dialogId file
  have hfront : (c.beaconFront dialogId file.length).length =
      (c.beaconHeader dialogId ++ c.beaconCall).length + 4 := by
    rw [Config.beaconFront, List.length_append, hreturn]
  -- Behind the header and the call there is room for the return and the footer.
  have hroom : queue.space - 4 - footerLength =
      maxFrame - (1 + (c.beaconFront dialogId file.length).length + footerLength) := by
    rw [hspace, hfront]
    omega
  have hheader : call.target.returnHeader
      (call.target.files.map fun id => UInt16.ofNat (contents id).length) =
        c.beaconReturn file.length := rfl
  have hjoined : call.target.files.flatMap contents = file := List.append_nil file
  have hoffset : call.target.offset.toNat = 0 := rfl
  obtain ⟨bytes, happend⟩ := env.exists_append_answer .guest call queue w
  have hreturns := (env.answer_returns .guest call queue w).2 contents h (List.cons_ne_nil _ [])
    (by simpa [call, Call.ofFile, Target.ofFile, Target.files, Target.participating] using hread)
  simp only [hheader, hjoined, hoffset, hreturn, hroom, List.drop_zero, Nat.sub_zero] at hreturns
  obtain ⟨-, hscore, hwritten⟩ := hreturns (by omega)
  have hbytes : bytes = c.beaconReturn file.length ++ c.beaconData dialogId file := by
    rw [FrameQueue.written_append happend, List.append_assoc, Nat.min_comm _ file.length]
      at hwritten
    exact List.append_cancel_left hwritten
  refine ⟨hscore ▸ Int.natCast_nonneg _, ?_, hbytes ▸ happend⟩
  rw [FrameQueue.space_append happend, hbytes, List.length_append, hreturn]
  omega

theorem run_beginBroadcast {session : Session} {network : NetworkLayer}
    (h : x.network.stageHeader c x.session .broadcast false = .ok (session, network)) :
    (beginBroadcast c).run x = .ok () { x with session, network } := by
  unfold beginBroadcast
  dsimp only [EStateM.run]
  rw [h]

theorem run_appendOutbound {writer : QueueM Unit} {bytes : List UInt8} (h : writer.Appends bytes)
    {queue : FrameQueue} (happend : x.network.outbound.append bytes = .ok queue) :
    (appendOutbound writer).run x = .ok () { x with network.outbound := queue } := by
  unfold appendOutbound
  dsimp only [EStateM.run]
  rw [h _ _ happend]

theorem run_appendAnnouncement {score : Score} {queue : FrameQueue} {w : W} (hscore : 0 ≤ score)
    (hanswer : env.answer .guest (.ofFile c.beacon.file c.beacon.maxBytes) x.network.outbound
      x.world = ((score, queue), w)) :
    (appendAnnouncement env c).run x = .ok () { x with network.outbound := queue, world := w } := by
  have hfile : score ≠ .fileError := fun heq => absurd (heq ▸ hscore) (by decide)
  unfold appendAnnouncement
  dsimp only [EStateM.run]
  rw [hanswer]
  dsimp only
  rw [if_neg hfile, if_neg (Int.not_lt.mpr hscore)]

/-- A beacon of the dialog has been staged up to its call: the header of the frame has been
appended in the clear, and then the call. -/
structure Called (c : Config) (n : NetworkLayer) (s : Session) (headed : NetworkLayer)
    (called : FrameQueue) : Prop where
  header : n.stageHeader c s .broadcast false = .ok (s.advanceDialog, headed)
  secured : headed.secured = none
  call : headed.outbound.append c.beaconCall = .ok called
  limit : called.limit = maxFrame
  length : called.length = 1 + (c.beaconHeader s.dialogId ++ c.beaconCall).length

namespace IsBeaconDialog

variable {s : Session}

/-- Every configuration leaves room for the header and the call of a beacon. -/
theorem exists_called (h : IsBeaconDialog c s) (n : NetworkLayer) :
    ∃ headed called, Called c n s headed called := by
  have hlength : (NetworkLayer.clearHeader c s.advanceDialog .broadcast false ++
      n.addressHeader c s.advanceDialog .broadcast).length =
        1 + (c.beaconHeader s.dialogId).length := by
    rw [← h.header n, NetworkLayer.clearHeader_eq]
    simp only [List.length_append, List.length_cons]
    omega
  have hlimit : s.advanceDialog.frameLimit = maxFrame := by
    simp [Session.frameLimit, h.flags]
  have hconflict : s.flags.isConflicting = false := by
    rw [h.flags]
    rfl
  have hbound := c.length_beaconData_lt s.dialogId []
  rw [Config.beaconFront, List.length_append, List.length_append] at hbound
  obtain ⟨headed, hheader, hheaded⟩ := n.exists_stageHeader c .broadcast false hconflict
    (by rw [hlength, hlimit]; omega)
  have hbytes := NetworkLayer.headed_of_stageHeader hheader
  have hspace := headed.outbound.length_add_space
  rw [FrameQueue.length_eq, hbytes.written, hlength, hheaded, hlimit] at hspace
  have hfits : c.beaconCall.length ≤ headed.outbound.space := by omega
  obtain ⟨called, hcalled⟩ := FrameQueue.exists_append hfits
  refine ⟨headed, called, hheader, ?_, hcalled, ?_, ?_⟩
  · rw [hbytes.secured, h.flags]
    rfl
  · rw [FrameQueue.limit_append hcalled, hheaded, hlimit]
  · rw [FrameQueue.length_append hcalled, FrameQueue.length_eq, hbytes.written, hlength,
      List.length_append, Nat.add_assoc]

/-- Up to the call the beacon is staged; from there it depends on the file. -/
theorem ends_stageBeacon (h : IsBeaconDialog c x.session) {good : Unit → Exchange W → Prop}
    {bad : Error → Exchange W → Prop}
    (hrest : ∀ headed called, Called c x.network x.session headed called →
      Ends (do appendAnnouncement env c; completeFrame env)
        { x with
          session := x.session.advanceDialog
          network := { headed with outbound := called } } good bad) :
    Ends (stageBeacon env c) x good bad := by
  obtain ⟨headed, called, hcalled⟩ := h.exists_called x.network
  refine Ends.bind_of_ok (run_beginBroadcast hcalled.header) ?_
  refine Ends.bind_of_ok (run_appendOutbound (appends_beaconRequest c) hcalled.call) ?_
  exact hrest headed called hcalled

/-- Completed behind its call and its return, the frame is that of a beacon. -/
theorem written_complete (h : IsBeaconDialog c s) {n headed sent : NetworkLayer}
    {called queue : FrameQueue} {file : List UInt8} {w w' : W}
    (hcalled : Called c n s headed called) (hreturned : called.append
      (c.beaconReturn file.length ++ c.beaconData s.dialogId file) = .ok queue)
    (hcomplete : ({ headed with outbound := queue } : NetworkLayer).complete env.cipher w =
      ((.ok (), sent), w')) :
    sent.outbound.written =
      c.beaconFrame s.dialogId file (List.replicate footerLength 0) := by
  obtain ⟨rest, hseals, hwritten⟩ := NetworkLayer.written_complete
    (NetworkLayer.headed_of_stageHeader hcalled.header)
    (FrameQueue.append_append hcalled.call hreturned) hcomplete
  cases hseals with
  | encrypted hregion => cases hcalled.secured.symm.trans hregion
  | clear _ =>
      have hrest := congrArg (· ++ (c.beaconCall ++ (c.beaconReturn file.length ++
        c.beaconData s.dialogId file)) ++ List.replicate footerLength 0) (h.header n)
      simp only [List.cons_append, List.append_assoc] at hrest hwritten
      rw [hrest] at hwritten
      have hlength := congrArg List.length hwritten
      rw [FrameQueue.length_eq, hlength, List.length_cons, Nat.add_comm] at hwritten
      rw [hwritten]
      simp only [Config.beaconFrame, Config.beaconFront, List.append_assoc]

/-- A beacon about a file that guests may read is staged, as the frame that announces it. -/
theorem ends_stageBeacon_announced (h : IsBeaconDialog c x.session) {contents : UInt8 → List UInt8}
    (hholds : env.Holds .guest x.world contents)
    (hread : ∀ w, env.Visits x.world none w → env.MayRead .guest c.beacon.file w) :
    Ends (stageBeacon env c) x
      (fun _ y => y.session = x.session.withConnected true ∧ y.network.outbound.written =
        c.beaconFrame x.session.dialogId (contents c.beacon.file) (List.replicate footerLength 0))
      fun _ _ => False := by
  refine h.ends_stageBeacon fun headed called hcalled => ?_
  have hannounced := announced x.session.dialogId hholds hread
    (show called.space = _ by rw [FrameQueue.space, hcalled.limit, hcalled.length])
  rcases hanswer : env.answer .guest (.ofFile c.beacon.file c.beacon.maxBytes) called x.world
    with ⟨⟨score, queue⟩, w⟩
  rw [hanswer] at hannounced
  obtain ⟨hscore, hroom, hreturned⟩ := hannounced
  refine Ends.bind_of_ok (run_appendAnnouncement hscore hanswer) ?_
  have hmin : minHeader ≤ queue.length := by
    have hcall : c.beaconCall.length = 6 := rfl
    rw [FrameQueue.length_append hreturned, hcalled.length, List.length_append, minHeader]
    omega
  obtain ⟨sent, hcomplete⟩ := NetworkLayer.exists_complete
    (n := { headed with outbound := queue }) hcalled.secured hmin hroom env.cipher w
  unfold Ends completeFrame
  dsimp only [EStateM.run]
  rw [hcomplete]
  exact ⟨h.advanceDialog, h.written_complete hcalled hreturned hcomplete⟩

/-- A beacon about a file that guests may not read is not staged. -/
theorem ends_stageBeacon_refused (h : IsBeaconDialog c x.session)
    (hrefused : ¬env.MayRead .guest c.beacon.file x.world) :
    Ends (stageBeacon env c) x (fun _ _ => False) (fun _ _ => True) := by
  refine h.ends_stageBeacon fun headed called _ => ?_
  have hscore := Environment.answer_of_refused hrefused c.beacon.maxBytes called
  rcases hanswer : env.answer .guest (.ofFile c.beacon.file c.beacon.maxBytes) called x.world
    with ⟨⟨score, queue⟩, w⟩
  rw [hanswer] at hscore
  refine Ends.bind ?_
  unfold Ends appendAnnouncement
  dsimp only [EStateM.run]
  rw [hanswer]
  dsimp only
  rw [if_pos hscore]
  trivial

end IsBeaconDialog

end Exchange

end Mode2
