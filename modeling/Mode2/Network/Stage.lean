import Mode2.Device.Address
import Mode2.Environment
import Mode2.Network.Basic
import Mode2.Session.Basic

/-!
# Staging frames

A frame is staged in three parts: its header, which settles the dialog ID; its
data, which other layers append; and its footer, which encrypts what has to be
secret, reserves the checksum, and fills in the length.
-/

namespace Mode2

namespace Session

/-- The dialog as its next frame goes out: the first frame settles the dialog, and
every later one takes the next dialog ID. -/
def advanceDialog (s : Session) : Session :=
  if s.netState.connected then { s with dialogId := s.dialogId + 1 }
  else s.withConnected true

/-- A frame of the dialog carries a routing block. -/
def routes (s : Session) (c : Config) : Bool :=
  s.flags.route && c.multihop

/-- The extension byte of a frame of the dialog. -/
def extension (s : Session) (c : Config) (nack : Bool) : UInt8 :=
  Octet.maskIf (s.routes c) Extension.routeBit |||
    Octet.maskIf s.flags.blockCoding Extension.blockCodingBit |||
    Octet.maskIf nack Extension.nackBit

/-- The frame info of a frame of the dialog. -/
def frameInfo (s : Session) (c : Config) (addressing : Addressing) (nack : Bool) : FrameInfo where
  listen := s.flags.listen
  linkSecurity := s.flags.linkSecurity
  networkSecurity := s.flags.networkSecurity
  virtualIds := s.flags.virtualIds
  extended := s.extension c nack != 0
  addressing := addressing
  datastream := false

/-- The longest frame of the dialog. -/
def frameLimit (s : Session) : Nat :=
  if s.flags.blockCoding then maxCodedFrame else maxFrame

end Session

namespace NetworkLayer

variable {W : Type}

/-- The bytes of a header up to the secured region. Length and link control are
filled in with the footer. -/
def clearHeader (c : Config) (s : Session) (addressing : Addressing) (nack : Bool) : List UInt8 :=
  [0, 0, s.subnet, (s.frameInfo c addressing nack).toByte] ++
    (if s.extension c nack = 0 then [] else [s.extension c nack]) ++ [s.dialogId] ++
    (if s.flags.isSecured then [c.keyIndex] else [])

/-- The bytes of a header that a secured frame encrypts with its data: who sends
it, to whom, and the routing block. -/
def addressHeader (n : NetworkLayer) (c : Config) (s : Session) (addressing : Addressing) :
    List UInt8 :=
  (c.localId s.flags.virtualIds).bytes ++
    (if addressing = .unicast then n.peer.bytes else []) ++
    (if s.routes c then n.route.encode else [])

/-- Begin a new outgoing frame of a dialog with its header. -/
def stageHeader (n : NetworkLayer) (c : Config) (s : Session) (addressing : Addressing)
    (nack : Bool) : Except FrameError (Session × NetworkLayer) :=
  if s.flags.isConflicting then .error .securityConflict
  else
    let s := s.advanceDialog
    let clear := clearHeader c s addressing nack
    match (FrameQueue.empty.setLimit s.frameLimit).bind fun queue =>
        queue.append (clear ++ n.addressHeader c s addressing) with
    | .error cause => .error (.overflow cause)
    | .ok outbound =>
        .ok (s, { n with
          outbound
          linkControl := c.linkControl
          secured := if s.flags.isSecured then some ⟨c.keyIndex, clear.length⟩ else none })

/-- Encrypt the secured region, if there is one. -/
def encryptRegion (cipher : Option (Cipher W)) (n : NetworkLayer) :
    StateM W (Except FrameError Unit × NetworkLayer) := fun w =>
  match n.secured, cipher with
  | none, _ => ((.ok (), n), w)
  | some _, none => ((.error .noSecurity, n), w)
  | some secured, some cipher =>
      match n.outbound.region secured.start with
      | .error cause => ((.error (.overflow cause), n), w)
      | .ok region =>
          let out := cipher.encrypt secured.keyIndex region w
          ((if out.1.success then .ok () else .error .securityFailed,
            { n with outbound := n.outbound.setRegion out.1.bytes }), out.2)

/-- Reserve the checksum and fill in length and link control. -/
def appendFooter (n : NetworkLayer) : Except QueueError NetworkLayer := do
  let queue ← n.outbound.append (List.replicate footerLength 0)
  let queue ← queue.setByte 0 (UInt8.ofNat queue.length)
  let queue ← queue.setByte 1 n.linkControl
  return { n with outbound := queue }

/-- Complete the outgoing frame. -/
def complete (cipher : Option (Cipher W)) (n : NetworkLayer) :
    StateM W (Except FrameError Unit × NetworkLayer) := fun w =>
  match n.encryptRegion cipher w with
  | ((.error cause, n), w) => ((.error cause, n), w)
  | ((.ok (), n), w) =>
      match n.appendFooter with
      | .error cause => ((.error (.overflow cause), n), w)
      | .ok n => ((.ok (), n), w)

end NetworkLayer

end Mode2
