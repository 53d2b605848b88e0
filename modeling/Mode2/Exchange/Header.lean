import Mode2.Exchange.Basic

/-!
# Inbound headers

The header of a frame is read field by field. The length byte, the subnet, the
dialog ID, the cipher and the addressed device may each reject the frame; what the
fields before a rejection have changed in the dialog and the network layer stays.
-/

namespace Mode2

/-- Why a header is rejected. -/
inductive Rejection
  | length
  | subnet
  | dialog
  | security
  | address
  | truncated
deriving DecidableEq, Repr

/-- Where an accepted frame goes. -/
inductive Destination
  /-- To the transport layer of this device. -/
  | local
  /-- To the datastream of its dialog. -/
  | datastream
  /-- To another device. -/
  | forward
deriving DecidableEq, Repr

/-- Steps of reading a header. -/
abbrev HeaderM (W : Type) := ExchangeM W Rejection

namespace HeaderM

variable {W : Type}

def octet : HeaderM W UInt8 :=
  ExchangeM.inbound .truncated QueueM.readByte

/-- The ID of a device. -/
def deviceId (virtualIds : Bool) : HeaderM W DeviceId := do
  let bytes ← ExchangeM.inbound .truncated (QueueM.read (DeviceId.widthOf virtualIds))
  match DeviceId.ofBytes? bytes with
  | some id => return id
  | none => throw .truncated

/-- A field that is there only when it was announced. -/
def optional {α : Type} (announced : Bool) (field : HeaderM W α) : HeaderM W (Option α) :=
  if announced then some <$> field else pure none

/-- Cut the frame to the length that its first byte counts, less the checksum, and
go to the third byte. -/
def openFrame : HeaderM W Unit := do
  let queue := (← get).network.inbound
  match queue.byteAt 0 with
  | none => throw .length
  | some byte =>
      if byte.toNat < minHeader + footerLength ∨ queue.length < byte.toNat then
        throw .length
      ExchangeM.inbound .truncated <| QueueM.change fun queue => do
        let queue ← queue.truncate (byte.toNat - footerLength)
        let queue ← queue.seek 0
        queue.skip 2

/-- Hold the frame against the dialog. The first frame of a dialog has to come from
a matching subnet and settles subnet and dialog ID; a later one has to carry
exactly the next dialog ID. -/
def followDialog (c : Config) (subnet dialogId : UInt8) : HeaderM W Unit := do
  let s := (← get).session
  if s.netState.connected then
    if dialogId = s.dialogId + 1 then
      ExchangeM.modifySession fun s => { s with dialogId }
    else throw .dialog
  else if subnetMatches subnet c.subnet then
    ExchangeM.modifySession fun s => { s.withConnected true with subnet, dialogId }
  else throw .subnet

/-- The options that a frame gives its dialog. -/
def flagsOf (info : FrameInfo) (extension : UInt8) : DialogFlags where
  listen := info.listen
  linkSecurity := info.linkSecurity
  networkSecurity := info.networkSecurity
  virtualIds := info.virtualIds
  route := Octet.hasAny extension Extension.routeBit
  blockCoding := Octet.hasAny extension Extension.blockCodingBit

/-- Decrypt the rest of a secured frame with the key that it names. -/
def decryptRest (env : Environment W) : HeaderM W UInt8 := do
  let keyIndex ← octet
  match env.cipher with
  | none => throw .security
  | some cipher =>
      let queue := (← get).network.inbound
      let out ← ExchangeM.perform (cipher.decrypt keyIndex queue.unread)
      ExchangeM.modifyNetwork fun n => { n with inbound := n.inbound.setRegion out.bytes }
      if out.success then return keyIndex else throw .security

/-- The contents of a routing block. -/
def route (virtualIds : Bool) : HeaderM W Route := do
  let hopCode ← octet
  let hopExtension ← optional (Octet.hasAny hopCode Route.extensionBit) octet
  let origin ← optional (Octet.hasAny hopCode Route.originBit) (deviceId virtualIds)
  let destination ← optional (Octet.hasAny hopCode Route.destinationBit) (deviceId virtualIds)
  return { hopCode, hopExtension := hopExtension.getD 0, origin, destination }

/-- The frame is meant for the device that its route names, if it names one. -/
def destinationOf (c : Config) (route : Route) : Destination :=
  match route.destination with
  | some id => if c.multihop && !c.isNamedBy id.bytes then .forward else .local
  | none => .local

/-- Read the rest of the header of a frame that is no datastream. -/
def readAddressed (env : Environment W) (c : Config) (subnet : UInt8) (info : FrameInfo) :
    HeaderM W Destination := do
  let extension := (← optional info.extended octet).getD 0
  if info.linkSecurity && info.networkSecurity then
    throw .security
  let dialogId ← octet
  followDialog c subnet dialogId
  ExchangeM.modifySession fun s => { s with flags := flagsOf info extension }
  let keyIndex ← optional info.isSecured (decryptRest env)
  let peer ← deviceId info.virtualIds
  ExchangeM.modifyNetwork fun n => { n with peer }
  if info.addressing = .unicast then
    let target ← deviceId info.virtualIds
    if !c.isNamedBy target.bytes then
      throw .address
  ExchangeM.modifyNetwork fun n =>
    { n with header := { subnet, info, extension, dialogId, keyIndex }, route := {} }
  if Octet.hasAny extension Extension.routeBit then
    let route ← route info.virtualIds
    ExchangeM.modifyNetwork fun n => { n with route }
    return destinationOf c route
  return .local

/-- Read the rest of the header of a datastream frame. -/
def readDatastream (c : Config) (subnet : UInt8) : HeaderM W Destination := do
  let dialogId ← octet
  if !(← get).session.netState.connected then
    throw .dialog
  followDialog c subnet dialogId
  return .datastream

/-- Read the header of the inbound frame. -/
def read (env : Environment W) (c : Config) : HeaderM W Destination := do
  openFrame
  let subnet ← octet
  let info := FrameInfo.ofByte (← octet)
  if info.datastream then readDatastream c subnet
  else readAddressed env c subnet info

end HeaderM

end Mode2
