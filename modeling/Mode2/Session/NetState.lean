import Mode2.Octet

/-!
# Network states

The direction and phase of a dialog, with the marks that a dialog collects. The
whole state fits one byte, and every byte is the state of some dialog.
-/

namespace Mode2

/-- Who speaks next in a dialog, seen from this device. -/
inductive Substate
  /-- The device sends the request. -/
  | requestTx
  /-- The device waits for a request. -/
  | requestRx
  /-- The device sends the response. -/
  | responseTx
  /-- The device waits for responses. -/
  | responseRx
deriving DecidableEq, Repr

/-- The two-bit code of a substate. -/
def Substate.toBits : Substate → UInt8
  | .requestTx => 0
  | .requestRx => 1
  | .responseTx => 2
  | .responseRx => 3

/-- The substate with a code; only the two low bits are looked at. -/
def Substate.ofBits (bits : UInt8) : Substate :=
  if bits &&& 3 = 0 then .requestTx
  else if bits &&& 3 = 1 then .requestRx
  else if bits &&& 3 = 2 then .responseTx
  else .responseRx

/-- The direction and phase of a dialog. -/
structure NetState where
  substate : Substate
  /-- Background flooding. -/
  flood : Bool := false
  /-- The dialog has not been activated. -/
  fresh : Bool := false
  /-- The peer and the dialog ID are settled. -/
  connected : Bool := false
  /-- Further responses are awaited after the first. -/
  listening : Bool := false
  /-- The dialog carries a datastream. -/
  datastream : Bool := false
  /-- The dialog is to be removed. -/
  scrapped : Bool := false
deriving DecidableEq, Repr

namespace NetState

/-- The byte of a state. -/
def toByte (s : NetState) : UInt8 :=
  s.substate.toBits ||| Octet.maskIf s.flood 0x04 ||| Octet.maskIf s.fresh 0x08 |||
    Octet.maskIf s.connected 0x10 ||| Octet.maskIf s.listening 0x20 |||
    Octet.maskIf s.datastream 0x40 ||| Octet.maskIf s.scrapped 0x80

/-- The state with a byte. -/
def ofByte (byte : UInt8) : NetState where
  substate := .ofBits byte
  flood := Octet.hasAny byte 0x04
  fresh := Octet.hasAny byte 0x08
  connected := Octet.hasAny byte 0x10
  listening := Octet.hasAny byte 0x20
  datastream := Octet.hasAny byte 0x40
  scrapped := Octet.hasAny byte 0x80

/-- Every bit of `mask` is set in the state's byte. -/
def contains (s : NetState) (mask : UInt8) : Bool :=
  Octet.hasAll s.toByte mask

/-- The state with the bits of `mask` set. -/
def insert (s : NetState) (mask : UInt8) : NetState :=
  .ofByte (s.toByte ||| mask)

/-- The state with the bits of `mask` cleared. -/
def remove (s : NetState) (mask : UInt8) : NetState :=
  .ofByte (s.toByte &&& ~~~mask)

end NetState

end Mode2
