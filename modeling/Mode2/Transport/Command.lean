import Mode2.Octet

/-!
# Commands

The first byte of a frame's data names its kind and its operation, and may
announce a byte of options.
-/

namespace Mode2

/-- The kinds of requests. -/
inductive RequestKind
  /-- Between two devices, without arbitration. -/
  | direct
  /-- The first of an arbitrated dialog. -/
  | initial
  /-- A later one of an arbitrated dialog, listing the devices that answered. -/
  | subsequent
deriving DecidableEq, Repr

/-- The kinds of commands. -/
inductive CommandKind
  | response
  | control
  | request (kind : RequestKind)
deriving DecidableEq, Repr

/-- The groups of operations. -/
inductive OperationGroup
  /-- The data is a call, announced together with what answers it. -/
  | announcement
  /-- The data is a datagram for an application. -/
  | datagram
  /-- A call answered by devices that match a query on one file. -/
  | fileCollection
  /-- A call answered by devices that match a query on a series. -/
  | seriesCollection
  /-- A datastream begins. -/
  | datastream
  | reserved
deriving DecidableEq, Repr

/-- A command byte with its options. -/
structure Command where
  code : UInt8 := 0
  /-- The byte of options, or zero. -/
  options : UInt8 := 0
deriving DecidableEq, Repr

namespace Command

/-- Code bit: a byte of options follows. -/
def optionsBit : UInt8 := 0x80

/-- Code bits of the kind. -/
def kindBits : UInt8 := 0x70

/-- Code bits of the operation. -/
def operationBits : UInt8 := 0x0F

/-- Code of a response. -/
def responseCode : UInt8 := 0x00

/-- Code of a request without arbitration. -/
def directCode : UInt8 := 0x20

/-- Operation: announce a file. -/
def announceFile : UInt8 := 0x00

/-- Option: no response is wanted. -/
def noResponseBit : UInt8 := 0x01

/-- Option: the response reports a failure. -/
def nackBit : UInt8 := 0x02

/-- Options that choose the contention of the response. -/
def contentionBits : UInt8 := 0x38

/-- The operation. -/
def operation (c : Command) : UInt8 :=
  c.code &&& operationBits

/-- Some of the options in `mask` is chosen. -/
def has (c : Command) (mask : UInt8) : Bool :=
  Octet.hasAny c.options mask

/-- The kind that a command byte names; `none` for reserved kinds. -/
def kindOf? (code : UInt8) : Option CommandKind :=
  if code &&& kindBits = 0x00 then some .response
  else if code &&& kindBits = 0x10 then some .control
  else if code &&& kindBits = 0x20 then some (.request .direct)
  else if code &&& kindBits = 0x40 then some (.request .initial)
  else if code &&& kindBits = 0x50 then some (.request .subsequent)
  else none

/-- The group of an operation. -/
def groupOf (operation : UInt8) : OperationGroup :=
  match (operation &&& operationBits).toNat / 2 with
  | 0 => .announcement
  | 1 => .datagram
  | 2 => .fileCollection
  | 3 => .seriesCollection
  | 4 | 5 => .datastream
  | _ => .reserved

/-- The group of the command's operation. -/
def group (c : Command) : OperationGroup :=
  groupOf c.operation

/-- The call of the command is about a series of files. -/
def callsSeries (c : Command) : Bool :=
  Octet.hasAny c.operation 0x01

end Command

end Mode2
