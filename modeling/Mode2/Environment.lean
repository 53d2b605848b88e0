import Mode2.ChannelAccess.Random
import Mode2.Error
import Mode2.File.Access
import Mode2.Frame.Route
import Mode2.Time.Span

/-!
# The environment of a node

A node reaches its radio, its files, its keys and its applications only through
the operations collected here. Each acts on the state `W` of the surrounding world
and answers. Ciphers, a router and datagram applications may be absent.
-/

namespace Mode2

/-- The radio. The outcome of an accepted operation arrives later as an event. -/
structure Radio (W : Type) where
  /-- Listen on a channel for a time. -/
  listen : UInt8 → Ticks → StateM W (Except RadioError Unit)
  /-- Find out whether a channel is clear. -/
  assess : UInt8 → StateM W (Except RadioError Unit)
  /-- Transmit a frame on a channel. -/
  transmit : UInt8 → List UInt8 → StateM W (Except RadioError Unit)
  /-- Rest. -/
  idle : StateM W Unit

/-- An open file. -/
structure Handle where
  id : UInt8
deriving DecidableEq, Repr

/-- The files. Words of two bytes are read and written at even offsets, the byte at
the even offset being the low one. -/
structure FileStore (W : Type) where
  openFile : UInt8 → Access → User → StateM W (Except FileError Handle)
  length : Handle → StateM W UInt16
  modifiers : Handle → StateM W UInt8
  read : Handle → UInt16 → StateM W (Except FileError UInt16)
  write : Handle → UInt16 → UInt16 → StateM W (Except FileError Unit)
  close : Handle → StateM W Unit

/-- What a cipher makes of some bytes: as many bytes, and whether it succeeded. -/
structure Ciphered (length : Nat) where
  bytes : List UInt8
  success : Bool
  length_eq : bytes.length = length

/-- Encryption and decryption of secured frames under the key with an index. -/
structure Cipher (W : Type) where
  encrypt : UInt8 → (bytes : List UInt8) → StateM W (Ciphered bytes.length)
  decrypt : UInt8 → (bytes : List UInt8) → StateM W (Ciphered bytes.length)

/-- The judgement on a frame or a query: negative when it is dropped. -/
abbrev Score := Int

namespace Score

/-- The frame is dropped or the query failed. -/
def rejected : Score := -1

/-- A file could not be opened or read. -/
def fileError : Score := -32768

end Score

/-- Everything that a node needs from outside. -/
structure Environment (W : Type) where
  radio : Radio W
  files : FileStore W
  /-- The user may access a file with these modifiers; the second byte holds the
  rights that the access needs. -/
  authorize : UInt8 → UInt8 → User → Bool
  random : RandomSource W
  cipher : Option (Cipher W)
  /-- Judges a frame that is meant for another device. -/
  router : Option (Route → List UInt8 → StateM W Score)
  /-- Delivers a datagram from a device and a source port to a destination port;
  refuses when nothing is bound to that port. -/
  datagrams : Option (DeviceId → UInt8 → UInt8 → List UInt8 → StateM W Bool)

end Mode2
