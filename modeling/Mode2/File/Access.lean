import Mode2.Octet

/-!
# Access rights

Each file carries a modifier byte with three right bits for guests and, three bits
higher, three for members of the network. The root user passes every check.
-/

namespace Mode2

/-- What is done with a file. -/
inductive Access
  | read
  | write
deriving DecidableEq, Repr

/-- The guest right bits that an access needs. -/
def Access.rights : Access → UInt8
  | .read => 0x04
  | .write => 0x02

/-- On whose behalf a file is accessed. -/
inductive User
  | root
  /-- Somebody who holds a key of the network. -/
  | member
  | guest
deriving DecidableEq, Repr

/-- A file's modifier byte grants the requested rights to a user. -/
def User.isGranted (who : User) (modifiers rights : UInt8) : Bool :=
  match who with
  | .root => true
  | .member => Octet.hasAll modifiers ((rights &&& 0x07) <<< 3)
  | .guest => Octet.hasAll modifiers (rights &&& 0x07)

end Mode2
