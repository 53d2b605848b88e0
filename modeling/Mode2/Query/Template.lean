import Mode2.FrameQueue.Script

/-!
# Query templates

A template says what a file has to satisfy: to have a number of bytes, to stand in
an order relation to some bytes, or to contain something like them. It carries the
length of the comparison, a code, and for comparisons a mask and a value of that
length.
-/

namespace Mode2

/-- The order relations of a query; the file stands on the left. -/
inductive Relation
  | ne
  | eq
  | lt
  | le
  | gt
  | ge
deriving DecidableEq, Repr

/-- The relation with a number. -/
def Relation.ofParam? (param : UInt8) : Option Relation :=
  if param = 0 then some .ne
  else if param = 1 then some .eq
  else if param = 2 then some .lt
  else if param = 3 then some .le
  else if param = 4 then some .gt
  else if param = 5 then some .ge
  else none

/-- The relation holds of two things that compare as `o`. -/
def Relation.holds (relation : Relation) (o : Ordering) : Bool :=
  match relation with
  | .ne => o != .eq
  | .eq => o == .eq
  | .lt => o == .lt
  | .le => o != .gt
  | .gt => o == .gt
  | .ge => o != .lt

/-- What a query asks of the file. -/
inductive QueryKind
  /-- To have enough bytes. -/
  | nonNull
  /-- To stand in a relation to the value. -/
  | compare (relation : Relation)
  /-- To contain something like the value. -/
  | search (threshold : UInt8)
deriving DecidableEq, Repr

/-- What a file has to satisfy. -/
structure Template where
  length : UInt8 := 0
  code : UInt8 := 0
  /-- The bits that are looked at in each byte. -/
  mask : List UInt8 := []
  value : List UInt8 := []
deriving DecidableEq, Repr

/-- The longest mask or value. -/
def maxToken : Nat := 32

namespace Template

/-- Code bits of the query's type. -/
def typeBits : UInt8 := 0x60

/-- Code bits of the relation or the threshold. -/
def paramBits : UInt8 := 0x1F

/-- Code bit: a mask is given. -/
def maskBit : UInt8 := 0x80

/-- What the query asks; `none` when the code has no meaning. -/
def kind? (t : Template) : Option QueryKind :=
  if t.code &&& typeBits = 0x00 then some .nonNull
  else if t.code &&& typeBits = 0x20 then
    (Relation.ofParam? (t.code &&& paramBits)).map .compare
  else if t.code &&& typeBits = 0x40 then some (.search (t.code &&& paramBits))
  else none

/-- The bytes of a template. -/
def encode (t : Template) : List UInt8 :=
  t.length :: t.code ::
    if t.code &&& typeBits = 0 then []
    else (if Octet.hasAny t.code maskBit then t.mask else []) ++ t.value

/-- Read a template. Without a mask of its own, a comparison looks at all bits. -/
def parse : QueueM Template := do
  let length ← QueueM.readByte
  let code ← QueueM.readByte
  if code &&& typeBits = 0 then
    return { length, code }
  if maxToken < length.toNat then
    throw .capacity
  let mask ←
    if Octet.hasAny code maskBit then QueueM.read length.toNat
    else pure (List.replicate length.toNat 0xFF)
  let value ← QueueM.read length.toNat
  return { length, code, mask, value }

end Template

end Mode2
