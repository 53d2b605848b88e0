/-!
# Variable-length numbers

A number as groups of seven bits, lowest first; every byte but the last has its
top bit set. A register of 32 bits takes at most five bytes, and the fifth carries
four bits. Spellings padded with zero groups are read too.
-/

namespace Mode2.Varint

/-- The bytes of a number. -/
def encode (n : Nat) : List UInt8 :=
  if n < 128 then [UInt8.ofNat n] else UInt8.ofNat (n % 128 + 128) :: encode (n / 128)

/-- The number at the start of `bytes` in at most `left` bytes, and the bytes after
it. -/
def decodeWithin : (left : Nat) → List UInt8 → Option (Nat × List UInt8)
  | 0, _ | _, [] => none
  | left + 1, byte :: rest =>
      if byte.toNat < 128 then
        if left = 0 ∧ 15 < byte.toNat then none else some (byte.toNat, rest)
      else do
        let (high, rest) ← decodeWithin left rest
        return (byte.toNat - 128 + 128 * high, rest)

/-- The 32-bit number at the start of `bytes`, and the bytes after it. -/
def decode (bytes : List UInt8) : Option (Nat × List UInt8) :=
  decodeWithin 5 bytes

end Mode2.Varint
