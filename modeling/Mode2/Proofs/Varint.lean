import Mode2.Varint

/-!
# Variable-length numbers are read back

A number in seven-bit groups is read off the front of whatever follows it. The
last byte a reader allows carries four bits, so each byte more makes 128 times as
many numbers fit, and five bytes are enough for a register of 32 bits.
-/

namespace Mode2.Varint

/-- How many numbers `left + 1` bytes spell: four bits in the last byte, seven in
every other. -/
def capacity : (left : Nat) → Nat
  | 0 => 16
  | left + 1 => 128 * capacity left

theorem decodeWithin_encode {left n : Nat} (rest : List UInt8) (h : n < capacity left) :
    decodeWithin (left + 1) (encode n ++ rest) = some (n, rest) := by
  induction left generalizing n with
  | zero =>
    have hn : n < 16 := h
    have hbyte : (UInt8.ofNat n).toNat = n := by rw [UInt8.toNat_ofNat']; omega
    rw [encode, if_pos (by omega), List.singleton_append, decodeWithin, hbyte,
      if_pos (by omega), if_neg (by omega)]
  | succ left ih =>
    rw [encode]
    split
    case isTrue hlast =>
      have hbyte : (UInt8.ofNat n).toNat = n := by rw [UInt8.toNat_ofNat']; omega
      rw [List.singleton_append, decodeWithin, hbyte, if_pos hlast, if_neg (by omega)]
    case isFalse =>
      have hbyte : (UInt8.ofNat (n % 128 + 128)).toNat = n % 128 + 128 := by
        rw [UInt8.toNat_ofNat']; omega
      have hhigh : n / 128 < capacity left := Nat.div_lt_of_lt_mul h
      rw [List.cons_append, decodeWithin, hbyte, if_neg (by omega), ih hhigh]
      simp only [Option.pure_def, Option.bind_eq_bind, Option.bind_some, Option.some.injEq,
        Prod.mk.injEq, and_true]
      omega

/-- A number of 32 bits is read back from the front of whatever follows it. -/
theorem decode_encode {n : Nat} (rest : List UInt8) (h : n < 0x100000000) :
    decode (encode n ++ rest) = some (n, rest) :=
  decodeWithin_encode rest h

end Mode2.Varint
