import Mode2.Time.Span

/-!
# Window codes

A response window travels in one byte: four bits of mantissa, three bits of
exponent to base four. The top bit belongs to the surrounding frame and is
ignored here.
-/

namespace Mode2.WindowCode

/-- The exponent to base four. -/
def exponent (code : UInt8) : Nat :=
  code.toNat / 16 % 8

/-- The mantissa. -/
def mantissa (code : UInt8) : Nat :=
  code.toNat % 16

/-- The ticks that one unit of the mantissa stands for. -/
def unit : (exponent : Nat) → Nat
  | 0 => 1
  | e + 1 => 4 * unit e

/-- The window that a code stands for. -/
def decode (code : UInt8) : Ticks :=
  .saturate (mantissa code * unit (exponent code))

/-- How many units of an exponent cover `t`. -/
def unitsFor (t : Ticks) (e : Nat) : Nat :=
  (t.count + unit e - 1) / unit e

/-- The code of the shortest window that is at least `t`: the least exponent
whose mantissa fits. Longer windows than any code has get the longest. -/
def encode (t : Ticks) : UInt8 :=
  match (List.range 8).find? (fun e => decide (unitsFor t e ≤ 15)) with
  | some e => UInt8.ofNat (16 * e + unitsFor t e)
  | none => 0x7F

end Mode2.WindowCode
