/-!
# Lengths of time

Two clocks coexist in the stack. Dialogs, windows and timeouts are counted in
ticks of 1/1024 s, channel contention in clock units of 1/32768 s. The resolution
is part of the type, so lengths of the two clocks are never mixed. Both are
counted in 32-bit registers, and every operation stays at the end of the
register's range instead of wrapping.
-/

namespace Mode2

/-- The resolutions at which time is counted. -/
inductive Resolution
  /-- 1/1024 s. -/
  | tick
  /-- 1/32768 s. -/
  | clock
deriving DecidableEq, Repr

/-- A length of time counted at one resolution in a 32-bit register. -/
structure Span (resolution : Resolution) where
  count : Nat
  count_lt : count < 0x100000000
deriving DecidableEq, Repr

/-- Lengths of time that dialogs, windows and timeouts use. -/
abbrev Ticks := Span .tick

/-- Lengths of time that channel contention uses. -/
abbrev Clocks := Span .clock

namespace Span

variable {r : Resolution}

theorem ext {a b : Span r} (h : a.count = b.count) : a = b := by
  cases a
  cases b
  cases h
  rfl

/-- The length nearest to `n` units that the register can hold. -/
def saturate (n : Nat) : Span r :=
  ⟨min n 0xFFFFFFFF, by omega⟩

@[simp] theorem count_saturate (n : Nat) :
    (saturate n : Span r).count = min n 0xFFFFFFFF := rfl

@[simp] theorem saturate_count (a : Span r) : saturate a.count = a := by
  have hrange := a.count_lt
  exact ext (by rw [count_saturate]; omega)

instance (n : Nat) : OfNat (Span r) n := ⟨saturate n⟩

instance : Inhabited (Span r) := ⟨0⟩

@[simp] theorem count_zero : (0 : Span r).count = 0 := rfl

/-- The end of the register's range: nothing is due. -/
def never : Span r :=
  ⟨0xFFFFFFFF, by omega⟩

@[simp] theorem count_never : (never : Span r).count = 0xFFFFFFFF := rfl

/-- Addition stops at the end of the register's range. -/
instance : Add (Span r) := ⟨fun a b => saturate (a.count + b.count)⟩

@[simp] theorem count_add (a b : Span r) :
    (a + b).count = min (a.count + b.count) 0xFFFFFFFF := rfl

/-- Subtraction stops at zero. -/
instance : Sub (Span r) :=
  ⟨fun a b => ⟨a.count - b.count, Nat.lt_of_le_of_lt (Nat.sub_le _ _) a.count_lt⟩⟩

@[simp] theorem count_sub (a b : Span r) : (a - b).count = a.count - b.count := rfl

instance : LE (Span r) := ⟨fun a b => a.count ≤ b.count⟩

instance : LT (Span r) := ⟨fun a b => a.count < b.count⟩

theorem le_def {a b : Span r} : a ≤ b ↔ a.count ≤ b.count := Iff.rfl

theorem lt_def {a b : Span r} : a < b ↔ a.count < b.count := Iff.rfl

instance (a b : Span r) : Decidable (a ≤ b) :=
  inferInstanceAs (Decidable (a.count ≤ b.count))

instance (a b : Span r) : Decidable (a < b) :=
  inferInstanceAs (Decidable (a.count < b.count))

/-- No time at all. -/
def isZero (a : Span r) : Bool :=
  a.count == 0

@[simp] theorem isZero_iff (a : Span r) : a.isZero = true ↔ a = 0 := by
  constructor
  · intro h
    exact ext (by simpa [isZero] using h)
  · intro h
    simp [h, isZero]

end Span

/-- Clock units in one tick. -/
def clocksPerTick : Nat := 32

/-- A tick is exactly `clocksPerTick` clock units. -/
def Ticks.toClocks (t : Ticks) : Clocks :=
  .saturate (t.count * clocksPerTick)

/-- Clock units are rounded to the nearest tick, a half upward; the rounding too
stays inside the register. -/
def Clocks.toTicks (c : Clocks) : Ticks :=
  ⟨min (c.count + clocksPerTick / 2) 0xFFFFFFFF / clocksPerTick,
    Nat.lt_of_le_of_lt (Nat.div_le_self _ _) (by omega)⟩

@[simp] theorem Ticks.count_toClocks (t : Ticks) :
    t.toClocks.count = min (t.count * 32) 0xFFFFFFFF := rfl

@[simp] theorem Clocks.count_toTicks (c : Clocks) :
    c.toTicks.count = min (c.count + 16) 0xFFFFFFFF / 32 := rfl

end Mode2
