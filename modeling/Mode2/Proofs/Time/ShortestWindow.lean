import Mathlib.Tactic.ByContra
import Mode2.Time.WindowCode

/-!
# The shortest window

Many windows have several codes, since four units of one exponent make one unit
of the next. Rounding up to a multiple of a larger unit never gives less than
rounding up to a multiple of a smaller one, so the least exponent whose mantissa
fits gives the shortest window, and its code is the least of those that cover the
time asked for.
-/

namespace Mode2.WindowCode

/-! ## Units -/

theorem unit_pos (e : Nat) : 0 < unit e := by
  induction e with
  | zero => decide
  | succ e ih => rw [unit]; omega

/-- The unit of an exponent is a multiple of the unit of every smaller one. -/
theorem unit_dvd {e e' : Nat} (h : e ≤ e') : unit e ∣ unit e' := by
  induction h with
  | refl => exact Nat.dvd_refl _
  | step _ ih => exact Nat.dvd_trans ih (Nat.dvd_mul_left _ _)

theorem unit_le {e e' : Nat} (h : e ≤ e') : unit e ≤ unit e' :=
  Nat.le_of_dvd (unit_pos e') (unit_dvd h)

/-- `unitsFor` rounds up: it is the least mantissa that covers `t`. -/
theorem unitsFor_le_iff {t : Ticks} {e m : Nat} :
    unitsFor t e ≤ m ↔ t.count ≤ m * unit e := by
  have hpos := unit_pos e
  rw [unitsFor, Nat.div_le_iff_le_mul_add_pred hpos, Nat.mul_comm]
  omega

/-- Rounding up in larger units never gives less. -/
theorem unitsFor_mul_le {t : Ticks} {e e' m : Nat} (he : e ≤ e')
    (hm : t.count ≤ m * unit e') : unitsFor t e * unit e ≤ m * unit e' := by
  obtain ⟨k, hk⟩ := unit_dvd he
  have hunits : unitsFor t e ≤ m * k := by
    rw [unitsFor_le_iff, Nat.mul_assoc, Nat.mul_comm k, ← hk]
    exact hm
  calc unitsFor t e * unit e
      ≤ m * k * unit e := Nat.mul_le_mul_right _ hunits
    _ = m * unit e' := by rw [hk, Nat.mul_assoc, Nat.mul_comm k]

/-! ## What a code stands for -/

theorem exponent_le (code : UInt8) : exponent code ≤ 7 :=
  Nat.le_of_lt_succ (Nat.mod_lt _ (by decide))

theorem mantissa_le (code : UInt8) : mantissa code ≤ 15 :=
  Nat.le_of_lt_succ (Nat.mod_lt _ (by decide))

/-- A code is at least what its exponent and mantissa spell: the top bit only adds. -/
theorem spelled_le (code : UInt8) : 16 * exponent code + mantissa code ≤ code.toNat := by
  unfold exponent mantissa
  omega

/-- No window reaches the end of the register. -/
@[simp] theorem count_decode (code : UInt8) :
    (decode code).count = mantissa code * unit (exponent code) := by
  have hle : mantissa code * unit (exponent code) ≤ 15 * unit 7 :=
    Nat.mul_le_mul (mantissa_le code) (unit_le (exponent_le code))
  have hmax : 15 * unit 7 = 0x3C000 := rfl
  rw [decode, Span.count_saturate]
  omega

/-- The code `0x7F` has the longest window. -/
theorem decode_le (code : UInt8) : decode code ≤ decode 0x7F := by
  rw [Span.le_def, count_decode, count_decode]
  exact Nat.mul_le_mul (mantissa_le code) (unit_le (exponent_le code))

section Spelling

variable {e m : Nat}

theorem toNat_spelled (he : e < 8) (hm : m ≤ 15) :
    (UInt8.ofNat (16 * e + m)).toNat = 16 * e + m := by
  rw [UInt8.toNat_ofNat']
  omega

theorem count_decode_spelled (he : e < 8) (hm : m ≤ 15) :
    (decode (UInt8.ofNat (16 * e + m))).count = m * unit e := by
  have hexponent : exponent (UInt8.ofNat (16 * e + m)) = e := by
    rw [exponent, toNat_spelled he hm]
    omega
  have hmantissa : mantissa (UInt8.ofNat (16 * e + m)) = m := by
    rw [mantissa, toNat_spelled he hm]
    omega
  rw [count_decode, hexponent, hmantissa]

end Spelling

/-! ## The least exponent that fits -/

/-- `encode` takes the first exponent in which the mantissa fits, and there is
one as soon as the longest window covers `t`. -/
theorem encode_of_le {t : Ticks} (h : t.count ≤ 15 * unit 7) :
    ∃ e < 8, unitsFor t e ≤ 15 ∧ (∀ e' < 8, t.count ≤ 15 * unit e' → e ≤ e') ∧
      encode t = UInt8.ofNat (16 * e + unitsFor t e) := by
  unfold encode
  cases hfind : (List.range 8).find? (fun e => decide (unitsFor t e ≤ 15)) with
  | none =>
    have hnone := List.find?_eq_none.mp hfind 7 (by decide)
    exact absurd (decide_eq_true (unitsFor_le_iff.mpr h)) hnone
  | some e =>
    rw [List.find?_range_eq_some] at hfind
    obtain ⟨hfits, hlt, hfirst⟩ := hfind
    refine ⟨e, List.mem_range.mp hlt, of_decide_eq_true hfits, fun e' _ hcovers => ?_, rfl⟩
    by_contra hsmaller
    have hnot := hfirst e' (Nat.lt_of_not_le hsmaller)
    simp [unitsFor_le_iff.mpr hcovers] at hnot

/-- What no window covers is given the longest. -/
theorem encode_of_lt {t : Ticks} (h : 15 * unit 7 < t.count) : encode t = 0x7F := by
  have hnone : (List.range 8).find? (fun e => decide (unitsFor t e ≤ 15)) = none := by
    refine List.find?_eq_none.mpr fun e he hfits => ?_
    have hcovers := unitsFor_le_iff.mp (of_decide_eq_true hfits)
    have hlongest : 15 * unit e ≤ 15 * unit 7 :=
      Nat.mul_le_mul_left _ (unit_le (Nat.le_of_lt_succ (List.mem_range.mp he)))
    omega
  rw [encode, hnone]

/-! ## The shortest window -/

/-- A code is the shortest for `t` when it leaves the top bit to the frame, its
window covers `t`, and neither a shorter window nor a smaller code does. -/
structure IsShortest (t : Ticks) (code : UInt8) : Prop where
  topBit : code &&& 0x80 = 0
  covers : t ≤ decode code
  least_window : ∀ other, t ≤ decode other → decode code ≤ decode other
  least_code : ∀ other, t ≤ decode other → code ≤ other

theorem topBit_of_lt {code : UInt8} (h : code.toNat < 128) : code &&& 0x80 = 0 := by
  have hall : ∀ n < 128, UInt8.ofNat n &&& 0x80 = 0 := by decide +kernel
  simpa using hall code.toNat h

theorem isShortest_encode {t : Ticks} (h : t.count ≤ 15 * unit 7) :
    IsShortest t (encode t) := by
  obtain ⟨e, he, hunits, hleast, heq⟩ := encode_of_le h
  have hcode := toNat_spelled he hunits
  have hwindow := count_decode_spelled he hunits
  rw [heq]
  -- A code that covers `t` has an exponent that is no smaller than the one found.
  have hexponent : ∀ other, t ≤ decode other → e ≤ exponent other := by
    intro other hcovers
    refine hleast _ (Nat.lt_succ_of_le (exponent_le other)) ?_
    rw [Span.le_def, count_decode] at hcovers
    exact Nat.le_trans hcovers (Nat.mul_le_mul_right _ (mantissa_le other))
  refine ⟨topBit_of_lt (by omega), ?_, fun other hcovers => ?_, fun other hcovers => ?_⟩
  · rw [Span.le_def, hwindow]
    exact unitsFor_le_iff.mp (Nat.le_refl _)
  · have hother := hexponent other hcovers
    rw [Span.le_def, count_decode] at hcovers
    rw [Span.le_def, hwindow, count_decode]
    exact unitsFor_mul_le hother hcovers
  · have hspelled := spelled_le other
    rw [UInt8.le_iff_toNat_le, hcode]
    rcases Nat.lt_or_eq_of_le (hexponent other hcovers) with hlt | rfl
    · omega
    · rw [Span.le_def, count_decode, ← unitsFor_le_iff] at hcovers
      omega

/-- What the longest window covers is what `encode` finds a covering window for. -/
theorem covered_iff {t : Ticks} : t ≤ decode 0x7F ↔ t.count ≤ 15 * unit 7 := by
  rw [Span.le_def, count_decode]
  rfl

theorem decode_encode_mono {t t' : Ticks} (h : t ≤ t') :
    decode (encode t) ≤ decode (encode t') := by
  rcases Nat.lt_or_ge (15 * unit 7) t'.count with hlong | hshort
  · rw [encode_of_lt hlong]
    exact decode_le _
  · have hcovered : t.count ≤ 15 * unit 7 := Nat.le_trans h hshort
    exact (isShortest_encode hcovered).least_window _
      (Nat.le_trans h (isShortest_encode hshort).covers)

theorem decode_encode_decode (code : UInt8) :
    decode (encode (decode code)) = decode code := by
  have hshortest := isShortest_encode (covered_iff.mp (decode_le code))
  exact Span.ext (Nat.le_antisymm (hshortest.least_window code (Nat.le_refl _))
    hshortest.covers)

/-- `encode` gives the shortest code to every time that some window covers and
the longest window to every other, so taking a time to its window is monotone
and leaves windows as they are. -/
theorem encode_shortest :
    (∀ t : Ticks, t.count ≤ 15 * unit 7 → IsShortest t (encode t)) ∧
    (∀ t : Ticks, 15 * unit 7 < t.count → encode t = 0x7F) ∧
    (∀ code, decode code ≤ decode 0x7F) ∧
    (∀ t t' : Ticks, t ≤ t' → decode (encode t) ≤ decode (encode t')) ∧
    (∀ code, decode (encode (decode code)) = decode code) :=
  ⟨fun _ => isShortest_encode, fun _ => encode_of_lt, decode_le,
    fun _ _ => decode_encode_mono, decode_encode_decode⟩

/-- At a change of exponent, and past the longest window. -/
theorem encode_shortest_sixteen :
    IsShortest 16 0x14 ∧ encode 15 = 0x0F ∧ encode 0x3C001 = 0x7F ∧
      decode (encode 17) ≤ decode (encode 0x3C001) := by
  have hsixteen : encode 16 = 0x14 := by decide +kernel
  refine ⟨hsixteen ▸ encode_shortest.1 16 (by decide +kernel), by decide +kernel,
    encode_shortest.2.1 0x3C001 (by decide +kernel),
    encode_shortest.2.2.2.1 17 0x3C001 (by decide +kernel)⟩

end Mode2.WindowCode
