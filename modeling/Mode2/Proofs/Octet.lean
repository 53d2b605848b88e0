import Mode2.Octet

/-!
# Two-byte numbers

A two-byte number and its two bytes determine each other.
-/

namespace Mode2.Octet

theorem toNat_toShort (high low : UInt8) :
    (toShort high low).toNat = 256 * high.toNat + low.toNat := by
  have hlow : low.toNat < 2 ^ 8 := low.toNat_lt
  have hhigh : high.toNat < 2 ^ 8 := high.toNat_lt
  have hshift : high.toNat <<< 8 < 2 ^ 16 := by
    rw [Nat.shiftLeft_eq]
    omega
  simp only [toShort, UInt16.toNat_or, UInt16.toNat_shiftLeft, UInt8.toNat_toUInt16]
  rw [show (8 : UInt16).toNat % 16 = 8 from rfl, Nat.mod_eq_of_lt hshift,
    ← Nat.shiftLeft_add_eq_or_of_lt hlow, Nat.shiftLeft_eq]
  omega

theorem ofShort_eq (value : UInt16) :
    ofShort value = [UInt8.ofNat (value.toNat / 256), UInt8.ofNat value.toNat] := by
  have hhigh : (value >>> 8).toUInt8 = UInt8.ofNat (value.toNat / 256) := by
    apply UInt8.toNat_inj.mp
    simp [Nat.shiftRight_eq_div_pow]
  rw [ofShort, hhigh]
  rfl

/-- The bytes of a number are those that make it up. -/
theorem ofShort_toShort (high low : UInt8) : ofShort (toShort high low) = [high, low] := by
  have hhigh := high.toNat_lt
  have hlow := low.toNat_lt
  have hfirst : UInt8.ofNat ((256 * high.toNat + low.toNat) / 256) = high := by
    rw [show (256 * high.toNat + low.toNat) / 256 = high.toNat by omega, UInt8.ofNat_toNat]
  have hsecond : UInt8.ofNat (256 * high.toNat + low.toNat) = low := by
    apply UInt8.toNat_inj.mp
    rw [UInt8.toNat_ofNat']
    omega
  rw [ofShort_eq, toNat_toShort, hfirst, hsecond]

/-- Every number is made up of its bytes. -/
theorem toShort_of_ofShort {value : UInt16} {high low : UInt8} (h : ofShort value = [high, low]) :
    toShort high low = value := by
  rw [ofShort_eq, List.cons.injEq, List.cons.injEq] at h
  obtain ⟨rfl, rfl, -⟩ := h
  have hvalue := value.toNat_lt
  apply UInt16.toNat_inj.mp
  rw [toNat_toShort, UInt8.toNat_ofNat', UInt8.toNat_ofNat']
  omega

end Mode2.Octet
