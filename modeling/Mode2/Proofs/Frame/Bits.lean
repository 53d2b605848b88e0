import Mode2.Frame.Info
import Mode2.Frame.Route

/-!
# Bits of frame bytes

Bytes that are put together from masks give the masks back, bit by bit: the frame info
from its byte, and what a hop code announces from the hop code.
-/

namespace Mode2

namespace Octet

theorem or_and (a b mask : UInt8) : (a ||| b) &&& mask = (a &&& mask) ||| (b &&& mask) := by
  rw [← UInt8.toBitVec_inj]
  simp only [UInt8.toBitVec_and, UInt8.toBitVec_or, BitVec.and_or_distrib_right]

theorem maskIf_and (set : Bool) (bits mask : UInt8) :
    maskIf set bits &&& mask = maskIf set (bits &&& mask) := by
  cases set with
  | true => rfl
  | false => simp [maskIf]

@[simp] theorem maskIf_zero (set : Bool) : maskIf set 0 = 0 := by
  cases set <;> rfl

@[simp] theorem hasAny_or (a b mask : UInt8) :
    hasAny (a ||| b) mask = (hasAny a mask || hasAny b mask) := by
  unfold hasAny
  rw [or_and, Bool.eq_iff_iff]
  simp only [bne_iff_ne, ne_eq, Bool.or_eq_true, UInt8.or_eq_zero_iff]
  exact Decidable.not_and_iff_not_or_not

@[simp] theorem hasAny_maskIf (set : Bool) (bits mask : UInt8) :
    hasAny (maskIf set bits) mask = (set && hasAny bits mask) := by
  cases set with
  | true => rfl
  | false => simp [maskIf, hasAny]

theorem hasAny_and (a b mask : UInt8) : hasAny (a &&& b) mask = hasAny a (b &&& mask) := by
  unfold hasAny
  rw [UInt8.and_assoc]

theorem hasAny_zero (a : UInt8) : hasAny a 0 = false := by
  simp [hasAny]

end Octet

open Octet

/-! ## Frame info -/

theorem FrameInfo.ofByte_toByte (i : FrameInfo) : ofByte i.toByte = i := by
  obtain ⟨listen, linkSecurity, networkSecurity, virtualIds, extended, addressing, datastream⟩ := i
  cases listen <;> cases linkSecurity <;> cases networkSecurity <;> cases virtualIds <;>
    cases extended <;> cases addressing <;> cases datastream <;> rfl

/-- A frame info is told by its byte. -/
theorem FrameInfo.toByte_ofByte (byte : UInt8) : (ofByte byte).toByte = byte := by
  have h : ∀ n : Fin 256, (ofByte (.ofFin n)).toByte = .ofFin n := by decide +kernel
  exact h byte.toFin

/-! ## Hop codes -/

namespace Route

/-- A bit of an announced code is set by the code itself or by the IDs it announces. -/
theorem hasAny_announcedCode (r : Route) (mask : UInt8) :
    hasAny r.announcedCode mask =
      (hasAny r.hopCode ((extensionBit ||| countBits) &&& mask) ||
        (r.origin.isSome && hasAny originBit mask) ||
        (r.destination.isSome && hasAny destinationBit mask)) := by
  unfold announcedCode
  rw [hasAny_or, hasAny_or, hasAny_and, hasAny_maskIf, hasAny_maskIf]

theorem extensionBit_announcedCode (r : Route) :
    hasAny r.announcedCode extensionBit = hasAny r.hopCode extensionBit := by
  rw [hasAny_announcedCode, show hasAny originBit extensionBit = false from rfl,
    show hasAny destinationBit extensionBit = false from rfl,
    show (extensionBit ||| countBits) &&& extensionBit = extensionBit from rfl]
  simp

theorem originBit_announcedCode (r : Route) :
    hasAny r.announcedCode originBit = r.origin.isSome := by
  rw [hasAny_announcedCode, show hasAny originBit originBit = true from rfl,
    show hasAny destinationBit originBit = false from rfl,
    show (extensionBit ||| countBits) &&& originBit = 0 from rfl, hasAny_zero]
  simp

theorem destinationBit_announcedCode (r : Route) :
    hasAny r.announcedCode destinationBit = r.destination.isSome := by
  rw [hasAny_announcedCode, show hasAny originBit destinationBit = false from rfl,
    show hasAny destinationBit destinationBit = true from rfl,
    show (extensionBit ||| countBits) &&& destinationBit = 0 from rfl, hasAny_zero]
  simp

/-- The bit of a hop code that has no meaning is never announced. -/
theorem reservedBit_announcedCode (r : Route) : hasAny r.announcedCode 0x10 = false := by
  rw [hasAny_announcedCode, show hasAny originBit 0x10 = false from rfl,
    show hasAny destinationBit 0x10 = false from rfl,
    show (extensionBit ||| countBits) &&& 0x10 = 0 from rfl, hasAny_zero]
  simp

theorem announcedCode_and (r : Route) :
    r.announcedCode &&& (extensionBit ||| countBits) =
      r.hopCode &&& (extensionBit ||| countBits) := by
  unfold announcedCode
  rw [or_and, or_and, maskIf_and, maskIf_and, UInt8.and_assoc, UInt8.and_self,
    show originBit &&& (extensionBit ||| countBits) = 0 from rfl,
    show destinationBit &&& (extensionBit ||| countBits) = 0 from rfl]
  simp

end Route

end Mode2
