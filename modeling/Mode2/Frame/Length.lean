/-!
# Lengths of frames
-/

namespace Mode2

/-- The longest frame that is staged. -/
def maxFrame : Nat := 254

/-- The longest frame that is staged when block coding is active. -/
def maxCodedFrame : Nat := 221

/-- The bytes that the radio fills with its checksum. -/
def footerLength : Nat := 2

/-- Length, link control, subnet, frame info and dialog ID: what every frame has. -/
def minHeader : Nat := 5

end Mode2
