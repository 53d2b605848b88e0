import Mode2.Time.Span

/-!
# Air time

How long a frame occupies the channel. A bit of the channel number selects the
symbol rate.
-/

namespace Mode2

/-- The channel bit that selects the fast symbol rate. -/
def fastChannelBit : UInt8 := 0x20

/-- Thousandths of a clock unit that one byte takes on a channel. -/
def byteTime (channel : UInt8) : Nat :=
  if channel &&& fastChannelBit != 0 then 1311 else 4719

/-- Air time of a frame of `bytes` bytes on `channel`, rounded up to whole clock
units. -/
def airTime (bytes : Nat) (channel : UInt8) : Clocks :=
  .saturate ((bytes * byteTime channel + 999) / 1000)

end Mode2
