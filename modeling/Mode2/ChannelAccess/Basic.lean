import Mode2.ChannelAccess.Channels
import Mode2.ChannelAccess.Params
import Mode2.Time.Span

/-!
# Access to channels

What a request knows about its transmission: the contention window and what is
left of it, the retries it may still make, the window for responses, and the
channels in the order in which they are tried.
-/

namespace Mode2

/-- How a request gets its frame onto a channel. -/
structure ChannelAccess where
  /-- The contention window. -/
  window : Clocks
  /-- What is left of the window. -/
  windowLeft : Clocks
  /-- Air time of the staged frame. -/
  frameTime : Clocks
  /-- Pause between attempts made without collision avoidance. -/
  guardTime : Clocks
  /-- Retries that may still be made. -/
  retries : UInt8
  params : UInt8
  /-- How long responses are awaited. -/
  rxTimeout : Ticks
  txChannels : ChannelList
  rxChannels : ChannelList
  /-- Position of the channel of the current attempt. -/
  txIndex : Nat
deriving DecidableEq, Repr

namespace ChannelAccess

/-- Nothing has been requested. -/
def initial (guardTime : Clocks) : ChannelAccess where
  window := 0
  windowLeft := 0
  frameTime := 0
  guardTime := guardTime
  retries := 0
  params := 0
  rxTimeout := 0
  txChannels := .empty
  rxChannels := .empty
  txIndex := 0

/-- How pauses are chosen. -/
def algorithm (a : ChannelAccess) : Algorithm :=
  ContentionParams.algorithm a.params

/-- Transmit on one channel only. -/
def setTxChannel (a : ChannelAccess) (channel : UInt8) : ChannelAccess :=
  { a with txChannels := .single channel, txIndex := 0 }

/-- The channel of the current attempt. -/
def txChannel? (a : ChannelAccess) : Option UInt8 :=
  a.txChannels.channels[a.txIndex]?

/-- Go on to the next channel; after the last comes the first. -/
def nextTxChannel (a : ChannelAccess) : ChannelAccess :=
  if a.txChannels.channels = [] then a
  else { a with txIndex := (a.txIndex + 1) % a.txChannels.channels.length }

/-- Spend one retry; `none` when there is none left. -/
def spendRetry (a : ChannelAccess) : Option ChannelAccess :=
  if a.retries = 0 then none else some { a with retries := a.retries - 1 }

end ChannelAccess

end Mode2
