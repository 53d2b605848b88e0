import Mode2.ChannelAccess.Basic

/-!
# Pauses before transmission attempts

A contention sequence begins with a first pause and goes on with a further pause
after each attempt that found the channel busy, until its window is used up. All
pauses are counted in clock units.
-/

namespace Mode2

namespace Backoff

variable {W : Type}

/-- A random length of time below `bound`; none is drawn when `bound` is zero. -/
def pauseBelow (source : RandomSource W) (bound : Clocks) : StateM W Clocks := fun w =>
  if bound.isZero then (0, w)
  else ((.saturate ((source.next16 w).1 % bound.count) : Clocks), (source.next16 w).2)

/-- Half of a window. A single clock unit carries no randomness and counts as
nothing. -/
def halve (window : Clocks) : Clocks :=
  if window.count / 2 ≤ 1 then 0 else .saturate (window.count / 2)

/-- One round of a halving window: the pause, and the window that is left. -/
def halvingRound (source : RandomSource W) (window : Clocks) : StateM W (Clocks × Clocks) :=
  fun w => (((pauseBelow source (halve window) w).1, halve window),
    (pauseBelow source (halve window) w).2)

end Backoff

namespace ChannelAccess

variable {W : Type}

/-- The first pause of a sequence whose channels are in order. -/
def firstPause (source : RandomSource W) (a : ChannelAccess) : StateM W (Clocks × ChannelAccess) :=
  fun w =>
    match a.algorithm with
    | .rigd =>
        let window := if a.window.count ≤ 1 then 0 else a.window
        let round := Backoff.halvingRound source window w
        ((round.1.1, { a with window := round.1.2, windowLeft := window }), round.2)
    | .raind =>
        let pause := Backoff.pauseBelow source (a.window - a.frameTime) w
        ((pause.1, { a with windowLeft := a.window - pause.1 }), pause.2)
    | .aind | .uncontended => ((0, { a with windowLeft := a.window }), w)

/-- Begin a sequence for a frame of the given air time: order the channels, start
with the first of them, and choose the first pause. -/
def beginSequence (source : RandomSource W) (a : ChannelAccess) (frameTime : Clocks) :
    StateM W (Clocks × ChannelAccess) := fun w =>
  let shuffled := a.txChannels.shuffle source w
  firstPause source { a with frameTime, txIndex := 0, txChannels := shuffled.1 } shuffled.2

/-- The pause after a busy channel, or `none` when the window is used up. -/
def nextPause (source : RandomSource W) (a : ChannelAccess) :
    StateM W (Option Clocks × ChannelAccess) := fun w =>
  match a.algorithm with
  | .rigd =>
      if a.window.isZero then ((none, a), w)
      else
        let round := Backoff.halvingRound source a.window w
        ((some round.1.1, { a with window := round.1.2 }), round.2)
  | .raind | .aind =>
      let windowLeft := a.windowLeft - a.frameTime
      ((if a.frameTime ≤ windowLeft ∧ a.frameTime ≠ 0 then some a.frameTime else none,
        { a with windowLeft }), w)
  | .uncontended => ((some a.guardTime, a), w)

/-- Go on after a busy channel: with the next pause of the sequence on the next
channel, or with a new sequence for one retry. The pause is `none` when neither is
left. -/
def afterBusy (source : RandomSource W) (a : ChannelAccess) :
    StateM W (Option Clocks × ChannelAccess) := fun w =>
  let next := a.nextPause source w
  match next.1.1 with
  | some pause => ((some pause, next.1.2.nextTxChannel), next.2)
  | none =>
      match next.1.2.spendRetry with
      | some spent =>
          let begun := spent.beginSequence source spent.frameTime next.2
          ((some begun.1.1, begun.1.2), begun.2)
      | none => ((none, next.1.2), next.2)

end ChannelAccess

end Mode2
