import Mode2.ChannelAccess.Backoff

/-!
# The channel of an attempt

Contention moves through the list of channels and never off it: once there is a
channel for the current attempt, there is one for every later attempt. The parameters
that choose how to contend stay the same.
-/

namespace Mode2.ChannelAccess

variable {W : Type}

theorem isSome_txChannel?_iff (a : ChannelAccess) :
    a.txChannel?.isSome = true ↔ a.txIndex < a.txChannels.channels.length := by
  simp [txChannel?]

/-- The channel of a dialog is used unless others are set. -/
theorem channels_ne_nil_of_default (a : ChannelAccess) (channel : UInt8) :
    (if a.txChannels.channels = [] then a.setTxChannel channel
      else a).txChannels.channels ≠ [] := by
  split
  · simp [setTxChannel, ChannelList.single]
  next hne => exact hne

/-! ## Sequences of pauses -/

@[simp] theorem params_firstPause (source : RandomSource W) (a : ChannelAccess) (w : W) :
    (firstPause source a w).1.2.params = a.params := by
  unfold firstPause
  split <;> rfl

theorem txChannel?_firstPause (source : RandomSource W) (a : ChannelAccess) (w : W) :
    (firstPause source a w).1.2.txChannel? = a.txChannel? := by
  unfold firstPause
  split <;> rfl

@[simp] theorem params_beginSequence (source : RandomSource W) (a : ChannelAccess)
    (frameTime : Clocks) (w : W) : (a.beginSequence source frameTime w).1.2.params = a.params :=
  params_firstPause source _ _

/-- A sequence begins on the first channel of its list. -/
theorem isSome_txChannel?_beginSequence (source : RandomSource W) (a : ChannelAccess)
    (frameTime : Clocks) (w : W) (h : a.txChannels.channels ≠ []) :
    (a.beginSequence source frameTime w).1.2.txChannel?.isSome = true := by
  unfold beginSequence
  rw [txChannel?_firstPause, isSome_txChannel?_iff]
  have hlength := Shuffle.length_fromPosition source (a.txChannels.channels.length - 1)
    a.txChannels.channels w
  have hpos := List.length_pos_iff.mpr h
  simp only [ChannelList.shuffle, Shuffle.tail, hlength]
  exact hpos

@[simp] theorem params_nextPause (source : RandomSource W) (a : ChannelAccess) (w : W) :
    (a.nextPause source w).1.2.params = a.params := by
  unfold nextPause
  split
  · split <;> rfl
  all_goals rfl

theorem txIndex_nextPause (source : RandomSource W) (a : ChannelAccess) (w : W) :
    (a.nextPause source w).1.2.txIndex = a.txIndex := by
  unfold nextPause
  split
  · split <;> rfl
  all_goals rfl

theorem txChannels_nextPause (source : RandomSource W) (a : ChannelAccess) (w : W) :
    (a.nextPause source w).1.2.txChannels = a.txChannels := by
  unfold nextPause
  split
  · split <;> rfl
  all_goals rfl

theorem params_nextTxChannel (a : ChannelAccess) : a.nextTxChannel.params = a.params := by
  unfold nextTxChannel
  split <;> rfl

@[simp] theorem retries_nextTxChannel (a : ChannelAccess) :
    a.nextTxChannel.retries = a.retries := by
  unfold nextTxChannel
  split <;> rfl

theorem isSome_txChannel?_nextTxChannel {a : ChannelAccess} (h : a.txChannel?.isSome = true) :
    a.nextTxChannel.txChannel?.isSome = true := by
  unfold nextTxChannel
  split
  · exact h
  next hne =>
    rw [isSome_txChannel?_iff]
    exact Nat.mod_lt _ (List.length_pos_iff.mpr hne)

/-! ## Retries -/

theorem spendRetry_eq_some {a b : ChannelAccess} (h : a.spendRetry = some b) :
    b = { a with retries := a.retries - 1 } := by
  unfold spendRetry at h
  split at h
  · cases h
  · cases h
    rfl

theorem txChannel?_spendRetry {a b : ChannelAccess} (h : a.spendRetry = some b) :
    b.txChannel? = a.txChannel? := by
  rw [spendRetry_eq_some h]
  rfl

theorem params_spendRetry {a b : ChannelAccess} (h : a.spendRetry = some b) :
    b.params = a.params := by
  rw [spendRetry_eq_some h]

/-! ## Going on after a busy channel -/

theorem params_afterBusy (source : RandomSource W) (a : ChannelAccess) (w : W) :
    (a.afterBusy source w).1.2.params = a.params := by
  unfold afterBusy
  dsimp only
  split
  · rw [params_nextTxChannel, params_nextPause]
  · split
    next spent hspent => rw [params_beginSequence, params_spendRetry hspent, params_nextPause]
    · rw [params_nextPause]

theorem isSome_txChannel?_afterBusy (source : RandomSource W) {a : ChannelAccess} (w : W)
    (h : a.txChannel?.isSome = true) :
    (a.afterBusy source w).1.2.txChannel?.isSome = true := by
  have hnext : (a.nextPause source w).1.2.txChannel?.isSome = true := by
    rw [isSome_txChannel?_iff, txIndex_nextPause, txChannels_nextPause]
    exact (isSome_txChannel?_iff a).mp h
  unfold afterBusy
  dsimp only
  split
  · exact isSome_txChannel?_nextTxChannel hnext
  · split
    next spent hspent =>
      apply isSome_txChannel?_beginSequence
      rw [← txChannel?_spendRetry hspent, isSome_txChannel?_iff] at hnext
      exact List.length_pos_iff.mp (Nat.zero_lt_of_lt hnext)
    · exact hnext

end Mode2.ChannelAccess
