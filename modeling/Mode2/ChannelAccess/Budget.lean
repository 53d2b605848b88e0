import Mode2.ChannelAccess.Backoff

/-!
# What contention uses up

Every pause after a failed attempt is paid for: with part of the contention
window, or with a retry, which may buy a new window. The budget bounds how often a
dialog can go on, whatever the radio answers and the random source yields.
-/

namespace Mode2.ChannelAccess

variable {W : Type}

/-- What the algorithm may still use up without spending a retry. -/
def windowBudget (a : ChannelAccess) : Nat :=
  match a.algorithm with
  | .rigd => a.window.count
  | .raind | .aind => a.windowLeft.count
  | .uncontended => 0

/-- A bound on the attempts that may still be made. -/
def budget (a : ChannelAccess) : Nat :=
  a.retries.toNat * 0x100000000 + a.windowBudget

theorem windowBudget_lt (a : ChannelAccess) : a.windowBudget < 0x100000000 := by
  unfold windowBudget
  split
  · exact a.window.count_lt
  · exact a.windowLeft.count_lt
  · exact a.windowLeft.count_lt
  · decide

theorem budget_lt_of_retries {a b : ChannelAccess}
    (h : b.retries.toNat + 1 = a.retries.toNat) : b.budget < a.budget := by
  have := b.windowBudget_lt
  unfold budget
  rw [← h]
  omega

theorem retries_spendRetry {a b : ChannelAccess} (h : a.spendRetry = some b) :
    b.retries.toNat + 1 = a.retries.toNat := by
  unfold spendRetry at h
  split at h
  · cases h
  next hzero =>
    cases h
    have hpos : a.retries.toNat ≠ 0 := fun hz => hzero (UInt8.toNat_inj.mp (by simpa using hz))
    have hle : (1 : UInt8) ≤ a.retries := by
      rw [UInt8.le_iff_toNat_le]
      simpa using Nat.one_le_iff_ne_zero.mpr hpos
    have hsub := UInt8.toNat_sub_of_le a.retries 1 hle
    have hone : (1 : UInt8).toNat = 1 := rfl
    dsimp only
    omega

@[simp] theorem retries_beginSequence (source : RandomSource W) (a : ChannelAccess)
    (frameTime : Clocks) (w : W) :
    (a.beginSequence source frameTime w).1.2.retries = a.retries := by
  unfold beginSequence firstPause
  dsimp only
  split <;> rfl

@[simp] theorem retries_nextPause (source : RandomSource W) (a : ChannelAccess) (w : W) :
    (a.nextPause source w).1.2.retries = a.retries := by
  unfold nextPause
  cases a.algorithm with
  | rigd =>
      dsimp only
      split <;> rfl
  | raind | aind | uncontended => rfl

theorem budget_nextTxChannel (a : ChannelAccess) : a.nextTxChannel.budget = a.budget := by
  unfold nextTxChannel
  split <;> rfl

theorem count_halve_lt {c : Clocks} (h : c ≠ 0) : (Backoff.halve c).count < c.count := by
  have hpos : c.count ≠ 0 := fun hz => h (Span.ext hz)
  unfold Backoff.halve
  split
  · simp only [Span.count_zero]
    omega
  · simp only [Span.count_saturate]
    omega

/-- A further pause of a sequence uses up part of its window. -/
theorem budget_nextPause (source : RandomSource W) (a : ChannelAccess) (w : W)
    (halgorithm : a.algorithm ≠ .uncontended) (hpause : (a.nextPause source w).1.1 ≠ none) :
    (a.nextPause source w).1.2.budget < a.budget := by
  unfold nextPause at hpause ⊢
  cases hcase : a.algorithm with
  | uncontended => exact absurd hcase halgorithm
  | rigd =>
      simp only [hcase] at hpause ⊢
      split at hpause
      · exact absurd rfl hpause
      next hzero =>
        rw [if_neg hzero]
        have hhalf := count_halve_lt (c := a.window) (by simpa using hzero)
        unfold algorithm at hcase
        simp only [budget, windowBudget, algorithm, hcase]
        exact Nat.add_lt_add_left hhalf _
  | raind | aind =>
      simp only [hcase] at hpause ⊢
      split at hpause
      next hfits =>
        have hframe : a.frameTime.count ≠ 0 := fun hz => hfits.2 (Span.ext hz)
        have hle := hfits.1
        rw [Span.le_def, Span.count_sub] at hle
        unfold algorithm at hcase
        simp only [budget, windowBudget, algorithm, hcase, Span.count_sub]
        omega
      · exact absurd rfl hpause

/-- Going on after a busy channel is paid for. -/
theorem budget_afterBusy (source : RandomSource W) (a : ChannelAccess) (w : W)
    (halgorithm : a.algorithm ≠ .uncontended) (hpause : (a.afterBusy source w).1.1 ≠ none) :
    (a.afterBusy source w).1.2.budget < a.budget := by
  unfold afterBusy at hpause ⊢
  dsimp only at hpause ⊢
  cases hnext : (a.nextPause source w).1.1 with
  | some pause =>
      rw [budget_nextTxChannel]
      exact budget_nextPause source a w halgorithm (by simp [hnext])
  | none =>
      rw [hnext] at hpause
      cases hspent : (a.nextPause source w).1.2.spendRetry with
      | some spent =>
          have hretries := retries_spendRetry hspent
          exact budget_lt_of_retries (by simpa using hretries)
      | none =>
          rw [hspent] at hpause
          exact absurd rfl hpause

end Mode2.ChannelAccess
