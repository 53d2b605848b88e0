import Mathlib.Algebra.BigOperators.Group.Finset.Basic
import Mode2.Proofs.ChannelAccess.PauseTimes

/-!
# Halving windows run out

Each round of a sequence with a halving window takes the logarithm of the window down by one.
So the number of pauses is told by the window that the sequence begins with, whatever words are
drawn for them, and all of them together are shorter than that window.
-/

namespace Mode2

variable {W : Type}

namespace Backoff

theorem count_halve (window : Clocks) :
    (halve window).count = if window.count / 2 ≤ 1 then 0 else window.count / 2 := by
  have hlt := window.count_lt
  unfold halve
  split
  · rfl
  · rw [Span.count_saturate, Nat.min_eq_left (by omega)]

/-- No window of a single clock unit is left. -/
theorem count_halve_ne_one (window : Clocks) : (halve window).count ≠ 1 := by
  rw [count_halve]
  split <;> omega

/-- Halving takes one off the logarithm, also where it leaves nothing. -/
theorem log2_halve (window : Clocks) : (halve window).count.log2 = window.count.log2 - 1 := by
  rw [count_halve, Nat.log2_def window.count]
  by_cases htwo : 2 ≤ window.count
  · rw [if_pos htwo, Nat.add_sub_cancel]
    split
    next hsmall =>
      obtain hone : window.count / 2 = 1 := by omega
      rw [hone]
      decide
    next => rfl
  · rw [if_neg htwo, if_pos (by omega)]
    decide

end Backoff

namespace ChannelAccess

variable {a : ChannelAccess} (source : RandomSource W) (frameTime : Clocks) (w : W)

/-- The attempts of a sequence: the pause before each of them, or `none` when the window is used
up, and what is known then. The first begins the sequence, and each further one goes on after a
busy channel. -/
def attempt (a : ChannelAccess) : Nat → (Option Clocks × ChannelAccess) × W
  | 0 =>
      let begun := a.beginSequence source frameTime w
      ((some begun.1.1, begun.1.2), begun.2)
  | n + 1 => (attempt a n).1.2.nextPause source (attempt a n).2

/-- The window that an attempt finds: at first the one of the request, then what the attempt
before it has left. -/
def windowBefore (a : ChannelAccess) : Nat → Clocks
  | 0 => a.window
  | n + 1 => (a.attempt source frameTime w n).1.2.window

theorem algorithm_attempt (n : Nat) :
    (a.attempt source frameTime w n).1.2.algorithm = a.algorithm := by
  induction n with
  | zero => exact algorithm_of_params (params_beginSequence source a frameTime w)
  | succ n ih => exact (algorithm_of_params (params_nextPause source _ _)).trans ih

/-! ## One attempt -/

/-- What an attempt does to a halving window, and the pause that it is made after. -/
structure Halves (before : Clocks) (pause : Option Clocks) (after : Clocks) : Prop where
  after_eq : after = Backoff.halve before
  pause_le : (pause.getD 0).count ≤ after.count - 1

theorem beginSequence_halves (hrigd : a.algorithm = .rigd) :
    Halves a.window (some (a.beginSequence source frameTime w).1.1)
      (a.beginSequence source frameTime w).1.2.window := by
  -- Whether a single clock unit is dropped before the round or in it comes to the same.
  have hsingle : Backoff.halve (if a.window.count ≤ 1 then 0 else a.window) =
      Backoff.halve a.window := by
    split
    next hone =>
      apply Span.ext
      rw [Backoff.count_halve, Backoff.count_halve, if_pos (by decide), if_pos (by omega)]
    next => rfl
  unfold algorithm at hrigd
  unfold beginSequence firstPause
  simp only [algorithm, hrigd, Backoff.halvingRound, hsingle]
  exact ⟨rfl, Backoff.count_pauseBelow source _ _⟩

theorem nextPause_halves (hrigd : a.algorithm = .rigd) :
    Halves a.window (a.nextPause source w).1.1 (a.nextPause source w).1.2.window := by
  unfold nextPause
  simp only [hrigd]
  split
  next hzero =>
    rw [Span.isZero_iff] at hzero
    rw [hzero]
    exact ⟨Span.ext rfl, Nat.zero_le _⟩
  next => exact ⟨rfl, Backoff.count_pauseBelow source _ _⟩

/-- A further pause is granted as long as there is a window. -/
theorem isSome_nextPause_iff (hrigd : a.algorithm = .rigd) :
    (a.nextPause source w).1.1.isSome ↔ a.window.count ≠ 0 := by
  unfold nextPause
  simp only [hrigd]
  split <;> next hzero => simpa [Span.isZero] using hzero

/-- A pause ends within the window that is left after it, unless it takes no time. -/
theorem Halves.pause_lt {before after p : Clocks} (h : Halves before (some p) after) :
    p.count = 0 ∨ p.count < after.count := by
  have hpause : p.count ≤ after.count - 1 := h.pause_le
  omega

/-- A pause and the window that is left fit into the window that there was, and do not fill it. -/
theorem Halves.fits {before after : Clocks} {pause : Option Clocks} (h : Halves before pause after) :
    (pause.getD 0).count + after.count ≤ before.count ∧
      (0 < before.count → (pause.getD 0).count + after.count < before.count) := by
  have hhalf := Backoff.count_halve_le before
  have hpause := h.pause_le
  rw [h.after_eq] at hpause ⊢
  omega

/-! ## All attempts -/

theorem attempt_halves (hrigd : a.algorithm = .rigd) (n : Nat) :
    Halves (a.windowBefore source frameTime w n) (a.attempt source frameTime w n).1.1
      (a.windowBefore source frameTime w (n + 1)) := by
  cases n with
  | zero => exact beginSequence_halves source frameTime w hrigd
  | succ n => exact nextPause_halves source _ ((algorithm_attempt source frameTime w n).trans hrigd)

/-- Every attempt takes one off the logarithm of the window. -/
theorem log2_windowBefore (hrigd : a.algorithm = .rigd) (n : Nat) :
    (a.windowBefore source frameTime w n).count.log2 = a.window.count.log2 - n := by
  induction n with
  | zero => rfl
  | succ n ih =>
      rw [(attempt_halves source frameTime w hrigd n).after_eq, Backoff.log2_halve, ih, Nat.sub_sub]

/-- After an attempt a window is left as long as its logarithm is not used up. -/
theorem count_windowBefore_succ_ne_zero_iff (hrigd : a.algorithm = .rigd) (n : Nat) :
    (a.windowBefore source frameTime w (n + 1)).count ≠ 0 ↔ n + 1 < a.window.count.log2 := by
  have hlog := log2_windowBefore source frameTime w hrigd (n + 1)
  have hone : (a.windowBefore source frameTime w (n + 1)).count ≠ 1 := by
    rw [(attempt_halves source frameTime w hrigd n).after_eq]
    exact Backoff.count_halve_ne_one _
  rw [Nat.log2_def] at hlog
  split at hlog <;> omega

/-- There are as many pauses as the logarithm of the window says, but at least one. -/
theorem isSome_attempt_iff (hrigd : a.algorithm = .rigd) (n : Nat) :
    (a.attempt source frameTime w n).1.1.isSome ↔ n < max 1 a.window.count.log2 := by
  cases n with
  | zero => exact iff_of_true rfl (by omega)
  | succ n =>
      have hkept := (algorithm_attempt source frameTime w n).trans hrigd
      have hleft := count_windowBefore_succ_ne_zero_iff source frameTime w hrigd n
      refine (isSome_nextPause_iff source _ hkept).trans (hleft.trans ?_)
      omega

/-- The pauses before the first attempts, one after the other. -/
def pausesBefore (a : ChannelAccess) (n : Nat) : Nat :=
  ∑ i ∈ Finset.range n, ((a.attempt source frameTime w i).1.1.getD 0).count

/-- The pauses so far and the window that is left are together no longer than the window, and the
pauses alone are shorter if there is one at all. -/
theorem pausesBefore_fit (hrigd : a.algorithm = .rigd) (n : Nat) :
    a.pausesBefore source frameTime w n + (a.windowBefore source frameTime w n).count ≤
        a.window.count ∧
      (0 < a.window.count → a.pausesBefore source frameTime w n < a.window.count) := by
  induction n with
  | zero => simp [pausesBefore, windowBefore]
  | succ n ih =>
      obtain ⟨hle, hlt⟩ := (attempt_halves source frameTime w hrigd n).fits
      have hsum : a.pausesBefore source frameTime w (n + 1) =
          a.pausesBefore source frameTime w n +
            ((a.attempt source frameTime w n).1.1.getD 0).count :=
        Finset.sum_range_succ _ n
      rw [hsum]
      omega

/-- A halving window runs out: it never grows, every pause takes no time or ends within the
window that is left after it, and all of them together are shorter than the window that the
sequence begins with. There are as many as the logarithm of that window says, but at least one;
then there is no window left, and no further pause. -/
theorem halving_runs_out (hrigd : a.algorithm = .rigd) :
    let window n := (a.windowBefore source frameTime w n).count
    let pause n := (a.attempt source frameTime w n).1.1
    (∀ n, window (n + 1) ≤ window n) ∧
      (∀ n p, pause n = some p →
        (p.count = 0 ∨ p.count < window (n + 1)) ∧ (0 < window n → p.count < window n)) ∧
      (∀ n, (0 < window 0 → a.pausesBefore source frameTime w n < window 0) ∧
        (window 0 = 0 → a.pausesBefore source frameTime w n = 0)) ∧
      (∀ n, (pause n).isSome ↔ n < max 1 (window 0).log2) ∧
      (∀ n, pause n = none → window n = 0 ∧ ∀ m ≥ n, pause m = none) := by
  intro window pause
  have hsteps := attempt_halves source frameTime w hrigd
  have hgranted : ∀ n, (pause n).isSome ↔ n < max 1 (window 0).log2 :=
    isSome_attempt_iff source frameTime w hrigd
  refine ⟨fun n => ?_, fun n p hp => ?_, fun n => ?_, hgranted, fun n hnone => ?_⟩
  · have hfits : _ + window (n + 1) ≤ window n := (hsteps n).fits.1
    omega
  · have hstep : Halves _ (pause n) _ := hsteps n
    rw [hp] at hstep
    have hfits : 0 < window n → p.count + window (n + 1) < window n := hstep.fits.2
    exact ⟨hstep.pause_lt, fun hpos => by have := hfits hpos; omega⟩
  · obtain ⟨hle, hlt⟩ := pausesBefore_fit source frameTime w hrigd n
    exact ⟨hlt, fun hzero => by change a.window.count = 0 at hzero; omega⟩
  · have hlate : ∀ m, pause m = none ↔ max 1 (window 0).log2 ≤ m := fun m => by
      rw [← Option.not_isSome_iff_eq_none, hgranted, Nat.not_lt]
    have hn := (hlate n).mp hnone
    refine ⟨?_, fun m hm => (hlate m).mpr (Nat.le_trans hn hm)⟩
    cases n with
    | zero => omega
    | succ n =>
        have hleft := count_windowBefore_succ_ne_zero_iff source frameTime w hrigd n
        change window (n + 1) ≠ 0 ↔ n + 1 < (window 0).log2 at hleft
        omega

/-- A window of eight clock units grants three pauses, whatever words count up. -/
theorem halving_runs_out_of_eight :
    let source : RandomSource UInt32 := fun w => (w, w + 1)
    let a : ChannelAccess :=
      { initial 0 with window := 8, txChannels := .ofList [0x10, 0x20, 0x30, 0x40] }
    a.algorithm = .rigd ∧ (∀ n, (a.attempt source 0 7 n).1.1.isSome ↔ n < 3) ∧
      ∀ n, a.pausesBefore source 0 7 n < 8 := by
  intro source a
  have hrigd : a.algorithm = .rigd := by decide
  obtain ⟨-, -, hsum, hgranted, -⟩ := halving_runs_out source 0 7 hrigd
  have hthree : max 1 a.window.count.log2 = 3 := by decide
  exact ⟨hrigd, fun n => hthree ▸ hgranted n, fun n => (hsum n).1 (by decide)⟩

end ChannelAccess

end Mode2
