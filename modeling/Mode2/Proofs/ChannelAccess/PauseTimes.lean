import Mode2.Proofs.ChannelAccess.Channel

/-!
# Pauses in ticks

Pauses are chosen in clock units and counted in ticks, each rounded to the nearest one.
Pauses in halving windows take no more ticks than the window has, however they are
rounded: what rounding adds to a pause is taken from the half that the pause is not in.
Pauses of one frame each are all rounded alike, so that what rounding adds to one it adds
to every one of them.
-/

namespace Mode2

variable {W : Type}

namespace Backoff

/-- A random pause ends before its bound, except that there is none below zero. -/
theorem count_pauseBelow (source : RandomSource W) (bound : Clocks) (w : W) :
    (pauseBelow source bound w).1.count ≤ bound.count - 1 := by
  unfold pauseBelow
  split
  · exact Nat.zero_le _
  next hzero =>
    have hpos : 0 < bound.count := Nat.pos_of_ne_zero fun h => hzero (by simp [Span.isZero, h])
    have hlt := Nat.mod_lt (source.next16 w).1 hpos
    simp only [Span.count_saturate]
    omega

theorem count_halve_le (window : Clocks) : (halve window).count ≤ window.count / 2 := by
  unfold halve
  split
  · exact Nat.zero_le _
  · exact Nat.min_le_left _ _

/-- A pause and the half window that is left after it fit into the window, also when both
are counted in ticks. -/
theorem ticks_halvingRound (source : RandomSource W) (window : Clocks) (w : W) :
    (halvingRound source window w).1.1.toTicks.count +
        (halvingRound source window w).1.2.count / clocksPerTick ≤
      window.count / clocksPerTick := by
  have hpause := count_pauseBelow source (halve window) w
  have hhalf := count_halve_le window
  simp only [halvingRound, Clocks.count_toTicks, clocksPerTick]
  omega

end Backoff

namespace ChannelAccess

/-- The sequence goes on with pauses of one frame each. -/
def HasConstantPauses (a : ChannelAccess) : Prop :=
  a.algorithm = .raind ∨ a.algorithm = .aind

/-- The pauses of one frame each that are left in the window. -/
def framePauses (a : ChannelAccess) : Nat :=
  a.windowLeft.count / a.frameTime.count - 1

/-- The ticks that the further pauses of a sequence may take. -/
def ticksLeft (a : ChannelAccess) : Nat :=
  match a.algorithm with
  | .rigd => a.window.count / clocksPerTick
  | .raind | .aind => a.framePauses * a.frameTime.toTicks.count
  | .uncontended => 0

variable {a b : ChannelAccess}

theorem algorithm_of_params (h : b.params = a.params) : b.algorithm = a.algorithm :=
  congrArg ContentionParams.algorithm h

theorem ticksLeft_of_rigd (h : a.algorithm = .rigd) :
    a.ticksLeft = a.window.count / clocksPerTick := by
  simp [ticksLeft, h]

theorem ticksLeft_of_constant (h : a.HasConstantPauses) :
    a.ticksLeft = a.framePauses * a.frameTime.toTicks.count := by
  rcases h with h | h <;> simp [ticksLeft, h]

@[simp] theorem ticksLeft_nextTxChannel (a : ChannelAccess) :
    a.nextTxChannel.ticksLeft = a.ticksLeft := by
  unfold nextTxChannel
  split <;> rfl

/-- The ticks `left` are among those that there were; they are all of them when `exact`
holds. -/
structure Within (exact : Prop) (left total : Nat) : Prop where
  le : left ≤ total
  eq : exact → left = total

theorem Within.refl {exact : Prop} (total : Nat) : Within exact total total :=
  ⟨Nat.le_refl _, fun _ => rfl⟩

theorem Within.trans {exact : Prop} {m n k : Nat} (h : Within exact m n) (h' : Within exact n k) :
    Within exact m k :=
  ⟨Nat.le_trans h.le h'.le, fun hexact => (h.eq hexact).trans (h'.eq hexact)⟩

/-! ## Pauses of a sequence -/

/-- A frame fits behind a pause as long as two of them fit into the window. -/
theorem framePauses_succ {left frame : Nat} (hframe : frame ≠ 0) (hfits : frame ≤ left - frame) :
    left / frame - 1 = (left - frame) / frame - 1 + 1 := by
  have hdiv : left / frame = (left - frame) / frame + 1 := by
    rw [← Nat.add_div_right _ (Nat.pos_of_ne_zero hframe), Nat.sub_add_cancel (by omega)]
  have hpos : 1 ≤ (left - frame) / frame := (Nat.one_le_div_iff (by omega)).mpr hfits
  omega

theorem framePauses_eq_zero {left frame : Nat} (hfits : ¬(frame ≤ left - frame ∧ frame ≠ 0)) :
    left / frame - 1 = 0 := by
  by_cases hframe : frame = 0
  · simp [hframe]
  · have hlt : left / frame < 2 := (Nat.div_lt_iff_lt_mul (by omega)).mpr (by omega)
    omega

/-- A pause takes its ticks from those that are left. -/
theorem ticksLeft_nextPause (source : RandomSource W) (w : W) {pause : Clocks}
    (halgorithm : a.algorithm ≠ .uncontended) (hpause : (a.nextPause source w).1.1 = some pause) :
    Within a.HasConstantPauses
      (pause.toTicks.count + (a.nextPause source w).1.2.ticksLeft) a.ticksLeft := by
  have hkept := algorithm_of_params (params_nextPause source a w)
  cases hcase : a.algorithm with
  | uncontended => exact absurd hcase halgorithm
  | rigd =>
      rw [ticksLeft_of_rigd (hkept.trans hcase), ticksLeft_of_rigd hcase]
      simp only [nextPause, hcase] at hpause ⊢
      split at hpause
      · cases hpause
      next hzero =>
        cases hpause
        rw [if_neg hzero]
        refine ⟨Backoff.ticks_halvingRound source a.window w, fun hconstant => ?_⟩
        rcases hconstant with h | h <;> exact absurd (hcase.symm.trans h) (by decide)
  | raind | aind =>
      have hconstant : a.HasConstantPauses := by simp [HasConstantPauses, hcase]
      rw [ticksLeft_of_constant (a := (a.nextPause source w).1.2)
        (by simp [HasConstantPauses, hkept, hcase]), ticksLeft_of_constant hconstant]
      simp only [nextPause, hcase] at hpause ⊢
      split at hpause
      next hfits =>
        cases hpause
        have hframe : a.frameTime.count ≠ 0 := fun hzero => hfits.2 (Span.ext hzero)
        have hone := framePauses_succ hframe hfits.1
        have heq : a.frameTime.toTicks.count +
            ((a.windowLeft - a.frameTime).count / a.frameTime.count - 1) *
              a.frameTime.toTicks.count = a.framePauses * a.frameTime.toTicks.count := by
          rw [framePauses, hone, Nat.succ_mul, Span.count_sub, Nat.add_comm]
        exact ⟨Nat.le_of_eq heq, fun _ => heq⟩
      · cases hpause

/-- When no pause follows, no ticks were left for one. -/
theorem ticksLeft_of_no_pause (source : RandomSource W) (w : W) (hconstant : a.HasConstantPauses)
    (hnone : (a.nextPause source w).1.1 = none) : a.ticksLeft = 0 := by
  have hfits : ¬(a.frameTime ≤ a.windowLeft - a.frameTime ∧ a.frameTime ≠ 0) := by
    intro hfits
    rcases hconstant with hcase | hcase <;>
      · simp only [nextPause, hcase, if_pos hfits] at hnone
        cases hnone
  rw [ticksLeft_of_constant hconstant, framePauses, framePauses_eq_zero, Nat.zero_mul]
  rintro ⟨hle, hframe⟩
  exact hfits ⟨hle, fun hzero => hframe (congrArg Span.count hzero)⟩

/-- The first pause and those after it fit into the window. -/
theorem ticksLeft_beginSequence_of_rigd (source : RandomSource W) (frameTime : Clocks) (w : W)
    (hrigd : a.algorithm = .rigd) :
    (a.beginSequence source frameTime w).1.1.toTicks.count +
        (a.beginSequence source frameTime w).1.2.ticksLeft ≤
      a.window.count / clocksPerTick := by
  rw [ticksLeft_of_rigd ((algorithm_of_params (params_beginSequence source a frameTime w)).trans
    hrigd)]
  unfold algorithm at hrigd
  simp only [beginSequence, firstPause, algorithm, hrigd]
  refine Nat.le_trans (Backoff.ticks_halvingRound source _ _) ?_
  split
  · exact Nat.zero_le _
  · exact Nat.le_refl _

/-! ## Sequences of pauses -/

/-- The pauses that a sequence grants one after another from `a` on, whatever words are
drawn for them and wherever they are drawn from. -/
inductive Grants : ChannelAccess → List Clocks → ChannelAccess → Prop
  | refl (a : ChannelAccess) : Grants a [] a
  | step {W : Type} {a b : ChannelAccess} {pause : Clocks} {pauses : List Clocks}
      (source : RandomSource W) (w : W) (granted : (a.nextPause source w).1.1 = some pause)
      (rest : Grants (a.nextPause source w).1.2.nextTxChannel pauses b) : Grants a (pause :: pauses) b

/-- The ticks that pauses take, each rounded on its own. -/
def totalTicks : List Clocks → Nat
  | [] => 0
  | pause :: pauses => pause.toTicks.count + totalTicks pauses

theorem totalTicks_le_of_grants {pauses : List Clocks} (h : Grants a pauses b)
    (halgorithm : a.algorithm ≠ .uncontended) : totalTicks pauses + b.ticksLeft ≤ a.ticksLeft := by
  induction h with
  | refl a => simp [totalTicks]
  | @step _ a b pause pauses source w granted rest ih =>
      have hkept : (a.nextPause source w).1.2.nextTxChannel.algorithm = a.algorithm :=
        algorithm_of_params ((params_nextTxChannel _).trans (params_nextPause source a w))
      have hpause := (ticksLeft_nextPause source w halgorithm granted).le
      have hrest := ih (by rw [hkept]; exact halgorithm)
      rw [ticksLeft_nextTxChannel] at hrest
      rw [totalTicks]
      omega

/-- The pauses of a sequence with halving windows fit into its window, each rounded on its
own. -/
theorem totalTicks_le_window (source : RandomSource W) (frameTime : Clocks) (w : W)
    (hrigd : a.algorithm = .rigd) {pauses : List Clocks}
    (hgrants : Grants (a.beginSequence source frameTime w).1.2 pauses b) :
    totalTicks ((a.beginSequence source frameTime w).1.1 :: pauses) ≤
      a.window.count / clocksPerTick := by
  have hfirst := ticksLeft_beginSequence_of_rigd source frameTime w hrigd
  have hkept := algorithm_of_params (params_beginSequence source a frameTime w)
  have hrest := totalTicks_le_of_grants hgrants (by rw [hkept, hrigd]; decide)
  rw [totalTicks]
  omega

end ChannelAccess

end Mode2
