import Mode2.Proofs.ChannelAccess.Halving

/-!
# Pauses of one frame each run out

A sequence with constant pauses leaves its window alone and takes the air time of a frame
off a copy of it for every channel that was found busy. So the number of pauses is told by
what the first pause has left of the window, and each of them ends early enough for the frame.
-/

namespace Mode2.ChannelAccess

variable {W : Type} {a : ChannelAccess} (source : RandomSource W) (frameTime : Clocks) (w : W)

/-! ## One attempt -/

/-- What an attempt knows when the first pause and further ones of one frame each have taken
`spent` clock units of the window. -/
structure Spent (a : ChannelAccess) (frameTime : Clocks) (spent : Nat) (b : ChannelAccess) :
    Prop where
  algorithm : b.algorithm = a.algorithm
  window : b.window = a.window
  frameTime : b.frameTime = frameTime
  windowLeft : b.windowLeft.count = a.window.count - spent

theorem spent_beginSequence (hconstant : a.HasConstantPauses) :
    Spent a frameTime (a.beginSequence source frameTime w).1.1.count
      (a.beginSequence source frameTime w).1.2 := by
  rcases hconstant with hcase | hcase <;>
    · unfold algorithm at hcase
      constructor <;> simp [beginSequence, firstPause, algorithm, hcase]

/-- The pause after a busy channel is one frame, as long as another frame fits behind it. -/
theorem nextPause_of_constant (hconstant : a.HasConstantPauses) :
    (a.nextPause source w).1 =
      (if a.frameTime ≤ a.windowLeft - a.frameTime ∧ a.frameTime ≠ 0 then some a.frameTime
        else none,
      { a with windowLeft := a.windowLeft - a.frameTime }) := by
  rcases hconstant with hcase | hcase <;> simp [nextPause, hcase]

theorem Spent.nextPause {b : ChannelAccess} {spent : Nat} (h : Spent a frameTime spent b)
    (hconstant : a.HasConstantPauses) :
    Spent a frameTime (spent + frameTime.count) (b.nextPause source w).1.2 := by
  have hb : b.HasConstantPauses := by simpa [HasConstantPauses, h.algorithm] using hconstant
  rw [nextPause_of_constant source w hb]
  refine ⟨h.algorithm, h.window, h.frameTime, ?_⟩
  rw [Span.count_sub, h.windowLeft, h.frameTime, Nat.sub_sub]

/-- Without a random pause the frame goes out at once. -/
theorem beginSequence_of_aind (haind : a.algorithm = .aind) :
    (a.beginSequence source frameTime w).1.1.count = 0 := by
  unfold algorithm at haind
  simp [beginSequence, firstPause, algorithm, haind]

/-- A random first pause leaves more of the window than the frame takes. -/
theorem beginSequence_of_raind (hraind : a.algorithm = .raind) :
    (a.beginSequence source frameTime w).1.1.count = 0 ∨
      (a.beginSequence source frameTime w).1.1.count + frameTime.count < a.window.count := by
  have hpause := Backoff.count_pauseBelow source (a.window - frameTime)
    (a.txChannels.shuffle source w).2
  unfold algorithm at hraind
  simp only [beginSequence, firstPause, algorithm, hraind, Span.count_sub] at hpause ⊢
  omega

/-! ## All attempts -/

/-- Every attempt after the first has taken one frame more. -/
theorem spent_attempt (hconstant : a.HasConstantPauses) (n : Nat) :
    Spent a frameTime ((a.beginSequence source frameTime w).1.1.count + n * frameTime.count)
      (a.attempt source frameTime w n).1.2 := by
  induction n with
  | zero =>
      rw [Nat.zero_mul, Nat.add_zero]
      exact spent_beginSequence source frameTime w hconstant
  | succ n ih =>
      rw [Nat.succ_mul, ← Nat.add_assoc]
      exact ih.nextPause source frameTime _ hconstant

/-- A further attempt is made after a pause of one frame, as long as there are frames that fit
into what the first pause has left, one of them for the attempt itself. -/
theorem attempt_succ (hconstant : a.HasConstantPauses) (hframe : 0 < frameTime.count) (n : Nat) :
    (a.attempt source frameTime w (n + 1)).1.1 =
      if n < (a.window.count - (a.beginSequence source frameTime w).1.1.count) /
          frameTime.count - 1
      then some frameTime else none := by
  have hspent := spent_attempt source frameTime w hconstant n
  have hkept : (a.attempt source frameTime w n).1.2.HasConstantPauses := by
    simpa [HasConstantPauses, hspent.algorithm] using hconstant
  have hnonzero : frameTime ≠ 0 := fun hzero => by simp [hzero] at hframe
  have hroom := Nat.le_div_iff_mul_le (x := n + 2)
    (y := a.window.count - (a.beginSequence source frameTime w).1.1.count) hframe
  change ((a.attempt source frameTime w n).1.2.nextPause source _).1.1 = _
  rw [nextPause_of_constant source _ hkept, hspent.frameTime]
  refine if_congr ?_ rfl rfl
  rw [Span.le_def, Span.count_sub, hspent.windowLeft, and_iff_left hnonzero, Nat.lt_sub_iff_add_lt,
    Nat.lt_iff_add_one_le, hroom, Nat.add_mul]
  omega

/-- No pause after the first is longer than a frame. -/
theorem pausesBefore_succ_le (hconstant : a.HasConstantPauses) (hframe : 0 < frameTime.count)
    (n : Nat) :
    a.pausesBefore source frameTime w (n + 1) ≤
      (a.beginSequence source frameTime w).1.1.count + n * frameTime.count := by
  induction n with
  | zero => simp [pausesBefore, attempt]
  | succ n ih =>
      have hsum : a.pausesBefore source frameTime w (n + 2) =
          a.pausesBefore source frameTime w (n + 1) +
            ((a.attempt source frameTime w (n + 1)).1.1.getD 0).count :=
        Finset.sum_range_succ _ (n + 1)
      have hpause : ((a.attempt source frameTime w (n + 1)).1.1.getD 0).count ≤
          frameTime.count := by
        rw [attempt_succ source frameTime w hconstant hframe n]
        split <;> simp
      rw [hsum, Nat.succ_mul]
      omega

/-- A further pause is granted as long as there are such frames. -/
theorem isSome_attempt_succ_iff (hconstant : a.HasConstantPauses) (hframe : 0 < frameTime.count)
    (n : Nat) :
    (a.attempt source frameTime w (n + 1)).1.1.isSome ↔
      n < (a.window.count - (a.beginSequence source frameTime w).1.1.count) /
        frameTime.count - 1 := by
  rw [attempt_succ source frameTime w hconstant hframe n]
  split
  next hgranted => exact iff_of_true rfl hgranted
  next hgone => exact iff_of_false Bool.false_ne_true hgone

/-- A granted pause is one frame, and a frame fits between its end and that of the window. -/
theorem attempt_succ_fits (hconstant : a.HasConstantPauses) (hframe : 0 < frameTime.count)
    {n : Nat} {p : Clocks} (hp : (a.attempt source frameTime w (n + 1)).1.1 = some p) :
    p = frameTime ∧
      a.pausesBefore source frameTime w (n + 2) + frameTime.count ≤ a.window.count := by
  have hsum : a.pausesBefore source frameTime w (n + 2) ≤ _ :=
    pausesBefore_succ_le source frameTime w hconstant hframe (n + 1)
  have hgranted := (isSome_attempt_succ_iff source frameTime w hconstant hframe n).mp
    (Option.isSome_of_eq_some hp)
  have hroom : (n + 2) * frameTime.count ≤
      a.window.count - (a.beginSequence source frameTime w).1.1.count :=
    (Nat.le_div_iff_mul_le hframe).mp (by omega)
  rw [attempt_succ source frameTime w hconstant hframe n, if_pos hgranted] at hp
  refine ⟨(Option.some.inj hp).symm, ?_⟩
  rw [Nat.succ_mul] at hroom
  omega

/-- Constant pauses run out: after the first pause every pause takes exactly one frame and ends
early enough for the frame to be sent within the window. There are as many as there are frames
that fit into what the first pause has left, less one; then there is no further pause. The
window itself stays as it is. -/
theorem constant_pauses_run_out (hconstant : a.HasConstantPauses) (hframe : 0 < frameTime.count) :
    let pause n := (a.attempt source frameTime w n).1.1
    let window := a.window.count
    ∃ first : Clocks, pause 0 = some first ∧
      (a.algorithm = .aind → first.count = 0) ∧
      (a.algorithm = .raind → first.count = 0 ∨ first.count + frameTime.count < window) ∧
      (∀ n p, pause (n + 1) = some p → p = frameTime ∧
        a.pausesBefore source frameTime w (n + 2) + frameTime.count ≤ window) ∧
      (∀ n, (pause (n + 1)).isSome ↔ n < (window - first.count) / frameTime.count - 1) ∧
      (∀ n, pause (n + 1) = none → ∀ m ≥ n, pause (m + 1) = none) ∧
      ∀ n, (a.attempt source frameTime w n).1.2.window = a.window := by
  intro pause window
  have hgranted := isSome_attempt_succ_iff source frameTime w hconstant hframe
  refine ⟨(a.beginSequence source frameTime w).1.1, rfl,
    beginSequence_of_aind source frameTime w, beginSequence_of_raind source frameTime w,
    fun n p => attempt_succ_fits source frameTime w hconstant hframe, hgranted,
    fun n hnone m hm => ?_, fun n => (spent_attempt source frameTime w hconstant n).window⟩
  have hlate : ∀ k, pause (k + 1) = none ↔ (a.window.count -
      (a.beginSequence source frameTime w).1.1.count) / frameTime.count - 1 ≤ k := fun k => by
    rw [← Option.not_isSome_iff_eq_none, hgranted, Nat.not_lt]
  exact (hlate m).mpr (Nat.le_trans ((hlate n).mp hnone) hm)

/-- A window of three hundred clock units grants four pauses of fifty after a first one of
seven. -/
theorem constant_pauses_run_out_of_three_hundred :
    let source : RandomSource UInt32 := fun w => (w, w + 1)
    let a : ChannelAccess := { initial 0 with window := 300, params := 0x10 }
    a.HasConstantPauses ∧ (a.attempt source 50 7 0).1.1 = some 7 ∧
      (∀ n, (a.attempt source 50 7 (n + 1)).1.1.isSome ↔ n < 4) ∧
      ∀ n p, (a.attempt source 50 7 (n + 1)).1.1 = some p → p = 50 := by
  intro source a
  have hconstant : a.HasConstantPauses := .inl (by decide)
  obtain ⟨first, hfirst, -, -, hpause, hgranted, -⟩ :=
    constant_pauses_run_out (a := a) source 50 7 hconstant (by decide)
  have hseven : (a.attempt source 50 7 0).1.1 = some 7 := by decide
  obtain rfl : first = 7 := Option.some.inj (hfirst.symm.trans hseven)
  have hfour : (300 - 7) / 50 - 1 = 4 := by decide
  exact ⟨hconstant, hseven, fun n => hfour ▸ hgranted n, fun n p hp => (hpause n p hp).1⟩

end Mode2.ChannelAccess
