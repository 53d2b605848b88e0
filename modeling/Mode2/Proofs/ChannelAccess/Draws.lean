import Mode2.ChannelAccess.Backoff
import Mode2.Proofs.Steps

/-!
# What contention does to the world

Choosing channels and pauses draws random words and does nothing else to the world: what
drawing one word after the other comes to, it comes to.
-/

namespace Mode2

variable {W V : Type} {R : W → W → Prop} {view : W → V} {source : RandomSource W}

/-- What a view sees is the same before and after. -/
theorem composes_view (view : W → V) : Composes fun w w' => view w' = view w where
  refl _ := rfl
  trans h h' := h'.trans h

/-- A word is drawn for each position but the first two. -/
theorem Shuffle.draws_fromPosition (hR : Composes R) (h : ∀ w, R w (source w).2) (last : Nat)
    (l : List UInt8) (w : W) : R w (fromPosition source last l w).2 := by
  induction last generalizing l w with
  | zero => exact hR.refl w
  | succ last ih =>
      cases last with
      | zero => exact hR.refl w
      | succ last => exact hR.trans (h w) (ih _ _)

theorem Backoff.draws_pauseBelow (hR : Composes R) (h : ∀ w, R w (source w).2) (bound : Clocks)
    (w : W) : R w (pauseBelow source bound w).2 := by
  unfold pauseBelow
  split
  · exact hR.refl w
  · exact h w

namespace ChannelAccess

theorem draws_firstPause (hR : Composes R) (h : ∀ w, R w (source w).2) (a : ChannelAccess)
    (w : W) : R w (firstPause source a w).2 := by
  unfold firstPause
  split
  · exact Backoff.draws_pauseBelow hR h _ w
  · exact Backoff.draws_pauseBelow hR h _ w
  all_goals exact hR.refl w

theorem draws_beginSequence (hR : Composes R) (h : ∀ w, R w (source w).2) (a : ChannelAccess)
    (frameTime : Clocks) (w : W) : R w (a.beginSequence source frameTime w).2 :=
  hR.trans (Shuffle.draws_fromPosition hR h _ _ w) (draws_firstPause hR h _ _)

theorem draws_nextPause (hR : Composes R) (h : ∀ w, R w (source w).2) (a : ChannelAccess)
    (w : W) : R w (a.nextPause source w).2 := by
  unfold nextPause
  split
  · split
    · exact hR.refl w
    · exact Backoff.draws_pauseBelow hR h _ w
  all_goals exact hR.refl w

theorem draws_afterBusy (hR : Composes R) (h : ∀ w, R w (source w).2) (a : ChannelAccess)
    (w : W) : R w (a.afterBusy source w).2 := by
  have hnext := draws_nextPause hR h a w
  unfold afterBusy
  dsimp only
  split
  · exact hnext
  · split
    · exact hR.trans hnext (draws_beginSequence hR h _ _ _)
    · exact hnext

theorem view_beginSequence (h : ∀ w, view (source w).2 = view w) (a : ChannelAccess)
    (frameTime : Clocks) (w : W) : view (a.beginSequence source frameTime w).2 = view w :=
  draws_beginSequence (composes_view view) h a frameTime w

theorem view_nextPause (h : ∀ w, view (source w).2 = view w) (a : ChannelAccess) (w : W) :
    view (a.nextPause source w).2 = view w :=
  draws_nextPause (composes_view view) h a w

theorem view_afterBusy (h : ∀ w, view (source w).2 = view w) (a : ChannelAccess) (w : W) :
    view (a.afterBusy source w).2 = view w :=
  draws_afterBusy (composes_view view) h a w

/-! ## Words that are zero -/

theorem pauseBelow_of_zero (h : ∀ w, (source w).1 = 0) (bound : Clocks) (w : W) :
    (Backoff.pauseBelow source bound w).1 = 0 := by
  unfold Backoff.pauseBelow
  split
  · rfl
  · simp only [RandomSource.next16, h]
    rw [show (0 : UInt32).toNat % 0x10000 = 0 from rfl, Nat.zero_mod]
    rfl

/-- Zero words make a sequence begin without a pause. -/
theorem beginSequence_of_zero (h : ∀ w, (source w).1 = 0) (a : ChannelAccess) (frameTime : Clocks)
    (w : W) : (a.beginSequence source frameTime w).1.1 = 0 := by
  unfold beginSequence firstPause
  dsimp only
  split
  · exact pauseBelow_of_zero h _ _
  · exact pauseBelow_of_zero h _ _
  · rfl
  · rfl

end ChannelAccess

end Mode2
