import Mode2.Proofs.ChannelAccess.Halving
import Mode2.Time.WindowCode

/-!
# How far first pauses reach

A sequence begins with a random pause, in the first half of a halving window or in what the
frame leaves of another one. The pause is the remainder of sixteen random bits by the length
that it is drawn from. So of a length of more than 65536 clock units only the beginning is
ever reached.
-/

namespace Mode2

namespace Backoff

variable {W : Type}

/-- A random pause is a remainder of the low half of a word. -/
theorem count_pauseBelow_eq (source : RandomSource W) {bound : Clocks} (hbound : 0 < bound.count)
    (w : W) :
    (pauseBelow source bound w).1.count = (source w).1.toNat % 0x10000 % bound.count := by
  have hlt := bound.count_lt
  have hrest := Nat.mod_lt ((source w).1.toNat % 0x10000) hbound
  unfold pauseBelow
  rw [if_neg (by simpa [Span.isZero] using Nat.ne_of_gt hbound)]
  simp only [RandomSource.next16, Span.count_saturate]
  omega

end Backoff

namespace ChannelAccess

variable {W : Type} {a : ChannelAccess} {frameTime bound : Clocks}

/-- The word drawn for the first pause, after those for the order of the channels. -/
def pauseWord (source : RandomSource W) (a : ChannelAccess) (w : W) : UInt32 :=
  (source (a.txChannels.shuffle source w).2).1

/-- There is a word for which a sequence begins with a pause of `t` clock units. -/
def MayBegin (a : ChannelAccess) (frameTime : Clocks) (t : Nat) : Prop :=
  ∃ word : UInt32, ∀ (W : Type) (source : RandomSource W) (w : W), a.pauseWord source w = word →
    (a.beginSequence source frameTime w).1.1.count = t

/-- The first pause is drawn from a length of time. -/
def DrawsBelow (a : ChannelAccess) (frameTime bound : Clocks) : Prop :=
  ∀ (W : Type) (source : RandomSource W) (w : W),
    (a.beginSequence source frameTime w).1.1 =
      (Backoff.pauseBelow source bound (a.txChannels.shuffle source w).2).1

theorem drawsBelow_of_rigd (hrigd : a.algorithm = .rigd) (hwindow : 1 < a.window.count) :
    a.DrawsBelow frameTime (Backoff.halve a.window) := by
  intro W source w
  unfold algorithm at hrigd
  simp only [beginSequence, firstPause, algorithm, hrigd, Backoff.halvingRound,
    if_neg (Nat.not_le_of_gt hwindow)]

theorem drawsBelow_of_raind (hraind : a.algorithm = .raind) :
    a.DrawsBelow frameTime (a.window - frameTime) := by
  intro W source w
  unfold algorithm at hraind
  simp only [beginSequence, firstPause, algorithm, hraind]

/-- The pauses that words lead to are those below the length and within sixteen bits. -/
theorem DrawsBelow.mayBegin_iff (h : a.DrawsBelow frameTime bound) (hbound : 0 < bound.count)
    (t : Nat) : a.MayBegin frameTime t ↔ t < bound.count ∧ t < 0x10000 := by
  have hcount : ∀ (W : Type) (source : RandomSource W) (w : W),
      (a.beginSequence source frameTime w).1.1.count =
        (a.pauseWord source w).toNat % 0x10000 % bound.count := fun W source w => by
    rw [h W source w]
    exact Backoff.count_pauseBelow_eq source hbound _
  constructor
  · rintro ⟨word, hword⟩
    obtain rfl := (hcount Unit (fun w => (word, w)) ()).symm.trans (hword Unit _ () rfl)
    have hlow := Nat.mod_lt word.toNat (Nat.zero_lt_succ 0xFFFF)
    exact ⟨Nat.mod_lt _ hbound, Nat.lt_of_le_of_lt (Nat.mod_le _ _) hlow⟩
  · rintro ⟨hshort, hlow⟩
    have hword : (UInt32.ofNat t).toNat = t := UInt32.toNat_ofNat_of_lt (Nat.lt_trans hlow (by decide))
    refine ⟨.ofNat t, fun W source w hdrawn => ?_⟩
    rw [hcount, hdrawn, hword, Nat.mod_eq_of_lt hlow, Nat.mod_eq_of_lt hshort]

/-- All of a length is reached when it is no longer than sixteen bits count. -/
theorem DrawsBelow.covers_iff (h : a.DrawsBelow frameTime bound) (hbound : 0 < bound.count) :
    (∀ t < bound.count, a.MayBegin frameTime t) ↔ bound.count ≤ 0x10000 := by
  constructor
  · intro hcovers
    by_contra hlong
    have hlast := (h.mayBegin_iff hbound 0x10000).mp (hcovers _ (Nat.lt_of_not_le hlong))
    exact absurd hlast.2 (Nat.lt_irrefl _)
  · intro hshort t ht
    exact (h.mayBegin_iff hbound t).mpr ⟨ht, Nat.lt_of_lt_of_le ht hshort⟩

/-- A sequence begins with any pause that its window allows and sixteen bits count, and with no
other. In the windows of window codes these are all pauses of the first half of a halving
window only up to 4096 ticks, and all pauses that leave more than the frame takes only where
these are no more than 65536. -/
theorem first_pauses_reach_iff {code : UInt8}
    (hwindow : a.window = (WindowCode.decode code).toClocks) (hfour : 4 ≤ a.window.count) :
    (a.algorithm = .rigd →
      (∀ t, a.MayBegin frameTime t ↔ t < a.window.count / 2 ∧ t < 0x10000) ∧
      ((∀ t < a.window.count / 2, a.MayBegin frameTime t) ↔
        (WindowCode.decode code).count ≤ 4096)) ∧
    (a.algorithm = .raind → frameTime < a.window →
      (∀ t, a.MayBegin frameTime t ↔ t < a.window.count - frameTime.count ∧ t < 0x10000) ∧
      ((∀ t < a.window.count - frameTime.count, a.MayBegin frameTime t) ↔
        a.window.count - frameTime.count ≤ 0x10000)) := by
  refine ⟨fun hrigd => ?_, fun hraind hframe => ?_⟩
  · have hdraws : a.DrawsBelow frameTime _ := drawsBelow_of_rigd hrigd (by omega)
    have hhalf : (Backoff.halve a.window).count = a.window.count / 2 := by
      rw [Backoff.count_halve, if_neg (by omega)]
    have hbound : 0 < (Backoff.halve a.window).count := by omega
    have hticks : a.window.count / 2 ≤ 0x10000 ↔ (WindowCode.decode code).count ≤ 4096 := by
      rw [hwindow, Ticks.count_toClocks]
      omega
    rw [← hhalf] at hticks ⊢
    exact ⟨hdraws.mayBegin_iff hbound, (hdraws.covers_iff hbound).trans hticks⟩
  · have hdraws : a.DrawsBelow frameTime _ := drawsBelow_of_raind hraind
    have hbound : 0 < (a.window - frameTime).count := Nat.sub_pos_of_lt hframe
    exact ⟨hdraws.mayBegin_iff hbound, hdraws.covers_iff hbound⟩

/-- The longest window of all codes is four minutes long, and in halves of it no sequence begins
with a pause of two seconds. -/
theorem first_pauses_reach_iff_longest :
    ∃ (code : UInt8) (a : ChannelAccess), a.window = (WindowCode.decode code).toClocks ∧
      4 ≤ a.window.count ∧ a.algorithm = .rigd ∧ 0x10000 < a.window.count / 2 ∧
      ¬a.MayBegin 0 0x10000 := by
  let a : ChannelAccess := { initial 0 with window := (WindowCode.decode 0x7F).toClocks }
  have hfour : 4 ≤ a.window.count := by decide
  have hrigd : a.algorithm = .rigd := by decide
  have hwindow : a.window = (WindowCode.decode 0x7F).toClocks := rfl
  obtain ⟨hreached, -⟩ := (first_pauses_reach_iff hwindow hfour).1 hrigd
  refine ⟨0x7F, a, hwindow, hfour, hrigd, by decide, fun hbegins => ?_⟩
  exact absurd ((hreached _).mp hbegins).2 (Nat.lt_irrefl _)

end ChannelAccess

end Mode2
