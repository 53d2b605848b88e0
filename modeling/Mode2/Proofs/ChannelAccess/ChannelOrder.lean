import Mathlib.Data.List.Nodup
import Mathlib.Data.List.Perm.Subperm
import Mathlib.Data.Nat.ModEq
import Mode2.ChannelAccess.Backoff
import Mode2.Proofs.ChannelAccess.Channel
import Mode2.Proofs.ChannelAccess.Shuffling

/-!
# The order of attempts

The attempts of a sequence go through the list of channels and begin again after the last one.
Shuffled as the list is, they go round in it: they begin with the channel that was listed first,
and any attempts in a row, as many as there are channels, take each of them once.
-/

namespace Mode2

variable {W : Type} {length : Nat} {order : Nat → Nat}

/-- The positions in a list that the attempts take one after the other: they begin at the first,
and as many in a row as there are positions take each of them once. -/
structure GoesRound (length : Nat) (order : Nat → Nat) : Prop where
  first : order 0 = 0
  rounds : ∀ start, ((List.range length).map fun k => order (start + k)).Perm (List.range length)

/-- Different positions for all of the positions are all of them. -/
theorem perm_map_range {f : Nat → Nat} (hlt : ∀ k < length, f k < length)
    (hinj : ∀ i < length, ∀ j < length, f i = f j → i = j) :
    ((List.range length).map f).Perm (List.range length) := by
  have hnodup : ((List.range length).map f).Nodup :=
    List.Nodup.map_on (fun i hi j hj => hinj i (List.mem_range.mp hi) j (List.mem_range.mp hj))
      List.nodup_range
  have hsubset : (List.range length).map f ⊆ List.range length := by
    intro k hk
    obtain ⟨i, hi, rfl⟩ := List.mem_map.mp hk
    exact List.mem_range.mpr (hlt i (List.mem_range.mp hi))
  exact (List.Nodup.subperm hnodup hsubset).perm_of_length_le (by simp)

namespace Shuffle

/-- Going round and round in a rearranged list. -/
theorem Rearranges.goesRound {σ : Equiv.Perm Nat} (h : Rearranges (length - 1) σ)
    (hpos : 0 < length) : GoesRound length fun k => σ (k % length) where
  first := by rw [Nat.zero_mod, h 0 (.inl rfl)]
  rounds start := by
    refine perm_map_range (fun k _ => ?_) fun i hi j hj hsame => ?_
    · have hlt : (start + k) % length < length := Nat.mod_lt _ hpos
      have hle := h.apply_le (Nat.le_sub_one_of_lt hlt)
      omega
    · have hmod : i ≡ j [MOD length] := Nat.ModEq.add_left_cancel' start (σ.injective hsame)
      exact hmod.eq_of_lt_of_lt hi hj

/-- Whatever is drawn, the attempts go round in the list that is shuffled. -/
theorem exists_goesRound (source : RandomSource W) {l : List UInt8} (hl : l ≠ []) (w : W) :
    ∃ order, GoesRound l.length order ∧
      ∀ k, (tail source l w).1[k % l.length]? = l[order k]? :=
  ⟨_, (isChoice_drawn source l.length w).rearranges.goesRound (List.length_pos_iff.mpr hl),
    fun _ => getElem?_tail source l w _⟩

end Shuffle

namespace ChannelAccess

theorem nextTxChannel_of_ne_nil {a : ChannelAccess} (h : a.txChannels.channels ≠ []) :
    a.nextTxChannel = { a with txIndex := (a.txIndex + 1) % a.txChannels.channels.length } :=
  if_neg h

theorem channels_beginSequence (source : RandomSource W) (a : ChannelAccess) (frameTime : Clocks)
    (w : W) : (a.beginSequence source frameTime w).1.2.txChannels.channels =
      (Shuffle.tail source a.txChannels.channels w).1 := by
  unfold beginSequence firstPause
  dsimp only
  split <;> rfl

theorem txIndex_beginSequence (source : RandomSource W) (a : ChannelAccess) (frameTime : Clocks)
    (w : W) : (a.beginSequence source frameTime w).1.2.txIndex = 0 := by
  unfold beginSequence firstPause
  dsimp only
  split <;> rfl

end ChannelAccess

end Mode2
