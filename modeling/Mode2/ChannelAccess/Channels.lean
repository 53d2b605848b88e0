import Mode2.ChannelAccess.Random

/-!
# Channel lists

A request names at most eight channels. Before contention the channels after the
first are brought into random order.
-/

namespace Mode2

/-- The channels that a list has room for. -/
def channelCapacity : Nat := 8

namespace Shuffle

/-- A list with two entries exchanged. -/
def exchange (l : List UInt8) (i j : Nat) : List UInt8 :=
  (l.set i (l.getD j 0)).set j (l.getD i 0)

@[simp] theorem length_exchange (l : List UInt8) (i j : Nat) :
    (exchange l i j).length = l.length := by
  simp [exchange]

/-- Exchange each entry from position `last` down to the third with a random entry
up to its own position, the first entry of the list excepted. -/
def fromPosition {W : Type} (source : RandomSource W) :
    (last : Nat) → List UInt8 → StateM W (List UInt8)
  | 0, l | 1, l => pure l
  | last + 2, l => fun w =>
      let word := source.next16 w
      fromPosition source (last + 1) (exchange l (last + 2) (1 + word.1 % (last + 2))) word.2

theorem length_fromPosition {W : Type} (source : RandomSource W) (last : Nat) (l : List UInt8)
    (w : W) : (fromPosition source last l w).1.length = l.length := by
  induction last generalizing l w with
  | zero => rfl
  | succ last ih =>
      cases last with
      | zero => rfl
      | succ last =>
          unfold fromPosition
          rw [ih]
          simp

/-- A random order of all entries but the first. -/
def tail {W : Type} (source : RandomSource W) (l : List UInt8) : StateM W (List UInt8) :=
  fromPosition source (l.length - 1) l

end Shuffle

/-- A list of channels. -/
structure ChannelList where
  channels : List UInt8
  length_le : channels.length ≤ channelCapacity
deriving DecidableEq, Repr

namespace ChannelList

/-- No channel. -/
def empty : ChannelList :=
  ⟨[], Nat.zero_le _⟩

instance : Inhabited ChannelList := ⟨empty⟩

/-- The first entries of a list, as many as there is room for. -/
def ofList (channels : List UInt8) : ChannelList :=
  ⟨channels.take channelCapacity, by
    simp only [List.length_take]
    omega⟩

/-- One channel. -/
def single (channel : UInt8) : ChannelList :=
  ⟨[channel], Nat.le_of_ble_eq_true rfl⟩

/-- The channels with all but the first in random order. -/
def shuffle {W : Type} (source : RandomSource W) (list : ChannelList) : StateM W ChannelList :=
  fun w =>
    (⟨(Shuffle.tail source list.channels w).1, by
      rw [Shuffle.tail, Shuffle.length_fromPosition]
      exact list.length_le⟩, (Shuffle.tail source list.channels w).2)

end ChannelList

end Mode2
