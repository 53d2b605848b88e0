import Mode2.Exchange.Receive
import Mode2.Proofs.FrameQueue.Reading
import Mode2.Proofs.Overlooks

/-!
# The link control of a frame

A frame that has been opened is read from its third byte on. Its second byte, the link
control, makes no difference to whoever reads on in it.
-/

namespace Mode2

variable {α β : Type}

namespace FrameQueue

/-- The frame with another second byte, once that has been passed over. -/
def withLinkControl (byte : UInt8) (q : FrameQueue) : FrameQueue :=
  ⟨q.consumed.set 1 byte, q.unread, q.limit, by
    rw [List.length_set]
    exact q.length_le_limit, q.limit_le_capacity⟩

@[simp] theorem unread_withLinkControl (byte : UInt8) (q : FrameQueue) :
    (q.withLinkControl byte).unread = q.unread := rfl

theorem eq_withLinkControl {q q' : FrameQueue} {byte : UInt8}
    (hconsumed : q'.consumed = q.consumed.set 1 byte) (hunread : q'.unread = q.unread)
    (hlimit : q'.limit = q.limit) : q' = q.withLinkControl byte := by
  cases q
  cases q'
  cases hconsumed
  cases hunread
  cases hlimit
  rfl

/-- The first two bytes have been passed over. -/
def IsOpened (q : FrameQueue) : Prop :=
  2 ≤ q.cursor

variable {q : FrameQueue}

theorem read_withLinkControl (h : q.IsOpened) (byte : UInt8) (n : Nat) :
    (q.withLinkControl byte).read n =
      (q.read n).map fun result => (result.1, result.2.withLinkControl byte) := by
  unfold read
  by_cases hthere : n ≤ q.remaining
  · rw [if_pos hthere, if_pos (show n ≤ (q.withLinkControl byte).remaining from hthere)]
    simp only [Except.map, withLinkControl, List.set_append_left _ _ h]
  · rw [if_neg hthere, if_neg (show ¬n ≤ (q.withLinkControl byte).remaining from hthere)]
    rfl

theorem isOpened_of_read (h : q.IsOpened) {q' : FrameQueue} {n : Nat} {bytes : List UInt8}
    (hread : q.read n = .ok (bytes, q')) : q'.IsOpened := by
  unfold read at hread
  split at hread
  · cases hread
    exact Nat.le_trans h (by simp [cursor])
  · cases hread

theorem setRegion_withLinkControl {bytes : List UInt8} (h : bytes.length = q.unread.length)
    (byte : UInt8) :
    (q.withLinkControl byte).setRegion bytes = (q.setRegion bytes).withLinkControl byte := by
  have h' : bytes.length = (q.withLinkControl byte).unread.length := h
  rw [setRegion_of_unread h, setRegion_of_unread h']
  rfl

theorem isOpened_setRegion (h : q.IsOpened) {bytes : List UInt8}
    (hlength : bytes.length = q.unread.length) : (q.setRegion bytes).IsOpened := by
  rw [setRegion_of_unread hlength]
  exact h

theorem readByte_withLinkControl (h : q.IsOpened) (byte : UInt8) :
    (q.withLinkControl byte).readByte =
      q.readByte.map fun result => (result.1, result.2.withLinkControl byte) := by
  have hunread : (q.withLinkControl byte).unread = q.unread := rfl
  unfold readByte
  split
  next hnil =>
    split
    · rfl
    next hcons => cases hnil.symm.trans (hunread.trans hcons)
  next first rest hcons =>
    split
    next hnil => cases hcons.symm.trans (hunread.trans hnil)
    next first' rest' hcons' =>
      cases hcons.symm.trans (hunread.trans hcons')
      simp only [Except.map, withLinkControl, List.set_append_left _ _ h]

theorem isOpened_of_readByte (h : q.IsOpened) {q' : FrameQueue} {byte : UInt8}
    (hread : q.readByte = .ok (byte, q')) : q'.IsOpened := by
  unfold readByte at hread
  split at hread
  · cases hread
  · cases hread
    exact Nat.le_trans h (by simp [cursor])

end FrameQueue

namespace QueueM

/-- The reader looks ahead: the second byte of an opened frame makes no difference to it. -/
def LooksAhead (reader : QueueM α) : Prop :=
  ∀ byte, Overlooks (FrameQueue.withLinkControl byte) FrameQueue.IsOpened reader

namespace LooksAhead

theorem pure (value : α) : LooksAhead (Pure.pure value : QueueM α) :=
  fun _ => .pure value

theorem throw (cause : QueueError) : LooksAhead (throw cause : QueueM α) :=
  fun _ => .throw cause

theorem bind {reader : QueueM α} {next : α → QueueM β} (h : LooksAhead reader)
    (hnext : ∀ value, LooksAhead (next value)) : LooksAhead (reader >>= next) :=
  fun byte => .bind (h byte) fun value => hnext value byte

theorem ite {c : Prop} [Decidable c] {first second : QueueM α} (hfirst : LooksAhead first)
    (hsecond : LooksAhead second) : LooksAhead (if c then first else second) :=
  fun byte => .ite (hfirst byte) (hsecond byte)

theorem take {operation : FrameQueue → Except QueueError (α × FrameQueue)}
    (hsame : ∀ q byte, q.IsOpened → operation (q.withLinkControl byte) =
      (operation q).map fun result => (result.1, result.2.withLinkControl byte))
    (hopened : ∀ q value q', q.IsOpened → operation q = .ok (value, q') → q'.IsOpened) :
    LooksAhead (take operation) := by
  intro byte q hq
  unfold Ends QueueM.take
  dsimp only [EStateM.run]
  rw [hsame q byte hq]
  cases hresult : operation q with
  | ok result => exact ⟨rfl, hopened q result.1 result.2 hq hresult⟩
  | error cause => exact ⟨rfl, hq⟩

end LooksAhead

/-! ## Readers -/

theorem looksAhead_read (n : Nat) : LooksAhead (read n) :=
  .take (fun _ byte hq => FrameQueue.read_withLinkControl hq byte n)
    fun _ _ _ hq hread => FrameQueue.isOpened_of_read hq hread

theorem looksAhead_readByte : LooksAhead readByte :=
  .take (fun _ byte hq => FrameQueue.readByte_withLinkControl hq byte)
    fun _ _ _ hq hread => FrameQueue.isOpened_of_readByte hq hread

theorem looksAhead_readShort : LooksAhead readShort := by
  refine .take (fun q byte hq => ?_) fun q value q' hq hread => ?_
  · unfold FrameQueue.readShort
    rw [FrameQueue.read_withLinkControl hq]
    rcases q.read 2 with cause | ⟨_ | ⟨high, _ | ⟨low, _ | _⟩⟩, q'⟩ <;> rfl
  · unfold FrameQueue.readShort at hread
    split at hread
    next htwo =>
      cases hread
      exact FrameQueue.isOpened_of_read hq htwo
    all_goals cases hread

end QueueM

open QueueM

theorem Template.looksAhead_parse : LooksAhead Template.parse := by
  refine .bind looksAhead_readByte fun length => .bind looksAhead_readByte fun code => ?_
  refine .ite (.pure _) ?_
  dsimp only
  refine .ite (.bind (.throw _) fun _ => ?_) ?_
  -- The check of the length has two ends, but the steps after it are the same.
  all_goals
    have hvalue : ∀ mask : List UInt8, LooksAhead (do
        let value ← QueueM.read length.toNat
        return ({ length, code, mask, value } : Template)) := fun _ =>
      .bind (looksAhead_read _) fun _ => .pure _
    exact .ite (.bind (looksAhead_read _) hvalue) (.bind (.pure _) hvalue)

theorem Target.looksAhead_parse (isSeries : Bool) : LooksAhead (Target.parse isSeries) := by
  refine .ite (.bind looksAhead_readByte fun count => ?_) ?_
  · have hids : LooksAhead (do
        let ids ← QueueM.read count.toNat
        let offset ← QueueM.readShort
        return ({ isSeries := true, ids, offset } : Target)) :=
      .bind (looksAhead_read _) fun _ => .bind looksAhead_readShort fun _ => .pure _
    exact .ite (.bind (.throw _) fun _ => hids) hids
  · exact .bind looksAhead_readByte fun _ => .bind looksAhead_readByte fun _ => .pure _

theorem Call.looksAhead_parse (isSeries : Bool) : LooksAhead (Call.parse isSeries) :=
  .bind looksAhead_readByte fun _ => .bind (Target.looksAhead_parse isSeries) fun _ => .pure _

theorem AckList.looksAhead_scan (isNamed : List UInt8 → Bool) (virtualIds : Bool) :
    LooksAhead (scan isNamed virtualIds) := by
  have hids : ∀ width n, LooksAhead (scanIds isNamed width n) := by
    intro width n
    induction n with
    | zero => exact .pure false
    | succ n ih => exact .bind (looksAhead_read width) fun _ => .bind ih fun _ => .pure _
  exact .bind looksAhead_readByte fun count => hids _ _

namespace Exchange

theorem looksAhead_commandBytes : LooksAhead commandBytes := by
  refine .bind looksAhead_readByte fun code => ?_
  exact .ite (.bind looksAhead_readByte fun _ => .pure _) (.bind (.pure _) fun _ => .pure _)

theorem looksAhead_channelList : LooksAhead channelList :=
  .bind looksAhead_readByte fun _ => looksAhead_read _

theorem looksAhead_queryParts (isSeries : Bool) : LooksAhead (queryParts isSeries) :=
  .bind Template.looksAhead_parse fun _ =>
    .bind (Target.looksAhead_parse isSeries) fun _ => .pure _

theorem looksAhead_datagramPorts : LooksAhead datagramPorts :=
  .bind looksAhead_readByte fun _ => .bind looksAhead_readByte fun _ => .pure _

end Exchange

end Mode2
