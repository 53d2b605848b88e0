import Mode2.Network.Stage
import Mode2.Proofs.Steps

/-!
# Staging beside the frame received

The outgoing frame is staged without the inbound one: whatever that is, staging comes to the
same, and leaves what is known of it.
-/

namespace Mode2.NetworkLayer

variable {W : Type} {n m : NetworkLayer}

/-- The inbound frame, and what is known of it, are the same. -/
structure SameReceived (n m : NetworkLayer) : Prop where
  inbound : m.inbound = n.inbound
  header : m.header = n.header

theorem sameReceived_stageHeader {c : Config} {s t : Session} {addressing : Addressing}
    {nack : Bool} (h : n.stageHeader c s addressing nack = .ok (t, m)) : n.SameReceived m := by
  unfold stageHeader at h
  split at h
  · cases h
  · dsimp only at h
    split at h
    · cases h
    · cases h
      exact ⟨rfl, rfl⟩

theorem sameReceived_appendFooter (h : n.appendFooter = .ok m) : n.SameReceived m := by
  unfold appendFooter at h
  obtain ⟨reserved, -, h⟩ := exists_ok_of_bind h
  obtain ⟨counted, -, h⟩ := exists_ok_of_bind h
  obtain ⟨finished, -, h⟩ := exists_ok_of_bind h
  cases h
  exact ⟨rfl, rfl⟩

theorem sameReceived_encryptRegion (n : NetworkLayer) (cipher : Option (Cipher W)) (w : W) :
    n.SameReceived (n.encryptRegion cipher w).1.2 := by
  unfold encryptRegion
  split
  · exact ⟨rfl, rfl⟩
  · exact ⟨rfl, rfl⟩
  · split <;> exact ⟨rfl, rfl⟩

theorem sameReceived_complete (n : NetworkLayer) (cipher : Option (Cipher W)) (w : W) :
    n.SameReceived (n.complete cipher w).1.2 := by
  have hregion := n.sameReceived_encryptRegion cipher w
  unfold complete
  split
  next heq =>
    rw [heq] at hregion
    exact hregion
  next heq =>
    rw [heq] at hregion
    split
    · exact hregion
    next hfooter =>
      have hsame := sameReceived_appendFooter hfooter
      exact ⟨hsame.inbound.trans hregion.inbound, hsame.header.trans hregion.header⟩

/-! ## Another inbound frame -/

theorem stageHeader_inbound (n : NetworkLayer) (inbound : FrameQueue) (c : Config)
    (s : Session) (addressing : Addressing) (nack : Bool) :
    ({ n with inbound } : NetworkLayer).stageHeader c s addressing nack =
      (n.stageHeader c s addressing nack).map fun staged =>
        (staged.1, { staged.2 with inbound }) := by
  have haddress : ∀ t, ({ n with inbound } : NetworkLayer).addressHeader c t addressing =
      n.addressHeader c t addressing := fun _ => rfl
  unfold stageHeader
  split
  · rfl
  · simp only [haddress]
    split <;> rfl

theorem encryptRegion_inbound (n : NetworkLayer) (inbound : FrameQueue)
    (cipher : Option (Cipher W)) (w : W) :
    ({ n with inbound } : NetworkLayer).encryptRegion cipher w =
      (((n.encryptRegion cipher w).1.1, { (n.encryptRegion cipher w).1.2 with inbound }),
        (n.encryptRegion cipher w).2) := by
  unfold encryptRegion
  dsimp only
  split
  · rfl
  · rfl
  · split <;> rfl

theorem appendFooter_inbound (n : NetworkLayer) (inbound : FrameQueue) :
    ({ n with inbound } : NetworkLayer).appendFooter =
      n.appendFooter.map fun m => { m with inbound } := by
  unfold appendFooter
  dsimp only [bind, Except.bind]
  cases n.outbound.append (List.replicate footerLength 0) with
  | error cause => rfl
  | ok reserved =>
      dsimp only
      cases reserved.setByte 0 (UInt8.ofNat reserved.length) with
      | error cause => rfl
      | ok counted =>
          dsimp only
          cases counted.setByte 1 n.linkControl <;> rfl

theorem complete_inbound (n : NetworkLayer) (inbound : FrameQueue)
    (cipher : Option (Cipher W)) (w : W) :
    ({ n with inbound } : NetworkLayer).complete cipher w =
      (((n.complete cipher w).1.1, { (n.complete cipher w).1.2 with inbound }),
        (n.complete cipher w).2) := by
  unfold complete
  rw [encryptRegion_inbound]
  cases hregion : n.encryptRegion cipher w with
  | mk result w =>
      obtain ⟨outcome, m⟩ := result
      cases outcome with
      | error cause => rfl
      | ok _ =>
          dsimp only
          rw [appendFooter_inbound]
          cases m.appendFooter <;> rfl

end Mode2.NetworkLayer
