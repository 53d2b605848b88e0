import Mode2.Proofs.Exchange.HeaderFields

/-!
# What a header says about its sender

A frame acts on behalf of a member of the network when it is secured, and of a guest
otherwise.
-/

namespace Mode2

variable {W : Type}

/-- The user on whose behalf a frame acts: whoever secured it holds a key. The fourth byte
of the frame says whether it is secured. -/
def FrameQueue.sender (frame : FrameQueue) : User :=
  if (frame.byteAt 3).any fun byte => (FrameInfo.ofByte byte).isSecured then .member else .guest

/-- The user on whose behalf the frame with a header acts. -/
def Header.user (header : Header) : User :=
  if header.isSecured then .member else .guest

/-- The fields of a frame are those of its sender. -/
theorem NetworkFrame.IsIn.user {f : NetworkFrame} {env : Environment W} {x : Exchange W}
    (h : f.IsIn env x) (hwell : f.WellFormed) : f.header.user = x.network.inbound.sender := by
  obtain ⟨first, second, hidden, hopened, -⟩ := h
  have hbyte : x.network.inbound.byteAt 3 = some f.header.info.toByte :=
    getElem?_of_openedFrame? hopened rfl
  unfold Header.user FrameQueue.sender Header.isSecured
  rw [hbyte, Option.any_some, FrameInfo.ofByte_toByte, hwell.secured]

/-- A frame that is accepted, and continues no datastream, acts on behalf of its sender. -/
theorem HeaderM.user_of_read {env : Environment W} {c : Config} {x y : Exchange W}
    {destination : Destination} (hread : (read env c).run x = .ok destination y)
    (hnetwork : destination ≠ .datastream) :
    y.network.header.user = x.network.inbound.sender := by
  obtain ⟨f, hwell, hin, hkept, -⟩ := exists_fields_of_read hread hnetwork
  rw [hkept.header]
  exact hin.user hwell

end Mode2
