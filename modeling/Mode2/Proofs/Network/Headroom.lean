import Mode2.Proofs.Network.Sent

/-!
# Room in a frame

The longest header names two devices and carries a routing block with two more IDs,
all of them universal, and still takes no more than forty-one bytes. So a header is
staged unless both kinds of security are asked for, and what is appended to it runs
into the footer only if it fills the rest of the frame itself.
-/

namespace Mode2

variable {W : Type}

namespace Route

theorem length_idBytes_le (id : Option DeviceId) : (idBytes id).length ≤ 8 := by
  cases id with
  | none => exact Nat.zero_le 8
  | some id => exact id.length_le

theorem length_encode_le (r : Route) : r.encode.length ≤ 18 := by
  have horigin := length_idBytes_le r.origin
  have hdestination := length_idBytes_le r.destination
  have hextension :
      (if Octet.hasAny r.hopCode extensionBit then [r.hopExtension] else []).length ≤ 1 := by
    split <;> simp
  simp only [encode, List.length_cons, List.length_append]
  omega

end Route

@[simp] theorem Session.frameLimit_advanceDialog (s : Session) :
    s.advanceDialog.frameLimit = s.frameLimit := by
  unfold frameLimit
  rw [flags_advanceDialog]

namespace NetworkLayer

variable {n m : NetworkLayer} {c : Config} {s t : Session} {addressing : Addressing} {nack : Bool}

/-! ## Headers -/

/-- The bytes of the longest header. -/
def longestHeader : Nat := 41

theorem length_clearHeader_le (c : Config) (s : Session) (addressing : Addressing) (nack : Bool) :
    (clearHeader c s addressing nack).length ≤ 7 := by
  have hextension : (if s.extension c nack = 0 then [] else [s.extension c nack]).length ≤ 1 := by
    split <;> simp
  have hkey : (if s.flags.isSecured then [c.keyIndex] else []).length ≤ 1 := by
    split <;> simp
  simp only [clearHeader, List.length_append, List.length_cons, List.length_nil]
  omega

theorem length_addressHeader_le (n : NetworkLayer) (c : Config) (s : Session)
    (addressing : Addressing) : (n.addressHeader c s addressing).length ≤ 34 := by
  have hself := (c.localId s.flags.virtualIds).length_le
  have hpeer : (if addressing = .unicast then n.peer.bytes else []).length ≤ 8 := by
    split
    · exact n.peer.length_le
    · exact Nat.zero_le 8
  have hroute : (if s.routes c then n.route.encode else []).length ≤ 18 := by
    split
    · exact n.route.length_encode_le
    · exact Nat.zero_le 18
  simp only [addressHeader, List.length_append]
  omega

theorem length_header_le (n : NetworkLayer) (c : Config) (s : Session) (addressing : Addressing)
    (nack : Bool) :
    (clearHeader c s addressing nack ++ n.addressHeader c s addressing).length ≤
      longestHeader := by
  have hclear := length_clearHeader_le c s addressing nack
  have haddress := n.length_addressHeader_le c s addressing
  rw [List.length_append, longestHeader]
  omega

theorem longestHeader_lt_frameLimit (s : Session) : longestHeader < s.frameLimit := by
  unfold Session.frameLimit
  split <;> decide

theorem stageHeader_of_conflict (n : NetworkLayer) (c : Config) (addressing : Addressing)
    (nack : Bool) (h : s.flags.isConflicting = true) :
    n.stageHeader c s addressing nack = .error .securityConflict :=
  if_pos h

/-- The header of a dialog without a conflict is staged, and is short. -/
theorem exists_short_stageHeader (n : NetworkLayer) (c : Config) (addressing : Addressing)
    (nack : Bool) (h : s.flags.isConflicting = false) :
    ∃ m, n.stageHeader c s addressing nack = .ok (s.advanceDialog, m) ∧
      m.outbound.length ≤ longestHeader ∧ m.outbound.limit = s.frameLimit := by
  have hshort := n.length_header_le c s.advanceDialog addressing nack
  have hlong := longestHeader_lt_frameLimit s.advanceDialog
  obtain ⟨m, hstage, hlimit⟩ := n.exists_stageHeader c addressing nack h (by omega)
  refine ⟨m, hstage, ?_, by rw [hlimit, Session.frameLimit_advanceDialog]⟩
  rw [FrameQueue.length_eq, (headed_of_stageHeader hstage).written]
  exact hshort

/-! ## Footers -/

/-- The frame has a header, its secured region begins inside it, and there is room
for the footer. -/
structure HasRoom (n : NetworkLayer) : Prop where
  header : minHeader ≤ n.outbound.length
  region : ∀ region ∈ n.secured, region.start ≤ n.outbound.length
  footer : footerLength ≤ n.outbound.space

theorem HasRoom.exists_appendFooter (h : n.HasRoom) : ∃ m, n.appendFooter = .ok m :=
  NetworkLayer.exists_appendFooter h.header h.footer

/-- Encryption changes neither the length of the frame nor its room. -/
theorem HasRoom.encryptRegion (h : n.HasRoom) (cipher : Option (Cipher W)) (w : W) :
    (n.encryptRegion cipher w).1.2.HasRoom ∧
      ∀ cause, (n.encryptRegion cipher w).1.1 ≠ .error (.overflow cause) := by
  unfold NetworkLayer.encryptRegion
  split
  · exact ⟨h, by simp⟩
  · exact ⟨h, by simp⟩
  next region enc hsecured =>
    have hregion : n.outbound.region region.start =
        .ok (n.outbound.written.drop region.start) :=
      if_pos (h.region region hsecured)
    rw [hregion]
    dsimp only
    refine ⟨⟨?_, ?_, ?_⟩, ?_⟩
    · rw [FrameQueue.length_setRegion]
      exact h.header
    · rw [FrameQueue.length_setRegion]
      exact h.region
    · rw [FrameQueue.space, FrameQueue.length_setRegion]
      exact h.footer
    · intro cause
      split <;> simp

/-- A frame with room for its footer is not refused for want of room. -/
theorem HasRoom.complete_ne_overflow (h : n.HasRoom) (cipher : Option (Cipher W)) (w : W)
    (cause : QueueError) : (n.complete cipher w).1.1 ≠ .error (.overflow cause) := by
  obtain ⟨hroom, hfits⟩ := h.encryptRegion cipher w
  unfold complete
  split
  next heq =>
    rw [heq] at hfits
    exact hfits cause
  next m w heq =>
    rw [heq] at hroom
    obtain ⟨sent, hfooter⟩ := hroom.exists_appendFooter
    dsimp only at hfooter
    rw [hfooter]
    nofun

theorem limit_appendFooter (h : n.appendFooter = .ok m) : m.outbound.limit = n.outbound.limit := by
  unfold appendFooter at h
  obtain ⟨reserved, hreserved, h⟩ := exists_ok_of_bind h
  obtain ⟨counted, hcounted, h⟩ := exists_ok_of_bind h
  obtain ⟨finished, hfinished, h⟩ := exists_ok_of_bind h
  cases h
  rw [FrameQueue.limit_setByte hfinished, FrameQueue.limit_setByte hcounted,
    FrameQueue.limit_append hreserved]

theorem limit_encryptRegion (cipher : Option (Cipher W)) (n : NetworkLayer) (w : W) :
    (n.encryptRegion cipher w).1.2.outbound.limit = n.outbound.limit := by
  unfold encryptRegion
  split
  · rfl
  · rfl
  · split <;> rfl

theorem limit_complete {cipher : Option (Cipher W)} {w w' : W}
    (h : n.complete cipher w = ((.ok (), m), w')) : m.outbound.limit = n.outbound.limit := by
  have hregion := limit_encryptRegion cipher n w
  unfold complete at h
  split at h
  · cases h
  next encrypted world heq =>
    rw [heq] at hregion
    split at h
    · cases h
    next completed hfooter =>
      cases h
      exact (limit_appendFooter hfooter).trans hregion

/-! ## Frames that go out -/

/-- A frame of a device with configuration `c` under a limit: it tells its own length and
the link control of the device, and ends with an empty checksum. -/
structure IsFramed (c : Config) (limit : Nat) (frame : List UInt8) : Prop where
  length_le : frame.length ≤ limit
  tells_length : frame[0]?.map UInt8.toNat = some frame.length
  linkControl : frame[1]? = some c.linkControl
  checksum : frame.drop (frame.length - footerLength) = List.replicate footerLength 0

theorem isFramed_complete {headed sent : NetworkLayer} {payload : List UInt8} {queue : FrameQueue}
    {cipher : Option (Cipher W)} {w w' : W}
    (hstage : n.stageHeader c s addressing nack = .ok (t, headed))
    (hpayload : headed.outbound.append payload = .ok queue)
    (hfooter : ({ headed with outbound := queue } : NetworkLayer).complete cipher w =
      ((.ok (), sent), w')) : IsFramed c s.frameLimit sent.outbound.written := by
  have hheaded := headed_of_stageHeader hstage
  obtain ⟨m, hshort, -, hlimit⟩ := n.exists_short_stageHeader c addressing nack hheaded.conflict
  obtain rfl : m = headed := (Prod.mk.inj (Except.ok.inj (hshort.symm.trans hstage))).2
  obtain ⟨rest, -, hwritten⟩ := written_complete hheaded hpayload hfooter
  have hsent : sent.outbound.limit = s.frameLimit := by
    rw [limit_complete hfooter, FrameQueue.limit_append hpayload, hlimit]
  have hlength : sent.outbound.written.length ≤ s.frameLimit := by
    rw [FrameQueue.length_written, ← hsent]
    exact sent.outbound.length_le_limit
  have hbyte : sent.outbound.length < 256 := by
    rw [FrameQueue.length_written] at hlength
    have hframe : s.frameLimit ≤ 254 := s.frameLimit_le
    omega
  refine ⟨hlength, ?_, ?_, ?_⟩
  · rw [FrameQueue.length_written, hwritten, List.getElem?_cons_zero, Option.map_some,
      UInt8.toNat_ofNat_of_lt' hbyte]
  · rw [hwritten, List.getElem?_cons_succ, List.getElem?_cons_zero]
  · rw [hwritten, ← List.cons_append, ← List.cons_append, List.length_append,
      List.length_replicate, Nat.add_sub_cancel, List.drop_left]

end NetworkLayer

end Mode2
