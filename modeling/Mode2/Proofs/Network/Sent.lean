import Mode2.Proofs.Network.Staging

/-!
# The bytes of a complete frame

What a frame looks like once its footer is in place: length and link control, the clear
part of the header, and the rest as it was staged or as the cipher sealed it.
-/

namespace Mode2

variable {W : Type}

namespace Session

@[simp] theorem flags_advanceDialog (s : Session) : s.advanceDialog.flags = s.flags := by
  unfold advanceDialog
  split <;> rfl

end Session

namespace NetworkLayer

/-- The clear part of a header after its first two bytes. -/
def clearRest (c : Config) (s : Session) (addressing : Addressing) (nack : Bool) : List UInt8 :=
  s.subnet :: (s.frameInfo c addressing nack).toByte ::
    ((if s.extension c nack != 0 then [s.extension c nack] else []) ++ s.dialogId ::
      (if s.flags.isSecured then [c.keyIndex] else []))

theorem clearHeader_eq (c : Config) (s : Session) (addressing : Addressing) (nack : Bool) :
    clearHeader c s addressing nack = 0 :: 0 :: clearRest c s addressing nack := by
  by_cases hextension : s.extension c nack = 0 <;>
    simp [clearHeader, clearRest, hextension]

/-- The header that is staged for a dialog that may have one. -/
structure Headed (n : NetworkLayer) (c : Config) (s : Session) (addressing : Addressing)
    (nack : Bool) (t : Session) (m : NetworkLayer) : Prop where
  conflict : s.flags.isConflicting = false
  session : t = s.advanceDialog
  written : m.outbound.written = clearHeader c t addressing nack ++ n.addressHeader c t addressing
  linkControl : m.linkControl = c.linkControl
  secured : m.secured = if s.flags.isSecured then
    some ⟨c.keyIndex, (clearHeader c t addressing nack).length⟩ else none

theorem headed_of_stageHeader {n m : NetworkLayer} {c : Config} {s t : Session}
    {addressing : Addressing} {nack : Bool}
    (h : n.stageHeader c s addressing nack = .ok (t, m)) : Headed n c s addressing nack t m := by
  unfold stageHeader at h
  split at h
  · cases h
  next hconflict =>
    dsimp only at h
    split at h
    · cases h
    next queue hqueue =>
      cases h
      obtain ⟨fresh, hfresh, hheader⟩ := exists_ok_of_bind hqueue
      obtain ⟨hconsumed, hunread, -⟩ := FrameQueue.setLimit_empty hfresh
      refine ⟨by simpa using hconflict, rfl, ?_, rfl, ?_⟩
      · rw [FrameQueue.written_append hheader, FrameQueue.written, hconsumed, hunread]
        rfl
      · simp

/-! ## Sealing -/

/-- The rest of a frame goes out as it is, or sealed by the cipher if it is secured. -/
inductive Seals (n : NetworkLayer) (cipher : Option (Cipher W)) (w : W) (body : List UInt8) :
    List UInt8 → Prop
  | clear : n.secured = none → Seals n cipher w body body
  | encrypted {region : SecuredRegion} {enc : Cipher W} : n.secured = some region →
      cipher = some enc → (enc.encrypt region.keyIndex body w).1.success = true →
      Seals n cipher w body (enc.encrypt region.keyIndex body w).1.bytes

/-- The region that is encrypted begins where the clear part of the header ends. -/
theorem seals_encryptRegion {n m : NetworkLayer} {cipher : Option (Cipher W)} {w w' : W}
    {clear body : List UInt8} (hwritten : n.outbound.written = clear ++ body)
    (hstart : ∀ region ∈ n.secured, region.start = clear.length)
    (h : n.encryptRegion cipher w = ((.ok (), m), w')) :
    m.linkControl = n.linkControl ∧ ∃ rest, Seals n cipher w body rest ∧
      m.outbound.written = clear ++ rest := by
  unfold encryptRegion at h
  split at h
  next hsecured =>
    cases h
    exact ⟨rfl, body, .clear hsecured, hwritten⟩
  · cases h
  next region enc hsecured =>
    -- The region is all that was written after the clear part, no more and no less.
    have hlength : region.start ≤ n.outbound.length := by
      rw [hstart region hsecured, FrameQueue.length_eq, hwritten, List.length_append]
      exact Nat.le_add_right _ _
    have hregion : n.outbound.region region.start = .ok body := by
      unfold FrameQueue.region
      rw [if_pos hlength, hwritten, hstart region hsecured, List.drop_left]
    rw [hregion] at h
    dsimp only at h
    obtain ⟨hresult, -⟩ := Prod.mk.inj h
    obtain ⟨houtcome, hm⟩ := Prod.mk.inj hresult
    have hsuccess : (enc.encrypt region.keyIndex body w).1.success = true := by
      split at houtcome
      next hsuccess => exact hsuccess
      · cases houtcome
    have hbody := (enc.encrypt region.keyIndex body w).1.length_eq
    subst hm
    refine ⟨rfl, _, .encrypted hsecured rfl hsuccess, ?_⟩
    rw [FrameQueue.written_setRegion, FrameQueue.length_eq, hwritten, hbody]
    · simp
    · rw [FrameQueue.length_eq, hwritten, hbody]
      simp

theorem written_appendFooter {n m : NetworkLayer} {rest : List UInt8}
    (hwritten : n.outbound.written = 0 :: 0 :: rest) (h : n.appendFooter = .ok m) :
    m.outbound.written = UInt8.ofNat m.outbound.length :: n.linkControl ::
      (rest ++ List.replicate footerLength 0) := by
  unfold appendFooter at h
  obtain ⟨reserved, hreserved, h⟩ := exists_ok_of_bind h
  obtain ⟨counted, hcounted, h⟩ := exists_ok_of_bind h
  obtain ⟨finished, hfinished, h⟩ := exists_ok_of_bind h
  cases h
  rw [FrameQueue.length_setByte hfinished, FrameQueue.length_setByte hcounted,
    FrameQueue.written_setByte hfinished, FrameQueue.written_setByte hcounted,
    FrameQueue.written_append hreserved, hwritten]
  rfl

/-- A frame that has been completed after its header and its payload. -/
theorem written_complete {n headed sent : NetworkLayer} {c : Config} {s t : Session}
    {addressing : Addressing} {nack : Bool} {payload : List UInt8} {queue : FrameQueue}
    {cipher : Option (Cipher W)} {w w' : W} (hheaded : Headed n c s addressing nack t headed)
    (hpayload : headed.outbound.append payload = .ok queue)
    (hfooter : ({ headed with outbound := queue } : NetworkLayer).complete cipher w =
      ((.ok (), sent), w')) :
    ∃ rest, Seals headed cipher w (n.addressHeader c t addressing ++ payload) rest ∧
      sent.outbound.written = UInt8.ofNat sent.outbound.length :: c.linkControl ::
        (clearRest c t addressing nack ++ rest ++ List.replicate footerLength 0) := by
  have hwritten : queue.written = clearHeader c t addressing nack ++
      (n.addressHeader c t addressing ++ payload) := by
    rw [FrameQueue.written_append hpayload, hheaded.written, List.append_assoc]
  have hstart : ∀ region ∈ headed.secured,
      region.start = (clearHeader c t addressing nack).length := by
    intro region hregion
    rw [hheaded.secured] at hregion
    split at hregion
    · cases hregion
      rfl
    · cases hregion
  unfold complete at hfooter
  split at hfooter
  · cases hfooter
  next encrypted world hregion =>
    obtain ⟨hlink, rest, hseals, hsealed⟩ :=
      seals_encryptRegion (n := { headed with outbound := queue }) hwritten hstart hregion
    split at hfooter
    · cases hfooter
    next completed hcompleted =>
      cases hfooter
      refine ⟨rest, ?_, ?_⟩
      · cases hseals with
        | clear hsecured => exact .clear hsecured
        | encrypted hsecured hcipher hsuccess => exact .encrypted hsecured hcipher hsuccess
      · rw [clearHeader_eq, List.cons_append, List.cons_append] at hsealed
        rw [written_appendFooter hsealed hcompleted, hlink]
        exact congrArg _ (congrArg (· :: _) hheaded.linkControl)

/-! ## Frames that fit -/

/-- A header that fits is staged for a dialog that may have one, under the limit of its frames. -/
theorem exists_stageHeader (n : NetworkLayer) (c : Config) {s : Session}
    (addressing : Addressing) (nack : Bool) (hconflict : s.flags.isConflicting = false)
    (hfits : (clearHeader c s.advanceDialog addressing nack ++
      n.addressHeader c s.advanceDialog addressing).length ≤ s.advanceDialog.frameLimit) :
    ∃ m, n.stageHeader c s addressing nack = .ok (s.advanceDialog, m) ∧
      m.outbound.limit = s.advanceDialog.frameLimit := by
  have hcapacity : s.advanceDialog.frameLimit ≤ queueCapacity :=
    Nat.le_trans s.advanceDialog.frameLimit_le (by decide)
  let fresh : FrameQueue := ⟨[], [], s.advanceDialog.frameLimit, Nat.zero_le _, hcapacity⟩
  have hfresh : FrameQueue.empty.setLimit s.advanceDialog.frameLimit = .ok fresh :=
    dif_pos ⟨hcapacity, Nat.zero_le _⟩
  obtain ⟨queue, happend⟩ := FrameQueue.exists_append (q := fresh) hfits
  refine ⟨{ n with
    outbound := queue, linkControl := c.linkControl, secured := if s.flags.isSecured then
      some ⟨c.keyIndex, (clearHeader c s.advanceDialog addressing nack).length⟩ else none }, ?_,
    FrameQueue.limit_append happend⟩
  unfold stageHeader
  rw [hconflict, if_neg Bool.false_ne_true]
  dsimp only
  rw [hfresh]
  dsimp only [Except.bind]
  rw [happend, Session.flags_advanceDialog]

/-- The footer is appended to a frame with a header that has room for it. -/
theorem exists_appendFooter {n : NetworkLayer} (hheader : minHeader ≤ n.outbound.length)
    (hroom : footerLength ≤ n.outbound.space) : ∃ m, n.appendFooter = .ok m := by
  have hfits : (List.replicate footerLength (0 : UInt8)).length ≤ n.outbound.space := hroom
  obtain ⟨reserved, hreserved⟩ := FrameQueue.exists_append hfits
  have hlength := FrameQueue.length_append hreserved
  unfold minHeader at hheader
  have hcounted : ∃ q, reserved.setByte 0 (UInt8.ofNat reserved.length) = .ok q :=
    ⟨_, if_pos (by omega)⟩
  obtain ⟨counted, hcounted⟩ := hcounted
  have hlength' := FrameQueue.length_setByte hcounted
  have hfinished : ∃ q, counted.setByte 1 n.linkControl = .ok q := ⟨_, if_pos (by omega)⟩
  obtain ⟨finished, hfinished⟩ := hfinished
  refine ⟨{ n with outbound := finished }, ?_⟩
  unfold appendFooter
  simp only [hreserved, hcounted, hfinished, bind, Except.bind]
  rfl

/-- A frame that is not secured is completed when it has room for its footer. -/
theorem exists_complete {n : NetworkLayer} (hsecured : n.secured = none)
    (hheader : minHeader ≤ n.outbound.length) (hroom : footerLength ≤ n.outbound.space)
    (cipher : Option (Cipher W)) (w : W) : ∃ m, n.complete cipher w = ((.ok (), m), w) := by
  obtain ⟨m, hfooter⟩ := exists_appendFooter hheader hroom
  have hregion : n.encryptRegion cipher w = ((.ok (), n), w) := by
    unfold encryptRegion
    rw [hsecured]
  refine ⟨m, ?_⟩
  unfold complete
  rw [hregion]
  dsimp only
  rw [hfooter]

end NetworkLayer

end Mode2
