import Mode2.Proofs.Exchange.Overlooking
import Mode2.Proofs.Exchange.Segments
import Mode2.Proofs.Exchange.Sender
import Mode2.Proofs.Network.Received

/-!
# The bytes of a frame that count

A frame is as long as its first byte says. What comes after the counted bytes, the footer at
their end, and the link control in the second byte make no difference to what a frame comes to.
-/

namespace Mode2

variable {W : Type} {byte : UInt8}

namespace Exchange

/-- The exchange in which the inbound frame has another second byte. -/
def withLinkControl (byte : UInt8) (x : Exchange W) : Exchange W :=
  { x with network.inbound := x.network.inbound.withLinkControl byte }

/-- An inbound frame that has been opened, and of whose header `Q` holds. -/
def OpenedWith (Q : Header → Prop) (x : Exchange W) : Prop :=
  x.network.inbound.IsOpened ∧ Q x.network.header

end Exchange

open Exchange

/-! ## Steps -/

theorem overlooksFrame_linkControl (byte : UInt8) (Q : Header → Prop) :
    OverlooksFrame (withLinkControl (W := W) byte) (OpenedWith Q) where
  session _ := rfl
  modifySession _ _ hx := ⟨rfl, hx⟩
  inbound ending reader hreader := by
    intro x hx
    have hread := hreader byte x.network.inbound hx.1
    unfold Ends at hread
    unfold Ends ExchangeM.inbound withLinkControl
    dsimp only [EStateM.run] at hread ⊢
    cases hresult : reader x.network.inbound with
    | ok value queue =>
        rw [hresult] at hread
        rw [hread.1]
        exact ⟨rfl, hread.2, hx.2⟩
    | error cause queue =>
        rw [hresult] at hread
        rw [hread.1]
        exact ⟨rfl, hread.2, hx.2⟩

/-- The unread bytes of a frame decrypted with a key. -/
def HeaderM.decryptWith (cipher : Cipher W) (keyIndex : UInt8) : HeaderM W UInt8 := do
  let queue := (← get).network.inbound
  let out ← ExchangeM.perform (cipher.decrypt keyIndex queue.unread)
  ExchangeM.modifyNetwork fun n => { n with inbound := n.inbound.setRegion out.bytes }
  if out.success then return keyIndex else throw .security

theorem HeaderM.run_decryptWith (cipher : Cipher W) (keyIndex : UInt8) (x : Exchange W) :
    (decryptWith cipher keyIndex).run x =
      let out := cipher.decrypt keyIndex x.network.inbound.unread x.world
      let y := { x with
        network.inbound := x.network.inbound.setRegion out.1.bytes, world := out.2 }
      if out.1.success then .ok keyIndex y else .error .security y := by
  change EStateM.run (if (cipher.decrypt keyIndex x.network.inbound.unread x.world).1.success then
    pure keyIndex else throw Rejection.security) _ = _
  dsimp only
  split <;> rfl

/-- Decrypting leaves what has been read, the second byte among it. -/
theorem overlooks_decryptWith_linkControl (cipher : Cipher W) (keyIndex byte : UInt8) :
    Overlooks (withLinkControl byte) (OpenedWith fun _ => True)
      (HeaderM.decryptWith cipher keyIndex) := by
  intro x hx
  let out := cipher.decrypt keyIndex x.network.inbound.unread x.world
  let decrypted (queue : FrameQueue) : Exchange W :=
    { x with network.inbound := queue.setRegion out.1.bytes, world := out.2 }
  have hlength : out.1.bytes.length = x.network.inbound.unread.length := out.1.length_eq
  have hopened := FrameQueue.isOpened_setRegion hx.1 hlength
  have hsame : decrypted (x.network.inbound.withLinkControl byte) =
      withLinkControl byte (decrypted x.network.inbound) := by
    dsimp only [decrypted, withLinkControl]
    rw [FrameQueue.setRegion_withLinkControl hlength]
  have hrun : (HeaderM.decryptWith cipher keyIndex).run x =
      if out.1.success then .ok keyIndex (decrypted x.network.inbound)
      else .error .security (decrypted x.network.inbound) :=
    HeaderM.run_decryptWith cipher keyIndex x
  have hrun' : (HeaderM.decryptWith cipher keyIndex).run (withLinkControl byte x) =
      if out.1.success then .ok keyIndex (decrypted (x.network.inbound.withLinkControl byte))
      else .error .security (decrypted (x.network.inbound.withLinkControl byte)) :=
    HeaderM.run_decryptWith cipher keyIndex (withLinkControl byte x)
  unfold Ends
  rw [hrun, hrun', hsame]
  by_cases hsuccess : out.1.success = true
  · rw [if_pos hsuccess, if_pos hsuccess]
    exact ⟨rfl, hopened, trivial⟩
  · rw [if_neg hsuccess, if_neg hsuccess]
    exact ⟨rfl, hopened, trivial⟩

theorem overlooksHeader_linkControl (env : Environment W) (byte : UInt8) :
    OverlooksHeader env (withLinkControl byte) (OpenedWith fun _ => True) where
  toOverlooksFrame := overlooksFrame_linkControl byte _
  peer _ _ hx := ⟨rfl, hx⟩
  header _ _ hx := ⟨rfl, hx.1, trivial⟩
  route _ _ hx := ⟨rfl, hx⟩
  decryptRest := by
    refine .bind ((overlooksFrame_linkControl byte _).inbound _ QueueM.looksAhead_readByte)
      fun keyIndex => ?_
    split
    · exact .throw _
    next cipher _ => exact overlooks_decryptWith_linkControl cipher keyIndex byte

/-! ## Data -/

theorem overlooks_beginResponse_linkControl (c : Config) (byte : UInt8) (Q : Header → Prop) :
    Overlooks (withLinkControl (W := W) byte) (OpenedWith Q) (beginResponse c) := by
  intro x hx
  have hchanged := x.network.stageHeader_inbound (x.network.inbound.withLinkControl byte) c
    x.session .unicast (x.transport.command.has Command.nackBit)
  unfold Ends beginResponse withLinkControl
  dsimp only [EStateM.run]
  rw [hchanged]
  cases hstage : x.network.stageHeader c x.session .unicast
      (x.transport.command.has Command.nackBit) with
  | error cause => exact ⟨rfl, hx⟩
  | ok staged =>
      obtain ⟨s, n⟩ := staged
      obtain ⟨hinbound, hheader⟩ := NetworkLayer.sameReceived_stageHeader hstage
      have hopened : n.inbound.IsOpened ∧ Q n.header := by
        rw [hinbound, hheader]
        exact hx
      dsimp only [Except.map]
      rw [← hinbound]
      cases n.outbound.push (Command.responseCode ||| x.transport.command.operation) with
      | error cause => exact ⟨rfl, hopened⟩
      | ok outbound => exact ⟨rfl, hopened⟩

theorem overlooks_appendBody_linkControl (body : ResponseBody W) (byte : UInt8)
    (Q : Header → Prop) : Overlooks (withLinkControl byte) (OpenedWith Q) (appendBody body) := by
  intro x hx
  unfold Ends appendBody withLinkControl
  dsimp only [EStateM.run]
  obtain ⟨⟨score, outbound⟩, w⟩ := body x.network.outbound x.world
  dsimp only
  by_cases hscore : score < 0
  · rw [if_pos hscore, if_pos hscore]
    exact ⟨rfl, hx⟩
  · rw [if_neg hscore, if_neg hscore]
    exact ⟨rfl, hx⟩

theorem overlooks_endResponse_linkControl (env : Environment W) (byte : UInt8)
    (Q : Header → Prop) : Overlooks (withLinkControl byte) (OpenedWith Q) (endResponse env) := by
  intro x hx
  have hchanged := x.network.complete_inbound (x.network.inbound.withLinkControl byte) env.cipher
    x.world
  obtain ⟨hinbound, hheader⟩ := x.network.sameReceived_complete env.cipher x.world
  unfold Ends endResponse withLinkControl
  dsimp only [EStateM.run]
  rw [hchanged]
  cases hcomplete : x.network.complete env.cipher x.world with
  | mk result w =>
      obtain ⟨outcome, n⟩ := result
      rw [hcomplete] at hinbound hheader
      have hopened : n.inbound.IsOpened ∧ Q n.header := by
        rw [hinbound, hheader]
        exact hx
      dsimp only at hinbound ⊢
      rw [← hinbound]
      cases outcome with
      | error cause => exact ⟨rfl, hopened⟩
      | ok _ => exact ⟨rfl, hopened⟩

theorem overlooksData_linkControl (env : Environment W) (c : Config) (user : User) (byte : UInt8) :
    OverlooksData env c user (withLinkControl byte) (OpenedWith fun header => header.user = user)
      where
  toOverlooksFrame := overlooksFrame_linkControl byte _
  transport _ := rfl
  peer _ := rfl
  unread _ := rfl
  sender _ := rfl
  acts _ hx := hx.2
  modifyTransport _ _ hx := ⟨rfl, hx⟩
  modifyAccess _ _ hx := ⟨rfl, hx⟩
  query _ _ _ hx := ⟨rfl, hx⟩
  deliver _ _ _ _ _ _ _ hx := ⟨rfl, hx⟩
  beginResponse := overlooks_beginResponse_linkControl c byte _
  appendNone := overlooks_appendBody_linkControl _ byte _
  appendAnswer _ := overlooks_appendBody_linkControl _ byte _
  endResponse := overlooks_endResponse_linkControl env byte _

/-! ## Whole frames -/

namespace Exchange

theorem continueDatastream_linkControl (byte : UInt8) (x : Exchange W) :
    (x.withLinkControl byte).continueDatastream =
      (x.continueDatastream.1, x.continueDatastream.2.withLinkControl byte) := by
  unfold continueDatastream withLinkControl
  dsimp only [FrameQueue.unread_withLinkControl]
  split
  · split <;> rfl
  · rfl

theorem forward_linkControl (env : Environment W) (byte : UInt8) (x : Exchange W) :
    (x.withLinkControl byte).forward env =
      ((x.forward env).1, (x.forward env).2.withLinkControl byte) := by
  unfold forward
  split <;> rfl

/-- What a frame that has been opened comes to, and what it leaves, does not depend on its
second byte. -/
theorem receive_of_opened {x x' y : Exchange W} (env : Environment W) (c : Config)
    (hx : HeaderM.openFrame.run x = .ok () y)
    (hx' : HeaderM.openFrame.run x' = .ok () (y.withLinkControl byte))
    (hopened : y.network.inbound.IsOpened) :
    x'.receive env c = ((x.receive env c).1, (x.receive env c).2.withLinkControl byte) := by
  have hheader := (overlooksHeader_linkControl env byte).readOpened c y ⟨hopened, trivial⟩
  have hread : (HeaderM.read env c).run x = (HeaderM.readOpened env c).run y := by
    change (HeaderM.openFrame >>= fun _ => HeaderM.readOpened env c).run x = _
    rw [EStateM.run_bind, hx]
  have hread' : (HeaderM.read env c).run x' =
      (HeaderM.readOpened env c).run (y.withLinkControl byte) := by
    change (HeaderM.openFrame >>= fun _ => HeaderM.readOpened env c).run x' = _
    rw [EStateM.run_bind, hx']
  unfold receive
  rw [hread, hread']
  -- On behalf of whom the data is processed is known only after the header.
  cases hrun : (HeaderM.readOpened env c).run y with
  | error cause z => rw [(hheader.of_error hrun).1]
  | ok destination z =>
      obtain ⟨hrun', hz⟩ := hheader.of_ok hrun
      rw [hrun']
      cases destination with
      | «local» => exact (overlooksData_linkControl env c z.user byte).dispatch ⟨hz.1, rfl⟩
      | datastream => exact z.continueDatastream_linkControl byte
      | forward => exact z.forward_linkControl env byte

/-- The exchange with another inbound frame. -/
def withInbound (x : Exchange W) (inbound : FrameQueue) : Exchange W :=
  { x with network.inbound := inbound }

/-- A frame that is there as a whole is opened: the first two of the counted bytes have been
passed over, and the footer is cut off. -/
theorem exists_opened {count : UInt8} {frame : List UInt8} (x : Exchange W) {q : FrameQueue}
    (hload : FrameQueue.load frame = .ok q) (hcount : frame[0]? = some count)
    (hmin : minHeader + footerLength ≤ count.toNat) (hall : count.toNat ≤ frame.length) :
    ∃ queue : FrameQueue, HeaderM.openFrame.run (x.withInbound q) = .ok () (x.withInbound queue) ∧
      queue.consumed = (frame.take (count.toNat - footerLength)).take 2 ∧
      queue.unread = (frame.take (count.toNat - footerLength)).drop 2 ∧
      queue.limit = queueCapacity := by
  have hwritten : q.written = frame := FrameQueue.written_of_load hload
  have hbyte : q.byteAt 0 = some count := by rw [FrameQueue.byteAt, hwritten, hcount]
  have hlength : q.length = frame.length := by rw [FrameQueue.length_eq, hwritten]
  have hopens := HeaderM.ends_openFrame_cut (x := x.withInbound q)
  cases hrun : HeaderM.openFrame.run (x.withInbound q) with
  | error cause y =>
      have hshort := hopens.of_error hrun count hbyte
      change count.toNat < minHeader + footerLength ∨ q.length < count.toNat at hshort
      omega
  | ok _ y =>
      obtain ⟨byte, queue, hother, -, -, ⟨hconsumed, hunread, hlimit⟩, rfl⟩ := hopens.of_ok hrun
      obtain rfl : count = byte := Option.some.inj (hbyte.symm.trans hother)
      have hq : (x.withInbound q).network.inbound.written = frame := hwritten
      rw [hq] at hconsumed hunread
      exact ⟨queue, rfl, hconsumed, hunread, hlimit.trans (FrameQueue.limit_load hload)⟩

/-- Of the counted bytes, all but the second are the same. -/
theorem exists_linkControl {f g : List UInt8} {count : UInt8} (hfirst : f[0]? = some count)
    (hfirst' : g[0]? = some count) (hmin : minHeader + footerLength ≤ count.toNat)
    (hall : count.toNat ≤ f.length) (hall' : count.toNat ≤ g.length)
    (hsame : ∀ i, 2 ≤ i → i + footerLength < count.toNat → f[i]? = g[i]?) :
    ∃ byte, (g.take (count.toNat - footerLength)).take 2 =
        ((f.take (count.toNat - footerLength)).take 2).set 1 byte ∧
      (g.take (count.toNat - footerLength)).drop 2 =
        (f.take (count.toNat - footerLength)).drop 2 ∧
      2 ≤ ((f.take (count.toNat - footerLength)).take 2).length := by
  have hlong : minHeader ≤ count.toNat := Nat.le_of_add_right_le hmin
  unfold minHeader at hmin
  unfold footerLength at hmin hsame ⊢
  have hbody : (g.take (count.toNat - 2)).drop 2 = (f.take (count.toNat - 2)).drop 2 := by
    apply List.ext_getElem?
    intro i
    rw [List.getElem?_drop, List.getElem?_drop, List.getElem?_take, List.getElem?_take]
    split
    next hcounted => exact (hsame (2 + i) (by omega) (by omega)).symm
    · rfl
  -- In front of them stand the count itself and the link control, of which only this may differ.
  obtain ⟨first, second, _, _, _, _, rfl⟩ := exists_of_header (Nat.le_trans hlong hall)
  obtain ⟨first', second', _, _, _, _, rfl⟩ := exists_of_header (Nat.le_trans hlong hall')
  obtain rfl : first = count := Option.some.inj hfirst
  obtain rfl : first' = first := Option.some.inj hfirst'
  obtain ⟨n, hn⟩ : ∃ n, first'.toNat - 2 = n + 2 := ⟨first'.toNat - 4, by omega⟩
  exact ⟨second', by simp [hn], hbody, by simp [hn]⟩

/-- Two frames that start with the same number of bytes, of which both have that many, and that
agree from the third byte up to the footer, come to the same: the same score, and the same
dialog, layers and world. What is left to tell them apart is the inbound frame, and in it
nothing that is unread. -/
theorem receive_counted (env : Environment W) (c : Config) (x : Exchange W)
    {f g : List UInt8} {count : UInt8} (hf : f.length ≤ queueCapacity)
    (hg : g.length ≤ queueCapacity) (hfirst : f[0]? = some count) (hfirst' : g[0]? = some count)
    (hmin : minHeader + footerLength ≤ count.toNat) (hall : count.toNat ≤ f.length)
    (hall' : count.toNat ≤ g.length)
    (hsame : ∀ i, 2 ≤ i → i + footerLength < count.toNat → f[i]? = g[i]?) :
    ∃ q q' inbound, FrameQueue.load f = .ok q ∧ FrameQueue.load g = .ok q' ∧
      let y := (x.withInbound q).receive env c
      (x.withInbound q').receive env c = (y.1, y.2.withInbound inbound) ∧
        inbound.unread = y.2.network.inbound.unread := by
  obtain ⟨q, hload⟩ := FrameQueue.exists_load hf
  obtain ⟨q', hload'⟩ := FrameQueue.exists_load hg
  obtain ⟨opened, hopen, hconsumed, hunread, hlimit⟩ := x.exists_opened hload hfirst hmin hall
  obtain ⟨opened', hopen', hconsumed', hunread', hlimit'⟩ :=
    x.exists_opened hload' hfirst' hmin hall'
  obtain ⟨byte, hpassed, hbody, htwo⟩ :=
    exists_linkControl hfirst hfirst' hmin hall hall' hsame
  have hlinked : opened' = opened.withLinkControl byte := by
    refine FrameQueue.eq_withLinkControl ?_ ?_ (hlimit'.trans hlimit.symm)
    · rw [hconsumed', hpassed, hconsumed]
    · rw [hunread', hbody, hunread]
  have hopen'' : HeaderM.openFrame.run (x.withInbound q') =
      .ok () ((x.withInbound opened).withLinkControl byte) := by
    rw [hopen', hlinked]
    rfl
  have hreceived := receive_of_opened env c hopen hopen''
    (show 2 ≤ opened.consumed.length by rw [hconsumed]; exact htwo)
  exact ⟨q, q', _, hload, hload', hreceived, rfl⟩

/-- A router that judges what it is given by its length is given the same two bytes, whatever
the link control and the footer of the frame are and however much follows it. -/
theorem receive_counted_by_router :
    let env : Environment Unit :=
      { Environment.obliging with router := some fun _ bytes w => (bytes.length, w) }
    let c : Config := { Config.default with identity.vid := #v[0x12, 0x34], multihop := true }
    let f : List UInt8 := [0x11, 0x7F, 0xF0, 0x1A, 0x80, 0x05, 0xAA, 0xBB, 0x62, 0xAA, 0xBB,
      0x99, 0x99, 0x28, 0x00, 0x00, 0x00]
    let g : List UInt8 := [0x11, 0x01, 0xF0, 0x1A, 0x80, 0x05, 0xAA, 0xBB, 0x62, 0xAA, 0xBB,
      0x99, 0x99, 0x28, 0x00, 0xC3, 0x5A, 0x28, 0x28]
    let x : Exchange Unit :=
      ⟨⟨.initial 5, {}, {}, ()⟩, ⟨0, 0x10, { substate := .requestRx }, .none, 0, 0xF0, 0, none⟩⟩
    (∃ q q' inbound, FrameQueue.load f = .ok q ∧ FrameQueue.load g = .ok q' ∧
      let y := (x.withInbound q).receive env c
      (x.withInbound q').receive env c = (y.1, y.2.withInbound inbound) ∧
        inbound.unread = y.2.network.inbound.unread) ∧
      ((x.withInbound ⟨[], f, 256, by decide, by decide⟩).receive env c).1 = 2 := by
  intro env c f g x
  have hsame : ∀ i < 15, 2 ≤ i → f[i]? = g[i]? := by decide
  constructor
  · apply receive_counted env c x (by decide) (by decide) rfl rfl
      (by decide) (by decide) (by decide)
    intro i hi hcounted
    exact hsame i (by change i + 2 < 17 at hcounted; omega) hi
  · decide +kernel

end Exchange

end Mode2
