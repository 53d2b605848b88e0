import Mode2.Proofs.Environment.View
import Mode2.Proofs.Exchange.Grammar
import Mode2.Proofs.Exchange.Responding
import Mode2.Proofs.Exchange.Undisturbed

/-!
# Devices that have answered

A device remembers the first devices whose responses it accepts and lists them in its next
request. Whoever reads the list learns whether it is one of them, and goes on with what
follows the list.
-/

namespace Mode2

variable {W : Type}

/-- Bytes are appended where there is room for them. -/
theorem QueueM.ends_append {bytes : List UInt8} {q : FrameQueue} (hroom : bytes.length ≤ q.space) :
    Ends (append bytes) q (fun _ q' => q.append bytes = .ok q') fun _ _ => False := by
  obtain ⟨q', happend⟩ := FrameQueue.exists_append hroom
  simp [Ends, EStateM.run, append, change, happend]

namespace AckList

/-! ## Remembering -/

/-- Recording one device after the other keeps the first ones that are distinct. -/
theorem ids_record {acks : AckList} {sources : List DeviceId}
    (h : acks.ids = sources.eraseDups.take ackCapacity) (id : DeviceId) :
    (acks.record id).ids = (sources ++ [id]).eraseDups.take ackCapacity := by
  have hlater : ([id].removeAll sources).eraseDups = if id ∈ sources then [] else [id] := by
    by_cases hknown : id ∈ sources <;> simp [List.removeAll, List.eraseDups_cons, hknown]
  rw [List.eraseDups_append, hlater]
  by_cases hroom : sources.eraseDups.length < ackCapacity
  · -- Everyone who has answered is remembered.
    have hall : acks.ids = sources.eraseDups := by
      rw [h, List.take_of_length_le (Nat.le_of_lt hroom)]
    by_cases hknown : id ∈ sources
    · simp [record, hall, hknown, List.take_of_length_le (Nat.le_of_lt hroom)]
    · have hlength : (sources.eraseDups ++ [id]).length ≤ ackCapacity := by
        rw [List.length_append]
        exact hroom
      simp [record, hall, hknown, hroom, List.take_of_length_le hlength]
  · have hfull : acks.ids.length = ackCapacity := by
      rw [h, List.length_take, Nat.min_eq_left (Nat.le_of_not_lt hroom)]
    have hsame : acks.record id = acks := by simp [record, hfull]
    rw [hsame, h, List.take_append_of_le_length (Nat.le_of_not_lt hroom)]

/-! ## Listing -/

/-- The IDs of one kind among some IDs. -/
def named (ids : List DeviceId) (virtualIds : Bool) : List DeviceId :=
  ids.filter fun id => id.bytes.length = DeviceId.widthOf virtualIds

/-- The bytes that list devices by IDs of one kind: how many there are, and each ID. -/
def listing (ids : List DeviceId) (virtualIds : Bool) : List UInt8 :=
  UInt8.ofNat (named ids virtualIds).length :: (named ids virtualIds).flatMap DeviceId.bytes

/-- IDs are appended one after the other where there is room for all of them. -/
theorem ends_writeIds {ids : List DeviceId} {q : FrameQueue}
    (hroom : (ids.flatMap DeviceId.bytes).length ≤ q.space) :
    Ends (writeIds ids) q (fun _ q' => q.append (ids.flatMap DeviceId.bytes) = .ok q')
      fun _ _ => False := by
  induction ids generalizing q with
  | nil => exact Ends.pure q.append_nil
  | cons id rest ih =>
      rw [List.flatMap_cons] at hroom ⊢
      rw [List.length_append] at hroom
      apply Ends.bind
      apply (QueueM.ends_append (Nat.le_trans (Nat.le_add_right _ _) hroom)).imp ?_ nofun
      intro _ q₁ hfirst
      have hrest : (rest.flatMap DeviceId.bytes).length ≤ q₁.space := by
        rw [FrameQueue.space_append hfirst]
        omega
      apply (ih hrest).imp ?_ nofun
      intro _ q₂ hsecond
      exact FrameQueue.append_append hfirst hsecond

/-- The list is appended where there is room for it. -/
theorem ends_write (acks : AckList) (virtualIds : Bool) {q : FrameQueue}
    (hroom : (listing acks.ids virtualIds).length ≤ q.space) :
    Ends (acks.write virtualIds) q (fun _ q' => q.append (listing acks.ids virtualIds) = .ok q')
      fun _ _ => False := by
  rw [listing, List.length_cons] at hroom
  apply Ends.bind
  apply (QueueM.ends_append (Nat.le_trans (Nat.le_add_left _ _) hroom)).imp ?_ nofun
  intro _ q₁ hcount
  have hids : ((named acks.ids virtualIds).flatMap DeviceId.bytes).length ≤ q₁.space := by
    rw [FrameQueue.space_append hcount]
    exact Nat.le_sub_of_add_le hroom
  apply (ends_writeIds hids).imp ?_ nofun
  intro _ q₂ hwritten
  exact FrameQueue.append_append hcount hwritten

/-! ## Scanning -/

/-- Whoever scans a list of a few devices has read it to its end, and has found out whether
one of the IDs is its own. -/
theorem exists_scan_listing {ids : List DeviceId} (hfew : ids.length ≤ ackCapacity) (c : Config)
    (virtualIds : Bool) {q : FrameQueue} {rest : List UInt8}
    (hunread : q.unread = listing ids virtualIds ++ rest) :
    ∃ found q', scan c.isNamedBy virtualIds q = .ok found q' ∧ q'.unread = rest ∧
      (found = true ↔ ∃ id ∈ ids, c.Owns id virtualIds) := by
  have hwidth : ∀ id ∈ named ids virtualIds, id.bytes.length = DeviceId.widthOf virtualIds := by
    intro id hid
    simpa using (List.mem_filter.mp hid).2
  have hspelled : AreIds virtualIds ((named ids virtualIds).map DeviceId.bytes) := by
    constructor
    · have hcount : (named ids virtualIds).length ≤ ids.length := List.length_filter_le _ _
      rw [List.length_map]
      unfold ackCapacity at hfew
      omega
    · simpa using hwidth
  have hencoded : listing ids virtualIds =
      encodeIds ((named ids virtualIds).map DeviceId.bytes) := by
    rw [listing, encodeIds, List.length_map, List.flatMap_def]
  obtain ⟨q', hscan, hrest⟩ :=
    (scan_readsAs c.isNamedBy virtualIds).accepts ⟨_, hspelled, hencoded, rfl⟩ hunread
  refine ⟨_, q', hscan, hrest, ?_⟩
  simp only [List.any_map, List.any_eq_true, Function.comp_apply]
  constructor
  · rintro ⟨id, hid, hnamed⟩
    exact ⟨id, (List.mem_filter.mp hid).1, (Config.isNamedBy_iff_owns (hwidth id hid)).mp hnamed⟩
  · rintro ⟨id, hid, howns⟩
    have hkind : id.bytes.length = DeviceId.widthOf virtualIds := by
      rw [howns.1]
      exact c.length_localId virtualIds
    exact ⟨id, List.mem_filter.mpr ⟨hid, decide_eq_true hkind⟩, Config.isNamedBy_of_owns howns⟩

end AckList

/-! ## Responses -/

namespace Exchange

variable {env : Environment W} {x : Exchange W}

/-- The frame, whose header has been read, holds a response. -/
def holdsResponse (x : Exchange W) : Bool :=
  match commandBytes x.network.inbound with
  | .ok command _ => Command.kindOf? command.code = some .response
  | .error _ _ => false

/-- The sender of the inbound frame, if the frame is a response that is accepted. -/
def responder? (env : Environment W) (c : Config) (x : Exchange W) : Option DeviceId :=
  match (HeaderM.read env c).run x with
  | .ok destination y =>
      if destination = .local ∧ y.holdsResponse ∧ 0 ≤ (x.receive env c).1 then
        some y.network.peer
      else none
  | .error _ _ => none

/-- Requests leave alone who is remembered. -/
theorem handlesRequest_acks (env : Environment W) :
    HandlesRequest env fun x y => y.transport.acks = x.transport.acks where
  refl _ := rfl
  trans h h' := h'.trans h
  network _ _ := rfl
  transport _ _ hacks := hacks
  session _ _ _ _ := rfl
  answer _ _ _ _ := rfl
  complete _ := rfl
  datagrams _ _ _ _ _ _ _ := rfl
  access _ _ _ := rfl
  query _ _ _ _ := rfl

/-- The devices remembered after the data of a frame has been processed to a score. -/
def acksAfter (x : Exchange W) (score : Score) : AckList :=
  if x.holdsResponse ∧ 0 ≤ score then x.transport.acks.record x.network.peer
  else x.transport.acks

/-- Only a response that is accepted changes who is remembered. -/
theorem ends_handleData_acks (env : Environment W) (c : Config) (x : Exchange W) :
    Ends (handleData env c) x (fun score y => y.transport.acks = x.acksAfter score)
      fun score y => y.transport.acks = x.acksAfter score := by
  have hdropped : ∀ score, score < 0 → x.acksAfter score = x.transport.acks := by
    intro score hscore
    simp [acksAfter, Int.not_le.mpr hscore]
  apply Ends.bind
  apply ExchangeM.ends_modifyTransport
  apply Ends.bind
  cases hread : commandBytes x.network.inbound with
  | error cause queue =>
      simp only [Ends, ExchangeM.inbound, EStateM.run, hread]
      exact (hdropped _ (Int.negSucc_lt_zero 0)).symm
  | ok command queue =>
      have hother : Command.kindOf? command.code ≠ some .response →
          ∀ score, x.acksAfter score = x.transport.acks := by
        intro hkind score
        simp [acksAfter, holdsResponse, hread, hkind]
      refine ExchangeM.ends_inbound hread (Ends.bind (ExchangeM.ends_modifyTransport ?_))
      split
      next hkind =>
        have hresponse : x.holdsResponse = true := by simp [holdsResponse, hread, hkind]
        simp only [Ends, acceptResponse, EStateM.run]
        split
        · simp [acksAfter, hresponse, Transport.reset]
        · exact (hdropped _ (Int.negSucc_lt_zero 0)).symm
      next kind hkind =>
        have hsame := hother (by simp [hkind])
        apply ((handlesRequest_acks env).moves_handleRequest c kind _).imp
        · intro score y hacks
          exact hacks.trans (hsame score).symm
        · intro score y hacks
          exact hacks.trans (hsame score).symm
      · exact Ends.throw (hdropped _ (Int.negSucc_lt_zero 0)).symm
      · exact Ends.throw (hdropped _ (Int.negSucc_lt_zero 0)).symm

/-- The sender of a response that is accepted is recorded; after any other frame the same
devices are remembered. -/
theorem acks_receive (env : Environment W) (c : Config) (x : Exchange W) :
    (x.receive env c).2.transport.acks =
      (x.responder? env c).elim x.transport.acks x.transport.acks.record := by
  have hsame := (readsHeader_awaiting env).moves_read c x
  cases hrun : (HeaderM.read env c).run x with
  | error cause y =>
      obtain ⟨htransport, -⟩ := hsame.of_error hrun
      simp [responder?, receive, hrun, htransport]
  | ok destination y =>
      obtain ⟨htransport, -⟩ := hsame.of_ok hrun
      cases destination with
      | «local» =>
          have hdata := ExchangeM.score_of_ends (ends_handleData_acks env c y)
          rw [receive_of_local hrun]
          simp only [responder?, hrun, receive_of_local hrun, dispatch, true_and]
          rw [hdata, acksAfter, htransport]
          split <;> rfl
      | datastream =>
          simp only [responder?, receive, hrun, reduceCtorEq, false_and, if_false,
            Option.elim_none, continueDatastream, ← htransport]
          split
          · split <;> rfl
          · rfl
      | forward =>
          simp only [responder?, receive, hrun, reduceCtorEq, false_and, if_false,
            Option.elim_none, forward, ← htransport]
          split <;> rfl

end Exchange

namespace Transport

/-- The transport layer as it can be after any frames, with the senders of the responses
that have been accepted since it was last told to forget them, in order of arrival. -/
inductive Remembers (W : Type) : List DeviceId → Transport → Prop
  | fresh : Remembers W [] {}
  | frame {sources : List DeviceId} (env : Environment W) (c : Config) (x : Exchange W)
      (h : Remembers W sources x.transport) :
      Remembers W (sources ++ (x.responder? env c).toList) (x.receive env c).2.transport
  | clear {sources : List DeviceId} {t : Transport} (h : Remembers W sources t) :
      Remembers W [] t.clearAcks

/-- The devices remembered are the first eight different ones that have answered. -/
theorem Remembers.ids {sources : List DeviceId} {t : Transport} (h : Remembers W sources t) :
    t.acks.ids = sources.eraseDups.take ackCapacity := by
  induction h with
  | fresh => rfl
  | frame env c x _ ih =>
      rw [x.acks_receive env c]
      cases x.responder? env c with
      | none => simpa using ih
      | some id => exact AckList.ids_record ih id
  | clear => rfl

/-- The devices remembered are the first eight different ones that have answered. Their list
is appended in full where there is room for it, and whoever scans it reads it to its end and
finds exactly whether its own ID is remembered. -/
theorem remembers_lists {sources : List DeviceId} {t : Transport} (h : Remembers W sources t) :
    t.acks.ids.Nodup ∧ t.acks.ids = sources.eraseDups.take ackCapacity ∧
      ∀ virtualIds : Bool,
        (∀ q : FrameQueue, (AckList.listing t.acks.ids virtualIds).length ≤ q.space →
          ∃ q', t.acks.write virtualIds q = .ok () q' ∧
            q'.written = q.written ++ AckList.listing t.acks.ids virtualIds) ∧
        ∀ (c : Config) (s : Session) (q : FrameQueue) (rest : List UInt8),
          s.flags.virtualIds = virtualIds →
          q.unread = AckList.listing t.acks.ids virtualIds ++ rest →
          ∃ found q', AckList.scan c.isNamedBy s.flags.virtualIds q = .ok found q' ∧
            q'.unread = rest ∧ (found = true ↔ ∃ id ∈ t.acks.ids, c.Owns id virtualIds) := by
  refine ⟨t.acks.nodup, h.ids, ?_⟩
  intro virtualIds
  constructor
  · intro q hroom
    obtain ⟨_, q', hwrite, happend⟩ := (t.acks.ends_write virtualIds hroom).exists_ok
    exact ⟨q', hwrite, FrameQueue.written_append happend⟩
  · intro c s q rest hflag hunread
    rw [hflag]
    exact AckList.exists_scan_listing t.acks.length_le c virtualIds hunread

/-- Two devices answer, the first of them twice. They are listed once each, and the second
of them finds itself on the list, in front of what follows. -/
theorem remembers_lists_two_devices :
    let response (high low : UInt8) : FrameQueue :=
      ⟨[], [0x0A, 0x00, 0xF0, 0x12, 0x05, high, low, 0x02, 0x00, 0x00], 256,
        Nat.le_of_ble_eq_true rfl, Nat.le_refl _⟩
    let x (t : Transport) (high low : UInt8) : Exchange Unit :=
      ⟨⟨.initial 5, { inbound := response high low }, t, ()⟩,
        ⟨0, 0x10, { substate := .responseRx }, .none, 0, 0xF0, 0, none⟩⟩
    let after (t : Transport) (high low : UInt8) : Transport :=
      ((x t high low).receive .obliging .default).2.transport
    let t := after (after (after {} 0xAA 0xBB) 0xCC 0xDD) 0xAA 0xBB
    let first := DeviceId.ofVirtual #v[0xAA, 0xBB]
    let second := DeviceId.ofVirtual #v[0xCC, 0xDD]
    let c : Config := { Config.default with identity.vid := #v[0xCC, 0xDD] }
    let s : Session :=
      ⟨0, 0x10, { substate := .requestRx }, { virtualIds := true }, 0, 0xF0, 0, none⟩
    Remembers Unit [first, second, first] t ∧ t.acks.ids = [first, second] ∧
      (∃ q, t.acks.write true .empty = .ok () q ∧
        q.written = [0x02, 0xAA, 0xBB, 0xCC, 0xDD]) ∧
      ∀ q : FrameQueue, q.unread = [0x02, 0xAA, 0xBB, 0xCC, 0xDD, 0x10, 0x01] →
        ∃ q', AckList.scan c.isNamedBy s.flags.virtualIds q = .ok true q' ∧
          q'.unread = [0x10, 0x01] := by
  intro response x after t first second c s
  have hanswers : ∀ (sources : List DeviceId) (t : Transport) (high low : UInt8),
      Remembers Unit sources t →
        Remembers Unit (sources ++ [DeviceId.ofVirtual #v[high, low]]) (after t high low) := by
    intro sources t high low h
    exact .frame .obliging .default (x t high low) h
  have h : Remembers Unit [first, second, first] t :=
    hanswers _ _ 0xAA 0xBB (hanswers _ _ 0xCC 0xDD (hanswers _ _ 0xAA 0xBB .fresh))
  obtain ⟨-, hids, hlists⟩ := remembers_lists h
  have hids : t.acks.ids = [first, second] := hids.trans (by decide)
  have hlisting : AckList.listing t.acks.ids true = [0x02, 0xAA, 0xBB, 0xCC, 0xDD] := by
    rw [hids]
    decide
  obtain ⟨hwrites, hscans⟩ := hlists true
  refine ⟨h, hids, ?_, ?_⟩
  · obtain ⟨q, hwrite, hwritten⟩ := hwrites .empty (by rw [hlisting]; decide)
    exact ⟨q, hwrite, by rw [hwritten, hlisting]; rfl⟩
  · intro q hunread
    obtain ⟨found, q', hscan, hrest, hfound⟩ :=
      hscans c s q [0x10, 0x01] rfl (by rw [hunread, hlisting]; rfl)
    obtain rfl : found = true := hfound.mpr ⟨second, by rw [hids]; decide, by decide⟩
    exact ⟨q', hscan, hrest⟩

end Transport

end Mode2
