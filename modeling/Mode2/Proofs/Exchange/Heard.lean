import Mode2.Proofs.Exchange.Changes
import Mode2.Proofs.Exchange.HeaderGrammar

/-!
# What an accepted header settles

Whoever accepts the header of a frame is from then on in the dialog that the frame carries
the ID of; who was in a dialog before accepts only its next ID. Unless the frame continues
a datastream, the network layer remembers the same dialog ID, and a route whose IDs are of
the kind that the dialog uses.
-/

namespace Mode2

variable {W : Type}

/-- The dialog ID that a frame carries. It comes after the frame info, or after the
extension byte when there is one. -/
def carriedDialog? (frame : List UInt8) : Option UInt8 :=
  match (frame[3]?).map FrameInfo.ofByte with
  | none => none
  | some info => if info.extended && !info.datastream then frame[5]? else frame[4]?

namespace Exchange

/-- From `x` to `y` the dialog has accepted a frame that carries this dialog ID. -/
structure Enters (id : UInt8) (x y : Exchange W) : Prop where
  dialogId : y.session.dialogId = id
  next : x.session.netState.connected = true → id = x.session.dialogId + 1
  netState : y.session.netState = { x.session.netState with connected := true }
  slot : y.session.slot = x.session.slot

/-- The network layer and the dialog agree on the frame that has been accepted. -/
structure Heard (x : Exchange W) : Prop where
  connected : x.session.netState.connected = true
  dialogId : x.session.dialogId = x.network.header.dialogId
  width : x.network.route.HasWidth x.session.flags.virtualIds
  route : x.session.flags.route = false → x.network.route = {}

/-- The dialog and what is remembered of the header are the same. -/
structure ReadsOn (x y : Exchange W) : Prop where
  session : y.session = x.session
  header : y.network.header = x.network.header

/-- Reading on in a frame changes nothing that has been settled. -/
theorem readsFrame_readsOn : ReadsFrame (ReadsOn (W := W)) where
  refl _ := ⟨rfl, rfl⟩
  trans h h' := ⟨h'.session.trans h.session, h'.header.trans h.header⟩
  inbound _ _ := ⟨rfl, rfl⟩

/-- Only the dialogs matter. -/
theorem Enters.congr {id : UInt8} {x x' y y' : Exchange W} (h : x.Enters id y)
    (hbefore : x.session = x'.session) (hafter : y'.session = y.session) : x'.Enters id y' := by
  refine ⟨?_, ?_, ?_, ?_⟩
  · rw [hafter, h.dialogId]
  · rw [← hbefore]
    exact h.next
  · rw [hafter, ← hbefore, h.netState]
  · rw [hafter, ← hbefore, h.slot]

end Exchange

theorem Route.hasWidth_empty (virtualIds : Bool) : ({} : Route).HasWidth virtualIds :=
  fun _ h => nomatch h

namespace HeaderM

open ExchangeM (ends_modifySession ends_modifyNetwork)

variable {x : Exchange W}

/-! ## Fields -/

theorem ends_optional_octet_unread (announced : Bool) :
    Ends (optional announced octet) x
      (fun _ y => x.network.inbound.unread[if announced then 1 else 0]? =
        y.network.inbound.unread[0]?)
      fun _ _ => True := by
  cases announced with
  | false => exact Ends.pure rfl
  | true =>
      refine Ends.bind (ends_octet_unread.imp ?_ fun _ _ _ => trivial)
      intro byte y hunread
      refine Ends.pure ?_
      rw [hunread]
      rfl

/-! ## The whole header -/

/-- A frame that follows the dialog is entered, and any other one changes nothing. -/
theorem ends_followDialog_enters (c : Config) (subnet dialogId : UInt8) :
    Ends (followDialog c subnet dialogId) x
      (fun _ y => x.session.Follows c subnet dialogId ∧ x.Enters dialogId y ∧
        y.network = x.network)
      (fun _ y => ¬x.session.Follows c subnet dialogId ∧ y = x) := by
  refine Ends.bind (Ends.get ?_)
  unfold Session.Follows
  dsimp only
  split
  next hconnected =>
    split
    next hnext =>
      refine ends_modifySession ⟨hnext, ⟨rfl, fun _ => hnext, ?_, rfl⟩, rfl⟩
      rw [← hconnected]
    next hother => exact Ends.throw ⟨hother, rfl⟩
  next hconnected =>
    split
    next hmatches =>
      exact ends_modifySession
        ⟨hmatches, ⟨rfl, fun h => absurd h hconnected, rfl, rfl⟩, rfl⟩
    next hother => exact Ends.throw ⟨hother, rfl⟩

theorem ends_readRoute_heard (c : Config) {header : Header}
    (hconnected : x.session.netState.connected = true)
    (hdialog : x.session.dialogId = header.dialogId)
    (hflags : x.session.flags = flagsOf header.info header.extension) :
    Ends (readRoute c header) x (fun _ y => y.session = x.session ∧ y.Heard) fun _ _ => True := by
  refine Ends.bind (ends_modifyNetwork ?_)
  split
  next hroutes =>
    refine Ends.bind_of_run fun r y hrun => Ends.bind (ends_modifyNetwork (Ends.pure ?_))
    obtain ⟨_, _, ⟨-, hblock⟩, -⟩ := (spelled_route header.info.virtualIds _).of_ok hrun
    obtain ⟨hsession, hheader⟩ := (Exchange.readsFrame_readsOn.moves_route _ _).of_ok hrun
    refine ⟨hsession, ?_, ?_, ?_, ?_⟩
    · rw [hsession, hconnected]
    · rw [hsession, hheader, hdialog]
    · rw [hsession, hflags]
      exact hblock.width
    · rw [hsession, hflags]
      exact fun hnone => absurd hroutes (Bool.eq_false_iff.mp hnone)
  next hroutes =>
    exact Ends.pure ⟨rfl, hconnected, hdialog, Route.hasWidth_empty _, fun _ => rfl⟩

/-- The rest of a header changes no more of a settled dialog than its flags, and the network
layer agrees with it. -/
theorem ends_readRest_heard (env : Environment W) (c : Config) (subnet : UInt8) (info : FrameInfo)
    (extension : UInt8) {dialogId : UInt8} (hconnected : x.session.netState.connected = true)
    (hdialog : x.session.dialogId = dialogId) :
    Ends (readRest env c subnet info extension dialogId) x
      (fun _ y => y.session = { x.session with flags := flagsOf info extension } ∧ y.Heard)
      fun _ _ => True := by
  have hreads : ReadsFrame (Exchange.ReadsOn (W := W)) := Exchange.readsFrame_readsOn
  refine Ends.bind (ends_modifySession ?_)
  have hsettled : ∀ (m : Exchange W) keyIndex,
      m.session = { x.session with flags := flagsOf info extension } →
      Ends (readRoute c { subnet, info, extension, dialogId, keyIndex }) m
        (fun _ y => y.session = { x.session with flags := flagsOf info extension } ∧ y.Heard)
        fun _ _ => True := by
    intro m keyIndex hm
    refine (ends_readRoute_heard c ?_ ?_ ?_).imp ?_ fun _ _ h => h
    · rw [hm, hconnected]
    · rw [hm, hdialog]
    · rw [hm]
    · exact fun _ y ⟨hsession, hheard⟩ => ⟨hsession.trans hm, hheard⟩
  refine Ends.bind_of_run fun keyIndex k hrun => ?_
  have hk := (hreads.moves_optional _
    (hreads.moves_decryptRest fun _ _ _ _ _ => ⟨rfl, rfl⟩) _).of_ok hrun
  refine Ends.bind_of_run fun peer l hrun => ?_
  have hl := hreads.trans hk ((hreads.moves_deviceId _ k).of_ok hrun)
  refine Ends.bind (ends_modifyNetwork ?_)
  split
  · refine Ends.bind_of_run fun target m hrun => ?_
    have hm := (hreads.moves_deviceId _ _).of_ok hrun
    split
    · exact Ends.bind (Ends.throw trivial)
    · exact hsettled m keyIndex (hm.session.trans hl.session)
  · exact hsettled _ keyIndex hl.session

theorem ends_readAddressed_enters (env : Environment W) (c : Config) (subnet : UInt8)
    (info : FrameInfo) :
    Ends (readAddressed env c subnet info) x
      (fun _ y => ∃ id, x.network.inbound.unread[if info.extended then 1 else 0]? = some id ∧
        x.Enters id y ∧ y.Heard)
      fun _ _ => True := by
  have hreads : ReadsFrame (Exchange.ReadsOn (W := W)) := Exchange.readsFrame_readsOn
  unfold readAddressed
  refine Ends.bind_of_run fun extension y hrun => ?_
  have hfirst := (ends_optional_octet_unread info.extended).of_ok hrun
  have hy := (hreads.moves_optional _ hreads.moves_octet x).of_ok hrun
  dsimp only
  split
  · exact Ends.bind (Ends.throw trivial)
  refine Ends.bind_of_run fun id y' hrun => ?_
  have hid := ends_octet_unread.of_ok hrun
  have hy' := hreads.trans hy ((hreads.moves_octet y).of_ok hrun)
  refine Ends.bind_of_run fun _ z hrun => ?_
  have hz := ((ends_followDialog_enters c subnet id).of_ok hrun).2.1.congr hy'.session rfl
  refine (ends_readRest_heard env c subnet info (extension.getD 0) (by rw [hz.netState])
    hz.dialogId).imp ?_ fun _ _ h => h
  rintro _ k ⟨hsession, hheard⟩
  have hflagged : x.Enters id
      { z with session := { z.session with flags := flagsOf info (extension.getD 0) } } :=
    ⟨hz.dialogId, hz.next, hz.netState, hz.slot⟩
  exact ⟨id, by rw [hfirst, hid]; rfl, hflagged.congr rfl hsession, hheard⟩

theorem ends_readDatastream_enters (c : Config) (subnet : UInt8) :
    Ends (readDatastream c subnet) x
      (fun destination y => destination = .datastream ∧
        ∃ id, x.network.inbound.unread[0]? = some id ∧ x.Enters id y)
      fun _ _ => True := by
  refine Ends.bind_of_run fun id y hrun => ?_
  have hid := ends_octet_unread.of_ok hrun
  obtain ⟨hsession, -⟩ := (Exchange.readsFrame_readsOn.moves_octet x).of_ok hrun
  refine Ends.bind (Ends.get ?_)
  dsimp only
  split
  · exact Ends.bind (Ends.throw trivial)
  refine Ends.bind ((ends_followDialog_enters c subnet id).imp ?_ fun _ _ _ => trivial)
  rintro _ z ⟨-, hz, -⟩
  refine Ends.pure ⟨rfl, id, by rw [hid]; rfl, ?_⟩
  exact hz.congr hsession rfl

/-- Whoever accepts the header of a frame enters the dialog that the frame carries the ID
of. -/
theorem ends_read_enters (env : Environment W) (c : Config) :
    Ends (read env c) x
      (fun destination y => (∃ id, carriedDialog? x.network.inbound.written = some id ∧
        x.Enters id y) ∧ (destination ≠ .datastream → y.Heard))
      fun _ _ => True := by
  unfold read
  refine Ends.bind (ends_openFrame_cut.imp ?_ fun _ _ _ => trivial)
  rintro _ opened ⟨length, queue, -, -, -, ⟨-, hunread, -⟩, rfl⟩
  -- Every unread byte is still at its place in the frame.
  have hplace : ∀ (i : Nat) (byte : UInt8), queue.unread[i]? = some byte →
      x.network.inbound.written[i + 2]? = some byte := by
    intro i byte hbyte
    rw [hunread, List.getElem?_drop, Nat.add_comm, List.getElem?_take] at hbyte
    split at hbyte
    · exact hbyte
    · cases hbyte
  refine Ends.bind_of_run fun subnet y hrun => ?_
  have hsubnet := ends_octet_unread.of_ok hrun
  obtain ⟨hsession, -⟩ := (Exchange.readsFrame_readsOn.moves_octet _).of_ok hrun
  refine Ends.bind_of_run fun byte z hrun => ?_
  have hbyte := ends_octet_unread.of_ok hrun
  obtain ⟨hsession', -⟩ := (Exchange.readsFrame_readsOn.moves_octet _).of_ok hrun
  rw [hbyte] at hsubnet
  change queue.unread = subnet :: byte :: z.network.inbound.unread at hsubnet
  have hinfo : x.network.inbound.written[3]? = some byte := hplace 1 byte (by rw [hsubnet]; rfl)
  have henters : ∀ {id y}, z.Enters id y → x.Enters id y := fun hy =>
    hy.congr (hsession'.trans hsession) rfl
  have hrest : ∀ (i : Nat) (id : UInt8), z.network.inbound.unread[i]? = some id →
      x.network.inbound.written[i + 4]? = some id := by
    intro i id hid
    exact hplace (i + 2) id (by rw [hsubnet]; exact hid)
  dsimp only
  split
  next hstream =>
    refine (ends_readDatastream_enters c subnet).imp ?_ fun _ _ h => h
    rintro _ y ⟨rfl, id, hid, hy⟩
    refine ⟨⟨id, ?_, henters hy⟩, fun h => absurd rfl h⟩
    simpa [carriedDialog?, hinfo, hstream] using hrest 0 id hid
  next hstream =>
    refine (ends_readAddressed_enters env c subnet _).imp ?_ fun _ _ h => h
    rintro _ y ⟨id, hid, hy, hheard⟩
    refine ⟨⟨id, ?_, henters hy⟩, fun _ => hheard⟩
    have hcarried := hrest _ id hid
    simp only [carriedDialog?, hinfo, Option.map_some, Bool.eq_false_iff.mpr hstream,
      Bool.not_false, Bool.and_true]
    split
    next hextended => simpa [hextended] using hcarried
    next hextended => simpa [hextended] using hcarried

end HeaderM

end Mode2
