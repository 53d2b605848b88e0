import Mode2.Proofs.Exchange.Admission

/-!
# The fields of a header

Whoever accepts the header of a frame has read its fields from where they follow each other:
what is in the clear up to the key, then, once it is decrypted, who sends the frame and to
whom, the routing block with the fields that its hop code announces, and the data.
-/

namespace Mode2

variable {W : Type}

/-! ## Frames -/

/-- A frame of the network layer: its header, who sends it, the device that it addresses, its
routing block, and its data. -/
structure NetworkFrame where
  header : Header
  peer : DeviceId
  target : Option DeviceId
  route : Option Route
  payload : List UInt8
deriving Repr

/-- Decrypted with its key, if there is one, the rest of a frame is in the clear. -/
def Environment.Unseals (env : Environment W) (w : W) (key : Option UInt8)
    (hidden plain : List UInt8) : Prop :=
  (key = none ∧ plain = hidden) ∨
    ∃ index cipher, key = some index ∧ env.cipher = some cipher ∧
      (cipher.decrypt index hidden w).1.success = true ∧
      (cipher.decrypt index hidden w).1.bytes = plain

namespace NetworkFrame

/-- The bytes between the frame info and what may be encrypted. -/
def announced (f : NetworkFrame) : List UInt8 :=
  (if f.header.info.extended then [f.header.extension] else []) ++
    f.header.dialogId :: f.header.keyIndex.toList

/-- The bytes that may be encrypted. -/
def body (f : NetworkFrame) : List UInt8 :=
  f.peer.bytes ++ (Route.idBytes f.target ++ ((f.route.map Route.spelling).getD [] ++ f.payload))

/-- The frame holds what its header announces. -/
structure IsAnnounced (f : NetworkFrame) : Prop where
  secured : f.header.keyIndex.isSome = f.header.info.isSecured
  peer : f.peer.bytes.length = DeviceId.widthOf f.header.info.virtualIds
  target : f.target.isSome = true ↔ f.header.info.addressing = .unicast
  targetWidth : ∀ id ∈ f.target, id.bytes.length = DeviceId.widthOf f.header.info.virtualIds
  route : f.route.isSome = Octet.hasAny f.header.extension Extension.routeBit
  block : ∀ r ∈ f.route, r.IsBlock f.header.info.virtualIds

/-- The frame continues no datastream, and its header announces what it holds. -/
structure WellFormed (f : NetworkFrame) : Prop extends f.IsAnnounced where
  network : f.header.info.datastream = false
  extension : f.header.info.extended = false → f.header.extension = 0

/-- The inbound frame holds these fields. -/
def IsIn (f : NetworkFrame) (env : Environment W) (x : Exchange W) : Prop :=
  ∃ first second hidden, openedFrame? x.network.inbound.written =
      some (first :: second :: f.header.subnet :: f.header.info.toByte :: (f.announced ++ hidden)) ∧
    env.Unseals x.world f.header.keyIndex hidden f.body

/-- The network layer remembers these fields, and the data is unread. -/
structure IsKept (f : NetworkFrame) (y : Exchange W) : Prop where
  header : y.network.header = f.header
  peer : y.network.peer = f.peer
  route : y.network.route = f.route.getD {}
  payload : y.network.inbound.unread = f.payload

end NetworkFrame

namespace HeaderM

open ExchangeM (ends_modifySession ends_modifyNetwork ends_perform)

/-! ## Decryption -/

/-- The rest of the frame is in the clear once the key, if there is one, has been read. -/
theorem ends_optional_decryptRest (env : Environment W) (secured : Bool) (x : Exchange W) :
    Ends (optional secured (decryptRest env)) x
      (fun key y => ∃ hidden queue w, key.isSome = secured ∧
        x.network.inbound.unread = key.toList ++ hidden ∧
        env.Unseals x.world key hidden queue.unread ∧
        y = { x with network.inbound := queue, world := w })
      fun _ _ => True := by
  cases secured with
  | false => exact Ends.pure ⟨_, x.network.inbound, x.world, rfl, rfl, .inl ⟨rfl, rfl⟩, rfl⟩
  | true =>
      refine Ends.bind (Ends.bind ((spelled_octet x).imp ?_ fun _ _ h => h))
      rintro index _ ⟨_, queue, rfl, hunread, rfl⟩
      split
      · exact Ends.throw trivial
      next cipher hcipher =>
        refine Ends.bind (Ends.get (Ends.bind (ends_perform (Ends.bind (ends_modifyNetwork ?_)))))
        split
        next hsuccess =>
          refine Ends.pure (Ends.pure ⟨queue.unread, _, _, rfl, hunread,
            .inr ⟨index, cipher, rfl, hcipher, hsuccess, ?_⟩, rfl⟩)
          have hlength := (cipher.decrypt index queue.unread x.world).1.length_eq
          exact (FrameQueue.unread_setRegion hlength).symm
        · exact Ends.throw trivial

/-! ## The whole header -/

variable {env : Environment W} {c : Config} {x : Exchange W}

theorem ends_readRoute_fields (c : Config) (header : Header) (x : Exchange W) :
    Ends (readRoute c header) x
      (fun destination y => ∃ route : Option Route,
        x.network.inbound.unread =
          (route.map Route.spelling).getD [] ++ y.network.inbound.unread ∧
        y.network.header = header ∧ y.network.peer = x.network.peer ∧
        y.network.route = route.getD {} ∧ destination = destinationOf c (route.getD {}) ∧
        route.isSome = Octet.hasAny header.extension Extension.routeBit ∧
        ∀ r ∈ route, r.IsBlock header.info.virtualIds)
      fun _ _ => True := by
  refine Ends.bind (ends_modifyNetwork ?_)
  split
  next hroutes =>
    refine Ends.bind ((spelled_route _ _).imp ?_ fun _ _ h => h)
    rintro route _ ⟨_, queue, ⟨rfl, hblock⟩, hunread, rfl⟩
    refine Ends.bind (ends_modifyNetwork (Ends.pure ⟨some route, hunread, rfl, rfl, rfl, rfl,
      hroutes.symm, ?_⟩))
    rintro _ ⟨⟩
    exact hblock
  next hlocal =>
    exact Ends.pure ⟨none, rfl, rfl, rfl, rfl, rfl, (Bool.eq_false_iff.mpr hlocal).symm, nofun⟩

/-- With the routing block and the data the frame is complete, once its other fields have been
read. -/
theorem ends_readRoute_frame (c : Config) {header : Header} (target : Option DeviceId)
    (x : Exchange W) (hsecured : header.keyIndex.isSome = header.info.isSecured)
    (hpeer : x.network.peer.bytes.length = DeviceId.widthOf header.info.virtualIds)
    (haddressed : target.isSome = true ↔ header.info.addressing = .unicast)
    (hwidth : ∀ id ∈ target, id.bytes.length = DeviceId.widthOf header.info.virtualIds) :
    Ends (readRoute c header) x
      (fun destination y => ∃ f : NetworkFrame, f.header = header ∧
        f.body = x.network.peer.bytes ++ (Route.idBytes target ++ x.network.inbound.unread) ∧
        f.IsAnnounced ∧ f.IsKept y ∧ destination = destinationOf c (f.route.getD {}))
      fun _ _ => True := by
  refine (ends_readRoute_fields c header x).imp ?_ fun _ _ h => h
  rintro destination y ⟨route, hblock, hheader, hkept, hroute, hdestination, hroutes, hannounced⟩
  let f : NetworkFrame := ⟨header, x.network.peer, target, route, y.network.inbound.unread⟩
  have hbody : f.body =
      x.network.peer.bytes ++ (Route.idBytes target ++ x.network.inbound.unread) := by
    rw [hblock]
    rfl
  exact ⟨f, rfl, hbody, ⟨hsecured, hpeer, haddressed, hwidth, hroutes, hannounced⟩,
    ⟨hheader, hkept, hroute, rfl⟩, hdestination⟩

theorem ends_readRest_fields (env : Environment W) (c : Config) (subnet : UInt8) (info : FrameInfo)
    (extension dialogId : UInt8) (x : Exchange W) :
    Ends (readRest env c subnet info extension dialogId) x
      (fun destination y => ∃ (f : NetworkFrame) (keyIndex : Option UInt8),
        f.header = { subnet, info, extension, dialogId, keyIndex } ∧
        (∃ hidden, x.network.inbound.unread = keyIndex.toList ++ hidden ∧
          env.Unseals x.world keyIndex hidden f.body) ∧
        f.IsAnnounced ∧ f.IsKept y ∧ destination = destinationOf c (f.route.getD {}))
      fun _ _ => True := by
  refine Ends.bind (ends_modifySession (Ends.bind
    ((ends_optional_decryptRest env info.isSecured _).imp ?_ fun _ _ h => h)))
  rintro key _ ⟨hidden, queue, w, hsecured, hunread, hplain, rfl⟩
  refine Ends.bind ((spelled_deviceId _ _).imp ?_ fun _ _ h => h)
  rintro peer _ ⟨_, queue', ⟨rfl, hpeer⟩, hbody, rfl⟩
  refine Ends.bind (ends_modifyNetwork ?_)
  dsimp only at hunread hplain hbody ⊢
  split
  next hunicast =>
    refine Ends.bind ((spelled_deviceId _ _).imp ?_ fun _ _ h => h)
    rintro target _ ⟨_, queue'', ⟨rfl, hwidth⟩, htarget, rfl⟩
    split
    · exact Ends.bind (Ends.throw trivial)
    · have haddressed : (some target).isSome = true ↔ info.addressing = .unicast :=
        iff_of_true rfl hunicast
      refine (ends_readRoute_frame c (some target) _ hsecured hpeer haddressed ?_).imp ?_
        fun _ _ h => h
      · rintro _ ⟨⟩
        exact hwidth
      · rintro destination y ⟨f, hheader, hframe, hrest⟩
        rw [hbody, htarget] at hplain
        exact ⟨f, key, hheader, ⟨hidden, hunread, by rw [hframe]; exact hplain⟩, hrest⟩
  next hother =>
    have haddressed : (none : Option DeviceId).isSome = true ↔ info.addressing = .unicast :=
      iff_of_false (by decide) hother
    refine (ends_readRoute_frame c none _ hsecured hpeer haddressed ?_).imp ?_ fun _ _ h => h
    · intro id hid
      cases hid
    · rintro destination y ⟨f, hheader, hframe, hrest⟩
      rw [hbody] at hplain
      exact ⟨f, key, hheader, ⟨hidden, hunread, by rw [hframe]; exact hplain⟩, hrest⟩

theorem ends_followDialog_session (c : Config) (subnet dialogId : UInt8) (x : Exchange W) :
    Ends (followDialog c subnet dialogId) x (fun _ y => ∃ s, y = { x with session := s })
      fun _ _ => True := by
  refine Ends.bind (Ends.get ?_)
  dsimp only
  split
  · split
    · exact ends_modifySession ⟨_, rfl⟩
    · exact Ends.throw trivial
  · split
    · exact ends_modifySession ⟨_, rfl⟩
    · exact Ends.throw trivial

theorem ends_readAddressed_fields (env : Environment W) (c : Config) (subnet : UInt8)
    {info : FrameInfo} (hnetwork : info.datastream = false) (x : Exchange W) :
    Ends (readAddressed env c subnet info) x
      (fun destination y => ∃ f : NetworkFrame, f.WellFormed ∧ f.header.subnet = subnet ∧
        f.header.info = info ∧
        (∃ hidden, x.network.inbound.unread = f.announced ++ hidden ∧
          env.Unseals x.world f.header.keyIndex hidden f.body) ∧
        f.IsKept y ∧ destination = destinationOf c (f.route.getD {}))
      fun _ _ => True := by
  unfold readAddressed
  refine Ends.bind ((Spelled.optional info.extended spelled_octet x).imp ?_ fun _ _ h => h)
  rintro extension _ ⟨first, queue, hextension, hunread, rfl⟩
  dsimp only
  split
  · exact Ends.bind (Ends.throw trivial)
  refine Ends.bind ((spelled_octet _).imp ?_ fun _ _ h => h)
  rintro dialogId _ ⟨_, queue', rfl, hrest, rfl⟩
  refine Ends.bind ((ends_followDialog_session c subnet dialogId _).imp ?_ fun _ _ h => h)
  rintro _ _ ⟨s, rfl⟩
  refine (ends_readRest_fields env c subnet info (extension.getD 0) dialogId _).imp ?_
    fun _ _ h => h
  rintro destination y ⟨f, key, hheader, ⟨hidden, hkey, hplain⟩, hannounced, hkept, hdestination⟩
  obtain rfl : f.header.keyIndex = key := congrArg Header.keyIndex hheader
  have hsubnet := congrArg Header.subnet hheader
  have hinfo := congrArg Header.info hheader
  have hextensions := congrArg Header.extension hheader
  have hdialogs := congrArg Header.dialogId hheader
  have hfirst : first = if info.extended then [extension.getD 0] else [] := by
    cases extension with
    | none => rw [hextension.2, hextension.1]; rfl
    | some byte => rw [hextension.2, hextension.1]; rfl
  refine ⟨f, ⟨hannounced, hinfo ▸ hnetwork, ?_⟩, hsubnet, hinfo, ⟨hidden, ?_, hplain⟩, hkept,
    hdestination⟩
  · intro hnone
    rw [hinfo] at hnone
    rw [hextensions]
    cases extension with
    | none => rfl
    | some byte => exact absurd (hextension.1.symm.trans hnone) (by decide)
  · dsimp only at hrest hkey
    simp only [NetworkFrame.announced, hinfo, hextensions, hdialogs]
    rw [hunread, hrest, hkey, hfirst]
    simp

/-- Whoever accepts a header that continues no datastream has found its fields in the frame,
and sends the frame where its routing block leads. -/
theorem exists_fields_of_read {env : Environment W} {c : Config} {x y : Exchange W}
    {destination : Destination} (hread : (read env c).run x = .ok destination y)
    (hnetwork : destination ≠ .datastream) :
    ∃ f : NetworkFrame, f.WellFormed ∧ f.IsIn env x ∧ f.IsKept y ∧
      destination = destinationOf c (f.route.getD {}) := by
  have hends : Ends (read env c) x (fun destination y => destination ≠ .datastream →
      ∃ f : NetworkFrame, f.WellFormed ∧ f.IsIn env x ∧ f.IsKept y ∧
        destination = destinationOf c (f.route.getD {})) fun _ _ => True := by
    unfold read
    refine Ends.bind ((ends_openFrame_opened x).imp ?_ fun _ _ _ => trivial)
    rintro _ _ ⟨⟨queue, rfl⟩, first, second, subnet, byte, rest, hopened, hunread⟩
    refine Ends.bind (ends_octet hunread fun queue' hqueue' => ?_)
    refine Ends.bind (ends_octet hqueue' fun queue'' hqueue'' => ?_)
    dsimp only
    split
    next hstream =>
      unfold readDatastream
      refine Ends.bind_of_run fun dialogId _ _ => Ends.bind (Ends.get ?_)
      dsimp only
      split
      · exact Ends.bind (Ends.throw trivial)
      · exact Ends.bind_of_run fun _ _ _ => Ends.pure fun hother => absurd rfl hother
    next hplain =>
      refine (ends_readAddressed_fields env c subnet (by simpa using hplain) _).imp ?_
        fun _ _ h => h
      rintro destination y ⟨f, hwell, rfl, hinfo, ⟨hidden, hrest, hplain⟩, hkept, hdestination⟩ -
      refine ⟨f, hwell, ⟨first, second, hidden, ?_, hplain⟩, hkept, hdestination⟩
      rw [hopened, hinfo, FrameInfo.toByte_ofByte, ← hrest, ← hqueue'']
  exact hends.of_ok hread hnetwork

end HeaderM

end Mode2
