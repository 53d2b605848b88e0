import Mode2.Proofs.Environment.Record
import Mode2.Proofs.Exchange.Segments
import Mode2.Proofs.Node.Arrivals
import Mode2.Proofs.Node.ResponseWindow
import Mode2.Proofs.Node.TopDialog

/-!
# Datastreams put together

A dialog that waits for a datastream listens again after each segment that it takes. What
has been received is then what was there before, followed by the segments of the frames
that arrived first, for as long as their dialog IDs go on and there is room. Whatever comes
after them is lost, and the dialog is over with the first frame that is not taken, or when
the radio does not let it listen again.
-/

namespace Mode2

variable {W : Type}

/-- An environment in which the radio refuses to listen. -/
def Environment.refusing : Environment W :=
  { Environment.obliging with
    radio := { Environment.obliging.radio with listen := fun _ _ w => (.error .busy, w) } }

namespace Node

/-- A dialog that waits for segments of a datastream. -/
structure Receives (n : Node W) (s : Session) : Prop where
  phase : n.phase = .listening
  top : n.sessions.top? = some s
  substate : s.netState.substate = .requestRx
  connected : s.netState.connected = true
  datastream : s.netState.datastream = true
  kept : s.netState.scrapped = false

variable {env : Environment W} {n : Node W} {s : Session} {frame : List UInt8}

/-- The node with another datastream and another frame in its queue, and its dialog
advanced. -/
def extended (d : Datastream) (inbound : FrameQueue) (s : Session) (n : Node W) : Node W :=
  Node.storeTop
    { n with
      network := { n.network with inbound }
      transport := { n.transport with datastream := d } }
    { s with dialogId := s.dialogId + 1 }

theorem exists_load_of_extend {d d' : Datastream} {dialogId : UInt8}
    (h : d.extend? dialogId frame = some d') : ∃ inbound, FrameQueue.load frame = .ok inbound := by
  obtain ⟨payload, hsome, -⟩ := Datastream.extend?_eq_some h
  obtain ⟨-, -, -, -, hroom⟩ := Segment.exists_length hsome
  exact FrameQueue.exists_load hroom

/-- Whoever takes a segment listens again. -/
theorem Receives.onFrame_of_extend (env : Environment W) (h : n.Receives s)
    (hsegment : IsSegment frame) {d : Datastream}
    (hextends : n.transport.datastream.extend? s.dialogId frame = some d) :
    ∃ inbound, n.onFrame env frame true =
      (n.extended d inbound s).listen env s.channel n.listenWindow := by
  obtain ⟨inbound, hload⟩ := exists_load_of_extend hextends
  have hreceive := Exchange.receive_segment (x := n.arrival inbound s) env n.config
    (FrameQueue.written_of_load hload) hsegment h.connected h.datastream
  rw [show (n.arrival inbound s).transport.datastream.extend?
    (n.arrival inbound s).session.dialogId frame = some d from hextends] at hreceive
  obtain ⟨queue, hresult⟩ := hreceive
  refine ⟨queue, ?_⟩
  rw [onFrame_of_listening h.phase h.top, process_of_load hload, hresult]
  have hgoes : ¬((0 : Score) < 0 ∨ s.netState.scrapped = true) := by
    rw [h.kept]
    decide
  refine (if_neg hgoes).trans ?_
  unfold proceed
  dsimp only
  rw [show (n.arrival inbound s).session = s from rfl, h.substate, if_pos h.datastream]
  rfl

/-- With a segment that is not taken the dialog is over, and nothing of it is kept. -/
theorem Receives.onFrame_of_not_extend (env : Environment W) (h : n.Receives s)
    (hsegment : IsSegment frame)
    (hextends : n.transport.datastream.extend? s.dialogId frame = none) :
    (n.onFrame env frame true).phase = .idle ∧
      (n.onFrame env frame true).sessions = n.sessions.pop ∧
      (n.onFrame env frame true).transport = n.transport := by
  rw [onFrame_of_listening h.phase h.top]
  cases hload : FrameQueue.load frame with
  | error cause =>
      rw [process_of_oversized hload]
      exact ⟨rfl, rfl, rfl⟩
  | ok inbound =>
      have hreceive := Exchange.receive_segment (x := n.arrival inbound s) env n.config
        (FrameQueue.written_of_load hload) hsegment h.connected h.datastream
      rw [show (n.arrival inbound s).transport.datastream.extend?
        (n.arrival inbound s).session.dialogId frame = none from hextends] at hreceive
      obtain ⟨hscore, htransport⟩ := hreceive
      rw [process_of_load hload]
      dsimp only
      rw [if_pos (.inl hscore)]
      exact ⟨rfl, rfl, htransport⟩

/-! ## Frames one after the other -/

section Delivery

variable {custom : CustomApplets (Recorded W)} {n m : Node (Recorded W)}
  {arrivals : List (Environment W × List UInt8)}

/-- The node after frames have arrived one after the other, each of them intact and in an
environment of its own. -/
def deliver (custom : CustomApplets (Recorded W)) (n : Node (Recorded W))
    (arrivals : List (Environment W × List UInt8)) : Node (Recorded W) :=
  arrivals.foldl
    (fun m arrival => m.step arrival.1.recorded custom (.event (.received arrival.2 true))) n

/-- An idle node passes over whatever arrives. -/
theorem deliver_of_idle (hidle : n.phase = .idle) (arrivals : List (Environment W × List UInt8)) :
    n.deliver custom arrivals = n := by
  induction arrivals with
  | nil => rfl
  | cons arrival arrivals ih =>
      have hstray : n.step arrival.1.recorded custom (.event (.received arrival.2 true)) = n :=
        onFrame_of_not_listening (by rw [hidle]; decide) _ _
      unfold deliver at ih ⊢
      rw [List.foldl_cons, hstray, ih]

/-- How the delivery of frames to a node, of which it has taken the first ones, has gone. -/
inductive Delivery (n : Node (Recorded W)) (s : Session) (taken : List (List UInt8)) :
    List (List UInt8) → Node (Recorded W) → Prop
  /-- All have been taken and the dialog waits for more. -/
  | goesOn {m : Node (Recorded W)} : m.phase = .listening → Delivery n s taken [] m
  /-- The next one does not fit, which has ended the dialog. -/
  | misfits {m : Node (Recorded W)} {frame : List UInt8} {later : List (List UInt8)} :
      ¬n.transport.datastream.Fits s.dialogId (taken ++ [frame]) → m.phase = .idle →
      m.sessions = n.sessions.pop → Delivery n s taken (frame :: later) m
  /-- The radio has refused to listen again after one, which has ended the dialog. -/
  | refused {m : Node (Recorded W)} {later : List (List UInt8)} {calls : List RadioCall} :
      taken ≠ [] → m.world.calls = .idle :: .listen s.channel n.listenWindow false :: calls →
      m.phase = .idle → m.sessions = n.sessions.pop → Delivery n s taken later m

/-- What the arrival of a frame makes of a node that waits for segments. -/
inductive Arrives (n : Node (Recorded W)) (s : Session) (frame : List UInt8)
    (m : Node (Recorded W)) : Prop
  /-- The frame is taken, and the dialog waits for the next one. -/
  | taken {d : Datastream} : n.transport.datastream.extend? s.dialogId frame = some d →
      m.transport.datastream = d → m.Receives { s with dialogId := s.dialogId + 1 } →
      m.listenWindow = n.listenWindow → m.sessions.pop = n.sessions.pop → Arrives n s frame m
  /-- The frame is taken, but the radio refuses to listen again. -/
  | last {d : Datastream} {calls : List RadioCall} :
      n.transport.datastream.extend? s.dialogId frame = some d → m.transport.datastream = d →
      m.world.calls = .idle :: .listen s.channel n.listenWindow false :: calls →
      m.phase = .idle → m.sessions = n.sessions.pop → Arrives n s frame m
  /-- The frame is not taken. -/
  | dropped : n.transport.datastream.extend? s.dialogId frame = none →
      m.transport = n.transport → m.phase = .idle → m.sessions = n.sessions.pop →
      Arrives n s frame m

theorem Receives.arrives {frame : List UInt8} (env : Environment W) (h : n.Receives s)
    (hsegment : IsSegment frame) : Arrives n s frame (n.onFrame env.recorded frame true) := by
  cases hextends : n.transport.datastream.extend? s.dialogId frame with
  | none =>
      obtain ⟨hidle, hpop, htransport⟩ := h.onFrame_of_not_extend env.recorded hsegment hextends
      exact .dropped hextends htransport hidle hpop
  | some d =>
      obtain ⟨inbound, hlisten⟩ := h.onFrame_of_extend env.recorded hsegment hextends
      have hpop : (n.extended d inbound s).sessions.pop = n.sessions.pop :=
        SessionStack.pop_setTop _ _
      have hcalls := env.records_recorded.listen s.channel n.listenWindow
        (n.extended d inbound s).world
      rw [hlisten]
      cases hradio : (env.recorded.radio.listen s.channel n.listenWindow
          (n.extended d inbound s).world).1 with
      | error cause =>
          rw [hradio] at hcalls
          rw [listen_of_refused hradio]
          exact .last hextends rfl
            ((env.records_recorded.idle _).trans (congrArg (List.cons .idle) hcalls)) rfl hpop
      | ok accepted =>
          rw [listen_of_accepted hradio]
          exact .taken hextends rfl
            ⟨rfl, SessionStack.top?_setTop h.top _, h.substate, h.connected, h.datastream, h.kept⟩
            rfl hpop

/-- What has been delivered after a first frame that was taken has been delivered after it. -/
theorem Delivery.cons {frame : List UInt8} {taken rest : List (List UInt8)}
    {k : Node (Recorded W)} {t : Session} (h : Delivery k t taken rest m)
    (hextends : n.transport.datastream.extend? s.dialogId frame = some k.transport.datastream)
    (hdialog : t.dialogId = s.dialogId + 1) (hchannel : t.channel = s.channel)
    (hwindow : k.listenWindow = n.listenWindow) (hsessions : k.sessions.pop = n.sessions.pop) :
    Delivery n s (frame :: taken) rest m := by
  cases h with
  | goesOn hphase => exact .goesOn hphase
  | misfits hmisfits hphase hpop =>
      refine .misfits (fun hfits => hmisfits ?_) hphase (hpop.trans hsessions)
      obtain ⟨d, hextends', hrest⟩ := Datastream.fits_cons.mp hfits
      obtain rfl := Option.some.inj (hextends.symm.trans hextends')
      rw [hdialog]
      exact hrest
  | refused _ hcalls hphase hpop =>
      rw [hchannel, hwindow] at hcalls
      exact .refused (List.cons_ne_nil _ _) hcalls hphase (hpop.trans hsessions)

/-- Of the frames that arrive the first ones are taken, and what they carry is appended to
the datastream. -/
theorem exists_delivery (custom : CustomApplets (Recorded W)) (h : n.Receives s)
    (hsegments : ∀ arrival ∈ arrivals, IsSegment arrival.2) :
    ∃ taken rest bytes, arrivals.map Prod.snd = taken ++ rest ∧ Carries s.dialogId taken bytes ∧
      (n.deliver custom arrivals).transport.datastream.bytes =
        n.transport.datastream.bytes ++ bytes ∧
      Delivery n s taken rest (n.deliver custom arrivals) := by
  induction arrivals generalizing n s with
  | nil => exact ⟨[], [], [], rfl, .nil, (List.append_nil _).symm, .goesOn h.phase⟩
  | cons arrival arrivals ih =>
      obtain ⟨env, frame⟩ := arrival
      have hfirst : n.deliver custom ((env, frame) :: arrivals) =
          (n.onFrame env.recorded frame true).deliver custom arrivals := rfl
      have harrives := h.arrives env (hsegments _ List.mem_cons_self)
      rw [hfirst]
      generalize n.onFrame env.recorded frame true = k at harrives ⊢
      cases harrives with
      | dropped hextends htransport hidle hpop =>
          rw [deliver_of_idle hidle]
          refine ⟨[], _, [], rfl, .nil, by rw [htransport, List.append_nil], ?_⟩
          refine .misfits (fun hfits => ?_) hidle hpop
          obtain ⟨d, hextends', -⟩ := Datastream.fits_cons.mp hfits
          cases hextends.symm.trans hextends'
      | last hextends hdatastream hcalls hidle hpop =>
          obtain ⟨payload, hsome, hbytes⟩ := Datastream.extend?_eq_some hextends
          rw [deliver_of_idle hidle]
          refine ⟨[frame], arrivals.map Prod.snd, payload ++ [], rfl, .cons hsome .nil, ?_,
            .refused (List.cons_ne_nil _ _) hcalls hidle hpop⟩
          rw [List.append_nil, hdatastream, hbytes]
      | taken hextends hdatastream hreceives hwindow hpop =>
          obtain ⟨payload, hsome, hbytes⟩ := Datastream.extend?_eq_some hextends
          obtain ⟨taken, rest, bytes, hsplit, hcarries, happended, hdelivery⟩ :=
            ih hreceives fun a ha => hsegments a (List.mem_cons_of_mem _ ha)
          refine ⟨frame :: taken, rest, payload ++ bytes, ?_, .cons hsome hcarries, ?_,
            hdelivery.cons (hdatastream ▸ hextends) rfl rfl hwindow hpop⟩
          · rw [List.map_cons, hsplit]
            rfl
          · rw [happended, hdatastream, hbytes, List.append_assoc]

/-- A dialog that waits for the segments of a datastream takes the first frames that
arrive, as long as they carry one dialog ID after the other and there is room for what they
carry, and exactly that is appended to what has been received before. It ends with the first
frame that it does not take, and nothing that arrives later is taken. It takes fewer only
when the radio refuses to listen again after one of them. -/
theorem takes_longest_fitting (custom : CustomApplets (Recorded W)) (h : n.Receives s)
    (hsegments : ∀ arrival ∈ arrivals, IsSegment arrival.2) :
    let frames := arrivals.map Prod.snd
    let m := n.deliver custom arrivals
    ∃ taken rest bytes, frames = taken ++ rest ∧ Carries s.dialogId taken bytes ∧
      m.transport.takeDatastream.1 = n.transport.datastream.bytes ++ bytes ∧
      (rest ≠ [] → m.phase = .idle ∧ m.sessions = n.sessions.pop) ∧
      ((∀ fitting, fitting <+: frames → n.transport.datastream.Fits s.dialogId fitting →
          fitting <+: taken) ∨
        taken ≠ [] ∧ m.phase = .idle ∧ m.sessions = n.sessions.pop ∧ ∃ calls,
          m.world.calls = .idle :: .listen s.channel n.listenWindow false :: calls) := by
  obtain ⟨taken, rest, bytes, hsplit, hcarries, happended, hdelivery⟩ :=
    exists_delivery custom h hsegments
  refine ⟨taken, rest, bytes, hsplit, hcarries, happended, ?_, ?_⟩
  · intro hrest
    cases hdelivery with
    | goesOn _ => exact absurd rfl hrest
    | misfits _ hphase hpop | refused _ _ hphase hpop => exact ⟨hphase, hpop⟩
  · rw [hsplit]
    cases hdelivery with
    | goesOn _ =>
        rw [List.append_nil]
        exact .inl fun _ hfirst _ => hfirst
    | refused htaken hcalls hphase hpop => exact .inr ⟨htaken, hphase, hpop, _, hcalls⟩
    | @misfits _ frame later hmisfits _ _ =>
        have hnext : taken ++ [frame] <+: taken ++ frame :: later := ⟨later, by simp⟩
        refine .inl fun fitting hfirst hfits => ?_
        rcases List.prefix_or_prefix_of_prefix hfirst hnext with hwithin | ⟨more, rfl⟩
        · rcases List.prefix_concat_iff.mp hwithin with rfl | htaken
          · exact absurd hfits hmisfits
          · exact htaken
        · exact absurd hfits.of_append hmisfits

end Delivery

/-- A frame with a segment of one byte. -/
def segmentFrame (dialogId byte : UInt8) : List UInt8 :=
  [0x08, 0x00, 0xF0, 0x01, dialogId, byte, 0x00, 0x00]

theorem isSegment_segmentFrame (dialogId byte : UInt8) :
    IsSegment (segmentFrame dialogId byte) := by
  rintro _ ⟨⟩
  decide

/-- A node that waits for the segments of a datastream. -/
def streaming : Node (Recorded Unit) :=
  ((start .default ⟨(), []⟩).step Environment.obliging.recorded callingApplets
    (.schedule none 0 0xF0 0x10
      { substate := .requestRx, connected := true, datastream := true })).step
        Environment.obliging.recorded callingApplets (.run 0)

theorem receives_streaming : streaming.Receives
    { counter := 0, channel := 0x10
      netState := { substate := .requestRx, connected := true, datastream := true }
      flags := .none, dialogId := 0, subnet := 0xF0, extra := 0, applet := none } :=
  ⟨by decide +kernel, by decide +kernel, rfl, rfl, rfl, rfl⟩

/-- Once a segment has been lost, no later one is taken. -/
theorem takes_longest_fitting_lost :
    let arrivals := [segmentFrame 1 0x61, segmentFrame 2 0x62, segmentFrame 4 0x64,
      segmentFrame 3 0x63].map (Environment.obliging, ·)
    let m := streaming.deliver callingApplets arrivals
    ∃ taken rest, arrivals.map Prod.snd = taken ++ rest ∧ Carries 0 taken [0x61, 0x62] ∧
      m.transport.takeDatastream.1 = [0x61, 0x62] ∧ m.phase = .idle := by
  intro arrivals m
  have hsegments : ∀ arrival ∈ arrivals, IsSegment arrival.2 := by
    intro arrival harrival
    obtain ⟨frame, hframe, rfl⟩ := List.mem_map.mp harrival
    simp only [List.mem_cons, List.not_mem_nil, or_false] at hframe
    rcases hframe with rfl | rfl | rfl | rfl <;> exact isSegment_segmentFrame _ _
  obtain ⟨taken, rest, bytes, hsplit, hcarries, happended, -⟩ :=
    takes_longest_fitting callingApplets receives_streaming hsegments
  have hbytes : m.transport.takeDatastream.1 = [0x61, 0x62] := by decide +kernel
  obtain rfl : bytes = [0x61, 0x62] := happended.symm.trans hbytes
  exact ⟨taken, rest, hsplit, hcarries, hbytes, by decide +kernel⟩

/-- Segments that fit are not taken when the radio refuses to listen again, and not by a
dialog that has sent a request: that one expects the same dialog ID again. -/
theorem fitting_not_taken :
    (∃ (n : Node (Recorded Unit)) (s : Session),
      Reaches callingApplets (fun env _ => ∃ plain : Environment Unit, env = plain.recorded)
        (start .default ⟨(), []⟩) n ∧
      n.Receives s ∧ s.dialogId = 0 ∧ n.transport.datastream = .empty ∧
      let m := n.deliver callingApplets
        [(.refusing, segmentFrame 1 0x61), (.obliging, segmentFrame 2 0x62)]
      m.phase = .idle ∧ m.transport.takeDatastream.1 = [0x61]) ∧
    (∃ (n : Node (Recorded Unit)) (s : Session),
      Reaches callingApplets (fun env _ => ∃ plain : Environment Unit, env = plain.recorded)
        (start .default ⟨(), []⟩) n ∧
      n.phase = .listening ∧ n.sessions.top? = some s ∧ s.netState.connected = true ∧
      s.netState.datastream = true ∧ s.netState.scrapped = false ∧ s.dialogId = 0 ∧
      n.transport.datastream = .empty ∧
      let m := n.deliver callingApplets
        [(.obliging, segmentFrame 1 0x61), (.obliging, segmentFrame 2 0x62)]
      m.phase = .idle ∧ m.transport.takeDatastream.1 = [0x61]) ∧
    Datastream.empty.Fits 0 [segmentFrame 1 0x61, segmentFrame 2 0x62] := by
  refine ⟨⟨streaming, _, .step (.step .refl ⟨_, rfl⟩) ⟨_, rfl⟩, receives_streaming, rfl,
    by decide +kernel, by decide +kernel, by decide +kernel⟩, ?_, ?_⟩
  · let request : NetState := { substate := .requestTx, connected := true, datastream := true }
    let env : Environment (Recorded Unit) := Environment.obliging.recorded
    let s : Session :=
      { counter := 0, channel := 0x10
        netState := { request with substate := .responseRx, listening := true }
        flags := .none, dialogId := 0, subnet := 0xF0, extra := 0, applet := none }
    refine ⟨(calling request).step env callingApplets (.event (.sent true)), s, ?_,
      by decide +kernel, by decide +kernel, rfl, rfl, rfl, rfl, by decide +kernel,
      by decide +kernel, by decide +kernel⟩
    exact .step (.step (.step (.step .refl ⟨_, rfl⟩) ⟨_, rfl⟩) ⟨_, rfl⟩) ⟨_, rfl⟩
  · exact ⟨[0x61] ++ ([0x62] ++ []), .cons rfl (.cons rfl .nil), by decide⟩

end Node

end Mode2
