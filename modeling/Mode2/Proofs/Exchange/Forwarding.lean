import Mode2.Proofs.Environment.Accesses
import Mode2.Proofs.Environment.Trace
import Mode2.Proofs.Exchange.HeaderFields
import Mode2.Proofs.Exchange.ReturnRoute

/-!
# Frames for other devices

A frame whose routing block names another device goes to the router, with its route and with
everything that follows the routing block, if this device takes part in routing. Any other
frame goes to the transport layer, and the router does not hear of it.
-/

namespace Mode2

variable {W : Type}

/-- What the router is handed. -/
def PortCall.handedOn? : PortCall → Option (Route × List UInt8)
  | .route r bytes => some (r, bytes)
  | _ => none

namespace Traced

/-- From one world to the other the router has been handed these frames, one after the other. -/
def HandsOn (frames : List (Route × List UInt8)) : Traced W → Traced W → Prop :=
  Between fun calls => calls.filterMap PortCall.handedOn? = frames

theorem HandsOn.trans {frames frames' : List (Route × List UInt8)} {t t' t'' : Traced W}
    (h : HandsOn frames t t') (h' : HandsOn frames' t' t'') :
    HandsOn (frames ++ frames') t t'' := by
  obtain ⟨calls, htrace, rfl⟩ := h
  obtain ⟨calls', htrace', rfl⟩ := h'
  exact ⟨calls ++ calls', by rw [htrace', htrace, List.append_assoc], List.filterMap_append⟩

theorem handsOn_none_composes : Composes (HandsOn (W := W) []) :=
  between_composes rfl fun h h' => by rw [List.filterMap_append, h, h', List.append_nil]

/-- Whatever else the world is asked for, nothing is handed on. -/
theorem handsOn_noting {α : Type} (call : α → PortCall)
    (h : ∀ answer, (call answer).handedOn? = none) (operation : StateM W α) (t : Traced W) :
    HandsOn [] t (noting call operation t).2 :=
  between_noting (fun answer => List.filterMap_cons_none (h answer)) operation t

theorem handsOn_route (route : Route) (bytes : List UInt8) (operation : StateM W Score)
    (t : Traced W) :
    HandsOn [(route, bytes)] t (noting (fun _ => .route route bytes) operation t).2 := by
  refine between_noting ?_ operation t
  intro _
  rfl

/-- Visiting files hands nothing on. -/
theorem handsOn_of_accesses {env : Environment W} {t t' : Traced W}
    (h : env.traced.Accesses t t') : HandsOn [] t t' := by
  induction h with
  | refl => exact handsOn_none_composes.refl t
  | openFile id user _ ih =>
      exact ih.trans (handsOn_noting (fun answer : Except FileError Handle =>
        .openFile id .read user answer.toOption) (fun _ => rfl) _ _)
  | length file _ ih => exact ih.trans (handsOn_noting (fun _ => .length file) (fun _ => rfl) _ _)
  | modifiers file _ ih =>
      exact ih.trans (handsOn_noting (fun _ => .modifiers file) (fun _ => rfl) _ _)
  | read file offset _ ih =>
      exact ih.trans (handsOn_noting (fun _ => .read file offset) (fun _ => rfl) _ _)
  | close file _ ih => exact ih.trans (handsOn_noting (fun _ => .close file) (fun _ => rfl) _ _)

end Traced

namespace Exchange

open Traced

/-- Only what is known of the dialog and of the frame has changed, and nothing has been handed
on. -/
structure OnlyHears (x y : Exchange (Traced W)) : Prop where
  transport : y.transport = x.transport
  access : y.access = x.access
  outbound : y.network.outbound = x.network.outbound
  handsOn : HandsOn [] x.world y.world

theorem onlyHears_composes : Composes (OnlyHears (W := W)) where
  refl x := ⟨rfl, rfl, rfl, handsOn_none_composes.refl x.world⟩
  trans h h' :=
    { transport := h'.transport.trans h.transport
      access := h'.access.trans h.access
      outbound := h'.outbound.trans h.outbound
      handsOn := h.handsOn.trans h'.handsOn }

theorem readsHeader_onlyHears (env : Environment W) : ReadsHeader env.traced OnlyHears where
  toComposes := onlyHears_composes
  inbound x _ := ⟨rfl, rfl, rfl, handsOn_none_composes.refl x.world⟩
  header x _ _ _ := ⟨rfl, rfl, rfl, handsOn_none_composes.refl x.world⟩
  dialog x _ _ _ _ := ⟨rfl, rfl, rfl, handsOn_none_composes.refl x.world⟩
  decrypt cipher hcipher key bytes x := by
    obtain ⟨plain, -, rfl⟩ := Option.map_eq_some_iff.mp hcipher
    exact ⟨rfl, rfl, rfl, handsOn_noting (fun _ => .decrypt key bytes) (fun _ => rfl) _ x.world⟩

/-- The transport layer hands nothing on. -/
theorem handlesData_handsOn (env : Environment W) :
    HandlesData env.traced fun x y => HandsOn [] x.world y.world where
  refl x := handsOn_none_composes.refl x.world
  trans h h' := h.trans h'
  network x _ := handsOn_none_composes.refl x.world
  transport x _ _ := handsOn_none_composes.refl x.world
  session x _ _ _ := handsOn_none_composes.refl x.world
  access x _ _ := handsOn_none_composes.refl x.world
  response x _ _ := handsOn_none_composes.refl x.world
  answer user call queue _ := handsOn_of_accesses (Environment.accesses_answer user call queue)
  query user template target _ :=
    handsOn_of_accesses (Environment.accesses_query user template target)
  complete x := by
    refine NetworkLayer.encrypts_complete handsOn_none_composes.refl ?_ x.network x.world
    intro cipher hcipher key bytes t
    obtain ⟨plain, -, rfl⟩ := Option.map_eq_some_iff.mp hcipher
    exact handsOn_noting (fun _ => .encrypt key bytes) (fun _ => rfl) _ t
  datagrams deliver hdeliver id source destination bytes x := by
    obtain ⟨plain, -, rfl⟩ := Option.map_eq_some_iff.mp hdeliver
    exact handsOn_noting (fun _ => .deliver id source destination bytes) (fun _ => rfl) _ x.world

end Exchange

/-- The frame is on its way to another device, and this one takes part in routing. -/
def NetworkFrame.LeadsOn (f : NetworkFrame) (c : Config) : Prop :=
  c.multihop = true ∧ ∃ route id, f.route = some route ∧ route.destination = some id ∧
    c.isNamedBy id.bytes = false

namespace Exchange

open Traced

variable {env : Environment W} {c : Config} {x y : Exchange (Traced W)}

/-- Handing a frame on changes nothing but the world that the router belongs to. -/
theorem exists_world_forward (env : Environment W) (y : Exchange W) :
    ∃ w, (y.forward env).2 = { y with world := w } := by
  unfold forward
  split
  · exact ⟨y.world, rfl⟩
  · exact ⟨_, rfl⟩

/-- The router is handed the frame as it stands, and judges it. -/
theorem handsOn_forward {judge : Route → List UInt8 → StateM W Score}
    (hrouter : env.router = some judge) (y : Exchange (Traced W)) :
    (y.forward env.traced).1 = (judge y.network.route y.network.inbound.unread y.world.world).1 ∧
    HandsOn [(y.network.route, y.network.inbound.unread)] y.world
      (y.forward env.traced).2.world := by
  have heq : y.forward env.traced =
      let result := noting (fun _ => .route y.network.route y.network.inbound.unread)
        (judge y.network.route y.network.inbound.unread) y.world
      (result.1, { y with world := result.2 }) := by
    simp only [forward, Environment.traced, hrouter, Option.map_some]
  rw [heq]
  exact ⟨rfl, handsOn_route _ _ _ y.world⟩

theorem forward_of_no_router (hrouter : env.router = none) (y : Exchange (Traced W)) :
    y.forward env.traced = (.rejected, y) := by
  simp only [forward, Environment.traced, hrouter, Option.map_none]

/-- A frame leads on exactly when its header sends it to the router. -/
theorem leadsOn_iff (f : NetworkFrame) :
    f.LeadsOn c ↔ HeaderM.destinationOf c (f.route.getD {}) = .forward := by
  rcases destinationOf_cases c (f.route.getD {}) with ⟨hforward, hmultihop, id, hid, hother⟩ |
    ⟨hlocal, hours⟩
  · refine iff_of_true ⟨hmultihop, ?_⟩ hforward
    cases hroute : f.route with
    | none =>
        rw [hroute] at hid
        cases hid
    | some route =>
        rw [hroute] at hid
        exact ⟨route, id, rfl, hid, hother⟩
  · refine iff_of_false ?_ (by rw [hlocal]; exact nofun)
    rintro ⟨hmultihop, route, id, hroute, hid, hother⟩
    have hnamed := hours id hmultihop (by rw [hroute]; exact hid)
    rw [hother] at hnamed
    cases hnamed

/-- What becomes of a frame that passes the checks of its header and continues no datastream.
It is on its way to another device: then the dialog's layers and the outgoing frame stay as
they are, and the router, if there is one, is handed the frame's route and everything after
its routing block exactly once, and judges it. Or it is not: then the router is not called and
the transport layer goes on with the data after the header. -/
theorem forwards_what_leads_on (env : Environment W) (c : Config) {x y : Exchange (Traced W)}
    {destination : Destination}
    (hread : (HeaderM.read env.traced c).run x = .ok destination y)
    (hnetwork : destination ≠ .datastream) :
    let z := x.receive env.traced c
    ∃ f : NetworkFrame, f.WellFormed ∧ f.IsIn env.traced x ∧ f.IsKept y ∧
      (f.LeadsOn c → z.2.transport = x.transport ∧ z.2.access = x.access ∧
        z.2.network.outbound = x.network.outbound ∧
        (env.router = none → z.1 = .rejected ∧ HandsOn [] x.world z.2.world) ∧
        ∀ judge ∈ env.router, ∃ route, f.route = some route ∧
          z.1 = (judge route f.payload y.world.world).1 ∧
          HandsOn [(route, f.payload)] x.world z.2.world) ∧
      (¬f.LeadsOn c → z = y.dispatch env.traced c ∧ HandsOn [] x.world z.2.world) := by
  intro z
  obtain ⟨f, hwell, hin, hkept, hdestination⟩ := HeaderM.exists_fields_of_read hread hnetwork
  have hhears : OnlyHears x y := ((readsHeader_onlyHears env).moves_read c x).of_ok hread
  refine ⟨f, hwell, hin, hkept, fun hleads => ?_, fun hhome => ?_⟩
  · have hforward : z = y.forward env.traced := by
      rw [(leadsOn_iff f).mp hleads] at hdestination
      simp only [z, receive, hread, hdestination]
    obtain ⟨-, route, id, hroute, -, -⟩ := hleads
    have hparsed : y.network.route = route := by rw [hkept.route, hroute, Option.getD_some]
    obtain ⟨w, hworld⟩ := exists_world_forward env.traced y
    rw [hforward]
    refine ⟨?_, ?_, ?_, ?_, ?_⟩
    · rw [hworld]
      exact hhears.transport
    · rw [hworld]
      exact hhears.access
    · rw [hworld]
      exact hhears.outbound
    · intro hnone
      rw [forward_of_no_router hnone]
      exact ⟨rfl, hhears.handsOn⟩
    · intro judge hjudge
      obtain ⟨hscore, hhands⟩ := handsOn_forward hjudge y
      rw [hparsed, hkept.payload] at hscore hhands
      exact ⟨route, hroute, hscore, hhears.handsOn.trans hhands⟩
  · have hlocal : destination = .local := by
      rcases destinationOf_cases c (f.route.getD {}) with ⟨hforward, -⟩ | ⟨hlocal, -⟩
      · exact absurd ((leadsOn_iff f).mpr hforward) hhome
      · rw [hdestination, hlocal]
    have hdispatch : z = y.dispatch env.traced c := by
      rw [hlocal] at hread
      exact receive_of_local hread
    have hdata : HandsOn [] y.world (y.dispatch env.traced c).2.world :=
      ExchangeM.score_of_ends ((handlesData_handsOn env).moves_handleData c y)
    refine ⟨hdispatch, ?_⟩
    rw [hdispatch]
    exact hhears.handsOn.trans hdata

/-- A frame that is on its way from one device to another passes this one, whose router judges
it by its length. -/
theorem forwards_what_leads_on_between_devices :
    let env : Environment Unit :=
      { Environment.obliging with router := some fun _ bytes w => (bytes.length, w) }
    let c : Config := { Config.default with identity.vid := #v[0x12, 0x34], multihop := true }
    let frame : List UInt8 := [0x11, 0x7F, 0xF0, 0x1A, 0x80, 0x05, 0xAA, 0xBB, 0x62, 0xAA, 0xBB,
      0x99, 0x99, 0x28, 0x00, 0x00, 0x00]
    let x : Exchange (Traced Unit) :=
      ⟨⟨.initial 5, { inbound := ⟨[], frame, 256, by decide, by decide⟩ }, {}, ⟨(), []⟩⟩,
        ⟨0, 0x10, { substate := .requestRx }, .none, 0, 0xF0, 0, none⟩⟩
    let route : Route :=
      { hopCode := 0x62, origin := some (.ofVirtual #v[0xAA, 0xBB])
        destination := some (.ofVirtual #v[0x99, 0x99]) }
    (∃ y, (HeaderM.read env.traced c).run x = .ok .forward y) ∧
      (x.receive env.traced c).1 = 2 ∧
      HandsOn [(route, [0x28, 0x00])] x.world (x.receive env.traced c).2.world := by
  intro env c frame x route
  let y : Exchange (Traced Unit) :=
    ⟨⟨.initial 5,
        { inbound := ⟨frame.take 13, [0x28, 0x00], 256, by decide, by decide⟩
          peer := .ofVirtual #v[0xAA, 0xBB]
          route := route
          header := { subnet := 0xF0, info := .ofByte 0x1A, extension := 0x80, dialogId := 5 } },
        {}, ⟨(), []⟩⟩,
      ⟨0, 0x10, { substate := .requestRx, connected := true },
        { virtualIds := true, route := true }, 5, 0xF0, 0, none⟩⟩
  have hread : (HeaderM.read env.traced c).run x = .ok .forward y := by
    with_unfolding_all rfl
  obtain ⟨f, -, -, hkept, hleads, -⟩ := forwards_what_leads_on env c hread nofun
  have hpayload : f.payload = [0x28, 0x00] := hkept.payload.symm
  have hforeign : f.LeadsOn c := by
    rw [leadsOn_iff, ← hkept.route]
    decide
  obtain ⟨-, -, -, -, hjudged⟩ := hleads hforeign
  obtain ⟨route', hroute, hscore, hhands⟩ := hjudged _ rfl
  have hsame : route' = route := by
    have hparsed := hkept.route
    rw [hroute, Option.getD_some] at hparsed
    exact hparsed.symm
  rw [hpayload] at hscore hhands
  rw [hsame] at hhands
  exact ⟨⟨y, hread⟩, hscore, hhands⟩

end Exchange

end Mode2
