import Mode2.Proofs.Exchange.Undisturbed
import Mode2.Proofs.Node.Run

/-!
# What applets do

The built-in applets keep to what applets are for: the dialog stays due when it was,
other dialogs are only added, and the radio is left to the node.
-/

namespace Mode2

variable {W V : Type} {env : Environment W} {view : W → V}

namespace CarriesOut

open Exchange

variable {R : Exchange W → Exchange W → Prop}

theorem moves_beginBroadcast (h : CarriesOut env R) (c : Config) :
    Moves R (beginBroadcast c : ExchangeM W Error Unit) := by
  intro x
  unfold Ends beginBroadcast
  dsimp only [EStateM.run]
  cases hstage : x.network.stageHeader c x.session .broadcast false with
  | error cause => exact h.refl x
  | ok staged =>
      obtain ⟨s, n⟩ := staged
      obtain rfl := NetworkLayer.session_stageHeader hstage
      have hadvanced := h.session x _ (Session.slot_advanceDialog _)
        (Session.mayFollow_advanceDialog _)
      exact h.trans hadvanced (h.network _ n)

theorem moves_appendOutbound (h : CarriesOut env R) (writer : QueueM Unit) :
    Moves R (appendOutbound writer : ExchangeM W Error Unit) := by
  intro x
  unfold Ends appendOutbound
  dsimp only [EStateM.run]
  cases writer x.network.outbound with
  | ok _ outbound => exact h.network x { x.network with outbound }
  | error cause outbound => exact h.network x { x.network with outbound }

theorem moves_appendAnnouncement (h : CarriesOut env R) (c : Config) :
    Moves R (appendAnnouncement env c) := by
  intro x
  have hworld := h.answer .guest (Call.ofFile c.beacon.file c.beacon.maxBytes)
    x.network.outbound x
  unfold Ends appendAnnouncement
  dsimp only [EStateM.run]
  cases hresult : env.answer .guest (Call.ofFile c.beacon.file c.beacon.maxBytes)
      x.network.outbound x.world with
  | mk result w =>
      rw [hresult] at hworld
      obtain ⟨score, outbound⟩ := result
      have happended := h.trans hworld (h.network _ { x.network with outbound })
      dsimp only
      by_cases hfile : score = .fileError
      · rw [if_pos hfile]
        exact happended
      · rw [if_neg hfile]
        by_cases hscore : score < 0
        · rw [if_pos hscore]
          exact happended
        · rw [if_neg hscore]
          exact happended

theorem moves_completeFrame (h : CarriesOut env R) : Moves R (completeFrame env) := by
  intro x
  have hworld := h.complete x
  unfold Ends completeFrame
  dsimp only [EStateM.run]
  cases hresult : x.network.complete env.cipher x.world with
  | mk result w =>
      rw [hresult] at hworld
      obtain ⟨outcome, network⟩ := result
      have hcompleted := h.trans hworld (h.network _ network)
      cases outcome with
      | error cause => exact hcompleted
      | ok _ => exact hcompleted

/-- Staging a beacon changes no more than carrying out a request. -/
theorem moves_stageBeacon (h : CarriesOut env R) (c : Config) : Moves R (stageBeacon env c) := by
  have hR := h.toComposes
  refine .bind hR (h.moves_beginBroadcast c) fun _ => ?_
  refine .bind hR (h.moves_appendOutbound _) fun _ => ?_
  exact .bind hR (h.moves_appendAnnouncement c) fun _ => h.moves_completeFrame

end CarriesOut

theorem Exchange.kept_stageBeacon (h : env.OnlyRadio view) (c : Config) :
    Moves (Kept view) (stageBeacon env c) :=
  (receivesFrame_kept h).moves_stageBeacon c

namespace Applet

open Node

theorem effect_idle (s : Session) (n : Node W) : Effect s n (runIdle s n) := by
  unfold runIdle
  split <;> exact ⟨rfl, .refl⟩

theorem effect_scan (s : Session) (n : Node W) : Effect s n (runScan s n) :=
  ⟨rfl, .refl⟩

/-- The next beacon is scheduled when there is a slot for it. -/
theorem scheduleNextBeacon_eq (n : Node W) :
    ∃ sessions, n.sessions.Schedules sessions ∧ scheduleNextBeacon n = { n with sessions } := by
  unfold scheduleNextBeacon
  split
  · exact n.accept_schedule _ _ _ _ _
  · exact ⟨n.sessions, .refl, rfl⟩

theorem effect_beacon (env : Environment W) (s : Session) (n : Node W) :
    Effect s n (runBeacon env s n) := by
  obtain ⟨sessions, hschedules, heq⟩ := scheduleNextBeacon_eq n
  have hkept := Exchange.kept_stageBeacon env.onlyRadio_unit n.config
    (({ n with sessions } : Node W).exchange (beaconSession n.config s))
  unfold runBeacon
  rw [heq]
  dsimp only
  split
  next x hrun =>
    have hcounter := Session.counter_of_slot (hkept.of_ok hrun).slot
    exact ⟨hcounter, hschedules⟩
  next cause x hrun =>
    have hcounter := Session.counter_of_slot (hkept.of_error hrun).slot
    exact ⟨hcounter, hschedules⟩

/-- Every applet keeps to what applets are for, if those of the host do. -/
theorem effect_run {custom : CustomApplets W} (hcustom : custom.Disciplined)
    (env : Environment W) (applet : Applet) (s : Session) (n : Node W) :
    Effect s n (applet.run env custom s n) := by
  cases applet with
  | idle => exact effect_idle s n
  | scan => exact effect_scan s n
  | beacon => exact effect_beacon env s n
  | custom id => exact hcustom id s n

theorem keepsDialogs_run {custom : CustomApplets W} (hcustom : custom.KeepsDialogs)
    (env : Environment W) (applet : Applet) (s : Session) (n : Node W)
    (h : n.sessions.sessions ≠ []) : (applet.run env custom s n).2.sessions.sessions ≠ [] := by
  cases applet with
  | idle => exact (effect_idle s n).sessions.grows.ne_nil h
  | scan => exact (effect_scan s n).sessions.grows.ne_nil h
  | beacon => exact (effect_beacon env s n).sessions.grows.ne_nil h
  | custom id => exact hcustom id s n h

end Applet

end Mode2
