import Mode2.Proofs.Environment.View
import Mode2.Proofs.Exchange.Overlooking
import Mode2.Proofs.Exchange.Sender
import Mode2.Proofs.File.Table
import Mode2.Proofs.Network.Received
import Mode2.Proofs.Query.Discreet

/-!
# Frames do not tell what their sender may not read

A frame acts on behalf of a member of the network when it is secured, and of a guest
otherwise. What processing it answers, stages and changes, and which files it opens and
closes, depends only on the files that this user may read.
-/

namespace Mode2

variable {D C V ε α : Type}

/-- The exchange in the same world with other contents. -/
def Exchange.withContents (contents : C) (x : Exchange (Archived D C V)) :
    Exchange (Archived D C V) :=
  { x with world := x.world.withContents contents }

namespace Archive

variable {archive : Archive D C} {outside : Environment V} {start : D} {contents hidden : C}
  {Q : Header → Prop}

/-- An exchange on the way, of whose header `Q` holds. -/
def ServesExchange (archive : Archive D C) (start : D) (contents : C) (Q : Header → Prop)
    (x : Exchange (Archived D C V)) : Prop :=
  archive.Serves start contents x.world ∧ Q x.network.header

/-- Steps that do the same whichever of the two contents the files have. -/
abbrev DiscreetSteps (archive : Archive D C) (start : D) (contents hidden : C) (Q : Header → Prop)
    (steps : ExchangeM (Archived D C V) ε α) : Prop :=
  Overlooks (Exchange.withContents hidden) (archive.ServesExchange start contents Q) steps

/-! ## Single steps -/

theorem discreet_inbound (ending : ε) (reader : QueueM α) :
    archive.DiscreetSteps (V := V) start contents hidden Q (ExchangeM.inbound ending reader) := by
  intro x hx
  unfold Ends ExchangeM.inbound Exchange.withContents
  dsimp only [EStateM.run]
  cases reader x.network.inbound with
  | ok value queue => exact ⟨rfl, hx⟩
  | error cause queue => exact ⟨rfl, hx⟩

theorem discreet_modifyNetwork {change : NetworkLayer → NetworkLayer}
    (h : ∀ n : NetworkLayer, Q n.header → Q (change n).header) :
    archive.DiscreetSteps (V := V) (ε := ε) start contents hidden Q
      (ExchangeM.modifyNetwork change) :=
  fun x hx => ⟨rfl, hx.1, h x.network hx.2⟩

theorem discreet_perform {operation : StateM (Archived D C V) α}
    (h : archive.Discreet start contents hidden operation) :
    archive.DiscreetSteps (ε := ε) start contents hidden Q (ExchangeM.perform operation) := by
  intro x hx
  obtain ⟨answer, after, hrun, hrun', hafter⟩ := h x.world hx.1
  unfold Ends ExchangeM.perform Exchange.withContents
  dsimp only [EStateM.run]
  rw [hrun, hrun']
  exact ⟨rfl, hafter, hx.2⟩

theorem overlooksFrame_withContents :
    OverlooksFrame (Exchange.withContents (V := V) hidden)
      (archive.ServesExchange start contents Q) where
  session _ := rfl
  inbound ending reader _ := discreet_inbound ending reader
  modifySession _ _ hx := ⟨rfl, hx⟩

/-! ## Headers -/

theorem discreet_openFrame :
    archive.DiscreetSteps (V := V) start contents hidden Q HeaderM.openFrame := by
  refine .get_bind (fun _ => rfl) fun x _ => ?_
  dsimp only
  split
  · exact .throw _
  · split
    · exact .bind (.throw _) fun _ => discreet_inbound _ _
    · exact discreet_inbound _ _

theorem discreet_decryptRest :
    archive.DiscreetSteps start contents hidden Q
      (HeaderM.decryptRest (archive.serve outside)) := by
  refine .bind (discreet_inbound _ _) fun keyIndex => ?_
  split
  · exact .throw _
  next cipher hcipher =>
    obtain ⟨outer, -, rfl⟩ := Option.map_eq_some_iff.mp hcipher
    refine .get_bind (fun _ => rfl) fun x _ => ?_
    refine .bind (discreet_perform (discreet_beside _)) fun out => ?_
    refine .bind (discreet_modifyNetwork fun _ => id) fun _ => ?_
    exact .ite (.pure _) (.throw _)

theorem overlooksHeader_withContents :
    OverlooksHeader (archive.serve outside) (Exchange.withContents hidden)
      (archive.ServesExchange start contents fun _ => True) where
  toOverlooksFrame := overlooksFrame_withContents
  peer _ := discreet_modifyNetwork fun _ => id
  header _ := discreet_modifyNetwork fun _ => id
  route _ := discreet_modifyNetwork fun _ => id
  decryptRest := discreet_decryptRest

theorem discreet_read (c : Config) :
    archive.DiscreetSteps start contents hidden (fun _ => True)
      (HeaderM.read (archive.serve outside) c) :=
  .bind discreet_openFrame fun _ => overlooksHeader_withContents.readOpened c

/-! ## Responses -/

theorem discreet_beginResponse (c : Config) :
    archive.DiscreetSteps (V := V) start contents hidden Q (Exchange.beginResponse c) := by
  intro x hx
  unfold Ends Exchange.beginResponse Exchange.withContents
  dsimp only [EStateM.run]
  cases hstage : x.network.stageHeader c x.session .unicast
      (x.transport.command.has Command.nackBit) with
  | error cause => exact ⟨rfl, hx⟩
  | ok staged =>
      obtain ⟨s, n⟩ := staged
      have hheader : Q n.header := (NetworkLayer.sameReceived_stageHeader hstage).header ▸ hx.2
      dsimp only
      cases n.outbound.push (Command.responseCode ||| x.transport.command.operation) with
      | error cause => exact ⟨rfl, hx.1, hheader⟩
      | ok outbound => exact ⟨rfl, hx.1, hheader⟩

/-- A body that is the same whichever of the two contents the files have. -/
def DiscreetBody (archive : Archive D C) (start : D) (contents hidden : C)
    (body : ResponseBody (Archived D C V)) : Prop :=
  ∀ queue, archive.Discreet start contents hidden (body queue)

theorem discreet_appendBody {body : ResponseBody (Archived D C V)}
    (hbody : archive.DiscreetBody start contents hidden body) :
    archive.DiscreetSteps start contents hidden Q (Exchange.appendBody body) := by
  intro x hx
  obtain ⟨⟨score, queue⟩, after, hrun, hrun', hafter⟩ := hbody x.network.outbound x.world hx.1
  unfold Ends Exchange.appendBody Exchange.withContents
  dsimp only [EStateM.run]
  rw [hrun, hrun']
  dsimp only
  by_cases hscore : score < 0
  · rw [if_pos hscore, if_pos hscore]
    exact ⟨rfl, hafter, hx.2⟩
  · rw [if_neg hscore, if_neg hscore]
    exact ⟨rfl, hafter, hx.2⟩

theorem discreet_complete (n : NetworkLayer) :
    archive.Discreet start contents hidden (n.complete (archive.serve outside).cipher) := by
  have hregion : archive.Discreet start contents hidden
      (n.encryptRegion (archive.serve outside).cipher) := by
    intro w hw
    unfold NetworkLayer.encryptRegion
    split
    · exact ⟨_, _, rfl, rfl, hw⟩
    · exact ⟨_, _, rfl, rfl, hw⟩
    next secured cipher _ hcipher =>
      obtain ⟨outer, -, rfl⟩ := Option.map_eq_some_iff.mp hcipher
      split
      · exact ⟨_, _, rfl, rfl, hw⟩
      · exact ⟨_, _, rfl, rfl, hw.leads, hw.contents_eq⟩
  intro w hw
  obtain ⟨⟨outcome, m⟩, after, hrun, hrun', hafter⟩ := hregion w hw
  unfold NetworkLayer.complete
  rw [hrun, hrun']
  cases outcome with
  | error cause => exact ⟨_, _, rfl, rfl, hafter⟩
  | ok _ =>
      dsimp only
      cases m.appendFooter with
      | error cause => exact ⟨_, _, rfl, rfl, hafter⟩
      | ok m => exact ⟨_, _, rfl, rfl, hafter⟩

theorem discreet_endResponse :
    archive.DiscreetSteps start contents hidden Q
      (Exchange.endResponse (archive.serve outside)) := by
  intro x hx
  have hcomplete : archive.Discreet start contents hidden
      (x.network.complete (archive.serve outside).cipher) := discreet_complete x.network
  obtain ⟨⟨outcome, m⟩, after, hrun, hrun', hafter⟩ := hcomplete x.world hx.1
  have hheader : Q m.header := by
    have h := (x.network.sameReceived_complete (archive.serve outside).cipher x.world).header
    rw [hrun] at h
    exact h ▸ hx.2
  unfold Ends Exchange.endResponse Exchange.withContents
  dsimp only [EStateM.run]
  rw [hrun, hrun']
  cases outcome with
  | error cause => exact ⟨rfl, hafter, hheader⟩
  | ok _ => exact ⟨rfl, hafter, hheader⟩

/-! ## Whole frames -/

variable {user : User}

theorem overlooksData_withContents (halike : archive.AlikeFor start user.readBit contents hidden)
    (c : Config) :
    OverlooksData (archive.serve outside) c user (Exchange.withContents hidden)
      (archive.ServesExchange start contents fun header => header.user = user) where
  toOverlooksFrame := overlooksFrame_withContents
  transport _ := rfl
  peer _ := rfl
  unread _ := rfl
  sender _ := rfl
  acts _ hx := hx.2
  modifyTransport _ _ hx := ⟨rfl, hx⟩
  modifyAccess _ _ hx := ⟨rfl, hx⟩
  query template target := discreet_perform (discreet_query halike template target)
  deliver deliver hdeliver _ _ _ _ := by
    obtain ⟨outer, -, rfl⟩ := Option.map_eq_some_iff.mp hdeliver
    exact discreet_perform (discreet_beside _)
  beginResponse := discreet_beginResponse c
  appendNone := discreet_appendBody fun _ _ hw => ⟨_, _, rfl, rfl, hw⟩
  appendAnswer call := discreet_appendBody fun queue => discreet_answer halike call queue
  endResponse := discreet_endResponse

theorem continueDatastream_withContents (x : Exchange (Archived D C V)) :
    (x.withContents hidden).continueDatastream =
      (x.continueDatastream.1, x.continueDatastream.2.withContents hidden) := by
  unfold Exchange.continueDatastream Exchange.withContents
  dsimp only
  split
  · split <;> rfl
  · rfl

/-- The router is outside of the archive. -/
theorem forward_withContents (x : Exchange (Archived D C V)) :
    (x.withContents hidden).forward (archive.serve outside) =
      ((x.forward (archive.serve outside)).1,
        (x.forward (archive.serve outside)).2.withContents hidden) := by
  unfold Exchange.forward serve
  cases outside.router <;> rfl

/-- What a frame comes to, and what it leaves, does not depend on files that its sender may
not read. With other contents in such files, lengths included, processing the frame ends
with the same score, and in the same session, layers, directory and surroundings, after the
same files were opened and closed in the same order: only the contents are the others. -/
theorem receive_withContents (archive : Archive D C) (outside : Environment V) (c : Config)
    (x : Exchange (Archived D C V)) (hidden : C)
    (halike : archive.AlikeFor x.world.directory x.network.inbound.sender.readBit
      x.world.contents hidden) :
    (x.withContents hidden).receive (archive.serve outside) c =
      ((x.receive (archive.serve outside) c).1,
        (x.receive (archive.serve outside) c).2.withContents hidden) := by
  have hread : archive.DiscreetSteps x.world.directory x.world.contents hidden (fun _ => True)
      (HeaderM.read (archive.serve outside) c) := discreet_read c
  have hends := hread x ⟨⟨.refl, rfl⟩, trivial⟩
  unfold Exchange.receive
  cases hrun : (HeaderM.read (archive.serve outside) c).run x with
  | error cause y => rw [(hends.of_error hrun).1]
  | ok destination y =>
      obtain ⟨hrun', hy, -⟩ := hends.of_ok hrun
      rw [hrun']
      cases destination with
      | «local» =>
          exact (overlooksData_withContents halike c).dispatch
            ⟨hy, HeaderM.user_of_read hrun nofun⟩
      | datastream => exact continueDatastream_withContents y
      | forward => exact forward_withContents y

/-- A guest calls for a file that only members may read: whatever is in it, the call is
refused and the file closed again. -/
theorem receive_withContents_guest :
    let files : List (UInt8 × UInt8) := [(0x63, 0x20), (0x64, 0x24)]
    let shown (id : UInt8) : List UInt8 := if id = 0x63 then [1, 2, 3] else [4, 5]
    let hidden (id : UInt8) : List UInt8 := if id = 0x63 then [] else [4, 5]
    let s : Session := ⟨0, 0x10, { substate := .requestRx }, .none, 0, 0xF0, 0, none⟩
    let inbound : FrameQueue :=
      ⟨[], [0x0E, 0, 0xF0, 0x12, 5, 0xAA, 0xBB, 0x20, 0, 4, 0x63, 0, 0, 0], 256, by decide, by decide⟩
    let x : Exchange (Archived _ _ Unit) :=
      ⟨⟨.initial 5, { inbound }, {}, ⟨files, shown, [], ()⟩⟩, s⟩
    let env := table.serve Environment.obliging
    (x.withContents hidden).receive env Config.default =
        ((x.receive env Config.default).1, (x.receive env Config.default).2.withContents hidden)
      ∧ (x.receive env Config.default).1 = Score.fileError
      ∧ (x.receive env Config.default).2.world.calls =
          [.close ⟨0x63⟩, .openFile 0x63 .read .guest] := by
  intro files shown hidden s inbound x env
  refine ⟨receive_withContents table Environment.obliging Config.default x hidden ?_, ?_, ?_⟩
  · refine table_alikeFor fun id hgranted => ?_
    by_cases hid : id = 0x63
    · subst hid
      exact absurd hgranted (by decide)
    · exact (if_neg hid).trans (if_neg hid).symm
  · decide +kernel
  · decide +kernel

end Archive

end Mode2
