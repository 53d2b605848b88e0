import Mathlib.Algebra.Group.Nat.Defs
import Mode2.Proofs.Environment.Accesses
import Mode2.Proofs.Exchange.RequestedAccess
import Mode2.Proofs.File.Table

/-!
# The gate of arbitrated requests

Between its command and its operation an arbitrated request says how to answer, which devices
have answered, and what the others have to satisfy. A device that is listed, or that does not
satisfy a query, drops the request and does nothing about it; whoever accepts it has passed all
of that.
-/

namespace Mode2

open QueueM

variable {W : Type}

/-- The scores of queries that are run one after the other. -/
def Environment.scores (env : Environment W) (user : User) : List Query → W → List Score
  | [], _ => []
  | q :: rest, w =>
      let result := env.query user q.template q.target w
      result.1 :: env.scores user rest result.2

/-- Whom a request is meant for: not the devices that are listed as having answered, and of
the others those that satisfy the queries. -/
structure Screening where
  listed : List (List UInt8)
  queries : List Query
deriving DecidableEq, Repr

namespace Screening

/-- Only a later request of a dialog lists devices. -/
def encode (kind : RequestKind) (s : Screening) : List UInt8 :=
  (if kind = .subsequent then AckList.encodeIds s.listed else []) ++
    s.queries.flatMap Query.encode

/-- A first request has a local query and a global one, a later request a global one. -/
def queryCount : RequestKind → Nat
  | .direct => 0
  | .initial => 2
  | .subsequent => 1

/-- The screening is that of a request of its kind, about series or single files, in a dialog
that names devices by IDs of one kind. -/
structure WellFormed (kind : RequestKind) (virtualIds isSeries : Bool) (s : Screening) : Prop where
  listed : AckList.AreIds virtualIds s.listed
  unlisted : kind ≠ .subsequent → s.listed = []
  length_queries : s.queries.length = queryCount kind
  queries : ∀ q ∈ s.queries, q.WellFormed isSeries

/-- The device is not listed, and its files satisfy all queries. -/
structure Passes (env : Environment W) (c : Config) (user : User) (w : W) (s : Screening) :
    Prop where
  unlisted : ∀ id ∈ s.listed, c.isNamedBy id = false
  satisfied : ∀ score ∈ env.scores user s.queries w, 0 ≤ score

/-- A frame goes on with one screening at most. -/
theorem unique {kind : RequestKind} {virtualIds isSeries : Bool} {s s' : Screening}
    {rest rest' : List UInt8} (hwell : s.WellFormed kind virtualIds isSeries)
    (hwell' : s'.WellFormed kind virtualIds isSeries)
    (hfits : (s.encode kind ++ rest).length ≤ queueCapacity)
    (heq : s.encode kind ++ rest = s'.encode kind ++ rest') : s = s' := by
  obtain ⟨listed, queries⟩ := s
  obtain ⟨listed', queries'⟩ := s'
  have hlength : queries.length = queries'.length :=
    hwell.length_queries.trans hwell'.length_queries.symm
  simp only [encode, List.append_assoc] at hfits heq
  by_cases hkind : kind = .subsequent
  · rw [if_pos hkind] at hfits heq
    rw [if_pos hkind] at heq
    obtain ⟨rfl, hqueries⟩ := AckList.encodeIds_unique hwell.listed hwell'.listed heq
    rw [List.length_append] at hfits
    obtain ⟨rfl, -⟩ := Query.flatMap_unique hlength hwell.queries hwell'.queries
      (Nat.le_trans (Nat.le_add_left _ _) hfits) hqueries
    rfl
  · rw [if_neg hkind, List.nil_append] at hfits heq
    rw [if_neg hkind, List.nil_append] at heq
    obtain rfl : listed = [] := hwell.unlisted hkind
    obtain rfl : listed' = [] := hwell'.unlisted hkind
    obtain ⟨rfl, -⟩ := Query.flatMap_unique hlength hwell.queries hwell'.queries hfits heq
    rfl

end Screening

/-- What an arbitrated request says before its operation. -/
structure Arbitration where
  command : Command
  window : WindowField
  screening : Screening
deriving DecidableEq

namespace Arbitration

def encode (kind : RequestKind) (a : Arbitration) : List UInt8 :=
  a.command.encode ++ a.window.encode ++ a.screening.encode kind

structure WellFormed (kind : RequestKind) (virtualIds : Bool) (a : Arbitration) : Prop where
  command : a.command.WellFormed
  kindOf : Command.kindOf? a.command.code = some (.request kind)
  window : a.window.WellFormed
  screening : a.screening.WellFormed kind virtualIds (a.command.group == .seriesCollection)

end Arbitration

namespace Exchange

/-- The kind of the request that the frame begins with. -/
def requestKind? (x : Exchange W) : Option RequestKind :=
  match x.network.inbound.unread.head?.bind Command.kindOf? with
  | some (.request kind) => some kind
  | _ => none

/-- The frame begins with this request. -/
def Carries (x : Exchange W) (kind : RequestKind) (a : Arbitration) : Prop :=
  a.WellFormed kind x.session.flags.virtualIds ∧
    ∃ rest, x.network.inbound.unread = a.encode kind ++ rest

/-- Nothing is done about the frame. No other is staged, the dialog goes on as it was, and the
datastream, the acknowledged devices and the last response are kept. The world has only been
asked for files: nothing has been delivered. -/
structure Ignored (env : Environment W) (x y : Exchange W) : Prop where
  outbound : y.network.outbound = x.network.outbound
  datastream : y.transport.datastream = x.transport.datastream
  acks : y.transport.acks = x.transport.acks
  response : y.transport.response = x.transport.response
  netState : y.session.netState = x.session.netState
  dialogId : y.session.dialogId = x.session.dialogId
  accesses : env.Accesses x.world y.world

variable {env : Environment W} {c : Config} {x : Exchange W}

theorem ignored_composes (env : Environment W) : Composes (Ignored env) where
  refl _ := ⟨rfl, rfl, rfl, rfl, rfl, rfl, .refl⟩
  trans h h' :=
    { outbound := h'.outbound.trans h.outbound
      datastream := h'.datastream.trans h.datastream
      acks := h'.acks.trans h.acks
      response := h'.response.trans h.response
      netState := h'.netState.trans h.netState
      dialogId := h'.dialogId.trans h.dialogId
      accesses := h.accesses.trans h'.accesses }

/-! ## Reading the request -/

/-- A list of devices has been read that does not name this one. -/
theorem ends_checkAcks_spelled (c : Config) :
    Ends (checkAcks c) x
      (fun _ y => ∃ (ids : List (List UInt8)) (queue : FrameQueue),
        AckList.AreIds x.session.flags.virtualIds ids ∧ (∀ id ∈ ids, c.isNamedBy id = false) ∧
        x.network.inbound.unread = AckList.encodeIds ids ++ queue.unread ∧
        y = { x with network.inbound := queue })
      fun cause y => cause < 0 ∧ ∃ (queue : FrameQueue) (flags : DialogFlags),
        y = { x with network.inbound := queue, session.flags := flags } := by
  refine Ends.bind (Ends.get (Ends.bind ((ends_inbound_spelled
    (AckList.scan_readsAs c.isNamedBy x.session.flags.virtualIds)).imp ?_ ?_)))
  · rintro found _ ⟨_, queue, ⟨ids, hids, rfl, rfl⟩, hunread, rfl⟩
    split
    next => exact Ends.bind ⟨Int.negSucc_lt_zero 0, queue, _, rfl⟩
    next hnone =>
      refine ⟨ids, queue, hids, fun id hid => ?_, hunread, rfl⟩
      simpa using fun hnamed => hnone (List.any_eq_true.mpr ⟨id, hid, hnamed⟩)
  · rintro cause _ ⟨hcause, queue, rfl⟩
    exact ⟨hcause, queue, x.session.flags, rfl⟩

/-- A query has been read and run. -/
def afterQuery (env : Environment W) (user : User) (q : Query) (queue : FrameQueue)
    (x : Exchange W) : Exchange W :=
  { x with
    transport := { x.transport with template := q.template, target := q.target }
    network.inbound := queue
    world := (env.query user q.template q.target x.world).2 }

theorem ignored_afterQuery (user : User) (q : Query) (queue : FrameQueue) :
    Ignored env x (x.afterQuery env user q queue) :=
  ⟨rfl, rfl, rfl, rfl, rfl, rfl, env.accesses_query user q.template q.target⟩

/-- No query could be read, or the one that was read and run is not satisfied. -/
def StopsAtQuery (env : Environment W) (user : User) (x y : Exchange W) : Prop :=
  (∃ queue, y = { x with network.inbound := queue }) ∨
    ∃ (q : Query) (queue : FrameQueue), x.network.inbound.unread = q.encode ++ queue.unread ∧
      y = x.afterQuery env user q queue

theorem StopsAtQuery.ignored {user : User} {y : Exchange W} (h : StopsAtQuery env user x y) :
    Ignored env x y := by
  rcases h with ⟨queue, rfl⟩ | ⟨q, queue, -, rfl⟩
  · exact ⟨rfl, rfl, rfl, rfl, rfl, rfl, .refl⟩
  · exact ignored_afterQuery user q queue

/-- A query has been read and is satisfied. -/
theorem ends_runQuery_spelled (user : User) (isSeries : Bool) :
    Ends (runQuery env user isSeries) x
      (fun score y => ∃ (q : Query) (queue : FrameQueue),
        q.WellFormed isSeries ∧ x.network.inbound.unread = q.encode ++ queue.unread ∧
        score = (env.query user q.template q.target x.world).1 ∧ 0 ≤ score ∧
        y = x.afterQuery env user q queue)
      fun cause y => cause < 0 ∧ StopsAtQuery env user x y := by
  refine Ends.bind ((ends_inbound_spelled (queryParts_readsAs isSeries)).imp ?_ ?_)
  · rintro ⟨template, target⟩ _ ⟨_, queue, ⟨hwell, rfl⟩, hunread, rfl⟩
    refine Ends.bind (ExchangeM.ends_modifyTransport (Ends.bind (ExchangeM.ends_perform ?_)))
    dsimp only
    split
    next hnegative =>
      exact Ends.bind ⟨hnegative, .inr ⟨⟨template, target⟩, queue, hunread, rfl⟩⟩
    next hsatisfied =>
      exact ⟨⟨template, target⟩, queue, hwell, hunread, rfl, Int.not_lt.mp hsatisfied, rfl⟩
  · rintro cause _ ⟨hcause, queue, rfl⟩
    exact ⟨hcause, .inl ⟨queue, rfl⟩⟩

/-- The frame goes on with a screening that the device passes, and the last query has this
score. -/
def Admits (env : Environment W) (c : Config) (kind : RequestKind) (isSeries : Bool) (user : User)
    (x : Exchange W) (s : Screening) (score : Score) : Prop :=
  s.WellFormed kind x.session.flags.virtualIds isSeries ∧
    (∃ rest, x.network.inbound.unread = s.encode kind ++ rest) ∧
    s.Passes env c user x.world ∧ (env.scores user s.queries x.world).getLast? = some score

/-- An arbitrated request whose queries have been run has admitted the device, and one that
does not admit it is ignored. -/
theorem ends_runQueries_admits (c : Config) {kind : RequestKind} (harbitrated : kind ≠ .direct)
    (group : OperationGroup) (user : User) :
    Ends (runQueries env c kind group user) x
      (fun score _ => ∃ s, Admits env c kind (group == .seriesCollection) user x s score)
      fun cause y => cause < 0 ∧ Ignored env x y := by
  have hR := ignored_composes env
  cases kind with
  | direct => exact absurd rfl harbitrated
  | initial =>
      refine Ends.bind ((ends_runQuery_spelled user _).imp ?_ fun _ _ h => ⟨h.1, h.2.ignored⟩)
      rintro _ _ ⟨near, queue, hnear, hunread, rfl, hsatisfied, rfl⟩
      refine (ends_runQuery_spelled user _).imp ?_ fun cause y h => ⟨h.1, hR.trans ?_ h.2.ignored⟩
      · rintro _ _ ⟨far, queue', hfar, hunread', rfl, hsatisfied', rfl⟩
        dsimp only [afterQuery] at hunread' hsatisfied'
        refine ⟨⟨[], [near, far]⟩, ⟨⟨Nat.succ_pos _, List.forall_mem_nil _⟩, fun _ => rfl, rfl, ?_⟩,
          ⟨queue'.unread, ?_⟩, ⟨List.forall_mem_nil _, ?_⟩, rfl⟩
        · simp [hnear, hfar]
        · simp [Screening.encode, hunread, hunread']
        · simp [Environment.scores, hsatisfied, hsatisfied']
      · exact ignored_afterQuery user near queue
  | subsequent =>
      refine Ends.bind ((ends_checkAcks_spelled c).imp ?_ ?_)
      · rintro _ _ ⟨ids, queue, hids, hothers, hunread, rfl⟩
        refine (ends_runQuery_spelled user _).imp ?_ fun cause y h => ⟨h.1, hR.trans ?_ h.2.ignored⟩
        · rintro _ _ ⟨far, queue', hfar, hunread', rfl, hsatisfied', rfl⟩
          dsimp only at hunread' hsatisfied'
          refine ⟨⟨ids, [far]⟩, ⟨hids, (absurd rfl ·), rfl, ?_⟩, ⟨queue'.unread, ?_⟩,
            ⟨hothers, ?_⟩, rfl⟩
          · simp [hfar]
          · simp [Screening.encode, hunread, hunread']
          · simp [Environment.scores, hsatisfied']
        · exact ⟨rfl, rfl, rfl, rfl, rfl, rfl, .refl⟩
      · rintro cause _ ⟨hcause, queue, flags, rfl⟩
        exact ⟨hcause, rfl, rfl, rfl, rfl, rfl, rfl, .refl⟩

/-! ## The whole request -/

/-- The outcome of a request: it has been ignored with a negative score, or it has admitted the
device and its score, unless the operation fails, is that of the last query. -/
def Gated (env : Environment W) (c : Config) (kind : RequestKind) (x : Exchange W)
    (score : Score) (y : Exchange W) : Prop :=
  (score < 0 ∧ Ignored env x y) ∨ ∃ a : Arbitration,
    x.Carries kind a ∧ a.screening.Passes env c x.user x.world ∧
    (0 ≤ score → (env.scores x.user a.screening.queries x.world).getLast? = some score)

theorem requestKind?_eq_some {kind : RequestKind} :
    x.requestKind? = some kind ↔ ∃ code rest, x.network.inbound.unread = code :: rest ∧
      Command.kindOf? code = some (.request kind) := by
  unfold requestKind?
  cases hunread : x.network.inbound.unread with
  | nil => simp
  | cons code rest =>
      cases hcode : Command.kindOf? code with
      | none => simp [hcode]
      | some commandKind => cases commandKind <;> simp [hcode]

/-- Behind the queries, the request is carried out and has the score of the last of them, or
fails with a negative one. -/
theorem ends_carryOut_scored (c : Config) (group : OperationGroup) (user : User) (score : Score) :
    Ends (do carryOut env c group user; return score) x (fun result _ => result = score)
      fun cause _ => cause < 0 :=
  Ends.bind ((stages_carryOut c group user x).imp (fun _ _ _ => Ends.pure rfl) fun _ _ h => h)

theorem ends_handleData_gated (env : Environment W) (c : Config) {kind : RequestKind}
    (harbitrated : kind ≠ .direct) (hkind : x.requestKind? = some kind) :
    Ends (handleData env c) x (Gated env c kind x) (Gated env c kind x) := by
  refine Ends.bind (ExchangeM.ends_modifyTransport ?_)
  refine Ends.bind ((ends_inbound_spelled commandBytes_readsAs).imp ?_ ?_)
  · rintro command _ ⟨_, queue, ⟨hcommand, rfl⟩, hunread, rfl⟩
    refine Ends.bind (ExchangeM.ends_modifyTransport ?_)
    dsimp only at hunread ⊢
    have hcode : Command.kindOf? command.code = some (.request kind) := by
      obtain ⟨code, rest, hcons, hcode⟩ := requestKind?_eq_some.mp hkind
      rw [hunread] at hcons
      obtain rfl : command.code = code := (List.cons.inj hcons).1
      exact hcode
    rw [hcode]
    refine Ends.bind (Ends.get ?_)
    dsimp only
    split
    next => exact Ends.bind (.inl ⟨Int.negSucc_lt_zero 0, rfl, rfl, rfl, rfl, rfl, rfl, .refl⟩)
    refine Ends.bind ((ends_readResponseWindow_spelled kind).imp ?_ ?_)
    · rintro _ _ ⟨w, queue', access, hwindow, hunread', -, rfl⟩
      refine Ends.bind ((ends_runQueries_admits c harbitrated _ _).imp ?_ ?_)
      · rintro score y ⟨s, hscreening, ⟨rest, hrest⟩, hpasses, hlast⟩
        dsimp only at hscreening hunread' hrest hpasses hlast
        have hcarries : x.Carries kind ⟨command, w, s⟩ := by
          refine ⟨⟨hcommand, hcode, hwindow, hscreening⟩, rest, ?_⟩
          rw [hunread, hunread', hrest, Arbitration.encode]
          simp only [List.append_assoc]
        -- The gate has been passed; an operation that fails only takes the score with it.
        refine (ends_carryOut_scored c _ _ score).imp ?_ ?_
        · rintro result z rfl
          exact .inr ⟨_, hcarries, hpasses, fun _ => hlast⟩
        · intro cause z hcause
          exact .inr ⟨_, hcarries, hpasses, fun hresult => absurd hcause (Int.not_lt.mpr hresult)⟩
      · rintro cause y ⟨hcause, hignored⟩
        refine .inl ⟨hcause, (ignored_composes env).trans ?_ hignored⟩
        exact ⟨rfl, rfl, rfl, rfl, rfl, rfl, .refl⟩
    · rintro cause _ ⟨hcause, queue', access, rfl⟩
      exact .inl ⟨hcause, rfl, rfl, rfl, rfl, rfl, rfl, .refl⟩
  · rintro cause _ ⟨hcause, queue, rfl⟩
    exact .inl ⟨hcause, rfl, rfl, rfl, rfl, rfl, rfl, .refl⟩

/-- A frame begins with one request at most. -/
theorem Carries.unique {kind : RequestKind} {a a' : Arbitration} (h : x.Carries kind a)
    (h' : x.Carries kind a') : a = a' := by
  obtain ⟨⟨hcommand, -, hwindow, hscreening⟩, rest, hunread⟩ := h
  obtain ⟨⟨hcommand', -, hwindow', hscreening'⟩, rest', hunread'⟩ := h'
  obtain ⟨command, window, screening⟩ := a
  obtain ⟨command', window', screening'⟩ := a'
  have hfits : x.network.inbound.unread.length ≤ queueCapacity := by
    have hlimit := x.network.inbound.length_le_limit
    have hcapacity := x.network.inbound.limit_le_capacity
    omega
  rw [hunread] at hfits hunread'
  simp only [Arbitration.encode, List.append_assoc] at hfits hunread'
  obtain ⟨rfl, hfield⟩ :=
    commandBytes_readsAs.unique hfits ⟨hcommand, rfl⟩ ⟨hcommand', rfl⟩ hunread'
  rw [List.length_append] at hfits
  have hfits := Nat.le_trans (Nat.le_add_left _ _) hfits
  obtain ⟨rfl, hlast⟩ := WindowField.unique hwindow hwindow' hfits hfield
  rw [List.length_append] at hfits
  have hfits := Nat.le_trans (Nat.le_add_left _ _) hfits
  obtain rfl := Screening.unique hscreening hscreening' hfits hlast
  rfl

/-- Arbitrated requests are acted on only when every query passes. Of any request that a frame
begins with, the device reads one list and one series of queries; if it is listed, or a query is
malformed or not satisfied, the score is negative and nothing is done about the frame. If the
score is not negative, the device is not listed, all queries are satisfied, and the score is that
of the last, global one. -/
theorem arbitrated_only_when_passed (env : Environment W) (c : Config) (x : Exchange W)
    {kind : RequestKind} (harbitrated : kind ≠ .direct) (hkind : x.requestKind? = some kind) :
    (∀ a a', x.Carries kind a → x.Carries kind a' → a = a') ∧
    ((∀ a, x.Carries kind a → ¬a.screening.Passes env c x.user x.world) →
      (x.dispatch env c).1 < 0 ∧ Ignored env x (x.dispatch env c).2) ∧
    (0 ≤ (x.dispatch env c).1 → ∃ a, x.Carries kind a ∧
      a.screening.Passes env c x.user x.world ∧
      (env.scores x.user a.screening.queries x.world).getLast? = some (x.dispatch env c).1) := by
  have hgated : Gated env c kind x (x.dispatch env c).1 (x.dispatch env c).2 :=
    ExchangeM.score_of_ends (ends_handleData_gated env c harbitrated hkind)
  refine ⟨fun a a' h h' => h.unique h', fun hfails => ?_, fun hscore => ?_⟩
  · rcases hgated with hignored | ⟨a, hcarries, hpasses, -⟩
    · exact hignored
    · exact absurd hpasses (hfails a hcarries)
  · rcases hgated with ⟨hnegative, -⟩ | ⟨a, hcarries, hpasses, hlast⟩
    · exact absurd hnegative (Int.not_lt.mpr hscore)
    · exact ⟨a, hcarries, hpasses, hlast hscore⟩

/-- The bytes of one file are asked for, of the devices whose third file has a value. It has the
value `0x2A` in the device, which is not listed, or listed as having answered. -/
theorem arbitrated_only_when_passed_collection :
    let env : Environment (Archived _ _ Unit) := Archive.table.serve .obliging
    let query (value : UInt8) : Query := ⟨⟨2, 0x21, [0xFF, 0xFF], [0x00, value]⟩, .ofFile 3 0⟩
    let own : List UInt8 := [0x00, 0x0B, 0x57, 0x00, 0x00, 0x00, 0x00, 0x01]
    let first (value : UInt8) : Arbitration := ⟨⟨0x44, 0⟩, ⟨0, []⟩, ⟨[], [query value, query value]⟩⟩
    let later : Arbitration := ⟨⟨0x54, 0⟩, ⟨0, []⟩, ⟨[own], [query 0x2A]⟩⟩
    let x (frame : List UInt8) (h : frame.length ≤ 256) : Exchange (Archived _ _ Unit) :=
      ⟨⟨.initial 5, { inbound := ⟨[], frame, 256, by simpa using h, by decide⟩ }, {},
        ⟨[(3, 0x24)], fun _ => [0x00, 0x2A], [], ()⟩⟩,
        ⟨0, 0x10, { substate := .requestRx }, .none, 5, 0xF0, 0, none⟩⟩
    let satisfied := x ((first 0x2A).encode .initial ++ [2, 3, 0]) (by decide)
    let unsatisfied := x ((first 0x2B).encode .initial ++ [2, 3, 0]) (by decide)
    let listed := x (later.encode .subsequent ++ [2, 3, 0]) (by decide)
    (satisfied.dispatch env .default).1 = 0 ∧
      (∃ a, satisfied.Carries .initial a ∧
        a.screening.Passes env .default satisfied.user satisfied.world) ∧
      (unsatisfied.dispatch env .default).1 < 0 ∧
      Ignored env unsatisfied (unsatisfied.dispatch env .default).2 ∧
      (listed.dispatch env .default).1 < 0 ∧
      Ignored env listed (listed.dispatch env .default).2 := by
  intro env query own first later x satisfied unsatisfied listed
  have hcode : (0x21 : UInt8) &&& Template.typeBits ≠ 0 := by decide
  have hlength : (2 : UInt8).toNat ≤ maxToken := by decide
  have hoffset : (0 : UInt8).toUInt16.toNat < 256 := by decide
  have hquery : ∀ value isSeries, isSeries = false → (query value).WellFormed isSeries := by
    rintro value _ rfl
    exact ⟨⟨(absurd · hcode), fun _ => ⟨hlength, rfl, rfl⟩, fun _ _ => rfl⟩,
      ⟨rfl, (nomatch ·), fun _ => ⟨rfl, hoffset⟩⟩⟩
  have hunsatisfied : unsatisfied.Carries .initial (first 0x2B) :=
    ⟨⟨fun _ => rfl, by decide, ⟨by decide, fun _ => rfl⟩,
      ⟨⟨by decide, List.forall_mem_nil _⟩, fun _ => rfl, rfl, List.forall_mem_cons.mpr
        ⟨hquery _ _ (by decide), List.forall_mem_singleton.mpr (hquery _ _ (by decide))⟩⟩⟩, _, rfl⟩
  have hlisted : listed.Carries .subsequent later :=
    ⟨⟨fun _ => rfl, by decide, ⟨by decide, fun _ => rfl⟩,
      ⟨⟨by decide, by decide⟩, (absurd rfl ·), rfl,
        List.forall_mem_singleton.mpr (hquery _ _ (by decide))⟩⟩, _, rfl⟩
  have hinitial : RequestKind.initial ≠ .direct := by decide
  have hsubsequent : RequestKind.subsequent ≠ .direct := by decide
  have hscore : (satisfied.dispatch env .default).1 = 0 := by decide +kernel
  obtain ⟨a, hcarries, hpasses, -⟩ :=
    (arbitrated_only_when_passed env .default satisfied hinitial (by decide)).2.2 (by simp [hscore])
  obtain ⟨hnegative, hignored⟩ :=
    (arbitrated_only_when_passed env .default unsatisfied hinitial (by decide)).2.1 fun a ha => by
      obtain rfl := ha.unique hunsatisfied
      exact fun hpasses => absurd (hpasses.satisfied _ List.mem_cons_self) (by decide +kernel)
  obtain ⟨hnegative', hignored'⟩ :=
    (arbitrated_only_when_passed env .default listed hsubsequent (by decide)).2.1 fun a ha => by
      obtain rfl := ha.unique hlisted
      exact fun hpasses => absurd (hpasses.unlisted own List.mem_cons_self) (by decide)
  exact ⟨hscore, ⟨a, hcarries, hpasses⟩, hnegative, hignored, hnegative', hignored'⟩

end Exchange

end Mode2
