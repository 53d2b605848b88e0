import Mode2.Proofs.Exchange.Arbitration

/-!
# Requests that want no response

A request may decline the response to it. Such a request is carried out up to the point at
which others are answered; there its dialog ends. No frame is staged for it and no call is
answered out of the files: of the world it takes the queries in its frame, and at most one
datagram is delivered.
-/

namespace Mode2

open QueueM

variable {W : Type}

namespace Environment

/-- The world after queries have been run one after the other. -/
def afterQueries (env : Environment W) (user : User) (queries : List Query) (w : W) : W :=
  queries.foldl (fun w q => (env.query user q.template q.target w).2) w

/-- From one world to the other, queries that stand one behind the other in the frame have been
run, no more of them than a request of this kind has. -/
def AsksOnly (env : Environment W) (user : User) (kind : RequestKind) (frame : List UInt8)
    (w w' : W) : Prop :=
  ∃ queries : List Query, queries.length ≤ Screening.queryCount kind ∧
    queries.flatMap Query.encode <:+: frame ∧ w' = env.afterQueries user queries w

/-- Queries behind other bytes of a frame stand in the frame. -/
theorem AsksOnly.append {env : Environment W} {user : User} {kind : RequestKind}
    {bytes frame : List UInt8} {w w' : W} (h : env.AsksOnly user kind frame w w') :
    env.AsksOnly user kind (bytes ++ frame) w w' := by
  obtain ⟨queries, hcount, hspelled, hworld⟩ := h
  exact ⟨queries, hcount, hspelled.trans (List.suffix_append _ _).isInfix, hworld⟩

/-- From one world to the other, a datagram of this device has been handed on. -/
def Delivers (env : Environment W) (peer : DeviceId) (w w' : W) : Prop :=
  ∃ deliver ∈ env.datagrams, ∃ source destination bytes,
    w' = (deliver peer source destination bytes w).2

end Environment

namespace Exchange

/-- The frame begins with this request, and declines the response to it. -/
structure DeclinesResponse (x : Exchange W) (kind : RequestKind) (command : Command) : Prop where
  request : Command.kindOf? command.code = some (.request kind)
  hasOptions : Octet.hasAny command.code Command.optionsBit = true
  declined : command.has Command.noResponseBit = true
  begins : ∃ rest, x.network.inbound.unread = command.code :: command.options :: rest

/-- Queries in the frame have been run, and the rest of the exchange goes on as it was. -/
structure Asked (env : Environment W) (user : User) (kind : RequestKind) (x y : Exchange W) :
    Prop where
  outbound : y.network.outbound = x.network.outbound
  peer : y.network.peer = x.network.peer
  command : y.transport.command = x.transport.command
  world : env.AsksOnly user kind x.network.inbound.unread x.world y.world

/-- No other frame is staged and the world is left alone, unless for one datagram. -/
structure Unstaged (env : Environment W) (group : OperationGroup) (x y : Exchange W) : Prop where
  outbound : y.network.outbound = x.network.outbound
  world : y.world = x.world ∨
    group = .datagram ∧ env.Delivers x.network.peer x.world y.world

/-- What a request leaves that declines its response: no other frame is staged, and the world
has been asked for the queries in the frame and handed a datagram at most. -/
structure Overheard (env : Environment W) (kind : RequestKind) (group : OperationGroup)
    (x y : Exchange W) : Prop where
  outbound : y.network.outbound = x.network.outbound
  world : ∃ w, env.AsksOnly x.user kind x.network.inbound.unread x.world w ∧
    (y.world = w ∨ group = .datagram ∧ env.Delivers x.network.peer w y.world)

variable {env : Environment W} {c : Config} {x y z : Exchange W} {user : User}
  {kind : RequestKind} {group : OperationGroup} {command : Command}

theorem Asked.overheard (h : Asked env x.user kind x y) : Overheard env kind group x y :=
  ⟨h.outbound, y.world, h.world, .inl rfl⟩

theorem Asked.overheard_of_unstaged (h : Asked env x.user kind x y)
    (h' : Unstaged env group y z) : Overheard env kind group x z where
  outbound := h'.outbound.trans h.outbound
  world := ⟨y.world, h.world, h.peer ▸ h'.world⟩

/-! ## Queries -/

/-- These queries have been read from the frame and run, and the rest of the exchange goes on
as it was. -/
structure HasRun (env : Environment W) (user : User) (queries : List Query) (x y : Exchange W) :
    Prop where
  outbound : y.network.outbound = x.network.outbound
  peer : y.network.peer = x.network.peer
  command : y.transport.command = x.transport.command
  spelled : ∃ before,
    x.network.inbound.unread = before ++ queries.flatMap Query.encode ++ y.network.inbound.unread
  world : y.world = env.afterQueries user queries x.world

theorem hasRun_refl (env : Environment W) (user : User) (x : Exchange W) :
    HasRun env user [] x x :=
  ⟨rfl, rfl, rfl, ⟨[], rfl⟩, rfl⟩

namespace HasRun

variable {queries : List Query} (h : HasRun env user queries x y)

include h

theorem asked (hcount : queries.length ≤ Screening.queryCount kind) : Asked env user kind x y where
  outbound := h.outbound
  peer := h.peer
  command := h.command
  world := by
    obtain ⟨before, hspelled⟩ := h.spelled
    exact ⟨queries, hcount, ⟨before, y.network.inbound.unread, hspelled.symm⟩, h.world⟩

theorem afterQuery {q : Query} {queue : FrameQueue}
    (hunread : y.network.inbound.unread = q.encode ++ queue.unread) :
    HasRun env user (queries ++ [q]) x (y.afterQuery env user q queue) where
  outbound := h.outbound
  peer := h.peer
  command := h.command
  spelled := by
    obtain ⟨before, hspelled⟩ := h.spelled
    refine ⟨before, ?_⟩
    rw [hspelled, hunread]
    simp [Exchange.afterQuery]
  world := by
    simp [Exchange.afterQuery, Environment.afterQueries, h.world]

/-- Whoever stops at a further query has run that one at most. -/
theorem asked_of_stopsAtQuery (hstops : StopsAtQuery env user y z)
    (hcount : queries.length < Screening.queryCount kind) : Asked env user kind x z := by
  rcases hstops with ⟨queue, rfl⟩ | ⟨q, queue, hunread, rfl⟩
  · exact { h.asked (Nat.le_of_lt hcount) with }
  · apply (h.afterQuery hunread).asked
    rw [List.length_append]
    exact hcount

end HasRun

theorem ends_runQueries_asked (c : Config) (kind : RequestKind) (group : OperationGroup)
    (user : User) :
    Ends (runQueries env c kind group user) x (fun _ y => Asked env user kind x y)
      fun cause y => cause < 0 ∧ Asked env user kind x y := by
  have hstart := hasRun_refl env user x
  cases kind with
  | direct => exact hstart.asked (Nat.le_refl _)
  | initial =>
      refine Ends.bind ((ends_runQuery_spelled user _).imp ?_ ?_)
      · rintro _ _ ⟨near, queue, -, hunread, -, -, rfl⟩
        have hnear := hstart.afterQuery hunread
        refine (ends_runQuery_spelled user _).imp ?_ ?_
        · rintro _ _ ⟨far, queue', -, hunread', -, -, rfl⟩
          exact (hnear.afterQuery hunread').asked (Nat.le_refl _)
        · exact fun _ _ h => ⟨h.1, hnear.asked_of_stopsAtQuery h.2 (Nat.le_refl _)⟩
      · exact fun _ _ h => ⟨h.1, hstart.asked_of_stopsAtQuery h.2 (Nat.le_succ _)⟩
  | subsequent =>
      refine Ends.bind ((ends_checkAcks_spelled c).imp ?_ ?_)
      · rintro _ _ ⟨ids, queue, -, -, hunread, rfl⟩
        have hlisted : HasRun env user [] x { x with network.inbound := queue } :=
          ⟨rfl, rfl, rfl, ⟨AckList.encodeIds ids, by simp [hunread]⟩, rfl⟩
        refine (ends_runQuery_spelled user _).imp ?_ ?_
        · rintro _ _ ⟨far, queue', -, hunread', -, -, rfl⟩
          exact (hlisted.afterQuery hunread').asked (Nat.le_refl _)
        · exact fun _ _ h => ⟨h.1, hlisted.asked_of_stopsAtQuery h.2 (Nat.le_refl _)⟩
      · rintro cause _ ⟨hcause, queue, flags, rfl⟩
        exact ⟨hcause, { hstart.asked (Nat.zero_le _) with }⟩

/-! ## The operation -/

/-- Whether or not something is read, only the frame has been read on. -/
theorem ends_inbound_read {α : Type} (reader : QueueM α) :
    Ends (ExchangeM.inbound .rejected reader : ExchangeM W Score α) x
      (fun _ y => ∃ queue, y = { x with network.inbound := queue })
      fun cause y => cause < 0 ∧ ∃ queue, y = { x with network.inbound := queue } := by
  unfold Ends ExchangeM.inbound
  dsimp only [EStateM.run]
  cases reader x.network.inbound with
  | ok value queue => exact ⟨queue, rfl⟩
  | error cause queue => exact ⟨Int.negSucc_lt_zero 0, queue, rfl⟩

/-- In place of a response that is declined, the dialog ends. -/
theorem ends_respond_declined (c : Config) (body : ResponseBody W)
    {good : Unit → Exchange W → Prop} {bad : Score → Exchange W → Prop}
    (hdeclined : x.transport.command.has Command.noResponseBit = true)
    (h : good () { x with session := x.session.scrap }) : Ends (respond env c body) x good bad := by
  refine Ends.bind (Ends.get ?_)
  rw [if_pos hdeclined]
  exact ExchangeM.ends_modifySession h

/-- Carrying out a request that declines its response ends the dialog, or fails. -/
theorem ends_carryOut_declined (c : Config) (group : OperationGroup) (user : User)
    (hdeclined : x.transport.command.has Command.noResponseBit = true) :
    Ends (carryOut env c group user) x
      (fun _ y => y.session.netState.scrapped = true ∧ Unstaged env group x y)
      fun cause y => cause < 0 ∧ Unstaged env group x y := by
  have hcall : Ends (replyToCall env c user) x
      (fun _ y => y.session.netState.scrapped = true ∧ Unstaged env group x y)
      fun cause y => cause < 0 ∧ Unstaged env group x y := by
    refine Ends.bind (Ends.get (Ends.bind ((ends_inbound_read _).imp ?_ ?_)))
    · rintro call _ ⟨queue, rfl⟩
      exact ends_respond_declined c _ hdeclined ⟨rfl, rfl, .inl rfl⟩
    · rintro cause _ ⟨hcause, queue, rfl⟩
      exact ⟨hcause, rfl, .inl rfl⟩
  cases group with
  | announcement | fileCollection | seriesCollection => exact hcall
  | datagram =>
      refine Ends.bind ((ends_inbound_read _).imp ?_ ?_)
      · rintro ⟨destination, source⟩ _ ⟨queue, rfl⟩
        refine Ends.bind (Ends.get ?_)
        dsimp only
        split
        · exact Ends.throw ⟨Int.negSucc_lt_zero 0, rfl, .inl rfl⟩
        next deliver hdeliver =>
          have hdelivers : env.Delivers x.network.peer x.world
              (deliver x.network.peer source destination queue.unread x.world).2 :=
            ⟨deliver, hdeliver, source, destination, queue.unread, rfl⟩
          refine Ends.bind (ExchangeM.ends_perform ?_)
          split
          · exact ends_respond_declined c _ hdeclined ⟨rfl, rfl, .inr ⟨rfl, hdelivers⟩⟩
          · exact Ends.throw ⟨Int.negSucc_lt_zero 0, rfl, .inr ⟨rfl, hdelivers⟩⟩
      · rintro cause _ ⟨hcause, queue, rfl⟩
        exact ⟨hcause, rfl, .inl rfl⟩
  | datastream =>
      refine Ends.bind (ExchangeM.ends_modifySession ?_)
      refine Ends.bind (ExchangeM.ends_modifyTransport ?_)
      exact ends_respond_declined c _ hdeclined ⟨rfl, rfl, .inl rfl⟩
  | reserved => exact Ends.throw ⟨Int.negSucc_lt_zero 0, rfl, .inl rfl⟩

/-! ## The whole request -/

/-- A request that declines its response is dropped, or ends its dialog. -/
theorem ends_handleRequest_declined (c : Config) (kind : RequestKind)
    (hdeclined : x.transport.command.has Command.noResponseBit = true) :
    Ends (handleRequest env c kind) x
      (fun _ y => y.session.netState.scrapped = true ∧
        Overheard env kind x.transport.command.group x y)
      fun cause y => cause < 0 ∧ Overheard env kind x.transport.command.group x y := by
  have hstart : Asked env x.user kind x x := (hasRun_refl env x.user x).asked (Nat.zero_le _)
  refine Ends.bind (Ends.get ?_)
  dsimp only
  split
  · exact Ends.bind (Ends.throw ⟨Int.negSucc_lt_zero 0, hstart.overheard⟩)
  refine Ends.bind ((ends_readResponseWindow_spelled kind).imp ?_ ?_)
  · rintro _ _ ⟨w, queue, access, -, hunread, -, rfl⟩
    -- The queries are read behind the window, which stands in the same frame.
    have hbehind : ∀ {y}, Asked env x.user kind { x with access, network.inbound := queue } y →
        Asked env x.user kind x y := fun h => { h with world := hunread ▸ h.world.append }
    refine Ends.bind ((ends_runQueries_asked c kind _ _).imp ?_ fun _ _ h => ?_)
    · intro score y hasked
      have hy := hbehind hasked
      refine Ends.bind ((ends_carryOut_declined c _ _ (hy.command ▸ hdeclined)).imp ?_ ?_)
      · exact fun _ z h => Ends.pure ⟨h.1, hy.overheard_of_unstaged h.2⟩
      · exact fun cause z h => ⟨h.1, hy.overheard_of_unstaged h.2⟩
    · exact ⟨h.1, (hbehind h.2).overheard⟩
  · rintro cause _ ⟨hcause, queue, access, rfl⟩
    exact ⟨hcause, { hstart.overheard with }⟩

theorem ends_handleData_declined (env : Environment W) (c : Config)
    (h : x.DeclinesResponse kind command) :
    Ends (handleData env c) x
      (fun _ y => y.session.netState.scrapped = true ∧ Overheard env kind command.group x y)
      fun cause y => cause < 0 ∧ Overheard env kind command.group x y := by
  obtain ⟨rest, hunread⟩ := h.begins
  have hwell : command.WellFormed := fun hnone => absurd h.hasOptions (by simp [hnone])
  have hencode : x.network.inbound.unread = command.encode ++ rest := by
    rw [hunread, Command.encode, if_pos h.hasOptions]
    rfl
  obtain ⟨queue, hread, hqueue⟩ := commandBytes_readsAs.accepts ⟨hwell, rfl⟩ hencode
  have hbehind : ∀ {transport y},
      Overheard env kind command.group { x with transport, network.inbound := queue } y →
      Overheard env kind command.group x y := by
    rintro transport y ⟨houtbound, w, hasks, hworld⟩
    refine ⟨houtbound, w, ?_, hworld⟩
    rw [hencode, ← hqueue]
    exact hasks.append
  refine Ends.bind (ExchangeM.ends_modifyTransport ?_)
  refine Ends.bind (ExchangeM.ends_inbound hread ?_)
  refine Ends.bind (ExchangeM.ends_modifyTransport ?_)
  dsimp only
  rw [h.request]
  refine (ends_handleRequest_declined c kind h.declined).imp ?_ ?_
  · exact fun _ _ h => ⟨h.1, hbehind h.2⟩
  · exact fun _ _ h => ⟨h.1, hbehind h.2⟩

/-- A request that declines its response is dropped, or its dialog ends. -/
theorem dispatch_declined (env : Environment W) (c : Config) (h : x.DeclinesResponse kind command) :
    ((x.dispatch env c).1 < 0 ∨ (x.dispatch env c).2.session.netState.scrapped = true) ∧
      Overheard env kind command.group x (x.dispatch env c).2 := by
  have hends : Ends (handleData env c) x
      (fun score y => (score < 0 ∨ y.session.netState.scrapped = true) ∧
        Overheard env kind command.group x y)
      fun score y => (score < 0 ∨ y.session.netState.scrapped = true) ∧
        Overheard env kind command.group x y :=
    (ends_handleData_declined env c h).imp (fun _ _ h => h.imp .inr id) fun _ _ h => h.imp .inl id
  exact ExchangeM.score_of_ends hends

end Exchange

end Mode2
