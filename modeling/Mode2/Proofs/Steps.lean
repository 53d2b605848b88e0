import Mode2.Exchange.Basic

/-!
# Reasoning about steps

Steps run on a state and either yield a value or stop early; in both cases the state
that they have reached is part of the outcome. `Ends` says what holds of the outcome
from one state, `Moves` how the states before and after are related from every state.
Both are taken apart along the steps.
-/

namespace Mode2

variable {ε σ α β : Type}

/-- What a computation in parts has yielded, its first part has yielded first. -/
theorem exists_ok_of_bind {x : Except ε α} {f : α → Except ε β} {b : β} (h : x.bind f = .ok b) :
    ∃ a, x = .ok a ∧ f a = .ok b := by
  cases x with
  | error cause => cases h
  | ok a => exact ⟨a, rfl, h⟩

/-- From state `x` the steps yield a value and a state that satisfy `good`, or stop
with a cause and a state that satisfy `bad`. -/
def Ends (steps : EStateM ε σ α) (x : σ) (good : α → σ → Prop) (bad : ε → σ → Prop) : Prop :=
  match steps.run x with
  | .ok value y => good value y
  | .error cause y => bad cause y

namespace Ends

variable {steps : EStateM ε σ α} {x : σ} {good good' : α → σ → Prop} {bad bad' : ε → σ → Prop}

theorem imp (h : Ends steps x good bad) (hgood : ∀ value y, good value y → good' value y)
    (hbad : ∀ cause y, bad cause y → bad' cause y) : Ends steps x good' bad' := by
  unfold Ends at h ⊢
  split at h
  · exact hgood _ _ h
  · exact hbad _ _ h

theorem and (h : Ends steps x good bad) (h' : Ends steps x good' bad') :
    Ends steps x (fun value y => good value y ∧ good' value y)
      (fun cause y => bad cause y ∧ bad' cause y) := by
  unfold Ends at h h' ⊢
  split
  next hrun =>
    rw [hrun] at h h'
    exact ⟨h, h'⟩
  next hrun =>
    rw [hrun] at h h'
    exact ⟨h, h'⟩

theorem pure {value : α} (h : good value x) : Ends (pure value) x good bad := h

theorem throw {cause : ε} (h : bad cause x) : Ends (throw cause) x good bad := h

theorem get {good : σ → σ → Prop} {bad : ε → σ → Prop} (h : good x x) :
    Ends (get : EStateM ε σ σ) x good bad := h

theorem bind {next : α → EStateM ε σ β} {good : β → σ → Prop}
    (h : Ends steps x (fun value y => Ends (next value) y good bad) bad) :
    Ends (steps >>= next) x good bad := by
  unfold Ends at h ⊢
  rw [EStateM.run_bind]
  cases hsteps : steps.run x with
  | ok value y =>
      rw [hsteps] at h
      exact h
  | error cause y =>
      rw [hsteps] at h
      exact h

theorem of_ok (h : Ends steps x good bad) {value : α} {y : σ} (hrun : steps.run x = .ok value y) :
    good value y := by
  unfold Ends at h
  rw [hrun] at h
  exact h

theorem of_forall (hgood : ∀ value y, good value y) (hbad : ∀ cause y, bad cause y) :
    Ends steps x good bad := by
  unfold Ends
  split
  · exact hgood _ _
  · exact hbad _ _

/-- Nothing is asked of steps that stop early. -/
theorem of_run (h : ∀ value y, steps.run x = .ok value y → good value y) :
    Ends steps x good fun _ _ => True := by
  unfold Ends
  split
  next hrun => exact h _ _ hrun
  · trivial

theorem bind_of_run {next : α → EStateM ε σ β} {good : β → σ → Prop}
    (h : ∀ value y, steps.run x = .ok value y → Ends (next value) y good fun _ _ => True) :
    Ends (steps >>= next) x good fun _ _ => True :=
  bind (of_run h)

theorem bind_of_ok {next : α → EStateM ε σ β} {good : β → σ → Prop} {value : α} {y : σ}
    (hrun : steps.run x = .ok value y) (h : Ends (next value) y good bad) :
    Ends (steps >>= next) x good bad := by
  unfold Ends
  rw [EStateM.run_bind, hrun]
  exact h

theorem bind_of_error {next : α → EStateM ε σ β} {good : β → σ → Prop} {cause : ε} {y : σ}
    (hrun : steps.run x = .error cause y) (h : bad cause y) :
    Ends (steps >>= next) x good bad := by
  unfold Ends
  rw [EStateM.run_bind, hrun]
  exact h

/-- Steps that cannot stop early yield a value. -/
theorem exists_ok (h : Ends steps x good fun _ _ => False) :
    ∃ value y, steps.run x = .ok value y ∧ good value y := by
  unfold Ends at h
  split at h
  next value y hrun => exact ⟨value, y, hrun, h⟩
  · exact h.elim

theorem of_error (h : Ends steps x good bad) {cause : ε} {y : σ}
    (hrun : steps.run x = .error cause y) : bad cause y := by
  unfold Ends at h
  rw [hrun] at h
  exact h

end Ends

/-- However the steps end, `R` relates the state before them to the state after them. -/
def Moves (R : σ → σ → Prop) (steps : EStateM ε σ α) : Prop :=
  ∀ x, Ends steps x (fun _ y => R x y) (fun _ y => R x y)

/-- A relation that holds of doing nothing and of doing one thing after another. -/
structure Composes (R : σ → σ → Prop) : Prop where
  refl : ∀ x, R x x
  trans : ∀ {x y z}, R x y → R y z → R x z

/-- What holds of the first state holds of the second. -/
def Preserves (P : σ → Prop) (x y : σ) : Prop :=
  P x → P y

theorem preserves_composes (P : σ → Prop) : Composes (Preserves P) where
  refl _ := id
  trans h h' := h' ∘ h

namespace Moves

variable {R : σ → σ → Prop}

theorem pure (hR : Composes R) (value : α) : Moves R (pure value : EStateM ε σ α) :=
  fun x => hR.refl x

theorem throw (hR : Composes R) (cause : ε) : Moves R (throw cause : EStateM ε σ α) :=
  fun x => hR.refl x

theorem get (hR : Composes R) : Moves R (get : EStateM ε σ σ) :=
  fun x => hR.refl x

theorem bind (hR : Composes R) {steps : EStateM ε σ α} {next : α → EStateM ε σ β}
    (h : Moves R steps) (hnext : ∀ value, Moves R (next value)) : Moves R (steps >>= next) := by
  intro x
  refine Ends.bind ((h x).imp ?_ fun _ _ hy => hy)
  intro value y hxy
  exact (hnext value y).imp (fun _ _ hyz => hR.trans hxy hyz) (fun _ _ hyz => hR.trans hxy hyz)

theorem map (hR : Composes R) {steps : EStateM ε σ α} (f : α → β) (h : Moves R steps) :
    Moves R (f <$> steps) :=
  bind hR h fun value => pure hR (f value)

theorem ite {c : Prop} [Decidable c] {first second : EStateM ε σ α} (hfirst : Moves R first)
    (hsecond : Moves R second) : Moves R (if c then first else second) := by
  split
  · exact hfirst
  · exact hsecond

end Moves

namespace ExchangeM

variable {W : Type} {R : Exchange W → Exchange W → Prop}

section Ends

variable {x : Exchange W} {good : Unit → Exchange W → Prop} {bad : ε → Exchange W → Prop}

theorem ends_inbound {good : α → Exchange W → Prop} {ending : ε} {reader : QueueM α} {value : α}
    {queue : FrameQueue} (hread : reader x.network.inbound = .ok value queue)
    (h : good value { x with network.inbound := queue }) :
    Ends (inbound ending reader : ExchangeM W ε α) x good bad := by
  unfold Ends inbound
  dsimp only [EStateM.run]
  rw [hread]
  exact h

theorem ends_perform {operation : StateM W α} {good : α → Exchange W → Prop}
    (h : good (operation x.world).1 { x with world := (operation x.world).2 }) :
    Ends (perform operation : ExchangeM W ε α) x good bad := h

theorem ends_modifySession {change : Session → Session}
    (h : good () { x with session := change x.session }) :
    Ends (modifySession change : ExchangeM W ε Unit) x good bad := h

theorem ends_modifyNetwork {change : NetworkLayer → NetworkLayer}
    (h : good () { x with network := change x.network }) :
    Ends (modifyNetwork change : ExchangeM W ε Unit) x good bad := h

theorem ends_modifyTransport {change : Transport → Transport}
    (h : good () { x with transport := change x.transport }) :
    Ends (modifyTransport change : ExchangeM W ε Unit) x good bad := h

theorem ends_modifyAccess {change : ChannelAccess → ChannelAccess}
    (h : good () { x with access := change x.access }) :
    Ends (modifyAccess change : ExchangeM W ε Unit) x good bad := h

end Ends

/-- Whoever has read from the inbound frame has changed nothing else. -/
theorem exists_of_inbound {ending : ε} {reader : QueueM α} {value : α} {x y : Exchange W}
    (h : (inbound ending reader : ExchangeM W ε α).run x = .ok value y) :
    ∃ queue, reader x.network.inbound = .ok value queue ∧
      y = { x with network.inbound := queue } := by
  unfold inbound at h
  dsimp only [EStateM.run] at h
  split at h
  next hread =>
    cases h
    exact ⟨_, hread, rfl⟩
  · cases h

theorem moves_inbound (h : ∀ x queue, R x { x with network.inbound := queue }) (ending : ε)
    (reader : QueueM α) : Moves R (inbound ending reader : ExchangeM W ε α) := by
  intro x
  unfold Ends inbound
  dsimp only [EStateM.run]
  cases reader x.network.inbound with
  | ok value queue => exact h x queue
  | error cause queue => exact h x queue

theorem moves_modifySession {change : Session → Session}
    (h : ∀ x : Exchange W, R x { x with session := change x.session }) :
    Moves R (modifySession change : ExchangeM W ε Unit) := h

theorem moves_modifyNetwork {change : NetworkLayer → NetworkLayer}
    (h : ∀ x : Exchange W, R x { x with network := change x.network }) :
    Moves R (modifyNetwork change : ExchangeM W ε Unit) := h

theorem moves_modifyTransport {change : Transport → Transport}
    (h : ∀ x : Exchange W, R x { x with transport := change x.transport }) :
    Moves R (modifyTransport change : ExchangeM W ε Unit) := h

theorem moves_modifyAccess {change : ChannelAccess → ChannelAccess}
    (h : ∀ x : Exchange W, R x { x with access := change x.access }) :
    Moves R (modifyAccess change : ExchangeM W ε Unit) := h

theorem moves_perform {operation : StateM W α}
    (h : ∀ x : Exchange W, R x { x with world := (operation x.world).2 }) :
    Moves R (perform operation : ExchangeM W ε α) := h

/-- However steps end whose early end is a score too, their score has the property. -/
theorem score_of_ends {steps : ExchangeM W Score Score} {x : Exchange W}
    {good : Score → Exchange W → Prop} (h : Ends steps x good good) :
    good (score steps x).1 (score steps x).2 := by
  unfold score
  split
  next hrun => exact h.of_ok hrun
  next hrun => exact h.of_error hrun

end ExchangeM

end Mode2
