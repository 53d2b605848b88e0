import Mode2.Proofs.Steps

/-!
# Two runs side by side

Steps that are run from two states agree when they end in the same way: with the same value, or
stopping early, in states that are related again. Where it is not sure that they do, only what
becomes of two runs that both yield a value is told. Two runs meet when the states that they
reach are related however each of them ends. Both are taken apart along the steps. Neither state
has to be made from the other, as it is where steps overlook a change.
-/

namespace Mode2

variable {ε σ α β : Type} {sure : Prop} {E : σ → σ → Prop}

/-- Two runs agree: both yield the same value and reach states that `S` relates, or both stop in
states that `E` relates. Unless they are `sure` to agree, one of them may stop when the other
yields a value. -/
def Agree (sure : Prop) (E : σ → σ → Prop) (S : α → σ → σ → Prop) (steps : EStateM ε σ α) (x : σ)
    (steps' : EStateM ε σ α) (x' : σ) : Prop :=
  Ends steps x
    (fun value y => Ends steps' x' (fun value' y' => value = value' ∧ S value y y')
      fun _ _ => ¬sure)
    fun _ y => Ends steps' x' (fun _ _ => ¬sure) fun _ y' => sure → E y y'

/-- Two runs meet: however each of them ends, `E` relates the states that they reach. -/
def Meet (E : σ → σ → Prop) (steps : EStateM ε σ α) (x : σ) (steps' : EStateM ε σ β) (x' : σ) :
    Prop :=
  Ends steps x (fun _ y => Ends steps' x' (fun _ => E y) fun _ => E y)
    fun _ y => Ends steps' x' (fun _ => E y) fun _ => E y

namespace Agree

variable {S : α → σ → σ → Prop} {T : β → σ → σ → Prop} {steps steps' : EStateM ε σ α} {x x' : σ}

theorem imp {S' : α → σ → σ → Prop} (h : Agree sure E S steps x steps' x')
    (hS : ∀ value y y', S value y y' → S' value y y') : Agree sure E S' steps x steps' x' := by
  apply Ends.imp h
  · intro value y hy
    exact hy.imp (fun _ _ ⟨heq, hsame⟩ => ⟨heq, hS _ _ _ hsame⟩) fun _ _ hother => hother
  · exact fun _ _ hy => hy

theorem pure {value : α} (h : S value x x') :
    Agree sure E S (pure value : EStateM ε σ α) x (Pure.pure value) x' :=
  ⟨rfl, h⟩

theorem throw {cause cause' : ε} (h : sure → E x x') :
    Agree sure E S (throw cause : EStateM ε σ α) x (throw cause') x' := h

theorem bind {next next' : α → EStateM ε σ β} (h : Agree sure E S steps x steps' x')
    (hnext : ∀ value y y', S value y y' → Agree sure E T (next value) y (next' value) y') :
    Agree sure E T (steps >>= next) x (steps' >>= next') x' := by
  apply Ends.bind
  apply Ends.imp h
  · intro value y hy
    cases hrun' : steps'.run x' with
    | ok value' y' =>
        obtain ⟨rfl, hS⟩ := hy.of_ok hrun'
        apply Ends.imp (hnext value y y' hS)
        · exact fun _ _ hz => Ends.bind_of_ok hrun' hz
        · exact fun _ _ hz => Ends.bind_of_ok hrun' hz
    | error cause' y' =>
        have hother := hy.of_error hrun'
        apply Ends.of_forall
        · exact fun _ _ => Ends.bind_of_error hrun' hother
        · exact fun _ _ => Ends.bind_of_error hrun' fun hsure => absurd hsure hother
  · intro _ y hy
    apply Ends.bind
    apply hy.imp
    · intro _ _ hother
      exact Ends.of_forall (fun _ _ => hother) fun _ _ hsure => absurd hsure hother
    · exact fun _ _ hstop => hstop

/-- Steps that look at the state may go on in different ways. -/
theorem get_bind {next next' : σ → EStateM ε σ β}
    (h : Agree sure E T (next x) x (next' x') x') :
    Agree sure E T (get >>= next) x (get >>= next') x' := h

theorem throw_bind {cause cause' : ε} {next next' : α → EStateM ε σ β} (h : sure → E x x') :
    Agree sure E T (MonadExcept.throw cause >>= next) x (MonadExcept.throw cause' >>= next') x' := h

/-- What is known of each run may be enough for both. -/
theorem of_ends (hsure : ¬sure) {good good' : α → σ → Prop}
    (h : Ends steps x good fun _ _ => True) (h' : Ends steps' x' good' fun _ _ => True)
    (hboth : ∀ {value value' y y'}, good value y → good' value' y' →
      value = value' ∧ S value y y') : Agree sure E S steps x steps' x' := by
  apply h.imp
  · intro value y hy
    exact h'.imp (fun _ _ hy' => hboth hy hy') fun _ _ _ => hsure
  · intro _ y _
    exact h'.imp (fun _ _ _ => hsure) fun _ _ _ hother => absurd hother hsure

/-- Runs that both yield a value yield the same one. -/
theorem of_ok (h : Agree sure E S steps x steps' x') {value value' : α} {y y' : σ}
    (hrun : steps.run x = .ok value y) (hrun' : steps'.run x' = .ok value' y') :
    value = value' ∧ S value y y' :=
  (Ends.of_ok h hrun).of_ok hrun'

/-- After steps that are sure to agree, two runs meet if what follows does. -/
theorem meet {next next' : α → EStateM ε σ β} (h : Agree True E S steps x steps' x')
    (hnext : ∀ value y y', S value y y' → Meet E (next value) y (next' value) y') :
    Meet E (steps >>= next) x (steps' >>= next') x' := by
  apply Ends.bind
  apply Ends.imp h
  · intro value y hy
    cases hrun' : steps'.run x' with
    | ok value' y' =>
        obtain ⟨rfl, hS⟩ := hy.of_ok hrun'
        apply Ends.imp (hnext value y y' hS)
        · exact fun _ _ hz => Ends.bind_of_ok hrun' hz
        · exact fun _ _ hz => Ends.bind_of_ok hrun' hz
    | error cause' y' => exact absurd trivial (hy.of_error hrun')
  · intro _ y hy
    apply Ends.bind
    apply hy.imp
    · exact fun _ _ hother => absurd trivial hother
    · exact fun _ _ hstop => hstop trivial

end Agree

namespace Meet

variable {steps : EStateM ε σ α} {x x' : σ}

theorem throw {cause cause' : ε} (h : E x x') :
    Meet E (throw cause : EStateM ε σ α) x (throw cause' : EStateM ε σ β) x' := h

theorem throw_bind {γ δ : Type} {cause cause' : ε} {next : α → EStateM ε σ γ}
    {next' : β → EStateM ε σ δ} (h : E x x') :
    Meet E (MonadExcept.throw cause >>= next) x (MonadExcept.throw cause' >>= next') x' := h

theorem get_bind {next : σ → EStateM ε σ α} {next' : σ → EStateM ε σ β}
    (h : Meet E (next x) x (next' x') x') : Meet E (get >>= next) x (get >>= next') x' := h

/-- Runs meet in a view of the state that the steps do not change. -/
theorem of_moves {V : Type} (view : σ → V) (hview : view x = view x')
    (h : Moves (fun x y => view y = view x) steps) :
    Meet (fun y y' => view y = view y') steps x steps x' := by
  have hboth : ∀ y, view y = view x →
      Ends steps x' (fun _ y' => view y = view y') fun _ y' => view y = view y' := by
    intro y hy
    apply (h x').imp
    · intro _ y' hy'
      rw [hy, hy', hview]
    · intro _ y' hy'
      rw [hy, hy', hview]
  exact (h x).imp (fun _ y => hboth y) fun _ y => hboth y

end Meet

end Mode2
