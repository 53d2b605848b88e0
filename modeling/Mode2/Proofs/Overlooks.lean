import Mode2.Proofs.Steps

/-!
# Changes that steps overlook

Steps overlook a change of the state when it makes no difference to them: whether the
state is changed before them or after them, they end in the same way and leave the same
state. A condition on the states goes along, so that it may be used on the way.
-/

namespace Mode2

variable {ε σ α β : Type}

/-- From a state that satisfies `P` the steps end in the same way whether the state is
changed before or after them, and leave a state that satisfies `P`. -/
def Overlooks (change : σ → σ) (P : σ → Prop) (steps : EStateM ε σ α) : Prop :=
  ∀ x, P x → Ends steps x
    (fun value y => steps.run (change x) = .ok value (change y) ∧ P y)
    (fun cause y => steps.run (change x) = .error cause (change y) ∧ P y)

namespace Overlooks

variable {change : σ → σ} {P : σ → Prop}

theorem pure (value : α) : Overlooks change P (pure value : EStateM ε σ α) :=
  fun _ hx => ⟨rfl, hx⟩

theorem throw (cause : ε) : Overlooks change P (throw cause : EStateM ε σ α) :=
  fun _ hx => ⟨rfl, hx⟩

theorem bind {steps : EStateM ε σ α} {next : α → EStateM ε σ β} (h : Overlooks change P steps)
    (hnext : ∀ value, Overlooks change P (next value)) : Overlooks change P (steps >>= next) := by
  intro x hx
  refine Ends.bind ((h x hx).imp ?_ ?_)
  · rintro value y ⟨hrun, hy⟩
    refine (hnext value y hy).imp ?_ ?_
    · rintro value' z ⟨hrun', hz⟩
      exact ⟨by rw [EStateM.run_bind, hrun]; exact hrun', hz⟩
    · rintro cause z ⟨hrun', hz⟩
      exact ⟨by rw [EStateM.run_bind, hrun]; exact hrun', hz⟩
  · rintro cause y ⟨hrun, hy⟩
    exact ⟨by rw [EStateM.run_bind, hrun], hy⟩

/-- Steps may look at the state as far as the change leaves what they do. -/
theorem get_bind {next : σ → EStateM ε σ β} (hsame : ∀ x, next (change x) = next x)
    (hnext : ∀ x, P x → Overlooks change P (next x)) :
    Overlooks change P (get >>= next) := by
  intro x hx
  have h := hnext x hx x hx
  refine Ends.bind (Ends.get (h.imp ?_ ?_))
  · rintro value y ⟨hrun, hy⟩
    exact ⟨by rw [EStateM.run_bind]; simpa [hsame] using hrun, hy⟩
  · rintro cause y ⟨hrun, hy⟩
    exact ⟨by rw [EStateM.run_bind]; simpa [hsame] using hrun, hy⟩

theorem map {steps : EStateM ε σ α} (f : α → β) (h : Overlooks change P steps) :
    Overlooks change P (f <$> steps) :=
  bind h fun value => pure (f value)

theorem ite {c : Prop} [Decidable c] {first second : EStateM ε σ α}
    (hfirst : Overlooks change P first) (hsecond : Overlooks change P second) :
    Overlooks change P (if c then first else second) := by
  split
  · exact hfirst
  · exact hsecond

/-- Steps through a list overlook the change if the steps for each element do. -/
theorem mapM {f : β → EStateM ε σ α} (h : ∀ b, Overlooks change P (f b)) (l : List β) :
    Overlooks change P (l.mapM f) := by
  induction l with
  | nil => exact pure []
  | cons b rest ih =>
      rw [List.mapM_cons]
      exact bind (h b) fun _ => bind ih fun _ => pure _

end Overlooks

end Mode2
