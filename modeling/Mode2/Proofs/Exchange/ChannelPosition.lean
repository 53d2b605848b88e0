import Mode2.Proofs.ChannelAccess.Channel
import Mode2.Proofs.Exchange.Changes

/-!
# The position in the list of channels

Contention moves along a list of channels, and the position of its last attempt outlives it.
Setting a single channel goes back to the first position. Whoever writes the list itself
keeps the position, and so does a request that lists channels for its response: such a list
is begun wherever the list before it was left.
-/

namespace Mode2

variable {W : Type} {env : Environment W}

namespace ChannelAccess

/-- The position in the list of channels is the same, or it is the first one. -/
def KeepsPosition (a b : ChannelAccess) : Prop :=
  b.txIndex = a.txIndex ∨ b.txIndex = 0

variable {a b : ChannelAccess}

theorem keepsPosition_composes : Composes KeepsPosition where
  refl _ := .inl rfl
  trans h h' := h'.elim (fun hsame => h.imp hsame.trans hsame.trans) .inr

theorem KeepsPosition.of_eq (h : b = a) : KeepsPosition a b :=
  .inl (congrArg txIndex h)

theorem KeepsPosition.of_spendRetry (h : a.spendRetry = some b) : KeepsPosition a b := by
  rw [spendRetry_eq_some h]
  exact .inl rfl

/-- A position that has been kept and is not the first one was there before. -/
theorem KeepsPosition.eq_of_ne (h : KeepsPosition a b) (hposition : b.txIndex ≠ 0) :
    b.txIndex = a.txIndex :=
  h.resolve_right hposition

end ChannelAccess

namespace Exchange

/-- From one exchange to the other the position in the list of channels is kept. -/
def KeepsPosition (x y : Exchange W) : Prop :=
  x.access.KeepsPosition y.access

theorem keepsPosition_composes : Composes (KeepsPosition (W := W)) where
  refl x := ChannelAccess.keepsPosition_composes.refl x.access
  trans h h' := ChannelAccess.keepsPosition_composes.trans h h'

theorem readsWindow_keepsPosition : ReadsWindow (KeepsPosition (W := W)) where
  toComposes := keepsPosition_composes
  inbound _ _ := .inl rfl
  params _ _ := .inl rfl
  window _ _ := .inl rfl
  single _ _ := .inr rfl
  channels _ _ := .inl rfl

theorem readsHeader_keepsPosition (env : Environment W) : ReadsHeader env KeepsPosition where
  toComposes := keepsPosition_composes
  inbound _ _ := .inl rfl
  header _ _ _ _ := .inl rfl
  dialog _ _ _ _ _ := .inl rfl
  decrypt _ _ _ _ _ := .inl rfl

theorem runsQueries_keepsPosition (env : Environment W) : RunsQueries env KeepsPosition where
  toComposes := keepsPosition_composes
  inbound _ _ := .inl rfl
  transport _ _ _ := .inl rfl
  listen _ := .inl rfl
  query _ _ _ _ := .inl rfl

theorem carriesOut_keepsPosition (env : Environment W) : CarriesOut env KeepsPosition where
  toComposes := keepsPosition_composes
  network _ _ := .inl rfl
  transport _ _ _ := .inl rfl
  session _ _ _ _ := .inl rfl
  answer _ _ _ _ := .inl rfl
  complete _ := .inl rfl
  datagrams _ _ _ _ _ _ _ := .inl rfl

/-- No frame moves the position anywhere but to the first one. -/
theorem keepsPosition_receive (env : Environment W) (c : Config) (x : Exchange W) :
    KeepsPosition x (x.receive env c).2 := by
  have hcarries := carriesOut_keepsPosition env
  apply hcarries.receive (readsHeader_keepsPosition env) _ fun _ _ _ _ _ => .inl rfl
  apply hcarries.moves_handleData fun _ _ _ => .inl rfl
  exact fun kind => hcarries.moves_handleRequest readsWindow_keepsPosition
    (runsQueries_keepsPosition env)

end Exchange

end Mode2
