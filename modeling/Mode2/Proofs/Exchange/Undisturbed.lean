import Mode2.Proofs.Environment.View
import Mode2.Proofs.Exchange.Changes

/-!
# What processing a frame leaves alone

A dialog keeps its slot whatever frame arrives in it, its turn changes at most to respond,
and no retries are gained. Reading the header also leaves the outgoing frame and the
dialog's substate as they are. The radio is never called.
-/

namespace Mode2.Exchange

variable {W V : Type} {env : Environment W} {view : W → V}

/-- The dialog keeps its slot, and `view` sees no change of the world. -/
structure Kept (view : W → V) (x y : Exchange W) : Prop where
  slot : y.session.slot = x.session.slot
  view : view y.world = view x.world

/-- Moreover the outgoing frame and the substate of the dialog are the same. -/
structure Undisturbed (view : W → V) (x y : Exchange W) : Prop extends Kept view x y where
  substate : y.session.netState.substate = x.session.netState.substate
  outbound : y.network.outbound = x.network.outbound

theorem kept_composes (view : W → V) : Composes (Kept view) where
  refl _ := ⟨rfl, rfl⟩
  trans h h' := ⟨h'.slot.trans h.slot, h'.view.trans h.view⟩

theorem undisturbed_composes (view : W → V) : Composes (Undisturbed view) where
  refl _ := ⟨⟨rfl, rfl⟩, rfl, rfl⟩
  trans h h' :=
    ⟨(kept_composes view).trans h.toKept h'.toKept, h'.substate.trans h.substate,
      h'.outbound.trans h.outbound⟩

theorem readsHeader_undisturbed (h : env.OnlyRadio view) : ReadsHeader env (Undisturbed view) where
  toComposes := undisturbed_composes view
  inbound _ _ := ⟨⟨rfl, rfl⟩, rfl, rfl⟩
  header _ _ _ _ := ⟨⟨rfl, rfl⟩, rfl, rfl⟩
  dialog _ _ _ _ _ := ⟨⟨rfl, rfl⟩, rfl, rfl⟩
  decrypt cipher hcipher key bytes x :=
    ⟨⟨rfl, h.decrypt cipher hcipher key bytes x.world⟩, rfl, rfl⟩

/-- Reading a header disturbs nothing. -/
theorem undisturbed_read (h : env.OnlyRadio view) (c : Config) :
    Moves (Undisturbed view) (HeaderM.read env c) :=
  (readsHeader_undisturbed h).moves_read c

/-- Reading a header leaves the transport layer, and who speaks next. -/
theorem readsHeader_awaiting (env : Environment W) :
    ReadsHeader env fun x y => y.transport = x.transport ∧
      y.session.netState.substate = x.session.netState.substate where
  refl _ := ⟨rfl, rfl⟩
  trans h h' := ⟨h'.1.trans h.1, h'.2.trans h.2⟩
  inbound _ _ := ⟨rfl, rfl⟩
  header _ _ _ _ := ⟨rfl, rfl⟩
  dialog _ _ _ _ _ := ⟨rfl, rfl⟩
  decrypt _ _ _ _ _ := ⟨rfl, rfl⟩

theorem receivesFrame_kept (h : env.OnlyRadio view) : ReceivesFrame env (Kept view) where
  toComposes := kept_composes view
  network _ _ := ⟨rfl, rfl⟩
  transport _ _ _ := ⟨rfl, rfl⟩
  response _ _ _ := ⟨rfl, rfl⟩
  access _ _ _ := ⟨rfl, rfl⟩
  session _ _ hslot _ := ⟨hslot, rfl⟩
  decrypt cipher hcipher key bytes x := ⟨rfl, h.decrypt cipher hcipher key bytes x.world⟩
  query user template target x := ⟨rfl, h.query user template target x.world⟩
  answer user call queue x := ⟨rfl, h.answer user call queue x.world⟩
  complete x := ⟨rfl, h.complete x.network x.world⟩
  datagrams deliver hdeliver id source destination bytes x :=
    ⟨rfl, h.datagrams deliver hdeliver id source destination bytes x.world⟩
  router judge hjudge route bytes x := ⟨rfl, h.router judge hjudge route bytes x.world⟩

/-- Whatever frame arrives in a dialog, the dialog keeps its slot and the radio is not
called. -/
theorem kept_receive (h : env.OnlyRadio view) (c : Config) (x : Exchange W) :
    Kept view x (x.receive env c).2 :=
  (receivesFrame_kept h).receive c x

theorem receivesFrame_mayFollow (env : Environment W) :
    ReceivesFrame env fun x y => y.session.MayFollow x.session where
  refl _ := .inl rfl
  trans h h' := h'.elim (fun hsame => h.imp hsame.trans hsame.trans) .inr
  network _ _ := .inl rfl
  transport _ _ _ := .inl rfl
  response _ _ _ := .inl rfl
  access _ _ _ := .inl rfl
  session _ _ _ h := h
  decrypt _ _ _ _ _ := .inl rfl
  query _ _ _ _ := .inl rfl
  answer _ _ _ _ := .inl rfl
  complete _ := .inl rfl
  datagrams _ _ _ _ _ _ _ := .inl rfl
  router _ _ _ _ _ := .inl rfl

/-- Whatever frame arrives, it remains whose turn it is in the dialog, or the dialog is to
respond. -/
theorem mayFollow_receive (env : Environment W) (c : Config) (x : Exchange W) :
    (x.receive env c).2.session.MayFollow x.session :=
  (receivesFrame_mayFollow env).receive c x

/-- No retries are gained. -/
def Spares (x y : Exchange W) : Prop :=
  y.access.retries ≤ x.access.retries

theorem receivesFrame_spares (env : Environment W) : ReceivesFrame env Spares where
  refl _ := UInt8.le_refl _
  trans h h' := UInt8.le_trans h' h
  network _ _ := UInt8.le_refl _
  transport _ _ _ := UInt8.le_refl _
  response _ _ _ := UInt8.le_refl _
  access _ _ hretries := hretries
  session _ _ _ _ := UInt8.le_refl _
  decrypt _ _ _ _ _ := UInt8.le_refl _
  query _ _ _ _ := UInt8.le_refl _
  answer _ _ _ _ := UInt8.le_refl _
  complete _ := UInt8.le_refl _
  datagrams _ _ _ _ _ _ _ := UInt8.le_refl _
  router _ _ _ _ _ := UInt8.le_refl _

/-- Whatever frame arrives, it brings no retries. -/
theorem retries_receive (env : Environment W) (c : Config) (x : Exchange W) :
    (x.receive env c).2.access.retries ≤ x.access.retries :=
  (receivesFrame_spares env).receive c x

end Mode2.Exchange
