import Mode2.Node.Contend
import Mode2.Proofs.ChannelAccess.Channel
import Mode2.Proofs.Session.Order

/-!
# What contention does to a node

Contending for a channel makes attempts until none is due. It ends with the dialog or
with the node waiting for the next attempt, for the channel or for the end of the
transmission. The frame, the other dialogs and the way to contend stay the same.
-/

namespace Mode2

variable {W : Type}

/-- The dialog is about to be transmitted or being transmitted. -/
def Phase.IsTransmitting (p : Phase) : Prop :=
  p = .pausing ∨ p = .assessing ∨ p = .sending

theorem Phase.IsTransmitting.ne_idle {p : Phase} (h : p.IsTransmitting) : p ≠ .idle := by
  rcases h with rfl | rfl | rfl <;> decide

theorem Phase.IsTransmitting.ne_listening {p : Phase} (h : p.IsTransmitting) :
    p ≠ .listening := by
  rcases h with rfl | rfl | rfl <;> decide

namespace Node

variable {env : Environment W}

/-! ## Attempts in a row -/

theorem settle_of_attempts {n : Node W} (hdue : n.isDue = true)
    (hnext : (n.attempt env).isDue = true) : n.settle env = (n.attempt env).settle env := by
  rw [settle, if_pos hdue]
  simp [hnext]

theorem settle_of_attempt {n : Node W} (hdue : n.isDue = true)
    (hdone : (n.attempt env).isDue = false) : n.settle env = n.attempt env := by
  rw [settle, if_pos hdue]
  simp [hdone]

theorem settle_of_not_due {n : Node W} (hdue : n.isDue = false) : n.settle env = n := by
  rw [settle]
  simp [hdue]

/-- What every due attempt keeps is still there when no attempt is due any more. -/
theorem settle_induct {P : Node W → Prop} {n : Node W}
    (hstep : ∀ m : Node W, m.isDue = true → P m → P (m.attempt env)) (h : P n) :
    P (n.settle env) := by
  fun_induction settle env n with
  | case1 n hdue next hnext ih => exact ih (hstep n hdue h)
  | case2 n hdue next hnext => exact hstep n hdue h
  | case3 n hdue => exact h

theorem isDue_settle (n : Node W) : (n.settle env).isDue = false := by
  fun_induction settle env n with
  | case1 n hdue next hnext ih => exact ih
  | case2 n hdue next hnext => simpa using hnext
  | case3 n hdue => simpa using hdue

/-- A pause that no attempt follows at once has time left. -/
theorem countdown_pos_of_not_due {n : Node W} (hphase : n.phase = .pausing)
    (hdue : n.isDue = false) : 0 < n.countdown.count := by
  simpa [isDue, hphase, Span.isZero, Nat.pos_iff_ne_zero] using hdue

/-! ## What is left of the node -/

/-- The dialog has ended and the node rests. -/
structure Ended (n m : Node W) : Prop where
  phase : m.phase = .idle
  sessions : m.sessions = n.sessions.pop
  network : m.network = n.network

/-- The dialog goes on with its transmission. -/
structure Transmits (n m : Node W) : Prop where
  phase : m.phase.IsTransmitting
  sessions : m.sessions = n.sessions
  network : m.network = n.network
  channel : m.access.txChannel?.isSome = true

/-- How contention leaves a node. -/
def Contended (n m : Node W) : Prop :=
  Ended n m ∨ Transmits n m

/-- Only the dialogs and the frame of the node at the start matter. -/
theorem Contended.of_same {n n' m : Node W} (h : Contended n' m)
    (hsessions : n'.sessions = n.sessions) (hnetwork : n'.network = n.network) :
    Contended n m := by
  rcases h with hended | htransmits
  · exact .inl ⟨hended.phase, hsessions ▸ hended.sessions, hended.network.trans hnetwork⟩
  · exact .inr ⟨htransmits.phase, htransmits.sessions.trans hsessions,
      htransmits.network.trans hnetwork, htransmits.channel⟩

theorem ended_endSession (n : Node W) : Ended n (n.endSession env) :=
  ⟨rfl, rfl, rfl⟩

theorem contended_retry {n : Node W} (hchannel : n.access.txChannel?.isSome = true) :
    Contended n (n.retry env) := by
  unfold retry
  split
  next access haccess =>
    rw [← ChannelAccess.txChannel?_spendRetry haccess] at hchannel
    exact .inr ⟨.inl rfl, rfl, rfl, hchannel⟩
  · exact .inl (ended_endSession n)

theorem contended_send {n : Node W} (hchannel : n.access.txChannel?.isSome = true)
    (channel : UInt8) : Contended n (n.send env channel) := by
  unfold send
  split
  · exact .inr ⟨.inr (.inr rfl), rfl, rfl, hchannel⟩
  next cause world _ =>
    have hretry : Contended { n with world } (({ n with world } : Node W).retry env) :=
      contended_retry hchannel
    exact hretry.of_same rfl rfl

theorem contended_yieldChannel {n : Node W} (hchannel : n.access.txChannel?.isSome = true) :
    Contended n (n.yieldChannel env) := by
  have hnext := ChannelAccess.isSome_txChannel?_afterBusy env.random n.world hchannel
  unfold yieldChannel
  dsimp only
  split
  · exact .inr ⟨.inl rfl, rfl, rfl, hnext⟩
  · exact .inl ⟨rfl, rfl, rfl⟩

theorem contended_attempt {n : Node W} (hchannel : n.access.txChannel?.isSome = true) :
    Contended n (n.attempt env) := by
  unfold attempt
  split
  · exact .inl (ended_endSession n)
  next channel _ =>
    split
    · exact contended_send hchannel channel
    · split
      · exact .inr ⟨.inr (.inl rfl), rfl, rfl, hchannel⟩
      next cause world _ =>
        have hyield : Contended { n with world } (({ n with world } : Node W).yieldChannel env) :=
          contended_yieldChannel hchannel
        exact hyield.of_same rfl rfl

/-- An attempt is due only while the dialog is being transmitted. -/
theorem Contended.step {n m k : Node W} (h : Contended n m) (hdue : m.isDue = true)
    (hstep : m.access.txChannel?.isSome = true → Contended m k) : Contended n k := by
  rcases h with hended | htransmits
  · simp [isDue, hended.phase] at hdue
  · exact (hstep htransmits.channel).of_same htransmits.sessions htransmits.network

theorem contended_settle {n m : Node W} (h : Contended n m) : Contended n (m.settle env) :=
  settle_induct (fun _ hdue hm => hm.step hdue contended_attempt) h

/-! ## What contention keeps -/

/-- The frame and the way to contend are the same. -/
structure Steady (n m : Node W) : Prop where
  network : m.network = n.network
  params : m.access.params = n.access.params

theorem Steady.trans {n m k : Node W} (h : Steady n m) (h' : Steady m k) : Steady n k :=
  ⟨h'.network.trans h.network, h'.params.trans h.params⟩

theorem steady_retry (n : Node W) : Steady n (n.retry env) := by
  unfold retry
  split
  next access haccess => exact ⟨rfl, ChannelAccess.params_spendRetry haccess⟩
  · exact ⟨rfl, rfl⟩

theorem steady_send (n : Node W) (channel : UInt8) : Steady n (n.send env channel) := by
  unfold send
  split
  · exact ⟨rfl, rfl⟩
  next cause world _ =>
    obtain ⟨hnetwork, hparams⟩ := steady_retry { n with world }
    exact ⟨hnetwork, hparams⟩

theorem steady_yieldChannel (n : Node W) : Steady n (n.yieldChannel env) := by
  have hparams := ChannelAccess.params_afterBusy env.random n.access n.world
  unfold yieldChannel
  dsimp only
  split <;> exact ⟨rfl, hparams⟩

theorem steady_attempt (n : Node W) : Steady n (n.attempt env) := by
  unfold attempt
  split
  · exact ⟨rfl, rfl⟩
  · split
    · exact steady_send n _
    · split
      · exact ⟨rfl, rfl⟩
      next cause world _ =>
        obtain ⟨hnetwork, hparams⟩ := steady_yieldChannel { n with world }
        exact ⟨hnetwork, hparams⟩

theorem steady_settle {n m : Node W} (h : Steady n m) : Steady n (m.settle env) :=
  settle_induct (fun k _ hk => hk.trans (steady_attempt k)) h

end Node

end Mode2
