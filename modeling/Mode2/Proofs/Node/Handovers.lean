import Mode2.Proofs.ChannelAccess.Draws
import Mode2.Proofs.Environment.Record
import Mode2.Proofs.Node.Retries

/-!
# Retries pay for handing over a frame

While a node contends for a channel it hands its frame to the radio, perhaps more than
once. The first time is free; every later one is paid for by a retry, and each retry is
taken from those that are left.
-/

namespace Mode2

variable {W : Type} {env : Environment W} {calls : W → List RadioCall}

/-- The frames that the radio was handed, the latest first. -/
def handedFrames (calls : W → List RadioCall) (w : W) : List (List UInt8) :=
  (calls w).filterMap RadioCall.frame?

theorem handedFrames_of_calls {w w' : W} (h : calls w' = calls w) :
    handedFrames calls w' = handedFrames calls w := by
  rw [handedFrames, h, handedFrames]

namespace Environment.Records

theorem handed_listen (h : env.Records calls) (channel : UInt8) (timeout : Ticks) (w : W) :
    handedFrames calls (env.radio.listen channel timeout w).2 = handedFrames calls w := by
  rw [handedFrames, h.listen, List.filterMap_cons_none rfl, handedFrames]

theorem handed_assess (h : env.Records calls) (channel : UInt8) (w : W) :
    handedFrames calls (env.radio.assess channel w).2 = handedFrames calls w := by
  rw [handedFrames, h.assess, List.filterMap_cons_none rfl, handedFrames]

theorem handed_transmit (h : env.Records calls) (channel : UInt8) (frame : List UInt8) (w : W) :
    handedFrames calls (env.radio.transmit channel frame w).2 =
      frame :: handedFrames calls w := by
  rw [handedFrames, h.transmit]
  exact List.filterMap_cons_some rfl

theorem handed_idle (h : env.Records calls) (w : W) :
    handedFrames calls (env.radio.idle w).2 = handedFrames calls w := by
  rw [handedFrames, h.idle, List.filterMap_cons_none rfl, handedFrames]

end Environment.Records

/-- How often a frame may have been handed over without a retry: not at all while the
first attempt is still to come. After a retry the next attempt is the one to come. -/
def Phase.free : Phase → Nat
  | .pausing | .assessing => 0
  | .sending | .idle | .listening => 1

theorem Phase.free_le_one (p : Phase) : p.free ≤ 1 := by
  cases p <;> decide

/-- The retries come out of those that are left, and pay for every time that the frame
was handed over beyond the one that is free, when it was handed over `earlier` times
before. -/
structure Pays (calls : W → List RadioCall) (earlier : Nat) (n : Node W) (t : Tallied W) :
    Prop where
  retries : t.retries.length + t.node.access.retries.toNat ≤ n.access.retries.toNat
  handed : ∃ count,
    handedFrames calls t.node.world =
      List.replicate count n.network.outbound.written ++ handedFrames calls n.world ∧
    earlier + count ≤ t.retries.length + t.node.phase.free

namespace Pays

variable {earlier : Nat} {n m : Node W} {t u : Tallied W}

/-- Nothing is handed over. -/
theorem of_same (hretries : t.retries.length + t.node.access.retries.toNat ≤
      n.access.retries.toNat)
    (hhanded : handedFrames calls t.node.world = handedFrames calls n.world)
    (hfree : earlier ≤ t.retries.length + t.node.phase.free) : Pays calls earlier n t :=
  ⟨hretries, 0, by simpa using hhanded, by simpa using hfree⟩

/-- Only the retries left, the frame and what was handed over matter of the start. -/
theorem congr (h : Pays calls earlier m t) (hretries : m.access.retries = n.access.retries)
    (hnetwork : m.network = n.network)
    (hhanded : handedFrames calls m.world = handedFrames calls n.world) :
    Pays calls earlier n t := by
  obtain ⟨hpaid, count, hcount, hfree⟩ := h
  rw [hretries] at hpaid
  rw [hnetwork, hhanded] at hcount
  exact ⟨hpaid, count, hcount, hfree⟩

theorem of_le {earlier' : Nat} (h : Pays calls earlier n t) (hle : earlier' ≤ earlier) :
    Pays calls earlier' n t := by
  obtain ⟨hpaid, count, hcount, hfree⟩ := h
  exact ⟨hpaid, count, hcount, by omega⟩

/-- In a pause nothing is free, so that what follows starts anew. -/
theorem trans (h : Pays calls earlier n t) (hphase : t.node.phase = .pausing)
    (hnetwork : t.node.network = n.network) (h' : Pays calls 0 t.node u) :
    Pays calls earlier n (t.andThen u) := by
  obtain ⟨hpaid, first, hfirst, hfree⟩ := h
  obtain ⟨hpaid', second, hsecond, hfree'⟩ := h'
  rw [hphase, Phase.free] at hfree
  rw [hnetwork] at hsecond
  refine ⟨?_, second + first, ?_, ?_⟩
  · rw [Tallied.retries_andThen, Tallied.node_andThen, List.length_append]
    omega
  · rw [Tallied.node_andThen, hsecond, hfirst, ← List.append_assoc, List.replicate_append_replicate]
  · rw [Tallied.retries_andThen, Tallied.node_andThen, List.length_append]
    omega

end Pays

namespace Tallied

open ChannelAccess

variable {n : Node W}

theorem pays_endSession (h : env.Records calls) (n : Node W) :
    Pays calls 1 n (plain (n.endSession env)) := by
  apply Pays.of_same
  · exact Nat.le_of_eq (Nat.zero_add _)
  · exact h.handed_idle n.world
  · exact Nat.le_refl 1

/-- After a failed transmission the frame has been handed over. -/
theorem pays_retry (h : env.Records calls) (n : Node W) : Pays calls 1 n (retry env n) := by
  cases hspent : n.access.spendRetry with
  | none =>
      have heq : retry env n = plain (n.endSession env) := by simp [retry, hspent]
      rw [heq]
      exact pays_endSession h n
  | some access =>
      have hretries := retries_spendRetry hspent
      have heq : retry env n =
          ⟨[.transmission], ({ n with access } : Node W).pause access.guardTime⟩ := by
        simp [retry, hspent]
      rw [heq]
      apply Pays.of_same
      · dsimp only [Node.pause, List.length_singleton]
        omega
      · rfl
      · exact Nat.le_refl 1

theorem pays_send (h : env.Records calls) (channel : UInt8) (n : Node W) :
    Pays calls 0 n (send env channel n) := by
  have htransmit := h.handed_transmit channel n.network.outbound.written n.world
  rcases hsent : env.radio.transmit channel n.network.outbound.written n.world with
    ⟨cause | _, world⟩
  all_goals rw [hsent] at htransmit
  · have heq : send env channel n = retry env { n with world } := by simp [send, hsent]
    rw [heq]
    -- One handover by this attempt, then whatever giving up or trying again makes of it.
    obtain ⟨hpaid, count, hcount, hfree⟩ := pays_retry h ({ n with world } : Node W)
    refine ⟨hpaid, count + 1, ?_, by omega⟩
    rw [hcount]
    simp [htransmit, List.replicate_succ']
  · have heq : send env channel n = plain { n with world, phase := .sending } := by
      simp [send, hsent]
    rw [heq]
    exact ⟨Nat.le_of_eq (Nat.zero_add _), 1, htransmit, Nat.le_refl 1⟩

theorem pays_yieldChannel (h : env.Records calls) (n : Node W) :
    Pays calls 0 n (yieldChannel env n) := by
  have hnext := handedFrames_of_calls (view_nextPause h.random n.access n.world)
  cases hpause : (n.access.nextPause env.random n.world).1.1 with
  | some length =>
      simp only [yieldChannel, hpause]
      apply Pays.of_same
      · simp [Node.pause]
      · exact hnext
      · exact Nat.zero_le _
  | none =>
      cases hspent : (n.access.nextPause env.random n.world).1.2.spendRetry with
      | some spent =>
          have hretries := retries_spendRetry hspent
          rw [retries_nextPause] at hretries
          simp only [yieldChannel, hpause, hspent]
          apply Pays.of_same
          · simp only [Node.pause, retries_beginSequence, List.length_singleton]
            omega
          · refine Eq.trans (handedFrames_of_calls ?_) hnext
            exact view_beginSequence h.random _ _ _
          · exact Nat.zero_le _
      | none =>
          simp only [yieldChannel, hpause, hspent]
          have hended := pays_endSession h
            { n with
              access := (n.access.nextPause env.random n.world).1.2
              world := (n.access.nextPause env.random n.world).2 }
          exact (Pays.congr (n := n) hended (by simp) rfl hnext).of_le (Nat.zero_le 1)

theorem pays_attempt (h : env.Records calls) (n : Node W) : Pays calls 0 n (attempt env n) := by
  cases hchannel : n.access.txChannel? with
  | none =>
      have heq : attempt env n = plain (n.endSession env) := by simp [attempt, hchannel]
      rw [heq]
      exact (pays_endSession h n).of_le (Nat.zero_le 1)
  | some channel =>
      by_cases halgorithm : n.access.algorithm = .uncontended
      · have heq : attempt env n = send env channel n := by
          simp [attempt, hchannel, halgorithm]
        rw [heq]
        exact pays_send h channel n
      · have hassess := h.handed_assess channel n.world
        rcases hassessed : env.radio.assess channel n.world with ⟨cause | _, world⟩
        all_goals rw [hassessed] at hassess
        · have heq : attempt env n = yieldChannel env { n with world } := by
            simp [attempt, hchannel, halgorithm, hassessed]
          rw [heq]
          exact (pays_yieldChannel h _).congr rfl rfl hassess
        · have heq : attempt env n = plain { n with world, phase := .assessing } := by
            simp [attempt, hchannel, halgorithm, hassessed]
          rw [heq]
          exact .of_same (Nat.le_of_eq (Nat.zero_add _)) hassess (Nat.zero_le _)

theorem phase_of_due (hdue : n.isDue = true) : n.phase = .pausing := by
  simpa using (Bool.and_eq_true_iff.mp hdue).1

/-- Every attempt pays, and another attempt is due only in a pause. -/
theorem pays_settle (h : env.Records calls) (n : Node W) : Pays calls 0 n (settle env n) := by
  induction n using Node.settle.induct env with
  | case1 n hdue next hnext ih =>
      rw [settle_of_attempts hdue hnext]
      apply (pays_attempt h n).trans
      · rw [node_attempt]
        exact phase_of_due hnext
      · rw [node_attempt]
        exact (Node.steady_attempt n).network
      · rw [node_attempt]
        exact ih
  | case2 n hdue next hnext =>
      rw [settle_of_attempt hdue (by simpa using hnext)]
      exact pays_attempt h n
  | case3 n hdue =>
      rw [settle_of_not_due (by simpa using hdue)]
      exact .of_same (Nat.le_of_eq (Nat.zero_add _)) rfl (Nat.zero_le _)

theorem pays_settled (h : env.Records calls) {earlier : Nat} {t : Tallied W}
    (hpays : Pays calls earlier n t) (hnetwork : t.node.network = n.network) :
    Pays calls earlier n (t.settled env) := by
  cases hdue : t.node.isDue with
  | true => exact hpays.trans (phase_of_due hdue) hnetwork (pays_settle h t.node)
  | false =>
      rw [settled, settle_of_not_due hdue]
      obtain ⟨hpaid, hhanded⟩ := hpays
      exact ⟨by simpa [andThen] using hpaid, by simpa [andThen] using hhanded⟩

theorem pays_beginSending (h : env.Records calls) (s : Session) (n : Node W) :
    Pays calls 0 n (beginSending env s n) := by
  unfold beginSending
  split
  · exact (pays_endSession h n).of_le (Nat.zero_le 1)
  · apply (pays_settle h (n.begun env s)).congr
    · simp only [Node.begun, Node.pause, retries_beginSequence]
      split <;> rfl
    · rfl
    · exact handedFrames_of_calls (view_beginSequence h.random _ _ _)

end Tallied

end Mode2
