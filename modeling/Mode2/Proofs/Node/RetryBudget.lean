import Mode2.Proofs.Node.ActiveDialog
import Mode2.Proofs.Node.RadioConduct
import Mode2.Proofs.Node.Turns

/-!
# The budget of a dialog

A dialog is active from the return of its applet until the node has nothing more to do
for it. The applet leaves a number of retries, and whatever the radio reports in the
meantime, no more are made. Hence the frame of a request is handed to the radio at most
once more than that, always the same, and the frame of a response at most once: when a
response is staged, no retries are left for it.
-/

namespace Mode2

variable {W : Type} {env : Environment W} {calls : W → List RadioCall}

/-! ## What was done for a dialog -/

/-- What was done for a dialog: its retries, and the frames handed to the radio as its
request and as its response, the latest first. -/
structure Ledger where
  retries : List Retry
  requests : List (List UInt8)
  responses : List (List UInt8)

/-- The frames that the radio was handed between two worlds. -/
def newFrames (calls : W → List RadioCall) (w w' : W) : List (List UInt8) :=
  (handedFrames calls w').take ((handedFrames calls w').length - (handedFrames calls w).length)

theorem newFrames_eq {w w' : W} {new : List (List UInt8)}
    (h : handedFrames calls w' = new ++ handedFrames calls w) : newFrames calls w w' = new := by
  simp [newFrames, h]

namespace Ledger

/-- Nothing was done. -/
def empty : Ledger :=
  ⟨[], [], []⟩

/-- What has been done once node `n` has become `t`. A frame belongs to the request as
long as the dialog is to send one. -/
def extend (calls : W → List RadioCall) (ledger : Ledger) (n : Node W) (t : Tallied W) : Ledger :=
  let new := newFrames calls n.world t.node.world
  if n.substate? = some .requestTx then
    { ledger with
      retries := ledger.retries ++ t.retries
      requests := new ++ ledger.requests }
  else
    { ledger with
      retries := ledger.retries ++ t.retries
      responses := new ++ ledger.responses }

end Ledger

/-! ## Keeping the books -/

namespace Ledger

variable {ledger : Ledger} {n : Node W} {t : Tallied W} {new : List (List UInt8)}

theorem extend_of_request (hsubstate : n.substate? = some .requestTx)
    (hnew : handedFrames calls t.node.world = new ++ handedFrames calls n.world) :
    ledger.extend calls n t =
      { ledger with
        retries := ledger.retries ++ t.retries
        requests := new ++ ledger.requests } := by
  rw [extend, if_pos hsubstate, newFrames_eq hnew]

theorem extend_of_response (hsubstate : n.substate? ≠ some .requestTx)
    (hnew : handedFrames calls t.node.world = new ++ handedFrames calls n.world) :
    ledger.extend calls n t =
      { ledger with
        retries := ledger.retries ++ t.retries
        responses := new ++ ledger.responses } := by
  rw [extend, if_neg hsubstate, newFrames_eq hnew]

theorem extend_of_same
    (hhanded : handedFrames calls t.node.world = handedFrames calls n.world) :
    ledger.extend calls n t = { ledger with retries := ledger.retries ++ t.retries } := by
  have hnew : handedFrames calls t.node.world = [] ++ handedFrames calls n.world := hhanded
  by_cases hsubstate : n.substate? = some .requestTx
  · rw [extend_of_request hsubstate hnew, List.nil_append]
  · rw [extend_of_response hsubstate hnew, List.nil_append]

end Ledger

/-- The books of a dialog that began with `budget` retries and with `frame` staged.
While it sends, every retry and every handover is accounted for; it answers at most
once, and without retries. -/
structure Balanced (budget : Nat) (frame : List UInt8) (ledger : Ledger) (n : Node W) : Prop where
  retries : ledger.retries.length + n.access.retries.toNat ≤ budget
  requests : ledger.requests.length ≤ ledger.retries.length + 1
  same : ∀ f ∈ ledger.requests, f = frame
  responses : ledger.responses.length ≤ 1
  staged : ∀ f ∈ ledger.responses, f = n.network.outbound.written
  requesting : n.phase.IsTransmitting → n.substate? = some .requestTx →
    n.network.outbound.written = frame ∧
      ledger.requests.length ≤ ledger.retries.length + n.phase.free
  unanswered : n.phase ≠ .idle → n.substate? ≠ some .responseTx → ledger.responses = []
  responding : n.phase.IsTransmitting → n.substate? = some .responseTx →
    n.access.retries = 0 ∧ ledger.responses.length ≤ n.phase.free

namespace Balanced

variable {budget : Nat} {frame : List UInt8} {ledger : Ledger} {n : Node W} {t : Tallied W}

/-- Before the first handover the books are in order. -/
theorem opened (n : Node W) (hsubstate : n.phase.IsTransmitting → n.substate? ≠ some .responseTx) :
    Balanced n.access.retries.toNat n.network.outbound.written .empty n where
  retries := Nat.le_of_eq (Nat.zero_add _)
  requests := Nat.zero_le _
  same := nofun
  responses := Nat.zero_le _
  staged := nofun
  requesting _ _ := ⟨rfl, Nat.zero_le _⟩
  unanswered _ _ := rfl
  responding hphase hresponse := absurd hresponse (hsubstate hphase)

/-- Nothing was handed over, and the dialog does not send. -/
theorem standsBy (h : Balanced budget frame ledger n)
    (hphase : t.node.phase = .listening ∨ t.node.phase = .idle)
    (hunanswered : t.node.phase = .listening → ledger.responses = [])
    (hretries : t.retries.length + t.node.access.retries.toNat ≤ n.access.retries.toNat)
    (hstaged : ∀ f ∈ ledger.responses, f = t.node.network.outbound.written) :
    Balanced budget frame { ledger with retries := ledger.retries ++ t.retries } t.node := by
  have hsilent : ¬t.node.phase.IsTransmitting := fun hsends =>
    hphase.elim hsends.ne_listening hsends.ne_idle
  have hbudget := h.retries
  have hrequests := h.requests
  have hlength : (ledger.retries ++ t.retries).length =
      ledger.retries.length + t.retries.length := List.length_append
  exact
    { retries := by dsimp only; omega
      requests := by dsimp only; omega
      same := h.same
      responses := h.responses
      staged := hstaged
      requesting := fun hsends => absurd hsends hsilent
      unanswered := fun hactive _ => hunanswered (hphase.resolve_right hactive)
      responding := fun hsends => absurd hsends hsilent }

/-- A request goes on being sent. -/
theorem sendsRequest (h : Balanced budget frame ledger n) (hphase : n.phase.IsTransmitting)
    (hsubstate : n.substate? = some .requestTx) (hstill : Node.StillSends n t.node)
    (hpays : Pays calls n.phase.free n t) :
    Balanced budget frame (ledger.extend calls n t) t.node := by
  obtain ⟨hframe, hfree⟩ := h.requesting hphase hsubstate
  obtain ⟨hpaid, count, hcount, hearlier⟩ := hpays
  have hbudget := h.retries
  have hnone : ledger.responses = [] := h.unanswered hphase.ne_idle (by simp [hsubstate])
  have hbound := t.node.phase.free_le_one
  rw [Ledger.extend_of_request hsubstate hcount]
  have hrequests : (List.replicate count n.network.outbound.written ++
      ledger.requests).length ≤ (ledger.retries ++ t.retries).length + t.node.phase.free := by
    rw [List.length_append, List.length_append, List.length_replicate]
    omega
  exact
    { retries := by rw [List.length_append]; omega
      requests := Nat.le_trans hrequests (Nat.add_le_add_left hbound _)
      same := by
        intro f hf
        rcases List.mem_append.mp hf with hf | hf
        · rw [List.eq_of_mem_replicate hf, hframe]
        · exact h.same f hf
      responses := h.responses
      staged := by simp [hnone]
      requesting := fun _ _ => ⟨hstill.network ▸ hframe, hrequests⟩
      unanswered := fun _ _ => hnone
      responding := by
        intro hsends hresponse
        rcases hstill.phase with hidle | ⟨-, hsame⟩
        · exact absurd hidle hsends.ne_idle
        · simp [hsame, hsubstate] at hresponse }

/-- A response is sent, for which there are no retries. -/
theorem sendsResponse {m : Node W} (h : Balanced budget frame ledger n)
    (horigin : n.substate? ≠ some .requestTx) (hsubstate : m.substate? = some .responseTx)
    (hspent : m.access.retries = 0)
    (hstaged : ∀ f ∈ ledger.responses, f = m.network.outbound.written)
    (hhanded : handedFrames calls m.world = handedFrames calls n.world)
    (hstill : Node.StillSends m t.node) (hpays : Pays calls ledger.responses.length m t) :
    Balanced budget frame (ledger.extend calls n t) t.node := by
  obtain ⟨hpaid, count, hcount, hearlier⟩ := hpays
  have hzero : m.access.retries.toNat = 0 := by rw [hspent]; rfl
  have hbudget := h.retries
  have hbound := t.node.phase.free_le_one
  have hnone : t.retries = [] := List.eq_nil_of_length_eq_zero (by omega)
  have hleft : t.node.access.retries.toNat = 0 := by omega
  rw [hnone, List.length_nil, Nat.zero_add] at hearlier
  rw [Ledger.extend_of_response horigin (hcount.trans (by rw [hhanded])), hnone, List.append_nil]
  have hresponses : (List.replicate count m.network.outbound.written ++
      ledger.responses).length ≤ t.node.phase.free := by
    rw [List.length_append, List.length_replicate]
    omega
  exact
    { retries := by dsimp only; omega
      requests := h.requests
      same := h.same
      responses := Nat.le_trans hresponses hbound
      staged := by
        intro f hf
        rw [hstill.network]
        rcases List.mem_append.mp hf with hf | hf
        · exact List.eq_of_mem_replicate hf
        · exact hstaged f hf
      requesting := by
        intro hsends hrequest
        rcases hstill.phase with hidle | ⟨-, hsame⟩
        · exact absurd hidle hsends.ne_idle
        · simp [hsame, hsubstate] at hrequest
      unanswered := by
        intro hactive hother
        rcases hstill.phase with hidle | ⟨-, hsame⟩
        · exact absurd hidle hactive
        · exact absurd (hsame.trans hsubstate) hother
      responding := fun _ _ => ⟨UInt8.toNat_inj.mp hleft, hresponses⟩ }

/-- The books stay in order, whatever an input does for the dialog. -/
theorem turn (h : Balanced budget frame ledger n) (hn : n.Consistent) (hactive : n.phase ≠ .idle)
    (hturn : Node.Turn calls n t) : Balanced budget frame (ledger.extend calls n t) t.node := by
  cases hturn with
  | waits hretries hphase haccess hnetwork hhanded hsubstate =>
      rw [Ledger.extend_of_same hhanded, hretries, List.append_nil]
      exact
        { retries := haccess ▸ h.retries
          requests := h.requests
          same := h.same
          responses := h.responses
          staged := hnetwork ▸ h.staged
          requesting := by rw [hphase, hsubstate, hnetwork]; exact h.requesting
          unanswered := by rw [hphase, hsubstate]; exact h.unanswered
          responding := by rw [hphase, hsubstate, haccess]; exact h.responding }
  | sends hphase hstill hpays =>
      obtain ⟨⟨u, htop, hsends⟩, -, -⟩ := hn.transmitting hphase
      rcases hsends with hrequest | hresponse
      · exact h.sendsRequest hphase (by simp [Node.substate?, htop, hrequest]) hstill hpays
      · have hsubstate : n.substate? = some .responseTx := by
          simp [Node.substate?, htop, hresponse]
        obtain ⟨hspent, hfree⟩ := h.responding hphase hsubstate
        exact h.sendsResponse (by simp [hsubstate]) hsubstate hspent h.staged rfl hstill
          (hpays.of_le hfree)
  | standsBy hphase hunanswered hretries hnetwork hhanded =>
      rw [Ledger.extend_of_same hhanded]
      apply h.standsBy hphase (fun hlistens => h.unanswered hactive (hunanswered hlistens)) hretries
      rcases hnetwork with hlistens | hnetwork
      · simp [h.unanswered hactive (hn.unanswered hlistens)]
      · exact hnetwork ▸ h.staged
  | answers m hphase hunanswered hsubstate hspent hhanded hstill hpays =>
      have hnone := h.unanswered hactive hunanswered
      obtain ⟨u, htop, hawaits⟩ := hn.listening hphase
      have horigin : n.substate? ≠ some .requestTx := by
        rcases hawaits with hawaits | hawaits <;> simp [Node.substate?, htop, hawaits]
      apply h.sendsResponse horigin hsubstate hspent _ hhanded hstill
      · rw [hnone]
        exact hpays
      · simp [hnone]

end Balanced

/-! ## The course of a dialog -/

/-- After some ticks the dialog on top of an idle node is due, and its applet leaves the
dialog as `s` and the node as `k`. -/
structure Activates (env : Environment W) (custom : CustomApplets W) (elapsed : Ticks) (n : Node W)
    (s : Session) (k : Node W) : Prop where
  idle : n.phase = .idle
  due : ∃ t, (n.sessions.elapse elapsed).top? = some t ∧ t.counter = 0 ∧
    ({ n with sessions := n.sessions.elapse elapsed } : Node W).runApplet env custom t = (s, k)

/-- The node goes on with what the applet has left of the dialog. -/
theorem Activates.step_eq {custom : CustomApplets W} {n k : Node W} {s : Session} {elapsed : Ticks}
    (h : Activates env custom elapsed n s k) :
    n.step env custom (.run elapsed) =
      if s.netState.scrapped then k.endSession env else (k.storeTop s).engage env s := by
  obtain ⟨hidle, t, htop, hdue, hran⟩ := h
  have hrun : n.step env custom (.run elapsed) = _ := Node.run_of_idle hidle elapsed
  rw [hrun, Node.activate_eq env custom htop hdue, hran]

/-- An idle node activates a dialog, or stays idle. -/
theorem activates_or_lapses (env : Environment W) (custom : CustomApplets W) {n : Node W}
    (hidle : n.phase = .idle) (input : Input) :
    (∃ elapsed s k, input = .run elapsed ∧ Activates env custom elapsed n s k) ∨
    Node.Lapses env n (n.step env custom input) := by
  rcases input.requests_or_acts with hrequests | hacts | rfl
  · exact .inr (Node.lapses_of_requests env custom hrequests n)
  · by_cases hdue : ∃ elapsed t, input = .run elapsed ∧
        (n.sessions.elapse elapsed).top? = some t ∧ t.counter = 0
    · obtain ⟨elapsed, t, rfl, htop, hzero⟩ := hdue
      exact .inl ⟨elapsed, _, _, rfl, hidle, t, htop, hzero, rfl⟩
    · rw [Node.step_of_wait hacts hidle fun elapsed hrun t htop hzero =>
        hdue ⟨elapsed, t, hrun, htop, hzero⟩]
      exact .inr ⟨rfl, rfl, rfl, .inl rfl⟩
  · exact .inr ⟨hidle.symm, rfl, rfl, .inr rfl⟩

/-- What is done for a dialog from the return of its applet, which leaves the dialog as
`s` and the node as `k`, for as long as the dialog is active. -/
inductive Course (calls : W → List RadioCall) (custom : CustomApplets W) (n : Node W)
    (s : Session) (k : Node W) : Ledger → Node W → Prop
  | activate {env : Environment W} {elapsed : Ticks} : env.Records calls →
      Activates env custom elapsed n s k →
      Course calls custom n s k
        (Ledger.empty.extend calls (k.storeTop s) (.step env custom n (.run elapsed)))
        (n.step env custom (.run elapsed))
  | step {ledger : Ledger} {m : Node W} {env : Environment W} (input : Input) :
      Course calls custom n s k ledger m → m.phase ≠ .idle → env.Records calls →
      Course calls custom n s k (ledger.extend calls m (.step env custom m input))
        (m.step env custom input)

section Course

variable {custom : CustomApplets W} {n m k : Node W} {s : Session} {t : Tallied W}
  {ledger : Ledger}

/-- A dialog that ends or listens at once has handed nothing over. -/
theorem balanced_of_standsBy {m : Node W} (h : Node.StandsBy calls k m) :
    Balanced k.access.retries.toNat k.network.outbound.written
      (Ledger.empty.extend calls k (.plain m)) m := by
  have hopened := Balanced.opened { k with phase := .listening }
    fun hsends => absurd rfl hsends.ne_listening
  have hretries : k.access.retries.toNat = m.access.retries.toNat := by rw [h.retries]
  rw [Ledger.extend_of_same h.handed]
  exact hopened.standsBy (t := .plain m) h.phase (fun _ => rfl) (by simp [hretries]) nofun

/-- The applet has left a dialog that is to be worked on. -/
theorem balanced_engage (h : env.Records calls)
    (hsubstate : k.substate? = some s.netState.substate) :
    Balanced k.access.retries.toNat k.network.outbound.written
      (Ledger.empty.extend calls k (.engage env s k)) (k.engage env s) := by
  cases hcase : s.netState.substate with
  | requestTx =>
      have heq : Tallied.engage env s k = .beginSending env s k := by
        simp [Tallied.engage, hcase]
      rw [hcase] at hsubstate
      -- The first attempt is still to come, as in a pause.
      have hopened := Balanced.opened { k with phase := .pausing }
        fun _ => by rw [Node.substate?] at hsubstate ⊢; simp [hsubstate]
      have hstill : Node.StillSends k (k.beginSending env s) :=
        Node.stillSends_beginSending s k
      have hsends := hopened.sendsRequest (t := .beginSending env s k) (.inl rfl) hsubstate
        ⟨by rw [Tallied.node_beginSending]; exact hstill.network,
          by rw [Tallied.node_beginSending]; exact hstill.phase⟩
        ((Tallied.pays_beginSending h s k).congr rfl rfl rfl)
      rw [← Tallied.node_engage, heq]
      exact hsends
  | requestRx =>
      simp only [Tallied.engage, Node.engage, hcase]
      exact balanced_of_standsBy (Node.standsBy_listen h _ _ k)
  | responseTx | responseRx =>
      simp only [Tallied.engage, Node.engage, hcase]
      exact balanced_of_standsBy (Node.standsBy_endSession h k)

/-- An applet leaves its dialog scheduled. -/
theorem Node.sessions_runApplet (hcustom : custom.Disciplined) (env : Environment W) {u : Session}
    (htop : n.sessions.top? = some u) :
    (n.runApplet env custom u).2.sessions.sessions ≠ [] := by
  obtain ⟨rest, hsessions⟩ := SessionStack.exists_of_top? htop
  apply (Applet.effect_run hcustom env _ _ _).sessions.grows.ne_nil
  rw [hsessions]
  exact List.cons_ne_nil u rest

/-- What the applet has left is the dialog on top. -/
theorem Activates.substate?_storeTop (hcustom : custom.Disciplined) {elapsed : Ticks}
    (h : Activates env custom elapsed n s k) :
    (k.storeTop s).substate? = some s.netState.substate := by
  obtain ⟨-, u, htop, -, hran⟩ := h
  have hdialogs := Node.sessions_runApplet hcustom env
    (n := { n with sessions := n.sessions.elapse elapsed }) htop
  rw [hran] at hdialogs
  obtain ⟨v, rest, hsessions⟩ := List.exists_cons_of_ne_nil hdialogs
  have hset : (k.storeTop s).sessions.sessions = s :: rest :=
    SessionStack.sessions_setTop hsessions s
  simp [Node.substate?, SessionStack.top?_eq hset]

theorem balanced_activate (h : env.Records calls) (hcustom : custom.Disciplined) {elapsed : Ticks}
    (hactivates : Activates env custom elapsed n s k) :
    Balanced k.access.retries.toNat k.network.outbound.written
      (Ledger.empty.extend calls (k.storeTop s) (.step env custom n (.run elapsed)))
      (n.step env custom (.run elapsed)) := by
  have hstored := hactivates.substate?_storeTop hcustom
  obtain ⟨hidle, u, htop, hdue, hran⟩ := hactivates
  rw [hidle] at hran
  have heq : Tallied.step env custom n (.run elapsed) =
      if s.netState.scrapped then .plain (k.endSession env)
      else .engage env s (k.storeTop s) := by
    simp [Tallied.step, Tallied.run, Tallied.activate, hidle, htop, hdue, hran]
  rw [← Tallied.node_step, heq]
  split
  · have hstands := Node.standsBy_endSession h k
    exact balanced_of_standsBy (k := k.storeTop s) { hstands with }
  · rw [Tallied.node_engage]
    exact balanced_engage h hstored

theorem Course.balanced (hcustom : custom.Disciplined) (hn : n.Consistent)
    (hcourse : Course calls custom n s k ledger m) :
    m.Consistent ∧ Balanced k.access.retries.toNat k.network.outbound.written ledger m := by
  induction hcourse with
  | activate hrecords hactivates =>
      exact ⟨hn.step hcustom _, balanced_activate hrecords hcustom hactivates⟩
  | step input _ hactive hrecords ih =>
      obtain ⟨hm, hbalanced⟩ := ih
      refine ⟨hm.step hcustom _, ?_⟩
      rw [← Tallied.node_step]
      exact hbalanced.turn hm hactive (Node.turn_step hrecords hm hactive _)

/-- In every run whose applets do not change when their own dialog is due and otherwise only
schedule dialogs, whatever is done for a dialog while it is active, the retries made are at
most those that its applet left. The frame of its request is handed to the radio at most
once more than that, and it is always the frame that was staged; the frame of a response is
handed over at most once, as it was staged. -/
theorem Course.within_budget {config : Config} {world : W} (hcustom : custom.Disciplined)
    (hrun : Node.Reaches custom (fun _ _ => True) (.start config world) n)
    (hcourse : Course calls custom n s k ledger m) :
    ledger.retries.length ≤ k.access.retries.toNat ∧
      ledger.requests.length ≤ k.access.retries.toNat + 1 ∧
      (∀ frame ∈ ledger.requests, frame = k.network.outbound.written) ∧
      ledger.responses.length ≤ 1 ∧
      ∀ frame ∈ ledger.responses, frame = m.network.outbound.written := by
  have hn := (Node.consistent_start config world).reaches hcustom hrun
  obtain ⟨-, hbalanced⟩ := hcourse.balanced hcustom hn
  have hretries := hbalanced.retries
  have hrequests := hbalanced.requests
  exact ⟨by omega, by omega, hbalanced.same, hbalanced.responses, hbalanced.staged⟩

/-- Applets that stage a frame of one byte, to be sent twice without listening first. -/
def repeatingApplets (byte : UInt8) : CustomApplets W := fun id s n =>
  Node.stagingApplets byte id s { n with
    access := { n.access with params := ContentionParams.uncontendedBit, retries := 1 } }

/-- A dialog with one retry sends its request twice and ends. -/
theorem Course.within_budget_repetition :
    ∃ (n k m : Node (Recorded Unit)) (s : Session) (ledger : Ledger),
      Course Recorded.calls (repeatingApplets 7) n s k ledger m ∧ m.phase = .idle ∧
      ledger.retries = [.repetition] ∧ ledger.requests = [[7], [7]] ∧
      ledger.retries.length ≤ k.access.retries.toNat ∧
      ledger.requests.length ≤ k.access.retries.toNat + 1 ∧
      (∀ frame ∈ ledger.requests, frame = k.network.outbound.written) ∧
      ledger.responses.length ≤ 1 ∧
      ∀ frame ∈ ledger.responses, frame = m.network.outbound.written := by
  let env := (Environment.obliging : Environment Unit).recorded
  let custom : CustomApplets (Recorded Unit) := repeatingApplets 7
  let n := (Node.start .default (⟨(), []⟩ : Recorded Unit)).step env custom
    (.schedule (some (.custom 0)) 0 0xF0 0x10 { substate := .requestTx })
  let t : Session :=
    { counter := 0, channel := 0x10, netState := { substate := .requestTx }, flags := .none,
      dialogId := 0, subnet := 0xF0, extra := 0, applet := some (.custom 0) }
  let left := ({ n with sessions := n.sessions.elapse 0 } : Node _).runApplet env custom t
  have hcustom : custom.Disciplined := fun _ _ _ => ⟨rfl, .refl⟩
  have hrecords : env.Records Recorded.calls := Environment.obliging.records_recorded
  have hrun : Node.Reaches custom (fun _ _ => True) (.start .default ⟨(), []⟩) n :=
    .step .refl trivial
  have hactivates : Activates env custom 0 n left.1 left.2 :=
    ⟨rfl, t, by decide +kernel, rfl, rfl⟩
  have hactivated := Course.activate hrecords hactivates
  have hsent := hactivated.step (.event (.sent true)) (by decide +kernel) hrecords
  have hrepeated := hsent.step (.run 100) (by decide +kernel) hrecords
  have hended := hrepeated.step (.event (.sent true)) (by decide +kernel) hrecords
  refine ⟨n, left.2, _, left.1, _, hended, ?_, ?_, ?_, within_budget hcustom hrun hended⟩
  · decide +kernel
  · decide +kernel
  · decide +kernel

end Course

end Mode2
