import Mode2.Proofs.Environment.Record
import Mode2.Proofs.Exchange.Declined
import Mode2.Proofs.Exchange.Undisturbed
import Mode2.Proofs.File.Table
import Mode2.Proofs.Node.Arrivals
import Mode2.Proofs.Node.Run

/-!
# Requests that are met with silence

Every node in reach hears a broadcast, and if each of them answered it, none would be understood.
A request that declines its response ends the dialog in which it arrives, whatever it asks for
and whether or not it is accepted: nothing is sent or scheduled for it, and nothing is read out
of the files to answer it.
-/

namespace Mode2

variable {W : Type}

namespace Environment

/-- From one world to the other, only frames have been deciphered. -/
inductive Deciphers (env : Environment W) (w : W) : W → Prop
  | refl : Deciphers env w w
  | decrypt {w' : W} {cipher : Cipher W} (h : Deciphers env w w') (hcipher : cipher ∈ env.cipher)
      (key : UInt8) (bytes : List UInt8) : Deciphers env w (cipher.decrypt key bytes w').2

theorem Deciphers.trans {env : Environment W} {w w' w'' : W} (h : env.Deciphers w w')
    (h' : env.Deciphers w' w'') : env.Deciphers w w'' := by
  induction h' with
  | refl => exact h
  | decrypt _ hcipher key bytes ih => exact ih.decrypt hcipher key bytes

end Environment

/-- Of the world, reading a header takes the deciphering of its frame. -/
theorem Exchange.readsHeader_deciphers (env : Environment W) :
    ReadsHeader env fun x y => env.Deciphers x.world y.world where
  refl _ := .refl
  trans h h' := h.trans h'
  inbound _ _ := .refl
  header _ _ _ _ := .refl
  dialog _ _ _ _ _ := .refl
  decrypt _ hcipher key bytes _ := .decrypt .refl hcipher key bytes

namespace Node

/-- The dialog on top has ended, and nothing has been sent or scheduled: the other dialogs and
the outgoing frame are as they were, and the radio has been told to rest and nothing else. -/
structure EndsSilently (calls : W → List RadioCall) (n m : Node W) : Prop where
  phase : m.phase = .idle
  sessions : m.sessions = n.sessions.pop
  outbound : m.network.outbound = n.network.outbound
  calls : calls m.world = .idle :: calls n.world

variable {n : Node W} {s : Session} {frame : List UInt8} {inbound : FrameQueue} {y : Exchange W}
  {kind : RequestKind} {command : Command}

/-- The processing of a request that declines its response ends the dialog. -/
theorem process_of_declined (env : Environment W) (hload : FrameQueue.load frame = .ok inbound)
    (hread : (HeaderM.read env n.config).run (n.arrival inbound s) = .ok .local y)
    (hdeclines : y.DeclinesResponse kind command) :
    n.process env frame s = (n.resume (y.dispatch env n.config).2.toLayers).endSession env := by
  rw [process_of_load hload, Exchange.receive_of_local hread]
  exact if_pos (Exchange.dispatch_declined env n.config hdeclines).1

/-- Nothing is sent or scheduled for a request that declines its response. -/
theorem endsSilently_of_declined {env : Environment W} {calls : W → List RadioCall}
    (h : env.Records calls) (hload : FrameQueue.load frame = .ok inbound)
    (hread : (HeaderM.read env n.config).run (n.arrival inbound s) = .ok .local y)
    (hdeclines : y.DeclinesResponse kind command) :
    EndsSilently calls n (n.process env frame s) := by
  have hheader := (Exchange.undisturbed_read h.toOnlyRadio n.config _).of_ok hread
  have hrequest := (Exchange.dispatch_declined env n.config hdeclines).2
  have hkept := Exchange.kept_receive h.toOnlyRadio n.config (n.arrival inbound s)
  rw [Exchange.receive_of_local hread] at hkept
  rw [process_of_declined env hload hread hdeclines]
  exact
    { phase := rfl
      sessions := rfl
      outbound := hrequest.outbound.trans hheader.outbound
      calls := (h.idle _).trans (congrArg _ hkept.view) }

/-- Requests that decline their response are met with silence. The dialog in which such a request
arrives ends and nothing else happens: no frame is staged, the other dialogs remain scheduled and
no dialog besides them is, the radio is told to rest without having assessed a channel or
transmitted, and the world has deciphered the frame, run the queries in it and taken a datagram
at most. -/
theorem silent_when_declined (env : Environment W) (custom : CustomApplets (Recorded W))
    {n : Node (Recorded W)} {y : Exchange (Recorded W)} (hphase : n.phase = .listening)
    (htop : n.sessions.top? = some s) (hload : FrameQueue.load frame = .ok inbound)
    (hread : (HeaderM.read env.recorded n.config).run (n.arrival inbound s) = .ok .local y)
    (hdeclines : y.DeclinesResponse kind command) :
    let m := n.step env.recorded custom (.event (.received frame true))
    EndsSilently Recorded.calls n m ∧ env.recorded.Deciphers n.world y.world ∧
      ∃ z, y.Overheard env.recorded kind command.group z ∧
        m.world = (env.recorded.radio.idle z.world).2 := by
  have hstep : n.step env.recorded custom (.event (.received frame true)) =
      n.process env.recorded frame s := onFrame_of_listening hphase htop frame
  have hdeciphers := (Exchange.readsHeader_deciphers env.recorded).moves_read n.config
  have hrequest := (Exchange.dispatch_declined env.recorded n.config hdeclines).2
  rw [hstep]
  refine ⟨endsSilently_of_declined env.records_recorded hload hread hdeclines,
    (hdeciphers _).of_ok hread, (y.dispatch env.recorded n.config).2, hrequest, ?_⟩
  rw [process_of_declined env.recorded hload hread hdeclines]
  rfl

/-- A scanning node that has the file that it is asked for contends for the channel to answer,
but not when the request declines the response. -/
theorem silent_when_declined_call :
    let env : Environment (Recorded (Archived _ _ Unit)) :=
      (Archive.table.serve .obliging).recorded
    let custom : CustomApplets (Recorded (Archived _ _ Unit)) := fun _ s n => (s, n)
    let n := (((start .default ⟨⟨[(3, 0x24)], fun _ => [0x00, 0x2A], [], ()⟩, []⟩).step env custom
      (.scheduleScan 0)).step env custom (.scheduleBeacon 100)).step env custom (.run 0)
    let request (options : UInt8) : List UInt8 :=
      [0x0F, 0x00, 0xF0, 0x12, 0x05, 0xAA, 0xBB, 0xA4, options, 0x00, 0x02, 0x03, 0x00, 0x00, 0x00]
    let after (options : UInt8) := n.step env custom (.event (.received (request options) true))
    (∃ s inbound y, n.phase = .listening ∧ n.sessions.top? = some s ∧
      FrameQueue.load (request 0x01) = .ok inbound ∧
      (HeaderM.read env n.config).run (n.arrival inbound s) = .ok .local y ∧
      y.DeclinesResponse .direct ⟨0xA4, 0x01⟩) ∧
    EndsSilently Recorded.calls n (after 0x01) ∧ (after 0x01).sessions.sessions.length = 1 ∧
      (after 0x00).phase = .assessing := by
  intro env custom n request after
  let s : Session :=
    { counter := 0, channel := 0x10, netState := { substate := .requestRx }, flags := .none,
      dialogId := 0, subnet := 0xF0, extra := 0, applet := none }
  let inbound : FrameQueue := ⟨[], request 0x01, 256, by decide, by decide⟩
  have hphase : n.phase = .listening := by decide +kernel
  have htop : n.sessions.top? = some s := by decide +kernel
  have hload : FrameQueue.load (request 0x01) = .ok inbound := rfl
  have hlocal : (match (HeaderM.read env n.config).run (n.arrival inbound s) with
      | .ok .local y => y.network.inbound.unread == [0xA4, 0x01, 0x00, 0x02, 0x03, 0x00]
      | _ => false) = true := by decide +kernel
  split at hlocal
  next y hread =>
    have hdeclines : y.DeclinesResponse .direct ⟨0xA4, 0x01⟩ :=
      ⟨by decide, by decide, by decide, _, eq_of_beq hlocal⟩
    obtain ⟨hsilent, -, -⟩ :=
      silent_when_declined (Archive.table.serve .obliging) custom hphase htop hload hread hdeclines
    exact ⟨⟨s, inbound, y, hphase, htop, hload, hread, hdeclines⟩, hsilent, by decide +kernel,
      by decide +kernel⟩
  next => cases hlocal

end Node

end Mode2
