import Mode2.Proofs.Network.Staging
import Mode2.Proofs.Query.Slices

/-!
# What a stream makes of its receiver

A stream touches its receiver only by handing over bytes, no more of them than its window has
room for, however the files behave. A return hands its data to the frame: so it only appends to
it, and leaves an open frame open.
-/

namespace Mode2

namespace FrameQueue

variable {q q' : FrameQueue} {bytes : List UInt8}

/-- A frame that bytes are pushed to one after the other accepts those that can be appended. -/
theorem accepts_push_iff :
    Accepts (fun byte queue => (push queue byte).toOption) q bytes q' ↔
      q.append bytes = .ok q' := by
  induction bytes generalizing q with
  | nil => simp [Accepts, append_nil]
  | cons byte bytes ih =>
      have hpush : ∀ q₁, (q.push byte).toOption = some q₁ ↔ q.append [byte] = .ok q₁ := by
        intro q₁
        rw [push]
        cases q.append [byte] <;> simp [Except.toOption]
      rw [← List.singleton_append, append_append_iff]
      unfold Accepts at ih ⊢
      simp only [List.singleton_append, List.foldlM_cons, Option.bind_eq_bind,
        Option.bind_eq_some_iff, hpush, ih]

end FrameQueue

namespace Environment

variable {W σ : Type}

/-! ## Streams -/

/-- From one transfer to the other the receiver has accepted no more than `n` bytes, which have
been counted. -/
def HandsOver (accept : UInt8 → σ → Option σ) (n : Nat) (t t' : Transfer W σ) : Prop :=
  ∃ bytes, Accepts accept t.receiver bytes t'.receiver ∧ bytes.length ≤ n ∧
    t'.accepted = t.accepted + bytes.length

variable {accept : UInt8 → σ → Option σ} {m n : Nat} {t t₁ t₂ : Transfer W σ}

theorem HandsOver.nothing (hreceiver : t₁.receiver = t.receiver)
    (hcount : t₁.accepted = t.accepted) : HandsOver accept n t t₁ := by
  refine ⟨[], ?_, Nat.zero_le n, hcount⟩
  rw [hreceiver]
  exact .nil

theorem HandsOver.trans (h : HandsOver accept m t t₁) (h' : HandsOver accept n t₁ t₂) :
    HandsOver accept (m + n) t t₂ := by
  obtain ⟨first, hfirst, hm, hcount⟩ := h
  obtain ⟨second, hsecond, hn, hcount'⟩ := h'
  refine ⟨first ++ second, hfirst.append hsecond, ?_, ?_⟩
  · rw [List.length_append]
    omega
  · rw [hcount', hcount, List.length_append, Nat.add_assoc]

theorem HandsOver.mono (h : HandsOver accept m t t₁) (hmn : m ≤ n) : HandsOver accept n t t₁ := by
  obtain ⟨bytes, haccepts, hm, hcount⟩ := h
  exact ⟨bytes, haccepts, Nat.le_trans hm hmn, hcount⟩

theorem handsOver_streamBytes (env : Environment W) (accept : UInt8 → σ → Option σ) (file : Handle)
    (n position : Nat) (t : Transfer W σ) :
    HandsOver accept n t (env.streamBytes accept file n position t).2 := by
  induction n generalizing position t with
  | zero => exact .nothing rfl rfl
  | succ n ih =>
      unfold streamBytes
      split
      · exact .nothing rfl rfl
      split
      · exact .nothing rfl rfl
      next byte world _ _ receiver hbyte =>
        have hfirst : HandsOver accept 1 t ⟨t.accepted + 1, receiver, world⟩ :=
          ⟨[_], .cons hbyte .nil, Nat.le_refl 1, rfl⟩
        rw [Nat.add_comm]
        exact hfirst.trans (ih (position + 1) _)

theorem handsOver_streamFiles (env : Environment W) (user : User) (accept : UInt8 → σ → Option σ)
    (files : List UInt8) (skip window : Nat) (t : Transfer W σ) :
    HandsOver accept window t (env.streamFiles user accept files skip window t).2 := by
  -- What one file has used of the window is not left for the files after it.
  induction files generalizing skip window t with
  | nil => exact .nothing rfl rfl
  | cons id rest ih =>
      unfold streamFiles
      split
      · exact .nothing rfl rfl
      split
      · exact .nothing rfl rfl
      next file world _ =>
        dsimp only
        split
        · exact ih _ window (env.closed file { t with world := (env.files.length file world).2 })
        have hbytes := handsOver_streamBytes env accept file
          (min ((env.files.length file world).1.toNat - skip) window) skip
          { t with world := (env.files.length file world).2 }
        have hwindow := Nat.min_le_right ((env.files.length file world).1.toNat - skip) window
        split
        next heq =>
          rw [heq] at hbytes
          exact hbytes.mono hwindow
        next heq =>
          rw [heq] at hbytes
          exact hbytes.mono hwindow
        next t₁ heq =>
          rw [heq] at hbytes
          exact (hbytes.trans (ih 0 _ (env.closed file t₁))).mono
            (Nat.le_of_eq (Nat.add_sub_cancel' hwindow))

/-- A stream hands over no more bytes than its window has room for. Its score counts those that
the receiver accepted, or is a file error. -/
theorem stream_handsOver (env : Environment W) (user : User) (accept : UInt8 → σ → Option σ)
    (files : List UInt8) (offset : UInt16) (window : Nat) (s : σ) (w : W) :
    let result := (env.stream user accept files offset window s w).1
    ∃ bytes, Accepts accept s bytes result.2 ∧ bytes.length ≤ window ∧
      (result.1 = .fileError ∨ result.1 = Int.ofNat (min bytes.length maxScore)) := by
  obtain ⟨bytes, haccepts, hlength, hcount⟩ :=
    handsOver_streamFiles env user accept files offset.toNat window ⟨0, s, w⟩
  unfold stream
  split
  · exact ⟨[], .nil, Nat.zero_le _, .inl rfl⟩
  split
  next heq =>
    rw [heq] at haccepts hcount
    dsimp only at hcount
    rw [Nat.zero_add] at hcount
    exact ⟨bytes, haccepts, hlength, .inr (by rw [hcount])⟩
  next heq =>
    rw [heq] at haccepts
    exact ⟨bytes, haccepts, hlength, .inl rfl⟩

/-! ## Returns -/

/-- Around a return bytes are only appended to the frame. -/
def AppendsTo (r r' : Returning W) : Prop :=
  ∃ bytes, r.queue.append bytes = .ok r'.queue

theorem appendsTo_composes : Composes (AppendsTo (W := W)) where
  refl r := ⟨[], FrameQueue.append_nil r.queue⟩
  trans := by
    rintro r₁ r₂ r₃ ⟨first, hfirst⟩ ⟨second, hsecond⟩
    exact ⟨first ++ second, FrameQueue.append_append hfirst hsecond⟩

theorem appendsTo_append (bytes : List UInt8) :
    Moves AppendsTo (ReturnM.append bytes : ReturnM W Unit) :=
  fun r => ends_append (fun _ happend => ⟨bytes, happend⟩) fun _ => appendsTo_composes.refl r

theorem appendsTo_fileLength (env : Environment W) (user : User) (id : UInt8) :
    Moves AppendsTo (ReturnM.fileLength env user id) := by
  intro r
  unfold Ends ReturnM.fileLength
  dsimp only [EStateM.run]
  rcases env.openReadable user id r.world with ⟨_ | file, world⟩ <;>
    exact ⟨[], FrameQueue.append_nil r.queue⟩

/-- However the files behave, the data of a return keep clear of the footer. -/
theorem ends_appendData (env : Environment W) (user : User) (call : Call) (total : Nat)
    (r : Returning W) :
    Ends (ReturnM.appendData env user call total) r
      (fun score r' => ∃ data, r.queue.append data = .ok r'.queue ∧
        data.length ≤ r.queue.space - footerLength ∧
          (score = .fileError ∨ score = Int.ofNat data.length))
      (fun _ _ => False) := by
  obtain ⟨data, haccepts, hlength, hscore⟩ := stream_handsOver env user
    (fun byte queue => (FrameQueue.push queue byte).toOption) call.target.files call.target.offset
    (min call.maxBytes.toNat
      (min (r.queue.space - footerLength) (total - call.target.offset.toNat))) r.queue r.world
  have hbytes := call.maxBytes.toNat_lt
  have hcounted : min data.length maxScore = data.length := by
    unfold maxScore
    omega
  rw [hcounted] at hscore
  exact ⟨data, FrameQueue.accepts_push_iff.mp haccepts, by omega, hscore⟩

variable (env : Environment W) (user : User) (call : Call)

theorem appendsTo_appendData (total : Nat) :
    Moves AppendsTo (ReturnM.appendData env user call total) := by
  intro r
  refine (ends_appendData env user call total r).imp ?_ fun _ _ hnever => hnever.elim
  rintro score r' ⟨data, hdata, -⟩
  exact ⟨data, hdata⟩

/-- What a return makes of a frame is the frame with some bytes appended. -/
theorem exists_append_answer (queue : FrameQueue) (w : W) :
    ∃ bytes, queue.append bytes = .ok (env.answer user call queue w).1.2 :=
  answer_of_moves appendsTo_composes appendsTo_append (appendsTo_fileLength env user)
    (appendsTo_appendData env user call) queue

theorem isOpen_answer {queue : FrameQueue} (w : W) (hopen : queue.IsOpen) :
    (env.answer user call queue w).1.2.IsOpen := by
  obtain ⟨bytes, happend⟩ := env.exists_append_answer user call queue w
  exact hopen.append happend

end Environment

end Mode2
