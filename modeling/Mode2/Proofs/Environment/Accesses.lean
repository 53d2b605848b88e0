import Mode2.Query.Call
import Mode2.Query.Compare
import Mode2.Proofs.FrameQueue.Written
import Mode2.Proofs.Steps

/-!
# What reading files changes

Streams, queries and returns reach the world by opening files for reading, looking at them and
closing them. They visit one file after the other: a file is open from its opening to its
closing, and only then is another one opened. What a world becomes by them, it becomes by such
accesses.
-/

namespace Mode2

variable {W : Type}

/-- What a world becomes when files are opened for reading, looked at and closed. -/
inductive Environment.Accesses (env : Environment W) (start : W) : W → Prop
  | refl : env.Accesses start start
  | openFile {w : W} (id : UInt8) (user : User) (h : env.Accesses start w) :
      env.Accesses start (env.files.openFile id .read user w).2
  | length {w : W} (file : Handle) (h : env.Accesses start w) :
      env.Accesses start (env.files.length file w).2
  | modifiers {w : W} (file : Handle) (h : env.Accesses start w) :
      env.Accesses start (env.files.modifiers file w).2
  | read {w : W} (file : Handle) (offset : UInt16) (h : env.Accesses start w) :
      env.Accesses start (env.files.read file offset w).2
  | close {w : W} (file : Handle) (h : env.Accesses start w) :
      env.Accesses start (env.files.close file w).2

/-- What a world becomes when files are opened for reading, looked at and closed, one file
after the other; with the file that is open then, if there is one. -/
inductive Environment.Visits (env : Environment W) (start : W) : Option Handle → W → Prop
  | refl : env.Visits start none start
  | openFile {w : W} (id : UInt8) (user : User) (h : env.Visits start none w) :
      env.Visits start (env.files.openFile id .read user w).1.toOption
        (env.files.openFile id .read user w).2
  | length {w : W} {file : Handle} (h : env.Visits start (some file) w) :
      env.Visits start (some file) (env.files.length file w).2
  | modifiers {w : W} {file : Handle} (h : env.Visits start (some file) w) :
      env.Visits start (some file) (env.files.modifiers file w).2
  | read {w : W} {file : Handle} (offset : UInt16) (h : env.Visits start (some file) w) :
      env.Visits start (some file) (env.files.read file offset w).2
  | close {w : W} {file : Handle} (h : env.Visits start (some file) w) :
      env.Visits start none (env.files.close file w).2

namespace Environment

variable {env : Environment W} {start w : W}

theorem Accesses.trans {last : W} (h : env.Accesses start w) (hlast : env.Accesses w last) :
    env.Accesses start last := by
  induction hlast with
  | refl => exact h
  | openFile id user _ ih => exact ih.openFile id user
  | length file _ ih => exact ih.length file
  | modifiers file _ ih => exact ih.modifiers file
  | read file offset _ ih => exact ih.read file offset
  | close file _ ih => exact ih.close file

theorem Visits.trans {last : W} {held : Option Handle} (h : env.Visits start none w)
    (hlast : env.Visits w held last) : env.Visits start held last := by
  induction hlast with
  | refl => exact h
  | openFile id user _ ih => exact ih.openFile id user
  | length _ ih => exact ih.length
  | modifiers _ ih => exact ih.modifiers
  | read offset _ ih => exact ih.read offset
  | close _ ih => exact ih.close

/-- Files that are visited are accessed. -/
theorem Visits.accesses {held : Option Handle} (h : env.Visits start held w) :
    env.Accesses start w := by
  induction h with
  | refl => exact .refl
  | openFile id user _ ih => exact ih.openFile id user
  | length _ ih => exact ih.length _
  | modifiers _ ih => exact ih.modifiers _
  | read offset _ ih => exact ih.read _ offset
  | close _ ih => exact ih.close _

/-! ## Streams -/

/-- A file that its user may not read is closed at once. -/
theorem visits_openReadable (user : User) (id : UInt8) (h : env.Visits start none w) :
    env.Visits start (env.openReadable user id w).1.toOption (env.openReadable user id w).2 := by
  have hopen := h.openFile id user
  unfold openReadable
  split
  next heq =>
    rw [heq] at hopen
    exact hopen
  next file w' heq =>
    rw [heq] at hopen
    dsimp only
    split
    · exact hopen.modifiers
    · exact hopen.modifiers.close

variable {σ : Type}

theorem visits_streamBytes (accept : UInt8 → σ → Option σ) (file : Handle) (n position : Nat)
    {t : Transfer W σ} (h : env.Visits start (some file) t.world) :
    env.Visits start (some file) (env.streamBytes accept file n position t).2.world := by
  induction n generalizing position t with
  | zero => exact h
  | succ n ih =>
      have hread : env.Visits start (some file)
          (env.files.readByte file (UInt16.ofNat position) t.world).2 := h.read _
      unfold streamBytes
      split
      next heq =>
        rw [heq] at hread
        exact hread
      next heq =>
        rw [heq] at hread
        split
        · exact hread
        · exact ih _ hread

/-- However the stream of a file ends, the file is closed before the next one is opened. -/
theorem visits_streamFiles (user : User) (accept : UInt8 → σ → Option σ) (files : List UInt8)
    (skip window : Nat) {t : Transfer W σ} (h : env.Visits start none t.world) :
    env.Visits start none (env.streamFiles user accept files skip window t).2.world := by
  -- Every file leaves less to skip and a smaller window for the files after it.
  induction files generalizing skip window t with
  | nil => exact h
  | cons id rest ih =>
      have hopen := visits_openReadable user id h
      unfold streamFiles
      split
      · exact h
      split
      next heq =>
        rw [heq] at hopen
        exact hopen
      next file w' heq =>
        rw [heq] at hopen
        have hlength : env.Visits start (some file) (env.files.length file w').2 := hopen.length
        dsimp only
        split
        · exact ih _ _ hlength.close
        have hbytes := visits_streamBytes accept file
          (min ((env.files.length file w').1.toNat - skip) window) skip
          (t := { t with world := (env.files.length file w').2 }) hlength
        split
        next heq =>
          rw [heq] at hbytes
          exact hbytes.close
        next heq =>
          rw [heq] at hbytes
          exact hbytes.close
        next heq =>
          rw [heq] at hbytes
          exact ih _ _ hbytes.close

theorem visits_stream (user : User) (accept : UInt8 → σ → Option σ) (files : List UInt8)
    (offset : UInt16) (window : Nat) (receiver : σ) :
    env.Visits w none (env.stream user accept files offset window receiver w).2 := by
  have hfiles := visits_streamFiles user accept files offset.toNat window
    (t := { accepted := 0, receiver, world := w }) (.refl : env.Visits w none w)
  unfold stream
  split
  · exact .refl
  split
  next heq =>
    rw [heq] at hfiles
    exact hfiles
  next heq =>
    rw [heq] at hfiles
    exact hfiles

theorem visits_query (user : User) (template : Template) (target : Target) :
    env.Visits w none (env.query user template target w).2 := by
  unfold query
  split
  · exact .refl
  · exact visits_stream user _ _ _ _ _

theorem accesses_query (user : User) (template : Template) (target : Target) :
    env.Accesses w (env.query user template target w).2 :=
  (visits_query user template target).accesses

/-! ## Returns -/

/-- Bytes are appended to the frame, or it ends before them. -/
theorem ends_append {bytes : List UInt8} {r : Returning W} {good : Unit → Returning W → Prop}
    {bad : Score → Returning W → Prop}
    (hgood : ∀ queue, r.queue.append bytes = .ok queue → good () { r with queue })
    (hbad : r.queue.limit < r.queue.length + bytes.length → bad .rejected r) :
    Ends (ReturnM.append bytes) r good bad := by
  unfold Ends ReturnM.append
  dsimp only [EStateM.run]
  cases happend : r.queue.append bytes with
  | ok queue => exact hgood queue happend
  | error cause =>
      refine hbad (Nat.lt_of_not_le fun hend => ?_)
      have hspace := r.queue.length_add_space
      have hfits : bytes.length ≤ r.queue.space := by omega
      obtain ⟨queue, hqueue⟩ := FrameQueue.exists_append hfits
      rw [hqueue] at happend
      cases happend

section Returns

variable {user : User} {R : Returning W → Returning W → Prop}

theorem moves_appendHeader (hR : Composes R)
    (happend : ∀ bytes, Moves R (ReturnM.append bytes : ReturnM W Unit))
    (hlength : ∀ id, Moves R (ReturnM.fileLength env user id)) (target : Target) :
    Moves R (ReturnM.appendHeader env user target) := by
  have hentries : ∀ ids : List UInt8, Moves R (ids.mapM (ReturnM.appendEntry env user)) := by
    intro ids
    induction ids with
    | nil => exact .pure hR []
    | cons id rest ih =>
        rw [List.mapM_cons]
        refine .bind hR ?_ fun _ => .bind hR ih fun _ => .pure hR _
        refine .bind hR (hlength id) fun _ => ?_
        exact .bind hR (happend _) fun _ => .bind hR (happend _) fun _ => .pure hR _
  have hrest : ∀ last : List UInt8, Moves R (do
      let lengths ← target.files.mapM (ReturnM.appendEntry env user)
      ReturnM.append last
      return lengths.foldr (· + ·) 0) := fun last =>
    .bind hR (hentries _) fun _ => .bind hR (happend last) fun _ => .pure hR _
  unfold ReturnM.appendHeader
  split
  · exact .bind hR (happend _) fun _ => hrest _
  · exact hrest _

/-- What holds however the steps of a return end holds of the return. -/
theorem answer_of_ends {call : Call} {queue : FrameQueue} {P : Score → Returning W → Prop}
    (h : Ends (do
        let total ← ReturnM.appendHeader env user call.target
        ReturnM.appendData env user call total) { queue, world := w } P P) :
    P (env.answer user call queue w).1.1
      ⟨(env.answer user call queue w).1.2, (env.answer user call queue w).2⟩ := by
  unfold answer
  dsimp only
  split
  next heq => exact h.of_ok heq
  next heq => exact h.of_error heq

/-- What appending bytes, asking for lengths and handing over data do, a return does. -/
theorem answer_of_moves (hR : Composes R)
    (happend : ∀ bytes, Moves R (ReturnM.append bytes : ReturnM W Unit))
    (hlength : ∀ id, Moves R (ReturnM.fileLength env user id)) {call : Call}
    (hdata : ∀ total, Moves R (ReturnM.appendData env user call total)) (queue : FrameQueue) :
    R ⟨queue, w⟩ ⟨(env.answer user call queue w).1.2, (env.answer user call queue w).2⟩ := by
  have hsteps : Moves R (do
      let total ← ReturnM.appendHeader env user call.target
      ReturnM.appendData env user call total) :=
    .bind hR (moves_appendHeader hR happend hlength _) hdata
  exact answer_of_ends (hsteps ⟨queue, w⟩)

end Returns

/-- Around a return files are only visited, and no file stays open. -/
def VisitsWith (env : Environment W) (r r' : Returning W) : Prop :=
  env.Visits r.world none r'.world

theorem visitsWith_composes (env : Environment W) : Composes env.VisitsWith where
  refl _ := .refl
  trans h h' := h.trans h'

theorem visitsWith_append (bytes : List UInt8) :
    Moves env.VisitsWith (ReturnM.append bytes : ReturnM W Unit) :=
  fun _ => ends_append (fun _ _ => .refl) fun _ => .refl

theorem visitsWith_fileLength (user : User) (id : UInt8) :
    Moves env.VisitsWith (ReturnM.fileLength env user id) := by
  intro r
  have hopen := visits_openReadable user id (.refl : env.Visits r.world none r.world)
  unfold Ends ReturnM.fileLength
  dsimp only [EStateM.run]
  cases hresult : env.openReadable user id r.world with
  | mk result w =>
      rw [hresult] at hopen
      cases result with
      | error cause => exact hopen
      | ok file => exact hopen.length.close

theorem visits_answer (user : User) (call : Call) (queue : FrameQueue) :
    env.Visits w none (env.answer user call queue w).2 :=
  answer_of_moves env.visitsWith_composes visitsWith_append (visitsWith_fileLength user)
    (fun _ _ => visits_stream user _ _ _ _ _) queue

theorem accesses_answer (user : User) (call : Call) (queue : FrameQueue) :
    env.Accesses w (env.answer user call queue w).2 :=
  (visits_answer user call queue).accesses

end Environment

end Mode2
