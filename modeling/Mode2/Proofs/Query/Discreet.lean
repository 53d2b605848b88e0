import Mode2.Proofs.File.Archive
import Mode2.Proofs.Overlooks
import Mode2.Query.Call
import Mode2.Query.Compare

/-!
# Queries and returns do not tell what may not be read

Streams, queries and returns look at the contents of a file only after it has been
opened on behalf of a user who may read it. So they come out the same for contents that
are alike in the files that this user may read.
-/

namespace Mode2

variable {D C V σ : Type}

/-- A transfer in the same world with other contents. -/
def Transfer.withContents (contents : C) (t : Transfer (Archived D C V) σ) :
    Transfer (Archived D C V) σ :=
  { t with world := t.world.withContents contents }

theorem Transfer.withContents_mk (contents : C) (accepted : Nat) (receiver : σ)
    (world : Archived D C V) :
    (⟨accepted, receiver, world.withContents contents⟩ : Transfer (Archived D C V) σ) =
      (⟨accepted, receiver, world⟩ : Transfer (Archived D C V) σ).withContents contents := rfl

/-- A return in the same world with other contents. -/
def Returning.withContents (contents : C) (r : Returning (Archived D C V)) :
    Returning (Archived D C V) :=
  { r with world := r.world.withContents contents }

theorem Returning.withContents_mk (contents : C) (queue : FrameQueue)
    (world : Archived D C V) :
    (⟨queue, world.withContents contents⟩ : Returning (Archived D C V)) =
      Returning.withContents contents ⟨queue, world⟩ := rfl

namespace Archive

variable {archive : Archive D C} {outside : Environment V} {start : D} {contents hidden : C}
  {user : User}

/-! ## Streams -/

theorem files_length_serve (file : Handle) (w : Archived D C V) :
    (archive.serve outside).files.length file w =
      (archive.length w.directory w.contents file, w) := rfl

/-- The bytes of an open file are handed over as from other contents in which the file
has the same bytes. -/
theorem exists_streamBytes (outside : Environment V) (accept : UInt8 → σ → Option σ) {file : Handle}
    {t : Transfer (Archived D C V) σ}
    (halike : ∀ offset, archive.read t.world.directory t.world.contents file offset =
      archive.read t.world.directory hidden file offset) (n position : Nat) :
    ∃ ending after, (archive.serve outside).streamBytes accept file n position t = (ending, after) ∧
      (archive.serve outside).streamBytes accept file n position (t.withContents hidden) =
        (ending, after.withContents hidden) ∧
      after.world = t.world := by
  induction n generalizing position t with
  | zero => exact ⟨_, _, rfl, rfl, rfl⟩
  | succ n ih =>
      unfold Environment.streamBytes FileStore.readByte
      dsimp only [serve, Transfer.withContents, Archived.withContents]
      rw [← halike]
      generalize Except.map _ (archive.read _ _ file _) = answer
      cases answer with
      | error cause => exact ⟨_, _, rfl, rfl, rfl⟩
      | ok byte =>
          dsimp only
          cases accept byte t.receiver with
          | none => exact ⟨_, _, rfl, rfl, rfl⟩
          | some receiver =>
              exact ih (t := { accepted := t.accepted + 1, receiver, world := t.world }) halike
                (position + 1)

/-- The files of a stream are gone through as with contents that are alike for the user. -/
theorem exists_streamFiles (outside : Environment V)
    (halike : archive.AlikeFor start user.readBit contents hidden)
    (accept : UInt8 → σ → Option σ) (files : List UInt8) (skip window : Nat)
    {t : Transfer (Archived D C V) σ} (ht : archive.Serves start contents t.world) :
    ∃ complete after,
      (archive.serve outside).streamFiles user accept files skip window t = (complete, after) ∧
      (archive.serve outside).streamFiles user accept files skip window (t.withContents hidden) =
        (complete, after.withContents hidden) ∧
      archive.Serves start contents after.world := by
  induction files generalizing skip window t with
  | nil => exact ⟨_, _, rfl, rfl, ht⟩
  | cons id rest ih =>
      unfold Environment.streamFiles
      split
      · exact ⟨_, _, rfl, rfl, ht⟩
      have hopens : archive.Discreet start contents hidden
          ((archive.serve outside).openReadable user id) := discreet_openReadable user id
      obtain ⟨answer, world, hopen, hopen', hworld⟩ := hopens t.world ht
      rw [← Transfer.withContents_mk hidden t.accepted t.receiver t.world, hopen, hopen']
      cases answer with
      | error cause => exact ⟨_, _, rfl, rfl, hworld⟩
      | ok file =>
          have hgranted := granted_of_openReadable hopen
          obtain ⟨hlength, hbytes⟩ := halike _ _ hworld.leads hgranted
          have hclosed : ∀ after : Transfer (Archived D C V) σ, after.world = world →
              archive.Serves start contents ((archive.serve outside).closed file after).world := by
            rintro after rfl
            exact ⟨hworld.leads.close file, hworld.contents_eq⟩
          have hsize : (archive.serve outside).files.length file (world.withContents hidden) =
              (archive.length world.directory world.contents file, world.withContents hidden) := by
            rw [files_length_serve, hworld.contents_eq, hlength]
            rfl
          dsimp only
          rw [hsize, files_length_serve]
          dsimp only
          split
          · exact ih _ _ (hclosed _ rfl)
          have hread : ∀ offset, archive.read world.directory world.contents file offset =
              archive.read world.directory hidden file offset :=
            fun offset => hworld.contents_eq ▸ hbytes offset
          obtain ⟨ending, after, hstream, hstream', hafter⟩ :=
            exists_streamBytes outside accept (t := { t with world }) hread
              (min ((archive.length world.directory world.contents file).toNat - skip) window) skip
          rw [Transfer.withContents_mk, hstream, hstream']
          cases ending with
          | failed | refused => exact ⟨_, _, rfl, rfl, hclosed _ hafter⟩
          | drained => exact ih _ _ (hclosed _ hafter)

theorem discreet_stream (halike : archive.AlikeFor start user.readBit contents hidden)
    (accept : UInt8 → σ → Option σ) (files : List UInt8) (offset : UInt16) (window : Nat)
    (receiver : σ) :
    archive.Discreet start contents hidden
      ((archive.serve outside).stream user accept files offset window receiver) := by
  intro w hw
  unfold Environment.stream
  split
  · exact ⟨_, _, rfl, rfl, hw⟩
  obtain ⟨complete, after, hfiles, hfiles', hafter⟩ :=
    exists_streamFiles outside halike accept files offset.toNat window
      (t := { accepted := 0, receiver, world := w }) hw
  rw [hfiles, Transfer.withContents_mk, hfiles']
  cases complete with
  | true | false => exact ⟨_, _, rfl, rfl, hafter⟩

theorem discreet_query (halike : archive.AlikeFor start user.readBit contents hidden)
    (template : Template) (target : Target) :
    archive.Discreet start contents hidden
      ((archive.serve outside).query user template target) := by
  intro w hw
  unfold Environment.query
  cases template.kind? with
  | none => exact ⟨_, _, rfl, rfl, hw⟩
  | some kind =>
      have hstreams : archive.Discreet start contents hidden
          ((archive.serve outside).stream user (fun byte data => some (data ++ [byte]))
            target.files target.offset (template.windowOf kind) []) :=
        discreet_stream halike _ _ _ _ _
      obtain ⟨⟨loaded, data⟩, after, hstream, hstream', hafter⟩ := hstreams w hw
      dsimp only
      rw [hstream, hstream']
      exact ⟨_, _, rfl, rfl, hafter⟩

/-! ## Returns -/

/-- A return on the way. -/
def ServesReturn (archive : Archive D C) (start : D) (contents : C)
    (r : Returning (Archived D C V)) : Prop :=
  archive.Serves start contents r.world

theorem overlooks_append (bytes : List UInt8) :
    Overlooks (Returning.withContents hidden) (archive.ServesReturn start contents)
      (ReturnM.append bytes : ReturnM (Archived D C V) Unit) := by
  intro r hr
  unfold Ends ReturnM.append Returning.withContents
  dsimp only [EStateM.run]
  cases r.queue.append bytes with
  | ok queue => exact ⟨rfl, hr⟩
  | error cause => exact ⟨rfl, hr⟩

theorem overlooks_fileLength (halike : archive.AlikeFor start user.readBit contents hidden)
    (id : UInt8) :
    Overlooks (Returning.withContents hidden) (archive.ServesReturn start contents)
      (ReturnM.fileLength (archive.serve outside) user id) := by
  intro r hr
  have hopens : archive.Discreet start contents hidden
      ((archive.serve outside).openReadable user id) := discreet_openReadable user id
  obtain ⟨answer, world, hopen, hopen', hworld⟩ := hopens r.world hr
  unfold Ends ReturnM.fileLength Returning.withContents
  dsimp only [EStateM.run]
  rw [hopen, hopen']
  cases answer with
  | error cause => exact ⟨rfl, hworld⟩
  | ok file =>
      obtain ⟨hlength, -⟩ := halike _ _ hworld.leads (granted_of_openReadable hopen)
      refine ⟨?_, hworld.leads.close file, hworld.contents_eq⟩
      dsimp only [serve, Archived.withContents]
      rw [hworld.contents_eq, hlength]

theorem overlooks_appendHeader (halike : archive.AlikeFor start user.readBit contents hidden)
    (target : Target) :
    Overlooks (Returning.withContents hidden) (archive.ServesReturn start contents)
      (ReturnM.appendHeader (archive.serve outside) user target) := by
  have hentry : ∀ id, Overlooks (Returning.withContents hidden)
      (archive.ServesReturn start contents)
      (ReturnM.appendEntry (archive.serve outside) user id) := fun id =>
    .bind (overlooks_fileLength halike id) fun _ =>
      .bind (overlooks_append _) fun _ => .bind (overlooks_append _) fun _ => .pure _
  have hrest : ∀ last : List UInt8, Overlooks (Returning.withContents hidden)
      (archive.ServesReturn start contents) (do
        let lengths ← target.files.mapM (ReturnM.appendEntry (archive.serve outside) user)
        ReturnM.append last
        return lengths.foldr (· + ·) 0) := fun last =>
    .bind (.mapM hentry _) fun _ => .bind (overlooks_append last) fun _ => .pure _
  unfold ReturnM.appendHeader
  split
  · exact .bind (overlooks_append _) fun _ => hrest _
  · exact hrest _

theorem overlooks_appendData (halike : archive.AlikeFor start user.readBit contents hidden)
    (call : Call) (total : Nat) :
    Overlooks (Returning.withContents hidden) (archive.ServesReturn start contents)
      (ReturnM.appendData (archive.serve outside) user call total) := by
  intro r hr
  have hstreams : archive.Discreet start contents hidden
      ((archive.serve outside).stream user (fun byte queue => (queue.push byte).toOption)
        call.target.files call.target.offset
        (min call.maxBytes.toNat
          (min (r.queue.space - footerLength) (total - call.target.offset.toNat)))
        r.queue) := discreet_stream halike _ _ _ _ _
  obtain ⟨⟨score, queue⟩, world, hstream, hstream', hworld⟩ := hstreams r.world hr
  unfold Ends ReturnM.appendData Returning.withContents
  dsimp only [EStateM.run]
  rw [hstream, hstream']
  exact ⟨rfl, hworld⟩

theorem discreet_answer (halike : archive.AlikeFor start user.readBit contents hidden)
    (call : Call) (queue : FrameQueue) :
    archive.Discreet start contents hidden ((archive.serve outside).answer user call queue) := by
  intro w hw
  have hsteps : Overlooks (Returning.withContents hidden) (archive.ServesReturn start contents) (do
      let total ← ReturnM.appendHeader (archive.serve outside) user call.target
      ReturnM.appendData (archive.serve outside) user call total) :=
    .bind (overlooks_appendHeader halike _) fun _ => overlooks_appendData halike call _
  have hends := hsteps { queue, world := w } hw
  unfold Environment.answer
  dsimp only
  split
  next score r heq =>
    obtain ⟨hrun, hr⟩ := hends.of_ok heq
    rw [Returning.withContents_mk, hrun]
    exact ⟨_, _, rfl, rfl, hr⟩
  next score r heq =>
    obtain ⟨hrun, hr⟩ := hends.of_error heq
    rw [Returning.withContents_mk, hrun]
    exact ⟨_, _, rfl, rfl, hr⟩

end Archive

end Mode2
