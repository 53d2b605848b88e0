import Mathlib.Data.List.Forall2
import Mode2.Proofs.Query.Receiver

/-!
# What a return appends

A return lists the files with the lengths that they report, repeats the offset and then carries
data. When the frame has room for the header and the footer and the user may read the files, the
data are the slice of the files that the caller, the frame and the files allow. Only the data
keep clear of the footer: a header may reach up to the limit of the frame.
-/

namespace Mode2

/-! ## Headers -/

/-- What the header of a return says about its files: the number and the length of each. -/
def returnEntries (ids : List UInt8) (lengths : List UInt16) : List UInt8 :=
  (List.zipWith (fun id length => id :: Octet.ofShort length) ids lengths).flatten

@[simp] theorem length_returnEntries {ids : List UInt8} {lengths : List UInt16}
    (h : ids.length = lengths.length) : (returnEntries ids lengths).length = 3 * ids.length := by
  induction ids generalizing lengths with
  | nil => rfl
  | cons id rest ih =>
      cases lengths with
      | nil => cases h
      | cons length lengths =>
          have hrest := ih (Nat.succ.inj h)
          simp only [returnEntries, List.zipWith_cons_cons, List.flatten_cons, List.length_append,
            List.length_cons, Octet.ofShort, List.length_nil] at hrest ⊢
          omega

namespace Target

/-- The header of a return: one file and a one-byte offset, or a counted series and a two-byte
offset. -/
def returnHeader (t : Target) (lengths : List UInt16) : List UInt8 :=
  if t.isSeries then
    UInt8.ofNat t.files.length :: returnEntries t.files lengths ++ Octet.ofShort t.offset
  else returnEntries t.files lengths ++ [t.offset.toUInt8]

/-- How long the header of a return is, whatever lengths it tells. -/
def headerLength (t : Target) : Nat :=
  3 * t.files.length + if t.isSeries then 3 else 1

theorem length_returnHeader {t : Target} {lengths : List UInt16}
    (h : t.files.length = lengths.length) : (t.returnHeader lengths).length = t.headerLength := by
  unfold returnHeader headerLength
  split <;> simp [h, Octet.ofShort]

end Target

namespace Environment

variable {W : Type} {env : Environment W} {user : User} {start : W} {id : UInt8}

/-- The file reported this length while it was open, after visits since `start`. -/
def Reports (env : Environment W) (user : User) (start : W) (id : UInt8) (length : UInt16) : Prop :=
  ∃ file w, env.Opened user start id file w ∧ (env.files.length file w).1 = length

/-- Why a header that would end at `stop` is not completed: the user may not read one of the
files when its turn comes, or the frame ends before. -/
inductive Declines (env : Environment W) (user : User) (start : W) (files : List UInt8)
    (limit stop : Nat) : Score → Prop
  | refused {id : UInt8} {w : W} (hid : id ∈ files) (hw : env.Visits start none w)
      (hrefused : ¬env.MayRead user id w) : env.Declines user start files limit stop .fileError
  | full (h : limit < stop) : env.Declines user start files limit stop .rejected

theorem ends_fileLength {r : Returning W} {good : UInt16 → Returning W → Prop}
    {bad : Score → Returning W → Prop} (hw : env.Visits start none r.world)
    (hgood : ∀ length world, env.Reports user start id length → env.Visits start none world →
      good length { r with world })
    (hbad : ∀ world, ¬env.MayRead user id r.world → bad .fileError { r with world }) :
    Ends (ReturnM.fileLength env user id) r good bad := by
  unfold Ends ReturnM.fileLength
  dsimp only [EStateM.run]
  by_cases hread : env.MayRead user id r.world
  · obtain ⟨file, w, hopen, hopened⟩ := hread.exists_opened hw
    rw [hopen]
    exact hgood _ _ ⟨file, w, hopened, rfl⟩ hopened.length.visits.close
  · obtain ⟨cause, w, hopen⟩ := exists_error_of_not_mayRead hread
    rw [hopen]
    exact hbad w hread

/-- An entry of a header tells the length that the file reports. -/
theorem ends_appendEntry {files : List UInt8} {stop : Nat} (hid : id ∈ files) {r : Returning W}
    (hw : env.Visits start none r.world) (hstop : r.queue.length + 3 ≤ stop) :
    Ends (ReturnM.appendEntry env user id) r
      (fun length r' => ∃ reported, env.Reports user start id reported ∧
        length = reported.toNat ∧ env.Visits start none r'.world ∧
          r.queue.append (id :: Octet.ofShort reported) = .ok r'.queue)
      (fun score _ => env.Declines user start files r.queue.limit stop score) := by
  unfold ReturnM.appendEntry
  refine Ends.bind (ends_fileLength hw (fun reported world hreports hw' => ?_)
    fun world hrefused => .refused hid hw hrefused)
  refine Ends.bind (ends_append (fun first hfirst => ?_) fun hfull => ?_)
  · refine Ends.bind (ends_append (fun both hboth => ?_) fun hfull => ?_)
    · exact ⟨reported, hreports, rfl, hw', FrameQueue.append_append hfirst hboth⟩
    · refine .full ?_
      rw [FrameQueue.limit_append hfirst, FrameQueue.length_append hfirst] at hfull
      simp only [Octet.ofShort, List.length_cons, List.length_nil] at hfull
      omega
  · refine .full ?_
    simp only [List.length_cons, List.length_nil] at hfull
    omega

theorem ends_appendEntries {files : List UInt8} {stop : Nat} (ids : List UInt8)
    (hids : ∀ id ∈ ids, id ∈ files) {r : Returning W} (hw : env.Visits start none r.world)
    (hstop : r.queue.length + 3 * ids.length ≤ stop) :
    Ends (ids.mapM (ReturnM.appendEntry env user)) r
      (fun lengths r' => ∃ reported, List.Forall₂ (env.Reports user start) ids reported ∧
        lengths = reported.map UInt16.toNat ∧ env.Visits start none r'.world ∧
          r.queue.append (returnEntries ids reported) = .ok r'.queue)
      (fun score _ => env.Declines user start files r.queue.limit stop score) := by
  -- Every entry leaves three bytes less before the header's end, and one entry less to write.
  induction ids generalizing r with
  | nil => exact ⟨[], .nil, rfl, hw, FrameQueue.append_nil r.queue⟩
  | cons id rest ih =>
      obtain ⟨hid, hrest⟩ := List.forall_mem_cons.mp hids
      rw [List.length_cons] at hstop
      rw [List.mapM_cons]
      refine Ends.bind ((ends_appendEntry hid hw (by omega)).imp ?_ fun _ _ hdeclines => hdeclines)
      rintro length r₁ ⟨reported, hreports, rfl, hw₁, hentry⟩
      have hstop₁ : r₁.queue.length + 3 * rest.length ≤ stop := by
        have hlength := FrameQueue.length_append hentry
        simp only [Octet.ofShort, List.length_cons, List.length_nil] at hlength
        omega
      rw [← FrameQueue.limit_append hentry]
      refine Ends.bind ((ih hrest hw₁ hstop₁).imp ?_ fun _ _ hdeclines => hdeclines)
      rintro lengths r₂ ⟨others, hothers, rfl, hw₂, hentries⟩
      exact ⟨reported :: others, .cons hreports hothers, rfl, hw₂,
        FrameQueue.append_append hentry hentries⟩

/-- Behind its entries a header ends with some last bytes. -/
theorem ends_appendListing {files last : List UInt8} {stop : Nat} {r : Returning W}
    (hw : env.Visits start none r.world)
    (hstop : r.queue.length + (3 * files.length + last.length) ≤ stop) :
    Ends (do
        let lengths ← files.mapM (ReturnM.appendEntry env user)
        ReturnM.append last
        return lengths.foldr (· + ·) 0) r
      (fun total r' => ∃ lengths, List.Forall₂ (env.Reports user start) files lengths ∧
        total = (lengths.map UInt16.toNat).foldr (· + ·) 0 ∧ env.Visits start none r'.world ∧
          r.queue.append (returnEntries files lengths ++ last) = .ok r'.queue)
      (fun score _ => env.Declines user start files r.queue.limit stop score) := by
  refine Ends.bind ((ends_appendEntries files (fun _ hid => hid) hw (by omega)).imp ?_
    fun _ _ hdeclines => hdeclines)
  rintro lengths r₁ ⟨reported, hreported, rfl, hw₁, hentries⟩
  refine Ends.bind (ends_append (fun queue hlast => ?_) fun hfull => .full ?_)
  · exact ⟨reported, hreported, rfl, hw₁, FrameQueue.append_append hentries hlast⟩
  · rw [FrameQueue.limit_append hentries, FrameQueue.length_append hentries,
      length_returnEntries hreported.length_eq] at hfull
    omega

/-- A return's header lists the lengths that the files report, and yields their sum. -/
theorem ends_appendHeader (env : Environment W) (user : User) (target : Target)
    (r : Returning W) :
    Ends (ReturnM.appendHeader env user target) r
      (fun total r' => ∃ lengths, List.Forall₂ (env.Reports user r.world) target.files lengths ∧
        total = (lengths.map UInt16.toNat).foldr (· + ·) 0 ∧ env.Visits r.world none r'.world ∧
          r.queue.append (target.returnHeader lengths) = .ok r'.queue)
      (fun score _ => env.Declines user r.world target.files r.queue.limit
        (r.queue.length + target.headerLength) score) := by
  unfold ReturnM.appendHeader Target.returnHeader Target.headerLength
  split
  · refine Ends.bind (ends_append (fun queue hcount => ?_) fun hfull => .full ?_)
    · have hlength := FrameQueue.length_append hcount
      rw [← FrameQueue.limit_append hcount]
      refine (ends_appendListing (r := { r with queue }) .refl ?_).imp ?_
        fun _ _ hdeclines => hdeclines
      · simp only [List.length_cons, List.length_nil, Octet.ofShort] at hlength ⊢
        omega
      · rintro total r' ⟨lengths, hreported, htotal, hw, hrest⟩
        have happend := FrameQueue.append_append hcount hrest
        exact ⟨lengths, hreported, htotal, hw, happend⟩
    · simp only [List.length_cons, List.length_nil] at hfull
      omega
  · exact ends_appendListing .refl (Nat.le_refl _)

/-! ## Data -/

/-- Files with contents report the lengths of their contents. -/
theorem Holds.lengths_of_reports {contents : UInt8 → List UInt8} (h : env.Holds user start contents)
    {ids : List UInt8} {lengths : List UInt16}
    (hreports : List.Forall₂ (env.Reports user start) ids lengths) :
    lengths = ids.map (fun id => UInt16.ofNat (contents id).length) ∧
      (lengths.map UInt16.toNat).foldr (· + ·) 0 = (ids.flatMap contents).length := by
  induction hreports with
  | nil => exact ⟨rfl, rfl⟩
  | @cons id length ids lengths hlength _ ih =>
      obtain ⟨file, w, hopen, rfl⟩ := hlength
      have htrue := h.length hopen
      rw [List.map_cons, List.map_cons, List.flatMap_cons, List.length_append, List.foldr_cons, ih.2,
        htrue, ← htrue, UInt16.ofNat_toNat]
      exact ⟨congrArg _ ih.1, rfl⟩

/-- From files with contents that the user may read, the data of a return are a slice: as many
bytes as the caller accepts, as the frame has room for before its footer, and as the files have
behind the offset. -/
theorem Holds.ends_appendData {contents : UInt8 → List UInt8} (h : env.Holds user start contents)
    {call : Call} (hfiles : call.target.files ≠ [])
    (hread : ∀ id ∈ call.target.files, ∀ w, env.Visits start none w → env.MayRead user id w)
    {r : Returning W} (hw : env.Visits start none r.world) :
    let joined := call.target.files.flatMap contents
    let count := min call.maxBytes.toNat
      (min (r.queue.space - footerLength) (joined.length - call.target.offset.toNat))
    let data := sliceOf contents call.target.files call.target.offset.toNat count
    Ends (ReturnM.appendData env user call joined.length) r
      (fun score r' => data.length = count ∧ score = Int.ofNat count ∧
        r.queue.append data = .ok r'.queue)
      (fun _ _ => False) := by
  intro joined count data
  have hlength : data.length = count := by
    change ((joined.drop _).take count).length = count
    rw [List.length_take, List.length_drop]
    omega
  have hfree : ¬env.Obstructed user contents (fun byte queue => (FrameQueue.push queue byte).toOption)
      call.target.files call.target.offset.toNat count ⟨0, r.queue, r.world⟩ :=
    not_obstructed hw hread
  obtain ⟨taken, queue', htakes, hstream⟩ := h.exists_stream _ hfiles hw hfree
  have hfits : data.length ≤ r.queue.space := by omega
  obtain ⟨queue, happend⟩ := FrameQueue.exists_append hfits
  obtain ⟨htaken, hqueue⟩ := htakes.eq_of_accepts (FrameQueue.accepts_push_iff.mpr happend)
  have hbytes := call.maxBytes.toNat_lt
  have hcounted : min taken.length maxScore = count := by
    rw [htaken, hlength, maxScore]
    omega
  rw [hcounted, hqueue] at hstream
  unfold Ends ReturnM.appendData
  dsimp only [EStateM.run]
  refine ⟨hlength, congrArg Prod.fst hstream, ?_⟩
  rw [happend]
  exact congrArg (fun result => Except.ok result.2) hstream.symm

/-! ## Returns -/

/-- What a return makes of a frame. Whatever the files do, the bytes of the frame stay in front,
and its cursor and its limit stay where they are. When the files have contents that the user may
read and the frame has room for the header and the footer, the header with the lengths of the
files is appended, and then the data that the caller, the frame and the files allow, which the
score counts. -/
theorem answer_returns (env : Environment W) (user : User) (call : Call) (queue : FrameQueue)
    (w : W) :
    let target := call.target
    let result := (env.answer user call queue w).1
    (queue.written <+: result.2.written ∧ result.2.cursor = queue.cursor ∧
      result.2.limit = queue.limit) ∧
    ∀ contents : UInt8 → List UInt8, env.Holds user w contents → target.files ≠ [] →
      (∀ id ∈ target.files, ∀ w', env.Visits w none w' → env.MayRead user id w') →
      let header :=
        target.returnHeader (target.files.map fun id => UInt16.ofNat (contents id).length)
      header.length + footerLength ≤ queue.space →
      let joined := target.files.flatMap contents
      let count := min call.maxBytes.toNat (min (queue.space - header.length - footerLength)
        (joined.length - target.offset.toNat))
      let data := (joined.drop target.offset.toNat).take count
      data.length = count ∧ result.1 = Int.ofNat count ∧
        result.2.written = queue.written ++ header ++ data := by
  intro target result
  constructor
  · obtain ⟨bytes, happend⟩ := exists_append_answer env user call queue w
    refine ⟨?_, FrameQueue.cursor_append happend, FrameQueue.limit_append happend⟩
    rw [FrameQueue.written_append happend]
    exact List.prefix_append _ _
  · intro contents h hfiles hread header hroom joined count data
    refine answer_of_ends (P := fun score r => data.length = count ∧ score = Int.ofNat count ∧
      r.queue.written = queue.written ++ header ++ data) ?_
    refine Ends.bind ((ends_appendHeader env user target _).imp ?_ ?_)
    · rintro total r₁ ⟨lengths, hreported, rfl, hw₁, hheader⟩
      obtain ⟨rfl, htotal⟩ := h.lengths_of_reports hreported
      have hspace := FrameQueue.space_append hheader
      rw [htotal]
      refine (h.ends_appendData hfiles hread hw₁).imp ?_ fun _ _ hnever => hnever.elim
      rintro score r₂ ⟨hlength, hscore, hdata⟩
      rw [hspace] at hlength hscore hdata
      refine ⟨hlength, hscore, ?_⟩
      rw [FrameQueue.written_append hdata, FrameQueue.written_append hheader]
      rfl
    · rintro score r₁ hdeclines
      cases hdeclines with
      | refused hid hw hrefused => exact absurd (hread _ hid _ hw) hrefused
      | full hfull =>
          have hlength : header.length = target.headerLength :=
            Target.length_returnHeader (by simp)
          have hspace := queue.length_add_space
          dsimp only at hfull
          omega

/-- A frame with two bytes has room for three bytes of the data of two files. -/
theorem answer_returns_two_files :
    let env := Archive.table.serve .obliging
    let call : Call := { maxBytes := 4, target := { isSeries := true, ids := [1, 2], offset := 1 } }
    let queue : FrameQueue := ⟨[7], [8], 16, by decide, by decide⟩
    let header : List UInt8 := [2, 1, 0, 3, 2, 0, 3, 0, 1]
    let result := (env.answer .guest call queue Archive.twoFiles).1
    env.Holds .guest Archive.twoFiles Archive.twoFiles.contents ∧
      header.length + footerLength ≤ queue.space ∧ result.1 = 3 ∧
        result.2.written = [7, 8] ++ header ++ [11, 12, 13] := by
  intro env call queue header result
  have hread : ∀ id ∈ call.target.files, ∀ w', env.Visits Archive.twoFiles none w' →
      env.MayRead .guest id w' := fun id hid w' => Archive.mayRead_twoFiles hid
  have hroom : header.length + footerLength ≤ queue.space := by decide
  obtain ⟨-, hscore, hwritten⟩ := (answer_returns env .guest call queue Archive.twoFiles).2
    Archive.twoFiles.contents Archive.holds_twoFiles (List.cons_ne_nil 1 [2]) hread hroom
  exact ⟨Archive.holds_twoFiles, hroom, hscore, hwritten.trans (by decide)⟩

/-- A return that succeeds has appended its header and as many bytes as it says, and has left room
for the footer just when the header had left it. A return is rejected only when the header alone
does not fit. -/
theorem leaves_room_iff (env : Environment W) (user : User) (call : Call) (queue : FrameQueue)
    (w : W) :
    let header := call.target.headerLength
    let result := (env.answer user call queue w).1
    (result.1 = .rejected → queue.space < header) ∧
      (0 ≤ result.1 → header ≤ queue.space ∧
        (result.2.length : Int) = queue.length + header + result.1 ∧
          (footerLength ≤ result.2.space ↔ header + footerLength ≤ queue.space)) := by
  intro header result
  refine answer_of_ends (P := fun score r => (score = .rejected → queue.space < header) ∧
    (0 ≤ score → header ≤ queue.space ∧ (r.queue.length : Int) = queue.length + header + score ∧
      (footerLength ≤ r.queue.space ↔ header + footerLength ≤ queue.space))) ?_
  refine Ends.bind ((ends_appendHeader env user call.target _).imp ?_ ?_)
  · rintro total r₁ ⟨lengths, hreported, -, -, hheader⟩
    refine (ends_appendData env user call total r₁).imp ?_ fun _ _ hnever => hnever.elim
    rintro score r₂ ⟨data, hdata, hroom, hscore⟩
    have hfits := FrameQueue.length_le_space_of_append hheader
    have hspace₁ := FrameQueue.space_append hheader
    have hspace₂ := FrameQueue.space_append hdata
    have hlength₁ := FrameQueue.length_append hheader
    have hlength₂ := FrameQueue.length_append hdata
    rw [Target.length_returnHeader hreported.length_eq] at hfits hspace₁ hlength₁
    dsimp only at hfits hspace₁ hlength₁
    rcases hscore with rfl | rfl
    · exact ⟨nofun, nofun⟩
    · refine ⟨nofun, fun _ => ⟨hfits, ?_, ?_⟩⟩
      · rw [hlength₂, hlength₁]
        rfl
      · omega
  · rintro score r₁ hdeclines
    cases hdeclines with
    | refused => exact ⟨nofun, nofun⟩
    | full hfull =>
        refine ⟨fun _ => ?_, nofun⟩
        have hspace := queue.length_add_space
        dsimp only at hfull
        omega

/-- A header that fits a frame without room for the footer makes a return that succeeds. -/
theorem leaves_room_iff_of_tight_limit :
    let env := Archive.table.serve .obliging
    let queue : FrameQueue := ⟨[], [], 4, by decide, by decide⟩
    let result := (env.answer .guest (.ofFile 1 4) queue Archive.twoFiles).1
    0 ≤ result.1 ∧ ¬footerLength ≤ result.2.space := by
  intro env queue result
  have hscore : 0 ≤ result.1 := by decide
  obtain ⟨-, -, hroom⟩ :=
    (leaves_room_iff env .guest (.ofFile 1 4) queue Archive.twoFiles).2 hscore
  exact ⟨hscore, mt hroom.mp (by decide)⟩

/-- A file that the user may not read when its return is appended is not returned. -/
theorem answer_of_refused {w : W} (h : ¬env.MayRead user id w) (maxBytes : UInt8)
    (queue : FrameQueue) :
    (env.answer user (.ofFile id maxBytes) queue w).1.1 = .fileError := by
  obtain ⟨cause, w', hopen⟩ := exists_error_of_not_mayRead h
  have hlength : (ReturnM.fileLength env user id).run ⟨queue, w⟩ = .error .fileError ⟨queue, w'⟩ := by
    unfold ReturnM.fileLength
    dsimp only [EStateM.run]
    rw [hopen]
  refine answer_of_ends (P := fun score _ => score = .fileError) (Ends.bind (Ends.bind ?_))
  exact Ends.bind (Ends.bind_of_error hlength rfl)

end Environment

end Mode2
