import Mode2.Proofs.File.Contents

/-!
# Streams hand over slices

A stream from files with contents hands the bytes of the joined files to its receiver, from
the offset on and within the window, up to the first byte that the receiver refuses. A file
is opened only when its turn comes: when all bytes before it have been accepted and there is
room for more.
-/

namespace Mode2

variable {W σ : Type}

/-- The bytes of the joined files from an offset on and within a window. -/
def sliceOf (contents : UInt8 → List UInt8) (files : List UInt8) (offset window : Nat) :
    List UInt8 :=
  ((files.flatMap contents).drop offset).take window

/-- The slice of some files is that of the first one, followed by what is then left. -/
theorem sliceOf_cons (contents : UInt8 → List UInt8) (id : UInt8) (rest : List UInt8)
    (offset window : Nat) :
    sliceOf contents (id :: rest) offset window =
      ((contents id).drop offset).take window ++
        sliceOf contents rest (offset - (contents id).length)
          (window - (((contents id).drop offset).take window).length) := by
  have hroom : window - ((contents id).drop offset).length =
      window - (((contents id).drop offset).take window).length := by
    rw [List.length_take]
    omega
  rw [sliceOf, List.flatMap_cons, List.drop_append, List.take_append, hroom]
  rfl

@[simp] theorem sliceOf_nil (contents : UInt8 → List UInt8) (offset window : Nat) :
    sliceOf contents [] offset window = [] := by
  simp [sliceOf]

@[simp] theorem sliceOf_zero (contents : UInt8 → List UInt8) (files : List UInt8)
    (offset : Nat) : sliceOf contents files offset 0 = [] :=
  List.take_zero

/-! ## Receivers -/

/-- The receiver accepts the bytes one after the other. -/
def Accepts (accept : UInt8 → σ → Option σ) (s : σ) (bytes : List UInt8) (s' : σ) : Prop :=
  bytes.foldlM (fun s byte => accept byte s) s = some s'

/-- Of the bytes that it is handed one after the other, the receiver takes all, or the first
ones and then refuses the next. -/
inductive Takes (accept : UInt8 → σ → Option σ) (s : σ) :
    (bytes taken : List UInt8) → (s' : σ) → Prop
  | all {bytes : List UInt8} {s' : σ} (h : Accepts accept s bytes s') : Takes accept s bytes bytes s'
  | refuses {taken : List UInt8} {s' : σ} (byte : UInt8) (rest : List UInt8)
      (h : Accepts accept s taken s') (hrefused : accept byte s' = none) :
      Takes accept s (taken ++ byte :: rest) taken s'

variable {accept : UInt8 → σ → Option σ} {s s' : σ}

theorem Accepts.nil : Accepts accept s [] s := rfl

theorem Accepts.cons {byte : UInt8} {bytes : List UInt8} {s₁ : σ} (hbyte : accept byte s = some s₁)
    (h : Accepts accept s₁ bytes s') : Accepts accept s (byte :: bytes) s' := by
  simpa [Accepts, hbyte] using h

theorem Accepts.append {first second : List UInt8} {s₁ : σ} (h : Accepts accept s first s₁)
    (h' : Accepts accept s₁ second s') : Accepts accept s (first ++ second) s' := by
  unfold Accepts at h h' ⊢
  simp [List.foldlM_append, h, h']

/-- Whoever accepts some bytes and those behind them accepts the first ones first. -/
theorem Accepts.of_append {first second : List UInt8} (h : Accepts accept s (first ++ second) s') :
    ∃ s₁, Accepts accept s first s₁ ∧ Accepts accept s₁ second s' := by
  unfold Accepts at h
  rw [List.foldlM_append] at h
  exact Option.bind_eq_some_iff.mp h

theorem Accepts.unique {bytes : List UInt8} {s₁ s₂ : σ} (h : Accepts accept s bytes s₁)
    (h' : Accepts accept s bytes s₂) : s₁ = s₂ :=
  Option.some.inj (h.symm.trans h')

/-- After bytes that were accepted the receiver goes on. -/
theorem Takes.append_left {first bytes taken : List UInt8} {s₁ : σ} (h : Accepts accept s first s₁)
    (h' : Takes accept s₁ bytes taken s') : Takes accept s (first ++ bytes) (first ++ taken) s' := by
  cases h' with
  | all h' => exact .all (h.append h')
  | refuses byte rest h' hrefused =>
      rw [← List.append_assoc]
      exact .refuses byte rest (h.append h') hrefused

/-- What comes behind a byte that was refused does not matter. -/
theorem Takes.append_right {bytes taken : List UInt8} (h : Takes accept s bytes taken s')
    (hrefused : taken ≠ bytes) (more : List UInt8) : Takes accept s (bytes ++ more) taken s' := by
  cases h with
  | all h => exact absurd rfl hrefused
  | refuses byte rest h hbyte =>
      rw [List.append_assoc, List.cons_append]
      exact .refuses byte (rest ++ more) h hbyte

/-- A receiver accepts what it takes. -/
theorem Takes.accepts {bytes taken : List UInt8} (h : Takes accept s bytes taken s') :
    Accepts accept s taken s' := by
  cases h with
  | all h => exact h
  | refuses byte rest h hbyte => exact h

/-- A receiver that would accept all bytes takes all of them. -/
theorem Takes.eq_of_accepts {bytes taken : List UInt8} {s₁ : σ} (h : Takes accept s bytes taken s')
    (hall : Accepts accept s bytes s₁) : taken = bytes ∧ s' = s₁ := by
  cases h with
  | all h => exact ⟨rfl, h.unique hall⟩
  | refuses byte rest h hbyte =>
      obtain ⟨s₂, hfirst, hrest⟩ := hall.of_append
      rw [h.unique hfirst] at hbyte
      simp [Accepts, hbyte] at hrest

/-- A file's turn comes after the ones before it: all their bytes have been accepted, and there
is room for more. -/
def Reached (contents : UInt8 → List UInt8) (accept : UInt8 → σ → Option σ) (s : σ)
    (before : List UInt8) (offset window : Nat) : Prop :=
  (sliceOf contents before offset window).length < window ∧
    ∃ s', Accepts accept s (sliceOf contents before offset window) s'

theorem reached_nil {contents : UInt8 → List UInt8} {offset window : Nat} :
    Reached contents accept s [] offset window ↔ window ≠ 0 := by
  simp [Reached, Accepts, Nat.pos_iff_ne_zero]

/-- The files after the first one are reached when they are reached from where it ends. -/
theorem reached_cons {contents : UInt8 → List UInt8} {id : UInt8} {before : List UInt8}
    {offset window : Nat} : Reached contents accept s (id :: before) offset window ↔
      ∃ s₁, Accepts accept s (((contents id).drop offset).take window) s₁ ∧
        Reached contents accept s₁ before (offset - (contents id).length)
          (window - (((contents id).drop offset).take window).length) := by
  unfold Reached
  rw [sliceOf_cons, List.length_append]
  constructor
  · rintro ⟨hroom, s', haccepts⟩
    obtain ⟨s₁, hfirst, hrest⟩ := haccepts.of_append
    exact ⟨s₁, hfirst, by omega, s', hrest⟩
  · rintro ⟨s₁, hfirst, hroom, s', hrest⟩
    exact ⟨by omega, s', hfirst.append hrest⟩

@[simp] theorem Target.participating_eq_nil_iff {isSeries : Bool} {ids : List UInt8} :
    participating isSeries ids = [] ↔ ids = [] := by
  cases isSeries <;> simp [participating]

namespace Environment

variable {env : Environment W} {user : User} {start : W} {contents : UInt8 → List UInt8}
  {id : UInt8} {file : Handle}

/-! ## One file -/

/-- The bytes of an open file are handed over until one is refused. -/
theorem Holds.exists_streamBytes (h : env.Holds user start contents)
    (accept : UInt8 → σ → Option σ) (n position : Nat) {t : Transfer W σ}
    (hopen : env.Opened user start id file t.world) (hn : position + n ≤ (contents id).length) :
    ∃ taken s' w', Takes accept t.receiver (((contents id).drop position).take n) taken s' ∧
      env.Opened user start id file w' ∧
      env.streamBytes accept file n position t =
        (if taken = ((contents id).drop position).take n then .drained else .refused,
          ⟨t.accepted + taken.length, s', w'⟩) := by
  induction n generalizing position t with
  | zero => exact ⟨[], t.receiver, t.world, .all .nil, hopen, by simp [streamBytes]⟩
  | succ n ih =>
      have hposition : position < (contents id).length := by omega
      obtain ⟨w₁, hread, hopen₁⟩ :=
        h.exists_readByte hopen (List.getElem?_eq_getElem hposition)
      rw [List.drop_eq_getElem_cons hposition, List.take_succ_cons]
      unfold streamBytes
      rw [hread]
      dsimp only
      cases hbyte : accept (contents id)[position] t.receiver with
      | none =>
          exact ⟨[], t.receiver, w₁, .refuses _ _ .nil hbyte, hopen₁, by simp⟩
      | some s₁ =>
          dsimp only
          obtain ⟨taken, s', w', htakes, hopen', hstream⟩ :=
            ih (position + 1) (t := ⟨t.accepted + 1, s₁, w₁⟩) hopen₁ (by omega)
          have hfirst : Accepts accept t.receiver [(contents id)[position]] s₁ := .cons hbyte .nil
          refine ⟨(contents id)[position] :: taken, s', w', htakes.append_left hfirst, hopen', ?_⟩
          rw [hstream]
          simp only [List.cons.injEq, true_and, List.length_cons]
          rw [Nat.add_assoc, Nat.add_comm 1]

/-- From a file whose turn has come its part of the slice is handed over, and the file is
closed. If all of it is accepted, the files after it are next. -/
theorem Holds.exists_streamFiles_cons (h : env.Holds user start contents)
    (accept : UInt8 → σ → Option σ) (skip : Nat) {window : Nat} {t : Transfer W σ}
    (hw : env.Visits start none t.world) (hwindow : window ≠ 0)
    (hread : env.MayRead user id t.world) :
    ∃ taken s' w',
      Takes accept t.receiver (((contents id).drop skip).take window) taken s' ∧
      env.Visits start none w' ∧ ∀ rest, env.streamFiles user accept (id :: rest) skip window t =
        if taken = ((contents id).drop skip).take window then
          env.streamFiles user accept rest (skip - (contents id).length) (window - taken.length)
            ⟨t.accepted + taken.length, s', w'⟩
        else (true, ⟨t.accepted + taken.length, s', w'⟩) := by
  obtain ⟨file, w₁, hreadable, hopen⟩ := hread.exists_opened hw
  have hsize := h.length hopen
  by_cases hskipped : (contents id).length ≤ skip
  · refine ⟨[], t.receiver, (env.files.close file (env.files.length file w₁).2).2, ?_,
      hopen.length.visits.close, fun rest => ?_⟩
    · rw [List.drop_of_length_le hskipped, List.take_nil]
      exact .all .nil
    · rw [List.drop_of_length_le hskipped, List.take_nil, streamFiles]
      simp [hwindow, hreadable, hsize, hskipped, closed]
  · have hpart : ((contents id).drop skip).take (min ((contents id).length - skip) window) =
        ((contents id).drop skip).take window := by
      rw [← List.length_drop, Nat.min_comm, ← List.take_take, List.take_length]
    obtain ⟨taken, s', w', htakes, hopen', hstream⟩ :=
      h.exists_streamBytes accept (min ((contents id).length - skip) window) skip
        (t := ⟨t.accepted, t.receiver, (env.files.length file w₁).2⟩) hopen.length (by omega)
    rw [hpart] at htakes hstream
    refine ⟨taken, s', (env.files.close file w').2, htakes, hopen'.visits.close, fun rest => ?_⟩
    rw [streamFiles]
    simp only [hwindow, if_false, hreadable, hsize, hskipped, hstream]
    by_cases hall : taken = ((contents id).drop skip).take window
    · have hlength : taken.length = min ((contents id).length - skip) window := by
        rw [hall, List.length_take, List.length_drop, Nat.min_comm]
      have hnext : skip - (contents id).length = 0 := by omega
      simp [← hall, ← hlength, hnext, closed]
    · simp [hall, closed]

/-! ## Several files -/

/-- One of the files cannot be opened, or not be read by the user, when its turn comes. -/
def Obstructed (env : Environment W) (user : User) (contents : UInt8 → List UInt8)
    (accept : UInt8 → σ → Option σ) (files : List UInt8) (offset window : Nat)
    (t : Transfer W σ) : Prop :=
  ∃ before id after, files = before ++ id :: after ∧
    Reached contents accept t.receiver before offset window ∧
      ¬env.MayRead user id (env.streamFiles user accept before offset window t).2.world

/-- Files that the user may read whatever has been visited are not in the way. -/
theorem not_obstructed {files : List UInt8} {offset window : Nat} {t : Transfer W σ}
    (hw : env.Visits start none t.world)
    (hread : ∀ id ∈ files, ∀ w', env.Visits start none w' → env.MayRead user id w') :
    ¬env.Obstructed user contents accept files offset window t := by
  rintro ⟨before, id, after, heq, -, hrefused⟩
  refine hrefused (hread id ?_ _ (visits_streamFiles user accept before offset window hw))
  rw [heq]
  exact List.mem_append_cons_self

/-- When nothing is in the way, the slice of the files is handed over. -/
theorem Holds.exists_streamFiles (h : env.Holds user start contents)
    (accept : UInt8 → σ → Option σ) (files : List UInt8) {skip window : Nat} {t : Transfer W σ}
    (hw : env.Visits start none t.world)
    (hfree : ¬env.Obstructed user contents accept files skip window t) :
    ∃ taken s' w', Takes accept t.receiver (sliceOf contents files skip window) taken s' ∧
      env.streamFiles user accept files skip window t =
        (true, ⟨t.accepted + taken.length, s', w'⟩) := by
  induction files generalizing skip window t with
  | nil =>
      refine ⟨[], t.receiver, t.world, ?_, rfl⟩
      rw [sliceOf_nil]
      exact .all .nil
  | cons id rest ih =>
      by_cases hwindow : window = 0
      · refine ⟨[], t.receiver, t.world, ?_, by rw [streamFiles, if_pos hwindow]; rfl⟩
        rw [hwindow, sliceOf_zero]
        exact .all .nil
      · have hread : env.MayRead user id t.world := by
          refine Classical.byContradiction fun hrefused => ?_
          exact hfree ⟨[], id, rest, rfl, reached_nil.mpr hwindow, hrefused⟩
        obtain ⟨taken, s₁, w₁, htakes, hw₁, hstep⟩ :=
          h.exists_streamFiles_cons accept skip hw hwindow hread
        rw [sliceOf_cons]
        by_cases hall : taken = ((contents id).drop skip).take window
        · subst hall
          simp only [if_true] at hstep
          obtain ⟨taken', s', w', htakes', hstream⟩ := ih hw₁ (t := ⟨_, s₁, w₁⟩) <| by
            rintro ⟨before, id', after, rfl, hreached, hrefused⟩
            rw [← hstep before] at hrefused
            exact hfree ⟨id :: before, id', after, rfl,
              reached_cons.mpr ⟨s₁, htakes.accepts, hreached⟩, hrefused⟩
          refine ⟨_, s', w', htakes'.append_left htakes.accepts, ?_⟩
          rw [hstep, hstream, List.length_append, Nat.add_assoc]
        · refine ⟨taken, s₁, w₁, htakes.append_right hall _, ?_⟩
          rw [hstep, if_neg hall]

/-- A file that is in the way makes the stream fail. -/
theorem Holds.streamFiles_fails (h : env.Holds user start contents)
    {accept : UInt8 → σ → Option σ} {files : List UInt8} {skip window : Nat} {t : Transfer W σ}
    (hw : env.Visits start none t.world)
    (hobstructed : env.Obstructed user contents accept files skip window t) :
    (env.streamFiles user accept files skip window t).1 = false := by
  obtain ⟨before, id, after, rfl, hreached, hrefused⟩ := hobstructed
  induction before generalizing skip window t with
  | nil =>
      change ¬env.MayRead user id t.world at hrefused
      obtain ⟨cause, w', hopen⟩ := exists_error_of_not_mayRead hrefused
      rw [List.nil_append, streamFiles, if_neg (reached_nil.mp hreached), hopen]
  | cons id₀ before ih =>
      have hwindow : window ≠ 0 := by
        have := hreached.1
        omega
      by_cases hread : env.MayRead user id₀ t.world
      · obtain ⟨taken, s₁, w₁, htakes, hw₁, hstep⟩ :=
          h.exists_streamFiles_cons accept skip hw hwindow hread
        obtain ⟨s₂, haccepts, hreached'⟩ := reached_cons.mp hreached
        obtain ⟨rfl, rfl⟩ := htakes.eq_of_accepts haccepts
        simp only [if_true] at hstep
        rw [hstep] at hrefused
        rw [List.cons_append, hstep]
        exact ih hw₁ hreached' hrefused
      · obtain ⟨cause, w', hopen⟩ := exists_error_of_not_mayRead hread
        rw [List.cons_append, streamFiles, if_neg hwindow, hopen]

/-- A stream that nothing is in the way of hands over its slice. -/
theorem Holds.exists_stream (h : env.Holds user start contents) (accept : UInt8 → σ → Option σ)
    {files : List UInt8} (hfiles : files ≠ []) {offset : UInt16} {window : Nat} {s : σ} {w : W}
    (hw : env.Visits start none w)
    (hfree : ¬env.Obstructed user contents accept files offset.toNat window ⟨0, s, w⟩) :
    ∃ taken s', Takes accept s (sliceOf contents files offset.toNat window) taken s' ∧
      (env.stream user accept files offset window s w).1 =
        (Int.ofNat (min taken.length maxScore), s') := by
  obtain ⟨taken, s', w', htakes, hstream⟩ := h.exists_streamFiles accept files (t := ⟨0, s, w⟩) hw hfree
  refine ⟨taken, s', htakes, ?_⟩
  unfold stream
  simp only [hfiles, if_false, hstream, Nat.zero_add]

/-- A stream that a file is in the way of ends with a file error. -/
theorem Holds.stream_fails (h : env.Holds user start contents)
    {accept : UInt8 → σ → Option σ} {files : List UInt8} {offset : UInt16} {window : Nat} {s : σ}
    {w : W} (hw : env.Visits start none w)
    (hobstructed : env.Obstructed user contents accept files offset.toNat window ⟨0, s, w⟩) :
    (env.stream user accept files offset window s w).1.1 = .fileError := by
  have hfails := h.streamFiles_fails hw hobstructed
  unfold stream
  split
  next => rfl
  next => split <;> simp_all

/-- Streams hand over slices: when there is a file, and every file whose turn comes can be
read, the receiver is handed the slice of the files that take part until it refuses a byte, and
the score counts the bytes that it accepted. Otherwise the score is a file error. -/
theorem stream_slice (h : env.Holds user start contents) (accept : UInt8 → σ → Option σ)
    (isSeries : Bool) (ids : List UInt8) (offset : UInt16) (window : Nat) (s : σ) :
    let files := Target.participating isSeries ids
    let obstructed :=
      env.Obstructed user contents accept files offset.toNat window ⟨0, s, start⟩
    let result := (env.stream user accept files offset window s start).1
    (ids = [] ∨ obstructed → result.1 = .fileError) ∧
      (¬(ids = [] ∨ obstructed) →
        ∃ taken s', Takes accept s (sliceOf contents files offset.toNat window) taken s' ∧
          result = (Int.ofNat (min taken.length maxScore), s')) := by
  intro files obstructed result
  constructor
  · rintro (rfl | hobstructed)
    · cases isSeries <;> rfl
    · exact h.stream_fails .refl hobstructed
  · intro hfree
    obtain ⟨hids, hfree⟩ := not_or.mp hfree
    exact h.exists_stream accept (mt Target.participating_eq_nil_iff.mp hids) .refl hfree

/-- A receiver with room for four bytes is handed those behind the first one, of both files. -/
theorem stream_slice_of_two_files :
    let env := Archive.table.serve .obliging
    let accept := fun byte bytes => if List.length bytes < 4 then some (bytes ++ [byte]) else none
    env.Holds .guest Archive.twoFiles Archive.twoFiles.contents ∧
      ∃ taken s', Takes accept [] [11, 12, 13, 14, 15] taken s' ∧
        (env.stream .guest accept [1, 2] 1 10 [] Archive.twoFiles).1 =
          (Int.ofNat (min taken.length maxScore), s') := by
  intro env accept
  refine ⟨Archive.holds_twoFiles,
    (stream_slice Archive.holds_twoFiles accept true [1, 2] 1 10 []).2 ?_⟩
  rintro (hnone | ⟨before, id, after, hfiles, -, hrefused⟩)
  · cases hnone
  · have hid : id ∈ Target.participating true [1, 2] := by
      simp [hfiles]
    exact hrefused (Archive.mayRead_twoFiles hid (visits_streamFiles .guest accept before 1 10 .refl))

end Environment

end Mode2
