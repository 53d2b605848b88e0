import Mathlib.Order.Bounds.Defs
import Mode2.Proofs.Query.Grammar
import Mode2.Proofs.Query.Slices
import Mode2.Query.Compare

/-!
# Scores of queries

A template that was read from a frame rates the data behind a target. The score is told by the
order of the data and the value under the mask, and by how like the value the data are at the
place where they are most like it.
-/

namespace Mode2

/-- What a relation says of bytes: that they are the others or not, or that they come before or
behind them in the order of words in a dictionary. -/
def Relation.Relates (relation : Relation) (bytes others : List UInt8) : Prop :=
  match relation with
  | .ne => bytes ≠ others
  | .eq => bytes = others
  | .lt => bytes < others
  | .le => bytes ≤ others
  | .gt => others < bytes
  | .ge => others ≤ bytes

theorem compare_eq_lt_iff {bytes others : List UInt8} :
    compare bytes others = .lt ↔ bytes < others := by
  induction bytes generalizing others with
  | nil => cases others <;> simp
  | cons byte bytes ih =>
      cases others with
      | nil => simp
      | cons other others =>
          rw [List.compare_cons_cons, List.cons_lt_cons_iff, Ordering.then_eq_lt, ih,
            Std.compare_eq_lt, Std.compare_eq_iff_eq]

theorem compare_eq_gt_iff {bytes others : List UInt8} :
    compare bytes others = .gt ↔ others < bytes := by
  rw [Std.OrientedCmp.gt_iff_lt, compare_eq_lt_iff]

/-- A relation holds of the result of a comparison when it relates what was compared. -/
theorem Relation.holds_compare (relation : Relation) (bytes others : List UInt8) :
    relation.holds (compare bytes others) = true ↔ relation.Relates bytes others := by
  cases relation with
  | ne => simp [holds, Relates]
  | eq => simp [holds, Relates]
  | lt => simp [holds, Relates, compare_eq_lt_iff]
  | le => simp [holds, Relates, compare_eq_gt_iff]
  | gt => simp [holds, Relates, compare_eq_gt_iff]
  | ge => simp [holds, Relates, compare_eq_lt_iff]

namespace Template

/-- The template is satisfied by no bytes, and asks for none. -/
def AsksNothing (t : Template) : Prop :=
  t.length = 0 ∧ (t.kind? = some .nonNull ∨
    ∃ relation, t.kind? = some (.compare relation) ∧ t.value = [] ∧ relation.Relates [] [])

/-- A query asks for nothing when it looks at no bytes, and succeeds with none. -/
theorem asksNothing_iff {t : Template} {kind : QueryKind} (hkind : t.kind? = some kind) :
    t.AsksNothing ↔ t.windowOf kind = 0 ∧ 0 ≤ t.score kind [] := by
  have hlength : t.length.toNat = 0 ↔ t.length = 0 :=
    ⟨fun hzero => UInt8.toNat_inj.mp hzero, fun hzero => hzero ▸ rfl⟩
  cases kind with
  | nonNull =>
      simp only [AsksNothing, hkind, true_or, and_true, windowOf, hlength, score]
      refine ⟨fun h => ⟨h, ?_⟩, fun h => h.1⟩
      rw [h]
      decide
  | compare relation =>
      have hjudged : t.value.length ≤ ([] : List UInt8).length ∧
          relation.holds (order [] t.value t.mask) = true ↔ t.value = [] ∧ relation.Relates [] [] :=
        and_congr (Nat.le_zero.trans List.length_eq_zero_iff) (relation.holds_compare [] [])
      have hscore : 0 ≤ t.score (.compare relation) [] ↔ t.value = [] ∧ relation.Relates [] [] := by
        rw [← hjudged, score]
        split
        next h => exact iff_of_true (Int.le_refl 0) h
        next h => exact iff_of_false (by decide) h
      rw [hscore]
      simp [AsksNothing, hkind, windowOf, hlength]
  | search threshold => simp [AsksNothing, hkind, windowOf, searchWindow]

end Template

/-! ## Queries -/

/-- A receiver that only gathers bytes ends up with all of them. -/
theorem Accepts.gathered {s bytes s' : List UInt8}
    (h : Accepts (fun byte data => some (data ++ [byte])) s bytes s') : s' = s ++ bytes := by
  induction bytes generalizing s with
  | nil =>
      cases h
      exact (List.append_nil _).symm
  | cons byte bytes ih =>
      rw [ih (s := s ++ [byte]) h, List.append_assoc, List.singleton_append]

theorem Takes.gathered {s bytes taken s' : List UInt8}
    (h : Takes (fun byte data => some (data ++ [byte])) s bytes taken s') :
    s' = s ++ bytes := by
  cases h with
  | all h => exact h.gathered
  | refuses byte rest h hrefused => cases hrefused

namespace Environment

variable {W : Type} {env : Environment W} {user : User} {w : W}
  {contents : UInt8 → List UInt8} {t : Template} {target : Target}

/-- A query scores what it has gathered, unless that failed. -/
theorem query_of_kind (env : Environment W) (user : User) (target : Target) (w : W)
    {kind : QueryKind} (hkind : t.kind? = some kind) :
    (env.query user t target w).1 =
      let gathered := (env.stream user (fun byte data => some (data ++ [byte])) target.files
        target.offset (t.windowOf kind) [] w).1
      if gathered.1 < 0 then gathered.1 else t.score kind gathered.2 := by
  unfold query
  rw [hkind]
  rfl

/-- A stream that begins with a file that the user may not read is a file error, if it asks for
a byte at all. -/
theorem stream_of_refused {σ : Type} (accept : UInt8 → σ → Option σ) {files : List UInt8}
    (hrefused : ∀ id ∈ files.head?, ¬env.MayRead user id w) {window : Nat}
    (hwindow : files = [] ∨ window ≠ 0) (offset : UInt16) (s : σ) :
    (env.stream user accept files offset window s w).1.1 = .fileError := by
  cases files with
  | nil => rfl
  | cons id rest =>
      obtain ⟨cause, w', hopen⟩ := exists_error_of_not_mayRead (hrefused id rfl)
      have hwindow : window ≠ 0 := hwindow.resolve_left (List.cons_ne_nil _ _)
      simp [stream, streamFiles, hwindow, hopen]

/-- A stream that asks for no byte opens no file. -/
theorem stream_zero {σ : Type} (env : Environment W) (user : User)
    (accept : UInt8 → σ → Option σ) {files : List UInt8} (hfiles : files ≠ []) (offset : UInt16)
    (s : σ) (w : W) : env.stream user accept files offset 0 s w = ((0, s), w) := by
  cases files with
  | nil => exact absurd rfl hfiles
  | cons id rest => rfl

/-- When the user may not read the first file of a target, a query fails, with a file error if
the code has a meaning, unless it asks for no byte and is satisfied by none. Then it succeeds. -/
theorem query_of_refused (env : Environment W) (user : User) (t : Template) (target : Target) (w : W)
    (hrefused : ∀ id ∈ target.files.head?, ¬env.MayRead user id w) :
    let score := (env.query user t target w).1
    (0 ≤ score ↔ target.files ≠ [] ∧ t.AsksNothing) ∧
      ∀ kind, t.kind? = some kind → target.files = [] ∨ t.windowOf kind ≠ 0 →
        score = .fileError := by
  intro score
  have hfails : ∀ kind, t.kind? = some kind → target.files = [] ∨ t.windowOf kind ≠ 0 →
      score = .fileError := by
    intro kind hkind hwindow
    have hstream := stream_of_refused (fun byte data => some (data ++ [byte])) hrefused hwindow
      target.offset []
    simp only [score, query_of_kind env user target w hkind, hstream]
    rfl
  refine ⟨?_, hfails⟩
  cases hkind : t.kind? with
  | none =>
      have hscore : score = .rejected := by
        simp only [score, query, hkind]
      simp [hscore, Score.rejected, Template.AsksNothing, hkind]
  | some kind =>
      rw [Template.asksNothing_iff hkind]
      by_cases hwindow : target.files = [] ∨ t.windowOf kind ≠ 0
      · have hasks : ¬(target.files ≠ [] ∧ t.windowOf kind = 0 ∧ 0 ≤ t.score kind []) :=
          fun ⟨hfiles, hzero, _⟩ => hwindow.elim hfiles (absurd hzero)
        rw [hfails kind hkind hwindow]
        exact iff_of_false (by decide) hasks
      · obtain ⟨hfiles, hzero⟩ := not_or.mp hwindow
        rw [Classical.not_not] at hzero
        have hscore : score = t.score kind [] := by
          simp only [score, query_of_kind env user target w hkind, hzero,
            stream_zero env user _ hfiles]
          rfl
        rw [hscore]
        exact ⟨fun h => ⟨hfiles, hzero, h⟩, fun h => h.2.2⟩

/-- The query whether a file exists succeeds for one that does not, when it asks for no byte. -/
theorem query_of_refused_missing :
    let env : Environment Unit := .obliging
    let target := Target.ofFile 9 0
    (∀ id ∈ target.files.head?, ¬env.MayRead .guest id ()) ∧
      0 ≤ (env.query .guest { length := 0, code := 0 } target ()).1 := by
  intro env target
  have hrefused : ∀ id ∈ target.files.head?, ¬env.MayRead .guest id () := by
    rintro id - ⟨file, w', hopen, -⟩
    cases hopen
  exact ⟨hrefused, (query_of_refused env .guest _ target () hrefused).1.mpr
    ⟨List.cons_ne_nil 9 [], rfl, .inl rfl⟩⟩

end Environment

end Mode2
