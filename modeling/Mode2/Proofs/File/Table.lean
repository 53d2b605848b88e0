import Mode2.Proofs.File.Archive

/-!
# A table of files

The plainest archive: files that are only read, found by their numbers in a table.
-/

namespace Mode2

/-- Files in a table of numbers and modifiers. Nothing that is opened is remembered, and
nothing can be written. -/
def Archive.table : Archive (List (UInt8 × UInt8)) (UInt8 → List UInt8) where
  openFile id _ _ files :=
    (if (files.lookup id).isSome then .ok ⟨id⟩ else .error .notFound, files)
  close _ files := files
  modifiers files file := (files.lookup file.id).getD 0
  length _ contents file := UInt16.ofNat (contents file.id).length
  read _ contents file offset :=
    match (contents file.id).drop offset.toNat with
    | low :: high :: _ => .ok (Octet.toShort high low)
    | [low] => .ok low.toUInt16
    | [] => .error .outOfRange
  write _ _ _ shelf := (.error .accessDenied, shelf)

namespace Archive

theorem table_leads {files files' : List (UInt8 × UInt8)} (h : table.Leads files files') :
    files' = files := by
  induction h with
  | refl => rfl
  | openFile _ _ _ _ ih => exact ih
  | close _ _ ih => exact ih

/-- Contents of a table that are the same in all files with a modifier bit. -/
theorem table_alikeFor {files : List (UInt8 × UInt8)} {bit : UInt8}
    {contents contents' : UInt8 → List UInt8}
    (h : ∀ id, Octet.hasAll ((files.lookup id).getD 0) bit = true → contents id = contents' id) :
    table.AlikeFor files bit contents contents' := by
  intro directory file hleads hgranted
  obtain rfl := table_leads hleads
  have hcontents := h file.id hgranted
  dsimp only [table]
  rw [hcontents]
  exact ⟨rfl, fun _ => rfl⟩

end Archive

end Mode2
