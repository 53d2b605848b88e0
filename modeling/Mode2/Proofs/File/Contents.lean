import Mode2.Proofs.Environment.Accesses
import Mode2.Proofs.Environment.View
import Mode2.Proofs.File.Table
import Mode2.Proofs.Octet

/-!
# Files and what is in them

Files have contents when each of them, for as long as it is open, reports the length of its
contents and shows their words, whatever has been opened, looked at and closed before. Every
byte of an open file can then be read from the word that it belongs to.
-/

namespace Mode2

variable {W : Type}

/-- The word at an offset: its low byte stands there and its high byte behind it. Behind the
last byte there are zeros. -/
def wordAt (bytes : List UInt8) (offset : Nat) : UInt16 :=
  Octet.toShort (bytes.getD (offset + 1) 0) (bytes.getD offset 0)

@[simp] theorem toUInt8_wordAt (bytes : List UInt8) (offset : Nat) :
    (wordAt bytes offset).toUInt8 = bytes.getD offset 0 := by
  have hbytes := Octet.ofShort_toShort (bytes.getD (offset + 1) 0) (bytes.getD offset 0)
  simpa [Octet.ofShort, wordAt] using (List.cons.inj (List.cons.inj hbytes).2).1

@[simp] theorem high_wordAt (bytes : List UInt8) (offset : Nat) :
    (wordAt bytes offset >>> 8).toUInt8 = bytes.getD (offset + 1) 0 :=
  (List.cons.inj (Octet.ofShort_toShort _ _)).1

/-- The even offset of the word to which a byte belongs. -/
theorem toNat_and_even (offset : UInt16) :
    (offset &&& 0xFFFE).toNat = 2 * (offset.toNat / 2) := by
  have hlast : (offset.toNat &&& 0xFFFE) % 2 = 0 := by
    have := Nat.and_mod_two_pow (a := offset.toNat) (b := 0xFFFE) (n := 1)
    simpa using this
  have hrest : (offset.toNat &&& 0xFFFE) / 2 = offset.toNat / 2 := by
    have hbound : offset.toNat / 2 < 2 ^ 15 := by
      have := offset.toNat_lt
      omega
    rw [Nat.and_div_two, show (0xFFFE : Nat) / 2 = 2 ^ 15 - 1 from rfl,
      Nat.and_two_pow_sub_one_eq_mod, Nat.mod_eq_of_lt hbound]
  rw [UInt16.toNat_and]
  change offset.toNat &&& 0xFFFE = _
  omega

namespace Environment

/-- The worlds in which a file is open. Files have been visited since `start`; then the file
with this number has been opened for the user under this handle, and it has only been looked
at since. -/
inductive Opened (env : Environment W) (user : User) (start : W) (id : UInt8) (file : Handle) :
    W → Prop
  | openFile {w w' : W} (h : env.Visits start none w)
      (hopen : env.files.openFile id .read user w = (.ok file, w')) :
      env.Opened user start id file w'
  | length {w : W} (h : env.Opened user start id file w) :
      env.Opened user start id file (env.files.length file w).2
  | modifiers {w : W} (h : env.Opened user start id file w) :
      env.Opened user start id file (env.files.modifiers file w).2
  | read {w : W} (offset : UInt16) (h : env.Opened user start id file w) :
      env.Opened user start id file (env.files.read file offset w).2

/-- The files have these contents, from the world `start` on: an open file reports the length
of its contents, and shows their words at even offsets. -/
structure Holds (env : Environment W) (user : User) (start : W) (contents : UInt8 → List UInt8) :
    Prop where
  length : ∀ {id : UInt8} {file : Handle} {w : W}, env.Opened user start id file w →
    (env.files.length file w).1.toNat = (contents id).length
  read : ∀ {id : UInt8} {file : Handle} {w : W}, env.Opened user start id file w →
    ∀ offset : UInt16, offset.toNat % 2 = 0 → offset.toNat < (contents id).length →
      (env.files.read file offset w).1 = .ok (wordAt (contents id) offset.toNat)

/-- The file can be opened for the user, and its modifiers let the user read it. -/
def MayRead (env : Environment W) (user : User) (id : UInt8) (w : W) : Prop :=
  ∃ file w', env.files.openFile id .read user w = (.ok file, w') ∧
    env.authorize (env.files.modifiers file w').1 Access.read.rights user = true

variable {env : Environment W} {user : User} {start w : W} {id : UInt8} {file : Handle}
  {contents : UInt8 → List UInt8}

/-- A file that is open is the one that is being visited. -/
theorem Opened.visits (h : env.Opened user start id file w) :
    env.Visits start (some file) w := by
  induction h with
  | openFile h hopen =>
      have hvisits := h.openFile id user
      rw [hopen] at hvisits
      exact hvisits
  | length _ ih => exact ih.length
  | modifiers _ ih => exact ih.modifiers
  | read offset _ ih => exact ih.read offset

/-- A file that the user may read is opened for reading. -/
theorem MayRead.exists_opened (hread : env.MayRead user id w) (h : env.Visits start none w) :
    ∃ file w', env.openReadable user id w = (.ok file, w') ∧ env.Opened user start id file w' := by
  obtain ⟨file, w', hopen, hgranted⟩ := hread
  refine ⟨file, (env.files.modifiers file w').2, ?_, (Opened.openFile h hopen).modifiers⟩
  unfold openReadable
  rw [hopen]
  simp [hgranted]

/-- A file that the user may not read is not opened, or closed at once. -/
theorem exists_error_of_not_mayRead (hrefused : ¬env.MayRead user id w) :
    ∃ cause w', env.openReadable user id w = (.error cause, w') := by
  unfold openReadable
  rcases hopen : env.files.openFile id .read user w with ⟨cause | file, w'⟩
  · exact ⟨cause, w', rfl⟩
  · have hdenied : ¬env.authorize (env.files.modifiers file w').1 Access.read.rights user = true :=
      fun hgranted => hrefused ⟨file, w', hopen, hgranted⟩
    exact ⟨.accessDenied, (env.files.close file (env.files.modifiers file w').2).2,
      by simp [hdenied]⟩

/-- Every byte of an open file can be read, and the file is then still open. -/
theorem Holds.exists_readByte (h : env.Holds user start contents)
    (hopen : env.Opened user start id file w) {position : Nat} {byte : UInt8}
    (hbyte : (contents id)[position]? = some byte) :
    ∃ w', env.files.readByte file (UInt16.ofNat position) w = (.ok byte, w') ∧
      env.Opened user start id file w' := by
  obtain ⟨hposition, hget⟩ := List.getElem?_eq_some_iff.mp hbyte
  have hlength := h.length hopen
  have hbound := (env.files.length file w).1.toNat_lt
  have hoffset : (UInt16.ofNat position).toNat = position := by
    rw [UInt16.toNat_ofNat']
    omega
  have heven := toNat_and_even (UInt16.ofNat position)
  rw [hoffset] at heven
  have hword := h.read hopen (UInt16.ofNat position &&& 0xFFFE) (by omega) (by omega)
  have hodd : UInt16.ofNat position &&& 1 = 0 ↔ position % 2 = 0 := by
    rw [← UInt16.toNat_inj, UInt16.toNat_and, hoffset]
    change position &&& 1 = 0 ↔ _
    rw [Nat.and_one_is_mod]
  refine ⟨_, ?_, hopen.read (UInt16.ofNat position &&& 0xFFFE)⟩
  unfold FileStore.readByte
  simp only [hword, heven, Except.map, toUInt8_wordAt, high_wordAt, hodd, List.getD_eq_getElem?_getD]
  split
  next hlow => rw [show 2 * (position / 2) = position by omega, hbyte, Option.getD_some]
  next hhigh => rw [show 2 * (position / 2) + 1 = position by omega, hbyte, Option.getD_some]

end Environment

namespace Archive

variable {D C V : Type}

/-- Visits leave the contents of an archive alone, and lead to its directory. -/
theorem serves_of_visits {archive : Archive D C} {outside : Environment V}
    {start w : Archived D C V} {held : Option Handle}
    (h : (archive.serve outside).Visits start held w) :
    archive.Serves start.directory start.contents w := by
  induction h with
  | refl => exact ⟨.refl, rfl⟩
  | openFile id user _ ih => exact ⟨ih.leads.openFile id .read user, ih.contents_eq⟩
  | length _ ih => exact ih
  | modifiers _ ih => exact ih
  | read _ _ ih => exact ih
  | @close _ file _ ih => exact ⟨ih.leads.close file, ih.contents_eq⟩

/-- A table opens every file under its own number. -/
theorem id_of_opened_table {outside : Environment V} {user : User}
    {start w : Archived (List (UInt8 × UInt8)) (UInt8 → List UInt8) V} {id : UInt8} {file : Handle}
    (h : (table.serve outside).Opened user start id file w) : file.id = id := by
  induction h with
  | @openFile w _ _ hopen =>
      have hanswer : (if (w.directory.lookup id).isSome then
          (.ok ⟨id⟩ : Except FileError Handle) else .error .notFound) = .ok file :=
        congrArg Prod.fst hopen
      split at hanswer
      · cases hanswer
        rfl
      · cases hanswer
  | length _ ih => exact ih
  | modifiers _ ih => exact ih
  | read _ _ ih => exact ih

/-- The files of a table have the contents in it, as long as no file is too long for its length
to be told. -/
theorem holds_table (outside : Environment V) (user : User)
    (start : Archived (List (UInt8 × UInt8)) (UInt8 → List UInt8) V)
    (hshort : ∀ id, (start.contents id).length < 65536) :
    (table.serve outside).Holds user start start.contents where
  length := by
    intro id file w hopen
    have hcontents := (serves_of_visits hopen.visits).contents_eq
    have hlength := hshort id
    change (UInt16.ofNat (w.contents file.id).length).toNat = _
    rw [hcontents, id_of_opened_table hopen, UInt16.toNat_ofNat']
    omega
  read := by
    intro id file w hopen offset _ hoffset
    have hcontents := (serves_of_visits hopen.visits).contents_eq
    dsimp only [serve, table]
    rw [hcontents, id_of_opened_table hopen, List.drop_eq_getElem_cons hoffset]
    simp only [wordAt, List.getD_eq_getElem?_getD, List.getElem?_eq_getElem hoffset,
      Option.getD_some]
    cases hnext : (start.contents id).drop (offset.toNat + 1) with
    | nil =>
        have hlast : (start.contents id)[offset.toNat + 1]? = none :=
          List.getElem?_eq_none (List.drop_eq_nil_iff.mp hnext)
        rw [hlast]
        refine congrArg Except.ok (UInt16.toNat_inj.mp ?_)
        rw [Octet.toNat_toShort]
        simp
    | cons high rest =>
        have hhigh : (start.contents id)[offset.toNat + 1]? = some high := by
          rw [← List.head?_drop, hnext, List.head?_cons]
        rw [hhigh, Option.getD_some]

/-- A user may read the files of a table whose modifiers grant it, whatever has been visited. -/
theorem mayRead_table {outside : Environment V} {user : User}
    {start w : Archived (List (UInt8 × UInt8)) (UInt8 → List UInt8) V} {id modifiers : UInt8}
    (h : (table.serve outside).Visits start none w) (hid : start.directory.lookup id = some modifiers)
    (hgranted : user.isGranted modifiers Access.read.rights = true) :
    (table.serve outside).MayRead user id w := by
  have hdirectory := table_leads (serves_of_visits h).leads
  refine ⟨⟨id⟩, { w with calls := .openFile id .read user :: w.calls }, ?_, ?_⟩
  · dsimp only [serve, table]
    rw [hdirectory, hid]
    rfl
  · dsimp only [serve, table]
    rw [hdirectory, hid]
    exact hgranted

/-- A table of two files of odd lengths that guests may read. -/
def twoFiles : Archived (List (UInt8 × UInt8)) (UInt8 → List UInt8) Unit where
  directory := [(1, 0x24), (2, 0x24)]
  contents id := if id = 1 then [10, 11, 12] else [13, 14, 15]
  calls := []
  outside := ()

theorem holds_twoFiles :
    (table.serve .obliging).Holds .guest twoFiles twoFiles.contents := by
  refine holds_table .obliging .guest twoFiles fun id => ?_
  dsimp only [twoFiles]
  split <;> decide

theorem mayRead_twoFiles {id : UInt8} (hid : id ∈ [1, 2])
    {w : Archived (List (UInt8 × UInt8)) (UInt8 → List UInt8) Unit}
    (h : (table.serve .obliging).Visits twoFiles none w) :
    (table.serve .obliging).MayRead .guest id w := by
  obtain rfl | rfl : id = 1 ∨ id = 2 := by simpa using hid
  · exact mayRead_table h rfl (by decide)
  · exact mayRead_table h rfl (by decide)

end Archive

end Mode2
