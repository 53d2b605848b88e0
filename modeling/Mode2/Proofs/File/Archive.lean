import Mode2.File.Reading

/-!
# Files whose contents are kept apart

An archive keeps what is known about its files, the directory, apart from what is in
them. Opening and closing files and looking up their modifiers know the directory only;
lengths and bytes come from the contents. A world in which files are served from an
archive remembers which files were opened and closed; everything else in it has no
access to the archive.
-/

namespace Mode2

variable {D C V α : Type}

/-- Files with a directory `D` and contents `C`. -/
structure Archive (D C : Type) where
  openFile : UInt8 → Access → User → D → Except FileError Handle × D
  close : Handle → D → D
  modifiers : D → Handle → UInt8
  length : D → C → Handle → UInt16
  read : D → C → Handle → UInt16 → Except FileError UInt16
  write : Handle → UInt16 → UInt16 → D × C → Except FileError Unit × D × C

/-- A call that opens or closes a file. -/
inductive FileCall
  | openFile (id : UInt8) (access : Access) (user : User)
  | close (file : Handle)
deriving DecidableEq, Repr

/-- A world with an archive: its directory and contents, the calls that opened and closed
its files, last first, and everything outside of it. -/
structure Archived (D C V : Type) where
  directory : D
  contents : C
  calls : List FileCall
  outside : V
deriving DecidableEq

namespace Archived

/-- The world with other contents in its files. -/
def withContents (contents : C) (w : Archived D C V) : Archived D C V :=
  { w with contents }

/-- An operation on what is outside of the archive. -/
def beside (operation : StateM V α) : StateM (Archived D C V) α := fun w =>
  let result := operation w.outside
  (result.1, { w with outside := result.2 })

end Archived

namespace Archive

/-- The environment whose files are those of the archive and whose other parts are
outside of it. Rights are checked by the modifiers. -/
def serve (archive : Archive D C) (outside : Environment V) : Environment (Archived D C V) where
  radio :=
    { listen := fun channel time => Archived.beside (outside.radio.listen channel time)
      assess := fun channel => Archived.beside (outside.radio.assess channel)
      transmit := fun channel frame => Archived.beside (outside.radio.transmit channel frame)
      idle := Archived.beside outside.radio.idle }
  files :=
    { openFile := fun id access user w =>
        let result := archive.openFile id access user w.directory
        (result.1, { w with
          directory := result.2
          calls := .openFile id access user :: w.calls })
      length := fun file w => (archive.length w.directory w.contents file, w)
      modifiers := fun file w => (archive.modifiers w.directory file, w)
      read := fun file offset w => (archive.read w.directory w.contents file offset, w)
      write := fun file offset word w =>
        let result := archive.write file offset word (w.directory, w.contents)
        (result.1, { w with directory := result.2.1, contents := result.2.2 })
      close := fun file w =>
        ((), { w with
          directory := archive.close file w.directory
          calls := .close file :: w.calls }) }
  authorize := fun modifiers rights user => user.isGranted modifiers rights
  random := Archived.beside outside.random
  cipher := outside.cipher.map fun cipher =>
    { encrypt := fun key bytes => Archived.beside (cipher.encrypt key bytes)
      decrypt := fun key bytes => Archived.beside (cipher.decrypt key bytes) }
  router := outside.router.map fun judge route bytes => Archived.beside (judge route bytes)
  datagrams := outside.datagrams.map fun deliver id source destination bytes =>
    Archived.beside (deliver id source destination bytes)

/-- Opening and closing files leads from one directory to another. -/
inductive Leads (archive : Archive D C) (start : D) : D → Prop
  | refl : Leads archive start start
  | openFile (id : UInt8) (access : Access) (user : User) {directory : D} :
      Leads archive start directory →
      Leads archive start (archive.openFile id access user directory).2
  | close (file : Handle) {directory : D} :
      Leads archive start directory → Leads archive start (archive.close file directory)

/-- Two contents are alike for whoever reads the files with a modifier bit: these files
have the same lengths and bytes in both, whatever is open. -/
def AlikeFor (archive : Archive D C) (start : D) (bit : UInt8) (contents contents' : C) : Prop :=
  ∀ directory file, archive.Leads start directory →
    Octet.hasAll (archive.modifiers directory file) bit = true →
    archive.length directory contents file = archive.length directory contents' file ∧
      ∀ offset, archive.read directory contents file offset =
        archive.read directory contents' file offset

end Archive

/-- The modifier bit that lets a user read a file; the root user needs none. -/
def User.readBit : User → UInt8
  | .root => 0
  | .member => 0x20
  | .guest => 0x04

theorem User.isGranted_read (user : User) (modifiers : UInt8) :
    user.isGranted modifiers Access.read.rights = Octet.hasAll modifiers user.readBit := by
  cases user with
  | root => simp [isGranted, readBit, Octet.hasAll]
  | member => rfl
  | guest => rfl

namespace Archive

variable {archive : Archive D C} {outside : Environment V} {start : D} {contents hidden : C}

/-- A world on the way: opening and closing files has led to its directory, and its files
have these contents. -/
structure Serves (archive : Archive D C) (start : D) (contents : C) (w : Archived D C V) :
    Prop where
  leads : archive.Leads start w.directory
  contents_eq : w.contents = contents

/-- An operation that answers and does the same whichever of the two contents the files
have. -/
def Discreet (archive : Archive D C) (start : D) (contents hidden : C)
    (operation : StateM (Archived D C V) α) : Prop :=
  ∀ w, archive.Serves start contents w →
    ∃ answer after, operation w = (answer, after) ∧
      operation (w.withContents hidden) = (answer, after.withContents hidden) ∧
      archive.Serves start contents after

/-- What happens outside of the archive has nothing to do with the contents of files. -/
theorem discreet_beside (operation : StateM V α) :
    archive.Discreet start contents hidden (Archived.beside operation) :=
  fun _ hw => ⟨_, _, rfl, rfl, hw.leads, hw.contents_eq⟩

/-- A file is opened for reading by the directory alone, and closed again when its
modifiers do not let the user read it. -/
theorem openReadable_serve (user : User) (id : UInt8) (w : Archived D C V) :
    (archive.serve outside).openReadable user id w =
      let opened := archive.openFile id .read user w.directory
      let calls := .openFile id .read user :: w.calls
      match opened.1 with
      | .error cause => (.error cause, { w with directory := opened.2, calls })
      | .ok file =>
          if Octet.hasAll (archive.modifiers opened.2 file) user.readBit then
            (.ok file, { w with directory := opened.2, calls })
          else
            (.error .accessDenied,
              { w with
                directory := archive.close file opened.2, calls := .close file :: calls }) := by
  unfold Environment.openReadable serve
  dsimp only
  cases (archive.openFile id .read user w.directory).1 with
  | error cause => rfl
  | ok file =>
      dsimp only
      rw [← user.isGranted_read]

theorem discreet_openReadable (user : User) (id : UInt8) :
    archive.Discreet start contents hidden ((archive.serve outside).openReadable user id) := by
  intro w hw
  have hopened := hw.leads.openFile id .read user
  rw [openReadable_serve, openReadable_serve]
  dsimp only [Archived.withContents]
  split
  · exact ⟨_, _, rfl, rfl, hopened, hw.contents_eq⟩
  · split
    · exact ⟨_, _, rfl, rfl, hopened, hw.contents_eq⟩
    · exact ⟨_, _, rfl, rfl, hopened.close _, hw.contents_eq⟩

/-- Whoever has opened a file for reading may read it. -/
theorem granted_of_openReadable {user : User} {id : UInt8} {w w' : Archived D C V} {file : Handle}
    (h : (archive.serve outside).openReadable user id w = (.ok file, w')) :
    Octet.hasAll (archive.modifiers w'.directory file) user.readBit = true := by
  rw [openReadable_serve] at h
  dsimp only at h
  split at h
  · cases h
  · split at h
    next hgranted =>
      cases h
      exact hgranted
    · cases h

end Archive

end Mode2
