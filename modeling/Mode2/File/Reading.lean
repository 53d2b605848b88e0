import Mode2.Environment

/-!
# Reading files

Files are opened for reading only on behalf of a user who may read them, and
closed again when the check fails.
-/

namespace Mode2

variable {W : Type}

/-- One byte of an open file. -/
def FileStore.readByte (files : FileStore W) (file : Handle) (offset : UInt16) :
    StateM W (Except FileError UInt8) := fun w =>
  let word := files.read file (offset &&& 0xFFFE) w
  (word.1.map fun (value : UInt16) => if offset &&& 1 = 0 then value.toUInt8 else (value >>> 8).toUInt8,
    word.2)

/-- Open a file that the user may read. -/
def Environment.openReadable (env : Environment W) (user : User) (id : UInt8) :
    StateM W (Except FileError Handle) := fun w =>
  match env.files.openFile id .read user w with
  | (.error cause, w) => (.error cause, w)
  | (.ok file, w) =>
      let modifiers := env.files.modifiers file w
      if env.authorize modifiers.1 Access.read.rights user then (.ok file, modifiers.2)
      else (.error .accessDenied, (env.files.close file modifiers.2).2)

end Mode2
