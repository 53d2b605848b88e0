import Mode2.Frame.Length
import Mode2.Query.Stream

/-!
# Calls and their returns

A call asks for file data; its return lists the files with their lengths, repeats
the offset, and carries the data as far as the caller, the frame and the files
allow.
-/

namespace Mode2

/-- A request for file data. -/
structure Call where
  /-- The most data that the caller accepts. -/
  maxBytes : UInt8 := 0
  target : Target := {}
deriving DecidableEq, Repr

namespace Call

/-- A call for the beginning of one file. -/
def ofFile (id maxBytes : UInt8) : Call :=
  { maxBytes, target := .ofFile id 0 }

/-- The bytes of a call. -/
def encode (c : Call) : List UInt8 :=
  c.maxBytes :: c.target.encode

/-- Read a call. -/
def parse (isSeries : Bool) : QueueM Call := do
  let maxBytes ← QueueM.readByte
  let target ← Target.parse isSeries
  return { maxBytes, target }

end Call

/-- A return in the making: the frame and the world. -/
structure Returning (W : Type) where
  queue : FrameQueue
  world : W

/-- Steps of a return, which may end early with a score. -/
abbrev ReturnM (W : Type) := EStateM Score (Returning W)

namespace ReturnM

variable {W : Type}

/-- Append bytes; a return that does not fit is dropped. -/
def append (bytes : List UInt8) : ReturnM W Unit := fun r =>
  match r.queue.append bytes with
  | .ok queue => .ok () { r with queue }
  | .error _ => .error .rejected r

/-- The length of a file that the user may read. -/
def fileLength (env : Environment W) (user : User) (id : UInt8) : ReturnM W UInt16 := fun r =>
  match env.openReadable user id r.world with
  | (.error _, world) => .error .fileError { r with world }
  | (.ok file, world) =>
      let length := env.files.length file world
      .ok length.1 { r with world := (env.files.close file length.2).2 }

/-- Append a file's number and length. -/
def appendEntry (env : Environment W) (user : User) (id : UInt8) : ReturnM W Nat := do
  let length ← fileLength env user id
  append [id]
  append (Octet.ofShort length)
  return length.toNat

/-- Append the header of a return; yields the length of all files together. -/
def appendHeader (env : Environment W) (user : User) (target : Target) : ReturnM W Nat := do
  if target.isSeries then
    append [UInt8.ofNat target.files.length]
  let lengths ← target.files.mapM (appendEntry env user)
  append (if target.isSeries then Octet.ofShort target.offset else [target.offset.toUInt8])
  return lengths.foldr (· + ·) 0

/-- Append the data of a return, leaving room for the footer. -/
def appendData (env : Environment W) (user : User) (call : Call) (total : Nat) : ReturnM W Score :=
  fun r =>
    let window := min call.maxBytes.toNat
      (min (r.queue.space - footerLength) (total - call.target.offset.toNat))
    match env.stream user (fun byte queue => (queue.push byte).toOption) call.target.files
        call.target.offset window r.queue r.world with
    | ((score, queue), world) => .ok score { queue, world }

end ReturnM

/-- Append the return of a call to a frame. The score is the number of data bytes,
a file error, or a rejection when the header does not fit. -/
def Environment.answer {W : Type} (env : Environment W) (user : User) (call : Call)
    (queue : FrameQueue) : StateM W (Score × FrameQueue) := fun world =>
  let steps := do
    let total ← ReturnM.appendHeader env user call.target
    ReturnM.appendData env user call total
  match steps.run { queue, world } with
  | .ok score r | .error score r => ((score, r.queue), r.world)

end Mode2
