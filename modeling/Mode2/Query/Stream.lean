import Mode2.File.Reading
import Mode2.Query.Target

/-!
# Streams of file data

The bytes of one or more files are handed to a receiver one at a time, as if the
files were joined, from an offset on and within a window. The receiver may refuse
a byte, which ends the stream. Files before the offset are opened for their length
only; files after the end of the window are not touched.
-/

namespace Mode2

variable {W σ : Type}

/-- A stream under way: the bytes accepted so far, the receiver and the world. -/
structure Transfer (W σ : Type) where
  accepted : Nat
  receiver : σ
  world : W

/-- How the stream of one file ended. -/
inductive StreamEnd
  /-- All bytes asked for were accepted. -/
  | drained
  /-- The receiver refused a byte. -/
  | refused
  /-- A byte could not be read. -/
  | failed
deriving DecidableEq, Repr

/-- The largest count that a score can hold. -/
def maxScore : Nat := 32767

namespace Environment

/-- Hand over `n` bytes of an open file from a position on. -/
def streamBytes (env : Environment W) (accept : UInt8 → σ → Option σ) (file : Handle) :
    (n position : Nat) → Transfer W σ → StreamEnd × Transfer W σ
  | 0, _, t => (.drained, t)
  | n + 1, position, t =>
      match env.files.readByte file (UInt16.ofNat position) t.world with
      | (.error _, world) => (.failed, { t with world })
      | (.ok byte, world) =>
          match accept byte t.receiver with
          | none => (.refused, { t with world })
          | some receiver =>
              env.streamBytes accept file n (position + 1)
                { accepted := t.accepted + 1, receiver, world }

/-- A transfer whose file has been closed. -/
def closed (env : Environment W) (file : Handle) (t : Transfer W σ) : Transfer W σ :=
  { t with world := (env.files.close file t.world).2 }

/-- Hand over up to `window` bytes of the joined files, the first `skip` of them
left out. The first component says whether every file could be read. -/
def streamFiles (env : Environment W) (user : User) (accept : UInt8 → σ → Option σ) :
    List UInt8 → (skip window : Nat) → Transfer W σ → Bool × Transfer W σ
  | [], _, _, t => (true, t)
  | id :: rest, skip, window, t =>
      if window = 0 then (true, t)
      else
        match env.openReadable user id t.world with
        | (.error _, world) => (false, { t with world })
        | (.ok file, world) =>
            let length := env.files.length file world
            let size := length.1.toNat
            let t := { t with world := length.2 }
            if size ≤ skip then
              env.streamFiles user accept rest (skip - size) window (env.closed file t)
            else
              let n := min (size - skip) window
              match env.streamBytes accept file n skip t with
              | (.failed, t) => (false, env.closed file t)
              | (.refused, t) => (true, env.closed file t)
              | (.drained, t) =>
                  env.streamFiles user accept rest 0 (window - n) (env.closed file t)

/-- Stream files to a receiver. The score is the number of bytes accepted, or a
file error when there is no file or one could not be opened or read. -/
def stream (env : Environment W) (user : User) (accept : UInt8 → σ → Option σ) (files : List UInt8)
    (offset : UInt16) (window : Nat) (receiver : σ) : StateM W (Score × σ) := fun world =>
  if files = [] then ((.fileError, receiver), world)
  else
    match env.streamFiles user accept files offset.toNat window
        { accepted := 0, receiver, world } with
    | (true, t) => ((Int.ofNat (min t.accepted maxScore), t.receiver), t.world)
    | (false, t) => ((.fileError, t.receiver), t.world)

end Environment

end Mode2
