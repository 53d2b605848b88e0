import Mode2.Proofs.File.Handles
import Mode2.Proofs.Node.Surroundings

/-!
# Open files

Whatever a node does, it visits files one after the other: frames and beacons leave no file
open, never have two files open at once, and never write to one.
-/

namespace Mode2

variable {W : Type}

namespace Environment

open Traced

/-- Queries and calls visit files one after the other; nothing else reaches them. -/
theorem drives_balanced (env : Environment W) : env.traced.Drives Balanced where
  toComposes := balanced_composes
  listen _ _ t := balanced_elsewhere (fun _ => .radio _) _ t
  assess _ t := balanced_elsewhere (fun _ => .radio _) _ t
  transmit _ _ t := balanced_elsewhere (fun _ => .radio _) _ t
  idle t := balanced_elsewhere (fun _ => .radio _) _ t
  query user template target _ := visited_of_visits (visits_query user template target)
  answer user call queue _ := visited_of_visits (visits_answer user call queue)
  random t := balanced_elsewhere (fun _ => .random) _ t
  encrypt cipher hcipher key bytes t := by
    obtain ⟨plain, -, rfl⟩ := Option.map_eq_some_iff.mp hcipher
    exact balanced_elsewhere (fun _ => .encrypt key bytes) _ t
  decrypt cipher hcipher key bytes t := by
    obtain ⟨plain, -, rfl⟩ := Option.map_eq_some_iff.mp hcipher
    exact balanced_elsewhere (fun _ => .decrypt key bytes) _ t
  router judge hjudge route bytes t := by
    obtain ⟨plain, -, rfl⟩ := Option.map_eq_some_iff.mp hjudge
    exact balanced_elsewhere (fun _ => .route route bytes) _ t
  datagrams deliver hdeliver id source destination bytes t := by
    obtain ⟨plain, -, rfl⟩ := Option.map_eq_some_iff.mp hdeliver
    exact balanced_elsewhere (fun _ => .deliver id source destination bytes) _ t

end Environment

namespace Node

open Traced

/-- The environment of every input keeps a trace. -/
def KeepsTrace (env : Environment (Traced W)) (_ : Input) : Prop :=
  ∃ plain : Environment W, env = plain.traced

/-- A run visits files one after the other, if the host's applets do. -/
theorem balanced_of_reaches {custom : CustomApplets (Traced W)} (hcustom : custom.Drive Balanced)
    {n m : Node (Traced W)} (h : Reaches custom KeepsTrace n m) : Balanced n.world m.world := by
  induction h with
  | refl => exact balanced_composes.refl n.world
  | step _ hgiven ih =>
      obtain ⟨plain, rfl⟩ := hgiven
      exact balanced_composes.trans ih (plain.drives_balanced.step hcustom _ _)

/-- Files that can all be opened, and break off after their first word. -/
def breakingFiles : FileStore W where
  openFile id _ _ w := (.ok ⟨id⟩, w)
  length _ w := (4, w)
  modifiers _ w := (0x24, w)
  read _ offset w := (if offset = 0 then .ok 0x2A00 else .error .outOfRange, w)
  write _ _ _ w := (.error .accessDenied, w)
  close _ w := ((), w)

/-- Every file that a frame, a beacon or a whole run opens is closed again before the next one
is opened, is only looked at under its own handle until then, and is not written. Of a run this
takes that the host's applets visit files in the same way. -/
theorem visits_files_in_turn (env : Environment W) :
    (∀ c (x : Exchange (Traced W)), Balanced x.world (x.receive env.traced c).2.world) ∧
    (∀ s (n : Node (Traced W)), Balanced n.world (Applet.runBeacon env.traced s n).2.world) ∧
    ∀ custom : CustomApplets (Traced W), custom.Drive Balanced →
      ∀ n m : Node (Traced W), Reaches custom KeepsTrace n m → Balanced n.world m.world := by
  have hdrives := env.drives_balanced
  refine ⟨fun c x => hdrives.receivesFrame.receive c x, hdrives.runBeacon, ?_⟩
  intro custom hcustom n m hreaches
  exact balanced_of_reaches hcustom hreaches

/-- A scanning node is called for a file, which breaks off while it is read. -/
theorem visits_breaking_files_in_turn :
    let env : Environment (Traced Unit) :=
      { Environment.obliging with files := breakingFiles : Environment Unit }.traced
    let custom : CustomApplets (Traced Unit) := fun _ s n => (s, n)
    let n : Node (Traced Unit) := start .default ⟨(), []⟩
    let m := ((n.step env custom (.scheduleScan 0)).step env custom (.run 0)).step env custom
      (.event (.received [0x0F, 0x00, 0xF0, 0x12, 0x05, 0xAA, 0xBB, 0x24, 0x00, 0x04, 0x01, 0x00,
        0x00, 0x00, 0x00, 0x00] true))
    custom.Drive Balanced ∧ Reaches custom KeepsTrace n m ∧ Balanced n.world m.world ∧
      m.world.trace.length = 13 ∧ .read ⟨1⟩ 2 ∈ m.world.trace := by
  intro env custom n m
  have hcustom : custom.Drive Balanced := fun _ _ n => balanced_composes.refl n.world
  have hkeeps : ∀ input, KeepsTrace env input := fun _ => ⟨_, rfl⟩
  have hreaches : Reaches custom KeepsTrace n m :=
    .step (.step (.step .refl (hkeeps _)) (hkeeps _)) (hkeeps _)
  have hbalanced := (visits_files_in_turn (W := Unit) Environment.obliging).2.2 custom hcustom
    n m hreaches
  exact ⟨hcustom, hreaches, hbalanced, by decide +kernel, by decide +kernel⟩

end Node

end Mode2
