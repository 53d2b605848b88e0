import Mode2.Network.Stage
import Mode2.Proofs.Environment.Accesses

/-!
# What only the radio changes

A view of the world that none of files, ciphers, random words, router and datagrams
changes is not changed by anything that is computed from them: opening and reading
files, streams, queries, returns, and the encryption of a frame.
-/

namespace Mode2

variable {W V : Type}

/-- Only the radio changes what `view` sees of the world. -/
structure Environment.OnlyRadio (env : Environment W) (view : W → V) : Prop where
  openFile : ∀ id access user w, view (env.files.openFile id access user w).2 = view w
  length : ∀ file w, view (env.files.length file w).2 = view w
  modifiers : ∀ file w, view (env.files.modifiers file w).2 = view w
  read : ∀ file offset w, view (env.files.read file offset w).2 = view w
  close : ∀ file w, view (env.files.close file w).2 = view w
  random : ∀ w, view (env.random w).2 = view w
  encrypt : ∀ cipher ∈ env.cipher, ∀ key bytes w, view (cipher.encrypt key bytes w).2 = view w
  decrypt : ∀ cipher ∈ env.cipher, ∀ key bytes w, view (cipher.decrypt key bytes w).2 = view w
  router : ∀ judge ∈ env.router, ∀ route bytes w, view (judge route bytes w).2 = view w
  datagrams : ∀ deliver ∈ env.datagrams, ∀ id source destination bytes w,
    view (deliver id source destination bytes w).2 = view w

/-- A view that sees nothing sees no change. -/
theorem Environment.onlyRadio_unit (env : Environment W) : env.OnlyRadio fun _ => () := by
  constructor <;> intros <;> rfl

/-- Completing a frame encrypts at most once. -/
theorem NetworkLayer.encrypts_complete {R : W → W → Prop} {cipher : Option (Cipher W)}
    (hrefl : ∀ w, R w w)
    (hencrypt : ∀ enc ∈ cipher, ∀ key bytes w, R w (enc.encrypt key bytes w).2)
    (n : NetworkLayer) (w : W) : R w (n.complete cipher w).2 := by
  have hregion : R w (n.encryptRegion cipher w).2 := by
    unfold encryptRegion
    split
    · exact hrefl w
    · exact hrefl w
    next secured enc _ =>
      split
      · exact hrefl w
      · exact hencrypt enc rfl _ _ w
  unfold complete
  split
  next heq =>
    rw [heq] at hregion
    exact hregion
  next heq =>
    rw [heq] at hregion
    split <;> exact hregion

namespace Environment.OnlyRadio

variable {env : Environment W} {view : W → V}

/-! ## Files -/

theorem of_accesses (h : env.OnlyRadio view) {w w' : W} (haccesses : env.Accesses w w') :
    view w' = view w := by
  induction haccesses with
  | refl => rfl
  | openFile id user _ ih => exact (h.openFile id .read user _).trans ih
  | length file _ ih => exact (h.length file _).trans ih
  | modifiers file _ ih => exact (h.modifiers file _).trans ih
  | read file offset _ ih => exact (h.read file offset _).trans ih
  | close file _ ih => exact (h.close file _).trans ih

theorem query (h : env.OnlyRadio view) (user : User) (template : Template) (target : Target)
    (w : W) : view (env.query user template target w).2 = view w :=
  h.of_accesses (accesses_query user template target)

theorem answer (h : env.OnlyRadio view) (user : User) (call : Call) (queue : FrameQueue) (w : W) :
    view (env.answer user call queue w).2 = view w :=
  h.of_accesses (accesses_answer user call queue)

/-! ## Encryption -/

theorem complete (h : env.OnlyRadio view) (n : NetworkLayer) (w : W) :
    view (n.complete env.cipher w).2 = view w :=
  NetworkLayer.encrypts_complete (R := fun w w' => view w' = view w) (fun _ => rfl) h.encrypt n w

end Environment.OnlyRadio

/-- An environment in which the radio accepts everything, no file exists, and all
random words are zero. -/
def Environment.obliging : Environment W where
  radio :=
    { listen := fun _ _ w => (.ok (), w)
      assess := fun _ w => (.ok (), w)
      transmit := fun _ _ w => (.ok (), w)
      idle := fun w => ((), w) }
  files :=
    { openFile := fun _ _ _ w => (.error .notFound, w)
      length := fun _ w => (0, w)
      modifiers := fun _ w => (0, w)
      read := fun _ _ w => (.error .outOfRange, w)
      write := fun _ _ _ w => (.error .accessDenied, w)
      close := fun _ w => ((), w) }
  authorize := fun modifiers rights who => who.isGranted modifiers rights
  random := fun w => (0, w)
  cipher := none
  router := none
  datagrams := none

end Mode2
