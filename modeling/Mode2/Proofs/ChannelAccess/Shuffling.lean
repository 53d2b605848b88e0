import Mathlib.Data.List.Forall2
import Mathlib.Logic.Equiv.Basic
import Mode2.ChannelAccess.Channels

/-!
# Every order of the channels

Shuffling a list draws one word for each entry after the second, and of each word only the
remainder by the position of the entry matters. Where every entry of the result comes from is
told by these remainders alone; and each rearrangement that leaves the first entry in place is
told by exactly one choice of them. So all orders are reached, and none by more choices than
another.
-/

namespace Mode2

variable {W : Type} (source : RandomSource W)

/-- The low halves of the next words, as many as asked for. -/
def RandomSource.nextMany16 : Nat → StateM W (List Nat)
  | 0 => pure []
  | n + 1 => fun w =>
      let word := source.next16 w
      let words := nextMany16 n word.2
      (word.1 :: words.1, words.2)

namespace Shuffle

/-! ## Choices -/

/-- The positions whose entries are exchanged in turn, from `last` down to the third. -/
def positions : (last : Nat) → List Nat
  | 0 | 1 => []
  | last + 2 => (last + 2) :: positions (last + 1)

/-- A number below each of the positions. -/
def IsChoice (last : Nat) (choice : List Nat) : Prop :=
  List.Forall₂ (· < ·) choice (positions last)

/-- What words choose: their remainders by the positions. -/
def chosen (last : Nat) (words : List Nat) : List Nat :=
  List.zipWith (· % ·) words (positions last)

/-- What the next words choose for a list of a length. -/
def drawn (length : Nat) (w : W) : List Nat :=
  chosen (length - 1) (source.nextMany16 (length - 2) w).1

/-- Where the entry at each position of the result comes from. -/
def origin : (last : Nat) → List Nat → Equiv.Perm Nat
  | last + 2, r :: choice =>
      (origin (last + 1) choice).trans (Equiv.swap (last + 2) (1 + r))
  | _, _ => Equiv.refl Nat

/-- At most the positions after the first, up to `last`, are rearranged. -/
def Rearranges (last : Nat) (σ : Equiv.Perm Nat) : Prop :=
  ∀ k, k = 0 ∨ last < k → σ k = k

variable {last : Nat} {l : List UInt8} {σ : Equiv.Perm Nat}

/-! ## What a shuffle does -/

theorem exchange_eq {i j : Nat} (hi : i < l.length) (hj : j < l.length) :
    exchange l i j = (l.set i l[j]).set j l[i] := by
  simp [exchange, hi, hj]

theorem getElem?_exchange {i j : Nat} (hi : i < l.length) (hj : j < l.length) (k : Nat) :
    (exchange l i j)[k]? = l[Equiv.swap i j k]? := by
  rw [exchange_eq hi hj, List.getElem?_set, List.getElem?_set, Equiv.swap_apply_def]
  grind

theorem perm_exchange {i j : Nat} (hi : i < l.length) (hj : j < l.length) :
    (exchange l i j).Perm l := by
  rw [exchange_eq hi hj]
  exact List.set_set_perm hi hj

/-- The entry of the last position goes to a position that there is. -/
theorem partner_lt (hlast : last + 2 < l.length) (word : Nat) :
    1 + word % (last + 2) < l.length := by
  have hlt : word % (last + 2) < last + 2 := Nat.mod_lt _ (Nat.zero_lt_succ _)
  omega

/-- One word is drawn for each of the positions. -/
theorem state_fromPosition (last : Nat) (l : List UInt8) (w : W) :
    (fromPosition source last l w).2 = (source.nextMany16 (last - 1) w).2 := by
  induction last, l using fromPosition.induct source generalizing w with
  | case1 l => rfl
  | case2 l => rfl
  | case3 last l ih => exact ih w (source.next16 w).2

theorem perm_fromPosition (hlast : last < l.length) (w : W) :
    (fromPosition source last l w).1.Perm l := by
  induction last, l using fromPosition.induct source generalizing w with
  | case1 l => rfl
  | case2 l => rfl
  | case3 last l ih =>
      have hrest := ih w (by simpa using Nat.lt_of_succ_lt hlast) (source.next16 w).2
      exact hrest.trans (perm_exchange hlast (partner_lt hlast _))

theorem getElem?_fromPosition (hlast : last < l.length) (w : W) (k : Nat) :
    (fromPosition source last l w).1[k]? =
      l[origin last (chosen last (source.nextMany16 (last - 1) w).1) k]? := by
  induction last, l using fromPosition.induct source generalizing w with
  | case1 l => rfl
  | case2 l => rfl
  | case3 last l ih =>
      have hrest := ih w (by simpa using Nat.lt_of_succ_lt hlast) (source.next16 w).2
      rw [getElem?_exchange hlast (partner_lt hlast _)] at hrest
      exact hrest

/-! ## Rearrangements -/

/-- A position that is rearranged stays among those that are. -/
theorem Rearranges.apply_le (h : Rearranges last σ) {k : Nat} (hk : k ≤ last) : σ k ≤ last := by
  by_contra hlate
  have hfixed := σ.injective (h (σ k) (.inr (Nat.lt_of_not_le hlate)))
  omega

theorem Rearranges.apply_pos (h : Rearranges last σ) {k : Nat} (hk : 0 < k) : 0 < σ k := by
  by_contra hzero
  have hfixed : σ k = σ 0 := by
    rw [h 0 (.inl rfl)]
    omega
  exact absurd (σ.injective hfixed) (Nat.ne_of_gt hk)

/-- Nothing is rearranged where there is but one position for it. -/
theorem Rearranges.eq_refl (h : Rearranges 1 σ) : σ = Equiv.refl Nat := by
  ext k
  by_cases hone : k = 1
  · have hle := h.apply_le (Nat.le_of_eq hone)
    have hpos := h.apply_pos (Nat.lt_of_lt_of_eq Nat.one_pos hone.symm)
    simp only [Equiv.refl_apply]
    omega
  · exact h k (by omega)

theorem Rearranges.mono (h : Rearranges last σ) : Rearranges (last + 1) σ :=
  fun k hk => h k (hk.imp_right Nat.lt_of_succ_lt)

/-- A choice for one position more begins with the number for that position. -/
theorem isChoice_succ_iff {choice : List Nat} :
    IsChoice (last + 2) choice ↔
      ∃ r rest, r < last + 2 ∧ IsChoice (last + 1) rest ∧ choice = r :: rest :=
  List.forall₂_cons_right_iff

theorem IsChoice.rearranges {choice : List Nat} (h : IsChoice last choice) :
    Rearranges last (origin last choice) := by
  induction last using positions.induct generalizing choice with
  | case1 => exact fun k _ => rfl
  | case2 => exact fun k _ => rfl
  | case3 last ih =>
      obtain ⟨r, rest, hr, hrest, rfl⟩ := isChoice_succ_iff.mp h
      intro k hk
      have hfixed : origin (last + 1) rest k = k := ih hrest k (hk.imp_right Nat.lt_of_succ_lt)
      rw [origin, Equiv.trans_apply, hfixed]
      apply Equiv.swap_apply_of_ne_of_ne <;> omega

/-- Moving the entry of the last position to where it belongs leaves one position less to
rearrange. -/
theorem Rearranges.peel (h : Rearranges (last + 2) σ) :
    Rearranges (last + 1) (σ.trans (Equiv.swap (last + 2) (σ (last + 2)))) := by
  intro k hk
  rw [Equiv.trans_apply]
  by_cases htop : k = last + 2
  · rw [htop, Equiv.swap_apply_right]
  · have hfixed : σ k = k := h k (by omega)
    rw [hfixed]
    apply Equiv.swap_apply_of_ne_of_ne htop
    intro hsame
    rw [← hfixed] at hsame
    exact htop (σ.injective hsame)

/-- The first number of a choice says where the last entry comes from, and the others say the
rest. -/
theorem origin_cons_eq_iff {r : Nat} {choice : List Nat}
    (hchoice : IsChoice (last + 1) choice) :
    origin (last + 2) (r :: choice) = σ ↔
      1 + r = σ (last + 2) ∧
        origin (last + 1) choice = σ.trans (Equiv.swap (last + 2) (σ (last + 2))) := by
  have htop : origin (last + 2) (r :: choice) (last + 2) = 1 + r := by
    rw [origin, Equiv.trans_apply, hchoice.rearranges (last + 2) (.inr (Nat.lt_succ_self _)),
      Equiv.swap_apply_left]
  constructor
  · rintro rfl
    refine ⟨htop.symm, ?_⟩
    rw [htop]
    ext k
    simp [origin]
  · rintro ⟨hr, hrest⟩
    rw [origin, hrest, hr]
    ext k
    simp

/-- Every rearrangement comes from exactly one choice. -/
theorem Rearranges.existsUnique_choice (h : Rearranges last σ) :
    ∃! choice, IsChoice last choice ∧ origin last choice = σ := by
  induction last using positions.induct generalizing σ with
  | case1 =>
      refine ⟨[], ⟨.nil, h.mono.eq_refl.symm⟩, fun choice hchoice => ?_⟩
      exact List.forall₂_nil_right_iff.mp hchoice.1
  | case2 =>
      refine ⟨[], ⟨.nil, h.eq_refl.symm⟩, fun choice hchoice => ?_⟩
      exact List.forall₂_nil_right_iff.mp hchoice.1
  | case3 last ih =>
      obtain ⟨rest, ⟨hrest, horigin⟩, hunique⟩ := ih h.peel
      have hpos : 0 < σ (last + 2) := h.apply_pos (Nat.zero_lt_succ _)
      have hle : σ (last + 2) ≤ last + 2 := h.apply_le (Nat.le_refl _)
      refine ⟨(σ (last + 2) - 1) :: rest, ⟨?_, ?_⟩, ?_⟩
      · exact isChoice_succ_iff.mpr ⟨_, rest, by omega, hrest, rfl⟩
      · exact (origin_cons_eq_iff hrest).mpr ⟨by omega, horigin⟩
      · rintro choice ⟨hchoice, hsame⟩
        obtain ⟨r, rest', hr, hrest', rfl⟩ := isChoice_succ_iff.mp hchoice
        obtain ⟨hfirst, hothers⟩ := (origin_cons_eq_iff hrest').mp hsame
        rw [hunique rest' ⟨hrest', hothers⟩, ← hfirst, Nat.add_sub_cancel_left]

/-! ## Words for a choice -/

/-- Words given in advance, and zeros after them. -/
def scripted : RandomSource (List Nat) := fun words => (.ofNat (words.headD 0), words.tail)

/-- Words of sixteen bits suffice for lists of up to 65536 entries. -/
theorem chosen_scripted {choice : List Nat} (h : IsChoice last choice) (hlast : last < 0x10000) :
    chosen last (scripted.nextMany16 (last - 1) choice).1 = choice := by
  induction last using positions.induct generalizing choice with
  | case1 => exact (List.forall₂_nil_right_iff.mp h).symm
  | case2 => exact (List.forall₂_nil_right_iff.mp h).symm
  | case3 last ih =>
      obtain ⟨r, rest, hr, hrest, rfl⟩ := isChoice_succ_iff.mp h
      have hword : (scripted.next16 (r :: rest)).1 = r := by
        simp [RandomSource.next16, scripted]
        omega
      have hrecovered : chosen (last + 1) (scripted.nextMany16 last rest).1 = rest :=
        ih hrest (by omega)
      change (scripted.next16 (r :: rest)).1 % (last + 2) ::
        chosen (last + 1) (scripted.nextMany16 last rest).1 = r :: rest
      rw [hword, hrecovered, Nat.mod_eq_of_lt hr]

/-! ## Shuffled lists -/

/-- Whenever the words choose so, the entries of lists of this length are rearranged so: the one
at a position of the result is the one that `σ` says. -/
def Yields (length : Nat) (choice : List Nat) (σ : Equiv.Perm Nat) : Prop :=
  ∀ (W : Type) (source : RandomSource W) (w : W) (l : List UInt8), l.length = length →
    drawn source length w = choice →
    ∀ k, (tail source l w).1[k]? = l[σ k]?

theorem getElem?_tail (l : List UInt8) (w : W) (k : Nat) :
    (tail source l w).1[k]? =
      l[origin (l.length - 1) (drawn source l.length w) k]? := by
  cases l with
  | nil => exact List.getElem?_nil.trans List.getElem?_nil.symm
  | cons head rest =>
      exact getElem?_fromPosition source (Nat.lt_succ_self rest.length) w k

/-- What is drawn for a list is drawn for every list of its length. -/
theorem state_tail (l : List UInt8) (w : W) :
    (tail source l w).2 = (source.nextMany16 (l.length - 2) w).2 :=
  state_fromPosition source (l.length - 1) l w

theorem perm_tail (l : List UInt8) (w : W) : (tail source l w).1.Perm l := by
  cases l with
  | nil => rfl
  | cons head rest => exact perm_fromPosition source (Nat.lt_succ_self rest.length) w

theorem isChoice_chosen (last : Nat) (w : W) :
    IsChoice last (chosen last (source.nextMany16 (last - 1) w).1) := by
  induction last using positions.induct generalizing w with
  | case1 => exact .nil
  | case2 => exact .nil
  | case3 last ih => exact .cons (Nat.mod_lt _ (Nat.zero_lt_succ _)) (ih (source.next16 w).2)

theorem isChoice_drawn (length : Nat) (w : W) : IsChoice (length - 1) (drawn source length w) :=
  isChoice_chosen source (length - 1) w

/-- The first entry comes from its own position. -/
theorem head?_tail (l : List UInt8) (w : W) : (tail source l w).1.head? = l.head? := by
  rw [List.head?_eq_getElem?, List.head?_eq_getElem?, getElem?_tail,
    (isChoice_drawn source l.length w).rearranges 0 (.inl rfl)]

/-- A list in which one position can be told from all others. -/
def marked (length position : Nat) : List UInt8 :=
  (List.range length).map fun k => if k = position then 1 else 0

theorem getElem?_marked_eq_some_one_iff {length position k : Nat} :
    (marked length position)[k]? = some 1 ↔ k = position ∧ k < length := by
  rw [List.getElem?_eq_some_iff]
  simp only [marked, List.getElem_map, List.getElem_range, List.length_map, List.length_range]
  grind

/-- Lists of one length are rearranged as a choice says, and in no other way. -/
theorem yields_iff {n : Nat} {choice : List Nat} (hn : n ≤ 0x10000)
    (hσ : Rearranges (n - 1) σ) (hchoice : IsChoice (n - 1) choice) :
    Yields n choice σ ↔ origin (n - 1) choice = σ := by
  constructor
  · intro hyields
    ext k
    by_cases hk : k < n
    · -- The list that marks the entry for this position shows where it comes from.
      have hle : σ k ≤ n - 1 := hσ.apply_le (by omega)
      have hlength : (marked n (σ k)).length = n := by simp [marked]
      have hwords : drawn scripted n choice = choice := chosen_scripted hchoice (by omega)
      have hmark : (marked n (σ k))[σ k]? = some 1 :=
        getElem?_marked_eq_some_one_iff.mpr ⟨rfl, by omega⟩
      rw [← hyields _ scripted choice _ hlength hwords k, getElem?_tail, hlength, hwords] at hmark
      exact (getElem?_marked_eq_some_one_iff.mp hmark).1
    · have hfixed : k = 0 ∨ n - 1 < k := by omega
      rw [hσ k hfixed, hchoice.rearranges k hfixed]
  · rintro rfl W source w l rfl rfl k
    exact getElem?_tail source l w k

/-- Shuffling is complete: it rearranges the entries of a list after the first, for which it
draws a word for each entry but two; and for lists of up to 65536 entries each rearrangement
comes from exactly one choice of remainders, and from some words. -/
theorem shuffles_completely {n : Nat} (hn : n ≤ 0x10000) :
    (∀ (W : Type) (source : RandomSource W) (w : W) (l : List UInt8), l.length = n →
      (tail source l w).1.Perm l ∧ (tail source l w).1.head? = l.head? ∧
        (tail source l w).2 = (source.nextMany16 (n - 2) w).2) ∧
    ∀ σ, Rearranges (n - 1) σ →
      (∃! choice, IsChoice (n - 1) choice ∧ Yields n choice σ) ∧
      ∃ (W : Type) (source : RandomSource W) (w : W), ∀ l : List UInt8, l.length = n →
        ∀ k, (tail source l w).1[k]? = l[σ k]? := by
  refine ⟨?_, fun σ hσ => ?_⟩
  · rintro W source w l rfl
    exact ⟨perm_tail source l w, head?_tail source l w, state_tail source l w⟩
  · obtain ⟨choice, ⟨hchoice, horigin⟩, hunique⟩ := hσ.existsUnique_choice
    have hyields := (yields_iff hn hσ hchoice).mpr horigin
    refine ⟨⟨choice, ⟨hchoice, hyields⟩, fun other hother => ?_⟩, ?_⟩
    · exact hunique other ⟨hother.1, (yields_iff hn hσ hother.1).mp hother.2⟩
    · refine ⟨_, scripted, choice, fun l hl => ?_⟩
      apply hyields _ scripted choice l hl
      exact chosen_scripted hchoice (by omega)

/-- Some words bring four channels into the order that exchanges the second and the last. -/
theorem shuffles_completely_four :
    4 ≤ 0x10000 ∧ Rearranges 3 (Equiv.swap 1 3) ∧
      ∃ (W : Type) (source : RandomSource W) (w : W),
        (tail source [0x10, 0x12, 0x20, 0x22] w).1 = [0x10, 0x22, 0x20, 0x12] := by
  have hfour : 4 ≤ 0x10000 := by decide
  have hswap : Rearranges 3 (Equiv.swap 1 3) := by
    intro k hk
    apply Equiv.swap_apply_of_ne_of_ne <;> omega
  obtain ⟨-, W, source, w, hreached⟩ := (shuffles_completely hfour).2 _ hswap
  refine ⟨hfour, hswap, W, source, w, List.ext_getElem? fun k => ?_⟩
  rw [hreached _ rfl k]
  match k with
  | 0 | 1 | 2 | 3 => rfl
  | k + 4 => simp [hswap (k + 4) (.inr (by omega))]

end Shuffle

end Mode2
